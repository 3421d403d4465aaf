import BraceTemplate.Proofs.Render.FirstMatch
import BraceTemplate.Proofs.Render.Lookups
import BraceTemplate.Proofs.Text.Delimiters
import BraceTemplate.Proofs.Text.Escapes
import BraceTemplate.Proofs.Text.Literals

/-!
# Lengths

The helper that writes sizes and the last step of a path count what a key stands for. Both count
the items of an array. Of a text that is no number of its own the helper counts units of sixteen
bits and the path characters, so that they agree exactly where no character takes two units.
-/

namespace BraceTemplate

namespace Text

/-- A character that takes two units. -/
def isWide (char : Char) : Bool :=
  0x10000 ≤ char.toNat

theorem unitsOfChar_eq (char : Char) : unitsOfChar char = 1 + if isWide char then 1 else 0 := by
  unfold unitsOfChar isWide
  by_cases narrow : char.toNat < 0x10000
  · simp [narrow]
  · simp [narrow, Nat.le_of_not_lt narrow]

/-- There is one unit for each character, and one more for each wide one. -/
theorem units_eq (text : String) : units text = text.length + text.toList.countP isWide := by
  have counted : ∀ (chars : List Char) (before : Nat),
      chars.foldl (fun units char => units + unitsOfChar char) before =
        before + chars.length + chars.countP isWide := by
    intro chars
    induction chars with
    | nil => simp
    | cons first rest inductionHypothesis =>
        intro before
        rw [List.foldl_cons, inductionHypothesis, unitsOfChar_eq, List.length_cons,
          List.countP_cons]
        omega
  rw [units, counted, Nat.zero_add, String.length_toList]

theorem units_eq_length_iff (text : String) :
    units text = text.length ↔ ∀ char ∈ text.toList, isWide char = false := by
  rw [units_eq, Nat.add_eq_left, List.countP_eq_zero]
  simp only [Bool.not_eq_true]

end Text

/-- Different numbers have different digits. -/
theorem toString_eq_iff (first second : Nat) :
    toString first = toString second ↔ first = second := by
  refine ⟨fun same => ?_, congrArg toString⟩
  rw [Nat.toString_eq_ofList_toDigits, Nat.toString_eq_ofList_toDigits, String.ofList_inj] at same
  rw [← @Nat.ofDigitChars_ten_toDigits first, same, Nat.ofDigitChars_ten_toDigits]

namespace Filter

/-- Digits stand for themselves under an encoder that keeps them. -/
theorem encoded_digits {encode : Char → List Char} (value : Nat)
    (keeps : ∀ char, char.isDigit = true → encode char = [char]) :
    String.ofList ((toString value).toList.flatMap encode) = toString value := by
  have digits : ∀ char ∈ (toString value).toList, encode char = [char] := by
    rw [Nat.toString_eq_ofList_toDigits, String.toList_ofList]
    exact fun char member =>
      keeps char (Nat.isDigit_of_mem_toDigits (by decide) (by decide) member)
  rw [List.flatMap_congr digits, List.flatMap_singleton', String.ofList_toList]

/-- The filters that every engine starts with write a length as it is. -/
theorem display_standard (value : Nat) :
    ∀ entry ∈ standard, (entry.2 (Value.ofNat value)).display = toString value := by
  refine Members.forall_mem_ofList ?_
  simp only [List.forall_mem_cons, List.not_mem_nil, false_imp_iff, implies_true, and_true]
  refine ⟨?_, ?_, ?_, ?_, ?_, ?_⟩
  · exact (Text.Html.escape_eq _).trans (encoded_digits value fun char digit =>
      Text.Html.escapeChar_of_not_special (Text.not_mem_of_apart Char.isDigit digit (by decide)))
  · exact encoded_digits value fun char digit => Text.ScriptString.escapeChar_of_not_special
      (Text.not_mem_of_apart Char.isDigit digit (by decide))
  · exact encoded_digits value fun char digit =>
      Text.Percent.encodeChar_of_kept (by simp [Text.Percent.isUnreserved, Char.isAlphanum, digit])
  · exact encoded_digits value fun char digit =>
      Text.Percent.encodeChar_of_kept (by simp [Text.Percent.isUnreserved, Char.isAlphanum, digit])
  · rfl
  · rfl

/-- A length that goes through the automatic filter alone is written as it is, as long as the engine
has under its name what it started with. -/
theorem applyChain_ofNat {filters : Members Filter} {auto : Option String}
    (kept : ∀ name ∈ auto, filters.find? name = standard.find? name) (value : Nat) :
    applyChain filters ⟨[], auto⟩ (Value.ofNat value) = toString value := by
  cases auto with
  | none => rfl
  | some name =>
      change (applyNamed filters name (Value.ofNat value)).display = toString value
      rw [applyNamed, kept name rfl]
      cases found : standard.find? name with
      | none => rfl
      | some filter => exact display_standard value _ (Members.mem_of_find? found)

end Filter

def Identifier.child (name : String) : Identifier → Identifier
  | key first => path false [.key first, .key name]
  | path relative segments => path relative (segments ++ [.key name])

namespace Context

variable {context : Context}

theorem resolveKeys?_concat (segments : List PathSegment) (name : String) :
    context.resolveKeys? (segments ++ [.key name]) =
      (context.resolveKeys? segments).map (· ++ [name]) := by
  induction segments with
  | nil => rfl
  | cons segment more inductionHypothesis =>
      cases segment with
      | key first => simp [resolveKeys?, inductionHypothesis, Function.comp_def]
      | index digits => simp [resolveKeys?, inductionHypothesis, Function.comp_def]
      | lookup inner =>
          simp only [List.cons_append, resolveKeys?, inductionHypothesis]
          cases context.resolve? inner <;> simp [Function.comp_def]

theorem getPath?_concat {relative : Bool} {keys : List String} {value : Value}
    (found : context.getPath? relative keys = some value) (name : String) :
    context.getPath? relative (keys ++ [name]) = value.child? name := by
  cases keys with
  | nil =>
      cases relative with
      | false => cases found
      | true =>
          change context.current?.bind (fun head => head.child? name) = _
          rw [show context.current? = some value from found, Option.bind_some]
  | cons first rest =>
      simp only [getPath?, descend?] at found
      simp only [getPath?, descend?, List.cons_append, List.foldl_append, found]
      rfl

theorem resolve?_child {identifier : Identifier} {value : Value}
    (found : context.resolve? identifier = some value) (name : String) :
    context.resolve? (identifier.child name) = value.child? name := by
  cases identifier with
  | key first =>
      rw [resolve?] at found
      exact getPath?_concat found name
  | path relative segments =>
      rw [resolve?_path] at found
      obtain ⟨keys, stand, reached⟩ := Option.bind_eq_some_iff.mp found
      rw [Identifier.child, resolve?_path, resolveKeys?_concat, stand]
      exact getPath?_concat reached name

end Context

namespace Render

open Output

section Sizes

variable {program : Program} {context : Context}

/-- Whether a step does no more, and no less, than to write a text. -/
def StepWrites (program : Program) (context : Context)
    (store : Store Continuation Observer State) (op : Op) (text : String) : Prop :=
  ∀ calls writer, runOp calls program context writer op store =
    (do pure (.ok (← writer.write text)) : Action (Except RenderError Writer)) store

/-- A helper tag that asks for the size of what an identifier stands for. -/
def sizeTag (name : String) (identifier : Identifier) (entries : NamedBodies) : Op :=
  .helper name none [("key", .identifier identifier)] entries

/-- A reference to the length of what an identifier stands for, without filters of its own. -/
def lengthTag (identifier : Identifier) (auto : Option String) : Op :=
  .reference (identifier.child "length") ⟨[], auto⟩

variable {store : Store Continuation Observer State} {identifier : Identifier} {value : Value}

theorem stepWrites_sizeTag {name : String}
    (helps : store.client.engine.helpers.find? name = some (.builtin .size))
    (found : context.resolve? identifier = some value) (plain : value.isFunction = false)
    (entries : NamedBodies) :
    StepWrites program context store (sizeTag name identifier entries) (sizeText (some value)) := by
  intro calls writer
  have evaluated : params program context [("key", .identifier identifier)] = [("key", value)] := by
    simp [params, paramValue?, found, Members.ofList, Members.insert]
  have resolved : resolveParam? calls [("key", value)] "key" writer context =
      pure (some value) := by
    cases value with
    | function called => cases plain
    | _ => rfl
  rw [sizeTag, runOp_helper helps, evaluated]
  simp only [runHelper, runBuiltin, runSize, Context.forBodies, resolved, pure_bind, bind_assoc,
    afterHelper]

theorem stepWrites_lengthTag {auto : Option String} {length : Nat}
    (kept : ∀ name ∈ auto, store.client.engine.filters.find? name = Filter.standard.find? name)
    (found : context.resolve? identifier = some value)
    (counts : value.child? "length" = some (Value.ofNat length)) :
    StepWrites program context store (lengthTag identifier auto) (toString length) := by
  intro calls writer
  have reached : context.resolve? (identifier.child "length") = some (Value.ofNat length) :=
    (Context.resolve?_child found "length").trans counts
  have looked : engine store = some (store.client.engine, store) := rfl
  have written : renderReference calls writer context (identifier.child "length") ⟨[], auto⟩ store =
      writer.write (toString length) store := by
    rw [renderReference, reached]
    change (engine >>= fun engine =>
      writer.write (Filter.applyChain engine.filters ⟨[], auto⟩ (Value.ofNat length))) store = _
    rw [run_bind, looked, Option.bind_some, Filter.applyChain_ofNat kept]
  simp only [lengthTag, runOp, run_bind, written]

/-- Whether a text reads as a finite number, which is then its own size. -/
def ReadsAsNumber (text : String) : Prop :=
  ∃ value, Numeral.readDouble? (Text.trim text.toList) = some value ∧ value.isFinite = true

theorem sizeText_string {text : String} (unread : ¬ReadsAsNumber text) :
    sizeText (some (.string text)) = toString (Text.units text) := by
  unfold sizeText
  by_cases hasNone : text.isEmpty = true
  · rw [String.isEmpty_iff] at hasNone
    subst hasNone
    rfl
  · simp only [hasNone, Bool.false_eq_true, if_false]
    cases read : Numeral.readDouble? (Text.trim text.toList) with
    | none => rfl
    | some value =>
        have infinite : ¬value.isFinite = true := fun isFinite => unread ⟨value, read, isFinite⟩
        simp only [infinite, Bool.false_eq_true, if_false]

/-- Of an array the helper for sizes and a reference to the length write the same, and of a text
that reads as no finite number the one writes how many units and the other how many characters it
has. These are the same exactly where no character takes two units. -/
theorem sizes_and_lengths {name : String} {auto : Option String}
    (helps : store.client.engine.helpers.find? name = some (.builtin .size))
    (kept : ∀ name ∈ auto, store.client.engine.filters.find? name = Filter.standard.find? name)
    (identifier : Identifier) (entries : NamedBodies) :
    (∀ items, context.resolve? identifier = some (.array items) →
      StepWrites program context store (sizeTag name identifier entries)
          (toString items.length) ∧
        StepWrites program context store (lengthTag identifier auto) (toString items.length)) ∧
    ∀ text, context.resolve? identifier = some (.string text) → ¬ReadsAsNumber text →
      StepWrites program context store (sizeTag name identifier entries)
          (toString (Text.units text)) ∧
        StepWrites program context store (lengthTag identifier auto) (toString text.length) ∧
        (toString (Text.units text) = toString text.length ↔
          ∀ char ∈ text.toList, Text.isWide char = false) := by
  refine ⟨fun items found => ⟨?_, ?_⟩, fun text found unread => ⟨?_, ?_, ?_⟩⟩
  · exact stepWrites_sizeTag helps found rfl entries
  · exact stepWrites_lengthTag kept found rfl
  · rw [← sizeText_string unread]
    exact stepWrites_sizeTag helps found rfl entries
  · exact stepWrites_lengthTag kept found rfl
  · rw [toString_eq_iff, Text.units_eq_length_iff]

end Sizes

/-- An array of two items and a text of two characters, with the filter for documents. -/
theorem sizes_and_lengths_two :
    let data : Json := .object [("items", .array [.null, .null]), ("text", .string "né")]
    let context : Context := .ofValue (.ofJson data)
    StepWrites branching context selecting (sizeTag "size" (.key "items") []) "2" ∧
      StepWrites branching context selecting (lengthTag (.key "items") (some "h")) "2" ∧
      StepWrites branching context selecting (sizeTag "size" (.key "text") []) "2" ∧
      StepWrites branching context selecting (lengthTag (.key "text") (some "h")) "2" := by
  intro data context
  have helps : selecting.client.engine.helpers.find? "size" = some (.builtin .size) := rfl
  have kept : ∀ name ∈ some "h",
      selecting.client.engine.filters.find? name = Filter.standard.find? name := fun _ _ => rfl
  have unread : ¬ReadsAsNumber "né" := by
    rintro ⟨value, read, -⟩
    cases read
  have isArray : context.resolve? (.key "items") = some (.array [.null, .null]) := rfl
  have isText : context.resolve? (.key "text") = some (.string "né") := rfl
  obtain ⟨size, length⟩ := (sizes_and_lengths helps kept (.key "items") []).1 _ isArray
  obtain ⟨units, chars, -⟩ := (sizes_and_lengths helps kept (.key "text") []).2 _ isText unread
  exact ⟨size, length, units, chars⟩

/-- A text of one character that takes two units. -/
theorem sizes_and_lengths_wide :
    let data : Json := .object [("k", .string "😀")]
    textAlone? "\x7b@size key=k/\x7d" data = some "2" ∧
      textAlone? "\x7bk.length\x7d" data = some "1" := by
  decide +kernel

end Render

end BraceTemplate
