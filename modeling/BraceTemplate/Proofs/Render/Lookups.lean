import Mathlib.Data.List.Forall2
import BraceTemplate.Proofs.Reading.Spelling
import BraceTemplate.Proofs.Render.Likeness
import BraceTemplate.Proofs.Text.Splitting

/-!
# What a name stands for

A template goes down an identifier step by step, and host code hands over a path that is written
with dots, or its keys. Both find the same: the text of an identifier without brackets is split into
just the keys that the template goes down, and what stands in brackets is a key by its text.
-/

namespace BraceTemplate

open Reading

def PathSegment.isNamed : PathSegment → Bool
  | .key _ => true
  | _ => false

/-- Whether an identifier is written without brackets. -/
def Identifier.isDotted : Identifier → Bool
  | .key _ => true
  | .path _ segments => segments.all PathSegment.isNamed

namespace PathSegment

theorem exists_names {segments : List PathSegment} (named : segments.all isNamed = true) :
    ∃ names : List String, segments = names.map key := by
  induction segments with
  | nil => exact ⟨[], rfl⟩
  | cons segment more inductionHypothesis =>
      simp only [List.all_cons, Bool.and_eq_true] at named
      obtain ⟨names, rfl⟩ := inductionHypothesis named.2
      cases segment with
      | key name => exact ⟨name :: names, rfl⟩
      | index digits => cases named.1
      | lookup inner => cases named.1

theorem areReadable_names {names : List String} (readable : areReadable (names.map key) = true) :
    ∀ name ∈ names, isKey name = true := by
  induction names with
  | nil => simp
  | cons name more inductionHypothesis =>
      simp only [List.map_cons, areReadable, Bool.and_eq_true] at readable
      exact List.forall_mem_cons.mpr ⟨readable.1, inductionHypothesis readable.2⟩

theorem textOfRest_names (name : String) (names : List String) :
    name ++ textOfRest (names.map key) = ".".intercalate (name :: names) := by
  induction names generalizing name with
  | nil => simp [textOfRest]
  | cons next more inductionHypothesis =>
      rw [List.map_cons, textOfRest, String.intercalate_cons_cons, ← inductionHypothesis next]
      simp only [String.append_assoc]

theorem textOfFirst_names (names : List String) :
    textOfFirst (names.map key) = ".".intercalate names := by
  cases names with
  | nil => rfl
  | cons name more => exact textOfRest_names name more

end PathSegment

theorem Reading.dot_not_mem_of_isKey {name : String} (spelled : isKey name = true) :
    '.' ∉ name.toList := by
  obtain ⟨first, more, letters, starts, goesOn⟩ := exists_of_isKey spelled
  rw [letters]
  rintro (_ | ⟨_, inside⟩)
  · cases starts
  · cases goesOn '.' inside

namespace Context

theorem keys_intercalate {names : List String} (spelled : ∀ name ∈ names, isKey name = true) :
    (if (".".intercalate names).isEmpty then [] else (".".intercalate names).splitOn ".") =
      names := by
  cases names with
  | nil => rfl
  | cons name more =>
      obtain ⟨first, others, letters, -⟩ := exists_of_isKey (spelled name List.mem_cons_self)
      have filled : (".".intercalate (name :: more)).isEmpty = false := by
        rw [← PathSegment.textOfRest_names, ← Bool.not_eq_true, String.isEmpty_iff,
          ← String.toList_inj, String.toList_append, letters]
        exact List.cons_ne_nil _ _
      rw [filled, if_neg Bool.false_ne_true]
      exact Text.splitOn_intercalate (List.cons_ne_nil _ _) fun piece member =>
        dot_not_mem_of_isKey (spelled piece member)

theorem pathParts_relative {names : List String} (spelled : ∀ name ∈ names, isKey name = true) :
    pathParts ("." ++ ".".intercalate names) = (true, names) := by
  have letters : ("." ++ ".".intercalate names).toList =
      '.' :: (".".intercalate names).toList := by
    rw [String.toList_append]
    rfl
  simp only [pathParts, letters, String.ofList_toList, keys_intercalate spelled]

theorem pathParts_absolute {names : List String} (filled : names ≠ [])
    (spelled : ∀ name ∈ names, isKey name = true) :
    pathParts (".".intercalate names) = (false, names) := by
  obtain ⟨name, more, rfl⟩ := List.exists_cons_of_ne_nil filled
  obtain ⟨first, others, letters, starts, -⟩ := exists_of_isKey (spelled name List.mem_cons_self)
  have noDot : first ≠ '.' := by
    rintro rfl
    cases starts
  have text : (".".intercalate (name :: more)).toList =
      first :: (others ++ (PathSegment.textOfRest (more.map .key)).toList) := by
    rw [← PathSegment.textOfRest_names, String.toList_append, letters, List.cons_append]
  unfold pathParts
  rw [text]
  split
  next relative keys parted =>
    split at parted
    next dotted =>
      cases dotted
      contradiction
    next =>
      cases parted
      rw [keys_intercalate spelled]

section Steps

variable {context : Context} {segments : List PathSegment} {keys : List String}

/-- The key that a step of a path stands for: its name, its digits, or the text of what is found
for the name in brackets. -/
inductive StandsFor (context : Context) : PathSegment → String → Prop
  | key (name : String) : StandsFor context (.key name) name
  | index (digits : String) : StandsFor context (.index digits) digits
  | lookup {inner : Identifier} {value : Value} (found : context.resolve? inner = some value) :
      StandsFor context (.lookup inner) value.display

theorem resolveKeys?_eq_some (stand : List.Forall₂ context.StandsFor segments keys) :
    context.resolveKeys? segments = some keys := by
  induction stand with
  | nil => rfl
  | cons step _ inductionHypothesis =>
      cases step with
      | key name => rw [resolveKeys?, inductionHypothesis, Option.map_some]
      | index digits => rw [resolveKeys?, inductionHypothesis, Option.map_some]
      | lookup found =>
          rw [resolveKeys?, found, inductionHypothesis]
          rfl

theorem resolveKeys?_names (names : List String) :
    context.resolveKeys? (names.map .key) = some names :=
  resolveKeys?_eq_some (List.forall₂_map_left_iff.mpr (List.forall₂_same.mpr fun name _ =>
    .key name))

theorem resolveKeys?_eq_none {inner : Identifier} (inside : .lookup inner ∈ segments)
    (missing : context.resolve? inner = none) : context.resolveKeys? segments = none := by
  induction segments with
  | nil => cases inside
  | cons segment more inductionHypothesis =>
      rcases List.mem_cons.mp inside with rfl | behind
      · rw [resolveKeys?, missing]
      · have later := inductionHypothesis behind
        cases segment with
        | key name => rw [resolveKeys?, later, Option.map_none]
        | index digits => rw [resolveKeys?, later, Option.map_none]
        | lookup other =>
            rw [resolveKeys?, later]
            cases context.resolve? other <;> rfl

theorem exists_standsFor (resolves : ∀ inner, .lookup inner ∈ segments →
    (context.resolve? inner).isSome = true) :
    ∃ keys, List.Forall₂ context.StandsFor segments keys := by
  induction segments with
  | nil => exact ⟨[], .nil⟩
  | cons segment more inductionHypothesis =>
      obtain ⟨keys, stand⟩ := inductionHypothesis fun inner behind =>
        resolves inner (.tail _ behind)
      cases segment with
      | key name => exact ⟨name :: keys, .cons (.key name) stand⟩
      | index digits => exact ⟨digits :: keys, .cons (.index digits) stand⟩
      | lookup inner =>
          obtain ⟨value, found⟩ := Option.isSome_iff_exists.mp (resolves inner List.mem_cons_self)
          exact ⟨value.display :: keys, .cons (.lookup found) stand⟩

theorem resolve?_path (context : Context) (relative : Bool) (segments : List PathSegment) :
    context.resolve? (.path relative segments) =
      (context.resolveKeys? segments).bind (context.getPath? relative) := by
  rw [resolve?]
  cases context.resolveKeys? segments <;> rfl

end Steps

theorem resolve?_dotted (context : Context) {identifier : Identifier}
    (readable : identifier.isReadable = true) (dotted : identifier.isDotted = true) :
    context.resolve? identifier = context.get? identifier.text := by
  match identifier, readable, dotted with
  | .key name, readable, _ =>
      have spelled : ∀ other ∈ [name], isKey other = true := List.forall_mem_singleton.mpr readable
      have parts := pathParts_absolute (List.cons_ne_nil name []) spelled
      rw [String.intercalate_singleton] at parts
      rw [get?_eq, Identifier.text, parts, resolve?]
  | .path true segments, readable, dotted =>
      obtain ⟨names, rfl⟩ := PathSegment.exists_names dotted
      have spelled := PathSegment.areReadable_names readable
      rw [resolve?_path, resolveKeys?_names, get?_eq, Identifier.text,
        PathSegment.textOfFirst_names, if_pos rfl, pathParts_relative spelled, Option.bind_some]
  | .path false (.key name :: segments), readable, dotted =>
      simp only [Identifier.isReadable, Bool.and_eq_true] at readable
      obtain ⟨names, rfl⟩ := PathSegment.exists_names
        (by simpa [Identifier.isDotted, PathSegment.isNamed] using dotted)
      have spelled : ∀ other ∈ name :: names, isKey other = true :=
        List.forall_mem_cons.mpr ⟨readable.1, PathSegment.areReadable_names readable.2.2⟩
      have parts := pathParts_absolute (List.cons_ne_nil name names) spelled
      rw [← List.map_cons, resolve?_path, resolveKeys?_names, get?_eq, Identifier.text,
        PathSegment.textOfFirst_names, if_neg Bool.false_ne_true, String.empty_append, parts,
        Option.bind_some]

/-- An identifier without brackets that is read somewhere stands for what its text stands for to
host code: a key, a path from a key on, and a relative path, be it a bare dot. Any path stands for
what its keys stand for, with a key for each name in brackets; and for nothing where a name in
brackets stands for nothing, else it has such keys. -/
theorem resolve?_agrees (context : Context) (identifier : Identifier) :
    (∀ start after, identifier? start = some (identifier, after) →
      identifier.isDotted = true →
        context.resolve? identifier = context.get? identifier.text) ∧
    ∀ relative segments, identifier = .path relative segments →
      (∀ keys, List.Forall₂ context.StandsFor segments keys →
        context.resolve? identifier = context.getPath? relative keys) ∧
      (∀ inner, .lookup inner ∈ segments → context.resolve? inner = none →
        context.resolve? identifier = none) ∧
      ((∀ inner, .lookup inner ∈ segments → (context.resolve? inner).isSome = true) →
        ∃ keys, List.Forall₂ context.StandsFor segments keys) := by
  refine ⟨?_, ?_⟩
  · intro start after read dotted
    exact context.resolve?_dotted (isReadable_iff.mpr ⟨start, after, read⟩) dotted
  · rintro relative segments rfl
    refine ⟨?_, ?_, exists_standsFor⟩
    · intro keys stand
      rw [resolve?_path, resolveKeys?_eq_some stand, Option.bind_some]
    · intro inner inside missing
      rw [resolve?_path, resolveKeys?_eq_none inside missing, Option.bind_none]

/-- With `b` in brackets for the key `c`, the bare dot, and a name in brackets that is missing. -/
theorem resolve?_agrees_bracketed :
    let data : Value := .object [("a", .object [("c", .bool true)]), ("b", .string "c")]
    let bare : Identifier := .path true []
    let found : Identifier := .path false [.key "a", .lookup (.key "b")]
    let lost : Identifier := .path true [.lookup (.key "d"), .index "0"]
    (ofValue data).resolve? bare = (ofValue data).get? "." ∧
      (ofValue data).resolve? found = (ofValue data).getPath? false ["a", "c"] ∧
      (ofValue data).resolve? found = some (.bool true) ∧
      (ofValue data).resolve? lost = none := by
  intro data bare found lost
  have read : ∃ after, identifier? (Source.Cursor.ofString ".") = some (bare, after) :=
    ⟨_, rfl⟩
  obtain ⟨after, read⟩ := read
  have keys : List.Forall₂ (ofValue data).StandsFor [.key "a", .lookup (.key "b")] ["a", "c"] :=
    .cons (.key "a") (.cons (@StandsFor.lookup _ (.key "b") (.string "c") rfl) .nil)
  refine ⟨?_, ?_, rfl, ?_⟩
  · exact ((ofValue data).resolve?_agrees bare).1 _ after read rfl
  · exact (((ofValue data).resolve?_agrees found).2 _ _ rfl).1 _ keys
  · exact (((ofValue data).resolve?_agrees lost).2 _ _ rfl).2.1 _ List.mem_cons_self rfl

end Context

end BraceTemplate
