import Mathlib.Data.List.Basic
import BraceTemplate.Json.Parser
import BraceTemplate.Json.Printer
import BraceTemplate.Proofs.Render.Histories
import BraceTemplate.Proofs.Text.Escapes

/-!
# Compact JSON texts are read back

A JSON value whose numbers are whole and whose members are in order is read back from its compact
text, as long as it nests no deeper than readers follow. Each kind of text is read up to its end,
whatever stands behind it, unless that would go on with a number.
-/

namespace BraceTemplate

/-! ## Members in order -/

namespace Members

variable {Held : Type} {members : Members Held}

/-- What comes behind all keys is put at the end. -/
theorem insert_of_forall_lt {key : String} (added : Held)
    (below : ∀ entry ∈ members, entry.1 < key) :
    members.insert key added = members ++ [(key, added)] := by
  induction members with
  | nil => rfl
  | cons first rest inductionHypothesis =>
      obtain ⟨other, held⟩ := first
      have less : other < key := below (other, held) List.mem_cons_self
      have different : key ≠ other := by
        rintro rfl
        exact String.lt_irrefl _ less
      rw [insert, if_neg different, if_neg (String.lt_asymm less),
        inductionHypothesis fun entry member => below entry (List.mem_cons_of_mem _ member)]
      rfl

theorem foldl_insert_of_ascend (gathered rest : Members Held) (ascend : (gathered ++ rest).Ascend) :
    rest.foldl (fun members entry => members.insert entry.1 entry.2) gathered =
      gathered ++ rest := by
  induction rest generalizing gathered with
  | nil => exact (List.append_nil gathered).symm
  | cons first others inductionHypothesis =>
      have below : ∀ entry ∈ gathered, entry.1 < first.1 := fun entry member =>
        (List.pairwise_append.mp ascend).2.2 entry member first List.mem_cons_self
      have split : gathered ++ first :: others = gathered ++ [first] ++ others := by simp
      rw [List.foldl_cons, insert_of_forall_lt first.2 below, split]
      exact inductionHypothesis _ (split ▸ ascend)

/-- Members in order stay as they are. -/
theorem ofList_of_ascend (ascend : members.Ascend) : ofList members = members :=
  foldl_insert_of_ascend [] members ascend

end Members

namespace Json

/-- JSON values that nest at most so deep, whose numbers are whole, and whose members are in order.
-/
inductive Exact : Nat → Json → Prop
  | null {depth : Nat} : Exact depth null
  | bool {depth : Nat} (value : Bool) : Exact depth (bool value)
  | number {depth : Nat} {value : Int} (fits : Number.isWhole value = true) :
      Exact depth (number (.whole value))
  | string {depth : Nat} (text : String) : Exact depth (string text)
  | array {depth : Nat} {items : List Json} (each : ∀ item ∈ items, Exact depth item) :
      Exact (depth + 1) (array items)
  | object {depth : Nat} {members : List (String × Json)} (ascend : Members.Ascend members)
      (each : ∀ entry ∈ members, Exact depth entry.2) : Exact (depth + 1) (object members)

def Ends (rest : List Char) : Prop :=
  ∀ char ∈ rest.head?, char ∈ [',', ']', '\x7d']

theorem ends_cons {char : Char} (closes : char ∈ [',', ']', '\x7d']) (rest : List Char) :
    Ends (char :: rest) := by
  rintro other ⟨⟩
  exact closes

/-! ## Quoted texts -/

theorem hexValue?_hexDigit {value : Nat} (small : value < 16) :
    hexValue? (hexDigit value) = some value := by
  have each : ∀ value < 16, hexValue? (hexDigit value) = some value := by decide
  exact each value small

theorem readUnicode?_control {char : Char} (control : char.toNat < 0x20) (rest : List Char) :
    readUnicode? ('0' :: '0' :: hexDigit (char.toNat / 16) :: hexDigit (char.toNat % 16) :: rest) =
      some (char, rest) := by
  have high : hexValue? (hexDigit (char.toNat / 16)) = some (char.toNat / 16) :=
    hexValue?_hexDigit (by omega)
  have low : hexValue? (hexDigit (char.toNat % 16)) = some (char.toNat % 16) :=
    hexValue?_hexDigit (by omega)
  have zero : hexValue? '0' = some 0 := rfl
  have unit : ((0 * 16 + 0) * 16 + char.toNat / 16) * 16 + char.toNat % 16 = char.toNat := by omega
  have notUpper : (decide (0xD800 ≤ char.toNat) && decide (char.toNat < 0xDC00)) = false := by
    simp only [Bool.and_eq_false_iff, decide_eq_false_iff_not]
    omega
  have notLower : (decide (0xDC00 ≤ char.toNat) && decide (char.toNat < 0xE000)) = false := by
    simp only [Bool.and_eq_false_iff, decide_eq_false_iff_not]
    omega
  simp only [readUnicode?, readUnit?, zero, high, low, unit, notUpper, notLower,
    Option.bind_eq_bind, Option.bind_some, Option.pure_def, Bool.false_eq_true, if_false,
    Char.ofNat_toNat]

/-- What is written for a character is read as this character, in one step. -/
theorem readQuoted?_escapeChar (fuel : Nat) (done : List Char) (char : Char) (rest : List Char) :
    readQuoted? (fuel + 1) done (escapeChar char ++ rest) =
      readQuoted? fuel (char :: done) rest := by
  unfold escapeChar
  split_ifs with quote backslash backspace formFeed lineFeed carriageReturn tab control
  · subst quote; rfl
  · subst backslash; rfl
  · subst backspace; rfl
  · subst formFeed; rfl
  · subst lineFeed; rfl
  · subst carriageReturn; rfl
  · subst tab; rfl
  · simp [readQuoted?, readEscape?, readUnicode?_control control]
  · simp [readQuoted?, quote, backslash, control]

theorem readQuoted?_escaped (chars done rest : List Char) {fuel : Nat}
    (enough : chars.length < fuel) :
    readQuoted? fuel done (chars.flatMap escapeChar ++ '"' :: rest) =
      some (String.ofList (done.reverse ++ chars), rest) := by
  induction chars generalizing fuel done with
  | nil =>
      obtain ⟨less, rfl⟩ := Nat.exists_eq_add_of_lt enough
      simp [readQuoted?]
  | cons first others inductionHypothesis =>
      obtain ⟨less, rfl⟩ : ∃ less, fuel = less + 1 := ⟨fuel - 1, by grind⟩
      rw [List.flatMap_cons, List.append_assoc, readQuoted?_escapeChar,
        inductionHypothesis _ (by grind)]
      simp

theorem length_escapeChar_pos (char : Char) : 0 < (escapeChar char).length := by
  unfold escapeChar
  split_ifs <;> simp

theorem length_le_length_escaped (chars : List Char) :
    chars.length ≤ (chars.flatMap escapeChar).length := by
  induction chars with
  | nil => simp
  | cons first others inductionHypothesis =>
      have one := length_escapeChar_pos first
      rw [List.flatMap_cons, List.length_cons, List.length_append]
      omega

theorem toList_quote (text : String) :
    (quote text).toList = '"' :: (text.toList.flatMap escapeChar ++ ['"']) := by
  simp [quote]

/-- A quoted text is read from behind its opening quote. -/
theorem readQuoted?_quote (text : String) (rest : List Char) :
    let inner := text.toList.flatMap escapeChar ++ '"' :: rest
    readQuoted? (inner.length + 1) [] inner = some (text, rest) := by
  intro inner
  have enough : text.toList.length < inner.length + 1 := by
    have whole := length_le_length_escaped text.toList
    rw [List.length_append]
    omega
  rw [readQuoted?_escaped _ _ _ enough]
  simp

/-! ## Numbers -/

theorem natOfDigits_toDigits (value : Nat) :
    Numeral.natOfDigits (Nat.toDigits 10 value) = value := by
  have read : Nat.ofDigitChars 10 (Nat.toDigits 10 value) 0 = value :=
    Nat.ofDigitChars_ten_toDigits
  rw [Nat.ofDigitChars_eq_foldl] at read
  simpa only [Numeral.natOfDigits, Nat.mul_comm] using read

/-- The digits of a number that is not zero start with one that is not. -/
theorem head?_toDigits_ne_zero {value : Nat} (positive : 0 < value) :
    (Nat.toDigits 10 value).head? ≠ some '0' := by
  induction value using Nat.strongRecOn with
  | ind value inductionHypothesis =>
      rw [Nat.toDigits_eq_if (by decide)]
      split
      · have each : ∀ digit < 10, 0 < digit → [Nat.digitChar digit].head? ≠ some '0' := by decide
        exact each value ‹_› positive
      · rw [List.head?_append_of_ne_nil _ Nat.toDigits_ne_nil]
        exact inductionHypothesis (value / 10) (by omega) (by omega)

theorem readWhole?_of_head?_ne {text : List Char} (notZero : text.head? ≠ some '0') :
    readWhole? text =
      if (text.takeWhile Char.isDigit).isEmpty then none
      else some (text.takeWhile Char.isDigit, text.dropWhile Char.isDigit) := by
  unfold readWhole?
  split
  · exact absurd rfl notZero
  · rfl

theorem readWhole?_toDigits (value : Nat) {rest : List Char}
    (stops : ∀ char ∈ rest.head?, char.isDigit = false) :
    readWhole? (Nat.toDigits 10 value ++ rest) = some (Nat.toDigits 10 value, rest) := by
  rcases Nat.eq_zero_or_pos value with rfl | positive
  · cases rest with
    | nil => rfl
    | cons next others => simp [readWhole?, stops next rfl]
  · have digits : ∀ char ∈ Nat.toDigits 10 value, char.isDigit = true := fun char member =>
      Nat.isDigit_of_mem_toDigits (by decide) (by decide) member
    have noMore : rest.takeWhile Char.isDigit = [] ∧ rest.dropWhile Char.isDigit = rest := by
      cases rest with
      | nil => exact ⟨rfl, rfl⟩
      | cons next others => simp [stops next rfl]
    have notZero : (Nat.toDigits 10 value ++ rest).head? ≠ some '0' := by
      rw [List.head?_append_of_ne_nil _ Nat.toDigits_ne_nil]
      exact head?_toDigits_ne_zero positive
    rw [readWhole?_of_head?_ne notZero, List.takeWhile_append_of_pos digits,
      List.dropWhile_append_of_pos digits, noMore.1, noMore.2, List.append_nil, if_neg]
    simp

section Numbers

variable {rest : List Char}

theorem Ends.isDigit_eq_false (ends : Ends rest) : ∀ char ∈ rest.head?, char.isDigit = false := by
  intro char head
  rw [← Bool.not_eq_true]
  exact fun digit => Text.not_mem_of_apart Char.isDigit digit (by decide) (ends char head)

theorem Ends.readFraction? (ends : Ends rest) : readFraction? rest = some (none, rest) := by
  unfold Json.readFraction?
  split
  · exact absurd (ends '.' rfl) (by decide)
  · rfl

theorem Ends.readPower? (ends : Ends rest) : readPower? rest = some (none, rest) := by
  cases rest with
  | nil => rfl
  | cons mark others =>
      have goesOn : ¬(decide (mark = 'e') || decide (mark = 'E')) = true := fun isMark =>
        Text.not_mem_of_apart (fun char => decide (char = 'e') || decide (char = 'E')) isMark
          (by decide) (ends mark rfl)
      rw [Json.readPower?, if_neg goesOn]

/-- A sign and digits are read as a whole number. -/
theorem readNumber?_signed {text : List Char} {negative : Bool} {value : Nat}
    (sign : text = (if negative then ['-'] else []) ++ (Nat.toDigits 10 value ++ rest))
    (ends : Ends rest) (fits : Number.isWhole (if negative then -(value : Int) else value) = true)
    (notMinusZero : negative = true → value ≠ 0) :
    readNumber? text = some (.whole (if negative then -(value : Int) else value), rest) := by
  have notZero : (negative && decide ((value : Int) = 0)) = false := by
    cases negative with
    | true => simpa using notMinusZero rfl
    | false => rfl
  unfold readNumber?
  split
  rename_i found body split
  obtain ⟨rfl, rfl⟩ : found = negative ∧ body = Nat.toDigits 10 value ++ rest := by
    cases negative with
    | true =>
        subst sign
        cases split
        exact ⟨rfl, rfl⟩
    | false =>
        rw [if_neg Bool.false_ne_true, List.nil_append] at sign
        split at split
        · have minus : (Nat.toDigits 10 value ++ rest).head? = some '-' := by rw [← sign]; rfl
          rw [List.head?_append_of_ne_nil _ Nat.toDigits_ne_nil] at minus
          have digit := Nat.isDigit_of_mem_toDigits (by decide) (by decide)
            (List.mem_of_mem_head? minus)
          cases digit
        · cases split
          exact ⟨rfl, sign⟩
  simp only [readWhole?_toDigits value ends.isDigit_eq_false, ends.readFraction?, ends.readPower?,
    natOfDigits_toDigits, fits, notZero, Option.bind_eq_bind, Option.bind_some,
    Option.isNone_none, Bool.and_self, Bool.not_false, if_true, Option.pure_def]

theorem toList_toString (value : Int) :
    (toString value).toList =
      (if decide (value < 0) then ['-'] else []) ++ Nat.toDigits 10 value.natAbs := by
  rw [Int.toString_eq_repr, Int.repr_eq_if]
  by_cases below : value < 0
  · have size : (-value).toNat = value.natAbs := by omega
    rw [if_neg (by omega), if_pos (by simpa using below), String.toList_append, size,
      Nat.repr_eq_ofList_toDigits, String.toList_ofList (l := Nat.toDigits 10 value.natAbs)]
    rfl
  · have size : value.toNat = value.natAbs := by omega
    rw [if_pos (by omega), if_neg (by simpa using below), size, Nat.repr_eq_ofList_toDigits,
      String.toList_ofList, List.nil_append]

/-- A whole number is read from its text. -/
theorem readNumber?_toString {value : Int} (fits : Number.isWhole value = true)
    (ends : Ends rest) :
    readNumber? ((toString value).toList ++ rest) = some (.whole value, rest) := by
  have whole : (if decide (value < 0) then -(value.natAbs : Int) else value.natAbs) = value := by
    by_cases below : value < 0
    · rw [decide_eq_true below, if_pos rfl]
      omega
    · rw [decide_eq_false below, if_neg Bool.false_ne_true]
      omega
  have sign : (toString value).toList ++ rest =
      (if decide (value < 0) then ['-'] else []) ++ (Nat.toDigits 10 value.natAbs ++ rest) := by
    rw [toList_toString, List.append_assoc]
  have notMinusZero : decide (value < 0) = true → value.natAbs ≠ 0 := by
    rw [decide_eq_true_eq]
    omega
  have read := readNumber?_signed sign ends (by rwa [whole]) notMinusZero
  rwa [whole] at read

end Numbers

/-! ## Values -/

def ReadsBack (depth : Nat) (json : Json) : Prop :=
  ∀ (fuel : Nat) (rest : List Char), Ends rest → 2 * json.compact.toList.length ≤ fuel →
    readValue? fuel depth (json.compact.toList ++ rest) = some (json, rest)

def itemsText (items : List Json) : List Char :=
  (",".intercalate (compactItems items)).toList

def membersText (members : List (String × Json)) : List Char :=
  (",".intercalate (compactMembers members)).toList

theorem itemsText_single (item : Json) : itemsText [item] = item.compact.toList := by
  simp [itemsText, compactItems]

theorem itemsText_cons (item next : Json) (rest : List Json) :
    itemsText (item :: next :: rest) =
      item.compact.toList ++ ',' :: itemsText (next :: rest) := by
  simp [itemsText, compactItems, List.intercalate]

theorem membersText_single (key : String) (value : Json) :
    membersText [(key, value)] = (quote key).toList ++ ':' :: value.compact.toList := by
  simp [membersText, compactMembers]

theorem membersText_cons (key : String) (value : Json) (next : String × Json)
    (rest : List (String × Json)) :
    membersText ((key, value) :: next :: rest) =
      (quote key).toList ++ ':' :: (value.compact.toList ++ ',' :: membersText (next :: rest)) := by
  obtain ⟨nextKey, nextValue⟩ := next
  simp [membersText, compactMembers, List.intercalate]

theorem toList_compact_array (items : List Json) :
    (array items).compact.toList = '[' :: (itemsText items ++ [']']) := by
  simp [compact, itemsText]

theorem toList_compact_object (members : List (String × Json)) :
    (object members).compact.toList = '\x7b' :: (membersText members ++ ['\x7d']) := by
  simp [compact, membersText, openBrace, closeBrace]

theorem toString_head (value : Int) :
    ∃ char more, (toString value).toList = char :: more ∧ (char = '-' ∨ char.isDigit = true) := by
  rw [toList_toString]
  by_cases below : value < 0
  · exact ⟨'-', Nat.toDigits 10 value.natAbs, by simp [below], .inl rfl⟩
  · obtain ⟨char, more, digits⟩ := List.exists_cons_of_ne_nil
      (Nat.toDigits_ne_nil (b := 10) (n := value.natAbs))
    have digit : char ∈ Nat.toDigits 10 value.natAbs := digits ▸ List.mem_cons_self
    exact ⟨char, more, by simp [below, digits],
      .inr (Nat.isDigit_of_mem_toDigits (by decide) (by decide) digit)⟩

def otherMarks : List Char :=
  [' ', '\n', '\t', '\r', '"', '[', ']', '\x7b', 'n', 't', 'f']

theorem not_mem_otherMarks {char : Char} (starts : char = '-' ∨ char.isDigit = true) :
    char ∉ otherMarks := by
  have isMark : (char == '-' || char.isDigit) = true := by simpa using starts
  exact Text.not_mem_of_apart (fun char => char == '-' || char.isDigit) isMark (by decide)

/-- The texts of values start with a mark of their kind: no space, and no closing bracket. -/
theorem Exact.text_head {depth : Nat} {json : Json} (isExact : Exact depth json) :
    ∃ char more, json.compact.toList = char :: more ∧ isSpace char = false ∧ char ≠ ']' := by
  cases isExact with
  | null => exact ⟨'n', "ull".toList, by decide⟩
  | bool value => cases value <;> exact ⟨_, _, rfl, by decide⟩
  | number fits =>
      rename_i value
      obtain ⟨char, more, text, starts⟩ := toString_head value
      have no := not_mem_otherMarks starts
      simp only [otherMarks, List.mem_cons, not_or] at no
      exact ⟨char, more, text, by simp [isSpace, no]⟩
  | string text => exact ⟨'"', _, toList_quote text, by decide⟩
  | array each => exact ⟨'[', _, toList_compact_array _, by decide⟩
  | object ascend each => exact ⟨'\x7b', _, toList_compact_object _, by decide⟩

theorem skipSpace_cons {char : Char} (noSpace : isSpace char = false) (rest : List Char) :
    skipSpace (char :: rest) = char :: rest := by
  rw [skipSpace, List.dropWhile_cons, noSpace, if_neg Bool.false_ne_true]

section Readers

variable {depth : Nat}

/-- A text that is read in one step needs no more than one. -/
theorem readsBack_of_step {json : Json} {char : Char} {more : List Char}
    (text : json.compact.toList = char :: more)
    (reads : ∀ fuel rest, Ends rest →
      readValue? (fuel + 1) depth (char :: (more ++ rest)) = some (json, rest)) :
    ReadsBack depth json := by
  intro fuel rest ends enough
  rw [text, List.length_cons] at enough
  obtain ⟨less, rfl⟩ : ∃ less, fuel = less + 1 := ⟨fuel - 1, by omega⟩
  rw [text]
  exact reads less rest ends

theorem readsBack_null : ReadsBack depth null := by
  have text : null.compact.toList = 'n' :: ['u', 'l', 'l'] := by simp [compact]
  refine readsBack_of_step text fun fuel rest ends => ?_
  rw [readValue?, skipSpace_cons rfl]
  rfl

theorem readsBack_bool (value : Bool) : ReadsBack depth (bool value) := by
  cases value with
  | true =>
      have text : (bool true).compact.toList = 't' :: ['r', 'u', 'e'] := by simp [compact]
      refine readsBack_of_step text fun fuel rest ends => ?_
      rw [readValue?, skipSpace_cons rfl]
      rfl
  | false =>
      have text : (bool false).compact.toList = 'f' :: ['a', 'l', 's', 'e'] := by simp [compact]
      refine readsBack_of_step text fun fuel rest ends => ?_
      rw [readValue?, skipSpace_cons rfl]
      rfl

theorem readsBack_number {value : Int} (fits : Number.isWhole value = true) :
    ReadsBack depth (number (.whole value)) := by
  have text : (number (.whole value)).compact = toString value := by
    simp only [compact, numberText]
  obtain ⟨char, more, written, starts⟩ := toString_head value
  refine readsBack_of_step (by rw [text, written]) fun fuel rest ends => ?_
  have read := readNumber?_toString fits ends
  rw [written, List.cons_append] at read
  have isMark : (char = '-' || char.isDigit) = true := by simpa using starts
  have no := not_mem_otherMarks starts
  simp only [otherMarks, List.mem_cons, not_or] at no
  rw [readValue?, skipSpace_cons (by simp [isSpace, no])]
  simp only [no, isMark, if_true, if_false, read, Option.map_some]

theorem readsBack_string (text : String) : ReadsBack depth (string text) := by
  have written : (string text).compact = quote text := by simp only [compact]
  refine readsBack_of_step (by rw [written, toList_quote]) fun fuel rest ends => ?_
  rw [List.append_assoc, List.singleton_append, readValue?, skipSpace_cons rfl]
  simp only [if_true, readQuoted?_quote text rest, Option.map_some]

/-- Items are read up to the closing bracket. -/
theorem readItems?_itemsText {items : List Json} (filled : items ≠ [])
    (each : ∀ item ∈ items, ReadsBack depth item) {fuel : Nat}
    (enough : 2 * (itemsText items).length < fuel) (rest : List Char) :
    readItems? fuel depth (itemsText items ++ ']' :: rest) = some (items, rest) := by
  induction items generalizing fuel with
  | nil => exact absurd rfl filled
  | cons item others inductionHypothesis =>
      obtain ⟨less, rfl⟩ : ∃ less, fuel = less + 1 := ⟨fuel - 1, by omega⟩
      have readsItem := each item List.mem_cons_self
      cases others with
      | nil =>
          rw [itemsText_single] at enough ⊢
          rw [readItems?, readsItem less _ (ends_cons (by decide) rest) (by omega)]
          rfl
      | cons next more =>
          rw [itemsText_cons, List.length_append, List.length_cons] at enough
          have read := @inductionHypothesis (List.cons_ne_nil _ _)
            (fun other member => each other (List.mem_cons_of_mem _ member)) less (by omega)
          rw [itemsText_cons, List.append_assoc, List.cons_append, readItems?,
            readsItem less _ (ends_cons (by decide) _) (by omega)]
          simp only [skipSpace_cons (show isSpace ',' = false from rfl), read, Option.map_some]

theorem readArray?_of_item {fuel : Nat} {char : Char} (noSpace : isSpace char = false)
    (noBracket : char ≠ ']') (text : List Char) :
    readArray? (fuel + 1) depth (char :: text) =
      (readItems? fuel depth (char :: text)).map fun (items, rest) => (array items, rest) := by
  rw [readArray?, skipSpace_cons noSpace]
  split
  · rename_i same
    cases same
    exact absurd rfl noBracket
  · rfl

theorem readArray?_itemsText {items : List Json} (each : ∀ item ∈ items, Exact depth item)
    (reads : ∀ item ∈ items, ReadsBack depth item) {fuel : Nat}
    (enough : 2 * (itemsText items).length < fuel) (rest : List Char) :
    readArray? (fuel + 1) depth (itemsText items ++ ']' :: rest) = some (array items, rest) := by
  cases items with
  | nil =>
      have nothing : itemsText [] = [] := by simp [itemsText, compactItems]
      rw [nothing, List.nil_append, readArray?, skipSpace_cons rfl]
      rfl
  | cons item others =>
      have read := readItems?_itemsText (List.cons_ne_nil item others) reads enough rest
      obtain ⟨char, more, text, noSpace, noBracket⟩ := (each item List.mem_cons_self).text_head
      obtain ⟨behind, starts⟩ : ∃ behind, itemsText (item :: others) = char :: behind := by
        cases others with
        | nil => exact ⟨more, by rw [itemsText_single, text]⟩
        | cons next later => exact ⟨_, by rw [itemsText_cons, text, List.cons_append]⟩
      rw [starts, List.cons_append] at read ⊢
      rw [readArray?_of_item noSpace noBracket, read, Option.map_some]

theorem readsBack_array {items : List Json} (each : ∀ item ∈ items, Exact depth item)
    (reads : ∀ item ∈ items, ReadsBack depth item) : ReadsBack (depth + 1) (array items) := by
  intro fuel rest ends enough
  rw [toList_compact_array, List.length_cons, List.length_append, List.length_singleton] at enough
  obtain ⟨less, rfl⟩ : ∃ less, fuel = less + 2 := ⟨fuel - 2, by omega⟩
  have split : '[' :: (itemsText items ++ [']']) ++ rest =
      '[' :: (itemsText items ++ ']' :: rest) := by simp
  rw [toList_compact_array, split, readValue?, skipSpace_cons rfl]
  exact readArray?_itemsText each reads (by omega) rest

theorem split_member (key : String) (text : List Char) :
    (quote key).toList ++ ':' :: text =
      '"' :: (key.toList.flatMap escapeChar ++ '"' :: ':' :: text) := by
  simp [toList_quote]

/-- A member whose value has been read up to the closing brace is the last one. -/
theorem readMembers?_last {fuel : Nat} {text rest : List Char} {value : Json}
    (read : readValue? fuel depth text = some (value, '\x7d' :: rest)) (key : String) :
    readMembers? (fuel + 1) depth ((quote key).toList ++ ':' :: text) =
      some ([(key, value)], rest) := by
  rw [split_member, readMembers?, skipSpace_cons rfl]
  simp only [readQuoted?_quote key (':' :: text), read,
    skipSpace_cons (show isSpace ':' = false from rfl),
    skipSpace_cons (show isSpace '\x7d' = false from rfl)]

/-- Behind a member whose value has been read up to a comma the others are read. -/
theorem readMembers?_next {fuel : Nat} {text later rest : List Char} {value : Json}
    {members : List (String × Json)}
    (read : readValue? fuel depth text = some (value, ',' :: later))
    (goesOn : readMembers? fuel depth later = some (members, rest)) (key : String) :
    readMembers? (fuel + 1) depth ((quote key).toList ++ ':' :: text) =
      some ((key, value) :: members, rest) := by
  rw [split_member, readMembers?, skipSpace_cons rfl]
  simp only [readQuoted?_quote key (':' :: text), read, goesOn, Option.map_some,
    skipSpace_cons (show isSpace ':' = false from rfl),
    skipSpace_cons (show isSpace ',' = false from rfl)]

/-- Members are read up to the closing brace. -/
theorem readMembers?_membersText {members : List (String × Json)} (filled : members ≠ [])
    (each : ∀ entry ∈ members, ReadsBack depth entry.2) {fuel : Nat}
    (enough : 2 * (membersText members).length < fuel) (rest : List Char) :
    readMembers? fuel depth (membersText members ++ '\x7d' :: rest) = some (members, rest) := by
  induction members generalizing fuel with
  | nil => exact absurd rfl filled
  | cons entry others inductionHypothesis =>
      obtain ⟨key, value⟩ := entry
      obtain ⟨less, rfl⟩ : ∃ less, fuel = less + 1 := ⟨fuel - 1, by omega⟩
      have readsValue : ReadsBack depth value := each (key, value) List.mem_cons_self
      cases others with
      | nil =>
          rw [membersText_single, List.length_append, List.length_cons] at enough
          rw [membersText_single, List.append_assoc, List.cons_append]
          exact readMembers?_last (readsValue less _ (ends_cons (by decide) rest) (by omega)) key
      | cons next more =>
          rw [membersText_cons, List.length_append, List.length_cons, List.length_append,
            List.length_cons] at enough
          have read := @inductionHypothesis (List.cons_ne_nil _ _)
            (fun other member => each other (List.mem_cons_of_mem _ member)) less (by omega)
          rw [membersText_cons, List.append_assoc, List.cons_append, List.append_assoc,
            List.cons_append]
          exact readMembers?_next (readsValue less _ (ends_cons (by decide) _) (by omega)) read key

theorem readObject?_membersText {members : List (String × Json)} (ascend : Members.Ascend members)
    (reads : ∀ entry ∈ members, ReadsBack depth entry.2) {fuel : Nat}
    (enough : 2 * (membersText members).length < fuel) (rest : List Char) :
    readObject? (fuel + 1) depth (membersText members ++ '\x7d' :: rest) =
      some (object members, rest) := by
  cases members with
  | nil =>
      have nothing : membersText [] = [] := by simp [membersText, compactMembers]
      rw [nothing, List.nil_append, readObject?, skipSpace_cons rfl]
      rfl
  | cons entry others =>
      have read := readMembers?_membersText (List.cons_ne_nil entry others) reads enough rest
      obtain ⟨behind, starts⟩ : ∃ behind, membersText (entry :: others) = '"' :: behind := by
        obtain ⟨key, value⟩ := entry
        cases others with
        | nil => exact ⟨_, by rw [membersText_single, toList_quote, List.cons_append]⟩
        | cons next later => exact ⟨_, by rw [membersText_cons, toList_quote, List.cons_append]⟩
      have whole : ofMembers (entry :: others) = object (entry :: others) := by
        rw [ofMembers, Members.ofList_of_ascend ascend]
      rw [starts, List.cons_append] at read ⊢
      rw [readObject?, skipSpace_cons rfl]
      change (readMembers? fuel depth ('"' :: (behind ++ '\x7d' :: rest))).map _ = _
      rw [read, Option.map_some]
      exact congrArg (fun json => some (json, rest)) whole

theorem readsBack_object {members : List (String × Json)} (ascend : Members.Ascend members)
    (reads : ∀ entry ∈ members, ReadsBack depth entry.2) :
    ReadsBack (depth + 1) (object members) := by
  intro fuel rest ends enough
  rw [toList_compact_object, List.length_cons, List.length_append,
    List.length_singleton] at enough
  obtain ⟨less, rfl⟩ : ∃ less, fuel = less + 2 := ⟨fuel - 2, by omega⟩
  have split : '\x7b' :: (membersText members ++ ['\x7d']) ++ rest =
      '\x7b' :: (membersText members ++ '\x7d' :: rest) := by simp
  rw [toList_compact_object, split, readValue?, skipSpace_cons rfl]
  exact readObject?_membersText ascend reads (by omega) rest

/-- Every value whose numbers are whole and whose members are in order is read back from its compact
text, whatever mark stands behind it. -/
theorem Exact.readsBack {json : Json} (isExact : Exact depth json) : ReadsBack depth json := by
  induction isExact with
  | null => exact readsBack_null
  | bool value => exact readsBack_bool value
  | number fits => exact readsBack_number fits
  | string text => exact readsBack_string text
  | array each inductionHypothesis => exact readsBack_array each inductionHypothesis
  | object ascend each inductionHypothesis => exact readsBack_object ascend inductionHypothesis

end Readers

/-- Compact printing and reading are inverse. -/
theorem parse?_compact {json : Json} (isExact : Exact maxDepth json) :
    parse? json.compact = some json := by
  have read := isExact.readsBack (2 * json.compact.toList.length + 2) [] (by simp [Ends]) (by omega)
  rw [List.append_nil] at read
  simp only [parse?, read]
  rfl

end Json

end BraceTemplate
