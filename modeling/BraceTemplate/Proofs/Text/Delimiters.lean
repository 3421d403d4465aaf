import BraceTemplate.Numeral.Layout
import BraceTemplate.Numeral.Reading
import BraceTemplate.Text.Transform
import BraceTemplate.Text.Escaping

/-!
# Texts in HTML documents

The characters that open tags and end attribute values occur in no escaped text. They occur in no
number either, whether it is written by the engine or read from a text of the data. An escaped text
is read back as the text itself.
-/

namespace BraceTemplate

namespace Text

/-- A character does not occur in a text. -/
def Lacks (char : Char) (text : String) : Prop :=
  char ∉ text.toList

instance (char : Char) (text : String) : Decidable (Lacks char text) :=
  inferInstanceAs (Decidable (char ∉ text.toList))

namespace Lacks

variable {char : Char}

theorem empty (char : Char) : Lacks char "" := by
  simp [Lacks]

theorem append {first second : String} (inFirst : Lacks char first) (inSecond : Lacks char second) :
    Lacks char (first ++ second) := by
  unfold Lacks at *
  rw [String.toList_append, List.mem_append]
  exact not_or.mpr ⟨inFirst, inSecond⟩

theorem ofList {chars : List Char} (absent : char ∉ chars) : Lacks char (String.ofList chars) := by
  rwa [Lacks, String.toList_ofList]

end Lacks

/-- What is trimmed off a text is white space. -/
theorem mem_trim_or_isWhiteSpace {text : List Char} {char : Char} (member : char ∈ text) :
    char ∈ trim text ∨ isWhiteSpace char = true := by
  have leading : ∀ {chars : List Char}, char ∈ chars →
      char ∈ chars.dropWhile isWhiteSpace ∨ isWhiteSpace char = true := by
    intro chars inside
    rw [← List.takeWhile_append_dropWhile (p := isWhiteSpace) (l := chars)] at inside
    rcases List.mem_append.mp inside with taken | left
    · exact .inr (List.all_eq_true.mp List.all_takeWhile char taken)
    · exact .inl left
  rcases leading member with inside | blank
  · rcases leading (List.mem_reverse.mpr inside) with kept | blank
    · exact .inl (List.mem_reverse.mpr kept)
    · exact .inr blank
  · exact .inr blank

namespace Html

variable {char : Char}

/-- Delimiters are no part of numbers or names, and have no case. -/
theorem of_mem_delimiters (delimits : char ∈ delimiters) :
    char.isDigit = false ∧ char.isAlpha = false ∧ char.toLower = char ∧
      isWhiteSpace char = false ∧ char ∉ ['+', '-', '.'] := by
  have each : (delimiters.all fun delimiter =>
      decide (delimiter.isDigit = false ∧ delimiter.isAlpha = false ∧
        delimiter.toLower = delimiter ∧ isWhiteSpace delimiter = false ∧
          delimiter ∉ ['+', '-', '.'])) = true := by
    decide
  exact of_decide_eq_true (List.all_eq_true.mp each char delimits)

/-- Escaping writes no delimiter: each has an entity, and entities have none. -/
theorem lacks_escape (delimits : char ∈ delimiters) (text : String) :
    Lacks char (escape text) := by
  rw [escape_eq]
  refine .ofList fun member => ?_
  obtain ⟨written, -, here⟩ := List.mem_flatMap.mp member
  let letters := ['&', 'a', 'm', 'p', ';', 'l', 't', 'g', 'q', 'u', 'o', '#', '3', '9']
  by_cases isDelimiter : written ∈ '&' :: delimiters
  · have entities : (('&' :: delimiters).all fun special =>
        (escapeChar special).all letters.contains) = true := by
      decide
    have apart : (delimiters.all fun delimiter => !letters.contains delimiter) = true := by decide
    have ofEntity :=
      List.all_eq_true.mp (List.all_eq_true.mp entities written isDelimiter) char here
    have noLetter := List.all_eq_true.mp apart char delimits
    rw [ofEntity] at noLetter
    cases noLetter
  · rw [escapeChar_of_not_special isDelimiter, List.mem_singleton] at here
    subst here
    exact isDelimiter (List.mem_cons_of_mem _ delimits)

/-- A text becomes no shorter. -/
theorem length_le_escapeChars (chars : List Char) :
    chars.length ≤ (escapeChars chars).length := by
  induction chars with
  | nil => exact Nat.le_refl _
  | cons first rest inductionHypothesis =>
      have one : 1 ≤ (escapeChar first).length := by
        unfold escapeChar
        grind
      simp only [escapeChars, List.flatMap_cons, List.length_append, List.length_cons] at *
      omega

/-- The texts that stand in a document as they are have neither delimiters nor the character that
opens entities. -/
theorem escapeChars_eq_self_iff {chars : List Char} :
    escapeChars chars = chars ↔ ∀ char ∈ chars, char ∉ '&' :: delimiters := by
  induction chars with
  | nil => simp [escapeChars]
  | cons first rest inductionHypothesis =>
      rw [escapeChars_cons, List.forall_mem_cons]
      by_cases special : first ∈ '&' :: delimiters
      · have longer : 1 < (escapeChar first).length := by
          have each : (('&' :: delimiters).all fun char =>
              decide (1 < (escapeChar char).length)) = true := by decide
          exact of_decide_eq_true (List.all_eq_true.mp each first special)
        refine ⟨fun same => ?_, fun both => absurd special both.1⟩
        have sameLength := congrArg List.length same
        have others := length_le_escapeChars rest
        simp only [List.length_append, List.length_cons] at sameLength
        omega
      · rw [escapeChar_of_not_special special, ← inductionHypothesis]
        simp [special]

theorem escape_eq_self_iff (text : String) :
    escape text = text ↔ ∀ char ∈ '&' :: delimiters, Lacks char text := by
  have asChars : escape text = text ↔ escapeChars text.toList = text.toList := by
    rw [escape_eq, ← String.toList_inj, String.toList_ofList]
  rw [asChars, escapeChars_eq_self_iff]
  exact ⟨fun each char special member => each char member special,
    fun each char member special => each char special member⟩

theorem escape_eq_empty_iff {text : String} : escape text = "" ↔ text = "" := by
  have longer := length_le_escapeChars text.toList
  rw [escape_eq, ← String.toList_inj, String.toList_ofList, String.toList_empty,
    ← String.toList_inj, String.toList_empty]
  constructor
  · intro empty
    rw [empty] at longer
    exact List.length_eq_zero_iff.mp (Nat.le_zero.mp longer)
  · rintro empty
    rw [empty]
    rfl

end Html

end Text

namespace Numeral

open Text

variable {char : Char}

theorem lacks_of_isAlpha (delimits : char ∈ Html.delimiters) {text : String}
    (letters : text.toList.all Char.isAlpha = true) : Lacks char text := by
  intro member
  have isAlpha := List.all_eq_true.mp letters char member
  rw [(Html.of_mem_delimiters delimits).2.1] at isAlpha
  cases isAlpha

theorem not_mem_toDigits (delimits : char ∈ Html.delimiters) (value : Nat) :
    char ∉ Nat.toDigits 10 value := by
  intro member
  have isDigit := Nat.isDigit_of_mem_toDigits (by decide) (by decide) member
  rw [(Html.of_mem_delimiters delimits).1] at isDigit
  cases isDigit

theorem lacks_toString_nat (delimits : char ∈ Html.delimiters) (value : Nat) :
    Lacks char (toString value) := by
  rw [Nat.toString_eq_ofList_toDigits]
  exact .ofList (not_mem_toDigits delimits value)

theorem lacks_minus (delimits : char ∈ Html.delimiters) : Lacks char "-" := by
  have notSign := (Html.of_mem_delimiters delimits).2.2.2.2
  simp_all [Lacks]

theorem lacks_toString_int (delimits : char ∈ Html.delimiters) (value : Int) :
    Lacks char (toString value) := by
  cases value with
  | ofNat value => exact lacks_toString_nat delimits value
  | negSucc value => exact (lacks_minus delimits).append (lacks_toString_nat delimits (value + 1))

theorem lacks_signed (delimits : char ∈ Html.delimiters) (value : Float) {text : String}
    (absent : Lacks char text) : Lacks char (signed value text) := by
  unfold signed
  split
  · exact (lacks_minus delimits).append absent
  · exact absent

theorem not_mem_zeros (delimits : char ∈ Html.delimiters) (count : Nat) :
    char ∉ List.replicate count '0' := by
  intro member
  have notDigit := (Html.of_mem_delimiters delimits).1
  rw [List.eq_of_mem_replicate member] at notDigit
  cases notDigit

theorem lacks_positional (delimits : char ∈ Html.delimiters) (digits : Digits) (places : Nat) :
    Lacks char (positional digits places) := by
  have zeros := not_mem_zeros delimits
  have written : char ∉ (toString digits.coefficient).toList :=
    lacks_toString_nat delimits digits.coefficient
  have point : Lacks char "." := by
    have notPoint := (Html.of_mem_delimiters delimits).2.2.2.2
    simp_all [Lacks]
  have none : Lacks char "0" := .ofList (zeros 1)
  have front : ∀ count other, char ∉
      (toString digits.coefficient).toList.take count ++ List.replicate other '0' := by
    intro count other member
    rcases List.mem_append.mp member with taken | zero
    · exact written (List.mem_of_mem_take taken)
    · exact zeros _ zero
  have behind : ∀ count, char ∉ (toString digits.coefficient).toList.drop count :=
    fun count member => written (List.mem_of_mem_drop member)
  have padded : ∀ count, char ∉ List.replicate count '0' ++
      (toString digits.coefficient).toList := by
    intro count member
    rcases List.mem_append.mp member with zero | inside
    · exact zeros _ zero
    · exact written inside
  have joined : ∀ (whole : String) (fraction : List Char), Lacks char whole →
      char ∉ fraction →
        Lacks char
          (if fraction.isEmpty then whole else whole ++ "." ++ String.ofList fraction) := by
    intro whole fraction inWhole inFraction
    split
    · exact inWhole
    · exact (inWhole.append point).append (.ofList inFraction)
  unfold positional
  refine joined _ _ ?_ fun member => ?_
  · split
    · exact .ofList (front _ _)
    · exact none
  · rcases List.mem_append.mp member with fraction | zero
    · split at fraction
      · cases fraction
      · split at fraction
        · exact behind _ fraction
        · exact padded _ fraction
    · exact zeros _ zero

theorem lacks_plainText (delimits : char ∈ Html.delimiters) (value : Float) :
    Lacks char (plainText value) := by
  unfold plainText
  split
  · exact lacks_of_isAlpha delimits (by decide)
  · split
    · exact lacks_signed delimits value (lacks_of_isAlpha delimits (by decide))
    · exact lacks_signed delimits value (lacks_positional delimits _ 0)

theorem lacks_templateText (delimits : char ∈ Html.delimiters) (value : Float) :
    Lacks char (templateText value) := by
  unfold templateText
  split
  · exact lacks_of_isAlpha delimits (by decide)
  · split
    · exact lacks_signed delimits value (lacks_of_isAlpha delimits (by decide))
    · simp only
      split
      · split
        · exact lacks_toString_nat delimits 0
        · exact lacks_signed delimits value (lacks_toString_nat delimits _)
      · exact lacks_plainText delimits value

theorem not_mem_of_all_isDigit (delimits : char ∈ Html.delimiters) {text : List Char}
    (digits : text.all Char.isDigit = true) : char ∉ text := by
  intro member
  have isDigit := List.all_eq_true.mp digits char member
  rw [(Html.of_mem_delimiters delimits).1] at isDigit
  cases isDigit

theorem mem_takeSign (delimits : char ∈ Html.delimiters) {text : List Char}
    (member : char ∈ text) : char ∈ (takeSign text).2 := by
  have notSign := (Html.of_mem_delimiters delimits).2.2.2.2
  unfold takeSign
  split <;> simp_all

theorem not_mem_of_readExponent? (delimits : char ∈ Html.delimiters) {text : List Char}
    {exponent : Int} (read : readExponent? text = some exponent) : char ∉ text := by
  intro member
  have notMark : ¬ (char = 'e' ∨ char = 'E') := by
    have notLetter := (Html.of_mem_delimiters delimits).2.1
    rintro (rfl | rfl) <;> cases notLetter
  unfold readExponent? at read
  split at read
  · cases member
  · rename_i mark rest
    split at read
    · rename_i isMark
      rcases List.mem_cons.mp member with rfl | inRest
      · exact notMark (by simpa using isMark)
      · simp only at read
        split at read
        · cases read
        · rename_i digits
          simp only [Bool.or_eq_true, not_or, Bool.not_eq_true', Bool.not_eq_false] at digits
          exact not_mem_of_all_isDigit delimits digits.2 (mem_takeSign delimits inRest)
    · cases read

theorem not_mem_of_readUnsigned? (delimits : char ∈ Html.delimiters) {text : List Char}
    {value : Float} (read : readUnsigned? text = some value) : char ∉ text := by
  have leaves : ∀ {chars : List Char}, char ∈ chars → char ∈ chars.dropWhile Char.isDigit := by
    intro chars inside
    rw [← List.takeWhile_append_dropWhile (p := Char.isDigit) (l := chars)] at inside
    exact (List.mem_append.mp inside).resolve_left
      (not_mem_of_all_isDigit delimits List.all_takeWhile)
  have notPoint : char ≠ '.' := by
    have notSign := (Html.of_mem_delimiters delimits).2.2.2.2
    simp_all
  intro member
  have later := leaves member
  unfold readUnsigned? at read
  simp only at read
  split at read
  · rename_i rest pointed
    split at read
    · cases read
    · split at read
      · cases read
      · rename_i exponent readsExponent
        rw [pointed] at later
        exact not_mem_of_readExponent? delimits readsExponent
          (leaves ((List.mem_cons.mp later).resolve_left notPoint))
  · split at read
    · cases read
    · split at read
      · cases read
      · rename_i exponent readsExponent
        exact not_mem_of_readExponent? delimits readsExponent later

/-- A text that reads as a number contains no delimiter. -/
theorem lacks_of_readDouble? (delimits : char ∈ Html.delimiters) {text : String} {value : Float}
    (read : readDouble? (trim text.toList) = some value) : Lacks char text := by
  intro member
  obtain ⟨-, notLetter, noCase, notBlank, -⟩ := Html.of_mem_delimiters delimits
  have inside : char ∈ (takeSign (trim text.toList)).2 := by
    refine mem_takeSign delimits ((mem_trim_or_isWhiteSpace member).resolve_right ?_)
    simp [notBlank]
  have inLower :
      char ∈ (String.ofList ((takeSign (trim text.toList)).2.map Char.toLower)).toList := by
    rw [String.toList_ofList, ← noCase]
    exact List.mem_map_of_mem inside
  have notWord : ∀ word : String, word.toList.all Char.isAlpha = true →
      String.ofList ((takeSign (trim text.toList)).2.map Char.toLower) ≠ word := by
    rintro word letters rfl
    exact lacks_of_isAlpha delimits letters inLower
  unfold readDouble? at read
  simp only at read
  obtain ⟨magnitude, found, -⟩ := Option.map_eq_some_iff.mp read
  have notInf := notWord "inf" (by decide)
  have notInfinity := notWord "infinity" (by decide)
  have notNan := notWord "nan" (by decide)
  simp only [notInf, notInfinity, notNan, decide_false, Bool.or_self, Bool.false_eq_true,
    if_false] at found
  exact not_mem_of_readUnsigned? delimits found inside

end Numeral

/-! ## Escaped text is read back

Escaping writes the five special characters as entities. Whoever replaces entities by their
characters, from left to right, gets back the text that was escaped: no entity is taken for text,
and no text for an entity, whatever stands beside it.
-/

namespace Text.Html

/-- The entities that special characters are written as. -/
def entities : List String := ["&amp;", "&lt;", "&gt;", "&quot;", "&#39;"]

def readChars : List Char → List Char
  | '&' :: 'a' :: 'm' :: 'p' :: ';' :: rest => '&' :: readChars rest
  | '&' :: 'l' :: 't' :: ';' :: rest => '<' :: readChars rest
  | '&' :: 'g' :: 't' :: ';' :: rest => '>' :: readChars rest
  | '&' :: 'q' :: 'u' :: 'o' :: 't' :: ';' :: rest => '"' :: readChars rest
  | '&' :: '#' :: '3' :: '9' :: ';' :: rest => '\'' :: readChars rest
  | char :: rest => char :: readChars rest
  | [] => []

/-- The text that stands in an HTML document. -/
def read (text : String) : String :=
  String.ofList (readChars text.toList)

theorem escape_append (first second : String) :
    escape (first ++ second) = escape first ++ escape second := by
  rw [escape_eq, String.toList_append, escapeChars_append, String.ofList_append, ← escape_eq,
    ← escape_eq]

/-- Special characters are written as the entities. -/
theorem escapeChar_of_special {char : Char} (special : char ∈ '&' :: delimiters) :
    String.ofList (escapeChar char) ∈ entities := by
  have each : (('&' :: delimiters).all fun char =>
      entities.contains (String.ofList (escapeChar char))) = true := by decide
  exact List.contains_iff_mem.mp (List.all_eq_true.mp each char special)

/-- An ampersand stands only in front of what is written for a character. -/
theorem ampersand_not_mem_tail (char : Char) : '&' ∉ (escapeChar char).tail := by
  by_cases special : char ∈ '&' :: delimiters
  · have each : (('&' :: delimiters).all fun char =>
        !(escapeChar char).tail.contains '&') = true := by decide
    simpa using List.all_eq_true.mp each char special
  · simp [escapeChar_of_not_special special]

/-- What is written for a character, from an ampersand on, is an entity. -/
theorem escapeChar_at_ampersand {char : Char} {before behind : List Char}
    (written : escapeChar char = before ++ '&' :: behind) :
    before = [] ∧ String.ofList ('&' :: behind) ∈ entities := by
  have inFront : before = [] := by
    cases before with
    | nil => rfl
    | cons first more =>
        have inTail : '&' ∈ (escapeChar char).tail := by simp [written]
        exact absurd inTail (ampersand_not_mem_tail char)
  subst inFront
  refine ⟨rfl, ?_⟩
  by_cases special : char ∈ '&' :: delimiters
  · have entity := escapeChar_of_special special
    rwa [written, List.nil_append] at entity
  · rw [escapeChar_of_not_special special] at written
    cases written
    exact absurd List.mem_cons_self special

/-- Every ampersand in an escaped text starts an entity. -/
theorem entity_at_ampersand {chars before after : List Char}
    (written : escapeChars chars = before ++ '&' :: after) :
    ∃ entity ∈ entities, entity.toList <+: '&' :: after := by
  induction chars generalizing before with
  | nil => simp [escapeChars] at written
  | cons first rest inductionHypothesis =>
      rw [escapeChars_cons, List.append_eq_append_iff] at written
      rcases written with ⟨later, -, inRest⟩ | ⟨behind, here, atSeam⟩
      · exact inductionHypothesis inRest
      · cases behind with
        | nil => exact @inductionHypothesis [] atSeam.symm
        | cons opening more =>
            obtain ⟨rfl, rfl⟩ := List.cons.inj atSeam
            have entity := (escapeChar_at_ampersand here).2
            refine ⟨_, entity, ?_⟩
            rw [String.toList_ofList]
            exact ⟨escapeChars rest, rfl⟩

theorem readChars_cons_of_ne {char : Char} (plain : char ≠ '&') (rest : List Char) :
    readChars (char :: rest) = char :: readChars rest := by
  rw [readChars] <;> simp [plain]

/-- What is written for a character is read as this character, whatever stands behind it. -/
theorem readChars_escapeChar (char : Char) (rest : List Char) :
    readChars (escapeChar char ++ rest) = char :: readChars rest := by
  by_cases special : char ∈ '&' :: delimiters
  · simp only [delimiters, List.mem_cons, List.not_mem_nil, or_false] at special
    rcases special with rfl | rfl | rfl | rfl | rfl <;> rfl
  · rw [escapeChar_of_not_special special]
    exact readChars_cons_of_ne (fun ampersand => special (by simp [ampersand])) rest

theorem readChars_escapeChars (chars : List Char) : readChars (escapeChars chars) = chars := by
  induction chars with
  | nil => rfl
  | cons first rest inductionHypothesis =>
      rw [escapeChars_cons, readChars_escapeChar, inductionHypothesis]

/-- Escaping is safe, and loses nothing. A text in two parts is escaped part by part. A text is
escaped character by character, so what is taken over is the same; and it is escaped to itself
exactly where nothing in it is special. An escaped text has no delimiter, and its
ampersands start entities. Reading the entities gives back the text. -/
theorem escape_readBack (first second : String) :
    escape (first ++ second) = escape first ++ escape second ∧
      escape first = String.ofList (escapeChars first.toList) ∧
      (escape first = first ↔ ∀ char ∈ '&' :: delimiters, Lacks char first) ∧
      (∀ delimiter ∈ delimiters, Lacks delimiter (escape first)) ∧
      (∀ before after, (escape first).toList = before ++ '&' :: after →
        ∃ entity ∈ entities, entity.toList <+: '&' :: after) ∧
      read (escape first) = first := by
  have chars : (escape first).toList = escapeChars first.toList := by
    rw [escape_eq, String.toList_ofList]
  refine ⟨escape_append first second, escape_eq first, escape_eq_self_iff first,
    fun delimiter delimits => lacks_escape delimits first, fun before after written => ?_, ?_⟩
  · rw [chars] at written
    exact entity_at_ampersand written
  · rw [read, chars, readChars_escapeChars, String.ofList_toList]

/-- A text that looks like entities is escaped beside a quote, and read back. -/
example : escape "&lt;&#39'" = "&amp;lt;&amp;#39&#39;" ∧
    read "&amp;lt;&amp;#39&#39;" = "&lt;&#39'" := by
  decide

end Text.Html

end BraceTemplate
