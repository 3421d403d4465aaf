import Mathlib.Data.List.Induction
import BraceTemplate.Json.Parser
import BraceTemplate.Proofs.Text.Delimiters
import BraceTemplate.Text.Escaping

/-!
# Escaped text within quotes

A quoted string of a script is read up to the first quote of its kind that is not escaped, and
stands for units of sixteen bits. An escaped text between quotes of either kind is read to its end,
as the text itself. Quotes and slashes in it stand behind odd runs of backslashes, so that none of
them is taken for itself, and it has no line breaks.
-/

namespace BraceTemplate.Text.ScriptString

def unitsOfPoint (point : Nat) : List Nat :=
  if point < 0x10000 then [point]
  else [0xD800 + (point - 0x10000) / 0x400, 0xDC00 + (point - 0x10000) % 0x400]

def unitsOf (chars : List Char) : List Nat :=
  chars.flatMap fun char => unitsOfPoint char.toNat

def charsOfUnits? : List Nat → Option (List Char)
  | [] => some []
  | unit :: rest =>
    if 0xD800 ≤ unit && unit < 0xDC00 then
      match rest with
      | low :: others =>
        if 0xDC00 ≤ low && low < 0xE000 then
          (charsOfUnits? others).map
            (Char.ofNat (0x10000 + (unit - 0xD800) * 0x400 + (low - 0xDC00)) :: ·)
        else none
      | [] => none
    else if 0xDC00 ≤ unit && unit < 0xE000 then none
    else (charsOfUnits? rest).map (Char.ofNat unit :: ·)

def controls : List (Char × Nat) :=
  [('b', 0x08), ('t', 0x09), ('n', 0x0A), ('v', 0x0B), ('f', 0x0C), ('r', 0x0D)]

def lineBreaks : List Char := ['\n', '\r', '\u2028', '\u2029']

def readPoint? (chars : List Char) : Option (List Nat × Nat) :=
  let digits := chars.takeWhile fun char => (Json.hexValue? char).isSome
  let point := digits.foldl (fun value digit => value * 16 + (Json.hexValue? digit).getD 0) 0
  if digits.isEmpty || chars[digits.length]? != some '\x7d' || 0x110000 ≤ point then none
  else some (unitsOfPoint point, digits.length + 1)

/-- The units that an escape stands for, from behind its backslash, and how many characters it
takes. A line break is left out; a zero stands for itself only where no digit is behind it, and no
other digit stands for anything. -/
def readEscape? : List Char → Option (List Nat × Nat)
  | [] => none
  | char :: rest =>
    if char = 'u' then
      match rest with
      | '\x7b' :: digits => (readPoint? digits).map fun (units, taken) => (units, taken + 2)
      | _ => (Json.readUnit? rest).map fun (unit, _) => ([unit], 5)
    else if char = 'x' then
      (Json.readUnit? ('0' :: '0' :: rest)).map fun (unit, _) => ([unit], 3)
    else if char.isDigit then
      if char = '0' && !rest.head?.any Char.isDigit then some ([0], 1) else none
    else if char ∈ lineBreaks then
      some ([], if char = '\r' && rest.head? == some '\n' then 2 else 1)
    else
      match controls.lookup char with
      | some unit => some ([unit], 1)
      | none => some (unitsOfPoint char.toNat, 1)

/-- The units of a quoted string, from behind its opening quote, and what stands behind the closing
one. -/
def readUnits? (quote : Char) : List Char → Option (List Nat × List Char)
  | [] => none
  | char :: rest =>
    if char = quote then some ([], rest)
    else if char = '\\' then
      match readEscape? rest with
      | none => none
      | some (units, taken) =>
        (readUnits? quote (rest.drop taken)).map fun (others, after) => (units ++ others, after)
    else if char = '\n' || char = '\r' then none
    else
      (readUnits? quote rest).map fun (others, after) =>
        (unitsOfPoint char.toNat ++ others, after)
termination_by chars => chars.length
decreasing_by
  all_goals simp only [List.length_drop, List.length_cons]; omega

/-- The text of a quoted string, and what stands behind the closing quote. -/
def read? (quote : Char) (chars : List Char) : Option (String × List Char) := do
  let (units, after) ← readUnits? quote chars
  let text ← charsOfUnits? units
  pure (String.ofList text, after)

theorem charsOfUnits?_unitsOfPoint (char : Char) (rest : List Nat) :
    charsOfUnits? (unitsOfPoint char.toNat ++ rest) = (charsOfUnits? rest).map (char :: ·) := by
  have valid : char.toNat < 0xD800 ∨ 0xDFFF < char.toNat ∧ char.toNat < 0x110000 := char.valid
  unfold unitsOfPoint
  split
  · have notUpper : (decide (0xD800 ≤ char.toNat) && decide (char.toNat < 0xDC00)) = false := by
      simp only [Bool.and_eq_false_iff, decide_eq_false_iff_not]
      omega
    have notLower : (decide (0xDC00 ≤ char.toNat) && decide (char.toNat < 0xE000)) = false := by
      simp only [Bool.and_eq_false_iff, decide_eq_false_iff_not]
      omega
    rw [List.singleton_append, charsOfUnits?.eq_def]
    simp only [notUpper, notLower, Char.ofNat_toNat, Bool.false_eq_true, if_false]
  · have isUpper : (decide (0xD800 ≤ 0xD800 + (char.toNat - 0x10000) / 0x400) &&
        decide (0xD800 + (char.toNat - 0x10000) / 0x400 < 0xDC00)) = true := by
      simp only [Bool.and_eq_true, decide_eq_true_eq]
      omega
    have isLower : (decide (0xDC00 ≤ 0xDC00 + (char.toNat - 0x10000) % 0x400) &&
        decide (0xDC00 + (char.toNat - 0x10000) % 0x400 < 0xE000)) = true := by
      simp only [Bool.and_eq_true, decide_eq_true_eq]
      omega
    have joined : 0x10000 + (0xD800 + (char.toNat - 0x10000) / 0x400 - 0xD800) * 0x400 +
        (0xDC00 + (char.toNat - 0x10000) % 0x400 - 0xDC00) = char.toNat := by
      omega
    simp only [List.cons_append, List.nil_append, charsOfUnits?, isUpper, isLower, if_true, joined,
      Char.ofNat_toNat]

theorem charsOfUnits?_unitsOf (chars : List Char) :
    charsOfUnits? (unitsOf chars) = some chars := by
  induction chars with
  | nil => rfl
  | cons first rest inductionHypothesis =>
      have split : unitsOf (first :: rest) = unitsOfPoint first.toNat ++ unitsOf rest := rfl
      rw [split, charsOfUnits?_unitsOfPoint, inductionHypothesis, Option.map_some]

def specials : List Char :=
  ['\\', '/', '"', '\'', '\r', '\u2028', '\u2029', '\n', '\x0c', '\t']

theorem escapeChars_cons (first : Char) (rest : List Char) :
    escapeChars (first :: rest) = escapeChar first ++ escapeChars rest := by
  rw [escapeChars, List.flatMap_cons, ← escapeChars]

theorem escapeChar_of_not_special {char : Char} (plain : char ∉ specials) :
    escapeChar char = [char] := by
  simp only [specials, List.mem_cons, List.not_mem_nil, or_false, not_or] at plain
  simp [escapeChar, plain]

/-- What is said of a character and what is written for it holds if it holds of the special ones and
of the others, which are written as they are. -/
theorem escapeChar_cases (holds : Char → List Char → Prop)
    (special : ∀ char ∈ specials, holds char (escapeChar char))
    (plain : ∀ char ∉ specials, holds char [char]) (char : Char) :
    holds char (escapeChar char) := by
  by_cases isSpecial : char ∈ specials
  · exact special char isSpecial
  · exact escapeChar_of_not_special isSpecial ▸ plain char isSpecial

theorem lineBreak_not_mem_escapeChar {lineBreak : Char} (breaks : lineBreak ∈ lineBreaks)
    (char : Char) : lineBreak ∉ escapeChar char := by
  have isSpecial : lineBreak ∈ specials := by
    have each : lineBreaks.all specials.contains = true := by decide
    exact List.contains_iff_mem.mp (List.all_eq_true.mp each lineBreak breaks)
  refine escapeChar_cases (fun _ written => lineBreak ∉ written) (fun char special => ?_)
    (fun char plain inside => ?_) char
  · have each : (specials.all fun char => lineBreaks.all fun lineBreak =>
        !(escapeChar char).contains lineBreak) = true := by decide
    simpa using List.all_eq_true.mp (List.all_eq_true.mp each char special) lineBreak breaks
  · exact plain (List.mem_singleton.mp inside ▸ isSpecial)

theorem lacks_lineBreak_escape {lineBreak : Char} (breaks : lineBreak ∈ lineBreaks)
    (text : String) : Lacks lineBreak (escape text) := by
  refine .ofList fun member => ?_
  obtain ⟨char, -, here⟩ := List.mem_flatMap.mp member
  exact lineBreak_not_mem_escapeChar breaks char here

/-- How many backslashes a text ends with. -/
def backslashesAtEnd (chars : List Char) : Nat :=
  (chars.reverse.takeWhile (· == '\\')).length

/-- Whether the character behind a text is escaped: a backslash escapes what is behind it, unless it
is escaped itself. -/
def escapesNext : Bool → List Char → Bool
  | escaped, [] => escaped
  | escaped, char :: rest => escapesNext (!escaped && char == '\\') rest

theorem escapesNext_append (escaped : Bool) (first second : List Char) :
    escapesNext escaped (first ++ second) = escapesNext (escapesNext escaped first) second := by
  induction first generalizing escaped with
  | nil => rfl
  | cons char rest inductionHypothesis => exact inductionHypothesis _

/-- A character is escaped exactly where an odd run of backslashes stands in front of it. -/
theorem escapesNext_eq_true_iff (chars : List Char) :
    escapesNext false chars = true ↔ backslashesAtEnd chars % 2 = 1 := by
  induction chars using List.reverseRecOn with
  | nil => simp [escapesNext, backslashesAtEnd]
  | append_singleton before last inductionHypothesis =>
      rw [escapesNext_append]
      by_cases backslash : last = '\\'
      · subst backslash
        have oneMore : backslashesAtEnd (before ++ ['\\']) = backslashesAtEnd before + 1 := by
          simp [backslashesAtEnd]
        have flips : escapesNext (escapesNext false before) ['\\'] =
            !escapesNext false before := by
          simp [escapesNext]
        rw [oneMore, flips, Bool.not_eq_true', ← Bool.not_eq_true, inductionHypothesis]
        omega
      · simp [escapesNext, backslashesAtEnd, backslash]

/-- Quotes, and the slash, which would close a script element. -/
def guarded : List Char := ['"', '\'', '/']

/-- What is written for a character escapes nothing behind it. -/
theorem escapesNext_escapeChar (char : Char) : escapesNext false (escapeChar char) = false := by
  refine escapeChar_cases (fun _ written => escapesNext false written = false)
    (fun char special => ?_) (fun char plain => ?_) char
  · have each : (specials.all fun char => !escapesNext false (escapeChar char)) = true := by decide
    simpa using List.all_eq_true.mp each char special
  · have noBackslash : char ≠ '\\' := fun same => plain (same ▸ by decide)
    simp [escapesNext, noBackslash]

/-- Quotes and slashes are escaped in what is written for a character. -/
theorem escapesNext_within_escapeChar {char stands : Char} {before behind : List Char}
    (written : escapeChar char = before ++ stands :: behind) (isGuarded : stands ∈ guarded) :
    escapesNext false before = true := by
  have each : ∀ char place, ∀ stands ∈ guarded, (escapeChar char)[place]? = some stands →
      escapesNext false ((escapeChar char).take place) = true := by
    intro char place stands isGuarded there
    revert there
    refine escapeChar_cases
      (fun _ written => written[place]? = some stands →
        escapesNext false (written.take place) = true) (fun char special => ?_)
      (fun char plain there => ?_) char
    · have all : (specials.all fun char => (List.range (escapeChar char).length).all fun place =>
          guarded.all fun stands => (escapeChar char)[place]? != some stands ||
            escapesNext false ((escapeChar char).take place)) = true := by decide
      intro there
      have inside : place ∈ List.range (escapeChar char).length :=
        List.mem_range.mpr (List.getElem?_eq_some_iff.mp there).1
      have here := List.all_eq_true.mp (List.all_eq_true.mp
        (List.all_eq_true.mp all char special) place inside) stands isGuarded
      simpa [there] using here
    · have itself : stands = char := by
        have member := List.mem_of_getElem? there
        exact List.mem_singleton.mp member
      subst itself
      have isSpecial : stands ∈ specials := by
        have each : guarded.all specials.contains = true := by decide
        exact List.contains_iff_mem.mp (List.all_eq_true.mp each stands isGuarded)
      exact absurd isSpecial plain
  have here := each char before.length stands isGuarded (by rw [written]; simp)
  rwa [written, List.take_left'] at here
  rfl

/-- Quotes and slashes in an escaped text are escaped. -/
theorem escapesNext_before_guarded {chars before after : List Char} {stands : Char}
    (written : escapeChars chars = before ++ stands :: after) (isGuarded : stands ∈ guarded) :
    escapesNext false before = true := by
  induction chars generalizing before with
  | nil => simp [escapeChars] at written
  | cons first rest inductionHypothesis =>
      rw [escapeChars_cons, List.append_eq_append_iff] at written
      rcases written with ⟨later, rfl, inRest⟩ | ⟨behind, here, atSeam⟩
      · rw [escapesNext_append, escapesNext_escapeChar]
        exact inductionHypothesis inRest
      · cases behind with
        | nil =>
            have whole : before = escapeChar first := by simpa using here.symm
            rw [whole, escapesNext_escapeChar, ← escapesNext.eq_1 false]
            exact @inductionHypothesis [] atSeam.symm
        | cons opening more =>
            obtain ⟨rfl, -⟩ := List.cons.inj atSeam
            exact escapesNext_within_escapeChar here isGuarded

section Reading

variable {quote : Char}

theorem readUnits?_plain {char : Char} (noQuote : char ≠ quote) (plain : char ∉ specials)
    (rest : List Char) :
    readUnits? quote (char :: rest) =
      (readUnits? quote rest).map fun (others, after) =>
        (unitsOfPoint char.toNat ++ others, after) := by
  simp only [specials, List.mem_cons, List.not_mem_nil, or_false, not_or] at plain
  obtain ⟨noBackslash, -, -, -, noReturn, -, -, noLineFeed, -⟩ := plain
  rw [readUnits?]
  simp [noQuote, noBackslash, noReturn, noLineFeed]

theorem readUnits?_escape (noQuote : '\\' ≠ quote) {escape rest : List Char} {units : List Nat}
    (read : readEscape? (escape ++ rest) = some (units, escape.length)) :
    readUnits? quote ('\\' :: (escape ++ rest)) =
      (readUnits? quote rest).map fun (others, after) => (units ++ others, after) := by
  rw [readUnits?]
  simp [noQuote, read]

/-- A special character is written as a backslash with an escape behind it that stands for it. -/
theorem exists_escape_of_special {char : Char} (special : char ∈ specials) (rest : List Char) :
    ∃ escape, escapeChar char = '\\' :: escape ∧
      readEscape? (escape ++ rest) = some (unitsOfPoint char.toNat, escape.length) := by
  simp only [specials, List.mem_cons, List.not_mem_nil, or_false] at special
  rcases special with rfl | rfl | rfl | rfl | rfl | rfl | rfl | rfl | rfl | rfl
  all_goals exact ⟨_, rfl, rfl⟩

/-- What is written for a character is read as its units, in quotes of either kind. -/
theorem readUnits?_escapeChar (isQuote : quote ∈ ['"', '\'']) (char : Char) (rest : List Char) :
    readUnits? quote (escapeChar char ++ rest) =
      (readUnits? quote rest).map fun (others, after) =>
        (unitsOfPoint char.toNat ++ others, after) := by
  have noBackslash : '\\' ≠ quote := by
    rintro rfl
    simp at isQuote
  by_cases special : char ∈ specials
  · obtain ⟨escape, written, stands⟩ := exists_escape_of_special special rest
    rw [written]
    exact readUnits?_escape noBackslash stands
  · rw [escapeChar_of_not_special special, List.singleton_append]
    refine readUnits?_plain ?_ special rest
    rintro rfl
    have isSpecial : char ∈ specials := by
      have each : ['"', '\''].all specials.contains = true := by decide
      exact List.contains_iff_mem.mp (List.all_eq_true.mp each char isQuote)
    exact special isSpecial

theorem readUnits?_escapeChars (isQuote : quote ∈ ['"', '\'']) (chars rest : List Char) :
    readUnits? quote (escapeChars chars ++ quote :: rest) = some (unitsOf chars, rest) := by
  induction chars with
  | nil =>
      change readUnits? quote (quote :: rest) = some ([], rest)
      rw [readUnits?, if_pos rfl]
  | cons first others inductionHypothesis =>
      rw [escapeChars_cons, List.append_assoc, readUnits?_escapeChar isQuote, inductionHypothesis]
      rfl

end Reading

/-- Escaping for quoted strings is safe, and loses nothing. An escaped text has no line breaks. Its
quotes and slashes stand behind odd runs of backslashes, and so no slash stands behind a less-than
sign. Between quotes of either kind it is read as the text it was, up to the closing quote. -/
theorem escape_withinQuotes (text : String) :
    (∀ lineBreak ∈ lineBreaks, Lacks lineBreak (escape text)) ∧
      (∀ before char after, (escape text).toList = before ++ char :: after → char ∈ guarded →
        backslashesAtEnd before % 2 = 1) ∧
      (∀ before after, (escape text).toList ≠ before ++ '<' :: '/' :: after) ∧
      ∀ quote ∈ ['"', '\''], ∀ rest,
        read? quote ((escape text).toList ++ quote :: rest) = some (text, rest) := by
  have chars : (escape text).toList = escapeChars text.toList := by
    rw [escape, String.toList_ofList]
  have odd : ∀ before char after, (escape text).toList = before ++ char :: after →
      char ∈ guarded → backslashesAtEnd before % 2 = 1 := by
    intro before char after written isGuarded
    rw [chars] at written
    exact (escapesNext_eq_true_iff before).mp (escapesNext_before_guarded written isGuarded)
  refine ⟨fun lineBreak breaks => lacks_lineBreak_escape breaks text, odd, ?_, ?_⟩
  · intro before after written
    have run := odd (before ++ ['<']) '/' after (by simpa using written) (by decide)
    simp [backslashesAtEnd] at run
  · intro quote isQuote rest
    rw [read?, chars, readUnits?_escapeChars isQuote]
    simp [charsOfUnits?_unitsOf]

/-- Escapes of all kinds are read, those that escaping does not write included. -/
example : read? '"' "\\u\x7b1f600\x7d\\ud83d\\ude00\\x41\\q\\\r\n'\"b".toList =
    some ("😀😀Aq'", ['b']) := by
  cbv

end BraceTemplate.Text.ScriptString
