/-!
Texts inside other texts: in documents, in quoted strings of scripts, and in addresses. Each way
writes every character on its own.
-/

/-! ## HTML documents

Five characters are written as entities, so that what is written
closes no tag and no attribute value.
-/

namespace BraceTemplate.Text.Html

def escapeChar (char : Char) : List Char :=
  if char = '&' then ['&', 'a', 'm', 'p', ';']
  else if char = '<' then ['&', 'l', 't', ';']
  else if char = '>' then ['&', 'g', 't', ';']
  else if char = '"' then ['&', 'q', 'u', 'o', 't', ';']
  else if char = '\'' then ['&', '#', '3', '9', ';']
  else [char]

/-- Writes every character on its own. -/
def escapeChars (chars : List Char) : List Char :=
  chars.flatMap escapeChar

/-- The characters that open and close tags, and those that end attribute values. -/
def delimiters : List Char := ['<', '>', '"', '\'']

/-- The text as it stands in an HTML document: a text without special characters is taken over. -/
def escape (text : String) : String :=
  if text.toList.any ('&' :: delimiters).contains then String.ofList (escapeChars text.toList)
  else text

theorem escapeChars_append (first second : List Char) :
    escapeChars (first ++ second) = escapeChars first ++ escapeChars second := by
  simp [escapeChars]

theorem escapeChars_cons (first : Char) (rest : List Char) :
    escapeChars (first :: rest) = escapeChar first ++ escapeChars rest := by
  rw [escapeChars, List.flatMap_cons, ← escapeChars]

theorem escapeChar_of_not_special {char : Char} (plain : char ∉ '&' :: delimiters) :
    escapeChar char = [char] := by
  simp only [delimiters, List.mem_cons, List.not_mem_nil, or_false, not_or] at plain
  simp [escapeChar, plain]

theorem escapeChars_of_not_special {chars : List Char}
    (plain : ∀ char ∈ chars, char ∉ '&' :: delimiters) : escapeChars chars = chars := by
  induction chars with
  | nil => rfl
  | cons first rest inductionHypothesis =>
      rw [escapeChars_cons, escapeChar_of_not_special (plain first List.mem_cons_self),
        inductionHypothesis fun char member => plain char (List.mem_cons_of_mem _ member)]
      rfl

/-- A text that is taken over is what would be written for it. -/
theorem escape_eq (text : String) : escape text = String.ofList (escapeChars text.toList) := by
  unfold escape
  split
  · rfl
  · rename_i none
    rw [escapeChars_of_not_special, String.ofList_toList]
    intro char member special
    exact none (List.any_eq_true.mpr ⟨char, member, List.contains_iff_mem.mpr special⟩)

end BraceTemplate.Text.Html

/-! ## Quoted strings of scripts

Quotes, slashes, backslashes and line breaks are written
with a backslash in front, so that what is written neither closes the string nor ends its line.
-/

namespace BraceTemplate.Text.ScriptString

def escapeChar (char : Char) : List Char :=
  if char = '\\' then ['\\', '\\']
  else if char = '/' then ['\\', '/']
  else if char = '"' then ['\\', '"']
  else if char = '\'' then ['\\', '\'']
  else if char = '\r' then ['\\', 'r']
  else if char = '\u2028' then ['\\', 'u', '2', '0', '2', '8']
  else if char = '\u2029' then ['\\', 'u', '2', '0', '2', '9']
  else if char = '\n' then ['\\', 'n']
  else if char = '\x0c' then ['\\', 'f']
  else if char = '\t' then ['\\', 't']
  else [char]

/-- Writes every character on its own. -/
def escapeChars (chars : List Char) : List Char :=
  chars.flatMap escapeChar

/-- The text as it stands in a quoted string. -/
def escape (text : String) : String :=
  String.ofList (escapeChars text.toList)

end BraceTemplate.Text.ScriptString

/-! ## Addresses

In percent encoding a character is kept, or its bytes are written as a percent sign and
two hexadecimal digits each.
-/

namespace BraceTemplate.Text.Percent

def hexDigit (value : Nat) : Char :=
  if value < 10 then Char.ofNat ('0'.toNat + value) else Char.ofNat ('A'.toNat + (value - 10))

def encodeByte (byte : UInt8) : List Char :=
  ['%', hexDigit (byte.toNat / 16), hexDigit (byte.toNat % 16)]

def encodeChar (keep : Char → Bool) (char : Char) : List Char :=
  if keep char then [char] else (String.utf8EncodeChar char).flatMap encodeByte

/-- Writes every character on its own. -/
def encodeChars (keep : Char → Bool) (chars : List Char) : List Char :=
  chars.flatMap (encodeChar keep)

/-- The characters that have no meaning of their own in an address. -/
def isUnreserved (char : Char) : Bool :=
  char.isAlphanum || ['-', '_', '.', '!', '~', '*', '\'', '(', ')'].contains char

def isDelimiter (char : Char) : Bool :=
  [';', ',', '/', '?', ':', '@', '&', '=', '+', '$', '#'].contains char

/-- Encodes a whole address: its delimiters stay. -/
def encodeAddress (text : String) : String :=
  String.ofList (encodeChars (fun char => isUnreserved char || isDelimiter char) text.toList)

/-- Encodes one part of an address: delimiters are encoded too. -/
def encodeComponent (text : String) : String :=
  String.ofList (encodeChars isUnreserved text.toList)

/-- A text in two parts is encoded part by part. -/
theorem encodeChars_append (keep : Char → Bool) (first second : List Char) :
    encodeChars keep (first ++ second) = encodeChars keep first ++ encodeChars keep second := by
  simp [encodeChars]

end BraceTemplate.Text.Percent
