import BraceTemplate.Json.Basic
import BraceTemplate.Numeral.Reading

/-!
Reading JSON texts. A reader takes the characters that are left and returns what it read together
with the rest, or nothing where the text is no JSON. Values nest at most 127 deep; of two members
under one key the later one stays; a number too large for a double is refused.
-/

namespace BraceTemplate.Json

def isSpace (char : Char) : Bool :=
  char = ' ' || char = '\n' || char = '\t' || char = '\r'

def skipSpace (text : List Char) : List Char :=
  text.dropWhile isSpace

/-- The characters after a given beginning. -/
def strip? : List Char → List Char → Option (List Char)
  | [], rest => some rest
  | _ :: _, [] => none
  | wanted :: more, char :: rest => if wanted = char then strip? more rest else none

/-- The value of a hexadecimal digit. -/
def hexValue? (char : Char) : Option Nat :=
  if char.isDigit then some (char.toNat - '0'.toNat)
  else if 'a' ≤ char && char ≤ 'f' then some (char.toNat - 'a'.toNat + 10)
  else if 'A' ≤ char && char ≤ 'F' then some (char.toNat - 'A'.toNat + 10)
  else none

def readUnit? : List Char → Option (Nat × List Char)
  | first :: second :: third :: fourth :: rest => do
    let first ← hexValue? first
    let second ← hexValue? second
    let third ← hexValue? third
    let fourth ← hexValue? fourth
    pure (((first * 16 + second) * 16 + third) * 16 + fourth, rest)
  | _ => none

/-- The character that an escape with four hexadecimal digits stands for, after its mark. A unit of
the upper half of a pair must be followed by one of the lower half. -/
def readUnicode? (text : List Char) : Option (Char × List Char) := do
  let (unit, rest) ← readUnit? text
  if 0xD800 ≤ unit && unit < 0xDC00 then
    let after ← strip? ['\\', 'u'] rest
    let (low, rest) ← readUnit? after
    if 0xDC00 ≤ low && low < 0xE000 then
      pure (Char.ofNat (0x10000 + (unit - 0xD800) * 0x400 + (low - 0xDC00)), rest)
    else none
  else if 0xDC00 ≤ unit && unit < 0xE000 then none
  else pure (Char.ofNat unit, rest)

/-- The character that an escape stands for, after its backslash. -/
def readEscape? : List Char → Option (Char × List Char)
  | '"' :: rest => some ('"', rest)
  | '\\' :: rest => some ('\\', rest)
  | '/' :: rest => some ('/', rest)
  | 'b' :: rest => some ('\x08', rest)
  | 'f' :: rest => some ('\x0c', rest)
  | 'n' :: rest => some ('\n', rest)
  | 'r' :: rest => some ('\r', rest)
  | 't' :: rest => some ('\t', rest)
  | 'u' :: rest => readUnicode? rest
  | _ => none

/-- A quoted text after its opening quote; the fuel is the number of characters left. -/
def readQuoted? : Nat → List Char → List Char → Option (String × List Char)
  | 0, _, _ => none
  | _ + 1, _, [] => none
  | fuel + 1, done, char :: rest =>
    if char = '"' then some (String.ofList done.reverse, rest)
    else if char = '\\' then
      match readEscape? rest with
      | none => none
      | some (escaped, after) => readQuoted? fuel (escaped :: done) after
    else if char.toNat < 0x20 then none
    else readQuoted? fuel (char :: done) rest

/-- The digits before the point: a zero alone, or digits that do not start with one. -/
def readWhole? (text : List Char) : Option (List Char × List Char) :=
  match text with
  | '0' :: rest =>
    match rest with
    | next :: _ => if next.isDigit then none else some (['0'], rest)
    | [] => some (['0'], rest)
  | _ =>
    let digits := text.takeWhile Char.isDigit
    if digits.isEmpty then none else some (digits, text.dropWhile Char.isDigit)

/-- The digits after the point, nothing where there is no point. -/
def readFraction? : List Char → Option (Option (List Char) × List Char)
  | '.' :: rest =>
    let digits := rest.takeWhile Char.isDigit
    if digits.isEmpty then none else some (some digits, rest.dropWhile Char.isDigit)
  | rest => some (none, rest)

/-- The exponent, nothing where there is none. -/
def readPower? : List Char → Option (Option Int × List Char)
  | mark :: rest =>
    if mark = 'e' || mark = 'E' then
      let (negative, after) := Numeral.takeSign rest
      let digits := after.takeWhile Char.isDigit
      if digits.isEmpty then none
      else
        let size : Int := Numeral.natOfDigits digits
        some (some (if negative then -size else size), after.dropWhile Char.isDigit)
    else some (none, mark :: rest)
  | [] => some (none, [])

/-- A number. Without point and exponent it is whole where it fits; minus zero is a double. -/
def readNumber? (text : List Char) : Option (Number × List Char) := do
  let (negative, body) :=
    match text with
    | '-' :: rest => (true, rest)
    | rest => (false, rest)
  let (digits, afterDigits) ← readWhole? body
  let (fraction?, afterFraction) ← readFraction? afterDigits
  let (power?, rest) ← readPower? afterFraction
  let whole : Int := Numeral.natOfDigits digits
  let value := if negative then -whole else whole
  let plain := fraction?.isNone && power?.isNone
  if plain && Number.isWhole value && !(negative && whole = 0) then pure (.whole value, rest)
  else
    let fraction := fraction?.getD []
    let magnitude :=
      Numeral.nearest (Numeral.natOfDigits (digits ++ fraction)) (power?.getD 0 - fraction.length)
    if magnitude.isInf then none
    else pure (.double (if negative then -magnitude else magnitude), rest)

mutual

/-- A value after white space. The first number bounds the steps, the second the nesting that is
left. -/
def readValue? : Nat → Nat → List Char → Option (Json × List Char)
  | 0, _, _ => none
  | fuel + 1, depth, text =>
    match skipSpace text with
    | [] => none
    | char :: rest =>
      if char = '"' then
        (readQuoted? (rest.length + 1) [] rest).map fun (text, after) => (string text, after)
      else if char = '[' then
        match depth with
        | 0 => none
        | depth + 1 => readArray? fuel depth rest
      else if char = '\x7b' then
        match depth with
        | 0 => none
        | depth + 1 => readObject? fuel depth rest
      else if char = 'n' then (strip? ['u', 'l', 'l'] rest).map (null, ·)
      else if char = 't' then (strip? ['r', 'u', 'e'] rest).map (bool true, ·)
      else if char = 'f' then (strip? ['a', 'l', 's', 'e'] rest).map (bool false, ·)
      else if char = '-' || char.isDigit then
        (readNumber? (char :: rest)).map fun (value, after) => (number value, after)
      else none

/-- An array after its opening bracket. -/
def readArray? : Nat → Nat → List Char → Option (Json × List Char)
  | 0, _, _ => none
  | fuel + 1, depth, text =>
    match skipSpace text with
    | ']' :: rest => some (array [], rest)
    | after => (readItems? fuel depth after).map fun (items, rest) => (array items, rest)

/-- The items of an array that is not empty, up to its closing bracket. -/
def readItems? : Nat → Nat → List Char → Option (List Json × List Char)
  | 0, _, _ => none
  | fuel + 1, depth, text =>
    match readValue? fuel depth text with
    | none => none
    | some (item, after) =>
      match skipSpace after with
      | ']' :: rest => some ([item], rest)
      | ',' :: rest => (readItems? fuel depth rest).map fun (items, rest) => (item :: items, rest)
      | _ => none

/-- An object after its opening brace. -/
def readObject? : Nat → Nat → List Char → Option (Json × List Char)
  | 0, _, _ => none
  | fuel + 1, depth, text =>
    match skipSpace text with
    | '\x7d' :: rest => some (object [], rest)
    | after => (readMembers? fuel depth after).map fun (members, rest) => (ofMembers members, rest)

/-- The members of an object that is not empty, up to its closing brace. -/
def readMembers? : Nat → Nat → List Char → Option (List (String × Json) × List Char)
  | 0, _, _ => none
  | fuel + 1, depth, text =>
    match skipSpace text with
    | '"' :: inner =>
      match readQuoted? (inner.length + 1) [] inner with
      | none => none
      | some (key, afterKey) =>
        match skipSpace afterKey with
        | ':' :: afterColon =>
          match readValue? fuel depth afterColon with
          | none => none
          | some (value, after) =>
            match skipSpace after with
            | '\x7d' :: rest => some ([(key, value)], rest)
            | ',' :: rest =>
              (readMembers? fuel depth rest).map fun (members, rest) =>
                ((key, value) :: members, rest)
            | _ => none
        | _ => none
    | _ => none

end

/-- How deep arrays and objects may nest. -/
def maxDepth : Nat := 127

/-- The value a text denotes, with nothing but white space around it. -/
def parse? (text : String) : Option Json :=
  let chars := text.toList
  match readValue? (2 * chars.length + 2) maxDepth chars with
  | some (json, rest) => if (skipSpace rest).isEmpty then some json else none
  | none => none

end BraceTemplate.Json
