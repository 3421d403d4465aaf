import BraceTemplate.Json.Basic
import BraceTemplate.Numeral.Layout

/-!
JSON texts, on one line or indented by two spaces. Only quotes, backslashes and control characters
below the space are escaped.
-/

namespace BraceTemplate.Json

def hexDigit (value : Nat) : Char :=
  if value < 10 then Char.ofNat ('0'.toNat + value) else Char.ofNat ('a'.toNat + (value - 10))

/-- A character inside a quoted JSON text. -/
def escapeChar (char : Char) : List Char :=
  if char = '"' then ['\\', '"']
  else if char = '\\' then ['\\', '\\']
  else if char = '\x08' then ['\\', 'b']
  else if char = '\x0c' then ['\\', 'f']
  else if char = '\n' then ['\\', 'n']
  else if char = '\r' then ['\\', 'r']
  else if char = '\t' then ['\\', 't']
  else if char.toNat < 0x20 then
    ['\\', 'u', '0', '0', hexDigit (char.toNat / 16), hexDigit (char.toNat % 16)]
  else [char]

def quote (text : String) : String :=
  "\"" ++ String.ofList (text.toList.flatMap escapeChar) ++ "\""

def numberText : Number → String
  | .whole value => toString value
  | .double value => Numeral.jsonText value

def openBrace : String := "\x7b"

def closeBrace : String := "\x7d"

mutual

/-- The text of a value on one line without spaces. -/
def compact : Json → String
  | null => "null"
  | bool value => if value then "true" else "false"
  | number value => numberText value
  | string text => quote text
  | array items => "[" ++ ",".intercalate (compactItems items) ++ "]"
  | object members => openBrace ++ ",".intercalate (compactMembers members) ++ closeBrace

def compactItems : List Json → List String
  | [] => []
  | item :: rest => compact item :: compactItems rest

def compactMembers : List (String × Json) → List String
  | [] => []
  | (key, value) :: rest => (quote key ++ ":" ++ compact value) :: compactMembers rest

end

/-- A line break and the indentation of a depth. -/
def lineBreak (depth : Nat) : String :=
  "\n" ++ String.ofList (List.replicate (2 * depth) ' ')

/-- Lays texts out between brackets, one a line; nothing between the brackets for no texts. -/
def bracketed (opening closing : String) (depth : Nat) (texts : List String) : String :=
  if texts.isEmpty then opening ++ closing
  else
    opening ++ lineBreak (depth + 1) ++ ("," ++ lineBreak (depth + 1)).intercalate texts ++
      lineBreak depth ++ closing

mutual

/-- The text of a value that stands at a depth, each item and member on a line of its own. -/
def indentedAt (depth : Nat) : Json → String
  | null => "null"
  | bool value => if value then "true" else "false"
  | number value => numberText value
  | string text => quote text
  | array items => bracketed "[" "]" depth (indentedItems (depth + 1) items)
  | object members => bracketed openBrace closeBrace depth (indentedMembers (depth + 1) members)

def indentedItems (depth : Nat) : List Json → List String
  | [] => []
  | item :: rest => indentedAt depth item :: indentedItems depth rest

/-- The texts of the members of an object. -/
def indentedMembers (depth : Nat) : List (String × Json) → List String
  | [] => []
  | (key, value) :: rest =>
    (quote key ++ ": " ++ indentedAt depth value) :: indentedMembers depth rest

end

def indented (json : Json) : String :=
  json.indentedAt 0

end BraceTemplate.Json
