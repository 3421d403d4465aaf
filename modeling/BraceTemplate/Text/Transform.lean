/-!
Plain transformations of texts, as taps and filters use them, lengths of texts in units of sixteen
bits, and the white space around texts that are read as numbers.
-/

namespace BraceTemplate.Text

def upper (text : String) : String :=
  String.ofList (text.toList.map Char.toUpper)

def parenthesized (text : String) : String :=
  "(" ++ text ++ ")"

def doubled (text : String) : String :=
  text ++ text

def dropped (_ : String) : String :=
  ""

def counted (text : String) : String :=
  toString text.length

def reversed (text : String) : String :=
  String.ofList text.toList.reverse

/-- The transformation that a word names; any other word changes nothing. -/
def transform (word : String) : String → String :=
  match word with
  | "upper" => upper
  | "paren" => parenthesized
  | "double" => doubled
  | "drop" => dropped
  | "count" => counted
  | _ => id

def unitsOfChar (char : Char) : Nat :=
  if char.toNat < 0x10000 then 1 else 2

def units (text : String) : Nat :=
  text.toList.foldl (fun units char => units + unitsOfChar char) 0

/-- The characters with the Unicode property of white space. -/
def isWhiteSpace (char : Char) : Bool :=
  let code := char.toNat
  (0x09 ≤ code && code ≤ 0x0D) || code = 0x20 || code = 0x85 || code = 0xA0 || code = 0x1680 ||
    (0x2000 ≤ code && code ≤ 0x200A) || code = 0x2028 || code = 0x2029 || code = 0x202F ||
    code = 0x205F || code = 0x3000

def trim (text : List Char) : List Char :=
  ((text.dropWhile isWhiteSpace).reverse.dropWhile isWhiteSpace).reverse

end BraceTemplate.Text
