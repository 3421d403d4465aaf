import BraceTemplate.Numeral.Magnitude

/-!
Reading decimals: the double nearest to a decimal quantity, the looser grammar that texts of the
data are read by, and whole numbers.
-/

namespace BraceTemplate.Numeral

def natOfDigits (digits : List Char) : Nat :=
  digits.foldl (fun value digit => value * 10 + (digit.toNat - '0'.toNat)) 0

/-- The double nearest to `coefficient * 10 ^ exponent`. -/
def nearest (coefficient : Nat) (exponent : Int) : Float :=
  if coefficient = 0 then 0.0
  else
    let size : Int := ((toString coefficient).length : Int) + exponent
    if size > 400 then 1.0 / 0.0
    else if size < -400 then 0.0
    else Float.ofScientific coefficient (exponent < 0) exponent.natAbs

/-- A text with its sign taken off: whether it is negative, and the rest. -/
def takeSign : List Char → Bool × List Char
  | '-' :: rest => (true, rest)
  | '+' :: rest => (false, rest)
  | text => (false, text)

/-- The exponent written at the end of a number, nothing for none. -/
def readExponent? : List Char → Option Int
  | [] => some 0
  | mark :: rest =>
    if mark = 'e' || mark = 'E' then
      let (negative, digits) := takeSign rest
      if digits.isEmpty || !digits.all Char.isDigit then none
      else some (if negative then -(natOfDigits digits : Int) else natOfDigits digits)
    else none

/-- An unsigned decimal: digits with at most one point, at least one digit, and perhaps an exponent.
-/
def readUnsigned? (text : List Char) : Option Float :=
  let whole := text.takeWhile Char.isDigit
  let afterWhole := text.dropWhile Char.isDigit
  let (fraction, afterFraction) :=
    match afterWhole with
    | '.' :: rest => (rest.takeWhile Char.isDigit, rest.dropWhile Char.isDigit)
    | rest => ([], rest)
  if whole.isEmpty && fraction.isEmpty then none
  else
    match readExponent? afterFraction with
    | none => none
    | some exponent => some (nearest (natOfDigits (whole ++ fraction)) (exponent - fraction.length))

/-- The double a text denotes: a sign, then a decimal, an infinity or the undefined value by name.
-/
def readDouble? (text : List Char) : Option Float :=
  let (negative, body) := takeSign text
  let lower := String.ofList (body.map Char.toLower)
  let magnitude? :=
    if lower = "inf" || lower = "infinity" then some (1.0 / 0.0)
    else if lower = "nan" then some (0.0 / 0.0)
    else readUnsigned? body
  magnitude?.map fun magnitude => if negative then -magnitude else magnitude

/-- The position an index denotes: decimal digits, perhaps after a plus sign, within 64 bits. -/
def readIndex? (text : String) : Option Nat :=
  let digits :=
    match text.toList with
    | '+' :: rest => rest
    | rest => rest
  if digits.isEmpty || !digits.all Char.isDigit then none
  else
    let value := natOfDigits digits
    if value < Nat.pow 2 64 then some value else none

end BraceTemplate.Numeral
