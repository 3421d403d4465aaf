import BraceTemplate.Numeral.Magnitude

/-!
The fewest decimal digits that read back as a given double, and how numbers are written with them.
-/

namespace BraceTemplate.Numeral

/-! ## Fewest digits

Of the decimals with the fewest digits that read back as a given double, the nearest is taken. The
search runs over grids of powers of ten, from coarse to fine, in exact arithmetic.
-/

/-- The decimal quantity `coefficient * 10 ^ exponent`. -/
structure Digits where
  coefficient : Nat
  exponent : Int
deriving Repr, DecidableEq

/-- Where to go when two decimals of the same length are equally near. -/
inductive Tie where
  | up
  | even
deriving Repr, DecidableEq

namespace Magnitude

/-- Whether a decimal lies among the reals that round to this magnitude: from halfway to the double
below to halfway to the double above, ends included where the mantissa is even. -/
def readsBack (magnitude : Magnitude) (digits : Digits) : Bool :=
  let low :=
    if magnitude.narrowBelow then 4 * magnitude.mantissa - 1 else 4 * magnitude.mantissa - 2
  let high := 4 * magnitude.mantissa + 2
  let withEnds := magnitude.mantissa % 2 == 0
  let toLow := compareScaled digits.coefficient digits.exponent low (magnitude.exponent - 2)
  let toHigh := compareScaled digits.coefficient digits.exponent high (magnitude.exponent - 2)
  (toLow == .gt || (withEnds && toLow == .eq)) && (toHigh == .lt || (withEnds && toHigh == .eq))

/-- The least `k` from `start` on with the magnitude below `10 ^ k`. -/
def scaleFrom (magnitude : Magnitude) (start : Int) : Nat → Int
  | 0 => start
  | attempts + 1 =>
    if compareScaled 1 start magnitude.mantissa magnitude.exponent == .gt then start
    else scaleFrom magnitude (start + 1) attempts

/-- The least `k` with the magnitude below `10 ^ k`: estimated from the binary logarithm, then
corrected. -/
def scale (magnitude : Magnitude) : Int :=
  let binary : Int := (Nat.log2 magnitude.mantissa : Int) + magnitude.exponent
  magnitude.scaleFrom (Int.fdiv (binary * 30103) 100000 - 1) 8

def gridFloor (magnitude : Magnitude) (step : Int) : Nat :=
  (magnitude.mantissa * Nat.pow 2 magnitude.exponent.toNat * Nat.pow 10 (-step).toNat) /
    (Nat.pow 10 step.toNat * Nat.pow 2 (-magnitude.exponent).toNat)

/-- The neighbour on the grid of `10 ^ step` that reads back; of two the nearer one. -/
def onGrid (magnitude : Magnitude) (tie : Tie) (step : Int) : Option Digits :=
  let below : Digits := ⟨magnitude.gridFloor step, step⟩
  let above : Digits := ⟨magnitude.gridFloor step + 1, step⟩
  match magnitude.readsBack below, magnitude.readsBack above with
  | false, false => none
  | true, false => some below
  | false, true => some above
  | true, true =>
    let middle := 2 * below.coefficient + 1
    match compareScaled middle step magnitude.mantissa (magnitude.exponent + 1) with
    | .gt => some below
    | .lt => some above
    | .eq =>
      match tie with
      | .up => some above
      | .even => if below.coefficient % 2 == 0 then some below else some above

def allDigits (magnitude : Magnitude) : Digits :=
  ⟨magnitude.mantissa * Nat.pow 2 magnitude.exponent.toNat *
      Nat.pow 5 (-magnitude.exponent).toNat,
    min magnitude.exponent 0⟩

/-- Moves trailing zeros of the digits into the exponent. -/
def dropZeros (digits : Digits) : Nat → Digits
  | 0 => digits
  | attempts + 1 =>
    if digits.coefficient % 10 == 0 && digits.coefficient != 0 then
      dropZeros ⟨digits.coefficient / 10, digits.exponent + 1⟩ attempts
    else digits

/-- The fewest digits that read back as the magnitude; no double needs more than seventeen. -/
def shortest (magnitude : Magnitude) (tie : Tie) : Digits :=
  if magnitude.mantissa = 0 then ⟨0, 0⟩
  else
    let found := (List.range 17).findSome? fun (count : Nat) =>
      magnitude.onGrid tie (magnitude.scale - ((count : Int) + 1))
    dropZeros (found.getD magnitude.allDigits) 400

end Magnitude

/-! ## Layouts

In templates, in JSON texts, and as plain decimals: each is one function of the fewest digits that
read back.
-/

/-- The digits of a decimal with the point in its place and without an exponent; `places` is the
least number of digits after the point. -/
def positional (digits : Digits) (places : Nat) : String :=
  let written := toString digits.coefficient
  let behind := (-digits.exponent).toNat
  let whole :=
    if behind < written.length then
      String.ofList (written.toList.take (written.length - behind) ++
        List.replicate digits.exponent.toNat '0')
    else "0"
  let fraction :=
    if behind < written.length then written.toList.drop (written.length - behind)
    else List.replicate (behind - written.length) '0' ++ written.toList
  let padded := (if behind = 0 then [] else fraction) ++
    List.replicate (places - behind) '0'
  if padded.isEmpty then whole else whole ++ "." ++ String.ofList padded

/-- The digits of a decimal with the point after the first one and a signed exponent. -/
def scientific (digits : Digits) : String :=
  let written := (toString digits.coefficient).toList
  let power := digits.exponent + (written.length : Int) - 1
  let tail := written.drop 1
  String.ofList (written.take 1) ++ (if tail.isEmpty then "" else "." ++ String.ofList tail) ++
    "e" ++ (if power < 0 then "-" else "+") ++ toString power.natAbs

def signed (value : Float) (text : String) : String :=
  if isNegative value then "-" ++ text else text

/-- A double as a plain decimal without an exponent. -/
def plainText (value : Float) : String :=
  if value.isNaN then "NaN"
  else if value.isInf then signed value "inf"
  else signed value (positional ((Magnitude.ofFloat value).shortest .up) 0)

/-- A double as templates show it: whole values below 10^21 with all their digits and no point, zero
without a sign, everything else as a plain decimal. -/
def templateText (value : Float) : String :=
  if value.isNaN then "NaN"
  else if value.isInf then signed value "Infinity"
  else
    let magnitude := Magnitude.ofFloat value
    if magnitude.isWhole && decide (magnitude.floor < Nat.pow 10 21) then
      if magnitude.mantissa = 0 then "0" else signed value (toString magnitude.floor)
    else plainText value

/-- A finite double in a JSON text: at least one digit after the point where the first digit stands
for 10^-5 up to 10^15, a signed exponent elsewhere. -/
def jsonText (value : Float) : String :=
  let digits := (Magnitude.ofFloat value).shortest .even
  let power := digits.exponent + ((toString digits.coefficient).length : Int) - 1
  signed value (if -5 ≤ power && power ≤ 15 then positional digits 1 else scientific digits)

end BraceTemplate.Numeral
