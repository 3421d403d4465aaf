/-!
Finite doubles as exact quantities `mantissa * 2 ^ exponent`, and exact comparison of such
quantities with decimal ones. The remainder of a division whose quotient is cut off toward zero is
exact too.
-/

namespace BraceTemplate.Numeral

/-- The magnitude `mantissa * 2 ^ exponent` of a finite double. -/
structure Magnitude where
  mantissa : Nat
  exponent : Int
  /-- The next double below is half as far away as the next one above. -/
  narrowBelow : Bool
deriving Repr, DecidableEq

namespace Magnitude

/-- The magnitude held in the bits of a finite double. -/
def ofBits (bits : UInt64) : Magnitude :=
  let scale := ((bits >>> 52) &&& 0x7FF).toNat
  let fraction := (bits &&& 0xFFFFFFFFFFFFF).toNat
  if scale = 0 then ⟨fraction, -1074, false⟩
  else ⟨Nat.pow 2 52 + fraction, (scale : Int) - 1075, fraction == 0 && decide (1 < scale)⟩

def ofFloat (value : Float) : Magnitude :=
  ofBits value.toBits

def floor (magnitude : Magnitude) : Nat :=
  magnitude.mantissa * Nat.pow 2 magnitude.exponent.toNat /
    Nat.pow 2 (-magnitude.exponent).toNat

def isWhole (magnitude : Magnitude) : Bool :=
  magnitude.mantissa % Nat.pow 2 (-magnitude.exponent).toNat == 0

end Magnitude

def compareScaled (left : Nat) (tens : Int) (right : Nat) (twos : Int) : Ordering :=
  compare (left * Nat.pow 10 tens.toNat * Nat.pow 2 (-twos).toNat)
    (right * Nat.pow 2 twos.toNat * Nat.pow 10 (-tens).toNat)

def isNegative (value : Float) : Bool :=
  value.toBits >>> 63 == 1

/-- What is left of the first magnitude after taking the second away as often as it fits, in units
of `2 ^ unit`, together with that unit. -/
def Magnitude.remainder (dividend divisor : Magnitude) : Nat × Int :=
  let unit := min dividend.exponent divisor.exponent
  (dividend.mantissa * Nat.pow 2 (dividend.exponent - unit).toNat %
    (divisor.mantissa * Nat.pow 2 (divisor.exponent - unit).toNat), unit)

/-- The remainder with the sign of the dividend; undefined for an infinite dividend or a divisor
zero. -/
def remainder (dividend divisor : Float) : Float :=
  if dividend.isNaN || divisor.isNaN || dividend.isInf || divisor == 0.0 then 0.0 / 0.0
  else if divisor.isInf then dividend
  else
    let (left, unit) := (Magnitude.ofFloat dividend).remainder (Magnitude.ofFloat divisor)
    let magnitude := Float.scaleB (UInt64.ofNat left).toFloat unit
    if isNegative dividend then -magnitude else magnitude

end BraceTemplate.Numeral
