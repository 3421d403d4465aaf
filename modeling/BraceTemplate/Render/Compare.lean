import BraceTemplate.Context
import BraceTemplate.Numeral.Magnitude

/-!
Comparing and calculating with values: how operands are taken, when a comparison holds, and what the
methods of calculation yield.
-/

namespace BraceTemplate

/-- What a comparison looks at: a quantity, or a value as it is. -/
inductive Operand where
  | quantity (value : Float)
  | other (value : Value)

/-- The comparisons there are. -/
inductive Comparison where
  | eq
  | ne
  | lt
  | lte
  | gt
  | gte
  /-- Holds always. -/
  | always
deriving Repr, DecidableEq

namespace Operand

def undefined : Float := 0.0 / 0.0

/-- Numbers are quantities, everything else is itself. -/
def ofValue : Value → Operand
  | .number value => quantity value.toFloat
  | value => other value

def toFloat : Operand → Float
  | quantity value => value
  | other value => value.quantity?.getD undefined

def same : Operand → Operand → Bool
  | quantity first, quantity second => first == second
  | other first, other second => first.same second
  | _, _ => false

/-- The order of quantities; none where one is undefined. -/
def orderFloats (first second : Float) : Option Ordering :=
  if first < second then some .lt
  else if first > second then some .gt
  else if first == second then some .eq
  else none

/-- Two texts are ordered by their characters, everything else by quantity. -/
def order (first second : Operand) : Option Ordering :=
  match first, second with
  | other (.string left), other (.string right) =>
    some (if left < right then .lt else if left = right then .eq else .gt)
  | _, _ => orderFloats first.toFloat second.toFloat

def isFalsy : Value → Bool
  | .number value => value.toFloat == 0.0
  | value => !value.isTruthy

/-- Takes a value as an operand of a type. Falsy values are taken as they are. -/
def coerce (value : Value) (type : Option String) (context : Context) : Operand :=
  if isFalsy value then ofValue value
  else
    match type with
    | some "number" => quantity (value.quantity?.getD undefined)
    | some "string" => other (.string value.display)
    | some "boolean" => other (.bool (value.text? != some "false"))
    | some "context" => ofValue ((context.get? value.display).getD .null)
    | _ => ofValue value

end Operand

namespace Comparison

/-- Whether a comparison holds between a key and what it is compared with. -/
def holds (comparison : Comparison) (key expected : Operand) : Bool :=
  match comparison with
  | eq => key.same expected
  | ne => !key.same expected
  | lt => key.order expected == some .lt
  | lte => key.order expected == some .lt || key.order expected == some .eq
  | gt => key.order expected == some .gt
  | gte => key.order expected == some .gt || key.order expected == some .eq
  | always => true

end Comparison

namespace Calculation

/-- The quantity to calculate with: that of a number or of a text, undefined for anything else. -/
def quantity : Value → Float
  | .number value => value.toFloat
  | .string text => (Numeral.readDouble? (Text.trim text.toList)).getD Operand.undefined
  | _ => Operand.undefined

def roundHalfUp (value : Float) : Float :=
  let floor := value.floor
  if value - floor ≥ 0.5 then floor + 1.0 else floor

/-- The result of a method, none for a method that is not known. -/
def result? (method : String) (key operand : Float) : Option Float :=
  match method with
  | "add" => some (key + operand)
  | "subtract" => some (key - operand)
  | "multiply" => some (key * operand)
  | "divide" => some (key / operand)
  | "mod" => some (Numeral.remainder key operand)
  | "ceil" => some key.ceil
  | "floor" => some key.floor
  | "round" => some (roundHalfUp key)
  | "abs" => some key.abs
  | _ => none

end Calculation

end BraceTemplate
