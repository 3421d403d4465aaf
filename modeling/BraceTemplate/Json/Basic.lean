import BraceTemplate.Members

/-!
JSON values and the numbers in them.
-/

namespace BraceTemplate

/-! ## Numbers

Numbers are whole numbers, kept exactly, and doubles. A whole number and a double are never equal,
even where they denote the same quantity.
-/

/-- A whole number from -2^63 up to 2^64 - 1, or a finite double. -/
inductive Number where
  | whole (value : Int)
  | double (value : Float)
deriving BEq, Inhabited

namespace Number

def isWhole (value : Int) : Bool :=
  -(Int.pow 2 63) ≤ value && value < Int.pow 2 64

def toFloat : Number → Float
  | whole value =>
    if value < 0 then -(UInt64.ofNat value.natAbs).toFloat else (UInt64.ofNat value.natAbs).toFloat
  | double value => value

/-- The number a natural number is held as. -/
def ofNat (value : Nat) : Number :=
  whole value

end Number

/-! ## Values

Objects keep their members in key order, each key once.
-/

/-- A JSON value. -/
inductive Json where
  | null
  | bool (value : Bool)
  | number (value : Number)
  | string (text : String)
  | array (items : List Json)
  | object (members : List (String × Json))
deriving Inhabited

namespace Json

def member? (json : Json) (key : String) : Option Json :=
  match json with
  | object members => Members.find? members key
  | _ => none

def ofMembers (entries : List (String × Json)) : Json :=
  object (Members.ofList entries)

def nat (value : Nat) : Json :=
  number (Number.ofNat value)

def ofOption {Held : Type} (encode : Held → Json) : Option Held → Json
  | none => null
  | some held => encode held

end Json

end BraceTemplate
