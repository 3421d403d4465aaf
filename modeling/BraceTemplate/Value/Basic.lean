import BraceTemplate.Json.Printer
import BraceTemplate.Numeral.Layout
import BraceTemplate.Numeral.Reading
import BraceTemplate.Text.Transform
import BraceTemplate.Value.Host

/-!
Values of the data that templates render: JSON values and functions. A function is either a text
with tags in it that a tag passed on, or a function of the host; functions are equal only if they
are the same one.
-/

namespace BraceTemplate

/-- What tells apart the texts passed on by tags: how deep in the nesting the tag stands, and the
key of the parameter. Of the tags that surround one place, no two stand equally deep. -/
structure Stamp where
  level : Nat
  key : String
deriving Repr, DecidableEq

/-- A value that is called. -/
inductive Function (Held : Type) where
  /-- A body of a program, rendered where it is used. -/
  | inline (program : Program) (body : BodyId) (stamp : Stamp)
  | host (identity : Nat) (function : HostFunction Held)

/-- A value of the data. -/
inductive Value where
  | null
  | bool (value : Bool)
  | number (value : Number)
  | string (text : String)
  | array (items : List Value)
  | object (members : List (String × Value))
  | function (called : Function Value)

instance : Inhabited Value := ⟨.null⟩

/-- Whether two functions are the same one. -/
def Function.same {Held : Type} : Function Held → Function Held → Bool
  | inline _ _ first, inline _ _ second => first = second
  | host first _, host second _ => first = second
  | _, _ => false

namespace Value

/-- The parameters of a tag, evaluated. -/
abbrev Params := Members Value

mutual

def same : Value → Value → Bool
  | null, null => true
  | bool first, bool second => first == second
  | number first, number second => first == second
  | string first, string second => first == second
  | array first, array second => sameItems first second
  | object first, object second => sameMembers first second
  | function first, function second => first.same second
  | _, _ => false

/-- Equality of the items of arrays. -/
def sameItems : List Value → List Value → Bool
  | [], [] => true
  | first :: firsts, second :: seconds => same first second && sameItems firsts seconds
  | _, _ => false

/-- Equality of the members of objects. -/
def sameMembers : List (String × Value) → List (String × Value) → Bool
  | [], [] => true
  | (firstKey, first) :: firsts, (secondKey, second) :: seconds =>
    firstKey == secondKey && same first second && sameMembers firsts seconds
  | _, _ => false

end

/-- Whether a section renders its body for a value. Zero counts as present. -/
def isTruthy : Value → Bool
  | null => false
  | bool value => value
  | string text => !text.isEmpty
  | _ => true

/-- Whether a value is empty: null, false, the empty text and the empty array. -/
def isEmpty : Value → Bool
  | null => true
  | bool value => !value
  | string text => text.isEmpty
  | array items => items.isEmpty
  | _ => false

/-- Whether a value is a function. -/
def isFunction : Value → Bool
  | function _ => true
  | _ => false

def text? : Value → Option String
  | string text => some text
  | _ => none

def double? : Value → Option Float
  | number value => some value.toFloat
  | _ => none

def items? : Value → Option (List Value)
  | array items => some items
  | _ => none

def keys? : Value → Option (List String)
  | object members => some (members.map Prod.fst)
  | _ => none

def ofNat (value : Nat) : Value :=
  number (Number.ofNat value)

def ofFloat (value : Float) : Value :=
  if value.isFinite then number (.double value) else null

/-- One step of a path: a member of an object, an item of an array by its index, or the length of an
array or a text. -/
def child? (value : Value) (key : String) : Option Value :=
  match value with
  | object members => Members.find? members key
  | array items =>
    if key = "length" then some (ofNat items.length)
    else (Numeral.readIndex? key).bind fun index => items[index]?
  | string text => if key = "length" then some (ofNat text.length) else none
  | _ => none

/-- The quantity of a value where one can be read from it: numbers, texts that read as one, truth as
one and falsehood, null and blank texts as zero. -/
def quantity? : Value → Option Float
  | null => some 0.0
  | bool value => some (if value then 1.0 else 0.0)
  | number value => some value.toFloat
  | string text =>
    let trimmed := Text.trim text.toList
    if trimmed.isEmpty then some 0.0 else Numeral.readDouble? trimmed
  | _ => none

mutual

/-- The JSON value of a value. Functions have none: they become null among items and are left out
among members. -/
def toJson : Value → Json
  | null => .null
  | bool value => .bool value
  | number value => .number value
  | string text => .string text
  | array items => .array (itemsToJson items)
  | object members => .object (membersToJson members)
  | function _ => .null

def itemsToJson : List Value → List Json
  | [] => []
  | item :: rest => toJson item :: itemsToJson rest

def membersToJson : List (String × Value) → List (String × Json)
  | [] => []
  | (key, value) :: rest =>
    if value.isFunction then membersToJson rest else (key, toJson value) :: membersToJson rest

end

mutual

/-- The value of a JSON value. -/
def ofJson : Json → Value
  | .null => null
  | .bool value => bool value
  | .number value => number value
  | .string text => string text
  | .array items => array (itemsOfJson items)
  | .object members => object (membersOfJson members)

def itemsOfJson : List Json → List Value
  | [] => []
  | item :: rest => ofJson item :: itemsOfJson rest

def membersOfJson : List (String × Json) → List (String × Value)
  | [] => []
  | (key, value) :: rest => (key, ofJson value) :: membersOfJson rest

end

def numberText : Number → String
  | .whole value => toString value
  | .double value => Numeral.templateText value

mutual

/-- How a value is written: texts as they are, items with commas between them, objects as JSON. -/
def display : Value → String
  | null => ""
  | bool value => if value then "true" else "false"
  | number value => numberText value
  | string text => text
  | array items => displayItems items
  | object members => (Json.object (membersToJson members)).compact
  | function _ => "[function]"

/-- How the items of an array are written. -/
def displayItems : List Value → String
  | [] => ""
  | [item] => display item
  | item :: next :: rest => display item ++ "," ++ displayItems (next :: rest)

end

/-- The kind of a value in one word. -/
def kind : Value → String
  | null => "null"
  | bool _ => "bool"
  | number _ => "number"
  | string _ => "string"
  | array _ => "array"
  | object _ => "object"
  | function (.inline _ _ _) => "body"
  | function (.host _ _) => "function"

end Value

end BraceTemplate
