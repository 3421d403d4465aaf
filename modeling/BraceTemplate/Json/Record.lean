import BraceTemplate.Json.Basic

/-!
Reading typed values from JSON. A record is an object, of which unknown members do not matter, or an
array of all its fields in order. A variant is an object with one member, named for the variant, or
its bare name where it holds nothing. A member that may be absent is read as null where it is
missing.
-/

namespace BraceTemplate.Json

variable {Held : Type}

def asText? : Json → Option String
  | string text => some text
  | _ => none

def asNat? : Json → Option Nat
  | number (.whole value) => if 0 ≤ value then some value.toNat else none
  | _ => none

def asInteger? : Json → Option Int
  | number (.whole value) => if value < Int.pow 2 63 then some value else none
  | _ => none

def asDouble? : Json → Option Float
  | number value => some value.toFloat
  | _ => none

def asChar? : Json → Option Char
  | string text =>
    match text.toList with
    | [char] => some char
    | _ => none
  | _ => none

def asBool? : Json → Option Bool
  | bool value => some value
  | _ => none

def asOption? (read : Json → Option Held) : Json → Option (Option Held)
  | null => some none
  | json => (read json).map some

def asList? (read : Json → Option Held) : Json → Option (List Held)
  | array items => items.mapM read
  | _ => none

def asPair? {First Second : Type} (readFirst : Json → Option First)
    (readSecond : Json → Option Second) : Json → Option (First × Second)
  | array [first, second] =>
    (readFirst first).bind fun first => (readSecond second).map fun second => (first, second)
  | _ => none

def asMembers? (read : Json → Option Held) : Json → Option (Members Held)
  | object members => members.mapM fun entry => (read entry.2).map fun held => (entry.1, held)
  | _ => none

def fields? (names : List String) : Json → Option (List Json)
  | object members => some (names.map fun name => (Members.find? members name).getD null)
  | _ => none

def record? (names : List String) : Json → Option (List Json)
  | array items => if items.length = names.length then some items else none
  | json => json.fields? names

/-- The name and the content of a variant; a bare name holds null. -/
def variant? : Json → Option (String × Json)
  | string name => some (name, null)
  | object [(name, content)] => some (name, content)
  | _ => none

/-- The name of a variant that holds nothing. -/
def word? (json : Json) : Option String :=
  match json.variant? with
  | some (name, null) => some name
  | _ => none

def ofVariant (name : String) (content : Json) : Json :=
  object [(name, content)]

def ofList (encode : Held → Json) (held : List Held) : Json :=
  array (held.map encode)

def ofPair {First Second : Type} (encodeFirst : First → Json) (encodeSecond : Second → Json)
    (pair : First × Second) : Json :=
  array [encodeFirst pair.1, encodeSecond pair.2]

end BraceTemplate.Json
