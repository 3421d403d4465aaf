import BraceTemplate.Json.Parser
import BraceTemplate.Text.Escaping
import BraceTemplate.Value.Basic

/-!
Filters: what stands between the value of a reference and what is written.
-/

namespace BraceTemplate

abbrev Filter := Value → Value

namespace Filter

/-- A transformation of what a value is written as. -/
def ofText (transform : String → String) : Filter :=
  fun value => .string (transform value.display)

def toJsonText : Filter :=
  fun value => .string value.toJson.compact

/-- The value that a JSON text denotes. Anything else stays as it is. -/
def ofJsonText : Filter := fun value =>
  match value with
  | .string text =>
    match Json.parse? text with
    | some json => .ofJson json
    | none => value
  | _ => value

/-- The filters that every engine starts with. -/
def standard : Members Filter :=
  Members.ofList [
    ("h", ofText Text.Html.escape),
    ("j", ofText Text.ScriptString.escape),
    ("u", ofText Text.Percent.encodeAddress),
    ("uc", ofText Text.Percent.encodeComponent),
    ("js", toJsonText),
    ("jp", ofJsonText)]

def plainName : String := "s"

/-- Applies a filter by name; a name without a filter changes nothing. -/
def applyNamed (filters : Members Filter) (name : String) (value : Value) : Value :=
  match filters.find? name with
  | some filter => filter value
  | none => value

/-- The filter names that apply for a chain: its own in order, then the automatic one unless it is
turned off. -/
def names (chain : FilterChain) : List String :=
  chain.filters.filter (· != plainName) ++
    (if chain.filters.contains plainName then [] else chain.auto.toList)

def applyChain (filters : Members Filter) (chain : FilterChain) (value : Value) : String :=
  ((names chain).foldl (fun filtered name => applyNamed filters name filtered) value).display

end Filter

end BraceTemplate
