import BraceTemplate.Render.Filter
import BraceTemplate.Text.Transform

/-!
Filters that a host may add to an engine.
-/

namespace BraceTemplate.Filter

def reversed : Filter :=
  ofText Text.reversed

def upper : Filter :=
  ofText Text.upper

def kind : Filter :=
  fun value => .string value.kind

def constant (value : Value) : Filter :=
  fun _ => value

def paired : Filter :=
  fun value => .array [value, value]

/-- The length of a text or an array, null for anything without one. -/
def length : Filter :=
  fun value => (value.child? "length").getD .null

def same : Filter :=
  fun value => value

end BraceTemplate.Filter
