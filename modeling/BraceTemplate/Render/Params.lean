import BraceTemplate.Render.State

/-!
Parameters of tags: what they evaluate to, and how one that is a function becomes a plain value.
-/

namespace BraceTemplate.Render

open Output

/-- The value of something written out. -/
def literalValue : Literal → Value
  | .string text => .string text
  | .integer value => .number (.whole value)
  | .float value => Value.ofFloat value

/-- The value of a parameter, none where it refers to nothing. -/
def paramValue? (program : Program) (context : Context) (key : String) : ParamExpr → Option Value
  | .literal value => some (literalValue value)
  | .identifier name => context.resolve? name
  | .body id => some (.function (.inline program id ⟨context.level, key⟩))

/-- The parameters of a tag; those that refer to nothing are left out, and of two under one key the
later stays. -/
def params (program : Program) (context : Context) (exprs : ParamExprs) : Value.Params :=
  Members.ofList (exprs.filterMap fun entry =>
    (paramValue? program context entry.1 entry.2).map fun value => (entry.1, value))

/-- A plain value for a parameter. A function is called with a tap that keeps what it writes; it
stands for the value it returns, else for the text it wrote, and for false where it wrote
nothing or failed. -/
def resolveValue (calls : Calls) (value : Value) (writer : Writer) (context : Context) :
    Action Value :=
  match value with
  | .function called => do
    let pot ← openPot
    match ← calls.call called (writer.tap (.collect pot)) context Bodies.none [] with
    | .ok (.value returned) => pure returned
    | .ok (.handle _) => do
      let text ← potText pot
      pure (if text.isEmpty then .bool false else .string text)
    | .error _ => pure (.bool false)
  | plain => pure plain

/-- A parameter by its key as a plain value. -/
def resolveParam? (calls : Calls) (params : Value.Params) (key : String) (writer : Writer)
    (context : Context) : Action (Option Value) :=
  match params.find? key with
  | none => pure none
  | some value => do
    let resolved ← resolveValue calls value writer context
    pure (some resolved)

end BraceTemplate.Render
