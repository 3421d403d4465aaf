import BraceTemplate.Render.Host
import BraceTemplate.Text.Transform

/-!
The helpers that every engine starts with. A comparison takes its key from a parameter or from the
select it stands in; once a branch of a select has matched, later branches that rely on its key do
not.
-/

namespace BraceTemplate.Render

open Output

/-- Whether a context stands at the last element of the array that is gone through. -/
def isLast (context : Context) : Bool :=
  match context.iteration? with
  | none => false
  | some iteration => nextWord iteration.index == iteration.length

def runSeparator (calls : Calls) (writer : Writer) (context : Context) (bodies : Bodies) :
    Action (Except RenderError Writer) :=
  if isLast context then pure (.ok writer) else calls.renderNamed bodies mainBody writer context

/-- Renders the main body with the place in the array. -/
def runPlace (calls : Calls) (writer : Writer) (context : Context) (bodies : Bodies) :
    Action (Except RenderError Writer) :=
  calls.renderNamed bodies mainBody writer
    (context.push ((context.index?.map Value.ofNat).getD .null))

/-- Renders the main body in a select with a key. -/
def renderSelect (calls : Calls) (key : Value) (writer : Writer) (context : Context)
    (bodies : Bodies) : Action (Except RenderError Writer) :=
  withFreshSelect (calls.renderNamed bodies mainBody writer (context.pushSelect key))

/-- Opens a select with the key of a parameter. -/
def runSelect (calls : Calls) (writer : Writer) (context : Context) (bodies : Bodies)
    (params : Value.Params) : Action (Except RenderError Writer) := do
  match ← resolveParam? calls params "key" writer context with
  | none => pure (.ok writer)
  | some key => renderSelect calls key writer context bodies

/-- The key of a comparison and whether it may match: a parameter, or else the key of the select as
long as no branch has matched. -/
def comparisonKey? (calls : Calls) (writer : Writer) (context : Context) (params : Value.Params) :
    Action (Option (Value × Bool)) := do
  match ← resolveParam? calls params "key" writer context with
  | some key => pure (some (key, true))
  | none =>
    match context.select? with
    | some key => do
      let settled ← isSettled
      pure (some (key, !settled))
    | none => pure none

/-- Renders the main body where a comparison holds, and the other branch elsewhere. -/
def runComparison (calls : Calls) (comparison : Comparison) (writer : Writer) (context : Context)
    (bodies : Bodies) (params : Value.Params) : Action (Except RenderError Writer) := do
  match ← comparisonKey? calls writer context params with
  | none => pure (.ok writer)
  | some (key, mayMatch) => do
    let expected := (← resolveParam? calls params "value" writer context).getD .null
    let type := (params.find? "type").bind Value.text?
    let left := Operand.coerce key type context
    let right := Operand.coerce expected type context
    if mayMatch && comparison.holds left right then
      if context.select?.isSome then setSettled true
      calls.renderNamed bodies mainBody writer context
    else calls.renderNamed bodies elseBody writer context

/-- Calculates; the result is written, or is the key of a select for the main body. -/
def runMath (calls : Calls) (writer : Writer) (context : Context) (bodies : Bodies)
    (params : Value.Params) : Action (Except RenderError Writer) := do
  let key? ← resolveParam? calls params "key" writer context
  let method? ← resolveParam? calls params "method" writer context
  match key?, method?.filter Value.isTruthy with
  | some key, some method => do
    let operand? ← resolveParam? calls params "operand" writer context
    let operand := (operand?.map Calculation.quantity).getD Operand.undefined
    match Calculation.result? method.display (Calculation.quantity key) operand with
    | none => pure (.ok writer)
    | some exact => do
      let rounds := ((params.find? "round").map Value.isTruthy).getD false
      let result := if rounds then Calculation.roundHalfUp exact else exact
      match bodies.find? mainBody with
      | some _ => renderSelect calls (Value.ofFloat result) writer context bodies
      | none => pure (.ok (← writer.write (Numeral.templateText result)))
  | _, _ => pure (.ok writer)

/-- The size of a value: how many items, members or units it has; numbers and texts that read as
finite numbers are their own size. -/
def sizeText : Option Value → String
  | some (.array items) => toString items.length
  | some (.object members) => toString members.length
  | some (.number value) => Value.numberText value
  | some (.string text) =>
    if text.isEmpty then "0"
    else
      match Numeral.readDouble? (Text.trim text.toList) with
      | some value => if value.isFinite then text else toString (Text.units text)
      | none => toString (Text.units text)
  | _ => "0"

/-- Writes the size of a parameter. -/
def runSize (calls : Calls) (writer : Writer) (context : Context) (params : Value.Params) :
    Action (Except RenderError Writer) := do
  let value? ← resolveParam? calls params "key" writer context
  pure (.ok (← writer.write (sizeText value?)))

/-- Writes the innermost frame, or all of them, as indented JSON, unless it is meant for the
console. -/
def runContextDump (calls : Calls) (writer : Writer) (context : Context) (params : Value.Params) :
    Action (Except RenderError Writer) := do
  let key? ← resolveParam? calls params "key" writer context
  let to? ← resolveParam? calls params "to" writer context
  let dump :=
    if key?.map Value.display = some "full" then context.stackJson
    else (context.current?.map Value.toJson).getD .null
  if to?.map Value.display = some "console" then pure (.ok writer)
  else pure (.ok (← writer.write dump.indented))

/-- Calls a helper that every engine starts with. -/
def runBuiltin (calls : Calls) (helper : BuiltinHelper) (writer : Writer) (context : Context)
    (bodies : Bodies) (params : Value.Params) : Action (Except RenderError Writer) :=
  match helper with
  | .separator => runSeparator calls writer context bodies
  | .place => runPlace calls writer context bodies
  | .select => runSelect calls writer context bodies params
  | .compare comparison => runComparison calls comparison writer context bodies params
  | .math => runMath calls writer context bodies params
  | .size => runSize calls writer context params
  | .contextDump => runContextDump calls writer context params

def runHelper (calls : Calls) (helper : Helper) (writer : Writer) (context : Context)
    (bodies : Bodies) (params : Value.Params) : Action (Except RenderError Writer) :=
  match helper with
  | .builtin helper => runBuiltin calls helper writer context bodies params
  | .host helper => runHostHelper calls helper writer context bodies params

end BraceTemplate.Render
