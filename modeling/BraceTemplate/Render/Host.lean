import BraceTemplate.Render.Params

/-!
What functions and helpers of the host do.
-/

namespace BraceTemplate.Render

open Output

def paramList (params : Value.Params) : String :=
  ";".intercalate (params.map fun entry => entry.1 ++ "=" ++ entry.2.kind ++ ":" ++ entry.2.display)

def numberOrDash : Option Nat → String
  | none => "-"
  | some value => toString value

/-- Where in the nesting a context stands. -/
def placeText (context : Context) : String :=
  "/".intercalate [context.templateName.getD "-",
    toString context.partialDepth, toString context.blockDepth,
    numberOrDash context.index?, numberOrDash context.length?]

/-- The context that a body is rendered with. -/
def scopeContext (context : Context) (params : Value.Params) : Scope → Context
  | .same => context
  | .pushText text => context.push (.string text)
  | .pushParams => context.push (.object params)
  | .rebaseParams => context.rebase (.object params)
  | .pushIndexed text index length => context.pushIndexed (.string text) index length

def hold (slot : String) (branch : Writer) : Action Unit :=
  modifyEngine fun engine => { engine with held := engine.held ++ [(slot, branch)] }

/-- Does one thing that host code asks for. -/
def runAction (calls : Calls) (writer : Writer) (context : Context) (bodies : Bodies)
    (params : Value.Params) : HostAction → Action (Except RenderError Writer)
  | .write text => do
    pure (.ok (← writer.write text))
  | .writeParams => do
    pure (.ok (← writer.write (paramList params)))
  | .writeParam key => do
    let value ← resolveValue calls ((params.find? key).getD .null) writer context
    pure (.ok (← writer.write ("<" ++ value.kind ++ ":" ++ value.display ++ ">")))
  | .writePlace => do
    pure (.ok (← writer.write (placeText context)))
  | .writeStack => do
    pure (.ok (← writer.write context.stackJson.compact))
  | .fail error => do
    pure (.ok (← writer.fail calls.handlers error))
  | .fork slot => do
    let (branch, next) ← writer.fork
    hold slot branch
    pure (.ok next)
  | .forkWriting text => do
    let (branch, next) ← writer.fork
    branch.finishWith calls.handlers text
    pure (.ok next)
  | .render body scope =>
    calls.renderNamed bodies body writer (scopeContext context params scope)
  | .renderOr body ifNone ifMissing =>
    match bodies.find? body with
    | some id => calls.renderBody bodies.program id writer context
    | none => do
      pure (.ok (← writer.write (if bodies.entries.isEmpty then ifNone else ifMissing)))
  | .renderTapped body change keep =>
    match bodies.find? body with
    | none => pure (.ok writer)
    | some id => do
      match ← calls.renderBody bodies.program id (writer.tap (.change change)) context with
      | .error error => pure (.error error)
      | .ok tapped => pure (.ok (if keep then tapped else tapped.untap))
  | .capture body =>
    match bodies.find? body with
    | none => pure (.ok writer)
    | some id => do
      let next ← writer.capture calls.handlers
        (fun inner => calls.renderBody bodies.program id inner context)
        (fun branch => .capture branch .shout)
      pure (.ok next)

/-- Does what host code asks for, one thing after the other, up to the first error. -/
def runActions (calls : Calls) (context : Context) (bodies : Bodies) (params : Value.Params) :
    List HostAction → Writer → Action (Except RenderError Writer)
  | [], writer => pure (.ok writer)
  | action :: rest, writer => do
    match ← runAction calls writer context bodies params action with
    | .error error => pure (.error error)
    | .ok next => runActions calls context bodies params rest next

/-- What a function of the host stands for once its actions are done. -/
def hostResult (context : Context) (writer : Writer) :
    HostResult Value → Except RenderError Returned
  | .handle => .ok (.handle writer)
  | .value value => .ok (.value value)
  | .lookup path => .ok (.value ((context.get? path).getD .null))
  | .error error => .error error

def callFunction (calls : Calls) (called : Function Value) (writer : Writer) (context : Context)
    (bodies : Bodies) (params : Value.Params) : Action (Except RenderError Returned) :=
  match called with
  | .inline program body _ => do
    match ← calls.renderBody program body writer context with
    | .error error => pure (.error error)
    | .ok next => pure (.ok (.handle next))
  | .host _ function => do
    match ← runActions calls context bodies params function.actions writer with
    | .error error => pure (.error error)
    | .ok next => pure (hostResult context next function.result)

/-- Calls a helper of the host. -/
def runHostHelper (calls : Calls) (helper : HostHelper) (writer : Writer) (context : Context)
    (bodies : Bodies) (params : Value.Params) : Action (Except RenderError Writer) := do
  match ← runActions calls context bodies params helper.actions writer with
  | .error error => pure (.error error)
  | .ok next =>
    match helper.error with
    | some error => pure (.error error)
    | none => pure (.ok next)

end BraceTemplate.Render
