import BraceTemplate.Render.Helper
import BraceTemplate.Render.Template

/-!
The steps of programs: references, sections, blocks, helpers and inclusions.
-/

namespace BraceTemplate.Render

open Output

/-- Writes a value through filters; nothing for an empty one. -/
def writeValue (chain : FilterChain) (writer : Writer) (value : Value) : Action Writer := do
  if value.isEmpty then pure writer
  else
    let engine ← engine
    writer.write (Filter.applyChain engine.filters chain value)

/-- Writes what an identifier stands for. A function is called: it writes by itself, or stands for a
value. -/
def renderReference (calls : Calls) (writer : Writer) (context : Context) (identifier : Identifier)
    (chain : FilterChain) : Action Writer :=
  match context.resolve? identifier with
  | none => pure writer
  | some (.function called) => do
    match ← calls.call called writer context Bodies.none [] with
    | .ok (.handle next) => pure next
    | .ok (.value value) => writeValue chain writer value
    | .error _ => pure writer
  | some value => writeValue chain writer value

/-- Renders a body once for each element of an array. -/
def renderElements (calls : Calls) (program : Program) (body : BodyId) (context : Context)
    (length : Nat) : Nat → List Value → Writer → Action (Except RenderError Writer)
  | _, [], writer => pure (.ok writer)
  | index, item :: rest, writer => do
    match ← calls.renderBody program body writer (context.pushIndexed item index length) with
    | .error error => pure (.error error)
    | .ok next => renderElements calls program body context length (index + 1) rest next

/-- Renders the bodies of a section for the value it stands on. -/
def renderEach (calls : Calls) (writer : Writer) (context : Context) (value? : Option Value)
    (bodies : Bodies) : Action (Except RenderError Writer) :=
  match value? with
  | some (.array items) =>
    match bodies.find? mainBody with
    | none => pure (.ok writer)
    | some body =>
      if items.isEmpty then calls.renderNamed bodies elseBody writer context
      else renderElements calls bodies.program body context items.length 0 items writer
  | some (.bool true) => calls.renderNamed bodies mainBody writer context
  | some value =>
    if value.isTruthy then calls.renderNamed bodies mainBody writer (context.push value)
    else calls.renderNamed bodies elseBody writer context
  | none => calls.renderNamed bodies elseBody writer context

/-- A section over data. A function of the host is called with the bodies: it writes by itself, or
stands for a value. The parameters are visible in the bodies. -/
def renderSection (calls : Calls) (writer : Writer) (context : Context) (value? : Option Value)
    (bodies : Bodies) (params : Value.Params) : Action (Except RenderError Writer) := do
  let inner := if params.isEmpty then context else context.push (.object params)
  match value? with
  | some (.function (.host identity function)) =>
    match ← calls.call (.host identity function) writer context bodies params with
    | .ok (.handle next) => pure (.ok next)
    | .ok (.value value) => renderEach calls writer inner (some value) bodies
    | .error _ => pure (.ok writer)
  | value? => renderEach calls writer inner value? bodies

def renderPresence (calls : Calls) (writer : Writer) (context : Context) (isPresent : Bool)
    (bodies : Bodies) : Action (Except RenderError Writer) :=
  calls.renderNamed bodies (if isPresent then mainBody else elseBody) writer context

/-- Whether an identifier stands for something that is not empty. -/
def isPresent (value? : Option Value) : Bool :=
  match value? with
  | none => false
  | some value => !value.isEmpty

/-- Renders a body by itself. What is not complete at once, or fails, has no text. -/
def bodyText (calls : Calls) (program : Program) (body : BodyId) (context : Context) :
    Action String := do
  let id ← openOutlet (.collect "" none none)
  match ← calls.renderBody program body (Writer.onOutlet id) context with
  | .ok last => last.finish calls.handlers
  | .error error => discard ((Writer.onOutlet id).fail calls.handlers error)
  match ← result? id with
  | some (.ok text) => pure text
  | _ => pure ""

def blockName (calls : Calls) (program : Program) (context : Context) : Name → Action String
  | .literal text => pure text
  | .body id => bodyText calls program id context

/-- Yields to the override of a block as long as overrides nest no deeper than allowed, or renders
the tag's own main body. -/
def renderBlock (calls : Calls) (writer : Writer) (context : Context) (name : String)
    (bodies : Bodies) : Action (Except RenderError Writer) := do
  let maxDepth := (← engine).config.maxDepth
  match context.block? name with
  | none => calls.renderNamed bodies mainBody writer context
  | some override =>
    if maxDepth ≤ context.blockDepth then
      pure (.ok (← writer.fail calls.handlers (.recursiveBlock name maxDepth)))
    else calls.renderBody override.program override.body writer context.forBlock

/-- Calls the helper of a tag; a name without a helper does nothing, and an error of a helper ends
it where it stands. -/
def renderHelper (calls : Calls) (writer : Writer) (name : String) (bodies : Bodies)
    (evaluated : Value.Params) (context : Context) : Action (Except RenderError Writer) := do
  match (← engine).helpers.find? name with
  | none => pure (.ok writer)
  | some helper =>
    match ← runHelper calls helper writer context bodies evaluated with
    | .ok next => pure (.ok next)
    | .error _ => pure (.ok writer)

def inclusionLabel (context : Context) : Name → String
  | .literal text => text
  | .body _ => context.templateName.getD ""

/-- Renders another template here, as long as inclusions nest no deeper than allowed. A name with
tags in it is captured first. -/
def renderInclusion (calls : Calls) (program : Program) (writer : Writer) (context : Context)
    (name : Name) : Action Writer := do
  let maxDepth := (← engine).config.maxDepth
  if maxDepth < context.partialDepth then
    writer.fail calls.handlers (.recursivePartial (inclusionLabel context name) maxDepth)
  else
    match name with
    | .literal text => renderNamedTemplate calls text writer (context.named text)
    | .body id =>
      writer.capture calls.handlers (fun inner => calls.renderBody program id inner context)
        (fun branch => .capture branch (.include context))

def runOp (calls : Calls) (program : Program) (context : Context) (writer : Writer) :
    Op → Action (Except RenderError Writer)
  | .write text => do
    pure (.ok (← writer.write text))
  | .reference identifier chain => do
    pure (.ok (← renderReference calls writer context identifier chain))
  | .condition kind identifier rebased exprs entries =>
    let value? := context.resolve? identifier
    let bodies : Bodies := ⟨program, entries⟩
    let inner := context.forBodies rebased
    match kind with
    | .each => renderSection calls writer inner value? bodies (params program context exprs)
    | .present => renderPresence calls writer inner (isPresent value?) bodies
    | .absent => renderPresence calls writer inner (!isPresent value?) bodies
  | .block name rebased _ entries => do
    let text ← blockName calls program context name
    renderBlock calls writer (context.forBodies rebased) text ⟨program, entries⟩
  | .helper name rebased exprs entries =>
    renderHelper calls writer name ⟨program, entries⟩ (params program context exprs)
      (context.forBodies rebased)
  | .inclusion name rebased exprs => do
    let inner := (context.forBodies rebased).forPartial (params program context exprs)
    pure (.ok (← renderInclusion calls program writer inner name))

/-- The steps of a body, each from the handle that the one before left. -/
def runOps (calls : Calls) (program : Program) (context : Context) :
    List Op → Writer → Action (Except RenderError Writer)
  | [], writer => pure (.ok writer)
  | op :: rest, writer => do
    match ← runOp calls program context writer op with
    | .error error => pure (.error error)
    | .ok next => runOps calls program context rest next

end BraceTemplate.Render
