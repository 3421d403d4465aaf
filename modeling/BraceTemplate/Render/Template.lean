import BraceTemplate.Render.State

/-!
Rendering templates by name. A template that nobody registered is asked of the loader, and its
output waits at its place until the loader answers.
-/

namespace BraceTemplate.Render

open Output

/-- Renders a template; its blocks come into scope. -/
def renderTemplate (calls : Calls) (program : Program) (writer : Writer) (context : Context) :
    Action Writer := do
  match ← withFreshSelect
      (calls.renderBody program program.root writer (context.withBlocks program)) with
  | .ok next => pure next
  | .error error => writer.fail calls.handlers error

/-- The template under a name, or else the one that a source compiles to, which is then registered.
-/
def findOrCompile (name source : String) : Action (Except RenderError Program) := do
  let engine ← engine
  match engine.registry.find? name with
  | some program => pure (.ok program)
  | none =>
    match engine.compile (some name) source with
    | .error error => pure (.error (.parse error))
    | .ok program => do
      modifyEngine fun engine => engine.register name program
      pure (.ok program)

/-- Goes on where a template was asked for. -/
def answer (calls : Calls) (request : Request) (source : Except RenderError String) :
    Action Unit := do
  match source with
  | .error error => discard (request.branch.fail calls.handlers error)
  | .ok text =>
    match ← findOrCompile request.template text with
    | .error error => discard (request.branch.fail calls.handlers error)
    | .ok program => do
      let last ← renderTemplate calls program request.branch request.context
      last.finish calls.handlers

/-- Compiles a source and registers it; a source that is no template changes nothing. -/
def registerSource (name source : String) : Action Unit := do
  match (← engine).addTemplate name source with
  | .error _ => pure ()
  | .ok changed => modifyEngine fun _ => changed

/-- Asks the loader for a template. -/
def load (calls : Calls) (loader : Loader) (name : String) (writer : Writer) (context : Context) :
    Action Writer :=
  match loader with
  | .none => writer.fail calls.handlers (.missingTemplate name)
  | .immediate source => do
    let (branch, next) ← writer.fork
    answer calls ⟨name, branch, context⟩ (source name)
    pure next
  | .registering source reply => do
    let (branch, next) ← writer.fork
    registerSource name (source name)
    answer calls ⟨name, branch, context⟩ (.ok (reply name))
    pure next
  | .deferred => do
    let (branch, next) ← writer.fork
    modifyEngine fun engine =>
      { engine with requests := engine.requests ++ [⟨name, branch, context⟩] }
    pure next

/-- Renders the template under a name. -/
def renderNamedTemplate (calls : Calls) (name : String) (writer : Writer) (context : Context) :
    Action Writer := do
  let engine ← engine
  match engine.registry.find? name with
  | some program => renderTemplate calls program writer context
  | none => load calls engine.loader name writer context

end BraceTemplate.Render
