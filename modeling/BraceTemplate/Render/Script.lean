import BraceTemplate.Render.Entry

/-!
Working with one engine step by step. Loaded templates are kept under names of their own, beside the
registry.
-/

namespace BraceTemplate

open Output

/-- An engine with templates and a loader, where nothing waits. -/
def Engine.fresh (config : Config) (registry : Members Program) (loader : Loader) : Engine :=
  { Engine.ofConfig config with registry := registry, loader := loader }

/-- The templates of sources by name; what is no template is left out. -/
def Program.ofSources (config : Config) (sources : List (String × String)) : Members Program :=
  Members.ofList (sources.filterMap fun entry =>
    (ofSource config (some entry.1) entry.2).toOption.map fun program => (entry.1, program))

/-- The text of the template "main" among those of sources, or the wording of the error. -/
def Render.textAmong? (sources : List (String × String)) (data : Value) : Option String :=
  (renderToString (callsWithin 200) "main" data (Store.initial
    ⟨Engine.fresh .standard (Program.ofSources .standard sources) .none, false⟩)).map fun found =>
      match found.1 with
      | .ok text => text
      | .error error => error.message

namespace Render.Script

/-- One step. -/
inductive Step where
  /-- Compiles a source under its name and registers it. -/
  | add (name source : String)
  | has (name : String)
  | remove (name : String)
  | config
  /-- Compiles a source under one name, and registers it under another. -/
  | register (name : String) (compiledName : Option String) (source : String)
  | registerProgram (name : String) (program : Program)
  /-- Compiles a source and keeps the loaded template. -/
  | load (kept : String) (name : Option String) (source : String)
  | loadProgram (kept : String) (program : Program)
  | describe (kept : String)
  | renderLoaded (kept label : String) (data : Value)
  | streamLoaded (kept : String) (data : Value) (observers : List Observer)
  | render (name label : String) (data : Value)
  | renderToString (name : String) (data : Value)
  | renderSource (source label : String) (data : Value)
  | renderWithContext (name label : String) (context : Context)
  | stream (name : String) (data : Value) (observers : List Observer)
  | runPending
  | helper (name : String) (helper : Helper)
  | filter (name : String) (filter : Filter)
  | loader (loader : Loader)
  /-- Lists the requests that wait for a template, oldest first. -/
  | requests
  | answer (name : String) (source : Except RenderError String)
  | resume (slot : String) (outcome : Except RenderError String)

/-- What a step shows. -/
inductive Shown where
  | nothing
  | flag (value : Bool)
  | count (value : Nat)
  | names (names : List String)
  | config (config : Config)
  | finished
  | text (text : String)
  | failed (error : RenderError)
  | program (program : Program)

abbrev Loaded := Members Program

def loading (loaded : Loaded) (kept : String) (program : Program) : Action (Shown × Loaded) := do
  modifyEngine fun engine => engine.adopt program
  pure (.finished, loaded.insert kept program)

/-- Takes a step that concerns a loaded template. -/
def withLoaded (loaded : Loaded) (kept : String) (work : Program → Action Shown) :
    Action (Shown × Loaded) :=
  match loaded.find? kept with
  | none => pure (.nothing, loaded)
  | some program => do
    pure (← work program, loaded)

def shownOf : Except RenderError String → Shown
  | .ok text => .text text
  | .error error => .failed error

def unloaded (loaded : Loaded) (work : Action Shown) : Action (Shown × Loaded) := do
  pure (← work, loaded)

def changing (change : Engine → Engine) : Action Shown := do
  modifyEngine change
  pure .nothing

/-- Compiles a source and registers it under its name. -/
def add (name source : String) : Action Shown := do
  match (← engine).addTemplate name source with
  | .error error => pure (.failed (.parse error))
  | .ok changed => do
    modifyEngine fun _ => changed
    pure .finished

/-- Compiles a source under one name and registers it under another. -/
def register (name : String) (compiledName : Option String) (source : String) : Action Shown := do
  match (← engine).compile compiledName source with
  | .error error => pure (.failed (.parse error))
  | .ok program => do
    modifyEngine fun engine => engine.register name program
    pure .finished

/-- Takes the template under a name away; shows whether there was one. -/
def remove (name : String) : Action Shown := do
  let known := (← engine).hasTemplate name
  modifyEngine fun engine => engine.removeTemplate name
  pure (.flag known)

def runStep (calls : Calls) (loaded : Loaded) : Step → Action (Shown × Loaded)
  | .add name source => unloaded loaded (add name source)
  | .has name => unloaded loaded do
    pure (.flag ((← engine).hasTemplate name))
  | .remove name => unloaded loaded (remove name)
  | .config => unloaded loaded do
    pure (.config (← engine).config)
  | .register name compiledName source => unloaded loaded (register name compiledName source)
  | .registerProgram name program => unloaded loaded do
    modifyEngine fun engine => engine.register name program
    pure .finished
  | .load kept name source => do
    match (← engine).compile name source with
    | .error error => pure (.failed (.parse error), loaded)
    | .ok program => loading loaded kept program
  | .loadProgram kept program => loading loaded kept program
  | .describe kept => withLoaded loaded kept fun program => pure (.program program)
  | .renderLoaded kept label data => withLoaded loaded kept fun program => do
    renderProgram program data label
    pure .nothing
  | .streamLoaded kept data observers => withLoaded loaded kept fun program => do
    streamProgram program data observers
    pure .nothing
  | .render name label data => unloaded loaded do
    Render.render calls name data label
    pure .nothing
  | .renderToString name data => unloaded loaded do
    pure (shownOf (← Render.renderToString calls name data))
  | .renderSource source label data => unloaded loaded do
    Render.renderSource source data label
    pure .nothing
  | .renderWithContext name label context => unloaded loaded do
    Render.renderWithContext calls name context label
    pure .nothing
  | .stream name data observers => unloaded loaded do
    Render.stream name data observers
    pure .nothing
  | .runPending => unloaded loaded do
    pure (.count (← Render.runPending calls))
  | .helper name helper => unloaded loaded (changing fun engine => engine.withHelper name helper)
  | .filter name filter => unloaded loaded (changing fun engine => engine.withFilter name filter)
  | .loader loader => unloaded loaded (changing fun engine => engine.withLoader loader)
  | .requests => unloaded loaded do
    pure (.names ((← engine).requests.map Request.template))
  | .answer name source => unloaded loaded do
    pure (.flag (← answerRequest calls name source))
  | .resume slot outcome => unloaded loaded do
    pure (.flag (← resumeHeld calls slot outcome))

/-- The state before the first step. -/
def initial (config : Config) : Store Continuation Observer State :=
  Store.initial ⟨Engine.ofConfig config, false⟩

/-- Takes steps one after the other; yields what each of them shows, and the events it causes. -/
def runSteps (calls : Calls) (loaded : Loaded) : List Step → Action (List (Shown × List Event))
  | [] => pure []
  | step :: rest => do
    let (shown, loaded) ← runStep calls loaded step
    let events ← takeEvents
    let others ← runSteps calls loaded rest
    pure ((shown, events) :: others)

end Render.Script

end BraceTemplate
