import BraceTemplate.Render.Run

/-!
The ways to ask for a render. A render by name to a callback or a text starts at once. A render of a
loaded template, of a source, or to a stream waits until the pending renders are run, so that
everything set up after asking for it is in place before the first write.
-/

namespace BraceTemplate.Render

open Output

/-- Renders the template under a name through a handle, and ends the output. -/
def renderToEnd (calls : Calls) (name : String) (writer : Writer) (context : Context) :
    Action Unit := do
  let last ← renderNamedTemplate calls name writer context
  last.finish calls.handlers

/-- The context of a render by name: it notes the name unless one is noted already. -/
def entryContext (name : String) (context : Context) : Context :=
  match context.templateName with
  | some _ => context
  | none => context.named name

/-- The context of a render of a loaded template. -/
def programContext (program : Program) (data : Value) : Context :=
  match program.name with
  | some name => (Context.ofValue data).named name
  | none => Context.ofValue data

/-- Renders the template under a name with a context; the result is reported under a label. -/
def renderWithContext (calls : Calls) (name : String) (context : Context) (label : String) :
    Action Unit := do
  let id ← openOutlet (.collect "" none (some (.report label)))
  renderToEnd calls name (Writer.onOutlet id) (entryContext name context)

/-- Renders the template under a name with data; the result is reported under a label. -/
def render (calls : Calls) (name : String) (data : Value) (label : String) : Action Unit :=
  renderWithContext calls name (Context.ofValue data) label

def defer (task : Task) : Action Unit :=
  modifyEngine fun engine => { engine with queue := engine.queue ++ [task] }

/-- Runs a render that has waited. -/
def runTask (calls : Calls) : Task → Action Unit
  | .named name writer context => renderToEnd calls name writer context
  | .program program writer context => do
    let last ← renderTemplate calls program writer context
    last.finish calls.handlers

/-- Runs the renders that wait, in the order in which they were asked for; yields how many there
were. No render asks for another one. -/
def runPending (calls : Calls) : Action Nat := do
  let tasks := (← engine).queue
  modifyEngine fun engine => { engine with queue := [] }
  tasks.forM (runTask calls)
  pure tasks.length

/-- Renders the template under a name and runs what waits; yields the text, if it is complete by
then. -/
def renderToString (calls : Calls) (name : String) (data : Value) :
    Action (Except RenderError String) := do
  let id ← openOutlet (.collect "" none none)
  renderToEnd calls name (Writer.onOutlet id) (entryContext name (Context.ofValue data))
  discard (runPending calls)
  pure ((← result? id).getD (.error (.pending name)))

def openStream (observers : List Observer) : Action OutletId := do
  let id ← openOutlet (.stream ⟨[], [], []⟩)
  observers.forM fun observer => attach id observer observer
  pure id

/-- Asks for a streamed render of the template under a name. -/
def stream (name : String) (data : Value) (observers : List Observer) : Action Unit := do
  let id ← openStream observers
  defer (.named name (Writer.onOutlet id) ((Context.ofValue data).named name))

def renderProgram (program : Program) (data : Value) (label : String) : Action Unit := do
  let id ← openOutlet (.collect "" none (some (.report label)))
  defer (.program program (Writer.onOutlet id) (programContext program data))

def streamProgram (program : Program) (data : Value) (observers : List Observer) : Action Unit := do
  let id ← openStream observers
  defer (.program program (Writer.onOutlet id) (programContext program data))

/-- Asks for a render of a source; a source that is no template is reported at once. -/
def renderSource (source : String) (data : Value) (label : String) : Action Unit := do
  match (← engine).compile none source with
  | .error error => emit (.failed label (.parse error))
  | .ok program => renderProgram program data label

/-! ## What waits

In the middle of a render there wait requests for templates that a loader has kept, and branches
that host code has kept. Each is answered once, and of several for one name the oldest is answered
first.
-/

/-- Takes the first of a list that a test admits. -/
def takeFirst? {Held : Type} (test : Held → Bool) : List Held → Option (Held × List Held)
  | [] => none
  | held :: rest =>
    if test held then some (held, rest)
    else (takeFirst? test rest).map fun found => (found.1, held :: found.2)

/-- Answers the oldest request for a name; yields whether there is one. -/
def answerRequest (calls : Calls) (name : String) (source : Except RenderError String) :
    Action Bool := do
  match takeFirst? (fun request => request.template == name) (← engine).requests with
  | none => pure false
  | some (request, others) => do
    modifyEngine fun engine => { engine with requests := others }
    answer calls request source
    pure true

/-- Ends the oldest branch of a slot with a text, or fails it; yields whether there is one. -/
def resumeHeld (calls : Calls) (slot : String) (outcome : Except RenderError String) :
    Action Bool := do
  match takeFirst? (fun entry => entry.1 == slot) (← engine).held with
  | none => pure false
  | some ((_, branch), others) => do
    modifyEngine fun engine => { engine with held := others }
    match outcome with
    | .ok text => branch.finishWith calls.handlers text
    | .error error => discard (branch.fail calls.handlers error)
    pure true

end BraceTemplate.Render
