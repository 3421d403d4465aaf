import BraceTemplate.Members
import BraceTemplate.Output.Observer
import BraceTemplate.Output.Writer

/-!
Working on one outlet step by step. Handles are kept under names; a step reads a handle and keeps
the one it leads to. Listeners of a stream may work on the same outlet while they are told of
something.
-/

namespace BraceTemplate.Output.Script

/-- What a render for a capture does with the handle it is given. -/
inductive Rendering where
  | write
  /-- Writes, forks a branch that is kept, and writes an exclamation mark behind it. -/
  | fork (kept : String)
  /-- Writes, and fails the output at the handle. -/
  | halt (error : RenderError)
  | fail (error : RenderError)

/-- What becomes of captured text. -/
inductive Following where
  /-- It is written between brackets. -/
  | bracket
  /-- It is written, with a branch that is kept and a semicolon behind it. -/
  | fork (kept : String)
  | fail (error : RenderError)

/-- One step. -/
inductive Step where
  | write (handle target text : String)
  | tap (handle target : String) (change : String → String)
  | untap (handle target : String)
  | finish (handle : String)
  | finishWith (handle text : String)
  | fail (handle target : String) (error : RenderError)
  /-- Forks a branch that is kept. -/
  | fork (handle target kept : String)
  /-- Forks a branch that writes a text and ends. -/
  | forkWriting (handle target text : String)
  | capture (handle target text : String) (rendering : Rendering) (following : Following)
  /-- Attaches an observer that takes some steps the first time it is told of something. -/
  | listen (label : String) (channel : Channel) (steps : List Step)
  | pipe (label : String) (refuses : Bool)

/-- A listener: what it notes, and the steps it still has to take. -/
structure Watch where
  observer : Observer
  steps : List Step

/-- What becomes of the text of an outlet. -/
inductive Continuation where
  /-- It is the result. -/
  | report (label : String)
  | capture (branch : Writer) (following : Following)

abbrev Handles := Members Writer

abbrev Action (Result : Type) := Run Continuation Watch Handles Result

def mainOutlet : OutletId := 0

def keep (name : String) (writer : Writer) : Action Unit :=
  modifyClient fun handles => handles.insert name writer

/-- Works on a handle; a name without one is passed over. -/
def withHandle (name : String) (work : Writer → Action Unit) : Action Unit := do
  match (← client).find? name with
  | none => pure ()
  | some writer => work writer

/-- What a render for a capture does. -/
def renderCaptured (handlers : Handlers Continuation Watch Handles) (text : String)
    (rendering : Rendering) (writer : Writer) : Action (Except RenderError Writer) := do
  match rendering with
  | .write => pure (.ok (← writer.write text))
  | .fork kept => do
    let (branch, next) ← (← writer.write text).fork
    keep kept branch
    pure (.ok (← next.write "!"))
  | .halt error => pure (.ok (← (← writer.write text).fail handlers error))
  | .fail error => pure (.error error)

/-- Goes on with captured text on a branch. -/
def follow (branch : Writer) (following : Following) (text : String) :
    Action (Except RenderError Writer) := do
  match following with
  | .bracket => pure (.ok (← branch.write ("[" ++ text ++ "]")))
  | .fork kept => do
    let (inner, next) ← (← branch.write text).fork
    keep kept inner
    pure (.ok (← next.write ";"))
  | .fail error => pure (.error error)

def runStep (handlers : Handlers Continuation Watch Handles) : Step → Action Unit
  | .write handle target text => withHandle handle fun writer => do
    keep target (← writer.write text)
  | .tap handle target change => withHandle handle fun writer =>
    keep target (writer.tap (.change change))
  | .untap handle target => withHandle handle fun writer =>
    keep target writer.untap
  | .finish handle => withHandle handle fun writer =>
    writer.finish handlers
  | .finishWith handle text => withHandle handle fun writer =>
    writer.finishWith handlers text
  | .fail handle target error => withHandle handle fun writer => do
    keep target (← writer.fail handlers error)
  | .fork handle target kept => withHandle handle fun writer => do
    let (branch, next) ← writer.fork
    keep kept branch
    keep target next
  | .forkWriting handle target text => withHandle handle fun writer => do
    let (branch, next) ← writer.fork
    branch.finishWith handlers text
    keep target next
  | .capture handle target text rendering following => withHandle handle fun writer => do
    let next ← writer.capture handlers (renderCaptured handlers text rendering)
      (fun branch => .capture branch following)
    keep target next
  | .listen label channel steps =>
    attachTo mainOutlet channel ⟨.record label, steps⟩
  | .pipe label refuses =>
    attach mainOutlet (.pipe label refuses) ⟨.pipe label refuses, []⟩

/-- Takes steps one after the other. -/
def runSteps (handlers : Handlers Continuation Watch Handles) (steps : List Step) : Action Unit :=
  steps.forM (runStep handlers)

/-- Takes the result of an outlet. -/
def resume (handlers : Handlers Continuation Watch Handles) (continuation : Continuation)
    (result : Except RenderError String) : Action Unit :=
  match continuation with
  | .report label =>
    match result with
    | .ok text => emit (.done label text)
    | .error error => emit (.failed label error)
  | .capture branch following => branch.settle handlers result (follow branch following)

/-- Tells a listener; it takes its steps and has none left. -/
def hear (handlers : Handlers Continuation Watch Handles) (watch : Watch) (occasion : Occasion) :
    Action Watch := do
  watch.observer.watch occasion
  runSteps handlers watch.steps
  pure ⟨watch.observer, []⟩

mutual

/-- Takes the result of an outlet, within a bound. -/
def resumeWithin : Nat → Continuation → Except RenderError String → Action Unit
  | 0, _, _ => outOfSteps
  | depth + 1, continuation, result =>
    resume ⟨depth, resumeWithin depth, hearWithin depth⟩ continuation result

/-- Tells a listener, within a bound. -/
def hearWithin : Nat → Watch → Occasion → Action Watch
  | 0, _, _ => outOfSteps
  | depth + 1, watch, occasion =>
    hear ⟨depth, resumeWithin depth, hearWithin depth⟩ watch occasion

end

def handlersWithin (depth : Nat) : Handlers Continuation Watch Handles :=
  ⟨depth, resumeWithin depth, hearWithin depth⟩

def openCollecting (label head : String) : Action Unit := do
  let id ← openOutlet (.collect "" none (some (.report label)))
  keep head (Writer.onOutlet id)

/-- Opens a stream with one observer; its head is kept under a name. -/
def openStreaming (label head : String) : Action Unit := do
  let id ← openOutlet (.stream ⟨[], [], []⟩)
  attach id (.record label) ⟨.record label, []⟩
  keep head (Writer.onOutlet id)

/-- Takes steps one after the other; yields the events that each of them causes. -/
def runEach (handlers : Handlers Continuation Watch Handles) :
    List Step → Action (List (List Event))
  | [] => pure []
  | step :: rest => do
    runStep handlers step
    let events ← takeEvents
    let others ← runEach handlers rest
    pure (events :: others)

/-- Opens an outlet, a stream or a collecting one, and takes steps. -/
def run (depth : Nat) (streams : Bool) (steps : List Step) : Action (List (List Event)) := do
  if streams then openStreaming "main" "c" else openCollecting "stub" "c"
  runEach (handlersWithin depth) steps

def eventsOfSteps (depth : Nat) (streams : Bool) (steps : List Step) : Option (List (List Event)) :=
  ((run depth streams steps).run (Store.initial [])).map Prod.fst

end BraceTemplate.Output.Script
