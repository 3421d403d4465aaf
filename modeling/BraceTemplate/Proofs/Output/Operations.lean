import BraceTemplate.Members
import BraceTemplate.Proofs.Output.Gathering

/-!
# Operations on handles

Any sequence of operations on handles, which are kept under names and stay usable whatever was done
with them. A capture takes operations on an outlet of its own, and when that is complete operations
on a branch. What is written may depend on what was captured.
-/

namespace BraceTemplate.Output

/-- An operation. It reads a handle, and keeps the one it leads to under a name. -/
inductive Operation where
  | write (handle target : String) (text : List String → String)
  | tap (handle target : String) (newest : Tap)
  | untap (handle target : String)
  | finish (handle : String)
  | finishWith (handle : String) (text : List String → String)
  | fail (handle target : String) (error : RenderError)
  /-- Forks a branch that is kept. -/
  | fork (handle target branch : String)
  /-- Keeps the first handle of an outlet of its own, operates, and yields a handle or a failure;
  goes on likewise with the branch, once the captured text is there. -/
  | capture (handle target inner : String) (rendering : List Operation)
      (rendered : Except RenderError String) (branch : String) (following : List Operation)
      (followed : Except RenderError String)

mutual

/-- The number of captures in an operation. -/
def Operation.captures : Operation → Nat
  | .capture _ _ _ rendering _ _ following _ =>
    capturesIn rendering + capturesIn following + 1
  | _ => 0

def capturesIn : List Operation → Nat
  | [] => 0
  | operation :: rest => operation.captures + capturesIn rest

end

/-- The handles that are kept, the texts that were captured, the newest first, and what has come of
the main outlet. -/
structure Desk where
  handles : Members Writer
  captured : List String
  answers : List (Except RenderError String)
  occasions : List Occasion

/-- What becomes of the text of an outlet. -/
inductive Pending where
  /-- It is the answer. -/
  | answer
  | capture (branch : Writer) (name : String) (following : List Operation)
      (followed : Except RenderError String)

namespace Desk

abbrev Work (Result : Type) := Run Pending Unit Desk Result

def keep (name : String) (writer : Writer) : Work Unit :=
  modifyClient fun desk => { desk with handles := desk.handles.insert name writer }

def withHandle (name : String) (work : Writer → Work Unit) : Work Unit := do
  match (← client).handles.find? name with
  | none => pure ()
  | some writer => work writer

def yielded (writer : Writer) (result : Except RenderError String) :
    Work (Except RenderError Writer) := do
  match result with
  | .error error => pure (.error error)
  | .ok name => pure (.ok (((← client).handles.find? name).getD writer))

mutual

def operate (handlers : Handlers Pending Unit Desk) : Operation → Work Unit
  | .write handle target text => withHandle handle fun writer => do
    keep target (← writer.write (text (← client).captured))
  | .tap handle target newest => withHandle handle fun writer =>
    keep target (writer.tap newest)
  | .untap handle target => withHandle handle fun writer =>
    keep target writer.untap
  | .finish handle => withHandle handle fun writer =>
    writer.finish handlers
  | .finishWith handle text => withHandle handle fun writer => do
    writer.finishWith handlers (text (← client).captured)
  | .fail handle target error => withHandle handle fun writer => do
    keep target (← writer.fail handlers error)
  | .fork handle target branch => withHandle handle fun writer => do
    let (inner, next) ← writer.fork
    keep branch inner
    keep target next
  | .capture handle target inner rendering rendered branch following followed =>
    withHandle handle fun writer => do
      let next ← writer.capture handlers
        (fun first => do
          keep inner first
          operateAll handlers rendering
          yielded first rendered)
        (fun writer => .capture writer branch following followed)
      keep target next

/-- Operations one after the other. -/
def operateAll (handlers : Handlers Pending Unit Desk) : List Operation → Work Unit
  | [] => pure ()
  | operation :: rest => do
    operate handlers operation
    operateAll handlers rest

end

/-- Takes the result of an outlet. -/
def resume (handlers : Handlers Pending Unit Desk) (pending : Pending)
    (result : Except RenderError String) : Work Unit :=
  match pending with
  | .answer => modifyClient fun desk => { desk with answers := desk.answers ++ [result] }
  | .capture branch name following followed =>
    branch.settle handlers result fun text => do
      modifyClient fun desk => { desk with captured := text :: desk.captured }
      keep name branch
      operateAll handlers following
      yielded branch followed

def hear (_ : Unit) (occasion : Occasion) : Work Unit :=
  modifyClient fun desk => { desk with occasions := desk.occasions ++ [occasion] }

def resumeWithin : Nat → Pending → Except RenderError String → Work Unit
  | 0, _, _ => outOfSteps
  | depth + 1, pending, result => resume ⟨depth, resumeWithin depth, hear⟩ pending result

def handlersWithin (depth : Nat) : Handlers Pending Unit Desk :=
  ⟨depth, resumeWithin depth, hear⟩

/-- Opens an outlet, keeps its first handle under a name, and operates. -/
def run (depth : Nat) (sink : Sink Pending Unit) (head : String) (operations : List Operation) :
    Work Unit := do
  let id ← openOutlet sink
  keep head (Writer.onOutlet id)
  operateAll (handlersWithin depth) operations

def blank : Desk := ⟨[], [], [], []⟩

end Desk

end BraceTemplate.Output
