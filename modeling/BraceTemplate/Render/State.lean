import BraceTemplate.Engine.Basic

/-!
What a render works with: the engine, what becomes of output, and whether a branch of the innermost
select has matched.
-/

namespace BraceTemplate

namespace Render

open Output

/-- What becomes of captured text. -/
inductive Capture where
  /-- It names a template, which is rendered with a context. -/
  | include (context : Context)
  /-- It is written in upper case between bars. -/
  | shout

/-- What becomes of the result of a collected render. -/
inductive Continuation where
  | report (label : String)
  | capture (branch : Writer) (next : Capture)

/-- What renders share. -/
structure State where
  engine : Engine
  /-- A branch of the select whose frame is the innermost one has matched. -/
  settled : Bool

abbrev Action (Result : Type) := Run Continuation Observer State Result

/-- The bodies of a tag, in the program that the tag stands in. -/
structure Bodies where
  program : Program
  entries : NamedBodies

def Bodies.none : Bodies := ⟨default, []⟩

/-- The first body under a name. -/
def Bodies.find? (bodies : Bodies) (name : String) : Option BodyId :=
  (bodies.entries.find? fun entry => entry.1 == name).map Prod.snd

/-- How a call of a function ends. -/
inductive Returned where
  /-- Rendering goes on from a handle. -/
  | handle (writer : Writer)
  /-- The function stands for a value. -/
  | value (value : Value)

/-- The parts of rendering that refer to one another. -/
structure Calls where
  handlers : Handlers Continuation Observer State
  renderBody : Program → BodyId → Writer → Context → Action (Except RenderError Writer)
  call : Function Value → Writer → Context → Bodies → Value.Params →
      Action (Except RenderError Returned)

def engine : Action Engine := do
  pure (← client).engine

def modifyEngine (change : Engine → Engine) : Action Unit :=
  modifyClient fun state => { state with engine := change state.engine }

def isSettled : Action Bool := do
  pure (← client).settled

/-- Notes whether a branch of the innermost select has matched. -/
def setSettled (settled : Bool) : Action Unit :=
  modifyClient fun state => { state with settled := settled }

/-- Runs something for a select of its own, of which no branch has matched yet. -/
def withFreshSelect {Result : Type} (action : Action Result) : Action Result := do
  let outer ← isSettled
  setSettled false
  let result ← action
  setSettled outer
  pure result

/-- Renders a body of a tag; nothing where it is missing. -/
def Calls.renderNamed (calls : Calls) (bodies : Bodies) (name : String) (writer : Writer)
    (context : Context) : Action (Except RenderError Writer) :=
  match bodies.find? name with
  | .none => pure (.ok writer)
  | some id => calls.renderBody bodies.program id writer context

end Render

end BraceTemplate
