import BraceTemplate.Render.Op
import BraceTemplate.Text.Transform

/-!
Rendering with a bound on how deep bodies, calls and continuations nest. A render that stays within
the bound has the same outcome under every larger one.
-/

namespace BraceTemplate.Render

open Output

def continueCapture (calls : Calls) (branch : Writer) (next : Capture) (text : String) :
    Action (Except RenderError Writer) :=
  match next with
  | .include context => do
    pure (.ok (← renderNamedTemplate calls text branch (context.named text)))
  | .shout => do
    pure (.ok (← branch.write ("|" ++ Text.upper text ++ "|")))

/-- Takes the result of a collected render. -/
def resume (calls : Calls) (continuation : Continuation) (result : Except RenderError String) :
    Action Unit :=
  match continuation with
  | .report label =>
    match result with
    | .ok text => emit (.done label text)
    | .error error => emit (.failed label error)
  | .capture branch next => branch.settle calls.handlers result (continueCapture calls branch next)

def hear (observer : Observer) (occasion : Occasion) : Action Observer := do
  observer.watch occasion
  pure observer

mutual

def renderBodyWithin :
    Nat → Program → BodyId → Writer → Context → Action (Except RenderError Writer)
  | 0, _, _, _, _ => outOfSteps
  | depth + 1, program, body, writer, context =>
    let calls := ⟨⟨depth, resumeWithin depth, hear⟩, renderBodyWithin depth, callWithin depth⟩
    runOps calls program context (program.body body) writer

def callWithin : Nat → Function Value → Writer → Context → Bodies → Value.Params →
    Action (Except RenderError Returned)
  | 0, _, _, _, _, _ => outOfSteps
  | depth + 1, called, writer, context, bodies, params =>
    let calls := ⟨⟨depth, resumeWithin depth, hear⟩, renderBodyWithin depth, callWithin depth⟩
    callFunction calls called writer context bodies params

/-- Takes the result of a collected render. -/
def resumeWithin : Nat → Continuation → Except RenderError String → Action Unit
  | 0, _, _ => outOfSteps
  | depth + 1, continuation, result =>
    let calls := ⟨⟨depth, resumeWithin depth, hear⟩, renderBodyWithin depth, callWithin depth⟩
    resume calls continuation result

end

def callsWithin (depth : Nat) : Calls :=
  ⟨⟨depth, resumeWithin depth, hear⟩, renderBodyWithin depth, callWithin depth⟩

def standardDepth : Nat := 1000000

end BraceTemplate.Render
