import BraceTemplate.Error
import BraceTemplate.Program.Basic

/-!
What functions and helpers of the host do with the output they are handed. A script is a list of
actions and how it ends; the actions cover writing, rendering the bodies of the tag, forking, and
failing.
-/

namespace BraceTemplate

/-- The context that a body of the tag is rendered with. -/
inductive Scope where
  /-- The one the tag has. -/
  | same
  | pushText (text : String)
  | pushParams
  /-- The parameters alone. -/
  | rebaseParams
  | pushIndexed (text : String) (index length : Nat)

/-- One thing that host code does with its handle. -/
inductive HostAction where
  | write (text : String)
  /-- Writes every parameter with its kind. -/
  | writeParams
  /-- Writes one parameter, resolved, with its kind. -/
  | writeParam (key : String)
  /-- Writes where in the nesting the tag stands. -/
  | writePlace
  | writeStack
  /-- Fails the render at the handle. -/
  | fail (error : RenderError)
  /-- Forks a branch and keeps it in a slot until it is resumed. -/
  | fork (slot : String)
  /-- Forks a branch that writes a text and ends. -/
  | forkWriting (text : String)
  | render (body : String) (scope : Scope)
  /-- Renders a body, or writes one text where the tag has no bodies and another where this one is
  missing. -/
  | renderOr (body : String) (ifNone ifMissing : String)
  /-- Renders a body through a tap; the tap may be left on the handle. -/
  | renderTapped (body : String) (change : String → String) (keep : Bool)
  /-- Captures a body and writes it in upper case between bars. -/
  | capture (body : String)

/-- Renders the main body with a text pushed and the other one as it is, between parentheses and
with a bar between them. -/
def HostAction.frame (text : String) : List HostAction :=
  [.write "(", .render mainBody (.pushText text), .write "|", .render elseBody .same, .write ")"]

/-- How a function of the host ends. -/
inductive HostResult (Held : Type) where
  /-- Rendering goes on from the handle. -/
  | handle
  /-- The function stands for a value. -/
  | value (held : Held)
  /-- The function stands for what the context holds under a path. -/
  | lookup (path : String)
  | error (error : RenderError)

/-- A function of the host. -/
structure HostFunction (Held : Type) where
  actions : List HostAction
  result : HostResult Held

/-- A helper of the host: its actions, and the error it returns in the end, if any. -/
structure HostHelper where
  actions : List HostAction
  error : Option RenderError

end BraceTemplate
