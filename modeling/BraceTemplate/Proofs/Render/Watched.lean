import BraceTemplate.Proofs.Program.Accounting
import BraceTemplate.Render.Run

/-!
# Rendering that watches how it nests

Rendering within a bound that knows the bodies it stands in, and is out of steps where it would
enter a body that is not permitted there. Of the bodies around a place, those that programs begin
with are templates, of which all but the outermost one are included; the bodies of blocks override.
-/

namespace BraceTemplate

/-- The bodies that surround a place, innermost first, each with its program. -/
abbrev Nesting := List (Program × BodyId)

namespace Nesting

/-- How many templates surround a place. -/
def templates (nesting : Nesting) : Nat :=
  nesting.countP fun (program, body) => body = program.root

def overrides (nesting : Nesting) : Nat :=
  nesting.countP fun (program, body) => body ∈ program.blockBodies

/-- The numbers in a context are no less than what surrounds a place, and no more than allowed. -/
structure Fits (maxDepth : Nat) (nesting : Nesting) (context : Context) : Prop where
  templates : nesting.templates ≤ context.partialDepth + 1
  partialDepth : context.partialDepth ≤ maxDepth
  overrides : nesting.overrides ≤ context.blockDepth
  blockDepth : context.blockDepth ≤ maxDepth

/-- A template more still fits. -/
structure Admits (maxDepth : Nat) (nesting : Nesting) (context : Context) : Prop where
  fits : nesting.Fits maxDepth context
  templates : nesting.templates ≤ context.partialDepth

section Fitting

variable {maxDepth : Nat} {nesting : Nesting} {outer inner : Context} {program : Program}
variable {id : BodyId}

/-- A body of a tag, a parameter or a name. -/
theorem Fits.enter (fits : nesting.Fits maxDepth outer) (isInner : program.IsInner id)
    (partialDepth : outer.partialDepth ≤ inner.partialDepth)
    (boundPartial : inner.partialDepth ≤ maxDepth)
    (blockDepth : inner.blockDepth = outer.blockDepth) :
    Fits maxDepth ((program, id) :: nesting) inner := by
  obtain ⟨notRoot, notBlock⟩ := isInner
  obtain ⟨templates, -, overrides, boundBlock⟩ := fits
  refine ⟨?_, boundPartial, ?_, by omega⟩
  · simp only [Nesting.templates, List.countP_cons, notRoot, decide_false,
      Bool.false_eq_true, if_false] at templates ⊢
    omega
  · simp only [Nesting.overrides, List.countP_cons, notBlock, decide_false,
      Bool.false_eq_true, if_false] at overrides ⊢
    omega

/-- The body of a block. -/
theorem Fits.override (fits : nesting.Fits maxDepth outer) (notRoot : id ≠ program.root)
    (partialDepth : inner.partialDepth = outer.partialDepth)
    (blockDepth : inner.blockDepth = outer.blockDepth + 1) (bound : inner.blockDepth ≤ maxDepth) :
    Fits maxDepth ((program, id) :: nesting) inner := by
  obtain ⟨templates, boundPartial, overrides, -⟩ := fits
  refine ⟨?_, by omega, ?_, bound⟩
  · simp only [Nesting.templates, List.countP_cons, notRoot, decide_false,
      Bool.false_eq_true, if_false] at templates ⊢
    omega
  · simp only [Nesting.overrides, List.countP_cons] at overrides ⊢
    split <;> omega

/-- The body that a template begins with. -/
theorem Admits.enter (admits : nesting.Admits maxDepth outer)
    (notBlock : program.root ∉ program.blockBodies)
    (partialDepth : inner.partialDepth = outer.partialDepth)
    (blockDepth : inner.blockDepth = outer.blockDepth) :
    Fits maxDepth ((program, program.root) :: nesting) inner := by
  obtain ⟨⟨-, boundPartial, overrides, boundBlock⟩, templates⟩ := admits
  refine ⟨?_, by omega, ?_, by omega⟩
  · simp only [Nesting.templates, List.countP_cons] at templates ⊢
    split <;> omega
  · simp only [Nesting.overrides, List.countP_cons, notBlock, decide_false,
      Bool.false_eq_true, if_false] at overrides ⊢
    omega

end Fitting

end Nesting

namespace Render

open Output

section Watching

variable (permits : Nesting → Bool)

mutual

def renderBodyWatched :
    Nat → Nesting → Program → BodyId → Writer → Context → Action (Except RenderError Writer)
  | 0, _, _, _, _, _ => outOfSteps
  | depth + 1, nesting, program, body, writer, context =>
    let inside := (program, body) :: nesting
    let calls := ⟨⟨depth, resumeWatched depth inside, hear⟩, renderBodyWatched depth inside,
      callWatched depth inside⟩
    if permits inside then runOps calls program context (program.body body) writer else outOfSteps

def callWatched : Nat → Nesting → Function Value → Writer → Context → Bodies → Value.Params →
    Action (Except RenderError Returned)
  | 0, _, _, _, _, _, _ => outOfSteps
  | depth + 1, nesting, called, writer, context, bodies, params =>
    let calls := ⟨⟨depth, resumeWatched depth nesting, hear⟩, renderBodyWatched depth nesting,
      callWatched depth nesting⟩
    callFunction calls called writer context bodies params

def resumeWatched : Nat → Nesting → Continuation → Except RenderError String → Action Unit
  | 0, _, _, _ => outOfSteps
  | depth + 1, nesting, continuation, result =>
    let calls := ⟨⟨depth, resumeWatched depth nesting, hear⟩, renderBodyWatched depth nesting,
      callWatched depth nesting⟩
    resume calls continuation result

end

end Watching

end Render

end BraceTemplate
