import Mathlib.Data.List.GetD
import BraceTemplate.Proofs.Render.Answering
import BraceTemplate.Proofs.Render.Halting

/-!
# Rendering ends

Inclusions end where the templates they render do, and so a body ends. By induction on the rank of a
body it ends within a bound that depends on the templates and on how deep inclusions and overrides
may nest, and no more of them ever nest than may.
-/

namespace BraceTemplate

namespace Render

open Output

section Including

variable {engine : Engine} {size limit : Nat} {root : OutletId} {nesting : Nesting}
variable {calls others : Calls} {program : Program} {id : BodyId} {context inner : Context}
variable {writer : Writer}

theorem Opens.named {maxDepth : Nat} (opens : Opens maxDepth size limit nesting context)
    (name : String) : Opens maxDepth size limit nesting (context.named name) :=
  ⟨opens.data.named name, ⟨⟨opens.admits.fits.templates, opens.admits.fits.partialDepth,
    opens.admits.fits.overrides, opens.admits.fits.blockDepth⟩, opens.admits.templates⟩, opens.rank⟩

namespace BodiesHalt

theorem renderTemplate (halts : BodiesHalt engine size root limit nesting calls others)
    (bounded : program.IsBounded size)
    (opens : Opens engine.config.maxDepth size limit nesting context) (on : writer.IsOn root) :
    Ends root engine (Writer.IsOn root) (renderTemplate calls program writer context)
      (renderTemplate others program writer context) := by
  have ends := halts.body program program.root writer (context.withBlocks program)
    ⟨bounded, opens.data.withBlocks bounded, opens.admits.enter bounded.apart.root rfl rfl,
      opens.rank program.root⟩ on
  refine ends.withFreshSelect.bind fun result leaves => ?_
  cases result with
  | ok next => exact .pure leaves
  | error error => exact Ends.fail halts.rounds halts.otherRounds on error

theorem renderNamedTemplate (halts : BodiesHalt engine size root limit nesting calls others)
    (opens : Opens engine.config.maxDepth size limit nesting context) (on : writer.IsOn root)
    (name : String) :
    Ends root engine (Writer.IsOn root) (renderNamedTemplate calls name writer context)
      (renderNamedTemplate others name writer context) := by
  refine .ofEngine ?_
  cases found : engine.registry.find? name with
  | some program => exact halts.renderTemplate (halts.registered name program found) opens on
  | none =>
      rw [halts.closed.loader]
      exact Ends.fail halts.rounds halts.otherRounds on (.missingTemplate name)

theorem renderToEnd (halts : BodiesHalt engine size root limit nesting calls others)
    (opens : Opens engine.config.maxDepth size limit nesting context) (on : writer.IsOn root)
    (name : String) :
    Ends root engine (fun _ => True) (renderToEnd calls name writer context)
      (renderToEnd others name writer context) :=
  (halts.renderNamedTemplate opens on name).bind fun _ onNext =>
    Ends.finish halts.rounds halts.otherRounds onNext

end BodiesHalt

namespace Halting

/-- A name with tags in it is written to an outlet of its own; handing it on ends. -/
theorem capturing (halting : Halting engine size root limit nesting calls others)
    {other : BodyId} (isPlain : program.IsPlain other)
    (fits : Nesting.Fits engine.config.maxDepth ((program, other) :: nesting) context)
    (opens : Opens engine.config.maxDepth size limit nesting context) (on : writer.IsOn root) :
    Ends root engine (fun _ => True)
      (Writer.capturing calls.handlers (fun inner => calls.renderBody program other inner context)
        (.capture writer (.include context)))
      (Writer.capturing others.handlers (fun inner => others.renderBody program other inner context)
        (.capture writer (.include context))) := by
  intro store steady
  generalize same : Continuation.capture writer (.include context) = continuation
  have filters := filters_eq halting.closed steady
  obtain ⟨text, ran⟩ := halting.plain program other (Writer.onOutlet store.outlets.size) context
    isPlain opens.data (.inl rfl) fits
  obtain ⟨first, second⟩ := ran
    (store.open (Outlet.opened (.collect "" none (some continuation)))) filters
  obtain ⟨steadyHanding, sparesHanding⟩ :=
    steady.open ((Spot.complete (some continuation) text).telling (.ok text))
  have captured := halting.captured writer context text on opens
  rw [same] at captured
  obtain ⟨_, later, handedOn, otherHandedOn, -, still, spares⟩ := captured _ steadyHanding
  obtain ⟨outlet, there, collects⟩ := steady.outlet
  have different : store.outlets.size ≠ root := Nat.ne_of_gt (Store.lt_size_of_outlet there)
  have untouched := spares _ _ different (Store.open_outlets_self _)
  refine ⟨(),
    later.put store.outlets.size ((Spot.complete (some continuation) text).told (.ok text)),
    ?_, ?_, trivial, ?_, ?_⟩
  · rw [Writer.capturing_eq first]
    exact finish_opening halting.rounds handedOn untouched
  · rw [Writer.capturing_eq second]
    exact finish_opening halting.otherRounds otherHandedOn untouched
  · obtain ⟨outlet, there, collects⟩ := still.outlet
    refine ⟨still.engine, outlet, ?_, collects⟩
    rw [Store.put_outlets_of_ne _ _ different]
    exact there
  · intro found outlet apart there
    have older : store.outlets.size ≠ found := Nat.ne_of_gt (Store.lt_size_of_outlet there)
    rw [Store.put_outlets_of_ne _ _ older]
    exact (sparesHanding.trans spares) found outlet apart there

/-- An inclusion ends: the template is entered behind one more inclusion, which there may be no more
of than allowed. -/
theorem renderInclusion (halting : Halting engine size root limit nesting calls others)
    (entered : Entered engine.config.maxDepth size limit nesting program id context)
    (data : inner.IsData size) (partialDepth : inner.partialDepth = nextWord context.partialDepth)
    (blockDepth : inner.blockDepth = context.blockDepth) (on : writer.IsOn root) {name : Name}
    (quotations : ∀ other ∈ name.quoted, program.IsPlain other ∧ program.IsInner other) :
    Ends root engine (Writer.IsOn root) (renderInclusion calls program writer inner name)
      (renderInclusion others program writer inner name) := by
  refine .ofEngine ?_
  simp only
  split
  · exact Ends.fail halting.rounds halting.otherRounds on _
  · rename_i fits
    obtain ⟨templates, partialBound, overrides, blockBound⟩ := entered.fits
    have deeper := nextWord_of_lt (Nat.lt_of_le_of_lt partialBound halting.passable)
    have opens : Opens engine.config.maxDepth size limit nesting inner := by
      refine ⟨data, ⟨⟨by omega, by omega, by omega, by omega⟩, by omega⟩, fun other => ?_⟩
      exact Nat.lt_of_lt_of_le (rank_lt_of_deeper (by omega) (by omega)) entered.rank
    cases name with
    | literal text => exact halting.renderNamedTemplate (opens.named text) on text
    | body other =>
        obtain ⟨isPlain, isInner⟩ := quotations other (by simp [Name.quoted])
        have fitsInner := opens.admits.fits.enter isInner (Nat.le_refl _)
          opens.admits.fits.partialDepth rfl
        simp only
        rw [Writer.capture_eq, Writer.capture_eq]
        exact (Ends.fork on).bind fun forked onForked =>
          (halting.capturing isPlain fitsInner opens onForked.1).bind fun _ _ => .pure onForked.2

theorem conducts (halting : Halting engine size root limit nesting calls others) :
    (Accord.ending engine size root limit nesting).Conducts calls others where
  toEnters := halting.enters
  names := by
    rintro _ _ program id ⟨rfl, isPlain, isInner, quotable⟩
    exact halting.bodyText quotable isPlain isInner
  compares := by
    rintro comparison _ _ bodies given _ writer ⟨⟨rfl, rfl⟩, ⟨holds, quotable⟩, enterable⟩ on
    exact halting.runComparison quotable on holds enterable comparison
  includes := by
    rintro _ _ program name writer ⟨rfl, outer, id, entered, data, deeper, beside, quotations⟩ on
    exact halting.renderInclusion entered data deeper beside on quotations
  serves never := never.elim

theorem runOps (halting : Halting engine size root limit nesting calls others)
    (entered : Entered engine.config.maxDepth size limit nesting program id context)
    (on : writer.IsOn root) {ops : List Op} (within : ∀ op ∈ ops, op ∈ program.body id) :
    Ends root engine (Leaves root engine) (runOps calls program context ops writer)
      (runOps others program context ops writer) :=
  halting.conducts.runOps (fun op here => entered.steps halting.closed halting.passable
    (within op here)) on

end Halting

end Including

section Plain

variable {size : Nat} {context : Context} {writer : Writer}

end Plain

section Bound

variable {engine : Engine} {size limit : Nat} {root : OutletId} {nesting : Nesting}

theorem Writes.called {calls others : Calls} {program : Program} {id : BodyId} {writer : Writer}
    {context : Context}
    (writes : Writes writer (calls.renderBody program id writer context)
      (others.renderBody program id writer context) (.ok writer))
    (stamp : Stamp) (bodies : Bodies) (params : Value.Params) :
    Writes writer (callFunction calls (.inline program id stamp) writer context bodies params)
      (callFunction others (.inline program id stamp) writer context bodies params)
      (.ok (.handle writer)) := by
  obtain ⟨text, ran⟩ := writes
  refine ⟨text, fun store filters => ?_⟩
  obtain ⟨first, second⟩ := ran store filters
  constructor
  · rw [callFunction, run_bind, first]
    rfl
  · rw [callFunction, run_bind, second]
    rfl

end Bound

section Agreeing

variable {Result : Type} {root : OutletId} {engine : Engine} {bound : Nat}
variable {ofResult : Result → Prop} {store : Store Continuation Observer State}

/-- Actions that end alike within every large enough bound have one outcome. -/
theorem Ends.outcome {first second : Nat → Action Result}
    (ends : ∀ depth other, bound ≤ depth → bound ≤ other →
      Ends root engine ofResult (first depth) (second other))
    (steady : Steady root engine store) :
    ∃ result later, Steady root engine later ∧
      ∀ depth, bound ≤ depth →
        first depth store = some (result, later) ∧ second depth store = some (result, later) := by
  obtain ⟨result, later, ran, otherRan, -, still, -⟩ :=
    ends bound bound (Nat.le_refl _) (Nat.le_refl _) store steady
  refine ⟨result, later, still, fun depth enough => ?_⟩
  obtain ⟨_, _, here, sameRan, -⟩ := ends depth bound enough (Nat.le_refl _) store steady
  obtain ⟨_, _, sameHere, there, -⟩ := ends bound depth (Nat.le_refl _) enough store steady
  exact ⟨here.trans (sameRan.symm.trans otherRan), there.trans (sameHere.symm.trans ran)⟩

end Agreeing

def largest (registry : Members Program) : Nat :=
  registry.foldr (fun entry size => max entry.2.bodies.length size) 0

end Render

end BraceTemplate
