import BraceTemplate.Proofs.Render.Progress

/-!
# Writing, failing and branching

The steps from which a render is made up, each as a simulation of the evaluation it stands for:
writing a text, failing, noting whether a select has matched, and rendering on a branch of its own,
which ends before the render goes on behind it.
-/

namespace BraceTemplate.Render

open Output Evaluate

section Steps

variable {Result Next : Type} {setting : Setting} {depth : Nat} {exactly : Prop}
variable {writer : Writer} {evaluation : Evaluation String} {action : Action Result}
variable {result : Writer → Result} {spot : Spot Continuation} {trace : Trace}
variable {store : Store Continuation Observer State}

/-- An action through a handle in use is one through a handle without taps. -/
theorem Simulates.ofUntapped
    (simulates : writer.taps = [] →
      Simulates setting depth exactly writer evaluation action result) :
    Simulates setting depth exactly writer evaluation action result :=
  fun spot store trace ready => simulates ready.untapped spot store trace ready

/-- Replacing the outlet of the handle by what it is from another spot. -/
theorem Ready.progress_put (ready : Ready setting writer spot store trace) {last : Writer}
    {reached : Spot Continuation} {text : String} {pots : Array String}
    (standing : last.StandsAt reached
      (({ store with pots := pots } : Store _ _ _).put writer.outlet reached.gathering.outlet))
    (sameOutlet : last.outlet = writer.outlet) (untapped : last.taps = [])
    (sameBehind : reached.behind = spot.behind)
    (sameOnResult : reached.onResult = spot.onResult)
    (sofar : ∀ coming, reached.sofar coming = spot.sofar coming ++ text)
    (opens : Segment.openNumbers reached.before = Segment.openNumbers spot.before) :
    Progress setting depth writer spot store text [] [] last reached
      (({ store with pots := pots } : Store _ _ _).put writer.outlet
        reached.gathering.outlet) := by
  refine ⟨standing, sameOutlet, untapped, sameBehind, sameOnResult, fun coming _ => sofar coming,
    ?_, ?_, rfl, ready.suits, ?_, rfl, fun _ _ there => there, ?_, ?_, ?_, fun _ => rfl⟩
  · rw [opens]
    simp
  · intro id outlet different there
    rw [Store.put_outlets_of_ne _ _ (Ne.symm different)]
    exact there
  · simp
  · simp
  · simp
  · simp

theorem Plainly.simulates {yielded : Result}
    (plainly : Plainly exactly writer evaluation action yielded)
    (yields : yielded = result writer) :
    Simulates setting depth exactly writer evaluation action result := by
  intro spot store trace ready
  rcases plainly store trace ready.suits.filters with ⟨out, none⟩ | ⟨text, evaluated, ran⟩
  · exact .inr (.inr ⟨out, fun same _ => none same⟩)
  · refine .inl ⟨text, trace, writer, _, evaluated, by rw [ran, yields], spot.written text, [], [],
      by simp, ?_, ?_⟩
    · rw [Writer.wrote_client]
      exact ready.settled
    · rw [ready.standing.wrote_eq ready.untapped]
      have standing : writer.StandsAt (spot.written text)
          (store.put writer.outlet (spot.written text).gathering.outlet) :=
        ⟨Store.put_outlets_self _ _ (Store.lt_size_of_outlet ready.standing.there),
          ready.standing.sameNumber, ready.standing.unended, ready.standing.orderly.write text⟩
      exact ready.progress_put standing rfl ready.untapped rfl rfl
        (fun coming => Spot.sofar_written coming spot text) rfl

theorem Simulates.fail {handlers : Handlers Continuation Observer State} {error : RenderError}
    (keep : ∀ id result, handlers.Keep (Store.HasResult id result)) :
    Simulates setting depth exactly writer (Evaluate.fail error) (writer.fail handlers error)
      id := by
  intro spot store trace ready
  refine .inr (.inl ⟨error, rfl, fun _ noneOpen yielded later ran => ?_⟩)
  exact ready.standing.fail_hasResult (keep _ _) noneOpen ran

theorem Ready.settle (ready : Ready setting writer spot store trace) (depth : Nat)
    (settled : Bool) :
    Progress setting depth writer spot store "" [] [] writer spot
        { store with client := { store.client with settled := settled } } ∧
      Ready setting writer spot
        { store with client := { store.client with settled := settled } }
        { trace with settled := settled } := by
  have unseen : Unseen store
      { store with client := { store.client with settled := settled } } :=
    ⟨rfl, rfl, fun _ _ there => there⟩
  exact ⟨unseen.progress ready depth, (unseen.progress ready depth).ready rfl⟩

theorem Simulates.afterSettling (settled : Bool)
    (simulates : Simulates setting depth exactly writer evaluation action result) :
    Simulates setting depth exactly writer (do
      Evaluate.setSettled settled
      evaluation) (do
      Render.setSettled settled
      action) result := by
  intro spot store trace ready
  obtain ⟨still, readyNext⟩ := ready.settle depth settled
  rcases simulates spot _ _ readyNext with
    ⟨text, after, last, later, evaluated, ran, reached, owed, more, noted, same, progress⟩ |
    fails | out
  · refine .inl ⟨text, after, last, later, evaluated, ran, reached, owed, more, noted, same, ?_⟩
    simpa using still.trans progress
  · exact .inr (.inl fails)
  · exact .inr (.inr out)

theorem Simulates.withFreshSelect
    (simulates : Simulates setting depth exactly writer evaluation action result) :
    Simulates setting depth exactly writer (Evaluate.withFreshSelect evaluation)
      (Render.withFreshSelect action) result := by
  intro spot store trace ready
  obtain ⟨still, readyNext⟩ := ready.settle depth false
  have evaluatesTo :
      Evaluate.withFreshSelect evaluation trace =
        (do
          let text ← evaluation
          Evaluate.setSettled trace.settled
          Pure.pure text : Evaluation String) { trace with settled := false } :=
    rfl
  have runsTo :
      Render.withFreshSelect action store =
        (do
          let yielded ← action
          Render.setSettled store.client.settled
          Pure.pure yielded : Action Result)
          { store with client := { store.client with settled := false } } :=
    rfl
  rw [evaluatesTo, runsTo, evaluate_bind, run_bind]
  rcases simulates spot _ _ readyNext with
    ⟨text, after, last, later, evaluated, ran, reached, owed, more, noted, same, progress⟩ |
    ⟨error, evaluated, fails⟩ | ⟨out, none⟩
  · obtain ⟨outer, -⟩ := (progress.ready same).settle depth store.client.settled
    rw [evaluated, ran]
    refine .inl ⟨text, { after with settled := trace.settled }, last, _, rfl, rfl, reached, owed,
      more, noted, ready.settled, ?_⟩
    simpa using (still.trans progress).trans outer
  · rw [evaluated]
    refine .inr (.inl ⟨error, rfl, fun isPrompt noneOpen yielded later ran => ?_⟩)
    obtain ⟨⟨found, halfway⟩, ranFirst, rest⟩ := Option.bind_eq_some_iff.mp ran
    cases rest
    exact fails isPrompt noneOpen found halfway ranFirst
  · rw [out]
    refine .inr (.inr ⟨rfl, fun same isPrompt => ?_⟩)
    rw [none same isPrompt]
    rfl

/-- An action that writes the text of an evaluation on a branch and ends the branch, where something
behind the branch is open. -/
def Concludes (setting : Setting) (depth : Nat) (exactly : Prop) (branch : Writer)
    (evaluation : Evaluation String) (action : Action Unit) : Prop :=
  ∀ spot store trace, Ready setting branch spot store trace →
    Segment.openNumbers spot.behind ≠ [] →
    (∃ text after last halfway reached owed more,
      evaluation trace = some (.ok (text, after)) ∧
        after.included = trace.included ++ more ∧ halfway.client.settled = after.settled ∧
        Progress setting depth branch spot store text more owed last reached halfway ∧
        action store =
          some ((), halfway.put branch.outlet reached.closed.gathering.drained.outlet)) ∨
    (∃ error,
      evaluation trace = some (.error error) ∧
        (setting.IsPrompt → Segment.openNumbers spot.before = [] →
          ∀ later, action store = some ((), later) →
            later.HasResult branch.outlet (.error error))) ∨
    (evaluation trace = none ∧ (exactly → setting.IsPrompt → action store = none))

theorem Simulates.concludes {handlers : Handlers Continuation Observer State}
    {action : Action Writer}
    (simulates : Simulates setting depth exactly writer evaluation action id)
    (keep : ∀ id result, handlers.Keep (Store.HasResult id result))
    (rounds : ∀ trace found, evaluation trace = some (.ok found) → 0 < handlers.rounds) :
    Concludes setting depth exactly writer evaluation (do
      let last ← action
      last.finish handlers) := by
  intro spot store trace ready someOpen
  rcases simulates spot store trace ready with
    ⟨text, after, last, later, evaluated, ran, reached, owed, more, noted, same, progress⟩ |
    ⟨error, evaluated, fails⟩ | ⟨out, none⟩
  · refine .inl ⟨text, after, last, later, reached, owed, more, evaluated, noted, same, progress,
      ?_⟩
    have stillOpen :
        Segment.openNumbers reached.before ++ Segment.openNumbers reached.behind ≠ [] := by
      rw [progress.sameBehind]
      exact fun noneOpen => someOpen (List.append_eq_nil_iff.mp noneOpen).2
    have finished := progress.standing.finish_pending stillOpen (rounds _ _ evaluated)
    rw [progress.sameOutlet] at finished
    rw [run_bind, ran]
    exact finished
  · refine .inr (.inl ⟨error, evaluated, fun isPrompt noneOpen later ran => ?_⟩)
    obtain ⟨last, halfway, ranFirst, finished⟩ := bind_eq_some.mp ran
    exact Keeps.finish (keep _ _) _ _ _ (fails isPrompt noneOpen last halfway ranFirst) finished
  · refine .inr (.inr ⟨out, fun same isPrompt => ?_⟩)
    rw [run_bind, none same isPrompt]
    rfl

theorem Progress.pastBranch {branch last : Writer} {reached : Spot Continuation} {text : String}
    {included : List String} {owed : List Owed} {halfway : Store Continuation Observer State}
    (ready : Ready setting writer spot store trace)
    (onBranch : branch = { writer with segment := spot.nextNumber })
    (progress : Progress setting depth branch spot.onBranch
      (store.put writer.outlet spot.onBranch.gathering.outlet) text included owed last reached
      halfway) :
    ∃ moved : Spot Continuation,
      Progress setting depth writer spot store text included owed
        { writer with segment := spot.nextNumber + 1 } moved
        (halfway.put writer.outlet reached.closed.gathering.drained.outlet) := by
  subst onBranch
  let behind : Spot Continuation :=
    { reached with
      before := reached.before ++ [reached.segment.closed]
      segment := Segment.fresh (spot.nextNumber + 1)
      behind := spot.behind }
  have unended : behind.segment.ended = false := rfl
  have sameGathering : behind.gathering = reached.closed.gathering := by
    have below := progress.sameBehind
    simp only [Spot.onBranch] at below
    simp [behind, Spot.gathering, Spot.closed, below]
  have orderly := progress.standing.closed_orderly
  rw [← sameGathering] at orderly
  obtain ⟨moved, drained, segment, sameBehind, sameNumber, sameOnResult, sofar, opens⟩ :=
    Spot.exists_drained unended orderly.noError
  rw [← sameGathering, ← drained]
  have bound := Store.lt_size_of_outlet progress.standing.there
  rw [progress.sameOutlet] at bound
  refine ⟨moved, ⟨?_, ?_, ?_, ?_⟩, rfl, ready.untapped, sameBehind, ?_, ?_, ?_, ?_,
    progress.events, progress.suits, progress.requests, progress.queue, progress.registered,
    progress.loaded, progress.due, progress.cost, progress.prompt⟩
  · exact Store.put_outlets_self _ _ bound
  · rw [segment]
    rfl
  · rw [segment]
    rfl
  · rw [drained, sameNumber]
    exact Gathering.orderly_drained orderly
  · rw [sameOnResult]
    exact progress.sameOnResult
  · intro coming pays
    rw [sofar]
    have written := progress.sofar coming pays
    rw [Spot.sofar_onBranch] at written
    rw [← written]
    simp [behind, Spot.sofar, Segment.total, Segment.closed, Segment.fresh, String.append_assoc]
  · rw [opens]
    have below := progress.opens
    simpa [behind, Spot.onBranch] using below
  · intro id outlet different there
    rw [Store.put_outlets_of_ne _ _ (Ne.symm different)]
    refine progress.others id outlet different ?_
    rw [Store.put_outlets_of_ne _ _ (Ne.symm different)]
    exact there

theorem Ready.onBranch (ready : Ready setting writer spot store trace) :
    Ready setting { writer with segment := spot.nextNumber } spot.onBranch
      (store.put writer.outlet spot.onBranch.gathering.outlet) trace :=
  ⟨ready.standing.branch_standsAt, ready.untapped, ready.suits, ready.settled⟩

/-- Something is rendered on a branch, and the render goes on behind it. -/
theorem Simulates.branching {work : Writer → Action Unit}
    (concludes : ∀ branch, Concludes setting depth exactly branch evaluation (work branch)) :
    Simulates setting depth exactly writer evaluation (do
      let (branch, next) ← writer.fork
      work branch
      Pure.pure next) id := by
  intro spot store trace ready
  have someOpen : Segment.openNumbers spot.onBranch.behind ≠ [] := by simp [Spot.onBranch]
  rw [run_bind, ready.standing.fork_eq]
  simp only [Option.bind_some, run_bind, run_pure]
  rcases concludes _ spot.onBranch _ trace ready.onBranch someOpen with
    ⟨text, after, last, halfway, reached, owed, more, evaluated, noted, same, progress, ran⟩ |
    ⟨error, evaluated, fails⟩ | ⟨out, none⟩
  · obtain ⟨moved, past⟩ := progress.pastBranch ready rfl
    refine .inl ⟨text, after, _, _, evaluated, ?_, moved, owed, more, noted, ?_, past⟩
    · rw [ran]
      rfl
    · exact same
  · refine .inr (.inl ⟨error, evaluated, fun isPrompt noneOpen yielded later ranBoth => ?_⟩)
    obtain ⟨⟨_, middle⟩, ranFirst, yields⟩ := Option.bind_eq_some_iff.mp ranBoth
    cases yields
    refine fails isPrompt ?_ middle ranFirst
    simp [Spot.onBranch, noneOpen]
  · refine .inr (.inr ⟨out, fun same isPrompt => ?_⟩)
    rw [none same isPrompt]
    rfl

end Steps

end BraceTemplate.Render
