import BraceTemplate.Proofs.Output.Handles
import BraceTemplate.Proofs.Output.Keeping

/-!
# What has been written so far

The text in front of the place where a handle writes. Letting ended segments leave does not change
it, a fork starts two handles with it, and a failure takes its place where nothing in front of the
failed segment is open.
-/

namespace BraceTemplate.Output

namespace Spot

variable {Continuation : Type}

def sofar (coming : Coming) (spot : Spot Continuation) : String :=
  spot.text ++ Segment.totals coming spot.before ++ spot.segment.text

@[simp]
theorem sofar_written (coming : Coming) (spot : Spot Continuation) (text : String) :
    (spot.written text).sofar coming = spot.sofar coming ++ text := by
  simp [sofar, written, Segment.written, String.append_assoc]

@[simp]
theorem sofar_onBranch (coming : Coming) (spot : Spot Continuation) :
    spot.onBranch.sofar coming = spot.sofar coming := by
  simp [sofar, onBranch, Segment.total, Segment.closed, Segment.fresh, String.append_assoc]

/-- What is still to come on a branch stands in front of what follows it. -/
theorem sofar_pastBranch (coming : Coming) (spot : Spot Continuation) :
    spot.pastBranch.sofar coming = spot.sofar coming ++ coming spot.nextNumber := by
  simp [sofar, pastBranch, Segment.total, Segment.closed, Segment.fresh, String.append_assoc]

/-- The ended segments in front of an open one leave; the open one and what is behind it stay. -/
theorem exists_drained {spot : Spot Continuation} (unended : spot.segment.ended = false)
    (noError : ∀ segment ∈ spot.gathering.waiting, segment.error = none) :
    ∃ moved : Spot Continuation,
      moved.gathering = spot.gathering.drained ∧ moved.segment = spot.segment ∧
        moved.behind = spot.behind ∧ moved.nextNumber = spot.nextNumber ∧
        moved.onResult = spot.onResult ∧
        (∀ coming, moved.sofar coming = spot.sofar coming) ∧
        Segment.openNumbers moved.before = Segment.openNumbers spot.before := by
  obtain ⟨left, equality, allEnded, text⟩ := Outlet.drainWaiting_split noError
  obtain ⟨kept, beforeSplit, rest⟩ : ∃ kept, spot.before = left ++ kept ∧
      (Outlet.drainWaiting spot.gathering.waiting).waiting =
        kept ++ spot.segment :: spot.behind := by
    rcases List.append_eq_append_iff.mp equality with ⟨kept, leftSplit, restSplit⟩ |
      ⟨kept, beforeSplit, restSplit⟩
    · cases kept with
      | nil => exact ⟨[], by simpa using leftSplit.symm, by simpa using restSplit.symm⟩
      | cons first others =>
          have same : spot.segment = first := by
            simp only [List.cons_append, List.cons.injEq] at restSplit
            exact restSplit.1
          have ended := allEnded first (by simp [leftSplit])
          rw [← same, unended] at ended
          cases ended
    · exact ⟨kept, beforeSplit, restSplit⟩
  have leftClosed : Segment.openNumbers left = [] :=
    Segment.openNumbers_eq_nil_iff.mpr allEnded
  refine ⟨{ spot with
      passed := spot.gathering.drained.passed
      before := kept
      again := false
      text := spot.gathering.drained.text }, ?_, rfl, rfl, rfl, rfl, ?_, ?_⟩
  · simp only [gathering] at rest
    simp [gathering, Gathering.drained, rest]
  · intro coming
    have gathered : spot.gathering.drained.text = spot.text ++ Segment.totals coming left := by
      rw [← text coming]
      rfl
    simp [sofar, gathered, beforeSplit, String.append_assoc]
  · simp [beforeSplit, leftClosed]

end Spot

section Failing

variable {Continuation Listener Client : Type} {store later : Store Continuation Listener Client}
variable {handlers : Handlers Continuation Listener Client} {id : OutletId}
variable {error : RenderError}

theorem keeps_handOn {result : Except RenderError String}
    (keep : handlers.Keep (Store.HasResult id result)) (onResult : Option Continuation)
    (other : Except RenderError String) :
    Keeps (Store.HasResult id result) (handOn handlers onResult other) := by
  cases onResult with
  | none => exact .pure _
  | some continuation => exact keep.resume continuation other

/-- A round that meets a failure first leaves the failure as the result. -/
theorem flushRound_failed {gathering : Gathering Continuation} {before behind : List Segment}
    {segment : Segment} {again : Bool}
    (keep : handlers.Keep (Store.HasResult id (.error error)))
    (there : store.outlets[id]? = some gathering.flushing)
    (waiting : gathering.waiting = before ++ segment :: behind)
    (noError : ∀ segment ∈ before, segment.error = none)
    (allEnded : ∀ segment ∈ before, segment.ended = true) (failed : segment.error = some error)
    (ran : flushRound handlers id store = some (again, later)) :
    later.HasResult id (.error error) := by
  have bound := Store.lt_size_of_outlet there
  have outcome : (Outlet.drainWaiting (before ++ segment :: behind)).outcome = .failed error :=
    Outlet.drainWaiting_failed noError allEnded failed
  rw [← waiting] at outcome
  have drained :
      ({ (gathering.flushing : Outlet Continuation Listener) with again := false } :
          Outlet Continuation Listener).drain =
        ((Outlet.drainWaiting gathering.waiting).pieces, .failed error,
          { (gathering.drained.flushing : Outlet Continuation Listener) with
            finished := true, sink := .collect gathering.text none gathering.onResult }) := by
    simp [Outlet.drain, Gathering.flushing, Gathering.outlet, Gathering.drained, outcome]
  rw [flushRound_eq there, drained, run_bind] at ran
  obtain ⟨⟨_, middle⟩, delivered, rest⟩ := Option.bind_eq_some_iff.mp ran
  rw [deliver_failed (Store.put_outlets_self _ _ bound) rfl] at delivered
  have told := keeps_handOn keep _ _ _ _ _ ?_ delivered
  · refine Keeps.bind (.outlet? id) (fun found => ?_) _ _ _ told rest
    cases found <;> exact .pure _
  · refine ⟨_, Store.put_outlets_self _ _ (by simpa using bound), rfl, _, _, rfl⟩

/-- Failing where everything in front has ended makes the failure the result. -/
theorem Writer.StandsAt.fail_hasResult {writer last : Writer} {spot : Spot Continuation}
    (standing : writer.StandsAt spot store)
    (keep : handlers.Keep (Store.HasResult writer.outlet (.error error)))
    (noneOpen : Segment.openNumbers spot.before = [])
    (ran : writer.fail handlers error store = some (last, later)) :
    later.HasResult writer.outlet (.error error) := by
  have bound := Store.lt_size_of_outlet standing.there
  let failing : Spot Continuation :=
    { spot with segment := { spot.segment with error := some error } }
  have allEnded := Segment.openNumbers_eq_nil_iff.mp noneOpen
  have noError : ∀ segment ∈ spot.before, segment.error = none := fun segment member =>
    standing.orderly.noError segment (by simp [Spot.gathering, member])
  unfold Writer.fail at ran
  rw [run_bind, standing.run_change, Option.bind_some] at ran
  obtain ⟨_, reached, flushed, yielded⟩ := bind_eq_some.mp ran
  have there :
      (store.put writer.outlet failing.gathering.outlet).outlets[writer.outlet]? =
        some failing.gathering.outlet :=
    Store.put_outlets_self _ _ bound
  change flush handlers writer.outlet (store.put writer.outlet failing.gathering.outlet) = _
    at flushed
  cases yielded
  rw [Gathering.flush_eq there] at flushed
  obtain ⟨⟨_, rounded⟩, rounds, ended⟩ := Option.bind_eq_some_iff.mp flushed
  have told : rounded.HasResult writer.outlet (.error error) := by
    cases count : handlers.rounds with
    | zero =>
        rw [count] at rounds
        cases rounds
    | succ more =>
        rw [count] at rounds
        obtain ⟨again, afterFirst, first, others⟩ := bind_eq_some.mp rounds
        have hasResult :=
          flushRound_failed keep
            (Store.put_outlets_self _ _ (by simpa using bound)) rfl noError allEnded rfl first
        cases again with
        | true => exact Keeps.flushRounds keep more _ _ _ hasResult others
        | false => exact Keeps.pure _ _ _ _ hasResult others
  refine Keeps.modifyOutlet ?_ _ _ _ told ended
  exact fun _ _ hasResult => hasResult

/-- A flush that hands a result on keeps what handing it on has led to. -/
theorem flush_hasResult {gathering : Gathering Continuation} {other : OutletId}
    {result : Except RenderError String}
    (keep : handlers.Keep (Store.HasResult other result))
    (there : store.outlets[id]? = some gathering.outlet)
    (noError : ∀ segment ∈ gathering.waiting, segment.error = none)
    (noneOpen : Segment.openNumbers gathering.waiting = [])
    (told : ∀ middle,
      handOn handlers gathering.onResult (.ok gathering.drained.text)
          (store.put id (gathering.telling (.ok gathering.drained.text))) = some ((), middle) →
        middle.HasResult other result)
    (ran : flush handlers id store = some ((), later)) : later.HasResult other result := by
  have bound := Store.lt_size_of_outlet there
  rw [Gathering.flush_eq there] at ran
  obtain ⟨⟨_, rounded⟩, rounds, ended⟩ := Option.bind_eq_some_iff.mp ran
  have afterRounds : rounded.HasResult other result := by
    cases count : handlers.rounds with
    | zero =>
        rw [count] at rounds
        cases rounds
    | succ more =>
        rw [count] at rounds
        obtain ⟨again, afterFirst, first, others⟩ := bind_eq_some.mp rounds
        rw [Gathering.flushRound_finished (Store.put_outlets_self _ _ bound) noError noneOpen,
          Store.put_put] at first
        obtain ⟨⟨_, middle⟩, handedOn, same⟩ := Option.bind_eq_some_iff.mp first
        cases same
        have hasResult := told middle handedOn
        split at others
        · exact Keeps.flushRounds keep more _ _ _ hasResult others
        · exact Keeps.pure _ _ _ _ hasResult others
  refine Keeps.modifyOutlet ?_ _ _ _ afterRounds ended
  exact fun _ _ hasResult => hasResult

end Failing

namespace Spot

variable {Continuation : Type}

/-- A new outlet, seen from its only segment. -/
def opening (onResult : Option Continuation) : Spot Continuation :=
  ⟨[], [], Segment.fresh 0, [], 1, false, "", onResult⟩

def complete (onResult : Option Continuation) (text : String) : Gathering Continuation :=
  ((opening onResult).written text).closed.gathering

end Spot

section Opening

variable {Continuation Listener Client : Type} {store later : Store Continuation Listener Client}
variable {handlers : Handlers Continuation Listener Client}
variable {onResult : Option Continuation} {text : String}

/-- The store with one more outlet. -/
def Store.open (store : Store Continuation Listener Client)
    (outlet : Outlet Continuation Listener) : Store Continuation Listener Client :=
  { store with outlets := store.outlets.push outlet }

theorem Store.open_outlets_self (outlet : Outlet Continuation Listener) :
    (store.open outlet).outlets[store.outlets.size]? = some outlet := by
  simp [Store.open]

theorem Store.open_outlets_of_some {outlet other : Outlet Continuation Listener} {id : OutletId}
    (there : store.outlets[id]? = some other) :
    (store.open outlet).outlets[id]? = some other := by
  have bound := Store.lt_size_of_outlet there
  rw [Store.open, Array.getElem?_push_lt bound]
  exact (Array.getElem?_eq_getElem bound).symm.trans there

theorem Store.open_put (first second : Outlet Continuation Listener) :
    (store.open first).put store.outlets.size second = store.open second := by
  simp only [Store.open, Store.put]
  congr 1
  apply Array.ext_getElem?
  intro index
  rw [Array.getElem?_setIfInBounds, Array.getElem?_push, Array.getElem?_push]
  by_cases last : index = store.outlets.size
  · simp [last]
  · simp [last, Ne.symm last]

variable (store onResult text)

theorem standsAt_opening :
    (Writer.onOutlet store.outlets.size).StandsAt (Spot.opening onResult)
      (store.open (Outlet.opened (.collect "" none onResult))) := by
  refine ⟨Store.open_outlets_self _, rfl, rfl, ?_⟩
  exact ⟨by simp [Spot.gathering, Spot.opening, Segment.fresh],
    by simp [Spot.gathering, Spot.opening],
    by simp [Spot.gathering, Spot.opening, Segment.fresh]⟩

theorem wrote_opening :
    (Writer.onOutlet store.outlets.size).wrote text
        (store.open (Outlet.opened (.collect "" none onResult))) =
      store.open ((Spot.opening onResult).written text).gathering.outlet := by
  rw [(standsAt_opening store onResult).wrote_eq rfl]
  exact Store.open_put _ _

theorem complete_noError :
    ∀ segment ∈ (Spot.complete onResult text).waiting, segment.error = none := by
  simp [Spot.complete, Spot.gathering, Spot.closed, Spot.opening, Spot.written, Segment.closed,
    Segment.written, Segment.fresh]

theorem drained_complete : (Spot.complete onResult text).drained.text = text := by
  rw [Gathering.text_drained_of_noneOpen (complete_noError onResult text) rfl fun _ => ""]
  simp [Spot.complete, Spot.gathering, Spot.closed, Spot.opening, Spot.written, Segment.closed,
    Segment.written, Segment.fresh, Gathering.total, Segment.total]

theorem finish_opening_eq :
    (Writer.onOutlet store.outlets.size).finish handlers
        (store.open ((Spot.opening onResult).written text).gathering.outlet) =
      flush handlers store.outlets.size (store.open (Spot.complete onResult text).outlet) := by
  have standing :
      (Writer.onOutlet store.outlets.size).StandsAt ((Spot.opening onResult).written text)
        (store.open ((Spot.opening onResult).written text).gathering.outlet) :=
    ⟨Store.open_outlets_self _, rfl, rfl, (standsAt_opening store onResult).orderly.write text⟩
  rw [standing.finish_eq]
  exact congrArg _ (Store.open_put _ _)

def Store.handing : Store Continuation Listener Client :=
  store.open ((Spot.complete onResult text).telling (.ok text))

theorem put_telling_complete :
    (store.open (Spot.complete onResult text).outlet).put store.outlets.size
        ((Spot.complete onResult text).telling
          (.ok (Spot.complete onResult text).drained.text)) =
      store.handing onResult text := by
  rw [Store.open_put, drained_complete, Store.handing]

variable {store onResult text}

/-- The only handle of an outlet ends: its text is handed on. -/
theorem finish_opening (rounds : 0 < handlers.rounds)
    (handedOn : handOn handlers onResult (.ok text) (store.handing onResult text) =
      some ((), later))
    (untouched : later.outlets[store.outlets.size]? =
      some ((Spot.complete onResult text).telling (.ok text))) :
    (Writer.onOutlet store.outlets.size).finish handlers
        (store.open ((Spot.opening onResult).written text).gathering.outlet) =
      some ((), later.put store.outlets.size ((Spot.complete onResult text).told (.ok text))) := by
  have drained := drained_complete onResult text
  rw [finish_opening_eq, Gathering.flush_finished (Store.open_outlets_self _)
    (complete_noError onResult text) rfl rounds
    (by rw [put_telling_complete, drained]; exact handedOn)
    (by rw [drained]; exact untouched), drained]

/-- The only handle of an outlet ends for which nobody waits. -/
theorem finish_opening_unheard (rounds : 0 < handlers.rounds) :
    (Writer.onOutlet store.outlets.size).finish handlers
        (store.open ((Spot.opening none).written text).gathering.outlet) =
      some ((), store.open ((Spot.complete none text).told (.ok text))) := by
  have handedOn :
      handOn handlers none (.ok text) (store.handing none text) =
        some ((), store.handing none text) :=
    rfl
  have finished := finish_opening rounds handedOn (Store.open_outlets_self _)
  rwa [Store.handing, Store.open_put] at finished

/-- Where handing the text on is out of steps, so is ending the only handle. -/
theorem finish_opening_eq_none
    (none : handOn handlers onResult (.ok text) (store.handing onResult text) = none) :
    (Writer.onOutlet store.outlets.size).finish handlers
        (store.open ((Spot.opening onResult).written text).gathering.outlet) = Option.none := by
  rw [finish_opening_eq]
  refine Gathering.flush_eq_none (Store.open_outlets_self _) (complete_noError onResult text) rfl ?_
  rw [put_telling_complete, drained_complete]
  exact none

/-- Ending the only handle keeps what handing the text on has led to. -/
theorem finish_opening_hasResult {other : OutletId} {result : Except RenderError String}
    (keep : handlers.Keep (Store.HasResult other result))
    (told : ∀ middle,
      handOn handlers onResult (.ok text) (store.handing onResult text) = some ((), middle) →
        middle.HasResult other result)
    (ran : (Writer.onOutlet store.outlets.size).finish handlers
        (store.open ((Spot.opening onResult).written text).gathering.outlet) = some ((), later)) :
    later.HasResult other result := by
  rw [finish_opening_eq] at ran
  refine flush_hasResult keep (Store.open_outlets_self _) (complete_noError onResult text) rfl ?_
    ran
  rw [put_telling_complete, drained_complete]
  exact told

end Opening

end BraceTemplate.Output
