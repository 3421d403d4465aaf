import BraceTemplate.Proofs.Output.Gathering

/-!
# Handles on gathering outlets

What writing, forking, ending and failing do at an open segment of an outlet that gathers. A spot is
such an outlet seen from one of its segments; nothing else of the store changes, except that taps
may fill their pots.
-/

namespace BraceTemplate.Output

/-- What becomes of a text that passes a tap. -/
def Tap.passed : Tap → String → String
  | change transform, text => transform text
  | collect _, _ => ""

def Tap.passedAll : List Tap → String → String
  | [], text => text
  | newest :: older, text => passedAll older (newest.passed text)

/-- An outlet that gathers, seen from one of its segments. -/
structure Spot (Continuation : Type) where
  passed : List Nat
  before : List Segment
  segment : Segment
  behind : List Segment
  nextNumber : Nat
  again : Bool
  text : String
  onResult : Option Continuation

namespace Spot

variable {Continuation : Type}

def gathering (spot : Spot Continuation) : Gathering Continuation :=
  ⟨spot.passed, spot.before ++ spot.segment :: spot.behind, spot.nextNumber, spot.again,
    spot.text, spot.onResult⟩

/-- After more was written to the segment. -/
def written (spot : Spot Continuation) (text : String) : Spot Continuation :=
  { spot with segment := spot.segment.written text }

/-- After the end of the segment. -/
def closed (spot : Spot Continuation) : Spot Continuation :=
  { spot with segment := spot.segment.closed }

def forkedPassed (spot : Spot Continuation) : List Nat :=
  Outlet.insertPassed spot.segment.number [spot.nextNumber, spot.nextNumber + 1] spot.passed

def onBranch (spot : Spot Continuation) : Spot Continuation :=
  { spot with
    passed := spot.forkedPassed
    before := spot.before ++ [spot.segment.closed]
    segment := Segment.fresh spot.nextNumber
    behind := Segment.fresh (spot.nextNumber + 1) :: spot.behind
    nextNumber := spot.nextNumber + 2 }

def pastBranch (spot : Spot Continuation) : Spot Continuation :=
  { spot with
    passed := spot.forkedPassed
    before := spot.before ++ [spot.segment.closed, Segment.fresh spot.nextNumber]
    segment := Segment.fresh (spot.nextNumber + 1)
    nextNumber := spot.nextNumber + 2 }

theorem pastBranch_gathering (spot : Spot Continuation) :
    spot.pastBranch.gathering = spot.onBranch.gathering := by
  simp [pastBranch, onBranch, gathering]

end Spot

/-- A handle stands at a spot: its outlet gathers, and its segment is open. -/
structure Writer.StandsAt {Continuation Listener Client : Type} (writer : Writer)
    (spot : Spot Continuation) (store : Store Continuation Listener Client) : Prop where
  there : store.outlets[writer.outlet]? = some spot.gathering.outlet
  sameNumber : spot.segment.number = writer.segment
  unended : spot.segment.ended = false
  orderly : Segment.Orderly spot.gathering.waiting spot.nextNumber

namespace Writer

variable {Continuation Listener Client : Type} {writer : Writer} {spot : Spot Continuation}
variable {store : Store Continuation Listener Client}
variable {handlers : Handlers Continuation Listener Client}

/-- Taps yield what passes them; of the store they change the pots alone. -/
theorem passTaps_eq (taps : List Tap) (text : String)
    (store : Store Continuation Listener Client) :
    ∃ pots,
      passTaps taps text store = some (Tap.passedAll taps text, { store with pots := pots }) := by
  induction taps generalizing store text with
  | nil => exact ⟨store.pots, rfl⟩
  | cons newest older inductionHypothesis =>
      cases newest with
      | change transform => exact inductionHypothesis (transform text) store
      | collect pot =>
          obtain ⟨pots, equality⟩ :=
            inductionHypothesis "" { store with pots := store.pots.modify pot (· ++ text) }
          refine ⟨pots, ?_⟩
          rw [passTaps, run_bind, run_fillPot, Option.bind_some, equality]
          rfl

namespace StandsAt

theorem run_change (standing : writer.StandsAt spot store) (change : Segment → Segment) :
    modifyOutlet writer.outlet (fun outlet => outlet.change writer.segment change) store =
      some ((), store.put writer.outlet
        { spot with segment := change spot.segment : Spot Continuation }.gathering.outlet) := by
  have first : writer.segment ∉ spot.before.map Segment.number := by
    rw [← standing.sameNumber]
    exact standing.orderly.notMem_before
  rw [run_modifyOutlet standing.there]
  simp only [Outlet.change, Gathering.outlet, Spot.gathering,
    Outlet.changeSegment_split change standing.sameNumber first]

/-- What passes the taps is written at the end of the segment. -/
theorem write_eq (standing : writer.StandsAt spot store) (text : String) :
    ∃ pots,
      writer.write text store =
        some (writer, ({ store with pots := pots } : Store _ _ _).put writer.outlet
          (spot.written (Tap.passedAll writer.taps text)).gathering.outlet) := by
  obtain ⟨pots, equality⟩ := passTaps_eq writer.taps text store
  have later : writer.StandsAt spot { store with pots := pots } :=
    ⟨standing.there, standing.sameNumber, standing.unended, standing.orderly⟩
  refine ⟨pots, ?_⟩
  unfold write
  rw [run_bind, equality, Option.bind_some]
  by_cases blank : (Tap.passedAll writer.taps text).isEmpty
  · have textNil : Tap.passedAll writer.taps text = "" := by simpa using blank
    have unchanged : spot.written "" = spot := by
      simp [Spot.written, Segment.written]
    simp only [blank, if_true, run_pure]
    rw [textNil, unchanged, Store.put_self later.there]
  · simp only [blank, Bool.false_eq_true, if_false, run_bind, later.run_change, Option.bind_some,
      run_pure]
    rfl

theorem finish_eq (standing : writer.StandsAt spot store) :
    writer.finish handlers store =
      flush handlers writer.outlet (store.put writer.outlet spot.closed.gathering.outlet) := by
  unfold finish
  rw [run_bind, standing.run_change, Option.bind_some]
  rfl

theorem closed_orderly (standing : writer.StandsAt spot store) :
    Segment.Orderly spot.closed.gathering.waiting spot.closed.gathering.nextNumber :=
  standing.orderly.close

theorem openNumbers_closed :
    Segment.openNumbers spot.closed.gathering.waiting =
      Segment.openNumbers spot.before ++ Segment.openNumbers spot.behind := by
  simp [Spot.gathering, Spot.closed]

/-- Ending a segment while another one is open: what can leave is gathered. -/
theorem finish_pending (standing : writer.StandsAt spot store)
    (someOpen : Segment.openNumbers spot.before ++ Segment.openNumbers spot.behind ≠ [])
    (rounds : 0 < handlers.rounds) :
    writer.finish handlers store =
      some ((), store.put writer.outlet spot.closed.gathering.drained.outlet) := by
  have bound := Store.lt_size_of_outlet standing.there
  rw [standing.finish_eq, Gathering.flush_pending (Store.put_outlets_self _ _ bound)
    standing.closed_orderly.noError (openNumbers_closed ▸ someOpen) rounds, Store.put_put]

theorem finish_finished {later : Store Continuation Listener Client}
    (standing : writer.StandsAt spot store)
    (noneOpen : Segment.openNumbers spot.before ++ Segment.openNumbers spot.behind = [])
    (rounds : 0 < handlers.rounds)
    (handedOn :
      handOn handlers spot.onResult (.ok spot.closed.gathering.drained.text)
        (store.put writer.outlet
          (spot.closed.gathering.telling (.ok spot.closed.gathering.drained.text))) =
        some ((), later))
    (untouched :
      later.outlets[writer.outlet]? =
        some (spot.closed.gathering.telling (.ok spot.closed.gathering.drained.text))) :
    writer.finish handlers store =
      some ((), later.put writer.outlet
        (spot.closed.gathering.told (.ok spot.closed.gathering.drained.text))) := by
  have bound := Store.lt_size_of_outlet standing.there
  rw [standing.finish_eq]
  exact Gathering.flush_finished (Store.put_outlets_self _ _ bound)
    standing.closed_orderly.noError (openNumbers_closed.trans noneOpen) rounds
    (by rw [Store.put_put]; exact handedOn) untouched

/-- A fork yields handles onto the branch and onto what follows it. -/
theorem fork_eq (standing : writer.StandsAt spot store) :
    writer.fork store =
      some (({ writer with segment := spot.nextNumber },
          { writer with segment := spot.nextNumber + 1 }),
        store.put writer.outlet spot.onBranch.gathering.outlet) := by
  have first : writer.segment ∉ spot.before.map Segment.number := by
    rw [← standing.sameNumber]
    exact standing.orderly.notMem_before
  unfold fork
  simp only [run_bind, run_outlet?, standing.there, Option.bind_some,
    run_modifyOutlet standing.there, run_pure]
  simp [Outlet.fork, Gathering.outlet, Spot.gathering, Spot.onBranch, Spot.forkedPassed,
    Outlet.insertBehind_split _ standing.sameNumber first, standing.sameNumber]

theorem branch_standsAt (standing : writer.StandsAt spot store) :
    ({ writer with segment := spot.nextNumber } : Writer).StandsAt spot.onBranch
      (store.put writer.outlet spot.onBranch.gathering.outlet) := by
  refine ⟨Store.put_outlets_self _ _ (Store.lt_size_of_outlet standing.there), rfl, rfl, ?_⟩
  have fresh := standing.orderly.close.insertFresh
  simpa [Spot.gathering, Spot.onBranch] using fresh

end StandsAt

def IsDirect (writer : Writer) : Prop :=
  writer.taps = [] ∨ ∃ pot, writer.taps = [.collect pot]

/-- What a text written through a handle without taps, or with one that keeps it, makes of the
store. -/
def wrote (writer : Writer) (text : String) (store : Store Continuation Listener Client) :
    Store Continuation Listener Client :=
  match writer.taps with
  | .collect pot :: _ => { store with pots := store.pots.modify pot (· ++ text) }
  | _ =>
    { store with
      outlets := store.outlets.modify writer.outlet fun outlet =>
        outlet.change writer.segment fun segment => segment.written text }

@[simp]
theorem wrote_client (text : String) : (writer.wrote text store).client = store.client := by
  unfold wrote
  split <;> rfl

theorem wrote_empty (direct : writer.IsDirect) : writer.wrote "" store = store := by
  rcases direct with untapped | ⟨pot, tapped⟩
  · have unchanged :
        (store.outlets.modify writer.outlet fun outlet =>
          outlet.change writer.segment fun segment => segment.written "") = store.outlets := by
      apply Array.ext_getElem?
      intro index
      rw [Array.getElem?_modify]
      split
      · simp [Outlet.change, Segment.written, Outlet.changeSegment_self]
      · rfl
    simp only [wrote, untapped, unchanged]
  · have unchanged : store.pots.modify pot (· ++ "") = store.pots := by
      apply Array.ext_getElem?
      intro index
      rw [Array.getElem?_modify]
      split
      · simp
      · rfl
    simp only [wrote, tapped, unchanged]

theorem wrote_wrote (direct : writer.IsDirect) (first second : String) :
    writer.wrote second (writer.wrote first store) = writer.wrote (first ++ second) store := by
  rcases direct with untapped | ⟨pot, tapped⟩
  · have joined :
        ((store.outlets.modify writer.outlet fun outlet =>
            outlet.change writer.segment fun segment => segment.written first).modify
              writer.outlet fun outlet =>
            outlet.change writer.segment fun segment => segment.written second) =
          store.outlets.modify writer.outlet fun outlet =>
            outlet.change writer.segment fun segment => segment.written (first ++ second) := by
      apply Array.ext_getElem?
      intro index
      simp only [Array.getElem?_modify]
      split
      · cases store.outlets[index]? with
        | none => rfl
        | some outlet =>
            have sameNumber :
                ∀ segment : Segment, (segment.written first).number = segment.number :=
              fun _ => rfl
            simp only [Option.map_some, Outlet.change]
            rw [Outlet.changeSegment_changeSegment sameNumber]
            simp [Segment.written, String.append_assoc]
      · rfl
    simp only [wrote, untapped, joined]
  · have joined :
        (store.pots.modify pot (· ++ first)).modify pot (· ++ second) =
          store.pots.modify pot (· ++ (first ++ second)) := by
      apply Array.ext_getElem?
      intro index
      simp only [Array.getElem?_modify]
      split
      · cases store.pots[index]? with
        | none => rfl
        | some held => simp [String.append_assoc]
      · rfl
    simp only [wrote, tapped, joined]

theorem write_direct (direct : writer.IsDirect) (text : String) :
    writer.write text store = some (writer, writer.wrote text store) := by
  have empty : writer.wrote "" store = store := wrote_empty direct
  rcases direct with untapped | ⟨pot, tapped⟩
  · unfold write
    rw [run_bind, untapped]
    simp only [passTaps, run_pure, Option.bind_some]
    by_cases blank : text.isEmpty
    · have textNil : text = "" := by simpa using blank
      subst textNil
      rw [empty]
      rfl
    · simp only [blank, Bool.false_eq_true, if_false]
      unfold wrote
      rw [untapped]
      rfl
  · unfold write wrote
    rw [run_bind, tapped]
    simp only [passTaps, run_bind, run_fillPot, Option.bind_some, run_pure]
    rfl

/-- What was written through a handle without taps stands in its segment. -/
theorem StandsAt.wrote_eq (standing : writer.StandsAt spot store) (untapped : writer.taps = [])
    (text : String) :
    writer.wrote text store = store.put writer.outlet (spot.written text).gathering.outlet := by
  have changed := standing.run_change fun segment => segment.written text
  unfold wrote
  rw [untapped]
  exact congrArg Prod.snd (Option.some.inj changed)

end Writer

end BraceTemplate.Output
