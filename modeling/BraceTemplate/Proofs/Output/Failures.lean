import BraceTemplate.Proofs.Output.Rounds

/-!
# Failures of a collected output

What a collecting outlet reports when handles may fail. Whatever the order in which the handles go
on, it reports once: the text of all places, or a failure set at the first place that has any. Which
of several failures at one place it is depends on the order.
-/

namespace BraceTemplate.Output

namespace Place

def textOf (places : List Place) : String :=
  String.join (places.map text)

/-- The text of all places, or the first failure at the first place that has any. -/
def firstResult (places : List Place) : Except RenderError String :=
  match places.findSome? fun place => place.failures.head? with
  | some error => .error error
  | none => .ok (textOf places)

theorem join_pieces (places : List Place) : String.join (pieces places) = textOf places := by
  induction places with
  | nil => rfl
  | cons place others inductionHypothesis =>
      by_cases blank : place.text.isEmpty
      · have textNil : place.text = "" := by simpa using blank
        simp only [pieces, textOf] at inductionHypothesis ⊢
        simp [textNil, inductionHypothesis]
      · simp only [pieces, textOf] at inductionHypothesis ⊢
        simp [blank, inductionHypothesis]

theorem yield_firstResult (places : List Place) : Yield places (firstResult places) := by
  unfold firstResult
  cases found : places.findSome? fun place => place.failures.head? with
  | none =>
      refine ⟨fun place member => ?_, rfl⟩
      simpa using List.findSome?_eq_none_iff.mp found place member
  | some error =>
      obtain ⟨before, place, behind, split, here, sound⟩ := List.findSome?_eq_some_iff.mp found
      exact ⟨before, place, behind, split,
        fun earlier member => by simpa using sound earlier member,
        List.mem_of_mem_head? here⟩

end Place

/-- The results that have been reported. -/
def reports {Label : Type} (notes : List (Note Label)) : List (Except RenderError String) :=
  notes.filterMap fun
    | .reported result => some result
    | _ => none

def GathersResult {Label : Type} (left : List Place) (outcome : Outcome) : Requirement Label :=
  fun notes sink =>
    reports notes = (outcome.result? (Place.textOf left)).toList ∧
      sink = match outcome.result? (Place.textOf left) with
        | none => .collect (Place.textOf left) none (some ())
        | some result => .collect "" (some result) none

section Gathering

variable {Label : Type} {left : List Place} {outcome : Outcome}

theorem reports_append (first second : List (Note Label)) :
    reports (first ++ second) = reports first ++ reports second := by
  simp [reports]

theorem gathersResult_lasts : (GathersResult left outcome : Requirement Label).Lasts := by
  constructor
  · rintro notes sink course writer ⟨reported, gathers⟩
    refine ⟨?_, gathers⟩
    rw [reports_append, reported]
    cases course <;> simp [Course.notes, reports]
  · rintro notes sink channel label ⟨reported, gathers⟩
    refine ⟨?_, ?_⟩
    · rw [reports_append, reported]
      simp [reports]
    · rw [gathers]
      cases outcome <;> rfl

/-- Whatever the reactions are, the result is reported when the outlet has come to an end. -/
theorem gathersResult_delivers (reaction : Reaction Label) (depth : Nat) (id : OutletId)
    (target : List Place) :
    Delivers (reacting reaction id depth) id target GathersResult := by
  have joined (left more : List Place) :
      Place.textOf left ++ String.join (Place.pieces more) = Place.textOf (left ++ more) := by
    simp [Place.join_pieces, Place.textOf]
  constructor
  · rintro held left more outcome bound store ⟨outlet, busy⟩
    obtain ⟨reported, gathers⟩ := busy.required
    -- the sink with the result, and the store where the result is noted
    have concluding : ∀ result, outcome.result? (Place.textOf (left ++ more)) = some result →
        ∃ laterOutlet, Busy (GathersResult (left ++ more) outcome) target id held (left ++ more)
          outcome bound laterOutlet
          { store.put id { outlet with sink := .collect "" (some result) none } with
            client := store.client.note (.reported result) } := by
      intro result found
      have concluded := busy.withSink
        (fun notes sink => reports notes = [] ∧ sink = .collect "" (some result) none)
        (.collect "" (some result) none) ⟨reported, rfl⟩
      refine ⟨_, concluded.note (.reported result) (by simp) ⟨?_, ?_⟩⟩
      · rw [reports_append, concluded.required.1, found]
        rfl
      · rw [found]
    cases outcome with
    | pending =>
        refine ⟨(), _, deliver_pending busy.there gathers _, _, busy.withSink _ _ ⟨reported, ?_⟩⟩
        rw [joined]
        rfl
    | finished =>
        obtain ⟨laterOutlet, after⟩ := concluding _ rfl
        refine ⟨(), _, ?_, laterOutlet, after⟩
        rw [deliver_finished busy.there gathers, joined]
        rfl
    | failed error =>
        obtain ⟨laterOutlet, after⟩ := concluding _ rfl
        refine ⟨(), _, ?_, laterOutlet, after⟩
        rw [deliver_failed busy.there gathers]
        rfl
  · rintro held left outcome bound store ⟨outlet, busy⟩
    obtain ⟨reported, gathers⟩ := busy.required
    have same : ∀ {text result onResult}, outlet.sink = .collect text result onResult →
        deliver (reacting reaction id depth) id [] .pending store = some ((), store) := by
      intro text result onResult sink
      rw [deliver_pending busy.there sink]
      simp [String.join, ← sink, Store.put_self busy.there]
    refine ⟨(), store, ?_, outlet, busy⟩
    cases outcome with
    | pending => exact same gathers
    | finished => exact same gathers
    | failed error => exact same gathers

end Gathering

/-- What an outlet has come to where no handle is in use any more. -/
theorem Idle.yield {Label : Type} {requires : Requirement Label} {target left : List Place}
    {id : OutletId} {outcome : Outcome} {bound : Nat} {outlet : Outlet Unit Label}
    {store : Store Unit Label (Company Label)}
    (idle : Idle requires target id [] left outcome bound outlet store)
    (noneLive : store.client.live = []) :
    ∃ result, outcome.result? (Place.textOf left) = some result ∧ Place.Yield target result := by
  have noneOpen : Segment.openNumbers outlet.waiting = [] :=
    List.Perm.eq_nil (by simpa [noneLive] using idle.carries.tended.opens)
  have finished : outlet.finished = true := by
    rcases idle.calm with finished | ⟨forked, segment, behind, waiting, -, unended, -⟩
    · exact finished
    · rw [waiting, Segment.openNumbers_append, Segment.openNumbers_cons_of_open unended] at noneOpen
      simp at noneOpen
  have reach := idle.carries.reach
  cases outcome with
  | pending =>
      have unfinished := (idle.carries.going rfl).1
      rw [finished] at unfinished
      cases unfinished
  | finished => exact ⟨_, rfl, reach ▸ idle.carries.sound, by rw [reach]; rfl⟩
  | failed error =>
      obtain ⟨place, behind, split, member⟩ := reach
      exact ⟨_, rfl, left, place, behind, split, idle.carries.sound, member⟩

/-- Takes steps of handles on a new collecting outlet: in turn, of the one at some place among those
that are in use. -/
def runInOrder (depth : Nat) (course : Course) (order : List Nat) : CompanyRun Unit Unit :=
  runCompany (fun _ _ _ => []) depth (.collect "" none (some ())) course (order.map .take)

/-- Whatever the order of the steps of different handles: no step gets stuck, at most one result is
reported, and once no handle is in use any more exactly one is. It is the text of all places, or a
failure set at the first place that has any; the first one set there, where none has more. -/
theorem runInOrder_reportsOnce (course : Course) (order : List Nat) (depth : Nat)
    (enough : course.steps < depth) :
    ∃ later,
      runInOrder depth course order (Store.initial ⟨[], []⟩) = some ((), later) ∧
        (reports later.client.notes).length ≤ 1 ∧
        (later.client.live = [] →
          ∃ result, reports later.client.notes = [result] ∧
            Place.Yield (course.places [] .blank) result ∧
            ((∀ place ∈ course.places [] .blank, place.failures.length ≤ 1) →
              result = Place.firstResult (course.places [] .blank))) := by
  obtain ⟨later, outlet, left, outcome, ran, idle⟩ :=
    runCompany_leads GathersResult ⟨rfl, rfl⟩ (fun _ _ => gathersResult_lasts) enough
      (gathersResult_delivers (fun _ _ _ => []) depth 0 _) (order.map .take)
  refine ⟨later, ran, ?_, fun noneLive => ?_⟩
  · rw [idle.required.1]
    cases outcome <;> simp [Outcome.result?]
  · obtain ⟨result, found, yield⟩ := idle.yield noneLive
    refine ⟨result, ?_, yield, fun single =>
      yield.unique single (Place.yield_firstResult (course.places [] .blank))⟩
    rw [idle.required.1, found]
    rfl

/-- How many handles are in use in the end, and what has been reported. -/
def reportedInOrder (depth : Nat) (course : Course) (order : List Nat) :
    Option (Nat × List (Except RenderError String)) :=
  (runInOrder depth course order (Store.initial ⟨[], []⟩)).map fun found =>
    (found.2.client.live.length, reports found.2.client.notes)

/-- A failure behind a branch that has not ended waits for it, and nothing behind it is reported. -/
theorem runInOrder_reportsOnce_branchLast :
    ∃ later,
      runInOrder 8
          (.write "a" (.fork (.write "b" .finish) (.fail (.function "late") (.write "c" .finish))))
          [0, 0, 1, 0, 0, 0, 0] (Store.initial ⟨[], []⟩) = some ((), later) ∧
        later.client.live = [] ∧ reports later.client.notes = [.error (.function "late")] := by
  let course : Course :=
    .write "a" (.fork (.write "b" .finish) (.fail (.function "late") (.write "c" .finish)))
  obtain ⟨later, ran, -, ended⟩ :=
    runInOrder_reportsOnce course [0, 0, 1, 0, 0, 0, 0] 8 (by decide)
  have evaluated : (reportedInOrder 8 course [0, 0, 1, 0, 0, 0, 0]).map Prod.fst = some 0 := by
    decide +kernel
  rw [reportedInOrder, ran] at evaluated
  have noneLive : later.client.live = [] :=
    List.eq_nil_of_length_eq_zero (Option.some.inj evaluated)
  obtain ⟨result, reported, -, first⟩ := ended noneLive
  exact ⟨later, ran, noneLive, reported.trans (congrArg (fun result => [result])
    (first (by decide)))⟩

/-- A handle that forks and then fails twice. -/
def failingTwice : Course :=
  .fork .finish (.fail (.function "first") (.fail (.function "second") .finish))

/-- Where the branch has ended, the first failure of the handle behind it is reported. While it is
open, the second failure takes the place of the first. -/
theorem reportedInOrder_failingTwice :
    Place.firstResult (failingTwice.places [] .blank) = .error (.function "first") ∧
      reportedInOrder 6 failingTwice [0, 0, 0, 0, 0] = some (0, [.error (.function "first")]) ∧
      reportedInOrder 6 failingTwice [0, 1, 0, 0, 0] = some (0, [.error (.function "second")]) := by
  decide +kernel

end BraceTemplate.Output
