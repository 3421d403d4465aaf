import Mathlib.Data.List.Perm.Basic
import BraceTemplate.Proofs.Output.Collecting
import BraceTemplate.Proofs.Output.Company

/-!
# Deliveries while others go on

A delivery takes rounds until nothing has changed meanwhile. What is done by whoever is told of
something only asks for another round, so that a delivery never runs within itself; every round but
the last is paid by a step that some handle has taken. At the end of a delivery nothing that could
leave is left.
-/

namespace BraceTemplate.Output

variable {Label : Type} {id : OutletId} {writer : Writer} {course : Course}
variable {before behind : List Segment} {segment : Segment} {outlet : Outlet Unit Label}
variable {others held : List (Writer × Course)} {target left : List Place} {outcome : Outcome}

section Steps

variable {store : Store Unit Label (Company Label)}

theorem run_changeSegment (there : store.outlets[id]? = some outlet)
    (split : outlet.waiting = before ++ segment :: behind)
    (tendedAt : Segment.TendedAt before segment behind outlet.nextNumber writer others)
    (change : Segment → Segment) :
    modifyOutlet id (fun outlet => outlet.change writer.segment change) store =
      some ((), store.put id
        { outlet with waiting := before ++ change segment :: behind }) := by
  rw [run_modifyOutlet there]
  simp only [Outlet.change, split,
    Outlet.changeSegment_split change tendedAt.sameNumber tendedAt.notMem_before]

/-- A step changes the outlet as the course says, may fill pots, and then may deliver. -/
theorem Course.step_eq (course : Course) (there : store.outlets[writer.outlet]? = some outlet)
    (split : outlet.waiting = before ++ segment :: behind)
    (tendedAt : Segment.TendedAt before segment behind outlet.nextNumber writer others) :
    ∃ pots later, outlet.Stepped writer course before segment behind later ∧
      ∀ handlers : Handlers Unit Label (Company Label),
        course.step handlers writer store =
          (do
            if course.delivers then flush handlers writer.outlet
            pure (course.going writer outlet.nextNumber) : CompanyRun Label _)
          (({ store with pots := pots } : Store _ _ _).put writer.outlet later) := by
  cases course with
  | finish =>
      refine ⟨store.pots, { outlet with waiting := before ++ segment.closed :: behind },
        ⟨rfl, rfl, rfl, rfl, rfl, rfl⟩, fun handlers => ?_⟩
      rw [step, Writer.finish, run_bind, run_bind, run_changeSegment there split tendedAt]
      rfl
  | write text next =>
      obtain ⟨pots, passed⟩ := Writer.passTaps_eq writer.taps text store
      have thereAlso : ({ store with pots := pots } : Store _ _ _).outlets[writer.outlet]? =
        some outlet := there
      refine ⟨pots,
        { outlet with
          waiting := before ++ segment.written (Tap.passedAll writer.taps text) :: behind },
        ⟨rfl, rfl, rfl, rfl, rfl, rfl⟩, fun handlers => ?_⟩
      rw [step, Writer.write, run_bind, run_bind, passed, Option.bind_some]
      by_cases blank : (Tap.passedAll writer.taps text).isEmpty
      · have textNil : Tap.passedAll writer.taps text = "" := by simpa using blank
        have unchanged :
            ({ outlet with waiting := before ++ segment.written "" :: behind } :
              Outlet Unit Label) = outlet := by
          simp [Segment.written, ← split]
        rw [textNil, unchanged, Store.put_self thereAlso]
        rfl
      · simp only [blank, Bool.false_eq_true, if_false, run_bind,
          run_changeSegment thereAlso split tendedAt, Option.bind_some]
        rfl
  | tap newest next =>
      refine ⟨store.pots, outlet, ⟨split, rfl, rfl, rfl, rfl, rfl⟩, fun handlers => ?_⟩
      rw [Store.put_self there]
      rfl
  | untap next =>
      refine ⟨store.pots, outlet, ⟨split, rfl, rfl, rfl, rfl, rfl⟩, fun handlers => ?_⟩
      rw [Store.put_self there]
      rfl
  | fork branch next =>
      refine ⟨store.pots, outlet.fork writer.segment, ⟨?_, rfl, rfl, rfl, rfl, rfl⟩,
        fun handlers => ?_⟩
      · simp [Outlet.fork, split, made,
          Outlet.insertBehind_split _ tendedAt.sameNumber tendedAt.notMem_before]
      · rw [step, Writer.fork]
        simp only [run_bind, run_outlet?, there, Option.bind_some, run_modifyOutlet there]
        rfl
  | fail error next =>
      let later : Outlet Unit Label :=
        { outlet with waiting := before ++ segment.failedWith error :: behind }
      refine ⟨store.pots, later, ⟨rfl, rfl, rfl, rfl, rfl, rfl⟩, fun handlers => ?_⟩
      rw [step, Writer.fail, run_bind, run_bind, run_changeSegment there split tendedAt,
        Option.bind_some, run_bind]
      change ((flush handlers writer.outlet (store.put writer.outlet later)).bind _).bind _ =
        (flush handlers writer.outlet (store.put writer.outlet later)).bind _
      cases flush handlers writer.outlet (store.put writer.outlet later) <;> rfl

end Steps

/-! ## Letting leave what can -/

namespace Outlet

variable {notes : List (Note Label)} {inUse : List (Writer × Course)}

/-- What leaves are places, and nothing that could leave is left. -/
theorem Carries.drain_going (carries : outlet.Carries target notes inUse left .pending) :
    ∃ more, outlet.drain.1 = Place.pieces more ∧
      outlet.drain.2.2.Carries target notes inUse (left ++ more) outlet.drain.2.1 ∧
      outlet.drain.2.2.Rests notes := by
  obtain ⟨unfinished, headed⟩ := carries.going rfl
  obtain ⟨gone, rest, split, allEnded, pieces, halts⟩ :=
    Segment.drainWaiting_leaves outlet.waiting
  have ofRest : ∀ segment ∈ rest, segment ∈ outlet.waiting := fun segment member =>
    split ▸ List.mem_append_right gone member
  have tended : Segment.Tended rest outlet.nextNumber inUse :=
    (split ▸ carries.tended).leave allEnded
  have headedRest : Segment.HeadFor target (left ++ gone.map Segment.place) rest inUse :=
    (split ▸ headed).leave allEnded
  have sound : ∀ entry ∈ left ++ gone.map Segment.place, entry.failures = [] := by
    intro entry member
    rcases List.mem_append.mp member with earlier | new
    · exact carries.sound entry earlier
    · exact Segment.sound_gone allEnded entry new
  have ended : ∀ number, .ended number ∈ notes → number < outlet.nextNumber ∧
      number ∉ Segment.openNumbers (drainWaiting outlet.waiting).waiting := by
    intro number member
    obtain ⟨bound, unlisted⟩ := carries.ended number member
    refine ⟨bound, fun listed => unlisted ?_⟩
    rw [halts.numbers.2] at listed
    rw [split, Segment.openNumbers_append]
    exact List.mem_append_right _ listed
  have failed : ∀ segment ∈ (drainWaiting outlet.waiting).waiting, segment.error ≠ none →
      ∃ error, .failed segment.number error ∈ notes := fun segment member failed =>
    carries.failed segment (ofRest segment (halts.failed_mem member failed)) failed
  have reach := headedRest.reach tended sound halts
  have tendedLater := tended.halt halts
  rw [drain_eq unfinished]
  refine ⟨gone.map Segment.place, pieces, ?_⟩
  generalize (drainWaiting outlet.waiting).outcome = next at halts reach ⊢
  generalize (drainWaiting outlet.waiting).waiting = waiting at halts ended failed tendedLater ⊢
  cases halts with
  | finished =>
      exact ⟨⟨tendedLater, sound, reach, by simp, fun _ => ⟨rfl, .inl rfl⟩, ended, failed⟩,
        .inl rfl⟩
  | pending unended noError =>
      refine ⟨⟨tendedLater, sound, reach, fun _ => ⟨rfl, headedRest⟩, absurd rfl,
        ended, failed⟩, .inr ⟨[], _, _, rfl, by simp, unended, noError⟩⟩
  | @failed segment rest error failedHere =>
      obtain ⟨noted, member⟩ := carries.failed segment (ofRest segment (by simp))
        (by simp [failedHere])
      exact ⟨⟨tendedLater, sound, reach, by simp,
        fun _ => ⟨rfl, .inr ⟨_, rest, noted, rfl, member⟩⟩, ended, failed⟩, .inl rfl⟩

end Outlet

/-! ## At work on an outlet -/

/-- A run that yields something from every store of one kind, and leads to stores of another. -/
def Leads {Continuation Listener Client Result : Type}
    (run : Run Continuation Listener Client Result)
    (first : Store Continuation Listener Client → Prop)
    (last : Result → Store Continuation Listener Client → Prop) : Prop :=
  ∀ store, first store → ∃ result later, run store = some (result, later) ∧ last result later

namespace Leads

variable {Continuation Listener Client Result Next : Type}
variable {first : Store Continuation Listener Client → Prop}

theorem bind {run : Run Continuation Listener Client Result}
    {next : Result → Run Continuation Listener Client Next}
    {middle : Result → Store Continuation Listener Client → Prop}
    {last : Next → Store Continuation Listener Client → Prop}
    (ofFirst : Leads run first middle)
    (ofNext : ∀ result, Leads (next result) (middle result) last) :
    Leads (run >>= next) first last := by
  intro store before
  obtain ⟨found, between, firstEquality, held⟩ := ofFirst store before
  obtain ⟨result, later, nextEquality, after⟩ := ofNext found between held
  refine ⟨result, later, ?_, after⟩
  rw [run_bind, firstEquality, Option.bind_some, nextEquality]

theorem forM {Item : Type} {step : Item → Run Continuation Listener Client PUnit}
    (each : ∀ item, Leads (step item) first fun _ => first) (items : List Item) :
    Leads (items.forM step) first fun _ => first := by
  induction items with
  | nil => exact fun store before => ⟨_, store, rfl, before⟩
  | cons item rest inductionHypothesis =>
      exact (each item).bind fun _ => inductionHypothesis

end Leads

abbrev Requirement (Label : Type) := List (Note Label) → Sink Unit Label → Prop

def Sink.attached (channel : Channel) (label : Label) : Sink Unit Label → Sink Unit Label
  | .collect text result onResult => .collect text result onResult
  | .stream listeners => .stream (listeners.withChannel channel (listeners.on channel ++ [label]))

/-- A requirement that steps and attachments do not break. -/
structure Requirement.Lasts (requires : Requirement Label) : Prop where
  step : ∀ {notes sink} (course : Course) (writer : Writer), requires notes sink →
    requires (notes ++ course.notes writer) sink
  attach : ∀ {notes sink} (channel : Channel) (label : Label), requires notes sink →
    requires (notes ++ [.attached label channel]) (sink.attached channel label)

/-- An outlet that a company works on; some handles are just being used. -/
structure Works (requires : Requirement Label) (target : List Place) (id : OutletId)
    (held : List (Writer × Course)) (left : List Place) (outcome : Outcome)
    (outlet : Outlet Unit Label) (store : Store Unit Label (Company Label)) : Prop where
  there : store.outlets[id]? = some outlet
  onOutlet : ∀ entry ∈ held ++ store.client.live, entry.1.outlet = id
  carries : outlet.Carries target store.client.notes (held ++ store.client.live) left outcome
  required : requires store.client.notes outlet.sink

/-- The same while output is delivered. Another round is paid by a step taken meanwhile. -/
structure Busy (requires : Requirement Label) (target : List Place) (id : OutletId)
    (held : List (Writer × Course)) (left : List Place) (outcome : Outcome) (bound : Nat)
    (outlet : Outlet Unit Label) (store : Store Unit Label (Company Label)) : Prop
    extends Works requires target id held left outcome outlet store where
  flushing : outlet.flushing = true
  paid : Company.stepsLeft store.client.live + outlet.again.toNat ≤ bound
  calm : outlet.Rests store.client.notes ∨ outlet.again = true

/-- The same while nothing is delivered: nothing that could leave is left. -/
structure Idle (requires : Requirement Label) (target : List Place) (id : OutletId)
    (held : List (Writer × Course)) (left : List Place) (outcome : Outcome) (bound : Nat)
    (outlet : Outlet Unit Label) (store : Store Unit Label (Company Label)) : Prop
    extends Works requires target id held left outcome outlet store where
  flushing : outlet.flushing = false
  paid : Company.stepsLeft store.client.live ≤ bound
  calm : outlet.Rests store.client.notes

section Working

variable {requires : Requirement Label} {store : Store Unit Label (Company Label)} {bound : Nat}
variable {index : Nat}

@[simp]
theorem Company.stepsLeft_append (first second : List (Writer × Course)) :
    stepsLeft (first ++ second) = stepsLeft first + stepsLeft second := by
  simp [stepsLeft]

theorem Company.stepsLeft_eraseIdx {live : List (Writer × Course)}
    (taken : live[index]? = some (writer, course)) :
    stepsLeft live = course.steps + stepsLeft (live.eraseIdx index) := by
  obtain ⟨bound, same⟩ := List.getElem?_eq_some_iff.mp taken
  have reordered := List.getElem_cons_eraseIdx_perm bound
  rw [same] at reordered
  simpa [stepsLeft] using
    ((reordered.map fun entry : Writer × Course => entry.2.steps).sum_nat).symm

/-- A step is one of those that were left. -/
theorem Company.stepsLeft_taken {live : List (Writer × Course)} (nextNumber : Nat)
    (taken : live[index]? = some (writer, course)) :
    stepsLeft (course.going writer nextNumber ++ live.eraseIdx index) + 1 = stepsLeft live := by
  have fewer := stepsLeft_eraseIdx taken
  have spent := course.stepsLeft_going writer nextNumber
  rw [stepsLeft_append]
  omega

def Store.used (store : Store Unit Label (Company Label)) (index : Nat) (writer : Writer)
    (course : Course) (pots : Array String) : Store Unit Label (Company Label) :=
  { store with pots := pots, client := store.client.without index (course.notes writer) }

/-- What comes of taking a step, before anything is delivered. -/
theorem Works.step (works : Works requires target id held left outcome outlet store)
    (lasts : requires.Lasts) (taken : store.client.live[index]? = some (writer, course)) :
    ∃ later pots,
      later.flushing = outlet.flushing ∧ later.again = outlet.again ∧
      (course.delivers = false → outlet.Rests store.client.notes →
        later.Rests (store.client.notes ++ course.notes writer)) ∧
      Works requires target id (course.going writer outlet.nextNumber ++ held) left outcome later
        ((store.used index writer course pots).put id later) ∧
      ∀ handlers : Handlers Unit Label (Company Label),
        course.step handlers writer (store.used index writer course store.pots) =
          (do
            if course.delivers then flush handlers id
            pure (course.going writer outlet.nextNumber) : CompanyRun Label _)
          ((store.used index writer course pots).put id later) := by
  obtain ⟨bound, here⟩ := List.getElem?_eq_some_iff.mp taken
  have reordered : (held ++ store.client.live).Perm
      ((writer, course) :: (held ++ store.client.live.eraseIdx index)) := by
    have outOfLive := (List.getElem_cons_eraseIdx_perm bound).symm
    rw [here] at outOfLive
    exact (outOfLive.append_left held).trans List.perm_middle
  have carries := works.carries.of_perm reordered
  have sameOutlet : writer.outlet = id :=
    works.onOutlet (writer, course) (reordered.mem_iff.mpr (by simp))
  subst sameOutlet
  obtain ⟨before, segment, behind, split, tendedAt⟩ := carries.exists_split
  have there : (store.used index writer course store.pots).outlets[writer.outlet]? = some outlet :=
    works.there
  obtain ⟨pots, later, stepped, equality⟩ := course.step_eq there split tendedAt
  have size := Store.lt_size_of_outlet there
  refine ⟨later, pots, stepped.flushing, stepped.again,
    fun quiet rests => rests.step quiet carries split tendedAt stepped, ⟨?_, ?_, ?_, ?_⟩, equality⟩
  · exact Store.put_outlets_self _ _ size
  · intro entry member
    rw [List.append_assoc] at member
    rcases List.mem_append.mp member with going | other
    · exact course.going_outlet entry going
    · exact works.onOutlet entry (reordered.mem_iff.mpr (List.mem_cons_of_mem _ other))
  · rw [List.append_assoc]
    exact carries.step split tendedAt stepped
  · rw [stepped.sink]
    exact lasts.step course writer works.required

def Store.goingOn (store : Store Unit Label (Company Label)) (going : List (Writer × Course)) :
    Store Unit Label (Company Label) :=
  { store with client := { store.client with live := going ++ store.client.live } }

theorem Works.goingOn {going : List (Writer × Course)}
    (works : Works requires target id (going ++ held) left outcome outlet store) :
    Works requires target id held left outcome outlet (store.goingOn going) := by
  have reordered : (going ++ held ++ store.client.live).Perm
      (held ++ (going ++ store.client.live)) := by
    rw [List.append_assoc]
    exact List.perm_append_comm_assoc _ _ _
  exact ⟨works.there, fun entry member => works.onOutlet entry (reordered.mem_iff.mpr member),
    works.carries.of_perm reordered, works.required⟩

theorem Works.put (works : Works requires target id held left outcome outlet store)
    (later : Outlet Unit Label)
    (waiting : later.waiting = outlet.waiting) (nextNumber : later.nextNumber = outlet.nextNumber)
    (finished : later.finished = outlet.finished) (sink : later.sink = outlet.sink) :
    Works requires target id held left outcome later (store.put id later) :=
  ⟨Store.put_outlets_self _ _ (Store.lt_size_of_outlet works.there), works.onOutlet,
    works.carries.of_outlet waiting nextNumber finished, sink ▸ works.required⟩

theorem perform_take_eq (handlers : Handlers Unit Label (Company Label))
    (taken : store.client.live[index]? = some (writer, course)) :
    Move.perform handlers id (.take index) store =
      (course.step handlers writer (store.used index writer course store.pots)).map fun found =>
        ((), found.2.goingOn found.1) := by
  rw [Move.perform, run_bind, run_client]
  simp only [Option.bind_some, taken, run_bind, run_modifyClient]
  change (course.step handlers writer (store.used index writer course store.pots)).bind _ = _
  cases course.step handlers writer (store.used index writer course store.pots) <;> rfl

theorem perform_take_none (handlers : Handlers Unit Label (Company Label))
    (none : store.client.live[index]? = none) :
    Move.perform handlers id (.take index) store = some ((), store) := by
  rw [Move.perform, run_bind, run_client]
  simp only [Option.bind_some, none]
  rfl

theorem attachTo_eq (there : store.outlets[id]? = some outlet) (channel : Channel)
    (label : Label) :
    attachTo id channel label store =
      some ((), store.put id { outlet with sink := outlet.sink.attached channel label }) := by
  rw [attachTo, modifyListeners, run_modifyOutlet there]
  cases equality : outlet.sink with
  | collect text result onResult => simp [Sink.attached, ← equality]
  | stream listeners => rfl

theorem Works.attach (works : Works requires target id held left outcome outlet store)
    (lasts : requires.Lasts) (channel : Channel) (label : Label)
    (handlers : Handlers Unit Label (Company Label)) :
    ∃ later, Move.perform handlers id (.attach channel label) store = some ((), later) ∧
      later.client = store.client.note (.attached label channel) ∧
      Works requires target id held left outcome
        { outlet with sink := outlet.sink.attached channel label } later := by
  let noted : Store Unit Label (Company Label) :=
    { store with client := store.client.note (.attached label channel) }
  have there : noted.outlets[id]? = some outlet := works.there
  refine ⟨noted.put id { outlet with sink := outlet.sink.attached channel label }, ?_, rfl,
    Store.put_outlets_self _ _ (Store.lt_size_of_outlet there), works.onOutlet, ?_,
    lasts.attach channel label works.required⟩
  · rw [Move.perform, run_bind, run_modifyClient, Option.bind_some]
    exact attachTo_eq there channel label
  · exact (works.carries.noting (by simp)).of_outlet rfl rfl rfl

/-! ## Moves while output is delivered -/

theorem flush_flushing (there : store.outlets[id]? = some outlet)
    (flushing : outlet.flushing = true) (handlers : Handlers Unit Label (Company Label)) :
    flush handlers id store = some ((), store.put id { outlet with again := true }) := by
  have asked := run_modifyOutlet there fun outlet => { outlet with again := true }
  unfold flush
  rw [run_bind, run_outlet?, there, Option.bind_some]
  change (if outlet.flushing = true then _ else _ : CompanyRun Label Unit) store = _
  rw [if_pos flushing]
  exact asked

theorem Busy.attach (busy : Busy requires target id held left outcome bound outlet store)
    (lasts : requires.Lasts) (channel : Channel) (label : Label)
    (handlers : Handlers Unit Label (Company Label)) :
    ∃ later laterOutlet,
      Move.perform handlers id (.attach channel label) store = some ((), later) ∧
        Busy requires target id held left outcome bound laterOutlet later := by
  obtain ⟨later, equality, client, works⟩ := busy.toWorks.attach lasts channel label handlers
  refine ⟨later, _, equality, works, busy.flushing, ?_, ?_⟩
  · rw [client]
    exact busy.paid
  · rw [client]
    exact busy.calm.imp_left fun rests => (rests.noting (by simp)).of_outlet rfl rfl

theorem Busy.take (busy : Busy requires target id held left outcome bound outlet store)
    (lasts : requires.Lasts) (index : Nat) (handlers : Handlers Unit Label (Company Label)) :
    ∃ later laterOutlet,
      Move.perform handlers id (.take index) store = some ((), later) ∧
        Busy requires target id held left outcome bound laterOutlet later := by
  cases taken : store.client.live[index]? with
  | none => exact ⟨store, outlet, perform_take_none handlers taken, busy⟩
  | some entry =>
      obtain ⟨writer, course⟩ := entry
      obtain ⟨changed, pots, flushing, again, rests, works, equality⟩ :=
        busy.toWorks.step lasts taken
      have spent := Company.stepsLeft_taken outlet.nextNumber taken
      have paid := busy.paid
      rw [perform_take_eq handlers taken, equality]
      cases delivers : course.delivers with
      | false =>
          refine ⟨_, changed, rfl, works.goingOn, flushing.trans busy.flushing, ?_, ?_⟩
          · change Company.stepsLeft (course.going writer outlet.nextNumber ++
              store.client.live.eraseIdx index) + _ ≤ _
            rw [again]
            omega
          · rw [again]
            exact busy.calm.imp_left (rests delivers)
      | true =>
          have asked := flush_flushing works.there (flushing.trans busy.flushing) handlers
          have size := Store.lt_size_of_outlet works.there
          refine ⟨_, { changed with again := true }, ?_,
            (works.put { changed with again := true } rfl rfl rfl rfl).goingOn,
            flushing.trans busy.flushing, ?_, .inr rfl⟩
          · rw [if_pos rfl, run_bind, asked]
            rfl
          · change Company.stepsLeft (course.going writer outlet.nextNumber ++
              store.client.live.eraseIdx index) + 1 ≤ _
            omega

theorem Busy.withSink (busy : Busy requires target id held left outcome bound outlet store)
    (last : Requirement Label) (sink : Sink Unit Label)
    (required : last store.client.notes sink) :
    Busy last target id held left outcome bound { outlet with sink := sink }
      (store.put id { outlet with sink := sink }) :=
  ⟨⟨Store.put_outlets_self _ _ (Store.lt_size_of_outlet busy.there), busy.onOutlet,
    busy.carries.of_outlet rfl rfl rfl, required⟩, busy.flushing, busy.paid,
    busy.calm.imp_left fun rests => rests.of_outlet rfl rfl⟩

theorem Busy.note {last : Requirement Label}
    (busy : Busy requires target id held left outcome bound outlet store) (note : Note Label)
    (unended : ∀ number, note ≠ .ended number)
    (required : last (store.client.notes ++ [note]) outlet.sink) :
    Busy last target id held left outcome bound outlet
      { store with client := store.client.note note } := by
  have others : ∀ number, (.ended number : Note Label) ∉ [note] := fun number member =>
    unended number (List.mem_singleton.mp member).symm
  exact ⟨⟨busy.there, busy.onOutlet, busy.carries.noting others, required⟩, busy.flushing,
    busy.paid, busy.calm.imp_left fun rests => rests.noting others⟩

/-- Moves that are made while output is delivered keep the delivery going. -/
theorem Busy.performs (lasts : requires.Lasts) (handlers : Handlers Unit Label (Company Label))
    (moves : List (Move Label)) :
    Leads (moves.forM (Move.perform handlers id))
      (fun store => ∃ outlet, Busy requires target id held left outcome bound outlet store)
      (fun _ store => ∃ outlet, Busy requires target id held left outcome bound outlet store) := by
  refine Leads.forM (fun move => ?_) moves
  rintro store ⟨outlet, busy⟩
  cases move with
  | take index =>
      obtain ⟨later, laterOutlet, ran, after⟩ := busy.take lasts index handlers
      exact ⟨(), later, ran, laterOutlet, after⟩
  | attach channel label =>
      obtain ⟨later, laterOutlet, ran, after⟩ := busy.attach lasts channel label handlers
      exact ⟨(), later, ran, laterOutlet, after⟩

/-- A delivery does what is required. What is required changes with what leaves; after the end it
stays. -/
structure Delivers (handlers : Handlers Unit Label (Company Label)) (id : OutletId)
    (target : List Place) (requires : List Place → Outcome → Requirement Label) : Prop where
  on : ∀ held left more outcome bound,
    Leads (deliver handlers id (Place.pieces more) outcome)
      (fun store => ∃ outlet,
        Busy (requires left .pending) target id held (left ++ more) outcome bound outlet store)
      (fun _ store => ∃ outlet,
        Busy (requires (left ++ more) outcome) target id held (left ++ more) outcome bound outlet
          store)
  closing : ∀ held left outcome bound,
    Leads (deliver handlers id [] .pending)
      (fun store => ∃ outlet,
        Busy (requires left outcome) target id held left outcome bound outlet store)
      (fun _ store => ∃ outlet,
        Busy (requires left outcome) target id held left outcome bound outlet store)

section Rounds

variable {handlers : Handlers Unit Label (Company Label)} {pieces : List String}
variable {wanted : List Place → Outcome → Requirement Label} {next : Outcome}

/-- A round delivers what has left, and then looks whether something has changed. -/
theorem flushRound_busy {first last : Requirement Label} {drained : Outlet Unit Label}
    (there : store.outlets[id]? = some outlet)
    (drain : ({ outlet with again := false } : Outlet Unit Label).drain = (pieces, next, drained))
    (busy : Busy first target id held left outcome bound drained (store.put id drained))
    (leads : Leads (deliver handlers id pieces next)
      (fun store => ∃ outlet, Busy first target id held left outcome bound outlet store)
      (fun _ store => ∃ outlet, Busy last target id held left outcome bound outlet store)) :
    ∃ later laterOutlet, flushRound handlers id store = some (laterOutlet.again, later) ∧
      Busy last target id held left outcome bound laterOutlet later := by
  obtain ⟨_, later, delivered, laterOutlet, after⟩ := leads _ ⟨drained, busy⟩
  exact ⟨later, laterOutlet, flushRound_delivered there drain delivered after.there, after⟩

theorem Works.round
    (works : Works (wanted left outcome) target id held left outcome outlet store)
    (flushing : outlet.flushing = true) (paid : Company.stepsLeft store.client.live ≤ bound)
    (delivers : Delivers handlers id target wanted) :
    ∃ later laterOutlet left outcome,
      flushRound handlers id store = some (laterOutlet.again, later) ∧
        Busy (wanted left outcome) target id held left outcome bound laterOutlet later := by
  let asked : Outlet Unit Label := { outlet with again := false }
  obtain ⟨sink, sameFlushing, again⟩ := Outlet.sink_drain asked
  have put := Store.put_outlets_self store asked.drain.2.2 (Store.lt_size_of_outlet works.there)
  have carries : asked.Carries target store.client.notes (held ++ store.client.live) left outcome :=
    works.carries.of_outlet rfl rfl rfl
  by_cases pending : outcome = .pending
  · subst pending
    obtain ⟨more, pieces, carriesOn, rests⟩ := carries.drain_going
    have busy : Busy (wanted left .pending) target id held (left ++ more) asked.drain.2.1 bound
        asked.drain.2.2 (store.put id asked.drain.2.2) :=
      ⟨⟨put, works.onOutlet, carriesOn, sink ▸ works.required⟩, sameFlushing.trans flushing,
        by rw [again]; exact paid, .inl rests⟩
    obtain ⟨later, laterOutlet, ran, after⟩ := flushRound_busy works.there rfl busy
      (pieces ▸ delivers.on held left more asked.drain.2.1 bound)
    exact ⟨later, laterOutlet, _, _, ran, after⟩
  · have drained := Outlet.drain_finished (carries.closing pending).1
    rw [drained] at put
    have busy : Busy (wanted left outcome) target id held left outcome bound asked
        (store.put id asked) :=
      ⟨⟨put, works.onOutlet, carries, works.required⟩, flushing, paid,
        .inl (.inl (carries.closing pending).1)⟩
    obtain ⟨later, laterOutlet, ran, after⟩ := flushRound_busy works.there drained busy
      (delivers.closing held left outcome bound)
    exact ⟨later, laterOutlet, left, outcome, ran, after⟩

theorem Works.rounds {rounds : Nat}
    (works : Works (wanted left outcome) target id held left outcome outlet store)
    (flushing : outlet.flushing = true) (enough : Company.stepsLeft store.client.live < rounds)
    (delivers : Delivers handlers id target wanted) :
    ∃ later laterOutlet left outcome, flushRounds handlers id rounds store = some ((), later) ∧
      Works (wanted left outcome) target id held left outcome laterOutlet later ∧
      Company.stepsLeft later.client.live ≤ Company.stepsLeft store.client.live ∧
      laterOutlet.Rests later.client.notes := by
  induction rounds generalizing left outcome outlet store with
  | zero => exact absurd enough (Nat.not_lt_zero _)
  | succ fewer inductionHypothesis =>
      obtain ⟨middle, middleOutlet, middleLeft, middleOutcome, ran, busy⟩ :=
        works.round flushing (Nat.le_refl _) delivers
      have paid := busy.paid
      cases again : middleOutlet.again with
      | false =>
          refine ⟨middle, middleOutlet, middleLeft, middleOutcome, ?_, busy.toWorks, by omega,
            busy.calm.resolve_right (by simp [again])⟩
          rw [flushRounds, run_bind, ran, again]
          rfl
      | true =>
          rw [again] at paid
          simp only [Bool.toNat_true] at paid
          obtain ⟨later, laterOutlet, left, outcome, ranOn, worksOn, fewerLeft, rests⟩ :=
            inductionHypothesis busy.toWorks busy.flushing (by omega)
          refine ⟨later, laterOutlet, left, outcome, ?_, worksOn, by omega, rests⟩
          rw [flushRounds, run_bind, ran, again]
          exact ranOn

/-- A delivery ends, and leaves nothing that could leave. -/
theorem Works.flush
    (works : Works (wanted left outcome) target id held left outcome outlet store)
    (idle : outlet.flushing = false) (paid : Company.stepsLeft store.client.live ≤ bound)
    (enough : bound < handlers.rounds) (delivers : Delivers handlers id target wanted) :
    ∃ later laterOutlet left outcome, flush handlers id store = some ((), later) ∧
      Idle (wanted left outcome) target id held left outcome bound laterOutlet later := by
  have works' := works.put { outlet with flushing := true } rfl rfl rfl rfl
  obtain ⟨later, laterOutlet, left, outcome, ran, after, fewer, rests⟩ :=
    works'.rounds rfl (Nat.lt_of_le_of_lt paid enough) delivers
  refine ⟨later.put id { laterOutlet with flushing := false },
    { laterOutlet with flushing := false },
    left, outcome, ?_, after.put _ rfl rfl rfl rfl, rfl, Nat.le_trans fewer paid,
    rests.of_outlet rfl rfl⟩
  have starting := run_modifyOutlet works.there fun outlet => { outlet with flushing := true }
  have ending := run_modifyOutlet after.there fun outlet => { outlet with flushing := false }
  unfold Output.flush
  rw [run_bind, run_outlet?, works.there, Option.bind_some]
  change (if outlet.flushing = true then _ else _ : CompanyRun Label Unit) store = _
  rw [if_neg (by simp [idle]), run_bind, starting, Option.bind_some, run_bind, ran,
    Option.bind_some]
  exact ending

/-! ## Moves while nothing is delivered -/

theorem Idle.attach (idle : Idle (wanted left outcome) target id [] left outcome bound outlet store)
    (lasts : ∀ left outcome, (wanted left outcome).Lasts) (channel : Channel) (label : Label) :
    ∃ later laterOutlet left outcome,
      Move.perform handlers id (.attach channel label) store = some ((), later) ∧
        Idle (wanted left outcome) target id [] left outcome bound laterOutlet later := by
  obtain ⟨later, equality, client, works⟩ :=
    idle.toWorks.attach (lasts left outcome) channel label handlers
  refine ⟨later, _, left, outcome, equality, works, idle.flushing, ?_, ?_⟩
  · rw [client]
    exact idle.paid
  · rw [client]
    exact (idle.calm.noting (by simp)).of_outlet rfl rfl

theorem Idle.take (idle : Idle (wanted left outcome) target id [] left outcome bound outlet store)
    (lasts : ∀ left outcome, (wanted left outcome).Lasts) (index : Nat)
    (enough : bound < handlers.rounds) (delivers : Delivers handlers id target wanted) :
    ∃ later laterOutlet left outcome,
      Move.perform handlers id (.take index) store = some ((), later) ∧
        Idle (wanted left outcome) target id [] left outcome bound laterOutlet later := by
  cases taken : store.client.live[index]? with
  | none => exact ⟨store, outlet, left, outcome, perform_take_none handlers taken, idle⟩
  | some entry =>
      obtain ⟨writer, course⟩ := entry
      obtain ⟨changed, pots, flushing, again, rests, works, equality⟩ :=
        idle.toWorks.step (lasts left outcome) taken
      have spent := Company.stepsLeft_taken outlet.nextNumber taken
      have paid := idle.paid
      rw [perform_take_eq handlers taken, equality]
      cases quiet : course.delivers with
      | false =>
          refine ⟨_, changed, left, outcome, rfl, works.goingOn, flushing.trans idle.flushing, ?_,
            rests quiet idle.calm⟩
          change Company.stepsLeft (course.going writer outlet.nextNumber ++
            store.client.live.eraseIdx index) ≤ _
          omega
      | true =>
          rw [Company.stepsLeft_append] at spent
          obtain ⟨later, laterOutlet, left, outcome, ran, after⟩ := works.flush
            (flushing.trans idle.flushing) (Nat.le_refl _)
            (show Company.stepsLeft (store.client.live.eraseIdx index) < _ by omega) delivers
          refine ⟨later.goingOn (course.going writer outlet.nextNumber), laterOutlet, left, outcome,
            ?_, after.toWorks.goingOn, after.flushing, ?_, after.calm⟩
          · rw [if_pos rfl, run_bind, ran]
            rfl
          · have fewer : Company.stepsLeft later.client.live ≤
                Company.stepsLeft (store.client.live.eraseIdx index) := after.paid
            change Company.stepsLeft (_ ++ later.client.live) ≤ _
            rw [Company.stepsLeft_append]
            omega

theorem Idle.perform
    (idle : Idle (wanted left outcome) target id [] left outcome bound outlet store)
    (lasts : ∀ left outcome, (wanted left outcome).Lasts) (enough : bound < handlers.rounds)
    (delivers : Delivers handlers id target wanted) (move : Move Label) :
    ∃ later laterOutlet left outcome, move.perform handlers id store = some ((), later) ∧
      Idle (wanted left outcome) target id [] left outcome bound laterOutlet later := by
  cases move with
  | take index => exact idle.take lasts index enough delivers
  | attach channel label => exact idle.attach lasts channel label

/-- Whatever moves are made, in whatever order, each of them ends. -/
theorem Idle.performs
    (idle : Idle (wanted left outcome) target id [] left outcome bound outlet store)
    (lasts : ∀ left outcome, (wanted left outcome).Lasts) (enough : bound < handlers.rounds)
    (delivers : Delivers handlers id target wanted) (moves : List (Move Label)) :
    ∃ later laterOutlet left outcome,
      moves.forM (Move.perform handlers id) store = some ((), later) ∧
        Idle (wanted left outcome) target id [] left outcome bound laterOutlet later := by
  have each : ∀ move, Leads (Move.perform handlers id move)
      (fun store => ∃ outlet left outcome,
        Idle (wanted left outcome) target id [] left outcome bound outlet store)
      (fun _ store => ∃ outlet left outcome,
        Idle (wanted left outcome) target id [] left outcome bound outlet store) := by
    rintro move store ⟨outlet, left, outcome, idle⟩
    obtain ⟨later, laterOutlet, left, outcome, ran, after⟩ :=
      idle.perform lasts enough delivers move
    exact ⟨(), later, ran, laterOutlet, left, outcome, after⟩
  obtain ⟨_, later, ran, laterOutlet, left, outcome, after⟩ :=
    Leads.forM each moves store ⟨outlet, left, outcome, idle⟩
  exact ⟨later, laterOutlet, left, outcome, ran, after⟩

/-- A new outlet, before its first handle has done anything. -/
theorem Idle.opening {requires : Requirement Label} {sink : Sink Unit Label} (course : Course)
    (required : requires [] sink) :
    Idle requires (course.places [] .blank) 0 [] [] .pending course.steps (.opened sink)
      ⟨#[.opened sink], #[], #[], ⟨[(Writer.onOutlet 0, course)], []⟩⟩ := by
  have tended : Segment.Tended [.fresh 0] 1 [(Writer.onOutlet 0, course)] :=
    ⟨⟨by simp, by simp [Segment.fresh]⟩, .refl _⟩
  have headed : Segment.HeadFor (course.places [] .blank) [] [.fresh 0]
      [(Writer.onOutlet 0, course)] := by
    intro coming pay
    have here := pay (Writer.onOutlet 0, course) (by simp) .blank
    rw [Segment.places_cons_of_open rfl, Segment.places_nil, List.append_nil, List.nil_append]
    exact here ▸ Place.RefineAll.refl _
  refine ⟨⟨rfl, by simp [Writer.onOutlet], ⟨tended, by simp, List.nil_prefix,
    fun _ => ⟨rfl, headed⟩, absurd rfl, by simp, ?_⟩, required⟩, rfl,
    by simp [Company.stepsLeft], .inr ⟨[], .fresh 0, [], rfl, by simp, rfl, rfl⟩⟩
  intro segment member failed
  rw [List.mem_singleton.mp member] at failed
  exact absurd rfl failed

/-- Whatever a company does on a new outlet, in whatever order, it ends. -/
theorem runCompany_leads (wanted : List Place → Outcome → Requirement Label)
    {reaction : Reaction Label} {depth : Nat} {sink : Sink Unit Label} {course : Course}
    (required : wanted [] .pending [] sink)
    (lasts : ∀ left outcome, (wanted left outcome).Lasts) (enough : course.steps < depth)
    (delivers : Delivers (reacting reaction 0 depth) 0 (course.places [] .blank) wanted)
    (moves : List (Move Label)) :
    ∃ later outlet left outcome,
      runCompany reaction depth sink course moves (Store.initial ⟨[], []⟩) = some ((), later) ∧
        Idle (wanted left outcome) (course.places [] .blank) 0 [] left outcome course.steps outlet
          later :=
  (Idle.opening course required).performs lasts enough delivers moves

end Rounds

end Working

end BraceTemplate.Output
