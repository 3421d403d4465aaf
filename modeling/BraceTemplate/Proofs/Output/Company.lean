import Mathlib.Algebra.Ring.Nat
import BraceTemplate.Output.Observer
import BraceTemplate.Proofs.Output.Promises

/-!
# Handles in company

Handles that are in use together on one outlet, in any order. Whoever is told of something while
output is delivered may take further steps, with any of the handles that are not just being used,
and attach further listeners. What happens is noted. A capture is a fork whose branch somebody goes
on with once there is a text.
-/

namespace BraceTemplate.Output

/-- What is noted while an outlet is worked on. -/
inductive Note (Label : Type) where
  | attached (label : Label) (channel : Channel)
  | heard (label : Label) (occasion : Occasion)
  | reported (result : Except RenderError String)
  | ended (segment : Nat)
  | failed (segment : Nat) (error : RenderError)

/-- The handles in use, each with what is left for it to do, and what has been noted. -/
structure Company (Label : Type) where
  live : List (Writer × Course)
  notes : List (Note Label)

abbrev CompanyRun (Label Result : Type) := Run Unit Label (Company Label) Result

/-- What is done next: a handle takes its next step, or a listener is attached. -/
inductive Move (Label : Type) where
  | take (index : Nat)
  | attach (channel : Channel) (label : Label)

namespace Company

variable {Label : Type}

def note (company : Company Label) (note : Note Label) : Company Label :=
  { company with notes := company.notes ++ [note] }

def without (company : Company Label) (index : Nat) (noted : List (Note Label)) : Company Label :=
  ⟨company.live.eraseIdx index, company.notes ++ noted⟩

def stepsLeft (live : List (Writer × Course)) : Nat :=
  (live.map fun entry => entry.2.steps).sum

end Company

namespace Course

/-- What is noted when a handle takes its next step. -/
def notes {Label : Type} (writer : Writer) : Course → List (Note Label)
  | finish => [.ended writer.segment]
  | fail error _ => [.failed writer.segment error]
  | _ => []

end Course

section Moves

variable {Label : Type}

def Move.perform (handlers : Handlers Unit Label (Company Label)) (id : OutletId) :
    Move Label → CompanyRun Label Unit
  | take index => do
    match (← client).live[index]? with
    | none => pure ()
    | some (writer, course) =>
      modifyClient fun company => company.without index (course.notes writer)
      let going ← course.step handlers writer
      modifyClient fun company => { company with live := going ++ company.live }
  | attach channel label => do
    modifyClient fun company => company.note (.attached label channel)
    attachTo id channel label

/-- What a listener does when it is told of something. -/
abbrev Reaction (Label : Type) := Label → Occasion → Company Label → List (Move Label)

def reportNoting (_ : Unit) (result : Except RenderError String) : CompanyRun Label Unit :=
  modifyClient fun company => company.note (.reported result)

def hearWithin (reaction : Reaction Label) (id : OutletId) :
    Nat → Label → Occasion → CompanyRun Label Label
  | 0, _, _ => outOfSteps
  | depth + 1, label, occasion => do
    modifyClient fun company => company.note (.heard label occasion)
    let company ← client
    (reaction label occasion company).forM
      (Move.perform ⟨depth, reportNoting, hearWithin reaction id depth⟩ id)
    pure label

def reacting (reaction : Reaction Label) (id : OutletId) (depth : Nat) :
    Handlers Unit Label (Company Label) :=
  ⟨depth, reportNoting, hearWithin reaction id depth⟩

def runCompany (reaction : Reaction Label) (depth : Nat) (sink : Sink Unit Label) (course : Course)
    (moves : List (Move Label)) : CompanyRun Label Unit := do
  let id ← openOutlet sink
  modifyClient fun company => { company with live := [(Writer.onOutlet id, course)] }
  moves.forM (Move.perform (reacting reaction id depth) id)

end Moves

namespace Course

variable {Label : Type}

def made (writer : Writer) (segment : Segment) (nextNumber : Nat) : Course → List Segment
  | finish => [segment.closed]
  | write text _ => [segment.written (Tap.passedAll writer.taps text)]
  | tap _ _ => [segment]
  | untap _ => [segment]
  | fork _ _ => [segment.closed, .fresh nextNumber, .fresh (nextNumber + 1)]
  | fail error _ => [segment.failedWith error]

/-- The handles that go on after a step. -/
def going (writer : Writer) (nextNumber : Nat) : Course → List (Writer × Course)
  | finish => []
  | write _ next => [(writer, next)]
  | tap newest next => [(writer.tap newest, next)]
  | untap next => [(writer.untap, next)]
  | fork branch next =>
    [({ writer with segment := nextNumber }, branch),
      ({ writer with segment := nextNumber + 1 }, next)]
  | fail _ next => [(writer, next)]

def laterNumber (nextNumber : Nat) : Course → Nat
  | fork _ _ => nextNumber + 2
  | _ => nextNumber

def delivers : Course → Bool
  | finish => true
  | fail _ _ => true
  | _ => false

variable {writer : Writer} {segment : Segment} {before behind : List Segment} {nextNumber : Nat}
variable {others : List (Writer × Course)} {target left : List Place}

theorem stepsLeft_going (course : Course) (writer : Writer) (nextNumber : Nat) :
    Company.stepsLeft (course.going writer nextNumber) + 1 = course.steps := by
  cases course <;> simp [going, Company.stepsLeft, steps]

theorem going_outlet (course : Course) :
    ∀ entry ∈ course.going writer nextNumber, entry.1.outlet = writer.outlet := by
  cases course <;> simp [going, Writer.tap, Writer.untap]

theorem made_front (course : Course) :
    ∃ first more, course.made writer segment nextNumber = first :: more ∧
      first.number = segment.number := by
  cases course <;> simp [made, Segment.closed, Segment.written, Segment.failedWith]

theorem made_failed (course : Course) (sameNumber : segment.number = writer.segment) :
    ∀ tested ∈ course.made writer segment nextNumber, tested.error ≠ none →
      tested.number = segment.number ∧
        (segment.error ≠ none ∨
          ∃ error, (.failed segment.number error : Note Label) ∈ course.notes writer) := by
  cases course <;>
    simp [made, Segment.closed, Segment.written, Segment.failedWith, Segment.fresh, notes,
      sameNumber]

theorem notes_ended {course : Course} {number : Nat}
    (member : (.ended number : Note Label) ∈ course.notes writer) :
    course = finish ∧ number = writer.segment := by
  cases course <;> simp_all [notes]

/-- A step that delivers nothing ends its segment only for a fork. -/
theorem made_leads (course : Course) (writer : Writer) (nextNumber : Nat)
    (quiet : course.delivers = false)
    (unended : segment.ended = false) (sound : segment.error = none) :
    ∃ gone first more, course.made writer segment nextNumber = gone ++ first :: more ∧
      (∀ tested ∈ gone, tested.number = segment.number ∧ tested.ended = true ∧
        tested.error = none) ∧ first.ended = false ∧ first.error = none := by
  cases course with
  | finish => cases quiet
  | fail error next => cases quiet
  | write text next => exact ⟨[], _, [], rfl, by simp, unended, sound⟩
  | tap newest next => exact ⟨[], _, [], rfl, by simp, unended, sound⟩
  | untap next => exact ⟨[], _, [], rfl, by simp, unended, sound⟩
  | fork branch next =>
      exact ⟨[segment.closed], _, _, rfl, by simp [Segment.closed, sound], rfl, rfl⟩

theorem made_numbered (course : Course)
    (numbered : Segment.Numbered (before ++ segment :: behind) nextNumber) :
    Segment.Numbered (before ++ (course.made writer segment nextNumber ++ behind))
      (course.laterNumber nextNumber) := by
  cases course with
  | finish => exact numbered.replace rfl
  | write text next => exact numbered.replace rfl
  | tap newest next => exact numbered
  | untap next => exact numbered
  | fork branch next =>
      have closed : Segment.Numbered (before ++ segment.closed :: behind) nextNumber :=
        numbered.replace rfl
      exact closed.insertFresh
  | fail error next => exact numbered.replace rfl

theorem made_opens (course : Course) (unended : segment.ended = false)
    (sameNumber : segment.number = writer.segment) :
    Segment.openNumbers (course.made writer segment nextNumber) =
      standings (course.going writer nextNumber) := by
  cases course <;>
    simp [made, going, Segment.openNumbers, Segment.closed, Segment.written, Segment.failedWith,
      Segment.fresh, unended, sameNumber, Writer.tap, Writer.untap]

theorem going_standings (course : Course) :
    ∀ number ∈ standings (course.going writer nextNumber),
      number = writer.segment ∨ nextNumber ≤ number := by
  cases course <;> simp [going, Writer.tap, Writer.untap]

theorem le_laterNumber (course : Course) : nextNumber ≤ course.laterNumber nextNumber := by
  cases course <;> simp [laterNumber]

/-- What a step makes of a segment comes to what the course comes to there. -/
theorem made_places (course : Course) (unended : segment.ended = false)
    (sameNumber : segment.number = writer.segment) {coming : Prospects}
    (pay : coming.Pay (course.going writer nextNumber)) :
    Place.RefineAll (Segment.places coming (course.made writer segment nextNumber))
      (course.places writer.taps segment.place) := by
  cases course with
  | finish => exact Segment.places_closed ▸ Place.RefineAll.refl _
  | write text next =>
      exact Segment.places_write text unended sameNumber pay ▸ Place.RefineAll.refl _
  | tap newest next =>
      exact Segment.places_retapped unended sameNumber pay ▸ Place.RefineAll.refl _
  | untap next =>
      exact Segment.places_retapped unended sameNumber pay ▸ Place.RefineAll.refl _
  | fork branch next => exact Segment.places_forked pay ▸ Place.RefineAll.refl _
  | fail error next => exact Segment.places_failed error unended sameNumber pay

end Course

/-- How far an outlet has come with what handles make of it: some places have left, and the others
are those of the segments that wait, with what the handles in use still do there. -/
structure Outlet.Carries {Label : Type} (target : List Place) (notes : List (Note Label))
    (inUse : List (Writer × Course)) (left : List Place) (outcome : Outcome)
    (outlet : Outlet Unit Label) : Prop where
  tended : Segment.Tended outlet.waiting outlet.nextNumber inUse
  sound : ∀ entry ∈ left, entry.failures = []
  reach : Place.Reach target left outcome
  going : outcome = .pending →
    outlet.finished = false ∧ Segment.HeadFor target left outlet.waiting inUse
  closing : outcome ≠ .pending → outlet.finished = true ∧
    (outlet.waiting = [] ∨ ∃ segment rest error, outlet.waiting = segment :: rest ∧
      .failed segment.number error ∈ notes)
  ended : ∀ number, .ended number ∈ notes →
    number < outlet.nextNumber ∧ number ∉ Segment.openNumbers outlet.waiting
  failed : ∀ segment ∈ outlet.waiting, segment.error ≠ none →
    ∃ error, .failed segment.number error ∈ notes

/-- Everything that could leave has left: what has ended in front of the first open segment are
segments that have been forked since. -/
def Outlet.Rests {Label : Type} (notes : List (Note Label)) (outlet : Outlet Unit Label) : Prop :=
  outlet.finished = true ∨ ∃ forked segment behind,
    outlet.waiting = forked ++ segment :: behind ∧
      (∀ tested ∈ forked, tested.ended = true ∧ tested.error = none ∧
        .ended tested.number ∉ notes) ∧
      segment.ended = false ∧ segment.error = none

namespace Outlet

variable {Label : Type} {target left : List Place} {notes noted : List (Note Label)}
variable {inUse others : List (Writer × Course)} {outcome : Outcome}
variable {outlet later : Outlet Unit Label} {writer : Writer} {course : Course}
variable {before behind : List Segment} {segment : Segment}

theorem Carries.of_perm (carries : outlet.Carries target notes inUse left outcome)
    (same : inUse.Perm others) : outlet.Carries target notes others left outcome :=
  ⟨carries.tended.of_perm same, carries.sound, carries.reach,
    fun pending => ⟨(carries.going pending).1, (carries.going pending).2.of_perm same⟩,
    carries.closing, carries.ended, carries.failed⟩

/-- Notes of other things change nothing. -/
theorem Carries.noting (carries : outlet.Carries target notes inUse left outcome)
    (unended : ∀ number, .ended number ∉ noted) :
    outlet.Carries target (notes ++ noted) inUse left outcome := by
  refine ⟨carries.tended, carries.sound, carries.reach, carries.going, fun concluded => ?_,
    fun number member => ?_, fun segment present failed => ?_⟩
  · obtain ⟨finished, rest⟩ := carries.closing concluded
    refine ⟨finished, rest.imp id ?_⟩
    rintro ⟨segment, rest, error, waiting, member⟩
    exact ⟨segment, rest, error, waiting, List.mem_append_left _ member⟩
  · rcases List.mem_append.mp member with earlier | new
    · exact carries.ended number earlier
    · exact absurd new (unended number)
  · obtain ⟨error, member⟩ := carries.failed segment present failed
    exact ⟨error, List.mem_append_left _ member⟩

theorem Carries.of_outlet (carries : outlet.Carries target notes inUse left outcome)
    (waiting : later.waiting = outlet.waiting) (nextNumber : later.nextNumber = outlet.nextNumber)
    (finished : later.finished = outlet.finished) :
    later.Carries target notes inUse left outcome := by
  obtain ⟨tended, sound, reach, going, concluded, ended, failed⟩ := carries
  refine ⟨?_, sound, reach, ?_, ?_, ?_, ?_⟩ <;> simp only [waiting, nextNumber, finished] <;>
    assumption

theorem Rests.of_outlet (rests : outlet.Rests notes) (waiting : later.waiting = outlet.waiting)
    (finished : later.finished = outlet.finished) : later.Rests notes := by
  unfold Rests at rests ⊢
  rwa [waiting, finished]

theorem Rests.noting (rests : outlet.Rests notes) (unended : ∀ number, .ended number ∉ noted) :
    outlet.Rests (notes ++ noted) := by
  refine rests.imp id ?_
  rintro ⟨forked, segment, behind, waiting, gone, unendedHere, sound⟩
  refine ⟨forked, segment, behind, waiting, fun tested member => ?_, unendedHere, sound⟩
  obtain ⟨ended, noError, unnoted⟩ := gone tested member
  refine ⟨ended, noError, fun listed => ?_⟩
  rcases List.mem_append.mp listed with earlier | new
  · exact unnoted earlier
  · exact unended _ new

/-- The outlet after a step of a handle, before anything is delivered. -/
structure Stepped (outlet : Outlet Unit Label) (writer : Writer) (course : Course)
    (before : List Segment) (segment : Segment) (behind : List Segment)
    (later : Outlet Unit Label) : Prop where
  waiting : later.waiting =
    before ++ (course.made writer segment outlet.nextNumber ++ behind)
  nextNumber : later.nextNumber = course.laterNumber outlet.nextNumber
  finished : later.finished = outlet.finished
  flushing : later.flushing = outlet.flushing
  again : later.again = outlet.again
  sink : later.sink = outlet.sink

theorem Carries.exists_split
    (carries : outlet.Carries target notes ((writer, course) :: others) left outcome) :
    ∃ before segment behind, outlet.waiting = before ++ segment :: behind ∧
      Segment.TendedAt before segment behind outlet.nextNumber writer others :=
  carries.tended.exists_split

theorem Stepped.openNumbers (stepped : outlet.Stepped writer course before segment behind later)
    (tendedAt : Segment.TendedAt before segment behind outlet.nextNumber writer others) :
    Segment.openNumbers later.waiting = Segment.openNumbers before ++
      (standings (course.going writer outlet.nextNumber) ++ Segment.openNumbers behind) := by
  rw [stepped.waiting, Segment.openNumbers_append, Segment.openNumbers_append,
    course.made_opens tendedAt.unended tendedAt.sameNumber]

/-- A step opens no segments but new ones. -/
theorem Stepped.was_open (stepped : outlet.Stepped writer course before segment behind later)
    (tendedAt : Segment.TendedAt before segment behind outlet.nextNumber writer others)
    (split : outlet.waiting = before ++ segment :: behind) {number : Nat}
    (member : number ∈ Segment.openNumbers later.waiting) :
    number ∈ Segment.openNumbers outlet.waiting ∨ outlet.nextNumber ≤ number := by
  rw [stepped.openNumbers tendedAt] at member
  rw [split, Segment.openNumbers_append, Segment.openNumbers_cons_of_open tendedAt.unended,
    tendedAt.sameNumber]
  simp only [List.mem_append, List.mem_cons] at member ⊢
  rcases member with first | here | last
  · exact .inl (.inl first)
  · exact (course.going_standings number here).imp (fun same => .inr (.inl same)) id
  · exact .inl (.inr (.inr last))

/-- The segment in front stays in front, with its number. -/
theorem Stepped.front (stepped : outlet.Stepped writer course before segment behind later)
    (split : outlet.waiting = before ++ segment :: behind) {first : Segment} {rest : List Segment}
    (waiting : outlet.waiting = first :: rest) :
    ∃ front more, later.waiting = front :: more ∧ front.number = first.number := by
  rw [split] at waiting
  rw [stepped.waiting]
  cases before with
  | nil =>
      obtain ⟨front, more, made, sameFront⟩ :
        ∃ first more, course.made writer segment outlet.nextNumber = first :: more ∧
          first.number = segment.number := course.made_front
      obtain ⟨rfl, -⟩ := List.cons.inj waiting
      exact ⟨front, more ++ behind, by rw [made]; rfl, sameFront⟩
  | cons head tail =>
      obtain ⟨rfl, -⟩ := List.cons.inj waiting
      exact ⟨head, _, rfl, rfl⟩

/-- A step of a handle keeps an outlet going where it is going. -/
theorem Carries.step
    (carries : outlet.Carries target notes ((writer, course) :: others) left outcome)
    (split : outlet.waiting = before ++ segment :: behind)
    (tendedAt : Segment.TendedAt before segment behind outlet.nextNumber writer others)
    (stepped : outlet.Stepped writer course before segment behind later) :
    later.Carries target (notes ++ course.notes writer)
      (course.going writer outlet.nextNumber ++ others) left outcome := by
  refine ⟨?_, carries.sound, carries.reach, fun pending => ?_, fun concluded => ?_,
    fun number member => ?_, fun tested present failed => ?_⟩
  · have opens : Segment.openNumbers (course.made writer segment outlet.nextNumber) =
        standings (course.going writer outlet.nextNumber) :=
      course.made_opens tendedAt.unended tendedAt.sameNumber
    rw [stepped.waiting, stepped.nextNumber]
    exact tendedAt.replace (course.made_numbered tendedAt.numbered) (opens ▸ .refl _)
  · obtain ⟨unfinished, headed⟩ := carries.going pending
    rw [split] at headed
    rw [stepped.waiting, stepped.finished]
    exact ⟨unfinished, tendedAt.replace_headFor headed fun coming pay =>
      course.made_places tendedAt.unended tendedAt.sameNumber pay⟩
  · obtain ⟨finished, empty | ⟨first, rest, error, waiting, member⟩⟩ := carries.closing concluded
    · rw [split] at empty
      exact absurd empty (by simp)
    · obtain ⟨front, more, leads, sameNumber⟩ := stepped.front split waiting
      exact ⟨stepped.finished.trans finished, .inr ⟨front, more, error, leads,
        sameNumber ▸ List.mem_append_left _ member⟩⟩
  · rw [stepped.nextNumber]
    rcases List.mem_append.mp member with earlier | new
    · obtain ⟨bound, unlisted⟩ := carries.ended number earlier
      refine ⟨Nat.lt_of_lt_of_le bound course.le_laterNumber, fun listed => ?_⟩
      rcases stepped.was_open tendedAt split listed with old | fresh
      · exact unlisted old
      · exact absurd fresh (Nat.not_le.mpr bound)
    · obtain ⟨rfl, rfl⟩ := Course.notes_ended new
      refine ⟨?_, fun listed => ?_⟩
      · exact tendedAt.sameNumber ▸ tendedAt.numbered.bound segment (by simp)
      · rw [stepped.openNumbers tendedAt] at listed
        simp only [Course.going, List.map_nil, List.nil_append, List.mem_append] at listed
        rcases listed with first | last
        · exact tendedAt.notMem_before (Segment.mem_numbers_of_mem_openNumbers first)
        · exact tendedAt.notMem_behind (Segment.mem_numbers_of_mem_openNumbers last)
  · have ofEarlier : tested ∈ outlet.waiting →
        ∃ error, .failed tested.number error ∈ notes ++ course.notes writer := fun earlier =>
      (carries.failed tested earlier failed).imp fun _ noted => List.mem_append_left _ noted
    rw [stepped.waiting] at present
    rcases List.mem_append.mp present with first | later
    · exact ofEarlier (by simp [split, first])
    · rcases List.mem_append.mp later with here | last
      · obtain ⟨same, already | ⟨error, noted⟩⟩ :=
          course.made_failed tendedAt.sameNumber tested here failed
        · obtain ⟨error, noted⟩ := carries.failed segment (by simp [split]) already
          exact ⟨error, same ▸ List.mem_append_left _ noted⟩
        · exact ⟨error, same ▸ List.mem_append_right _ noted⟩
      · exact ofEarlier (by simp [split, last])

/-- A step that delivers nothing leaves nothing that could leave. -/
theorem Rests.step (rests : outlet.Rests notes) (quiet : course.delivers = false)
    (carries : outlet.Carries target notes inUse left outcome)
    (split : outlet.waiting = before ++ segment :: behind)
    (tendedAt : Segment.TendedAt before segment behind outlet.nextNumber writer others)
    (stepped : outlet.Stepped writer course before segment behind later) :
    later.Rests (notes ++ course.notes writer) := by
  have unended : ∀ number, (.ended number : Note Label) ∉ course.notes writer := by
    intro number member
    rw [(Course.notes_ended member).1] at quiet
    cases quiet
  refine Rests.noting ?_ unended
  rcases rests with finished | ⟨forked, front, rest, waiting, gone, unendedFront, sound⟩
  · exact .inl (stepped.finished.trans finished)
  · refine .inr ?_
    rw [stepped.waiting]
    rw [split] at waiting
    rcases Segment.split_open waiting tendedAt.unended fun tested member => (gone tested member).1
      with ⟨rfl, rfl, rfl⟩ | ⟨between, rfl⟩
    · obtain ⟨added, first, others, made, goneHere, unendedHere, soundHere⟩ :=
        course.made_leads writer outlet.nextNumber quiet tendedAt.unended sound
      refine ⟨before ++ added, first, others ++ behind, by simp [made], ?_, unendedHere,
        soundHere⟩
      intro tested member
      rcases List.mem_append.mp member with earlier | new
      · exact gone tested earlier
      · obtain ⟨sameNumber, ended, noError⟩ := goneHere tested new
        refine ⟨ended, noError, fun noted => (carries.ended _ noted).2 ?_⟩
        rw [sameNumber, split, Segment.openNumbers_append,
          Segment.openNumbers_cons_of_open tendedAt.unended]
        simp
    · exact ⟨forked, front, between ++ (course.made writer segment outlet.nextNumber ++ behind),
        by simp, gone, unendedFront, sound⟩

end Outlet

end BraceTemplate.Output
