import BraceTemplate.Proofs.Output.Places

/-!
# What an outlet promises

The handles in use have the open segments of an outlet to themselves, one each. Whatever order they
go on in, the places that have left, followed by those that the waiting segments come to, are the
places of the outlet, except that of several failures at one place only some are known.
-/

namespace BraceTemplate.Output

def Prospects.Pay (coming : Prospects) (inUse : List (Writer × Course)) : Prop :=
  ∀ entry ∈ inUse, ∀ here, coming entry.1.segment here = entry.2.places entry.1.taps here

abbrev standings (inUse : List (Writer × Course)) : List Nat :=
  inUse.map fun entry => entry.1.segment

theorem Prospects.pay_append {coming : Prospects} {first second : List (Writer × Course)} :
    coming.Pay (first ++ second) ↔ coming.Pay first ∧ coming.Pay second :=
  List.forall_mem_append

theorem Prospects.Pay.of_perm {coming : Prospects} {inUse others : List (Writer × Course)}
    (pay : coming.Pay inUse) (same : inUse.Perm others) : coming.Pay others :=
  fun entry member => pay entry (same.mem_iff.mpr member)

/-- What one more handle does can be added to what comes at the others. -/
theorem Prospects.Pay.update {coming : Prospects} {writer : Writer} {course : Course}
    {others : List (Writer × Course)} (pay : coming.Pay others)
    (elsewhere : writer.segment ∉ standings others) :
    Prospects.Pay (Function.update coming writer.segment (course.places writer.taps))
      ((writer, course) :: others) := by
  intro entry member here
  rcases List.mem_cons.mp member with rfl | other
  · rw [Function.update_self]
  · have different : entry.1.segment ≠ writer.segment := fun same =>
      elsewhere (same ▸ List.mem_map_of_mem (f := fun entry => entry.1.segment) other)
    rw [Function.update_of_ne different, pay entry other]

theorem Prospects.exists_pay {inUse : List (Writer × Course)} (nodup : (standings inUse).Nodup) :
    ∃ coming : Prospects, coming.Pay inUse := by
  induction inUse with
  | nil => exact ⟨fun _ _ => [], fun entry member => absurd member List.not_mem_nil⟩
  | cons entry others inductionHypothesis =>
      obtain ⟨elsewhere, rest⟩ := List.nodup_cons.mp nodup
      obtain ⟨coming, pay⟩ := inductionHypothesis rest
      exact ⟨_, pay.update elsewhere⟩

namespace Segment

/-- Each handle in use stands on an open segment of its own, and no other segment is open. -/
structure Tended (segments : List Segment) (nextNumber : Nat) (inUse : List (Writer × Course)) :
    Prop where
  numbered : Numbered segments nextNumber
  opens : (openNumbers segments).Perm (standings inUse)

/-- The same, seen from the segment of one handle. -/
structure TendedAt (before : List Segment) (segment : Segment) (behind : List Segment)
    (nextNumber : Nat) (writer : Writer) (others : List (Writer × Course)) : Prop where
  numbered : Numbered (before ++ segment :: behind) nextNumber
  sameNumber : segment.number = writer.segment
  unended : segment.ended = false
  opens : (openNumbers before ++ openNumbers behind).Perm (standings others)

/-- Where segments and handles are headed: with what the handles still do, the places are those of
an outlet. -/
def HeadFor (target left : List Place) (segments : List Segment)
    (inUse : List (Writer × Course)) : Prop :=
  ∀ coming : Prospects, coming.Pay inUse →
    Place.RefineAll (left ++ places coming segments) target

variable {segments before behind added : List Segment} {segment : Segment}
variable {nextNumber laterNumber : Nat} {inUse others going : List (Writer × Course)}
variable {writer : Writer} {course : Course} {left target : List Place}

theorem Tended.of_perm (tended : Tended segments nextNumber inUse) (same : inUse.Perm others) :
    Tended segments nextNumber others :=
  ⟨tended.numbered, tended.opens.trans (same.map _)⟩

theorem HeadFor.of_perm (headed : HeadFor target left segments inUse) (same : inUse.Perm others) :
    HeadFor target left segments others :=
  fun coming pay => headed coming (pay.of_perm same.symm)

theorem Tended.nodup (tended : Tended segments nextNumber inUse) : (standings inUse).Nodup :=
  tended.opens.nodup_iff.mp (tended.numbered.nodup.sublist (List.filter_sublist.map _))

theorem Tended.exists_split (tended : Tended segments nextNumber ((writer, course) :: others)) :
    ∃ before segment behind,
      segments = before ++ segment :: behind ∧
        TendedAt before segment behind nextNumber writer others := by
  have openHere : writer.segment ∈ openNumbers segments := tended.opens.mem_iff.mpr (by simp)
  obtain ⟨before, segment, behind, rfl, sameNumber, unended⟩ := split_of_mem_openNumbers openHere
  refine ⟨before, segment, behind, rfl, tended.numbered, sameNumber, unended, ?_⟩
  have opens := tended.opens
  rw [openNumbers_append, openNumbers_cons_of_open unended, sameNumber] at opens
  exact (List.perm_middle.symm.trans opens).cons_inv

namespace TendedAt

theorem notMem_before (tendedAt : TendedAt before segment behind nextNumber writer others) :
    writer.segment ∉ before.map number :=
  tendedAt.sameNumber ▸ tendedAt.numbered.notMem_before

theorem notMem_behind (tendedAt : TendedAt before segment behind nextNumber writer others) :
    writer.segment ∉ behind.map number :=
  tendedAt.sameNumber ▸ tendedAt.numbered.notMem_behind

theorem notMem_others (tendedAt : TendedAt before segment behind nextNumber writer others) :
    writer.segment ∉ standings others := by
  intro listed
  rcases List.mem_append.mp (tendedAt.opens.mem_iff.mpr listed) with found | found
  · exact tendedAt.notMem_before (mem_numbers_of_mem_openNumbers found)
  · exact tendedAt.notMem_behind (mem_numbers_of_mem_openNumbers found)

/-- Segments with handles of their own may come in the place of the segment and its handle. -/
theorem replace (tendedAt : TendedAt before segment behind nextNumber writer others)
    (numbered : Numbered (before ++ (added ++ behind)) laterNumber)
    (opens : (openNumbers added).Perm (standings going)) :
    Tended (before ++ (added ++ behind)) laterNumber (going ++ others) := by
  refine ⟨numbered, ?_⟩
  rw [openNumbers_append, openNumbers_append, standings, List.map_append]
  have reordered :
      (openNumbers before ++ (openNumbers added ++ openNumbers behind)).Perm
        (openNumbers added ++ (openNumbers before ++ openNumbers behind)) :=
    List.perm_append_comm_assoc _ _ _
  exact reordered.trans (opens.append tendedAt.opens)

/-- Segments in the place of one keep to where all are headed if they come to what it comes to. -/
theorem replace_headFor (tendedAt : TendedAt before segment behind nextNumber writer others)
    (headed : HeadFor target left (before ++ segment :: behind) ((writer, course) :: others))
    (same : ∀ coming : Prospects, coming.Pay going →
      Place.RefineAll (places coming added) (course.places writer.taps segment.place)) :
    HeadFor target left (before ++ (added ++ behind)) (going ++ others) := by
  intro coming pay
  obtain ⟨payGoing, payOthers⟩ := Prospects.pay_append.mp pay
  let whole : Prospects := Function.update coming writer.segment (course.places writer.taps)
  have wholePays : whole.Pay ((writer, course) :: others) :=
    payOthers.update tendedAt.notMem_others
  have elsewhere : ∀ number, number ≠ writer.segment → whole number = coming number :=
    fun number different => Function.update_of_ne different _ _
  have sameBefore : places whole before = places coming before :=
    places_congr fun number member => elsewhere number fun same =>
      tendedAt.notMem_before (same ▸ mem_numbers_of_mem_openNumbers member)
  have sameBehind : places whole behind = places coming behind :=
    places_congr fun number member => elsewhere number fun same =>
      tendedAt.notMem_behind (same ▸ mem_numbers_of_mem_openNumbers member)
  have here : whole segment.number segment.place =
      course.places writer.taps segment.place := by
    rw [tendedAt.sameNumber]
    exact congrFun (Function.update_self ..) _
  have equation := headed whole wholePays
  rw [places_append, places_cons_of_open tendedAt.unended, sameBefore, sameBehind, here]
    at equation
  rw [places_append, places_append]
  exact ((Place.RefineAll.refl left).append ((Place.RefineAll.refl _).append
    ((same coming payGoing).append (Place.RefineAll.refl _)))).trans equation

end TendedAt

section Steps

variable {next branch : Course} {coming : Prospects}

theorem places_write (text : String) (unended : segment.ended = false)
    (sameNumber : segment.number = writer.segment) (pay : coming.Pay [(writer, next)]) :
    places coming [segment.written (Tap.passedAll writer.taps text)] =
      (Course.write text next).places writer.taps segment.place := by
  rw [places_cons_of_open (show (segment.written _).ended = false from unended), places_nil,
    List.append_nil]
  change coming segment.number _ = _
  rw [sameNumber, pay (writer, next) (by simp)]
  rfl

theorem places_retapped {taps : List Tap} (unended : segment.ended = false)
    (sameNumber : segment.number = writer.segment)
    (pay : coming.Pay [({ writer with taps := taps }, next)]) :
    places coming [segment] = next.places taps segment.place := by
  rw [places_cons_of_open unended, places_nil, List.append_nil, sameNumber,
    pay ({ writer with taps := taps }, next) (by simp)]

theorem places_forked
    (pay : coming.Pay [({ writer with segment := nextNumber }, branch),
      ({ writer with segment := nextNumber + 1 }, next)]) :
    places coming [segment.closed, fresh nextNumber, fresh (nextNumber + 1)] =
      (Course.fork branch next).places writer.taps segment.place := by
  have ofBranch := pay ({ writer with segment := nextNumber }, branch) (by simp) .blank
  have ofNext := pay ({ writer with segment := nextNumber + 1 }, next) (by simp) .blank
  simp only at ofBranch ofNext
  rw [places_cons_of_ended rfl, places_cons_of_open rfl, places_cons_of_open rfl, places_nil,
    List.append_nil]
  change _ :: (coming nextNumber .blank ++ coming (nextNumber + 1) .blank) = _
  rw [ofBranch, ofNext]
  rfl

def failedWith (segment : Segment) (error : RenderError) : Segment :=
  { segment with error := some error }

/-- The failure of a segment may take the place of an earlier one, so that only some are known. -/
theorem places_failed (error : RenderError) (unended : segment.ended = false)
    (sameNumber : segment.number = writer.segment) (pay : coming.Pay [(writer, next)]) :
    Place.RefineAll (places coming [segment.failedWith error])
      ((Course.fail error next).places writer.taps segment.place) := by
  rw [places_cons_of_open (show (segment.failedWith error).ended = false from unended),
    places_nil, List.append_nil]
  change Place.RefineAll (coming segment.number _) _
  rw [sameNumber, pay (writer, next) (by simp)]
  refine next.places_refine writer.taps ⟨rfl, fun _ => by simp [place, failedWith], ?_⟩
  intro other member
  simp only [place, failedWith, Option.toList_some, List.mem_singleton] at member
  simp [Place.failed, member]

theorem places_closed : places coming [segment.closed] =
    Course.finish.places writer.taps segment.place :=
  places_cons_of_ended rfl _

end Steps

/-- An open segment is the first one behind some that have ended, or stands behind the first one. -/
theorem split_open {forked rest : List Segment} {front : Segment}
    (same : before ++ segment :: behind = forked ++ front :: rest)
    (unended : segment.ended = false) (ended : ∀ tested ∈ forked, tested.ended = true) :
    (before = forked ∧ segment = front ∧ behind = rest) ∨
      ∃ between, before = forked ++ front :: between := by
  rcases List.append_eq_append_iff.mp same with ⟨more, forkedSplit, restSplit⟩ |
    ⟨more, beforeSplit, restSplit⟩
  · cases more with
    | nil =>
        obtain ⟨sameFront, sameRest⟩ := List.cons.inj restSplit
        exact .inl ⟨by simpa using forkedSplit.symm, sameFront, sameRest⟩
    | cons head tail =>
        obtain ⟨rfl, -⟩ := List.cons.inj restSplit
        have closed := ended segment (by simp [forkedSplit])
        rw [unended] at closed
        cases closed
  · cases more with
    | nil =>
        obtain ⟨sameFront, sameRest⟩ := List.cons.inj restSplit
        exact .inl ⟨by simpa using beforeSplit, sameFront.symm, sameRest.symm⟩
    | cons head tail =>
        obtain ⟨rfl, -⟩ := List.cons.inj restSplit
        exact .inr ⟨tail, beforeSplit⟩

/-- How a round of leaving ends at the segments that do not leave. -/
inductive Halts : List Segment → Outcome → List Segment → Prop
  | finished : Halts [] .finished []
  | pending {segment : Segment} {rest : List Segment} (unended : segment.ended = false)
      (sound : segment.error = none) : Halts (segment :: rest) .pending (segment :: rest)
  | failed {segment : Segment} {rest : List Segment} {error : RenderError}
      (failed : segment.error = some error) :
      Halts (segment :: rest) (.failed error) ({ segment with error := none } :: rest)

/-- The segments at the front that have ended and not failed leave with their texts. -/
theorem drainWaiting_leaves (segments : List Segment) :
    ∃ gone rest, segments = gone ++ rest ∧
      (∀ segment ∈ gone, segment.ended = true ∧ segment.error = none) ∧
      (Outlet.drainWaiting segments).pieces = Place.pieces (gone.map place) ∧
      Halts rest (Outlet.drainWaiting segments).outcome (Outlet.drainWaiting segments).waiting := by
  induction segments with
  | nil => exact ⟨[], [], rfl, by simp, rfl, .finished⟩
  | cons segment others inductionHypothesis =>
      cases sound : segment.error with
      | some error =>
          refine ⟨[], segment :: others, rfl, by simp, ?_, ?_⟩
          · simp [Outlet.drainWaiting, sound, Place.pieces]
          · simpa only [Outlet.drainWaiting, sound] using Halts.failed sound
      | none =>
          cases ended : segment.ended with
          | false =>
              refine ⟨[], segment :: others, rfl, by simp, ?_, ?_⟩
              · simp [Outlet.drainWaiting, sound, ended, Place.pieces]
              · simpa only [Outlet.drainWaiting, sound, ended, Bool.false_eq_true, if_false]
                  using Halts.pending ended sound
          | true =>
              obtain ⟨gone, rest, rfl, allEnded, texts, halts⟩ := inductionHypothesis
              refine ⟨segment :: gone, rest, rfl, ?_, ?_, ?_⟩
              · intro tested member
                rcases List.mem_cons.mp member with rfl | later
                · exact ⟨ended, sound⟩
                · exact allEnded tested later
              · by_cases blank : segment.text.isEmpty <;>
                  simp [Outlet.drainWaiting, sound, ended, Place.pieces, place, blank, texts]
              · simpa only [Outlet.drainWaiting, sound, ended, if_true] using halts

variable {gone rest waiting : List Segment} {outcome : Outcome}

theorem openNumbers_gone
    (allEnded : ∀ segment ∈ gone, segment.ended = true ∧ segment.error = none) :
    openNumbers gone = [] :=
  openNumbers_eq_nil_iff.mpr fun segment member => (allEnded segment member).1

theorem Halts.numbers (halts : Halts rest outcome waiting) :
    waiting.map number = rest.map number ∧ openNumbers waiting = openNumbers rest := by
  cases halts with
  | finished => exact ⟨rfl, rfl⟩
  | pending unended sound => exact ⟨rfl, rfl⟩
  | @failed segment rest error failed =>
      cases ended : segment.ended <;> simp [openNumbers, ended]

theorem Tended.leave (tended : Tended (gone ++ rest) nextNumber inUse)
    (allEnded : ∀ segment ∈ gone, segment.ended = true ∧ segment.error = none) :
    Tended rest nextNumber inUse := by
  refine ⟨tended.numbered.dropFront, ?_⟩
  have opens := tended.opens
  rwa [openNumbers_append, openNumbers_gone allEnded, List.nil_append] at opens

theorem Tended.halt (tended : Tended rest nextNumber inUse) (halts : Halts rest outcome waiting) :
    Tended waiting nextNumber inUse := by
  obtain ⟨sameNumbers, sameOpen⟩ := halts.numbers
  exact ⟨tended.numbered.of_numbers sameNumbers, sameOpen ▸ tended.opens⟩

/-- The segments that stay, a failure that is reported apart. -/
theorem Halts.failed_mem (halts : Halts rest outcome waiting) (member : segment ∈ waiting)
    (failed : segment.error ≠ none) : segment ∈ rest := by
  cases halts with
  | finished => exact member
  | pending unended sound => exact member
  | failed first =>
      rcases List.mem_cons.mp member with rfl | later
      · exact absurd rfl failed
      · exact List.mem_cons_of_mem _ later

theorem sound_gone (allEnded : ∀ segment ∈ gone, segment.ended = true ∧ segment.error = none) :
    ∀ entry ∈ gone.map place, entry.failures = [] := by
  intro entry member
  obtain ⟨segment, present, rfl⟩ := List.mem_map.mp member
  simp [place, (allEnded segment present).2]

theorem HeadFor.leave (headed : HeadFor target left (gone ++ rest) inUse)
    (allEnded : ∀ segment ∈ gone, segment.ended = true ∧ segment.error = none) :
    HeadFor target (left ++ gone.map place) rest inUse := by
  intro coming pay
  have equation := headed coming pay
  rw [places_append, places_of_ended fun segment member => (allEnded segment member).1]
    at equation
  rw [List.append_assoc]
  exact equation

/-- The first place that segments come to is that of the first one, or grows from it. -/
theorem places_front (tended : Tended (segment :: rest) nextNumber inUse) {coming : Prospects}
    (pay : coming.Pay inUse) :
    ∃ first others, places coming (segment :: rest) = first :: others ∧
      ∀ error ∈ segment.place.failures, error ∈ first.failures := by
  cases ended : segment.ended with
  | true => exact ⟨segment.place, _, places_cons_of_ended ended rest, fun _ member => member⟩
  | false =>
      have listed : segment.number ∈ standings inUse :=
        tended.opens.mem_iff.mp (by simp [openNumbers_cons_of_open ended])
      obtain ⟨⟨writer, course⟩, present, sameNumber⟩ := List.mem_map.mp listed
      simp only at sameNumber
      obtain ⟨first, others, equality, among⟩ := course.places_eq_cons writer.taps segment.place
      refine ⟨first, others ++ places coming rest, ?_, among⟩
      rw [places_cons_of_open ended, ← sameNumber, pay _ present, equality]
      rfl

/-- How far an outlet has come once a round of leaving has ended. -/
theorem HeadFor.reach (headed : HeadFor target left rest inUse)
    (tended : Tended rest nextNumber inUse)
    (sound : ∀ entry ∈ left, entry.failures = []) (halts : Halts rest outcome waiting) :
    Place.Reach target left outcome := by
  obtain ⟨coming, pay⟩ := Prospects.exists_pay tended.nodup
  obtain ⟨behind, rfl, refines⟩ := Place.RefineAll.split (headed coming pay) sound
  cases halts with
  | finished =>
      cases refines
      exact (List.append_nil left).symm
  | pending unended sound => exact List.prefix_append left behind
  | @failed segment rest error failed =>
      obtain ⟨first, others, equality, among⟩ := places_front tended pay
      rw [equality] at refines
      cases refines with
      | @cons _ whole _ behind here _ =>
          exact ⟨whole, behind, rfl, here.among error (among error (by simp [place, failed]))⟩

end Segment

end BraceTemplate.Output
