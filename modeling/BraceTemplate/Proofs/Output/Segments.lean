import BraceTemplate.Output.Outlet

/-!
# Segments that wait

What the segments of an outlet will have contributed once all of them have ended. A segment that has
ended contributes its text, an open one its text and whatever is still to come there. Changing a
segment, putting segments behind it and letting segments leave are described by where the segment
stands among the others.
-/

namespace BraceTemplate.Output

abbrev Coming := Nat → String

namespace Segment

def total (coming : Coming) (segment : Segment) : String :=
  if segment.ended then segment.text else segment.text ++ coming segment.number

/-- The segment after more was written to it. -/
def written (segment : Segment) (text : String) : Segment :=
  { segment with text := segment.text ++ text }

def closed (segment : Segment) : Segment :=
  { segment with ended := true }

def totals (coming : Coming) : List Segment → String
  | [] => ""
  | segment :: rest => segment.total coming ++ totals coming rest

def openNumbers (segments : List Segment) : List Nat :=
  (segments.filter fun segment => !segment.ended).map number

@[simp]
theorem totals_nil (coming : Coming) : totals coming [] = "" :=
  rfl

@[simp]
theorem totals_cons (coming : Coming) (segment : Segment) (rest : List Segment) :
    totals coming (segment :: rest) = segment.total coming ++ totals coming rest :=
  rfl

@[simp]
theorem totals_append (coming : Coming) (first second : List Segment) :
    totals coming (first ++ second) = totals coming first ++ totals coming second := by
  induction first with
  | nil => simp
  | cons segment rest inductionHypothesis =>
      simp [inductionHypothesis, String.append_assoc]

theorem totals_congr {coming other : Coming} {segments : List Segment}
    (agree : ∀ number ∈ openNumbers segments, coming number = other number) :
    totals coming segments = totals other segments := by
  induction segments with
  | nil => rfl
  | cons segment rest inductionHypothesis =>
      have restAgrees :
          ∀ number ∈ openNumbers rest, coming number = other number := by
        intro number member
        apply agree
        cases ended : segment.ended <;>
          simp_all [openNumbers]
      have sameHead : segment.total coming = segment.total other := by
        cases ended : segment.ended with
        | true => simp [total, ended]
        | false =>
            have here : coming segment.number = other segment.number :=
              agree _ (by simp [openNumbers, ended])
            simp [total, ended, here]
      rw [totals_cons, totals_cons, sameHead, inductionHypothesis restAgrees]

@[simp]
theorem openNumbers_nil : openNumbers [] = [] :=
  rfl

@[simp]
theorem openNumbers_append (first second : List Segment) :
    openNumbers (first ++ second) = openNumbers first ++ openNumbers second := by
  simp [openNumbers]

theorem openNumbers_cons_of_ended {segment : Segment} (ended : segment.ended = true)
    (rest : List Segment) : openNumbers (segment :: rest) = openNumbers rest := by
  simp [openNumbers, ended]

theorem openNumbers_cons_of_open {segment : Segment} (unended : segment.ended = false)
    (rest : List Segment) :
    openNumbers (segment :: rest) = segment.number :: openNumbers rest := by
  simp [openNumbers, unended]

@[simp]
theorem openNumbers_closed_cons (segment : Segment) (rest : List Segment) :
    openNumbers (segment.closed :: rest) = openNumbers rest :=
  openNumbers_cons_of_ended rfl rest

@[simp]
theorem openNumbers_fresh_cons (number : Nat) (rest : List Segment) :
    openNumbers (Segment.fresh number :: rest) = number :: openNumbers rest :=
  openNumbers_cons_of_open rfl rest

theorem openNumbers_eq_nil_iff {segments : List Segment} :
    openNumbers segments = [] ↔ ∀ segment ∈ segments, segment.ended = true := by
  simp [openNumbers]

theorem mem_numbers_of_mem_openNumbers {segments : List Segment} {number : Nat}
    (member : number ∈ openNumbers segments) :
    number ∈ segments.map Segment.number := by
  obtain ⟨segment, kept, same⟩ := List.mem_map.mp member
  exact List.mem_map.mpr ⟨segment, (List.mem_filter.mp kept).1, same⟩

/-- An open segment splits the others into those before and those behind it. -/
theorem split_of_mem_openNumbers {segments : List Segment} {number : Nat}
    (member : number ∈ openNumbers segments) :
    ∃ before segment behind,
      segments = before ++ segment :: behind ∧
        segment.number = number ∧ segment.ended = false := by
  obtain ⟨segment, kept, same⟩ := List.mem_map.mp member
  obtain ⟨present, unended⟩ := List.mem_filter.mp kept
  obtain ⟨before, behind, equality⟩ := List.append_of_mem present
  exact ⟨before, segment, behind, equality, same, by simpa using unended⟩

end Segment

/-- The numbers of segments differ and have been given out. -/
structure Segment.Numbered (segments : List Segment) (nextNumber : Nat) : Prop where
  nodup : (segments.map Segment.number).Nodup
  bound : ∀ segment ∈ segments, segment.number < nextNumber

namespace Segment.Numbered

variable {before behind segments : List Segment} {segment changed : Segment} {nextNumber : Nat}

theorem notMem_before (numbered : Numbered (before ++ segment :: behind) nextNumber) :
    segment.number ∉ before.map number := by
  have nodup := numbered.nodup
  rw [List.map_append, List.map_cons] at nodup
  intro member
  exact (List.nodup_append.mp nodup).2.2 _ member _ (List.mem_cons_self ..) rfl

theorem notMem_behind (numbered : Numbered (before ++ segment :: behind) nextNumber) :
    segment.number ∉ behind.map number := by
  have nodup := numbered.nodup
  rw [List.map_append, List.map_cons] at nodup
  exact (List.nodup_cons.mp (List.nodup_append.mp nodup).2.1).1

/-- The numbers alone matter. -/
theorem of_numbers {others : List Segment} (numbered : Numbered segments nextNumber)
    (same : others.map number = segments.map number) : Numbered others nextNumber := by
  refine ⟨same ▸ numbered.nodup, fun other member => ?_⟩
  have listed : other.number ∈ segments.map number := same ▸ List.mem_map_of_mem member
  obtain ⟨segment, present, sameNumber⟩ := List.mem_map.mp listed
  exact sameNumber ▸ numbered.bound segment present

theorem replace (numbered : Numbered (before ++ segment :: behind) nextNumber)
    (sameNumber : changed.number = segment.number) :
    Numbered (before ++ changed :: behind) nextNumber :=
  numbered.of_numbers (by simp [sameNumber])

theorem dropFront (numbered : Numbered (before ++ segments) nextNumber) :
    Numbered segments nextNumber := by
  refine ⟨?_, fun tested member => numbered.bound tested (List.mem_append_right _ member)⟩
  have nodup := numbered.nodup
  rw [List.map_append] at nodup
  exact (List.nodup_append.mp nodup).2.1

theorem insertFresh (numbered : Numbered (before ++ segment :: behind) nextNumber) :
    Numbered
      (before ++ segment :: Segment.fresh nextNumber ::
        Segment.fresh (nextNumber + 1) :: behind)
      (nextNumber + 2) := by
  have smaller : ∀ other ∈ (before ++ segment :: behind).map number, other < nextNumber := by
    intro other member
    obtain ⟨tested, present, rfl⟩ := List.mem_map.mp member
    exact numbered.bound tested present
  have rearranged :
      ((before ++ segment :: Segment.fresh nextNumber ::
          Segment.fresh (nextNumber + 1) :: behind).map number).Perm
        (nextNumber :: (nextNumber + 1) :: (before ++ segment :: behind).map number) := by
    simp only [List.map_append, List.map_cons, Segment.fresh]
    grind
  constructor
  · refine rearranged.nodup_iff.mpr (List.nodup_cons.mpr ⟨?_, List.nodup_cons.mpr ⟨?_,
      numbered.nodup⟩⟩)
    · intro member
      rcases List.mem_cons.mp member with same | present
      · omega
      · exact absurd (smaller _ present) (by omega)
    · intro present
      exact absurd (smaller _ present) (by omega)
  · intro tested member
    have listed := rearranged.mem_iff.mp (List.mem_map_of_mem member)
    rcases List.mem_cons.mp listed with same | listed
    · omega
    · rcases List.mem_cons.mp listed with same | listed
      · omega
      · have := smaller _ listed
        omega

end Segment.Numbered

/-- What holds of the segments that wait in an outlet without failures: their numbers differ and
have been given out. -/
structure Segment.Orderly (segments : List Segment) (nextNumber : Nat) : Prop where
  noError : ∀ segment ∈ segments, segment.error = none
  nodup : (segments.map Segment.number).Nodup
  bound : ∀ segment ∈ segments, segment.number < nextNumber

namespace Segment.Orderly

variable {before behind segments : List Segment} {segment changed : Segment} {nextNumber : Nat}

theorem numbered (orderly : Orderly segments nextNumber) : Numbered segments nextNumber :=
  ⟨orderly.nodup, orderly.bound⟩

theorem ofNumbered (noError : ∀ segment ∈ segments, segment.error = none)
    (numbered : Numbered segments nextNumber) : Orderly segments nextNumber :=
  ⟨noError, numbered.nodup, numbered.bound⟩

theorem notMem_before (orderly : Orderly (before ++ segment :: behind) nextNumber) :
    segment.number ∉ before.map number :=
  orderly.numbered.notMem_before

theorem notMem_behind (orderly : Orderly (before ++ segment :: behind) nextNumber) :
    segment.number ∉ behind.map number :=
  orderly.numbered.notMem_behind

theorem replace (orderly : Orderly (before ++ segment :: behind) nextNumber)
    (sameNumber : changed.number = segment.number) (noError : changed.error = none) :
    Orderly (before ++ changed :: behind) nextNumber := by
  refine ofNumbered (fun tested member => ?_) (orderly.numbered.replace sameNumber)
  rcases List.mem_append.mp member with earlier | later
  · exact orderly.noError tested (List.mem_append_left _ earlier)
  · rcases List.mem_cons.mp later with rfl | behindMember
    · exact noError
    · exact orderly.noError tested
        (List.mem_append_right _ (List.mem_cons_of_mem _ behindMember))

theorem write (orderly : Orderly (before ++ segment :: behind) nextNumber) (text : String) :
    Orderly (before ++ segment.written text :: behind) nextNumber :=
  orderly.replace rfl (orderly.noError segment (by simp))

theorem close (orderly : Orderly (before ++ segment :: behind) nextNumber) :
    Orderly (before ++ segment.closed :: behind) nextNumber :=
  orderly.replace rfl (orderly.noError segment (by simp))

theorem dropFront (orderly : Orderly (before ++ segments) nextNumber) :
    Orderly segments nextNumber :=
  ofNumbered (fun tested member => orderly.noError tested (List.mem_append_right _ member))
    orderly.numbered.dropFront

theorem insertFresh (orderly : Orderly (before ++ segment :: behind) nextNumber) :
    Orderly
      (before ++ segment :: Segment.fresh nextNumber ::
        Segment.fresh (nextNumber + 1) :: behind)
      (nextNumber + 2) := by
  refine ofNumbered (fun tested member => ?_) orderly.numbered.insertFresh
  simp only [List.mem_append, List.mem_cons] at member
  rcases member with earlier | rfl | rfl | rfl | later
  · exact orderly.noError tested (by simp [earlier])
  · exact orderly.noError tested (by simp)
  · rfl
  · rfl
  · exact orderly.noError tested (by simp [later])

end Segment.Orderly

namespace Outlet

variable {before behind : List Segment} {segment : Segment} {number : Nat}

theorem changeSegment_split (change : Segment → Segment)
    (sameNumber : segment.number = number) (first : number ∉ before.map Segment.number) :
    changeSegment number change (before ++ segment :: behind) =
      before ++ change segment :: behind := by
  induction before with
  | nil => simp [changeSegment, sameNumber]
  | cons head rest inductionHypothesis =>
      simp only [List.map_cons, List.mem_cons, not_or] at first
      simp only [List.cons_append, changeSegment, if_neg (Ne.symm first.1)]
      rw [inductionHypothesis first.2]

theorem insertBehind_split (added : List Segment)
    (sameNumber : segment.number = number) (first : number ∉ before.map Segment.number) :
    insertBehind number added (before ++ segment :: behind) =
      before ++ segment.closed :: (added ++ behind) := by
  induction before with
  | nil => simp [insertBehind, sameNumber, Segment.closed]
  | cons head rest inductionHypothesis =>
      simp only [List.map_cons, List.mem_cons, not_or] at first
      simp only [List.cons_append, insertBehind, if_neg (Ne.symm first.1)]
      rw [inductionHypothesis first.2]

theorem changeSegment_changeSegment {number : Nat} {first second : Segment → Segment}
    (sameNumber : ∀ segment, (first segment).number = segment.number) (segments : List Segment) :
    changeSegment number second (changeSegment number first segments) =
      changeSegment number (fun segment => second (first segment)) segments := by
  induction segments with
  | nil => rfl
  | cons segment rest inductionHypothesis =>
      by_cases here : segment.number = number
      · simp [changeSegment, here, sameNumber]
      · simp [changeSegment, here, inductionHypothesis]

theorem changeSegment_self (number : Nat) (segments : List Segment) :
    changeSegment number (fun segment => segment) segments = segments := by
  induction segments with
  | nil => rfl
  | cons segment rest inductionHypothesis => simp [changeSegment, inductionHypothesis]

/-- Without a failure the ended segments at the front leave, with their text, up to the first open
one. -/
theorem drainWaiting_split {segments : List Segment}
    (noError : ∀ segment ∈ segments, segment.error = none) :
    ∃ left,
      segments = left ++ (drainWaiting segments).waiting ∧
        (∀ segment ∈ left, segment.ended = true) ∧
        (∀ coming, String.join (drainWaiting segments).pieces = Segment.totals coming left) := by
  induction segments with
  | nil => exact ⟨[], rfl, by simp, by simp [drainWaiting, String.join]⟩
  | cons segment rest inductionHypothesis =>
      have here : segment.error = none := noError segment (by simp)
      obtain ⟨left, equality, allEnded, text⟩ :=
        inductionHypothesis fun tested member => noError tested (by simp [member])
      cases ended : segment.ended with
      | false => exact ⟨[], by simp [drainWaiting, here, ended, String.join]⟩
      | true =>
          refine ⟨segment :: left, ?_, ?_, ?_⟩
          · simpa [drainWaiting, here, ended] using equality
          · intro tested member
            rcases List.mem_cons.mp member with rfl | later
            · exact ended
            · exact allEnded tested later
          · intro coming
            have restText := text coming
            by_cases blank : segment.text.isEmpty
            · have textNil : segment.text = "" := by simpa using blank
              simp [drainWaiting, here, ended, Segment.total, textNil, restText]
            · simp [drainWaiting, here, ended, Segment.total, blank, restText]

theorem drainWaiting_front {segments rest : List Segment}
    (noError : ∀ segment ∈ segments, segment.error = none)
    (front : (drainWaiting segments).waiting = segment :: rest) :
    segment.ended = false := by
  induction segments with
  | nil => simp [drainWaiting] at front
  | cons head others inductionHypothesis =>
      have here : head.error = none := noError head (by simp)
      cases ended : head.ended with
      | false =>
          simp only [drainWaiting, here, ended, Bool.false_eq_true, if_false, List.cons.injEq]
            at front
          exact front.1 ▸ ended
      | true =>
          simp only [drainWaiting, here, ended, if_true] at front
          exact inductionHypothesis (fun tested member => noError tested (by simp [member])) front

/-- A round of leaving ends at an open segment exactly where one is left. -/
theorem drainWaiting_outcome {segments : List Segment}
    (noError : ∀ segment ∈ segments, segment.error = none) :
    (drainWaiting segments).outcome =
      if Segment.openNumbers segments = [] then .finished else .pending := by
  induction segments with
  | nil => rfl
  | cons segment rest inductionHypothesis =>
      have here : segment.error = none := noError segment (by simp)
      have restOutcome :=
        inductionHypothesis fun tested member => noError tested (by simp [member])
      cases ended : segment.ended with
      | false =>
          simp [drainWaiting, here, ended, Segment.openNumbers_cons_of_open ended]
      | true =>
          simpa [drainWaiting, here, ended, Segment.openNumbers_cons_of_ended ended]
            using restOutcome

/-- A failed segment behind ended ones ends the round with its failure. -/
theorem drainWaiting_failed {error : RenderError}
    (noError : ∀ segment ∈ before, segment.error = none)
    (allEnded : ∀ segment ∈ before, segment.ended = true)
    (failed : segment.error = some error) :
    (drainWaiting (before ++ segment :: behind)).outcome = .failed error := by
  induction before with
  | nil => simp [drainWaiting, failed]
  | cons head rest inductionHypothesis =>
      have here : head.error = none := noError head (by simp)
      have ended : head.ended = true := allEnded head (by simp)
      have restOutcome :=
        inductionHypothesis (fun tested member => noError tested (by simp [member]))
          (fun tested member => allEnded tested (by simp [member]))
      simpa [drainWaiting, here, ended] using restOutcome

end Outlet

end BraceTemplate.Output
