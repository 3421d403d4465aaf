import BraceTemplate.Proofs.Output.Promises

/-!
# Segments that somebody is to end

A segment is awaited while it has neither ended nor failed. An outlet halts where an awaited segment
stands in front, behind those that have ended. Ending or failing a segment takes it from those that
are awaited, and a fork puts two in its place.
-/

namespace BraceTemplate.Output

namespace Segment

/-- Neither ended nor failed. -/
structure IsAwaited (segment : Segment) : Prop where
  unended : segment.ended = false
  sound : segment.error = none

def Awaits (segments : List Segment) (awaited : Nat) : Prop :=
  ∃ segment ∈ segments, segment.number = awaited ∧ segment.IsAwaited

/-- Behind segments that have ended stands one that is awaited. -/
inductive Halting : List Segment → Prop
  | front {segment : Segment} {rest : List Segment} (isAwaited : segment.IsAwaited) :
      Halting (segment :: rest)
  | behind {segment : Segment} {rest : List Segment} (ended : segment.ended = true)
      (sound : segment.error = none) (halting : Halting rest) : Halting (segment :: rest)

variable {segments rest : List Segment} {segment : Segment} {awaited number nextNumber : Nat}
variable {change : Segment → Segment}

theorem awaits_cons :
    Awaits (segment :: rest) awaited ↔
      (segment.number = awaited ∧ segment.IsAwaited) ∨ Awaits rest awaited := by
  simp [Awaits]

theorem Halting.exists_awaits (halting : Halting segments) :
    ∃ awaited, Awaits segments awaited := by
  induction halting with
  | front isAwaited => exact ⟨_, _, List.mem_cons_self, rfl, isAwaited⟩
  | behind _ _ _ inductionHypothesis =>
      obtain ⟨awaited, awaits⟩ := inductionHypothesis
      exact ⟨awaited, awaits_cons.mpr (.inr awaits)⟩

/-- What a change leaves as it is in a segment, it leaves as it is in all. -/
theorem map_changeSegment {Field : Type} {field : Segment → Field}
    (same : ∀ segment, field (change segment) = field segment) :
    (Outlet.changeSegment number change segments).map field = segments.map field := by
  induction segments with
  | nil => rfl
  | cons segment rest inductionHypothesis =>
      unfold Outlet.changeSegment
      split
      · rw [List.map_cons, same, List.map_cons]
      · rw [List.map_cons, inductionHypothesis, List.map_cons]

theorem numbers_changeSegment (sameNumber : ∀ segment, (change segment).number = segment.number) :
    (Outlet.changeSegment number change segments).map Segment.number =
      segments.map Segment.number :=
  map_changeSegment sameNumber

/-- Changing one segment leaves what is awaited elsewhere. -/
theorem Awaits.of_changeSegment
    (sameNumber : ∀ segment, (change segment).number = segment.number)
    (awaits : Awaits (Outlet.changeSegment number change segments) awaited)
    (different : awaited ≠ number) : Awaits segments awaited := by
  induction segments with
  | nil => exact awaits
  | cons segment rest inductionHypothesis =>
      unfold Outlet.changeSegment at awaits
      split at awaits
      · rename_i here
        rcases awaits_cons.mp awaits with ⟨same, -⟩ | later
        · exact absurd (same.symm.trans ((sameNumber segment).trans here)) different
        · exact awaits_cons.mpr (.inr later)
      · rcases awaits_cons.mp awaits with here | later
        · exact awaits_cons.mpr (.inl here)
        · exact awaits_cons.mpr (.inr (inductionHypothesis later))

/-- A segment that is changed so that it is not awaited is not awaited any more. -/
theorem not_awaits_changeSegment
    (settles : ∀ segment, ¬(change segment).IsAwaited)
    (nodup : (segments.map Segment.number).Nodup) :
    ¬Awaits (Outlet.changeSegment number change segments) number := by
  induction segments with
  | nil => simp [Awaits, Outlet.changeSegment]
  | cons segment rest inductionHypothesis =>
      rw [List.map_cons, List.nodup_cons] at nodup
      unfold Outlet.changeSegment
      intro awaits
      split at awaits
      · rename_i here
        rcases awaits_cons.mp awaits with ⟨-, isAwaited⟩ | ⟨later, member, same, -⟩
        · exact settles segment isAwaited
        · exact nodup.1 (here ▸ same ▸ List.mem_map_of_mem member)
      · rename_i elsewhere
        rcases awaits_cons.mp awaits with ⟨same, -⟩ | later
        · exact elsewhere same
        · exact inductionHypothesis nodup.2 later

section Keeping

variable (sameNumber : ∀ segment, (change segment).number = segment.number)
variable (same : ∀ segment, (change segment).ended = segment.ended ∧
  (change segment).error = segment.error)

include same in
theorem isAwaited_change_iff : (change segment).IsAwaited ↔ segment.IsAwaited :=
  ⟨fun awaited => ⟨(same segment).1 ▸ awaited.unended, (same segment).2 ▸ awaited.sound⟩,
    fun awaited =>
      ⟨(same segment).1.trans awaited.unended, (same segment).2.trans awaited.sound⟩⟩

include sameNumber same in
theorem awaits_changeSegment_iff :
    Awaits (Outlet.changeSegment number change segments) awaited ↔ Awaits segments awaited := by
  induction segments with
  | nil => exact Iff.rfl
  | cons segment rest inductionHypothesis =>
      unfold Outlet.changeSegment
      split
      · rw [awaits_cons, awaits_cons, sameNumber, isAwaited_change_iff same]
      · rw [awaits_cons, awaits_cons, inductionHypothesis]

include same in
theorem Halting.changeSegment (halting : Halting segments) :
    Halting (Outlet.changeSegment number change segments) := by
  induction halting with
  | front isAwaited =>
      unfold Outlet.changeSegment
      split
      · exact .front ((isAwaited_change_iff same).mpr isAwaited)
      · exact .front isAwaited
  | @behind segment rest ended sound halting inductionHypothesis =>
      unfold Outlet.changeSegment
      split
      · exact .behind ((same segment).1.trans ended) ((same segment).2.trans sound) halting
      · exact .behind ended sound inductionHypothesis

end Keeping

/-- Where a number is in no segment, nothing is put behind it. -/
theorem insertBehind_of_notMem {added : List Segment}
    (absent : number ∉ segments.map Segment.number) :
    Outlet.insertBehind number added segments = segments := by
  induction segments with
  | nil => rfl
  | cons segment rest inductionHypothesis =>
      simp only [List.map_cons, List.mem_cons, not_or] at absent
      rw [Outlet.insertBehind, if_neg (Ne.symm absent.1), inductionHypothesis absent.2]

theorem Numbered.insertBehind (numbered : Numbered segments nextNumber) (number : Nat) :
    Numbered (Outlet.insertBehind number
      [Segment.fresh nextNumber, Segment.fresh (nextNumber + 1)] segments) (nextNumber + 2) := by
  by_cases present : number ∈ segments.map Segment.number
  · obtain ⟨segment, member, rfl⟩ := List.mem_map.mp present
    obtain ⟨before, behind, rfl⟩ := List.append_of_mem member
    rw [Outlet.insertBehind_split _ rfl numbered.notMem_before]
    have closed : Numbered (before ++ segment.closed :: behind) nextNumber := numbered.replace rfl
    exact closed.insertFresh
  · rw [insertBehind_of_notMem present]
    exact ⟨numbered.nodup, fun segment member => Nat.lt_add_right 2 (numbered.bound segment member)⟩

/-- After a fork two new segments may be awaited, and the one that was forked is not. -/
theorem Awaits.of_insertBehind (numbered : Numbered segments nextNumber)
    (awaits : Awaits (Outlet.insertBehind number
      [Segment.fresh nextNumber, Segment.fresh (nextNumber + 1)] segments) awaited) :
    awaited = nextNumber ∨ awaited = nextNumber + 1 ∨
      (awaited ≠ number ∧ Awaits segments awaited) := by
  obtain ⟨found, member, rfl, isAwaited⟩ := awaits
  by_cases present : number ∈ segments.map Segment.number
  · obtain ⟨segment, inSegments, rfl⟩ := List.mem_map.mp present
    obtain ⟨before, behind, rfl⟩ := List.append_of_mem inSegments
    rw [Outlet.insertBehind_split _ rfl numbered.notMem_before] at member
    simp only [List.mem_append, List.mem_cons, List.not_mem_nil, or_false] at member
    rcases member with earlier | rfl | (rfl | rfl) | later
    · refine .inr (.inr ⟨fun same => numbered.notMem_before ?_, found, by simp [earlier], rfl,
        isAwaited⟩)
      exact same ▸ List.mem_map_of_mem earlier
    · exact absurd isAwaited.unended (by simp [closed])
    · exact .inl rfl
    · exact .inr (.inl rfl)
    · refine .inr (.inr ⟨fun same => numbered.notMem_behind ?_, found, by simp [later], rfl,
        isAwaited⟩)
      exact same ▸ List.mem_map_of_mem later
  · rw [insertBehind_of_notMem present] at member
    exact .inr (.inr ⟨fun same => present (same ▸ List.mem_map_of_mem member), found, member, rfl,
      isAwaited⟩)

theorem Halting.insertBehind (halting : Halting segments) (number branch next : Nat) :
    Halting (Outlet.insertBehind number [Segment.fresh branch, Segment.fresh next] segments) := by
  induction halting with
  | front isAwaited =>
      unfold Outlet.insertBehind
      split
      · exact .behind rfl isAwaited.sound (.front ⟨rfl, rfl⟩)
      · exact .front isAwaited
  | behind ended sound halting inductionHypothesis =>
      unfold Outlet.insertBehind
      split
      · exact .behind rfl sound (.front ⟨rfl, rfl⟩)
      · exact .behind ended sound inductionHypothesis

/-- Where a round of leaving is not the last, it ends at an awaited segment, and what is awaited was
there before. -/
theorem drainWaiting_pending (pending : (Outlet.drainWaiting segments).outcome = .pending) :
    Halting (Outlet.drainWaiting segments).waiting ∧
      ∀ awaited, Awaits (Outlet.drainWaiting segments).waiting awaited →
        Awaits segments awaited := by
  obtain ⟨gone, rest, split, -, -, halts⟩ := drainWaiting_leaves segments
  generalize Outlet.drainWaiting segments = drained at pending halts ⊢
  obtain ⟨pieces, outcome, passed, waiting⟩ := drained
  simp only at pending halts ⊢
  subst pending
  cases halts with
  | pending unended sound =>
      refine ⟨.front ⟨unended, sound⟩, ?_⟩
      rintro awaited ⟨segment, member, same, isAwaited⟩
      exact ⟨segment, by rw [split]; exact List.mem_append_right _ member, same, isAwaited⟩

theorem numbered_drainWaiting (numbered : Numbered segments nextNumber) :
    Numbered (Outlet.drainWaiting segments).waiting nextNumber := by
  obtain ⟨gone, rest, rfl, -, -, halts⟩ := drainWaiting_leaves segments
  exact numbered.dropFront.of_numbers halts.numbers.1

end Segment

end BraceTemplate.Output
