import Mathlib.Data.List.Induction
import Mathlib.Data.List.TakeWhile
import BraceTemplate.Proofs.Output.Links
import BraceTemplate.Proofs.Output.Promises

/-!
# What comes of a segment

What an outlet has told follows from the changes that it has seen. A segment that has failed while
it waited never leaves: once it is the first one, its failure ends the outlet. Where all segments
have ended and none has failed, all have left, in order, each with what was written to it.
-/

namespace BraceTemplate.Output

namespace Change

/-- Some changes are to segments that there are in the end. -/
theorem AllWithin.lt_sizeAfterAll {size : Nat} {changes : List Change}
    (within : AllWithin size changes) {change : Change} (member : change ∈ changes) :
    ∀ number ∈ change.number?, number < sizeAfterAll size changes := by
  induction changes generalizing size with
  | nil => cases member
  | cons first rest inductionHypothesis =>
      intro number here
      rcases List.mem_cons.mp member with rfl | later
      · exact Nat.lt_of_lt_of_le (within.1 number here) (Nat.le_trans (size_le_sizeAfter _ _)
          (size_le_sizeAfterAll _ rest))
      · exact inductionHypothesis within.2 later number here

end Change

namespace Outlet

variable {Continuation Listener : Type} {outlet : Outlet Continuation Listener} {change : Change}

/-- A change to a segment leaves the first segment where it is. -/
theorem head?_changed (changed : change.number?.isSome = true) :
    (outlet.take change).head? = outlet.head? := by
  rw [head?, (outlet.numbers_changed changed).2, head?]
  cases change with
  | fork number =>
      cases outlet.waiting with
      | nil => rfl
      | cons first rest =>
          by_cases here : first.number = number <;>
            simp [Change.numbersAfter, insertPassed, here]
  | _ => rfl

theorem finished_changed (changed : change.number?.isSome = true) :
    (outlet.take change).finished = outlet.finished := by
  cases change with
  | drain => cases changed
  | _ => rfl

theorem told_changed (changed : change.number?.isSome = true) : outlet.told [change] = [] := by
  cases change with
  | drain => cases changed
  | _ => rfl

/-- After a change to a segment, a segment has the failure of one that was there, or the one that it
was just given, or it is new and has none. -/
theorem error_changed (counted : outlet.Counted) (changed : change.number?.isSome = true)
    {segment : Segment} (member : segment ∈ (outlet.take change).waiting) :
    (∃ before ∈ outlet.waiting, before.number = segment.number ∧ before.error = segment.error ∧
        ∀ error, change ≠ .fail segment.number error) ∨
      (∃ error, change = .fail segment.number error ∧ segment.error = some error) ∨
      outlet.nextNumber ≤ segment.number ∧ segment.error = none := by
  have once : (outlet.waiting.map Segment.number).Nodup := (List.nodup_append.mp counted.nodup).2.1
  cases change with
  | drain => cases changed
  | write number text =>
      simp only [Outlet.take, Outlet.change, changeSegment_eq_map once, List.mem_map] at member
      obtain ⟨before, old, rfl⟩ := member
      refine .inl ⟨before, old, ?_⟩
      by_cases here : before.number = number <;> simp [here, Segment.written]
  | finish number =>
      simp only [Outlet.take, Outlet.change, changeSegment_eq_map once, List.mem_map] at member
      obtain ⟨before, old, rfl⟩ := member
      refine .inl ⟨before, old, ?_⟩
      by_cases here : before.number = number <;> simp [here, Segment.closed]
  | fail number error =>
      simp only [Outlet.take, Outlet.change, changeSegment_eq_map once, List.mem_map] at member
      obtain ⟨before, old, rfl⟩ := member
      by_cases here : before.number = number
      · exact .inr (.inl ⟨error, by simp [here]⟩)
      · refine .inl ⟨before, old, ?_⟩
        simp [here, Ne.symm here]
  | fork number =>
      rcases mem_insertBehind member with new | ⟨before, old, sameNumber, -, sameError⟩
      · refine .inr (.inr ?_)
        simp only [List.mem_cons, List.not_mem_nil, or_false] at new
        rcases new with rfl | rfl <;> simp [Segment.fresh]
      · exact .inl ⟨before, old, sameNumber, sameError, by simp⟩

/-- How changes have gone on to tell pieces, the end or a failure. -/
structure Fated (changes : List Change) (told : List Occasion)
    (outlet : Outlet Continuation Listener) : Prop where
  errors : ∀ segment ∈ outlet.waiting, ∀ error ∈ segment.error,
    .fail segment.number error ∈ changes
  fails : outlet.finished = false → ∀ number error, .fail number error ∈ changes →
    ∀ segment ∈ outlet.waiting, segment.number = number → segment.error ≠ none
  going : outlet.finished = false → ∃ texts : List String, told = texts.map Occasion.data
  concluded : outlet.finished = true → ∃ texts : List String,
    (outlet.head? = none ∧ told = texts.map Occasion.data ++ [.finished]) ∨
      ∃ number error, outlet.head? = some number ∧ .fail number error ∈ changes ∧
        told = texts.map Occasion.data ++ [.failed error]

theorem fated_blank : blank.Fated [] [] :=
  ⟨by simp [blank, opened, Segment.fresh], by simp, fun _ => ⟨[], rfl⟩,
    fun isDone => (by cases isDone)⟩

theorem Fated.changed {changes : List Change} {told : List Occasion}
    (fated : outlet.Fated changes told) (counted : outlet.Counted)
    (old : ∀ other ∈ changes, ∀ number ∈ other.number?, number < outlet.nextNumber)
    (within : ∀ number ∈ change.number?, number < outlet.nextNumber)
    (changed : change.number?.isSome = true) :
    (outlet.take change).Fated (changes ++ [change]) told := by
  have earlier : ∀ other ∈ changes, other ∈ changes ++ [change] := fun _ member =>
    List.mem_append_left _ member
  refine ⟨fun segment member error failed => ?_,
    fun going number error failed segment member same => ?_, fun going => ?_, fun concluded => ?_⟩
  · rcases error_changed counted changed member with ⟨before, there, sameNumber, sameError, -⟩ |
      ⟨given, rfl, isGiven⟩ | ⟨-, none⟩
    · rw [← sameNumber]
      exact earlier _ (fated.errors before there error (sameError ▸ failed))
    · rw [isGiven] at failed
      cases failed
      exact List.mem_append_right _ (List.mem_singleton_self _)
    · rw [none] at failed
      cases failed
  · rw [finished_changed changed] at going
    rcases error_changed counted changed member with ⟨before, there, sameNumber, sameError, other⟩ |
      ⟨given, -, isGiven⟩ | ⟨new, -⟩
    · subst same
      rw [← sameError]
      refine fated.fails going _ error ?_ before there sameNumber
      rcases List.mem_append.mp failed with before | now
      · exact before
      · exact absurd (List.mem_singleton.mp now).symm (other error)
    · simp [isGiven]
    · subst same
      have bound : segment.number < outlet.nextNumber := by
        rcases List.mem_append.mp failed with before | now
        · exact old _ before _ rfl
        · rw [← List.mem_singleton.mp now] at within
          exact within _ rfl
      exact absurd bound (Nat.not_lt.mpr new)
  · rw [finished_changed changed] at going
    exact fated.going going
  · rw [finished_changed changed] at concluded
    obtain ⟨texts, ended | ⟨number, error, first, failed, told⟩⟩ := fated.concluded concluded
    · rw [head?_changed changed]
      exact ⟨texts, .inl ended⟩
    · rw [head?_changed changed]
      exact ⟨texts, .inr ⟨number, error, first, earlier _ failed, told⟩⟩

theorem Fated.drained {changes : List Change} {told : List Occasion}
    (fated : outlet.Fated changes told) :
    (outlet.take .drain).Fated (changes ++ [.drain]) (told ++ outlet.told [.drain]) := by
  have earlier : ∀ {number error}, .fail number error ∈ changes ++ [.drain] ↔
      .fail number error ∈ changes := by
    intro number error
    simp
  cases going : outlet.finished with
  | true =>
      have still : outlet.take .drain = outlet := by rw [take, drain_finished going]
      have silent : outlet.told [.drain] = [] := by
        simp [Outlet.told, drain_finished going, Outcome.occasions]
      rw [still, silent, List.append_nil]
      refine ⟨fun segment member error failed =>
          earlier.mpr (fated.errors segment member error failed),
        fun unfinished => (by cases going.symm.trans unfinished),
        fun unfinished => (by cases going.symm.trans unfinished), fun _ => ?_⟩
      simpa only [earlier] using fated.concluded going
  | false =>
      obtain ⟨texts, rfl⟩ := fated.going going
      obtain ⟨gone, rest, split, -, -, halts⟩ := Segment.drainWaiting_leaves outlet.waiting
      have drained := drain_eq going
      have toldAlso : outlet.told [.drain] =
          (drainWaiting outlet.waiting).pieces.map Occasion.data ++
            (drainWaiting outlet.waiting).outcome.occasions := by
        simp [Outlet.told, drained]
      have taken : outlet.take .drain = { outlet with
          passed := outlet.passed ++ (drainWaiting outlet.waiting).passed
          waiting := (drainWaiting outlet.waiting).waiting
          finished := (drainWaiting outlet.waiting).outcome.isOver } := by
        rw [take, drained]
      rw [toldAlso, taken]
      have ofRest : ∀ segment ∈ rest, segment ∈ outlet.waiting := fun segment member =>
        split ▸ List.mem_append_right gone member
      generalize (drainWaiting outlet.waiting).outcome = outcome at halts ⊢
      generalize (drainWaiting outlet.waiting).waiting = waiting at halts ⊢
      generalize (drainWaiting outlet.waiting).pieces = pieces
      cases halts with
      | finished =>
          refine ⟨fun _ member => absurd member List.not_mem_nil,
            fun unfinished => (by cases unfinished), fun unfinished => (by cases unfinished),
            fun _ => ⟨texts ++ pieces, .inl ⟨rfl, ?_⟩⟩⟩
          simp [Outcome.occasions]
      | pending unended sound =>
          refine ⟨fun segment member error failed =>
              earlier.mpr (fated.errors segment (ofRest segment member) error failed),
            fun _ number error failed segment member =>
              fated.fails going number error (earlier.mp failed) segment (ofRest segment member),
            fun _ => ⟨texts ++ pieces, ?_⟩, fun isDone => (by cases isDone)⟩
          simp [Outcome.occasions]
      | @failed first others error failed =>
          have cause := fated.errors first (ofRest first List.mem_cons_self) error failed
          refine ⟨fun segment member other isFailed => ?_, fun unfinished => (by cases unfinished),
            fun unfinished => (by cases unfinished), fun _ => ⟨texts ++ pieces, .inr ?_⟩⟩
          · rcases List.mem_cons.mp member with rfl | later
            · cases isFailed
            · have there := ofRest segment (List.mem_cons_of_mem _ later)
              exact earlier.mpr (fated.errors segment there other isFailed)
          · exact ⟨first.number, error, rfl, earlier.mpr cause, by simp [Outcome.occasions]⟩

theorem blank_fated {changes : List Change} (within : Change.AllWithin 1 changes) :
    (blank.after changes).Fated changes (blank.told changes) := by
  induction changes using List.reverseRecOn with
  | nil => exact fated_blank
  | append_singleton rest change inductionHypothesis =>
      obtain ⟨restWithin, changeWithin⟩ := Change.allWithin_append.mp within
      have fated := inductionHypothesis restWithin
      have size : (blank.after rest).nextNumber = Change.sizeAfterAll 1 rest :=
        nextNumber_after rest
      rw [after_append, told_append]
      cases changed : change.number?.isSome with
      | true =>
          rw [told_changed changed, List.append_nil]
          refine fated.changed (counted_blank.after restWithin) (fun other member number here => ?_)
            (fun number here => ?_) changed
          · rw [size]
            exact restWithin.lt_sizeAfterAll member number here
          · rw [size]
            exact changeWithin.1 number here
      | false =>
          cases change with
          | drain => exact fated.drained
          | _ => cases changed

/-! ## Nothing is left that could leave -/

def Settled (outlet : Outlet Continuation Listener) : Prop :=
  outlet.finished = true ∨ (∃ segment ∈ outlet.waiting, segment.ended = false) ∧
    ∀ first ∈ outlet.waiting.head?, first.error = none

theorem settled_blank : blank.Settled :=
  .inr ⟨⟨Segment.fresh 0, List.mem_singleton_self _, rfl⟩, fun first member => by
    cases member
    rfl⟩

theorem settled_drained (outlet : Outlet Continuation Listener) :
    (outlet.take .drain).Settled := by
  cases going : outlet.finished with
  | true => exact .inl (by rw [take, drain_finished going, going])
  | false =>
      obtain ⟨gone, rest, split, -, -, halts⟩ := Segment.drainWaiting_leaves outlet.waiting
      rw [take, drain_eq going]
      unfold Settled
      simp only
      generalize (drainWaiting outlet.waiting).outcome = outcome at halts ⊢
      generalize (drainWaiting outlet.waiting).waiting = waiting at halts ⊢
      cases halts with
      | finished => exact .inl rfl
      | failed isFailed => exact .inl rfl
      | pending unended sound =>
          refine .inr ⟨⟨_, List.mem_cons_self, unended⟩, fun first member => ?_⟩
          cases member
          exact sound

def Open (number : Nat) (outlet : Outlet Continuation Listener) : Prop :=
  ∃ segment ∈ outlet.waiting, segment.number = number ∧ segment.ended = false ∧
    segment.error = none

theorem mem_changeSegment_of_ne {number : Nat} {change : Segment → Segment}
    {segments : List Segment} {segment : Segment} (member : segment ∈ segments)
    (other : segment.number ≠ number) : segment ∈ changeSegment number change segments := by
  induction segments with
  | nil => cases member
  | cons first rest inductionHypothesis =>
      by_cases here : first.number = number
      · rcases List.mem_cons.mp member with rfl | later
        · exact absurd here other
        · rw [changeSegment, if_pos here]
          exact List.mem_cons_of_mem _ later
      · rw [changeSegment, if_neg here]
        exact List.mem_cons.mpr ((List.mem_cons.mp member).imp_right inductionHypothesis)

theorem mem_insertBehind_of_ne {number : Nat} {added segments : List Segment} {segment : Segment}
    (member : segment ∈ segments) (other : segment.number ≠ number) :
    segment ∈ insertBehind number added segments := by
  induction segments with
  | nil => cases member
  | cons first rest inductionHypothesis =>
      by_cases here : first.number = number
      · rcases List.mem_cons.mp member with rfl | later
        · exact absurd here other
        · rw [insertBehind, if_pos here]
          exact List.mem_cons_of_mem _ (List.mem_append_right _ later)
      · rw [insertBehind, if_neg here]
        exact List.mem_cons.mpr ((List.mem_cons.mp member).imp_right inductionHypothesis)

theorem mem_insertBehind_added {number : Nat} {added segments : List Segment} {segment : Segment}
    (member : segment ∈ added) (there : number ∈ segments.map Segment.number) :
    segment ∈ insertBehind number added segments := by
  induction segments with
  | nil => cases there
  | cons first rest inductionHypothesis =>
      by_cases here : first.number = number
      · rw [insertBehind, if_pos here]
        exact List.mem_cons_of_mem _ (List.mem_append_left _ member)
      · rw [insertBehind, if_neg here]
        have later := (List.mem_cons.mp there).resolve_left (Ne.symm here)
        exact List.mem_cons_of_mem _ (inductionHypothesis later)

/-- What is written or forked leaves something that has not ended, and the first segment sound. -/
theorem Settled.take (settled : outlet.Settled) (quiet : change.quiet = true) :
    (outlet.take change).Settled := by
  rcases settled with isDone | ⟨⟨segment, there, unended⟩, sound⟩
  · exact .inl (by cases change <;> first | exact isDone | cases quiet)
  cases change with
  | write number text =>
      have ended : (outlet.take (.write number text)).waiting.map Segment.ended =
          outlet.waiting.map Segment.ended := Segment.map_changeSegment fun _ => rfl
      have errors : (outlet.take (.write number text)).waiting.map Segment.error =
          outlet.waiting.map Segment.error := Segment.map_changeSegment fun _ => rfl
      refine .inr ⟨?_, fun first member => ?_⟩
      · have still := List.mem_map_of_mem (f := Segment.ended) there
        rw [← ended, unended] at still
        exact List.mem_map.mp still
      · have same : (outlet.waiting.map Segment.error).head? = some first.error := by
          rw [← errors, List.head?_map, Option.mem_def.mp member]
          rfl
        rw [List.head?_map] at same
        obtain ⟨before, there, sameError⟩ := Option.map_eq_some_iff.mp same
        rw [← sameError]
        exact sound before there
  | fork number =>
      refine .inr ⟨?_, fun first member => ?_⟩
      · by_cases here : segment.number = number
        · exact ⟨Segment.fresh outlet.nextNumber, mem_insertBehind_added List.mem_cons_self
            (here ▸ List.mem_map_of_mem there), rfl⟩
        · exact ⟨segment, mem_insertBehind_of_ne there here, unended⟩
      · have waiting : (outlet.take (.fork number)).waiting = insertBehind number
            [Segment.fresh outlet.nextNumber, Segment.fresh (outlet.nextNumber + 1)]
            outlet.waiting := rfl
        rw [waiting] at member
        cases split : outlet.waiting with
        | nil => rw [split] at there; cases there
        | cons front rest =>
            have frontSound := sound front (by rw [split]; rfl)
            rw [split, insertBehind] at member
            split at member <;> (cases member; exact frontSound)
  | _ => cases quiet

/-- What is done to other segments leaves it open, and it does not leave. -/
theorem Open.take {number : Nat} (isOpen : outlet.Open number)
    (other : change.number? ≠ some number) : (outlet.take change).Open number := by
  obtain ⟨segment, there, rfl, unended, sound⟩ := isOpen
  have kept : segment ∈ (outlet.take change).waiting := by
    cases change with
    | write number text =>
        exact mem_changeSegment_of_ne there fun same => other (congrArg some same.symm)
    | finish number =>
        exact mem_changeSegment_of_ne there fun same => other (congrArg some same.symm)
    | fail number error =>
        exact mem_changeSegment_of_ne there fun same => other (congrArg some same.symm)
    | fork number =>
        exact mem_insertBehind_of_ne there fun same => other (congrArg some same.symm)
    | drain =>
        cases going : outlet.finished with
        | true => rwa [Outlet.take, drain_finished going]
        | false =>
            obtain ⟨gone, rest, split, allEnded, -, halts⟩ :=
              Segment.drainWaiting_leaves outlet.waiting
            rw [Outlet.take, drain_eq going]
            rw [split] at there
            have stays : segment ∈ rest := (List.mem_append.mp there).resolve_left fun left =>
              absurd (unended.symm.trans (allEnded segment left).1) Bool.false_ne_true
            generalize (drainWaiting outlet.waiting).outcome = outcome at halts ⊢
            generalize (drainWaiting outlet.waiting).waiting = waiting at halts ⊢
            cases halts with
            | finished => cases stays
            | pending _ _ => exact stays
            | failed failed =>
                refine List.mem_cons_of_mem _ ((List.mem_cons.mp stays).resolve_left ?_)
                rintro rfl
                cases sound.symm.trans failed
  exact ⟨segment, kept, rfl, unended, sound⟩

/-! ## Failures -/

variable {changes : List Change}

/-- An error was set on a segment that has not left. The outlet ends with such an error once the
segment is the first one, and never ends otherwise than with an error. -/
structure Fails (changes : List Change) (number : Nat) (error : RenderError)
    (outlet : Outlet Continuation Listener) : Prop where
  set : .fail number error ∈ changes
  waits : number ∈ outlet.waiting.map Segment.number
  first : outlet.head? = some number → ∃ (texts : List String) (last : RenderError),
    .fail number last ∈ changes ∧ blank.told changes = texts.map Occasion.data ++ [.failed last]
  ends : outlet.finished = true → ∃ (texts : List String) (last : RenderError),
    blank.told changes = texts.map Occasion.data ++ [.failed last]

theorem fails_of_stays (within : Change.AllWithin 1 changes)
    (became : outlet.bare = blank.after changes) (settled : outlet.Settled) {number : Nat}
    {error : RenderError} (failed : .fail number error ∈ changes) (stays : number ∉ outlet.passed) :
    outlet.Fails changes number error := by
  have fated := blank_fated within
  have counted := counted_blank.after within
  rw [← became] at fated counted
  have bound : number < outlet.bare.nextNumber := by
    rw [became, nextNumber_after]
    exact within.lt_sizeAfterAll failed number rfl
  have waits : number ∈ outlet.waiting.map Segment.number :=
    (List.mem_append.mp ((counted.mem number).mpr bound)).resolve_left stays
  have ends : outlet.finished = true → ∃ (texts : List String) (first : Nat) (last : RenderError),
      outlet.head? = some first ∧ .fail first last ∈ changes ∧
        blank.told changes = texts.map Occasion.data ++ [.failed last] := by
    intro isDone
    obtain ⟨texts, ⟨none, -⟩ | ⟨first, last, here, set, told⟩⟩ := fated.concluded isDone
    · have empty : outlet.waiting.map Segment.number = [] := List.head?_eq_none_iff.mp none
      rw [empty] at waits
      cases waits
    · exact ⟨texts, first, last, here, set, told⟩
  refine ⟨failed, waits, fun first => ?_, fun isDone => ?_⟩
  · cases going : outlet.finished with
    | true =>
        obtain ⟨texts, here, last, same, set, told⟩ := ends going
        rw [first] at same
        cases same
        exact ⟨texts, last, set, told⟩
    | false =>
        rcases settled with isDone | ⟨-, sound⟩
        · exact nomatch going.symm.trans isDone
        · obtain ⟨segment, rest, split⟩ : ∃ segment rest, outlet.waiting = segment :: rest := by
            cases split : outlet.waiting with
            | nil => rw [split] at waits; cases waits
            | cons segment rest => exact ⟨segment, rest, rfl⟩
          have same : segment.number = number := by
            rw [head?, split] at first
            exact Option.some.inj first
          have none := sound segment (by rw [split]; rfl)
          exact absurd none (fated.fails going number error failed segment
            (by rw [show outlet.bare.waiting = outlet.waiting from rfl, split]; simp) same)
  · obtain ⟨texts, -, last, -, -, told⟩ := ends isDone
    exact ⟨texts, last, told⟩

theorem mem_insertPassed {number other : Nat} {added numbers : List Nat}
    (member : other ∈ insertPassed number added numbers) : other ∈ added ∨ other ∈ numbers := by
  by_cases there : number ∈ numbers
  · exact List.mem_append.mp ((insertPassed_perm added there).mem_iff.mp member)
  · rw [insertPassed_of_notMem there] at member
    exact .inr member

theorem sound_of_leaving {segment : Segment} (leaves : segment ∈ outlet.leaving) :
    outlet.finished = false ∧ segment.error = none := by
  unfold leaving at leaves
  split at leaves
  · cases leaves
  · rename_i going
    have both := List.mem_takeWhile_imp leaves
    rw [Bool.and_eq_true] at both
    exact ⟨by simpa using going, Option.isNone_iff_eq_none.mp both.2⟩

/-- A segment that has failed while it waited never leaves. -/
theorem stays_after {more : List Change} (within : Change.AllWithin 1 (changes ++ more))
    {number : Nat} {error : RenderError} (failed : .fail number error ∈ changes)
    (stays : number ∉ (blank.after changes).passed) :
    number ∉ (blank.after (changes ++ more)).passed := by
  induction more using List.reverseRecOn with
  | nil => rwa [List.append_nil]
  | append_singleton rest change inductionHypothesis =>
      rw [← List.append_assoc] at within ⊢
      obtain ⟨restWithin, -⟩ := Change.allWithin_append.mp within
      have before := inductionHypothesis restWithin
      have failedEarlier : .fail number error ∈ changes ++ rest := List.mem_append_left _ failed
      have fated := blank_fated restWithin
      have bound : number < (blank.after (changes ++ rest)).nextNumber := by
        rw [nextNumber_after]
        exact restWithin.lt_sizeAfterAll failedEarlier number rfl
      rw [after_append]
      change number ∉ ((blank.after (changes ++ rest)).take change).passed
      generalize blank.after (changes ++ rest) = outlet at before fated bound ⊢
      cases change with
      | fork forked =>
          intro member
          rcases mem_insertPassed member with new | old
          · simp only [List.mem_cons, List.not_mem_nil, or_false] at new
            omega
          · exact before old
      | drain =>
          rw [outlet.drains.passed, List.mem_append]
          rintro (old | leaves)
          · exact before old
          · obtain ⟨segment, leaving, same⟩ := List.mem_map.mp leaves
            obtain ⟨going, sound⟩ := sound_of_leaving leaving
            exact fated.fails going number error failedEarlier segment
              (mem_waiting_of_leaving leaving) same sound
      | _ => exact before

/-- Where all segments have ended and no error was set, all has left. -/
theorem completes (within : Change.AllWithin 1 changes)
    (became : outlet.bare = blank.after changes) (settled : outlet.Settled)
    (ended : ∀ segment ∈ outlet.waiting, segment.ended = true)
    (sound : ∀ number error, .fail number error ∉ changes) :
    outlet.passed = outlet.numbers ∧
      ∃ texts : List String, blank.told changes = texts.map Occasion.data ++ [.finished] := by
  have fated := blank_fated within
  rw [← became] at fated
  have isDone : outlet.finished = true := by
    rcases settled with isDone | ⟨⟨segment, there, unended⟩, -⟩
    · exact isDone
    · exact nomatch (ended segment there).symm.trans unended
  obtain ⟨texts, ⟨none, told⟩ | ⟨number, error, -, failed, -⟩⟩ := fated.concluded isDone
  · have empty : outlet.waiting.map Segment.number = [] := List.head?_eq_none_iff.mp none
    exact ⟨by rw [numbers, empty, List.append_nil], texts, told⟩
  · exact absurd failed (sound number error)

/-! ## Texts in order -/

def Timely (changes : List Change) : Prop :=
  ∀ earlier change later, changes = earlier ++ change :: later → change.quiet = true →
    ∀ number ∈ change.number?, number ∉ (blank.after earlier).passed

theorem delivered_append (changes more : List Change) :
    outlet.delivered (changes ++ more) =
      outlet.delivered changes ++ (outlet.after changes).delivered more := by
  induction changes generalizing outlet with
  | nil => rfl
  | cons first rest inductionHypothesis =>
      rw [List.cons_append, delivered_cons, inductionHypothesis, delivered_cons first rest,
        List.append_assoc]
      rfl

theorem passed_changed (changed : change.number?.isSome = true)
    (timely : change.quiet = true → ∀ number ∈ change.number?, number ∉ outlet.passed) :
    (outlet.take change).passed = outlet.passed := by
  rw [(outlet.numbers_changed changed).1]
  cases change with
  | fork number => exact insertPassed_of_notMem (timely rfl number rfl)
  | _ => rfl

theorem textFor_timely {number : Nat} (there : number ∈ outlet.passed)
    (timely : change.quiet = true → ∀ number ∈ change.number?, number ∉ outlet.passed) :
    change.textFor number = "" := by
  cases change with
  | write other text =>
      exact if_neg fun (same : other = number) => timely rfl other rfl (same ▸ there)
  | _ => rfl

/-- What has left are the segments in order, each with all that was ever written to it. -/
theorem delivered_timely (within : Change.AllWithin 1 changes) (timely : Timely changes) :
    blank.delivered changes =
      (blank.after changes).passed.map fun number => (number, Change.written number changes) := by
  induction changes using List.reverseRecOn with
  | nil => rfl
  | append_singleton rest change inductionHypothesis =>
      obtain ⟨restWithin, -⟩ := Change.allWithin_append.mp within
      have before := inductionHypothesis restWithin fun earlier other later split =>
        timely earlier other (later ++ [change]) (by rw [split, List.append_assoc]; rfl)
      have now := timely rest change [] rfl
      have counted := counted_blank.after restWithin
      have spells := spells_blank.after counted_blank restWithin
      rw [List.nil_append] at spells
      rw [delivered_append, after_append, before]
      have old : ∀ number ∈ (blank.after rest).passed,
          Change.written number (rest ++ [change]) = Change.written number rest := by
        intro number there
        rw [Change.written_append_singleton, textFor_timely there now, String.append_empty]
      have first :
          (blank.after rest).passed.map (fun number => (number, Change.written number rest)) =
            (blank.after rest).passed.map
              fun number => (number, Change.written number (rest ++ [change])) :=
        List.map_congr_left fun number there => by rw [old number there]
      rw [first]
      change _ = ((blank.after rest).take change).passed.map _
      cases changed : change.number?.isSome with
      | true =>
          have silent : (blank.after rest).delivered [change] = [] := by
            cases change with
            | drain => cases changed
            | _ => rfl
          rw [silent, List.append_nil, passed_changed changed now]
      | false =>
          cases change with
          | drain =>
              rw [(blank.after rest).drains.passed, List.map_append]
              congr 1
              simp only [delivered, List.append_nil, List.map_map]
              refine List.map_congr_left fun segment leaves => ?_
              rw [spells.here segment (mem_waiting_of_leaving leaves)]
              simp [Change.written_append_singleton, Change.textFor]
          | _ => cases changed

theorem join_filter (texts : List String) :
    String.join (texts.filter fun text => !text.isEmpty) = String.join texts := by
  induction texts with
  | nil => rfl
  | cons text rest inductionHypothesis =>
      by_cases blank : text.isEmpty
      · have textNil : text = "" := by simpa using blank
        simp [textNil, inductionHypothesis]
      · simp [blank, inductionHypothesis]

/-- The texts that were told are, in order, what was written to the segments that have left. -/
theorem join_told (within : Change.AllWithin 1 changes) (timely : Timely changes) :
    String.join (pieces (blank.told changes)) =
      String.join ((blank.after changes).passed.map (Change.written · changes)) := by
  rw [pieces_told, delivered_timely within timely, List.map_map, join_filter]
  rfl

/-- The segments that there are keep their order. -/
theorem sublist_insertPassed (number : Nat) (added numbers : List Nat) :
    numbers.Sublist (insertPassed number added numbers) := by
  induction numbers with
  | nil => exact List.Sublist.refl _
  | cons first rest inductionHypothesis =>
      by_cases here : first = number
      · rw [insertPassed, if_pos here]
        exact (List.sublist_append_right added rest).cons_cons first
      · rw [insertPassed, if_neg here]
        exact inductionHypothesis.cons_cons first

theorem sublist_after (counted : outlet.Counted)
    (within : Change.AllWithin outlet.nextNumber changes) :
    outlet.numbers.Sublist (outlet.after changes).numbers := by
  induction changes generalizing outlet with
  | nil => exact List.Sublist.refl _
  | cons change rest inductionHypothesis =>
      have now : outlet.numbers.Sublist (outlet.take change).numbers := by
        rw [numbers_take counted.nodup]
        cases change with
        | fork number => exact sublist_insertPassed _ _ _
        | _ => exact List.Sublist.refl _
      refine now.trans (inductionHypothesis (counted.take within.1) ?_)
      rw [nextNumber_take]
      exact within.2

end Outlet

end BraceTemplate.Output
