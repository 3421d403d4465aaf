import BraceTemplate.Proofs.Output.Fates

/-!
# Outlets that nothing is written to

What becomes of an outlet that is forked, ended, failed and drained, while nothing is written to it:
its segments keep their order and their texts, those that are added are empty, and what it has
gathered and what waits spell the same text as before. Where it does not fork, no segment is added.
-/

namespace BraceTemplate.Output

def Change.writes : Change → Bool
  | write _ _ => true
  | _ => false

/-- The segment without its text. -/
def Segment.textless (segment : Segment) : Segment :=
  { segment with text := "" }

@[simp]
theorem Segment.textless_textless (segment : Segment) :
    segment.textless.textless = segment.textless :=
  rfl

/-- The text that a sink has gathered; a stream gathers none. -/
def Sink.text? {Continuation Listener : Type} : Sink Continuation Listener → Option String
  | .collect text _ _ => some text
  | .stream _ => none

namespace Outlet

variable {Continuation Listener : Type}

def spelled? (outlet : Outlet Continuation Listener) : Option String :=
  outlet.sink.text?.map (· ++ String.join (outlet.waiting.map Segment.text))

/-- An outlet of which nothing has come that it was not before: its segments are there in their
order, and only a fork has added some. -/
structure Extended (before later : Outlet Continuation Listener) : Prop where
  grown : before.nextNumber ≤ later.nextNumber
  ordered : before.numbers.Sublist later.numbers
  unforked : later.nextNumber = before.nextNumber → later.numbers = before.numbers

/-- An outlet that nothing was written to meanwhile. -/
structure Unwritten (before later : Outlet Continuation Listener) : Prop where
  texts : ∀ segment ∈ later.waiting,
    (segment.text = "" ∧ before.nextNumber ≤ segment.number) ∨
      ∃ old ∈ before.waiting, old.number = segment.number ∧ old.text = segment.text
  spelled : later.spelled? = before.spelled?

/-- The outlet without the texts of its segments and of what it has gathered. -/
def textless (outlet : Outlet Continuation Listener) : Outlet Continuation Listener :=
  { outlet with
    waiting := outlet.waiting.map Segment.textless
    sink := match outlet.sink with
      | .collect _ _ _ => .collect "" none none
      | .stream listeners => .stream listeners }

variable {outlet : Outlet Continuation Listener} {change : Change} {changes : List Change}

theorem extended_refl (outlet : Outlet Continuation Listener) : outlet.Extended outlet :=
  ⟨Nat.le_refl _, .refl _, fun _ => rfl⟩

theorem sublist_take (outlet : Outlet Continuation Listener) (change : Change) :
    outlet.numbers.Sublist (outlet.take change).numbers := by
  cases changing : change.number?.isSome with
  | false =>
      cases change with
      | drain => rw [numbers_drain]
      | _ => cases changing
  | true =>
      obtain ⟨passed, waiting⟩ := outlet.numbers_changed changing
      have after : ∀ numbers : List Nat,
          numbers.Sublist (change.numbersAfter outlet.nextNumber numbers) := by
        intro numbers
        cases change with
        | fork number => exact sublist_insertPassed _ _ _
        | _ => exact .refl _
      rw [numbers, numbers, passed, waiting]
      exact (after _).append (after _)

theorem numbers_take_of_unforked
    (unforked : (outlet.take change).nextNumber = outlet.nextNumber) :
    (outlet.take change).numbers = outlet.numbers := by
  rw [nextNumber_take] at unforked
  cases changing : change.number?.isSome with
  | false =>
      cases change with
      | drain => exact numbers_drain outlet
      | _ => cases changing
  | true =>
      obtain ⟨passed, waiting⟩ := outlet.numbers_changed changing
      have still : ∀ numbers : List Nat,
          change.numbersAfter outlet.nextNumber numbers = numbers := by
        intro numbers
        cases change with
        | fork number => exact absurd unforked (by simp [Change.sizeAfter])
        | _ => rfl
      rw [numbers, passed, waiting, still, still, numbers]

theorem Extended.take {before : Outlet Continuation Listener} (extended : before.Extended outlet)
    (change : Change) : before.Extended (outlet.take change) := by
  have grows : outlet.nextNumber ≤ (outlet.take change).nextNumber :=
    nextNumber_take change ▸ change.size_le_sizeAfter _
  have already := extended.grown
  refine ⟨by omega, extended.ordered.trans (outlet.sublist_take change), fun unforked => ?_⟩
  rw [numbers_take_of_unforked (by omega), extended.unforked (by omega)]

theorem unwritten_refl (outlet : Outlet Continuation Listener) : outlet.Unwritten outlet :=
  ⟨fun segment member => .inr ⟨segment, member, rfl, rfl⟩, rfl⟩

theorem texts_changeSegment {number : Nat} {change : Segment → Segment} {segments : List Segment}
    (same : ∀ segment, (change segment).text = segment.text) :
    (changeSegment number change segments).map Segment.text = segments.map Segment.text := by
  induction segments with
  | nil => rfl
  | cons segment rest inductionHypothesis =>
      unfold changeSegment
      split
      · rw [List.map_cons, List.map_cons, same]
      · rw [List.map_cons, List.map_cons, inductionHypothesis]

theorem join_insertBehind {number : Nat} {added segments : List Segment}
    (empty : ∀ segment ∈ added, segment.text = "") :
    String.join ((insertBehind number added segments).map Segment.text) =
      String.join (segments.map Segment.text) := by
  have nothing : String.join (added.map Segment.text) = "" := by
    induction added with
    | nil => rfl
    | cons segment rest inductionHypothesis =>
        rw [List.map_cons, String.join_cons, empty segment List.mem_cons_self, String.empty_append]
        exact inductionHypothesis fun other member => empty other (List.mem_cons_of_mem _ member)
  induction segments with
  | nil => rfl
  | cons segment rest inductionHypothesis =>
      unfold insertBehind
      split
      · rw [List.map_cons, List.map_append, String.join_cons, String.join_append, nothing,
          String.empty_append, List.map_cons, String.join_cons]
      · rw [List.map_cons, String.join_cons, inductionHypothesis, List.map_cons, String.join_cons]

theorem join_drainWaiting (segments : List Segment) :
    String.join (drainWaiting segments).pieces ++
        String.join ((drainWaiting segments).waiting.map Segment.text) =
      String.join (segments.map Segment.text) := by
  induction segments with
  | nil => rfl
  | cons segment rest inductionHypothesis =>
      unfold drainWaiting
      split
      · rfl
      · split
        · rw [List.map_cons, String.join_cons, ← inductionHypothesis]
          by_cases blank : segment.text.isEmpty
          · have textNil : segment.text = "" := by simpa using blank
            simp [textNil]
          · simp [blank, String.join_cons, String.append_assoc]
        · rfl

theorem mem_changeSegment {number : Nat} {change : Segment → Segment} {segments : List Segment}
    {segment : Segment} (member : segment ∈ changeSegment number change segments) :
    segment ∈ segments ∨ ∃ old ∈ segments, segment = change old := by
  induction segments with
  | nil => cases member
  | cons first rest inductionHypothesis =>
      unfold changeSegment at member
      split at member
      · rcases List.mem_cons.mp member with rfl | later
        · exact .inr ⟨first, List.mem_cons_self, rfl⟩
        · exact .inl (List.mem_cons_of_mem _ later)
      · rcases List.mem_cons.mp member with rfl | later
        · exact .inl List.mem_cons_self
        · rcases inductionHypothesis later with old | ⟨old, there, same⟩
          · exact .inl (List.mem_cons_of_mem _ old)
          · exact .inr ⟨old, List.mem_cons_of_mem _ there, same⟩

/-- Where nothing is written, every segment has been there before with its text, or is new and
empty. -/
theorem mem_take_of_unwritten (unwritten : change.writes = false) {segment : Segment}
    (member : segment ∈ (outlet.take change).waiting) :
    (segment.text = "" ∧ outlet.nextNumber ≤ segment.number) ∨
      ∃ old ∈ outlet.waiting, old.number = segment.number ∧ old.text = segment.text := by
  have changed : ∀ (number : Nat) (change : Segment → Segment),
      (∀ segment, (change segment).number = segment.number ∧ (change segment).text = segment.text) →
      segment ∈ changeSegment number change outlet.waiting →
        ∃ old ∈ outlet.waiting, old.number = segment.number ∧ old.text = segment.text := by
    intro number change same there
    rcases mem_changeSegment there with old | ⟨old, here, rfl⟩
    · exact ⟨segment, old, rfl, rfl⟩
    · exact ⟨old, here, (same old).1.symm, (same old).2.symm⟩
  cases change with
  | write number text => cases unwritten
  | finish number => exact .inr (changed number Segment.closed (fun _ => ⟨rfl, rfl⟩) member)
  | fail number error =>
      exact .inr (changed number (fun segment => { segment with error := some error })
        (fun _ => ⟨rfl, rfl⟩) member)
  | fork number =>
      rcases mem_insertBehind member with new | ⟨old, there, sameNumber, sameText, -⟩
      · left
        rcases List.mem_cons.mp new with rfl | new
        · exact ⟨rfl, Nat.le_refl _⟩
        · rw [List.mem_singleton.mp new]
          exact ⟨rfl, Nat.le_succ _⟩
      · exact .inr ⟨old, there, sameNumber, sameText⟩
  | drain => exact .inr (outlet.drains.texts segment member)

theorem Unwritten.texts_take {before : Outlet Continuation Listener}
    (unwritten : before.Unwritten outlet) (grown : before.nextNumber ≤ outlet.nextNumber)
    (writes : change.writes = false) :
    ∀ segment ∈ (outlet.take change).waiting,
      (segment.text = "" ∧ before.nextNumber ≤ segment.number) ∨
        ∃ old ∈ before.waiting, old.number = segment.number ∧ old.text = segment.text := by
  intro segment member
  rcases mem_take_of_unwritten writes member with ⟨empty, new⟩ | ⟨old, there, number, text⟩
  · exact .inl ⟨empty, Nat.le_trans grown new⟩
  · rcases unwritten.texts old there with ⟨empty, new⟩ | ⟨first, here, sameNumber, sameText⟩
    · exact .inl ⟨text ▸ empty, number ▸ new⟩
    · exact .inr ⟨first, here, sameNumber.trans number, sameText.trans text⟩

/-- A change that only marks segments, or adds some, leaves what is spelled. -/
theorem spelled_take (writes : change.writes = false) (stays : change ≠ .drain) :
    (outlet.take change).spelled? = outlet.spelled? := by
  have sink : (outlet.take change).sink = outlet.sink := (sink_take outlet change).1
  have texts : String.join ((outlet.take change).waiting.map Segment.text) =
      String.join (outlet.waiting.map Segment.text) := by
    cases change with
    | write number text => cases writes
    | finish number => exact congrArg String.join (texts_changeSegment fun _ => rfl)
    | fail number error => exact congrArg String.join (texts_changeSegment fun _ => rfl)
    | fork number =>
        refine join_insertBehind fun segment member => ?_
        rcases List.mem_cons.mp member with rfl | member
        · rfl
        · rw [List.mem_singleton.mp member]
          rfl
    | drain => exact absurd rfl stays
  rw [spelled?, sink, texts, spelled?]

theorem Unwritten.take {before : Outlet Continuation Listener} (unwritten : before.Unwritten outlet)
    (grown : before.nextNumber ≤ outlet.nextNumber) (writes : change.writes = false)
    (stays : change ≠ .drain) : before.Unwritten (outlet.take change) :=
  ⟨unwritten.texts_take grown writes, (spelled_take writes stays).trans unwritten.spelled⟩

theorem textless_changeSegment {number : Nat} {change : Segment → Segment} {segments : List Segment}
    (same : ∀ segment : Segment, (change segment.textless).textless = (change segment).textless) :
    (changeSegment number change (segments.map Segment.textless)).map Segment.textless =
      (changeSegment number change segments).map Segment.textless := by
  induction segments with
  | nil => rfl
  | cons segment rest inductionHypothesis =>
      by_cases here : segment.number = number
      · have hereAlso : segment.textless.number = number := here
        simp [changeSegment, here, hereAlso, same]
      · have elsewhere : segment.textless.number ≠ number := here
        simp [changeSegment, here, elsewhere, inductionHypothesis]

theorem textless_insertBehind (number : Nat) (added segments : List Segment) :
    (insertBehind number added (segments.map Segment.textless)).map Segment.textless =
      (insertBehind number added segments).map Segment.textless := by
  induction segments with
  | nil => rfl
  | cons segment rest inductionHypothesis =>
      by_cases here : segment.number = number
      · have hereAlso : segment.textless.number = number := here
        rw [List.map_cons, insertBehind, if_pos hereAlso, insertBehind, if_pos here]
        simp only [List.map_cons, List.map_append, List.map_map, Function.comp_def,
          Segment.textless_textless]
        rfl
      · have elsewhere : segment.textless.number ≠ number := here
        simp [insertBehind, here, elsewhere, inductionHypothesis]

theorem textless_drainWaiting (segments : List Segment) :
    (drainWaiting (segments.map Segment.textless)).outcome = (drainWaiting segments).outcome ∧
      (drainWaiting (segments.map Segment.textless)).passed = (drainWaiting segments).passed ∧
      (drainWaiting (segments.map Segment.textless)).waiting.map Segment.textless =
        (drainWaiting segments).waiting.map Segment.textless := by
  induction segments with
  | nil => exact ⟨rfl, rfl, rfl⟩
  | cons segment rest inductionHypothesis =>
      obtain ⟨outcome, passed, waiting⟩ := inductionHypothesis
      have sameError : segment.textless.error = segment.error := rfl
      have sameEnded : segment.textless.ended = segment.ended := rfl
      cases failed : segment.error with
      | some error => simp [drainWaiting, sameError, failed]; rfl
      | none =>
          cases ended : segment.ended with
          | true => simp [drainWaiting, sameError, sameEnded, failed, ended, outcome, passed,
              waiting]; rfl
          | false => simp [drainWaiting, sameError, sameEnded, failed, ended]

theorem textless_drain (outlet : Outlet Continuation Listener) :
    outlet.textless.drain.2.1 = outlet.drain.2.1 ∧
      outlet.textless.drain.2.2.textless = outlet.drain.2.2.textless := by
  have sinks : outlet.textless.textless.sink = outlet.textless.sink := by
    simp only [textless]
    cases outlet.sink <;> rfl
  cases isDone : outlet.finished with
  | true =>
      have alsoDone : outlet.textless.finished = true := isDone
      rw [drain_finished isDone, drain_finished alsoDone]
      refine ⟨rfl, ?_⟩
      simp only [textless, List.map_map, Function.comp_def, Segment.textless_textless] at sinks ⊢
      rw [sinks]
  | false =>
      have alsoGoing : outlet.textless.finished = false := isDone
      obtain ⟨outcome, passed, waiting⟩ := textless_drainWaiting outlet.waiting
      have sameWaiting : outlet.textless.waiting = outlet.waiting.map Segment.textless := rfl
      rw [drain_eq isDone, drain_eq alsoGoing, sameWaiting]
      refine ⟨outcome, ?_⟩
      simp only [textless, outcome, passed, waiting] at sinks ⊢
      rw [sinks]

/-- What is done to an outlet does not depend on texts. -/
theorem textless_take (outlet : Outlet Continuation Listener) (change : Change) :
    (outlet.textless.take change).textless = (outlet.take change).textless := by
  have sinks : outlet.textless.textless.sink = outlet.textless.sink := by
    simp only [textless]
    cases outlet.sink <;> rfl
  have changing : ∀ (number : Nat) (change : Segment → Segment),
      (∀ segment : Segment, (change segment.textless).textless = (change segment).textless) →
        (outlet.textless.change number change).textless =
          (outlet.change number change).textless := by
    intro number change same
    have waiting :
        (changeSegment number change (outlet.waiting.map Segment.textless)).map Segment.textless =
          (changeSegment number change outlet.waiting).map Segment.textless :=
      textless_changeSegment same
    simp only [textless, Outlet.change] at sinks waiting ⊢
    rw [sinks, waiting]
  cases change with
  | write number text => exact changing number _ fun _ => rfl
  | finish number => exact changing number _ fun _ => rfl
  | fail number error => exact changing number _ fun _ => rfl
  | fork number =>
      have waiting := textless_insertBehind number
        [Segment.fresh outlet.nextNumber, Segment.fresh (outlet.nextNumber + 1)] outlet.waiting
      simp only [textless, Outlet.take, Outlet.fork] at sinks waiting ⊢
      rw [sinks, waiting]
  | drain => exact (textless_drain outlet).2

theorem textless_congr {other : Outlet Continuation Listener}
    (alike : other.textless = outlet.textless) (change : Change) :
    (other.take change).textless = (outlet.take change).textless := by
  rw [← textless_take, alike, textless_take]

/-- What is written is only texts. -/
theorem textless_write (outlet : Outlet Continuation Listener) (number : Nat) (text : String) :
    (outlet.take (.write number text)).textless = outlet.textless := by
  have waiting : ∀ segments : List Segment,
      (changeSegment number (fun segment => segment.written text) segments).map Segment.textless =
        segments.map Segment.textless := by
    intro segments
    induction segments with
    | nil => rfl
    | cons segment rest inductionHypothesis =>
        unfold changeSegment
        split
        · rfl
        · rw [List.map_cons, inductionHypothesis, List.map_cons]
  simp only [textless, Outlet.take, Outlet.change, waiting]

end Outlet

end BraceTemplate.Output
