import BraceTemplate.Proofs.Output.Awaited
import BraceTemplate.Proofs.Output.Collecting

/-!
# What is done to the segments of an outlet

An outlet without where it delivers to, and what can be done to it: writing to a segment, ending it,
failing it, forking at it, whether or not it has left, and letting leave what can. No segment leaves
twice, and it leaves with what was written to it until then.
-/

namespace BraceTemplate.Output

/-- What is done to the segments of an outlet. -/
inductive Change where
  | write (number : Nat) (text : String)
  | finish (number : Nat)
  | fail (number : Nat) (error : RenderError)
  | fork (number : Nat)
  | drain

namespace Change

def number? : Change → Option Nat
  | write number _ => some number
  | finish number => some number
  | fail number _ => some number
  | fork number => some number
  | drain => none

def quiet : Change → Bool
  | write _ _ => true
  | fork _ => true
  | _ => false

def sizeAfter (size : Nat) : Change → Nat
  | fork _ => size + 2
  | _ => size

/-- The numbers in order after a change to an outlet with a number of segments: a fork puts two new
ones behind one. -/
def numbersAfter (size : Nat) (numbers : List Nat) : Change → List Nat
  | fork number => Outlet.insertPassed number [size, size + 1] numbers
  | _ => numbers

def textFor (number : Nat) : Change → String
  | write other text => if other = number then text else ""
  | _ => ""

/-- Every change is to a segment that there is by then, in an outlet that has a number of them at
first. -/
def AllWithin (size : Nat) : List Change → Prop
  | [] => True
  | change :: rest => (∀ number ∈ change.number?, number < size) ∧
      AllWithin (change.sizeAfter size) rest

/-- What is written to a segment by some changes. -/
def written (number : Nat) (changes : List Change) : String :=
  String.join (changes.map (textFor number))

def sizeAfterAll (size : Nat) (changes : List Change) : Nat :=
  changes.foldl sizeAfter size

variable {size : Nat} {changes more : List Change}

theorem allWithin_append :
    AllWithin size (changes ++ more) ↔
      AllWithin size changes ∧ AllWithin (sizeAfterAll size changes) more := by
  induction changes generalizing size with
  | nil => simp [AllWithin, sizeAfterAll]
  | cons change rest inductionHypothesis =>
      simp only [List.cons_append, AllWithin, inductionHypothesis, and_assoc]
      rfl

theorem allWithin_singleton {change : Change} :
    AllWithin size [change] ↔ ∀ number ∈ change.number?, number < size := by
  simp [AllWithin]

theorem written_append_singleton (number : Nat) (changes : List Change) (change : Change) :
    written number (changes ++ [change]) = written number changes ++ change.textFor number := by
  rw [written, List.map_append, String.join_append]
  simp [written, String.join]

theorem size_le_sizeAfter (size : Nat) (change : Change) : size ≤ change.sizeAfter size := by
  cases change <;> simp [sizeAfter]

theorem size_le_sizeAfterAll (size : Nat) (changes : List Change) :
    size ≤ sizeAfterAll size changes := by
  induction changes generalizing size with
  | nil => exact Nat.le_refl size
  | cons change rest inductionHypothesis =>
      exact Nat.le_trans (size_le_sizeAfter size change) (inductionHypothesis _)

/-- Nothing is written to segments that are not there. -/
theorem textFor_beyond {change : Change} (within : ∀ number ∈ change.number?, number < size)
    {number : Nat} (beyond : size ≤ number) : change.textFor number = "" := by
  cases change with
  | write other text =>
      have different : other ≠ number := Nat.ne_of_lt (Nat.lt_of_lt_of_le (within other rfl) beyond)
      exact if_neg different
  | _ => rfl

end Change

namespace Outlet

variable {Continuation Listener : Type}

/-- The outlet after a change to its segments. -/
def take (outlet : Outlet Continuation Listener) : Change → Outlet Continuation Listener
  | .write number text => outlet.change number fun segment => segment.written text
  | .finish number => outlet.change number Segment.closed
  | .fail number error => outlet.change number fun segment => { segment with error := some error }
  | .fork number => outlet.fork number
  | .drain => outlet.drain.2.2

/-- The outlet after one change after the other. -/
def after (outlet : Outlet Continuation Listener) (changes : List Change) :
    Outlet Continuation Listener :=
  changes.foldl take outlet

/-- The numbers of all segments in order, those that have left first. -/
def numbers (outlet : Outlet Continuation Listener) : List Nat :=
  outlet.passed ++ outlet.waiting.map Segment.number

/-- The first segment that has not left. -/
def head? (outlet : Outlet Continuation Listener) : Option Nat :=
  (outlet.waiting.map Segment.number).head?

def leaving (outlet : Outlet Continuation Listener) : List Segment :=
  if outlet.finished then []
  else outlet.waiting.takeWhile fun segment => segment.ended && segment.error.isNone

def delivered (outlet : Outlet Continuation Listener) : List Change → List (Nat × String)
  | [] => []
  | .drain :: rest => outlet.leaving.map (fun segment => (segment.number, segment.text)) ++
      delivered (outlet.take .drain) rest
  | change :: rest => delivered (outlet.take change) rest

def told (outlet : Outlet Continuation Listener) : List Change → List Occasion
  | [] => []
  | .drain :: rest => outlet.drain.1.map Occasion.data ++ outlet.drain.2.1.occasions ++
      told (outlet.take .drain) rest
  | change :: rest => told (outlet.take change) rest

/-- The outlet seen apart from where it delivers to, and from whether it does. -/
def bare (outlet : Outlet Continuation Listener) : Outlet Unit Unit :=
  ⟨outlet.passed, outlet.waiting, outlet.nextNumber, outlet.finished, false, false,
    .collect "" none none⟩

/-- An outlet with its first segment and nothing else. -/
def blank : Outlet Unit Unit :=
  Outlet.opened (.collect "" none none)

variable {outlet : Outlet Continuation Listener} {size : Nat}

@[simp]
theorem after_cons (change : Change) (rest : List Change) :
    outlet.after (change :: rest) = (outlet.take change).after rest :=
  rfl

theorem after_append (changes more : List Change) :
    outlet.after (changes ++ more) = (outlet.after changes).after more :=
  List.foldl_append

/-- What leaves does not depend on where the outlet delivers to. -/
theorem drain_bare (outlet : Outlet Continuation Listener) :
    outlet.bare.drain = (outlet.drain.1, outlet.drain.2.1, outlet.drain.2.2.bare) := by
  cases isDone : outlet.finished with
  | true =>
      have bareOver : outlet.bare.finished = true := isDone
      rw [drain_finished isDone, drain_finished bareOver]
  | false =>
      have bareGoes : outlet.bare.finished = false := isDone
      rw [drain_eq isDone, drain_eq bareGoes]
      rfl

theorem bare_take (change : Change) : (outlet.take change).bare = outlet.bare.take change := by
  cases change with
  | drain => exact (congrArg (fun found => found.2.2) (drain_bare outlet)).symm
  | _ => rfl

theorem told_append (changes more : List Change) :
    outlet.told (changes ++ more) = outlet.told changes ++ (outlet.after changes).told more := by
  induction changes generalizing outlet with
  | nil => rfl
  | cons change rest inductionHypothesis =>
      have later := @inductionHypothesis (outlet.take change)
      cases change <;> simp [told, later]

/-- Where the outlet delivers to stays as it is. -/
theorem sink_take (outlet : Outlet Continuation Listener) (change : Change) :
    (outlet.take change).sink = outlet.sink ∧
      (outlet.take change).flushing = outlet.flushing ∧
        (outlet.take change).again = outlet.again := by
  cases change with
  | drain => exact outlet.sink_drain
  | _ => exact ⟨rfl, rfl, rfl⟩

/-! ## Numbers -/

theorem nextNumber_take (change : Change) :
    (outlet.take change).nextNumber = change.sizeAfter outlet.nextNumber := by
  cases change with
  | drain =>
      simp only [take, drain]
      split <;> rfl
  | _ => rfl

theorem nextNumber_after (changes : List Change) :
    (outlet.after changes).nextNumber = Change.sizeAfterAll outlet.nextNumber changes := by
  induction changes generalizing outlet with
  | nil => rfl
  | cons change rest inductionHypothesis =>
      rw [after_cons, inductionHypothesis, nextNumber_take]
      rfl

/-- Every number is that of one segment. -/
structure Counted (outlet : Outlet Continuation Listener) : Prop where
  nodup : outlet.numbers.Nodup
  mem : ∀ number, number ∈ outlet.numbers ↔ number < outlet.nextNumber

theorem counted_blank : blank.Counted :=
  ⟨by simp [numbers, blank, opened], by simp [numbers, blank, opened, Segment.fresh]⟩

theorem insertPassed_of_notMem {number : Nat} {added others : List Nat} (absent : number ∉ others) :
    insertPassed number added others = others := by
  induction others with
  | nil => rfl
  | cons other rest inductionHypothesis =>
      simp only [List.mem_cons, not_or] at absent
      rw [insertPassed, if_neg (Ne.symm absent.1), inductionHypothesis absent.2]

theorem insertPassed_split {number : Nat} {added before behind : List Nat}
    (first : number ∉ before) :
    insertPassed number added (before ++ number :: behind) =
      before ++ number :: (added ++ behind) := by
  induction before with
  | nil => simp [insertPassed]
  | cons other rest inductionHypothesis =>
      simp only [List.mem_cons, not_or] at first
      simp only [List.cons_append, insertPassed, if_neg (Ne.symm first.1),
        inductionHypothesis first.2]

/-- Numbers are put behind a number where it stands, in the first part or in the second one. -/
theorem insertPassed_append {number : Nat} {added first second : List Nat}
    (once : (first ++ second).Nodup) :
    insertPassed number added (first ++ second) =
      insertPassed number added first ++ insertPassed number added second := by
  induction first with
  | nil => rfl
  | cons other rest inductionHypothesis =>
      rw [List.cons_append] at once ⊢
      obtain ⟨elsewhere, rest⟩ := List.nodup_cons.mp once
      by_cases here : other = number
      · subst here
        have absent : other ∉ second := fun member =>
          elsewhere (List.mem_append_right _ member)
        simp [insertPassed, insertPassed_of_notMem absent]
      · simp [insertPassed, here, inductionHypothesis rest]

theorem numbers_insertBehind (number : Nat) (added segments : List Segment) :
    (insertBehind number added segments).map Segment.number =
      insertPassed number (added.map Segment.number) (segments.map Segment.number) := by
  induction segments with
  | nil => rfl
  | cons segment rest inductionHypothesis =>
      by_cases here : segment.number = number
      · simp [insertBehind, insertPassed, here]
      · simp [insertBehind, insertPassed, here, inductionHypothesis]

/-- A change to a segment does to those that have left, and to those that wait, what it does to all.
-/
theorem numbers_changed (outlet : Outlet Continuation Listener) {change : Change}
    (changes : change.number?.isSome = true) :
    (outlet.take change).passed = change.numbersAfter outlet.nextNumber outlet.passed ∧
      (outlet.take change).waiting.map Segment.number =
        change.numbersAfter outlet.nextNumber (outlet.waiting.map Segment.number) := by
  cases change with
  | write number text => exact ⟨rfl, Segment.numbers_changeSegment fun _ => rfl⟩
  | finish number => exact ⟨rfl, Segment.numbers_changeSegment fun _ => rfl⟩
  | fail number error => exact ⟨rfl, Segment.numbers_changeSegment fun _ => rfl⟩
  | fork number => exact ⟨rfl, numbers_insertBehind number _ _⟩
  | drain => cases changes

theorem numbersAfter_append {first second : List Nat} (once : (first ++ second).Nodup) (size : Nat)
    (change : Change) :
    change.numbersAfter size (first ++ second) =
      change.numbersAfter size first ++ change.numbersAfter size second := by
  cases change with
  | fork number => exact insertPassed_append once
  | _ => rfl

/-! ## Leaving -/

/-- A drain delivers the texts of the segments that leave, except the empty ones; the others stay,
unless one of them has failed in front of the others. -/
structure Drains (outlet : Outlet Continuation Listener) : Prop where
  pieces : outlet.drain.1 = (outlet.leaving.map Segment.text).filter fun text => !text.isEmpty
  passed : (outlet.take .drain).passed = outlet.passed ++ outlet.leaving.map Segment.number
  waiting : outlet.waiting.map Segment.number =
    outlet.leaving.map Segment.number ++ (outlet.take .drain).waiting.map Segment.number
  texts : ∀ segment ∈ (outlet.take .drain).waiting, ∃ before ∈ outlet.waiting,
    before.number = segment.number ∧ before.text = segment.text
  isDone : (outlet.take .drain).waiting = [] → outlet.waiting = [] ∧ outlet.finished = true ∨
    (outlet.take .drain).finished = true

/-- A round of leaving takes the ended segments that have not failed off the front. -/
theorem drainWaiting_takes (segments : List Segment) :
    let gone := segments.takeWhile fun segment => segment.ended && segment.error.isNone
    (drainWaiting segments).pieces = (gone.map Segment.text).filter (fun text => !text.isEmpty) ∧
      (drainWaiting segments).passed = gone.map Segment.number ∧
      segments.map Segment.number =
        gone.map Segment.number ++ (drainWaiting segments).waiting.map Segment.number ∧
      (∀ segment ∈ (drainWaiting segments).waiting, ∃ before ∈ segments,
        before.number = segment.number ∧ before.text = segment.text) ∧
      ((drainWaiting segments).waiting = [] → (drainWaiting segments).outcome = .finished) := by
  induction segments with
  | nil => simp [drainWaiting]
  | cons segment rest inductionHypothesis =>
      obtain ⟨pieces, passed, waiting, texts, isDone⟩ := inductionHypothesis
      cases failed : segment.error with
      | some error =>
          have texts : ∀ other ∈ rest, segment.number = other.number ∧ segment.text = other.text ∨
              ∃ before ∈ rest, before.number = other.number ∧ before.text = other.text :=
            fun other member => .inr ⟨other, member, rfl, rfl⟩
          simpa [drainWaiting, failed] using texts
      | none =>
          cases ended : segment.ended with
          | false =>
              have texts : ∀ other ∈ rest,
                  segment.number = other.number ∧ segment.text = other.text ∨
                    ∃ before ∈ rest, before.number = other.number ∧ before.text = other.text :=
                fun other member => .inr ⟨other, member, rfl, rfl⟩
              simpa [drainWaiting, failed, ended] using texts
          | true =>
              simp only [drainWaiting, failed, ended, if_true, Option.isNone_none, Bool.and_self,
                List.takeWhile_cons_of_pos, List.map_cons, List.cons_append, pieces, passed,
                ← waiting, true_and, List.mem_cons, exists_eq_or_imp]
              refine ⟨?_, fun other member => .inr (texts other member), isDone⟩
              by_cases blank : segment.text.isEmpty <;> simp [blank]

theorem drains (outlet : Outlet Continuation Listener) : outlet.Drains := by
  cases isDone : outlet.finished with
  | true =>
      have none : outlet.leaving = [] := by rw [leaving, isDone]; rfl
      have still : outlet.take .drain = outlet := by rw [take, drain_finished isDone]
      refine ⟨by rw [drain_finished isDone, none]; rfl, by rw [still, none]; simp,
        by rw [still, none]; rfl, by rw [still]; exact fun segment member => ⟨_, member, rfl, rfl⟩,
        fun empty => .inl ⟨by rwa [still] at empty, isDone⟩⟩
  | false =>
      obtain ⟨pieces, passed, waiting, texts, finished⟩ := drainWaiting_takes outlet.waiting
      have leaves : outlet.leaving =
          outlet.waiting.takeWhile fun segment => segment.ended && segment.error.isNone := by
        rw [leaving, isDone]
        rfl
      rw [← leaves] at pieces passed waiting
      have drained : outlet.take .drain = { outlet with
          passed := outlet.passed ++ (drainWaiting outlet.waiting).passed
          waiting := (drainWaiting outlet.waiting).waiting
          finished := (drainWaiting outlet.waiting).outcome.isOver } := by
        rw [take, drain_eq isDone]
      refine ⟨by rw [drain_eq isDone]; exact pieces, by rw [drained]; exact congrArg _ passed,
        by rw [drained]; exact waiting, by rw [drained]; exact texts, fun empty => .inr ?_⟩
      rw [drained] at empty ⊢
      rw [finished empty]
      rfl

theorem numbers_drain (outlet : Outlet Continuation Listener) :
    (outlet.take .drain).numbers = outlet.numbers := by
  rw [numbers, numbers, outlet.drains.passed, outlet.drains.waiting, List.append_assoc]

theorem numbers_take (once : outlet.numbers.Nodup) (change : Change) :
    (outlet.take change).numbers = change.numbersAfter outlet.nextNumber outlet.numbers := by
  cases changes : change.number?.isSome with
  | true =>
      obtain ⟨passed, waiting⟩ := outlet.numbers_changed changes
      rw [numbers, passed, waiting, numbers, numbersAfter_append once]
  | false =>
      cases change with
      | drain => exact numbers_drain outlet
      | _ => cases changes

theorem insertPassed_perm {number : Nat} {numbers : List Nat} (added : List Nat)
    (member : number ∈ numbers) :
    (insertPassed number added numbers).Perm (added ++ numbers) := by
  obtain ⟨before, behind, rfl, first⟩ := List.eq_append_cons_of_mem member
  rw [insertPassed_split first]
  calc
    before ++ number :: (added ++ behind) = (before ++ [number]) ++ (added ++ behind) := by simp
    _ |>.Perm (added ++ ((before ++ [number]) ++ behind)) := List.perm_append_comm_assoc _ _ _
    _ = added ++ (before ++ number :: behind) := by simp

theorem subset_insertPassed (number : Nat) (added numbers : List Nat) :
    numbers ⊆ insertPassed number added numbers := by
  intro other member
  by_cases present : number ∈ numbers
  · exact (insertPassed_perm added present).mem_iff.mpr (List.mem_append_right _ member)
  · rwa [insertPassed_of_notMem present]

section Counting

variable {change : Change}

/-- Every number stays that of one segment. -/
theorem Counted.take (counted : outlet.Counted)
    (within : ∀ number ∈ change.number?, number < outlet.nextNumber) :
    (outlet.take change).Counted := by
  have sameNumbers := numbers_take counted.nodup change
  have sameNext : (outlet.take change).nextNumber = change.sizeAfter outlet.nextNumber :=
    nextNumber_take change
  cases change with
  | fork number =>
      have member : number ∈ outlet.numbers := (counted.mem number).mpr (within number rfl)
      have reordered := insertPassed_perm [outlet.nextNumber, outlet.nextNumber + 1] member
      refine ⟨?_, fun other => ?_⟩
      · rw [sameNumbers]
        refine reordered.nodup_iff.mpr (List.nodup_append.mpr ⟨by simp, counted.nodup, ?_⟩)
        intro new added old member
        have bound := (counted.mem old).mp member
        simp only [List.mem_cons, List.not_mem_nil, or_false] at added
        omega
      · rw [sameNumbers, sameNext]
        have oldOrNew := reordered.mem_iff (a := other)
        simp only [Change.numbersAfter, Change.sizeAfter, oldOrNew, List.mem_append, counted.mem,
          List.mem_cons, List.not_mem_nil, or_false]
        omega
  | _ => exact ⟨by rw [sameNumbers]; exact counted.nodup, fun other => by
      rw [sameNumbers, sameNext]
      exact counted.mem other⟩

theorem Counted.after (counted : outlet.Counted) {changes : List Change}
    (within : Change.AllWithin outlet.nextNumber changes) : (outlet.after changes).Counted := by
  induction changes generalizing outlet with
  | nil => exact counted
  | cons change rest inductionHypothesis =>
      refine inductionHypothesis (counted.take within.1) ?_
      rw [nextNumber_take]
      exact within.2

theorem Counted.perm_range (counted : outlet.Counted) :
    outlet.numbers.Perm (List.range outlet.nextNumber) :=
  (List.perm_ext_iff_of_nodup counted.nodup List.nodup_range).mpr fun number => by
    rw [counted.mem, List.mem_range]

theorem passed_subset_take (outlet : Outlet Continuation Listener) (change : Change) :
    outlet.passed ⊆ (outlet.take change).passed := by
  cases change with
  | fork number => exact subset_insertPassed number _ _
  | drain =>
      rw [outlet.drains.passed]
      exact List.subset_append_left _ _
  | _ => exact fun _ member => member

/-- What leaves has not left before. -/
theorem Counted.leaving_notMem (counted : outlet.Counted) :
    (outlet.leaving.map Segment.number).Nodup ∧
      ∀ number ∈ outlet.leaving.map Segment.number, number ∉ outlet.passed := by
  have once := counted.nodup
  rw [numbers, outlet.drains.waiting, List.nodup_append] at once
  obtain ⟨-, waitingOnce, apart⟩ := once
  refine ⟨(List.nodup_append.mp waitingOnce).1, fun number leaves left => ?_⟩
  exact apart number left number (List.mem_append_left _ leaves) rfl

theorem delivered_cons (change : Change) (rest : List Change) :
    outlet.delivered (change :: rest) =
      outlet.delivered [change] ++ (outlet.take change).delivered rest := by
  cases change <;> simp [delivered]

theorem mem_delivered_take {entry : Nat × String} (member : entry ∈ outlet.delivered [change]) :
    change = .drain ∧ ∃ segment ∈ outlet.leaving, entry = (segment.number, segment.text) := by
  cases change with
  | drain =>
      simp only [delivered, List.append_nil, List.mem_map] at member
      obtain ⟨segment, leaves, rfl⟩ := member
      exact ⟨rfl, segment, leaves, rfl⟩
  | _ => cases member

/-- No segment leaves that has left before, and none leaves twice. -/
theorem Counted.delivered_once (counted : outlet.Counted) {changes : List Change}
    (within : Change.AllWithin outlet.nextNumber changes) :
    ((outlet.delivered changes).map Prod.fst).Nodup ∧
      ∀ entry ∈ outlet.delivered changes, entry.1 ∉ outlet.passed := by
  induction changes generalizing outlet with
  | nil => exact ⟨List.nodup_nil, fun _ member => absurd member List.not_mem_nil⟩
  | cons change rest inductionHypothesis =>
      obtain ⟨leavesOnce, notLeft⟩ := counted.leaving_notMem
      obtain ⟨laterOnce, laterNotLeft⟩ := inductionHypothesis (counted.take within.1) (by
        rw [nextNumber_take]
        exact within.2)
      have still := passed_subset_take outlet change
      rw [delivered_cons]
      constructor
      · rw [List.map_append, List.nodup_append]
        refine ⟨?_, laterOnce, ?_⟩
        · cases change with
          | drain => simpa [delivered, Function.comp_def] using leavesOnce
          | _ => exact List.nodup_nil
        · intro number now other later same
          obtain ⟨entry, member, rfl⟩ := List.mem_map.mp now
          obtain ⟨otherEntry, otherMember, rfl⟩ := List.mem_map.mp later
          obtain ⟨rfl, segment, leaves, rfl⟩ := mem_delivered_take member
          refine laterNotLeft otherEntry otherMember ?_
          rw [← same, outlet.drains.passed]
          exact List.mem_append_right _ (List.mem_map_of_mem leaves)
      · intro entry member
        rcases List.mem_append.mp member with now | later
        · obtain ⟨-, segment, leaves, rfl⟩ := mem_delivered_take now
          exact notLeft _ (List.mem_map_of_mem leaves)
        · exact fun left => laterNotLeft entry later (still left)

end Counting

/-! ## Texts -/

/-- The texts that occasions tell. -/
def pieces (occasions : List Occasion) : List String :=
  occasions.filterMap fun
    | .data piece => some piece
    | _ => none

theorem pieces_told (outlet : Outlet Continuation Listener) (changes : List Change) :
    pieces (outlet.told changes) =
      ((outlet.delivered changes).map Prod.snd).filter fun text => !text.isEmpty := by
  induction changes generalizing outlet with
  | nil => rfl
  | cons change rest inductionHypothesis =>
      cases change with
      | drain =>
          have now : ∀ texts outcome, pieces (List.map Occasion.data texts ++
              Outcome.occasions outcome) = texts := by
            intro texts outcome
            cases outcome <;> simp [pieces, Outcome.occasions, List.filterMap_map]
          rw [told, pieces, List.filterMap_append]
          rw [← pieces, ← pieces, now, inductionHypothesis, outlet.drains.pieces, delivered,
            List.map_append, List.filter_append, List.map_map]
          rfl
      | _ => exact inductionHypothesis _

/-- Where numbers are told apart, changing the segment with a number is changing every one. -/
theorem changeSegment_eq_map {number : Nat} {change : Segment → Segment} {segments : List Segment}
    (once : (segments.map Segment.number).Nodup) :
    changeSegment number change segments =
      segments.map fun segment => if segment.number = number then change segment else segment := by
  induction segments with
  | nil => rfl
  | cons segment rest inductionHypothesis =>
      rw [List.map_cons, List.nodup_cons] at once
      by_cases here : segment.number = number
      · have others : ∀ other ∈ rest, other.number ≠ number := fun other member same =>
          once.1 (here ▸ same ▸ List.mem_map_of_mem member)
        simp only [changeSegment, here, if_true, List.map_cons, List.cons.injEq, true_and]
        exact (List.map_id'' (fun other => rfl) rest).symm.trans
          (List.map_congr_left fun other member => (if_neg (others other member)).symm)
      · simp [changeSegment, here, inductionHypothesis once.2]

theorem mem_insertBehind {number : Nat} {added segments : List Segment} {segment : Segment}
    (member : segment ∈ insertBehind number added segments) :
    segment ∈ added ∨ ∃ before ∈ segments, before.number = segment.number ∧
      before.text = segment.text ∧ before.error = segment.error := by
  induction segments with
  | nil => cases member
  | cons first rest inductionHypothesis =>
      by_cases here : first.number = number
      · rw [insertBehind, if_pos here] at member
        rcases List.mem_cons.mp member with rfl | others
        · exact .inr ⟨first, List.mem_cons_self, rfl, rfl, rfl⟩
        rcases List.mem_append.mp others with new | old
        · exact .inl new
        · exact .inr ⟨segment, List.mem_cons_of_mem _ old, rfl, rfl, rfl⟩
      · simp only [insertBehind, here, if_false, List.mem_cons] at member
        rcases member with rfl | later
        · exact .inr ⟨segment, List.mem_cons_self, rfl, rfl, rfl⟩
        · refine (inductionHypothesis later).imp_right ?_
          rintro ⟨before, old, same⟩
          exact ⟨before, List.mem_cons_of_mem _ old, same⟩

/-- Every segment that waits has the text that changes have written to it, and nothing was written
to segments that are not there. -/
structure Spells (changes : List Change) (outlet : Outlet Continuation Listener) : Prop where
  here : ∀ segment ∈ outlet.waiting, segment.text = Change.written segment.number changes
  beyond : ∀ number, outlet.nextNumber ≤ number → Change.written number changes = ""

/-- After a change a segment has the text of one that was there, followed by what was written to it,
or it is new. -/
theorem exists_before_take (counted : outlet.Counted) {change : Change} {segment : Segment}
    (member : segment ∈ (outlet.take change).waiting) :
    (∃ before ∈ outlet.waiting, before.number = segment.number ∧
        segment.text = before.text ++ change.textFor segment.number) ∨
      outlet.nextNumber ≤ segment.number ∧ segment.text = "" := by
  have once : (outlet.waiting.map Segment.number).Nodup := (List.nodup_append.mp counted.nodup).2.1
  cases change with
  | write number text =>
      simp only [Outlet.take, Outlet.change, changeSegment_eq_map once, List.mem_map] at member
      obtain ⟨before, old, rfl⟩ := member
      refine .inl ⟨before, old, ?_⟩
      by_cases here : before.number = number
      · simp [here, Segment.written, Change.textFor]
      · simp [here, Change.textFor, Ne.symm here]
  | finish number =>
      simp only [Outlet.take, Outlet.change, changeSegment_eq_map once, List.mem_map] at member
      obtain ⟨before, old, rfl⟩ := member
      refine .inl ⟨before, old, ?_⟩
      by_cases here : before.number = number <;> simp [here, Segment.closed, Change.textFor]
  | fail number error =>
      simp only [Outlet.take, Outlet.change, changeSegment_eq_map once, List.mem_map] at member
      obtain ⟨before, old, rfl⟩ := member
      refine .inl ⟨before, old, ?_⟩
      by_cases here : before.number = number <;> simp [here, Change.textFor]
  | fork number =>
      rcases mem_insertBehind member with new | ⟨before, old, sameNumber, sameText, -⟩
      · refine .inr ?_
        simp only [List.mem_cons, List.not_mem_nil, or_false] at new
        rcases new with rfl | rfl <;> simp [Segment.fresh]
      · exact .inl ⟨before, old, sameNumber, by simp [Change.textFor, sameText]⟩
  | drain =>
      obtain ⟨before, old, sameNumber, sameText⟩ := outlet.drains.texts segment member
      exact .inl ⟨before, old, sameNumber, by simp [Change.textFor, sameText]⟩

theorem Spells.take {changes : List Change} (spells : outlet.Spells changes)
    (counted : outlet.Counted) {change : Change}
    (within : ∀ number ∈ change.number?, number < outlet.nextNumber) :
    (outlet.take change).Spells (changes ++ [change]) := by
  constructor
  · intro segment member
    rw [Change.written_append_singleton]
    rcases exists_before_take counted member with ⟨before, old, sameNumber, text⟩ | ⟨new, text⟩
    · rw [text, spells.here before old, sameNumber]
    · rw [text, spells.beyond _ new, Change.textFor_beyond within new]
      rfl
  · intro number beyond
    rw [nextNumber_take] at beyond
    have before := Nat.le_trans (Change.size_le_sizeAfter outlet.nextNumber change) beyond
    rw [Change.written_append_singleton, spells.beyond number before,
      Change.textFor_beyond within before]
    rfl

theorem Spells.after {changes more : List Change} (spells : outlet.Spells changes)
    (counted : outlet.Counted) (within : Change.AllWithin outlet.nextNumber more) :
    (outlet.after more).Spells (changes ++ more) := by
  induction more generalizing outlet changes with
  | nil => rwa [List.append_nil]
  | cons change rest inductionHypothesis =>
      have later := inductionHypothesis (spells.take counted within.1) (counted.take within.1) (by
        rw [nextNumber_take]
        exact within.2)
      rwa [List.append_assoc] at later

theorem spells_blank : blank.Spells [] :=
  ⟨by simp [blank, opened, Segment.fresh, Change.written, String.join], fun _ _ => rfl⟩

theorem mem_waiting_of_leaving {segment : Segment} (leaves : segment ∈ outlet.leaving) :
    segment ∈ outlet.waiting := by
  unfold leaving at leaves
  split at leaves
  · cases leaves
  · exact List.takeWhile_subset _ leaves

/-- What a drain delivers is what was written to the segments that leave, except to those that
nothing was written to. -/
theorem Spells.pieces {changes : List Change} (spells : outlet.Spells changes) :
    outlet.drain.1 = ((outlet.leaving.map Segment.number).map
      (Change.written · changes)).filter fun text => !text.isEmpty := by
  rw [outlet.drains.pieces, List.map_map]
  congr 1
  exact List.map_congr_left fun segment leaves =>
    spells.here segment (mem_waiting_of_leaving leaves)

end Outlet

end BraceTemplate.Output
