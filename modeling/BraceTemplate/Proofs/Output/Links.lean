import Mathlib.Logic.Function.Basic
import BraceTemplate.Proofs.Output.Changes

/-!
# Segments as a linked list

The order of the segments of an outlet, told by links: every segment knows the one behind it, and a
fork sets three links. Whatever is done to the segments, following the links from the first one
visits every segment once and ends; so it does from the head, which is the first segment that has
not left. The head only moves along the links, and it is none only where everything is over.
-/

namespace BraceTemplate.Output

abbrev Links := Nat → Option Nat

namespace Links

def splice (links : Links) (number branch : Nat) : Links :=
  let following := Function.update links (branch + 1) (links number)
  Function.update (Function.update following branch (some (branch + 1))) number (some branch)

def Visits (links : Links) : Option Nat → List Nat → Prop
  | start, [] => start = none
  | start, number :: rest => start = some number ∧ links.Visits (links number) rest

def follow (links : Links) : Nat → Option Nat → Option Nat
  | 0, start => start
  | steps + 1, start => links.follow steps (start.bind links)

/-- Following the links from one start leads to another one, and from there to the end. -/
def Leads (links : Links) (first second : Option Nat) : Prop :=
  ∃ between rest, links.Visits first (between ++ rest) ∧ links.Visits second rest

variable {links : Links} {start : Option Nat} {number branch : Nat} {numbers : List Nat}

/-- Where a visit has come to, it goes on. -/
theorem Visits.behind {before behind : List Nat} (visits : links.Visits start (before ++ behind)) :
    links.Visits behind.head? behind := by
  induction before generalizing start with
  | nil =>
      cases behind with
      | nil => rfl
      | cons number rest => exact ⟨rfl, visits.2⟩
  | cons number rest inductionHypothesis => exact inductionHypothesis visits.2

/-- There are as many links as segments. -/
theorem Visits.ends (visits : links.Visits start numbers) :
    links.follow numbers.length start = none := by
  induction numbers generalizing start with
  | nil => exact visits
  | cons number rest inductionHypothesis =>
      obtain ⟨rfl, others⟩ := visits
      exact inductionHypothesis others

theorem splice_of_ne {other : Nat} (old : other < branch) (different : other ≠ number) :
    links.splice number branch other = links other := by
  have notBranch : other ≠ branch := Nat.ne_of_lt old
  have notNext : other ≠ branch + 1 := Nat.ne_of_lt (Nat.lt_succ_of_lt old)
  simp [splice, different, notBranch, notNext]

theorem Visits.splice_of_notMem (visits : links.Visits start numbers) (absent : number ∉ numbers)
    (old : ∀ other ∈ numbers, other < branch) :
    (links.splice number branch).Visits start numbers := by
  induction numbers generalizing start with
  | nil => exact visits
  | cons first rest inductionHypothesis =>
      simp only [List.mem_cons, not_or] at absent
      refine ⟨visits.1, ?_⟩
      rw [splice_of_ne (old first List.mem_cons_self) (Ne.symm absent.1)]
      exact inductionHypothesis visits.2 absent.2 fun other member =>
        old other (List.mem_cons_of_mem _ member)

/-- A splice puts the two new segments behind the one, wherever it is visited. -/
theorem Visits.splice (visits : links.Visits start numbers) (once : numbers.Nodup)
    (old : ∀ other ∈ numbers, other < branch) (given : number < branch) :
    (links.splice number branch).Visits start
      (Outlet.insertPassed number [branch, branch + 1] numbers) := by
  induction numbers generalizing start with
  | nil => exact visits
  | cons first rest inductionHypothesis =>
      obtain ⟨elsewhere, restOnce⟩ := List.nodup_cons.mp once
      have restOld : ∀ other ∈ rest, other < branch := fun other member =>
        old other (List.mem_cons_of_mem _ member)
      by_cases here : first = number
      · subst here
        have notBranch : first ≠ branch := Nat.ne_of_lt given
        have notNext : first ≠ branch + 1 := Nat.ne_of_lt (Nat.lt_succ_of_lt given)
        have toBranch : links.splice first branch first = some branch := by
          simp [Links.splice]
        have toNext : links.splice first branch branch = some (branch + 1) := by
          simp [Links.splice, Ne.symm notBranch]
        have toRest : links.splice first branch (branch + 1) = links first := by
          simp [Links.splice, Ne.symm notNext]
        simp only [Outlet.insertPassed, if_true]
        refine ⟨visits.1, toBranch, toNext, ?_⟩
        rw [toRest]
        exact visits.2.splice_of_notMem elsewhere restOld
      · simp only [Outlet.insertPassed, here, if_false]
        refine ⟨visits.1, ?_⟩
        rw [splice_of_ne (old first List.mem_cons_self) here]
        exact inductionHypothesis visits.2 restOnce restOld

end Links

/-- The links of the segments of an outlet, and how many there are. -/
structure Arena where
  links : Links
  size : Nat

namespace Arena

/-- The only segment of a new outlet leads nowhere. -/
def blank : Arena := ⟨fun _ => none, 1⟩

/-- The links after a change: a fork splices two segments in. -/
def take (arena : Arena) : Change → Arena
  | .fork number => ⟨arena.links.splice number arena.size, arena.size + 2⟩
  | _ => arena

/-- The links after one change after the other. -/
def after (arena : Arena) (changes : List Change) : Arena :=
  changes.foldl take arena

theorem size_take (arena : Arena) (change : Change) :
    (arena.take change).size = change.sizeAfter arena.size := by
  cases change <;> rfl

variable {arena : Arena} {start : Option Nat} {numbers : List Nat}

/-- A change does to a visit what it does to the order of the segments. -/
theorem visits_take (visits : arena.links.Visits start numbers) (once : numbers.Nodup)
    (old : ∀ number ∈ numbers, number < arena.size) {change : Change}
    (within : ∀ number ∈ change.number?, number < arena.size) :
    (arena.take change).links.Visits start (change.numbersAfter arena.size numbers) := by
  cases change with
  | fork number => exact visits.splice once old (within number rfl)
  | _ => exact visits

end Arena

namespace Outlet

variable {Continuation Listener : Type} {outlet : Outlet Continuation Listener} {arena : Arena}

/-- The links tell the order of the segments, from the first one that ever was. -/
structure Linked (arena : Arena) (outlet : Outlet Continuation Listener) : Prop where
  counted : outlet.Counted
  size : arena.size = outlet.nextNumber
  visits : arena.links.Visits (some 0) outlet.numbers

theorem linked_blank : blank.Linked .blank :=
  ⟨counted_blank, rfl, rfl, rfl⟩

theorem Linked.take (linked : outlet.Linked arena) {change : Change}
    (within : ∀ number ∈ change.number?, number < outlet.nextNumber) :
    (outlet.take change).Linked (arena.take change) := by
  refine ⟨linked.counted.take within, ?_, ?_⟩
  · rw [Arena.size_take, nextNumber_take, linked.size]
  · rw [numbers_take linked.counted.nodup, ← linked.size]
    refine Arena.visits_take linked.visits linked.counted.nodup (fun other member => ?_) ?_
    · rw [linked.size]
      exact (linked.counted.mem other).mp member
    · rw [linked.size]
      exact within

theorem Linked.after (linked : outlet.Linked arena) {changes : List Change}
    (within : Change.AllWithin outlet.nextNumber changes) :
    (outlet.after changes).Linked (arena.after changes) := by
  induction changes generalizing outlet arena with
  | nil => exact linked
  | cons change rest inductionHypothesis =>
      refine inductionHypothesis (linked.take within.1) ?_
      rw [nextNumber_take]
      exact within.2

/-- Following the links from a start leads to the head. -/
structure OnTheWay (arena : Arena) (start : Option Nat) (outlet : Outlet Continuation Listener) :
    Prop where
  linked : outlet.Linked arena
  leads : ∃ before between, outlet.passed = before ++ between ∧
    arena.links.Visits start (between ++ outlet.waiting.map Segment.number)

theorem Linked.onTheWay (linked : outlet.Linked arena) : outlet.OnTheWay arena outlet.head? :=
  ⟨linked, outlet.passed, [], (List.append_nil _).symm, linked.visits.behind⟩

theorem OnTheWay.take {start : Option Nat} (onTheWay : outlet.OnTheWay arena start)
    {change : Change} (within : ∀ number ∈ change.number?, number < outlet.nextNumber) :
    (outlet.take change).OnTheWay (arena.take change) start := by
  refine ⟨onTheWay.linked.take within, ?_⟩
  obtain ⟨⟨counted, size, -⟩, before, between, passed, visits⟩ := onTheWay
  cases changes : change.number?.isSome with
  | true =>
      have once := counted.nodup
      rw [numbers, passed, List.append_assoc] at once
      obtain ⟨-, visitedOnce, -⟩ := List.nodup_append.mp once
      have passedOnce : (before ++ between).Nodup := by
        rw [← List.append_assoc] at once
        exact (List.nodup_append.mp once).1
      have old : ∀ number ∈ between ++ outlet.waiting.map Segment.number, number < arena.size := by
        intro number member
        rw [size, ← counted.mem, numbers, passed, List.append_assoc]
        exact List.mem_append_right _ member
      obtain ⟨passedLater, waitingLater⟩ := outlet.numbers_changed changes
      refine ⟨change.numbersAfter arena.size before, change.numbersAfter arena.size between, ?_, ?_⟩
      · rw [passedLater, passed, numbersAfter_append passedOnce, size]
      · rw [waitingLater, ← size, ← numbersAfter_append visitedOnce]
        exact Arena.visits_take visits visitedOnce old (by rwa [size])
  | false =>
      cases change with
      | drain =>
          refine ⟨before, between ++ outlet.leaving.map Segment.number, ?_, ?_⟩
          · rw [outlet.drains.passed, passed, List.append_assoc]
          · rw [List.append_assoc, ← outlet.drains.waiting]
            exact visits
      | _ => cases changes

theorem OnTheWay.after {start : Option Nat} (onTheWay : outlet.OnTheWay arena start)
    {changes : List Change} (within : Change.AllWithin outlet.nextNumber changes) :
    (outlet.after changes).OnTheWay (arena.after changes) start := by
  induction changes generalizing outlet arena with
  | nil => exact onTheWay
  | cons change rest inductionHypothesis =>
      refine inductionHypothesis (onTheWay.take within.1) ?_
      rw [nextNumber_take]
      exact within.2

theorem OnTheWay.leads_head {start : Option Nat} (onTheWay : outlet.OnTheWay arena start) :
    arena.links.Leads start outlet.head? := by
  obtain ⟨-, before, between, -, visits⟩ := onTheWay
  exact ⟨between, _, visits, visits.behind⟩

def Halts (outlet : Outlet Continuation Listener) : Prop :=
  outlet.waiting = [] → outlet.finished = true

theorem halts_blank : blank.Halts :=
  fun empty => absurd empty (List.cons_ne_nil _ _)

/-- A change to a segment leaves no waiting list empty that was not. -/
theorem waiting_of_changed {change : Change} (changes : change.number?.isSome = true)
    (empty : (outlet.take change).waiting = []) : outlet.waiting = [] := by
  have numbers := (outlet.numbers_changed changes).2
  rw [empty, List.map_nil] at numbers
  have none : outlet.waiting.map Segment.number = [] := by
    refine List.eq_nil_iff_forall_not_mem.mpr fun number member => List.not_mem_nil (a := number) ?_
    rw [numbers]
    cases change with
    | fork forked => exact subset_insertPassed forked _ _ member
    | _ => exact member
  exact List.map_eq_nil_iff.mp none

theorem Halts.take (halts : outlet.Halts) (change : Change) : (outlet.take change).Halts := by
  intro empty
  cases changes : change.number?.isSome with
  | true =>
      have isDone := halts (waiting_of_changed changes empty)
      cases change with
      | drain => cases changes
      | _ => exact isDone
  | false =>
      cases change with
      | drain =>
          rcases outlet.drains.isDone empty with ⟨-, isDone⟩ | isDone
          · rwa [Outlet.take, drain_finished isDone]
          · exact isDone
      | _ => cases changes

theorem Halts.after (halts : outlet.Halts) (changes : List Change) :
    (outlet.after changes).Halts := by
  induction changes generalizing outlet with
  | nil => exact halts
  | cons change rest inductionHypothesis => exact inductionHypothesis (halts.take change)

/-- The links at some moment lead through every segment once and end, and so does what is left of
the way from the head; without a head everything is over. -/
structure Strung (links : Links) (outlet : Outlet Continuation Listener) : Prop where
  order : links.Visits (some 0) outlet.numbers
  every : outlet.numbers.Perm (List.range outlet.nextNumber)
  head : links.Visits outlet.head? (outlet.waiting.map Segment.number)
  ends : ∃ steps ≤ outlet.nextNumber, links.follow steps outlet.head? = none
  isDone : outlet.head? = none → outlet.finished = true

theorem Linked.strung (linked : outlet.Linked arena) (halts : outlet.Halts) :
    outlet.Strung arena.links := by
  have head := linked.visits.behind
  refine ⟨linked.visits, linked.counted.perm_range, head, ⟨_, ?_, head.ends⟩, fun none => ?_⟩
  · calc
      (outlet.waiting.map Segment.number).length ≤ outlet.numbers.length := by simp [numbers]
      _ = outlet.nextNumber := by rw [linked.counted.perm_range.length_eq, List.length_range]
  · exact halts (List.map_eq_nil_iff.mp (List.head?_eq_none_iff.mp none))

/-- What holds in the course of some changes to a new outlet: at every moment the segments are
strung on their links, the head only moves along them, what a drain delivers is what was written to
the segments that leave, and no segment leaves twice. -/
structure Chained (changes : List Change) : Prop where
  strung : ∀ earlier later, changes = earlier ++ later →
    (blank.after earlier).Strung (Arena.blank.after earlier).links
  forward : ∀ earlier between later, changes = earlier ++ (between ++ later) →
    (Arena.blank.after (earlier ++ between)).links.Leads (blank.after earlier).head?
      (blank.after (earlier ++ between)).head?
  pieces : ∀ earlier later, changes = earlier ++ .drain :: later →
    (blank.after earlier).drain.1 =
      (((blank.after earlier).leaving.map Segment.number).map (Change.written · earlier)).filter
        fun text => !text.isEmpty
  told : Outlet.pieces (blank.told changes) =
    ((blank.delivered changes).map Prod.snd).filter fun text => !text.isEmpty
  once : ((blank.delivered changes).map Prod.fst).Nodup

/-- Whatever is done to segments that there are. -/
theorem chained_of_allWithin {changes : List Change} (within : Change.AllWithin 1 changes) :
    Chained changes := by
  have linked : ∀ earlier later, changes = earlier ++ later →
      (blank.after earlier).Linked (Arena.blank.after earlier) := by
    rintro earlier later rfl
    exact linked_blank.after (Change.allWithin_append.mp within).1
  refine ⟨fun earlier later split => ?_, fun earlier between later split => ?_,
    fun earlier later split => ?_, pieces_told blank changes,
    (counted_blank.delivered_once within).1⟩
  · exact (linked earlier later split).strung (halts_blank.after earlier)
  · subst split
    have rest := (Change.allWithin_append.mp (Change.allWithin_append.mp within).2).1
    rw [Arena.after, List.foldl_append, after_append]
    refine ((linked earlier _ rfl).onTheWay.after ?_).leads_head
    rw [nextNumber_after]
    exact rest
  · subst split
    exact (spells_blank.after counted_blank (Change.allWithin_append.mp within).1).pieces

end Outlet

end BraceTemplate.Output
