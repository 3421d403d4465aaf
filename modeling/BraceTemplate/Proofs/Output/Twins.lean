import Mathlib.Algebra.Ring.Nat
import Mathlib.Data.List.Perm.Basic
import BraceTemplate.Proofs.Output.Collecting
import BraceTemplate.Proofs.Output.Operations
import BraceTemplate.Proofs.Output.Promises

/-!
# The same operations on a collecting outlet and on a stream

Two stores that differ in their main outlet alone: in one it gathers a text and reports a result, in
the other it is a stream. Every operation takes them to such stores again, so that what the stream
has told determines what has been reported.
-/

namespace BraceTemplate.Output

open Desk

def Outcome.gathered (outcome : Outcome) (text : String) : Sink Pending Unit :=
  match outcome.result? text with
  | none => .collect text none (some .answer)
  | some result => .collect "" (some result) none

/-- A stream with a listener for every occasion. -/
def listened : Sink Pending Unit := .stream ⟨[()], [()], [()]⟩

def Outlet.Captures (outlet : Outlet Pending Unit) : Prop :=
  ∃ text result onResult, outlet.sink = .collect text result onResult ∧ onResult ≠ some .answer

/-- Stores that differ only in the main outlet: what one has told, the other has gathered. -/
structure Twins (pieces : List String) (outcome : Outcome)
    (gathering streaming : Store Pending Unit Desk) : Prop where
  pots : gathering.pots = streaming.pots
  handles : gathering.client.handles = streaming.client.handles
  captured : gathering.client.captured = streaming.client.captured
  size : gathering.outlets.size = streaming.outlets.size
  others : ∀ id, id ≠ 0 → gathering.outlets[id]? = streaming.outlets[id]?
  capture : ∀ id outlet, id ≠ 0 → gathering.outlets[id]? = some outlet → outlet.Captures
  main : ∃ outlet : Outlet Pending Unit,
    gathering.outlets[0]? = some { outlet with sink := outcome.gathered (String.join pieces) } ∧
      streaming.outlets[0]? = some { outlet with sink := listened } ∧
      outlet.finished = outcome.isOver
  answers : gathering.client.answers = (outcome.result? (String.join pieces)).toList
  occasions : streaming.client.occasions = pieces.map Occasion.data ++ outcome.occasions
  nonempty : ∀ piece ∈ pieces, piece ≠ ""

def Outlet.owed (outlet : Outlet Pending Unit) : Nat :=
  match outlet.sink with
  | .collect _ _ onResult =>
    match onResult with
    | some (.capture _ _ following _) => capturesIn following + 1
    | _ => 0
  | .stream _ => 0

def Store.owed (store : Store Pending Unit Desk) : Nat :=
  (store.outlets.toList.map Outlet.owed).sum

/-- Two runs that yield the same from stores that are twins, and lead to twins. The captures that
are to come, and those that one of the runs makes, are within a bound. -/
def Agree {Result : Type} (budget rest : Nat) (first second : Work Result) : Prop :=
  ∀ gathering streaming, (∃ pieces outcome, Twins pieces outcome gathering streaming) →
    gathering.owed ≤ budget →
      ∃ result gathering' streaming',
        first gathering = some (result, gathering') ∧
          second streaming = some (result, streaming') ∧
          (∃ pieces outcome, Twins pieces outcome gathering' streaming') ∧
          gathering'.owed ≤ rest

namespace Agree

variable {Result Next : Type} {budget middle rest : Nat} {first second : Work Result}

theorem pure (result : Result) : Agree budget budget (Pure.pure result) (Pure.pure result) :=
  fun gathering streaming twins owed => ⟨result, gathering, streaming, rfl, rfl, twins, owed⟩

theorem bind {next later : Result → Work Next} (agree : Agree budget middle first second)
    (agreeNext : ∀ result, Agree middle rest (next result) (later result)) :
    Agree budget rest (first >>= next) (second >>= later) := by
  intro gathering streaming twins owed
  obtain ⟨result, gathering', streaming', ranFirst, ranSecond, twins', owed'⟩ :=
    agree gathering streaming twins owed
  obtain ⟨final, gathering'', streaming'', ranNext, ranLater, twins'', owed''⟩ :=
    agreeNext result gathering' streaming' twins' owed'
  refine ⟨final, gathering'', streaming'', ?_, ?_, twins'', owed''⟩
  · rw [run_bind, ranFirst, Option.bind_some, ranNext]
  · rw [run_bind, ranSecond, Option.bind_some, ranLater]

theorem discard (agree : Agree budget rest first second) :
    Agree budget rest (Functor.discard first) (Functor.discard second) := by
  intro gathering streaming twins owed
  obtain ⟨result, gathering', streaming', ranFirst, ranSecond, twins', owed'⟩ :=
    agree gathering streaming twins owed
  refine ⟨PUnit.unit, gathering', streaming', ?_, ?_, twins', owed'⟩
  · rw [run_discard, ranFirst]
    rfl
  · rw [run_discard, ranSecond]
    rfl

theorem mono {lower higher : Nat} (agree : Agree budget rest first second) (less : lower ≤ budget)
    (more : rest ≤ higher) : Agree lower higher first second := by
  intro gathering streaming twins owed
  obtain ⟨result, gathering', streaming', ranFirst, ranSecond, twins', owed'⟩ :=
    agree gathering streaming twins (Nat.le_trans owed less)
  exact ⟨result, gathering', streaming', ranFirst, ranSecond, twins', Nat.le_trans owed' more⟩

end Agree

section Stores

variable {store : Store Pending Unit Desk} {id : OutletId} {outlet : Outlet Pending Unit}
variable {gathering streaming : Store Pending Unit Desk} {pieces : List String} {outcome : Outcome}
variable {budget : Nat}

theorem Store.owed_put (there : store.outlets[id]? = some outlet) (later : Outlet Pending Unit) :
    (store.put id later).owed + outlet.owed = store.owed + later.owed := by
  obtain ⟨bound, same⟩ := Array.getElem?_eq_some_iff.mp there
  have inList : id < store.outlets.toList.length := by simpa using bound
  have removed := (List.getElem_cons_eraseIdx_perm inList).map Outlet.owed
  have replaced := (List.set_perm_cons_eraseIdx inList later).map Outlet.owed
  have here : store.outlets.toList[id] = outlet := by simpa using same
  have sumBefore := removed.sum_nat
  have sumAfter := replaced.sum_nat
  rw [here] at sumBefore
  simp only [List.map_cons, List.sum_cons] at sumBefore sumAfter
  simp only [owed, Store.put, Array.toList_setIfInBounds]
  omega

theorem Store.owed_put_same (there : store.outlets[id]? = some outlet)
    {later : Outlet Pending Unit} (same : later.sink = outlet.sink) :
    (store.put id later).owed = store.owed := by
  have sums := owed_put there later
  have sameOwed : later.owed = outlet.owed := by
    unfold Outlet.owed
    rw [same]
  omega

theorem Store.owed_push (outlet : Outlet Pending Unit) :
    ({ store with outlets := store.outlets.push outlet } : Store _ _ _).owed =
      store.owed + outlet.owed := by
  simp [Store.owed]

namespace Twins

theorem put_other (twins : Twins pieces outcome gathering streaming) (different : id ≠ 0)
    {later : Outlet Pending Unit} (captures : later.Captures) :
    Twins pieces outcome (gathering.put id later) (streaming.put id later) := by
  have main : ∀ store : Store Pending Unit Desk,
      (store.put id later).outlets[0]? = store.outlets[0]? := fun store =>
    Store.put_outlets_of_ne store later different
  refine { twins with size := ?_, others := ?_, capture := ?_, main := ?_ }
  · simp [twins.size]
  · intro other notMain
    by_cases same : id = other
    · subst same
      simp [Store.put, twins.size, Array.getElem?_setIfInBounds]
    · rw [Store.put_outlets_of_ne _ _ same, Store.put_outlets_of_ne _ _ same,
        twins.others other notMain]
  · intro other outlet notMain there
    by_cases same : id = other
    · subst same
      obtain ⟨-, rfl⟩ : id < gathering.outlets.size ∧ later = outlet := by
        simpa [Store.put, Array.getElem?_setIfInBounds] using there
      exact captures
    · rw [Store.put_outlets_of_ne _ _ same] at there
      exact twins.capture other outlet notMain there
  · rw [main, main]
    exact twins.main

/-- The main outlets may change together, and with them what has come of them. -/
theorem put_main (twins : Twins pieces outcome gathering streaming) {laterPieces : List String}
    {laterOutcome : Outcome} {outlet : Outlet Pending Unit} {gatheringDesk streamingDesk : Desk}
    (finished : outlet.finished = laterOutcome.isOver)
    (handles : gatheringDesk.handles = streamingDesk.handles)
    (captured : gatheringDesk.captured = streamingDesk.captured)
    (answers : gatheringDesk.answers = (laterOutcome.result? (String.join laterPieces)).toList)
    (occasions : streamingDesk.occasions =
      laterPieces.map Occasion.data ++ laterOutcome.occasions)
    (nonempty : ∀ piece ∈ laterPieces, piece ≠ "") :
    Twins laterPieces laterOutcome
      { gathering.put 0 { outlet with sink := laterOutcome.gathered (String.join laterPieces) } with
        client := gatheringDesk }
      { streaming.put 0 { outlet with sink := listened } with client := streamingDesk } := by
  obtain ⟨before, gatheringMain, streamingMain, -⟩ := twins.main
  refine ⟨twins.pots, handles, captured, ?_, ?_, ?_, ⟨outlet, ?_, ?_, finished⟩, answers,
    occasions, nonempty⟩
  · simp [twins.size]
  · intro id different
    simp only
    rw [Store.put_outlets_of_ne _ _ different.symm, Store.put_outlets_of_ne _ _ different.symm,
      twins.others id different]
  · intro id other different there
    simp only at there
    rw [Store.put_outlets_of_ne _ _ different.symm] at there
    exact twins.capture id other different there
  · exact Store.put_outlets_self _ _ (Store.lt_size_of_outlet gatheringMain)
  · exact Store.put_outlets_self _ _ (Store.lt_size_of_outlet streamingMain)

/-- A new outlet for a capture is the same in both stores. -/
theorem push (twins : Twins pieces outcome gathering streaming) (captures : outlet.Captures) :
    Twins pieces outcome { gathering with outlets := gathering.outlets.push outlet }
      { streaming with outlets := streaming.outlets.push outlet } := by
  obtain ⟨main, gatheringMain, streamingMain, finished⟩ := twins.main
  have notFirst : 0 ≠ gathering.outlets.size :=
    Nat.ne_of_lt (Store.lt_size_of_outlet gatheringMain)
  have alsoNotFirst : 0 ≠ streaming.outlets.size :=
    Nat.ne_of_lt (Store.lt_size_of_outlet streamingMain)
  refine { twins with size := ?_, others := ?_, capture := ?_, main := ⟨main, ?_, ?_, finished⟩ }
  · simp [twins.size]
  · intro id different
    simp only [Array.getElem?_push, twins.size, twins.others id different]
  · intro id other different there
    simp only [Array.getElem?_push] at there
    split at there
    · cases there
      exact captures
    · exact twins.capture id other different there
  · simpa only [Array.getElem?_push, notFirst, if_false] using gatheringMain
  · simpa only [Array.getElem?_push, alsoNotFirst, if_false] using streamingMain

/-- An outlet is in both stores, or in none. -/
theorem outlet_cases (twins : Twins pieces outcome gathering streaming) (id : OutletId) :
    (gathering.outlets[id]? = none ∧ streaming.outlets[id]? = none) ∨
      (∃ outlet : Outlet Pending Unit, id = 0 ∧
        gathering.outlets[id]? =
          some { outlet with sink := outcome.gathered (String.join pieces) } ∧
        streaming.outlets[id]? = some { outlet with sink := listened } ∧
        outlet.finished = outcome.isOver) ∨
      ∃ outlet, id ≠ 0 ∧ gathering.outlets[id]? = some outlet ∧
        streaming.outlets[id]? = some outlet ∧ outlet.Captures := by
  by_cases main : id = 0
  · subst main
    obtain ⟨outlet, gatheringMain, streamingMain, finished⟩ := twins.main
    exact .inr (.inl ⟨outlet, rfl, gatheringMain, streamingMain, finished⟩)
  · cases there : gathering.outlets[id]? with
    | none => exact .inl ⟨rfl, (twins.others id main).symm.trans there⟩
    | some outlet =>
        exact .inr (.inr ⟨outlet, main, rfl, (twins.others id main).symm.trans there,
          twins.capture id outlet main there⟩)

end Twins

/-- A change of an outlet that does not look at its sink, nor ends it. -/
structure SinkBlind (change : Outlet Pending Unit → Outlet Pending Unit) : Prop where
  sink : ∀ outlet sink, change { outlet with sink := sink } = { change outlet with sink := sink }
  finished : ∀ outlet, (change outlet).finished = outlet.finished

theorem SinkBlind.same {change : Outlet Pending Unit → Outlet Pending Unit}
    (blind : SinkBlind change) (outlet : Outlet Pending Unit) :
    (change outlet).sink = outlet.sink := by
  have same := congrArg Outlet.sink (blind.sink outlet outlet.sink)
  exact same

end Stores

namespace Agree

variable {budget : Nat}

theorem modifyOutlet (id : OutletId) {change : Outlet Pending Unit → Outlet Pending Unit}
    (blind : SinkBlind change) :
    Agree budget budget (Output.modifyOutlet id change) (Output.modifyOutlet id change) := by
  rintro gathering streaming ⟨pieces, outcome, twins⟩ owed
  rcases twins.outlet_cases id with ⟨none, alsoNone⟩ |
    ⟨outlet, rfl, gatheringMain, streamingMain, finished⟩ |
    ⟨outlet, different, there, alsoThere, captures⟩
  · exact ⟨(), gathering, streaming, run_modifyOutlet_none none change,
      run_modifyOutlet_none alsoNone change, ⟨pieces, outcome, twins⟩, owed⟩
  · refine ⟨(), _, _, run_modifyOutlet gatheringMain change,
      run_modifyOutlet streamingMain change, ⟨pieces, outcome, ?_⟩, ?_⟩
    · rw [blind.sink outlet (outcome.gathered (String.join pieces)), blind.sink outlet listened]
      exact twins.put_main ((blind.finished outlet).trans finished) twins.handles twins.captured
        twins.answers twins.occasions twins.nonempty
    · rw [Store.owed_put_same gatheringMain (blind.same _)]
      exact owed
  · refine ⟨(), _, _, run_modifyOutlet there change, run_modifyOutlet alsoThere change,
      ⟨pieces, outcome, twins.put_other different ?_⟩, ?_⟩
    · obtain ⟨text, result, onResult, sink, other⟩ := captures
      exact ⟨text, result, onResult, (blind.same outlet).trans sink, other⟩
    · rw [Store.owed_put_same there (blind.same outlet)]
      exact owed

theorem fillPot (pot : Nat) (text : String) :
    Agree budget budget (Output.fillPot pot text) (Output.fillPot pot text) := by
  rintro gathering streaming ⟨pieces, outcome, twins⟩ owed
  refine ⟨(), _, _, rfl, rfl, ⟨pieces, outcome, ?_⟩, owed⟩
  exact { twins with pots := congrArg (·.modify pot (· ++ text)) twins.pots }

theorem passTaps (taps : List Tap) (text : String) :
    Agree budget budget (Writer.passTaps taps text) (Writer.passTaps taps text) := by
  induction taps generalizing text with
  | nil => exact pure text
  | cons newest older inductionHypothesis =>
      cases newest with
      | change transform => exact inductionHypothesis (transform text)
      | collect pot => exact (fillPot pot text).bind fun _ => inductionHypothesis ""

theorem changeSegment (id : OutletId) (number : Nat) (change : Segment → Segment) :
    Agree budget budget
      (Output.modifyOutlet id fun outlet => outlet.change number change)
      (Output.modifyOutlet id fun outlet => outlet.change number change) :=
  modifyOutlet id ⟨fun _ _ => rfl, fun _ => rfl⟩

theorem write (writer : Writer) (text : String) :
    Agree budget budget (writer.write text) (writer.write text) := by
  refine (passTaps writer.taps text).bind fun passed => ?_
  by_cases blank : passed.isEmpty
  · simp only [blank, if_true]
    exact pure writer
  · simp only [blank, Bool.false_eq_true, if_false]
    exact (changeSegment writer.outlet writer.segment _).bind fun _ => pure writer

/-- A fork looks at the next number alone. -/
theorem fork (writer : Writer) : Agree budget budget writer.fork writer.fork := by
  intro gathering streaming twins owed
  obtain ⟨pieces, outcome, twin⟩ := twins
  have forking : Agree budget budget
      (Output.modifyOutlet writer.outlet fun outlet => outlet.fork writer.segment)
      (Output.modifyOutlet writer.outlet fun outlet => outlet.fork writer.segment) :=
    modifyOutlet writer.outlet ⟨fun _ _ => rfl, fun _ => rfl⟩
  obtain ⟨_, gathering', streaming', ranFirst, ranSecond, twins', owed'⟩ :=
    forking gathering streaming ⟨pieces, outcome, twin⟩ owed
  unfold Writer.fork
  simp only [run_bind, run_outlet?, Option.bind_some]
  rcases twin.outlet_cases writer.outlet with ⟨none, alsoNone⟩ |
    ⟨outlet, _, gatheringMain, streamingMain, _⟩ | ⟨outlet, _, there, alsoThere, _⟩
  · rw [none, alsoNone]
    exact ⟨_, gathering, streaming, rfl, rfl, ⟨pieces, outcome, twin⟩, owed⟩
  · rw [gatheringMain, streamingMain]
    simp only [run_bind, ranFirst, ranSecond, Option.bind_some]
    exact ⟨_, gathering', streaming', rfl, rfl, twins', owed'⟩
  · rw [there, alsoThere]
    simp only [run_bind, ranFirst, ranSecond, Option.bind_some]
    exact ⟨_, gathering', streaming', rfl, rfl, twins', owed'⟩

/-- A change of the handles that are kept. -/
theorem modifyHandles (change : Members Writer → Members Writer) :
    Agree budget budget
      (modifyClient fun desk : Desk => { desk with handles := change desk.handles })
      (modifyClient fun desk : Desk => { desk with handles := change desk.handles }) := by
  rintro gathering streaming ⟨pieces, outcome, twins⟩ owed
  refine ⟨(), _, _, rfl, rfl, ⟨pieces, outcome, ?_⟩, owed⟩
  exact { twins with handles := congrArg change twins.handles }

end Agree

/-! ## Deliveries -/

/-- Reactions that do what becomes of captures alike, within a bound on the captures to come. -/
structure Settles (handlers : Handlers Pending Unit Desk) (budget : Nat) : Prop where
  rounds : budget < handlers.rounds
  answer : ∀ result, handlers.resume .answer result =
    modifyClient fun desk => { desk with answers := desk.answers ++ [result] }
  hear : handlers.hear = Desk.hear
  capture : ∀ owed branch name following followed result,
    owed + capturesIn following + 1 ≤ budget →
      Agree owed (owed + capturesIn following)
        (handlers.resume (.capture branch name following followed) result)
        (handlers.resume (.capture branch name following followed) result)

section Delivering

variable {handlers : Handlers Pending Unit Desk} {budget owed : Nat} {id : OutletId}
variable {gathering streaming : Store Pending Unit Desk} {pieces : List String} {outcome : Outcome}
variable {outlet : Outlet Pending Unit}

/-- The result of an outlet that gathers for a capture is handed on in both stores. -/
theorem handOn_capture (settles : Settles handlers budget) (within : owed ≤ budget)
    (twins : Twins pieces outcome gathering streaming) (bound : gathering.owed ≤ owed)
    (different : id ≠ 0) (there : gathering.outlets[id]? = some outlet) {text : String}
    {captured : Option (Except RenderError String)} {onResult : Option Pending}
    (gathers : outlet.sink = .collect text captured onResult) (other : onResult ≠ some .answer)
    (result : Except RenderError String) :
    ∃ gathering' streaming',
      handOn handlers onResult result (gathering.put id
          { outlet with sink := .collect "" (some result) none }) = some ((), gathering') ∧
        handOn handlers onResult result (streaming.put id
          { outlet with sink := .collect "" (some result) none }) = some ((), streaming') ∧
        (∃ pieces outcome, Twins pieces outcome gathering' streaming') ∧
        gathering'.owed ≤ owed ∧
        ((gathering'.outlets[id]?.map Outlet.again).getD false = outlet.again ∨
          gathering'.owed + 1 ≤ owed) := by
  have sums := Store.owed_put there { outlet with sink := .collect "" (some result) none }
  have nothing : ({ outlet with sink := .collect "" (some result) none } :
    Outlet Pending Unit).owed = 0 := rfl
  have put : Twins pieces outcome
      (gathering.put id { outlet with sink := .collect "" (some result) none })
      (streaming.put id { outlet with sink := .collect "" (some result) none }) :=
    twins.put_other different ⟨"", some result, none, rfl, by simp⟩
  rcases onResult with _ | pending
  · refine ⟨_, _, rfl, rfl, ⟨pieces, outcome, put⟩, by omega, .inl ?_⟩
    rw [Store.put_outlets_self _ _ (Store.lt_size_of_outlet there)]
    rfl
  · cases pending with
    | answer => exact absurd rfl other
    | capture branch name following followed =>
        have here : outlet.owed = capturesIn following + 1 := by
          unfold Outlet.owed
          rw [gathers]
        obtain ⟨_, gathering', streaming', ranFirst, ranSecond, twins', owed'⟩ :=
          settles.capture (owed - (capturesIn following + 1)) branch name following followed result
            (by omega) _ _ ⟨pieces, outcome, put⟩ (by omega)
        exact ⟨gathering', streaming', ranFirst, ranSecond, twins', by omega, .inr (by omega)⟩

theorem deliver_capture (settles : Settles handlers budget) (within : owed ≤ budget)
    (twins : Twins pieces outcome gathering streaming) (bound : gathering.owed ≤ owed)
    (different : id ≠ 0) (there : gathering.outlets[id]? = some outlet) (left : List String)
    (next : Outcome) :
    ∃ gathering' streaming',
      deliver handlers id left next gathering = some ((), gathering') ∧
        deliver handlers id left next streaming = some ((), streaming') ∧
        (∃ pieces outcome, Twins pieces outcome gathering' streaming') ∧
        gathering'.owed ≤ owed ∧
        ((gathering'.outlets[id]?.map Outlet.again).getD false = outlet.again ∨
          gathering'.owed + 1 ≤ owed) := by
  obtain ⟨text, result, onResult, gathers, other⟩ := twins.capture id outlet different there
  have alsoThere : streaming.outlets[id]? = some outlet :=
    (twins.others id different).symm.trans there
  cases next with
  | pending =>
      rw [deliver_pending there gathers, deliver_pending alsoThere gathers]
      refine ⟨_, _, rfl, rfl, ⟨pieces, outcome, twins.put_other different
        ⟨_, result, onResult, rfl, other⟩⟩, ?_, .inl ?_⟩
      · have sums := Store.owed_put there
          { outlet with sink := .collect (text ++ String.join left) result onResult }
        have same : ({ outlet with sink := .collect (text ++ String.join left) result onResult } :
            Outlet Pending Unit).owed = outlet.owed := by
          unfold Outlet.owed
          rw [gathers]
        omega
      · rw [Store.put_outlets_self _ _ (Store.lt_size_of_outlet there)]
        rfl
  | finished =>
      rw [deliver_finished there gathers, deliver_finished alsoThere gathers]
      exact handOn_capture settles within twins bound different there gathers other _
  | failed error =>
      rw [deliver_failed there gathers, deliver_failed alsoThere gathers]
      exact handOn_capture settles within twins bound different there gathers other _

/-- Another round of an outlet that gathers for a capture is paid by a capture that is done. -/
theorem flushRound_capture (settles : Settles handlers budget) (within : owed ≤ budget)
    (twins : Twins pieces outcome gathering streaming) (bound : gathering.owed ≤ owed)
    (different : id ≠ 0) (there : gathering.outlets[id]? = some outlet) :
    ∃ again gathering' streaming',
      flushRound handlers id gathering = some (again, gathering') ∧
        flushRound handlers id streaming = some (again, streaming') ∧
        (∃ pieces outcome, Twins pieces outcome gathering' streaming') ∧
        gathering'.owed + again.toNat ≤ owed := by
  have alsoThere : streaming.outlets[id]? = some outlet :=
    (twins.others id different).symm.trans there
  let asked : Outlet Pending Unit := { outlet with again := false }
  obtain ⟨sink, -, again⟩ := Outlet.sink_drain asked
  have drainedTwins : Twins pieces outcome (gathering.put id asked.drain.2.2)
      (streaming.put id asked.drain.2.2) := by
    obtain ⟨text, result, onResult, gathers, other⟩ := twins.capture id outlet different there
    exact twins.put_other different ⟨text, result, onResult, sink.trans gathers, other⟩
  have drainedBound : (gathering.put id asked.drain.2.2).owed ≤ owed := by
    rw [Store.owed_put_same there sink]
    exact bound
  obtain ⟨gathering', streaming', ranFirst, ranSecond, ⟨laterPieces, laterOutcome, twins'⟩, owed',
      paid⟩ :=
    deliver_capture settles within drainedTwins drainedBound different
      (Store.put_outlets_self _ _ (Store.lt_size_of_outlet there)) asked.drain.1 asked.drain.2.1
  refine ⟨(gathering'.outlets[id]?.map Outlet.again).getD false, gathering', streaming', ?_, ?_,
    ⟨laterPieces, laterOutcome, twins'⟩, ?_⟩
  · rw [flushRound_eq there, run_bind, ranFirst, Option.bind_some, run_bind, run_outlet?]
    cases gathering'.outlets[id]? <;> rfl
  · rw [flushRound_eq alsoThere, run_bind, ranSecond, Option.bind_some, run_bind, run_outlet?,
      ← twins'.others id different]
    cases gathering'.outlets[id]? <;> rfl
  · rcases paid with same | fewer
    · rw [same, again]
      exact owed'
    · cases (gathering'.outlets[id]?.map Outlet.again).getD false
      · exact owed'
      · exact fewer

def Store.heard (store : Store Pending Unit Desk) (told : List Occasion) :
    Store Pending Unit Desk :=
  { store with client := { store.client with occasions := store.client.occasions ++ told } }

/-- A listener that only notes occasions is told of one. -/
theorem tell_listened (hears : handlers.hear = Desk.hear)
    (there : streaming.outlets[id]? = some { outlet with sink := listened })
    (occasion : Occasion) :
    tell handlers id occasion streaming = some ((), streaming.heard [occasion]) := by
  have bound := Store.lt_size_of_outlet there
  unfold tell
  rw [run_bind, listeners?_eq there rfl, Option.bind_some]
  simp only
  rw [run_bind, modifyListeners_eq there rfl, Option.bind_some, run_bind, hears]
  have all : (⟨[()], [()], [()]⟩ : Listeners Unit).on occasion.channel = [()] := by
    cases occasion <;> rfl
  have heard : ∀ store : Store Pending Unit Desk,
      [()].mapM (fun listener => Desk.hear listener occasion) store =
        some ([()], store.heard [occasion]) := fun store => rfl
  rw [all, heard, Option.bind_some]
  let silent : Outlet Pending Unit :=
    { outlet with
      sink := .stream ((⟨[()], [()], [()]⟩ : Listeners Unit).withChannel occasion.channel []) }
  have taken : ((streaming.put id silent).heard [occasion]).outlets[id]? = some silent :=
    Store.put_outlets_self _ _ bound
  have putBack := modifyListeners_eq taken rfl
    fun current => current.withChannel occasion.channel ([()] ++ current.on occasion.channel)
  have restored :
      ((⟨[()], [()], [()]⟩ : Listeners Unit).withChannel occasion.channel []).withChannel
        occasion.channel
        ([()] ++ ((⟨[()], [()], [()]⟩ : Listeners Unit).withChannel occasion.channel []).on
          occasion.channel) = ⟨[()], [()], [()]⟩ := by
    cases occasion <;> rfl
  have same := (Store.put_put streaming silent { outlet with sink := listened }).trans
    (Store.put_self there)
  refine putBack.trans ?_
  rw [restored]
  exact congrArg (fun store : Store Pending Unit Desk => some ((), store.heard [occasion])) same

theorem tellAll_listened (hears : handlers.hear = Desk.hear) (told : List Occasion)
    (there : streaming.outlets[id]? = some { outlet with sink := listened }) :
    told.forM (tell handlers id) streaming = some ((), streaming.heard told) := by
  induction told generalizing streaming with
  | nil => simp [run_pure, Store.heard]
  | cons occasion rest inductionHypothesis =>
      have later : rest.forM (tell handlers id) (streaming.heard [occasion]) =
          some ((), (streaming.heard [occasion]).heard rest) :=
        inductionHypothesis there
      change Option.bind (tell handlers id occasion streaming) _ = _
      rw [tell_listened hears there, Option.bind_some]
      simpa [Store.heard] using later

theorem nonempty_drainWaiting (segments : List Segment) :
    ∀ piece ∈ (Outlet.drainWaiting segments).pieces, piece ≠ "" := by
  obtain ⟨gone, rest, -, -, texts, -⟩ := Segment.drainWaiting_leaves segments
  rw [texts]
  intro piece member
  simpa using (List.mem_filter.mp member).2

/-- The store after results were noted. -/
def Store.answered (store : Store Pending Unit Desk)
    (results : List (Except RenderError String)) : Store Pending Unit Desk :=
  { store with client := { store.client with answers := store.client.answers ++ results } }

theorem Outcome.owed_gathered (outcome : Outcome) (text : String) (outlet : Outlet Pending Unit) :
    ({ outlet with sink := outcome.gathered text } : Outlet Pending Unit).owed = 0 := by
  cases outcome <;> rfl

/-- To an outlet that has reported its result nothing more is delivered. -/
theorem deliver_over (concluded : outcome ≠ .pending) {text : String}
    (there : gathering.outlets[id]? = some { outlet with sink := outcome.gathered text }) :
    deliver handlers id [] .pending gathering = some ((), gathering) := by
  obtain ⟨result, sink⟩ : ∃ result, outcome.gathered text = .collect "" (some result) none := by
    cases outcome with
    | pending => exact absurd rfl concluded
    | finished => exact ⟨_, rfl⟩
    | failed error => exact ⟨_, rfl⟩
  rw [deliver_pending there sink]
  simp only [String.join, List.foldl_nil, String.append_empty, ← sink]
  rw [Store.put_self there]

theorem deliver_gathered (settles : Settles handlers budget) {text : String}
    (there : gathering.outlets[id]? =
      some { outlet with sink := Outcome.pending.gathered text })
    (left : List String) (next : Outcome) :
    deliver handlers id left next gathering =
      some ((), (gathering.put id
        { outlet with sink := next.gathered (text ++ String.join left) }).answered
          (next.result? (text ++ String.join left)).toList) := by
  cases next with
  | pending =>
      rw [deliver_pending there rfl]
      simp only [Store.answered, Outcome.result?, Option.toList_none, List.append_nil]
      rfl
  | finished =>
      rw [deliver_finished there rfl, handOn, settles.answer]
      rfl
  | failed error =>
      rw [deliver_failed there rfl, handOn, settles.answer]
      rfl

theorem owed_put_gathered {text later : String} {new : Outlet Pending Unit}
    (there : gathering.outlets[id]? = some { outlet with sink := outcome.gathered text })
    (next : Outcome) :
    (gathering.put id { new with sink := next.gathered later }).owed = gathering.owed := by
  have sums := Store.owed_put there { new with sink := next.gathered later }
  rw [Outcome.owed_gathered, Outcome.owed_gathered] at sums
  exact sums

/-- A round of the main outlet tells the pieces that leave, which the other one gathers. -/
theorem flushRound_main_pending (settles : Settles handlers budget)
    (twins : Twins pieces .pending gathering streaming) :
    ∃ later next gathering' streaming',
      flushRound handlers 0 gathering = some (false, gathering') ∧
        flushRound handlers 0 streaming = some (false, streaming') ∧
        Twins (pieces ++ later) next gathering' streaming' ∧
        gathering'.owed = gathering.owed := by
  obtain ⟨outlet, gatheringMain, streamingMain, finished⟩ := twins.main
  let asked : Outlet Pending Unit := { outlet with again := false }
  obtain ⟨-, -, again⟩ := Outlet.sink_drain asked
  have bound := Store.lt_size_of_outlet gatheringMain
  have alsoBound := Store.lt_size_of_outlet streamingMain
  have unfinished : asked.finished = false := finished
  have nonempty : ∀ piece ∈ pieces ++ asked.drain.1, piece ≠ "" := by
    rw [Outlet.drain_eq unfinished]
    intro piece member
    rcases List.mem_append.mp member with told | left
    · exact twins.nonempty piece told
    · exact nonempty_drainWaiting _ piece left
  have concluded : asked.drain.2.2.finished = asked.drain.2.1.isOver := by
    rw [Outlet.drain_eq unfinished]
  have joined : String.join pieces ++ String.join asked.drain.1 =
      String.join (pieces ++ asked.drain.1) := by
    simp
  have after : Twins (pieces ++ asked.drain.1) asked.drain.2.1
      ((gathering.put 0 { asked.drain.2.2 with
        sink := asked.drain.2.1.gathered (String.join (pieces ++ asked.drain.1)) }).answered
          (asked.drain.2.1.result? (String.join (pieces ++ asked.drain.1))).toList)
      ((streaming.put 0 { asked.drain.2.2 with sink := listened }).heard
        (asked.drain.1.map Occasion.data ++ asked.drain.2.1.occasions)) :=
    twins.put_main concluded twins.handles twins.captured
      (by simp [twins.answers, Outcome.result?]) (by simp [twins.occasions, Outcome.occasions])
      nonempty
  have gathered := deliver_gathered settles
    (Store.put_outlets_self gathering
      { asked.drain.2.2 with sink := Outcome.pending.gathered (String.join pieces) } bound)
    asked.drain.1 asked.drain.2.1
  have told : deliver handlers 0 asked.drain.1 asked.drain.2.1
      (streaming.put 0 { asked.drain.2.2 with sink := listened }) = _ :=
    (deliver_stream (Store.put_outlets_self _ _ alsoBound) rfl _ _).trans
      (tellAll_listened settles.hear _ (Store.put_outlets_self _ _ alsoBound))
  rw [joined, Store.put_put] at gathered
  refine ⟨_, _, _, _, ?_, ?_, after, owed_put_gathered gatheringMain _⟩
  · rw [flushRound_delivered gatheringMain (Outlet.drain_withSink asked _) gathered
      (Store.put_outlets_self _ _ bound)]
    simp only [again]
    rfl
  · rw [flushRound_delivered streamingMain (Outlet.drain_withSink asked _) told
      (Store.put_outlets_self _ _ alsoBound)]
    simp only [again]
    rfl

/-- Once the main outlet has reported its result, a round tells nothing. -/
theorem flushRound_main_over (twins : Twins pieces outcome gathering streaming)
    (reported : outcome ≠ .pending) :
    ∃ gathering' streaming',
      flushRound handlers 0 gathering = some (false, gathering') ∧
        flushRound handlers 0 streaming = some (false, streaming') ∧
        Twins pieces outcome gathering' streaming' ∧ gathering'.owed = gathering.owed := by
  obtain ⟨outlet, gatheringMain, streamingMain, finished⟩ := twins.main
  let asked : Outlet Pending Unit := { outlet with again := false }
  have alsoBound := Store.lt_size_of_outlet streamingMain
  have concluded : asked.finished = true := by
    rw [show asked.finished = outcome.isOver from finished]
    cases outcome with
    | pending => exact absurd rfl reported
    | finished => rfl
    | failed error => rfl
  have after : Twins pieces outcome
      (gathering.put 0 { asked with sink := outcome.gathered (String.join pieces) })
      (streaming.put 0 { asked with sink := listened }) :=
    twins.put_main finished twins.handles twins.captured twins.answers twins.occasions
      twins.nonempty
  have there : (gathering.put 0 { asked with
      sink := outcome.gathered (String.join pieces) }).outlets[0]? =
      some { asked with sink := outcome.gathered (String.join pieces) } :=
    Store.put_outlets_self _ _ (Store.lt_size_of_outlet gatheringMain)
  refine ⟨_, _, ?_, ?_, after, owed_put_gathered gatheringMain _⟩
  · exact flushRound_delivered gatheringMain (Outlet.drain_finished concluded)
      (deliver_over reported there) there
  · exact flushRound_delivered streamingMain (Outlet.drain_finished concluded)
      (deliver_stream (Store.put_outlets_self _ _ alsoBound) rfl [] .pending)
      (Store.put_outlets_self _ _ alsoBound)

/-- A round of the main outlet tells what it gathers, and asks for no other round. -/
theorem flushRound_main (settles : Settles handlers budget)
    (twins : Twins pieces outcome gathering streaming) :
    ∃ gathering' streaming',
      flushRound handlers 0 gathering = some (false, gathering') ∧
        flushRound handlers 0 streaming = some (false, streaming') ∧
        (∃ pieces outcome, Twins pieces outcome gathering' streaming') ∧
        gathering'.owed = gathering.owed := by
  by_cases pending : outcome = .pending
  · subst pending
    obtain ⟨later, next, gathering', streaming', ranFirst, ranSecond, twins', owed'⟩ :=
      flushRound_main_pending settles twins
    exact ⟨gathering', streaming', ranFirst, ranSecond, ⟨_, _, twins'⟩, owed'⟩
  · obtain ⟨gathering', streaming', ranFirst, ranSecond, twins', owed'⟩ :=
      flushRound_main_over twins pending
    exact ⟨gathering', streaming', ranFirst, ranSecond, ⟨_, _, twins'⟩, owed'⟩

theorem flushRound_twins (settles : Settles handlers budget) (within : owed ≤ budget)
    (twins : ∃ pieces outcome, Twins pieces outcome gathering streaming)
    (bound : gathering.owed ≤ owed) (id : OutletId) :
    ∃ again gathering' streaming',
      flushRound handlers id gathering = some (again, gathering') ∧
        flushRound handlers id streaming = some (again, streaming') ∧
        (∃ pieces outcome, Twins pieces outcome gathering' streaming') ∧
        gathering'.owed + again.toNat ≤ owed := by
  obtain ⟨pieces, outcome, twins⟩ := twins
  rcases twins.outlet_cases id with ⟨none, alsoNone⟩ |
    ⟨outlet, rfl, -, -, -⟩ | ⟨outlet, different, there, -, -⟩
  · refine ⟨false, gathering, streaming, ?_, ?_, ⟨pieces, outcome, twins⟩, bound⟩
    · rw [flushRound, run_bind, run_modifyOutlet_none none, Option.bind_some, run_bind, run_outlet?,
        none]
      rfl
    · rw [flushRound, run_bind, run_modifyOutlet_none alsoNone, Option.bind_some, run_bind,
        run_outlet?, alsoNone]
      rfl
  · obtain ⟨gathering', streaming', ranFirst, ranSecond, twins', same⟩ :=
      flushRound_main settles twins
    refine ⟨false, gathering', streaming', ranFirst, ranSecond, twins', ?_⟩
    rw [same]
    exact bound
  · exact flushRound_capture settles within twins bound different there

theorem flushRounds_agree (settles : Settles handlers budget) (within : owed ≤ budget)
    (id : OutletId) {rounds : Nat} (enough : owed < rounds) :
    Agree owed owed (flushRounds handlers id rounds) (flushRounds handlers id rounds) := by
  induction rounds generalizing owed with
  | zero => exact absurd enough (Nat.not_lt_zero _)
  | succ fewer inductionHypothesis =>
      intro gathering streaming twins bound
      obtain ⟨again, gathering', streaming', ranFirst, ranSecond, twins', paid⟩ :=
        flushRound_twins settles within twins bound id
      simp only [flushRounds, run_bind, ranFirst, ranSecond, Option.bind_some]
      cases again with
      | false => exact ⟨(), gathering', streaming', rfl, rfl, twins', paid⟩
      | true =>
          simp only [Bool.toNat_true] at paid
          have agree : Agree (owed - 1) (owed - 1) (flushRounds handlers id fewer)
              (flushRounds handlers id fewer) :=
            inductionHypothesis (by omega) (by omega)
          exact agree.mono (Nat.le_refl _) (by omega) gathering' streaming' twins' (by omega)

theorem flush_agree (settles : Settles handlers budget) (within : owed ≤ budget) (id : OutletId) :
    Agree owed owed (flush handlers id) (flush handlers id) := by
  have asking : Agree owed owed
      (modifyOutlet id fun outlet => { outlet with again := true })
      (modifyOutlet id fun outlet => { outlet with again := true }) :=
    .modifyOutlet id ⟨fun _ _ => rfl, fun _ => rfl⟩
  have flushing (flushing : Bool) : Agree owed owed
      (modifyOutlet id fun outlet => { outlet with flushing := flushing })
      (modifyOutlet id fun outlet => { outlet with flushing := flushing }) :=
    .modifyOutlet id ⟨fun _ _ => rfl, fun _ => rfl⟩
  have rounds := flushRounds_agree settles within id (Nat.lt_of_le_of_lt within settles.rounds)
  have whole := (flushing true).bind fun _ => rounds.bind fun _ => flushing false
  rintro gathering streaming ⟨pieces, outcome, twins⟩ bound
  have asked := asking gathering streaming ⟨pieces, outcome, twins⟩ bound
  have flushed := whole gathering streaming ⟨pieces, outcome, twins⟩ bound
  unfold flush
  simp only [run_bind (outlet? id), run_outlet?, Option.bind_some]
  rcases twins.outlet_cases id with ⟨none, alsoNone⟩ |
    ⟨outlet, -, there, alsoThere, -⟩ | ⟨outlet, -, there, alsoThere, -⟩
  · rw [none, alsoNone]
    exact ⟨(), gathering, streaming, rfl, rfl, ⟨pieces, outcome, twins⟩, bound⟩
  all_goals
    rw [there, alsoThere]
    cases flushes : outlet.flushing with
    | true => simpa [flushes] using asked
    | false => simpa [flushes] using flushed

end Delivering

end BraceTemplate.Output
