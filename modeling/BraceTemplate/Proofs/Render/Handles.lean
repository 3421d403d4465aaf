import BraceTemplate.Proofs.Render.Terms

/-!
# Handles respect terms

Whatever is done through handles goes on alike from two stores that agree: what is done to an outlet
that both have is the same in both, and what is done to the one that is set aside is as the terms
say.
-/

namespace BraceTemplate.Render

open Output

namespace Terms

variable {terms : Terms} {one other : Store Continuation Observer State} {id : OutletId}
variable {outlet : Outlet Continuation Observer} {writer : Writer}
variable {handlers : Handlers Continuation Observer State}

theorem Fine.changeSegment (fine : terms.Fine outlet) (number : Nat) {change : Segment → Segment}
    (changed : ∀ segment, terms.FineSegment segment → terms.FineSegment (change segment)) :
    terms.Fine (outlet.change number change) := by
  refine ⟨?_, fine.sink⟩
  have segments := fine.segments
  simp only [Outlet.change]
  generalize outlet.waiting = waiting at segments ⊢
  induction waiting with
  | nil => exact segments
  | cons first rest inductionHypothesis =>
      have ofFirst := segments first List.mem_cons_self
      have ofRest := fun segment member => segments segment (List.mem_cons_of_mem _ member)
      unfold Outlet.changeSegment
      split
      · exact List.forall_mem_cons.mpr ⟨changed first ofFirst, ofRest⟩
      · exact List.forall_mem_cons.mpr ⟨ofFirst, inductionHypothesis ofRest⟩

theorem fineSegment_fresh (number : Nat) : terms.FineSegment (Segment.fresh number) :=
  fun _ equality => by cases equality

theorem Fine.fork (fine : terms.Fine outlet) (number : Nat) :
    terms.Fine (outlet.fork number) := by
  refine ⟨?_, fine.sink⟩
  have segments := fine.segments
  simp only [Outlet.fork]
  generalize outlet.waiting = waiting at segments ⊢
  induction waiting with
  | nil => exact segments
  | cons first rest inductionHypothesis =>
      have ofFirst := segments first List.mem_cons_self
      have ofRest := fun segment member => segments segment (List.mem_cons_of_mem _ member)
      unfold Outlet.insertBehind
      split
      · refine List.forall_mem_cons.mpr ⟨ofFirst, ?_⟩
        exact List.forall_mem_cons.mpr ⟨fineSegment_fresh _,
          List.forall_mem_cons.mpr ⟨fineSegment_fresh _, ofRest⟩⟩
      · exact List.forall_mem_cons.mpr ⟨ofFirst, inductionHypothesis ofRest⟩

theorem fine_drainWaiting {segments : List Segment}
    (fine : ∀ segment ∈ segments, terms.FineSegment segment) :
    (∀ segment ∈ (Outlet.drainWaiting segments).waiting, terms.FineSegment segment) ∧
      ∀ error, (Outlet.drainWaiting segments).outcome = .failed error →
        terms.allowance.permitted error := by
  induction segments with
  | nil => exact ⟨fun _ member => absurd member List.not_mem_nil, fun _ failed => by cases failed⟩
  | cons first rest inductionHypothesis =>
      have ofFirst := fine first List.mem_cons_self
      have ofRest := fun segment member => fine segment (List.mem_cons_of_mem _ member)
      unfold Outlet.drainWaiting
      split
      · rename_i error failed
        refine ⟨List.forall_mem_cons.mpr ⟨(fun _ equality => nomatch equality), ofRest⟩, ?_⟩
        rintro _ ⟨⟩
        exact ofFirst error failed
      · split
        · exact inductionHypothesis ofRest
        · exact ⟨List.forall_mem_cons.mpr ⟨ofFirst, ofRest⟩, fun _ failed => by cases failed⟩

theorem Fine.drain (fine : terms.Fine outlet) :
    terms.Fine outlet.drain.2.2 ∧
      ∀ error, outlet.drain.2.1 = .failed error → terms.allowance.permitted error := by
  cases finished : outlet.finished with
  | true =>
      rw [Outlet.drain_finished finished]
      exact ⟨fine, fun _ failed => by cases failed⟩
  | false =>
      rw [Outlet.drain_eq finished]
      obtain ⟨segments, permitted⟩ := fine_drainWaiting fine.segments
      exact ⟨⟨segments, fine.sink⟩, permitted⟩

/-- What a round hands on is handed on as the terms say. -/
structure FineDelivery (terms : Terms) (delivered : Delivered) : Prop where
  outlet : terms.Fine delivered.outlet
  events : ∀ event ∈ delivered.events, terms.spoken event
  handedOn : ∀ continuation result, delivered.handedOn = some (continuation, result) →
    terms.FineContinuation continuation ∧ terms.FineResult result

theorem Fine.takeUp (fine : terms.Fine outlet) (pieces : List String) {outcome : Outcome}
    (permitted : ∀ error, outcome = .failed error → terms.allowance.permitted error) :
    terms.FineDelivery (takeUp outlet pieces outcome) := by
  have sink := fine.sink
  unfold Render.takeUp
  split
  · rename_i text result onResult gathers
    rw [gathers] at sink
    split
    · exact ⟨⟨fine.segments, sink⟩, fun _ member => absurd member List.not_mem_nil,
        fun _ _ none => by cases none⟩
    · rename_i final ended
      have fineFinal : terms.FineResult final := by
        rintro error rfl
        cases outcome with
        | pending => cases ended
        | finished => cases ended
        | failed same =>
            cases ended
            exact permitted _ rfl
      refine ⟨⟨fine.segments, ⟨?_, fun _ none => by cases none⟩⟩,
        fun _ member => absurd member List.not_mem_nil, ?_⟩
      · rintro _ ⟨⟩
        exact fineFinal
      · intro continuation handed equality
        obtain ⟨found, there, same⟩ := Option.map_eq_some_iff.mp equality
        cases same
        exact ⟨sink.2 _ there, fineFinal⟩
  · rename_i listeners streams
    rw [streams] at sink
    refine ⟨fine, fun event member => ?_, fun _ _ none => by cases none⟩
    obtain ⟨occasion, told, noted⟩ := List.mem_flatMap.mp member
    refine sink occasion ?_ event noted
    rintro error rfl
    rcases List.mem_append.mp told with inPieces | atEnd
    · obtain ⟨_, _, same⟩ := List.mem_map.mp inPieces
      cases same
    · cases outcome with
      | pending => cases atEnd
      | finished => simp [Outcome.occasions] at atEnd
      | failed same =>
          obtain rfl : error = same := by simpa [Outcome.occasions] using atEnd
          exact permitted _ rfl

theorem Fine.round (fine : terms.Fine outlet) : terms.FineDelivery (round outlet) := by
  have quieted : terms.Fine { outlet with again := false } := ⟨fine.segments, fine.sink⟩
  obtain ⟨left, permitted⟩ := quieted.drain
  exact left.takeUp _ permitted

namespace Respects

/-- A new outlet is not the one that is set aside. -/
theorem openOutlet {sink : Sink Continuation Observer} (fine : terms.FineSink sink) :
    terms.Respects (fun id => terms.aside.id? ≠ some id)
      (Output.openOutlet sink : Action OutletId) := by
  intro one other parallel
  have fineOpened : terms.Fine (Outlet.opened sink) := by
    refine ⟨fun segment member => ?_, fine⟩
    obtain rfl : segment = Segment.fresh 0 := List.mem_singleton.mp member
    exact fineSegment_fresh 0
  have notAside : terms.aside.id? ≠ some one.outlets.size := by
    intro aside
    obtain ⟨first, _, there, -⟩ := parallel.there aside
    exact absurd (Store.lt_size_of_outlet there) (Nat.lt_irrefl _)
  have beside : ∀ store : Store Continuation Observer State,
      store.outlets.size = one.outlets.size →
        (terms.aside.id?.bind fun id => (store.outlets.push (Outlet.opened sink))[id]?) =
          terms.aside.id?.bind fun id => store.outlets[id]? := by
    intro store size
    cases aside : terms.aside.id? with
    | none => rfl
    | some found =>
        rw [Option.bind_some, Option.bind_some, Array.getElem?_push, if_neg]
        rintro rfl
        exact notAside (aside.trans (congrArg some size))
  rw [run_openOutlet, run_openOutlet, ← parallel.size]
  refine .both ⟨parallel.client, parallel.engine, parallel.pots, ?_, ?_, ?_, ?_⟩ notAside
  · simp [parallel.size]
  · intro id different
    simp only [Array.getElem?_push, parallel.size, parallel.same id different]
  · intro id found different there
    simp only [Array.getElem?_push] at there
    split at there
    · cases there
      exact fineOpened
    · exact parallel.fine id found different there
  · rw [beside one rfl, beside other parallel.size.symm]
    exact parallel.related

theorem modifyOutlet (notAside : terms.aside.id? ≠ some id)
    {change : Outlet Continuation Observer → Outlet Continuation Observer}
    (fine : ∀ outlet, terms.Fine outlet → terms.Fine (change outlet)) :
    terms.Respects (fun _ => True) (Output.modifyOutlet id change : Action Unit) := by
  intro one other parallel
  have same := parallel.same id notAside
  cases there : one.outlets[id]? with
  | none =>
      rw [run_modifyOutlet_none there, run_modifyOutlet_none (same.symm.trans there)]
      exact .both parallel trivial
  | some outlet =>
      rw [run_modifyOutlet there, run_modifyOutlet (same.symm.trans there)]
      exact .both (parallel.put notAside (fine _ (parallel.fine id outlet notAside there))) trivial

theorem changeSegment (id : OutletId) (number : Nat) {change : Segment → Segment}
    (changed : ∀ segment, terms.FineSegment segment → terms.FineSegment (change segment)) :
    terms.Respects (fun _ => True)
      (Output.modifyOutlet id fun outlet => outlet.change number change : Action Unit) := by
  by_cases aside : terms.aside.id? = some id
  · intro one other parallel
    obtain ⟨first, second, thereOne, thereOther, related⟩ := parallel.there aside
    rw [run_modifyOutlet thereOne, run_modifyOutlet thereOther]
    exact .both (parallel.putAsideQuietly aside
      (terms.aside.changes _ _ _ _ related number change)) trivial
  · exact modifyOutlet aside fun _ fine => fine.changeSegment number changed

theorem result? (notAside : terms.aside.id? ≠ some id) :
    terms.Respects (fun found => ∀ result, found = some result → terms.FineResult result)
      (Output.result? id : Action (Option (Except RenderError String))) := by
  intro one other parallel
  have same := parallel.same id notAside
  unfold Output.result?
  rw [run_bind, run_bind, run_outlet?, run_outlet?, Option.bind_some, Option.bind_some, ← same]
  cases there : one.outlets[id]? with
  | none => exact .both parallel fun _ none => by cases none
  | some outlet =>
      have sink := (parallel.fine id outlet notAside there).sink
      simp only
      cases gathers : outlet.sink with
      | collect text result onResult =>
          rw [gathers] at sink
          exact .both parallel sink.1
      | stream listeners => exact .both parallel fun _ none => by cases none

/-- A fork yields the same handles in both stores. -/
theorem fork (writer : Writer) :
    terms.Respects (fun _ => True) (writer.fork : Action (Writer × Writer)) := by
  intro one other parallel
  unfold Writer.fork
  rw [run_bind, run_bind, run_outlet?, run_outlet?, Option.bind_some, Option.bind_some]
  by_cases aside : terms.aside.id? = some writer.outlet
  · obtain ⟨first, second, thereOne, thereOther, related⟩ := parallel.there aside
    obtain ⟨sameNumber, -⟩ := terms.aside.agrees _ _ _ _ related
    rw [thereOne, thereOther]
    simp only [run_bind, run_modifyOutlet thereOne, run_modifyOutlet thereOther, Option.bind_some,
      sameNumber]
    exact .both (parallel.putAsideQuietly aside (terms.aside.forks _ _ _ _ related _)) trivial
  · have same := parallel.same writer.outlet aside
    rw [← same]
    cases there : one.outlets[writer.outlet]? with
    | none => exact .both parallel trivial
    | some outlet =>
        have fine := parallel.fine writer.outlet outlet aside there
        simp only [run_bind, run_modifyOutlet there, run_modifyOutlet (same.symm.trans there),
          Option.bind_some]
        exact .both (parallel.put aside (fine.fork _)) trivial

end Respects

/-- Handlers that go on as the terms say. -/
structure RespectedBy (terms : Terms) (handlers : Handlers Continuation Observer State) :
    Prop where
  speaks : Speaks handlers
  resume : ∀ branch next result, terms.FineContinuation (.capture branch next) →
    terms.FineResult result →
      terms.Respects (fun _ => True) (handlers.resume (.capture branch next) result)

namespace Respects

theorem handOver (respected : terms.RespectedBy handlers) (rounds : 0 < handlers.rounds)
    {delivered : Delivered} (fine : terms.FineDelivery delivered) :
    terms.Respects (fun _ => True) (handOver handlers delivered.handedOn) := by
  unfold Render.handOver
  split
  · exact pure trivial
  · rename_i continuation result handsOn
    obtain ⟨fineContinuation, fineResult⟩ := fine.handedOn _ _ handsOn
    cases continuation with
    | report label =>
        rw [respected.speaks.report rounds]
        exact emit (fineContinuation result fineResult)
    | capture branch next => exact respected.resume _ _ _ fineContinuation fineResult

/-- A round of a flush, where both stores have the outlet. -/
theorem flushRound (respected : terms.RespectedBy handlers) (rounds : 0 < handlers.rounds)
    (notAside : terms.aside.id? ≠ some id) :
    terms.Respects (fun _ => True) (Output.flushRound handlers id) := by
  intro one other parallel
  have same := parallel.same id notAside
  cases there : one.outlets[id]? with
  | none =>
      rw [run_flushRound_none there, run_flushRound_none (same.symm.trans there)]
      exact .both parallel trivial
  | some outlet =>
      have fine := (parallel.fine id outlet notAside there).round
      have delivered := (parallel.put notAside fine.outlet).noting fine.events
      rw [flushRound_eq_round there respected.speaks.hear,
        flushRound_eq_round (same.symm.trans there) respected.speaks.hear]
      refine (handOver respected rounds fine _ _ delivered).bind fun _ one other still _ => ?_
      simp only [← still.same id notAside]
      exact .both still trivial

theorem flushRounds (respected : terms.RespectedBy handlers) (positive : 0 < handlers.rounds)
    (notAside : terms.aside.id? ≠ some id) (rounds : Nat) :
    terms.Respects (fun _ => True) (Output.flushRounds handlers id rounds) := by
  induction rounds with
  | zero => exact outOfSteps
  | succ rounds inductionHypothesis =>
      refine (flushRound respected positive notAside).bind fun again _ => ?_
      cases again with
      | true => exact inductionHypothesis
      | false => exact pure trivial

/-- A flush respects the terms: both stores have the outlet, or it is set aside and nobody goes on
with its result. -/
theorem flush (respected : terms.RespectedBy handlers) (id : OutletId) :
    terms.Respects (fun _ => True) (Output.flush handlers id) := by
  by_cases aside : terms.aside.id? = some id
  · intro one other parallel
    obtain ⟨first, second, thereOne, thereOther, related⟩ := parallel.there aside
    obtain ⟨-, sameFlushing⟩ := terms.aside.agrees _ _ _ _ related
    cases flushing : first.flushing with
    | true =>
        rw [flush_within thereOne flushing, flush_within thereOther (sameFlushing ▸ flushing)]
        exact .both (parallel.putAsideQuietly aside
          (terms.aside.within _ _ _ _ related flushing)) trivial
    | false =>
        have idle : second.flushing = false := sameFlushing ▸ flushing
        rcases Nat.eq_zero_or_pos handlers.rounds with none | rounds
        · rw [flush_outOfRounds thereOne flushing none, flush_outOfRounds thereOther idle none]
          exact .out
        · obtain ⟨quietOne, quietOther⟩ := terms.aside.quiet _ _ _ _ related
          rw [flush_quiet thereOne flushing quietOne respected.speaks rounds,
            flush_quiet thereOther idle quietOther respected.speaks rounds]
          exact .both (parallel.putAside aside
            (terms.aside.flushes _ _ _ _ related flushing)) trivial
  · intro one other parallel
    have same := parallel.same id aside
    cases there : one.outlets[id]? with
    | none =>
        rw [run_flush_none there, run_flush_none (same.symm.trans there)]
        exact .both parallel trivial
    | some outlet =>
        have fine := parallel.fine id outlet aside there
        cases flushing : outlet.flushing with
        | true =>
            rw [flush_within there flushing, flush_within (same.symm.trans there) flushing]
            exact .both (parallel.put aside ⟨fine.segments, fine.sink⟩) trivial
        | false =>
            rcases Nat.eq_zero_or_pos handlers.rounds with none | rounds
            · rw [flush_outOfRounds there flushing none,
                flush_outOfRounds (same.symm.trans there) flushing none]
              exact .out
            · have during : terms.Fine { outlet with flushing := true } :=
                ⟨fine.segments, fine.sink⟩
              have running := flushRounds respected rounds aside handlers.rounds _ _
                (parallel.put aside during)
              rw [flush_eq_rounds there flushing,
                flush_eq_rounds (same.symm.trans there) flushing]
              refine running.bind fun _ one other still _ => modifyOutlet aside ?_ one other still
              exact fun _ fine => ⟨fine.segments, fine.sink⟩

theorem passTaps (taps : List Tap) (text : String) :
    terms.Respects (fun _ => True) (Writer.passTaps taps text : Action String) := by
  induction taps generalizing text with
  | nil => exact pure trivial
  | cons newest older inductionHypothesis =>
      cases newest with
      | change transform => exact inductionHypothesis _
      | collect pot => exact (fillPot pot text).bind fun _ _ => inductionHypothesis _

theorem write (writer : Writer) (text : String) :
    terms.Respects (fun _ => True) (writer.write text : Action Writer) := by
  refine (passTaps _ _).bind fun passed _ => ?_
  split
  · exact pure trivial
  · refine bind (changeSegment _ _ ?_) fun _ _ => ?_
    · exact fun _ fine => fine
    · exact pure trivial

theorem finish (respected : terms.RespectedBy handlers) (writer : Writer) :
    terms.Respects (fun _ => True) (writer.finish handlers) := by
  refine bind (changeSegment _ _ ?_) fun _ _ => flush respected _
  exact fun _ fine => fine

theorem finishWith (respected : terms.RespectedBy handlers) (writer : Writer) (text : String) :
    terms.Respects (fun _ => True) (writer.finishWith handlers text) :=
  (write writer text).bind fun _ _ => finish respected _

theorem fail (respected : terms.RespectedBy handlers) (writer : Writer) {error : RenderError}
    (permitted : terms.allowance.permitted error) :
    terms.Respects (fun _ => True) (writer.fail handlers error) := by
  refine bind (changeSegment _ _ ?_) fun _ _ => (flush respected _).bind fun _ _ => ?_
  · rintro _ _ _ ⟨⟩
    exact permitted
  · exact pure trivial

/-- A body is captured; it always ends with a handle. -/
theorem capture (respected : terms.RespectedBy handlers) (writer : Writer)
    {render : Writer → Action (Except RenderError Writer)} {onResult : Writer → Continuation}
    (fine : ∀ branch, terms.FineContinuation (onResult branch))
    (rendering : ∀ inner, terms.Respects (fun result => ∃ last, result = .ok last)
      (render inner)) :
    terms.Respects (fun _ => True) (writer.capture handlers render onResult) := by
  refine (fork writer).bind fun handles _ => ?_
  have fineSink : terms.FineSink (.collect "" none (some (onResult handles.1))) := by
    refine ⟨(fun _ none => nomatch none), ?_⟩
    rintro _ ⟨⟩
    exact fine _
  refine (openOutlet fineSink).bind fun id _ => (rendering _).bind fun ended ok => ?_
  obtain ⟨last, rfl⟩ := ok
  exact (finish respected last).bind fun _ _ => pure trivial

/-- A branch goes on after a capture. -/
theorem settle (respected : terms.RespectedBy handlers) (branch : Writer)
    {result : Except RenderError String}
    {continue? : String → Action (Except RenderError Writer)} (fine : terms.FineResult result)
    (continuing : ∀ text, terms.Respects (fun result => ∃ last, result = .ok last)
      (continue? text)) :
    terms.Respects (fun _ => True) (branch.settle handlers result continue?) := by
  cases result with
  | error error => exact (fail respected branch (fine error rfl)).discard
  | ok text =>
      refine (continuing text).bind fun ended ok => ?_
      obtain ⟨last, rfl⟩ := ok
      exact finish respected last

end Respects

end Terms

end BraceTemplate.Render
