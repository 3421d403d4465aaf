import BraceTemplate.Proofs.Render.Shadowing

/-!
# Handles while a parameter is resolved

Writing, forking, ending, failing and delivering go on alike with and without the older taps. What a
handle writes that is muffled reaches the pot, and of the outlets that were there none; new outlets
are written to with the same texts.
-/

namespace BraceTemplate.Render

open Output

namespace Resolution

variable {resolution : Resolution} {holds : Prop} {id : OutletId}
variable {outlet shadow : Outlet Continuation Observer} {writer : Writer}
variable {handlers : Handlers Continuation Observer State}

/-! ## Outlets -/

/-- What is done to the segments of both outlets. -/
theorem Pairs.take (pairs : resolution.Pairs id outlet shadow) {change : Change}
    (writes : change.writes = false) (stays : change ≠ .drain) :
    resolution.Pairs id (outlet.take change) (shadow.take change) := by
  refine ⟨fun old => ?_, fun new => ?_⟩
  · obtain ⟨before, there, alike, extended, unwritten⟩ := pairs.old old
    exact ⟨before, there, Outlet.textless_congr alike change, extended.take change,
      fun silent => (unwritten silent).take extended.grown writes stays⟩
  · obtain ⟨rfl, muffled⟩ := pairs.new new
    refine ⟨?_, (Outlet.sink_take outlet change).1 ▸ muffled⟩
    cases change with
    | drain => exact absurd rfl stays
    | _ => rfl

/-- Whether a delivery goes on does not matter. -/
theorem Pairs.withFlags (pairs : resolution.Pairs id outlet shadow) (flushing again : Bool) :
    resolution.Pairs id { outlet with flushing := flushing, again := again }
      { shadow with flushing := flushing, again := again } := by
  refine ⟨fun old => ?_, fun new => ?_⟩
  · obtain ⟨before, there, alike, extended, unwritten⟩ := pairs.old old
    refine ⟨before, there, ?_, ⟨extended.grown, extended.ordered, extended.unforked⟩,
      fun silent => ⟨(unwritten silent).texts, (unwritten silent).spelled⟩⟩
    exact congrArg (fun outlet : Outlet Continuation Observer =>
      { outlet with flushing := flushing, again := again }) alike
  · obtain ⟨rfl, muffled⟩ := pairs.new new
    exact ⟨rfl, muffled⟩

/-! ## Rounds of a delivery -/

section Rounds

def draining (outlet : Outlet Continuation Observer) :
    List String × Outcome × Outlet Continuation Observer :=
  ({ outlet with again := false } : Outlet _ _).drain

def sinkWith (pieces : List String) : Sink Continuation Observer → Sink Continuation Observer
  | .collect text result onResult => .collect (text ++ String.join pieces) result onResult
  | .stream listeners => .stream listeners

theorem draining_sink (outlet : Outlet Continuation Observer) :
    (draining outlet).2.2.sink = outlet.sink :=
  (Outlet.sink_drain _).1

/-- What ends an outlet that gathers gives it its result. -/
theorem takeUp_concluding (gathers : outlet.sink.text?.isSome = true)
    (finishes : outlet.finished = true) (pieces : List String) {outcome : Outcome}
    (concludes : outcome.isOver = true) :
    ∃ final, (takeUp outlet pieces outcome).outlet.HasResult final := by
  unfold takeUp
  split
  · cases outcome with
    | pending => cases concludes
    | finished => exact ⟨_, finishes, "", none, rfl⟩
    | failed error => exact ⟨_, finishes, "", none, rfl⟩
  · rename_i streams
    rw [streams] at gathers
    cases gathers

/-- Anything else that leaves an outlet is gathered, or told. -/
theorem takeUp_going {outcome : Outcome} (pieces : List String)
    (going : outlet.sink.text?.isSome = true → outcome.isOver = false) :
    (takeUp outlet pieces outcome).handedOn = none ∧
      (takeUp outlet pieces outcome).outlet =
        { outlet with sink := sinkWith pieces outlet.sink } := by
  unfold takeUp
  split
  · rename_i gathers
    have pending := going (by rw [gathers]; rfl)
    cases outcome with
    | pending => exact ⟨rfl, by rw [gathers]; rfl⟩
    | finished => cases pending
    | failed error => cases pending
  · rename_i streams
    exact ⟨rfl, by rw [streams, sinkWith, ← streams]⟩

/-- A round that ends an outlet that gathers gives it its result. -/
theorem round_concluding (gathers : outlet.sink.text?.isSome = true)
    (concludes : (draining outlet).2.1.isOver = true) :
    outlet.finished = false ∧ ∃ final, (round outlet).outlet.HasResult final := by
  have unfinished : outlet.finished = false := by
    cases isDone : outlet.finished with
    | false => rfl
    | true =>
        rw [draining, Outlet.drain_finished
          (show ({ outlet with again := false } : Outlet _ _).finished = true from isDone)]
            at concludes
        cases concludes
  have finishes : (draining outlet).2.2.finished = true := by
    rw [draining, Outlet.drain_eq
      (show ({ outlet with again := false } : Outlet _ _).finished = false from unfinished)]
        at concludes ⊢
    exact concludes
  exact ⟨unfinished, takeUp_concluding (draining_sink outlet ▸ gathers) finishes _ concludes⟩

/-- Any other round only lets leave what can. -/
theorem round_going
    (going : outlet.sink.text?.isSome = true → (draining outlet).2.1.isOver = false) :
    (round outlet).handedOn = none ∧
      (round outlet).outlet =
        { (draining outlet).2.2 with sink := sinkWith (draining outlet).1 outlet.sink } := by
  rw [← draining_sink outlet] at going ⊢
  exact takeUp_going _ going

/-- Where texts differ, the same leaves but for them. -/
theorem draining_textless (alike : shadow.textless = outlet.textless) :
    (draining shadow).2.1 = (draining outlet).2.1 ∧
      (draining shadow).2.2.textless = (draining outlet).2.2.textless := by
  have alikeThen : ({ shadow with again := false } : Outlet _ _).textless =
      ({ outlet with again := false } : Outlet _ _).textless :=
    congrArg (fun outlet : Outlet Continuation Observer => { outlet with again := false }) alike
  have ofOutlet := Outlet.textless_drain { outlet with again := false }
  have ofShadow := Outlet.textless_drain { shadow with again := false }
  unfold draining
  rw [← ofOutlet.1, ← ofOutlet.2, ← ofShadow.1, ← ofShadow.2, alikeThen]
  exact ⟨rfl, rfl⟩

theorem textless_sinkWith (outlet : Outlet Continuation Observer) (pieces : List String)
    {sink : Sink Continuation Observer} (same : outlet.sink = sink) :
    ({ outlet with sink := sinkWith pieces sink } : Outlet _ _).textless = outlet.textless := by
  subst same
  unfold Outlet.textless sinkWith
  cases outlet.sink <;> rfl

/-- What leaves is gathered, so that the same is spelled. -/
theorem spelled_draining (outlet : Outlet Continuation Observer) :
    ({ (draining outlet).2.2 with sink := sinkWith (draining outlet).1 outlet.sink } :
      Outlet _ _).spelled? = outlet.spelled? := by
  unfold Outlet.spelled?
  cases outlet.sink with
  | stream listeners => rfl
  | collect text result onResult =>
      have joined : String.join (draining outlet).1 ++
          String.join ((draining outlet).2.2.waiting.map Segment.text) =
            String.join (outlet.waiting.map Segment.text) := by
        cases isDone : outlet.finished with
        | true =>
            rw [draining, Outlet.drain_finished
              (show ({ outlet with again := false } : Outlet _ _).finished = true from isDone)]
            exact String.empty_append
        | false =>
            rw [draining, Outlet.drain_eq
              (show ({ outlet with again := false } : Outlet _ _).finished = false from isDone)]
            exact Outlet.join_drainWaiting outlet.waiting
      simp only [sinkWith, Sink.text?, Option.map_some, ← joined, String.append_assoc]

theorem gathers_of_textless (alike : shadow.textless = outlet.textless) :
    shadow.sink.text?.isSome = outlet.sink.text?.isSome := by
  have sinks := congrArg (fun outlet => outlet.sink.text?.isSome) alike
  simp only [Outlet.textless] at sinks
  cases first : outlet.sink <;> cases second : shadow.sink <;> rw [first, second] at sinks <;>
    first | rfl | cases sinks

/-- A round at an outlet that was there gives it a result, or leaves it beside the other one. -/
theorem Pairs.round_old (pairs : resolution.Pairs id outlet shadow)
    (old : id < resolution.base.outlets.size) :
    (outlet.finished = false ∧ ∃ final, (round outlet).outlet.HasResult final) ∨
      (round outlet).handedOn = none ∧ (round shadow).handedOn = none ∧
        resolution.Pairs id (round outlet).outlet (round shadow).outlet := by
  obtain ⟨before, there, alike, extended, unwritten⟩ := pairs.old old
  by_cases ends : outlet.sink.text?.isSome = true ∧ (draining outlet).2.1.isOver = true
  · exact .inl (round_concluding ends.1 ends.2)
  · have going : outlet.sink.text?.isSome = true → (draining outlet).2.1.isOver = false := by
      intro gathers
      simpa [gathers] using ends
    obtain ⟨sameOutcome, alikeThen⟩ := draining_textless alike
    have goingAlso : shadow.sink.text?.isSome = true → (draining shadow).2.1.isOver = false := by
      rw [sameOutcome, gathers_of_textless alike]
      exact going
    obtain ⟨nothing, became⟩ := round_going going
    obtain ⟨nothingAlso, becameAlso⟩ := round_going goingAlso
    refine .inr ⟨nothing, nothingAlso, fun _ => ⟨before, there, ?_, ?_, fun silent => ?_⟩,
      fun new => absurd old (Nat.not_lt.mpr new)⟩
    · rw [became, becameAlso, textless_sinkWith _ _ (draining_sink shadow),
        textless_sinkWith _ _ (draining_sink outlet), alikeThen]
    · have still : before.Extended { outlet with again := false } :=
        ⟨extended.grown, extended.ordered, extended.unforked⟩
      have left : before.Extended (draining outlet).2.2 := still.take .drain
      rw [became]
      exact ⟨left.grown, left.ordered, left.unforked⟩
    · obtain ⟨texts, spelled⟩ := unwritten silent
      have still : before.Unwritten { outlet with again := false } := ⟨texts, spelled⟩
      have silently : Change.drain.writes = false := rfl
      rw [became]
      exact ⟨still.texts_take extended.grown silently, (spelled_draining outlet).trans spelled⟩

/-- What becomes of a new outlet in a round does not depend on the older taps. -/
theorem round_upTo (pot : Nat) (outlet : Outlet Continuation Observer) :
    round (outletUpTo pot outlet) =
      ⟨outletUpTo pot (round outlet).outlet, (round outlet).events,
        (round outlet).handedOn.map fun handed => (handed.1.upTo pot, handed.2)⟩ := by
  have drained : draining (outletUpTo pot outlet) =
      ((draining outlet).1, (draining outlet).2.1, outletUpTo pot (draining outlet).2.2) := by
    unfold outletUpTo
    rw [draining_sink]
    exact Outlet.drain_withSink { outlet with again := false } _
  have taken : ∀ (left : Outlet Continuation Observer) (pieces : List String) (outcome : Outcome),
      takeUp (outletUpTo pot left) pieces outcome =
        ⟨outletUpTo pot (takeUp left pieces outcome).outlet, (takeUp left pieces outcome).events,
          (takeUp left pieces outcome).handedOn.map
            fun handed => (handed.1.upTo pot, handed.2)⟩ := by
    intro left pieces outcome
    obtain ⟨_, _, _, _, _, _, sink⟩ := left
    cases sink with
    | stream listeners => rfl
    | collect text result onResult => cases outcome <;> cases onResult <;> rfl
  have whole : round (outletUpTo pot outlet) =
      takeUp (draining (outletUpTo pot outlet)).2.2 (draining (outletUpTo pot outlet)).1
        (draining (outletUpTo pot outlet)).2.1 := rfl
  rw [whole, drained]
  exact taken _ _ _

/-- A new outlet goes on with nothing but captures on muffled branches. -/
theorem round_muffled (muffled : resolution.MuffledSink outlet.sink) :
    resolution.MuffledSink (round outlet).outlet.sink ∧
      ∀ continuation result, (round outlet).handedOn = some (continuation, result) →
        ∃ branch next, continuation = .capture branch next ∧ resolution.Muffles branch := by
  rw [← draining_sink outlet] at muffled
  have whole : round outlet =
      takeUp (draining outlet).2.2 (draining outlet).1 (draining outlet).2.1 := rfl
  rw [whole]
  unfold takeUp
  split
  · rename_i text result onResult gathers
    rw [gathers] at muffled
    split
    · refine ⟨fun _ _ continuation same => ?_, fun _ _ none => by cases none⟩
      cases same
      exact muffled _ _ _ rfl
    · refine ⟨fun _ _ _ same => (by cases same), fun continuation result handed => ?_⟩
      obtain ⟨found, there, same⟩ := Option.map_eq_some_iff.mp handed
      cases same
      subst there
      exact muffled _ _ _ rfl
  · exact ⟨muffled, fun _ _ none => by cases none⟩

end Rounds

/-! ## Deliveries -/

/-- Reactions that go on alike without the older taps. -/
structure Reacts (resolution : Resolution) (handlers : Handlers Continuation Observer State) :
    Prop where
  keep : ∀ id result, handlers.Keep (Store.HasResult id result)
  hears : handlers.hear = hear
  resume : ∀ (holds : Prop) branch next result, (holds → resolution.Muffles branch) →
    resolution.Agrees holds (fun _ => True) (handlers.resume (.capture branch next) result)
      (handlers.resume (.capture (branch.upTo resolution.pot) next) result)

theorem Reacts.handOver (reacts : resolution.Reacts handlers) (id : OutletId)
    (result : Except RenderError String)
    (handedOn : Option (Continuation × Except RenderError String)) :
    Keeps (Store.HasResult id result) (handOver handlers handedOn) := by
  cases handedOn with
  | none => exact .pure _
  | some handed => exact (reacts.keep id result).resume _ _

/-- New outlets have no results that were there. -/
theorem Lasts.put {store : Store Continuation Observer State} (lasts : resolution.Lasts store)
    (new : resolution.base.outlets.size ≤ id) (outlet : Outlet Continuation Observer)
    (events : List Event) : resolution.Lasts ((store.put id outlet).noting events) := by
  intro other result has
  obtain ⟨found, here, hasResult⟩ := lasts other result has
  obtain ⟨_, there, -⟩ := has
  have different : id ≠ other := by
    rintro rfl
    exact absurd (Store.lt_size_of_outlet there) (Nat.not_lt.mpr new)
  exact ⟨found, by rw [Store.noting_outlets, Store.put_outlets_of_ne _ _ different, here],
    hasResult⟩

namespace Shadows

variable {Result : Type} {good : Result → Prop} {image : Result → Result}

/-- An action that looks at an outlet first. -/
theorem withOutlet {next nextAlso : Option (Outlet Continuation Observer) → Action Result}
    (nowhere : resolution.Shadows holds good image (next none) (nextAlso none))
    (there : ∀ outlet shadow, resolution.Shadows (holds ∧ resolution.Pairs id outlet shadow) good
      image (next (some outlet)) (nextAlso (some shadow))) :
    resolution.Shadows holds good image (outlet? id >>= next) (outlet? id >>= nextAlso) := by
  refine ⟨fun other result => (Keeps.outlet? id).bind fun found => ?_,
    fun held store other result later lasts beside ran => ?_⟩
  · cases found with
    | none => exact nowhere.keeps other result
    | some outlet => exact (there outlet outlet).keeps other result
  · rw [run_bind, run_outlet?, Option.bind_some] at ran ⊢
    cases seen : store.outlets[id]? with
    | none =>
        rw [seen] at ran
        rw [beside.nowhere seen]
        exact nowhere.goes held store other result later lasts beside ran
    | some outlet =>
        obtain ⟨shadow, also, pairs⟩ := beside.there seen
        rw [seen] at ran
        rw [also]
        exact (there outlet shadow).goes ⟨held, pairs⟩ store other result later lasts beside ran

/-- Both outlets are changed alike. -/
theorem modifyOutlet {change : Outlet Continuation Observer → Outlet Continuation Observer}
    (keeps : ∀ result outlet, Outlet.HasResult result outlet →
      Outlet.HasResult result (change outlet))
    (pairing : holds → ∀ outlet shadow, resolution.Pairs id outlet shadow →
      resolution.Pairs id (change outlet) (change shadow)) :
    resolution.Agrees holds (fun _ => True) (modifyOutlet id change)
      (Output.modifyOutlet id change) := by
  refine ⟨fun _ result => .modifyOutlet fun _ outlet => keeps result outlet,
    fun held store other result later _ beside ran => .inr ?_⟩
  cases there : store.outlets[id]? with
  | none =>
      rw [run_modifyOutlet_none there] at ran
      cases ran
      exact ⟨trivial, other, run_modifyOutlet_none (beside.nowhere there) _, beside⟩
  | some outlet =>
      obtain ⟨shadow, also, pairs⟩ := beside.there there
      rw [run_modifyOutlet there] at ran
      cases ran
      exact ⟨trivial, _, run_modifyOutlet also _, beside.put (pairing held _ _ pairs)⟩

theorem ite {test testAlso : Bool} {first second firstAlso secondAlso : Action Result}
    (same : holds → testAlso = test)
    (yes : resolution.Shadows holds good image first firstAlso)
    (no : resolution.Shadows holds good image second secondAlso) :
    resolution.Shadows holds good image (if test then first else second)
      (if testAlso then firstAlso else secondAlso) := by
  cases test with
  | true => exact yes.replace fun held => by rw [same held]; rfl
  | false => exact no.replace fun held => by rw [same held]; rfl

/-- A round goes on alike, unless it gives an outlet that was there its result. -/
theorem flushRound (reacts : resolution.Reacts handlers) (id : OutletId) :
    resolution.Agrees holds (fun _ => True) (flushRound handlers id)
      (Output.flushRound handlers id) := by
  refine ⟨fun other result => .flushRound (reacts.keep other result),
    fun held store other again reached lasts beside ran => ?_⟩
  cases there : store.outlets[id]? with
  | none =>
      rw [run_flushRound_none there] at ran
      cases ran
      exact .inr ⟨trivial, other, run_flushRound_none (beside.nowhere there), beside⟩
  | some outlet =>
      obtain ⟨shadow, also, pairs⟩ := beside.there there
      have bound := Store.lt_size_of_outlet there
      rw [flushRound_eq_round there reacts.hears] at ran
      obtain ⟨⟨nothing, later⟩, handed, same⟩ := Option.bind_eq_some_iff.mp ran
      cases same
      rw [flushRound_eq_round also reacts.hears]
      -- It remains to hand on alike what there is to hand on.
      suffices resolution.HasEnded later ∨ ∃ after,
          handOver handlers (round shadow).handedOn
            ((other.put id (round shadow).outlet).noting (round shadow).events) =
              some ((), after) ∧ resolution.Beside later after by
        refine this.imp_right fun ⟨after, handedAlso, besideThen⟩ =>
          ⟨trivial, after, ?_, besideThen⟩
        rw [handedAlso, Option.bind_some, besideThen.again id]
        rfl
      rcases Nat.lt_or_ge id resolution.base.outlets.size with old | new
      · rcases pairs.round_old old with ⟨unfinished, final, ended⟩ | ⟨none, noneAlso, pairsThen⟩
        · -- The outlet has come to a result, which stays.
          refine .inl ⟨id, old, final, ?_, fun result has => ?_⟩
          · refine reacts.handOver id final _ _ _ _ ?_ handed
            exact ⟨_, Store.put_outlets_self _ _ bound, ended⟩
          · obtain ⟨found, here, isDone, -⟩ := lasts id result has
            cases here.symm.trans there
            cases unfinished.symm.trans isDone
        · rw [none] at handed
          cases handed
          rw [noneAlso]
          exact .inr ⟨_, rfl, (beside.put pairsThen).noting _ _⟩
      · obtain ⟨rfl, muffled⟩ := pairs.new new
        obtain ⟨muffledThen, onward⟩ := round_muffled muffled
        have pairsThen : resolution.Pairs id (round outlet).outlet
            (outletUpTo resolution.pot (round outlet).outlet) :=
          ⟨fun old => absurd old (Nat.not_lt.mpr new), fun _ => ⟨rfl, muffledThen⟩⟩
        have besideThen := (beside.put pairsThen).noting (round outlet).events (round outlet).events
        rw [round_upTo]
        cases handsOn : (round outlet).handedOn with
        | none =>
            rw [handsOn] at handed
            cases handed
            exact .inr ⟨_, rfl, besideThen⟩
        | some pair =>
            obtain ⟨continuation, result⟩ := pair
            obtain ⟨branch, next, rfl, muffles⟩ := onward continuation result handsOn
            rw [handsOn] at handed
            exact ((reacts.resume True branch next result fun _ => muffles).goes trivial _ _ _ _
              (lasts.put new _ _) besideThen handed).imp_right And.right

theorem flushRounds (reacts : resolution.Reacts handlers) (id : OutletId) (rounds : Nat) :
    resolution.Agrees holds (fun _ => True) (flushRounds handlers id rounds)
      (Output.flushRounds handlers id rounds) := by
  induction rounds generalizing holds with
  | zero => exact outOfSteps
  | succ rounds inductionHypothesis =>
      refine (flushRound reacts id).bind fun again => ?_
      cases again with
      | true => exact inductionHypothesis
      | false => exact pure (fun _ => trivial) fun _ => rfl

/-- Whether a delivery goes on, and goes on again, is noted in both stores. -/
theorem modifyFlags (change : Outlet Continuation Observer → Bool × Bool)
    (alike : ∀ outlet shadow, resolution.Pairs id outlet shadow → change shadow = change outlet) :
    resolution.Agrees holds (fun _ => True)
      (Output.modifyOutlet id fun outlet =>
        { outlet with flushing := (change outlet).1, again := (change outlet).2 })
      (Output.modifyOutlet id fun outlet =>
        { outlet with flushing := (change outlet).1, again := (change outlet).2 }) := by
  refine modifyOutlet (fun _ _ has => has) fun _ outlet shadow pairs => ?_
  rw [alike outlet shadow pairs]
  exact pairs.withFlags _ _

theorem flush (reacts : resolution.Reacts handlers) (id : OutletId) :
    resolution.Agrees holds (fun _ => True) (flush handlers id) (Output.flush handlers id) := by
  refine withOutlet (pure (fun _ => trivial) fun _ => rfl) fun outlet shadow => ?_
  refine ite (fun held => held.2.same.2.1) ?_ ?_
  · exact modifyFlags (fun outlet => (outlet.flushing, true)) fun _ _ pairs =>
      congrArg (·, true) pairs.same.2.1
  · refine (modifyFlags (fun outlet => (true, outlet.again)) fun _ _ pairs =>
      congrArg (true, ·) pairs.same.2.2).bind fun _ => (flushRounds reacts id _).bind fun _ => ?_
    exact modifyFlags (fun outlet => (false, outlet.again)) fun _ _ pairs =>
      congrArg (false, ·) pairs.same.2.2

/-! ## Handles -/

/-- Where the handle is onto an outlet that was there, nothing passes its taps without the older
ones, and with them what they make of the empty text. -/
theorem passTaps_old (muffles : holds → resolution.Muffles writer)
    (old : writer.outlet < resolution.base.outlets.size) (text : String) :
    resolution.Shadows holds (· = Tap.passedAll resolution.older "") (fun _ => "")
      (Writer.passTaps writer.taps text)
      (Writer.passTaps (writer.upTo resolution.pot).taps text) := by
  refine ⟨fun _ _ => .passTaps _ _, fun held store other passed later _ beside ran => .inr ?_⟩
  obtain ⟨newer, absent, taps⟩ := (muffles held).old old
  have upTo : (writer.upTo resolution.pot).taps = newer ++ [.collect resolution.pot] := by
    rw [Writer.upTo, taps, Tap.upTo_append absent]
  rw [Writer.run_passTaps, taps, Tap.passedAll_append] at ran
  cases ran
  rw [Writer.run_passTaps, upTo, Tap.passedAll_append]
  refine ⟨rfl, _, rfl, beside.withPots ?_ Tap.size_filled⟩
  rw [Tap.filled_append, Tap.filled_append]
  exact ((beside.pots.filled newer text).fill _ _).filledBefore resolution.known ""

/-- Taps of handles onto new outlets stay. -/
theorem passTaps_new (taps : List Tap) (text : String) :
    resolution.Agrees holds (fun _ => True) (Writer.passTaps taps text)
      (Writer.passTaps taps text) := by
  refine ⟨fun _ _ => .passTaps _ _, fun _ store other passed later _ beside ran => .inr ?_⟩
  rw [Writer.run_passTaps] at ran
  cases ran
  rw [Writer.run_passTaps]
  exact ⟨trivial, _, rfl, beside.withPots (beside.pots.filled taps text) Tap.size_filled⟩

/-- An outlet that was there is written to by older taps only. -/
theorem writeOne (id : OutletId) (old : id < resolution.base.outlets.size)
    (spoken : Tap.AreSilent resolution.older → ¬ holds) (number : Nat) (text : String) :
    resolution.Agrees holds (fun _ => True)
      (Output.modifyOutlet id fun outlet => outlet.take (.write number text))
      (Pure.pure () : Action Unit) := by
  refine ⟨fun _ _ => .modifyOutlet fun _ _ has => has,
    fun held store other nothing later _ beside ran => .inr ⟨trivial, other, rfl, ?_⟩⟩
  cases there : store.outlets[id]? with
  | none =>
      rw [run_modifyOutlet_none there] at ran
      cases ran
      exact beside
  | some outlet =>
      obtain ⟨shadow, also, pairs⟩ := beside.there there
      obtain ⟨before, base, alike, extended, unwritten⟩ := pairs.old old
      rw [run_modifyOutlet there] at ran
      cases ran
      refine beside.putOne also ⟨fun _ => ⟨before, base, ?_, ?_, fun silent => ?_⟩,
        fun new => absurd old (Nat.not_lt.mpr new)⟩
      · exact alike.trans (Outlet.textless_write outlet _ _).symm
      · exact extended.take _
      · exact absurd held (spoken silent)

/-- Handles onto new outlets write the same. -/
theorem write_new (same : holds → writer.upTo resolution.pot = writer)
    (new : resolution.base.outlets.size ≤ writer.outlet) (text : String) :
    resolution.Shadows holds (resolution.Stems writer) (Writer.upTo resolution.pot)
      (writer.write text) (writer.write text) := by
  refine (passTaps_new writer.taps text).bind fun passed => ?_
  refine ite (fun _ => rfl) (pure (fun _ => .refl _) fun held => (same held.1).symm) ?_
  have writing : resolution.Agrees (holds ∧ True) (fun _ => True)
      (Output.modifyOutlet writer.outlet fun outlet => outlet.take (.write writer.segment passed))
      (Output.modifyOutlet writer.outlet fun outlet =>
        outlet.take (.write writer.segment passed)) := by
    refine modifyOutlet (fun _ _ has => has) fun _ outlet shadow pairs => ?_
    obtain ⟨rfl, muffled⟩ := pairs.new new
    exact ⟨fun old => absurd old (Nat.not_lt.mpr new), fun _ => ⟨rfl, muffled⟩⟩
  exact writing.bind fun _ => pure (fun _ => .refl _) fun held => (same held.1.1).symm

/-- What is written reaches the pot, or a new outlet. -/
theorem write (muffles : holds → resolution.Muffles writer) (text : String) :
    resolution.Shadows holds (resolution.Stems writer) (Writer.upTo resolution.pot)
      (writer.write text) ((writer.upTo resolution.pot).write text) := by
  rcases Nat.lt_or_ge writer.outlet resolution.base.outlets.size with old | new
  · refine (passTaps_old muffles old text).bind fun passed => ?_
    by_cases silent : passed.isEmpty
    · rw [if_pos silent]
      exact pure (fun _ => .refl _) fun _ => rfl
    · rw [if_neg silent]
      have spoken : Tap.AreSilent resolution.older →
          ¬(holds ∧ passed = Tap.passedAll resolution.older "") := by
        rintro isSilent ⟨-, rfl⟩
        exact silent (by rw [isSilent]; rfl)
      have writing := writeOne writer.outlet old spoken writer.segment passed
      have whole : resolution.Shadows _ (resolution.Stems writer) (Writer.upTo resolution.pot)
          (_ >>= fun _ => Pure.pure writer)
          (Pure.pure () >>= fun _ => Pure.pure (writer.upTo resolution.pot)) :=
        writing.bind fun _ => pure (fun _ => .refl _) fun _ => rfl
      exact whole
  · have same : holds → writer.upTo resolution.pot = writer := fun held => by
      rw [Writer.upTo, Tap.upTo_of_notMem ((muffles held).new new)]
    exact (write_new same new text).replace fun held => by rw [same held]

/-- Both segments are ended, failed or forked at. -/
theorem takeChange (id : OutletId) {change : Change} (writes : change.writes = false)
    (stays : change ≠ .drain) :
    resolution.Agrees holds (fun _ => True)
      (Output.modifyOutlet id fun outlet => outlet.take change)
      (Output.modifyOutlet id fun outlet => outlet.take change) := by
  refine modifyOutlet (fun result outlet has => ?_) fun _ _ _ pairs => pairs.take writes stays
  obtain ⟨isDone, text, onResult, sink⟩ := has
  refine ⟨?_, text, onResult, (Outlet.sink_take outlet change).1.trans sink⟩
  cases change with
  | drain => exact absurd rfl stays
  | _ => exact isDone

theorem fork (writer : Writer) :
    resolution.Shadows holds
      (fun handles => resolution.Stems writer handles.1 ∧ resolution.Stems writer handles.2)
      (Prod.map (Writer.upTo resolution.pot) (Writer.upTo resolution.pot)) (writer.fork)
      (writer.upTo resolution.pot).fork := by
  refine withOutlet (pure (fun _ => ⟨.refl _, .refl _⟩) fun _ => rfl) fun outlet shadow => ?_
  have writes : (Change.fork writer.segment).writes = false := rfl
  refine bind (takeChange writer.outlet writes Change.noConfusion) fun _ =>
    pure (fun _ => ⟨.atSegment _ _, .atSegment _ _⟩) fun held => ?_
  rw [held.1.2.same.1]
  rfl

theorem finish (reacts : resolution.Reacts handlers) (writer : Writer) :
    resolution.Agrees holds (fun _ => True) (writer.finish handlers)
      ((writer.upTo resolution.pot).finish handlers) := by
  have writes : (Change.finish writer.segment).writes = false := rfl
  exact bind (takeChange writer.outlet writes Change.noConfusion) fun _ => flush reacts _

theorem finishWith (reacts : resolution.Reacts handlers)
    (muffles : holds → resolution.Muffles writer) (text : String) :
    resolution.Agrees holds (fun _ => True) (writer.finishWith handlers text)
      ((writer.upTo resolution.pot).finishWith handlers text) :=
  (write muffles text).bind fun _ => finish reacts _

theorem fail (reacts : resolution.Reacts handlers) (writer : Writer) (error : RenderError) :
    resolution.Shadows holds (resolution.Stems writer) (Writer.upTo resolution.pot)
      (writer.fail handlers error) ((writer.upTo resolution.pot).fail handlers error) := by
  have writes : (Change.fail writer.segment error).writes = false := rfl
  exact bind (takeChange writer.outlet writes Change.noConfusion) fun _ =>
    (flush reacts _).bind fun _ => pure (fun _ => .refl _) fun _ => rfl

/-- An outlet that is opened meanwhile is opened in both stores. -/
theorem openOutlet {sink : Sink Continuation Observer}
    (muffled : holds → resolution.MuffledSink sink) :
    resolution.Agrees holds (fun id => resolution.base.outlets.size ≤ id) (openOutlet sink)
      (Output.openOutlet (sinkUpTo resolution.pot sink)) := by
  refine ⟨fun _ _ => .openOutlet sink, fun held store other id later _ beside ran => .inr ?_⟩
  rw [run_openOutlet] at ran
  cases ran
  refine ⟨beside.grown, { other with
    outlets := other.outlets.push (Outlet.opened (sinkUpTo resolution.pot sink)) },
    by rw [run_openOutlet, beside.size]; rfl, { beside with
      size := by simp [beside.size]
      grown := by simpa using Nat.le_succ_of_le beside.grown
      pairs := fun found outlet shadow there also => ?_ }⟩
  simp only [Array.getElem?_push, beside.size] at there also
  split at there
  · rename_i isNew
    rw [if_pos isNew] at also
    cases there
    cases also
    exact ⟨fun old => absurd old (Nat.not_lt.mpr (isNew ▸ beside.grown)),
      fun _ => ⟨rfl, muffled held⟩⟩
  · rename_i isOld
    rw [if_neg isOld] at also
    exact beside.pairs found outlet shadow there also

theorem result? {id : OutletId} (new : holds → resolution.base.outlets.size ≤ id) :
    resolution.Agrees holds (fun _ => True) (result? id) (Output.result? id) := by
  refine withOutlet (pure (fun _ => trivial) fun _ => rfl) fun outlet shadow => ?_
  have sameSink : holds ∧ resolution.Pairs id outlet shadow →
      shadow.sink = sinkUpTo resolution.pot outlet.sink := by
    rintro ⟨held, pairs⟩
    rw [(pairs.new (new held)).1]
    rfl
  cases sink : outlet.sink with
  | collect text result onResult =>
      simp only [sink]
      refine replace (pure (fun _ => trivial) fun _ => rfl) fun held => ?_
      rw [sameSink held, sink]
      rfl
  | stream listeners =>
      simp only [sink]
      refine replace (pure (fun _ => trivial) fun _ => rfl) fun held => ?_
      rw [sameSink held, sink]
      rfl

/-- A body is captured; the branch that waits for it stems from the handle. -/
theorem capture (reacts : resolution.Reacts handlers) (muffles : holds → resolution.Muffles writer)
    {render : Writer → Action (Except RenderError Writer)}
    (rendering : ∀ (held : Prop) inner, (held → resolution.Muffles inner) →
      resolution.Shadows held (fun _ => True) (Except.map (Writer.upTo resolution.pot))
        (render inner) (render (inner.upTo resolution.pot)))
    (next : Capture) :
    resolution.Shadows holds (resolution.Stems writer) (Writer.upTo resolution.pot)
      (writer.capture handlers render fun branch => .capture branch next)
      ((writer.upTo resolution.pot).capture handlers render
        fun branch => .capture branch next) := by
  refine (fork writer).bind fun ⟨branch, behind⟩ => ?_
  have muffled : holds ∧ resolution.Stems writer branch ∧ resolution.Stems writer behind →
      resolution.MuffledSink (.collect "" none (some (.capture branch next))) := by
    rintro ⟨held, stems, -⟩ _ _ _ ⟨⟩
    exact ⟨branch, next, rfl, (muffles held).stem stems⟩
  refine (openOutlet muffled).bind fun id =>
    (rendering _ (Writer.onOutlet id) fun held => .onOutlet held.2).bind fun ended => ?_
  cases ended with
  | ok last =>
      exact (finish reacts last).bind fun _ => pure (fun held => held.1.1.1.2.2) fun _ => rfl
  | error error =>
      exact (fail reacts (Writer.onOutlet id) error).discard.bind fun _ =>
        pure (fun held => held.1.1.1.2.2) fun _ => rfl

/-- A branch goes on after a capture. -/
theorem settle (reacts : resolution.Reacts handlers) (branch : Writer)
    (result : Except RenderError String)
    {continue? continueAlso? : String → Action (Except RenderError Writer)}
    (continuing : ∀ text, resolution.Shadows holds (fun _ => True)
      (Except.map (Writer.upTo resolution.pot)) (continue? text) (continueAlso? text)) :
    resolution.Agrees holds (fun _ => True) (branch.settle handlers result continue?)
      ((branch.upTo resolution.pot).settle handlers result continueAlso?) := by
  cases result with
  | error error => exact (fail reacts branch error).discard
  | ok text =>
      refine (continuing text).bind fun ended => ?_
      cases ended with
      | ok last => exact finish reacts last
      | error error => exact (fail reacts branch error).discard

end Shadows

end Resolution

end BraceTemplate.Render
