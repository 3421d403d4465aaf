import BraceTemplate.Proofs.Output.Collecting
import BraceTemplate.Proofs.Render.Tending

/-!
# Deliveries keep what is awaited tended

What leaves an outlet is gathered, and the result of a finished outlet is handed on: it is reported,
or the capture that waits for it goes on from the branch it has kept. A delivery leaves nothing that
could leave, so that every unfinished outlet halts at a segment that is awaited.
-/

namespace BraceTemplate

namespace Render

open Output

variable {refuses : HostFunction Value → Bool} {scene : Scene}
variable {store : Store Continuation Observer State} {id : OutletId} {writer : Writer}
variable {outlet later : Outlet Continuation Observer}

/-- Reactions to results that keep every awaited segment tended. -/
structure Settling (refuses : HostFunction Value → Bool)
    (handlers : Handlers Continuation Observer State) : Prop where
  report : ∀ scene label result,
    Ensures (Sound refuses scene) (handlers.resume (.report label) result)
      fun _ => Sound refuses (scene.owe label)
  capture : ∀ scene branch next result, next.Settles refuses →
    Ensures (Sound refuses (scene.use branch)) (handlers.resume (.capture branch next) result)
      fun _ => Sound refuses scene

/-- The result of an outlet is handed on. -/
theorem handOn_sound {handlers : Handlers Continuation Observer State}
    (settling : Settling refuses handlers) (sound : SoundBut refuses (· = id) scene store)
    (there : store.outlets[id]? = some outlet) (orderly : Orderly refuses scene False id later)
    (finished : later.finished = true) (onResult : Option Continuation)
    (handsOn : outlet.continuation? = onResult) {result : Except RenderError String}
    {last : Store Continuation Observer State}
    (ran : handOn handlers onResult result (store.put id later) = some ((), last)) :
    Sound refuses scene last := by
  have concluded : ∀ more due,
      (∀ stand, Tended scene.inUse store stand → Tended more (store.put id later) stand) →
      (∀ stand ∈ stands more store, stand.1 < store.outlets.size) →
      (∀ label, reports label store + unreported label (store.put id later) = due label) →
      Sound refuses ⟨scene.delivering, more, due⟩ (store.put id later) := by
    intro more due tended placed counted
    refine sound.replace there { orderly with } (fun other found different before => ?_)
      (fun stand _ => tended stand) (fun unfinished => ?_) placed (fun other member => .inl member)
      counted
    · exact { before with halting := fun unfinished _ => before.halting unfinished different }
    · rw [finished] at unfinished
      cases unfinished
  -- What the outlet was to be reported under is not to be reported by it any more.
  have sums : ∀ label, reports label store + unreported label (store.put id later) +
      (if willReport label outlet then 1 else 0) = scene.due label := by
    intro label
    have sums := unreported_put there later label
    rw [show willReport label later = false by rw [willReport, orderly.finished finished]] at sums
    have before := sound.due label
    simp only [Bool.false_eq_true, if_false] at sums
    omega
  simp only [willReport, handsOn] at sums
  cases onResult with
  | none =>
      cases ran
      exact concluded scene.inUse scene.due
        (fun stand tended => tended.put there (by simp [handsOn])) sound.placed sums
  | some continuation =>
      cases continuation with
      | report other =>
          have told := settling.report _ other result _ _ _
            (concluded scene.inUse _ (fun stand tended => tended.put there (by simp [handsOn]))
              sound.placed fun _ => rfl) ran
          simp only [Scene.owe, sums] at told
          exact told
      | capture branch next =>
          obtain ⟨below, settles⟩ := (sound.outlets id outlet there).captures branch next handsOn
          refine settling.capture scene branch next _ settles _ _ _
            (concluded (branch :: scene.inUse) scene.due (fun stand tended => ?_)
              (fun stand member => ?_) sums) ran
          · refine (tended.use branch).put there fun other continuing same sameStand => .inr ?_
            rw [handsOn] at same
            cases same
            exact sameStand ▸ List.mem_cons_self
          · rcases List.mem_cons.mp member with rfl | still
            · exact Nat.lt_trans below (Store.lt_size_of_outlet there)
            · exact sound.placed stand still

section Rounds

variable {handlers : Handlers Continuation Observer State}

/-- Nothing is delivered of an outlet that is finished. -/
theorem deliver_finishedOutlet (sound : SoundBut refuses (· = id) (scene.deliver id) store)
    (there : store.outlets[id]? = some outlet) (finished : outlet.finished = true)
    {last : Store Continuation Observer State}
    (ran : deliver handlers id [] .pending (store.put id { outlet with again := false }) =
      some ((), last)) :
    Sound refuses (scene.deliver id) last := by
  have bound := Store.lt_size_of_outlet there
  have before := sound.outlets id outlet there
  have replaced : ∀ later : Outlet Continuation Observer, later.waiting = outlet.waiting →
      later.nextNumber = outlet.nextNumber → later.flushing = outlet.flushing →
      later.finished = true → later.continuation? = outlet.continuation? →
      Sound refuses (scene.deliver id) (store.put id later) := by
    intro later waiting nextNumber flushing stillFinished handsOn
    refine sound.put there handsOn ⟨by rw [flushing]; exact before.flushing,
      by rw [waiting, nextNumber]; exact before.numbered,
      fun _ => handsOn.trans (before.finished finished), by simp [stillFinished],
      by simp [stillFinished], by rw [handsOn]; exact before.captures⟩
      (fun other different _ => different) (fun _ _ tended => tended) (by simp [stillFinished])
      sound.placed
  have thereLater := Store.put_outlets_self store { outlet with again := false } bound
  cases sink : outlet.sink with
  | collect text result onResult =>
      rw [deliver_pending thereLater sink, Store.put_put] at ran
      cases ran
      exact replaced _ rfl rfl rfl finished (by simp [Outlet.continuation?, sink])
  | stream listeners =>
      rw [deliver_stream thereLater sink] at ran
      cases ran
      exact replaced _ rfl rfl rfl finished rfl

/-- What can leave leaves, and the outlet halts at what is awaited then. -/
theorem SoundBut.gather (sound : SoundBut refuses (· = id) (scene.deliver id) store)
    (there : store.outlets[id]? = some outlet) (finished : outlet.finished = false)
    {onResult : Option Continuation} (handsOn : outlet.continuation? = onResult)
    (pending : (Outlet.drainWaiting outlet.waiting).outcome = .pending)
    (passed : List Nat) (text : String) :
    Sound refuses (scene.deliver id) (store.put id
      { outlet with
        again := false
        passed := passed
        waiting := (Outlet.drainWaiting outlet.waiting).waiting
        finished := false
        sink := .collect text none onResult }) := by
  have before := sound.outlets id outlet there
  obtain ⟨halting, awaits⟩ := Segment.drainWaiting_pending pending
  refine sound.put there handsOn.symm ⟨before.flushing,
    Segment.numbered_drainWaiting before.numbered, by simp, fun _ => ⟨_, _, rfl⟩,
    fun _ _ => .inl halting, fun branch next same => ?_⟩ (fun other different _ => different)
    (fun _ _ tended => tended) (fun _ number awaited => ?_) sound.placed
  · exact before.captures branch next (handsOn.trans same)
  · exact sound.tended id outlet there finished number (awaits number awaited)

/-- All has left, or something in front has failed, and the result is handed on. -/
theorem SoundBut.conclude (settling : Settling refuses handlers)
    (sound : SoundBut refuses (· = id) (scene.deliver id) store)
    (there : store.outlets[id]? = some outlet) {onResult : Option Continuation}
    (handsOn : outlet.continuation? = onResult) {passed : List Nat}
    {result : Except RenderError String} {last : Store Continuation Observer State}
    (handed : handOn handlers onResult result (store.put id
      { outlet with
        again := false
        passed := passed
        waiting := (Outlet.drainWaiting outlet.waiting).waiting
        finished := true
        sink := .collect "" (some result) none }) = some ((), last)) :
    Sound refuses (scene.deliver id) last := by
  have before := sound.outlets id outlet there
  refine handOn_sound settling sound there ?_ rfl onResult handsOn handed
  exact ⟨before.flushing, Segment.numbered_drainWaiting before.numbered, fun _ => rfl, by simp,
    by simp, by simp [Outlet.continuation?]⟩

/-- What can leave leaves, and where nothing more is to come the result is handed on. -/
theorem deliver_drained (settling : Settling refuses handlers)
    (sound : SoundBut refuses (· = id) (scene.deliver id) store)
    (there : store.outlets[id]? = some outlet) {last : Store Continuation Observer State}
    (ran : deliver handlers id ({ outlet with again := false } : Outlet _ _).drain.1
      ({ outlet with again := false } : Outlet _ _).drain.2.1
      (store.put id ({ outlet with again := false } : Outlet _ _).drain.2.2) = some ((), last)) :
    Sound refuses (scene.deliver id) last := by
  have bound := Store.lt_size_of_outlet there
  cases finished : outlet.finished with
  | true =>
      have still : ({ outlet with again := false } : Outlet _ _).finished = true := finished
      rw [Outlet.drain_finished still] at ran
      exact deliver_finishedOutlet sound there finished ran
  | false =>
      obtain ⟨text, onResult, sink⟩ := (sound.outlets id outlet there).gathers finished
      have handsOn : outlet.continuation? = onResult := by rw [Outlet.continuation?, sink]
      have still : ({ outlet with again := false } : Outlet _ _).finished = false := finished
      rw [Outlet.drain_eq still] at ran
      simp only at ran
      have thereLater := Store.put_outlets_self store
        { outlet with
          again := false
          passed := outlet.passed ++ (Outlet.drainWaiting outlet.waiting).passed
          waiting := (Outlet.drainWaiting outlet.waiting).waiting
          finished := (Outlet.drainWaiting outlet.waiting).outcome.isOver } bound
      cases outcome : (Outlet.drainWaiting outlet.waiting).outcome with
      | pending =>
          rw [outcome] at ran thereLater
          rw [deliver_pending thereLater sink, Store.put_put] at ran
          cases ran
          exact sound.gather there finished handsOn outcome _ _
      | finished =>
          rw [outcome] at ran thereLater
          rw [deliver_finished thereLater sink, Store.put_put] at ran
          exact sound.conclude settling there handsOn ran
      | failed error =>
          rw [outcome] at ran thereLater
          rw [deliver_failed thereLater sink, Store.put_put] at ran
          exact sound.conclude settling there handsOn ran

theorem flushRound_sound (settling : Settling refuses handlers) (id : OutletId) :
    Ensures (SoundBut refuses (· = id) (scene.deliver id)) (flushRound handlers id)
      fun again store => Sound refuses (scene.deliver id) store ∧
        ∀ outlet, store.outlets[id]? = some outlet → outlet.again = again := by
  intro store again last sound ran
  have bound := sound.delivering id List.mem_cons_self
  rw [flushRound_eq (Array.getElem?_eq_getElem bound)] at ran
  obtain ⟨_, middle, delivered, looked⟩ := bind_eq_some.mp ran
  have soundLater := deliver_drained settling sound (Array.getElem?_eq_getElem bound) delivered
  have boundLater := soundLater.delivering id List.mem_cons_self
  rw [run_bind, run_outlet?, Array.getElem?_eq_getElem boundLater] at looked
  cases looked
  refine ⟨soundLater, fun outlet there => ?_⟩
  rw [Array.getElem?_eq_getElem boundLater] at there
  exact congrArg Outlet.again (Option.some.inj there).symm

theorem flushRounds_sound (settling : Settling refuses handlers) (id : OutletId) (rounds : Nat) :
    Ensures (SoundBut refuses (· = id) (scene.deliver id)) (flushRounds handlers id rounds)
      fun _ store => Sound refuses (scene.deliver id) store ∧
        ∀ outlet, store.outlets[id]? = some outlet → outlet.again = false := by
  induction rounds with
  | zero => exact .outOfSteps
  | succ rounds inductionHypothesis =>
      refine (flushRound_sound settling id).bind fun again => ?_
      cases again with
      | false => exact .pure fun store ended => ended
      | true =>
          refine inductionHypothesis.weaken fun store held => ?_
          exact { held.1 with
            outlets := fun other outlet there =>
              { held.1.outlets other outlet there with
                halting := fun unfinished _ =>
                  (held.1.outlets other outlet there).halting unfinished not_false } }

/-- A delivery begins. -/
theorem SoundBut.begin (sound : SoundBut refuses (· = id) scene store)
    (there : store.outlets[id]? = some outlet) :
    SoundBut refuses (· = id) (scene.deliver id)
      (store.put id { outlet with flushing := true }) := by
  have before := sound.outlets id outlet there
  have putTended : ∀ stand, Tended scene.inUse store stand →
      Tended scene.inUse (store.put id { outlet with flushing := true }) stand :=
    fun stand tended => tended.put there fun branch next same _ => .inl same
  refine sound.replace there { before with
    flushing := by simp [Scene.deliver]
    halting := fun _ changed => absurd rfl changed } (fun other found different ofOther => ?_)
    (fun stand _ tended => putTended stand tended)
    (fun unfinished number awaits =>
      putTended _ (sound.tended id outlet there unfinished number awaits))
    sound.placed (fun other member => (List.mem_cons.mp member).symm) fun label => ?_
  · exact { ofOther with
      flushing := by simp [Scene.deliver, different, ofOther.flushing]
      halting := fun unfinished changed => (ofOther.halting unfinished changed).imp_right
        (And.imp_left (List.mem_cons_of_mem _)) }
  · have sums := unreported_put there { outlet with flushing := true } label
    have before := sound.due label
    have same : willReport label { outlet with flushing := true } = willReport label outlet := rfl
    rw [same] at sums
    simp only [Scene.deliver]
    omega

/-- A delivery ends once nothing has changed meanwhile. -/
theorem SoundBut.finishDelivery (sound : Sound refuses (scene.deliver id) store)
    (fresh : id ∉ scene.delivering) (there : store.outlets[id]? = some outlet)
    (settled : outlet.again = false) :
    Sound refuses scene (store.put id { outlet with flushing := false }) := by
  have before := sound.outlets id outlet there
  have putTended : ∀ stand, Tended scene.inUse store stand →
      Tended scene.inUse (store.put id { outlet with flushing := false }) stand :=
    fun stand tended => tended.put there fun branch next same _ => .inl same
  refine sound.replace there { before with
    flushing := by simp [fresh]
    halting := fun unfinished changed => ?_ } (fun other found different ofOther => ?_)
    (fun stand _ tended => putTended stand tended)
    (fun unfinished number awaits =>
      putTended _ (sound.tended id outlet there unfinished number awaits))
    sound.placed (fun other member => .inl (List.mem_cons_of_mem _ member)) fun label => ?_
  · rcases before.halting unfinished changed with halting | ⟨-, again⟩
    · exact .inl halting
    · rw [settled] at again
      cases again
  · exact { ofOther with
      flushing := by simpa [Scene.deliver, different] using ofOther.flushing
      halting := fun unfinished changed => (ofOther.halting unfinished changed).imp_right
        (And.imp_left fun delivering => (List.mem_cons.mp delivering).resolve_left different) }
  · have sums := unreported_put there { outlet with flushing := false } label
    have before := sound.due label
    have same : willReport label { outlet with flushing := false } = willReport label outlet := rfl
    rw [same] at sums
    simp only [Scene.deliver] at before
    omega

/-- A delivery leaves nothing that could leave. -/
theorem flush_sound (settling : Settling refuses handlers) (id : OutletId) :
    Ensures (SoundBut refuses (· = id) scene) (flush handlers id) fun _ => Sound refuses scene := by
  refine Ensures.outlet? fun found => ?_
  rintro store result last ⟨sound, there⟩ ran
  cases found with
  | none =>
      cases ran
      refine { sound with outlets := fun other outlet thereOther => ?_ }
      have different : other ≠ id := by
        rintro rfl
        rw [there] at thereOther
        cases thereOther
      have before := sound.outlets other outlet thereOther
      exact { before with halting := fun unfinished _ => before.halting unfinished different }
  | some outlet =>
      have before := sound.outlets id outlet there
      simp only at ran
      split at ran
      · rename_i flushing
        rw [run_modifyOutlet there] at ran
        cases ran
        exact sound.put there rfl { before with
          halting := fun _ _ => .inr ⟨before.flushing.mp flushing, rfl⟩ }
          (fun other different _ => different) (fun _ _ tended => tended)
          (sound.tended id outlet there) sound.placed
      · rename_i idle
        have fresh : id ∉ scene.delivering :=
          fun delivering => idle (before.flushing.mpr delivering)
        obtain ⟨_, first, began, ranOn⟩ := bind_eq_some.mp ran
        rw [run_modifyOutlet there] at began
        cases began
        obtain ⟨_, middle, delivered, ended⟩ := bind_eq_some.mp ranOn
        obtain ⟨soundLater, settled⟩ := flushRounds_sound settling id _ _ _ _
          (sound.begin there) delivered
        have bound := soundLater.delivering id List.mem_cons_self
        have thereLater := Array.getElem?_eq_getElem bound
        rw [run_modifyOutlet thereLater] at ended
        cases ended
        exact soundLater.finishDelivery fresh thereLater (settled _ thereLater)

/-- A segment is ended, or fails: its handle is not needed any more. -/
theorem SoundBut.settle (sound : Sound refuses (scene.use writer) store)
    (there : store.outlets[writer.outlet]? = some outlet) {change : Segment → Segment}
    (sameNumber : ∀ segment, (change segment).number = segment.number)
    (settles : ∀ segment, ¬(change segment).IsAwaited) :
    SoundBut refuses (· = writer.outlet) scene
      (store.put writer.outlet (outlet.change writer.segment change)) := by
  have before := sound.outlets _ outlet there
  refine sound.put there rfl { before with
    numbered := before.numbered.of_numbers (Segment.numbers_changeSegment sameNumber)
    halting := fun _ changed => absurd rfl changed } (fun _ _ _ unchanged => unchanged)
    (fun stand elsewhere tended => tended.drop fun same => elsewhere (congrArg Prod.fst same))
    (fun unfinished number awaits => ?_)
    (fun stand member => sound.placed stand (List.mem_cons_of_mem _ member))
  have different : number ≠ writer.segment := fun same =>
    Segment.not_awaits_changeSegment settles before.numbered.nodup (same ▸ awaits)
  exact (sound.tended _ outlet there unfinished number
    (awaits.of_changeSegment sameNumber different)).drop
      fun same => different (congrArg Prod.snd same)

theorem finish_sound (settling : Settling refuses handlers) (writer : Writer) :
    Ensures (Sound refuses (scene.use writer)) (writer.finish handlers)
      fun _ => Sound refuses scene := by
  intro store result last sound ran
  obtain ⟨outlet, there⟩ := sound.exists_outlet
  rw [Writer.finish, run_bind, run_modifyOutlet there, Option.bind_some] at ran
  refine flush_sound settling _ _ _ _ (sound.settle there ?_ fun segment isAwaited => ?_) ran
  · exact fun segment => rfl
  · cases isAwaited.unended

/-- A handle whose segment has failed is not needed any more. -/
theorem fail_drop (settling : Settling refuses handlers) (writer : Writer) (error : RenderError) :
    Ensures (Sound refuses (scene.use writer)) (writer.fail handlers error)
      fun next store => next = writer ∧ Sound refuses scene store := by
  intro store result last sound ran
  obtain ⟨outlet, there⟩ := sound.exists_outlet
  rw [Writer.fail, run_bind, run_modifyOutlet there, Option.bind_some] at ran
  obtain ⟨_, middle, flushed, same⟩ := bind_eq_some.mp ran
  cases same
  refine ⟨rfl, flush_sound settling _ _ _ _ (sound.settle there ?_ fun segment isAwaited => ?_)
    flushed⟩
  · exact fun segment => rfl
  · cases isAwaited.sound

/-- It may still be used. -/
theorem fail_sound (settling : Settling refuses handlers) (writer : Writer) (error : RenderError) :
    Ensures (Sound refuses (scene.use writer)) (writer.fail handlers error)
      fun next store => next = writer ∧ Sound refuses (scene.use writer) store := by
  have twice : Ensures (Sound refuses ((scene.use writer).use writer)) (writer.fail handlers error)
      fun next store => next = writer ∧ Sound refuses (scene.use writer) store :=
    fail_drop settling writer error
  exact twice.weaken fun store sound => sound.use (sound.placed writer.stand List.mem_cons_self)

section Opening

variable {onResult : Option Continuation} {inUse : List Writer}

theorem opened_cases (there : (store.open later).outlets[id]? = some outlet) :
    (id = store.outlets.size ∧ outlet = later) ∨ store.outlets[id]? = some outlet := by
  rw [Store.open, Array.getElem?_push] at there
  split at there
  · rename_i same
    exact .inl ⟨same, (Option.some.inj there).symm⟩
  · exact .inr there

theorem unreported_open (later : Outlet Continuation Observer) (label : String) :
    unreported label (store.open later) =
      unreported label store + if willReport label later then 1 else 0 := by
  rw [unreported, Store.open, Array.toList_push, List.countP_append, List.countP_singleton]
  rfl

/-- A new outlet halts at once. -/
theorem Orderly.opened {changed : Prop} (fresh : id ∉ scene.delivering)
    (captures : ∀ branch next, onResult = some (.capture branch next) →
      branch.outlet < id ∧ next.Settles refuses) :
    Orderly refuses scene changed id (.opened (.collect "" none onResult)) where
  flushing := by simp [Outlet.opened, fresh]
  numbered := ⟨by simp [Outlet.opened], by simp [Outlet.opened, Segment.fresh]⟩
  finished := by simp [Outlet.opened]
  gathers := fun _ => ⟨_, _, rfl⟩
  halting := fun _ _ => .inl (.front ⟨rfl, rfl⟩)
  captures := captures

/-- Handles may be left to what the result of a new outlet is handed on to. -/
theorem Tended.opened (tended : Tended scene.inUse store stand)
    (handed : ∀ writer ∈ scene.inUse, writer ∈ inUse ∨
      ∃ next, onResult = some (.capture writer next)) :
    Tended inUse (store.open (.opened (.collect "" none onResult))) stand := by
  cases tended with
  | capture there handsOn same => exact .capture (Store.open_outlets_of_some there) handsOn same
  | kept member =>
      obtain ⟨writer, present, same⟩ := List.mem_map.mp member
      rcases List.mem_append.mp present with used | kept
      · rcases handed writer used with still | ⟨next, rfl⟩
        · exact .kept (List.mem_map.mpr ⟨writer, List.mem_append_left _ still, same⟩)
        · exact .capture (Store.open_outlets_self _) rfl same
      · exact .kept (List.mem_map.mpr ⟨writer, List.mem_append_right _ kept, same⟩)

/-- A new outlet is in the hands of whoever writes to it first. -/
theorem openOutlet_sound (onResult : Option Continuation) (inUse : List Writer)
    (captures : ∀ branch next, onResult = some (.capture branch next) →
      branch ∈ scene.inUse ∧ next.Settles refuses)
    (handed : ∀ writer ∈ scene.inUse, writer ∈ inUse ∨
      ∃ next, onResult = some (.capture writer next))
    (kept : ∀ writer ∈ inUse, writer ∈ scene.inUse) :
    Ensures (Sound refuses scene) (openOutlet (.collect "" none onResult) : Action OutletId)
      fun id => Sound refuses ⟨scene.delivering, Writer.onOutlet id :: inUse,
        fun label => scene.due label +
          if willReport label (.opened (.collect "" none onResult)) then 1 else 0⟩ := by
  intro store id last sound ran
  cases ran
  have size : (store.open (.opened (.collect "" none onResult))).outlets.size =
      store.outlets.size + 1 :=
    Array.size_push ..
  have known : ∀ writer ∈ scene.inUse, writer.outlet < store.outlets.size := fun writer member =>
    sound.placed writer.stand (List.mem_map_of_mem (List.mem_append_left _ member))
  refine ⟨fun other member => ?_, fun other outlet there => ?_,
    fun other outlet there unfinished number awaits => ?_, fun stand member => ?_, sound.engine,
    fun label => ?_⟩
  · exact size ▸ Nat.lt_succ_of_lt (sound.delivering other member)
  · rcases opened_cases there with ⟨rfl, rfl⟩ | before
    · refine .opened (fun member => Nat.lt_irrefl _ (sound.delivering _ member))
        fun branch next same => ?_
      obtain ⟨member, settles⟩ := captures branch next same
      exact ⟨known branch member, settles⟩
    · exact { sound.outlets other outlet before with }
  · rcases opened_cases there with ⟨rfl, rfl⟩ | before
    · obtain ⟨segment, member, rfl, -⟩ := awaits
      obtain rfl : segment = Segment.fresh 0 := by simpa [Outlet.opened] using member
      exact .kept List.mem_cons_self
    · exact ((sound.tended other outlet before unfinished number awaits).opened handed).use _
  · refine size ▸ ?_
    rcases List.mem_cons.mp member with rfl | later
    · exact Nat.lt_succ_self _
    · obtain ⟨writer, present, rfl⟩ := List.mem_map.mp later
      refine Nat.lt_succ_of_lt ?_
      rcases List.mem_append.mp present with used | waiting
      · exact known writer (kept writer used)
      · exact sound.placed writer.stand (List.mem_map_of_mem (List.mem_append_right _ waiting))
  · simp only
    rw [← sound.due label, Nat.add_assoc]
    exact congrArg (reports label store + ·) (unreported_open _ label)

end Opening

end Rounds

end Render

end BraceTemplate
