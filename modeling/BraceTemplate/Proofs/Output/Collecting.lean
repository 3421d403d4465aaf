import BraceTemplate.Proofs.Output.Branches

/-!
# Outlets that nobody waits for

An outlet that gathers a text which nobody takes. Whatever is done to its segments, a flush takes
one round and runs nothing else, so that writing, forking, ending and failing always end; nothing
but the outlet changes, and it stays such an outlet.
-/

namespace BraceTemplate.Output

section Collecting

variable {Continuation Listener Client : Type}

/-- An outlet that gathers, outside of any delivery, and hands nothing on. -/
structure Outlet.Collects (outlet : Outlet Continuation Listener) : Prop where
  idle : outlet.flushing = false
  sink : ∃ text result, outlet.sink = .collect text result none

theorem Outlet.sink_drain (outlet : Outlet Continuation Listener) :
    outlet.drain.2.2.sink = outlet.sink ∧ outlet.drain.2.2.flushing = outlet.flushing ∧
      outlet.drain.2.2.again = outlet.again := by
  unfold Outlet.drain
  split <;> exact ⟨rfl, rfl, rfl⟩

/-- What leaves an outlet does not depend on where it goes. -/
theorem Outlet.drain_withSink (outlet : Outlet Continuation Listener)
    (sink : Sink Continuation Listener) :
    ({ outlet with sink := sink } : Outlet Continuation Listener).drain =
      (outlet.drain.1, outlet.drain.2.1, { outlet.drain.2.2 with sink := sink }) := by
  unfold Outlet.drain
  split <;> rfl

theorem Outlet.drain_eq {outlet : Outlet Continuation Listener}
    (unfinished : outlet.finished = false) :
    outlet.drain = ((drainWaiting outlet.waiting).pieces, (drainWaiting outlet.waiting).outcome,
      { outlet with
        passed := outlet.passed ++ (drainWaiting outlet.waiting).passed
        waiting := (drainWaiting outlet.waiting).waiting
        finished := (drainWaiting outlet.waiting).outcome.isOver }) := by
  rw [Outlet.drain, unfinished]
  rfl

theorem Outlet.drain_finished {outlet : Outlet Continuation Listener}
    (finished : outlet.finished = true) : outlet.drain = ([], .pending, outlet) := by
  rw [Outlet.drain, if_pos finished]

variable {store : Store Continuation Listener Client} {id : OutletId}
variable {outlet : Outlet Continuation Listener}

/-- What is delivered to an outlet that hands nothing on goes to its sink. -/
theorem deliver_collects {text : String} {result : Option (Except RenderError String)}
    (there : store.outlets[id]? = some outlet) (gathers : outlet.sink = .collect text result none)
    (pieces : List String) (outcome : Outcome) :
    ∃ gathered final, ∀ handlers : Handlers Continuation Listener Client,
      deliver handlers id pieces outcome store =
        some ((), store.put id { outlet with sink := .collect gathered final none }) := by
  cases outcome with
  | pending => exact ⟨_, _, fun handlers => deliver_pending there gathers pieces⟩
  | finished => exact ⟨_, _, fun handlers => deliver_finished there gathers pieces⟩
  | failed error => exact ⟨_, _, fun handlers => deliver_failed there gathers pieces error⟩

theorem flushRound_collects {text : String} {result : Option (Except RenderError String)}
    (there : store.outlets[id]? = some outlet)
    (gathers : outlet.sink = .collect text result none) :
    ∃ later : Outlet Continuation Listener, later.flushing = outlet.flushing ∧
      (∃ text result, later.sink = .collect text result none) ∧
        ∀ handlers : Handlers Continuation Listener Client,
          flushRound handlers id store = some (false, store.put id later) := by
  have bound := Store.lt_size_of_outlet there
  obtain ⟨sameSink, sameFlushing, sameAgain⟩ :=
    Outlet.sink_drain ({ outlet with again := false } : Outlet _ _)
  have drainedThere := Store.put_outlets_self store
    ({ outlet with again := false } : Outlet _ _).drain.2.2 bound
  obtain ⟨gathered, final, delivered⟩ := deliver_collects drainedThere (sameSink.trans gathers)
    ({ outlet with again := false } : Outlet _ _).drain.1
    ({ outlet with again := false } : Outlet _ _).drain.2.1
  refine ⟨{ ({ outlet with again := false } : Outlet _ _).drain.2.2 with
    sink := .collect gathered final none }, sameFlushing, ⟨gathered, final, rfl⟩,
    fun handlers => ?_⟩
  rw [flushRound_eq there, run_bind, delivered, Option.bind_some, Store.put_put, run_bind,
    run_outlet?, Store.put_outlets_self _ _ bound, Option.bind_some]
  simp only [sameAgain, run_pure]

/-- A flush ends after one round, whatever the handlers are. -/
theorem flush_collects (there : store.outlets[id]? = some outlet) (collects : outlet.Collects) :
    ∃ later : Outlet Continuation Listener, later.Collects ∧
      ∀ handlers : Handlers Continuation Listener Client, 0 < handlers.rounds →
        flush handlers id store = some ((), store.put id later) := by
  have bound := Store.lt_size_of_outlet there
  obtain ⟨text, result, gathers⟩ := collects.sink
  have started := Store.put_outlets_self store
    ({ outlet with flushing := true } : Outlet _ _) bound
  obtain ⟨later, -, sink, round⟩ := flushRound_collects started gathers
  refine ⟨{ later with flushing := false }, ⟨rfl, sink⟩, fun handlers rounds => ?_⟩
  obtain ⟨fewer, count⟩ := Nat.exists_eq_add_of_lt rounds
  have oneRound : flushRounds handlers id handlers.rounds
      (store.put id { outlet with flushing := true }) = some ((), store.put id later) := by
    rw [count, Nat.zero_add, flushRounds, run_bind, round, Store.put_put]
    rfl
  unfold flush
  simp only [run_bind, run_outlet?, there, Option.bind_some, collects.idle, Bool.false_eq_true,
    if_false, run_modifyOutlet there, oneRound,
    run_modifyOutlet (Store.put_outlets_self store later bound), Store.put_put]

/-- A handle without taps onto an outlet. -/
structure Writer.IsOn (id : OutletId) (writer : Writer) : Prop where
  outlet : writer.outlet = id
  untapped : writer.taps = []

theorem Outlet.Collects.change (collects : outlet.Collects) (number : Nat)
    (change : Segment → Segment) : (outlet.change number change).Collects :=
  ⟨collects.idle, collects.sink⟩

variable {writer : Writer}

theorem write_collects (there : store.outlets[writer.outlet]? = some outlet)
    (collects : outlet.Collects) (untapped : writer.taps = []) (text : String) :
    ∃ later : Outlet Continuation Listener, later.Collects ∧
      writer.write text store = some (writer, store.put writer.outlet later) := by
  refine ⟨_, collects.change writer.segment fun segment => segment.written text, ?_⟩
  rw [Writer.write_direct (.inl untapped)]
  have changed := run_modifyOutlet there fun outlet =>
    outlet.change writer.segment fun segment => segment.written text
  unfold Writer.wrote
  rw [untapped]
  exact congrArg (fun later => some (writer, later)) (congrArg Prod.snd (Option.some.inj changed))

theorem fork_collects (there : store.outlets[writer.outlet]? = some outlet)
    (collects : outlet.Collects) :
    ∃ (branch next : Nat) (later : Outlet Continuation Listener), later.Collects ∧
      writer.fork store =
        some (({ writer with segment := branch }, { writer with segment := next }),
          store.put writer.outlet later) := by
  refine ⟨outlet.nextNumber, outlet.nextNumber + 1, outlet.fork writer.segment,
    ⟨collects.idle, collects.sink⟩, ?_⟩
  unfold Writer.fork
  simp only [run_bind, run_outlet?, there, Option.bind_some, run_modifyOutlet there, run_pure]

/-- Changing a segment and flushing. -/
theorem flush_changed (there : store.outlets[writer.outlet]? = some outlet)
    (collects : outlet.Collects) (change : Segment → Segment) :
    ∃ later : Outlet Continuation Listener, later.Collects ∧
      ∀ handlers : Handlers Continuation Listener Client, 0 < handlers.rounds →
        (do
          modifyOutlet writer.outlet fun outlet => outlet.change writer.segment change
          flush handlers writer.outlet : Run Continuation Listener Client Unit) store =
          some ((), store.put writer.outlet later) := by
  have bound := Store.lt_size_of_outlet there
  obtain ⟨later, collected, flushed⟩ := flush_collects (Store.put_outlets_self store _ bound)
    (collects.change writer.segment change)
  refine ⟨later, collected, fun handlers rounds => ?_⟩
  rw [run_bind, run_modifyOutlet there, Option.bind_some]
  simp only
  rw [flushed handlers rounds, Store.put_put]

theorem finish_collects (there : store.outlets[writer.outlet]? = some outlet)
    (collects : outlet.Collects) :
    ∃ later : Outlet Continuation Listener, later.Collects ∧
      ∀ handlers : Handlers Continuation Listener Client, 0 < handlers.rounds →
        writer.finish handlers store = some ((), store.put writer.outlet later) :=
  flush_changed there collects _

theorem fail_collects (there : store.outlets[writer.outlet]? = some outlet)
    (collects : outlet.Collects) (error : RenderError) :
    ∃ later : Outlet Continuation Listener, later.Collects ∧
      ∀ handlers : Handlers Continuation Listener Client, 0 < handlers.rounds →
        writer.fail handlers error store = some (writer, store.put writer.outlet later) := by
  obtain ⟨later, collected, flushed⟩ := flush_changed there collects
    fun segment => { segment with error := some error }
  refine ⟨later, collected, fun handlers rounds => ?_⟩
  have ran := flushed handlers rounds
  unfold Writer.fail
  rw [run_bind, run_modifyOutlet there, Option.bind_some] at ran ⊢
  simp only at ran ⊢
  rw [run_bind, ran]
  rfl

end Collecting

end BraceTemplate.Output
