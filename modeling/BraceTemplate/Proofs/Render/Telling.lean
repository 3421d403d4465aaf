import BraceTemplate.Proofs.Output.Collecting
import BraceTemplate.Render.Run

/-!
# What a flush makes known

A round of a flush takes away what can leave an outlet, tells the listeners of a stream, and may
hand a result on. Listeners and reports only note events. So a flush of an outlet whose result
nobody goes on with changes that outlet, notes what is to be known, and does nothing else.
-/

namespace BraceTemplate

namespace Output

deriving instance DecidableEq for Event

variable {Continuation Listener Client : Type}

/-- A store in which more has happened. -/
def Store.noting (store : Store Continuation Listener Client) (events : List Event) :
    Store Continuation Listener Client :=
  { store with events := store.events ++ events }

@[simp]
theorem Store.noting_nil (store : Store Continuation Listener Client) :
    store.noting [] = store := by
  simp [Store.noting]

@[simp]
theorem Store.noting_noting (store : Store Continuation Listener Client)
    (first second : List Event) :
    (store.noting first).noting second = store.noting (first ++ second) := by
  have same : store.events ++ first ++ second = store.events ++ (first ++ second) :=
    Array.toList_inj.mp (by simp)
  simp only [noting, same]

@[simp]
theorem Store.noting_outlets (store : Store Continuation Listener Client) (events : List Event) :
    (store.noting events).outlets = store.outlets :=
  rfl

theorem Store.noting_put (store : Store Continuation Listener Client) (events : List Event)
    (id : OutletId) (outlet : Outlet Continuation Listener) :
    (store.noting events).put id outlet = (store.put id outlet).noting events :=
  rfl

theorem run_emit (event : Event) (store : Store Continuation Listener Client) :
    emit event store = some ((), store.noting [event]) := by
  have pushed : (store.events ++ [event] : Array Event) = store.events.push event := by simp
  rw [Store.noting, pushed]
  rfl

theorem run_emits (events : List Event) (store : Store Continuation Listener Client) :
    (events.forM emit : Run Continuation Listener Client Unit) store =
      some ((), store.noting events) := by
  induction events generalizing store with
  | nil =>
      rw [Store.noting_nil]
      rfl
  | cons event rest inductionHypothesis =>
      have first : (((event :: rest).forM emit : Run Continuation Listener Client Unit)) store =
          (do emit event; rest.forM emit : Run Continuation Listener Client Unit) store := rfl
      rw [first, run_bind, run_emit, Option.bind_some, inductionHypothesis, Store.noting_noting]
      rfl

/-- What observers of a stream note on an occasion. -/
def Listeners.notes (listeners : Listeners Observer) (occasion : Occasion) : List Event :=
  (listeners.on occasion.channel).flatMap fun observer => observer.notes occasion

theorem Listeners.withChannel_on (listeners : Listeners Listener) (channel : Channel) :
    (listeners.withChannel channel []).withChannel channel
      (listeners.on channel ++ (listeners.withChannel channel []).on channel) = listeners := by
  cases channel <;> simp [withChannel, on]

end Output

namespace Render

open Output

def reported (label : String) : Except RenderError String → Event
  | .ok text => .done label text
  | .error error => .failed label error

theorem resume_report (calls : Calls) (label : String) (result : Except RenderError String) :
    resume calls (.report label) result = emit (reported label result) := by
  cases result <;> rfl

/-- Handlers that make known what is reported, as long as there are rounds, and what is heard. -/
structure Speaks (handlers : Handlers Continuation Observer State) : Prop where
  report : 0 < handlers.rounds → ∀ label result,
    handlers.resume (.report label) result = emit (reported label result)
  hear : handlers.hear = hear

theorem callsWithin_speaks (depth : Nat) : Speaks (callsWithin depth).handlers := by
  refine ⟨fun rounds label result => ?_, rfl⟩
  obtain ⟨fewer, rfl⟩ := Nat.exists_eq_add_of_lt rounds
  unfold callsWithin
  simp only [Nat.zero_add]
  rw [resumeWithin, resume_report]

section Rounds

variable {store : Store Continuation Observer State} {id : OutletId}
variable {outlet : Outlet Continuation Observer} {listeners : Listeners Observer}
variable {handlers : Handlers Continuation Observer State}

theorem run_hear (observer : Observer) (occasion : Occasion)
    (store : Store Continuation Observer State) :
    hear observer occasion store = some (observer, store.noting (observer.notes occasion)) := by
  unfold hear Observer.watch
  rw [run_bind, run_emits]
  rfl

theorem run_hearAll (observers : List Observer) (occasion : Occasion)
    (store : Store Continuation Observer State) :
    (observers.mapM fun observer => hear observer occasion) store =
      some (observers,
        store.noting (observers.flatMap fun observer => observer.notes occasion)) := by
  induction observers generalizing store with
  | nil =>
      rw [List.flatMap_nil, Store.noting_nil]
      rfl
  | cons observer rest inductionHypothesis =>
      rw [List.mapM_cons, run_bind, run_hear, Option.bind_some, run_bind, inductionHypothesis,
        Option.bind_some, run_pure, Store.noting_noting, List.flatMap_cons]

/-- A stream tells its observers of an occasion, and keeps them. -/
theorem tell_eq (there : store.outlets[id]? = some outlet)
    (streams : outlet.sink = .stream listeners) (hears : handlers.hear = hear)
    (occasion : Occasion) :
    tell handlers id occasion store = some ((), store.noting (listeners.notes occasion)) := by
  have bound := Store.lt_size_of_outlet there
  have taken :
      ((store.put id { outlet with
          sink := .stream (listeners.withChannel occasion.channel []) }).noting
        (listeners.notes occasion)).outlets[id]? = _ :=
    Store.put_outlets_self store _ bound
  unfold Output.tell
  rw [run_bind, listeners?_eq there streams, Option.bind_some]
  simp only
  rw [run_bind, modifyListeners_eq there streams, Option.bind_some, run_bind, hears, run_hearAll,
    Option.bind_some, ← Listeners.notes, modifyListeners_eq taken rfl, Listeners.withChannel_on,
    Store.noting_put, Store.put_put, ← streams]
  exact congrArg (fun same => some ((), Store.noting same _)) (Store.put_self there)

theorem tellAll_eq (there : store.outlets[id]? = some outlet)
    (streams : outlet.sink = .stream listeners) (hears : handlers.hear = hear)
    (occasions : List Occasion) :
    occasions.forM (tell handlers id) store =
      some ((), store.noting (occasions.flatMap listeners.notes)) := by
  induction occasions generalizing store with
  | nil =>
      rw [List.flatMap_nil, Store.noting_nil]
      rfl
  | cons occasion rest inductionHypothesis =>
      have first : (occasion :: rest).forM (tell handlers id) store =
          (do tell handlers id occasion; rest.forM (tell handlers id) : Action Unit) store := rfl
      have still : (store.noting (listeners.notes occasion)).outlets[id]? = some outlet := there
      rw [first, run_bind, tell_eq there streams hears, Option.bind_some,
        inductionHypothesis still, Store.noting_noting, List.flatMap_cons]

/-- What a round makes of an outlet: what the outlet is then, what is noted, and what is handed on.
-/
structure Delivered where
  outlet : Outlet Continuation Observer
  events : List Event
  handedOn : Option (Continuation × Except RenderError String)

def takeUp (outlet : Outlet Continuation Observer) (pieces : List String) (outcome : Outcome) :
    Delivered :=
  match outlet.sink with
  | .collect text result onResult =>
    match outcome.result? (text ++ String.join pieces) with
    | none =>
      ⟨{ outlet with sink := .collect (text ++ String.join pieces) result onResult }, [], none⟩
    | some final =>
      ⟨{ outlet with sink := .collect "" (some final) none }, [], onResult.map (·, final)⟩
  | .stream listeners =>
    ⟨outlet, (pieces.map Occasion.data ++ outcome.occasions).flatMap listeners.notes, none⟩

def round (outlet : Outlet Continuation Observer) : Delivered :=
  let drained := ({ outlet with again := false } : Outlet Continuation Observer).drain
  takeUp drained.2.2 drained.1 drained.2.1

theorem round_withSink (outlet : Outlet Continuation Observer)
    (sink : Sink Continuation Observer) :
    round { outlet with sink := sink } =
      takeUp { ({ outlet with again := false } : Outlet _ _).drain.2.2 with sink := sink }
        ({ outlet with again := false } : Outlet _ _).drain.1
        ({ outlet with again := false } : Outlet _ _).drain.2.1 := by
  have drained := Outlet.drain_withSink ({ outlet with again := false } : Outlet _ _) sink
  unfold round
  simp only [drained]

def handOver (handlers : Handlers Continuation Observer State)
    (handedOn : Option (Continuation × Except RenderError String)) : Action Unit :=
  match handedOn with
  | none => pure ()
  | some (continuation, result) => handlers.resume continuation result

theorem deliver_eq (there : store.outlets[id]? = some outlet) (hears : handlers.hear = hear)
    (pieces : List String) (outcome : Outcome) :
    deliver handlers id pieces outcome store =
      handOver handlers (takeUp outlet pieces outcome).handedOn
        ((store.put id (takeUp outlet pieces outcome).outlet).noting
          (takeUp outlet pieces outcome).events) := by
  unfold takeUp
  split
  · rename_i text result onResult gathers
    cases outcome with
    | pending =>
        rw [deliver_pending there gathers]
        simp [Outcome.result?, handOver, run_pure]
    | finished =>
        rw [deliver_finished there gathers]
        cases onResult <;> simp [Outcome.result?, handOver, handOn]
    | failed error =>
        rw [deliver_failed there gathers]
        cases onResult <;> simp [Outcome.result?, handOver, handOn]
  · rename_i listeners streams
    rw [deliver_stream there streams, tellAll_eq there streams hears, Store.put_self there]
    rfl

theorem flushRound_eq_round (there : store.outlets[id]? = some outlet)
    (hears : handlers.hear = hear) :
    flushRound handlers id store =
      (handOver handlers (round outlet).handedOn
        ((store.put id (round outlet).outlet).noting (round outlet).events)).bind fun found =>
          some ((found.2.outlets[id]?.map Outlet.again).getD false, found.2) := by
  have bound := Store.lt_size_of_outlet there
  rw [flushRound_eq there, run_bind,
    deliver_eq (Store.put_outlets_self _ _ bound) hears, Store.put_put]
  refine congrArg (Option.bind _) (funext fun found => ?_)
  rw [run_bind, run_outlet?, Option.bind_some]
  cases found.2.outlets[id]? <;> rfl

theorem takeUp_again (outlet : Outlet Continuation Observer) (pieces : List String)
    (outcome : Outcome) : (takeUp outlet pieces outcome).outlet.again = outlet.again := by
  unfold takeUp
  split
  · split <;> rfl
  · rfl

theorem round_again (outlet : Outlet Continuation Observer) :
    (round outlet).outlet.again = false :=
  (takeUp_again ..).trans (Outlet.sink_drain _).2.2

theorem takeUp_flushing (outlet : Outlet Continuation Observer) (pieces : List String)
    (outcome : Outcome) (flushing : Bool) :
    takeUp { outlet with flushing := flushing } pieces outcome =
      { takeUp outlet pieces outcome with
        outlet := { (takeUp outlet pieces outcome).outlet with flushing := flushing } } := by
  unfold takeUp
  simp only
  split
  · split <;> rfl
  · rfl

/-- A round does not look at whether a flush goes on. -/
theorem round_flushing (outlet : Outlet Continuation Observer) (flushing : Bool) :
    round { outlet with flushing := flushing } =
      { round outlet with outlet := { (round outlet).outlet with flushing := flushing } } := by
  have drained :
      ({ outlet with flushing := flushing, again := false } : Outlet _ _).drain =
        (({ outlet with again := false } : Outlet _ _).drain.1,
          ({ outlet with again := false } : Outlet _ _).drain.2.1,
          { ({ outlet with again := false } : Outlet _ _).drain.2.2 with
            flushing := flushing }) := by
    unfold Outlet.drain
    simp only
    split <;> rfl
  unfold round
  simp only [drained]
  exact takeUp_flushing ..

/-- A round at a finished outlet has nothing to do. -/
theorem round_finished (finished : outlet.finished = true) :
    round outlet = ⟨{ outlet with again := false }, [], none⟩ := by
  unfold round
  rw [Outlet.drain_finished
    (show ({ outlet with again := false } : Outlet _ _).finished = true from finished)]
  unfold takeUp
  cases sink : outlet.sink with
  | collect text result onResult => simp [Outcome.result?]
  | stream listeners => simp [Outcome.occasions]

def IsQuiet (outlet : Outlet Continuation Observer) : Prop :=
  ∀ branch next result, (round outlet).handedOn ≠ some (.capture branch next, result)

def flushed (outlet : Outlet Continuation Observer) : Outlet Continuation Observer :=
  { (round outlet).outlet with flushing := false }

def Delivered.said (delivered : Delivered) : List Event :=
  delivered.events ++
    match delivered.handedOn with
    | some (.report label, result) => [reported label result]
    | _ => []

def said (outlet : Outlet Continuation Observer) : List Event :=
  (round outlet).said

/-- A flush within a delivery asks for another round. -/
theorem flush_within (there : store.outlets[id]? = some outlet)
    (flushing : outlet.flushing = true) :
    flush handlers id store = some ((), store.put id { outlet with again := true }) := by
  unfold flush
  rw [run_bind, run_outlet?, there, Option.bind_some]
  simp only
  rw [if_pos flushing, run_modifyOutlet there]

theorem flush_eq_rounds (there : store.outlets[id]? = some outlet)
    (idle : outlet.flushing = false) :
    flush handlers id store =
      (flushRounds handlers id handlers.rounds
        (store.put id { outlet with flushing := true })).bind fun found =>
          modifyOutlet id (fun outlet => { outlet with flushing := false }) found.2 := by
  unfold flush
  simp only [run_bind, run_outlet?, there, Option.bind_some, idle, Bool.false_eq_true, if_false,
    run_modifyOutlet there]

theorem flush_outOfRounds (there : store.outlets[id]? = some outlet)
    (idle : outlet.flushing = false) (rounds : handlers.rounds = 0) :
    flush handlers id store = none := by
  rw [flush_eq_rounds there idle, rounds]
  rfl

theorem handOver_quiet (speaks : Speaks handlers) (rounds : 0 < handlers.rounds)
    (quiet : IsQuiet outlet) (store : Store Continuation Observer State) :
    handOver handlers (round outlet).handedOn (store.noting (round outlet).events) =
      some ((), store.noting (said outlet)) := by
  unfold said Delivered.said
  cases handsOn : (round outlet).handedOn with
  | none => simp [handOver, run_pure]
  | some handed =>
      obtain ⟨continuation, result⟩ := handed
      cases continuation with
      | report label =>
          simp only [handOver]
          rw [speaks.report rounds, run_emit, Store.noting_noting]
      | capture branch next => exact absurd handsOn (quiet branch next result)

/-- A flush of an outlet whose result nobody goes on with takes one round. -/
theorem flush_quiet (there : store.outlets[id]? = some outlet) (idle : outlet.flushing = false)
    (quiet : IsQuiet outlet) (speaks : Speaks handlers) (rounds : 0 < handlers.rounds) :
    flush handlers id store =
      some ((), (store.put id (flushed outlet)).noting (said outlet)) := by
  have bound := Store.lt_size_of_outlet there
  obtain ⟨fewer, count⟩ := Nat.exists_eq_add_of_lt rounds
  have during := Store.put_outlets_self store
    ({ outlet with flushing := true } : Outlet Continuation Observer) bound
  have delivered := handOver_quiet speaks rounds quiet
    (store.put id { (round outlet).outlet with flushing := true })
  have left :
      ((store.put id { (round outlet).outlet with flushing := true }).noting
        (said outlet)).outlets[id]? = some { (round outlet).outlet with flushing := true } :=
    Store.put_outlets_self store _ bound
  have oneRound : flushRounds handlers id handlers.rounds
      (store.put id { outlet with flushing := true }) =
        some ((), (store.put id { (round outlet).outlet with flushing := true }).noting
          (said outlet)) := by
    rw [count, Nat.zero_add, flushRounds, run_bind, flushRound_eq_round during speaks.hear,
      round_flushing, Store.put_put, delivered]
    rw [Option.bind_some, left]
    simp only [Option.bind_some, Option.map_some, round_again, Option.getD_some,
      Bool.false_eq_true, if_false, run_pure]
  rw [flush_eq_rounds there idle, oneRound, Option.bind_some,
    run_modifyOutlet left, Store.noting_put, Store.put_put]
  rfl

theorem run_flushRound_none (nowhere : store.outlets[id]? = none) :
    flushRound handlers id store = some (false, store) := by
  unfold flushRound
  rw [run_bind, run_modifyOutlet_none nowhere, Option.bind_some, run_bind, run_outlet?, nowhere]
  rfl

theorem run_flush_none (nowhere : store.outlets[id]? = none) :
    flush handlers id store = some ((), store) := by
  unfold flush
  rw [run_bind, run_outlet?, nowhere]
  rfl

end Rounds

end Render

end BraceTemplate
