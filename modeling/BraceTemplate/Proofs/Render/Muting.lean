import BraceTemplate.Host.Helper
import BraceTemplate.Proofs.Render.Sessions

/-!
# What an error halts

Once an outlet is finished, by its end or by an error, nothing more is made known of it. Everything
else goes on: from then on whatever is done goes on exactly as if the outlet had never failed and
nobody had listened to it. Helpers and functions are called, templates are asked for and registered
as before, whatever stands in the body that failed or around it.
-/

namespace BraceTemplate.Render

open Output Render.Script

/-- An outlet as if nothing had failed in it and nobody listened to it. -/
def muted (outlet : Outlet Continuation Observer) : Outlet Continuation Observer :=
  { outlet with
    waiting := outlet.waiting.map fun segment => { segment with error := none }
    finished := false
    sink := .collect "" none none }

/-- Two stores that agree in everything but one outlet. -/
structure SameBut (id : OutletId) (one other : Store Continuation Observer State) : Prop where
  client : one.client = other.client
  pots : one.pots = other.pots
  events : one.events = other.events
  size : one.outlets.size = other.outlets.size
  outlets : ∀ found, found ≠ id → one.outlets[found]? = other.outlets[found]?

/-- A finished outlet, and one with as many segments that nobody listens to. -/
structure MutedBy (outlet mute : Outlet Continuation Observer) : Prop where
  finished : outlet.finished = true
  sink : ∃ text result, mute.sink = .collect text result none
  number : outlet.nextNumber = mute.nextNumber
  flushing : outlet.flushing = mute.flushing

theorem mutedBy_muted {outlet : Outlet Continuation Observer} (finished : outlet.finished = true) :
    MutedBy outlet (muted outlet) :=
  ⟨finished, ⟨"", none, rfl⟩, rfl, rfl⟩

theorem nextNumber_drain (outlet : Outlet Continuation Observer) :
    outlet.drain.2.2.nextNumber = outlet.nextNumber := by
  unfold Outlet.drain
  split <;> rfl

/-- A round at an outlet that nobody listens to makes nothing known. -/
theorem round_mute {outlet : Outlet Continuation Observer} {text : String}
    {result : Option (Except RenderError String)} (sink : outlet.sink = .collect text result none) :
    (round outlet).events = [] ∧ (round outlet).handedOn = none ∧
      (round outlet).outlet.nextNumber = outlet.nextNumber ∧
        ∃ text result, (round outlet).outlet.sink = .collect text result none := by
  have left := (Outlet.sink_drain ({ outlet with again := false } : Outlet _ _)).1.trans sink
  have number := nextNumber_drain ({ outlet with again := false } : Outlet _ _)
  unfold round
  simp only
  generalize ({ outlet with again := false } : Outlet _ _).drain = drained at left number ⊢
  unfold takeUp
  rw [left]
  simp only
  split
  · exact ⟨rfl, rfl, number, _, _, rfl⟩
  · exact ⟨rfl, rfl, number, _, _, rfl⟩

theorem MutedBy.flushed {outlet mute : Outlet Continuation Observer}
    (mutedBy : MutedBy outlet mute) :
    MutedBy (flushed outlet) (flushed mute) ∧ said outlet = [] ∧ said mute = [] := by
  obtain ⟨text, result, sink⟩ := mutedBy.sink
  obtain ⟨noEvents, nothing, number, sinkLater⟩ := round_mute sink
  unfold Render.flushed said Delivered.said
  rw [round_finished mutedBy.finished, noEvents, nothing]
  exact ⟨⟨mutedBy.finished, sinkLater, mutedBy.number.trans number.symm, rfl⟩, rfl, rfl⟩

def mutedAside (id : OutletId) : Aside fun _ => True where
  id? := some id
  relates first one second other := one = other ∧
    ∃ outlet mute, first = some outlet ∧ second = some mute ∧ MutedBy outlet mute
  notes := by
    rintro first one second other events ⟨rfl, found⟩ _
    exact ⟨rfl, found⟩
  there := by
    rintro first one second other ⟨_, outlet, mute, ofFirst, ofSecond, _⟩ _
    exact ⟨outlet, mute, ofFirst, ofSecond⟩
  agrees := by
    rintro first one second other ⟨_, _, _, ⟨⟩, ⟨⟩, mutedBy⟩
    exact ⟨mutedBy.number, mutedBy.flushing⟩
  changes := by
    rintro first one second other ⟨same, _, _, ⟨⟩, ⟨⟩, mutedBy⟩ number change
    exact ⟨same, _, _, rfl, rfl, mutedBy.finished, mutedBy.sink, mutedBy.number,
      mutedBy.flushing⟩
  forks := by
    rintro first one second other ⟨same, _, _, ⟨⟩, ⟨⟩, mutedBy⟩ number
    exact ⟨same, _, _, rfl, rfl, mutedBy.finished, mutedBy.sink,
      congrArg (· + 2) mutedBy.number, mutedBy.flushing⟩
  within := by
    rintro first one second other ⟨same, _, _, ⟨⟩, ⟨⟩, mutedBy⟩ _
    exact ⟨same, _, _, rfl, rfl, mutedBy.finished, mutedBy.sink, mutedBy.number,
      mutedBy.flushing⟩
  quiet := by
    rintro first one second other ⟨_, _, _, ⟨⟩, ⟨⟩, mutedBy⟩
    obtain ⟨text, result, sink⟩ := mutedBy.sink
    refine ⟨fun branch next final => ?_, fun branch next final => ?_⟩
    · rw [round_finished mutedBy.finished]
      nofun
    · rw [(round_mute sink).2.1]
      nofun
  flushes := by
    rintro first one second other ⟨same, _, _, ⟨⟩, ⟨⟩, mutedBy⟩ _
    obtain ⟨later, nothing, alsoNothing⟩ := mutedBy.flushed
    rw [nothing, alsoNothing]
    exact ⟨congrArg (fun events : Array Event => events ++ ([] : List Event)) same, _, _, rfl, rfl,
      later⟩

theorem parallel_muted {store : Store Continuation Observer State} {id : OutletId}
    {outlet : Outlet Continuation Observer} (there : store.outlets[id]? = some outlet)
    (finished : outlet.finished = true) :
    (Terms.any (mutedAside id)).Parallel store (store.put id (muted outlet)) := by
  refine ⟨rfl, trivial, rfl, by simp, fun other different => ?_,
    fun _ found _ _ => Terms.fine_any found, rfl, outlet, muted outlet, there, ?_,
    mutedBy_muted finished⟩
  · rw [Store.put_outlets_of_ne]
    rintro rfl
    exact different rfl
  · exact Store.put_outlets_self _ _ (Store.lt_size_of_outlet there)

theorem Terms.Parallel.sameBut {id : OutletId} {one other : Store Continuation Observer State}
    (parallel : (Terms.any (mutedAside id)).Parallel one other) : SameBut id one other :=
  ⟨parallel.client, parallel.pots, parallel.related.1, parallel.size,
    fun found different => parallel.same found fun same => different (Option.some.inj same).symm⟩

theorem shares_muted (id : OutletId) : (Terms.any (mutedAside id)).Shares :=
  ⟨fun _ _ _ _ related => ⟨related.1, fun _ _ => trivial⟩,
    fun _ _ _ _ related => ⟨rfl, related.2⟩⟩

/-- From the moment an outlet is finished, in particular once its error has been delivered, whatever
steps a body still has, and whatever steps a session takes, go on exactly as if the outlet had not
failed and nobody listened to it: the error halts what is made known of a render, and nothing else.
-/
theorem finished_goesOnAsMuted {store : Store Continuation Observer State} {id : OutletId}
    {outlet : Outlet Continuation Observer} (there : store.outlets[id]? = some outlet)
    (finished : outlet.finished = true) :
    (∀ depth program context ops writer,
      Alike (SameBut id) IsHandle
        (runOps (callsWithin depth) program context ops writer store)
        (runOps (callsWithin depth) program context ops writer (store.put id (muted outlet)))) ∧
      ∀ depth loaded steps,
        Alike (SameBut id) (fun _ => True) (runSteps (callsWithin depth) loaded steps store)
          (runSteps (callsWithin depth) loaded steps (store.put id (muted outlet))) := by
  have parallel := parallel_muted there finished
  refine ⟨fun depth program context ops writer => ?_, fun depth loaded steps => ?_⟩
  · have respect := callsWithin_respect (Terms.any (mutedAside id)) depth
    exact (respect.runOps program ops context.holds_true _ _ parallel).mono
      (fun _ _ still => still.sameBut) fun _ handle => handle
  · have respect := callsWithin_respect (Terms.any (mutedAside id)) depth
    exact (Terms.respects_runSteps respect Terms.queues_any (shares_muted id)
      (fun step _ => Terms.allows_any step) _ _ parallel).mono (fun _ _ still => still.sameBut)
        fun _ _ => trivial

def waitingEngine : Engine :=
  ((Engine.ofConfig .standard).withHelper "f" (.host (.waiting "s"))).withLoader
    (.immediate fun name => if name = "b" then .ok "y" else .error (.loader name "gone"))

/-- A render that has just begun, and will be reported. -/
def begun : Store Continuation Observer State :=
  (Store.initial ⟨waitingEngine, false⟩).open
    (Outlet.opened (.collect "" none (some (.report "r"))))

/-- A tag that fails the render. -/
def failingOp : Op :=
  .inclusion (.literal "a") none []

/-- What stands behind it. -/
def laterOps : List Op :=
  [.helper "f" none [] [], .inclusion (.literal "b") none []]

/-- Right behind the tag that has failed the render, a helper is called. -/
theorem finished_goesOnAsMuted_begun :
    ∃ next store outlet,
      runOps (callsWithin 5) default .empty [failingOp] (Writer.onOutlet 0) begun =
          some (.ok next, store) ∧
        store.events.toList = [.failed "r" (.loader "a" "gone")] ∧
        store.outlets[0]? = some outlet ∧ outlet.finished = true ∧
        Alike (SameBut 0) IsHandle
          (runOps (callsWithin 5) default .empty laterOps next store)
          (runOps (callsWithin 5) default .empty laterOps next (store.put 0 (muted outlet))) := by
  have evaluated :
      (runOps (callsWithin 5) default .empty [failingOp] (Writer.onOutlet 0) begun).map
          (fun found => (found.2.events.toList, found.2.outlets[0]?.map Outlet.finished)) =
        some ([.failed "r" (.loader "a" "gone")], some true) := by
    decide +kernel
  obtain ⟨⟨ended, store⟩, ran, seen⟩ := Option.map_eq_some_iff.mp evaluated
  obtain ⟨events, found⟩ := Prod.mk.inj seen
  obtain ⟨outlet, there, finished⟩ := Option.map_eq_some_iff.mp found
  obtain ⟨next, rfl⟩ := ((callsWithin_respect (.any (.none _)) 5).runOps default [failingOp]
    Context.empty.holds_true |>.ensures (Terms.parallel_any begun) ran).2
  exact ⟨next, store, outlet, ran, events, there, finished,
    (finished_goesOnAsMuted there finished).1 5 default .empty laterOps next⟩

/-- The flag that a step shows. -/
def Script.Shown.flag? : Shown → Option Bool
  | .flag value => some value
  | _ => none

/-- The error of the first tag has been reported; behind it a helper is called, a template is asked
for, and it is registered. In a session the branch that the helper keeps is there to be ended after
the render has failed. -/
theorem not_halted :
    (∃ next last store later,
      runOps (callsWithin 5) default .empty [failingOp] (Writer.onOutlet 0) begun =
          some (.ok next, store) ∧
        store.events.toList = [.failed "r" (.loader "a" "gone")] ∧
        store.client.engine.held.map Prod.fst = [] ∧
        store.client.engine.hasTemplate "b" = false ∧
        runOps (callsWithin 5) default .empty laterOps next store = some (.ok last, later) ∧
        later.client.engine.held.map Prod.fst = ["s"] ∧
        later.client.engine.hasTemplate "b" = true) ∧
    (runSteps (callsWithin 7) []
        [.helper "f" (.host (.waiting "s")), .add "main" "{>missing/}{@f/}",
          .render "main" "r" .null, .resume "s" (.ok "x")] (initial .standard)).map
        (fun found => found.1.map fun entry => (entry.1.flag?, entry.2)) =
      some [(none, []), (none, []), (none, [.failed "r" (.missingTemplate "missing")]),
        (some true, [])] := by
  have evaluated :
      ((runOps (callsWithin 5) default .empty [failingOp] (Writer.onOutlet 0) begun).bind
        fun found => (found.1.toOption.bind fun next =>
          runOps (callsWithin 5) default .empty laterOps next found.2).map fun more =>
            ((found.2.events.toList, found.2.client.engine.held.map Prod.fst,
              found.2.client.engine.hasTemplate "b"),
              more.2.client.engine.held.map Prod.fst, more.2.client.engine.hasTemplate "b")) =
        some (([.failed "r" (.loader "a" "gone")], [], false), ["s"], true) := by
    decide +kernel
  refine ⟨?_, by decide +kernel⟩
  obtain ⟨⟨ended, store⟩, first, following⟩ := Option.bind_eq_some_iff.mp evaluated
  obtain ⟨⟨endedLater, later⟩, rest, seen⟩ := Option.map_eq_some_iff.mp following
  obtain ⟨next, rfl⟩ := ((callsWithin_respect (.any (.none _)) 5).runOps default [failingOp]
    Context.empty.holds_true |>.ensures (Terms.parallel_any begun) first).2
  obtain ⟨last, rfl⟩ := ((callsWithin_respect (.any (.none _)) 5).runOps default laterOps
    Context.empty.holds_true |>.ensures (Terms.parallel_any store) rest).2
  simp only [Prod.mk.injEq] at seen
  obtain ⟨⟨events, held, known⟩, heldLater, knownLater⟩ := seen
  exact ⟨next, last, store, later, first, events, held, known, rest, heldLater, knownLater⟩

end BraceTemplate.Render
