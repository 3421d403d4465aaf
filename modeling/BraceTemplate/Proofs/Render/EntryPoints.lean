import BraceTemplate.Proofs.Render.Answering
import BraceTemplate.Proofs.Render.Sessions

/-!
# All ways to ask for a render agree

A compiled template is rendered by name or as it is at hand, at once or when what waits is run, to a
text, to a callback or to a stream. The ways differ in where the output goes; what is written to it,
and all else that happens, is the same. So a text, a callback and a stream show one outcome.
-/

namespace BraceTemplate

/-- A program has the name that its source was compiled under. -/
theorem Program.name_ofSource {config : Config} {name : Option String} {source : String}
    {program : Program} (compiled : Program.ofSource config name source = .ok program) :
    program.name = name := by
  obtain ⟨node, -, rfl⟩ := Program.ofSource_eq_ok_iff.mp compiled
  rfl

namespace Render

open Output

/-- What a stream makes known last, under a label. -/
def closing (label : String) : Except RenderError String → Event
  | .ok _ => .ended label
  | .error error => .error label error

/-- What a stream shows of a render that has come to an outcome, if it has: pieces, which make up
the text where there is one, and then the end or the error. -/
def Streamed (label : String) (outcome : Option (Except RenderError String))
    (events : List Event) : Prop :=
  ∃ pieces : List String,
    events = pieces.map (.data label) ++ (outcome.map (closing label)).toList ∧
      ∀ text, outcome = some (.ok text) → String.join pieces = text

/-- Where output goes that is shown under a label. -/
inductive Way where
  | callback
  | stream

def Way.sink (label : String) : Way → Sink Continuation Observer
  | callback => .collect "" none (some (.report label))
  | stream => .stream ⟨[.record label], [.record label], [.record label]⟩

/-- The sink and the events of an outlet, where the same output gathered in a text would be that
text, or would have come to that outcome. -/
inductive Shows (label : String) : Way → String → Option (Except RenderError String) →
    Sink Continuation Observer → List Event → Prop
  | awaited (text : String) :
    Shows label .callback text none (.collect text none (some (.report label))) []
  | reported (text : String) (final : Except RenderError String) :
    Shows label .callback text (some final) (.collect text (some final) none)
      [reported label final]
  | streaming (pieces : List String) :
    Shows label .stream (String.join pieces) none (Way.stream.sink label)
      (pieces.map (.data label))
  | streamed (text : String) (pieces : List String) (final : Except RenderError String)
      (whole : ∀ all, final = .ok all → String.join pieces = all) :
    Shows label .stream text (some final) (Way.stream.sink label)
      (pieces.map (.data label) ++ [closing label final])

section Showing

variable {label : String} {way : Way} {text : String}
variable {outcome : Option (Except RenderError String)} {sink : Sink Continuation Observer}
variable {events : List Event}

theorem shows_opened (label : String) : ∀ way : Way, Shows label way "" none (way.sink label) []
  | .callback => .awaited ""
  | .stream => .streaming []

theorem Shows.events_callback (shows : Shows label .callback text outcome sink events) :
    events = (outcome.map (Render.reported label)).toList := by
  cases shows <;> rfl

theorem Shows.streamed_events (shows : Shows label .stream text outcome sink events) :
    Streamed label outcome events := by
  cases shows with
  | streaming pieces => exact ⟨pieces, by simp, nofun⟩
  | streamed text pieces final whole =>
      exact ⟨pieces, rfl, fun all same => whole all (Option.some.inj same)⟩

theorem notes_record (label : String) (occasions : List Occasion) :
    occasions.flatMap (Listeners.notes ⟨[.record label], [.record label], [.record label]⟩) =
      occasions.flatMap (Observer.record label).notes := by
  congr 1
  funext occasion
  cases occasion <;> simp [Listeners.notes, Listeners.on, Occasion.channel]

theorem notes_pieces (label : String) (pieces : List String) :
    (pieces.map Occasion.data).flatMap (Observer.record label).notes =
      pieces.map (.data label) := by
  induction pieces with
  | nil => rfl
  | cons piece rest inductionHypothesis =>
      rw [List.map_cons, List.flatMap_cons, inductionHypothesis]
      rfl

/-- What leaves an outlet is shown as it would be gathered. -/
theorem Shows.takeUp (shows : Shows label way text none sink events)
    (outlet : Outlet Continuation Observer) (pieces : List String) (outcome : Outcome) :
    ∃ gathered final later,
      takeUp { outlet with sink := .collect text none none } pieces outcome =
        ⟨{ outlet with sink := .collect gathered final none }, [], none⟩ ∧
      (takeUp { outlet with sink := sink } pieces outcome).outlet =
        { outlet with sink := later } ∧
      (∀ branch next result, (takeUp { outlet with sink := sink } pieces outcome).handedOn ≠
        some (.capture branch next, result)) ∧
      final.isSome = outcome.isOver ∧
      Shows label way gathered final later
        (events ++ (takeUp { outlet with sink := sink } pieces outcome).said) := by
  cases shows with
  | awaited text =>
      cases outcome with
      | pending => exact ⟨_, _, _, rfl, rfl, nofun, rfl, .awaited _⟩
      | finished => exact ⟨_, _, _, rfl, rfl, nofun, rfl, .reported _ _⟩
      | failed error => exact ⟨_, _, _, rfl, rfl, nofun, rfl, .reported _ _⟩
  | streaming earlier =>
      have told (occasions : List Occasion) :
          earlier.map (Event.data label) ++ ((pieces.map Occasion.data ++ occasions).flatMap
              (Listeners.notes ⟨[.record label], [.record label], [.record label]⟩) ++ []) =
            (earlier ++ pieces).map (.data label) ++
              occasions.flatMap (Observer.record label).notes := by
        rw [notes_record, List.flatMap_append, notes_pieces, List.map_append, List.append_nil,
          List.append_assoc]
      have whole : String.join earlier ++ String.join pieces = String.join (earlier ++ pieces) :=
        String.join_append.symm
      cases outcome with
      | pending =>
          refine ⟨_, _, _, rfl, rfl, nofun, rfl, ?_⟩
          refine (congrArg (Shows label .stream _ _ _) (told [])).mpr ?_
          rw [whole, List.flatMap_nil, List.append_nil]
          exact .streaming _
      | finished =>
          refine ⟨_, _, _, rfl, rfl, nofun, rfl, ?_⟩
          refine (congrArg (Shows label .stream _ _ _) (told [.finished])).mpr ?_
          refine .streamed "" _ _ ?_
          rintro _ ⟨⟩
          exact whole.symm
      | failed error =>
          refine ⟨_, _, _, rfl, rfl, nofun, rfl, ?_⟩
          refine (congrArg (Shows label .stream _ _ _) (told [.failed error])).mpr ?_
          exact .streamed "" _ (.error error) nofun

end Showing

/-- An outlet that gathers a text, and one with the same output that is shown. -/
inductive Counterparts (label : String) (way : Way) (events : List Event) :
    Outlet Continuation Observer → Outlet Continuation Observer → Prop
  | intro (outlet : Outlet Continuation Observer) (text : String)
      (outcome : Option (Except RenderError String)) (sink : Sink Continuation Observer)
      (ended : outcome.isSome = outlet.finished)
      (shows : Shows label way text outcome sink events) :
      Counterparts label way events { outlet with sink := .collect text outcome none }
        { outlet with sink := sink }

section Counterparts

variable {label : String} {way : Way} {events : List Event}
variable {outlet shown : Outlet Continuation Observer}

/-- A round keeps counterparts; only where the output is shown is something made known. -/
theorem Counterparts.round (counterparts : Counterparts label way events outlet shown) :
    (round outlet).events = [] ∧ (round outlet).handedOn = none ∧ IsQuiet shown ∧
      Counterparts label way (events ++ said shown) (round outlet).outlet
        (round shown).outlet := by
  obtain ⟨outlet, text, outcome, sink, ended, shows⟩ := counterparts
  unfold IsQuiet said
  rcases Bool.eq_false_or_eq_true outlet.finished with finished | unfinished
  · have ofOutlet : Render.round { outlet with sink := .collect text outcome none } =
        ⟨_, [], none⟩ := round_finished finished
    have ofShown : Render.round { outlet with sink := sink } = ⟨_, [], none⟩ :=
      round_finished finished
    rw [ofOutlet, ofShown]
    refine ⟨rfl, rfl, nofun, ?_⟩
    rw [Delivered.said, List.append_nil, List.append_nil]
    exact .intro { outlet with again := false } text outcome sink ended shows
  · obtain rfl : outcome = none := by
      rw [unfinished] at ended
      simpa using ended
    have left := Outlet.drain_eq
      (show ({ outlet with again := false } : Outlet _ _).finished = false from unfinished)
    rw [round_withSink, round_withSink, left]
    obtain ⟨gathered, final, later, gathers, shownLater, quiet, overLater, showsLater⟩ :=
      shows.takeUp _ _ _
    rw [gathers, shownLater]
    exact ⟨rfl, rfl, quiet, .intro _ gathered final later overLater showsLater⟩

theorem Counterparts.idle (counterparts : Counterparts label way events outlet shown) :
    Counterparts label way events { outlet with flushing := false }
      { shown with flushing := false } := by
  obtain ⟨outlet, text, outcome, sink, ended, shows⟩ := counterparts
  exact .intro { outlet with flushing := false } text outcome sink ended shows

end Counterparts

def shownAside (label : String) (way : Way) : Aside fun _ => False where
  id? := some 0
  relates first one second other := one = #[] ∧
    ∃ outlet shown, first = some outlet ∧ second = some shown ∧
      Counterparts label way other.toList outlet shown
  notes := by
    rintro first one second other events related nothing
    obtain rfl : events = [] := List.eq_nil_iff_forall_not_mem.mpr nothing
    simpa using related
  there := by
    rintro first one second other ⟨_, _, _, ofFirst, ofSecond, _⟩ _
    exact ⟨_, _, ofFirst, ofSecond⟩
  agrees := by
    rintro first one second other ⟨_, _, _, ⟨⟩, ⟨⟩, ⟨⟩⟩
    exact ⟨rfl, rfl⟩
  changes := by
    rintro first one second other ⟨same, _, _, ⟨⟩, ⟨⟩, outlet, _, _, _, ended, shows⟩ number change
    exact ⟨same, _, _, rfl, rfl, .intro (outlet.change number change) _ _ _ ended shows⟩
  forks := by
    rintro first one second other ⟨same, _, _, ⟨⟩, ⟨⟩, outlet, _, _, _, ended, shows⟩ number
    exact ⟨same, _, _, rfl, rfl, .intro (outlet.fork number) _ _ _ ended shows⟩
  within := by
    rintro first one second other ⟨same, _, _, ⟨⟩, ⟨⟩, outlet, _, _, _, ended, shows⟩ _
    exact ⟨same, _, _, rfl, rfl, .intro { outlet with again := true } _ _ _ ended shows⟩
  quiet := by
    rintro first one second other ⟨_, _, _, ⟨⟩, ⟨⟩, counterparts⟩
    obtain ⟨-, nothing, quiet, -⟩ := counterparts.round
    refine ⟨fun branch next result => ?_, quiet⟩
    rw [nothing]
    nofun
  flushes := by
    rintro first one second other ⟨rfl, _, _, ⟨⟩, ⟨⟩, counterparts⟩ _
    obtain ⟨noEvents, nothing, -, later⟩ := counterparts.round
    refine ⟨?_, _, _, rfl, rfl, ?_⟩
    · rw [said, Delivered.said, noEvents, nothing]
      rfl
    · rw [Array.toList_appendList]
      exact later.idle

section Asking

variable {calls : Calls} {store : Store Continuation Observer State} {name label : String}
variable {program : Program} {data : Value}

/-- Where no other render waits, one that is asked for begins when what waits is run. -/
theorem run_defer_runPending (idle : store.client.engine.queue = []) (task : Task) :
    (do defer task; discard (runPending calls) : Action Unit) store = runTask calls task store := by
  have same : { store with
      client := { store.client with engine := { store.client.engine with queue := [] } } } =
        store := by
    obtain ⟨outlets, pots, events, ⟨engine, settled⟩⟩ := store
    obtain ⟨config, registry, helpers, filters, loader, requests, held, queue⟩ := engine
    subst idle
    rfl
  rw [run_bind, defer, modifyEngine, run_modifyClient, Option.bind_some, idle, List.nil_append,
    run_discard]
  unfold runPending
  simp only [Render.engine, run_bind, run_client, Option.bind_some, run_pure, modifyEngine,
    run_modifyClient, List.forM_cons, List.forM_nil, List.forM_eq_forM, same]
  cases runTask calls task store <;> rfl

/-- A template at hand renders as by the name that it is registered under. -/
theorem runTask_registered (registered : store.client.engine.registry.find? name = some program)
    (writer : Writer) (context : Context) :
    runTask calls (.program program writer context) store =
      renderToEnd calls name writer context store := by
  have named : renderNamedTemplate calls name writer context store =
      renderTemplate calls program writer context store := by
    unfold renderNamedTemplate Render.engine
    simp only [run_bind, run_client, Option.bind_some, run_pure, registered]
  rw [runTask, renderToEnd, run_bind, run_bind, named]

theorem run_attachTo_opened (observer : Observer) (channel : Channel)
    (listeners : Listeners Observer) (store : Store Continuation Observer State) :
    attachTo store.outlets.size channel observer (store.open (Outlet.opened (.stream listeners))) =
      some ((), store.open (Outlet.opened (.stream
        (listeners.withChannel channel (listeners.on channel ++ [observer]))))) := by
  rw [attachTo, modifyListeners_eq (Store.open_outlets_self _) rfl, Store.open_put]
  rfl

theorem run_openStream_record (label : String) (store : Store Continuation Observer State) :
    openStream [.record label] store =
      some (store.outlets.size, store.open (Outlet.opened (Way.stream.sink label))) := by
  have opened : (openOutlet (.stream ⟨[], [], []⟩) : Action OutletId) store =
      some (store.outlets.size, store.open (Outlet.opened (.stream ⟨[], [], []⟩))) := rfl
  unfold openStream attach
  simp only [run_bind, opened, Option.bind_some, List.forM_eq_forM, List.forM_cons, List.forM_nil,
    run_attachTo_opened, run_pure]
  rfl

end Asking

/-- A render by name from the first step on, with a sink for its output. -/
def rendering (depth : Nat) (engine : Engine) (name : String) (data : Value)
    (sink : Sink Continuation Observer) : Option (Unit × Store Continuation Observer State) :=
  renderToEnd (callsWithin depth) name (Writer.onOutlet 0) ((Context.ofValue data).named name)
    ((Store.initial ⟨engine, false⟩).open (Outlet.opened sink))

/-- What has been gathered in the first outlet, once it has come to an end. -/
def outcome? (store : Store Continuation Observer State) : Option (Except RenderError String) :=
  store.outlets[0]?.bind fun outlet =>
    match outlet.sink with
    | .collect _ outcome _ => outcome
    | .stream _ => none

theorem run_result?_first (store : Store Continuation Observer State) :
    (result? 0 : Action (Option (Except RenderError String))) store =
      some (outcome? store, store) := by
  unfold result? outcome?
  rw [run_bind, run_outlet?, Option.bind_some]
  cases store.outlets[0]? with
  | none => rfl
  | some outlet => cases sink : outlet.sink <;> simp [sink, run_pure]

section Outcomes

variable {depth : Nat} {engine : Engine} {name label : String} {data : Value}

theorem outlets_opened_none (sink : Sink Continuation Observer) {client : State} {id : OutletId}
    (notFirst : some 0 ≠ some id) :
    ((Store.initial client).open (Outlet.opened sink)).outlets[id]? = none := by
  refine Array.getElem?_eq_none ?_
  have positive : id ≠ 0 := fun same => notFirst (congrArg some same.symm)
  simpa [Store.open, Store.initial] using Nat.one_le_iff_ne_zero.mpr positive

theorem rendering_alike (idle : engine.queue = []) (depth : Nat) (name label : String)
    (data : Value) (way : Way) :
    Alike (Terms.Parallel ⟨.all, .idle, fun _ => False, shownAside label way⟩) (fun _ => True)
      (rendering depth engine name data (.collect "" none none))
      (rendering depth engine name data (way.sink label)) := by
  refine (callsWithin_respect _ depth).renderToEnd name _ (Context.holds_true _) _ _ ?_
  refine ⟨rfl, idle, rfl, rfl, fun id notFirst => ?_, fun id outlet notFirst there => ?_, ?_⟩
  · rw [outlets_opened_none _ notFirst, outlets_opened_none _ notFirst]
  · rw [outlets_opened_none _ notFirst] at there
    cases there
  · exact ⟨rfl, _, _, rfl, rfl,
      .intro (Outlet.opened (.collect "" none none)) "" none _ rfl (shows_opened label way)⟩

/-- A render that gathers and one that is shown are both out of steps, or show what has been
gathered. -/
theorem rendering_shows (idle : engine.queue = []) (depth : Nat) (name label : String)
    (data : Value) {way : Way}
    {related : Option (Except RenderError String) → List Event → Prop}
    (shown : ∀ text outcome sink events, Shows label way text outcome sink events →
      related outcome events) :
    Option.Rel related
      ((rendering depth engine name data (.collect "" none none)).map fun found =>
        outcome? found.2)
      ((rendering depth engine name data (way.sink label)).map fun found =>
        found.2.events.toList) := by
  have alike := rendering_alike idle depth name label data way
  generalize rendering depth engine name data (.collect "" none none) = first at alike ⊢
  generalize rendering depth engine name data (way.sink label) = second at alike ⊢
  cases alike with
  | out => exact .none
  | both still _ =>
      obtain ⟨_, _, there, -, -, _, _, ⟨⟩, ⟨⟩, outlet, text, outcome, sink, -, shows⟩ :=
        still.there rfl
      refine .some ?_
      simp only [outcome?, there, Option.bind_some]
      exact shown _ _ _ _ shows

/-- What has been gathered is what a render to a text yields. -/
theorem map_renderToString (idle : engine.queue = []) (depth : Nat) (name : String)
    (data : Value) :
    (renderToString (callsWithin depth) name data (Store.initial ⟨engine, false⟩)).map Prod.fst =
      (rendering depth engine name data (.collect "" none none)).map fun found =>
        (outcome? found.2).getD (.error (.pending name)) := by
  have runsTo : renderToString (callsWithin depth) name data (Store.initial ⟨engine, false⟩) =
      (rendering depth engine name data (.collect "" none none)).bind fun found =>
        (do
          discard (runPending (callsWithin depth))
          pure ((← result? 0).getD (.error (.pending name))) :
            Action (Except RenderError String)) found.2 :=
    rfl
  have alike := rendering_alike idle depth name "" data .callback
  rw [runsTo]
  generalize rendering depth engine name data (.collect "" none none) = first at alike ⊢
  generalize rendering depth engine name data (Way.callback.sink "") = second at alike
  cases alike with
  | out => rfl
  | both still _ =>
      rename_i one _
      rw [Option.bind_some, Option.map_some, run_bind, run_discard,
        run_runPending_of_idle still.engine, Option.map_some, Option.bind_some, run_bind,
        run_result?_first]
      rfl

variable {program : Program}

theorem run_render (depth : Nat) (engine : Engine) (name label : String) (data : Value) :
    render (callsWithin depth) name data label (Store.initial ⟨engine, false⟩) =
      rendering depth engine name data (Way.callback.sink label) :=
  rfl

theorem run_stream (idle : engine.queue = []) (depth : Nat) (name label : String) (data : Value) :
    (do stream name data [.record label]; discard (runPending (callsWithin depth)) : Action Unit)
        (Store.initial ⟨engine, false⟩) =
      rendering depth engine name data (Way.stream.sink label) := by
  unfold stream
  rw [run_bind, run_bind, run_openStream_record, Option.bind_some]
  exact run_defer_runPending idle _

/-- A template at hand is rendered as by name. -/
theorem run_task (idle : engine.queue = []) (registered : engine.registry.find? name = some program)
    (named : program.name = some name) (depth : Nat) (data : Value)
    (sink : Sink Continuation Observer) :
    (do
      defer (.program program (Writer.onOutlet 0) (programContext program data))
      discard (runPending (callsWithin depth)) : Action Unit)
        ((Store.initial ⟨engine, false⟩).open (Outlet.opened sink)) =
      rendering depth engine name data sink := by
  rw [run_defer_runPending idle, runTask_registered registered, programContext, named]
  rfl

theorem run_renderProgram (idle : engine.queue = [])
    (registered : engine.registry.find? name = some program) (named : program.name = some name)
    (depth : Nat) (label : String) (data : Value) :
    (do renderProgram program data label; discard (runPending (callsWithin depth)) : Action Unit)
        (Store.initial ⟨engine, false⟩) =
      rendering depth engine name data (Way.callback.sink label) :=
  run_task idle registered named depth data (Way.callback.sink label)

theorem run_streamProgram (idle : engine.queue = [])
    (registered : engine.registry.find? name = some program) (named : program.name = some name)
    (depth : Nat) (label : String) (data : Value) :
    (do streamProgram program data [.record label]; discard (runPending (callsWithin depth)) :
        Action Unit) (Store.initial ⟨engine, false⟩) =
      rendering depth engine name data (Way.stream.sink label) := by
  unfold streamProgram
  rw [run_bind, run_bind, run_openStream_record, Option.bind_some]
  exact run_task idle registered named depth data (Way.stream.sink label)

end Outcomes

/-- All ways to ask for a render, from one store, are out of steps, or show one outcome: a text
yields it, a callback has been told of it once, and a stream has told of pieces that make up the
text, and of the end, or of the error. Where there is no outcome yet, a text says so, and nobody has
been told of an end. -/
structure ShowAlike (calls : Calls) (name label : String) (program : Program) (data : Value)
    (store : Store Continuation Observer State)
    (outcome? : Option (Option (Except RenderError String))) : Prop where
  text : (renderToString calls name data store).map Prod.fst =
    outcome?.map fun outcome => outcome.getD (.error (.pending name))
  callback : (render calls name data label store).map (fun found => found.2.events.toList) =
    outcome?.map fun outcome => (outcome.map (reported label)).toList
  deferred :
    ((do renderProgram program data label; discard (runPending calls) : Action Unit) store).map
        (fun found => found.2.events.toList) =
      outcome?.map fun outcome => (outcome.map (reported label)).toList
  stream : Option.Rel (Streamed label) outcome?
    (((do stream name data [.record label]; discard (runPending calls) : Action Unit) store).map
      fun found => found.2.events.toList)
  deferredStream : Option.Rel (Streamed label) outcome?
    (((do streamProgram program data [.record label]; discard (runPending calls) :
      Action Unit) store).map fun found => found.2.events.toList)

section Agreeing

variable {depth : Nat} {engine : Engine} {name label : String} {data : Value} {program : Program}

theorem eq_map_of_rel {First Second : Type} {image : First → Second} {first : Option First}
    {second : Option Second}
    (rel : Option.Rel (fun value result => result = image value) first second) :
    second = first.map image := by
  cases rel with
  | some same => exact congrArg some same
  | none => rfl

/-- What is gathered by a render by name is what all ways show. -/
theorem showAlike_rendering (idle : engine.queue = [])
    (registered : engine.registry.find? name = some program) (named : program.name = some name) :
    ShowAlike (callsWithin depth) name label program data (Store.initial ⟨engine, false⟩)
      ((rendering depth engine name data (.collect "" none none)).map fun found =>
        outcome? found.2) := by
  have toCallback :
      (rendering depth engine name data (Way.callback.sink label)).map
          (fun found => found.2.events.toList) =
        ((rendering depth engine name data (.collect "" none none)).map fun found =>
          outcome? found.2).map fun outcome => (outcome.map (reported label)).toList := by
    exact eq_map_of_rel (rendering_shows idle depth name label data
      fun _ _ _ _ shows => shows.events_callback)
  have toStream := rendering_shows idle depth name label data
    fun _ _ _ _ shows => shows.streamed_events
  refine ⟨?_, ?_, ?_, ?_, ?_⟩
  · rw [map_renderToString idle, Option.map_map]
    rfl
  · rw [run_render]
    exact toCallback
  · rw [run_renderProgram idle registered named]
    exact toCallback
  · rw [run_stream idle]
    exact toStream
  · rw [run_streamProgram idle registered named]
    exact toStream

/-- Where all templates have been compiled, a render comes to an outcome. -/
theorem rendering_hasOutcome (closed : engine.IsClosed) {json : Json} {found}
    (ran : rendering depth engine name (Value.ofJson json) (.collect "" none none) = some found) :
    outcome? found.2 ≠ none := by
  obtain ⟨⟨⟩, later⟩ := found
  have hasOutcome : ∀ outcome, later.HasResult 0 outcome → outcome? later ≠ none := by
    intro outcome hasResult nothing
    have read := hasResult.run_result?
    rw [run_result?_first, nothing] at read
    cases read
  let start : Store Continuation Observer State := Store.initial ⟨engine, false⟩
  have suits : (closedSetting closed).Suits start.client.engine := closedSetting_suits closed
  have rendered : renderToEnd (callsWithin depth) name (Writer.onOutlet start.outlets.size)
      (entryContext name (Context.ofValue (Value.ofJson json)))
      (start.open (Outlet.opened (.collect "" none none))) = some ((), later) := ran
  rcases renderToEnd_hasResult suits trivial (Value.tame_ofJson json) rendered with
    ⟨text, -, -, hasResult, -⟩ | ⟨error, -, hasResult⟩
  · exact hasOutcome _ hasResult
  · exact hasOutcome _ hasResult

end Agreeing

/-- After a source has been compiled under a name, beside any other templates, all ways to render it
agree, at every bound. There is an outcome, if the other templates have been compiled as well. -/
theorem entryPoints_showAlike {config : Config} {others : Members Program} {name source : String}
    {program : Program}
    (compiled : (Engine.fresh config others .none).compile (some name) source = .ok program)
    (json : Json) (label : String) (depth : Nat) :
    ∃ outcome?,
      ShowAlike (callsWithin depth) name label program (Value.ofJson json)
        (Store.initial ⟨(Engine.fresh config others .none).register name program, false⟩)
        outcome? ∧
      ((∀ entry ∈ others, ∃ config name source,
          Program.ofSource config name source = .ok entry.2) → outcome? ≠ some none) := by
  let engine := (Engine.fresh config others .none).register name program
  have registered : engine.registry.find? name = some program := Members.find?_insert_self ..
  refine ⟨_, showAlike_rendering rfl registered (Program.name_ofSource compiled),
    fun othersCompiled pending => ?_⟩
  have closed : engine.IsClosed :=
    ⟨rfl, rfl, rfl, Members.forall_mem_insert othersCompiled ⟨_, _, _, compiled⟩⟩
  obtain ⟨found, ran, nothing⟩ := Option.map_eq_some_iff.mp pending
  exact rendering_hasOutcome closed ran nothing

/-- A render that fails behind a text that has left already: the stream tells of the text first, and
all ways show the error. -/
theorem entryPoints_showAlike_midway :
    ∃ program,
      (Engine.fresh .standard [] .none).compile (some "main") "a\x7b>\"{n}\"/\x7db" = .ok program ∧
      ((do
          stream "main" (.ofJson (.object [("n", .string "gone")])) [.record "r"]
          discard (runPending (callsWithin 7)) : Action Unit)
        (Store.initial ⟨(Engine.fresh .standard [] .none).register "main" program, false⟩)).map
          (fun found => found.2.events.toList) =
        some [.data "r" "a", .error "r" (.missingTemplate "gone")] ∧
      ∃ outcome?,
        ShowAlike (callsWithin 7) "main" "r" program (.ofJson (.object [("n", .string "gone")]))
          (Store.initial ⟨(Engine.fresh .standard [] .none).register "main" program, false⟩)
          outcome? ∧
        ((∀ entry ∈ ([] : Members Program), ∃ config name source,
            Program.ofSource config name source = .ok entry.2) → outcome? ≠ some none) := by
  have told :
      ((Engine.fresh .standard [] .none).compile (some "main") "a\x7b>\"{n}\"/\x7db").toOption.bind
        (fun program => ((do
            stream "main" (.ofJson (.object [("n", .string "gone")])) [.record "r"]
            discard (runPending (callsWithin 7)) : Action Unit)
          (Store.initial ⟨(Engine.fresh .standard [] .none).register "main" program, false⟩)).map
            fun found => found.2.events.toList) =
        some [.data "r" "a", .error "r" (.missingTemplate "gone")] := by
    decide +kernel
  obtain ⟨program, compiled, events⟩ := Option.bind_eq_some_iff.mp told
  have built : (Engine.fresh .standard [] .none).compile (some "main") "a\x7b>\"{n}\"/\x7db" =
      .ok program := by
    generalize (Engine.fresh .standard [] .none).compile _ _ = result at compiled
    cases result with
    | error fault => cases compiled
    | ok same =>
        cases compiled
        rfl
  exact ⟨program, built, events, entryPoints_showAlike built _ "r" 7⟩

end Render

end BraceTemplate
