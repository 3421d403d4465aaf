import BraceTemplate.Proofs.Render.Bringing
import BraceTemplate.Proofs.Render.Sessions

/-!
# Who registers templates

In a session templates are registered and taken away by steps, and loaders answer for names that
renders ask for, at once or in later steps. Whatever the steps are, what is registered at any moment
is what this history says. Renders replace nothing that is registered; steps that register or take
away change nothing of renders in progress.
-/

namespace BraceTemplate

namespace Render

open Output Render.Script

/-! ## What a session records -/

def adoption (program : Program) : List RegistryEvent :=
  (program.name.map fun name => .registered name program).toList

/-- A step that registers templates, or takes them away, and renders nothing. -/
def Script.Step.isExplicit : Step → Bool
  | .add _ _ | .register _ _ _ | .registerProgram _ _ | .load _ _ _ | .loadProgram _ _
  | .remove _ => true
  | _ => false

/-- What a step by itself registers and takes away. -/
def Script.Step.explicitly (config : Config) : Step → List RegistryEvent
  | .add name source => registration name (Program.ofSource config (some name) source)
  | .register name compiledName source =>
    registration name (Program.ofSource config compiledName source)
  | .registerProgram name program => [.registered name program]
  | .load _ name source =>
    match Program.ofSource config name source with
    | .error _ => []
    | .ok program => adoption program
  | .loadProgram _ program => adoption program
  | .remove name => [.removed name]
  | _ => []

/-- What a step is to the registry, given what it shows: an answer arrives where it is shown that
there is a request for it. -/
def Script.Step.recorded (config : Config) : Step → Shown → List RegistryEvent
  | .answer name source, .flag true => [.answered name source]
  | step, _ => step.explicitly config

/-- The loader after a step. -/
def Script.Step.chosen (loader : Loader) : Step → Loader
  | .loader chosen => chosen
  | _ => loader

/-- What happens to a registry in steps that show something, from one loader to another: what each
step records, and then what the loader brings while the step renders. -/
inductive Recorded (config : Config) :
    Loader → Members Program → List Step → List (Shown × List Event) → Loader →
      List RegistryEvent → Prop
  | nil (loader : Loader) (registry : Members Program) :
      Recorded config loader registry [] [] loader []
  | cons {loader last : Loader} {registry : Members Program} {step : Step} {steps : List Step}
      {shown : Shown} {told : List Event} {entries : List (Shown × List Event)}
      {during more : List RegistryEvent}
      (still : step.isExplicit = true → during = [])
      (brought : Brought config loader
        (replay config registry (step.recorded config shown)) during)
      (others : Recorded config (step.chosen loader)
        (replay config registry (step.recorded config shown ++ during)) steps entries last more) :
      Recorded config loader registry (step :: steps) ((shown, told) :: entries) last
        (step.recorded config shown ++ during ++ more)

section Explicit

variable {calls : Calls} {loaded : Loaded} {store : Store Continuation Observer State}
variable {name kept source : String} {compiledName : Option String}

theorem run_add : runStep calls loaded (.add name source) store =
    match store.client.engine.compile (some name) source with
    | .error fault => some ((.failed (.parse fault), loaded), store)
    | .ok program => some ((.finished, loaded),
        withRegistry store (store.client.engine.registry.insert name program)) := by
  have known : engine store = some (store.client.engine, store) := rfl
  rw [runStep, unloaded, run_bind, add, run_bind, known, Option.bind_some, Engine.addTemplate]
  cases store.client.engine.compile (some name) source <;> rfl

theorem run_register : runStep calls loaded (.register name compiledName source) store =
    match store.client.engine.compile compiledName source with
    | .error fault => some ((.failed (.parse fault), loaded), store)
    | .ok program => some ((.finished, loaded),
        withRegistry store (store.client.engine.registry.insert name program)) := by
  have ran : runStep calls loaded (.register name compiledName source) store =
      (unloaded loaded (match store.client.engine.compile compiledName source with
        | .error error => pure (.failed (.parse error))
        | .ok program => do
          modifyEngine fun engine => engine.register name program
          pure .finished)) store := rfl
  rw [ran]
  cases store.client.engine.compile compiledName source <;> rfl

theorem run_loading (loaded : Loaded) (kept : String) (program : Program)
    (store : Store Continuation Observer State) :
    loading loaded kept program store =
      some ((.finished, loaded.insert kept program), withRegistry store
        (replay store.client.engine.config store.client.engine.registry (adoption program))) := by
  have ran : loading loaded kept program store =
      some ((.finished, loaded.insert kept program),
        { store with client := { store.client with
            engine := store.client.engine.adopt program } }) := rfl
  rw [ran]
  unfold Engine.adopt adoption
  cases program.name with
  | none => rfl
  | some name => rfl

theorem run_load : runStep calls loaded (.load kept compiledName source) store =
    match store.client.engine.compile compiledName source with
    | .error fault => some ((.failed (.parse fault), loaded), store)
    | .ok program => some ((.finished, loaded.insert kept program), withRegistry store
        (replay store.client.engine.config store.client.engine.registry (adoption program))) := by
  have ran : runStep calls loaded (.load kept compiledName source) store =
      (match store.client.engine.compile compiledName source with
        | .error error => pure (.failed (.parse error), loaded)
        | .ok program => loading loaded kept program : Action (Shown × Loaded)) store := rfl
  rw [ran]
  cases store.client.engine.compile compiledName source with
  | error fault => rfl
  | ok program => exact run_loading ..

/-- A step that registers or takes away changes the registry, and nothing else. -/
theorem run_explicit {step : Step} (explicit : step.isExplicit = true) :
    ∃ taken, runStep calls loaded step store =
      some (taken, withRegistry store (replay store.client.engine.config
        store.client.engine.registry (step.explicitly store.client.engine.config))) := by
  cases step with
  | add name source =>
      rw [run_add, Engine.compile, Script.Step.explicitly]
      cases Program.ofSource store.client.engine.config (some name) source <;> exact ⟨_, rfl⟩
  | register name compiledName source =>
      rw [run_register, Engine.compile, Script.Step.explicitly]
      cases Program.ofSource store.client.engine.config compiledName source <;> exact ⟨_, rfl⟩
  | registerProgram name program => exact ⟨_, rfl⟩
  | load kept name source =>
      rw [run_load, Engine.compile, Script.Step.explicitly]
      cases Program.ofSource store.client.engine.config name source <;> exact ⟨_, rfl⟩
  | loadProgram kept program => exact ⟨_, run_loading ..⟩
  | remove name => exact ⟨_, rfl⟩
  | _ => cases explicit

end Explicit

/-! ## Renders -/

/-- An engine whose registry has come from another by what its loader has done. -/
structure HasBrought (config : Config) (loader : Loader) (registry : Members Program)
    (engine : Engine) : Prop where
  sameConfig : engine.config = config
  sameLoader : engine.loader = loader
  came : ∃ during, Brought config loader registry during ∧
    engine.registry = replay config registry during

section Rendering

variable {config : Config} {loader : Loader} {registry : Members Program} {engine : Engine}

theorem HasBrought.start (engine : Engine) :
    HasBrought engine.config engine.loader engine.registry engine :=
  ⟨rfl, rfl, [], .nil _, rfl⟩

theorem HasBrought.next (brought : HasBrought config loader registry engine) {name : String}
    {event : RegistryEvent} (unknown : engine.registry.find? name = none)
    (brings : event ∈ loader.bringing config name)
    (registers : ((event.apply config engine.registry).find? name).isSome = true) :
    HasBrought config loader registry
      { engine with registry := event.apply config engine.registry } := by
  obtain ⟨during, all, same⟩ := brought.came
  rw [same] at unknown registers
  refine ⟨brought.sameConfig, brought.sameLoader, during ++ [event],
    all.concat unknown brings registers, ?_⟩
  rw [replay_append_singleton, same]

theorem HasBrought.registered (brought : HasBrought config loader registry engine)
    {name : String} {program : Program} (unknown : engine.registry.find? name = none)
    (brings : .registered name program ∈ loader.bringing config name) :
    HasBrought config loader registry (engine.register name program) := by
  refine brought.next unknown brings ?_
  rw [RegistryEvent.apply, Members.find?_insert_self]
  rfl

theorem HasBrought.answered (brought : HasBrought config loader registry engine)
    {name text : String} {program : Program}
    (brings : .answered name (.ok text) ∈ loader.bringing config name)
    (unknown : engine.registry.find? name = none)
    (compiled : engine.compile (some name) text = .ok program) :
    HasBrought config loader registry (engine.register name program) := by
  rw [Engine.compile, brought.sameConfig] at compiled
  have applied := RegistryEvent.apply_answered_unknown unknown compiled
  have registers : ((RegistryEvent.apply config engine.registry
      (.answered name (.ok text))).find? name).isSome = true := by
    rw [applied, Members.find?_insert_self]
    rfl
  have next := brought.next unknown brings registers
  rw [applied] at next
  exact next

variable (config loader registry)

def broughtTenure : Tenure .all where
  holds := HasBrought config loader registry
  answers name answer := .answered name answer ∈ loader.bringing config name
  supplies name text := ∃ source reply, loader = .registering source reply ∧ text = source name
  helpers _ _ _ _ _ _ _ := trivial
  recursivePartial _ _ _ := trivial
  recursiveBlock _ _ _ := trivial
  missing _ _ _ _ := trivial
  immediate engine source name brought loads := by
    rw [← brought.sameLoader, loads]
    exact Loader.answered_mem_bringing rfl
  replies engine source reply name brought loads := by
    rw [← brought.sameLoader, loads]
    exact Loader.answered_mem_bringing rfl
  failed _ _ _ := trivial
  unparsed _ _ _ _ _ _ _ := trivial
  sources engine source reply name brought loads :=
    ⟨source, reply, brought.sameLoader.symm.trans loads, rfl⟩
  registers engine name text program brought supplies unknown compiled := by
    obtain ⟨source, reply, rfl, rfl⟩ := supplies
    rw [Engine.compile, brought.sameConfig] at compiled
    exact brought.registered unknown (Loader.registered_mem_bringing compiled)
  compiled engine name text program brought brings unknown compiled :=
    brought.answered brings unknown compiled
  requested _ _ request _ := request.context.holds_true
  asks _ _ brought _ := { brought with }
  keeps _ _ brought := { brought with }

def stillTenure : Tenure .all :=
  .keeping
    (fun engine => ∀ name program, registry.find? name = some program →
      engine.registry.find? name = some program)
    (by
      intro engine name program still unknown other found there
      have different : name ≠ other := by
        rintro rfl
        have known := still _ _ there
        rw [unknown] at known
        cases known
      rw [Engine.register, Members.find?_insert_of_ne _ _ different]
      exact still _ _ there)
    (fun _ _ still => still) fun _ _ still => still

variable {config loader registry}

theorem queues_brought : Terms.Queues
    ⟨.all, broughtTenure config loader registry, fun _ => True, .none _⟩ :=
  ⟨fun _ _ task _ => task.context.holds_true, fun _ _ brought _ => { brought with }⟩

theorem queues_still :
    Terms.Queues ⟨.all, stillTenure registry, fun _ => True, .none _⟩ :=
  ⟨fun _ _ task _ => task.context.holds_true, fun _ _ still _ => still⟩

/-- A step that registers and takes away nothing by itself is allowed where it keeps what holds. -/
theorem allows_of_not_explicit {tenure : Tenure .all} {aside : Aside fun _ => True} {step : Step}
    (notExplicit : step.isExplicit = false)
    (helper : ∀ engine name helper, tenure.holds engine →
      tenure.holds (engine.withHelper name helper))
    (filter : ∀ engine name filter, tenure.holds engine →
      tenure.holds (engine.withFilter name filter))
    (loader : ∀ chosen, step = .loader chosen → ∀ engine, tenure.holds engine →
      tenure.holds (engine.withLoader chosen))
    (answer : ∀ name source, step = .answer name source → tenure.answers name source) :
    Terms.Allows ⟨.all, tenure, fun _ => True, aside⟩ step := by
  cases step with
  | add _ _ | register _ _ _ | load _ _ _ | remove _ | registerProgram _ _ | loadProgram _ _ =>
      cases notExplicit
  | helper name added => exact fun engine => helper engine name added
  | filter name added => exact fun engine => filter engine name added
  | loader chosen => exact loader chosen rfl
  | answer name source => exact answer name source rfl
  | renderLoaded _ _ data | render _ _ data => exact ⟨data.holds_true, fun _ _ => trivial⟩
  | streamLoaded _ data _ | stream _ data _ => exact ⟨data.holds_true, fun _ _ _ _ _ _ => trivial⟩
  | renderToString _ data => exact data.holds_true
  | renderSource _ _ data =>
      exact ⟨data.holds_true, fun _ _ => trivial, fun _ _ _ _ => trivial⟩
  | renderWithContext _ _ context => exact ⟨context.holds_true, fun _ _ => trivial⟩
  | resume _ _ => exact fun _ _ => trivial
  | has _ | config | describe _ | runPending | requests => trivial

end Rendering

section Steps

variable {calls : Calls} {depth : Nat} {loaded loadedLater : Loaded} {step : Step} {shown : Shown}
variable {store later : Store Continuation Observer State} {taken : Shown × Loaded}

theorem holds_of_runStep {tenure : Tenure .all}
    (queues : Terms.Queues ⟨.all, tenure, fun _ => True, .none _⟩)
    (allows : Terms.Allows ⟨.all, tenure, fun _ => True, .none _⟩ step)
    (holds : tenure.holds store.client.engine)
    (ran : runStep (callsWithin depth) loaded step store = some (taken, later)) :
    tenure.holds later.client.engine :=
  (Terms.respects_runStep (callsWithin_respect _ depth) queues allows |>.ensures
    (Terms.parallel_self holds) ran).1.engine

/-- Through a step that registers and takes away nothing by itself every template stays registered.
-/
theorem stays_of_not_explicit (notExplicit : step.isExplicit = false)
    (ran : runStep (callsWithin depth) loaded step store = some (taken, later)) (name : String)
    (program : Program) (there : store.client.engine.registry.find? name = some program) :
    later.client.engine.registry.find? name = some program := by
  have allows : Terms.Allows
      ⟨.all, stillTenure store.client.engine.registry, fun _ => True, .none _⟩ step :=
    allows_of_not_explicit notExplicit (fun _ _ _ still => still) (fun _ _ _ still => still)
      (fun _ _ _ still => still) fun _ _ _ => trivial
  exact holds_of_runStep queues_still allows (fun _ _ found => found) ran name program there

/-- In a step that only renders, the registry changes by what the loader does. -/
theorem brought_of_rendering (notExplicit : step.isExplicit = false)
    (notLoader : ∀ chosen, step ≠ .loader chosen)
    (notAnswer : ∀ name source, step ≠ .answer name source)
    (ran : runStep (callsWithin depth) loaded step store = some (taken, later)) :
    HasBrought store.client.engine.config store.client.engine.loader store.client.engine.registry
      later.client.engine := by
  have allows : Terms.Allows
      ⟨.all, broughtTenure store.client.engine.config store.client.engine.loader
        store.client.engine.registry, fun _ => True, .none _⟩ step :=
    allows_of_not_explicit notExplicit (fun _ _ _ brought => { brought with })
      (fun _ _ _ brought => { brought with }) (fun chosen same => absurd same (notLoader chosen))
      fun name source same => absurd same (notAnswer name source)
  exact holds_of_runStep queues_brought allows (.start _) ran

/-! ## Answers -/

theorem respects_goOn {terms : Terms} {request : Request} {outcome : Except RenderError Program}
    (respect : calls.Respect terms)
    (permitted : ∀ error, outcome = .error error → terms.allowance.permitted error)
    (admits : terms.allowance.Admits request.context) :
    terms.Respects (fun _ => True) (goOn calls request outcome) := by
  cases outcome with
  | error error => exact (Terms.Respects.fail respect.handlers _ (permitted error rfl)).discard
  | ok program =>
      exact (respect.renderTemplate program _ admits).bind fun last _ =>
        .finish respect.handlers last

theorem holds_of_goOn {tenure : Tenure .all} {request : Request}
    {outcome : Except RenderError Program} (holds : tenure.holds store.client.engine)
    (ran : goOn (callsWithin depth) request outcome store = some ((), later)) :
    tenure.holds later.client.engine := by
  have respects : Terms.Respects ⟨.all, tenure, fun _ => True, .none _⟩ (fun _ => True)
      (goOn (callsWithin depth) request outcome) :=
    respects_goOn (callsWithin_respect _ depth) (fun _ _ => trivial) request.context.holds_true
  exact (respects.ensures (Terms.parallel_self holds) ran).1.engine

theorem holds_of_answer {tenure : Tenure .all} {request : Request}
    {source : Except RenderError String}
    (holds : tenure.holds (withRegistry store (RegistryEvent.apply store.client.engine.config
      store.client.engine.registry (.answered request.template source))).client.engine)
    (ran : answer (callsWithin depth) request source store = some ((), later)) :
    tenure.holds later.client.engine := by
  rw [run_answer] at ran
  exact holds_of_goOn holds ran

/-- When an answer has been taken, what it has registered is still registered, and so is all that
was. -/
theorem stays_of_answer {request : Request} {source : Except RenderError String}
    (ran : answer (callsWithin depth) request source store = some ((), later)) (name : String)
    (program : Program)
    (there : (RegistryEvent.apply store.client.engine.config store.client.engine.registry
      (.answered request.template source)).find? name = some program) :
    later.client.engine.registry.find? name = some program := by
  have holds : (stillTenure (RegistryEvent.apply store.client.engine.config
      store.client.engine.registry (.answered request.template source))).holds
        later.client.engine :=
    holds_of_answer (fun _ _ found => found) ran
  exact holds name program there

theorem brought_of_answer {request : Request} {source : Except RenderError String}
    (ran : answer (callsWithin depth) request source store = some ((), later)) :
    HasBrought store.client.engine.config store.client.engine.loader
      (RegistryEvent.apply store.client.engine.config store.client.engine.registry
        (.answered request.template source)) later.client.engine := by
  have holds : (broughtTenure store.client.engine.config store.client.engine.loader
      (RegistryEvent.apply store.client.engine.config store.client.engine.registry
        (.answered request.template source))).holds later.client.engine := by
    refine holds_of_answer ?_ ran
    exact ⟨rfl, rfl, [], .nil _, rfl⟩
  exact holds

/-- What a loader has brought that was asked where nothing is registered is still registered when
the render has gone on. -/
theorem stays_of_consulted {name : String} {writer next : Writer} {context : Context}
    {answer : Except RenderError String}
    (unknown : store.client.engine.registry.find? name = none)
    (answers : store.client.engine.loader.answer? name = some answer)
    (ran : renderNamedTemplate (callsWithin depth) name writer context store = some (next, later))
    (program : Program)
    (brought : owner? store.client.engine.config name
      (store.client.engine.loader.bringing store.client.engine.config name) = some program) :
    later.client.engine.registry.find? name = some program := by
  rw [run_renderNamedTemplate_unknown unknown, run_load_answering answers] at ran
  obtain ⟨forked, splits, went⟩ := Option.bind_eq_some_iff.mp ran
  obtain ⟨⟨⟨⟩, ended⟩, wentOn, same⟩ := Option.map_eq_some_iff.mp went
  cases same
  have sameClient : forked.2.client = store.client := Calls.Respect.client_fork splits
  have there : (consulted forked.2 name).client.engine.registry.find? name = some program := by
    simp only [consulted, withRegistry, sameClient]
    rw [find?_replay_of_unknown unknown fun event member =>
      Loader.not_removes_of_mem_bringing member name, brought]
  have still : (stillTenure (consulted forked.2 name).client.engine.registry).holds
      ended.client.engine := holds_of_goOn (fun _ _ found => found) wentOn
  exact still name program there

/-- An answer either meets no request, and nothing happens, or it is taken. -/
theorem answerRequest_cases {name : String} {source : Except RenderError String} {met : Bool}
    (ran : answerRequest (callsWithin depth) name source store = some (met, later)) :
    (met = false ∧ later = store) ∨
      ∃ request others, met = true ∧ request.template = name ∧
        answer (callsWithin depth) request source
          { store with client := { store.client with
              engine := { store.client.engine with requests := others } } } =
            some ((), later) := by
  have known : engine store = some (store.client.engine, store) := rfl
  rw [answerRequest, run_bind, known, Option.bind_some] at ran
  cases found : takeFirst? (fun request => request.template == name)
      store.client.engine.requests with
  | none =>
      rw [found] at ran
      cases ran
      exact .inl ⟨rfl, rfl⟩
  | some taken =>
      obtain ⟨request, others⟩ := taken
      rw [found] at ran
      simp only [modifyEngine, run_bind, run_modifyClient, Option.bind_some] at ran
      obtain ⟨⟨⟨⟩, between⟩, answered, rest⟩ := Option.bind_eq_some_iff.mp ran
      cases rest
      exact .inr ⟨request, others, rfl, by simpa using takeFirst?_test found, answered⟩

/-! ## Histories of sessions -/

/-- From one engine to another a step has made of the registry what it records, and what the loader
has brought meanwhile. -/
structure Records (engine : Engine) (step : Step) (shown : Shown) (later : Engine) : Prop where
  sameConfig : later.config = engine.config
  chosen : later.loader = step.chosen engine.loader
  came : ∃ during, (step.isExplicit = true → during = []) ∧
    Brought engine.config engine.loader
      (replay engine.config engine.registry (step.recorded engine.config shown)) during ∧
    later.registry =
      replay engine.config engine.registry (step.recorded engine.config shown ++ during)

theorem records_of_explicit (explicit : step.isExplicit = true)
    (ran : runStep (callsWithin depth) loaded step store = some ((shown, loadedLater), later)) :
    Records store.client.engine step shown later.client.engine := by
  have recorded : step.recorded store.client.engine.config shown =
      step.explicitly store.client.engine.config := by
    cases step <;> first | rfl | cases explicit
  have chosen : step.chosen store.client.engine.loader = store.client.engine.loader := by
    cases step <;> first | rfl | cases explicit
  obtain ⟨taken, same⟩ := run_explicit explicit
  rw [ran] at same
  cases same
  refine ⟨rfl, chosen.symm, [], fun _ => rfl, .nil _, ?_⟩
  rw [recorded, List.append_nil]
  rfl

theorem records_of_answer {name : String} {source : Except RenderError String}
    (ran : runStep (callsWithin depth) loaded (.answer name source) store =
      some ((shown, loadedLater), later)) :
    Records store.client.engine (.answer name source) shown later.client.engine := by
  obtain ⟨_, _, work, rest⟩ := bind_eq_some.mp ran
  obtain ⟨met, _, asked, shows⟩ := bind_eq_some.mp work
  cases shows
  cases rest
  rcases answerRequest_cases asked with ⟨rfl, rfl⟩ | ⟨request, others, rfl, rfl, answered⟩
  · exact ⟨rfl, rfl, [], nofun, .nil _, rfl⟩
  · obtain ⟨sameConfig, sameLoader, during, brought, came⟩ := brought_of_answer answered
    refine ⟨sameConfig, sameLoader, during, nofun, brought, ?_⟩
    rw [came, replay_append]
    rfl

theorem records_of_rendering (notExplicit : step.isExplicit = false)
    (notLoader : ∀ chosen, step ≠ .loader chosen)
    (notAnswer : ∀ name source, step ≠ .answer name source)
    (ran : runStep (callsWithin depth) loaded step store = some ((shown, loadedLater), later)) :
    Records store.client.engine step shown later.client.engine := by
  have recorded : step.recorded store.client.engine.config shown = [] := by
    cases step <;> first | rfl | exact absurd rfl (notAnswer _ _) | cases notExplicit
  have chosen : step.chosen store.client.engine.loader = store.client.engine.loader := by
    cases step <;> first | rfl | exact absurd rfl (notLoader _)
  obtain ⟨sameConfig, sameLoader, during, brought, came⟩ :=
    brought_of_rendering notExplicit notLoader notAnswer ran
  refine ⟨sameConfig, sameLoader.trans chosen.symm, during, ?_, ?_, ?_⟩
  · intro explicit
    rw [notExplicit] at explicit
    cases explicit
  · rw [recorded]
    exact brought
  · rw [recorded, List.nil_append, came]

theorem records_of_runStep
    (ran : runStep (callsWithin depth) loaded step store = some ((shown, loadedLater), later)) :
    Records store.client.engine step shown later.client.engine := by
  cases explicit : step.isExplicit with
  | true => exact records_of_explicit explicit ran
  | false =>
      by_cases isLoader : ∃ chosen, step = .loader chosen
      · obtain ⟨chosen, rfl⟩ := isLoader
        cases ran
        exact ⟨rfl, rfl, [], nofun, .nil _, rfl⟩
      · by_cases isAnswer : ∃ name source, step = .answer name source
        · obtain ⟨name, source, rfl⟩ := isAnswer
          exact records_of_answer ran
        · exact records_of_rendering explicit (fun chosen same => isLoader ⟨chosen, same⟩)
            (fun name source same => isAnswer ⟨name, source, same⟩) ran

/-- Whatever the steps of a session are, what happens to the registry in them is recorded. -/
theorem recorded_of_runSteps {steps : List Step} {entries : List (Shown × List Event)}
    (ran : runSteps (callsWithin depth) loaded steps store = some (entries, later)) :
    ∃ events,
      Recorded store.client.engine.config store.client.engine.loader
        store.client.engine.registry steps entries later.client.engine.loader events ∧
      later.client.engine.config = store.client.engine.config ∧
      later.client.engine.registry =
        replay store.client.engine.config store.client.engine.registry events := by
  induction steps generalizing loaded store entries with
  | nil =>
      cases ran
      exact ⟨[], .nil _ _, rfl, rfl⟩
  | cons step rest inductionHypothesis =>
      obtain ⟨⟨shown, loadedLater⟩, between, first, following⟩ := bind_eq_some.mp ran
      obtain ⟨told, cleared, taken, going⟩ := bind_eq_some.mp following
      obtain ⟨others, last, inTheRest, made⟩ := bind_eq_some.mp going
      cases made
      cases taken
      obtain ⟨sameConfig, chosen, during, still, brought, came⟩ := records_of_runStep first
      obtain ⟨more, recorded, sameLater, cameLater⟩ := inductionHypothesis inTheRest
      simp only [sameConfig, chosen, came] at recorded sameLater cameLater
      refine ⟨_, .cons still brought recorded, sameLater, ?_⟩
      rw [cameLater, replay_append, replay_append, replay_append]

end Steps

/-- In every session, whatever its steps are and wherever answers come in between, what is
registered under a name is at every moment what the history up to there says, and later moments only
add to the history. No render and no answer replaces what is registered; an answer that is a
template registers it where nothing is registered. A source that is no template leaves the registry
as it was, whether it is added, loaded or an answer. And a step that registers or takes away changes
nothing but the registry: what renders in progress have written, wait for and go on with stays. -/
theorem registry_isOwned (config : Config) (depth : Nat) :
    (∀ steps entries store,
      runSteps (callsWithin depth) [] steps (initial config) = some (entries, store) →
        ∃ history,
          Recorded config .none [] steps entries store.client.engine.loader history ∧
          (∀ name, store.client.engine.registry.find? name = owner? config name history) ∧
          ∀ loaded further more later,
            runSteps (callsWithin depth) loaded further store = some (more, later) →
              ∃ events,
                Recorded config store.client.engine.loader store.client.engine.registry further
                  more later.client.engine.loader events ∧
                ∀ name, later.client.engine.registry.find? name =
                  owner? config name (history ++ events)) ∧
    (∀ (step : Step) loaded taken (store later : Store Continuation Observer State),
      step.isExplicit = false →
        runStep (callsWithin depth) loaded step store = some (taken, later) →
          ∀ name program, store.client.engine.registry.find? name = some program →
            later.client.engine.registry.find? name = some program) ∧
    (∀ (request : Request) text program (store later : Store Continuation Observer State),
      answer (callsWithin depth) request (.ok text) store = some ((), later) →
        store.client.engine.registry.find? request.template = none →
          store.client.engine.compile (some request.template) text = .ok program →
            later.client.engine.registry.find? request.template = some program) ∧
    (∀ calls (request : Request) source (store : Store Continuation Observer State),
      answer calls request source store =
        goOn calls request (arrival store.client.engine request.template source)
          (withRegistry store (RegistryEvent.apply store.client.engine.config
            store.client.engine.registry (.answered request.template source)))) ∧
    (∀ calls name writer context program (store : Store Continuation Observer State),
      store.client.engine.registry.find? name = some program →
        renderNamedTemplate calls name writer context store =
          renderTemplate calls program writer context store) ∧
    (∀ calls name writer context (store : Store Continuation Observer State),
      store.client.engine.registry.find? name = none →
        match store.client.engine.loader.answer? name with
        | some answer =>
          renderNamedTemplate calls name writer context store =
            (writer.fork store).bind fun forked =>
              (goOn calls ⟨name, forked.1.1, context⟩
                (arrival (consulted forked.2 name).client.engine name answer)
                (consulted forked.2 name)).map fun done => (forked.1.2, done.2)
        | none =>
          store.client.engine.loader = .none ∧
            renderNamedTemplate calls name writer context store =
              writer.fail calls.handlers (.missingTemplate name) store ∨
          store.client.engine.loader = .deferred ∧
            renderNamedTemplate calls name writer context store =
              (writer.fork store).map fun forked =>
                (forked.1.2, waiting forked.2 ⟨name, forked.1.1, context⟩)) ∧
    (∀ name writer next context answer (store later : Store Continuation Observer State),
      store.client.engine.registry.find? name = none →
        store.client.engine.loader.answer? name = some answer →
          renderNamedTemplate (callsWithin depth) name writer context store = some (next, later) →
            ∀ program, owner? store.client.engine.config name
                (store.client.engine.loader.bringing store.client.engine.config name) =
                  some program →
              later.client.engine.registry.find? name = some program) ∧
    (∀ name text fault (store : Store Continuation Observer State),
      store.client.engine.compile (some name) text = .error fault →
        (∀ loaded, runStep (callsWithin depth) loaded (.add name text) store =
          some ((.failed (.parse fault), loaded), store)) ∧
        (∀ loaded kept, runStep (callsWithin depth) loaded (.load kept (some name) text) store =
          some ((.failed (.parse fault), loaded), store)) ∧
        ∃ found, findOrCompile name text store = some (found, store)) ∧
    ∀ (step : Step) loaded (store : Store Continuation Observer State), step.isExplicit = true →
      ∃ taken, runStep (callsWithin depth) loaded step store =
        some (taken, withRegistry store (replay store.client.engine.config
          store.client.engine.registry (step.explicitly store.client.engine.config))) := by
  refine ⟨fun steps entries store ran => ?_, ?_, ?_, run_answer,
    fun calls name writer context program store => run_renderNamedTemplate_known,
    fun calls name writer context store unknown => run_renderNamedTemplate_asking unknown,
    fun name writer next context answer store later => stays_of_consulted, ?_, ?_⟩
  · obtain ⟨history, recorded, sameConfig, came⟩ := recorded_of_runSteps ran
    have startsEmpty : (initial config).client.engine = Engine.ofConfig config := rfl
    simp only [startsEmpty, Engine.ofConfig] at recorded sameConfig came
    refine ⟨history, recorded, fun name => ?_, fun loaded further more later going => ?_⟩
    · rw [came, find?_replay]
    · obtain ⟨events, recordedLater, -, cameLater⟩ := recorded_of_runSteps going
      rw [sameConfig] at recordedLater cameLater
      refine ⟨events, recordedLater, fun name => ?_⟩
      rw [cameLater, came, ← replay_append, find?_replay]
  · exact fun step loaded taken store later notExplicit ran => stays_of_not_explicit notExplicit ran
  · intro request text program store later ran unknown compiled
    refine stays_of_answer ran _ _ ?_
    rw [RegistryEvent.apply_answered_unknown unknown compiled, Members.find?_insert_self]
  · intro name text fault store failed
    refine ⟨fun loaded => ?_, fun loaded kept => ?_, ?_⟩
    · rw [run_add, failed]
    · rw [run_load, failed]
    · rw [run_findOrCompile, RegistryEvent.apply_answered_unparsed failed]
      exact ⟨_, rfl⟩
  · exact fun step loaded store explicit => run_explicit explicit

/-- Two renders wait for a template while their own is registered anew. The first answer is no
template, the second one is; then the template is taken away, and nobody waits for a third one. -/
def contestedSteps : List Step :=
  [.loader .deferred, .add "main" "\x7b>page/\x7d\x7b<part\x7dold\x7b/part\x7d",
    .render "main" "r" .null, .render "main" "s" .null, .add "main" "new",
    .answer "page" (.ok "\x7b#a\x7d"), .answer "page" (.ok "[\x7b+part/\x7d]"), .remove "page",
    .answer "page" (.ok "x"), .render "main" "t" .null]

/-- The label under which a render has ended, and its text. -/
def ended? : Event → Option (String × Option String)
  | .done label text => some (label, some text)
  | .failed label _ => some (label, none)
  | _ => none

/-- A loader registers a source by itself before it answers; another one would answer at once, and
is asked only for the name under which nothing is registered yet. -/
def broughtSteps : List Step :=
  [.loader (.registering (fun _ => "own") fun _ => "reply"), .add "main" "<\x7b>page/\x7d>",
    .render "main" "r" .null, .loader (.immediate fun _ => .ok "other"), .render "page" "s" .null,
    .render "menu" "t" .null]

/-- A store with an outlet and a loader that answers at once, of which nobody has asked anything. -/
def askingStore : Store Continuation Observer State :=
  ⟨#[Outlet.opened (.collect "" none none)], #[], #[],
    (Engine.ofConfig .standard).withLoader (.immediate fun _ => .ok "text"), false⟩

/-- The renders that waited go on with what was registered when they began. What loaders bring is
registered from the first time on that they are asked for it. -/
theorem registry_isOwned_contested :
    (∃ entries store history,
      runSteps (callsWithin 9) [] contestedSteps (initial .standard) = some (entries, store) ∧
        entries.flatMap (fun entry => entry.2.filterMap ended?) =
          [("r", none), ("s", some "[old]"), ("t", some "new")] ∧
        store.client.engine.registry.map Prod.fst = ["main"] ∧
        Recorded .standard .none [] contestedSteps entries store.client.engine.loader history ∧
        ∀ name, store.client.engine.registry.find? name = owner? .standard name history) ∧
    (∃ entries store history,
      runSteps (callsWithin 9) [] broughtSteps (initial .standard) = some (entries, store) ∧
        entries.flatMap (fun entry => entry.2.filterMap ended?) =
          [("r", some "<own>"), ("s", some "own"), ("t", some "other")] ∧
        store.client.engine.registry.map Prod.fst = ["main", "menu", "page"] ∧
        Recorded .standard .none [] broughtSteps entries store.client.engine.loader history ∧
        ∀ name, store.client.engine.registry.find? name = owner? .standard name history) ∧
    ∃ next later program,
      askingStore.client.engine.registry.find? "page" = none ∧
        renderNamedTemplate (callsWithin 9) "page" (Writer.onOutlet 0) .empty askingStore =
          some (next, later) ∧
        Program.ofSource .standard (some "page") "text" = .ok program ∧
        later.client.engine.registry.find? "page" = some program := by
  have contested :
      (runSteps (callsWithin 9) [] contestedSteps (initial .standard)).map (fun found =>
        (found.1.flatMap (fun entry => entry.2.filterMap ended?),
          found.2.client.engine.registry.map Prod.fst)) =
        some ([("r", none), ("s", some "[old]"), ("t", some "new")], ["main"]) := by
    decide +kernel
  have brought :
      (runSteps (callsWithin 9) [] broughtSteps (initial .standard)).map (fun found =>
        (found.1.flatMap (fun entry => entry.2.filterMap ended?),
          found.2.client.engine.registry.map Prod.fst)) =
        some ([("r", some "<own>"), ("s", some "own"), ("t", some "other")],
          ["main", "menu", "page"]) := by
    decide +kernel
  have loads : (renderNamedTemplate (callsWithin 9) "page" (Writer.onOutlet 0) .empty
      askingStore).isSome = true := by
    decide +kernel
  have parses : (Program.ofSource .standard (some "page") "text").toOption.isSome = true := by
    decide +kernel
  refine ⟨?_, ?_, ?_⟩
  · obtain ⟨⟨entries, store⟩, ran, seen⟩ := Option.map_eq_some_iff.mp contested
    obtain ⟨results, registered⟩ := Prod.mk.inj seen
    obtain ⟨history, recorded, owned, -⟩ := (registry_isOwned .standard 9).1 _ _ _ ran
    exact ⟨entries, store, history, ran, results, registered, recorded, owned⟩
  · obtain ⟨⟨entries, store⟩, ran, seen⟩ := Option.map_eq_some_iff.mp brought
    obtain ⟨results, registered⟩ := Prod.mk.inj seen
    obtain ⟨history, recorded, owned, -⟩ := (registry_isOwned .standard 9).1 _ _ _ ran
    exact ⟨entries, store, history, ran, results, registered, recorded, owned⟩
  · obtain ⟨⟨next, later⟩, ran⟩ := Option.isSome_iff_exists.mp loads
    obtain ⟨program, answers⟩ := Option.isSome_iff_exists.mp parses
    have brings : owner? .standard "page"
        ((Loader.immediate fun _ => .ok "text").bringing .standard "page") = some program := by
      rw [← answers]
      rfl
    have stays := (registry_isOwned .standard 9).2.2.2.2.2.2.1 "page" _ _ _ (.ok "text") _ _
      rfl rfl ran program brings
    refine ⟨next, later, program, rfl, ran, ?_, stays⟩
    cases compiled : Program.ofSource .standard (some "page") "text" with
    | error fault =>
        rw [compiled] at answers
        cases answers
    | ok found =>
        rw [compiled] at answers
        exact congrArg Except.ok (Option.some.inj answers)

end Render

end BraceTemplate
