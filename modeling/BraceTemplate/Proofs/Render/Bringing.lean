import BraceTemplate.Proofs.Render.Histories
import BraceTemplate.Proofs.Render.Respecting

/-!
# What loaders bring

A name under which nothing is registered is asked of the loader. What the loader does by itself when
it is asked is to the registry a list of events, and so is an answer that comes later. Once they
have happened the render goes on with what is registered under the name.
-/

namespace BraceTemplate

def registration (name : String) : Except ParseError Program → List RegistryEvent
  | .error _ => []
  | .ok program => [.registered name program]

namespace Loader

/-- The answer for a name, if it comes at once. -/
def answer? (name : String) : Loader → Option (Except RenderError String)
  | .immediate source => some (source name)
  | .registering _ reply => some (.ok (reply name))
  | _ => Option.none

/-- What a loader does that is asked for a name: it answers at once, or registers a source by itself
before, or does nothing by itself. -/
def bringing (config : Config) (name : String) : Loader → List RegistryEvent
  | .immediate source => [.answered name (source name)]
  | .registering source reply =>
    registration name (Program.ofSource config (some name) (source name)) ++
      [.answered name (.ok (reply name))]
  | _ => []

variable {config : Config} {loader : Loader} {name : String} {event : RegistryEvent}

theorem answered_mem_bringing {answer : Except RenderError String}
    (answers : loader.answer? name = some answer) :
    .answered name answer ∈ loader.bringing config name := by
  cases loader with
  | none | deferred => cases answers
  | immediate source =>
      cases answers
      exact List.mem_singleton_self _
  | registering source reply =>
      cases answers
      exact List.mem_append_right _ (List.mem_singleton_self _)

theorem registered_mem_bringing {source reply : String → String} {program : Program}
    (compiled : Program.ofSource config (some name) (source name) = .ok program) :
    .registered name program ∈ (Loader.registering source reply).bringing config name := by
  refine List.mem_append_left _ ?_
  rw [compiled]
  exact List.mem_singleton_self _

/-- No loader takes anything away. -/
theorem not_removes_of_mem_bringing (member : event ∈ loader.bringing config name)
    (other : String) : event.removes other = false := by
  cases loader with
  | none | deferred => cases member
  | immediate source =>
      rw [List.mem_singleton.mp member]
      rfl
  | registering source reply =>
      rcases List.mem_append.mp member with registers | answers
      · unfold registration at registers
        split at registers
        · cases registers
        · rw [List.mem_singleton.mp registers]
          rfl
      · rw [List.mem_singleton.mp answers]
        rfl

end Loader

/-- What a loader has brought into a registry: each event is one that it causes where it is asked
for a name under which nothing is registered, and registers a template there. -/
inductive Brought (config : Config) (loader : Loader) :
    Members Program → List RegistryEvent → Prop
  | nil (registry : Members Program) : Brought config loader registry []
  | cons {registry : Members Program} {name : String} {event : RegistryEvent}
      {rest : List RegistryEvent} (unknown : registry.find? name = none)
      (brings : event ∈ loader.bringing config name)
      (registers : ((event.apply config registry).find? name).isSome = true)
      (others : Brought config loader (event.apply config registry) rest) :
      Brought config loader registry (event :: rest)

namespace Brought

variable {config : Config} {loader : Loader} {registry : Members Program} {name : String}
variable {event : RegistryEvent} {events : List RegistryEvent}

theorem concat (brought : Brought config loader registry events)
    (unknown : (replay config registry events).find? name = none)
    (brings : event ∈ loader.bringing config name)
    (registers :
      ((event.apply config (replay config registry events)).find? name).isSome = true) :
    Brought config loader registry (events ++ [event]) := by
  induction brought with
  | nil registry => exact .cons unknown brings registers (.nil _)
  | cons before first added others inductionHypothesis =>
      exact .cons before first added (inductionHypothesis unknown registers)

end Brought

namespace Render

open Output

/-- A store with another registry. -/
def withRegistry (store : Store Continuation Observer State) (registry : Members Program) :
    Store Continuation Observer State :=
  { store with
    client := { store.client with engine := { store.client.engine with registry := registry } } }

/-- What a request is answered with: the template under the name, or else the one of the answer. -/
def arrival (engine : Engine) (name : String) :
    Except RenderError String → Except RenderError Program
  | .error error => .error error
  | .ok text =>
    match engine.registry.find? name with
    | some program => .ok program
    | none => (engine.compile (some name) text).mapError .parse

/-- Goes on where a template was asked for. -/
def goOn (calls : Calls) (request : Request) : Except RenderError Program → Action Unit
  | .error error => discard (request.branch.fail calls.handlers error)
  | .ok program => do
    let last ← renderTemplate calls program request.branch request.context
    last.finish calls.handlers

/-- A store after a loader has done what it does by itself for a name. -/
def consulted (store : Store Continuation Observer State) (name : String) :
    Store Continuation Observer State :=
  withRegistry store (replay store.client.engine.config store.client.engine.registry
    (store.client.engine.loader.bringing store.client.engine.config name))

/-- A store with one more request that waits. -/
def waiting (store : Store Continuation Observer State) (request : Request) :
    Store Continuation Observer State :=
  { store with client := { store.client with engine := { store.client.engine with
      requests := store.client.engine.requests ++ [request] } } }

section Runs

variable {calls : Calls} {writer : Writer} {context : Context} {name : String}
variable {store : Store Continuation Observer State}

theorem run_findOrCompile (name text : String) (store : Store Continuation Observer State) :
    findOrCompile name text store =
      some (arrival store.client.engine name (.ok text),
        withRegistry store (RegistryEvent.apply store.client.engine.config
          store.client.engine.registry (.answered name (.ok text)))) := by
  have ran : findOrCompile name text store =
      (match store.client.engine.registry.find? name with
        | some program => pure (.ok program)
        | none =>
          match store.client.engine.compile (some name) text with
          | .error error => pure (.error (.parse error))
          | .ok program => do
            modifyEngine fun engine => engine.register name program
            pure (.ok program) : Action (Except RenderError Program)) store := rfl
  rw [ran]
  cases found : store.client.engine.registry.find? name with
  | some program =>
      rw [RegistryEvent.apply_answered_known found]
      simp only [arrival, found]
      rfl
  | none =>
      cases compiled : store.client.engine.compile (some name) text with
      | error fault =>
          rw [RegistryEvent.apply_answered_unparsed compiled]
          simp only [arrival, found, compiled]
          rfl
      | ok program =>
          rw [RegistryEvent.apply_answered_unknown found compiled]
          simp only [arrival, found, compiled]
          rfl

/-- An answer is to the registry what the history says, and then the render goes on. -/
theorem run_answer (calls : Calls) (request : Request) (source : Except RenderError String)
    (store : Store Continuation Observer State) :
    answer calls request source store =
      goOn calls request (arrival store.client.engine request.template source)
        (withRegistry store (RegistryEvent.apply store.client.engine.config
          store.client.engine.registry (.answered request.template source))) := by
  cases source with
  | error error => rfl
  | ok text =>
      have ran : answer calls request (.ok text) store =
          (findOrCompile request.template text store).bind fun found =>
            goOn calls request found.1 found.2 := by
        refine congrArg (Option.bind _) (funext fun found => ?_)
        obtain ⟨outcome, later⟩ := found
        cases outcome <;> rfl
      rw [ran, run_findOrCompile]
      rfl

theorem run_registerSource (name text : String) (store : Store Continuation Observer State) :
    registerSource name text store =
      some ((), withRegistry store (replay store.client.engine.config store.client.engine.registry
        (registration name (store.client.engine.compile (some name) text)))) := by
  have known : engine store = some (store.client.engine, store) := rfl
  rw [registerSource, run_bind, known, Option.bind_some, Engine.addTemplate]
  cases store.client.engine.compile (some name) text <;> rfl

/-- Once an answer has arrived, it is answered alike. -/
theorem arrival_answered (store : Store Continuation Observer State) (name : String)
    (source : Except RenderError String) :
    arrival (withRegistry store (RegistryEvent.apply store.client.engine.config
      store.client.engine.registry (.answered name source))).client.engine name source =
        arrival store.client.engine name source := by
  cases source with
  | error error => rfl
  | ok text =>
      cases found : store.client.engine.registry.find? name with
      | some program =>
          rw [RegistryEvent.apply_answered_known found]
          rfl
      | none =>
          cases compiled : store.client.engine.compile (some name) text with
          | error fault =>
              rw [RegistryEvent.apply_answered_unparsed compiled]
              rfl
          | ok program =>
              rw [RegistryEvent.apply_answered_unknown found compiled]
              simp only [arrival, found, compiled, withRegistry, Members.find?_insert_self]
              rfl

/-- An answer that is taken while something else goes on at another place. -/
theorem run_answer_aside (calls : Calls) (request : Request) (source : Except RenderError String)
    (next : Writer) (store : Store Continuation Observer State) :
    (answer calls request source >>= fun _ => pure next) store =
      (goOn calls request (arrival store.client.engine request.template source)
        (withRegistry store (RegistryEvent.apply store.client.engine.config
          store.client.engine.registry (.answered request.template source)))).map
            fun done => (next, done.2) := by
  rw [run_bind, run_answer, Option.map_eq_bind]
  rfl

/-- A loader that answers at once is asked: on a branch the render goes on with what is registered
once the loader has done what it does. -/
theorem run_load_answering {answer : Except RenderError String}
    (answers : store.client.engine.loader.answer? name = some answer) :
    load calls store.client.engine.loader name writer context store =
      (writer.fork store).bind fun forked =>
        (goOn calls ⟨name, forked.1.1, context⟩
          (arrival (consulted forked.2 name).client.engine name answer)
          (consulted forked.2 name)).map
            fun done => (forked.1.2, done.2) := by
  have sameClient : ∀ forked, writer.fork store = some forked →
      forked.2.client = store.client := fun _ ran => Calls.Respect.client_fork ran
  cases loads : store.client.engine.loader with
  | none | deferred =>
      rw [loads] at answers
      cases answers
  | immediate source =>
      rw [loads] at answers
      cases answers
      refine Option.bind_congr fun forked ran => ?_
      have brings : consulted forked.2 name = withRegistry forked.2 (RegistryEvent.apply
          forked.2.client.engine.config forked.2.client.engine.registry
            (.answered name (source name))) := by
        rw [consulted, sameClient forked ran, loads]
        rfl
      rw [brings, arrival_answered]
      exact run_answer_aside ..
  | registering source reply =>
      rw [loads] at answers
      cases answers
      refine Option.bind_congr fun forked ran => ?_
      let registered := withRegistry forked.2 (replay forked.2.client.engine.config
        forked.2.client.engine.registry
          (registration name (forked.2.client.engine.compile (some name) (source name))))
      have brings : consulted forked.2 name = withRegistry registered (RegistryEvent.apply
          registered.client.engine.config registered.client.engine.registry
            (.answered name (.ok (reply name)))) := by
        rw [consulted, sameClient forked ran, loads, Loader.bringing, replay_append_singleton]
        simp only [registered, withRegistry, sameClient forked ran]
        rfl
      have ranOn : (registerSource name (source name) >>= fun _ =>
          answer calls ⟨name, forked.1.1, context⟩ (.ok (reply name)) >>= fun _ =>
            pure forked.1.2) forked.2 =
          (answer calls ⟨name, forked.1.1, context⟩ (.ok (reply name)) >>= fun _ =>
            pure forked.1.2) registered := by
        rw [run_bind, run_registerSource, Option.bind_some]
      rw [brings, arrival_answered, ← run_answer_aside calls ⟨name, forked.1.1, context⟩]
      exact ranOn

/-- Where a template is registered the loader is not asked. -/
theorem run_renderNamedTemplate_known {program : Program}
    (known : store.client.engine.registry.find? name = some program) :
    renderNamedTemplate calls name writer context store =
      renderTemplate calls program writer context store := by
  have read : engine store = some (store.client.engine, store) := rfl
  rw [renderNamedTemplate, run_bind, read, Option.bind_some, known]

theorem run_renderNamedTemplate_unknown
    (unknown : store.client.engine.registry.find? name = none) :
    renderNamedTemplate calls name writer context store =
      load calls store.client.engine.loader name writer context store := by
  have read : engine store = some (store.client.engine, store) := rfl
  rw [renderNamedTemplate, run_bind, read, Option.bind_some, unknown]

/-- Where nothing is registered the loader is asked: the render goes on with what it has brought, or
fails, or waits. -/
theorem run_renderNamedTemplate_asking
    (unknown : store.client.engine.registry.find? name = none) :
    match store.client.engine.loader.answer? name with
    | some answer =>
      renderNamedTemplate calls name writer context store =
        (writer.fork store).bind fun forked =>
          (goOn calls ⟨name, forked.1.1, context⟩
            (arrival (consulted forked.2 name).client.engine name answer)
            (consulted forked.2 name)).map
              fun done => (forked.1.2, done.2)
    | none =>
      store.client.engine.loader = .none ∧
        renderNamedTemplate calls name writer context store =
          writer.fail calls.handlers (.missingTemplate name) store ∨
      store.client.engine.loader = .deferred ∧
        renderNamedTemplate calls name writer context store =
          (writer.fork store).map fun forked =>
            (forked.1.2, waiting forked.2 ⟨name, forked.1.1, context⟩) := by
  rw [run_renderNamedTemplate_unknown unknown]
  cases answers : store.client.engine.loader.answer? name with
  | some answer => exact run_load_answering answers
  | none =>
      cases loads : store.client.engine.loader with
      | none => exact .inl ⟨rfl, rfl⟩
      | deferred =>
          refine .inr ⟨rfl, ?_⟩
          rw [Option.map_eq_bind]
          rfl
      | immediate _ | registering _ _ =>
          rw [loads] at answers
          cases answers

end Runs

end Render

end BraceTemplate
