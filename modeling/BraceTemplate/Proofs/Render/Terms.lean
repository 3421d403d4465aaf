import BraceTemplate.Proofs.Render.Allowing
import BraceTemplate.Proofs.Render.Telling

/-!
# Going on alike from two stores

Two stores may differ in one outlet that is set aside, and in what has happened. Of everything else
they agree; terms say what holds of it: which functions occur, with which errors renders may fail,
what holds of the engine, and what is known of the outlet set aside. An action respects the terms if
from any two such stores it is out of steps in both, or yields one result with a property and leads
to two such stores again.
-/

namespace BraceTemplate

namespace Render

open Output

/-- What holds of an engine, whatever renders do with it, what may be answered for a name, and which
sources a loader may register under a name. -/
structure Tenure (allowance : Allowance) where
  holds : Engine → Prop
  answers : String → Except RenderError String → Prop
  supplies : String → String → Prop
  helpers : ∀ engine name helper, holds engine →
    engine.helpers.find? name = some (.host helper) →
      ∀ error, HostAction.fail error ∈ helper.actions → allowance.permitted error
  recursivePartial : ∀ engine name, holds engine →
    allowance.permitted (.recursivePartial name engine.config.maxDepth)
  recursiveBlock : ∀ engine name, holds engine →
    allowance.permitted (.recursiveBlock name engine.config.maxDepth)
  missing : ∀ engine name, holds engine → engine.loader = .none →
    allowance.permitted (.missingTemplate name)
  immediate : ∀ engine source name, holds engine → engine.loader = .immediate source →
    answers name (source name)
  replies : ∀ engine source reply name, holds engine → engine.loader = .registering source reply →
    answers name (.ok (reply name))
  failed : ∀ name error, answers name (.error error) → allowance.permitted error
  unparsed : ∀ engine name text fault, holds engine → answers name (.ok text) →
    engine.compile (some name) text = .error fault → allowance.permitted (.parse fault)
  sources : ∀ engine source reply name, holds engine → engine.loader = .registering source reply →
    supplies name (source name)
  registers : ∀ engine name text program, holds engine → supplies name text →
    engine.registry.find? name = none → engine.compile (some name) text = .ok program →
      holds (engine.register name program)
  compiled : ∀ engine name text program, holds engine → answers name (.ok text) →
    engine.registry.find? name = none → engine.compile (some name) text = .ok program →
      holds (engine.register name program)
  requested : ∀ engine, holds engine → ∀ request ∈ engine.requests,
    allowance.Admits request.context
  asks : ∀ engine requests, holds engine →
    (∀ request ∈ requests, allowance.Admits request.context) →
      holds { engine with requests := requests }
  keeps : ∀ engine held, holds engine → holds { engine with held := held }

def Tenure.keeping (holds : Engine → Prop)
    (registers : ∀ engine name program, holds engine → engine.registry.find? name = none →
      holds (engine.register name program))
    (asks : ∀ engine requests, holds engine → holds { engine with requests := requests })
    (keeps : ∀ engine held, holds engine → holds { engine with held := held }) : Tenure .all where
  holds := holds
  answers _ _ := True
  supplies _ _ := True
  helpers _ _ _ _ _ _ _ := trivial
  recursivePartial _ _ _ := trivial
  recursiveBlock _ _ _ := trivial
  missing _ _ _ _ := trivial
  immediate _ _ _ _ _ := trivial
  replies _ _ _ _ _ _ := trivial
  failed _ _ _ := trivial
  unparsed _ _ _ _ _ _ _ := trivial
  sources _ _ _ _ _ _ := trivial
  registers engine name _ program still _ unknown _ := registers engine name program still unknown
  compiled engine name _ program still _ unknown _ := registers engine name program still unknown
  requested _ _ request _ := request.context.holds_true
  asks engine requests still _ := asks engine requests still
  keeps := keeps

def Tenure.any : Tenure .all :=
  .keeping (fun _ => True) (fun _ _ _ _ _ => trivial) (fun _ _ _ => trivial) fun _ _ _ => trivial

def Tenure.idle : Tenure .all :=
  .keeping (fun engine => engine.queue = []) (fun _ _ _ nothing _ => nothing)
    (fun _ _ nothing => nothing) fun _ _ nothing => nothing

/-- What is known of the outlet that is set aside in two stores, if any, and of what has happened in
them. -/
structure Aside (spoken : Event → Prop) where
  id? : Option OutletId
  relates : Option (Outlet Continuation Observer) → Array Event →
    Option (Outlet Continuation Observer) → Array Event → Prop
  notes : ∀ first one second other events, relates first one second other →
    (∀ event ∈ events, spoken event) →
      relates first (one ++ (events : List Event)) second (other ++ events)
  there : ∀ first one second other, relates first one second other → id?.isSome →
    ∃ found seen, first = some found ∧ second = some seen
  agrees : ∀ first one second other, relates (some first) one (some second) other →
    first.nextNumber = second.nextNumber ∧ first.flushing = second.flushing
  changes : ∀ first one second other, relates (some first) one (some second) other →
    ∀ number change,
      relates (some (first.change number change)) one (some (second.change number change)) other
  forks : ∀ first one second other, relates (some first) one (some second) other →
    ∀ number, relates (some (first.fork number)) one (some (second.fork number)) other
  within : ∀ first one second other, relates (some first) one (some second) other →
    first.flushing = true →
      relates (some { first with again := true }) one (some { second with again := true }) other
  quiet : ∀ first one second other, relates (some first) one (some second) other →
    IsQuiet first ∧ IsQuiet second
  flushes : ∀ first one second other, relates (some first) one (some second) other →
    first.flushing = false →
      relates (some (flushed first)) (one ++ said first) (some (flushed second))
        (other ++ said second)

/-- The terms on which two stores go on. -/
structure Terms where
  allowance : Allowance
  tenure : Tenure allowance
  /-- What may be made known. -/
  spoken : Event → Prop
  aside : Aside spoken

namespace Terms

variable (terms : Terms)

def FineSegment (segment : Segment) : Prop :=
  ∀ error, segment.error = some error → terms.allowance.permitted error

def FineResult (result : Except RenderError String) : Prop :=
  ∀ error, result = .error error → terms.allowance.permitted error

def FineContinuation : Continuation → Prop
  | .report label => ∀ result, terms.FineResult result → terms.spoken (reported label result)
  | .capture _ (.include context) => terms.allowance.Admits context
  | .capture _ .shout => True

def FineListeners (listeners : Listeners Observer) : Prop :=
  ∀ occasion, (∀ error, occasion = .failed error → terms.allowance.permitted error) →
    ∀ event ∈ listeners.notes occasion, terms.spoken event

def FineSink : Sink Continuation Observer → Prop
  | .collect _ result onResult =>
    (∀ final, result = some final → terms.FineResult final) ∧
      ∀ continuation, onResult = some continuation → terms.FineContinuation continuation
  | .stream listeners => terms.FineListeners listeners

/-- An outlet that fails with permitted errors only, and whose result is gone on with as the terms
say. -/
structure Fine (outlet : Outlet Continuation Observer) : Prop where
  segments : ∀ segment ∈ outlet.waiting, terms.FineSegment segment
  sink : terms.FineSink outlet.sink

/-- Two stores that agree but for what is set aside. -/
structure Parallel (one other : Store Continuation Observer State) : Prop where
  client : one.client = other.client
  engine : terms.tenure.holds one.client.engine
  pots : one.pots = other.pots
  size : one.outlets.size = other.outlets.size
  same : ∀ id, terms.aside.id? ≠ some id → one.outlets[id]? = other.outlets[id]?
  fine : ∀ id outlet, terms.aside.id? ≠ some id → one.outlets[id]? = some outlet →
    terms.Fine outlet
  related : terms.aside.relates (terms.aside.id?.bind fun id => one.outlets[id]?) one.events
    (terms.aside.id?.bind fun id => other.outlets[id]?) other.events

end Terms

/-- Two runs that are both out of steps, or yield one result with a property and lead to related
stores. -/
inductive Alike {Result : Type}
    (related : Store Continuation Observer State → Store Continuation Observer State → Prop)
    (ofResult : Result → Prop) :
    Option (Result × Store Continuation Observer State) →
      Option (Result × Store Continuation Observer State) → Prop
  | out : Alike related ofResult none none
  | both {result : Result} {one other : Store Continuation Observer State}
      (still : related one other) (holds : ofResult result) :
      Alike related ofResult (some (result, one)) (some (result, other))

/-- What goes on alike from what is alike is alike. -/
theorem Alike.bind {Result Next : Type}
    {related : Store Continuation Observer State → Store Continuation Observer State → Prop}
    {ofResult : Result → Prop} {ofNext : Next → Prop}
    {first second : Option (Result × Store Continuation Observer State)}
    {next : Result × Store Continuation Observer State →
      Option (Next × Store Continuation Observer State)}
    (alike : Alike related ofResult first second)
    (each : ∀ result one other, related one other → ofResult result →
      Alike related ofNext (next (result, one)) (next (result, other))) :
    Alike related ofNext (first.bind next) (second.bind next) := by
  cases alike with
  | out => exact .out
  | both still holds => exact each _ _ _ still holds

theorem Alike.mono {Result : Type}
    {related weaker : Store Continuation Observer State → Store Continuation Observer State → Prop}
    {ofResult ofMore : Result → Prop}
    {first second : Option (Result × Store Continuation Observer State)}
    (alike : Alike related ofResult first second)
    (implies : ∀ one other, related one other → weaker one other)
    (impliesMore : ∀ result, ofResult result → ofMore result) :
    Alike weaker ofMore first second := by
  cases alike with
  | out => exact .out
  | both still holds => exact .both (implies _ _ still) (impliesMore _ holds)

def Terms.Respects {Result : Type} (terms : Terms) (ofResult : Result → Prop)
    (action : Action Result) : Prop :=
  ∀ one other, terms.Parallel one other →
    Alike terms.Parallel ofResult (action one) (action other)

def Terms.RespectsAt {Result : Type} (terms : Terms) (engine : Engine) (ofResult : Result → Prop)
    (action : Action Result) : Prop :=
  ∀ one other, terms.Parallel one other → one.client.engine = engine →
    Alike terms.Parallel ofResult (action one) (action other)

namespace Terms

variable {terms : Terms} {Result Next : Type} {ofResult : Result → Prop} {ofNext : Next → Prop}
variable {one other : Store Continuation Observer State} {id : OutletId}

theorem Parallel.withClient (parallel : terms.Parallel one other) {client : State}
    (holds : terms.tenure.holds client.engine) :
    terms.Parallel { one with client := client } { other with client := client } :=
  { parallel with client := rfl, engine := holds }

theorem Parallel.withPots (parallel : terms.Parallel one other) (pots : Array String) :
    terms.Parallel { one with pots := pots } { other with pots := pots } :=
  { parallel with pots := rfl }

theorem Parallel.noting (parallel : terms.Parallel one other) {events : List Event}
    (spoken : ∀ event ∈ events, terms.spoken event) :
    terms.Parallel (one.noting events) (other.noting events) :=
  { parallel with related := terms.aside.notes _ _ _ _ _ parallel.related spoken }

/-- The outlet that is set aside is there. -/
theorem Parallel.there (parallel : terms.Parallel one other) (aside : terms.aside.id? = some id) :
    ∃ first second, one.outlets[id]? = some first ∧ other.outlets[id]? = some second ∧
      terms.aside.relates (some first) one.events (some second) other.events := by
  have related := parallel.related
  rw [aside] at related
  simp only [Option.bind_some] at related
  obtain ⟨first, second, hereOne, hereOther⟩ :=
    terms.aside.there _ _ _ _ related (by rw [aside]; rfl)
  rw [hereOne, hereOther] at related
  exact ⟨first, second, hereOne, hereOther, related⟩

/-- An outlet that is not set aside is replaced in both stores. -/
theorem Parallel.put (parallel : terms.Parallel one other)
    (notAside : terms.aside.id? ≠ some id) {outlet : Outlet Continuation Observer}
    (fine : terms.Fine outlet) : terms.Parallel (one.put id outlet) (other.put id outlet) := by
  have beside : ∀ store : Store Continuation Observer State,
      (terms.aside.id?.bind fun other => (store.put id outlet).outlets[other]?) =
        terms.aside.id?.bind fun other => store.outlets[other]? := by
    intro store
    cases aside : terms.aside.id? with
    | none => rfl
    | some found =>
        rw [Option.bind_some, Option.bind_some, Store.put_outlets_of_ne]
        rintro rfl
        exact notAside aside
  refine ⟨parallel.client, parallel.engine, parallel.pots, ?_, ?_, ?_, ?_⟩
  · rw [Store.put_outlets_size, Store.put_outlets_size, parallel.size]
  · intro found different
    by_cases here : id = found
    · subst here
      simp [Store.put, parallel.size, Array.getElem?_setIfInBounds]
    · rw [Store.put_outlets_of_ne _ _ here, Store.put_outlets_of_ne _ _ here,
        parallel.same found different]
  · intro found seen different there
    by_cases here : id = found
    · subst here
      have bound : id < one.outlets.size := by
        have inBounds := Store.lt_size_of_outlet there
        rwa [Store.put_outlets_size] at inBounds
      rw [Store.put_outlets_self _ _ bound] at there
      cases there
      exact fine
    · rw [Store.put_outlets_of_ne _ _ here] at there
      exact parallel.fine found seen different there
  · rw [beside, beside]
    exact parallel.related

/-- The outlet that is set aside is replaced in both stores, and something happens. -/
theorem Parallel.putAside (parallel : terms.Parallel one other)
    (aside : terms.aside.id? = some id) {first second : Outlet Continuation Observer}
    {ofOne ofOther : List Event}
    (related : terms.aside.relates (some first) (one.events ++ ofOne) (some second)
      (other.events ++ ofOther)) :
    terms.Parallel ((one.put id first).noting ofOne) ((other.put id second).noting ofOther) := by
  have elsewhere : ∀ found, terms.aside.id? ≠ some found → id ≠ found := by
    rintro found different rfl
    exact different aside
  obtain ⟨_, _, thereOne, thereOther, -⟩ := parallel.there aside
  refine ⟨parallel.client, parallel.engine, parallel.pots, ?_, ?_, ?_, ?_⟩
  · simp [parallel.size]
  · intro found different
    rw [Store.noting_outlets, Store.noting_outlets,
      Store.put_outlets_of_ne _ _ (elsewhere found different),
      Store.put_outlets_of_ne _ _ (elsewhere found different), parallel.same found different]
  · intro found seen different there
    rw [Store.noting_outlets, Store.put_outlets_of_ne _ _ (elsewhere found different)] at there
    exact parallel.fine found seen different there
  · rw [aside, Option.bind_some, Option.bind_some, Store.noting_outlets, Store.noting_outlets,
      Store.put_outlets_self _ _ (Store.lt_size_of_outlet thereOne),
      Store.put_outlets_self _ _ (Store.lt_size_of_outlet thereOther)]
    exact related

theorem Parallel.putAsideQuietly (parallel : terms.Parallel one other)
    (aside : terms.aside.id? = some id) {first second : Outlet Continuation Observer}
    (related : terms.aside.relates (some first) one.events (some second) other.events) :
    terms.Parallel (one.put id first) (other.put id second) := by
  have relatedStill : terms.aside.relates (some first) (one.events ++ ([] : List Event))
      (some second) (other.events ++ ([] : List Event)) := by
    simpa using related
  have noted := parallel.putAside aside relatedStill
  simpa using noted

namespace Respects

theorem pure {result : Result} (holds : ofResult result) :
    terms.Respects ofResult (Pure.pure result) :=
  fun _ _ parallel => .both parallel holds

theorem outOfSteps : terms.Respects ofResult Output.outOfSteps :=
  fun _ _ _ => .out

/-- What goes on need only respect the terms for results that the first action yields. -/
theorem bindYielded {action : Action Result} {next : Result → Action Next}
    (ofFirst : terms.Respects ofResult action)
    (ofSecond : ∀ result, ofResult result → Yields action result →
      terms.Respects ofNext (next result)) :
    terms.Respects ofNext (action >>= next) := by
  intro one other parallel
  rw [run_bind, run_bind]
  have alike := ofFirst one other parallel
  generalize ran : action one = first, action other = second at alike ⊢
  cases alike with
  | out => exact .out
  | both still holds => exact ofSecond _ holds ⟨one, _, ran⟩ _ _ still

theorem bind {action : Action Result} {next : Result → Action Next}
    (ofFirst : terms.Respects ofResult action)
    (ofSecond : ∀ result, ofResult result → terms.Respects ofNext (next result)) :
    terms.Respects ofNext (action >>= next) :=
  ofFirst.bindYielded fun result holds _ => ofSecond result holds

theorem mono {weaker : Result → Prop} {action : Action Result}
    (respects : terms.Respects ofResult action)
    (implies : ∀ result, ofResult result → weaker result) : terms.Respects weaker action := by
  intro one other parallel
  exact (respects one other parallel).mono (fun _ _ still => still) implies

theorem discard {action : Action Result} (respects : terms.Respects ofResult action) :
    terms.Respects (fun _ => True) (Functor.discard action) := by
  intro one other parallel
  have alike := respects one other parallel
  rw [run_discard, run_discard]
  generalize action one = first, action other = second at alike ⊢
  cases alike with
  | out => exact .out
  | both still _ => exact .both still trivial

theorem forM {Item : Type} {step : Item → Action PUnit} {items : List Item}
    (each : ∀ item ∈ items, terms.Respects (fun _ => True) (step item)) :
    terms.Respects (fun _ => True) (items.forM step) := by
  induction items with
  | nil => exact pure trivial
  | cons item rest inductionHypothesis =>
      exact (each item List.mem_cons_self).bind fun _ _ =>
        inductionHypothesis fun other member => each other (List.mem_cons_of_mem _ member)

theorem ofClient {next : State → Action Next}
    (each : ∀ state, terms.tenure.holds state.engine → terms.Respects ofNext (next state)) :
    terms.Respects ofNext (client >>= next) := by
  intro one other parallel
  rw [run_bind, run_bind, run_client, run_client, Option.bind_some, Option.bind_some,
    ← parallel.client]
  exact each _ parallel.engine one other parallel

theorem ofEngine {next : Engine → Action Next}
    (each : ∀ engine, terms.tenure.holds engine → terms.Respects ofNext (next engine)) :
    terms.Respects ofNext (engine >>= next) :=
  ofClient fun state holds => each state.engine holds

/-- What goes on with the engine as it is may rely on nothing having changed. -/
theorem atEngine {next : Engine → Action Next}
    (each : ∀ engine, terms.tenure.holds engine → terms.RespectsAt engine ofNext (next engine)) :
    terms.Respects ofNext (engine >>= next) := by
  intro one other parallel
  have sameEngine : other.client.engine = one.client.engine := by rw [← parallel.client]
  have ran : ∀ store : Store Continuation Observer State,
      (engine >>= next) store = next store.client.engine store := fun _ => rfl
  rw [ran, ran, sameEngine]
  exact each _ parallel.engine one other parallel rfl

theorem toAt {engine : Engine} {action : Action Result}
    (respects : terms.Respects ofResult action) : terms.RespectsAt engine ofResult action :=
  fun one other parallel _ => respects one other parallel

theorem isSettled : terms.Respects (fun _ => True) Render.isSettled :=
  ofClient fun _ _ => pure trivial

theorem modifyEngine {change : Engine → Engine}
    (holds : ∀ engine, terms.tenure.holds engine → terms.tenure.holds (change engine)) :
    terms.Respects (fun _ => True) (Render.modifyEngine change) := by
  intro one other parallel
  rw [Render.modifyEngine, run_modifyClient, run_modifyClient, ← parallel.client]
  exact .both (parallel.withClient (holds _ parallel.engine)) trivial

theorem setSettled (settled : Bool) :
    terms.Respects (fun _ => True) (Render.setSettled settled) := by
  intro one other parallel
  rw [Render.setSettled, run_modifyClient, run_modifyClient, ← parallel.client]
  exact .both (parallel.withClient parallel.engine) trivial

theorem openPot : terms.Respects (fun _ => True) (Output.openPot : Action Nat) := by
  intro one other parallel
  rw [run_openPot, run_openPot, ← parallel.pots]
  exact .both (parallel.withPots _) trivial

theorem potText (pot : Nat) :
    terms.Respects (fun _ => True) (Output.potText pot : Action String) := by
  intro one other parallel
  rw [run_potText, run_potText, ← parallel.pots]
  exact .both parallel trivial

theorem fillPot (pot : Nat) (text : String) :
    terms.Respects (fun _ => True) (Output.fillPot pot text : Action Unit) := by
  intro one other parallel
  rw [run_fillPot, run_fillPot, ← parallel.pots]
  exact .both (parallel.withPots _) trivial

theorem emit {event : Event} (spoken : terms.spoken event) :
    terms.Respects (fun _ => True) (Output.emit event : Action Unit) := by
  intro one other parallel
  rw [run_emit, run_emit]
  exact .both (parallel.noting (by simpa using spoken)) trivial

end Respects

namespace RespectsAt

variable {engine : Engine} {change : Engine → Engine}

/-- Changing the engine as it is. -/
theorem modifyEngine (holds : terms.tenure.holds (change engine)) :
    terms.RespectsAt engine (fun _ => True) (Render.modifyEngine change) := by
  rintro one other parallel rfl
  rw [Render.modifyEngine, run_modifyClient, run_modifyClient, ← parallel.client]
  exact .both (parallel.withClient holds) trivial

theorem bind {action : Action Result} {next : Result → Action Next}
    (ofFirst : terms.RespectsAt engine ofResult action)
    (ofSecond : ∀ result, ofResult result → terms.Respects ofNext (next result)) :
    terms.RespectsAt engine ofNext (action >>= next) := by
  intro one other parallel same
  rw [run_bind, run_bind]
  exact (ofFirst one other parallel same).bind fun result one other still holds =>
    ofSecond result holds one other still

/-- What leaves the engine as it is may come first. -/
theorem bindAt {action : Action Result} {next : Result → Action Next}
    (ofFirst : terms.Respects ofResult action)
    (keeps : ∀ store result later, action store = some (result, later) →
      later.client = store.client)
    (ofSecond : ∀ result, ofResult result → terms.RespectsAt engine ofNext (next result)) :
    terms.RespectsAt engine ofNext (action >>= next) := by
  intro one other parallel same
  have alike := ofFirst one other parallel
  have keepsHere := keeps one
  rw [run_bind, run_bind]
  generalize action one = first, action other = second at alike keepsHere ⊢
  cases alike with
  | out => exact .out
  | both still holds =>
      have sameStill := (congrArg State.engine (keepsHere _ _ rfl)).trans same
      exact ofSecond _ holds _ _ still sameStill

end RespectsAt

end Terms

/-- Nothing is set aside; only some events happen. -/
def Aside.none (spoken : Event → Prop) : Aside spoken where
  id? := Option.none
  relates first one second other :=
    first = Option.none ∧ second = Option.none ∧ one = other ∧ ∀ event ∈ one.toList, spoken event
  notes := by
    rintro first one second other events ⟨ofFirst, ofSecond, rfl, before⟩ added
    refine ⟨ofFirst, ofSecond, rfl, fun event member => ?_⟩
    rw [Array.toList_appendList] at member
    rcases List.mem_append.mp member with earlier | later
    · exact before event earlier
    · exact added event later
  there _ _ _ _ _ isSome := nomatch isSome
  agrees _ _ _ _ related := nomatch related.1
  changes _ _ _ _ related := nomatch related.1
  forks _ _ _ _ related := nomatch related.1
  within _ _ _ _ related := nomatch related.1
  quiet _ _ _ _ related := nomatch related.1
  flushes _ _ _ _ related := nomatch related.1

namespace Terms

variable {terms : Terms} {Result : Type} {ofResult : Result → Prop}

/-- From a store that agrees with itself an action leads to such a store. -/
theorem Respects.ensures {action : Action Result} {store later : Store Continuation Observer State}
    {result : Result} (respects : terms.Respects ofResult action)
    (parallel : terms.Parallel store store) (ran : action store = some (result, later)) :
    terms.Parallel later later ∧ ofResult result := by
  have alike := respects store store parallel
  rw [ran] at alike
  cases alike with
  | both still holds => exact ⟨still, holds⟩

def any (aside : Aside fun _ => True) : Terms :=
  ⟨.all, .any, fun _ => True, aside⟩

theorem fine_any {tenure : Tenure .all} {aside : Aside fun _ => True}
    (outlet : Outlet Continuation Observer) : Fine ⟨.all, tenure, fun _ => True, aside⟩ outlet := by
  refine ⟨fun _ _ _ _ => trivial, ?_⟩
  cases outlet.sink with
  | collect text result onResult =>
      refine ⟨fun _ _ _ _ => trivial, fun continuation _ => ?_⟩
      cases continuation with
      | report label => exact fun _ _ => trivial
      | capture branch next =>
          cases next with
          | «include» context => exact context.holds_true
          | shout => trivial
  | stream listeners => exact fun _ _ _ _ => trivial

/-- A store agrees with itself. -/
theorem parallel_self {tenure : Tenure .all} {store : Store Continuation Observer State}
    (holds : tenure.holds store.client.engine) :
    Parallel ⟨.all, tenure, fun _ => True, .none _⟩ store store :=
  ⟨rfl, holds, rfl, rfl, fun _ _ => rfl, fun _ outlet _ _ => fine_any outlet,
    ⟨rfl, rfl, rfl, fun _ _ => trivial⟩⟩

theorem parallel_any (store : Store Continuation Observer State) :
    (any (.none _)).Parallel store store :=
  parallel_self trivial

/-- A store without outlets, where nothing has happened yet. -/
theorem parallel_initial {client : State} {spoken : Event → Prop} {allowance : Allowance}
    {tenure : Tenure allowance} (holds : tenure.holds client.engine) :
    Terms.Parallel ⟨allowance, tenure, spoken, .none spoken⟩ (Store.initial client)
      (Store.initial client) := by
  refine ⟨rfl, holds, rfl, rfl, fun _ _ => rfl, fun id outlet _ there => ?_,
    ⟨rfl, rfl, rfl, fun _ member => nomatch member⟩⟩
  exact absurd (Store.lt_size_of_outlet there) (Nat.not_lt_zero id)

end Terms

end Render

end BraceTemplate
