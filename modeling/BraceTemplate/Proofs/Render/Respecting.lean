import BraceTemplate.Proofs.Render.Handles
import BraceTemplate.Render.Run

/-!
# Rendering respects terms

Whatever a template does goes on alike from two stores that agree. On the way no body ever ends with
an error: an error that host code returns ends that host code where it stands, and what fails a
render does so at a handle.
-/

namespace BraceTemplate.Render

open Output

/-- A body has ended with a handle. -/
def IsHandle (result : Except RenderError Writer) : Prop :=
  ∃ last, result = .ok last

def Allowance.Returns (allowance : Allowance) (result : Except RenderError Returned) : Prop :=
  ∀ value, result = .ok (.value value) → value.Holds allowance.allowed

def Sense.respecting (terms : Terms) : Sense where
  Runs good first _ := terms.Respects good first
  fine _ := True
  permits := terms.allowance.permitted
  fails := False
  returns value := value.Holds terms.allowance.allowed
  knows := terms.tenure.holds
  pure holds := .pure holds
  bind ofFirst ofNext := .bindYielded ofFirst ofNext
  ofEngine each := .ofEngine fun engine holds => each engine engine.requests holds
  write text _ := (Terms.Respects.write _ text).mono fun _ _ => trivial
  ofText text := .string text
  ofNothing := .bool false
  failed _ := False.elim
  recursiveBlock name holds := terms.tenure.recursiveBlock _ name holds

/-- Rendering that respects terms. -/
structure Calls.Respect (calls : Calls) (terms : Terms) : Prop where
  handlers : terms.RespectedBy calls.handlers
  renderBody : ∀ program body writer context, terms.allowance.Admits context →
    terms.Respects IsHandle (calls.renderBody program body writer context)
  call : ∀ called writer context bodies params, terms.allowance.allowed called →
    terms.allowance.Admits context → params.Holds terms.allowance.allowed →
      terms.Respects terms.allowance.Returns (calls.call called writer context bodies params)

section Results

variable {terms : Terms} {first second : Action (Except RenderError Writer)}

theorem Sense.ended_of_isHandle {result : Except RenderError Writer} (isHandle : IsHandle result) :
    (Sense.respecting terms).Ended result := by
  obtain ⟨last, rfl⟩ := isHandle
  exact trivial

theorem isHandle_of_ended (runs : (Sense.respecting terms).Runs (Sense.respecting terms).Ended
    first second) : terms.Respects IsHandle first := by
  refine Terms.Respects.mono runs fun result ended => ?_
  cases result with
  | error error => exact ended.elim
  | ok last => exact ⟨last, rfl⟩

end Results

namespace Calls.Respect

open Terms

variable {terms : Terms} {calls : Calls} {writer : Writer} {context : Context} {bodies : Bodies}
variable {params : Value.Params}

/-- An outlet that nobody goes on from. -/
theorem fineSink_unheard : terms.FineSink (.collect "" none none) :=
  ⟨fun _ none => (nomatch none), fun _ none => (nomatch none)⟩

theorem supports (respect : calls.Respect terms) :
    (Sense.respecting terms).Supports terms.allowance calls calls where
  allows := ⟨fun _ => .rfl, fun _ permitted => permitted,
    fun holds found => terms.tenure.helpers _ _ _ holds found⟩
  body program id writer admits :=
    (respect.renderBody program id writer _ admits).mono fun _ => Sense.ended_of_isHandle
  call bodies writer isAllowed admits holds := by
    refine (respect.call _ writer _ bodies _ isAllowed admits holds).mono fun returned ofValue => ?_
    rcases returned with _ | (_ | value)
    · trivial
    · trivial
    · exact ofValue value rfl
  fail writer permitted := (Respects.fail respect.handlers writer permitted).mono fun _ _ => trivial
  isSettled := .isSettled
  setSettled settled := .setSettled settled
  openPot := .openPot
  potText pot := .potText pot
  serves := {
    everywhere := fun _ => trivial
    opened := (Respects.openOutlet fineSink_unheard).mono fun _ notAside =>
      (Respects.result? notAside).mono fun _ _ => trivial
    fork := fun writer => (Respects.fork writer).mono fun _ _ => trivial
    hold := fun slot branch => .modifyEngine fun engine => terms.tenure.keeps engine _
    finish := fun writer => .finish respect.handlers writer
    shout := fun writer ⟨_, admits⟩ => .capture respect.handlers writer (fun _ => trivial) fun _ =>
      respect.renderBody _ _ _ _ admits }

theorem resolveParam? (respect : calls.Respect terms) (key : String)
    (holds : params.Holds terms.allowance.allowed) (admits : terms.allowance.Admits context) :
    terms.Respects
      (fun resolved => ∀ value, resolved = some value → value.Holds terms.allowance.allowed)
      (resolveParam? calls params key writer context) := by
  refine Respects.mono (respect.supports.enters.resolveParam? (Allowance.resolves admits holds)
    trivial key) fun resolved ofResolved value same => ?_
  subst same
  exact ofResolved.1

theorem renderTemplate (respect : calls.Respect terms) (program : Program) (writer : Writer)
    (admits : terms.allowance.Admits context) :
    terms.Respects (fun _ => True) (renderTemplate calls program writer context) := by
  exact respect.supports.enters.renderTemplate ⟨rfl, admits.withBlocks trivial⟩ trivial

/-- An answer finds the template that is there, or registers the one that it compiles to. -/
theorem respects_findOrCompile {name text : String}
    (answers : terms.tenure.answers name (.ok text)) :
    terms.Respects (fun found => ∀ error, found = .error error → terms.allowance.permitted error)
      (findOrCompile name text) := by
  refine .atEngine fun engine holds => ?_
  cases found : engine.registry.find? name with
  | some program => exact (Respects.pure fun _ equality => by cases equality).toAt
  | none =>
      cases compiled : engine.compile (some name) text with
      | error fault =>
          refine (Respects.pure ?_).toAt
          rintro _ ⟨⟩
          exact terms.tenure.unparsed engine name text fault holds answers compiled
      | ok program =>
          have registered := terms.tenure.compiled engine name text program holds answers found
            compiled
          exact (RespectsAt.modifyEngine registered).bind fun _ _ =>
            .pure fun _ equality => by cases equality

theorem answer (respect : calls.Respect terms) {request : Request}
    {source : Except RenderError String} (answers : terms.tenure.answers request.template source)
    (admits : terms.allowance.Admits request.context) :
    terms.Respects (fun _ => True) (answer calls request source) := by
  cases source with
  | error error =>
      exact (Respects.fail respect.handlers _ (terms.tenure.failed _ _ answers)).discard
  | ok text =>
      refine (respects_findOrCompile answers).bind fun found permitted => ?_
      cases found with
      | error error => exact (Respects.fail respect.handlers _ (permitted error rfl)).discard
      | ok program =>
          exact (respect.renderTemplate program _ admits).bind fun last _ =>
            .finish respect.handlers last

/-- A loader registers a source by itself, under a name that nothing is registered under. -/
theorem respects_registerSource {engine : Engine} {name text : String}
    (holds : terms.tenure.holds engine) (supplies : terms.tenure.supplies name text)
    (unknown : engine.registry.find? name = none) :
    terms.RespectsAt engine (fun _ => True) (registerSource name text) := by
  rintro one other parallel rfl
  have sameEngine : other.client.engine = one.client.engine := by rw [← parallel.client]
  have known : ∀ store : Store Continuation Observer State,
      Render.engine store = some (store.client.engine, store) := fun _ => rfl
  rw [registerSource, run_bind, run_bind, known, known, Option.bind_some, Option.bind_some,
    sameEngine, Engine.addTemplate]
  cases compiled : one.client.engine.compile (some name) text with
  | error fault => exact .both parallel trivial
  | ok program =>
      have registered := terms.tenure.registers _ _ _ _ holds supplies unknown compiled
      exact RespectsAt.modifyEngine registered one other parallel rfl

theorem client_fork {writer : Writer} {store later : Store Continuation Observer State}
    {handles : Writer × Writer} (ran : writer.fork store = some (handles, later)) :
    later.client = store.client := by
  unfold Writer.fork at ran
  rw [run_bind, run_outlet?, Option.bind_some] at ran
  cases there : store.outlets[writer.outlet]? with
  | none =>
      rw [there] at ran
      cases ran
      rfl
  | some outlet =>
      rw [there] at ran
      simp only [run_bind, run_modifyOutlet there, Option.bind_some] at ran
      cases ran
      rfl

/-- A template that is not registered is asked for. -/
theorem load (respect : calls.Respect terms) {engine : Engine} (holds : terms.tenure.holds engine)
    {name : String} (unknown : engine.registry.find? name = none) (writer : Writer)
    (admits : terms.allowance.Admits context) :
    terms.RespectsAt engine (fun _ => True) (load calls engine.loader name writer context) := by
  cases loads : engine.loader with
  | none =>
      exact (Respects.fail respect.handlers writer
        (terms.tenure.missing engine name holds loads)).toAt
  | immediate source =>
      have answers := terms.tenure.immediate engine source name holds loads
      refine ((Respects.fork writer).bind fun ⟨_, _⟩ _ => ?_).toAt
      exact (respect.answer answers admits).bind fun _ _ => .pure trivial
  | registering source reply =>
      have answers := terms.tenure.replies engine source reply name holds loads
      have supplies := terms.tenure.sources engine source reply name holds loads
      refine .bindAt (Respects.fork writer) (fun _ _ _ => client_fork) fun ⟨_, _⟩ _ => ?_
      exact (respects_registerSource holds supplies unknown).bind fun _ _ =>
        (respect.answer answers admits).bind fun _ _ => .pure trivial
  | deferred =>
      refine ((Respects.fork writer).bind fun ⟨branch, _⟩ _ =>
        (Respects.modifyEngine fun engine holds => ?_).bind fun _ _ => .pure trivial).toAt
      refine terms.tenure.asks engine _ holds (List.forall_mem_append.mpr ⟨?_, ?_⟩)
      · exact terms.tenure.requested engine holds
      · exact List.forall_mem_singleton.mpr admits

theorem renderNamedTemplate (respect : calls.Respect terms) (name : String) (writer : Writer)
    (admits : terms.allowance.Admits context) :
    terms.Respects (fun _ => True) (renderNamedTemplate calls name writer context) := by
  refine Respects.atEngine fun engine holds => ?_
  cases found : engine.registry.find? name with
  | some program => exact (respect.renderTemplate _ writer admits).toAt
  | none => exact respect.load holds found writer admits

theorem renderInclusion (respect : calls.Respect terms) (program : Program) (name : Name)
    (admits : terms.allowance.Admits context) :
    terms.Respects (fun _ => True) (renderInclusion calls program writer context name) := by
  refine Respects.ofEngine fun engine holds => ?_
  simp only
  split
  · exact .fail respect.handlers _ (terms.tenure.recursivePartial engine _ holds)
  · cases name with
    | literal text => exact respect.renderNamedTemplate text writer (admits.named text)
    | body inner =>
        exact .capture respect.handlers writer (fun _ => admits) fun _ =>
          respect.renderBody _ _ _ _ admits

theorem conducts (respect : calls.Respect terms) :
    ((Sense.respecting terms).allowing terms.allowance).Conducts calls calls :=
  respect.supports.conducts fun admits program name _ =>
    (respect.renderInclusion program name admits).mono fun _ _ => trivial

theorem runBuiltin (respect : calls.Respect terms) (helper : BuiltinHelper)
    (holds : params.Holds terms.allowance.allowed) (admits : terms.allowance.Admits context) :
    terms.Respects IsHandle (runBuiltin calls helper writer context bodies params) :=
  isHandle_of_ended <|
    respect.conducts.runBuiltin (Allowance.builtin admits holds bodies helper) trivial

theorem runOp (respect : calls.Respect terms) (program : Program) (op : Op)
    (admits : terms.allowance.Admits context) :
    terms.Respects IsHandle (runOp calls program context writer op) :=
  isHandle_of_ended <|
    respect.conducts.runOp (Allowance.steps respect.supports.allows admits program op) trivial

theorem runOps (respect : calls.Respect terms) (program : Program) (ops : List Op)
    (admits : terms.allowance.Admits context) :
    terms.Respects IsHandle (runOps calls program context ops writer) :=
  isHandle_of_ended (respect.supports.runOps respect.conducts admits program ops writer)

theorem callFunction (respect : calls.Respect terms) {called : Function Value}
    (isAllowed : terms.allowance.allowed called)
    (holds : params.Holds terms.allowance.allowed) (admits : terms.allowance.Admits context) :
    terms.Respects terms.allowance.Returns
      (callFunction calls called writer context bodies params) := by
  refine Respects.mono (respect.supports.callFunction respect.conducts isAllowed admits holds bodies
    writer) fun returned ofReturned value same => ?_
  subst same
  exact ofReturned

theorem resume (respect : calls.Respect terms) (branch : Writer) {next : Capture}
    {result : Except RenderError String}
    (fine : terms.FineContinuation (.capture branch next)) (fineResult : terms.FineResult result) :
    terms.Respects (fun _ => True) (resume calls (.capture branch next) result) := by
  refine .settle respect.handlers branch fineResult fun text => ?_
  cases next with
  | «include» context =>
      have admits : terms.allowance.Admits context := fine
      exact (respect.renderNamedTemplate text branch (admits.named text)).bind fun _ _ =>
        .pure ⟨_, rfl⟩
  | shout => exact (Respects.write _ _).bind fun _ _ => .pure ⟨_, rfl⟩

end Calls.Respect

/-- Rendering within a bound respects all terms. -/
theorem callsWithin_respect (terms : Terms) (depth : Nat) : (callsWithin depth).Respect terms := by
  induction depth with
  | zero =>
      refine ⟨⟨callsWithin_speaks 0, ?_⟩, ?_, ?_⟩
      · intro branch next result _ _
        unfold callsWithin resumeWithin
        exact .outOfSteps
      · intro program body writer context _
        unfold callsWithin renderBodyWithin
        exact .outOfSteps
      · intro called writer context bodies params _ _ _
        unfold callsWithin callWithin
        exact .outOfSteps
  | succ depth respect =>
      refine ⟨⟨callsWithin_speaks (depth + 1), ?_⟩, ?_, ?_⟩
      · intro branch next result fine fineResult
        unfold callsWithin resumeWithin
        exact respect.resume branch fine fineResult
      · intro program body writer context admits
        unfold callsWithin renderBodyWithin
        exact respect.runOps program _ admits
      · intro called writer context bodies params isAllowed admits ofParams
        unfold callsWithin callWithin
        exact respect.callFunction isAllowed ofParams admits

end BraceTemplate.Render
