import BraceTemplate.Host.Function
import BraceTemplate.Host.Helper
import BraceTemplate.Proofs.Render.Sessions

/-!
# Bodies never fail

Rendering a body always ends with a handle, whatever the program is and whatever host code does. So
an error that a helper or a function returns never fails a render. Where no host code fails renders
by itself, every error that a session reports is one of a few: a template that is missing,
inclusions or block overrides that nest too deep, an error that was answered for a template, or the
fault of a source that was answered or handed in for a render.
-/

namespace BraceTemplate

def HostAction.halts : HostAction → Bool
  | fail _ => true
  | _ => false

/-- A function that does not fail a render by itself, though it may return an error; nor do the
functions in what it returns. -/
inductive Function.IsMild : Function Value → Prop
  | inline {program : Program} {id : BodyId} {stamp : Stamp} : IsMild (.inline program id stamp)
  | host {identity : Nat} {function : HostFunction Value}
      (actions : ∀ action ∈ function.actions, action.halts = false)
      (returned : ∀ value, function.result = .value value → value.Holds IsMild) :
      IsMild (.host identity function)

/-- A helper that does not fail a render by itself, though it may return an error. -/
def Helper.IsMild : Helper → Prop
  | .builtin _ => True
  | .host helper => ∀ action ∈ helper.actions, action.halts = false

abbrev Value.IsMild (value : Value) : Prop :=
  value.Holds Function.IsMild

abbrev Context.IsMild (context : Context) : Prop :=
  context.Holds Function.IsMild fun _ => True

/-- The error that an event makes known. -/
def Output.Event.error? : Output.Event → Option RenderError
  | .failed _ fault => some fault
  | .error _ fault => some fault
  | _ => none

theorem Output.Observer.error?_notes {observer : Observer} {occasion : Occasion} {event : Event}
    {error : RenderError} (noted : event ∈ observer.notes occasion)
    (makesKnown : event.error? = some error) : occasion = .failed error := by
  cases observer with
  | record label =>
      cases occasion <;> cases List.mem_singleton.mp noted <;> cases makesKnown
      rfl
  | pipe label refuses =>
      cases occasion with
      | data piece =>
          cases List.mem_singleton.mp noted
          cases refuses <;> cases makesKnown
      | finished =>
          cases List.mem_singleton.mp noted
          cases makesKnown
      | failed fault => cases noted

namespace Render

open Output Render.Script

/-- Host code that a step brings in does not fail renders by itself. -/
def Script.Step.IsMild : Step → Prop
  | .renderLoaded _ _ data | .streamLoaded _ data _ | .render _ _ data | .renderToString _ data
  | .renderSource _ _ data | .stream _ data _ => data.IsMild
  | .renderWithContext _ _ context => context.IsMild
  | .helper _ added => added.IsMild
  | .resume _ outcome => ∃ text, outcome = .ok text
  | _ => True

/-- What a step may have answered for a name. -/
def Script.Step.answers : Step → String → Except RenderError String → Prop
  | .loader (.immediate source), name, given => given = source name
  | .loader (.registering _ reply), name, given => given = .ok (reply name)
  | .answer asked source, name, given => name = asked ∧ given = source
  | _, _, _ => False

/-- The errors that a session may report where no host code fails renders by itself. -/
inductive Foreseen (config : Config) (steps : List Step) : RenderError → Prop
  | missingTemplate (name : String) : Foreseen config steps (.missingTemplate name)
  | recursivePartial (name : String) :
      Foreseen config steps (.recursivePartial name config.maxDepth)
  | recursiveBlock (name : String) : Foreseen config steps (.recursiveBlock name config.maxDepth)
  | answered {step : Step} {name : String} {error : RenderError} (taken : step ∈ steps)
      (answers : step.answers name (.error error)) : Foreseen config steps error
  | unparsed {step : Step} {name text : String} {fault : ParseError} (taken : step ∈ steps)
      (answers : step.answers name (.ok text))
      (failed : Program.ofSource config (some name) text = .error fault) :
      Foreseen config steps (.parse fault)
  | handedIn {source label : String} {data : Value} {fault : ParseError}
      (taken : .renderSource source label data ∈ steps)
      (failed : Program.ofSource config none source = .error fault) :
      Foreseen config steps (.parse fault)

section Session

variable (config : Config) (steps : List Step)

def mildAllowance : Allowance where
  allowed := Function.IsMild
  permitted := Foreseen config steps
  inline _ _ _ := .inline
  fails identity function isMild error member := by
    cases isMild with
    | host actions returned => cases actions _ member
  returns identity function isMild value same := by
    cases isMild with
    | host actions returned => exact returned value same

/-- An engine of a session without host code that fails renders by itself. -/
structure IsMildEngine (engine : Engine) : Prop where
  config : engine.config = config
  helpers : ∀ entry ∈ engine.helpers, entry.2.IsMild
  immediate : ∀ source, engine.loader = .immediate source →
    ∃ step ∈ steps, ∀ name, step.answers name (source name)
  registering : ∀ source reply, engine.loader = .registering source reply →
    ∃ step ∈ steps, ∀ name, step.answers name (.ok (reply name))
  requests : ∀ request ∈ engine.requests, request.context.IsMild
  queue : ∀ task ∈ engine.queue, task.context.IsMild

variable {config steps}

/-- Which templates are registered does not matter. -/
theorem IsMildEngine.withRegistry {engine : Engine} (isMild : IsMildEngine config steps engine)
    (registry : Members Program) :
    IsMildEngine config steps { engine with registry := registry } :=
  { isMild with }

variable (config steps)

def mildTenure : Tenure (mildAllowance config steps) where
  holds := IsMildEngine config steps
  answers name answer := ∃ step ∈ steps, step.answers name answer
  supplies _ _ := True
  helpers engine name helper isMild found error member := by
    have mild := isMild.helpers _ (Members.mem_of_find? found) _ member
    cases mild
  recursivePartial engine name isMild := isMild.config ▸ .recursivePartial name
  recursiveBlock engine name isMild := isMild.config ▸ .recursiveBlock name
  missing engine name isMild loads := .missingTemplate name
  immediate engine source name isMild loads := by
    obtain ⟨step, taken, answers⟩ := isMild.immediate source loads
    exact ⟨step, taken, answers name⟩
  replies engine source reply name isMild loads := by
    obtain ⟨step, taken, answers⟩ := isMild.registering source reply loads
    exact ⟨step, taken, answers name⟩
  failed name error answered := by
    obtain ⟨step, taken, answers⟩ := answered
    exact .answered taken answers
  unparsed engine name text fault isMild answered failed := by
    obtain ⟨step, taken, answers⟩ := answered
    exact .unparsed taken answers (isMild.config ▸ failed)
  sources _ _ _ _ _ _ := trivial
  registers engine name text program isMild _ _ _ := isMild.withRegistry _
  compiled engine name text program isMild _ _ _ := isMild.withRegistry _
  requested engine isMild := isMild.requests
  asks engine requests isMild mild := { isMild with requests := mild }
  keeps engine held isMild := { isMild with }

def mildTerms : Terms where
  allowance := mildAllowance config steps
  tenure := mildTenure config steps
  spoken event := ∀ error, event.error? = some error → Foreseen config steps error
  aside := .none _

variable {config steps}

theorem queues_mildTerms : (mildTerms config steps).Queues :=
  ⟨fun _ isMild => isMild.queue, fun _ _ isMild mild => { isMild with queue := mild }⟩

theorem mayReport_mildTerms (label : String) : (mildTerms config steps).MayReport label := by
  intro result fine error makesKnown
  cases result with
  | ok text => cases makesKnown
  | error same =>
      cases makesKnown
      exact fine error rfl

theorem mayTell_mildTerms (observers : List Observer) :
    (mildTerms config steps).MayTell observers :=
  fun _ _ _ permitted _ noted error makesKnown =>
    permitted error (Observer.error?_notes noted makesKnown)

/-- What a step without such host code brings in is as the terms say. -/
theorem Script.Step.IsMild.allows {step : Step} (isMild : step.IsMild) (taken : step ∈ steps) :
    (mildTerms config steps).Allows step := by
  cases step with
  | add name source => exact fun _ _ mild _ => mild.withRegistry _
  | remove name => exact fun _ mild => mild.withRegistry _
  | register name compiledName source => exact fun _ _ mild _ => mild.withRegistry _
  | registerProgram name program => exact fun _ mild => mild.withRegistry _
  | load kept name source =>
      intro engine program mild _
      unfold Engine.adopt
      split
      · exact mild
      · exact mild.withRegistry _
  | loadProgram kept program =>
      intro engine mild
      unfold Engine.adopt
      split
      · exact mild
      · exact mild.withRegistry _
  | renderLoaded kept label data => exact ⟨isMild, mayReport_mildTerms label⟩
  | streamLoaded kept data observers => exact ⟨isMild, mayTell_mildTerms observers⟩
  | render name label data => exact ⟨isMild, mayReport_mildTerms label⟩
  | renderToString name data => exact isMild
  | renderSource source label data =>
      exact ⟨isMild, mayReport_mildTerms label,
        fun _ _ mild failed => .handedIn taken (mild.config ▸ failed)⟩
  | renderWithContext name label context => exact ⟨isMild, mayReport_mildTerms label⟩
  | stream name data observers => exact ⟨isMild, mayTell_mildTerms observers⟩
  | helper name helper =>
      exact fun _ mild => { mild with helpers := Members.forall_mem_insert mild.helpers isMild }
  | filter name filter => exact fun _ mild => { mild with }
  | loader loader =>
      intro engine mild
      refine { mild with immediate := ?_, registering := ?_ }
      · rintro source rfl
        exact ⟨_, taken, fun _ => rfl⟩
      · rintro source reply rfl
        exact ⟨_, taken, fun _ => rfl⟩
  | answer name source => exact ⟨_, taken, rfl, rfl⟩
  | resume slot outcome =>
      obtain ⟨text, rfl⟩ := isMild
      exact fun _ failed => nomatch failed
  | has _ | config | describe _ | runPending | requests => trivial

end Session

theorem isHandle_of_renderBody {depth : Nat} {program : Program} {body : BodyId}
    {writer : Writer} {context : Context} {store later : Store Continuation Observer State}
    {result : Except RenderError Writer}
    (ran : renderBodyWithin depth program body writer context store = some (result, later)) :
    IsHandle result :=
  (((callsWithin_respect (.any (.none _)) depth).renderBody program body writer context
    context.holds_true).ensures (Terms.parallel_any store) ran).2

/-- Rendering a body never fails: neither a body of a program, whatever its numbers refer to, nor
one that is handed to host code. In a session in which no host code fails renders by itself, every
error that is reported, told or shown for a render is a foreseen one, or says that a render to a
text awaits output. -/
theorem rendering_failsOnlyAsForeseen :
    (∀ depth program body writer context (store later : Store Continuation Observer State) result,
      renderBodyWithin depth program body writer context store = some (result, later) →
        ∃ last, result = .ok last) ∧
    (∀ depth bodies name writer context (store later : Store Continuation Observer State) result,
      (callsWithin depth).renderNamed bodies name writer context store = some (result, later) →
        ∃ last, result = .ok last) ∧
    ∀ config depth steps entries later, (∀ step ∈ steps, step.IsMild) →
      runSteps (callsWithin depth) [] steps (initial config) = some (entries, later) →
        List.Forall₂ (fun step entry =>
          (∀ name data error, step = .renderToString name data → entry.1 = .failed error →
            Foreseen config steps error ∨ error = .pending name) ∧
          ∀ event ∈ entry.2, ∀ error, event.error? = some error → Foreseen config steps error)
          steps entries := by
  refine ⟨fun depth program body writer context store later result ran =>
      isHandle_of_renderBody ran,
    fun depth bodies name writer context store later result ran => ?_,
    fun config depth steps entries later isMild ran => ?_⟩
  · unfold Calls.renderNamed at ran
    cases found : bodies.find? name with
    | none =>
        rw [found] at ran
        cases ran
        exact ⟨writer, rfl⟩
    | some body =>
        rw [found] at ran
        exact isHandle_of_renderBody ran
  · have start : IsMildEngine config steps (Engine.ofConfig config) := by
      refine ⟨rfl, ?_, nofun, nofun, nofun, nofun⟩
      exact Members.forall_mem_ofList (by simp [Helper.IsMild])
    have parallel : (mildTerms config steps).Parallel (initial config) (initial config) :=
      Terms.parallel_initial start
    exact (Terms.respects_runSteps (callsWithin_respect (mildTerms config steps) depth)
      queues_mildTerms Terms.shares_none (fun step taken => (isMild step taken).allows taken)
      |>.ensures parallel ran).2

/-- A helper and a function of the data that return errors, and a template that is missing. -/
def failingSteps : List Step :=
  [.helper "f" (.host (.failingAfter "f" "x")), .add "main" "{@f/}{g}{>none/}",
    .render "main" "r" (.object [("g", .function (.host 0 (.failing "m")))])]

/-- Host code that returns errors has the render fail for the missing template alone. -/
theorem rendering_failsOnlyAsForeseen_missingTemplate :
    ∃ entries later,
      runSteps (callsWithin 5) [] failingSteps (initial .standard) = some (entries, later) ∧
        (∀ step ∈ failingSteps, step.IsMild) ∧
        entries.map (fun entry => entry.2.filterMap Event.error?) =
          [[], [], [.missingTemplate "none"]] ∧
        List.Forall₂ (fun step entry =>
          (∀ name data error, step = .renderToString name data → entry.1 = .failed error →
            Foreseen .standard failingSteps error ∨ error = .pending name) ∧
          ∀ event ∈ entry.2, ∀ error, event.error? = some error →
            Foreseen .standard failingSteps error) failingSteps entries := by
  have isMild : ∀ step ∈ failingSteps, step.IsMild := by
    intro step member
    rcases List.mem_cons.mp member with rfl | member
    · intro action inside
      cases List.mem_singleton.mp inside
      rfl
    · rcases List.mem_cons.mp member with rfl | member
      · trivial
      · cases List.mem_singleton.mp member
        refine .object fun entry inside => ?_
        cases List.mem_singleton.mp inside
        exact .function (.host nofun nofun)
  have evaluated :
      (runSteps (callsWithin 5) [] failingSteps (initial .standard)).map
          (fun found => found.1.map fun entry => entry.2.filterMap Event.error?) =
        some [[], [], [.missingTemplate "none"]] := by
    decide +kernel
  obtain ⟨⟨entries, later⟩, ran, errors⟩ := Option.map_eq_some_iff.mp evaluated
  exact ⟨entries, later, ran, isMild, errors,
    rendering_failsOnlyAsForeseen.2.2 _ _ _ entries later isMild ran⟩

end Render

end BraceTemplate
