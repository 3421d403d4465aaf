import Mathlib.Data.List.Forall2
import BraceTemplate.Proofs.Render.Answering
import BraceTemplate.Proofs.Render.Respecting
import BraceTemplate.Render.Script

/-!
# Sessions respect terms

Renders that are asked for, what has waited, and all other steps with an engine go on alike from two
stores that agree, as long as the terms allow what the steps bring in: data, contexts, helpers,
loaders, templates and answers.
-/

namespace BraceTemplate

/-- The context of a render that waits. -/
def Task.context : Task → Context
  | named _ _ context => context
  | program _ _ context => context

namespace Render

open Output

namespace Terms

variable (terms : Terms)

/-- Renders that wait are in contexts that are admitted, and may be asked for and begun. -/
structure Queues : Prop where
  queued : ∀ engine, terms.tenure.holds engine → ∀ task ∈ engine.queue,
    terms.allowance.Admits task.context
  queues : ∀ engine queue, terms.tenure.holds engine →
    (∀ task ∈ queue, terms.allowance.Admits task.context) →
      terms.tenure.holds { engine with queue := queue }

def MayReport (label : String) : Prop :=
  ∀ result, terms.FineResult result → terms.spoken (reported label result)

def MayTell (observers : List Observer) : Prop :=
  ∀ observer ∈ observers, ∀ occasion,
    (∀ error, occasion = .failed error → terms.allowance.permitted error) →
      ∀ event ∈ observer.notes occasion, terms.spoken event

end Terms

namespace Calls.Respect

open Terms

variable {terms : Terms} {calls : Calls} {context : Context} {label : String} {data : Value}

theorem renderToEnd (respect : calls.Respect terms) (name : String) (writer : Writer)
    (admits : terms.allowance.Admits context) :
    terms.Respects (fun _ => True) (renderToEnd calls name writer context) :=
  (respect.renderNamedTemplate name writer admits).bind fun last _ => .finish respect.handlers last

theorem entryContext_admits (name : String) (admits : terms.allowance.Admits context) :
    terms.allowance.Admits (entryContext name context) := by
  unfold entryContext
  split
  · exact admits
  · exact admits.named name

theorem programContext_admits (program : Program) (holds : data.Holds terms.allowance.allowed) :
    terms.allowance.Admits (programContext program data) := by
  unfold programContext
  split
  · exact (Context.Holds.ofValue holds).named _
  · exact .ofValue holds

theorem fineSink_report (mayReport : terms.MayReport label) :
    terms.FineSink (.collect "" none (some (.report label))) := by
  refine ⟨(fun _ none => nomatch none), ?_⟩
  rintro _ ⟨⟩
  exact mayReport

theorem renderWithContext (respect : calls.Respect terms) (name : String)
    (admits : terms.allowance.Admits context) (mayReport : terms.MayReport label) :
    terms.Respects (fun _ => True) (renderWithContext calls name context label) :=
  (Respects.openOutlet (fineSink_report mayReport)).bind fun _ _ =>
    respect.renderToEnd name _ (entryContext_admits name admits)

theorem respects_defer (queues : terms.Queues) {task : Task}
    (admits : terms.allowance.Admits task.context) :
    terms.Respects (fun _ => True) (defer task) := by
  refine .modifyEngine fun engine holds => queues.queues engine _ holds ?_
  exact List.forall_mem_append.mpr
    ⟨queues.queued engine holds, List.forall_mem_singleton.mpr admits⟩

theorem runTask (respect : calls.Respect terms) {task : Task}
    (admits : terms.allowance.Admits task.context) :
    terms.Respects (fun _ => True) (runTask calls task) := by
  cases task with
  | named name writer context => exact respect.renderToEnd name writer admits
  | program program writer context =>
      exact (respect.renderTemplate program writer admits).bind fun last _ =>
        .finish respect.handlers last

theorem runPending (respect : calls.Respect terms) (queues : terms.Queues) :
    terms.Respects (fun _ => True) (runPending calls) := by
  refine Respects.ofEngine fun engine holds =>
    (Respects.modifyEngine fun other holdsOther => ?_).bind fun _ _ =>
      (Respects.forM fun task member => ?_).bind fun _ _ => .pure trivial
  · exact queues.queues other [] holdsOther fun _ member => absurd member List.not_mem_nil
  · exact respect.runTask (queues.queued engine holds task member)

/-- A render to a text fails with a permitted error, or because output is still awaited. -/
theorem renderToString (respect : calls.Respect terms) (queues : terms.Queues) (name : String)
    (holds : data.Holds terms.allowance.allowed) :
    terms.Respects
      (fun result => ∀ error, result = .error error →
        terms.allowance.permitted error ∨ error = .pending name)
      (renderToString calls name data) := by
  refine (Respects.openOutlet fineSink_unheard).bind fun id notAside =>
    (respect.renderToEnd name _ (entryContext_admits name (.ofValue holds))).bind fun _ _ =>
      (respect.runPending queues).discard.bind fun _ _ =>
        (Respects.result? notAside).bind fun found fine => .pure fun error equality => ?_
  cases found with
  | none =>
      cases equality
      exact .inr rfl
  | some result => exact .inl (fine result rfl error equality)

theorem fineListeners_attach {listeners : Listeners Observer} {observer : Observer}
    (fine : terms.FineListeners listeners) (mayTell : terms.MayTell [observer])
    (channel : Channel) :
    terms.FineListeners
      (listeners.withChannel channel (listeners.on channel ++ [observer])) := by
  intro occasion permitted event member
  obtain ⟨heard, attached, noted⟩ := List.mem_flatMap.mp member
  have either : heard ∈ listeners.on occasion.channel ∨ heard = observer := by
    cases channel <;> cases ofOccasion : occasion.channel <;>
      simp_all [Listeners.withChannel, Listeners.on]
  rcases either with before | rfl
  · exact fine occasion permitted event (List.mem_flatMap.mpr ⟨heard, before, noted⟩)
  · exact mayTell heard List.mem_cons_self occasion permitted event noted

theorem respects_attach {id : OutletId} (notAside : terms.aside.id? ≠ some id)
    {observer : Observer} (mayTell : terms.MayTell [observer]) :
    terms.Respects (fun _ => True) (attach id observer observer : Action Unit) := by
  have toChannel : ∀ channel,
      terms.Respects (fun _ => True) (attachTo id channel observer : Action Unit) := by
    intro channel
    refine .modifyOutlet notAside fun outlet fine => ?_
    have sink := fine.sink
    cases sinkIs : outlet.sink with
    | collect text result onResult => exact fine
    | stream listeners =>
        rw [sinkIs] at sink
        exact ⟨fine.segments, fineListeners_attach sink mayTell channel⟩
  cases observer with
  | record label => exact .forM fun channel _ => toChannel channel
  | pipe label refuses => exact .forM fun channel _ => toChannel channel

theorem respects_openStream {observers : List Observer} (mayTell : terms.MayTell observers) :
    terms.Respects (fun _ => True) (openStream observers) := by
  have noListeners : terms.FineSink (.stream ⟨[], [], []⟩) := by
    intro occasion _ event member
    obtain ⟨observer, attached, _⟩ := List.mem_flatMap.mp member
    cases ofOccasion : occasion.channel <;> simp [ofOccasion, Listeners.on] at attached
  refine (Respects.openOutlet noListeners).bind fun id notAside =>
    (Respects.forM fun observer member => ?_).bind fun _ _ => .pure trivial
  refine respects_attach notAside fun other same => ?_
  obtain rfl : other = observer := List.mem_singleton.mp same
  exact mayTell other member

theorem respects_stream (queues : terms.Queues) {observers : List Observer} (name : String)
    (holds : data.Holds terms.allowance.allowed) (mayTell : terms.MayTell observers) :
    terms.Respects (fun _ => True) (stream name data observers) :=
  (respects_openStream mayTell).bind fun _ _ =>
    respects_defer queues ((Context.Holds.ofValue holds).named _)

theorem respects_renderProgram (queues : terms.Queues) (program : Program)
    (holds : data.Holds terms.allowance.allowed) (mayReport : terms.MayReport label) :
    terms.Respects (fun _ => True) (renderProgram program data label) :=
  (Respects.openOutlet (fineSink_report mayReport)).bind fun _ _ =>
    respects_defer queues (programContext_admits program holds)

theorem respects_streamProgram (queues : terms.Queues) {observers : List Observer}
    (program : Program)
    (holds : data.Holds terms.allowance.allowed) (mayTell : terms.MayTell observers) :
    terms.Respects (fun _ => True) (streamProgram program data observers) :=
  (respects_openStream mayTell).bind fun _ _ =>
    respects_defer queues (programContext_admits program holds)

theorem respects_renderSource (queues : terms.Queues) {source : String}
    (holds : data.Holds terms.allowance.allowed) (mayReport : terms.MayReport label)
    (unparsed : ∀ engine fault, terms.tenure.holds engine →
      engine.compile none source = .error fault → terms.allowance.permitted (.parse fault)) :
    terms.Respects (fun _ => True) (renderSource source data label) := by
  refine Respects.ofEngine fun engine engineHolds => ?_
  cases compiled : engine.compile none source with
  | error fault =>
      refine .emit (mayReport (.error (.parse fault)) ?_)
      rintro _ ⟨⟩
      exact unparsed engine fault engineHolds compiled
  | ok program => exact respects_renderProgram queues program holds mayReport

theorem answerRequest (respect : calls.Respect terms) {name : String}
    {source : Except RenderError String} (answers : terms.tenure.answers name source) :
    terms.Respects (fun _ => True) (answerRequest calls name source) := by
  refine Respects.ofEngine fun engine holds => ?_
  cases found : takeFirst? (fun request => request.template == name) engine.requests with
  | none => exact .pure trivial
  | some taken =>
      obtain ⟨request, others⟩ := taken
      obtain ⟨before, behind, split, rfl⟩ := takeFirst?_split found
      have named : request.template = name := by simpa using takeFirst?_test found
      have requested := terms.tenure.requested engine holds
      rw [split] at requested
      have admits := requested request (by simp)
      refine (Respects.modifyEngine fun other holdsOther => ?_).bind fun _ _ =>
        (respect.answer (named ▸ answers) admits).bind fun _ _ => .pure trivial
      refine terms.tenure.asks other _ holdsOther fun kept member => requested kept ?_
      rcases List.mem_append.mp member with inFront | inBack
      · exact List.mem_append_left _ inFront
      · exact List.mem_append_right _ (List.mem_cons_of_mem _ inBack)

theorem resumeHeld (respect : calls.Respect terms) (slot : String)
    {outcome : Except RenderError String} (fine : terms.FineResult outcome) :
    terms.Respects (fun _ => True) (resumeHeld calls slot outcome) := by
  refine Respects.ofEngine fun engine holds => ?_
  cases takeFirst? (fun entry => entry.1 == slot) engine.held with
  | none => exact .pure trivial
  | some taken =>
      obtain ⟨⟨_, branch⟩, others⟩ := taken
      refine (Respects.modifyEngine fun other holdsOther =>
        terms.tenure.keeps other others holdsOther).bind fun _ _ => ?_
      cases outcome with
      | ok text => exact (Respects.finishWith respect.handlers _ _).bind fun _ _ => .pure trivial
      | error error =>
          exact (Respects.fail respect.handlers _ (fine error rfl)).discard.bind fun _ _ =>
            .pure trivial

end Calls.Respect

namespace Terms

open Render.Script

variable (terms : Terms)

def Allows : Step → Prop
  | .add name source => ∀ engine program, terms.tenure.holds engine →
    engine.compile (some name) source = .ok program →
      terms.tenure.holds (engine.register name program)
  | .remove name => ∀ engine, terms.tenure.holds engine →
    terms.tenure.holds (engine.removeTemplate name)
  | .register name compiledName source => ∀ engine program, terms.tenure.holds engine →
    engine.compile compiledName source = .ok program →
      terms.tenure.holds (engine.register name program)
  | .registerProgram name program => ∀ engine, terms.tenure.holds engine →
    terms.tenure.holds (engine.register name program)
  | .load _ name source => ∀ engine program, terms.tenure.holds engine →
    engine.compile name source = .ok program → terms.tenure.holds (engine.adopt program)
  | .loadProgram _ program => ∀ engine, terms.tenure.holds engine →
    terms.tenure.holds (engine.adopt program)
  | .renderLoaded _ label data => data.Holds terms.allowance.allowed ∧ terms.MayReport label
  | .streamLoaded _ data observers =>
    data.Holds terms.allowance.allowed ∧ terms.MayTell observers
  | .render _ label data => data.Holds terms.allowance.allowed ∧ terms.MayReport label
  | .renderToString _ data => data.Holds terms.allowance.allowed
  | .renderSource source label data => data.Holds terms.allowance.allowed ∧
    terms.MayReport label ∧ ∀ engine fault, terms.tenure.holds engine →
      engine.compile none source = .error fault → terms.allowance.permitted (.parse fault)
  | .renderWithContext _ label context => terms.allowance.Admits context ∧ terms.MayReport label
  | .stream _ data observers => data.Holds terms.allowance.allowed ∧ terms.MayTell observers
  | .helper name helper => ∀ engine, terms.tenure.holds engine →
    terms.tenure.holds (engine.withHelper name helper)
  | .filter name filter => ∀ engine, terms.tenure.holds engine →
    terms.tenure.holds (engine.withFilter name filter)
  | .loader loader => ∀ engine, terms.tenure.holds engine →
    terms.tenure.holds (engine.withLoader loader)
  | .answer name source => terms.tenure.answers name source
  | .resume _ outcome => terms.FineResult outcome
  | .has _ | .config | .describe _ | .runPending | .requests => True

/-- What a step may show: a render to a text fails with a permitted error, or because output is
still awaited. -/
def Shows (step : Step) (shown : Shown) : Prop :=
  ∀ name data error, step = .renderToString name data → shown = .failed error →
    terms.allowance.permitted error ∨ error = .pending name

theorem queues_any {aside : Aside fun _ => True} : (any aside).Queues :=
  ⟨fun _ _ task _ => task.context.holds_true, fun _ _ _ _ => trivial⟩

/-- Every step is allowed where anything may occur. -/
theorem allows_any {aside : Aside fun _ => True} (step : Step) : (any aside).Allows step := by
  cases step with
  | add _ _ | register _ _ _ | load _ _ _ => exact fun _ _ _ _ => trivial
  | remove _ | registerProgram _ _ | loadProgram _ _ | helper _ _ | filter _ _ | loader _ =>
      exact fun _ _ => trivial
  | renderLoaded _ _ data | render _ _ data => exact ⟨data.holds_true, fun _ _ => trivial⟩
  | streamLoaded _ data _ | stream _ data _ => exact ⟨data.holds_true, fun _ _ _ _ _ _ => trivial⟩
  | renderToString _ data => exact data.holds_true
  | renderSource _ _ data =>
      exact ⟨data.holds_true, fun _ _ => trivial, fun _ _ _ _ => trivial⟩
  | renderWithContext _ _ context => exact ⟨context.holds_true, fun _ _ => trivial⟩
  | answer _ _ => trivial
  | resume _ _ => exact fun _ _ => trivial
  | has _ | config | describe _ | runPending | requests => trivial

variable {terms : Terms} {calls : Calls} {loaded : Loaded}

theorem shows_of_not_text {step : Step} {shown : Shown}
    (notText : ∀ name data, step ≠ .renderToString name data) : terms.Shows step shown :=
  fun name data _ same _ => absurd same (notText name data)

theorem Respects.unloaded {work : Action Shown} (respects : terms.Respects (fun _ => True) work) :
    terms.Respects (fun _ => True) (unloaded loaded work) :=
  respects.bind fun _ _ => .pure trivial

theorem Respects.withLoaded {kept : String} {work : Program → Action Shown}
    (respects : ∀ program, terms.Respects (fun _ => True) (work program)) :
    terms.Respects (fun _ => True) (withLoaded loaded kept work) := by
  unfold Script.withLoaded
  split
  · exact .pure trivial
  · exact (respects _).bind fun _ _ => .pure trivial

theorem respects_changing {change : Engine → Engine}
    (holds : ∀ engine, terms.tenure.holds engine → terms.tenure.holds (change engine)) :
    terms.Respects (fun _ => True) (changing change) :=
  (Respects.modifyEngine holds).bind fun _ _ => .pure trivial

theorem respects_add {name source : String} (allows : terms.Allows (.add name source)) :
    terms.Respects (fun _ => True) (add name source) := by
  refine .atEngine fun engine holds => ?_
  unfold Engine.addTemplate
  cases compiled : engine.compile (some name) source with
  | error fault => exact (Respects.pure trivial).toAt
  | ok program =>
      exact (RespectsAt.modifyEngine (allows engine program holds compiled)).bind fun _ _ =>
        .pure trivial

theorem respects_register {name source : String} {compiledName : Option String}
    (allows : terms.Allows (.register name compiledName source)) :
    terms.Respects (fun _ => True) (register name compiledName source) := by
  refine .atEngine fun engine holds => ?_
  cases compiled : engine.compile compiledName source with
  | error fault => exact (Respects.pure trivial).toAt
  | ok program =>
      exact (RespectsAt.modifyEngine (allows engine program holds compiled)).bind fun _ _ =>
        .pure trivial

theorem respects_remove {name : String} (allows : terms.Allows (.remove name)) :
    terms.Respects (fun _ => True) (remove name) :=
  .ofEngine fun _ _ => (Respects.modifyEngine allows).bind fun _ _ => .pure trivial

theorem respects_loading {kept : String} {program : Program}
    (allows : terms.Allows (.loadProgram kept program)) :
    terms.Respects (fun _ => True) (loading loaded kept program) :=
  (Respects.modifyEngine allows).bind fun _ _ => .pure trivial

theorem respects_load {kept source : String} {name : Option String}
    (allows : terms.Allows (.load kept name source)) :
    terms.Respects (fun _ => True) (runStep calls loaded (.load kept name source)) := by
  refine .atEngine fun engine holds => ?_
  cases compiled : engine.compile name source with
  | error fault => exact (Respects.pure trivial).toAt
  | ok program =>
      exact (RespectsAt.modifyEngine (allows engine program holds compiled)).bind fun _ _ =>
        .pure trivial

/-- A step goes on alike from two stores that agree. -/
theorem respects_runStep (respect : calls.Respect terms) (queues : terms.Queues) {step : Step}
    (allows : terms.Allows step) :
    terms.Respects (fun taken => terms.Shows step taken.1) (runStep calls loaded step) := by
  by_cases isText : ∃ name data, step = .renderToString name data
  · obtain ⟨name, data, rfl⟩ := isText
    have text : terms.Respects (terms.Shows (.renderToString name data)) (do
        pure (shownOf (← Render.renderToString calls name data))) := by
      refine (respect.renderToString queues name allows).bind fun result ofResult => .pure ?_
      rintro _ _ error ⟨⟩ failed
      cases result with
      | ok text => cases failed
      | error fault =>
          cases failed
          exact ofResult error rfl
    exact text.bind fun _ holds => .pure holds
  · suffices respects : terms.Respects (fun _ => True) (runStep calls loaded step) from
      respects.mono fun _ _ => shows_of_not_text fun name data same => isText ⟨name, data, same⟩
    cases step with
    | renderToString name data => exact absurd ⟨name, data, rfl⟩ isText
    | add name source => exact .unloaded (respects_add allows)
    | has name => exact .unloaded (.ofEngine fun _ _ => .pure trivial)
    | remove name => exact .unloaded (respects_remove allows)
    | config => exact .unloaded (.ofEngine fun _ _ => .pure trivial)
    | register name compiledName source => exact .unloaded (respects_register allows)
    | registerProgram name program =>
        exact .unloaded ((Respects.modifyEngine allows).bind fun _ _ => .pure trivial)
    | load kept name source => exact respects_load allows
    | loadProgram kept program => exact respects_loading allows
    | describe kept => exact .withLoaded fun _ => .pure trivial
    | renderLoaded kept label data =>
        exact .withLoaded fun program =>
          (Calls.Respect.respects_renderProgram queues program allows.1 allows.2).bind fun _ _ =>
            .pure trivial
    | streamLoaded kept data observers =>
        exact .withLoaded fun program =>
          (Calls.Respect.respects_streamProgram queues program allows.1 allows.2).bind fun _ _ =>
            .pure trivial
    | render name label data =>
        exact .unloaded ((respect.renderWithContext name (.ofValue allows.1) allows.2).bind
          fun _ _ => .pure trivial)
    | renderSource source label data =>
        exact .unloaded ((Calls.Respect.respects_renderSource queues allows.1 allows.2.1
          allows.2.2).bind
          fun _ _ => .pure trivial)
    | renderWithContext name label context =>
        exact .unloaded ((respect.renderWithContext name allows.1 allows.2).bind
          fun _ _ => .pure trivial)
    | stream name data observers =>
        exact .unloaded ((Calls.Respect.respects_stream queues name allows.1 allows.2).bind
          fun _ _ => .pure trivial)
    | runPending => exact .unloaded ((respect.runPending queues).bind fun _ _ => .pure trivial)
    | helper name helper => exact .unloaded (respects_changing allows)
    | filter name filter => exact .unloaded (respects_changing allows)
    | loader loader => exact .unloaded (respects_changing allows)
    | requests => exact .unloaded (.ofEngine fun _ _ => .pure trivial)
    | answer name source =>
        exact .unloaded ((respect.answerRequest allows).bind fun _ _ => .pure trivial)
    | resume slot outcome =>
        exact .unloaded ((respect.resumeHeld slot allows).bind fun _ _ => .pure trivial)

/-- The same has happened in stores that agree, and has when no more is noted of it. -/
structure Shares (terms : Terms) : Prop where
  events : ∀ first one second other, terms.aside.relates first one second other →
    one = other ∧ ∀ event ∈ one.toList, terms.spoken event
  cleared : ∀ first one second other, terms.aside.relates first one second other →
    terms.aside.relates first #[] second #[]

theorem shares_none {spoken : Event → Prop} {allowance : Allowance} {tenure : Tenure allowance} :
    Shares ⟨allowance, tenure, spoken, .none spoken⟩ :=
  ⟨fun _ _ _ _ related => related.2.2,
    fun _ _ _ _ related => ⟨related.1, related.2.1, rfl, fun _ member => nomatch member⟩⟩

theorem Shares.takeEvents (shares : terms.Shares) :
    terms.Respects (fun events => ∀ event ∈ events, terms.spoken event)
      (Output.takeEvents : Action (List Event)) := by
  intro one other parallel
  obtain ⟨sameEvents, spoken⟩ := shares.events _ _ _ _ parallel.related
  have ran : ∀ store : Store Continuation Observer State, Output.takeEvents store =
      some (store.events.toList, { store with events := #[] }) := fun _ => rfl
  rw [ran, ran, ← sameEvents]
  exact .both { parallel with related := shares.cleared _ _ _ _ parallel.related } spoken

/-- Steps go on alike from two stores that agree; what each of them shows, and the events it causes,
are as the terms say. -/
theorem respects_runSteps (respect : calls.Respect terms) (queues : terms.Queues)
    (shares : terms.Shares) {steps : List Step} (allows : ∀ step ∈ steps, terms.Allows step) :
    terms.Respects
      (List.Forall₂ (fun step entry =>
        terms.Shows step entry.1 ∧ ∀ event ∈ entry.2, terms.spoken event) steps)
      (runSteps calls loaded steps) := by
  induction steps generalizing loaded with
  | nil => exact .pure .nil
  | cons step rest inductionHypothesis =>
      refine (respects_runStep respect queues (allows step List.mem_cons_self)).bind
        fun taken shows => shares.takeEvents.bind fun events spoken =>
          (inductionHypothesis fun other member =>
            allows other (List.mem_cons_of_mem _ member)).bind fun others ofOthers =>
              .pure (.cons ⟨shows, spoken⟩ ofOthers)

end Terms

end Render

end BraceTemplate
