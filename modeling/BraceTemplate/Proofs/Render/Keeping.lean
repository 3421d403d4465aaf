import BraceTemplate.Proofs.Output.Keeping
import BraceTemplate.Proofs.Render.Allowing
import BraceTemplate.Render.Entry

/-!
# Results stay while a render goes on

Nothing that a render does changes the result of an outlet that has one. In particular, what is
rendered after a failure is never seen.
-/

namespace BraceTemplate.Render

open Output

def Sense.keeping (holds : Store Continuation Observer State → Prop) (knows : Engine → Prop)
    (known : ∀ store, holds store → knows store.client.engine)
    (write : ∀ (writer : Writer) text, Keeps holds (writer.write text)) : Sense where
  Runs good first _ := Ensures holds first fun result store => good result ∧ holds store
  fine _ := True
  permits _ := True
  fails := True
  returns _ := True
  knows := knows
  pure holdsResult := .pure fun _ held => ⟨holdsResult, held⟩
  bind ofFirst ofNext := by
    intro store result later held ran
    obtain ⟨found, middle, ranFirst, ranNext⟩ := bind_eq_some.mp ran
    obtain ⟨good, heldThen⟩ := ofFirst store found middle held ranFirst
    exact ofNext found good ⟨store, middle, ranFirst⟩ middle result later heldThen ranNext
  ofEngine each store result later held ran :=
    each store.client.engine store.client.engine.requests (known store held) store result later held
      ran
  write text _ store result later held ran := ⟨trivial, write _ text store result later held ran⟩
  ofText _ := trivial
  ofNothing := trivial
  failed _ _ := trivial
  recursiveBlock _ _ := trivial

section Keeping

variable {Result : Type} {holds : Store Continuation Observer State → Prop}
variable {action : Action Result} {good : Result → Prop}

theorem runs_of_keeps (keeps : Keeps holds action) :
    Ensures holds action fun _ store => True ∧ holds store :=
  fun store result later held ran => ⟨trivial, keeps store result later held ran⟩

theorem keeps_of_runs (runs : Ensures holds action fun result store => good result ∧ holds store) :
    Keeps holds action :=
  fun store result later held ran => (runs store result later held ran).2

theorem isFree_keeping {knows : Engine → Prop}
    {known : ∀ store, holds store → knows store.client.engine}
    {write : ∀ (writer : Writer) text, Keeps holds (writer.write text)} :
    (Sense.keeping holds knows known write).IsFree :=
  ⟨fun _ => trivial, trivial, fun _ => trivial⟩

theorem keeps_engine : Keeps holds engine :=
  Keeps.client.bind fun _ => .pure _

theorem keeps_isSettled : Keeps holds isSettled :=
  Keeps.client.bind fun _ => .pure _

end Keeping

variable {id : OutletId} {result : Except RenderError String}

/-- Rendering that keeps the result of an outlet. -/
structure Calls.Keep (calls : Calls) (id : OutletId) (result : Except RenderError String) :
    Prop where
  handlers : calls.handlers.Keep (Store.HasResult id result)
  renderBody : ∀ program body writer context,
    Keeps (Store.HasResult id result) (calls.renderBody program body writer context)
  call : ∀ called writer context bodies params,
    Keeps (Store.HasResult id result) (calls.call called writer context bodies params)

def Sense.keepingResult (id : OutletId) (result : Except RenderError String) : Sense :=
  .keeping (Store.HasResult id result) (fun _ => True) (fun _ _ => trivial) fun _ => .write

namespace Calls.Keep

variable {calls : Calls} {writer : Writer} {context : Context}

theorem keeps_findOrCompile (name source : String) :
    Keeps (Store.HasResult id result) (findOrCompile name source) := by
  refine keeps_engine.bind fun engine => ?_
  split
  · exact .pure _
  · split
    · exact .pure _
    · exact (Keeps.modifyClient _).bind fun _ => .pure _

theorem keeps_registerSource (name source : String) :
    Keeps (Store.HasResult id result) (registerSource name source) := by
  refine keeps_engine.bind fun engine => ?_
  split
  · exact .pure _
  · exact .modifyClient _

theorem supports (keep : calls.Keep id result) :
    (Sense.keepingResult id result).Supports .all calls calls where
  allows := ⟨fun value => iff_of_true trivial value.holds_true, fun _ _ => trivial,
    fun _ _ _ _ => trivial⟩
  body program id writer _ :=
    isFree_keeping.ended (runs_of_keeps (keep.renderBody program id writer _))
  call bodies writer _ _ _ :=
    isFree_keeping.returned (runs_of_keeps (keep.call _ writer _ bodies _))
  fail writer _ := runs_of_keeps (.fail keep.handlers _)
  isSettled := runs_of_keeps keeps_isSettled
  setSettled settled := runs_of_keeps (.modifyClient _)
  openPot := runs_of_keeps .openPot
  potText pot := runs_of_keeps (.potText pot)
  serves := {
    everywhere := fun _ => trivial
    opened := fun store outlet later held ran =>
      ⟨runs_of_keeps .result?, Keeps.openOutlet _ store outlet later held ran⟩
    fork := fun _ => runs_of_keeps .fork
    hold := fun slot branch => by
      unfold hold modifyEngine
      exact runs_of_keeps (.modifyClient _)
    finish := fun _ => runs_of_keeps (.finish keep.handlers)
    shout := fun _ _ =>
      runs_of_keeps (.capture keep.handlers fun _ => keep.renderBody _ _ _ _) }

theorem loads (keep : calls.Keep id result) :
    ((Sense.keepingResult id result).allowing .all).Loads calls calls
      fun one other => other = one where
  serves := keep.supports.serves
  permitted _ := trivial
  findOrCompile name source := runs_of_keeps (keeps_findOrCompile name source)
  registerSource name source := runs_of_keeps (keeps_registerSource name source)
  asks name branch _ := runs_of_keeps (.modifyClient _)
  fresh program := by
    rintro rfl
    exact ⟨rfl, Context.holds_true _⟩
  named name := by
    rintro rfl
    rfl
  capture writer _ _ :=
    runs_of_keeps (.capture keep.handlers fun _ => keep.renderBody _ _ _ _)

theorem conducts (keep : calls.Keep id result) :
    ((Sense.keepingResult id result).allowing .all).Conducts calls calls :=
  keep.supports.conducts fun _ _ name writer =>
    keep.supports.enters.renderInclusion keep.loads rfl rfl rfl name
      (fun _ _ => ⟨rfl, Context.holds_true _⟩) writer

theorem renderNamedTemplate (keep : calls.Keep id result) (name : String) :
    Keeps (Store.HasResult id result) (renderNamedTemplate calls name writer context) :=
  keeps_of_runs (keep.supports.enters.renderNamedTemplate keep.loads rfl name writer)

theorem renderElements (keep : calls.Keep id result) (program : Program) (body : BodyId)
    (length index : Nat) (items : List Value) :
    Keeps (Store.HasResult id result)
      (renderElements calls program body context length index items writer) :=
  keeps_of_runs <| keep.supports.enters.renderElements
    (fun _ _ _ => ⟨rfl, Context.holds_true _⟩) trivial index

theorem runOps (keep : calls.Keep id result) (program : Program) (ops : List Op) :
    Keeps (Store.HasResult id result) (runOps calls program context ops writer) :=
  keeps_of_runs (keep.supports.runOps keep.conducts context.holds_true program ops writer)

theorem callFunction (keep : calls.Keep id result) (called : Function Value) (bodies : Bodies)
    (params : Value.Params) :
    Keeps (Store.HasResult id result)
      (callFunction calls called writer context bodies params) :=
  keeps_of_runs <| keep.supports.callFunction keep.conducts trivial context.holds_true
    (fun entry _ => entry.2.holds_true) bodies writer

theorem resume (keep : calls.Keep id result) (continuation : Continuation)
    (final : Except RenderError String) :
    Keeps (Store.HasResult id result) (resume calls continuation final) := by
  cases continuation with
  | report label => cases final <;> exact .emit _
  | capture branch next =>
      refine .settle keep.handlers fun text => ?_
      cases next with
      | «include» context => exact (keep.renderNamedTemplate _).bind fun _ => .pure _
      | shout => exact (Keeps.write _).bind fun _ => .pure _

theorem renderToEnd (keep : calls.Keep id result) (name : String) :
    Keeps (Store.HasResult id result) (renderToEnd calls name writer context) :=
  (keep.renderNamedTemplate _).bind fun _ => .finish keep.handlers

theorem runPending (keep : calls.Keep id result) :
    Keeps (Store.HasResult id result) (runPending calls) := by
  refine keeps_engine.bind fun engine => (Keeps.modifyClient _).bind fun _ => ?_
  refine (Keeps.forM (fun task => ?_) _).bind fun _ => .pure _
  cases task with
  | named name writer context => exact keep.renderToEnd _
  | program program writer context =>
      have rendering : Keeps (Store.HasResult id result)
          (renderTemplate calls program writer context) :=
        keeps_of_runs (keep.supports.enters.renderTemplate ⟨rfl, Context.holds_true _⟩ trivial)
      exact rendering.bind fun _ => .finish keep.handlers

theorem keeps_hear (observer : Observer) (occasion : Occasion) :
    Keeps (Store.HasResult id result) (hear observer occasion) :=
  (Keeps.forM (fun event => .emit event) _).bind fun _ => .pure _

end Calls.Keep

/-- Rendering within a bound keeps the results of outlets. -/
theorem callsWithin_keep (depth : Nat) : (callsWithin depth).Keep id result := by
  induction depth with
  | zero =>
      refine ⟨⟨?_, fun _ _ => Calls.Keep.keeps_hear _ _⟩, ?_, ?_⟩
      · intro continuation final
        unfold callsWithin resumeWithin
        exact .outOfSteps
      · intro program body writer context
        unfold callsWithin renderBodyWithin
        exact .outOfSteps
      · intro called writer context bodies params
        unfold callsWithin callWithin
        exact .outOfSteps
  | succ depth keep =>
      refine ⟨⟨?_, fun _ _ => Calls.Keep.keeps_hear _ _⟩, ?_, ?_⟩
      · intro continuation final
        unfold callsWithin resumeWithin
        exact keep.resume continuation final
      · intro program body writer context
        unfold callsWithin renderBodyWithin
        exact keep.runOps program _
      · intro called writer context bodies params
        unfold callsWithin callWithin
        exact keep.callFunction called bodies params

end BraceTemplate.Render
