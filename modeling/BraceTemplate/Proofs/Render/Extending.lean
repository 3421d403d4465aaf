import BraceTemplate.Proofs.Output.Runs
import BraceTemplate.Proofs.Render.Allowing
import BraceTemplate.Render.Entry

/-!
# What a render yields stays with a larger bound

A run extends another one where it yields whatever the other one yields. Going on, delivering and
rendering are extended as soon as reactions, bodies and functions are, and rounds become no fewer.
So what is yielded within a bound is yielded within every larger one: only a render that is out of
steps depends on the bound.
-/

namespace BraceTemplate

namespace Output

variable {Continuation Listener Client Result Next : Type}

/-- Whatever the first run yields, the second one yields as well. -/
def Extends (first second : Run Continuation Listener Client Result) : Prop :=
  ∀ store found, first store = some found → second store = some found

structure Handlers.Extend (handlers others : Handlers Continuation Listener Client) : Prop where
  rounds : handlers.rounds ≤ others.rounds
  resume : ∀ continuation result,
    Extends (handlers.resume continuation result) (others.resume continuation result)
  hear : ∀ listener occasion,
    Extends (handlers.hear listener occasion) (others.hear listener occasion)

namespace Extends

theorem refl (run : Run Continuation Listener Client Result) : Extends run run :=
  fun _ _ ran => ran

theorem outOfSteps (run : Run Continuation Listener Client Result) :
    Extends Output.outOfSteps run :=
  nofun

theorem bind {first second : Run Continuation Listener Client Result}
    {next also : Result → Run Continuation Listener Client Next} (ofFirst : Extends first second)
    (each : ∀ result, Extends (next result) (also result)) :
    Extends (first >>= next) (second >>= also) := by
  rintro store ⟨last, later⟩ ran
  obtain ⟨result, middle, ranFirst, ranNext⟩ := bind_eq_some.mp ran
  exact bind_eq_some.mpr ⟨result, middle, ofFirst _ _ ranFirst, each result _ _ ranNext⟩

theorem discard {first second : Run Continuation Listener Client Result}
    (ofRun : Extends first second) :
    Extends (Functor.discard first) (Functor.discard second) := by
  intro store found ran
  rw [run_discard] at ran ⊢
  obtain ⟨yielded, ranFirst, same⟩ := Option.map_eq_some_iff.mp ran
  rw [ofRun _ _ ranFirst]
  exact congrArg some same

theorem mapM {Item : Type} {step also : Item → Run Continuation Listener Client Result}
    (each : ∀ item, Extends (step item) (also item)) (items : List Item) :
    Extends (items.mapM step) (items.mapM also) := by
  induction items with
  | nil => exact refl _
  | cons item rest inductionHypothesis =>
      rw [List.mapM_cons, List.mapM_cons]
      exact (each item).bind fun _ => inductionHypothesis.bind fun _ => refl _

theorem forM {Item : Type} {step also : Item → Run Continuation Listener Client PUnit}
    (each : ∀ item, Extends (step item) (also item)) (items : List Item) :
    Extends (items.forM step) (items.forM also) := by
  induction items with
  | nil => exact refl _
  | cons item rest inductionHypothesis => exact (each item).bind fun _ => inductionHypothesis

variable {handlers others : Handlers Continuation Listener Client} {id : OutletId}
variable {writer : Writer}

theorem tell (extend : handlers.Extend others) (occasion : Occasion) :
    Extends (Output.tell handlers id occasion) (Output.tell others id occasion) := by
  refine (refl _).bind fun listeners => ?_
  cases listeners with
  | none => exact refl _
  | some listeners =>
      exact (refl _).bind fun _ =>
        (mapM (fun listener => extend.hear listener occasion) _).bind fun _ => refl _

theorem conclude (extend : handlers.Extend others) (result : Except RenderError String)
    (onResult : Option Continuation) :
    Extends (Output.conclude handlers id result onResult)
      (Output.conclude others id result onResult) := by
  refine (refl _).bind fun _ => ?_
  cases onResult with
  | none => exact refl _
  | some continuation => exact extend.resume continuation result

theorem deliver (extend : handlers.Extend others) (pieces : List String) (outcome : Outcome) :
    Extends (Output.deliver handlers id pieces outcome)
      (Output.deliver others id pieces outcome) := by
  refine (refl _).bind fun found => ?_
  cases found with
  | none => exact refl _
  | some outlet =>
      simp only
      split
      · cases outcome with
        | pending => exact refl _
        | finished => exact conclude extend _ _
        | failed error => exact conclude extend _ _
      · have telling : Extends
            (forIn pieces PUnit.unit fun piece _ => do
              Output.tell handlers id (.data piece)
              Pure.pure (ForInStep.yield PUnit.unit) : Run Continuation Listener Client PUnit)
            (forIn pieces PUnit.unit fun piece _ => do
              Output.tell others id (.data piece)
              Pure.pure (ForInStep.yield PUnit.unit)) := by
          induction pieces with
          | nil => exact refl _
          | cons piece rest inductionHypothesis =>
              rw [List.forIn_cons, List.forIn_cons]
              refine ((tell extend _).bind fun _ => refl _).bind fun step => ?_
              cases step with
              | done _ => exact refl _
              | yield _ => exact inductionHypothesis
        refine telling.bind fun _ => ?_
        cases outcome with
        | pending => exact refl _
        | finished => exact tell extend _
        | failed error => exact tell extend _

theorem flushRound (extend : handlers.Extend others) :
    Extends (Output.flushRound handlers id) (Output.flushRound others id) := by
  refine (refl _).bind fun _ => (refl _).bind fun found => ?_
  cases found with
  | none => exact refl _
  | some outlet => exact (refl _).bind fun _ => (deliver extend _ _).bind fun _ => refl _

theorem flushRounds (extend : handlers.Extend others) {rounds more : Nat}
    (fewer : rounds ≤ more) :
    Extends (Output.flushRounds handlers id rounds) (Output.flushRounds others id more) := by
  induction rounds generalizing more with
  | zero => exact outOfSteps _
  | succ rounds inductionHypothesis =>
      obtain ⟨more, rfl⟩ : ∃ last, more = last + 1 := ⟨more - 1, by omega⟩
      refine (flushRound extend).bind fun again => ?_
      cases again with
      | true => exact inductionHypothesis (Nat.le_of_succ_le_succ fewer)
      | false => exact refl _

theorem flush (extend : handlers.Extend others) :
    Extends (Output.flush handlers id) (Output.flush others id) := by
  refine (refl _).bind fun found => ?_
  cases found with
  | none => exact refl _
  | some outlet =>
      simp only
      split
      · exact refl _
      · exact (refl _).bind fun _ => (flushRounds extend extend.rounds).bind fun _ => refl _

theorem finish (extend : handlers.Extend others) :
    Extends (writer.finish handlers) (writer.finish others) :=
  (refl _).bind fun _ => flush extend

theorem finishWith (extend : handlers.Extend others) (text : String) :
    Extends (writer.finishWith handlers text) (writer.finishWith others text) :=
  (refl _).bind fun _ => finish extend

theorem fail (extend : handlers.Extend others) (error : RenderError) :
    Extends (writer.fail handlers error) (writer.fail others error) :=
  (refl _).bind fun _ => (flush extend).bind fun _ => refl _

theorem capture (extend : handlers.Extend others)
    {render also : Writer → Run Continuation Listener Client (Except RenderError Writer)}
    (rendering : ∀ inner, Extends (render inner) (also inner)) (onResult : Writer → Continuation) :
    Extends (writer.capture handlers render onResult) (writer.capture others also onResult) := by
  refine (refl _).bind fun ⟨branch, next⟩ => (refl _).bind fun id => (rendering _).bind
    fun ended => ?_
  cases ended with
  | ok last => exact (finish extend).bind fun _ => refl _
  | error error => exact (fail extend error).discard.bind fun _ => refl _

theorem settle (extend : handlers.Extend others) (result : Except RenderError String)
    {continue? also? : String → Run Continuation Listener Client (Except RenderError Writer)}
    (continuing : ∀ text, Extends (continue? text) (also? text)) :
    Extends (writer.settle handlers result continue?) (writer.settle others result also?) := by
  cases result with
  | error error => exact (fail extend error).discard
  | ok text =>
      refine (continuing text).bind fun ended => ?_
      cases ended with
      | ok last => exact finish extend
      | error error => exact (fail extend error).discard

end Extends

end Output

namespace Render

open Output

/-- The second render yields whatever the first one does. -/
def Sense.extending : Sense where
  Runs good first second := Extends first second ∧
    ∀ store result later, first store = some (result, later) → good result
  fine _ := True
  permits _ := True
  fails := True
  returns _ := True
  knows _ := True
  pure := by
    rintro Result good result holds
    refine ⟨.refl _, fun _ _ _ ran => ?_⟩
    cases ran
    exact holds
  bind := by
    rintro Result Next good goodNext first second next also ⟨ofFirst, yields⟩ ofNext
    have going : ∀ store result middle, first store = some (result, middle) →
        Extends (next result) (also result) ∧ _ :=
      fun store result middle ran => ofNext result (yields _ _ _ ran) ⟨store, middle, ran⟩
    refine ⟨?_, fun store result later ran => ?_⟩
    · rintro store ⟨last, later⟩ ran
      obtain ⟨result, middle, ranFirst, ranNext⟩ := bind_eq_some.mp ran
      exact bind_eq_some.mpr
        ⟨result, middle, ofFirst _ _ ranFirst, (going _ _ _ ranFirst).1 _ _ ranNext⟩
    · obtain ⟨found, middle, ranFirst, ranNext⟩ := bind_eq_some.mp ran
      exact (going _ _ _ ranFirst).2 _ _ _ ranNext
  ofEngine each :=
    ⟨fun store => (each store.client.engine store.client.engine.requests trivial).1 store,
      fun store => (each store.client.engine store.client.engine.requests trivial).2 store⟩
  write text _ := ⟨.refl _, fun _ _ _ _ => trivial⟩
  ofText _ := trivial
  ofNothing := trivial
  failed _ _ := trivial
  recursiveBlock _ _ := trivial

theorem isFree_extending : Sense.extending.IsFree :=
  ⟨fun _ => trivial, trivial, fun _ => trivial⟩

theorem runs_of_extends {Result : Type} {first second : Action Result}
    (ofRun : Extends first second) : Sense.extending.Runs (fun _ => True) first second :=
  ⟨ofRun, fun _ _ _ _ => trivial⟩

/-- Rendering that yields whatever rendering in another way does. -/
structure Calls.Extend (calls others : Calls) : Prop where
  handlers : calls.handlers.Extend others.handlers
  renderBody : ∀ program body writer context,
    Extends (calls.renderBody program body writer context)
      (others.renderBody program body writer context)
  call : ∀ called writer context bodies params,
    Extends (calls.call called writer context bodies params)
      (others.call called writer context bodies params)

namespace Calls.Extend

variable {calls others : Calls} {writer : Writer} {context : Context}

theorem supports (extend : calls.Extend others) :
    Sense.extending.Supports .all calls others where
  allows := ⟨fun value => iff_of_true trivial value.holds_true, fun _ _ => trivial,
    fun _ _ _ _ => trivial⟩
  body program id writer _ :=
    isFree_extending.ended (runs_of_extends (extend.renderBody program id writer _))
  call bodies writer _ _ _ :=
    isFree_extending.returned (runs_of_extends (extend.call _ writer _ bodies _))
  fail _ _ := runs_of_extends (.fail extend.handlers _)
  isSettled := runs_of_extends (.refl _)
  setSettled _ := runs_of_extends (.refl _)
  openPot := runs_of_extends (.refl _)
  potText _ := runs_of_extends (.refl _)
  serves := {
    everywhere := fun _ => trivial
    opened := ⟨.refl _, fun _ _ _ _ => runs_of_extends (.refl _)⟩
    fork := fun _ => runs_of_extends (.refl _)
    hold := fun _ _ => runs_of_extends (.refl _)
    finish := fun _ => runs_of_extends (.finish extend.handlers)
    shout := by
      rintro one _ program id writer ⟨rfl, -⟩
      exact runs_of_extends (.capture extend.handlers (fun _ => extend.renderBody _ _ _ _) _) }

theorem loads (extend : calls.Extend others) :
    (Sense.extending.allowing .all).Loads calls others fun one other => other = one where
  serves := extend.supports.serves
  permitted _ := trivial
  findOrCompile _ _ := runs_of_extends (.refl _)
  registerSource _ _ := runs_of_extends (.refl _)
  asks := by
    rintro one _ name branch rfl
    exact runs_of_extends (.refl _)
  fresh program := by
    rintro rfl
    exact ⟨rfl, Context.holds_true _⟩
  named name := by
    rintro rfl
    rfl
  capture := by
    rintro one _ program id writer - ⟨rfl, -⟩
    exact runs_of_extends (.capture extend.handlers (fun _ => extend.renderBody _ _ _ _) _)

theorem conducts (extend : calls.Extend others) :
    (Sense.extending.allowing .all).Conducts calls others :=
  extend.supports.conducts fun _ _ name writer =>
    extend.supports.enters.renderInclusion extend.loads rfl rfl rfl name
      (fun _ _ => ⟨rfl, Context.holds_true _⟩) writer

theorem runOps (extend : calls.Extend others) (program : Program) (ops : List Op) :
    Extends (runOps calls program context ops writer)
      (Render.runOps others program context ops writer) :=
  (extend.supports.runOps extend.conducts context.holds_true program ops writer).1

theorem callFunction (extend : calls.Extend others) (called : Function Value) (bodies : Bodies)
    (params : Value.Params) :
    Extends (callFunction calls called writer context bodies params)
      (Render.callFunction others called writer context bodies params) :=
  (extend.supports.callFunction extend.conducts trivial context.holds_true
    (fun entry _ => entry.2.holds_true) bodies writer).1

theorem renderNamedTemplate (extend : calls.Extend others) (name : String) :
    Extends (renderNamedTemplate calls name writer context)
      (Render.renderNamedTemplate others name writer context) :=
  (extend.supports.enters.renderNamedTemplate extend.loads rfl name writer).1

theorem resume (extend : calls.Extend others) (continuation : Continuation)
    (result : Except RenderError String) :
    Extends (resume calls continuation result) (Render.resume others continuation result) := by
  cases continuation with
  | report label => exact .refl _
  | capture branch next =>
      refine .settle extend.handlers result fun text => ?_
      cases next with
      | «include» context => exact (extend.renderNamedTemplate text).bind fun _ => .refl _
      | shout => exact .refl _

theorem renderToEnd (extend : calls.Extend others) (name : String) :
    Extends (renderToEnd calls name writer context)
      (Render.renderToEnd others name writer context) :=
  (extend.renderNamedTemplate name).bind fun _ => .finish extend.handlers

theorem runPending (extend : calls.Extend others) :
    Extends (runPending calls) (Render.runPending others) := by
  refine (Extends.refl _).bind fun engine => (Extends.refl _).bind fun _ =>
    (Extends.forM (fun task => ?_) _).bind fun _ => .refl _
  cases task with
  | named name writer context => exact extend.renderToEnd name
  | program program writer context =>
      have rendering : Extends (renderTemplate calls program writer context)
          (renderTemplate others program writer context) :=
        (extend.supports.enters.renderTemplate ⟨rfl, Context.holds_true _⟩ trivial).1
      exact rendering.bind fun _ => .finish extend.handlers

theorem answer (extend : calls.Extend others) (request : Request)
    (source : Except RenderError String) :
    Extends (answer calls request source) (Render.answer others request source) :=
  (extend.supports.enters.answer extend.loads rfl request.template request.branch source).1

theorem renderToString (extend : calls.Extend others) (name : String) (data : Value) :
    Extends (renderToString calls name data) (Render.renderToString others name data) :=
  (Extends.refl _).bind fun _ => (extend.renderToEnd name).bind fun _ =>
    extend.runPending.discard.bind fun _ => .refl _

end Calls.Extend

/-- Rendering within a larger bound yields whatever rendering within a smaller one does. -/
theorem callsWithin_extend {depth more : Nat} (fewer : depth ≤ more) :
    (callsWithin depth).Extend (callsWithin more) := by
  induction depth generalizing more with
  | zero =>
      exact ⟨⟨Nat.zero_le _, fun _ _ => .outOfSteps _, fun _ _ => .refl _⟩,
        fun _ _ _ _ => .outOfSteps _, fun _ _ _ _ _ => .outOfSteps _⟩
  | succ depth inductionHypothesis =>
      obtain ⟨more, rfl⟩ : ∃ last, more = last + 1 := ⟨more - 1, by omega⟩
      have extend := inductionHypothesis (Nat.le_of_succ_le_succ fewer)
      refine ⟨⟨fewer, fun continuation result => ?_, fun _ _ => .refl _⟩, ?_, ?_⟩
      · exact extend.resume continuation result
      · exact fun program body _ _ => extend.runOps program (program.body body)
      · exact fun called _ _ bodies params => extend.callFunction called bodies params

/-- The result of a render to a text is the same within every bound that it does not exceed. -/
theorem renderToString_stays {depth more : Nat} (fewer : depth ≤ more) {name : String}
    {data : Value} {store later : Store Continuation Observer State}
    {result : Except RenderError String}
    (ran : renderToString (callsWithin depth) name data store = some (result, later)) :
    renderToString (callsWithin more) name data store = some (result, later) :=
  (callsWithin_extend fewer).renderToString name data store _ ran

/-- Whatever the bounds are, what renders of the same template over the same data yield is the
same. -/
theorem renderToString_unique {depth other : Nat} {name : String} {data : Value}
    {store later last : Store Continuation Observer State}
    {result found : Except RenderError String}
    (ran : renderToString (callsWithin depth) name data store = some (result, later))
    (ranOther : renderToString (callsWithin other) name data store = some (found, last)) :
    result = found ∧ later = last := by
  have first := renderToString_stays (Nat.le_max_left depth other) ran
  have second := renderToString_stays (Nat.le_max_right depth other) ranOther
  exact Prod.mk.inj (Option.some.inj (first.symm.trans second))

end Render

end BraceTemplate
