import BraceTemplate.Proofs.Render.Muffling

/-!
# Rendering while a parameter is resolved

Whatever is rendered through a muffled handle goes on alike without the older taps, and leaves a
handle that stems from it.
-/

namespace BraceTemplate.Render

open Output

def Returned.upTo (pot : Nat) : Returned → Returned
  | .handle writer => .handle (writer.upTo pot)
  | .value held => .value held

namespace Resolution

variable (resolution : Resolution)

/-- An action that goes on from a handle and leaves one. -/
abbrev Leads (holds : Prop) (writer : Writer) (one other : Action Writer) : Prop :=
  resolution.Shadows holds (resolution.Stems writer) (Writer.upTo resolution.pot) one other

abbrev Renders (holds : Prop) (writer : Writer)
    (one other : Action (Except RenderError Writer)) : Prop :=
  resolution.Shadows holds (fun ended => ∀ next, ended = .ok next → resolution.Stems writer next)
    (Except.map (Writer.upTo resolution.pot)) one other

abbrev Returns (holds : Prop) (writer : Writer)
    (one other : Action (Except RenderError Returned)) : Prop :=
  resolution.Shadows holds
    (fun ended => ∀ next, ended = .ok (.handle next) → resolution.Stems writer next)
    (Except.map (Returned.upTo resolution.pot)) one other

namespace Shadows

variable {resolution} {holds : Prop} {writer next : Writer}

theorem ends (stems : holds → resolution.Stems writer next) :
    resolution.Renders holds writer (Pure.pure (.ok next))
      (Pure.pure (.ok (next.upTo resolution.pot))) :=
  pure (fun held _ same => by cases same; exact stems held) fun _ => rfl

theorem errs (error : RenderError) :
    resolution.Renders holds writer (Pure.pure (.error error)) (Pure.pure (.error error)) :=
  pure (fun _ _ same => by cases same) fun _ => rfl

/-- What goes on from a handle that stems from another goes on from that one. -/
theorem from_ {one other : Action (Except RenderError Writer)}
    (shadows : resolution.Renders holds next one other)
    (stems : holds → resolution.Stems writer next) : resolution.Renders holds writer one other :=
  shadows.mono id fun _ held good last same => (stems held).trans (good last same)

end Shadows

end Resolution

/-- Rendering that goes on alike without the older taps of a resolution. -/
structure Calls.Shadow (calls : Calls) (resolution : Resolution) : Prop where
  reacts : resolution.Reacts calls.handlers
  renderBody : ∀ (holds : Prop) program body writer context,
    (holds → resolution.Muffles writer) →
    resolution.Renders holds writer (calls.renderBody program body writer context)
      (calls.renderBody program body (writer.upTo resolution.pot) context)
  call : ∀ (holds : Prop) called writer context bodies params,
    (holds → resolution.Muffles writer) →
    resolution.Returns holds writer (calls.call called writer context bodies params)
      (calls.call called (writer.upTo resolution.pot) context bodies params)

namespace Calls.Shadow

open Resolution

variable {resolution : Resolution} {calls : Calls} {holds : Prop} {writer : Writer}
variable {context : Context} {bodies : Bodies} {params : Value.Params}

theorem renderNamed (shadow : calls.Shadow resolution) (muffles : holds → resolution.Muffles writer)
    (name : String) :
    resolution.Renders holds writer (calls.renderNamed bodies name writer context)
      (calls.renderNamed bodies name (writer.upTo resolution.pot) context) := by
  unfold Calls.renderNamed
  cases bodies.find? name with
  | none => exact .ends fun _ => .refl _
  | some body => exact shadow.renderBody _ _ _ _ _ muffles

theorem resolveValue (shadow : calls.Shadow resolution)
    (muffles : holds → resolution.Muffles writer) (value : Value) :
    resolution.Agrees holds (fun _ => True) (resolveValue calls value writer context)
      (Render.resolveValue calls value (writer.upTo resolution.pot) context) := by
  cases value with
  | function called =>
      refine Shadows.openPot.bind fun pot => ?_
      have other : holds ∧ resolution.pot < pot → Tap.collect pot ≠ .collect resolution.pot := by
        rintro ⟨-, beyond⟩ same
        exact absurd (Tap.collect.inj same) (Nat.ne_of_gt beyond)
      have tapped := shadow.call (holds ∧ resolution.pot < pot) called (writer.tap (.collect pot))
        context Bodies.none [] fun held => (muffles held.1).stem (.tap (other held))
      refine (tapped.replace fun held => ?_).bind fun returned => ?_
      · rw [Writer.upTo_tap (other held)]
        rfl
      cases returned with
      | error error => exact .pure (fun _ => trivial) fun _ => rfl
      | ok returned =>
          cases returned with
          | handle next =>
              exact (Shadows.potText fun held => held.1.2).bind fun _ =>
                .pure (fun _ => trivial) fun _ => rfl
          | value value => exact .pure (fun _ => trivial) fun _ => rfl
  | _ => exact .pure (fun _ => trivial) fun _ => rfl

theorem resolveParam? (shadow : calls.Shadow resolution)
    (muffles : holds → resolution.Muffles writer) (key : String) :
    resolution.Agrees holds (fun _ => True) (resolveParam? calls params key writer context)
      (Render.resolveParam? calls params key (writer.upTo resolution.pot) context) := by
  unfold Render.resolveParam?
  cases params.find? key with
  | none => exact .pure (fun _ => trivial) fun _ => rfl
  | some value =>
      exact (shadow.resolveValue muffles value).bind fun _ =>
        .pure (fun _ => trivial) fun _ => rfl

theorem writeValue (muffles : holds → resolution.Muffles writer) (chain : FilterChain)
    (value : Value) :
    resolution.Leads holds writer (writeValue chain writer value)
      (Render.writeValue chain (writer.upTo resolution.pot) value) := by
  unfold Render.writeValue
  refine .ite (fun _ => rfl) (.pure (fun _ => .refl _) fun _ => rfl) ?_
  exact .ofEngine fun engine requests held => .write muffles _

theorem renderReference (shadow : calls.Shadow resolution)
    (muffles : holds → resolution.Muffles writer) (identifier : Identifier)
    (chain : FilterChain) :
    resolution.Leads holds writer (renderReference calls writer context identifier chain)
      (Render.renderReference calls (writer.upTo resolution.pot) context identifier chain) := by
  unfold Render.renderReference
  cases context.resolve? identifier with
  | none => exact .pure (fun _ => .refl _) fun _ => rfl
  | some value =>
      cases value with
      | function called =>
          refine (shadow.call _ _ _ _ _ _ muffles).bind fun returned => ?_
          cases returned with
          | error error => exact .pure (fun _ => .refl _) fun _ => rfl
          | ok returned =>
              cases returned with
              | handle next => exact .pure (fun held => held.2 next rfl) fun _ => rfl
              | value value => exact writeValue (fun held => muffles held.1) _ _
      | _ => exact writeValue muffles _ _

theorem renderElements (shadow : calls.Shadow resolution)
    (muffles : holds → resolution.Muffles writer) (program : Program) (body : BodyId)
    (length index : Nat) (items : List Value) :
    resolution.Renders holds writer
      (renderElements calls program body context length index items writer)
      (Render.renderElements calls program body context length index items
        (writer.upTo resolution.pot)) := by
  induction items generalizing holds index writer with
  | nil => exact .ends fun _ => .refl _
  | cons item rest inductionHypothesis =>
      refine (shadow.renderBody _ _ _ _ _ muffles).bind fun ended => ?_
      cases ended with
      | error error => exact .errs error
      | ok next =>
          exact .from_ (inductionHypothesis (fun held => (muffles held.1).stem (held.2 next rfl)) _)
            fun held => held.2 next rfl

theorem renderEach (shadow : calls.Shadow resolution) (muffles : holds → resolution.Muffles writer)
    (value? : Option Value) :
    resolution.Renders holds writer (renderEach calls writer context value? bodies)
      (Render.renderEach calls (writer.upTo resolution.pot) context value? bodies) := by
  unfold Render.renderEach
  split
  · split
    · exact .ends fun _ => .refl _
    · split
      · exact shadow.renderNamed muffles _
      · exact shadow.renderElements muffles _ _ _ _ _
  · exact shadow.renderNamed muffles _
  · split
    · exact shadow.renderNamed muffles _
    · exact shadow.renderNamed muffles _
  · exact shadow.renderNamed muffles _

theorem renderSection (shadow : calls.Shadow resolution)
    (muffles : holds → resolution.Muffles writer) (value? : Option Value) :
    resolution.Renders holds writer (renderSection calls writer context value? bodies params)
      (Render.renderSection calls (writer.upTo resolution.pot) context value? bodies params) := by
  unfold Render.renderSection
  simp only
  split
  · refine (shadow.call _ _ _ _ _ _ muffles).bind fun returned => ?_
    cases returned with
    | error error => exact .ends fun _ => .refl _
    | ok returned =>
        cases returned with
        | handle next => exact .ends fun held => held.2 next rfl
        | value value => exact shadow.renderEach (fun held => muffles held.1) _
  · exact shadow.renderEach muffles _

theorem bodyText (shadow : calls.Shadow resolution) (program : Program) (body : BodyId) :
    resolution.Agrees holds (fun _ => True) (bodyText calls program body context)
      (Render.bodyText calls program body context) := by
  have muffled : resolution.MuffledSink (.collect "" none none) := fun _ _ _ none => by cases none
  refine (Shadows.openOutlet fun _ => muffled).bind fun inner =>
    (shadow.renderBody _ _ _ (Writer.onOutlet inner) _ fun held => .onOutlet held.2).bind
      fun ended => ?_
  cases ended with
  | ok last =>
      refine (Shadows.finish shadow.reacts last).bind fun _ =>
        (Shadows.result? fun held => held.1.1.2).bind fun found => ?_
      simp only [id]
      split <;> exact .pure (fun _ => trivial) fun _ => rfl
  | error error =>
      refine (Shadows.fail shadow.reacts (Writer.onOutlet inner) error).discard.bind fun _ =>
        (Shadows.result? fun held => held.1.1.2).bind fun found => ?_
      simp only [id]
      split <;> exact .pure (fun _ => trivial) fun _ => rfl

theorem renderBlock (shadow : calls.Shadow resolution)
    (muffles : holds → resolution.Muffles writer) (name : String) :
    resolution.Renders holds writer (renderBlock calls writer context name bodies)
      (Render.renderBlock calls (writer.upTo resolution.pot) context name bodies) := by
  refine .ofEngine fun engine requests kept => ?_
  cases context.block? name with
  | none => exact shadow.renderNamed muffles _
  | some override =>
      simp only
      split
      · exact (Shadows.fail shadow.reacts writer _).bind fun _ => .ends fun held => held.2
      · exact shadow.renderBody _ _ _ _ _ muffles

theorem renderSelect (shadow : calls.Shadow resolution)
    (muffles : holds → resolution.Muffles writer) (key : Value) :
    resolution.Renders holds writer (renderSelect calls key writer context bodies)
      (Render.renderSelect calls key (writer.upTo resolution.pot) context bodies) :=
  .withFreshSelect (shadow.renderNamed muffles _)

theorem runSelect (shadow : calls.Shadow resolution)
    (muffles : holds → resolution.Muffles writer) :
    resolution.Renders holds writer (runSelect calls writer context bodies params)
      (Render.runSelect calls (writer.upTo resolution.pot) context bodies params) := by
  refine (shadow.resolveParam? muffles _).bind fun key? => ?_
  cases key? with
  | none => exact .ends fun _ => .refl _
  | some key => exact shadow.renderSelect (fun held => muffles held.1) _

theorem comparisonKey? (shadow : calls.Shadow resolution)
    (muffles : holds → resolution.Muffles writer) :
    resolution.Agrees holds (fun _ => True) (comparisonKey? calls writer context params)
      (Render.comparisonKey? calls (writer.upTo resolution.pot) context params) := by
  refine (shadow.resolveParam? muffles _).bind fun key? => ?_
  cases key? with
  | some key => exact .pure (fun _ => trivial) fun _ => rfl
  | none =>
      simp only [id]
      split
      · exact Shadows.isSettled.bind fun _ => .pure (fun _ => trivial) fun _ => rfl
      · exact .pure (fun _ => trivial) fun _ => rfl

theorem runComparison (shadow : calls.Shadow resolution)
    (muffles : holds → resolution.Muffles writer) (comparison : Comparison) :
    resolution.Renders holds writer (runComparison calls comparison writer context bodies params)
      (Render.runComparison calls comparison (writer.upTo resolution.pot) context bodies
        params) := by
  refine (shadow.comparisonKey? muffles).bind fun key? => ?_
  cases key? with
  | none => exact .ends fun _ => .refl _
  | some found =>
      refine (shadow.resolveParam? (fun held => muffles held.1) _).bind fun expected? => ?_
      simp only [id]
      split
      · split
        · exact (Shadows.setSettled true).bind fun _ =>
            shadow.renderNamed (fun held => muffles held.1.1.1) mainBody
        · exact shadow.renderNamed (fun held => muffles held.1.1) mainBody
      · exact shadow.renderNamed (fun held => muffles held.1.1) elseBody

theorem runMath (shadow : calls.Shadow resolution) (muffles : holds → resolution.Muffles writer) :
    resolution.Renders holds writer (runMath calls writer context bodies params)
      (Render.runMath calls (writer.upTo resolution.pot) context bodies params) := by
  refine (shadow.resolveParam? muffles _).bind fun key? =>
    (shadow.resolveParam? (fun held => muffles held.1) _).bind fun method? => ?_
  simp only [id]
  split
  · refine (shadow.resolveParam? (fun held => muffles held.1.1) _).bind fun operand? => ?_
    simp only [id]
    split
    · exact .ends fun _ => .refl _
    · split
      · exact shadow.renderSelect (fun held => muffles held.1.1.1) _
      · exact (Shadows.write (fun held => muffles held.1.1.1) _).bind fun _ =>
          .ends fun held => held.2
  · exact .ends fun _ => .refl _

theorem runBuiltin (shadow : calls.Shadow resolution)
    (muffles : holds → resolution.Muffles writer) (helper : BuiltinHelper) :
    resolution.Renders holds writer (runBuiltin calls helper writer context bodies params)
      (Render.runBuiltin calls helper (writer.upTo resolution.pot) context bodies params) := by
  cases helper with
  | separator =>
      unfold Render.runBuiltin runSeparator
      simp only
      split
      · exact .ends fun _ => .refl _
      · exact shadow.renderNamed muffles _
  | place => exact shadow.renderNamed muffles _
  | select => exact shadow.runSelect muffles
  | compare comparison => exact shadow.runComparison muffles comparison
  | math => exact shadow.runMath muffles
  | size =>
      exact (shadow.resolveParam? muffles _).bind fun _ =>
        (Shadows.write (fun held => muffles held.1) _).bind fun _ => .ends fun held => held.2
  | contextDump =>
      refine (shadow.resolveParam? muffles _).bind fun key? =>
        (shadow.resolveParam? (fun held => muffles held.1) _).bind fun to? => ?_
      simp only [id]
      split
      · exact .ends fun _ => .refl _
      · exact (Shadows.write (fun held => muffles held.1.1) _).bind fun _ =>
          .ends fun held => held.2

theorem runAction (shadow : calls.Shadow resolution) (muffles : holds → resolution.Muffles writer)
    (action : HostAction) :
    resolution.Renders holds writer (runAction calls writer context bodies params action)
      (Render.runAction calls (writer.upTo resolution.pot) context bodies params action) := by
  have writing : ∀ text, resolution.Renders holds writer
      (do pure (.ok (← writer.write text)))
      (do pure (.ok (← (writer.upTo resolution.pot).write text))) := fun text =>
    (Shadows.write muffles text).bind fun _ => .ends fun held => held.2
  cases action with
  | write text => exact writing text
  | writeParams => exact writing _
  | writeParam key =>
      exact (shadow.resolveValue muffles _).bind fun _ =>
        (Shadows.write (fun held => muffles held.1) _).bind fun _ => .ends fun held => held.2
  | writePlace => exact writing _
  | writeStack => exact writing _
  | fail error =>
      exact (Shadows.fail shadow.reacts writer error).bind fun _ => .ends fun held => held.2
  | fork slot =>
      refine (Shadows.fork writer).bind fun ⟨branch, next⟩ => ?_
      have holding : resolution.Agrees (holds ∧ resolution.Stems writer branch ∧
          resolution.Stems writer next) (fun _ => True) (hold slot branch)
            (hold slot (branch.upTo resolution.pot)) :=
        Shadows.modifyEngine fun engine requests kept => ⟨requests, _, rfl⟩
      exact holding.bind fun _ => .ends fun held => held.1.2.2
  | forkWriting text =>
      refine (Shadows.fork writer).bind fun ⟨branch, next⟩ => ?_
      exact (Shadows.finishWith shadow.reacts
        (fun held => (muffles held.1).stem held.2.1) text).bind fun _ =>
          .ends fun held => held.1.2.2
  | render body scope => exact shadow.renderNamed muffles _
  | renderOr body ifNone ifMissing =>
      unfold Render.runAction
      simp only
      split
      · exact shadow.renderBody _ _ _ _ _ muffles
      · exact writing _
  | renderTapped body change keeping =>
      have other : Tap.change change ≠ .collect resolution.pot := fun same => by cases same
      unfold Render.runAction
      simp only
      split
      · exact .ends fun _ => .refl _
      · refine (shadow.renderBody holds _ _ (writer.tap (.change change)) _
          fun held => (muffles held).stem (.tap other)).bind fun ended => ?_
        cases ended with
        | error error => exact .errs error
        | ok tapped =>
            cases keeping with
            | true => exact .ends fun held => (Stems.tap other).trans (held.2 tapped rfl)
            | false =>
                refine .pure (fun held next same => ?_) fun held => ?_
                · cases same
                  exact (Stems.untap other (held.2 tapped rfl)).1
                · exact congrArg Except.ok (Stems.untap other (held.2 tapped rfl)).2.symm
  | capture body =>
      unfold Render.runAction
      simp only
      split
      · exact .ends fun _ => .refl _
      · refine (Shadows.capture shadow.reacts muffles (fun held inner muffled => ?_) .shout).bind
          fun _ => .ends fun held => held.2
        exact (shadow.renderBody _ _ _ _ _ muffled).mono id fun _ _ _ => trivial

theorem runActions (shadow : calls.Shadow resolution) (muffles : holds → resolution.Muffles writer)
    (actions : List HostAction) :
    resolution.Renders holds writer (runActions calls context bodies params actions writer)
      (Render.runActions calls context bodies params actions
        (writer.upTo resolution.pot)) := by
  induction actions generalizing holds writer with
  | nil => exact .ends fun _ => .refl _
  | cons action rest inductionHypothesis =>
      refine (shadow.runAction muffles action).bind fun ended => ?_
      cases ended with
      | error error => exact .errs error
      | ok next =>
          exact .from_ (inductionHypothesis fun held => (muffles held.1).stem (held.2 next rfl))
            fun held => held.2 next rfl

theorem hostResult_upTo (pot : Nat) (context : Context) (next : Writer)
    (result : HostResult Value) :
    hostResult context (next.upTo pot) result =
      (hostResult context next result).map (Returned.upTo pot) := by
  cases result <;> rfl

theorem handle_of_hostResult {next last : Writer} {result : HostResult Value}
    (same : hostResult context next result = .ok (.handle last)) : last = next := by
  cases result <;> cases same
  rfl

theorem callFunction (shadow : calls.Shadow resolution)
    (muffles : holds → resolution.Muffles writer) (called : Function Value) :
    resolution.Returns holds writer (callFunction calls called writer context bodies params)
      (Render.callFunction calls called (writer.upTo resolution.pot) context bodies params) := by
  cases called with
  | inline program body stamp =>
      refine (shadow.renderBody _ _ _ _ _ muffles).bind fun ended => ?_
      cases ended with
      | error error => exact .pure (fun _ _ same => by cases same) fun _ => rfl
      | ok next =>
          refine .pure (fun held _ same => ?_) fun _ => rfl
          cases same
          exact held.2 next rfl
  | host identity function =>
      refine (shadow.runActions muffles _).bind fun ended => ?_
      cases ended with
      | error error => exact .pure (fun _ _ same => by cases same) fun _ => rfl
      | ok next =>
          refine .pure (fun held last same => ?_) fun _ => hostResult_upTo _ _ _ _
          rw [handle_of_hostResult same]
          exact held.2 next rfl

theorem renderHelper (shadow : calls.Shadow resolution)
    (muffles : holds → resolution.Muffles writer) (name : String) :
    resolution.Renders holds writer (renderHelper calls writer name bodies params context)
      (Render.renderHelper calls (writer.upTo resolution.pot) name bodies params context) := by
  refine .ofEngine fun engine requests kept => ?_
  cases engine.helpers.find? name with
  | none => exact .ends fun _ => .refl _
  | some helper =>
      have running : resolution.Renders holds writer
          (runHelper calls helper writer context bodies params)
          (runHelper calls helper (writer.upTo resolution.pot) context bodies params) := by
        cases helper with
        | builtin helper => exact shadow.runBuiltin muffles helper
        | host helper =>
            refine (shadow.runActions muffles _).bind fun ended => ?_
            cases ended with
            | error error => exact .errs error
            | ok next =>
                simp only [Except.map]
                split
                · exact .errs _
                · exact .ends fun held => held.2 next rfl
      refine running.bind fun ended => ?_
      cases ended with
      | error error => exact .ends fun _ => .refl _
      | ok next => exact .ends fun held => held.2 next rfl

theorem renderTemplate (shadow : calls.Shadow resolution)
    (muffles : holds → resolution.Muffles writer) (program : Program) :
    resolution.Leads holds writer (renderTemplate calls program writer context)
      (Render.renderTemplate calls program (writer.upTo resolution.pot) context) := by
  refine Shadows.bind (.withFreshSelect (shadow.renderBody _ _ _ _ _ muffles)) fun ended => ?_
  cases ended with
  | ok next => exact .pure (fun held => held.2 next rfl) fun _ => rfl
  | error error => exact .fail shadow.reacts writer error

theorem findOrCompile (name source : String) :
    resolution.Agrees holds (fun _ => True) (findOrCompile name source)
      (Render.findOrCompile name source) := by
  refine .ofEngine fun engine requests kept => ?_
  simp only [Engine.compile]
  split
  · exact .pure (fun _ => trivial) fun _ => rfl
  · split
    · exact .pure (fun _ => trivial) fun _ => rfl
    · refine Shadows.bind (Shadows.modifyEngine fun engine requests kept => ?_) fun _ =>
        .pure (fun _ => trivial) fun _ => rfl
      exact ⟨requests, kept, rfl⟩

def upTo (resolution : Resolution) (request : Request) : Request :=
  { request with branch := request.branch.upTo resolution.pot }

theorem answer (shadow : calls.Shadow resolution) (request : Request)
    (muffles : holds → resolution.Muffles request.branch) (source : Except RenderError String) :
    resolution.Agrees holds (fun _ => True) (answer calls request source)
      (Render.answer calls (upTo resolution request) source) := by
  cases source with
  | error error => exact (Shadows.fail shadow.reacts request.branch error).discard
  | ok text =>
      refine (findOrCompile _ _).bind fun compiled => ?_
      cases compiled with
      | error error => exact (Shadows.fail shadow.reacts request.branch error).discard
      | ok program =>
          exact (shadow.renderTemplate (fun held => muffles held.1) program).bind fun last =>
            .finish shadow.reacts last

theorem registerSource (name source : String) :
    resolution.Agrees holds (fun _ => True) (registerSource name source)
      (Render.registerSource name source) := by
  refine .ofEngine fun engine requests kept => ?_
  simp only [Engine.addTemplate, Engine.compile]
  cases Program.ofSource engine.config (some name) source with
  | error fault => exact .pure (fun _ => trivial) fun _ => rfl
  | ok program => exact .modifyEngine fun _ _ _ => ⟨requests, kept, rfl⟩

theorem load (shadow : calls.Shadow resolution) (muffles : holds → resolution.Muffles writer)
    (loader : Loader) (name : String) :
    resolution.Leads holds writer (load calls loader name writer context)
      (Render.load calls loader name (writer.upTo resolution.pot) context) := by
  cases loader with
  | none => exact .fail shadow.reacts writer _
  | immediate source =>
      refine (Shadows.fork writer).bind fun ⟨branch, next⟩ => ?_
      exact (shadow.answer ⟨name, branch, context⟩ (fun held => (muffles held.1).stem held.2.1)
        _).bind fun _ => .pure (fun held => held.1.2.2) fun _ => rfl
  | registering source reply =>
      refine (Shadows.fork writer).bind fun ⟨branch, next⟩ => (registerSource _ _).bind fun _ => ?_
      exact (shadow.answer ⟨name, branch, context⟩ (fun held => (muffles held.1.1).stem held.1.2.1)
        _).bind fun _ => .pure (fun held => held.1.1.2.2) fun _ => rfl
  | deferred =>
      refine (Shadows.fork writer).bind fun ⟨branch, next⟩ => ?_
      refine Shadows.bind (Shadows.modifyEngine fun engine requests kept => ?_) fun _ =>
        .pure (fun held => held.1.2.2) fun _ => rfl
      exact ⟨requests ++ [⟨name, branch.upTo resolution.pot, context⟩], kept, rfl⟩

theorem renderNamedTemplate (shadow : calls.Shadow resolution)
    (muffles : holds → resolution.Muffles writer) (name : String) :
    resolution.Leads holds writer (renderNamedTemplate calls name writer context)
      (Render.renderNamedTemplate calls name (writer.upTo resolution.pot) context) := by
  refine .ofEngine fun engine requests kept => ?_
  simp only
  split
  · exact shadow.renderTemplate muffles _
  · exact shadow.load muffles _ _

theorem renderInclusion (shadow : calls.Shadow resolution)
    (muffles : holds → resolution.Muffles writer) (program : Program) (name : Name) :
    resolution.Leads holds writer (renderInclusion calls program writer context name)
      (Render.renderInclusion calls program (writer.upTo resolution.pot) context name) := by
  refine .ofEngine fun engine requests kept => ?_
  simp only
  split
  · exact .fail shadow.reacts writer _
  · cases name with
    | literal text => exact shadow.renderNamedTemplate muffles _
    | body inner =>
        refine Shadows.capture shadow.reacts muffles (fun held inner muffled => ?_)
          (.include context)
        exact (shadow.renderBody _ _ _ _ _ muffled).mono id fun _ _ _ => trivial

theorem runOp (shadow : calls.Shadow resolution) (muffles : holds → resolution.Muffles writer)
    (program : Program) (op : Op) :
    resolution.Renders holds writer (runOp calls program context writer op)
      (Render.runOp calls program context (writer.upTo resolution.pot) op) := by
  cases op with
  | write text => exact (Shadows.write muffles _).bind fun _ => .ends fun held => held.2
  | reference identifier chain =>
      exact (shadow.renderReference muffles _ _).bind fun _ => .ends fun held => held.2
  | condition kind identifier rebased exprs entries =>
      cases kind with
      | each => exact shadow.renderSection muffles _
      | present => exact shadow.renderNamed muffles _
      | absent => exact shadow.renderNamed muffles _
  | block name rebased exprs entries =>
      have naming : resolution.Agrees holds (fun _ => True) (blockName calls program context name)
          (blockName calls program context name) := by
        cases name with
        | literal text => exact .pure (fun _ => trivial) fun _ => rfl
        | body inner => exact shadow.bodyText _ _
      exact naming.bind fun text => shadow.renderBlock (fun held => muffles held.1) text
  | helper name rebased exprs entries => exact shadow.renderHelper muffles name
  | inclusion name rebased exprs =>
      exact (shadow.renderInclusion muffles _ _).bind fun _ => .ends fun held => held.2

theorem runOps (shadow : calls.Shadow resolution) (muffles : holds → resolution.Muffles writer)
    (program : Program) (ops : List Op) :
    resolution.Renders holds writer (runOps calls program context ops writer)
      (Render.runOps calls program context ops (writer.upTo resolution.pot)) := by
  induction ops generalizing holds writer with
  | nil => exact .ends fun _ => .refl _
  | cons op rest inductionHypothesis =>
      refine (shadow.runOp muffles program op).bind fun ended => ?_
      cases ended with
      | error error => exact .errs error
      | ok next =>
          exact .from_ (inductionHypothesis fun held => (muffles held.1).stem (held.2 next rfl))
            fun held => held.2 next rfl

theorem resume (shadow : calls.Shadow resolution) (branch : Writer)
    (muffles : holds → resolution.Muffles branch) (next : Capture)
    (result : Except RenderError String) :
    resolution.Agrees holds (fun _ => True) (resume calls (.capture branch next) result)
      (Render.resume calls (.capture (branch.upTo resolution.pot) next) result) := by
  refine .settle shadow.reacts branch result fun text => ?_
  cases next with
  | «include» context =>
      exact (shadow.renderNamedTemplate muffles _).bind fun _ =>
        .pure (fun _ => trivial) fun _ => rfl
  | shout =>
      exact (Shadows.write muffles _).bind fun _ => .pure (fun _ => trivial) fun _ => rfl

end Calls.Shadow

/-- Rendering within a bound goes on alike without the older taps. -/
theorem callsWithin_shadow (resolution : Resolution) (depth : Nat) :
    (callsWithin depth).Shadow resolution := by
  induction depth with
  | zero =>
      refine ⟨⟨fun id result => (callsWithin_keep 0).handlers, rfl, ?_⟩, ?_, ?_⟩
      · intro holds branch next result _
        unfold callsWithin resumeWithin
        exact .outOfSteps
      · intro holds program body writer context _
        unfold callsWithin renderBodyWithin
        exact .outOfSteps
      · intro holds called writer context bodies params _
        unfold callsWithin callWithin
        exact .outOfSteps
  | succ depth shadow =>
      refine ⟨⟨fun id result => (callsWithin_keep (depth + 1)).handlers, rfl, ?_⟩, ?_, ?_⟩
      · intro holds branch next result muffles
        unfold callsWithin resumeWithin
        exact shadow.resume branch muffles next result
      · intro holds program body writer context muffles
        unfold callsWithin renderBodyWithin
        exact shadow.runOps muffles program _
      · intro holds called writer context bodies params muffles
        unfold callsWithin callWithin
        exact shadow.callFunction muffles called

end BraceTemplate.Render
