import BraceTemplate.Proofs.Render.Chains

/-!
# Blocks follow the inclusions that a render stands in

The context of a render keeps the chain of templates that the render stands in. What is rendered
passes contexts on without touching it, the template of an inclusion alone enters it, and only in
the context which that template is rendered with. So rendering is rendering along the chain.
-/

namespace BraceTemplate.Render

open Output

section Contexts

variable (context : Context) (chain : Chain)

@[simp] theorem blockChain_along : (along context chain).blockChain = chain := rfl

theorem along_of_blockChain {context : Context} {chain : Chain}
    (here : context.blockChain = chain) : along context chain = context := by
  subst here
  rfl

@[simp] theorem blockChain_push (head : Value) :
    (context.push head).blockChain = context.blockChain := rfl

@[simp] theorem blockChain_pushSelect (key : Value) :
    (context.pushSelect key).blockChain = context.blockChain := rfl

@[simp] theorem blockChain_named (name : String) :
    (context.named name).blockChain = context.blockChain := rfl

@[simp] theorem blockChain_forBlock : context.forBlock.blockChain = context.blockChain := rfl

@[simp] theorem blockChain_forBodies (rebased : Option Identifier) :
    (context.forBodies rebased).blockChain = context.blockChain := by
  cases rebased <;> rfl

@[simp] theorem blockChain_forPartial (params : Value.Params) :
    (context.forPartial params).blockChain = context.blockChain := by
  unfold Context.forPartial
  split <;> rfl

@[simp] theorem blockChain_scopeContext (params : Value.Params) (scope : Scope) :
    (scopeContext context params scope).blockChain = context.blockChain := by
  cases scope <;> rfl

end Contexts

/-- Calls that do the same for all contexts with a chain. -/
structure Calls.SameAlong (chain : Chain) (calls others : Calls) : Prop where
  handlers : calls.handlers = others.handlers
  renderBody : ∀ program body writer (context : Context), context.blockChain = chain →
    calls.renderBody program body writer context = others.renderBody program body writer context
  call : ∀ called writer (context : Context) bodies params, context.blockChain = chain →
    calls.call called writer context bodies params = others.call called writer context bodies params

namespace Calls.SameAlong

variable {chain : Chain} {calls others : Calls} {writer : Writer} {context : Context}
variable {bodies : Bodies} {params : Value.Params} {program : Program}

theorem renderNamed (same : calls.SameAlong chain others) (here : context.blockChain = chain)
    (name : String) :
    calls.renderNamed bodies name writer context =
      others.renderNamed bodies name writer context := by
  unfold Calls.renderNamed
  cases bodies.find? name with
  | none => rfl
  | some id => exact same.renderBody _ _ _ _ here

theorem resolveValue (same : calls.SameAlong chain others) (here : context.blockChain = chain)
    (value : Value) :
    resolveValue calls value writer context = Render.resolveValue others value writer context := by
  cases value with
  | function called => simp only [Render.resolveValue, same.call _ _ _ _ _ here]
  | _ => rfl

theorem resolveParam? (same : calls.SameAlong chain others) (here : context.blockChain = chain)
    (key : String) :
    resolveParam? calls params key writer context =
      Render.resolveParam? others params key writer context := by
  unfold Render.resolveParam?
  cases params.find? key with
  | none => rfl
  | some value => simp only [same.resolveValue here]

theorem renderReference (same : calls.SameAlong chain others) (here : context.blockChain = chain)
    (identifier : Identifier) (filters : FilterChain) :
    renderReference calls writer context identifier filters =
      Render.renderReference others writer context identifier filters := by
  simp only [Render.renderReference, same.call _ _ _ _ _ here]

theorem renderElements (same : calls.SameAlong chain others) (here : context.blockChain = chain)
    (body : BodyId) (length index : Nat) (items : List Value) :
    renderElements calls program body context length index items writer =
      Render.renderElements others program body context length index items writer := by
  induction items generalizing index writer with
  | nil => rfl
  | cons item rest inductionHypothesis =>
      simp only [Render.renderElements, same.renderBody _ _ _ (context.pushIndexed _ _ _) here,
        inductionHypothesis]

theorem renderEach (same : calls.SameAlong chain others) (here : context.blockChain = chain)
    (value? : Option Value) :
    renderEach calls writer context value? bodies =
      Render.renderEach others writer context value? bodies := by
  simp only [Render.renderEach, same.renderNamed here, same.renderElements here,
    same.renderNamed ((blockChain_push context _).trans here)]

theorem renderSection (same : calls.SameAlong chain others) (here : context.blockChain = chain)
    (value? : Option Value) :
    renderSection calls writer context value? bodies params =
      Render.renderSection others writer context value? bodies params := by
  have inner : (if params.isEmpty then context
      else context.push (.object params)).blockChain = chain := by
    split <;> exact here
  simp only [Render.renderSection, same.call _ _ _ _ _ here, same.renderEach inner]

theorem bodyText (same : calls.SameAlong chain others) (here : context.blockChain = chain)
    (body : BodyId) :
    bodyText calls program body context = Render.bodyText others program body context := by
  simp only [Render.bodyText, same.renderBody _ _ _ _ here, same.handlers]

theorem blockName (same : calls.SameAlong chain others) (here : context.blockChain = chain)
    (name : Name) :
    blockName calls program context name = Render.blockName others program context name := by
  cases name with
  | literal text => rfl
  | body id => exact same.bodyText here id

theorem renderSelect (same : calls.SameAlong chain others) (here : context.blockChain = chain)
    (key : Value) :
    renderSelect calls key writer context bodies =
      Render.renderSelect others key writer context bodies := by
  simp only [Render.renderSelect, same.renderNamed ((blockChain_pushSelect context key).trans here)]

theorem runComparison (same : calls.SameAlong chain others) (here : context.blockChain = chain)
    (comparison : Comparison) :
    runComparison calls comparison writer context bodies params =
      Render.runComparison others comparison writer context bodies params := by
  simp only [Render.runComparison, comparisonKey?, same.resolveParam? here, same.renderNamed here]

theorem runBuiltin (same : calls.SameAlong chain others) (here : context.blockChain = chain)
    (helper : BuiltinHelper) :
    runBuiltin calls helper writer context bodies params =
      Render.runBuiltin others helper writer context bodies params := by
  cases helper with
  | separator => simp only [Render.runBuiltin, runSeparator, same.renderNamed here]
  | place => exact same.renderNamed ((blockChain_push context _).trans here) mainBody
  | select =>
      simp only [Render.runBuiltin, runSelect, same.resolveParam? here, same.renderSelect here]
  | compare comparison => exact same.runComparison here comparison
  | math =>
      simp only [Render.runBuiltin, runMath, same.resolveParam? here, same.renderSelect here]
  | size => simp only [Render.runBuiltin, runSize, same.resolveParam? here]
  | contextDump => simp only [Render.runBuiltin, runContextDump, same.resolveParam? here]

theorem runAction (same : calls.SameAlong chain others) (here : context.blockChain = chain)
    (action : HostAction) :
    runAction calls writer context bodies params action =
      Render.runAction others writer context bodies params action := by
  cases action with
  | writeParam key => simp only [Render.runAction, same.resolveValue here]
  | fail error => simp only [Render.runAction, same.handlers]
  | forkWriting text => simp only [Render.runAction, same.handlers]
  | render body scope =>
      exact same.renderNamed ((blockChain_scopeContext context params scope).trans here) body
  | renderOr body ifNone ifMissing => simp only [Render.runAction, same.renderBody _ _ _ _ here]
  | renderTapped body change keep => simp only [Render.runAction, same.renderBody _ _ _ _ here]
  | capture body => simp only [Render.runAction, same.renderBody _ _ _ _ here, same.handlers]
  | _ => rfl

theorem runActions (same : calls.SameAlong chain others) (here : context.blockChain = chain)
    (actions : List HostAction) :
    runActions calls context bodies params actions writer =
      Render.runActions others context bodies params actions writer := by
  induction actions generalizing writer with
  | nil => rfl
  | cons action rest inductionHypothesis =>
      simp only [Render.runActions, same.runAction here, inductionHypothesis]

theorem callFunction (same : calls.SameAlong chain others) (here : context.blockChain = chain)
    (called : Function Value) :
    callFunction calls called writer context bodies params =
      Render.callFunction others called writer context bodies params := by
  cases called with
  | inline program body place => simp only [Render.callFunction, same.renderBody _ _ _ _ here]
  | host identity function => simp only [Render.callFunction, same.runActions here]

theorem renderHelper (same : calls.SameAlong chain others) (here : context.blockChain = chain)
    (name : String) :
    renderHelper calls writer name bodies params context =
      Render.renderHelper others writer name bodies params context := by
  refine bind_congr fun engine => ?_
  cases engine.helpers.find? name with
  | none => rfl
  | some helper =>
      cases helper with
      | builtin helper => simp only [runHelper, same.runBuiltin here]
      | host helper => simp only [runHelper, runHostHelper, same.runActions here]

end Calls.SameAlong

/-- Calls that enter templates alike for all contexts with a chain. -/
structure Calls.EnterAlike (chain : Chain) (entering calls : Calls) : Prop where
  handlers : entering.handlers = calls.handlers
  root : ∀ program writer (context : Context), context.blockChain = chain →
    entering.renderBody program program.root writer (context.withBlocks program) =
      calls.renderBody program program.root writer (context.withBlocks program)

namespace Calls.EnterAlike

variable {chain : Chain} {entering calls : Calls} {writer : Writer} {context : Context}

theorem renderTemplate (alike : entering.EnterAlike chain calls)
    (here : context.blockChain = chain) (program : Program) :
    renderTemplate entering program writer context =
      Render.renderTemplate calls program writer context := by
  simp only [Render.renderTemplate, alike.root _ _ _ here, alike.handlers]

theorem answer (alike : entering.EnterAlike chain calls) (request : Request)
    (here : request.context.blockChain = chain) (source : Except RenderError String) :
    answer entering request source = Render.answer calls request source := by
  cases source with
  | error error => simp only [Render.answer, alike.handlers]
  | ok text => simp only [Render.answer, alike.renderTemplate here, alike.handlers]

theorem load (alike : entering.EnterAlike chain calls) (here : context.blockChain = chain)
    (loader : Loader) (name : String) :
    load entering loader name writer context = Render.load calls loader name writer context := by
  cases loader with
  | none => simp only [Render.load, alike.handlers]
  | immediate source =>
      refine bind_congr fun ⟨branch, next⟩ => ?_
      simp only [alike.answer ⟨name, branch, context⟩ here]
  | registering source reply =>
      refine bind_congr fun ⟨branch, next⟩ => ?_
      simp only [alike.answer ⟨name, branch, context⟩ here]
  | deferred => rfl

theorem renderNamedTemplate (alike : entering.EnterAlike chain calls)
    (here : context.blockChain = chain) (name : String) :
    renderNamedTemplate entering name writer context =
      Render.renderNamedTemplate calls name writer context := by
  simp only [Render.renderNamedTemplate, alike.renderTemplate here, alike.load here]

theorem resume (alike : entering.EnterAlike chain calls) {continuation : Continuation}
    (here : continuation.chain = chain) (result : Except RenderError String) :
    resume entering continuation result = Render.resume calls continuation result := by
  cases continuation with
  | report label => rfl
  | capture branch next =>
      have continues :
          continueCapture entering branch next = continueCapture calls branch next := by
        funext text
        cases next with
        | «include» context =>
            simp only [continueCapture, alike.renderNamedTemplate
              ((blockChain_named context text).trans here)]
        | shout => rfl
      simp only [Render.resume, continues, alike.handlers]

end Calls.EnterAlike

section Steps

variable {chain : Chain} {calls entering others : Calls} {writer : Writer} {context : Context}
variable {program : Program}

/-- The definition that a block tag renders along a chain is the one its context has. -/
theorem renderBlockAlong_eq (same : calls.SameAlong chain others)
    (here : context.blockChain = chain) (name : String) (bodies : Bodies) :
    renderBlockAlong calls chain writer context name bodies =
      renderBlock others writer context name bodies := by
  refine bind_congr fun engine => ?_
  rw [Chain.block?_eq_definition?, here]
  cases Chain.definition? chain name with
  | none => exact same.renderNamed here mainBody
  | some definition =>
      simp only [same.handlers, same.renderBody _ _ _ _ ((blockChain_forBlock context).trans here)]

/-- An inclusion enters its template from the chain that its context has. -/
theorem renderInclusionAlong_eq (same : calls.SameAlong chain others)
    (alike : entering.EnterAlike chain others) (here : context.blockChain = chain) (name : Name) :
    renderInclusionAlong calls entering program writer context name =
      renderInclusion others program writer context name := by
  refine bind_congr fun engine => ?_
  cases name with
  | literal text =>
      simp only [same.handlers,
        alike.renderNamedTemplate ((blockChain_named context text).trans here)]
  | body id => simp only [same.handlers, same.renderBody _ _ _ _ here]

theorem runOpAlong_eq (same : calls.SameAlong chain others)
    (alike : entering.EnterAlike chain others) (here : context.blockChain = chain) (op : Op) :
    runOpAlong calls entering chain program context writer op =
      runOp others program context writer op := by
  cases op with
  | write text => rfl
  | reference identifier filters =>
      simp only [runOpAlong, runOp, same.renderReference here]
  | condition kind identifier rebased exprs entries =>
      have inner := (blockChain_forBodies context rebased).trans here
      simp only [runOpAlong, runOp, same.renderSection inner, renderPresence,
        same.renderNamed inner]
  | block name rebased exprs entries =>
      have inner := (blockChain_forBodies context rebased).trans here
      simp only [runOpAlong, runOp, same.blockName here, renderBlockAlong_eq same inner]
  | helper name rebased exprs entries =>
      have inner := (blockChain_forBodies context rebased).trans here
      exact same.renderHelper inner name
  | inclusion name rebased exprs =>
      have inner := (blockChain_forPartial (context.forBodies rebased)
        (params program context exprs)).trans ((blockChain_forBodies context rebased).trans here)
      simp only [runOpAlong, runOp, renderInclusionAlong_eq same alike inner]

theorem runOpsAlong_eq (same : calls.SameAlong chain others)
    (alike : entering.EnterAlike chain others) (here : context.blockChain = chain)
    (ops : List Op) :
    runOpsAlong calls entering chain program context ops writer =
      runOps others program context ops writer := by
  induction ops generalizing writer with
  | nil => rfl
  | cons op rest inductionHypothesis =>
      rw [runOpsAlong, runOps, runOpAlong_eq same alike here]
      refine bind_congr fun result => ?_
      cases result with
      | error error => rfl
      | ok next => exact inductionHypothesis

end Steps

/-- Along a chain, the same is rendered within a bound as with the chain in the context. -/
structure FollowsChains (depth : Nat) : Prop where
  renderBody : ∀ chain program body writer context,
    renderBodyAlong depth chain program body writer context =
      renderBodyWithin depth program body writer (along context chain)
  call : ∀ chain called writer context bodies params,
    callAlong depth chain called writer context bodies params =
      callWithin depth called writer (along context chain) bodies params
  resume : resumeAlong depth = resumeWithin depth

namespace FollowsChains

variable {depth : Nat}

theorem sameAlong (follows : FollowsChains depth) (chain : Chain) :
    (callsAlong depth chain).SameAlong chain (callsWithin depth) where
  handlers := by simp only [callsAlong, callsWithin, follows.resume]
  renderBody program body writer context here := by
    simp only [callsAlong, callsWithin, follows.renderBody, along_of_blockChain here]
  call called writer context bodies params here := by
    simp only [callsAlong, callsWithin, follows.call, along_of_blockChain here]

/-- A template that is rendered by name enters the chain. -/
theorem enterAlike (follows : FollowsChains depth) (chain : Chain) :
    (callsEntering depth chain).EnterAlike chain (callsWithin depth) where
  handlers := (follows.sameAlong chain).handlers
  root program writer context here := by
    have entered : (context.withBlocks program).blockChain = chain.enter program :=
      congrArg (Chain.enter · program) here
    exact (follows.sameAlong (chain.enter program)).renderBody _ _ _ _ entered

end FollowsChains

theorem followsChains (depth : Nat) : FollowsChains depth := by
  induction depth with
  | zero => exact ⟨fun _ _ _ _ _ => rfl, fun _ _ _ _ _ _ => rfl, rfl⟩
  | succ depth follows =>
      refine ⟨fun chain program body writer context => ?_,
        fun chain called writer context bodies params => ?_, ?_⟩
      · exact runOpsAlong_eq (follows.sameAlong chain) (follows.enterAlike chain)
          (blockChain_along context chain) _
      · exact (follows.sameAlong chain).callFunction (blockChain_along context chain) called
      · funext continuation result
        exact (follows.enterAlike continuation.chain).resume rfl result

end BraceTemplate.Render
