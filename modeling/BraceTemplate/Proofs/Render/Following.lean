import BraceTemplate.Proofs.Render.Mirroring
import BraceTemplate.Proofs.Render.Stepping

/-!
# Rendering with contexts that are alike

What is rendered under a guard with one context is rendered without the guard with any context that
is alike: the same is written to the same places, and what waits in the end waits with contexts that
are alike.
-/

namespace BraceTemplate.Render

open Output

namespace Likeness

variable {likeness : Likeness} {one other : Context}

theorem push (like : likeness.like one other) {first second : Value}
    (heads : Value.HeadAlike likeness.loose first second) :
    likeness.like (one.push first) (other.push second) :=
  likeness.pushFrame like ⟨heads, rfl, fun _ => rfl⟩

theorem pushIndexed (like : likeness.like one other) {first second : Value}
    (heads : Value.HeadAlike likeness.loose first second) (index length : Nat) :
    likeness.like (one.pushIndexed first index length) (other.pushIndexed second index length) :=
  likeness.pushFrame like ⟨heads, rfl, fun _ => rfl⟩

theorem pushSelect (like : likeness.like one other) (key : Value) :
    likeness.like (one.pushSelect key) (other.pushSelect key) :=
  likeness.pushFrame like ⟨.refl _, rfl, fun _ => rfl⟩

/-- The own context of a tag is alike where what it refers to is. -/
theorem forBodies (like : likeness.like one other) {rebased : Option Identifier}
    (found : ∀ identifier ∈ rebased, Value.FoundAlike likeness.loose (one.resolve? identifier)
      (other.resolve? identifier)) :
    likeness.like (one.forBodies rebased) (other.forBodies rebased) := by
  cases rebased with
  | none => exact like
  | some identifier =>
      refine likeness.rebase like ?_
      rcases (found identifier rfl).split with
        ⟨none, noneAlso⟩ | ⟨value, another, some, someAlso, values⟩
      · rw [none, noneAlso]
        exact .refl _
      · rw [some, someAlso]
        exact .value values

theorem paramValue?_alike (like : likeness.like one other) (program : Program) (key : String)
    {expr : ParamExpr}
    (found : ∀ identifier, expr = .identifier identifier →
      Value.FoundAlike likeness.loose (one.resolve? identifier) (other.resolve? identifier)) :
    Value.FoundAlike likeness.loose (paramValue? program one key expr)
      (paramValue? program other key expr) := by
  cases expr with
  | literal value => exact .some (.same _)
  | identifier identifier => exact found identifier rfl
  | body id =>
      by_cases isLoose : likeness.loose
      · exact .some (.passedOn isLoose program id _ _)
      · rw [paramValue?, paramValue?, likeness.level like isLoose]
        exact .some (.same _)

/-- The parameters of a tag are alike where what they refer to is. -/
theorem params_alike (like : likeness.like one other) (program : Program) {exprs : ParamExprs}
    (found : ∀ identifier ∈ exprs.identifiers,
      Value.FoundAlike likeness.loose (one.resolve? identifier) (other.resolve? identifier)) :
    (params program one exprs).Alike likeness.loose (params program other exprs) := by
  refine Value.Params.Alike.ofList ?_
  induction exprs with
  | nil => exact .nil
  | cons entry rest inductionHypothesis =>
      obtain ⟨key, expr⟩ := entry
      have ofRest := inductionHypothesis fun identifier member => found identifier <| by
        obtain ⟨named, inside, isName⟩ := List.mem_filterMap.mp member
        exact List.mem_filterMap.mpr ⟨named, List.mem_cons_of_mem _ inside, isName⟩
      have ofFirst : Value.FoundAlike likeness.loose (paramValue? program one key expr)
          (paramValue? program other key expr) :=
        paramValue?_alike like program key fun identifier same => found identifier <|
          List.mem_filterMap.mpr ⟨(key, expr), List.mem_cons_self, by rw [same]⟩
      rw [List.filterMap_cons, List.filterMap_cons]
      rcases ofFirst.split with ⟨none, noneAlso⟩ | ⟨value, another, some, someAlso, values⟩
      · rw [none, noneAlso]
        exact ofRest
      · rw [some, someAlso]
        exact .cons ⟨rfl, values⟩ ofRest

theorem scopeContext_like (like : likeness.like one other) {given also : Value.Params}
    (alike : given.Alike likeness.loose also) (scope : Scope) :
    likeness.like (scopeContext one given scope) (scopeContext other also scope) := by
  cases scope with
  | same => exact like
  | pushText text => exact push like (.refl _)
  | pushParams => exact push like (.params alike)
  | rebaseParams => exact likeness.rebase like (.params alike)
  | pushIndexed text index length => exact pushIndexed like (.refl _) index length

theorem placeText_eq (like : likeness.like one other) : placeText other = placeText one := by
  have outline := likeness.outline like
  unfold placeText Context.index? Context.length?
  rw [outline.templateName, outline.partialDepth, outline.blockDepth, outline.iteration?]

theorem block?_eq (like : likeness.like one other) (name : String) :
    other.block? name = one.block? name := by
  unfold Context.block?
  rw [(likeness.outline like).blockChain]

/-- The contexts of bodies that see the parameters of their tag are alike where the tag's are. -/
theorem withParams_like (like : likeness.like one other) {given also : Value.Params}
    (alike : given.Alike likeness.loose also) :
    likeness.like (withParams one given) (withParams other also) := by
  unfold withParams
  rw [alike.isEmpty]
  by_cases empty : given.isEmpty = true
  · rw [if_pos empty, if_pos empty]
    exact like
  · rw [if_neg empty, if_neg empty]
    exact push like (.params alike)

theorem isPresent_eq {value? another? : Option Value}
    (found : Value.FoundAlike likeness.loose value? another?) :
    isPresent another? = isPresent value? := by
  cases found with
  | none => rfl
  | some values => exact congrArg (!·) values.isEmpty

/-! ## The accord of a likeness -/

variable {Result : Type} {good : Result → Prop} {first second : Action Result}

def FollowsTo (likeness : Likeness) (good : Result → Prop) (first second : Action Result) : Prop :=
  ∀ one other result later, likeness.Mirrors one other → first one = some (result, later) →
    good result ∧ ∃ after, second other = some (result, after) ∧ likeness.Mirrors later after

theorem Follows.yielding (follows : likeness.Follows first second)
    (yields : ∀ result, Yields first result → good result) :
    likeness.FollowsTo good first second :=
  fun one other result later mirrors ran =>
    ⟨yields result ⟨one, later, ran⟩, follows one other result later mirrors ran⟩

theorem FollowsTo.follows (followsTo : likeness.FollowsTo good first second) :
    likeness.Follows first second :=
  fun one other result later mirrors ran => (followsTo one other result later mirrors ran).2

theorem Follows.anyhow (follows : likeness.Follows first second) :
    likeness.FollowsTo (fun _ => True) first second :=
  follows.yielding fun _ _ => trivial

theorem Engines.exists_requests {engine another : Engine}
    (engines : likeness.Engines engine another) :
    engine.helpers = likeness.helpers ∧
      ∃ requests, another = { engine with requests := requests } := by
  obtain ⟨engine, helpers, alike⟩ := engines
  exact ⟨helpers, _, rfl⟩

def sense (likeness : Likeness) : Sense where
  Runs := likeness.FollowsTo
  fine _ := True
  permits _ := True
  fails := True
  returns _ := True
  knows engine := engine.helpers = likeness.helpers
  pure holds := (Follows.pure _).yielding <| by
    rintro _ ⟨_, _, ⟨⟩⟩
    exact holds
  bind ofFirst ofNext := by
    intro one other result later mirrors ran
    obtain ⟨found, middle, ranFirst, ranNext⟩ := bind_eq_some.mp ran
    obtain ⟨good, halfway, ranSecond, mirrorsThen⟩ :=
      ofFirst one other found middle mirrors ranFirst
    obtain ⟨goodNext, after, ranAlso, mirrorsLast⟩ :=
      ofNext found good ⟨one, middle, ranFirst⟩ middle halfway result later mirrorsThen ranNext
    exact ⟨goodNext, after, bind_eq_some.mpr ⟨found, halfway, ranSecond, ranAlso⟩, mirrorsLast⟩
  ofEngine each := by
    intro one other result later mirrors ran
    obtain ⟨helpers, requests, same⟩ := mirrors.engine.exists_requests
    have ends := each one.client.engine requests helpers one other result later mirrors ran
    rw [← same] at ends
    exact ends
  write text _ := (Follows.write _ text).anyhow
  ofText _ := trivial
  ofNothing := trivial
  failed _ _ := trivial
  recursiveBlock _ _ := trivial

theorem isFree (likeness : Likeness) : likeness.sense.IsFree :=
  ⟨fun _ => trivial, trivial, fun _ => trivial⟩

def ground (likeness : Likeness) : Ground where
  loose := likeness.loose
  body one other _ _ := likeness.like one other
  fresh one other _ _ := likeness.like one other
  call called another one other _ given also :=
    Value.Alike likeness.loose (.function called) (.function another) ∧ likeness.like one other ∧
      given.Alike likeness.loose also
  resolves value another one other :=
    Value.Alike likeness.loose value another ∧ likeness.like one other
  names one other _ _ := likeness.like one other
  compares one other _ given also := likeness.like one other ∧ given.Alike likeness.loose also ∧
    ∃ comparison, Helper.ReadsAlike likeness.loose given one other (.builtin (.compare comparison))
  includes one other _ _ := likeness.like one other
  hosts := True

abbrev accord (likeness : Likeness) : Accord where
  toSense := likeness.sense
  toGround := likeness.ground

section Grounds

variable {bodies : Bodies} {given also : Value.Params} {value? another? : Option Value}
variable {program : Program}

theorem bodyNamed (like : likeness.like one other) (bodies : Bodies) (name : String) :
    likeness.accord.Named one other bodies name :=
  fun _ _ => like

theorem selects (like : likeness.like one other) (bodies : Bodies) :
    likeness.accord.Selects one other bodies :=
  fun key _ _ => pushSelect like key

theorem resolves (like : likeness.like one other) (alike : given.Alike likeness.loose also) :
    likeness.accord.Resolves one other given also :=
  ⟨alike, fun _ _ _ _ _ values => ⟨values, like⟩⟩

theorem each (like : likeness.like one other) (bodies : Bodies)
    (found : Value.FoundAlike likeness.loose value? another?) :
    likeness.accord.Each one other bodies value? another? where
  alike := found
  main _ := bodyNamed like _ _
  pushed _ _ _ _ values := bodyNamed (push like (.value values)) _ _
  element items _ item _ index := bodyNamed (pushIndexed like (.refl item) index items.length) _ _
  otherwise _ := bodyNamed like _ _

theorem sections (like : likeness.like one other) (alike : given.Alike likeness.loose also)
    (bodies : Bodies) (found : Value.FoundAlike likeness.loose value? another?) :
    likeness.accord.Section one other bodies given also value? another? where
  alike := found
  called _ _ _ := ⟨.same _, like, alike⟩
  returned _ _ _ _ _ := each (withParams_like like alike) bodies (Value.foundAlike_refl _)
  plain _ := each (withParams_like like alike) bodies found

theorem block (like : likeness.like one other) (name : String) (bodies : Bodies) :
    likeness.accord.Block one other name bodies where
  same := block?_eq like name
  depth := (likeness.outline like).blockDepth
  own _ := bodyNamed like _ _
  override _ _ _ _ _ := likeness.forBlock like

theorem builtin (like : likeness.like one other) (alike : given.Alike likeness.loose also)
    (bodies : Bodies) {helper : BuiltinHelper}
    (reads : Helper.ReadsAlike likeness.loose given one other (.builtin helper)) :
    likeness.accord.Builtin one other bodies given also helper := by
  have sameIteration := (likeness.outline like).iteration?
  cases helper with
  | separator =>
      refine ⟨?_, bodyNamed like _ _⟩
      rw [isLast, isLast, sameIteration]
  | place =>
      refine ⟨?_, bodyNamed (push like (.refl _)) _ _⟩
      rw [Context.index?, Context.index?, sameIteration]
  | select => exact ⟨resolves like alike, selects like _⟩
  | compare comparison => exact ⟨like, alike, comparison, reads⟩
  | math => exact ⟨resolves like alike, selects like _⟩
  | size => exact resolves like alike
  | contextDump => exact ⟨resolves like alike, reads⟩

theorem hosting (like : likeness.like one other) (alike : given.Alike likeness.loose also)
    (bodies : Bodies) {actions : List HostAction}
    (sameStack : HostAction.writeStack ∈ actions → other.stackJson = one.stackJson) :
    likeness.accord.Hosting one other bodies given also actions where
  hosts := trivial
  alike := alike
  place := placeText_eq like
  stack := sameStack
  resolves key := by
    refine ⟨?_, like⟩
    rcases (alike.find? key).split with ⟨none, noneAlso⟩ | ⟨value, another, some, someAlso, values⟩
    · rw [none, noneAlso]
      exact .same _
    · rw [some, someAlso]
      exact values
  scopes scope _ := bodyNamed (scopeContext_like like alike scope) _ _
  permitted _ _ := trivial

theorem helping (like : likeness.like one other) (alike : given.Alike likeness.loose also)
    (bodies : Bodies) {helper : Helper} (reads : helper.ReadsAlike likeness.loose given one other) :
    likeness.accord.Helping one other bodies given also helper := by
  cases helper with
  | builtin helper => exact builtin like alike bodies reads
  | host helper => exact hosting like alike bodies reads

/-- A function of the host may be called where the guard permits it. -/
theorem calling (like : likeness.like one other) (alike : given.Alike likeness.loose also)
    (bodies : Bodies) {called another : Function Value}
    (functions : Value.Alike likeness.loose (.function called) (.function another))
    (permitted : likeness.guard.function one called = true) :
    likeness.accord.Calling one other bodies given also called another := by
  cases functions with
  | passedOn isLoose program body stamp other => exact .inline like
  | same value =>
      cases called with
      | inline program body stamp => exact .inline like
      | host identity function =>
          obtain ⟨sameStack, sameLookup⟩ := likeness.host permitted like
          refine .host (hosting like alike bodies sameStack) sameLookup fun next _ => ?_
          cases function.result <;> trivial

/-- A section is followed whatever it stands on. -/
theorem condition (kind : Condition) {identifier : Identifier} {rebased : Option Identifier}
    {exprs : ParamExprs} (entries : NamedBodies)
    (found : Value.FoundAlike likeness.loose (one.resolve? identifier)
      (other.resolve? identifier))
    (inner : likeness.like (one.forBodies rebased) (other.forBodies rebased))
    (given : (params program one exprs).Alike likeness.loose (params program other exprs)) :
    likeness.accord.Steps program one other (.condition kind identifier rebased exprs entries) := by
  cases kind with
  | each => exact sections inner given _ found
  | present => exact ⟨isPresent_eq found, bodyNamed inner _ _⟩
  | absent => exact ⟨isPresent_eq found, bodyNamed inner _ _⟩

/-- A step is followed where the guard permits it. -/
theorem steps (like : likeness.like one other) {op : Op}
    (permitted : likeness.guard.op program one op = true) :
    likeness.accord.Steps program one other op := by
  have found := likeness.identifiers permitted like
  cases op with
  | write text => trivial
  | reference identifier chain =>
      have alike := found identifier List.mem_cons_self
      refine ⟨alike, fun called another here there => ⟨?_, like, .nil⟩⟩
      rw [here, there] at alike
      cases alike with
      | some values => exact values
  | condition kind identifier rebased exprs entries =>
      have ofIdentifier := found identifier List.mem_cons_self
      have inner := forBodies like fun other member => found other <|
        List.mem_cons_of_mem _ (List.mem_append_left _ (Option.mem_toList.mpr member))
      have given := params_alike like program fun other member => found other <|
        List.mem_cons_of_mem _ (List.mem_append_right _ member)
      exact condition kind entries ofIdentifier inner given
  | block name rebased exprs entries =>
      have inner := forBodies like fun other member => found other (Option.mem_toList.mpr member)
      refine ⟨?_, fun text _ => block inner text _⟩
      cases name with
      | literal text => trivial
      | body id => exact like
  | helper name rebased exprs entries =>
      have inner := forBodies like fun other member => found other <|
        List.mem_append_left _ (Option.mem_toList.mpr member)
      have given := params_alike like program fun other member => found other <|
        List.mem_append_right _ member
      intro engine helper known isHelper
      rw [known] at isHelper
      exact helping inner given _ (likeness.helper permitted isHelper like)
  | inclusion name rebased exprs =>
      have given := params_alike like program fun other member => found other <|
        List.mem_append_right _ member
      exact likeness.forPartial permitted like given

end Grounds

end Likeness

/-! ## Calls -/

/-- Rendering that is followed with contexts, functions and parameters that are alike. -/
structure Calls.Follow (likeness : Likeness) (calls others : Calls) : Prop where
  reacts : likeness.Reacts calls.handlers others.handlers
  renderBody : ∀ program body writer one other, likeness.like one other →
    likeness.Follows (calls.renderBody program body writer one)
      (others.renderBody program body writer other)
  call : ∀ called another writer one other bodies given also,
    Value.Alike likeness.loose (.function called) (.function another) → likeness.like one other →
      given.Alike likeness.loose also →
        likeness.Follows (calls.call called writer one bodies given)
          (others.call another writer other bodies also)

namespace Calls.Follow

open Likeness

variable {likeness : Likeness} {calls others : Calls} {writer : Writer} {one other : Context}
variable {bodies : Bodies} {given also : Value.Params} {value? another? : Option Value}
variable {program : Program}

theorem enters (follow : Calls.Follow likeness calls others) :
    likeness.accord.Enters calls others where
  body like _ := likeness.isFree.ended (follow.renderBody _ _ _ _ _ like).anyhow
  fresh like _ :=
    likeness.isFree.ended (follow.renderBody _ _ _ _ _ like).withFreshSelect.anyhow
  unopened _ := likeness.isFree.ended (Follows.pure _).withFreshSelect.anyhow
  call := fun ⟨functions, like, alike⟩ _ =>
    likeness.isFree.returned (follow.call _ _ _ _ _ _ _ _ functions like alike).anyhow
  resolves := fun ⟨values, like⟩ _ => by
    refine likeness.sense.resolveValue likeness.loose values (fun _ => trivial) ?_
      Follows.openPot.anyhow
      fun pot => (Follows.potText pot).anyhow
    rintro called function pot rfl rfl
    exact likeness.isFree.returned (follow.call _ _ _ _ _ _ _ _ values like .nil).anyhow
  fail _ _ := (Follows.fail follow.reacts _ _).anyhow

theorem serves (follow : Calls.Follow likeness calls others) :
    likeness.accord.Serves calls others where
  everywhere _ := trivial
  opened := by
    have sinks : likeness.Sinks (.collect "" none none) (.collect "" none none) :=
      .collect "" none .none
    exact (Follows.openOutlet sinks).yielding fun id _ => (Follows.result? id).anyhow
  fork writer := (Follows.fork writer).anyhow
  hold slot branch := by
    refine Follows.anyhow (.modifyEngine fun engine another engines => ?_)
    obtain ⟨engine, helpers, requests⟩ := engines
    exact .intro { engine with held := engine.held ++ [(slot, branch)] } helpers requests
  finish writer := (Follows.finish follow.reacts writer).anyhow
  shout writer like := (Follows.capture follow.reacts writer
    (fun inner => follow.renderBody _ _ inner _ _ like) fun branch => .shout branch).anyhow

theorem register_engines {engine another : Engine} (engines : likeness.Engines engine another)
    (name : String) (program : Program) :
    likeness.Engines (engine.register name program) (another.register name program) := by
  obtain ⟨engine, helpers, requests⟩ := engines
  exact .intro (engine.register name program) helpers requests

theorem findOrCompile (name source : String) :
    likeness.Follows (findOrCompile name source) (Render.findOrCompile name source) := by
  refine .ofEngine fun engine another engines => ?_
  have sameRegistry : another.registry = engine.registry := by
    obtain ⟨engine, helpers, requests⟩ := engines
    rfl
  have sameConfig : another.config = engine.config := by
    obtain ⟨engine, helpers, requests⟩ := engines
    rfl
  simp only [sameRegistry, Engine.compile, sameConfig]
  split
  · exact .pure _
  · split
    · exact .pure _
    · exact (Follows.modifyEngine fun _ _ engines => register_engines engines name _).bind
        fun _ => .pure _

theorem registerSource (name source : String) :
    likeness.Follows (registerSource name source) (Render.registerSource name source) := by
  refine .ofEngine fun engine another engines => ?_
  have sameConfig : another.config = engine.config := by
    obtain ⟨engine, helpers, requests⟩ := engines
    rfl
  simp only [Engine.addTemplate, Engine.compile, sameConfig]
  cases Program.ofSource engine.config (some name) source with
  | error error => exact .pure ()
  | ok program => exact .modifyEngine fun _ _ _ => register_engines engines name program

theorem loads (follow : Calls.Follow likeness calls others) :
    likeness.accord.Loads calls others likeness.like where
  serves := follow.serves
  permitted _ := trivial
  findOrCompile name source := (findOrCompile name source).anyhow
  registerSource name source := (registerSource name source).anyhow
  asks name branch like := by
    refine Follows.anyhow (.modifyEngine fun engine another engines => ?_)
    obtain ⟨engine, helpers, requests⟩ := engines
    exact .intro engine helpers (List.rel_append requests (.cons (.intro name branch like) .nil))
  fresh program like := likeness.withBlocks program like
  named name like := likeness.named name like
  capture writer like _ := (Follows.capture follow.reacts writer
    (fun inner => follow.renderBody _ _ inner _ _ like) fun branch =>
      .inclusion branch like).anyhow

theorem conducts (follow : Calls.Follow likeness calls others) :
    likeness.accord.Conducts calls others where
  toEnters := follow.enters
  names like := follow.enters.bodyText follow.serves like
  compares := fun ⟨like, alike, _, strict, sameSelect, coerces⟩ fine => by
    refine follow.enters.runComparison
      ⟨resolves like alike, .inr sameSelect, congrArg Option.isSome sameSelect, coerces,
        fun _ => bodyNamed like _ _, bodyNamed like _ _⟩ ?_ (fun _ => ?_) fine _
    · intro store other settled later mirrors ran
      cases ran
      exact ⟨trivial, other, congrArg (fun settled => some (settled, other))
        (mirrors.settled strict), mirrors⟩
    · exact likeness.isFree.ended <| Follows.anyhow <| (Follows.setSettled fun _ => rfl).bind
        fun _ => (follow.enters.renderNamed (bodyNamed like _ mainBody) trivial).follows
  includes like _ := follow.enters.renderInclusion follow.loads like
    (likeness.outline like).partialDepth (likeness.outline like).templateName _ (fun _ _ => like) _
  serves _ := follow.serves

theorem renderEach (follow : Calls.Follow likeness calls others) (like : likeness.like one other)
    (found : Value.FoundAlike likeness.loose value? another?) :
    likeness.Follows (renderEach calls writer one value? bodies)
      (Render.renderEach others writer other another? bodies) :=
  (follow.enters.renderEach (each like bodies found) trivial).follows

theorem renderPresence (follow : Calls.Follow likeness calls others)
    (like : likeness.like one other) (isPresent : Bool) :
    likeness.Follows (renderPresence calls writer one isPresent bodies)
      (Render.renderPresence others writer other isPresent bodies) :=
  (follow.enters.renderNamed (bodyNamed like bodies _) trivial).follows

theorem renderSelect (follow : Calls.Follow likeness calls others) (like : likeness.like one other)
    (key : Value) :
    likeness.Follows (renderSelect calls key writer one bodies)
      (Render.renderSelect others key writer other bodies) :=
  (follow.enters.renderSelect (selects like bodies) key trivial).follows

/-- A section is followed whatever it stands on. -/
theorem runCondition (follow : Calls.Follow likeness calls others) (kind : Condition)
    {identifier : Identifier} {rebased : Option Identifier} {exprs : ParamExprs}
    (entries : NamedBodies)
    (found : Value.FoundAlike likeness.loose (one.resolve? identifier)
      (other.resolve? identifier))
    (inner : likeness.like (one.forBodies rebased) (other.forBodies rebased))
    (given : (params program one exprs).Alike likeness.loose (params program other exprs)) :
    likeness.Follows
      (runOp calls program one writer (.condition kind identifier rebased exprs entries))
      (runOp others program other writer (.condition kind identifier rebased exprs entries)) :=
  (follow.conducts.runOp (condition kind entries found inner given) trivial).follows

theorem runOps (follow : Calls.Follow likeness calls others) (like : likeness.like one other)
    {ops : List Op} (permitted : ops.all (likeness.guard.op program one) = true) :
    likeness.Follows (runOps calls program one ops writer)
      (Render.runOps others program other ops writer) :=
  (follow.conducts.runOps (fun op member => steps like (List.all_eq_true.mp permitted op member))
    trivial).follows

theorem callFunction (follow : Calls.Follow likeness calls others)
    (like : likeness.like one other) (alike : given.Alike likeness.loose also)
    {called another : Function Value}
    (functions : Value.Alike likeness.loose (.function called) (.function another))
    (permitted : likeness.guard.function one called = true) :
    likeness.Follows (callFunction calls called writer one bodies given)
      (Render.callFunction others another writer other bodies also) :=
  (follow.conducts.callFunction (calling like alike bodies functions permitted) trivial).follows

theorem renderNamedTemplate (follow : Calls.Follow likeness calls others)
    (like : likeness.like one other) (name : String) :
    likeness.Follows (renderNamedTemplate calls name writer one)
      (Render.renderNamedTemplate others name writer other) :=
  (follow.enters.renderNamedTemplate follow.loads like name writer).follows

theorem resume (follow : Calls.Follow likeness calls others) {continuation another : Continuation}
    (continues : likeness.Continues continuation another) (result : Except RenderError String) :
    likeness.Follows (resume calls continuation result)
      (Render.resume others another result) := by
  cases continues with
  | report label =>
      cases result with
      | ok text => exact .emit _
      | error error => exact .emit _
  | shout branch =>
      refine Follows.settle follow.reacts branch result fun text => ?_
      exact (Follows.write branch _).bind fun next => .pure _
  | inclusion branch like =>
      refine Follows.settle follow.reacts branch result fun text => ?_
      exact (follow.renderNamedTemplate (likeness.named text like) text).bind fun next => .pure _

end Calls.Follow

theorem rounds_callsWithin (depth : Nat) : (callsWithin depth).handlers.rounds = depth :=
  rfl

theorem rounds_callsGuarded (guard : Guard) (depth : Nat) :
    (callsGuarded guard depth).handlers.rounds = depth :=
  rfl

/-- Rendering under the guard of a likeness is followed without the guard, within any bound that is
no smaller. -/
theorem callsGuarded_follow (likeness : Likeness) {depth more : Nat} (enough : depth ≤ more) :
    Calls.Follow likeness (callsGuarded likeness.guard depth) (callsWithin more) := by
  have rounds : (callsGuarded likeness.guard depth).handlers.rounds ≤
      (callsWithin more).handlers.rounds := by
    rwa [rounds_callsWithin, rounds_callsGuarded]
  -- By induction on the bound of the guarded calls: whatever they enter, they enter with one less.
  induction depth generalizing more with
  | zero =>
      exact ⟨⟨rounds, rfl, rfl, fun _ _ _ _ => .outOfSteps _⟩,
        fun _ _ _ _ _ _ => .outOfSteps _, fun _ _ _ _ _ _ _ _ _ _ _ => .outOfSteps _⟩
  | succ depth inductionHypothesis =>
      obtain ⟨more, rfl⟩ := Nat.exists_eq_add_one.mpr (Nat.zero_lt_of_lt enough)
      have fewer : depth ≤ more := Nat.le_of_succ_le_succ enough
      have follow := inductionHypothesis fewer (by rwa [rounds_callsWithin, rounds_callsGuarded])
      refine ⟨⟨rounds, rfl, rfl, ?_⟩, ?_, ?_⟩
      · intro continuation another result continues
        exact follow.resume continues result
      · intro program body writer one other like
        change likeness.Follows
          (if likeness.guard.body program body one then
            runOps (callsGuarded likeness.guard depth) program one (program.body body) writer
            else outOfSteps)
          (runOps (callsWithin more) program other (program.body body) writer)
        split
        · rename_i permitted
          exact follow.runOps like permitted
        · exact .outOfSteps _
      · intro called another writer one other bodies given also functions like alike
        change likeness.Follows
          (if likeness.guard.function one called then
            callFunction (callsGuarded likeness.guard depth) called writer one bodies given
            else outOfSteps)
          (callFunction (callsWithin more) another writer other bodies also)
        split
        · rename_i permitted
          exact follow.callFunction like alike functions permitted
        · exact .outOfSteps _

/-! ## The same context -/

namespace Likeness

def equality (helpers : Members Helper) (guard : Guard) : Likeness where
  loose := False
  helpers := helpers
  guard := guard
  like one other := other = one
  outline := by
    rintro one _ rfl
    exact ⟨rfl, rfl, rfl, rfl, rfl⟩
  level := by
    rintro one _ rfl -
    rfl
  pushFrame := by
    rintro one _ first second rfl frames
    rw [frames.eq id]
  rebase := by
    rintro one _ first second rfl heads
    rw [heads.eq id]
  named := by
    rintro one _ name rfl
    rfl
  withBlocks := by
    rintro one _ program rfl
    rfl
  forBlock := by
    rintro one _ rfl
    rfl
  identifiers := by
    rintro program op one _ - rfl identifier -
    exact Value.foundAlike_refl _
  forPartial := by
    rintro program name rebased exprs one _ given also - rfl alike
    rw [alike.eq id]
  helper := by
    rintro program name rebased exprs entries found one _ - - rfl
    exact Helper.readsAlike_refl id _ _ found
  host := by
    rintro function one _ - rfl
    exact ⟨fun _ => rfl, fun _ _ => rfl⟩

variable {helpers : Members Helper} {guard : Guard}
variable {one other : Store Continuation Observer State}

theorem engines_equality {engine another : Engine}
    (engines : (equality helpers guard).Engines engine another) : another = engine := by
  cases engines with
  | @intro engine requests others same alike =>
      have sameRequests : others = requests := by
        induction alike with
        | nil => rfl
        | cons first _ inductionHypothesis =>
            obtain ⟨template, branch, like⟩ := first
            obtain rfl := like
            rw [inductionHypothesis]
      rw [sameRequests]

theorem outlets_equality {outlet shadow : Outlet Continuation Observer}
    (outlets : (equality helpers guard).Outlets outlet shadow) : shadow = outlet := by
  obtain ⟨outlet, sinks⟩ := outlets
  cases sinks with
  | stream listeners => rfl
  | collect text result onwards =>
      cases onwards with
      | none => rfl
      | some alike =>
          cases alike with
          | report label => rfl
          | shout branch => rfl
          | inclusion branch like =>
              obtain rfl := like
              rfl

/-- Only a store itself mirrors it then. -/
theorem mirrors_equality (mirrors : (equality helpers guard).Mirrors one other) : other = one := by
  have sameOutlets : other.outlets = one.outlets := by
    refine Array.ext_getElem? fun id => ?_
    cases seen : one.outlets[id]? with
    | none => exact mirrors.nowhere seen
    | some outlet =>
        obtain ⟨shadow, found, outlets⟩ := mirrors.there seen
        rw [found, outlets_equality outlets]
  have sameEngine := engines_equality mirrors.engine
  have sameSettled := mirrors.settled id
  obtain ⟨outlets, pots, events, engine, settled⟩ := other
  obtain rfl := sameOutlets
  obtain rfl := mirrors.pots
  obtain rfl := mirrors.events
  obtain rfl := sameEngine
  obtain rfl := sameSettled
  rfl

/-- What is yielded under a guard is yielded without it. -/
theorem Follows.unguarded {Result : Type} {first second : Action Result}
    {store later : Store Continuation Observer State} {result : Result}
    (follows : (equality store.client.engine.helpers guard).Follows first second)
    (ran : first store = some (result, later)) : second store = some (result, later) := by
  have mirrors : (equality store.client.engine.helpers guard).Mirrors store store :=
    .refl (fun _ => rfl) store rfl
  obtain ⟨after, ranAlso, mirrorsThen⟩ := follows store store result later mirrors ran
  rw [ranAlso, mirrors_equality mirrorsThen]

end Likeness

end BraceTemplate.Render
