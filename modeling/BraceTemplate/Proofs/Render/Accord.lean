import BraceTemplate.Proofs.Output.Runs
import BraceTemplate.Proofs.Render.Values
import BraceTemplate.Render.Run

/-!
# Renders in accord

Two renders are in accord where, step by step, one does what the other does. In what sense is left
open: that something is kept, that one render follows the other, that what one yields the other
yields in more steps. An accord says it of actions, and has to last where one action goes on behind
another. Then every step of a program is in accord as soon as the bodies and the functions that it
comes to are, and for each sense it remains to say which those are. What is said of a single render
is an accord that does not look at the second one. Renders that use their handles up, two renders
through different handles, and a render beside the text that its source stands for are not accords
of this kind, and are followed by themselves.
-/

namespace BraceTemplate.Render

open Output

def Yields {Result : Type} (action : Action Result) (result : Result) : Prop :=
  ∃ store later, action store = some (result, later)

/-- In what sense two actions are in accord. What the first one yields is the same in both. -/
structure Sense where
  /-- The actions are in accord, and what they yield has a property. -/
  Runs {Result : Type} (good : Result → Prop) (first second : Action Result) : Prop
  /-- Handles that a render may go on from. -/
  fine : Writer → Prop
  /-- Errors that a render may fail with. -/
  permits : RenderError → Prop
  /-- Whether bodies may end with errors. -/
  fails : Prop
  /-- Values that functions may return. -/
  returns : Value → Prop
  /-- What is known of an engine. -/
  knows : Engine → Prop
  pure {Result : Type} {good : Result → Prop} {result : Result} : good result →
    Runs good (Pure.pure result) (Pure.pure result)
  bind {Result Next : Type} {good : Result → Prop} {goodNext : Next → Prop}
    {first second : Action Result} {next also : Result → Action Next} : Runs good first second →
      (∀ result, good result → Yields first result → Runs goodNext (next result) (also result)) →
        Runs goodNext (first >>= next) (second >>= also)
  /-- The engines may differ in what waits for an answer. -/
  ofEngine {Result : Type} {good : Result → Prop} {next also : Engine → Action Result} :
    (∀ engine requests, knows engine →
      Runs good (next engine) (also { engine with requests := requests })) →
        Runs good (engine >>= next) (engine >>= also)
  write {writer : Writer} (text : String) : fine writer →
    Runs fine (writer.write text) (writer.write text)
  ofText (text : String) : returns (.string text)
  ofNothing : returns (.bool false)
  failed (error : RenderError) : fails → permits error
  recursiveBlock {engine : Engine} (name : String) : knows engine →
    permits (.recursiveBlock name engine.config.maxDepth)

namespace Sense

variable (sense : Sense)

def Ended : Except RenderError Writer → Prop
  | .ok next => sense.fine next
  | .error _ => sense.fails

def Helped : Except RenderError Writer → Prop
  | .ok next => sense.fine next
  | .error _ => True

def Returned : Except RenderError Returned → Prop
  | .ok (.handle next) => sense.fine next
  | .ok (.value value) => sense.returns value
  | .error _ => True

def Resolved (given : Value.Params) (key : String) : Option Value → Prop
  | none => given.find? key = none
  | some value => sense.returns value ∧ given.MayYield key value

end Sense

/-- On which grounds two renders are in accord: with which contexts a body may be rendered, a
function be called and a value be resolved. -/
structure Ground where
  /-- It is left open which tag a text with tags comes from. -/
  loose : Prop
  body : Context → Context → Program → BodyId → Prop
  /-- Bodies that may be rendered for a select of their own. -/
  fresh : Context → Context → Program → BodyId → Prop
  call : Function Value → Function Value → Context → Context → Bodies → Value.Params →
    Value.Params → Prop
  resolves : Value → Value → Context → Context → Prop
  /-- Bodies whose text is gathered by itself. -/
  names : Context → Context → Program → BodyId → Prop
  compares : Context → Context → Bodies → Value.Params → Value.Params → Prop
  includes : Context → Context → Program → Name → Prop
  /-- Whether code of the host may do anything. -/
  hosts : Prop

/-- A sense in which two renders are in accord, and on which grounds they are. -/
structure Accord extends Sense, Ground

/-- The context of bodies that see the parameters of their tag. -/
def withParams (context : Context) (params : Value.Params) : Context :=
  if params.isEmpty then context else context.push (.object params)

namespace Accord

variable (accord : Accord)

def Named (one other : Context) (bodies : Bodies) (name : String) : Prop :=
  ∀ id, bodies.find? name = some id → accord.body one other bodies.program id

def Selects (one other : Context) (bodies : Bodies) : Prop :=
  ∀ key id, bodies.find? mainBody = some id →
    accord.fresh (one.pushSelect key) (other.pushSelect key) bodies.program id

/-- The parameters of a tag may be resolved. -/
structure Resolves (one other : Context) (given also : Value.Params) : Prop where
  alike : given.Alike accord.loose also
  each : ∀ key value another, given.find? key = some value → also.find? key = some another →
    Value.Alike accord.loose value another → accord.resolves value another one other

/-- What a section may come to for a value. -/
structure Each (one other : Context) (bodies : Bodies) (value? another? : Option Value) :
    Prop where
  alike : Value.FoundAlike accord.loose value? another?
  main : value? = some (.bool true) → accord.Named one other bodies mainBody
  pushed : ∀ value another, value? = some value → another? = some another →
    Value.Alike accord.loose value another →
      accord.Named (one.push value) (other.push another) bodies mainBody
  element : ∀ items, value? = some (.array items) → ∀ item ∈ items, ∀ index,
    accord.Named (one.pushIndexed item index items.length)
      (other.pushIndexed item index items.length) bodies mainBody
  otherwise : value? ≠ some (.bool true) → accord.Named one other bodies elseBody

/-- What a section may come to: a function of the host is called first. -/
structure Section (one other : Context) (bodies : Bodies) (given also : Value.Params)
    (value? another? : Option Value) : Prop where
  alike : Value.FoundAlike accord.loose value? another?
  called : ∀ identity function, value? = some (.function (.host identity function)) →
    accord.call (.host identity function) (.host identity function) one other bodies given also
  returned : ∀ identity function, value? = some (.function (.host identity function)) →
    ∀ value, accord.returns value →
      accord.Each (withParams one given) (withParams other also) bodies (some value) (some value)
  plain : (∀ identity function, value? ≠ some (.function (.host identity function))) →
    accord.Each (withParams one given) (withParams other also) bodies value? another?

/-- What a block may come to. An override is entered only as deep as the engine allows. -/
structure Block (one other : Context) (name : String) (bodies : Bodies) : Prop where
  same : other.block? name = one.block? name
  depth : other.blockDepth = one.blockDepth
  own : one.block? name = none → accord.Named one other bodies mainBody
  override : ∀ engine override, accord.knows engine → one.blockDepth < engine.config.maxDepth →
    one.block? name = some override →
      accord.body one.forBlock other.forBlock override.program override.body

def Naming (one other : Context) (program : Program) : Name → Prop
  | .literal _ => True
  | .body id => accord.names one other program id

def Builtin (one other : Context) (bodies : Bodies) (given also : Value.Params) :
    BuiltinHelper → Prop
  | .separator => isLast other = isLast one ∧ accord.Named one other bodies mainBody
  | .place =>
    let index := (one.index?.map Value.ofNat).getD .null
    other.index? = one.index? ∧ accord.Named (one.push index) (other.push index) bodies mainBody
  | .select | .math => accord.Resolves one other given also ∧ accord.Selects one other bodies
  | .compare _ => accord.compares one other bodies given also
  | .size => accord.Resolves one other given also
  | .contextDump => accord.Resolves one other given also ∧
    other.current?.map Value.toJson = one.current?.map Value.toJson ∧
      ∀ value, given.MayYield "key" value → value.display = "full" →
        other.stackJson = one.stackJson

/-- What a comparison may come to: it goes by a key of its own, or else by that of the select. -/
structure Comparing (one other : Context) (bodies : Bodies) (given also : Value.Params) :
    Prop where
  resolves : accord.Resolves one other given also
  keyed : (∃ value, given.find? "key" = some value) ∨ other.select? = one.select?
  selects : other.select?.isSome = one.select?.isSome
  coerces : ∀ value,
    given.MayYield "key" value ∨ given.MayYield "value" value ∨
        (given.find? "key" = none ∧ one.select? = some value) →
      Operand.coerce value ((given.find? "type").bind Value.text?) other =
        Operand.coerce value ((given.find? "type").bind Value.text?) one
  outside : one.select? = none → accord.Named one other bodies mainBody
  otherwise : accord.Named one other bodies elseBody

/-- What code of the host may come to. -/
structure Hosting (one other : Context) (bodies : Bodies) (given also : Value.Params)
    (actions : List HostAction) : Prop where
  hosts : accord.hosts
  alike : given.Alike accord.loose also
  place : placeText other = placeText one
  stack : .writeStack ∈ actions → other.stackJson = one.stackJson
  resolves : ∀ key,
    accord.resolves ((given.find? key).getD .null) ((also.find? key).getD .null) one other
  scopes : ∀ scope name,
    accord.Named (scopeContext one given scope) (scopeContext other also scope) bodies name
  permitted : ∀ error, HostAction.fail error ∈ actions → accord.permits error

def Helping (one other : Context) (bodies : Bodies) (given also : Value.Params) : Helper → Prop
  | .builtin helper => accord.Builtin one other bodies given also helper
  | .host helper => accord.Hosting one other bodies given also helper.actions

/-- What the call of a function may come to. -/
inductive Calling (one other : Context) (bodies : Bodies) (given also : Value.Params) :
    Function Value → Function Value → Prop
  | inline {program : Program} {body : BodyId} {stamp another : Stamp}
      (entered : accord.body one other program body) :
      Calling one other bodies given also (.inline program body stamp)
        (.inline program body another)
  | host {identity : Nat} {function : HostFunction Value}
      (hosting : accord.Hosting one other bodies given also function.actions)
      (looked : ∀ path, function.result = .lookup path → other.get? path = one.get? path)
      (returned : ∀ next, accord.fine next →
        accord.Returned (hostResult one next function.result)) :
      Calling one other bodies given also (.host identity function) (.host identity function)

def Steps (program : Program) (one other : Context) : Op → Prop
  | .write _ => True
  | .reference identifier _ =>
    Value.FoundAlike accord.loose (one.resolve? identifier) (other.resolve? identifier) ∧
      ∀ called another, one.resolve? identifier = some (.function called) →
        other.resolve? identifier = some (.function another) →
          accord.call called another one other Bodies.none [] []
  | .condition .each identifier rebased exprs entries =>
    accord.Section (one.forBodies rebased) (other.forBodies rebased) ⟨program, entries⟩
      (params program one exprs) (params program other exprs) (one.resolve? identifier)
      (other.resolve? identifier)
  | .condition .present identifier rebased _ entries =>
    isPresent (other.resolve? identifier) = isPresent (one.resolve? identifier) ∧
      accord.Named (one.forBodies rebased) (other.forBodies rebased) ⟨program, entries⟩
        (if isPresent (one.resolve? identifier) then mainBody else elseBody)
  | .condition .absent identifier rebased _ entries =>
    isPresent (other.resolve? identifier) = isPresent (one.resolve? identifier) ∧
      accord.Named (one.forBodies rebased) (other.forBodies rebased) ⟨program, entries⟩
        (if !isPresent (one.resolve? identifier) then mainBody else elseBody)
  | .block name rebased _ entries =>
    accord.Naming one other program name ∧
      ∀ text, (∀ literal, name = .literal literal → text = literal) →
        accord.Block (one.forBodies rebased) (other.forBodies rebased) text ⟨program, entries⟩
  | .helper name rebased exprs entries =>
    ∀ engine helper, accord.knows engine → engine.helpers.find? name = some helper →
      accord.Helping (one.forBodies rebased) (other.forBodies rebased) ⟨program, entries⟩
        (params program one exprs) (params program other exprs) helper
  | .inclusion name rebased exprs =>
    accord.includes ((one.forBodies rebased).forPartial (params program one exprs))
      ((other.forBodies rebased).forPartial (params program other exprs)) program name

variable (calls others : Calls)

/-- Bodies and functions, on those grounds, are in accord. -/
structure Enters : Prop where
  body {one other : Context} {program : Program} {id : BodyId} {writer : Writer} :
    accord.body one other program id → accord.fine writer →
      accord.Runs accord.Ended (calls.renderBody program id writer one)
        (others.renderBody program id writer other)
  fresh {one other : Context} {program : Program} {id : BodyId} {writer : Writer} :
    accord.fresh one other program id → accord.fine writer →
      accord.Runs accord.Ended (withFreshSelect (calls.renderBody program id writer one))
        (withFreshSelect (others.renderBody program id writer other))
  unopened {writer : Writer} : accord.fine writer →
    accord.Runs accord.Ended (withFreshSelect (Pure.pure (.ok writer)))
      (withFreshSelect (Pure.pure (.ok writer)))
  call {called another : Function Value} {one other : Context} {bodies : Bodies}
    {given also : Value.Params} {writer : Writer} :
    accord.call called another one other bodies given also → accord.fine writer →
      accord.Runs accord.Returned (calls.call called writer one bodies given)
        (others.call another writer other bodies also)
  resolves {value another : Value} {one other : Context} {writer : Writer} :
    accord.resolves value another one other → accord.fine writer →
      accord.Runs accord.returns (resolveValue calls value writer one)
        (resolveValue others another writer other)
  fail {writer : Writer} {error : RenderError} : accord.permits error → accord.fine writer →
    accord.Runs accord.fine (writer.fail calls.handlers error) (writer.fail others.handlers error)

/-- Whatever else is done with handles is in accord, from any of them. -/
structure Serves : Prop where
  everywhere (writer : Writer) : accord.fine writer
  opened : accord.Runs (fun id => accord.Runs (fun _ => True) (result? id) (result? id))
    (openOutlet (.collect "" none none)) (openOutlet (.collect "" none none))
  fork (writer : Writer) : accord.Runs (fun _ => True) writer.fork writer.fork
  hold (slot : String) (branch : Writer) :
    accord.Runs (fun _ => True) (hold slot branch) (hold slot branch)
  finish (writer : Writer) :
    accord.Runs (fun _ => True) (writer.finish calls.handlers) (writer.finish others.handlers)
  shout {one other : Context} {program : Program} {id : BodyId} (writer : Writer) :
    accord.body one other program id →
      accord.Runs (fun _ => True)
        (writer.capture calls.handlers (fun inner => calls.renderBody program id inner one)
          fun branch => .capture branch .shout)
        (writer.capture others.handlers (fun inner => others.renderBody program id inner other)
          fun branch => .capture branch .shout)

/-- Everything that the steps of programs come to is in accord. -/
structure Conducts : Prop extends accord.Enters calls others where
  names {one other : Context} {program : Program} {id : BodyId} :
    accord.names one other program id →
      accord.Runs (fun _ => True) (bodyText calls program id one) (bodyText others program id other)
  compares {comparison : Comparison} {one other : Context} {bodies : Bodies}
    {given also : Value.Params} {writer : Writer} :
    accord.compares one other bodies given also → accord.fine writer →
      accord.Runs accord.Ended (runComparison calls comparison writer one bodies given)
        (runComparison others comparison writer other bodies also)
  includes {one other : Context} {program : Program} {name : Name} {writer : Writer} :
    accord.includes one other program name → accord.fine writer →
      accord.Runs accord.fine (renderInclusion calls program writer one name)
        (renderInclusion others program writer other name)
  serves : accord.hosts → accord.Serves calls others

/-- Asking for templates is in accord, with contexts that are in a relation. -/
structure Loads (within : Context → Context → Prop) : Prop where
  serves : accord.Serves calls others
  permitted (error : RenderError) : accord.permits error
  findOrCompile (name source : String) :
    accord.Runs (fun _ => True) (findOrCompile name source) (findOrCompile name source)
  registerSource (name source : String) :
    accord.Runs (fun _ => True) (registerSource name source) (registerSource name source)
  asks {one other : Context} (name : String) (branch : Writer) : within one other →
    accord.Runs (fun _ => True)
      (modifyEngine fun engine =>
        { engine with requests := engine.requests ++ [⟨name, branch, one⟩] })
      (modifyEngine fun engine =>
        { engine with requests := engine.requests ++ [⟨name, branch, other⟩] })
  fresh {one other : Context} (program : Program) : within one other →
    accord.fresh (one.withBlocks program) (other.withBlocks program) program program.root
  named {one other : Context} (name : String) : within one other →
    within (one.named name) (other.named name)
  capture {one other : Context} {program : Program} {id : BodyId} (writer : Writer) :
    within one other → accord.body one other program id →
      accord.Runs (fun _ => True)
        (writer.capture calls.handlers (fun inner => calls.renderBody program id inner one)
          fun branch => .capture branch (.include one))
        (writer.capture others.handlers (fun inner => others.renderBody program id inner other)
          fun branch => .capture branch (.include other))

end Accord

end BraceTemplate.Render
