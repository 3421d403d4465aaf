import BraceTemplate.Proofs.Output.Runs
import BraceTemplate.Proofs.Render.Values
import BraceTemplate.Render.Run

/-!
# Contexts that are alike

A likeness says which contexts are taken for alike, and what a guard permits so that rendering with
one goes as rendering with the other does. Stores mirror one another where they are the same but for
the contexts that are kept for later, which are alike. An action follows another one where, from
stores that mirror one another, it yields what the other one yields, and leads to such stores again.
-/

namespace BraceTemplate.Render

open Output

/-! ## Rendering under a guard

Rendering within a bound that is out of steps where a guard objects: before it enters a body with a
step that the guard does not permit in the context at hand, and before it calls a function of the
host that the guard does not permit there. What such a render yields, it has yielded without
anything that the guard keeps out, be it in a template, in a text that a tag has passed on, or in
host code.
-/

/-- What is permitted with a context: the steps of programs, and calls of functions of the host. -/
structure Guard where
  op : Program → Context → Op → Bool
  host : HostFunction Value → Context → Bool

namespace Guard

variable (guard : Guard)

/-- Whether every step of a body is permitted. -/
def body (program : Program) (id : BodyId) (context : Context) : Bool :=
  (program.body id).all (guard.op program context)

/-- Whether a function may be called. The body of a text that a tag has passed on is looked at when
it is entered. -/
def function (context : Context) : Function Value → Bool
  | .inline _ _ _ => true
  | .host _ function => guard.host function context

end Guard

section Guarding

variable (guard : Guard)

mutual

def renderBodyGuarded :
    Nat → Program → BodyId → Writer → Context → Action (Except RenderError Writer)
  | 0, _, _, _, _ => outOfSteps
  | depth + 1, program, body, writer, context =>
    let calls := ⟨⟨depth, resumeGuarded depth, hear⟩, renderBodyGuarded depth, callGuarded depth⟩
    if guard.body program body context then runOps calls program context (program.body body) writer
    else outOfSteps

def callGuarded : Nat → Function Value → Writer → Context → Bodies → Value.Params →
    Action (Except RenderError Returned)
  | 0, _, _, _, _, _ => outOfSteps
  | depth + 1, called, writer, context, bodies, params =>
    let calls := ⟨⟨depth, resumeGuarded depth, hear⟩, renderBodyGuarded depth, callGuarded depth⟩
    if guard.function context called then callFunction calls called writer context bodies params
    else outOfSteps

def resumeGuarded : Nat → Continuation → Except RenderError String → Action Unit
  | 0, _, _ => outOfSteps
  | depth + 1, continuation, result =>
    let calls := ⟨⟨depth, resumeGuarded depth, hear⟩, renderBodyGuarded depth, callGuarded depth⟩
    resume calls continuation result

end

/-- Rendering within a bound that does nothing that a guard does not permit. -/
def callsGuarded (depth : Nat) : Calls :=
  ⟨⟨depth, resumeGuarded guard depth, hear⟩, renderBodyGuarded guard depth,
    callGuarded guard depth⟩

end Guarding

end BraceTemplate.Render

namespace BraceTemplate

/-- Frames that hold the same, but for what is left open. -/
structure Frame.Alike (loose : Prop) (one other : Frame) : Prop where
  head : Value.HeadAlike loose one.head other.head
  iteration : other.iteration = one.iteration
  select : ¬ loose → other.select = one.select

theorem Frame.Alike.eq {loose : Prop} {one other : Frame} (alike : one.Alike loose other)
    (strict : ¬ loose) : other = one := by
  obtain ⟨head, iteration, select⟩ := other
  obtain rfl := alike.head.eq strict
  obtain rfl := alike.iteration
  obtain rfl := alike.select strict
  rfl

/-- The parameters of an inclusion stand in front of what it takes along without them. -/
theorem Context.forPartial_eq (context : Context) (params : Value.Params) :
    context.forPartial params =
      if params.isEmpty then context.forPartial []
      else (context.forPartial []).push (.object params) :=
  rfl

/-- Contexts that are the same but for their data. -/
structure Context.SameOutline (one other : Context) : Prop where
  blockChain : other.blockChain = one.blockChain
  templateName : other.templateName = one.templateName
  partialDepth : other.partialDepth = one.partialDepth
  blockDepth : other.blockDepth = one.blockDepth
  iteration? : other.iteration? = one.iteration?

/-- The identifiers among parameters. -/
def ParamExprs.identifiers (exprs : ParamExprs) : List Identifier :=
  exprs.filterMap fun entry =>
    match entry.2 with
    | .identifier name => some name
    | _ => none

/-- The identifiers that a step looks up. -/
def Op.identifiers : Op → List Identifier
  | .write _ => []
  | .reference identifier _ => [identifier]
  | .condition _ identifier rebased exprs _ =>
    identifier :: (rebased.toList ++ exprs.identifiers)
  | .block _ rebased _ _ => rebased.toList
  | .helper _ rebased exprs _ => rebased.toList ++ exprs.identifiers
  | .inclusion _ rebased exprs => rebased.toList ++ exprs.identifiers

namespace Context

def pathParts (path : String) : Bool × List String :=
  let (relative, keys) :=
    match path.toList with
    | '.' :: rest => (true, String.ofList rest)
    | _ => (false, path)
  (relative, if keys.isEmpty then [] else keys.splitOn ".")

theorem get?_eq (context : Context) (path : String) :
    context.get? path = context.getPath? (pathParts path).1 (pathParts path).2 :=
  rfl

end Context

def HostAction.writesStack : HostAction → Bool
  | writeStack => true
  | _ => false

theorem HostAction.any_writesStack {actions : List HostAction} (writes : writeStack ∈ actions) :
    actions.any writesStack = true :=
  List.any_eq_true.mpr ⟨writeStack, writes, rfl⟩

def Helper.ReadsAlike (loose : Prop) (params : Value.Params) (one other : Context) : Helper → Prop
  | .builtin (.compare _) =>
    ¬ loose ∧ other.select? = one.select? ∧
      ∀ value,
        params.MayYield "key" value ∨ params.MayYield "value" value ∨
            (params.find? "key" = none ∧ one.select? = some value) →
          Operand.coerce value ((params.find? "type").bind Value.text?) other =
            Operand.coerce value ((params.find? "type").bind Value.text?) one
  | .builtin .contextDump =>
    other.current?.map Value.toJson = one.current?.map Value.toJson ∧
      ∀ value, params.MayYield "key" value → value.display = "full" →
        other.stackJson = one.stackJson
  | .builtin _ => True
  | .host helper => HostAction.writeStack ∈ helper.actions → other.stackJson = one.stackJson

theorem Helper.readsAlike_refl {loose : Prop} (strict : ¬ loose) (params : Value.Params)
    (context : Context) (helper : Helper) : helper.ReadsAlike loose params context context := by
  cases helper with
  | host helper => exact fun _ => rfl
  | builtin helper =>
      cases helper with
      | compare comparison => exact ⟨strict, rfl, fun _ _ => rfl⟩
      | contextDump => exact ⟨rfl, fun _ _ _ => rfl⟩
      | _ => trivial

namespace Render

open Output

/-- Which contexts are alike, and what is permitted so that rendering cannot tell them apart. -/
structure Likeness where
  /-- It is left open which tag a text with tags comes from, and whether a branch of the innermost
  select has matched. -/
  loose : Prop
  helpers : Members Helper
  guard : Guard
  like : Context → Context → Prop
  outline {one other : Context} : like one other → one.SameOutline other
  level {one other : Context} : like one other → ¬ loose → other.level = one.level
  pushFrame {one other : Context} {first second : Frame} : like one other →
    first.Alike loose second → like (one.pushFrame first) (other.pushFrame second)
  rebase {one other : Context} {first second : Value} : like one other →
    Value.HeadAlike loose first second → like (one.rebase first) (other.rebase second)
  named {one other : Context} (name : String) : like one other →
    like (one.named name) (other.named name)
  withBlocks {one other : Context} (program : Program) : like one other →
    like (one.withBlocks program) (other.withBlocks program)
  forBlock {one other : Context} : like one other → like one.forBlock other.forBlock
  identifiers {program : Program} {op : Op} {one other : Context} :
    guard.op program one op = true → like one other → ∀ identifier ∈ op.identifiers,
      Value.FoundAlike loose (one.resolve? identifier) (other.resolve? identifier)
  forPartial {program : Program} {name : Name} {rebased : Option Identifier} {exprs : ParamExprs}
    {one other : Context} {given also : Value.Params} :
    guard.op program one (.inclusion name rebased exprs) = true → like one other →
      given.Alike loose also →
        like ((one.forBodies rebased).forPartial given) ((other.forBodies rebased).forPartial also)
  helper {program : Program} {name : String} {rebased : Option Identifier} {exprs : ParamExprs}
    {entries : NamedBodies} {found : Helper} {one other : Context} :
    guard.op program one (.helper name rebased exprs entries) = true →
      helpers.find? name = some found → like one other →
        found.ReadsAlike loose (params program one exprs) (one.forBodies rebased)
          (other.forBodies rebased)
  host {function : HostFunction Value} {one other : Context} :
    guard.host function one = true → like one other →
      (HostAction.writeStack ∈ function.actions → other.stackJson = one.stackJson) ∧
        ∀ path, function.result = .lookup path → other.get? path = one.get? path

namespace Likeness

variable (likeness : Likeness)

/-- Continuations that are the same, but for contexts that are alike. -/
inductive Continues : Continuation → Continuation → Prop
  | report (label : String) : Continues (.report label) (.report label)
  | shout (branch : Writer) : Continues (.capture branch .shout) (.capture branch .shout)
  | inclusion (branch : Writer) {one other : Context} (like : likeness.like one other) :
      Continues (.capture branch (.include one)) (.capture branch (.include other))

abbrev HandsOn : Option (Continuation × Except RenderError String) →
    Option (Continuation × Except RenderError String) → Prop :=
  Option.Rel fun one other => likeness.Continues one.1 other.1 ∧ other.2 = one.2

inductive Sinks : Sink Continuation Observer → Sink Continuation Observer → Prop
  | collect (text : String) (result : Option (Except RenderError String))
      {onResult also : Option Continuation}
      (onwards : Option.Rel likeness.Continues onResult also) :
      Sinks (.collect text result onResult) (.collect text result also)
  | stream (listeners : Listeners Observer) : Sinks (.stream listeners) (.stream listeners)

/-- Outlets that are the same, but for what becomes of their results. -/
inductive Outlets : Outlet Continuation Observer → Outlet Continuation Observer → Prop
  | intro (outlet : Outlet Continuation Observer) {sink also : Sink Continuation Observer}
      (sinks : likeness.Sinks sink also) :
      Outlets { outlet with sink := sink } { outlet with sink := also }

/-- Requests that are the same, but for contexts that are alike. -/
inductive Requests : Request → Request → Prop
  | intro (template : String) (branch : Writer) {one other : Context}
      (like : likeness.like one other) :
      Requests ⟨template, branch, one⟩ ⟨template, branch, other⟩

/-- Engines with the helpers of the likeness that are the same, but for what they are asked for. -/
inductive Engines : Engine → Engine → Prop
  | intro (engine : Engine) {requests others : List Request}
      (helpers : engine.helpers = likeness.helpers)
      (alike : List.Forall₂ likeness.Requests requests others) :
      Engines { engine with requests := requests } { engine with requests := others }

/-- Stores that are the same, but for contexts that are alike and what is left open. -/
structure Mirrors (one other : Store Continuation Observer State) : Prop where
  outlets : ∀ id : OutletId, Option.Rel likeness.Outlets one.outlets[id]? other.outlets[id]?
  pots : other.pots = one.pots
  events : other.events = one.events
  engine : likeness.Engines one.client.engine other.client.engine
  settled : ¬ likeness.loose → other.client.settled = one.client.settled

/-- An action and one that yields the same wherever the first one yields anything. -/
def Follows {Result : Type} (first second : Action Result) : Prop :=
  ∀ one other result later, likeness.Mirrors one other → first one = some (result, later) →
    ∃ after, second other = some (result, after) ∧ likeness.Mirrors later after

variable {likeness}

section Stores

variable {one other : Store Continuation Observer State} {id : OutletId}
variable {outlet shadow : Outlet Continuation Observer}

theorem Mirrors.there (mirrors : likeness.Mirrors one other)
    (here : one.outlets[id]? = some outlet) :
    ∃ shadow, other.outlets[id]? = some shadow ∧ likeness.Outlets outlet shadow := by
  have related := mirrors.outlets id
  rw [here] at related
  cases found : other.outlets[id]? with
  | none =>
      rw [found] at related
      cases related
  | some shadow =>
      rw [found] at related
      cases related with
      | some outlets => exact ⟨shadow, rfl, outlets⟩

theorem Mirrors.nowhere (mirrors : likeness.Mirrors one other)
    (here : one.outlets[id]? = none) : other.outlets[id]? = none := by
  have related := mirrors.outlets id
  rw [here] at related
  cases found : other.outlets[id]? with
  | none => rfl
  | some shadow =>
      rw [found] at related
      cases related

theorem Mirrors.size (mirrors : likeness.Mirrors one other) :
    other.outlets.size = one.outlets.size := by
  apply Nat.le_antisymm
  · have nothing : one.outlets[one.outlets.size]? = none :=
      Array.getElem?_eq_none (Nat.le_refl _)
    exact Array.getElem?_eq_none_iff.mp (mirrors.nowhere nothing)
  · by_contra less
    obtain ⟨shadow, there, -⟩ := mirrors.there (Array.getElem?_eq_getElem (Nat.lt_of_not_le less))
    exact absurd (Store.lt_size_of_outlet there) (Nat.lt_irrefl _)

theorem Mirrors.put (mirrors : likeness.Mirrors one other) (id : OutletId)
    (outlets : likeness.Outlets outlet shadow) :
    likeness.Mirrors (one.put id outlet) (other.put id shadow) := by
  refine { mirrors with outlets := fun found => ?_ }
  have related := mirrors.outlets found
  by_cases same : id = found
  · subst same
    by_cases bound : id < one.outlets.size
    · rw [Store.put_outlets_self _ _ bound, Store.put_outlets_self _ _ (mirrors.size ▸ bound)]
      exact .some outlets
    · have beyond := Nat.le_of_not_lt bound
      rw [Array.getElem?_eq_none (by simpa using beyond),
        Array.getElem?_eq_none (by simpa [mirrors.size] using beyond)]
      exact .none
  · rw [Store.put_outlets_of_ne _ _ same, Store.put_outlets_of_ne _ _ same]
    exact related

/-- A store mirrors itself where every context is alike to itself. -/
theorem Mirrors.refl (reflexive : ∀ context, likeness.like context context)
    (store : Store Continuation Observer State)
    (helpers : store.client.engine.helpers = likeness.helpers) : likeness.Mirrors store store := by
  have continues : ∀ continuation, likeness.Continues continuation continuation := by
    intro continuation
    cases continuation with
    | report label => exact .report label
    | capture branch next =>
        rcases next with context | _
        · exact .inclusion branch (reflexive context)
        · exact .shout branch
  have outlets : ∀ outlet, likeness.Outlets outlet outlet := by
    intro outlet
    obtain ⟨passed, waiting, nextNumber, finished, flushing, again, sink⟩ := outlet
    refine .intro ⟨passed, waiting, nextNumber, finished, flushing, again, sink⟩ ?_
    cases sink with
    | collect text result onResult =>
        cases onResult with
        | none => exact .collect text result .none
        | some continuation => exact .collect text result (.some (continues continuation))
    | stream listeners => exact .stream listeners
  have requests : ∀ request, likeness.Requests request request := fun request =>
    .intro request.template request.branch (reflexive request.context)
  refine ⟨fun id => ?_, rfl, rfl, ?_, fun _ => rfl⟩
  · cases store.outlets[id]? with
    | none => exact .none
    | some outlet => exact .some (outlets outlet)
  · exact .intro store.client.engine helpers
      (List.forall₂_same.mpr fun request _ => requests request)

end Stores

section Rules

variable {Result Next : Type} {first second : Action Result}

theorem Follows.pure (result : Result) :
    likeness.Follows (Pure.pure result) (Pure.pure result) := by
  intro one other found later mirrors ran
  cases ran
  exact ⟨other, rfl, mirrors⟩

theorem Follows.outOfSteps (second : Action Result) :
    likeness.Follows Output.outOfSteps second := by
  intro one other found later mirrors ran
  cases ran

/-- What goes on need only be followed for results that the first action yields. -/
theorem Follows.bindFound {next also : Result → Action Next}
    (follows : likeness.Follows first second)
    (each : ∀ result store later, first store = some (result, later) →
      likeness.Follows (next result) (also result)) :
    likeness.Follows (first >>= next) (second >>= also) := by
  intro one other result later mirrors ran
  obtain ⟨found, middle, ranFirst, ranNext⟩ := bind_eq_some.mp ran
  obtain ⟨halfway, ranSecond, mirrorsThen⟩ := follows one other found middle mirrors ranFirst
  obtain ⟨after, ranAlso, mirrorsLast⟩ :=
    each found one middle ranFirst middle halfway result later mirrorsThen ranNext
  exact ⟨after, bind_eq_some.mpr ⟨found, halfway, ranSecond, ranAlso⟩, mirrorsLast⟩

theorem Follows.bind {next also : Result → Action Next} (follows : likeness.Follows first second)
    (each : ∀ result, likeness.Follows (next result) (also result)) :
    likeness.Follows (first >>= next) (second >>= also) :=
  follows.bindFound fun result _ _ _ => each result

theorem Follows.discard (follows : likeness.Follows first second) :
    likeness.Follows (Functor.discard first) (Functor.discard second) := by
  intro one other result later mirrors ran
  rw [run_discard] at ran
  obtain ⟨⟨found, reached⟩, ranFirst, same⟩ := Option.map_eq_some_iff.mp ran
  cases same
  obtain ⟨after, ranSecond, mirrorsThen⟩ := follows one other found reached mirrors ranFirst
  exact ⟨after, by rw [run_discard, ranSecond]; rfl, mirrorsThen⟩

theorem Follows.ofEngine {next also : Engine → Action Result}
    (each : ∀ engine another, likeness.Engines engine another →
      likeness.Follows (next engine) (also another)) :
    likeness.Follows (engine >>= next) (engine >>= also) :=
  fun one other result later mirrors ran =>
    each _ _ mirrors.engine one other result later mirrors ran

theorem Follows.modifyEngine {change also : Engine → Engine}
    (engines : ∀ engine another, likeness.Engines engine another →
      likeness.Engines (change engine) (also another)) :
    likeness.Follows (modifyEngine change) (modifyEngine also) := by
  intro one other result later mirrors ran
  cases ran
  exact ⟨_, rfl, { mirrors with engine := engines _ _ mirrors.engine }⟩

/-- Where it is left open whether a branch has matched, either may be noted. -/
theorem Follows.setSettled {settled also : Bool} (same : ¬ likeness.loose → also = settled) :
    likeness.Follows (setSettled settled) (setSettled also) := by
  intro one other result later mirrors ran
  cases ran
  exact ⟨_, rfl, { mirrors with settled := same }⟩

theorem Follows.isSettled {next also : Bool → Action Result}
    (each : ∀ settled another, (¬ likeness.loose → another = settled) →
      likeness.Follows (next settled) (also another)) :
    likeness.Follows (isSettled >>= next) (isSettled >>= also) :=
  fun one other result later mirrors ran =>
    each _ _ mirrors.settled one other result later mirrors ran

theorem Follows.withFreshSelect (follows : likeness.Follows first second) :
    likeness.Follows (withFreshSelect first) (withFreshSelect second) :=
  .isSettled fun _ _ same =>
    (setSettled fun _ => rfl).bind fun _ => follows.bind fun result =>
      (setSettled same).bind fun _ => .pure result

theorem Follows.emit (event : Event) :
    likeness.Follows (Output.emit event : Action Unit) (Output.emit event) := by
  intro one other result later mirrors ran
  cases ran
  exact ⟨_, rfl, { mirrors with events := congrArg (Array.push · event) mirrors.events }⟩

theorem Follows.openPot :
    likeness.Follows (Output.openPot : Action Nat) Output.openPot := by
  intro one other result later mirrors ran
  rw [run_openPot] at ran
  cases ran
  refine ⟨{ other with pots := other.pots.push "" }, ?_, { mirrors with
    pots := congrArg (Array.push · "") mirrors.pots }⟩
  rw [run_openPot, mirrors.pots]

theorem Follows.potText (pot : Nat) :
    likeness.Follows (Output.potText pot : Action String) (Output.potText pot) := by
  intro one other result later mirrors ran
  rw [run_potText] at ran
  cases ran
  exact ⟨other, by rw [run_potText, mirrors.pots], mirrors⟩

theorem Follows.fillPot (pot : Nat) (text : String) :
    likeness.Follows (Output.fillPot pot text : Action Unit) (Output.fillPot pot text) := by
  intro one other result later mirrors ran
  rw [run_fillPot] at ran
  cases ran
  refine ⟨{ other with pots := other.pots.modify pot (· ++ text) }, rfl, { mirrors with
    pots := congrArg (Array.modify · pot (· ++ text)) mirrors.pots }⟩

end Rules

end Likeness

end Render

end BraceTemplate
