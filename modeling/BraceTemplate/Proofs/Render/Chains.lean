import BraceTemplate.Render.Run

/-!
# Rendering along a chain of templates

A render stands in a chain: the template that was asked for, and those that inclusions have entered
from there and that are still being rendered. Here it carries its chain along. An inclusion puts its
template in front for as long as that is rendered; a block tag looks through the chain from there
outward. What a context says of blocks is never asked for.
-/

namespace BraceTemplate.Render

open Output

/-- The templates that a render stands in, the one that was entered last first. -/
abbrev Chain := List Program

/-- The definition of a block in the template entered last that has one. -/
def Chain.definition? : Chain → String → Option BlockRef
  | [], _ => none
  | program :: outer, name =>
    match program.blocks.find? name with
    | some body => some ⟨program, body⟩
    | none => Chain.definition? outer name

/-- A template that is entered stands in front of the chain, unless what it defines is nothing or
is in front already. -/
def Chain.enter (chain : Chain) (program : Program) : Chain :=
  Context.enterBlocks chain program

/-- The context of what is rendered along a chain. -/
def along (context : Context) (chain : Chain) : Context :=
  { context with blockChain := chain }

/-- The chain that a capture goes on with: the one of the tag whose name was captured. -/
def Continuation.chain : Continuation → Chain
  | .capture _ (.include context) => context.blockChain
  | _ => []

def renderBlockAlong (calls : Calls) (chain : Chain) (writer : Writer) (context : Context)
    (name : String) (bodies : Bodies) : Action (Except RenderError Writer) := do
  let maxDepth := (← engine).config.maxDepth
  match chain.definition? name with
  | none => calls.renderNamed bodies mainBody writer context
  | some definition =>
    if maxDepth ≤ context.blockDepth then
      pure (.ok (← writer.fail calls.handlers (.recursiveBlock name maxDepth)))
    else calls.renderBody definition.program definition.body writer context.forBlock

/-- An inclusion renders its template by calls that enter it; whatever else it renders stays along
the chain. -/
def renderInclusionAlong (calls entering : Calls) (program : Program) (writer : Writer)
    (context : Context) (name : Name) : Action Writer := do
  let maxDepth := (← engine).config.maxDepth
  if maxDepth < context.partialDepth then
    writer.fail calls.handlers (.recursivePartial (inclusionLabel context name) maxDepth)
  else
    match name with
    | .literal text => renderNamedTemplate entering text writer (context.named text)
    | .body id =>
      writer.capture calls.handlers (fun inner => calls.renderBody program id inner context)
        (fun branch => .capture branch (.include context))

def runOpAlong (calls entering : Calls) (chain : Chain) (program : Program) (context : Context)
    (writer : Writer) : Op → Action (Except RenderError Writer)
  | .block name rebased _ entries => do
    let text ← blockName calls program context name
    renderBlockAlong calls chain writer (context.forBodies rebased) text ⟨program, entries⟩
  | .inclusion name rebased exprs => do
    let inner := (context.forBodies rebased).forPartial (params program context exprs)
    pure (.ok (← renderInclusionAlong calls entering program writer inner name))
  | other => runOp calls program context writer other

def runOpsAlong (calls entering : Calls) (chain : Chain) (program : Program) (context : Context) :
    List Op → Writer → Action (Except RenderError Writer)
  | [], writer => pure (.ok writer)
  | op :: rest, writer => do
    match ← runOpAlong calls entering chain program context writer op with
    | .error error => pure (.error error)
    | .ok next => runOpsAlong calls entering chain program context rest next

mutual

def renderBodyAlong :
    Nat → Chain → Program → BodyId → Writer → Context → Action (Except RenderError Writer)
  | 0, _, _, _, _, _ => outOfSteps
  | depth + 1, chain, program, body, writer, context =>
    let handlers : Handlers Continuation Observer State := ⟨depth, resumeAlong depth, hear⟩
    let calls : Calls := ⟨handlers, renderBodyAlong depth chain, callAlong depth chain⟩
    let entering : Calls := { calls with
      renderBody := fun template => renderBodyAlong depth (chain.enter template) template }
    runOpsAlong calls entering chain program (along context chain) (program.body body) writer

/-- A function goes on along the chain of the place where it is called, wherever its text stands. -/
def callAlong : Nat → Chain → Function Value → Writer → Context → Bodies → Value.Params →
    Action (Except RenderError Returned)
  | 0, _, _, _, _, _, _ => outOfSteps
  | depth + 1, chain, called, writer, context, bodies, params =>
    let handlers : Handlers Continuation Observer State := ⟨depth, resumeAlong depth, hear⟩
    let calls : Calls := ⟨handlers, renderBodyAlong depth chain, callAlong depth chain⟩
    callFunction calls called writer (along context chain) bodies params

/-- A captured name is the template of an inclusion, which is entered from the chain of its tag. -/
def resumeAlong : Nat → Continuation → Except RenderError String → Action Unit
  | 0, _, _ => outOfSteps
  | depth + 1, continuation, result =>
    let chain := continuation.chain
    let entering : Calls := ⟨⟨depth, resumeAlong depth, hear⟩,
      fun template => renderBodyAlong depth (chain.enter template) template, callAlong depth chain⟩
    resume entering continuation result

end

def callsAlong (depth : Nat) (chain : Chain) : Calls :=
  ⟨⟨depth, resumeAlong depth, hear⟩, renderBodyAlong depth chain, callAlong depth chain⟩

/-- Templates that are entered from a chain. -/
def callsEntering (depth : Nat) (chain : Chain) : Calls :=
  { callsAlong depth chain with
    renderBody := fun template => renderBodyAlong depth (chain.enter template) template }

namespace Chain

variable {chain : Chain} {name : String} {program : Program} {body : BodyId}

theorem definition?_eq_findSome? (chain : Chain) (name : String) :
    Chain.definition? chain name =
      chain.findSome? fun program =>
        (program.blocks.find? name).map fun body => ⟨program, body⟩ := by
  induction chain with
  | nil => rfl
  | cons first outer inductionHypothesis =>
      rw [definition?, List.findSome?_cons, inductionHypothesis]
      cases first.blocks.find? name <;> rfl

/-- A context looks through the chain it keeps. -/
theorem block?_eq_definition? (context : Context) (name : String) :
    context.block? name = Chain.definition? context.blockChain name :=
  (definition?_eq_findSome? context.blockChain name).symm

/-- What is found is the definition of a template of the chain, and none that was entered later
defines the name. -/
theorem definition?_eq_some_iff :
    Chain.definition? chain name = some ⟨program, body⟩ ↔
      ∃ inner outer, chain = inner ++ program :: outer ∧
        program.blocks.find? name = some body ∧
          ∀ later ∈ inner, later.blocks.find? name = none := by
  rw [definition?_eq_findSome?, List.findSome?_eq_some_iff]
  constructor
  · rintro ⟨inner, found, outer, split, defines, lack⟩
    obtain ⟨_, defines, same⟩ := Option.map_eq_some_iff.mp defines
    cases same
    exact ⟨inner, outer, split, defines, fun later member =>
      Option.map_eq_none_iff.mp (lack later member)⟩
  · rintro ⟨inner, outer, split, defines, lack⟩
    exact ⟨inner, program, outer, split, by rw [defines]; rfl,
      fun later member => by rw [lack later member]; rfl⟩

/-- Nothing is found where no template of the chain defines the name. -/
theorem definition?_eq_none_iff :
    Chain.definition? chain name = none ↔
      ∀ program ∈ chain, program.blocks.find? name = none := by
  simp only [definition?_eq_findSome?, List.findSome?_eq_none_iff, Option.map_eq_none_iff]

theorem definition?_of_none (lacks : program.blocks.find? name = none) (outer : Chain) :
    Chain.definition? (program :: outer) name = Chain.definition? outer name := by
  rw [definition?, lacks]

/-- The template in front may stand there twice. -/
theorem definition?_cons_cons (program : Program) (outer : Chain) (name : String) :
    Chain.definition? (program :: program :: outer) name =
      Chain.definition? (program :: outer) name := by
  cases lacks : program.blocks.find? name with
  | none => exact definition?_of_none lacks _
  | some body => rw [definition?, definition?, lacks]

theorem definition?_append {outer others : Chain} (inner : Chain)
    (same : Chain.definition? outer name = Chain.definition? others name) :
    Chain.definition? (inner ++ outer) name = Chain.definition? (inner ++ others) name := by
  simp only [definition?_eq_findSome?, List.findSome?_append] at same ⊢
  rw [same]

/-- What is left out of a chain where a template is entered would not be looked up. -/
theorem definition?_enter (chain : Chain) (program : Program) (name : String) :
    (chain.enter program).definition? name = Chain.definition? (program :: chain) name := by
  unfold enter Context.enterBlocks
  split
  · rename_i omitted
    rcases Bool.or_eq_true _ _ ▸ omitted with empty | first
    · refine (definition?_of_none ?_ chain).symm
      rw [List.isEmpty_iff.mp empty]
      rfl
    · obtain ⟨outer, rfl⟩ : ∃ outer, chain = program :: outer :=
        List.head?_eq_some_iff.mp (of_decide_eq_true first)
      exact (definition?_cons_cons program outer name).symm
  · rfl

/-- So a block is found as if each template that is entered were kept. -/
theorem definition?_foldl_enter (chain : Chain) (entered : List Program) (name : String) :
    Chain.definition? (entered.foldl enter chain) name =
      Chain.definition? (entered.reverse ++ chain) name := by
  induction entered generalizing chain with
  | nil => rfl
  | cons program rest inductionHypothesis =>
      rw [List.foldl_cons, inductionHypothesis, List.reverse_cons, List.append_assoc,
        List.singleton_append]
      exact definition?_append (rest.reverse) (definition?_enter chain program name)

end Chain

end BraceTemplate.Render
