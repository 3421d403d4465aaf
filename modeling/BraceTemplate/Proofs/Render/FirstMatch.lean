import BraceTemplate.Proofs.Render.Matching
import BraceTemplate.Proofs.Render.Refinement

/-!
# A select renders the first branch that matches

The branches of a select are the comparisons in its body that take their key from it. Which of them
match is told by their comparisons alone, one after the other: the first that holds renders its
block, and all others render what they have for the case that they do not. The mark that the select
keeps for all contexts in its frame comes to the same.
-/

namespace BraceTemplate

/-- A comparison that takes its key from the select it stands in. -/
structure Branch where
  comparison : Comparison
  params : ParamExprs
  entries : NamedBodies

def Op.branch? (helpers : Members Helper) : Op → Option Branch
  | helper name none params entries =>
    match helpers.find? name with
    | some (.builtin (.compare comparison)) =>
      if params.any fun entry => entry.1 == "key" then none
      else some ⟨comparison, params, entries⟩
    | _ => none
  | _ => none

/-- The helpers that open a select for a main body. -/
def BuiltinHelper.opensSelect : BuiltinHelper → Bool
  | .select | .math => true
  | _ => false

namespace Render

open Output

/-! ## Rendering by first match -/

/-- The handle after a helper: the one that it left, or where it stood if it failed. -/
def afterHelper (writer : Writer) : Except RenderError Writer → Writer
  | .ok next => next
  | .error _ => writer

section Branches

variable (calls : Calls) (program : Program) (context : Context) (key : Value)

def branchHolds (branch : Branch) (writer : Writer) : Action Bool := do
  let evaluated := params program context branch.params
  let expected := (← resolveParam? calls evaluated "value" writer context).getD .null
  let type := (evaluated.find? "type").bind Value.text?
  pure (branch.comparison.holds (Operand.coerce key type context)
    (Operand.coerce expected type context))

def passOver (helpers : Members Helper) : List Op → Writer → Action (Except RenderError Writer)
  | [], writer => pure (.ok writer)
  | op :: rest, writer =>
    match op.branch? helpers with
    | none => do
      match ← runOp calls program context writer op with
      | .error error => pure (.error error)
      | .ok next => passOver helpers rest next
    | some branch => do
      let _ ← branchHolds calls program context key branch writer
      let ended ← calls.renderNamed ⟨program, branch.entries⟩ elseBody writer context
      passOver helpers rest (afterHelper writer ended)

end Branches

def renderMatching (depth : Nat) (helpers : Members Helper) (program : Program) (context : Context)
    (key : Value) (branch : Branch) (writer : Writer) : Action (Except RenderError Writer) :=
  match Bodies.find? ⟨program, branch.entries⟩ mainBody, depth with
  | none, _ => pure (.ok writer)
  | some _, 0 => outOfSteps
  | some id, depth + 1 =>
    passOver (callsWithin depth) program context key helpers (program.body id) writer

/-- Renders the steps of a select of which no branch has matched: the first branch that holds
renders its block, and those behind it are passed over. -/
def pickFirst (depth : Nat) (helpers : Members Helper) (program : Program) (context : Context)
    (key : Value) : List Op → Writer → Action (Except RenderError Writer)
  | [], writer => pure (.ok writer)
  | op :: rest, writer =>
    match op.branch? helpers with
    | none => do
      match ← runOp (callsWithin depth) program context writer op with
      | .error error => pure (.error error)
      | .ok next => pickFirst depth helpers program context key rest next
    | some branch => do
      if ← branchHolds (callsWithin depth) program context key branch writer then
        setSettled true
        let ended ← renderMatching depth helpers program context key branch writer
        passOver (callsWithin depth) program context key helpers rest (afterHelper writer ended)
      else
        let ended ← (callsWithin depth).renderNamed ⟨program, branch.entries⟩ elseBody writer
          context
        pickFirst depth helpers program context key rest (afterHelper writer ended)

def selectKey? (calls : Calls) (helper : BuiltinHelper) (writer : Writer) (context : Context)
    (params : Value.Params) : Action (Option Value) :=
  match helper with
  | .select => resolveParam? calls params "key" writer context
  | .math => do
    let key? ← resolveParam? calls params "key" writer context
    let method? ← resolveParam? calls params "method" writer context
    match key?, method?.filter Value.isTruthy with
    | some key, some method => do
      let operand? ← resolveParam? calls params "operand" writer context
      let operand := (operand?.map Calculation.quantity).getD Operand.undefined
      let rounds := ((params.find? "round").map Value.isTruthy).getD false
      pure ((Calculation.result? method.display (Calculation.quantity key) operand).map fun exact =>
        Value.ofFloat (if rounds then Calculation.roundHalfUp exact else exact))
    | _, _ => pure none
  | _ => pure none

/-- Renders a main body in the select that a helper opens for it, by first match. -/
def selectFirst (depth : Nat) (helpers : Members Helper) (helper : BuiltinHelper)
    (program : Program) (id : BodyId) (context : Context) (params : Value.Params)
    (writer : Writer) : Action (Except RenderError Writer) := do
  match ← selectKey? (callsWithin (depth + 1)) helper writer context params with
  | none => pure (.ok writer)
  | some key => do
    let ended ← withFreshSelect
      (pickFirst depth helpers program (context.pushSelect key) key (program.body id) writer)
    pure (.ok (afterHelper writer ended))

/-- Actions that do the same from all stores whose state has a property. -/
def SameFrom {Result : Type} (holds : State → Prop) (action other : Action Result) : Prop :=
  ∀ store : Store Continuation Observer State, holds store.client → action store = other store

namespace SameFrom

variable {Result Next : Type} {holds : State → Prop}

theorem refl (action : Action Result) : SameFrom holds action action :=
  fun _ _ => rfl

theorem trans {first second third : Action Result} (one : SameFrom holds first second)
    (two : SameFrom holds second third) : SameFrom holds first third :=
  fun store held => (one store held).trans (two store held)

theorem followedBy {action other : Action Result} (first : SameFrom holds action other)
    (next : Result → Action Next) : SameFrom holds (action >>= next) (other >>= next) :=
  fun store held => by rw [run_bind, run_bind, first store held]

/-- Actions that do the same go on alike as long as the property is kept. -/
theorem bind {action other : Action Result} {next otherNext : Result → Action Next}
    (first : SameFrom holds action other) (keeps : KeepsClient holds action)
    (second : ∀ result, SameFrom holds (next result) (otherNext result)) :
    SameFrom holds (action >>= next) (other >>= otherNext) := by
  intro store held
  rw [run_bind, run_bind, ← first store held]
  cases ran : action store with
  | none => rfl
  | some found =>
      obtain ⟨result, later⟩ := found
      exact second result later (keeps store result later held ran)

end SameFrom

/-! ## Branches -/

section Branches

variable {calls : Calls} {program : Program} {context : Context} {key : Value} {writer : Writer}
variable {helpers : Members Helper} {matched : Bool}

/-- A branch is a helper tag without a key or a context of its own whose helper compares. -/
theorem exists_of_branch? {op : Op} {branch : Branch}
    (isBranch : op.branch? helpers = some branch) :
    ∃ name, op = .helper name none branch.params branch.entries ∧
      helpers.find? name = some (.builtin (.compare branch.comparison)) ∧
      (branch.params.any fun entry => entry.1 == "key") = false := by
  unfold Op.branch? at isBranch
  split at isBranch
  · rename_i name exprs entries
    split at isBranch
    · rename_i comparison found
      split at isBranch
      · cases isBranch
      · rename_i keyless
        cases isBranch
        exact ⟨name, rfl, found, Bool.eq_false_iff.mpr keyless⟩
    · cases isBranch
  · cases isBranch

/-- A key that none of the parameters of a tag has is not among what they evaluate to. -/
theorem find?_params_eq_none {exprs : ParamExprs} {sought : String}
    (absent : (exprs.any fun entry => entry.1 == sought) = false) :
    (params program context exprs).find? sought = none := by
  have each : ∀ entry ∈ params program context exprs, entry.1 ≠ sought := by
    refine Members.forall_mem_ofList fun entry member => ?_
    obtain ⟨expr, inside, evaluated⟩ := List.mem_filterMap.mp member
    obtain ⟨value, _, rfl⟩ := Option.map_eq_some_iff.mp evaluated
    exact ne_of_beq_false (by simpa using List.any_eq_false.mp absent expr inside)
  cases found : (params program context exprs).find? sought with
  | none => rfl
  | some value => exact absurd rfl (each _ (Members.mem_of_find? found))

/-- A comparison without a key of its own takes that of the select, and may match as long as no
branch has. -/
theorem comparisonKey?_sameFrom {evaluated : Value.Params}
    (keyless : evaluated.find? "key" = none) (selects : context.select? = some key) :
    SameFrom (Stands helpers matched) (comparisonKey? calls writer context evaluated)
      (pure (some (key, !matched))) := by
  intro store stands
  have unkeyed : resolveParam? calls evaluated "key" writer context = pure none := by
    unfold Render.resolveParam?
    rw [keyless]
  unfold comparisonKey?
  rw [unkeyed, pure_bind, selects, ← stands.settled]
  rfl

/-- A branch renders its block if it holds and no branch has matched, and notes this. -/
theorem runComparison_sameFrom {branch : Branch}
    (keyless : (branch.params.any fun entry => entry.1 == "key") = false)
    (selects : context.select? = some key) :
    SameFrom (Stands helpers matched)
      (runComparison calls branch.comparison writer context ⟨program, branch.entries⟩
        (params program context branch.params))
      (do
        let holds ← branchHolds calls program context key branch writer
        if !matched && holds then
          setSettled true
          calls.renderNamed ⟨program, branch.entries⟩ mainBody writer context
        else calls.renderNamed ⟨program, branch.entries⟩ elseBody writer context) := by
  have keyed : SameFrom (Stands helpers matched)
      (comparisonKey? calls writer context (params program context branch.params))
      (pure (some (key, !matched))) :=
    comparisonKey?_sameFrom (find?_params_eq_none keyless) selects
  refine (keyed.followedBy _).trans ?_
  rw [pure_bind]
  simp only [branchHolds, bind_assoc, pure_bind, selects, Option.isSome_some, if_true]
  exact .refl _

/-- A helper tag runs the helper under its name. -/
theorem runOp_helper {store : Store Continuation Observer State} {name : String} {helper : Helper}
    (found : store.client.engine.helpers.find? name = some helper) (rebased : Option Identifier)
    (exprs : ParamExprs) (entries : NamedBodies) :
    runOp calls program context writer (.helper name rebased exprs entries) store =
      (runHelper calls helper writer (context.forBodies rebased) ⟨program, entries⟩
        (params program context exprs) >>= fun ended =>
          pure (.ok (afterHelper writer ended))) store := by
  change renderHelper calls writer name ⟨program, entries⟩ (params program context exprs)
    (context.forBodies rebased) store = _
  have looked : engine store = some (store.client.engine, store) := rfl
  unfold renderHelper
  rw [run_bind, looked, Option.bind_some]
  simp only [found]
  refine congrFun (bind_congr fun ended => ?_) store
  cases ended <;> rfl

/-- A step that is a branch runs its comparison. -/
theorem runOp_sameFrom {op : Op} {branch : Branch} (isBranch : op.branch? helpers = some branch) :
    SameFrom (Stands helpers matched) (runOp calls program context writer op)
      (runComparison calls branch.comparison writer context ⟨program, branch.entries⟩
        (params program context branch.params) >>= fun ended =>
          pure (.ok (afterHelper writer ended))) := by
  obtain ⟨name, rfl, found, _⟩ := exists_of_branch? isBranch
  intro store stands
  rw [← stands.helpers] at found
  exact runOp_helper found none _ _

/-- A branch renders its block if it holds and no branch has matched. -/
theorem runOp_branch {op : Op} {branch : Branch} (isBranch : op.branch? helpers = some branch)
    (selects : context.select? = some key) :
    SameFrom (Stands helpers matched) (runOp calls program context writer op)
      (branchHolds calls program context key branch writer >>= fun holds =>
        (if !matched && holds then do
          setSettled true
          calls.renderNamed ⟨program, branch.entries⟩ mainBody writer context
        else calls.renderNamed ⟨program, branch.entries⟩ elseBody writer context) >>= fun ended =>
          pure (.ok (afterHelper writer ended))) := by
  obtain ⟨_, _, _, keyless⟩ := exists_of_branch? isBranch
  refine (runOp_sameFrom isBranch).trans ?_
  refine ((runComparison_sameFrom keyless selects).followedBy _).trans ?_
  rw [bind_assoc]
  exact .refl _

/-- The steps behind a branch go on from the handle that it leaves. -/
theorem runOps_branch {op : Op} {branch : Branch} (isBranch : op.branch? helpers = some branch)
    (selects : context.select? = some key) (rest : List Op) :
    SameFrom (Stands helpers matched) (runOps calls program context (op :: rest) writer)
      (branchHolds calls program context key branch writer >>= fun holds =>
        (if !matched && holds then do
          setSettled true
          calls.renderNamed ⟨program, branch.entries⟩ mainBody writer context
        else calls.renderNamed ⟨program, branch.entries⟩ elseBody writer context) >>= fun ended =>
          runOps calls program context rest (afterHelper writer ended)) := by
  refine ((runOp_branch isBranch selects).followedBy _).trans ?_
  simp only [bind_assoc, pure_bind]
  exact .refl _

/-- Once a match is noted, what relies on one may. -/
theorem noteMatch {Result : Type} {next other : Action Result}
    (same : SameFrom (Stands helpers true) next other) :
    SameFrom (Stands helpers matched) (setSettled true >>= fun _ => next)
      (setSettled true >>= fun _ => other) :=
  fun store stands =>
    same { store with client := ⟨store.client.engine, true⟩ } ⟨stands.helpers, rfl⟩

end Branches

section Passing

variable {calls : Calls} {program : Program} {context : Context} {key : Value} {writer : Writer}
variable {helpers : Members Helper} {matched : Bool}

theorem leaves_branchHolds (leave : calls.Leave helpers matched) {branch : Branch}
    (leaves : TagLeaves helpers matched context Bodies.none
      (params program context branch.params)) :
    KeepsClient (Stands helpers matched)
      (branchHolds calls program context key branch writer) :=
  (leave.resolveParam? leaves _).bind fun _ => .pure _

/-- Once a branch has matched the others are passed over. -/
theorem runOps_passOver (leave : calls.Leave helpers true) (selects : context.select? = some key)
    (id : BodyId) (ops : List Op) (members : ∀ op ∈ ops, op ∈ program.body id) :
    SameFrom (Stands helpers true) (runOps calls program context ops writer)
      (passOver calls program context key helpers ops writer) := by
  induction ops generalizing writer with
  | nil => exact .refl _
  | cons op rest inductionHypothesis =>
      have later : ∀ next, SameFrom (Stands helpers true)
          (runOps calls program context rest next)
          (passOver calls program context key helpers rest next) :=
        fun _ => inductionHypothesis fun op member => members op (List.mem_cons_of_mem _ member)
      have sheltered : Sheltered true context := .inl rfl
      unfold passOver
      cases found : op.branch? helpers with
      | none =>
          refine (SameFrom.refl _).bind
            (leave.runOp (.sheltered sheltered) (members op List.mem_cons_self)) fun ended => ?_
          cases ended with
          | error error => exact .refl _
          | ok next => exact later next
      | some branch =>
          refine (runOps_branch found selects rest).trans ?_
          refine (SameFrom.refl _).bind (leaves_branchHolds leave (.sheltered sheltered))
            fun _ => ?_
          simp only [Bool.not_true, Bool.false_and, Bool.false_eq_true, if_false]
          exact (SameFrom.refl _).bind (leave.renderNamed fun _ _ => .sheltered sheltered)
            fun _ => later _

/-- In the block of the branch that matches the branches are passed over. -/
theorem renderNamed_sameFrom (depth : Nat) (selects : context.select? = some key)
    (branch : Branch) :
    SameFrom (Stands helpers true)
      ((callsWithin depth).renderNamed ⟨program, branch.entries⟩ mainBody writer context)
      (renderMatching depth helpers program context key branch writer) := by
  unfold Calls.renderNamed renderMatching
  cases Bodies.find? ⟨program, branch.entries⟩ mainBody with
  | none => exact .refl _
  | some id =>
      cases depth with
      | zero => exact .refl _
      | succ depth =>
          exact runOps_passOver (callsWithin_leave helpers true depth) selects id _
            fun _ member => member

end Passing

/-! ## The first match -/

section First

variable {program : Program} {context : Context} {key : Value} {writer : Writer}
variable {helpers : Members Helper}

/-- A step of a select: text, a reference, or a branch whose body for the case that it does not
match comes to no comparison. -/
inductive StepOfSelect (helpers : Members Helper) (block? : String → Option BlockRef)
    (program : Program) (op : Op) : Prop
  | plain (isPlain : op.isPlain = true)
  | branch {branch : Branch} (isBranch : op.branch? helpers = some branch)
      (lacks : ∀ id, Bodies.find? ⟨program, branch.entries⟩ elseBody = some id →
        LacksComparisons helpers block? program id)

theorem branch?_eq_none {op : Op} (isPlain : op.isPlain = true) : op.branch? helpers = none := by
  cases op with
  | write text => rfl
  | reference identifier chain => rfl
  | _ => cases isPlain

theorem leaves_runPlain {calls : Calls} {matched : Bool} (leave : calls.Leave helpers matched)
    (isQuoted : IsQuoted context) {op : Op} (isPlain : op.isPlain = true) :
    KeepsClient (Stands helpers matched) (runOp calls program context writer op) := by
  cases op with
  | write text => exact (KeepsClient.write _).bind fun _ => .pure _
  | reference identifier chain =>
      exact (leave.renderReference (.inr isQuoted) _ _).bind fun _ => .pure _
  | _ => cases isPlain

/-- The parameters of a branch leave the select as it is. -/
theorem tagLeaves_branch {matched : Bool} (isQuoted : IsQuoted context) (quotes : program.Quotes)
    {id : BodyId} {op : Op} (member : op ∈ program.body id) {branch : Branch}
    (isBranch : op.branch? helpers = some branch) :
    TagLeaves helpers matched context Bodies.none (params program context branch.params) := by
  obtain ⟨name, rfl, _, _⟩ := exists_of_branch? isBranch
  refine .lacking isQuoted (Render.holds_params isQuoted fun inner here _ => ?_)
    fun _ _ none => by cases none
  exact .inline quotes (quotes.isPlain member here)

/-- Before a branch has matched, rendering the steps of a select picks the first that matches. -/
theorem runOps_pickFirst (depth : Nat) (quotes : program.Quotes) (isQuoted : IsQuoted context)
    (selects : context.select? = some key) (id : BodyId) (ops : List Op)
    (members : ∀ op ∈ ops, op ∈ program.body id)
    (steps : ∀ op ∈ ops, StepOfSelect helpers context.block? program op) :
    SameFrom (Stands helpers false) (runOps (callsWithin depth) program context ops writer)
      (pickFirst depth helpers program context key ops writer) := by
  have leave := callsWithin_leave helpers false depth
  induction ops generalizing writer with
  | nil => exact .refl _
  | cons op rest inductionHypothesis =>
      have inRest : ∀ op ∈ rest, op ∈ program.body id := fun op member =>
        members op (List.mem_cons_of_mem _ member)
      have later : ∀ next, SameFrom (Stands helpers false)
          (runOps (callsWithin depth) program context rest next)
          (pickFirst depth helpers program context key rest next) := fun _ =>
        inductionHypothesis inRest fun op member => steps op (List.mem_cons_of_mem _ member)
      unfold pickFirst
      cases steps op List.mem_cons_self with
      | plain isPlain =>
          rw [branch?_eq_none isPlain]
          refine (SameFrom.refl _).bind (leaves_runPlain leave isQuoted isPlain) fun ended => ?_
          cases ended with
          | error error => exact .refl _
          | ok next => exact later next
      | @branch branch isBranch lacks =>
          rw [isBranch]
          refine (runOps_branch isBranch selects rest).trans ?_
          have here : op ∈ program.body id := members op List.mem_cons_self
          refine (SameFrom.refl _).bind (leaves_branchHolds leave
            (tagLeaves_branch isQuoted quotes here isBranch)) fun holds => ?_
          cases holds with
          | false =>
              exact (SameFrom.refl _).bind (leave.renderNamed fun other found =>
                .lacking isQuoted (lacks other found)) fun _ => later _
          | true =>
              simp only [Bool.not_false, Bool.and_self, if_true, bind_assoc]
              have matching := callsWithin_leave helpers true depth
              have sheltered : Sheltered true context := .inl rfl
              exact noteMatch ((renderNamed_sameFrom depth selects branch).bind
                (matching.renderNamed fun _ _ => .sheltered sheltered) fun _ =>
                  runOps_passOver matching selects id rest inRest)

end First

/-! ## Selects -/

section Selects

variable {calls : Calls} {program : Program} {context : Context} {writer : Writer}
variable {helpers : Members Helper} {bodies : Bodies} {evaluated : Value.Params}

/-- Such a helper renders its main body in a select with a key, if there is one. -/
theorem runBuiltin_opensSelect {helper : BuiltinHelper} (opens : helper.opensSelect = true)
    {id : BodyId} (main : bodies.find? mainBody = some id) :
    runBuiltin calls helper writer context bodies evaluated =
      selectKey? calls helper writer context evaluated >>= fun
        | none => pure (.ok writer)
        | some key => renderSelect calls key writer context bodies := by
  cases helper with
  | select => rfl
  | math =>
      unfold runBuiltin runMath selectKey?
      simp only [bind_assoc, main]
      refine bind_congr fun key? => bind_congr fun method? => ?_
      cases key? with
      | none => rfl
      | some key =>
          cases method?.filter Value.isTruthy with
          | none => rfl
          | some method =>
              simp only [bind_assoc, pure_bind]
              refine bind_congr fun operand? => ?_
              cases Calculation.result? _ _ _ <;> rfl
  | _ => cases opens

/-- A select of its own starts with no match. -/
theorem withFreshSelect_sameFrom {Result : Type} {action other : Action Result}
    (same : SameFrom (Stands helpers false) action other) :
    SameFrom (fun state => state.engine.helpers = helpers) (withFreshSelect action)
      (withFreshSelect other) := by
  intro store standing
  have inside := same { store with client := ⟨store.client.engine, false⟩ } ⟨standing, rfl⟩
  exact congrArg (Option.bind · fun found => some (found.1, { found.2 with
    client := { found.2.client with settled := store.client.settled } })) inside

theorem keepsHelpers_selectKey? (depth : Nat) (helper : BuiltinHelper) :
    KeepsClient (fun state => state.engine.helpers = helpers)
      (selectKey? (callsWithin depth) helper writer context evaluated) := by
  have each : ∀ key, KeepsClient (fun state => state.engine.helpers = helpers)
      (resolveParam? (callsWithin depth) evaluated key writer context) := fun key =>
    keepsHelpers ((callsWithin_respect _ depth).resolveParam? key
      (fun entry _ => entry.2.holds_true) context.holds_true)
  cases helper with
  | select => exact each _
  | math =>
      refine (each _).bind fun key? => (each _).bind fun method? => ?_
      split
      · exact (each _).bind fun _ => .pure _
      · exact .pure _
  | _ => exact .pure _

/-- A tag that opens a select renders the branches in its main body by first match, where the steps
of this body are texts, references and branches, and what a branch has for the case that it does not
match comes to no comparison. -/
theorem runOp_pickFirst (depth : Nat) {store : Store Continuation Observer State} {name : String}
    {helper : BuiltinHelper} {rebased : Option Identifier} {exprs : ParamExprs}
    {entries : NamedBodies} {id : BodyId}
    (found : store.client.engine.helpers.find? name = some (.builtin helper))
    (opens : helper.opensSelect = true) (main : Bodies.find? ⟨program, entries⟩ mainBody = some id)
    (quotes : program.Quotes) (isQuoted : IsQuoted context)
    (steps : ∀ op ∈ program.body id,
      StepOfSelect store.client.engine.helpers context.block? program op) :
    runOp (callsWithin (depth + 1)) program context writer (.helper name rebased exprs entries)
        store =
      selectFirst depth store.client.engine.helpers helper program id (context.forBodies rebased)
        (params program context exprs) writer store := by
  have quoted : ∀ key, IsQuoted ((context.forBodies rebased).pushSelect key) := fun key =>
    isQuoted.forBodies.pushSelect key
  have inScope : (context.forBodies rebased).block? = context.block? := by
    cases rebased <;> rfl
  rw [runOp_helper found]
  simp only [runHelper, runBuiltin_opensSelect opens main, bind_assoc]
  refine (SameFrom.refl _).bind (keepsHelpers_selectKey? (depth + 1) helper) (fun key? => ?_) store
    rfl
  cases key? with
  | none => exact .refl _
  | some key =>
      refine (withFreshSelect_sameFrom ?_).followedBy _
      have entered : (callsWithin (depth + 1)).renderNamed ⟨program, entries⟩ mainBody writer
          ((context.forBodies rebased).pushSelect key) =
          runOps (callsWithin depth) program ((context.forBodies rebased).pushSelect key)
            (program.body id) writer := by
        unfold Calls.renderNamed
        rw [main]
        rfl
      rw [entered]
      exact runOps_pickFirst depth quotes (quoted key) rfl id _ (fun _ member => member)
        fun op member => inScope ▸ steps op member

end Selects

/-- A select on "k": text between three branches, and one more in the block of the second. -/
def branching : Program :=
  let comparing (name text : String) (entries : NamedBodies) : Op :=
    .helper name none [("value", .literal (.string text))] entries
  ⟨none, 0,
    [[.helper "select" none [("key", .identifier (.key "k"))] [(mainBody, 1)]],
      [comparing "eq" "z" [(mainBody, 2), (elseBody, 3)], .write "-",
        comparing "eq" "a" [(mainBody, 4)], comparing "default" "" [(mainBody, 2), (elseBody, 3)]],
      [.write "x"], [.write "n"], [.write "Y", comparing "eq" "a" [(mainBody, 2)]]], []⟩

/-- A render that writes to one outlet. -/
def selecting : Store Continuation Observer State :=
  ⟨#[.opened (.collect "" none none)], #[], #[], ⟨.ofConfig .standard, false⟩⟩

/-- The data that it is rendered against. -/
def chosen : Context :=
  .ofValue (.ofJson (.object [("k", .string "a")]))

/-- The second branch is the first that matches; the last one holds too, and is passed over like the
one in the block. -/
theorem runOp_pickFirst_second :
    ∃ last later,
      selectFirst 2 Helper.standard .select branching 1 chosen [("key", .string "a")] (.onOutlet 0)
        selecting = some (.ok last, later) ∧
      later.outlets[0]?.map (fun outlet => outlet.waiting.map Segment.text) = some ["n-Yn"] := by
  have quotes : branching.Quotes := by decide
  have lacks : LacksComparisons Helper.standard chosen.block? branching 3 :=
    .ofPlain quotes (by decide)
  have steps : ∀ op ∈ branching.body 1,
      StepOfSelect Helper.standard chosen.block? branching op := by
    refine List.forall_mem_cons.mpr ⟨.branch rfl fun _ found => ?_, List.forall_mem_cons.mpr
      ⟨.plain rfl, List.forall_mem_cons.mpr ⟨.branch rfl fun _ found => ?_,
        List.forall_mem_singleton.mpr (.branch rfl fun _ found => ?_)⟩⟩⟩
    · cases found
      exact lacks
    · cases found
    · cases found
      exact lacks
  have isQuoted : IsQuoted chosen := .ofValue (Value.holds_ofJson _)
  have picked : runOp (callsWithin 3) branching chosen (.onOutlet 0)
      (.helper "select" none [("key", .identifier (.key "k"))] [(mainBody, 1)]) selecting =
      selectFirst 2 Helper.standard .select branching 1 chosen [("key", .string "a")] (.onOutlet 0)
        selecting :=
    runOp_pickFirst 2 rfl rfl rfl quotes isQuoted steps
  have ran : ∃ last later,
      runOp (callsWithin 3) branching chosen (.onOutlet 0)
        (.helper "select" none [("key", .identifier (.key "k"))] [(mainBody, 1)]) selecting =
          some (.ok last, later) ∧
      later.outlets[0]?.map (fun outlet => outlet.waiting.map Segment.text) = some ["n-Yn"] :=
    ⟨_, _, rfl, rfl⟩
  rwa [picked] at ran

/-- The text of a template that is rendered by itself. -/
def textAlone? (source : String) (data : Json) : Option String :=
  let registry := Program.ofSources .standard [("main", source)]
  (renderToString (callsWithin 9) "main" (.ofJson data)
    (Store.initial ⟨Engine.fresh .standard registry .none, false⟩)).bind fun found =>
      found.1.toOption

/-- A comparison with a context of its own does not stand in the select, and one in the override of
a block that another branch yields to takes the match from the branches behind. -/
theorem selectFirst_outsideOfBody :
    textAlone? "\x7b@select key=k\x7d\x7b@eq:c value=\"a\"\x7dY\x7b/eq\x7d\x7b/select\x7d"
        (.object [("c", .object []), ("k", .string "a")]) = some "" ∧
      textAlone? ("\x7b<b\x7d\x7b@eq value=\"a\"\x7dX\x7b/eq\x7d\x7b/b\x7d\x7b@select key=k\x7d" ++
          "\x7b@eq value=\"z\"\x7dn\x7b:else\x7d\x7b+b/\x7d\x7b/eq\x7d" ++
          "\x7b@eq value=\"a\"\x7dY\x7b/eq\x7d\x7b/select\x7d")
        (.object [("k", .string "a")]) = some "X" := by
  decide +kernel

end Render

end BraceTemplate
