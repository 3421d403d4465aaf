import BraceTemplate.Proofs.Render.FirstMatch
import BraceTemplate.Render.Entry

/-!
# What sections over data render

A section over data renders bodies of its tag in turn: the other branch where the value is missing,
and elsewhere the main body, once for each element of an array and once otherwise. Which bodies are
rendered does not depend on what they do, so it is said for all `Calls`.
-/

namespace BraceTemplate

/-- What sections take for missing: no value at all, null, false, the empty text and the empty
array. -/
inductive Value.IsMissing : Option Value → Prop
  | unknown : IsMissing none
  | null : IsMissing (some .null)
  | no : IsMissing (some (.bool false))
  | blank : IsMissing (some (.string ""))
  | nothing : IsMissing (some (.array []))

def exchangedName (name : String) : String :=
  if name = mainBody then elseBody else if name = elseBody then mainBody else name

/-- The bodies of a tag with the main body and the other branch exchanged. -/
def NamedBodies.exchanged (entries : NamedBodies) : NamedBodies :=
  entries.map fun entry => (exchangedName entry.1, entry.2)

namespace Render

open Output

/-- The name of a body that is rendered, and the context that it is rendered with. -/
structure BodyTurn where
  name : String
  context : Context

/-- The turns of a main body: one for each element of an array, and one for any other value, which
is pushed where it is more than true. -/
def mainTurns (context : Context) : Option Value → List BodyTurn
  | some (.array items) =>
    items.zipIdx.map fun entry => ⟨mainBody, context.pushIndexed entry.1 entry.2 items.length⟩
  | some (.bool true) => [⟨mainBody, context⟩]
  | some value => [⟨mainBody, context.push value⟩]
  | none => []

def Calls.renderTurns (calls : Calls) (bodies : Bodies) :
    List BodyTurn → Writer → Action (Except RenderError Writer)
  | [], writer => pure (.ok writer)
  | turn :: rest, writer => do
    match ← calls.renderNamed bodies turn.name writer turn.context with
    | .error error => pure (.error error)
    | .ok next => calls.renderTurns bodies rest next

/-- A step renders bodies in turn and does nothing else, whatever rendering a body does. -/
def Takes (program : Program) (context : Context) (op : Op) (bodies : Bodies)
    (turns : List BodyTurn) : Prop :=
  ∀ calls writer, runOp calls program context writer op = calls.renderTurns bodies turns writer

section Turns

variable {calls : Calls} {program : Program} {context : Context} {bodies : Bodies}
variable {writer : Writer}

theorem renderTurns_single (name : String) :
    calls.renderTurns bodies [⟨name, context⟩] writer =
      calls.renderNamed bodies name writer context := by
  have unchanged : (fun result : Except RenderError Writer =>
      match result with
      | .error error => (pure (.error error) : Action (Except RenderError Writer))
      | .ok next => pure (.ok next)) = pure := by
    funext result
    cases result <;> rfl
  simp only [Calls.renderTurns, unchanged, bind_pure]

/-- A body that is not given has no turns. -/
theorem renderTurns_of_none {name : String} (missing : bodies.find? name = none)
    {turns : List BodyTurn} (same : ∀ turn ∈ turns, turn.name = name) :
    calls.renderTurns bodies turns writer = pure (.ok writer) := by
  induction turns with
  | nil => rfl
  | cons turn rest inductionHypothesis =>
      have nothing : calls.renderNamed bodies turn.name writer turn.context =
          pure (.ok writer) := by
        rw [same turn (by simp)]
        simp only [Calls.renderNamed, missing]
      rw [Calls.renderTurns, nothing, pure_bind]
      exact inductionHypothesis fun later member => same later (by simp [member])

/-- A body has a turn for each element of an array, from a place on. -/
theorem renderElements_eq_renderTurns {body : BodyId} (found : bodies.find? mainBody = some body)
    (length index : Nat) (items : List Value) :
    renderElements calls bodies.program body context length index items writer =
      calls.renderTurns bodies ((items.zipIdx index).map fun entry =>
        ⟨mainBody, context.pushIndexed entry.1 entry.2 length⟩) writer := by
  induction items generalizing index writer with
  | nil => rfl
  | cons item rest inductionHypothesis =>
      rw [renderElements, List.zipIdx_cons, List.map_cons, Calls.renderTurns]
      simp only [Calls.renderNamed, found]
      refine bind_congr fun result => ?_
      cases result with
      | error error => rfl
      | ok next => exact inductionHypothesis (index + 1)

/-- The bodies of a section for a missing value: the other branch, unless the value is the empty
array and there is no main body. -/
theorem renderEach_of_isMissing {value? : Option Value} (isMissing : Value.IsMissing value?)
    (mainGiven : value? = some (.array []) → (bodies.find? elseBody).isSome →
      (bodies.find? mainBody).isSome) :
    renderEach calls writer context value? bodies =
      calls.renderNamed bodies elseBody writer context := by
  cases isMissing with
  | nothing =>
      rw [renderEach]
      cases main : bodies.find? mainBody with
      | some body => rfl
      | none =>
          cases other : bodies.find? elseBody with
          | none => simp only [Calls.renderNamed, other]
          | some id =>
              have given := mainGiven rfl (by rw [other]; rfl)
              rw [main] at given
              cases given
  | _ => rfl

/-- The bodies of a section for a value that is there and no function: the main body in its turns.
-/
theorem renderEach_of_not_isMissing {value? : Option Value}
    (present : ¬ Value.IsMissing value?) :
    renderEach calls writer context value? bodies =
      calls.renderTurns bodies (mainTurns context value?) writer := by
  match value? with
  | none => exact absurd .unknown present
  | some .null => exact absurd .null present
  | some (.bool false) => exact absurd .no present
  | some (.bool true) => exact (renderTurns_single mainBody).symm
  | some (.number value) => exact (renderTurns_single mainBody).symm
  | some (.object members) => exact (renderTurns_single mainBody).symm
  | some (.function called) => exact (renderTurns_single mainBody).symm
  | some (.string text) =>
      have filled : Value.isTruthy (.string text) = true := by
        cases empty : text.isEmpty with
        | false => simp [Value.isTruthy, empty]
        | true =>
            rw [String.isEmpty_iff] at empty
            exact absurd (empty ▸ .blank) present
      rw [renderEach, if_pos filled]
      · exact (renderTurns_single mainBody).symm
      all_goals simp
  | some (.array items) =>
      rw [renderEach]
      cases main : bodies.find? mainBody with
      | none =>
          refine (renderTurns_of_none main fun turn member => ?_).symm
          obtain ⟨entry, -, rfl⟩ := List.mem_map.mp member
          rfl
      | some body =>
          cases items with
          | nil => exact absurd .nothing present
          | cons item rest => exact renderElements_eq_renderTurns main _ 0 _

theorem find?_exchanged (entries : NamedBodies) (name : String) :
    Bodies.find? ⟨program, entries.exchanged⟩ (exchangedName name) =
      Bodies.find? ⟨program, entries⟩ name := by
  have exchanges : ∀ first second,
      (exchangedName first == exchangedName second) = (first == second) := by
    intro first second
    unfold exchangedName
    grind [mainBody, elseBody]
  simp [Bodies.find?, NamedBodies.exchanged, List.find?_map, Function.comp_def, exchanges]

theorem renderNamed_exchanged (entries : NamedBodies) (name : String) :
    calls.renderNamed ⟨program, entries.exchanged⟩ (exchangedName name) writer context =
      calls.renderNamed ⟨program, entries⟩ name writer context := by
  simp only [Calls.renderNamed, find?_exchanged]

theorem isPresent_eq_true_iff (value? : Option Value) :
    isPresent value? = true ↔ ¬ Value.IsMissing value? := by
  constructor
  · rintro present missing
    cases missing <;> cases present
  · intro present
    match value? with
    | none => exact absurd .unknown present
    | some .null => exact absurd .null present
    | some (.bool false) => exact absurd .no present
    | some (.bool true) => rfl
    | some (.number _) => rfl
    | some (.object _) => rfl
    | some (.function _) => rfl
    | some (.array []) => exact absurd .nothing present
    | some (.array (_ :: _)) => rfl
    | some (.string text) =>
        cases empty : text.isEmpty with
        | false => simp [isPresent, Value.isEmpty, empty]
        | true =>
            rw [String.isEmpty_iff] at empty
            exact absurd (empty ▸ .blank) present

end Turns

section Sections

variable {program : Program} {context : Context} {identifier : Identifier}
variable {rebased : Option Identifier} {exprs : ParamExprs} {entries : NamedBodies}

theorem takes_each (notFunction : ∀ called, context.resolve? identifier ≠ some (.function called))
    {turns : List BodyTurn}
    (renders : ∀ (calls : Calls) (writer : Writer),
      renderEach calls writer
        (withParams (context.forBodies rebased) (params program context exprs))
        (context.resolve? identifier) ⟨program, entries⟩ =
          calls.renderTurns ⟨program, entries⟩ turns writer) :
    Takes program context (.condition .each identifier rebased exprs entries) ⟨program, entries⟩
      turns := by
  intro calls writer
  rw [← renders calls writer]
  simp only [runOp, renderSection]
  split
  · rename_i called found
    exact absurd found (notFunction _)
  · rfl

theorem takes_present :
    Takes program context (.condition .present identifier rebased exprs entries)
      ⟨program, entries⟩
      [⟨if isPresent (context.resolve? identifier) then mainBody else elseBody,
        context.forBodies rebased⟩] := fun _ _ =>
  (renderTurns_single _).symm

/-- A section that asks whether a value is missing renders what one with the bodies exchanged does
that asks whether it is there. -/
theorem takes_absent_exchanged :
    Takes program context (.condition .absent identifier rebased exprs entries.exchanged)
      ⟨program, entries⟩
      [⟨if isPresent (context.resolve? identifier) then mainBody else elseBody,
        context.forBodies rebased⟩] := by
  intro calls writer
  rw [renderTurns_single, ← renderNamed_exchanged]
  simp only [runOp, renderPresence]
  cases isPresent (context.resolve? identifier) <;> rfl

/-- The three sections over data agree on what is missing: then each of them renders the other
branch, the third one under the name of the main body. In all other cases they render the main body,
the first one in its turns. An empty array without a main body is left out. -/
theorem conditions_agree
    (notFunction : ∀ called, context.resolve? identifier ≠ some (.function called))
    (mainGiven : context.resolve? identifier = some (.array []) →
      (Bodies.find? ⟨program, entries⟩ elseBody).isSome →
        (Bodies.find? ⟨program, entries⟩ mainBody).isSome) :
    let value? := context.resolve? identifier
    let inner := context.forBodies rebased
    let within := withParams inner (params program context exprs)
    let takes (kind : Condition) (held : NamedBodies) (turns : List BodyTurn) : Prop :=
      Takes program context (.condition kind identifier rebased exprs held) ⟨program, entries⟩ turns
    (Value.IsMissing value? →
      takes .each entries [⟨elseBody, within⟩] ∧
        takes .present entries [⟨elseBody, inner⟩] ∧
          takes .absent entries.exchanged [⟨elseBody, inner⟩]) ∧
      (¬ Value.IsMissing value? →
        takes .each entries (mainTurns within value?) ∧
          takes .present entries [⟨mainBody, inner⟩] ∧
            takes .absent entries.exchanged [⟨mainBody, inner⟩]) := by
  have asks := isPresent_eq_true_iff (context.resolve? identifier)
  have present := @takes_present program context identifier rebased exprs entries
  have absent := @takes_absent_exchanged program context identifier rebased exprs entries
  refine ⟨fun isMissing => ?_, fun there => ?_⟩
  · rw [if_neg fun isThere => asks.mp isThere isMissing] at present absent
    refine ⟨takes_each notFunction fun calls writer => ?_, present, absent⟩
    rw [renderEach_of_isMissing isMissing mainGiven]
    exact (renderTurns_single _).symm
  · rw [if_pos (asks.mpr there)] at present absent
    exact ⟨takes_each notFunction fun _ _ => renderEach_of_not_isMissing there, present, absent⟩

/-- The main body has a turn for each of two elements, with a parameter beneath them. -/
theorem conditions_agree_elements :
    let context := Context.ofValue (.ofJson (.object [("a", .array [.null, .string "b"])]))
    let within := context.push (.object [("p", .string "q")])
    let takes (kind : Condition) (held : NamedBodies) (turns : List BodyTurn) : Prop :=
      Takes default context
        (.condition kind (.key "a") none [("p", .literal (.string "q"))] held)
        ⟨default, [(elseBody, 0), (mainBody, 1)]⟩ turns
    takes .each [(elseBody, 0), (mainBody, 1)]
        [⟨mainBody, within.pushIndexed .null 0 2⟩,
          ⟨mainBody, within.pushIndexed (.string "b") 1 2⟩] ∧
      takes .present [(elseBody, 0), (mainBody, 1)] [⟨mainBody, context⟩] ∧
        takes .absent [(mainBody, 0), (elseBody, 1)] [⟨mainBody, context⟩] :=
  (@conditions_agree default _ (.key "a") none [("p", .literal (.string "q"))]
    [(elseBody, 0), (mainBody, 1)] (fun _ found => by cases found) (fun _ _ => rfl)).2
      fun isMissing => by cases isMissing

end Sections

/-- The text of a program that is rendered by itself. -/
def programText? (program : Program) (data : Json) : Option String :=
  (renderToString (callsWithin 9) "main" (.ofJson data)
    (Store.initial ⟨Engine.fresh .standard [("main", program)] .none, false⟩)).bind fun found =>
      found.1.toOption

/-- A program of one section, whose body is another one. -/
def lone (kind : Condition) (name : String) : Program :=
  ⟨none, 0, [[.condition kind (.key "a") none [] [(name, 1)]], [.write "none"]], []⟩

/-- Over an empty array, the section that goes through its elements does not render the other branch
where there is no main body; the section that asks whether the array is there does. -/
theorem conditions_disagree_emptyArray :
    programText? (lone .each elseBody) (.object [("a", .array [])]) = some "" ∧
      programText? (lone .present elseBody) (.object [("a", .array [])]) = some "none" ∧
        programText? (lone .absent mainBody) (.object [("a", .array [])]) = some "none" ∧
          ¬ ∀ (program : Program) (context : Context) (identifier : Identifier)
              (entries : NamedBodies), Value.IsMissing (context.resolve? identifier) →
              Takes program context (.condition .each identifier none [] entries)
                ⟨program, entries⟩ [⟨elseBody, context⟩] := by
  refine ⟨by decide +kernel, by decide +kernel, by decide +kernel, fun agrees => ?_⟩
  have takes := agrees (lone .each elseBody) (.ofValue (.object [("a", .array [])])) (.key "a")
    [(elseBody, 1)] .nothing
  have same := congrFun (takes (callsWithin 1) (.onOutlet 0)) selecting
  have waits := congrArg (fun ran => ran.map fun found =>
    found.2.outlets.toList.map fun outlet => outlet.waiting.map Segment.text) same
  revert waits
  decide +kernel

end Render

end BraceTemplate
