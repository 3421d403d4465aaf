import BraceTemplate.Proofs.Output.Handles
import BraceTemplate.Proofs.Render.Agreement
import BraceTemplate.Proofs.Render.Holding
import BraceTemplate.Render.Run

/-!
# Plain bodies

A body that only writes and refers forks nothing and fails nowhere. Rendering it through a handle
without taps, or through one that keeps what is written, is one write of its text.
-/

namespace BraceTemplate

/-! ## Data without host functions

A value is tame if no function of the host occurs in it: its functions are texts with tags in them
that tags have passed on, and their bodies only write and refer. JSON data is tame, and what
rendering makes of tame data with programs that were compiled from sources is tame again.
-/

namespace Value

/-- A value in which no function of the host occurs. -/
inductive Tame : Value → Prop
  | null : Tame null
  | bool (value : Bool) : Tame (bool value)
  | number (value : Number) : Tame (number value)
  | string (text : String) : Tame (string text)
  | array {items : List Value} (each : ∀ item ∈ items, Tame item) : Tame (array items)
  | object {members : List (String × Value)} (each : ∀ entry ∈ members, Tame entry.2) :
      Tame (object members)
  | inline {program : Program} {body : BodyId} {stamp : Stamp} (isPlain : program.IsPlain body) :
      Tame (function (.inline program body stamp))

end Value

/-- A text that a tag has passed on, whose body only writes and refers. -/
def Function.IsPlain : Function Value → Prop
  | .inline program body _ => program.IsPlain body
  | .host _ _ => False

namespace Value

theorem tame_iff {value : Value} : value.Tame ↔ value.Holds Function.IsPlain := by
  constructor
  · intro tame
    induction tame with
    | null => exact .null
    | bool value => exact .bool value
    | number value => exact .number value
    | string text => exact .string text
    | array each inductionHypothesis => exact .array inductionHypothesis
    | object each inductionHypothesis => exact .object inductionHypothesis
    | inline isPlain => exact .function isPlain
  · intro holds
    induction holds with
    | null => exact .null
    | bool value => exact .bool value
    | number value => exact .number value
    | string text => exact .string text
    | array each inductionHypothesis => exact .array inductionHypothesis
    | object each inductionHypothesis => exact .object inductionHypothesis
    | @function called isAllowed =>
        cases called with
        | inline program body stamp => exact .inline isAllowed
        | host identity function => cases isAllowed

theorem tame_ofJson (json : Json) : (ofJson json).Tame :=
  tame_iff.mpr (holds_ofJson json)

theorem tame_ofNat (value : Nat) : (ofNat value).Tame :=
  .number _

/-- Parameters without functions of the host. -/
def Params.Tame (params : Params) : Prop :=
  ∀ entry ∈ params, entry.2.Tame

theorem Params.tame_iff {params : Params} : params.Tame ↔ params.Holds Function.IsPlain :=
  forall₂_congr fun _ _ => Value.tame_iff

theorem Params.Tame.find? {params : Params} {key : String} {value : Value} (tame : params.Tame)
    (found : params.find? key = some value) : value.Tame :=
  tame _ (Members.mem_of_find? found)

end Value

/-- A context without functions of the host; the programs whose blocks are in scope quote. -/
structure Context.Tame (context : Context) : Prop where
  frames : ∀ frame ∈ context.frames, frame.head.Tame
  globals : context.globals.Tame
  blocks : ∀ program ∈ context.blockChain, program.Quotes

theorem Context.tame_iff {context : Context} :
    context.Tame ↔ context.Holds Function.IsPlain Program.Quotes :=
  ⟨fun tame => ⟨fun frame member => Value.tame_iff.mp (tame.frames frame member),
      Value.tame_iff.mp tame.globals, tame.blocks⟩,
    fun holds => ⟨fun frame member => Value.tame_iff.mpr (holds.frames frame member),
      Value.tame_iff.mpr holds.globals, holds.blocks⟩⟩

namespace Context.Tame

variable {context : Context} {value : Value}

theorem push (tame : context.Tame) (head : value.Tame) : (context.push value).Tame :=
  tame_iff.mpr ((tame_iff.mp tame).push (Value.tame_iff.mp head))

theorem pushIndexed {index length : Nat} (tame : context.Tame) (head : value.Tame) :
    (context.pushIndexed value index length).Tame :=
  tame_iff.mpr ((tame_iff.mp tame).pushIndexed (Value.tame_iff.mp head))

theorem pushSelect (tame : context.Tame) (key : Value) : (context.pushSelect key).Tame :=
  tame_iff.mpr ((tame_iff.mp tame).pushSelect key)

theorem ofValue (tame : value.Tame) : (Context.ofValue value).Tame :=
  tame_iff.mpr (.ofValue (Value.tame_iff.mp tame))

theorem named (tame : context.Tame) (name : String) : (context.named name).Tame :=
  ⟨tame.frames, tame.globals, tame.blocks⟩

theorem withBlocks {program : Program} (tame : context.Tame) (quotes : program.Quotes) :
    (context.withBlocks program).Tame :=
  tame_iff.mpr ((tame_iff.mp tame).withBlocks quotes)

theorem forBlock (tame : context.Tame) : context.forBlock.Tame :=
  ⟨tame.frames, tame.globals, tame.blocks⟩

theorem forPartial {params : Value.Params} (tame : context.Tame) (ofParams : params.Tame) :
    (context.forPartial params).Tame :=
  tame_iff.mpr ((tame_iff.mp tame).forPartial (Value.Params.tame_iff.mp ofParams))

theorem resolve? {identifier : Identifier} (tame : context.Tame)
    (found : context.resolve? identifier = some value) : value.Tame :=
  Value.tame_iff.mpr ((tame_iff.mp tame).resolve? found)

theorem block? {name : String} {override : BlockRef} (tame : context.Tame)
    (found : context.block? name = some override) : override.program.Quotes :=
  (tame_iff.mp tame).block? found

theorem forBodies {rebased : Option Identifier} (tame : context.Tame) :
    (context.forBodies rebased).Tame :=
  tame_iff.mpr (tame_iff.mp tame).forBodies

end Context.Tame

namespace Render

/-- The parameters of a tag are tame where the bodies among them are plain. -/
theorem tame_params {program : Program} {context : Context} {exprs : ParamExprs}
    (tame : context.Tame) (quotes : ∀ id ∈ exprs.quoted, program.IsPlain id) :
    (params program context exprs).Tame :=
  Value.Params.tame_iff.mpr
    (holds_params (Context.tame_iff.mp tame) fun id member _ => quotes id member)

open Output Evaluate

variable {Result : Type}

/-- An action that only writes the text of an evaluation, which notes nothing, through a handle; it
yields a given result. The evaluation may be out of steps earlier than the action. -/
def Plainly (exactly : Prop) (writer : Writer) (evaluation : Evaluation String)
    (action : Action Result) (result : Result) : Prop :=
  ∀ store trace, store.client.engine.filters = Filter.standard →
    (evaluation trace = none ∧ (exactly → action store = none)) ∨
      ∃ text, evaluation trace = some (.ok (text, trace)) ∧
        action store = some (result, writer.wrote text store)

/-- Rendering of plain bodies agrees with their evaluation. -/
structure PlainCalls (exactly : Prop) (calls : Calls) (texts : Texts) : Prop where
  body : ∀ program id writer context,
    program.IsPlain id → writer.IsDirect → context.Tame →
      Plainly exactly writer (texts.body program id context)
        (calls.renderBody program id writer context) (.ok writer)
  function : ∀ program id stamp writer context bodies params,
    program.IsPlain id → writer.IsDirect → context.Tame →
      Plainly exactly writer (texts.function (.inline program id stamp) context)
        (calls.call (.inline program id stamp) writer context bodies params)
        (.ok (.handle writer))

section Plain

variable {exactly : Prop} {calls : Calls} {texts : Texts} {writer : Writer} {context : Context}

namespace Plainly

theorem pure (direct : writer.IsDirect) (result : Result) :
    Plainly exactly writer (Pure.pure "") (Pure.pure result) result := by
  intro store trace _
  exact .inr ⟨"", rfl, by rw [Writer.wrote_empty direct]; rfl⟩

theorem write (direct : writer.IsDirect) (text : String) :
    Plainly exactly writer (Pure.pure text) (writer.write text) writer := by
  intro store trace _
  exact .inr ⟨text, rfl, Writer.write_direct direct text⟩

theorem andThen {Next : Type} {evaluation : Evaluation String} {action : Action Result}
    {result : Result} {next : Result → Action Next} {final : Next}
    (plainly : Plainly exactly writer evaluation action result)
    (yields : ∀ store, next result store = some (final, store)) :
    Plainly exactly writer evaluation (action >>= next) final := by
  intro store trace filters
  rcases plainly store trace filters with ⟨out, none⟩ | ⟨text, evaluated, ran⟩
  · exact .inl ⟨out, fun same => by rw [run_bind, none same]; rfl⟩
  · exact .inr ⟨text, evaluated, by rw [run_bind, ran]; exact yields _⟩

theorem append {Next : Type} {first second : Evaluation String} {action : Action Result}
    {result : Result} {next : Result → Action Next} {final : Next} (direct : writer.IsDirect)
    (ofFirst : Plainly exactly writer first action result)
    (ofNext : Plainly exactly writer second (next result) final) :
    Plainly exactly writer (do
      let text ← first
      let others ← second
      Pure.pure (text ++ others)) (action >>= next) final := by
  intro store trace filters
  rcases ofFirst store trace filters with ⟨out, none⟩ | ⟨text, evaluated, ran⟩
  · refine .inl ⟨?_, fun same => ?_⟩
    · rw [evaluate_bind, out]
    · rw [run_bind, none same]
      rfl
  · have laterFilters :
        (writer.wrote text store).client.engine.filters = Filter.standard := by
      rw [Writer.wrote_client]
      exact filters
    rcases ofNext (writer.wrote text store) trace laterFilters with
      ⟨out, none⟩ | ⟨others, evaluatedNext, ranNext⟩
    · refine .inl ⟨?_, fun same => ?_⟩
      · rw [evaluate_bind, evaluated]
        simp only
        rw [evaluate_bind, out]
      · rw [run_bind, ran]
        exact none same
    · refine .inr ⟨text ++ others, ?_, ?_⟩
      · rw [evaluate_bind, evaluated]
        simp only
        rw [evaluate_bind, evaluatedNext]
        rfl
      · rw [run_bind, ran, ← Writer.wrote_wrote direct]
        exact ranNext

end Plainly

theorem writeValue_plainly (direct : writer.IsDirect) (chain : FilterChain) (value : Value) :
    Plainly exactly writer (pure (valueText chain value)) (writeValue chain writer value)
      writer := by
  intro store trace filters
  refine .inr ⟨valueText chain value, rfl, ?_⟩
  unfold writeValue valueText
  by_cases empty : value.isEmpty
  · simp only [empty, if_true]
    rw [Writer.wrote_empty direct]
    rfl
  · simp only [empty, Bool.false_eq_true, if_false]
    rw [← filters]
    exact Writer.write_direct direct _

theorem renderReference_plainly (plain : PlainCalls exactly calls texts)
    (direct : writer.IsDirect) (tame : context.Tame) (identifier : Identifier)
    (chain : FilterChain) :
    Plainly exactly writer (referenceText texts context identifier chain)
      (renderReference calls writer context identifier chain) writer := by
  unfold renderReference referenceText
  cases found : context.resolve? identifier with
  | none => exact .pure direct writer
  | some value =>
      have tameValue := tame.resolve? found
      cases tameValue with
      | inline isPlain =>
          exact (plain.function _ _ _ _ _ _ _ isPlain direct tame).andThen fun store => rfl
      | _ => exact writeValue_plainly direct chain _

theorem runOps_plainly {templates : Templates} {program : Program}
    (plain : PlainCalls exactly calls texts) (direct : writer.IsDirect) (tame : context.Tame)
    {ops : List Op} (isPlain : ∀ op ∈ ops, op.isPlain = true) :
    Plainly exactly writer (opsText templates texts program context ops)
      (runOps calls program context ops writer) (.ok writer) := by
  induction ops with
  | nil => exact .pure direct _
  | cons op rest inductionHypothesis =>
      have later := inductionHypothesis fun op member => isPlain op (by simp [member])
      have first :
          Plainly exactly writer (opText templates texts program context op)
            (runOp calls program context writer op) (.ok writer) := by
        have here := isPlain op (by simp)
        cases op with
        | write text => exact (Plainly.write direct text).andThen fun store => rfl
        | reference identifier chain =>
            exact (renderReference_plainly plain direct tame identifier chain).andThen
              fun store => rfl
        | _ => cases here
      exact .append direct first later

end Plain

/-- Rendering within a bound agrees with evaluating within a smaller one on plain bodies. -/
theorem plainCalls_within (templates : Templates) {steps depth : Nat} (bound : steps ≤ depth) :
    PlainCalls (steps = depth) (callsWithin depth) (textsWithin templates steps) := by
  induction steps generalizing depth with
  | zero =>
      constructor
      · intro program id writer context isPlain direct tame store trace filters
        refine .inl ⟨rfl, ?_⟩
        rintro rfl
        rfl
      · intro program id stamp writer context bodies params isPlain direct tame store trace filters
        refine .inl ⟨rfl, ?_⟩
        rintro rfl
        rfl
  | succ steps inductionHypothesis =>
      obtain ⟨depth, rfl⟩ : ∃ smaller, depth = smaller + 1 := ⟨depth - 1, by omega⟩
      have inner := inductionHypothesis (show steps ≤ depth by omega)
      have exact : steps + 1 = depth + 1 ↔ steps = depth := by omega
      rw [propext exact]
      constructor
      · intro program id writer context isPlain direct tame
        exact runOps_plainly inner direct tame isPlain
      · intro program id stamp writer context bodies params isPlain direct tame
        exact (inner.body program id writer context isPlain direct tame).andThen fun store => rfl

end Render

end BraceTemplate
