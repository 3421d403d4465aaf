import BraceTemplate.Proofs.Render.Evaluation

/-!
# What an evaluation depends on

An evaluation that succeeds depends on the templates it includes alone: with other templates under
other names it yields the same and notes the same.
-/

namespace BraceTemplate.Evaluate

open Render

theorem evaluate_bind {First Next : Type} (first : Evaluation First)
    (next : First → Evaluation Next) (trace : Trace) :
    (first >>= next) trace =
      match first trace with
      | none => none
      | some (.error error) => some (.error error)
      | some (.ok found) => next found.1 found.2 := by
  change (ExceptT.bind (first trace) fun found => next found.1 found.2) = _
  unfold ExceptT.bind ExceptT.mk
  cases first trace with
  | none => rfl
  | some found => cases found <;> rfl

theorem evaluate_bind_eq_ok {First Next : Type} {first : Evaluation First}
    {next : First → Evaluation Next} {trace after : Trace} {result : Next} :
    (first >>= next) trace = some (.ok (result, after)) ↔
      ∃ found between, first trace = some (.ok (found, between)) ∧
        next found between = some (.ok (result, after)) := by
  rw [evaluate_bind]
  constructor
  · intro evaluated
    split at evaluated
    · cases evaluated
    · cases evaluated
    · rename_i found yields
      exact ⟨found.1, found.2, yields, evaluated⟩
  · rintro ⟨found, between, yields, evaluated⟩
    rw [yields]
    exact evaluated

/-- Where the first evaluation succeeds, it notes more inclusions, and where the templates under
their names are the same, the second one yields the same. -/
def Agree {Result : Type} (one other : Templates) (first second : Evaluation Result) : Prop :=
  ∀ trace result after, first trace = some (.ok (result, after)) →
    ∃ more, after.included = trace.included ++ more ∧
      ((∀ name ∈ more, one.lookup name = other.lookup name) →
        second trace = some (.ok (result, after)))

namespace Agree

variable {Result Next : Type} {one other : Templates} {first second : Evaluation Result}

theorem pure (result : Result) :
    Agree one other (Pure.pure result) (Pure.pure result) := by
  intro trace yielded after evaluated
  cases evaluated
  exact ⟨[], by simp, fun _ => rfl⟩

theorem fail (error : RenderError) :
    Agree one other (Evaluate.fail error : Evaluation Result) second := by
  intro trace yielded after evaluated
  cases evaluated

theorem outOfSteps : Agree one other (Evaluate.outOfSteps : Evaluation Result) second := by
  intro trace yielded after evaluated
  cases evaluated

theorem bind {next following : Result → Evaluation Next} (ofFirst : Agree one other first second)
    (ofNext : ∀ result, Agree one other (next result) (following result)) :
    Agree one other (first >>= next) (second >>= following) := by
  intro trace result after evaluated
  obtain ⟨found, between, evaluatedFirst, evaluatedNext⟩ := evaluate_bind_eq_ok.mp evaluated
  obtain ⟨more, noted, agrees⟩ := ofFirst trace found between evaluatedFirst
  obtain ⟨further, notedNext, agreesNext⟩ := ofNext found between result after evaluatedNext
  refine ⟨more ++ further, by rw [notedNext, noted, List.append_assoc], fun same => ?_⟩
  refine evaluate_bind_eq_ok.mpr ⟨found, between, agrees fun name member => same name ?_,
    agreesNext fun name member => same name ?_⟩
  · exact List.mem_append_left _ member
  · exact List.mem_append_right _ member

theorem isSettled : Agree one other Evaluate.isSettled Evaluate.isSettled := by
  intro trace yielded after evaluated
  cases evaluated
  exact ⟨[], by simp, fun _ => rfl⟩

theorem setSettled (settled : Bool) :
    Agree one other (Evaluate.setSettled settled) (Evaluate.setSettled settled) := by
  intro trace yielded after evaluated
  cases evaluated
  exact ⟨[], by simp, fun _ => rfl⟩

theorem withFreshSelect {first second : Evaluation String} (agree : Agree one other first second) :
    Agree one other (Evaluate.withFreshSelect first) (Evaluate.withFreshSelect second) :=
  isSettled.bind fun _ => (setSettled false).bind fun _ => agree.bind fun _ =>
    (setSettled _).bind fun _ => .pure _

end Agree

theorem templateText_eq (templates : Templates) (texts : Texts) (name : String) (context : Context)
    (trace : Trace) :
    templateText templates texts name context trace =
      (match templates.lookup name with
        | .error error => fail error
        | .ok program => programText texts program context)
          { trace with included := trace.included ++ [name] } :=
  rfl

/-- Nested evaluations that agree. -/
structure Texts.Agree (one other : Templates) (texts others : Texts) : Prop where
  body : ∀ program body context,
    Evaluate.Agree one other (texts.body program body context) (others.body program body context)
  function : ∀ called context,
    Evaluate.Agree one other (texts.function called context) (others.function called context)
  captured : ∀ name context,
    Evaluate.Agree one other (texts.captured name context) (others.captured name context)

namespace Texts.Agree

variable {one other : Templates} {texts others : Texts} {context : Context} {bodies : Bodies}
variable {params : Value.Params}

theorem named (agree : texts.Agree one other others) (name : String) :
    Evaluate.Agree one other (texts.named bodies name context)
      (others.named bodies name context) := by
  unfold Texts.named
  cases bodies.find? name with
  | none => exact .pure _
  | some body => exact agree.body _ _ _

theorem referenceText (agree : texts.Agree one other others) (identifier : Identifier)
    (chain : FilterChain) :
    Evaluate.Agree one other (referenceText texts context identifier chain)
      (referenceText others context identifier chain) := by
  unfold Evaluate.referenceText
  cases context.resolve? identifier with
  | none => exact .pure _
  | some value =>
      cases value with
      | function called => exact agree.function _ _
      | _ => exact .pure _

theorem param? (agree : texts.Agree one other others) (key : String) :
    Evaluate.Agree one other (param? texts params key context)
      (param? others params key context) := by
  unfold Evaluate.param?
  cases params.find? key with
  | none => exact .pure _
  | some value =>
      have plain :
          Evaluate.Agree one other (plainValue texts value context)
            (plainValue others value context) := by
        cases value with
        | function called => exact (agree.function _ _).bind fun _ => .pure _
        | _ => exact .pure _
      exact plain.bind fun _ => .pure _

theorem elementsText (agree : texts.Agree one other others) (program : Program) (body : BodyId)
    (length index : Nat) (items : List Value) :
    Evaluate.Agree one other (elementsText texts program body context length index items)
      (elementsText others program body context length index items) := by
  induction items generalizing index with
  | nil => exact .pure _
  | cons item rest inductionHypothesis =>
      exact (agree.body _ _ _).bind fun _ => (inductionHypothesis _).bind fun _ => .pure _

theorem sectionText (agree : texts.Agree one other others) (value? : Option Value) :
    Evaluate.Agree one other (sectionText texts context value? bodies params)
      (sectionText others context value? bodies params) := by
  unfold Evaluate.sectionText eachText
  split
  · cases bodies.find? mainBody with
    | none => exact .pure _
    | some body =>
        simp only
        split
        · exact agree.named elseBody
        · exact agree.elementsText _ _ _ _ _
  · exact agree.named mainBody
  · split
    · exact agree.named mainBody
    · exact agree.named elseBody
  · exact agree.named elseBody

theorem keyedText (agree : texts.Agree one other others) (key : Value) :
    Evaluate.Agree one other (keyedText texts key context bodies)
      (keyedText others key context bodies) :=
  (agree.named mainBody).withFreshSelect

theorem comparisonKey? (agree : texts.Agree one other others) :
    Evaluate.Agree one other (comparisonKey? texts context params)
      (comparisonKey? others context params) := by
  refine (agree.param? "key").bind fun key? => ?_
  cases key? with
  | some key => exact .pure _
  | none =>
      simp only
      cases context.select? with
      | none => exact .pure _
      | some key => exact Evaluate.Agree.isSettled.bind fun _ => .pure _

theorem comparisonText (agree : texts.Agree one other others) (comparison : Comparison) :
    Evaluate.Agree one other (comparisonText texts comparison context bodies params)
      (comparisonText others comparison context bodies params) := by
  refine agree.comparisonKey?.bind fun key? => ?_
  cases key? with
  | none => exact .pure _
  | some found =>
      refine (agree.param? "value").bind fun expected? => ?_
      simp only
      split
      · split
        · exact (Evaluate.Agree.setSettled true).bind fun _ => agree.named mainBody
        · exact agree.named mainBody
      · exact agree.named elseBody

theorem mathText (agree : texts.Agree one other others) :
    Evaluate.Agree one other (mathText texts context bodies params)
      (mathText others context bodies params) := by
  refine (agree.param? "key").bind fun key? => (agree.param? "method").bind fun method? => ?_
  cases key? with
  | none => exact .pure _
  | some key =>
      cases method?.filter Value.isTruthy with
      | none => exact .pure _
      | some method =>
          refine (agree.param? "operand").bind fun operand? => ?_
          simp only
          split
          · exact .pure _
          · split
            · exact agree.keyedText _
            · exact .pure _

theorem builtinText (agree : texts.Agree one other others) (helper : BuiltinHelper) :
    Evaluate.Agree one other (builtinText texts helper context bodies params)
      (builtinText others helper context bodies params) := by
  cases helper with
  | separator =>
      unfold Evaluate.builtinText separatorText
      simp only
      split
      · exact .pure _
      · exact agree.named mainBody
  | place => exact agree.named mainBody
  | select =>
      refine (agree.param? "key").bind fun key? => ?_
      cases key? with
      | none => exact .pure _
      | some key => exact agree.keyedText key
  | compare comparison => exact agree.comparisonText comparison
  | math => exact agree.mathText
  | size => exact (agree.param? "key").bind fun _ => .pure _
  | contextDump =>
      refine (agree.param? "key").bind fun key? => (agree.param? "to").bind fun to? => ?_
      simp only
      split <;> exact .pure _

theorem helperText (agree : texts.Agree one other others) (name : String) :
    Evaluate.Agree one other (helperText texts name bodies params context)
      (helperText others name bodies params context) := by
  unfold Evaluate.helperText
  split
  · exact agree.builtinText _
  · exact .pure _

theorem blockNameText (agree : texts.Agree one other others) (program : Program) (name : Name) :
    Evaluate.Agree one other (blockNameText texts program context name)
      (blockNameText others program context name) := by
  cases name with
  | literal text => exact .pure _
  | body id => exact agree.body _ _ _

theorem templateText (agree : texts.Agree one other others) (name : String) :
    Evaluate.Agree one other (templateText one texts name context)
      (templateText other others name context) := by
  intro trace result after evaluated
  rw [templateText_eq] at evaluated ⊢
  cases found : one.lookup name with
  | error error =>
      rw [found] at evaluated
      cases evaluated
  | ok program =>
      rw [found] at evaluated
      obtain ⟨more, noted, agrees⟩ :=
        (agree.body program program.root (context.withBlocks program)).withFreshSelect _ _ _
          evaluated
      refine ⟨name :: more, by simpa using noted, fun same => ?_⟩
      rw [← same name (by simp), found]
      exact agrees fun name member => same name (by simp [member])

theorem inclusionText (agree : texts.Agree one other others)
    (sameDepth : one.maxDepth = other.maxDepth) (program : Program) (name : Name) :
    Evaluate.Agree one other (inclusionText one texts program context name)
      (inclusionText other others program context name) := by
  unfold Evaluate.inclusionText
  rw [sameDepth]
  split
  · exact .fail _
  · cases name with
    | literal text => exact agree.templateText text
    | body id => exact (agree.body _ _ _).bind fun _ => agree.captured _ _

theorem blockText (agree : texts.Agree one other others)
    (sameDepth : one.maxDepth = other.maxDepth) (name : String) :
    Evaluate.Agree one other (blockText one texts context name bodies)
      (blockText other others context name bodies) := by
  unfold Evaluate.blockText
  rw [sameDepth]
  cases context.block? name with
  | none => exact agree.named mainBody
  | some override =>
      simp only
      split
      · exact .fail _
      · exact agree.body _ _ _

theorem opText (agree : texts.Agree one other others) (sameDepth : one.maxDepth = other.maxDepth)
    (program : Program) (op : Op) :
    Evaluate.Agree one other (opText one texts program context op)
      (opText other others program context op) := by
  cases op with
  | write text => exact .pure _
  | reference identifier chain => exact agree.referenceText identifier chain
  | condition kind identifier rebased exprs entries =>
      cases kind with
      | each => exact agree.sectionText _
      | present => exact agree.named _
      | absent => exact agree.named _
  | block name rebased exprs entries =>
      exact (agree.blockNameText program name).bind fun text => agree.blockText sameDepth text
  | helper name rebased exprs entries => exact agree.helperText name
  | inclusion name rebased exprs => exact agree.inclusionText sameDepth program name

theorem opsText (agree : texts.Agree one other others) (sameDepth : one.maxDepth = other.maxDepth)
    (program : Program) (ops : List Op) :
    Evaluate.Agree one other (opsText one texts program context ops)
      (opsText other others program context ops) := by
  induction ops with
  | nil => exact .pure _
  | cons op rest inductionHypothesis =>
      exact (agree.opText sameDepth program op).bind fun _ => inductionHypothesis.bind fun _ =>
        .pure _

end Texts.Agree

/-- Evaluating within a bound depends on the included templates alone. -/
theorem textsWithin_agree {one other : Templates} (sameDepth : one.maxDepth = other.maxDepth)
    (depth : Nat) : (textsWithin one depth).Agree one other (textsWithin other depth) := by
  induction depth with
  | zero => exact ⟨fun _ _ _ => .outOfSteps, fun _ _ => .outOfSteps, fun _ _ => .outOfSteps⟩
  | succ depth agree =>
      refine ⟨fun program body context => agree.opsText sameDepth program _, ?_,
        fun name context => agree.templateText name⟩
      intro called context
      cases called with
      | inline program body stamp => exact agree.body _ _ _
      | host identity function => exact .pure _

/-- A template that succeeds has its own select: it reads nothing of what was noted before. -/
theorem programText_eq_ok {texts : Texts} {program : Program} {context : Context}
    {trace after : Trace} {text : String}
    (evaluated : programText texts program context trace = some (.ok (text, after))) :
    after.settled = trace.settled ∧
      ∃ settled, texts.body program program.root (context.withBlocks program)
          ⟨false, trace.included⟩ = some (.ok (text, ⟨settled, after.included⟩)) := by
  have evaluatesTo :
      programText texts program context trace =
        (do
          let text ← texts.body program program.root (context.withBlocks program)
          setSettled trace.settled
          pure text : Evaluation String) ⟨false, trace.included⟩ :=
    rfl
  rw [evaluatesTo] at evaluated
  obtain ⟨found, between, evaluatedBody, rest⟩ := evaluate_bind_eq_ok.mp evaluated
  cases rest
  exact ⟨rfl, between.settled, evaluatedBody⟩

theorem programText_of_body {texts : Texts} {program : Program} {context : Context}
    {included later : List String} {settled : Bool} {text : String}
    (evaluated : texts.body program program.root (context.withBlocks program) ⟨false, included⟩ =
      some (.ok (text, ⟨settled, later⟩))) (outer : Bool) :
    programText texts program context ⟨outer, included⟩ = some (.ok (text, ⟨outer, later⟩)) := by
  have evaluatesTo :
      programText texts program context ⟨outer, included⟩ =
        (do
          let text ← texts.body program program.root (context.withBlocks program)
          setSettled outer
          pure text : Evaluation String) ⟨false, included⟩ :=
    rfl
  rw [evaluatesTo]
  exact evaluate_bind_eq_ok.mpr ⟨text, ⟨settled, later⟩, evaluated, rfl⟩

/-- An inclusion that succeeds notes its name and then those of the templates included there. -/
theorem templateText_eq_ok {templates : Templates} {texts : Texts} {name : String}
    {context : Context} {trace after : Trace} {text : String}
    (agree : texts.Agree templates templates texts)
    (evaluated : templateText templates texts name context trace = some (.ok (text, after))) :
    ∃ program more, templates.lookup name = .ok program ∧
      after = ⟨trace.settled, trace.included ++ name :: more⟩ ∧
        ∀ settled, programText texts program context ⟨settled, trace.included ++ [name]⟩ =
          some (.ok (text, ⟨settled, trace.included ++ name :: more⟩)) := by
  rw [templateText_eq] at evaluated
  cases found : templates.lookup name with
  | error error =>
      rw [found] at evaluated
      cases evaluated
  | ok program =>
      rw [found] at evaluated
      obtain ⟨sameSettled, settled, evaluatedBody⟩ := programText_eq_ok evaluated
      obtain ⟨more, noted, -⟩ := agree.body _ _ _ _ _ _ evaluatedBody
      have included : after.included = trace.included ++ name :: more := by simpa using noted
      refine ⟨program, more, rfl, ?_, fun outer => ?_⟩
      · rw [← included, ← sameSettled]
      · rw [← included]
        exact programText_of_body evaluatedBody outer

end BraceTemplate.Evaluate
