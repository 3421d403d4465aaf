import BraceTemplate.Proofs.Program.Everywhere
import BraceTemplate.Proofs.Render.Refinement
import BraceTemplate.Proofs.Text.Delimiters

/-!
# Data writes no delimiters

Where nothing turns escaping off, whatever data reaches the output is escaped or is a number. A
delimiter in the text of a render then stands in the literal text of a template.
-/

namespace BraceTemplate

open Text (Lacks)

/-- Whether a part leaves escaping on: no reference with the filter that turns it off, no pragma
that chooses another filter, and not the helper that writes data as it is. -/
def Node.keepsEscaping : Node → Bool
  | reference _ filters _ => !filters.contains Filter.plainName
  | sectionTag .helper identifier _ _ _ _ => identifier.text != "contextDump"
  | sectionTag .pragma identifier context _ _ _ =>
    identifier.text != escapePragma || pragmaFilter context == some "h"
  | _ => true

def Op.escapes : Op → Bool
  | reference _ chain => chain.auto == some "h" && !chain.filters.contains Filter.plainName
  | helper name _ _ _ => name != "contextDump"
  | _ => true

theorem Node.lasts_keepsEscaping : Lasts keepsEscaping where
  body _ _ := rfl
  text _ _ := rfl
  sectionTag _ kind _ _ _ _ _ holds := by cases kind <;> exact holds
  inclusion _ _ _ _ _ _ _ _ := rfl

theorem Node.lays_escapes :
    Lays keepsEscaping (fun auto => auto = some "h") (fun _ op => op.escapes = true) where
  write _ _ := rfl
  reference holds isAuto := by simpa [Op.escapes, keepsEscaping, isAuto] using holds
  condition _ _ _ _ := rfl
  block _ := rfl
  helper holds _ := holds
  pragma holds isEscape := by simpa [keepsEscaping, isEscape] using holds
  inclusion _ _ := rfl

def Op.literal? : Op → Option String
  | .write text => some text
  | _ => none

/-- Data is escaped, and a character is in no literal text. -/
def Op.Lacks (char : Char) (op : Op) : Prop :=
  op.escapes = true ∧ ∀ text, op = .write text → Text.Lacks char text

def Program.Lacks (char : Char) (program : Program) : Prop :=
  ∀ id, ∀ op ∈ program.body id, op.Lacks char

/-- A function that is the body of a program in which a character is in no literal text. -/
def Function.Lacks (char : Char) : Function Value → Prop
  | .inline program _ _ => program.Lacks char
  | .host _ _ => False

/-- A context whose functions and blocks are bodies of such programs. -/
abbrev Context.Lacks (char : Char) (context : Context) : Prop :=
  context.Holds (Function.Lacks char) (Program.Lacks char)

namespace Evaluate

open Render

def Yields {Result : Type} (ofResult : Result → Prop) (evaluation : Evaluation Result) : Prop :=
  ∀ trace result after, evaluation trace = some (.ok (result, after)) → ofResult result

namespace Yields

variable {Result Next : Type} {ofResult : Result → Prop} {ofNext : Next → Prop}

theorem pure {result : Result} (holds : ofResult result) :
    Yields ofResult (Pure.pure result) := by
  intro trace yielded after evaluated
  cases evaluated
  exact holds

theorem fail (error : RenderError) : Yields ofResult (Evaluate.fail error) := by
  intro trace yielded after evaluated
  cases evaluated

theorem outOfSteps : Yields ofResult Evaluate.outOfSteps := by
  intro trace yielded after evaluated
  cases evaluated

theorem anything (evaluation : Evaluation Result) : Yields (fun _ => True) evaluation :=
  fun _ _ _ _ => trivial

theorem bind {first : Evaluation Result} {next : Result → Evaluation Next}
    (ofFirst : Yields ofResult first)
    (ofSecond : ∀ result, ofResult result → Yields ofNext (next result)) :
    Yields ofNext (first >>= next) := by
  intro trace yielded after evaluated
  obtain ⟨found, between, here, there⟩ := evaluate_bind_eq_ok.mp evaluated
  exact ofSecond found (ofFirst _ _ _ here) _ _ _ there

/-- What comes first does not matter where the rest always yields what it should. -/
theorem after {first : Evaluation Result} {next : Result → Evaluation Next}
    (always : ∀ result, Yields ofNext (next result)) : Yields ofNext (first >>= next) :=
  (anything first).bind fun result _ => always result

theorem withFreshSelect {ofText : String → Prop} {evaluation : Evaluation String}
    (yields : Yields ofText evaluation) :
    Yields ofText (Evaluate.withFreshSelect evaluation) :=
  after fun _ => after fun _ => yields.bind fun _ holds => after fun _ => .pure holds

end Yields

/-- No text of nested evaluations contains a character. -/
structure Texts.Lack (char : Char) (texts : Texts) : Prop where
  body : ∀ program body context, program.Lacks char → context.Lacks char →
    Yields (Lacks char) (texts.body program body context)
  function : ∀ called context, called.Lacks char → context.Lacks char →
    Yields (Lacks char) (texts.function called context)
  captured : ∀ name context, context.Lacks char → Yields (Lacks char) (texts.captured name context)

section Written

variable {char : Char} (delimits : char ∈ Text.Html.delimiters)

include delimits

/-- The last filter of an escaping chain is the one that escapes. -/
theorem lacks_valueText {chain : FilterChain} {identifier : Identifier}
    (escapes : (Op.reference identifier chain).escapes = true) (value : Value) :
    Lacks char (valueText chain value) := by
  simp only [Op.escapes, Bool.and_eq_true, beq_iff_eq, Bool.not_eq_true'] at escapes
  unfold valueText
  split
  · exact .empty char
  · unfold Filter.applyChain Filter.names
    rw [escapes.1, escapes.2, List.foldl_append]
    exact Text.Html.lacks_escape delimits _

theorem lacks_numberText (number : Number) : Lacks char (Value.numberText number) := by
  cases number with
  | whole value => exact Numeral.lacks_toString_int delimits value
  | double value => exact Numeral.lacks_templateText delimits value

theorem lacks_sizeText (value? : Option Value) : Lacks char (sizeText value?) := by
  have zero : Lacks char "0" := Numeral.lacks_toString_nat delimits 0
  unfold sizeText
  split
  · exact Numeral.lacks_toString_nat delimits _
  · exact Numeral.lacks_toString_nat delimits _
  · exact lacks_numberText delimits _
  · split
    · exact zero
    · split
      · rename_i read
        split
        · exact Numeral.lacks_of_readDouble? delimits read
        · exact Numeral.lacks_toString_nat delimits _
      · exact Numeral.lacks_toString_nat delimits _
  · exact zero

end Written

namespace Texts.Lack

variable {char : Char} {texts : Texts} {context : Context} {bodies : Bodies}
variable {params : Value.Params}

theorem named (lack : texts.Lack char) (ofBodies : bodies.program.Lacks char)
    (ofContext : context.Lacks char) (name : String) :
    Yields (Lacks char) (texts.named bodies name context) := by
  unfold Texts.named
  cases bodies.find? name with
  | none => exact .pure (.empty char)
  | some body => exact lack.body _ _ _ ofBodies ofContext

theorem referenceText (lack : texts.Lack char) (delimits : char ∈ Text.Html.delimiters)
    (ofContext : context.Lacks char) {identifier : Identifier} {chain : FilterChain}
    (escapes : (Op.reference identifier chain).escapes = true) :
    Yields (Lacks char) (referenceText texts context identifier chain) := by
  unfold Evaluate.referenceText
  cases found : context.resolve? identifier with
  | none => exact .pure (.empty char)
  | some value =>
      cases ofContext.resolve? found with
      | function isAllowed => exact lack.function _ _ isAllowed ofContext
      | _ => exact .pure (lacks_valueText delimits escapes _)

theorem elementsText (lack : texts.Lack char) {program : Program} (ofProgram : program.Lacks char)
    (ofContext : context.Lacks char) (body : BodyId) (length index : Nat) {items : List Value}
    (ofItems : ∀ item ∈ items, item.Holds (Function.Lacks char)) :
    Yields (Lacks char) (elementsText texts program body context length index items) := by
  induction items generalizing index with
  | nil => exact .pure (.empty char)
  | cons item rest inductionHypothesis =>
      have ofItem := ofItems item (by simp)
      have later := inductionHypothesis (index + 1) fun item member =>
        ofItems item (by simp [member])
      exact (lack.body _ _ _ ofProgram (ofContext.pushIndexed ofItem)).bind fun _ first =>
        later.bind fun _ others => .pure (first.append others)

theorem sectionText (lack : texts.Lack char) (ofBodies : bodies.program.Lacks char)
    (ofContext : context.Lacks char) (ofParams : params.Holds (Function.Lacks char))
    {value? : Option Value} (ofValue : ∀ value ∈ value?, value.Holds (Function.Lacks char)) :
    Yields (Lacks char) (sectionText texts context value? bodies params) := by
  have inner : (if params.isEmpty then context else context.push (.object params)).Lacks char := by
    split
    · exact ofContext
    · exact ofContext.push (.object ofParams)
  unfold Evaluate.sectionText eachText
  split
  · rename_i items
    cases bodies.find? mainBody with
    | none => exact .pure (.empty char)
    | some body =>
        simp only
        split
        · exact lack.named ofBodies inner elseBody
        · cases ofValue _ rfl with
          | array each => exact lack.elementsText ofBodies inner body _ _ each
  · exact lack.named ofBodies inner mainBody
  · split
    · exact lack.named ofBodies (inner.push (ofValue _ rfl)) mainBody
    · exact lack.named ofBodies inner elseBody
  · exact lack.named ofBodies inner elseBody

theorem keyedText (lack : texts.Lack char) (ofBodies : bodies.program.Lacks char)
    (ofContext : context.Lacks char) (key : Value) :
    Yields (Lacks char) (keyedText texts key context bodies) :=
  (lack.named ofBodies (ofContext.pushSelect key) mainBody).withFreshSelect

theorem comparisonText (lack : texts.Lack char) (ofBodies : bodies.program.Lacks char)
    (ofContext : context.Lacks char) (comparison : Comparison) :
    Yields (Lacks char) (comparisonText texts comparison context bodies params) := by
  refine .after fun key? => ?_
  cases key? with
  | none => exact .pure (.empty char)
  | some found =>
      refine .after fun expected? => ?_
      simp only
      split
      · split
        · exact .after fun _ => lack.named ofBodies ofContext mainBody
        · exact lack.named ofBodies ofContext mainBody
      · exact lack.named ofBodies ofContext elseBody

theorem mathText (lack : texts.Lack char) (delimits : char ∈ Text.Html.delimiters)
    (ofBodies : bodies.program.Lacks char) (ofContext : context.Lacks char) :
    Yields (Lacks char) (mathText texts context bodies params) := by
  refine .after fun key? => .after fun method? => ?_
  split
  · refine .after fun operand? => ?_
    simp only
    split
    · exact .pure (.empty char)
    · split
      · exact lack.keyedText ofBodies ofContext _
      · exact .pure (Numeral.lacks_templateText delimits _)
  · exact .pure (.empty char)

theorem name_of_contextDump {name : String}
    (found : Helper.standard.find? name = some (.builtin .contextDump)) : name = "contextDump" := by
  have each : ∀ entry ∈ Helper.standard,
      entry.2 = .builtin .contextDump → entry.1 = "contextDump" :=
    Members.forall_mem_ofList (by simp)
  exact each _ (Members.mem_of_find? found) rfl

theorem helperText (lack : texts.Lack char) (delimits : char ∈ Text.Html.delimiters)
    (ofBodies : bodies.program.Lacks char) (ofContext : context.Lacks char) {name : String}
    (notDump : name ≠ "contextDump") :
    Yields (Lacks char) (helperText texts name bodies params context) := by
  unfold Evaluate.helperText
  split
  · rename_i helper found
    cases helper with
    | separator =>
        change Yields (Lacks char) (separatorText texts context bodies)
        unfold separatorText
        split
        · exact .pure (.empty char)
        · exact lack.named ofBodies ofContext mainBody
    | place =>
        refine lack.named ofBodies (ofContext.push ?_) mainBody
        cases context.index? with
        | none => exact .null
        | some index => exact Value.holds_ofNat index
    | select =>
        refine .after fun key? => ?_
        cases key? with
        | none => exact .pure (.empty char)
        | some key => exact lack.keyedText ofBodies ofContext key
    | compare comparison => exact lack.comparisonText ofBodies ofContext comparison
    | math => exact lack.mathText delimits ofBodies ofContext
    | size => exact .after fun value? => .pure (lacks_sizeText delimits value?)
    | contextDump =>
        exact absurd (name_of_contextDump found) notDump
  · exact .pure (.empty char)

variable {templates : Templates}

/-- In all templates that can be included, a character is in no literal text. -/
theorem templateText (lack : texts.Lack char)
    (ofTemplates : ∀ name program, templates.lookup name = .ok program → program.Lacks char)
    (ofContext : context.Lacks char) (name : String) :
    Yields (Lacks char) (templateText templates texts name context) := by
  refine .after fun _ => ?_
  cases found : templates.lookup name with
  | error error => exact .fail error
  | ok program =>
      have ofProgram := ofTemplates name program found
      exact (lack.body _ _ _ ofProgram (ofContext.withBlocks ofProgram)).withFreshSelect

theorem inclusionText (lack : texts.Lack char)
    (ofTemplates : ∀ name program, templates.lookup name = .ok program → program.Lacks char)
    (ofContext : context.Lacks char) (program : Program) (name : Name) :
    Yields (Lacks char) (inclusionText templates texts program context name) := by
  unfold Evaluate.inclusionText
  split
  · exact .fail _
  · cases name with
    | literal text => exact lack.templateText ofTemplates (ofContext.named text) text
    | body id => exact .after fun text => lack.captured text context ofContext

theorem blockText (lack : texts.Lack char) (ofBodies : bodies.program.Lacks char)
    (ofContext : context.Lacks char) (name : String) :
    Yields (Lacks char) (blockText templates texts context name bodies) := by
  unfold Evaluate.blockText
  cases found : context.block? name with
  | none => exact lack.named ofBodies ofContext mainBody
  | some override =>
      simp only
      split
      · exact .fail _
      · exact lack.body _ _ _ (ofContext.block? found) ofContext.forBlock

theorem opText (lack : texts.Lack char) (delimits : char ∈ Text.Html.delimiters)
    (ofTemplates : ∀ name program, templates.lookup name = .ok program → program.Lacks char)
    {program : Program} (ofProgram : program.Lacks char) (ofContext : context.Lacks char) {op : Op}
    (lacks : op.Lacks char) :
    Yields (Lacks char) (opText templates texts program context op) := by
  have ofParams : ∀ exprs,
      (params program context exprs).Holds (Function.Lacks char) := fun exprs =>
    holds_params ofContext fun _ _ _ => ofProgram
  cases op with
  | write text => exact .pure (lacks.2 text rfl)
  | reference identifier chain => exact lack.referenceText delimits ofContext lacks.1
  | condition kind identifier rebased exprs entries =>
      cases kind with
      | each =>
          exact lack.sectionText ofProgram ofContext.forBodies (ofParams exprs)
            fun value found => ofContext.resolve? found
      | present => exact lack.named ofProgram ofContext.forBodies _
      | absent => exact lack.named ofProgram ofContext.forBodies _
  | block name rebased exprs entries =>
      exact .after fun text => lack.blockText ofProgram ofContext.forBodies text
  | helper name rebased exprs entries =>
      have notDump : name ≠ "contextDump" := by simpa [Op.escapes] using lacks.1
      exact lack.helperText delimits ofProgram ofContext.forBodies notDump
  | inclusion name rebased exprs =>
      exact lack.inclusionText ofTemplates (ofContext.forBodies.forPartial (ofParams exprs)) _ name

theorem opsText (lack : texts.Lack char) (delimits : char ∈ Text.Html.delimiters)
    (ofTemplates : ∀ name program, templates.lookup name = .ok program → program.Lacks char)
    {program : Program} (ofProgram : program.Lacks char) (ofContext : context.Lacks char)
    {ops : List Op} (lacks : ∀ op ∈ ops, op.Lacks char) :
    Yields (Lacks char) (opsText templates texts program context ops) := by
  induction ops with
  | nil => exact .pure (.empty char)
  | cons op rest inductionHypothesis =>
      have here := lack.opText delimits ofTemplates ofProgram ofContext (lacks op (by simp))
      have later := inductionHypothesis fun op member => lacks op (by simp [member])
      exact here.bind fun _ first => later.bind fun _ others => .pure (first.append others)

end Texts.Lack

/-- Without a loader only registered templates can be included. -/
theorem registered_of_lookup {config : Config} {registry : Members Program} {name : String}
    {program : Program}
    (found : (Templates.of config registry unanswered).lookup name = .ok program) :
    registry.find? name = some program := by
  unfold Templates.of unanswered at found
  simp only at found
  split at found
  · rename_i registered
    cases found
    exact registered
  · cases found

/-- No text that is evaluated contains a delimiter that is in no literal text. -/
theorem textsWithin_lack {char : Char} {templates : Templates}
    (delimits : char ∈ Text.Html.delimiters)
    (ofTemplates : ∀ name program, templates.lookup name = .ok program → program.Lacks char)
    (depth : Nat) : (textsWithin templates depth).Lack char := by
  induction depth with
  | zero =>
      exact ⟨fun _ _ _ _ _ => .outOfSteps, fun _ _ _ _ => .outOfSteps, fun _ _ _ => .outOfSteps⟩
  | succ depth lack =>
      refine ⟨?_, ?_, ?_⟩
      · intro program body context ofProgram ofContext
        exact lack.opsText delimits ofTemplates ofProgram ofContext (ofProgram body)
      · intro called context ofCalled ofContext
        cases called with
        | inline program body stamp => exact lack.body _ _ _ ofCalled ofContext
        | host identity function => cases ofCalled
      · intro name context ofContext
        exact lack.templateText ofTemplates (ofContext.named name) name

end Evaluate

/-- The templates of sources that leave escaping on. -/
theorem Program.lacks_ofSources {config : Config} {sources : List (String × String)} {char : Char}
    (escaping : config.autoEscape = some "h")
    (kept : ∀ entry ∈ sources, ∀ tree, Node.parse entry.2 = .ok tree →
      tree.all Node.keepsEscaping = true)
    (written : ∀ entry ∈ ofSources config sources, ∀ ops ∈ entry.2.bodies, ∀ text,
      Op.write text ∈ ops → Text.Lacks char text) :
    ∀ entry ∈ ofSources config sources, entry.2.Lacks char := by
  have escapes : ∀ entry ∈ ofSources config sources, ∀ id, ∀ op ∈ entry.2.body id,
      op.escapes = true := by
    intro entry member
    obtain ⟨source, inside, compiled⟩ := source_of_mem_ofSources config sources entry member
    exact ofSource_each Node.lasts_keepsEscaping Node.lays_escapes escaping (kept _ inside) compiled
  intro entry member id op inBody
  refine ⟨escapes entry member id op inBody, ?_⟩
  rintro text rfl
  obtain ⟨ops, found, inOps⟩ := exists_of_mem_body inBody
  exact written entry member ops (List.mem_of_getElem? found) text inOps

namespace Render

open Output Evaluate

variable {config : Config} {sources : List (String × String)} {char : Char} {depth : Nat}
variable {store later : Store Continuation Observer State} {name text : String}

/-- Data writes no delimiter. Where references are escaped, none turns that off, no pragma chooses
another filter and data is not dumped, a delimiter that is in no literal text of the templates is in
no text that is rendered. -/
theorem renderToString_lacks (delimits : char ∈ Text.Html.delimiters)
    (escaping : config.autoEscape = some "h")
    (kept : ∀ entry ∈ sources, ∀ tree, Node.parse entry.2 = .ok tree →
      tree.all Node.keepsEscaping = true)
    (written : ∀ entry ∈ Program.ofSources config sources, ∀ ops ∈ entry.2.bodies, ∀ text,
      Op.write text ∈ ops → Lacks char text)
    (sameEngine : store.client.engine =
      Engine.fresh config (Program.ofSources config sources) .none) (json : Json)
    (ran : renderToString (callsWithin depth) name (.ofJson json) store =
      some (.ok text, later)) :
    Lacks char text := by
  have closed := Engine.isClosed_ofSources config sources
  have suits : (closedSetting closed).Suits store.client.engine := by
    rw [sameEngine]
    exact closedSetting_suits closed
  have programs := Program.lacks_ofSources escaping kept written
  have ofTemplates : ∀ name program,
      (closedSetting closed).templates.lookup name = .ok program → program.Lacks char := by
    intro name program found
    exact programs _ (Members.mem_of_find? (registered_of_lookup found))
  have ofContext : (entryContext name (Context.ofValue (.ofJson json))).Lacks char :=
    (Context.Holds.ofValue (Value.holds_ofJson json)).named name
  obtain ⟨halfway, pending, rendered, reads⟩ := renderToString_eq_some ran
  rcases renderToEnd_hasResult suits trivial (Value.tame_ofJson json) rendered with
    ⟨evaluatedText, after, evaluated, hasResult, -⟩ | ⟨error, -, hasResult⟩
  · cases (reads _ hasResult).1
    have lack := textsWithin_lack delimits ofTemplates depth
    exact lack.templateText ofTemplates ofContext name _ _ _ evaluated
  · cases (reads _ hasResult).1

/-- Markup in the data comes out escaped from a text with tags in it, an inclusion whose name is
captured, a filter that reads JSON and a size. -/
theorem renderToString_lacks_markup :
    ∃ store later,
      renderToString (callsWithin 9) "main"
          (.ofJson (.object [("a", .array [.object [("m", .string "<b>"), ("p", .string "x")]])]))
          store =
        some (.ok "&lt;b&gt;!&lt;b&gt;3", later) ∧
      Lacks '<' "&lt;b&gt;!&lt;b&gt;3" := by
  let sources :=
    [("main", "\x7b#a n=\"{m}!\"\x7d{n}\x7b>\"{p}\"/\x7d\x7b@size key=m/\x7d{/a}"),
      ("x", "{m|jp}")]
  let store : Store Continuation Observer State :=
    Store.initial ⟨Engine.fresh .standard (Program.ofSources .standard sources) .none, false⟩
  let json : Json := .object [("a", .array [.object [("m", .string "<b>"), ("p", .string "x")]])]
  have rendered :
      ((renderToString (callsWithin 9) "main" (.ofJson json) store).bind fun found =>
        found.1.toOption) = some "&lt;b&gt;!&lt;b&gt;3" := by
    decide +kernel
  have kept : (sources.all fun entry =>
      (Node.parse entry.2).toOption.all fun tree => tree.all Node.keepsEscaping) = true := by
    decide +kernel
  have written : ((Program.ofSources .standard sources).all fun entry =>
      entry.2.bodies.all fun ops => ops.all fun op =>
        op.literal?.all fun text => decide (Lacks '<' text)) = true := by
    decide +kernel
  obtain ⟨⟨outcome, later⟩, ran, found⟩ := Option.bind_eq_some_iff.mp rendered
  cases outcome with
  | error error => cases found
  | ok text =>
      simp only [Except.toOption, Option.some.injEq] at found
      subst found
      refine ⟨store, later, ran, renderToString_lacks (by decide) rfl ?_ ?_ rfl json ran⟩
      · intro entry member tree parsed
        have holds := List.all_eq_true.mp kept entry member
        rwa [parsed] at holds
      · intro entry member ops inBodies literal inOps
        have ofOps := List.all_eq_true.mp (List.all_eq_true.mp written entry member) ops inBodies
        exact of_decide_eq_true (List.all_eq_true.mp ofOps _ inOps)

end Render

end BraceTemplate
