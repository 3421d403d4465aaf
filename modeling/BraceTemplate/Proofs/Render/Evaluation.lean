import BraceTemplate.Render.Entry

/-!
# Evaluating templates

What templates mean, without outlets, handles and taps. Every step of a program contributes a text,
and the texts are joined in order; the first error takes the place of all text. Functions of the
host are left out: they contribute nothing.
-/

namespace BraceTemplate.Evaluate

open Render

/-- What is noted on the way. -/
structure Trace where
  /-- A branch of the innermost select has matched. -/
  settled : Bool
  /-- The names of the templates that were included, in order. -/
  included : List String

/-- An evaluation: it yields a result, ends with the first error, or is out of steps. -/
abbrev Evaluation (Result : Type) := StateT Trace (ExceptT RenderError Option) Result

def outOfSteps {Result : Type} : Evaluation Result :=
  fun _ => none

def fail {Result : Type} (error : RenderError) : Evaluation Result :=
  fun _ => some (.error error)

def isSettled : Evaluation Bool := do
  pure (← get).settled

/-- Notes whether a branch of the innermost select has matched. -/
def setSettled (settled : Bool) : Evaluation Unit :=
  modify fun trace => { trace with settled := settled }

def note (name : String) : Evaluation Unit :=
  modify fun trace => { trace with included := trace.included ++ [name] }

def withFreshSelect (evaluation : Evaluation String) : Evaluation String := do
  let outer ← isSettled
  setSettled false
  let text ← evaluation
  setSettled outer
  pure text

/-- What can be included, and how deep inclusions and overrides may nest. -/
structure Templates where
  lookup : String → Except RenderError Program
  maxDepth : Nat

/-- The registered templates, then those that the answers of a loader compile to. -/
def Templates.of (config : Config) (registry : Members Program)
    (answers : String → Except RenderError String) : Templates where
  lookup name :=
    match registry.find? name with
    | some program => .ok program
    | none =>
      match answers name with
      | .error error => .error error
      | .ok source =>
        match Program.ofSource config (some name) source with
        | .error error => .error (.parse error)
        | .ok program => .ok program
  maxDepth := config.maxDepth

def unanswered (name : String) : Except RenderError String :=
  .error (.missingTemplate name)

/-- The parts of evaluation that refer to one another. -/
structure Texts where
  body : Program → BodyId → Context → Evaluation String
  function : Function Value → Context → Evaluation String
  /-- The template under a name that was captured. -/
  captured : String → Context → Evaluation String

def valueText (chain : FilterChain) (value : Value) : String :=
  if value.isEmpty then "" else Filter.applyChain Filter.standard chain value

def referenceText (texts : Texts) (context : Context) (identifier : Identifier)
    (chain : FilterChain) : Evaluation String :=
  match context.resolve? identifier with
  | none => pure ""
  | some (.function called) => texts.function called context
  | some value => pure (valueText chain value)

def plainValue (texts : Texts) (value : Value) (context : Context) : Evaluation Value :=
  match value with
  | .function called => do
    let text ← texts.function called context
    pure (if text.isEmpty then .bool false else .string text)
  | plain => pure plain

def param? (texts : Texts) (params : Value.Params) (key : String) (context : Context) :
    Evaluation (Option Value) :=
  match params.find? key with
  | none => pure none
  | some value => do
    let plain ← plainValue texts value context
    pure (some plain)

/-- The text of a body of a tag; none where it is missing. -/
def Texts.named (texts : Texts) (bodies : Bodies) (name : String) (context : Context) :
    Evaluation String :=
  match bodies.find? name with
  | none => pure ""
  | some id => texts.body bodies.program id context

def elementsText (texts : Texts) (program : Program) (body : BodyId) (context : Context)
    (length : Nat) : Nat → List Value → Evaluation String
  | _, [] => pure ""
  | index, item :: rest => do
    let first ← texts.body program body (context.pushIndexed item index length)
    let others ← elementsText texts program body context length (index + 1) rest
    pure (first ++ others)

def eachText (texts : Texts) (context : Context) (value? : Option Value) (bodies : Bodies) :
    Evaluation String :=
  match value? with
  | some (.array items) =>
    match bodies.find? mainBody with
    | none => pure ""
    | some body =>
      if items.isEmpty then texts.named bodies elseBody context
      else elementsText texts bodies.program body context items.length 0 items
  | some (.bool true) => texts.named bodies mainBody context
  | some value =>
    if value.isTruthy then texts.named bodies mainBody (context.push value)
    else texts.named bodies elseBody context
  | none => texts.named bodies elseBody context

def sectionText (texts : Texts) (context : Context) (value? : Option Value) (bodies : Bodies)
    (params : Value.Params) : Evaluation String :=
  eachText texts (if params.isEmpty then context else context.push (.object params)) value? bodies

def presenceText (texts : Texts) (context : Context) (isPresent : Bool) (bodies : Bodies) :
    Evaluation String :=
  texts.named bodies (if isPresent then mainBody else elseBody) context

def blockNameText (texts : Texts) (program : Program) (context : Context) :
    Name → Evaluation String
  | .literal text => pure text
  | .body id => texts.body program id context

def blockText (templates : Templates) (texts : Texts) (context : Context) (name : String)
    (bodies : Bodies) : Evaluation String :=
  match context.block? name with
  | none => texts.named bodies mainBody context
  | some override =>
    if templates.maxDepth ≤ context.blockDepth then
      fail (.recursiveBlock name templates.maxDepth)
    else texts.body override.program override.body context.forBlock

def separatorText (texts : Texts) (context : Context) (bodies : Bodies) : Evaluation String :=
  if isLast context then pure "" else texts.named bodies mainBody context

def placeText (texts : Texts) (context : Context) (bodies : Bodies) : Evaluation String :=
  texts.named bodies mainBody (context.push ((context.index?.map Value.ofNat).getD .null))

def keyedText (texts : Texts) (key : Value) (context : Context) (bodies : Bodies) :
    Evaluation String :=
  withFreshSelect (texts.named bodies mainBody (context.pushSelect key))

def selectText (texts : Texts) (context : Context) (bodies : Bodies) (params : Value.Params) :
    Evaluation String := do
  match ← param? texts params "key" context with
  | none => pure ""
  | some key => keyedText texts key context bodies

def comparisonKey? (texts : Texts) (context : Context) (params : Value.Params) :
    Evaluation (Option (Value × Bool)) := do
  match ← param? texts params "key" context with
  | some key => pure (some (key, true))
  | none =>
    match context.select? with
    | some key => do
      let settled ← isSettled
      pure (some (key, !settled))
    | none => pure none

def comparisonText (texts : Texts) (comparison : Comparison) (context : Context) (bodies : Bodies)
    (params : Value.Params) : Evaluation String := do
  match ← comparisonKey? texts context params with
  | none => pure ""
  | some (key, mayMatch) => do
    let expected := (← param? texts params "value" context).getD .null
    let type := (params.find? "type").bind Value.text?
    let left := Operand.coerce key type context
    let right := Operand.coerce expected type context
    if mayMatch && comparison.holds left right then
      if context.select?.isSome then setSettled true
      texts.named bodies mainBody context
    else texts.named bodies elseBody context

def mathText (texts : Texts) (context : Context) (bodies : Bodies) (params : Value.Params) :
    Evaluation String := do
  let key? ← param? texts params "key" context
  let method? ← param? texts params "method" context
  match key?, method?.filter Value.isTruthy with
  | some key, some method => do
    let operand? ← param? texts params "operand" context
    let operand := (operand?.map Calculation.quantity).getD Operand.undefined
    match Calculation.result? method.display (Calculation.quantity key) operand with
    | none => pure ""
    | some exact => do
      let rounds := ((params.find? "round").map Value.isTruthy).getD false
      let result := if rounds then Calculation.roundHalfUp exact else exact
      match bodies.find? mainBody with
      | some _ => keyedText texts (Value.ofFloat result) context bodies
      | none => pure (Numeral.templateText result)
  | _, _ => pure ""

def sizeOfText (texts : Texts) (context : Context) (params : Value.Params) :
    Evaluation String := do
  let value? ← param? texts params "key" context
  pure (sizeText value?)

def dumpText (texts : Texts) (context : Context) (params : Value.Params) : Evaluation String := do
  let key? ← param? texts params "key" context
  let to? ← param? texts params "to" context
  let dump :=
    if key?.map Value.display = some "full" then context.stackJson
    else (context.current?.map Value.toJson).getD .null
  if to?.map Value.display = some "console" then pure "" else pure dump.indented

def builtinText (texts : Texts) (helper : BuiltinHelper) (context : Context) (bodies : Bodies)
    (params : Value.Params) : Evaluation String :=
  match helper with
  | .separator => separatorText texts context bodies
  | .place => placeText texts context bodies
  | .select => selectText texts context bodies params
  | .compare comparison => comparisonText texts comparison context bodies params
  | .math => mathText texts context bodies params
  | .size => sizeOfText texts context params
  | .contextDump => dumpText texts context params

def helperText (texts : Texts) (name : String) (bodies : Bodies) (params : Value.Params)
    (context : Context) : Evaluation String :=
  match Helper.standard.find? name with
  | some (.builtin helper) => builtinText texts helper context bodies params
  | _ => pure ""

def programText (texts : Texts) (program : Program) (context : Context) : Evaluation String :=
  withFreshSelect (texts.body program program.root (context.withBlocks program))

/-- The text of the template under a name. -/
def templateText (templates : Templates) (texts : Texts) (name : String) (context : Context) :
    Evaluation String := do
  note name
  match templates.lookup name with
  | .error error => fail error
  | .ok program => programText texts program context

def inclusionText (templates : Templates) (texts : Texts) (program : Program) (context : Context)
    (name : Name) : Evaluation String :=
  if templates.maxDepth < context.partialDepth then
    fail (.recursivePartial (inclusionLabel context name) templates.maxDepth)
  else
    match name with
    | .literal text => templateText templates texts text (context.named text)
    | .body id => do
      let text ← texts.body program id context
      texts.captured text context

def opText (templates : Templates) (texts : Texts) (program : Program) (context : Context) :
    Op → Evaluation String
  | .write text => pure text
  | .reference identifier chain => referenceText texts context identifier chain
  | .condition kind identifier rebased exprs entries =>
    let value? := context.resolve? identifier
    let bodies : Bodies := ⟨program, entries⟩
    let inner := context.forBodies rebased
    match kind with
    | .each => sectionText texts inner value? bodies (params program context exprs)
    | .present => presenceText texts inner (isPresent value?) bodies
    | .absent => presenceText texts inner (!isPresent value?) bodies
  | .block name rebased _ entries => do
    let text ← blockNameText texts program context name
    blockText templates texts (context.forBodies rebased) text ⟨program, entries⟩
  | .helper name rebased exprs entries =>
    helperText texts name ⟨program, entries⟩ (params program context exprs)
      (context.forBodies rebased)
  | .inclusion name rebased exprs =>
    inclusionText templates texts program
      ((context.forBodies rebased).forPartial (params program context exprs)) name

def opsText (templates : Templates) (texts : Texts) (program : Program) (context : Context) :
    List Op → Evaluation String
  | [] => pure ""
  | op :: rest => do
    let first ← opText templates texts program context op
    let others ← opsText templates texts program context rest
    pure (first ++ others)

mutual

def bodyWithin (templates : Templates) : Nat → Program → BodyId → Context → Evaluation String
  | 0, _, _, _ => outOfSteps
  | depth + 1, program, body, context =>
    opsText templates
      ⟨bodyWithin templates depth, functionWithin templates depth, capturedWithin templates depth⟩
      program context (program.body body)

def functionWithin (templates : Templates) : Nat → Function Value → Context → Evaluation String
  | 0, _, _ => outOfSteps
  | depth + 1, called, context =>
    match called with
    | .inline program body _ => bodyWithin templates depth program body context
    | .host _ _ => pure ""

def capturedWithin (templates : Templates) : Nat → String → Context → Evaluation String
  | 0, _, _ => outOfSteps
  | depth + 1, name, context =>
    templateText templates
      ⟨bodyWithin templates depth, functionWithin templates depth, capturedWithin templates depth⟩
      name (context.named name)

end

/-- Evaluating within a bound on how deep bodies and functions nest. -/
def textsWithin (templates : Templates) (depth : Nat) : Texts :=
  ⟨bodyWithin templates depth, functionWithin templates depth, capturedWithin templates depth⟩

/-- The text of the template under a name with data, or the first error. -/
def text? (templates : Templates) (depth : Nat) (name : String) (data : Value) :
    Option (Except RenderError String) :=
  Option.map (Except.map Prod.fst)
    (templateText templates (textsWithin templates depth) name
      (entryContext name (Context.ofValue data)) ⟨false, []⟩)

end BraceTemplate.Evaluate
