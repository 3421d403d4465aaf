import BraceTemplate.Program.Basic
import BraceTemplate.Reading.Document
import BraceTemplate.Template.Tidy

/-!
Compiling a tree: laying out bodies under consecutive numbers. What is compiled is told the next
free number and yields the bodies it opened in order, so that a body's number is its place in the
list. Bodies are numbered in the order in which they open; the bodies of a tag come before those of
its parameters, and a name with tags in it before both. Inside an escape pragma another filter is
the automatic one. A program is compiled from a source under the settings of an engine.
-/

namespace BraceTemplate

/-- What compiling yields: a result, the bodies opened in order of their numbers, and the blocks
defined in order of their ends. -/
structure Laid (Result : Type) where
  result : Result
  bodies : List (List Op)
  blocks : List (String × BodyId)

def Compile (Result : Type) := BodyId → Laid Result

namespace Compile

variable {Result Next : Type}

def done (result : Result) : Compile Result :=
  fun _ => ⟨result, [], []⟩

/-- Goes on with the numbers that are still free. -/
def andThen (first : Compile Result) (second : Result → Compile Next) : Compile Next :=
  fun next =>
    let laid := first next
    let following := second laid.result (next + laid.bodies.length)
    ⟨following.result, laid.bodies ++ following.bodies, laid.blocks ++ following.blocks⟩

/-- Steps of compiling one after the other. -/
instance : Monad Compile where
  pure := done
  bind := andThen

/-- Opens a body: it takes the next number, and what it contains takes later ones. -/
def openBody (contents : Compile (List Op)) : Compile BodyId :=
  fun next =>
    let laid := contents (next + 1)
    ⟨next, laid.result :: laid.bodies, laid.blocks⟩

/-- Notes a block under a name. -/
def define (name : String) (id : BodyId) : Compile Unit :=
  fun _ => ⟨(), [], [(name, id)]⟩

end Compile

/-- A step that writes, none for nothing to write. -/
def Op.writing (text : String) : List Op :=
  if text.isEmpty then [] else [.write text]

def escapePragma : String := "esc"

/-- The automatic filter that an escape pragma chooses: the one its context names, none for `s`, and
`h` without a context. -/
def pragmaFilter : Option Identifier → Option String
  | none => some "h"
  | some context => if context.text = "s" then none else some context.text

namespace Node

mutual

def steps (auto : Option String) : Node → Compile (List Op)
  | body parts _ => stepsOfParts auto parts
  | text content _ => pure (Op.writing content)
  | lineBreak newline blanks _ => pure (Op.writing (newline ++ blanks))
  | raw content _ => pure (Op.writing content)
  | comment _ _ => pure []
  | special key _ => pure (Op.writing (specialText key))
  | reference identifier filters _ => pure [.reference identifier ⟨filters, auto⟩]
  | sectionTag kind identifier context params bodies _ =>
    match kind with
    | .each => do
      let bodies ← openBodies auto bodies
      let params ← paramExprs auto params
      pure [.condition .each identifier context params bodies]
    | .present => do
      let bodies ← openBodies auto bodies
      let params ← paramExprs auto params
      pure [.condition .present identifier context params bodies]
    | .absent => do
      let bodies ← openBodies auto bodies
      let params ← paramExprs auto params
      pure [.condition .absent identifier context params bodies]
    | .define => do
      match ← openMain auto bodies with
      | none => pure []
      | some id => do
        Compile.define identifier.text id
        pure []
    | .yield => do
      let bodies ← openBodies auto bodies
      let params ← paramExprs auto params
      pure [.block (.literal identifier.text) context params bodies]
    | .helper => do
      let bodies ← openBodies auto bodies
      let params ← paramExprs auto params
      pure [.helper identifier.text context params bodies]
    | .pragma =>
      if identifier.text = escapePragma then stepsOfMain (pragmaFilter context) bodies
      else pure []
  | inclusion kind target context params _ => do
    let name ← targetName auto target
    let params ← paramExprs auto params
    match kind with
    | .template => pure [.inclusion name context params]
    | .block => pure [.block name context params []]

/-- The steps of parts, one after the other. -/
def stepsOfParts (auto : Option String) : List Node → Compile (List Op)
  | [] => pure []
  | part :: rest => do
    let first ← steps auto part
    let others ← stepsOfParts auto rest
    pure (first ++ others)

def stepsOfMain (auto : Option String) : List (String × Node) → Compile (List Op)
  | [] => pure []
  | (name, inner) :: rest => if name = mainBody then steps auto inner else stepsOfMain auto rest

def openMain (auto : Option String) : List (String × Node) → Compile (Option BodyId)
  | [] => pure none
  | (name, inner) :: rest =>
    if name = mainBody then do
      let id ← Compile.openBody (steps auto inner)
      pure (some id)
    else openMain auto rest

/-- Opens all bodies of a tag. -/
def openBodies (auto : Option String) : List (String × Node) → Compile NamedBodies
  | [] => pure []
  | (name, inner) :: rest => do
    let id ← Compile.openBody (steps auto inner)
    let others ← openBodies auto rest
    pure ((name, id) :: others)

/-- The parameters of a tag; texts with tags in them open bodies. -/
def paramExprs (auto : Option String) : List (Param Node) → Compile ParamExprs
  | [] => pure []
  | ⟨key, .literal value⟩ :: rest => do
    let others ← paramExprs auto rest
    pure ((key, .literal value) :: others)
  | ⟨key, .identifier name⟩ :: rest => do
    let others ← paramExprs auto rest
    pure ((key, .identifier name) :: others)
  | ⟨key, .inline inner⟩ :: rest => do
    let id ← Compile.openBody (steps auto inner)
    let others ← paramExprs auto rest
    pure ((key, .body id) :: others)

/-- The name of an inclusion; a text with tags in it opens a body. -/
def targetName (auto : Option String) : Target Node → Compile Name
  | .name plain => pure (.literal plain)
  | .inline inner => do
    let id ← Compile.openBody (steps auto inner)
    pure (.body id)

end

end Node

/-- Compiles a tree under a name, with the automatic filter that holds outside of pragmas. Of two
definitions of a block the one that ends later stays. -/
def Program.ofNode (name : Option String) (auto : Option String) (node : Node) : Program :=
  let laid := Compile.openBody (node.steps auto) 0
  ⟨name, laid.result, laid.bodies, Members.ofList laid.blocks⟩

/-- What an engine is set up with. -/
structure Config where
  /-- The filter behind a reference's own filters, none for no filter. -/
  autoEscape : Option String
  whitespace : Whitespace
  /-- How deep inclusions, and block overrides within each other, may nest. -/
  maxDepth : Nat

/-- Values are escaped for HTML, line formatting is dropped, and 64 levels are allowed. -/
def Config.standard : Config := ⟨some "h", .strip, 64⟩

instance : Inhabited Config := ⟨Config.standard⟩

/-- The program of a source, compiled under a name, or why the source is no template. -/
def Program.ofSource (config : Config) (name : Option String) (source : String) :
    Except ParseError Program :=
  match Node.parse source with
  | .error error => .error error
  | .ok node => .ok (Program.ofNode name config.autoEscape (node.tidy config.whitespace))

/-- A source has a program just where it has a tree. -/
theorem Program.ofSource_eq_ok_iff {config : Config} {name : Option String} {source : String}
    {program : Program} : ofSource config name source = .ok program ↔
      ∃ node, Node.parse source = .ok node ∧
        program = Program.ofNode name config.autoEscape (node.tidy config.whitespace) := by
  unfold ofSource
  cases Node.parse source <;> simp [eq_comm]

end BraceTemplate
