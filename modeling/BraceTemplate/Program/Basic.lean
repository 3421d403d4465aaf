import BraceTemplate.Members
import BraceTemplate.Template.Node

/-!
Compiled templates: numbered bodies, each a flat list of steps, and the blocks that the template
defines.
-/

namespace BraceTemplate

/-- The number of a body within its program. -/
abbrev BodyId := Nat

/-- Which of the three sections over data. -/
inductive Condition where
  /-- Once for each element of an array, or once for a value that is present. -/
  | each
  | present
  | absent
deriving Repr, DecidableEq

/-- The name of a template or a block: known, or the text of a body. -/
inductive Name where
  | literal (text : String)
  | body (id : BodyId)
deriving Repr, DecidableEq

/-- The value of a parameter. -/
inductive ParamExpr where
  | literal (value : Literal)
  | identifier (name : Identifier)
  | body (id : BodyId)
deriving DecidableEq

/-- The filters of a reference: its own, then the one that escapes where nothing else is asked for.
-/
structure FilterChain where
  filters : List String
  auto : Option String
deriving Repr, DecidableEq

/-- The bodies of a tag by name. -/
abbrev NamedBodies := List (String × BodyId)

abbrev ParamExprs := List (String × ParamExpr)

/-- A step of rendering. -/
inductive Op where
  | write (text : String)
  | reference (identifier : Identifier) (filters : FilterChain)
  | condition (kind : Condition) (identifier : Identifier) (context : Option Identifier)
      (params : ParamExprs) (bodies : NamedBodies)
  /-- Yields to a block, or renders its own main body. -/
  | block (name : Name) (context : Option Identifier) (params : ParamExprs) (bodies : NamedBodies)
  | helper (name : String) (context : Option Identifier) (params : ParamExprs)
      (bodies : NamedBodies)
  /-- Renders another template here. -/
  | inclusion (name : Name) (context : Option Identifier) (params : ParamExprs)
deriving DecidableEq

/-- A compiled template. -/
structure Program where
  name : Option String
  /-- The body a render starts with. -/
  root : BodyId
  bodies : List (List Op)
  /-- The bodies of the blocks that the template defines. -/
  blocks : Members BodyId
deriving Inhabited, DecidableEq

/-- The steps of a body; a number without a body has none. -/
def Program.body (program : Program) (id : BodyId) : List Op :=
  program.bodies.getD id []

end BraceTemplate
