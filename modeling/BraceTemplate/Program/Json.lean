import BraceTemplate.Program.Basic
import BraceTemplate.Template.Json

/-!
Programs as JSON, and reading them.
-/

namespace BraceTemplate

def Name.toJson : Name → Json
  | .literal text => .ofVariant "Literal" (.string text)
  | .body id => .ofVariant "Body" (.nat id)

def Name.ofJson? (json : Json) : Option Name :=
  match json.variant? with
  | some ("Literal", content) => content.asText?.map .literal
  | some ("Body", content) => content.asNat?.map .body
  | _ => none

/-- The value of a parameter as JSON. -/
def ParamExpr.toJson : ParamExpr → Json
  | .literal value => .ofVariant "Literal" value.toJson
  | .identifier name => .ofVariant "Identifier" name.toJson
  | .body id => .ofVariant "Body" (.nat id)

/-- Reads the value of a parameter. -/
def ParamExpr.ofJson? (json : Json) : Option ParamExpr :=
  match json.variant? with
  | some ("Literal", content) => (Literal.ofJson? content).map .literal
  | some ("Identifier", content) => (Identifier.ofJson? content).map .identifier
  | some ("Body", content) => content.asNat?.map .body
  | _ => none

/-- The kind of a section over data as JSON. -/
def Condition.toJson : Condition → Json
  | .each => .string "Section"
  | .present => .string "Exists"
  | .absent => .string "NotExists"

/-- Reads the kind of a section over data. -/
def Condition.ofJson? (json : Json) : Option Condition :=
  match json.word? with
  | some "Section" => some .each
  | some "Exists" => some .present
  | some "NotExists" => some .absent
  | _ => none

/-- A chain of filters as JSON. -/
def FilterChain.toJson (chain : FilterChain) : Json :=
  .ofMembers [("filters", .ofList .string chain.filters), ("auto", .ofOption .string chain.auto)]

def FilterChain.ofJson? (json : Json) : Option FilterChain := do
  match ← json.record? ["filters", "auto"] with
  | [filters, auto] => pure ⟨← filters.asList? Json.asText?, ← auto.asOption? Json.asText?⟩
  | _ => none

namespace Op

def paramsToJson : ParamExprs → Json :=
  .ofList (.ofPair .string ParamExpr.toJson)

def paramsOfJson? : Json → Option ParamExprs :=
  Json.asList? (Json.asPair? Json.asText? ParamExpr.ofJson?)

def bodiesToJson : NamedBodies → Json :=
  .ofList (.ofPair .string .nat)

def bodiesOfJson? : Json → Option NamedBodies :=
  Json.asList? (Json.asPair? Json.asText? Json.asNat?)

def contextOfJson? : Json → Option (Option Identifier) :=
  Json.asOption? Identifier.ofJson?

def toJson : Op → Json
  | write text => .ofVariant "Write" (.string text)
  | reference identifier chain =>
    .ofVariant "Reference"
      (.ofMembers [("identifier", identifier.toJson), ("filters", chain.toJson)])
  | condition kind identifier context params bodies =>
    .ofVariant "Section" (.ofMembers [("kind", kind.toJson), ("identifier", identifier.toJson),
      ("context", .ofOption Identifier.toJson context), ("params", paramsToJson params),
      ("bodies", bodiesToJson bodies)])
  | block name context params bodies =>
    .ofVariant "Block" (.ofMembers [("name", name.toJson),
      ("context", .ofOption Identifier.toJson context), ("params", paramsToJson params),
      ("bodies", bodiesToJson bodies)])
  | helper name context params bodies =>
    .ofVariant "Helper" (.ofMembers [("name", .string name),
      ("context", .ofOption Identifier.toJson context), ("params", paramsToJson params),
      ("bodies", bodiesToJson bodies)])
  | inclusion name context params =>
    .ofVariant "Partial" (.ofMembers [("name", name.toJson),
      ("context", .ofOption Identifier.toJson context), ("params", paramsToJson params)])

def referenceOfJson? (content : Json) : Option Op := do
  match ← content.fields? ["identifier", "filters"] with
  | [identifier, chain] =>
    pure (reference (← Identifier.ofJson? identifier) (← FilterChain.ofJson? chain))
  | _ => none

def conditionOfJson? (content : Json) : Option Op := do
  match ← content.fields? ["kind", "identifier", "context", "params", "bodies"] with
  | [kind, identifier, context, params, bodies] =>
    pure (condition (← Condition.ofJson? kind) (← Identifier.ofJson? identifier)
      (← contextOfJson? context) (← paramsOfJson? params) (← bodiesOfJson? bodies))
  | _ => none

def blockOfJson? (content : Json) : Option Op := do
  match ← content.fields? ["name", "context", "params", "bodies"] with
  | [name, context, params, bodies] =>
    pure (block (← Name.ofJson? name) (← contextOfJson? context) (← paramsOfJson? params)
      (← bodiesOfJson? bodies))
  | _ => none

/-- Reads the call of a helper. -/
def helperOfJson? (content : Json) : Option Op := do
  match ← content.fields? ["name", "context", "params", "bodies"] with
  | [name, context, params, bodies] =>
    pure (helper (← name.asText?) (← contextOfJson? context) (← paramsOfJson? params)
      (← bodiesOfJson? bodies))
  | _ => none

def inclusionOfJson? (content : Json) : Option Op := do
  match ← content.fields? ["name", "context", "params"] with
  | [name, context, params] =>
    pure (inclusion (← Name.ofJson? name) (← contextOfJson? context) (← paramsOfJson? params))
  | _ => none

def ofJson? (json : Json) : Option Op :=
  match json.variant? with
  | some ("Write", content) => content.asText?.map .write
  | some ("Reference", content) => referenceOfJson? content
  | some ("Section", content) => conditionOfJson? content
  | some ("Block", content) => blockOfJson? content
  | some ("Helper", content) => helperOfJson? content
  | some ("Partial", content) => inclusionOfJson? content
  | _ => none

end Op

def Program.toJson (program : Program) : Json :=
  .ofMembers [("name", .ofOption .string program.name), ("root", .nat program.root),
    ("bodies", .ofList (.ofList Op.toJson) program.bodies),
    ("blocks", .object (program.blocks.map fun entry => (entry.1, .nat entry.2)))]

def Program.ofJson? (json : Json) : Option Program := do
  match ← json.record? ["name", "root", "bodies", "blocks"] with
  | [name, root, bodies, blocks] =>
    pure ⟨← name.asOption? Json.asText?, ← root.asNat?, ← bodies.asList? (Json.asList? Op.ofJson?),
      ← blocks.asMembers? Json.asNat?⟩
  | _ => none

end BraceTemplate
