import BraceTemplate.Json.Record
import BraceTemplate.Numeral.Layout
import BraceTemplate.Template.Node

/-!
Trees as JSON. Doubles are written as texts, so that none is lost; in what is read they are numbers.
-/

namespace BraceTemplate

mutual

def Identifier.toJson : Identifier → Json
  | .key name => .ofVariant "Key" (.string name)
  | .path relative segments =>
    .ofVariant "Path" (.ofMembers [("current", .bool relative),
      ("segments", .array (PathSegment.toJsons segments))])

/-- The steps of a path as JSON. -/
def PathSegment.toJsons : List PathSegment → List Json
  | [] => []
  | .key name :: rest => .ofVariant "Key" (.string name) :: PathSegment.toJsons rest
  | .index digits :: rest => .ofVariant "Index" (.string digits) :: PathSegment.toJsons rest
  | .lookup inner :: rest => .ofVariant "Lookup" inner.toJson :: PathSegment.toJsons rest

end

mutual

def Identifier.ofJson? : Json → Option Identifier
  | .object [("Key", .string name)] => some (.key name)
  | .object [("Path", .object members)] =>
    match Members.find? members "current", PathSegment.ofMembers? members with
    | some (.bool relative), some segments => some (.path relative segments)
    | _, _ => none
  | _ => none

/-- Reads the steps of a path from the member that holds them. -/
def PathSegment.ofMembers? : List (String × Json) → Option (List PathSegment)
  | [] => none
  | (name, content) :: rest =>
    if name = "segments" then PathSegment.ofArray? content else PathSegment.ofMembers? rest

def PathSegment.ofArray? : Json → Option (List PathSegment)
  | .array items => PathSegment.ofJsons? items
  | _ => none

/-- Reads the steps of a path. -/
def PathSegment.ofJsons? : List Json → Option (List PathSegment)
  | [] => some []
  | item :: rest =>
    match PathSegment.ofJson? item, PathSegment.ofJsons? rest with
    | some first, some others => some (first :: others)
    | _, _ => none

/-- Reads a step of a path. -/
def PathSegment.ofJson? : Json → Option PathSegment
  | .object [("Key", .string name)] => some (.key name)
  | .object [("Index", .string digits)] => some (.index digits)
  | .object [("Lookup", inner)] =>
    match Identifier.ofJson? inner with
    | some identifier => some (.lookup identifier)
    | none => none
  | _ => none

end

def Literal.toJson : Literal → Json
  | .string text => .ofVariant "String" (.string text)
  | .integer value => .ofVariant "Integer" (.number (.whole value))
  | .float value => .ofVariant "Float" (.string (Numeral.plainText value))

def Literal.ofJson? (json : Json) : Option Literal :=
  match json.variant? with
  | some ("String", content) => content.asText?.map .string
  | some ("Integer", content) => content.asInteger?.map .integer
  | some ("Float", content) => content.asDouble?.map .float
  | _ => none

/-- A place in a source as JSON. -/
def Position.toJson (position : Position) : Json :=
  .ofMembers [("line", .nat position.line), ("column", .nat position.column)]

/-- The kind of a section tag as JSON. -/
def SectionKind.toJson : SectionKind → Json
  | .each => .string "Section"
  | .present => .string "Exists"
  | .absent => .string "NotExists"
  | .define => .string "BlockDefinition"
  | .yield => .string "BlockReference"
  | .helper => .string "Helper"
  | .pragma => .string "Pragma"

/-- The kind of an inclusion tag as JSON. -/
def InclusionKind.toJson : InclusionKind → Json
  | .template => .string "Include"
  | .block => .string "Block"

def Node.partJson (name : String) (fields : List (String × Json)) (position : Position) : Json :=
  .ofVariant name (.ofMembers (fields ++ [("position", position.toJson)]))

mutual

def Node.toJson : Node → Json
  | .body parts position => partJson "Body" [("parts", .array (toJsons parts))] position
  | .text content position => partJson "Buffer" [("text", .string content)] position
  | .lineBreak newline blanks position =>
    partJson "Format" [("eol", .string newline), ("whitespace", .string blanks)] position
  | .raw content position => partJson "Raw" [("text", .string content)] position
  | .comment content position => partJson "Comment" [("text", .string content)] position
  | .special key position => partJson "Special" [("key", .string key)] position
  | .reference identifier filters position =>
    partJson "Reference"
      [("identifier", identifier.toJson), ("filters", .ofList .string filters)] position
  | .sectionTag kind identifier context params bodies position =>
    partJson "Section" [("kind", kind.toJson), ("identifier", identifier.toJson),
      ("context", .ofOption Identifier.toJson context), ("params", .array (paramsToJson params)),
      ("bodies", .array (bodiesToJson bodies))] position
  | .inclusion kind target context params position =>
    partJson "Partial" [("kind", kind.toJson), ("target", targetToJson target),
      ("context", .ofOption Identifier.toJson context),
      ("params", .array (paramsToJson params))] position

def Node.toJsons : List Node → List Json
  | [] => []
  | part :: rest => part.toJson :: toJsons rest

def Node.bodiesToJson : List (String × Node) → List Json
  | [] => []
  | (name, inner) :: rest => .array [.string name, inner.toJson] :: bodiesToJson rest

/-- The parameters of a tag as JSON. -/
def Node.paramsToJson : List (Param Node) → List Json
  | [] => []
  | ⟨key, .literal value⟩ :: rest =>
    .ofMembers [("key", .string key), ("value", .ofVariant "Literal" value.toJson)] ::
      paramsToJson rest
  | ⟨key, .identifier name⟩ :: rest =>
    .ofMembers [("key", .string key), ("value", .ofVariant "Identifier" name.toJson)] ::
      paramsToJson rest
  | ⟨key, .inline inner⟩ :: rest =>
    .ofMembers [("key", .string key), ("value", .ofVariant "Inline" inner.toJson)] ::
      paramsToJson rest

def Node.targetToJson : Target Node → Json
  | .name plain => .ofVariant "Name" (.string plain)
  | .inline inner => .ofVariant "Inline" inner.toJson

end

end BraceTemplate
