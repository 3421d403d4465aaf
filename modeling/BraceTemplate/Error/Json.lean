import BraceTemplate.Error
import BraceTemplate.Json.Record

/-!
Errors as JSON, and reading them.
-/

namespace BraceTemplate

/-- A fault of reading as JSON. -/
def ParseFault.toJson : ParseFault → Json
  | unexpected expected found =>
    .ofVariant "Unexpected" (.ofMembers [("expected", .ofList .string expected),
      ("found", .ofOption (fun char => .string (String.singleton char)) found)])
  | missingEndTag opened found =>
    .ofVariant "MissingEndTag"
      (.ofMembers [("opened", .string opened), ("found", .ofOption .string found)])

def ParseFault.ofJson? (json : Json) : Option ParseFault := do
  match ← json.variant? with
  | ("Unexpected", content) =>
    match ← content.fields? ["expected", "found"] with
    | [expected, found] =>
      pure (unexpected (← expected.asList? Json.asText?) (← found.asOption? Json.asChar?))
    | _ => none
  | ("MissingEndTag", content) =>
    match ← content.fields? ["opened", "found"] with
    | [opened, found] => pure (missingEndTag (← opened.asText?) (← found.asOption? Json.asText?))
    | _ => none
  | _ => none

/-- A fault with its place as JSON. -/
def ParseError.toJson (error : ParseError) : Json :=
  .ofMembers [("offset", .nat error.offset), ("line", .nat error.line),
    ("column", .nat error.column), ("kind", error.fault.toJson)]

/-- Reads a fault with its place. -/
def ParseError.ofJson? (json : Json) : Option ParseError := do
  match ← json.record? ["offset", "line", "column", "kind"] with
  | [offset, line, column, fault] =>
    pure ⟨← offset.asNat?, ← line.asNat?, ← column.asNat?, ← ParseFault.ofJson? fault⟩
  | _ => none

namespace RenderError

/-- The name of the kind of an error. -/
def kind : RenderError → String
  | parse _ => "Parse"
  | missingTemplate _ => "MissingTemplate"
  | recursivePartial _ _ => "RecursivePartial"
  | recursiveBlock _ _ => "RecursiveBlock"
  | loader _ _ => "Loader"
  | pending _ => "Pending"
  | helper _ _ => "Helper"
  | function _ => "Function"
  | io _ => "Io"

/-- What an error holds as JSON. -/
def contentJson : RenderError → Json
  | parse error => error.toJson
  | missingTemplate template => .ofMembers [("template_name", .string template)]
  | recursivePartial template maxDepth =>
    .ofMembers [("template_name", .string template), ("max_depth", .nat maxDepth)]
  | recursiveBlock block maxDepth =>
    .ofMembers [("block", .string block), ("max_depth", .nat maxDepth)]
  | loader template message =>
    .ofMembers [("template_name", .string template), ("message", .string message)]
  | pending template => .ofMembers [("template_name", .string template)]
  | helper name message => .ofMembers [("helper", .string name), ("message", .string message)]
  | function message => .ofMembers [("message", .string message)]
  | io message => .ofMembers [("message", .string message)]

def toJson (error : RenderError) : Json :=
  .ofVariant error.kind error.contentJson

def textOfJson? (content : Json) (name : String) : Option String := do
  match ← content.fields? [name] with
  | [text] => text.asText?
  | _ => none

def natOfJson? (content : Json) (name : String) : Option Nat := do
  match ← content.fields? [name] with
  | [number] => number.asNat?
  | _ => none

def ofJson? (json : Json) : Option RenderError := do
  match ← json.variant? with
  | ("Parse", content) => pure (parse (← ParseError.ofJson? content))
  | ("MissingTemplate", content) => pure (missingTemplate (← textOfJson? content "template_name"))
  | ("RecursivePartial", content) =>
    pure (recursivePartial (← textOfJson? content "template_name")
      (← natOfJson? content "max_depth"))
  | ("RecursiveBlock", content) =>
    pure (recursiveBlock (← textOfJson? content "block") (← natOfJson? content "max_depth"))
  | ("Loader", content) =>
    pure (loader (← textOfJson? content "template_name") (← textOfJson? content "message"))
  | ("Pending", content) => pure (pending (← textOfJson? content "template_name"))
  | ("Helper", content) =>
    pure (helper (← textOfJson? content "helper") (← textOfJson? content "message"))
  | ("Function", content) => pure (function (← textOfJson? content "message"))
  | ("Io", content) => pure (io (← textOfJson? content "message"))
  | _ => none

end RenderError

end BraceTemplate
