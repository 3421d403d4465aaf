import BraceTemplate.Source.Cursor
import BraceTemplate.Text.Visible

/-!
Errors of reading and of rendering, with the one wording of each.
-/

namespace BraceTemplate

/-- Why a source is no template. -/
inductive ParseFault where
  /-- Nothing fits; the kinds of parts that would have, and the character that stands there. -/
  | unexpected (expected : List String) (found : Option Char)
  /-- A section is not closed, or closed by another name. -/
  | missingEndTag (opened : String) (found : Option String)
deriving Repr, DecidableEq

/-- A fault and where it was met. -/
structure ParseError where
  offset : Nat
  line : Nat
  column : Nat
  fault : ParseFault
deriving Repr, DecidableEq

def ParseError.at (place : Source.Place) (fault : ParseFault) : ParseError :=
  ⟨place.offset, place.line, place.column, fault⟩

/-- Alternatives as a phrase: separated by commas, with "or" before the last. -/
def alternatives : List String → String
  | [] => "end of input"
  | [only] => only
  | several => ", ".intercalate several.dropLast ++ " or " ++ several.getLastD ""

def ParseFault.message : ParseFault → String
  | unexpected expected found =>
    "Expected " ++ alternatives expected ++ ", found " ++
      (match found with
        | none => "end of input"
        | some char => Text.quoteChar char)
  | missingEndTag opened found =>
    "Expected end tag for " ++ opened ++ " but " ++
      (match found with
        | none => "it was not found"
        | some name => "found " ++ name)

def ParseError.message (error : ParseError) : String :=
  "Parse error at line " ++ toString error.line ++ ", column " ++ toString error.column ++ ": " ++
    error.fault.message

/-- Why a render, or an engine's other work, failed. -/
inductive RenderError where
  | parse (error : ParseError)
  | missingTemplate (template : String)
  /-- Inclusions nest too deep. -/
  | recursivePartial (template : String) (maxDepth : Nat)
  /-- Block overrides nest too deep. -/
  | recursiveBlock (block : String) (maxDepth : Nat)
  /-- A loader could not produce a template. -/
  | loader (template message : String)
  /-- Output is still awaited. -/
  | pending (template : String)
  | helper (name message : String)
  | function (message : String)
  | io (message : String)
deriving Repr, DecidableEq

def RenderError.message : RenderError → String
  | parse error => error.message
  | missingTemplate template => "Template not found: " ++ template
  | recursivePartial template maxDepth =>
    "Recursive partial inclusion detected (depth > " ++ toString maxDepth ++ "): " ++ template
  | recursiveBlock block maxDepth =>
    "Recursive block override detected (depth > " ++ toString maxDepth ++ "): " ++ block
  | loader template message => "Template [" ++ template ++ "] could not be loaded: " ++ message
  | pending template => "Template [" ++ template ++ "] did not finish rendering synchronously"
  | helper name message => "Helper [" ++ name ++ "] failed: " ++ message
  | function message => "Context function failed: " ++ message
  | io message => "I/O error: " ++ message

end BraceTemplate
