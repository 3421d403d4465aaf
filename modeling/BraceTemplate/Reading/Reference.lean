import BraceTemplate.Reading.Name
import BraceTemplate.Template.Node

/-!
The tags without a body: references and specials. Text runs stop in front of anything that looks
like a tag.
-/

namespace BraceTemplate.Reading

open BraceTemplate.Source

def filter? (cursor : Cursor) : Option (String × Cursor) := do
  let cursor ← cursor.literal? ['|']
  key? cursor

/-- An identifier with filters in braces. -/
def reference? (cursor : Cursor) : Option (Node × Cursor) := do
  let inside ← cursor.literal? ['{']
  let (identifier, afterName) ← identifier? inside
  let (filters, afterFilters) := afterName.many filter?
  let after ← afterFilters.literal? ['}']
  pure (.reference identifier filters cursor.position, after)

/-- A tilde and the name of a character in braces. -/
def special? (cursor : Cursor) : Option (Node × Cursor) := do
  let inside ← cursor.literal? ['{', '~']
  let (name, afterName) ← key? inside
  let after ← afterName.literal? ['}']
  pure (.special name cursor.position, after)

def isTagMark (char : Char) : Bool :=
  ['#', '?', '^', '>', '<', '+', '%', ':', '@', '/', '~'].contains char

/-- Whether the characters after the mark of a tag reach its closing brace: at least one on the same
line. -/
def closesTag (chars : List Char) : Bool :=
  let inner := chars.dropWhile isGap
  let isContent := fun char => char != '}' && !isLineBreak char
  match inner.takeWhile isContent with
  | [] => false
  | _ :: _ =>
    match (inner.dropWhile isContent).dropWhile isGap with
    | '}' :: _ => true
    | _ => false

/-- Whether characters have the shape of a tag that starts with a mark. -/
def hasTagShape (chars : List Char) : Bool :=
  match chars with
  | '{' :: inside =>
    match inside.dropWhile isGap with
    | mark :: afterMark => isTagMark mark && closesTag afterMark
    | [] => false
  | _ => false

/-- Whether a tag seems to start here. -/
def looksLikeTag (cursor : Cursor) : Bool :=
  hasTagShape cursor.rest || (reference? cursor).isSome

end BraceTemplate.Reading
