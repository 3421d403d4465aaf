import BraceTemplate.Numeral.Reading
import BraceTemplate.Source.Cursor
import BraceTemplate.Template.Node

/-!
Keys and identifiers. A path is a key with steps behind it, steps alone, or a dot with steps or
nothing behind it; a step is a dot and a key, or digits or an identifier in brackets.
-/

namespace BraceTemplate.Reading

open BraceTemplate.Source

def isKeyStart (char : Char) : Bool :=
  char.isAlpha || char = '_' || char = '$'

def isKeyChar (char : Char) : Bool :=
  char.isAlphanum || char = '_' || char = '$' || char = '-'

def key? (cursor : Cursor) : Option (String × Cursor) :=
  match cursor.char? isKeyStart with
  | none => none
  | some (first, after) =>
    let (more, last) := after.takeWhile isKeyChar
    some (String.ofList (first :: more), last)

/-- A run of digits, at least one. -/
def digits? (cursor : Cursor) : Option (List Char × Cursor) :=
  match cursor.takeWhile Char.isDigit with
  | ([], _) => none
  | (digit :: more, after) => some (digit :: more, after)

def dotKey? (cursor : Cursor) : Option (PathSegment × Cursor) := do
  let cursor ← cursor.literal? ['.']
  let (name, cursor) ← key? cursor
  pure (.key name, cursor)

/-- What stands in brackets: digits, or else an identifier. -/
def bracketed? (identifier? : Cursor → Option (Identifier × Cursor)) (cursor : Cursor) :
    Option (PathSegment × Cursor) :=
  match digits? cursor with
  | some (digits, after) => some (.index (String.ofList digits), after)
  | none => (identifier? cursor).map fun (inner, after) => (.lookup inner, after)

def bracket? (identifier? : Cursor → Option (Identifier × Cursor)) (cursor : Cursor) :
    Option (PathSegment × Cursor) := do
  let cursor ← cursor.literal? ['[']
  let (segment, cursor) ← bracketed? identifier? cursor
  let cursor ← cursor.literal? [']']
  pure (segment, cursor)

def segment? (identifier? : Cursor → Option (Identifier × Cursor)) (cursor : Cursor) :
    Option (PathSegment × Cursor) :=
  match dotKey? cursor with
  | some found => some found
  | none => bracket? identifier? cursor

/-- A path with at least one step behind an optional key. -/
def steppedPath? (identifier? : Cursor → Option (Identifier × Cursor)) (cursor : Cursor) :
    Option (Identifier × Cursor) :=
  match key? cursor with
  | some (name, after) =>
    match after.many (segment? identifier?) with
    | ([], _) => none
    | (segments, last) => some (.path false (.key name :: segments), last)
  | none =>
    match cursor.many (segment? identifier?) with
    | ([], _) => none
    | (segments, last) => some (.path true segments, last)

/-- A dot with any number of steps behind it. -/
def dotPath? (identifier? : Cursor → Option (Identifier × Cursor)) (cursor : Cursor) :
    Option (Identifier × Cursor) :=
  match cursor.literal? ['.'] with
  | none => none
  | some after =>
    let (segments, last) := after.many (segment? identifier?)
    some (.path true segments, last)

/-- An identifier whose brackets nest less deep than a bound. -/
def identifierWithin? : Nat → Cursor → Option (Identifier × Cursor)
  | 0, _ => none
  | fuel + 1, cursor =>
    match steppedPath? (identifierWithin? fuel) cursor with
    | some found => some found
    | none =>
      match dotPath? (identifierWithin? fuel) cursor with
      | some found => some found
      | none => (key? cursor).map fun (name, after) => (.key name, after)

/-- An identifier. A bracket takes a character, so that brackets nest no deeper than characters are
left. -/
def identifier? (cursor : Cursor) : Option (Identifier × Cursor) :=
  identifierWithin? (cursor.rest.length + 1) cursor

end BraceTemplate.Reading
