import BraceTemplate.Error
import BraceTemplate.Reading.Tag

/-!
Whole templates. Parts are tried in a fixed order at each place; a section whose end tag is missing
or names something else makes the whole source faulty, whatever could be tried afterwards.
-/

namespace BraceTemplate.Reading

open BraceTemplate.Source

def delimited? (opening closing : List Char) (cursor : Cursor) : Option (String × Cursor) := do
  let inside ← cursor.literal? opening
  let (content, atClosing) := inside.takeUntil fun next => closing.isPrefixOf next.rest
  let after ← atClosing.literal? closing
  pure (String.ofList content, after)

def raw? (cursor : Cursor) : Option (Node × Cursor) :=
  (delimited? ['{', '\x60'] ['\x60', '}'] cursor).map fun (content, after) =>
    (.raw content cursor.position, after)

def comment? (cursor : Cursor) : Option (Node × Cursor) :=
  (delimited? ['{', '!'] ['!', '}'] cursor).map fun (content, after) =>
    (.comment content cursor.position, after)

/-- A line break; a carriage return takes a line feed along. -/
def newline? (cursor : Cursor) : Option (String × Cursor) :=
  match cursor.literal? ['\r', '\n'] with
  | some after => some ("\r\n", after)
  | none => (cursor.char? isLineBreak).map fun (char, after) => (char.toString, after)

def endsText (cursor : Cursor) : Bool :=
  looksLikeTag cursor || (raw? cursor).isSome || (comment? cursor).isSome ||
    cursor.startsWith isLineBreak

/-- A line break with the blanks and line breaks after it, or else a run of text. -/
def text? (cursor : Cursor) : Option (Node × Cursor) :=
  match newline? cursor with
  | some (newline, afterBreak) =>
    let (blanks, after) := afterBreak.takeWhile isGap
    some (.lineBreak newline (String.ofList blanks) cursor.position, after)
  | none =>
    match cursor.takeUntil endsText with
    | ([], _) => none
    | (char :: more, after) => some (.text (String.ofList (char :: more)) cursor.position, after)

abbrev BodyRule := Cursor → Except ParseError (List Node × Cursor)

/-- The branches of a section: the tag of each, then its body. -/
def branchesWithin (readParts : BodyRule) :
    Nat → Cursor → Except ParseError (List (String × Node) × Cursor)
  | 0, cursor => .ok ([], cursor)
  | fuel + 1, cursor =>
    match branchTag? cursor with
    | none => .ok ([], cursor)
    | some (name, inside) =>
      match readParts inside with
      | .error error => .error error
      | .ok (parts, afterBody) =>
        match branchesWithin readParts fuel afterBody with
        | .error error => .error error
        | .ok (branches, after) => .ok ((name, .body parts inside.position) :: branches, after)

/-- The main body and the branches of a section, up to its end tag. -/
def sectionBodies (readParts : BodyRule) (inside : Cursor) :
    Except ParseError (List (String × Node) × Cursor) :=
  match readParts inside with
  | .error error => .error error
  | .ok (parts, afterBody) =>
    match branchesWithin readParts afterBody.rest.length afterBody with
    | .error error => .error error
    | .ok (branches, after) => .ok (branches ++ [(mainBody, .body parts inside.position)], after)

/-- The cursor after the end tag that closes a name, or the fault. -/
def closeSection (opened : String) (cursor : Cursor) : Except ParseError Cursor :=
  match endTag? cursor with
  | none => .error (.at cursor.place (.missingEndTag opened none))
  | some (identifier, after) =>
    if identifier.text = opened then .ok after
    else .error (.at after.place (.missingEndTag opened (some identifier.text)))

/-- A section: with bodies and an end tag, or closed at once. -/
def section? (readParts : BodyRule) (cursor : Cursor) :
    Except ParseError (Option (Node × Cursor)) :=
  match opening? cursor with
  | none => .ok none
  | some (opening, afterOpening) =>
    let node := fun bodies =>
      Node.sectionTag opening.kind opening.identifier opening.context opening.params bodies
        cursor.position
    match afterOpening.skipGaps.literal? ['}'] with
    | some inside =>
      match sectionBodies readParts inside with
      | .error error => .error error
      | .ok (bodies, atEnd) =>
        match closeSection opening.identifier.text atEnd with
        | .error error => .error error
        | .ok after => .ok (some (node bodies, after))
    | none => .ok ((afterOpening.skipGaps.literal? ['/', '}']).map fun after => (node [], after))

/-- The parts that are tried before a section. -/
def earlyPart? (cursor : Cursor) : Option (Node × Cursor) :=
  match raw? cursor with
  | some found => some found
  | none => comment? cursor

/-- The parts that are tried after a section. -/
def latePart? (cursor : Cursor) : Option (Node × Cursor) :=
  match inclusion? cursor with
  | some found => some found
  | none =>
    match special? cursor with
    | some found => some found
    | none =>
      match reference? cursor with
      | some found => some found
      | none => text? cursor

def part? (readParts : BodyRule) (cursor : Cursor) : Except ParseError (Option (Node × Cursor)) :=
  match earlyPart? cursor with
  | some found => .ok (some found)
  | none =>
    match section? readParts cursor with
    | .error error => .error error
    | .ok (some found) => .ok (some found)
    | .ok none => .ok (latePart? cursor)

/-- The parts from a cursor on, at most a number of them in a row or nested. -/
def partsWithin : Nat → BodyRule
  | 0, cursor => .ok ([], cursor)
  | fuel + 1, cursor =>
    match part? (partsWithin fuel) cursor with
    | .error error => .error error
    | .ok none => .ok ([], cursor)
    | .ok (some (node, afterPart)) =>
      match partsWithin fuel afterPart with
      | .error error => .error error
      | .ok (nodes, after) => .ok (node :: nodes, after)

/-- The parts from a cursor on. Every part and every opening tag takes a character, so that there
are no more in a row or nested than characters are left. -/
def parts (cursor : Cursor) : Except ParseError (List Node × Cursor) :=
  partsWithin (cursor.rest.length + 1) cursor

/-- The kinds of parts there are, by name. -/
def partNames : List String :=
  ["buffer", "comment", "partial", "raw", "reference", "section", "special"]

end BraceTemplate.Reading

namespace BraceTemplate

open Reading Source

/-- The tree of a template, or why the source is none. -/
def Node.parse (source : String) : Except ParseError Node :=
  let start := Cursor.ofString source
  match parts start with
  | .error error => .error error
  | .ok (nodes, last) =>
    match last.rest with
    | [] => .ok (.body nodes start.position)
    | char :: _ => .error (.at last.place (.unexpected partNames (some char)))

end BraceTemplate
