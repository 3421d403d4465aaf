import BraceTemplate.Source.Place

/-!
What is left of a source together with its place. A rule takes a cursor and returns what it read
with a later cursor, or nothing; a rule that fails therefore leaves the place alone.
-/

namespace BraceTemplate.Source

/-- The characters that are left, and where they start. -/
structure Cursor where
  place : Place
  rest : List Char
deriving Inhabited, DecidableEq

namespace Cursor

/-- The cursor at the beginning of a source. -/
def ofString (source : String) : Cursor :=
  ⟨Place.start, source.toList⟩

/-- Line and column of the next character. -/
def position (cursor : Cursor) : Position :=
  cursor.place.position

/-- The next character where it is of a kind. -/
def classify? {Kind : Type} (kindOf : Char → Option Kind) (cursor : Cursor) :
    Option (Kind × Cursor) :=
  match cursor.rest with
  | [] => none
  | char :: rest => (kindOf char).map fun kind => (kind, ⟨cursor.place.advance char, rest⟩)

/-- The next character where it is accepted. -/
def char? (accepts : Char → Bool) (cursor : Cursor) : Option (Char × Cursor) :=
  match cursor.rest with
  | [] => none
  | char :: rest => if accepts char then some (char, ⟨cursor.place.advance char, rest⟩) else none

/-- The cursor after given characters where they come next. -/
def literal? : List Char → Cursor → Option Cursor
  | [], cursor => some cursor
  | wanted :: more, ⟨place, char :: rest⟩ =>
    if wanted = char then literal? more ⟨place.advance char, rest⟩ else none
  | _ :: _, ⟨_, []⟩ => none

/-- The characters up to the first place where a test on the cursor holds, from a place and what is
left. -/
def takeUntilFrom (stops : Cursor → Bool) (place : Place) : List Char → List Char × Cursor
  | [] => ([], ⟨place, []⟩)
  | char :: rest =>
    if stops ⟨place, char :: rest⟩ then ([], ⟨place, char :: rest⟩)
    else
      let (taken, after) := takeUntilFrom stops (place.advance char) rest
      (char :: taken, after)

def takeUntil (stops : Cursor → Bool) (cursor : Cursor) : List Char × Cursor :=
  takeUntilFrom stops cursor.place cursor.rest

/-- Whether the next character is of a kind. -/
def startsWith (accepts : Char → Bool) (cursor : Cursor) : Bool :=
  match cursor.rest with
  | [] => false
  | char :: _ => accepts char

def takeWhile (accepts : Char → Bool) (cursor : Cursor) : List Char × Cursor :=
  cursor.takeUntil fun next => !next.startsWith accepts

def skipGaps (cursor : Cursor) : Cursor :=
  (cursor.takeWhile isGap).2

/-- The results of a rule applied as often as it matches, at most a number of times. -/
def manyWithin {Result : Type} (rule : Cursor → Option (Result × Cursor)) :
    Nat → Cursor → List Result × Cursor
  | 0, cursor => ([], cursor)
  | fuel + 1, cursor =>
    match rule cursor with
    | none => ([], cursor)
    | some (result, after) =>
      let (results, last) := manyWithin rule fuel after
      (result :: results, last)

/-- The results of a rule applied as often as it matches. A rule that matches takes at least one
character, so that no more matches are possible than characters are left. -/
def many {Result : Type} (rule : Cursor → Option (Result × Cursor)) (cursor : Cursor) :
    List Result × Cursor :=
  manyWithin rule cursor.rest.length cursor

end Cursor

end BraceTemplate.Source
