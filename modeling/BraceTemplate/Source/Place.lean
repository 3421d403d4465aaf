/-!
Places in a source: how many bytes precede a character, and its line and column. A line ends after a
line feed, a carriage return, a line separator or a paragraph separator; a line feed right after one
of the other three ends no further line.
-/

namespace BraceTemplate

/-- A line and a column, both counted from one. -/
structure Position where
  line : Nat
  column : Nat
deriving Repr, DecidableEq, Inhabited

namespace Source

/-- Whether a character ends a line. -/
def isLineBreak (char : Char) : Bool :=
  char = '\n' || char = '\r' || char = '\u2028' || char = '\u2029'

def isBlank (char : Char) : Bool :=
  char = '\t' || char = '\x0b' || char = '\x0c' || char = ' ' || char = '\u00a0' || char = '\ufeff'

def isGap (char : Char) : Bool :=
  isBlank char || isLineBreak char

/-- Where a character stands. -/
structure Place where
  /-- The number of bytes before it. -/
  offset : Nat
  line : Nat
  column : Nat
  /-- The character before it ended a line and takes a line feed along. -/
  afterReturn : Bool
deriving Repr, DecidableEq, Inhabited

namespace Place

def start : Place := ⟨0, 1, 1, false⟩

def advance (place : Place) (char : Char) : Place :=
  let offset := place.offset + char.utf8Size
  if char = '\n' then
    ⟨offset, if place.afterReturn then place.line else place.line + 1, 1, false⟩
  else if isLineBreak char then ⟨offset, place.line + 1, 1, true⟩
  else ⟨offset, place.line, place.column + 1, false⟩

def advanceAll (place : Place) (chars : List Char) : Place :=
  chars.foldl advance place

/-- Line and column of the place. -/
def position (place : Place) : Position :=
  ⟨place.line, place.column⟩

/-- Passing two runs of characters is passing the first and then the second. -/
theorem advanceAll_append (place : Place) (first second : List Char) :
    place.advanceAll (first ++ second) = (place.advanceAll first).advanceAll second := by
  simp [advanceAll]

end Place

end Source

end BraceTemplate
