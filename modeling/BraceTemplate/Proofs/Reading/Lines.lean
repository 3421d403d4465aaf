import Mathlib.Data.List.DropRight
import BraceTemplate.Source.Place

/-!
# Lines and columns

A line ends after a line feed, a carriage return, a line separator or a paragraph separator, and a
carriage return takes a line feed along. Places count lines so, except that a separator takes a line
feed along too: behind every such line feed a line less is counted than there is.
-/

namespace BraceTemplate

namespace Source

/-- The line breaks of a text: a carriage return and a line feed are one, and otherwise each
character is that ends a line. -/
def lineBreaks : List Char → Nat
  | [] => 0
  | '\r' :: '\n' :: rest => lineBreaks rest + 1
  | char :: rest => lineBreaks rest + if isLineBreak char then 1 else 0

def lastLine (chars : List Char) : List Char :=
  chars.rtakeWhile (!isLineBreak ·)

def isSeparator (char : Char) : Bool :=
  char = '\u2028' || char = '\u2029'

def separatedFeeds : List Char → Nat
  | [] => 0
  | char :: rest =>
    separatedFeeds rest + if isSeparator char && rest.head? = some '\n' then 1 else 0

/-- Line breaks other than line feeds, and other than a carriage return with its line feed, are
separators where a line feed comes next. -/
theorem separator_takes {char : Char} {rest : List Char} (noFeed : char ≠ '\n')
    (ends : isLineBreak char = true)
    (notReturn : ∀ more, char = '\r' → rest = '\n' :: more → False) :
    (isSeparator char && rest.head? = some '\n') = decide (rest.head? = some '\n') := by
  cases separator : isSeparator char with
  | true => rw [Bool.true_and]
  | false =>
      have isReturn : char = '\r' := by
        simp only [isLineBreak, isSeparator, Bool.or_eq_true, Bool.or_eq_false_iff,
          decide_eq_true_eq, decide_eq_false_iff_not] at ends separator
        tauto
      cases rest with
      | nil => rfl
      | cons next more =>
          have noFeedNext : next ≠ '\n' := fun isFeed => notReturn more isReturn (isFeed ▸ rfl)
          simp [noFeedNext]

namespace Place

theorem advance_feed (place : Place) :
    place.advance '\n' =
      ⟨place.offset + 1, if place.afterReturn then place.line else place.line + 1, 1, false⟩ :=
  rfl

theorem advance_break (place : Place) {char : Char} (noFeed : char ≠ '\n')
    (ends : isLineBreak char = true) :
    place.advance char = ⟨place.offset + char.utf8Size, place.line + 1, 1, true⟩ := by
  simp only [advance, noFeed, ends, if_false, if_true]

theorem advance_within (place : Place) {char : Char} (within : isLineBreak char = false) :
    place.advance char = ⟨place.offset + char.utf8Size, place.line, place.column + 1, false⟩ := by
  have noFeed : char ≠ '\n' := by
    rintro rfl
    cases within
  simp only [advance, noFeed, within, if_false, Bool.false_eq_true]

/-- How many lines are counted: of the line feeds behind separators none is, nor one in front of
everything that the place before takes along. -/
theorem line_advanceAll (place : Place) (chars : List Char) :
    (place.advanceAll chars).line + separatedFeeds chars +
        (if place.afterReturn && chars.head? = some '\n' then 1 else 0) =
      place.line + lineBreaks chars := by
  -- The place in between two characters tells whether the first one takes the second along.
  induction chars using lineBreaks.induct generalizing place with
  | case1 => simp [advanceAll, separatedFeeds, lineBreaks]
  | case2 rest inductionHypothesis =>
      have later := inductionHypothesis ((place.advance '\r').advance '\n')
      have advanced : place.advanceAll ('\r' :: '\n' :: rest) =
          ((place.advance '\r').advance '\n').advanceAll rest := rfl
      have ended : ((place.advance '\r').advance '\n').line = place.line + 1 := rfl
      have noFeeds : separatedFeeds ('\r' :: '\n' :: rest) = separatedFeeds rest := by
        simp [separatedFeeds, isSeparator]
      have takesNone : ((place.advance '\r').advance '\n').afterReturn = false := rfl
      have noFeed : ¬some '\r' = some '\n' := by decide
      rw [ended, takesNone] at later
      rw [advanced, noFeeds, lineBreaks, List.head?_cons]
      simp only [Bool.false_and, noFeed, decide_false, Bool.and_false, Bool.false_eq_true,
        if_false] at later ⊢
      omega
  | case3 char rest notReturn inductionHypothesis =>
      have later := inductionHypothesis (place.advance char)
      have counted : lineBreaks (char :: rest) =
          lineBreaks rest + if isLineBreak char then 1 else 0 := by
        rw [lineBreaks]
        exact notReturn
      have advanced : place.advanceAll (char :: rest) = (place.advance char).advanceAll rest := rfl
      rw [counted, advanced, separatedFeeds, List.head?_cons]
      by_cases feed : char = '\n'
      · subst feed
        have fed : (if isLineBreak '\n' then 1 else 0) = 1 := rfl
        have noSeparator : (isSeparator '\n' && rest.head? = some '\n') = false := rfl
        have taken : (place.afterReturn && some '\n' = some '\n') = place.afterReturn := by simp
        rw [advance_feed] at later ⊢
        rw [fed, noSeparator, taken]
        simp only [Bool.false_and, Bool.false_eq_true, if_false] at later ⊢
        cases returned : place.afterReturn <;>
          simp only [returned, Bool.false_eq_true, if_false, if_true] at later ⊢ <;> omega
      · cases ends : isLineBreak char with
        | false =>
            have noSeparator : isSeparator char = false := by
              simp only [isLineBreak, Bool.or_eq_false_iff] at ends
              simp only [isSeparator, Bool.or_eq_false_iff, ends, and_self]
            rw [advance_within place ends] at later ⊢
            simpa [noSeparator, feed] using later
        | true =>
            rw [advance_break place feed ends] at later ⊢
            rw [separator_takes feed ends notReturn]
            simp only [Bool.true_and, Option.some.injEq, feed, decide_false, Bool.and_false,
              Bool.false_eq_true, if_false, if_true] at later ⊢
            omega

theorem column_advanceAll (chars : List Char) :
    (start.advanceAll chars).column = 1 + (lastLine chars).length := by
  induction chars using List.reverseRecOn with
  | nil => rfl
  | append_singleton before char inductionHypothesis =>
      rw [advanceAll_append, lastLine, List.rtakeWhile_concat]
      change ((start.advanceAll before).advance char).column = _
      cases ends : isLineBreak char with
      | true =>
          by_cases feed : char = '\n'
          · rw [feed, advance_feed]
            rfl
          · simp [advance_break _ feed ends]
      | false =>
          rw [advance_within _ ends]
          simp [inductionHypothesis, lastLine, Nat.add_assoc]

end Place

end Source

open Source

/-- A position is the one behind a text: it counts the line breaks there, except for line feeds
behind separators, and the characters of the last line. -/
structure Position.Follows (position : Position) (before : List Char) : Prop where
  line : position.line + separatedFeeds before = 1 + lineBreaks before
  column : position.column = 1 + (lastLine before).length

theorem Source.Place.follows_advanceAll (before : List Char) :
    (start.advanceAll before).position.Follows before :=
  ⟨start.line_advanceAll before, column_advanceAll before⟩

end BraceTemplate
