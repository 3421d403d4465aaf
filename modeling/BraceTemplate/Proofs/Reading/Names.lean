import BraceTemplate.Proofs.Grammar.Readers

/-!
Line ends, gaps, keys and digits, as the grammar has them.
-/

namespace BraceTemplate.Grammar

open Reading Source
open Expression hiding char

theorem reads_mark (chars : List Char) (cursor : Cursor) :
    Reads (mark chars) cursor
      ((cursor.literal? chars).map fun after => (chars, after)) := by
  apply ((Reads.text chars cursor).map fun _ => chars).congr
  simp only [Option.map_map, Function.comp_def]

def lineEnd? (cursor : Cursor) : Option (List Char × Cursor) :=
  match cursor.literal? ['\r', '\n'] with
  | some after => some (['\r', '\n'], after)
  | none => (cursor.char? isLineBreak).map fun (char, after) => ([char], after)

theorem reads_lineEnd (cursor : Cursor) : Reads (.rule .lineEnd) cursor (lineEnd? cursor) := by
  have reads := (reads_mark ['\n'] cursor).choice <| (reads_mark ['\r', '\n'] cursor).choice <|
    (reads_mark ['\r'] cursor).choice <| (reads_mark ['\u2028'] cursor).choice
      (reads_mark ['\u2029'] cursor)
  apply Derives.rule
  apply reads.congr
  obtain ⟨place, rest⟩ := cursor
  cases rest with
  | nil => rfl
  | cons char rest =>
      by_cases feed : char = '\n'
      · subst feed
        rfl
      · by_cases carriage : char = '\r'
        · subst carriage
          cases rest with
          | nil => rfl
          | cons next rest =>
              by_cases nextFeed : next = '\n'
              · subst nextFeed
                rfl
              · simp [Cursor.literal?, lineEnd?, Cursor.char?, isLineBreak, Ne.symm nextFeed]
        · by_cases separator : char = '\u2028'
          · subst separator
            rfl
          · by_cases paragraph : char = '\u2029'
            · subst paragraph
              rfl
            · simp [Cursor.literal?, lineEnd?, Cursor.char?, isLineBreak, feed, carriage,
                separator, paragraph, Ne.symm feed, Ne.symm carriage, Ne.symm separator,
                Ne.symm paragraph]

def gap? (cursor : Cursor) : Option (List Char × Cursor) :=
  ((cursor.char? isBlank).map fun (char, after) => ([char], after)).or (lineEnd? cursor)

theorem reads_gap (cursor : Cursor) : Reads (.rule .gap) cursor (gap? cursor) := by
  apply Derives.rule
  exact ((Reads.oneOf isBlank cursor).map fun char => [char]).choice (reads_lineEnd cursor)

theorem takeWhile_cons (accepts : Char → Bool) (place : Place) (char : Char)
    (rest : List Char) :
    (Cursor.mk place (char :: rest)).takeWhile accepts =
      if accepts char then
        (char :: ((Cursor.mk (place.advance char) rest).takeWhile accepts).1,
          ((Cursor.mk (place.advance char) rest).takeWhile accepts).2)
      else ([], ⟨place, char :: rest⟩) := by
  by_cases accepted : accepts char = true <;>
    simp [Cursor.takeWhile, Cursor.takeUntil, Cursor.takeUntilFrom, Cursor.startsWith, accepted]

/-- A line end is a single character, unless a line feed goes with a carriage return. -/
theorem lineEnd?_single {place : Place} {char : Char} {rest : List Char}
    (single : ¬(char = '\r' ∧ rest.head? = some '\n')) :
    lineEnd? ⟨place, char :: rest⟩ =
      if isLineBreak char then some ([char], ⟨place.advance char, rest⟩) else none := by
  have noPair : Cursor.literal? ['\r', '\n'] ⟨place, char :: rest⟩ = none := by
    by_cases carriage : char = '\r'
    · subst carriage
      cases rest with
      | nil => rfl
      | cons next rest =>
          have notFeed : '\n' ≠ next := fun feed => single ⟨rfl, congrArg some feed.symm⟩
          simp [Cursor.literal?, notFeed]
    · simp [Cursor.literal?, Ne.symm carriage]
  simp only [lineEnd?, noPair, Cursor.char?]
  cases isLineBreak char <;> rfl

theorem takeWhile_of_gap? {cursor after : Cursor} {chars : List Char}
    (found : gap? cursor = some (chars, after)) :
    cursor.takeWhile isGap =
      (chars ++ (after.takeWhile isGap).1, (after.takeWhile isGap).2) := by
  obtain ⟨place, rest⟩ := cursor
  cases rest with
  | nil => cases found
  | cons char rest =>
      rw [takeWhile_cons]
      by_cases blank : isBlank char = true
      · simp only [gap?, Cursor.char?, blank, if_true, Option.map_some, Option.some_or,
          Option.some.injEq, Prod.mk.injEq] at found
        obtain ⟨rfl, rfl⟩ := found
        simp [isGap, blank]
      · by_cases pair : char = '\r' ∧ rest.head? = some '\n'
        · obtain ⟨rfl, next⟩ := pair
          obtain ⟨more, rfl⟩ := List.head?_eq_some_iff.1 next
          cases found
          rw [takeWhile_cons]
          rfl
        · simp only [gap?, Cursor.char?, blank, lineEnd?_single pair] at found
          by_cases ends : isLineBreak char = true
          · simp only [ends, if_true] at found
            cases found
            simp [isGap, ends]
          · simp [ends] at found

/-- There is a gap exactly where a character may stand in one. -/
theorem isSome_gap? (place : Place) (char : Char) (rest : List Char) :
    (gap? ⟨place, char :: rest⟩).isSome = isGap char := by
  by_cases blank : isBlank char = true
  · simp [gap?, Cursor.char?, isGap, blank]
  · by_cases pair : char = '\r' ∧ rest.head? = some '\n'
    · obtain ⟨rfl, next⟩ := pair
      obtain ⟨more, rfl⟩ := List.head?_eq_some_iff.1 next
      rfl
    · simp only [gap?, Cursor.char?, isGap, blank, lineEnd?_single pair]
      cases isLineBreak char <;> rfl

theorem takeWhile_of_gap?_eq_none {cursor : Cursor} (notFound : gap? cursor = none) :
    cursor.takeWhile isGap = ([], cursor) := by
  obtain ⟨place, rest⟩ := cursor
  cases rest with
  | nil => rfl
  | cons char rest =>
      have noGap := isSome_gap? place char rest
      rw [notFound] at noGap
      rw [takeWhile_cons, ← noGap]
      rfl

/-- Gaps one by one are a run of characters that may stand in a gap. -/
theorem many_gap? (cursor : Cursor) :
    ((cursor.many gap?).1.flatten, (cursor.many gap?).2) =
      cursor.takeWhile isGap := by
  generalize bound : cursor.rest.length = count
  induction count using Nat.strongRecOn generalizing cursor with
  | _ count inductionHypothesis =>
      have unfolded := Reads.many_eq cursor (fun later _ => reads_gap later) rfl
      rw [unfolded]
      cases found : gap? cursor with
      | none => exact (takeWhile_of_gap?_eq_none found).symm
      | some pair =>
          obtain ⟨chars, after⟩ := pair
          have shorter := ((reads_gap cursor).congr found).shorter rfl
          have later := inductionHypothesis _ (by omega) after rfl
          rw [takeWhile_of_gap? found, ← later]
          rfl

theorem reads_gaps (cursor : Cursor) :
    Reads gaps cursor (some (cursor.takeWhile isGap)) := by
  have repeated := (Reads.many cursor (fun later _ => reads_gap later) rfl).map List.flatten
  exact repeated.congr (congrArg some (many_gap? cursor))

theorem reads_atLeastOneGap (cursor : Cursor) :
    ∃ found, Reads (atLeastOne (.rule .gap)) cursor found ∧
      found.map Prod.snd = (cursor.char? isGap).map fun (_, after) => after.skipGaps := by
  have reads := Reads.atLeastOne cursor (fun later _ => reads_gap later) rfl
  refine ⟨_, reads, ?_⟩
  have unfolded := Reads.many_eq cursor (fun later _ => reads_gap later) rfl
  rw [unfolded]
  obtain ⟨place, rest⟩ := cursor
  cases rest with
  | nil => rfl
  | cons char rest =>
      have gapChar := isSome_gap? place char rest
      cases found : gap? ⟨place, char :: rest⟩ with
      | none =>
          rw [found] at gapChar
          simp [Cursor.char?, ← gapChar, nonempty?]
      | some pair =>
          obtain ⟨chars, after⟩ := pair
          rw [found] at gapChar
          have run := takeWhile_of_gap? found
          rw [takeWhile_cons, ← gapChar, ← many_gap? after] at run
          have ends : (Cursor.mk (place.advance char) rest).skipGaps = (after.many gap?).2 :=
            congrArg Prod.snd run
          simp [Cursor.char?, ← gapChar, nonempty?, ends]

theorem reads_key (cursor : Cursor) : Reads (.rule .key) cursor (key? cursor) := by
  have first := (Reads.oneOf isKeyStart cursor).map fun first more => String.ofList (first :: more)
  have reads := first.both (fun change result => change result)
    fun _ middle _ => Reads.manyOf isKeyChar middle
  apply Derives.rule
  apply reads.congr
  unfold key?
  cases cursor.char? isKeyStart <;> rfl

theorem reads_digits (cursor : Cursor) : Reads digits cursor (digits? cursor) := by
  have reads := Reads.atLeastOne cursor (fun later _ => Reads.oneOf Char.isDigit later) rfl
  rw [many_char?] at reads
  apply reads.congr
  unfold digits?
  rcases cursor.takeWhile Char.isDigit with ⟨_ | ⟨digit, more⟩, after⟩ <;> rfl

end BraceTemplate.Grammar
