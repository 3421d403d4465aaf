import BraceTemplate.Proofs.Reading.References

/-!
Quoted texts.
-/

namespace BraceTemplate.Grammar

open Reading Source
open Expression hiding char

def quotedChar? (cursor : Cursor) : Option (Char × Cursor) :=
  if looksLikeTag cursor || cursor.startsWith isLineBreak then none
  else ((cursor.literal? ['\\', '"']).map fun after => ('"', after)).or
    (cursor.char? fun char => char != '"')

theorem looks_quoted :
    Looks (butNot (.rule .tag) *> butNot (.rule .lineEnd)) fun cursor =>
      looksLikeTag cursor || cursor.startsWith isLineBreak := by
  have looks := (Looks.butNot reads_tag).and (Looks.butNot reads_lineEnd)
  simpa only [isSome_tag?, isSome_lineEnd?] using looks

theorem reads_escape (cursor : Cursor) :
    Reads (.rule .escape) cursor
      ((cursor.literal? ['\\', '"']).map fun after => ('"', after)) := by
  apply Derives.rule
  apply ((Reads.text ['\\', '"'] cursor).map fun _ => '"').congr
  rw [Option.map_map]
  rfl

theorem reads_quotedChar (cursor : Cursor) :
    Reads (butNot (.rule .tag) *> butNot (.rule .lineEnd) *>
      (.rule .escape <|> oneOf fun char => char != '"')) cursor (quotedChar? cursor) := by
  have item := fun later : Cursor =>
    (reads_escape later).choice (Reads.oneOf (fun char => char != '"') later)
  apply ((looks_quoted cursor).seqRight item).congr
  unfold quotedChar?
  cases stops : looksLikeTag cursor || cursor.startsWith isLineBreak <;> simp [stops]

section QuotedChar

variable {place : Place} {char : Char} {rest : List Char}

theorem quotedChar?_stops
    (stops : (looksLikeTag ⟨place, char :: rest⟩ || isLineBreak char || char = '"') = true) :
    quotedChar? ⟨place, char :: rest⟩ = none := by
  by_cases quote : char = '"'
  · subst quote
    simp [quotedChar?, Cursor.literal?, Cursor.char?]
  · have early : (looksLikeTag ⟨place, char :: rest⟩ || isLineBreak char) = true := by
      simpa [quote] using stops
    simp only [quotedChar?, Cursor.startsWith, early, if_true]

theorem quotedChar?_escape
    (goesOn : (looksLikeTag ⟨place, '\\' :: '"' :: rest⟩ || isLineBreak '\\') = false) :
    quotedChar? ⟨place, '\\' :: '"' :: rest⟩ =
      some ('"', ⟨(place.advance '\\').advance '"', rest⟩) := by
  simp only [quotedChar?, Cursor.startsWith, goesOn]
  rfl

theorem literal?_escape_eq_none (notEscape : ∀ more, char = '\\' → rest = '"' :: more → False) :
    Cursor.literal? ['\\', '"'] ⟨place, char :: rest⟩ = none := by
  by_cases slash : '\\' = char
  · subst slash
    cases rest with
    | nil => rfl
    | cons next more =>
        have notQuote : '"' ≠ next := fun quote => notEscape more rfl (quote ▸ rfl)
        simp [Cursor.literal?, notQuote]
  · simp [Cursor.literal?, slash]

theorem quotedChar?_plain (notEscape : ∀ more, char = '\\' → rest = '"' :: more → False)
    (goesOn : ¬(looksLikeTag ⟨place, char :: rest⟩ || isLineBreak char || char = '"') = true) :
    quotedChar? ⟨place, char :: rest⟩ = some (char, ⟨place.advance char, rest⟩) := by
  simp only [Bool.not_eq_true, Bool.or_eq_false_iff, decide_eq_false_iff_not] at goesOn
  simp [quotedChar?, Cursor.startsWith, Cursor.char?, literal?_escape_eq_none notEscape, goesOn]

end QuotedChar

/-- Reading one character after the other reads the run of a quoted text. -/
theorem many_quotedChar? (place : Place) (rest : List Char) :
    (Cursor.mk place rest).many quotedChar? = quotedRunFrom place rest := by
  induction place, rest using quotedRunFrom.induct with
  | case1 place => rfl
  | case2 place char rest stops =>
      rw [Reads.many_eq _ (fun later _ => reads_quotedChar later) rfl, quotedChar?_stops stops]
      unfold quotedRunFrom
      rw [if_pos stops]
  | case3 place more taken after _ goesOn inductionHypothesis =>
      have early : (looksLikeTag ⟨place, '\\' :: '"' :: more⟩ || isLineBreak '\\') = false := by
        simpa using goesOn
      rw [Reads.many_eq _ (fun later _ => reads_quotedChar later) rfl, quotedChar?_escape early]
      unfold quotedRunFrom
      rw [if_neg goesOn]
      dsimp only
      rewrite [inductionHypothesis]
      rfl
  | case4 place char rest notEscape taken after _ goesOn inductionHypothesis =>
      rw [Reads.many_eq _ (fun later _ => reads_quotedChar later) rfl,
        quotedChar?_plain notEscape goesOn]
      unfold quotedRunFrom
      rw [if_neg goesOn]
      dsimp only
      split
      next => exact (notEscape _ rfl rfl).elim
      next => rw [← inductionHypothesis]

theorem reads_quotedText (cursor : Cursor) :
    Reads (.rule .literal) cursor (quotedText? cursor) := by
  have run := Reads.atLeastOne cursor (fun later _ => reads_quotedChar later) rfl
  apply Derives.rule
  apply (run.map String.ofList).congr
  unfold quotedText?
  rw [many_quotedChar?]
  rcases quotedRunFrom cursor.place cursor.rest with ⟨_ | ⟨char, more⟩, after⟩ <;> rfl

theorem reads_quotedPart (cursor : Cursor) :
    Reads (.rule .inlinePart) cursor (quotedPart? cursor) := by
  have build := (Reads.position cursor).map fun position content => Node.text content position
  have text := build.behind (fun change result => change result) (reads_quotedText cursor)
  have reads := (reads_special cursor).choice ((reads_reference cursor).choice text)
  apply Derives.rule
  apply reads.congr
  unfold quotedPart?
  cases special? cursor with
  | some found => rfl
  | none =>
      cases reference? cursor with
      | some found => rfl
      | none => rfl

theorem reads_quotedNothing (cursor : Cursor) :
    Reads ((fun _ => .plain "") <$> text ['"', '"']) cursor (quotedNothing? cursor) := by
  apply ((Reads.text ['"', '"'] cursor).map fun _ => Quotation.plain "").congr
  unfold quotedNothing?
  cases cursor.literal? ['"', '"'] <;> rfl

theorem reads_quotedPlain (cursor : Cursor) :
    Reads (Quotation.plain <$> (text ['"'] *> .rule .literal) <* text ['"']) cursor
      (quotedPlain? cursor) := by
  have opened := (Reads.afterText ['"'] cursor reads_quotedText).map Quotation.plain
  apply (opened.beforeText ['"']).congr
  unfold quotedPlain?
  cases cursor.literal? ['"'] with
  | none => rfl
  | some inside =>
      simp only [Option.bind_eq_bind, Option.bind_some]
      cases quotedText? inside with
      | none => rfl
      | some pair =>
          obtain ⟨content, afterText⟩ := pair
          simp only [Option.bind_some, Option.map_some]
          cases afterText.literal? ['"'] <;> rfl

theorem reads_quotedMixed (cursor : Cursor) :
    Reads ((fun position parts => .mixed parts position) <$> position <*>
      (text ['"'] *> atLeastOne (.rule .inlinePart)) <* text ['"']) cursor
      (quotedMixed? cursor) := by
  have parts := fun inside : Cursor =>
    Reads.atLeastOne inside (fun later _ => reads_quotedPart later) rfl
  have build := (Reads.position cursor).map fun position parts => Quotation.mixed parts position
  have opened := build.behind (fun change result => change result)
    (Reads.afterText ['"'] cursor parts)
  apply (opened.beforeText ['"']).congr
  unfold quotedMixed?
  cases cursor.literal? ['"'] with
  | none => rfl
  | some inside =>
      simp only [Option.bind_eq_bind, Option.bind_some]
      rcases inside.many quotedPart? with ⟨_ | ⟨part, more⟩, afterParts⟩
      · rfl
      · simp only [nonempty?, Option.map_some, Option.bind_some]
        cases afterParts.literal? ['"'] <;> rfl

theorem reads_quotation (cursor : Cursor) :
    Reads (.rule .inline) cursor (quotation? cursor) := by
  have reads := (reads_quotedNothing cursor).choice <|
    (reads_quotedPlain cursor).choice (reads_quotedMixed cursor)
  apply Derives.rule
  apply reads.congr
  unfold quotation?
  cases quotedNothing? cursor with
  | some found => rfl
  | none => cases quotedPlain? cursor <;> rfl

end BraceTemplate.Grammar
