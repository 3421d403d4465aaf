import BraceTemplate.Proofs.Reading.Paths

/-!
References, specials and whatever else looks like a tag.
-/

namespace BraceTemplate.Grammar

open Reading Source
open Expression hiding char

theorem reads_filters (cursor : Cursor) :
    Reads (.rule .filters) cursor (some (cursor.many filter?)) := by
  apply Derives.rule
  exact Reads.many cursor (fun later _ => Reads.afterText ['|'] later reads_key) rfl

theorem reads_reference (cursor : Cursor) :
    Reads (.rule .reference) cursor (reference? cursor) := by
  have build := (Reads.position cursor).map fun position identifier filters =>
    Node.reference identifier filters position
  have named := build.behind (fun change result => change result)
    (Reads.afterText ['{'] cursor reads_identifier)
  have closed := (named.seq reads_filters).beforeText ['}']
  apply Derives.rule
  apply closed.congr
  unfold reference?
  cases cursor.literal? ['{'] with
  | none => rfl
  | some inside =>
      simp only [Option.bind_eq_bind, Option.bind_some]
      cases identifier? inside with
      | none => rfl
      | some pair =>
          obtain ⟨identifier, afterName⟩ := pair
          simp only [Option.bind_some, Option.map_some]
          cases (afterName.many filter?).2.literal? ['}'] <;> rfl

theorem reads_special (cursor : Cursor) : Reads (.rule .special) cursor (special? cursor) := by
  have build := (Reads.position cursor).map fun position key => Node.special key position
  have named := build.behind (fun change result => change result)
    (Reads.afterText ['{', '~'] cursor reads_key)
  have closed := named.beforeText ['}']
  apply Derives.rule
  apply closed.congr
  unfold special?
  cases cursor.literal? ['{', '~'] with
  | none => rfl
  | some inside =>
      simp only [Option.bind_eq_bind, Option.bind_some]
      cases key? inside with
      | none => rfl
      | some pair =>
          obtain ⟨key, afterKey⟩ := pair
          simp only [Option.bind_some, Option.map_some]
          cases afterKey.literal? ['}'] <;> rfl

theorem rest_takeWhile (accepts : Char → Bool) (place : Place) (chars : List Char) :
    ((Cursor.mk place chars).takeWhile accepts).1 = chars.takeWhile accepts ∧
      ((Cursor.mk place chars).takeWhile accepts).2.rest = chars.dropWhile accepts := by
  induction chars generalizing place with
  | nil => exact ⟨rfl, rfl⟩
  | cons char rest inductionHypothesis =>
      rw [takeWhile_cons]
      cases accepted : accepts char with
      | false => simp [List.takeWhile, List.dropWhile, accepted]
      | true =>
          have later := inductionHypothesis (place.advance char)
          simp [List.takeWhile, List.dropWhile, accepted, later]

theorem rest_skipGaps (cursor : Cursor) :
    cursor.skipGaps.rest = cursor.rest.dropWhile isGap :=
  (rest_takeWhile isGap cursor.place cursor.rest).2

def isTagContent (char : Char) : Bool :=
  char != '}' && !isLineBreak char

theorem isSome_lineEnd? (cursor : Cursor) :
    (lineEnd? cursor).isSome = cursor.startsWith isLineBreak := by
  obtain ⟨place, rest⟩ := cursor
  cases rest with
  | nil => rfl
  | cons char rest =>
      by_cases pair : char = '\r' ∧ rest.head? = some '\n'
      · obtain ⟨rfl, next⟩ := pair
        obtain ⟨more, rfl⟩ := List.head?_eq_some_iff.1 next
        rfl
      · rw [lineEnd?_single pair]
        simp only [Cursor.startsWith]
        cases isLineBreak char <;> rfl

theorem isSome_literal? (chars : List Char) (cursor : Cursor) :
    (cursor.literal? chars).isSome = chars.isPrefixOf cursor.rest := by
  induction chars generalizing cursor with
  | nil => rfl
  | cons wanted more inductionHypothesis =>
      obtain ⟨place, rest⟩ := cursor
      cases rest with
      | nil => rfl
      | cons char rest =>
          by_cases same : wanted = char
          · simp [Cursor.literal?, List.isPrefixOf, same, inductionHypothesis]
          · simp [Cursor.literal?, List.isPrefixOf, same]

def closing? (cursor : Cursor) : Option (Unit × Cursor) :=
  (nonempty? (cursor.skipGaps.takeWhile isTagContent)).bind fun (_, atEnd) =>
    (atEnd.skipGaps.literal? ['}']).map fun after => ((), after)

def shape? (cursor : Cursor) : Option (Unit × Cursor) :=
  (cursor.literal? ['{']).bind fun inside =>
    (inside.skipGaps.char? isTagMark).bind fun (_, afterMark) => closing? afterMark

theorem closesTag_eq (chars : List Char) :
    closesTag chars = (!((chars.dropWhile isGap).takeWhile isTagContent).isEmpty &&
      ['}'].isPrefixOf (((chars.dropWhile isGap).dropWhile isTagContent).dropWhile isGap)) := by
  have sameContent : (fun char => char != '}' && !isLineBreak char) = isTagContent := rfl
  simp only [closesTag, sameContent]
  split
  next empty => simp [empty]
  next content =>
    rw [content]
    split
    next closes => simp [closes, List.isPrefixOf]
    next closesNot =>
      generalize ((chars.dropWhile isGap).dropWhile isTagContent).dropWhile isGap = left
        at closesNot
      cases left with
      | nil => rfl
      | cons char more =>
          have notBrace : '}' ≠ char := fun brace => closesNot more (brace ▸ rfl)
          simp [List.isPrefixOf, notBrace]

theorem isSome_closing? (cursor : Cursor) : (closing? cursor).isSome = closesTag cursor.rest := by
  have content := rest_takeWhile isTagContent cursor.skipGaps.place cursor.skipGaps.rest
  rw [closesTag_eq, ← rest_skipGaps, ← content.1, ← content.2]
  unfold closing?
  rcases cursor.skipGaps.takeWhile isTagContent with ⟨_ | ⟨char, more⟩, atEnd⟩
  · rfl
  · rw [← rest_skipGaps, ← isSome_literal?]
    simp only [nonempty?, Option.bind_some, Option.isSome_map]
    rfl

theorem isSome_shape? (cursor : Cursor) : (shape? cursor).isSome = hasTagShape cursor.rest := by
  obtain ⟨place, rest⟩ := cursor
  cases rest with
  | nil => rfl
  | cons char inside =>
      by_cases opens : '{' = char
      · subst opens
        have spaced := rest_skipGaps ⟨place.advance '{', inside⟩
        simp only [shape?, Cursor.literal?, if_true, Option.bind_some, hasTagShape]
        generalize (Cursor.mk (place.advance '{') inside).skipGaps = atMark at spaced ⊢
        rw [← spaced]
        obtain ⟨markPlace, rest⟩ := atMark
        cases rest with
        | nil => rfl
        | cons mark afterMark =>
            simp only [Cursor.char?]
            cases marks : isTagMark mark with
            | false => rfl
            | true => exact isSome_closing? _
      · have noMark : Cursor.literal? ['{'] ⟨place, char :: inside⟩ = none := by
          simp [Cursor.literal?, opens]
        simp only [shape?, noMark, Option.bind_none]
        unfold hasTagShape
        split
        next equality => simp_all
        next => rfl

theorem looks_tagContent :
    Looks (butNot (text ['}']) *> butNot (.rule .lineEnd)) fun cursor =>
      (cursor.literal? ['}']).isSome || (lineEnd? cursor).isSome := by
  have looks := (Looks.butNot (Reads.text ['}'])).and (Looks.butNot reads_lineEnd)
  simpa only [Option.isSome_map] using looks

/-- Up to a brace or the end of a line, a tag holds its content. -/
theorem takeUntil_tagContent (cursor : Cursor) :
    (cursor.takeUntil fun later => (later.literal? ['}']).isSome || (lineEnd? later).isSome) =
      cursor.takeWhile isTagContent := by
  apply takeUntil_congr
  intro place char rest
  rw [isSome_literal?, isSome_lineEnd?]
  have sameTest : ('}' == char) = (char == '}') := BEq.comm
  simp [Cursor.startsWith, List.isPrefixOf, isTagContent, sameTest, bne]

theorem reads_tagContent (cursor : Cursor) :
    Reads tagContent cursor (nonempty? (cursor.takeWhile isTagContent)) := by
  apply (looks_tagContent.atLeastOne cursor).congr
  exact congrArg nonempty? (takeUntil_tagContent cursor)

theorem reads_shape (cursor : Cursor) :
    Reads (text ['{'] *> gaps *> oneOf isTagMark *> gaps *> tagContent *> gaps *> text ['}'])
      cursor (shape? cursor) := by
  have marked := (Reads.afterText ['{'] cursor reads_gaps).seqRight (Reads.oneOf isTagMark)
  have content := (marked.seqRight reads_gaps).seqRight reads_tagContent
  have closed := (content.seqRight reads_gaps).seqRight (Reads.text ['}'])
  apply closed.congr
  unfold shape?
  cases cursor.literal? ['{'] with
  | none => rfl
  | some inside =>
      simp only [Option.bind_some]
      cases found : (inside.takeWhile isGap).2.char? isTagMark with
      | none => simp [Cursor.skipGaps, found]
      | some pair =>
          obtain ⟨mark, afterMark⟩ := pair
          simp only [Cursor.skipGaps, found, closing?, Option.bind_some]
          cases nonempty? ((afterMark.takeWhile isGap).2.takeWhile isTagContent) <;> rfl

def tag? (cursor : Cursor) : Option (Unit × Cursor) :=
  (shape? cursor).or ((reference? cursor).map fun (_, after) => ((), after))

theorem reads_tag (cursor : Cursor) : Reads (.rule .tag) cursor (tag? cursor) := by
  apply Derives.rule
  exact (reads_shape cursor).choice ((reads_reference cursor).map fun _ => ())

theorem isSome_tag? (cursor : Cursor) : (tag? cursor).isSome = looksLikeTag cursor := by
  rw [tag?, Option.isSome_or, isSome_shape?, Option.isSome_map]
  rfl

end BraceTemplate.Grammar
