import BraceTemplate.Proofs.Grammar.Following
import BraceTemplate.Proofs.Reading.TextInFront

/-!
# Where a tag is cut off from what follows it

What a tag reads as does not depend on what follows it, as long as that starts with an opening brace
or is nothing. Names, numbers and paths stop there by themselves. A quoted text looks further for
what looks like a tag, but not beyond a closing brace, and every tag ends with one.
-/

namespace BraceTemplate.Reading

open Source Grammar

/-- What a reader finds up to a cursor of a kind, it finds whatever follows that cursor. -/
def Settles {Result : Type} (ends : Cursor → Prop) (reader : Cursor → Option (Result × Cursor)) :
    Prop :=
  ∀ {tail : List Char} {start after : Cursor} {result : Result}, Stops '{' tail →
    reader start = some (result, after.followedBy tail) → ends after →
    ∃ cursor : Cursor, start = cursor.followedBy tail ∧ after.rest <:+ cursor.rest ∧
      ∀ other, Stops '{' other →
        reader (cursor.followedBy other) = some (result, after.followedBy other)

def Anywhere (_ : Cursor) : Prop :=
  True

def Closes (cursor : Cursor) : Prop :=
  '}' ∈ cursor.rest

theorem Closes.earlier {cursor after : Cursor} (closes : Closes after)
    (suffix : after.rest <:+ cursor.rest) : Closes cursor :=
  suffix.subset closes

theorem Closes.nonempty {cursor : Cursor} (closes : Closes cursor) : cursor.rest ≠ [] :=
  List.ne_nil_of_mem closes

section Settling

variable {Result : Type} {reader : Cursor → Option (Result × Cursor)} {ends : Cursor → Prop}
variable {tail other : List Char} {cursor after : Cursor} {result : Result}

theorem stopsAtBrace_of_followedBy (exact : StopsAtBrace reader cursor) (stops : Stops '{' tail)
    (found : reader (cursor.followedBy tail) = some (result, after.followedBy tail)) :
    reader cursor = some (result, after) := by
  rw [exact tail stops, Option.map_eq_some_iff] at found
  obtain ⟨⟨value, last⟩, foundHere, same⟩ := found
  simp only [Prod.mk.injEq] at same
  rw [foundHere, same.1, followedBy_cancel same.2]

theorem eq_none_of_stopsAtBrace (exact : StopsAtBrace reader cursor) (stops : Stops '{' tail)
    (otherStops : Stops '{' other) (notFound : reader (cursor.followedBy tail) = none) :
    reader (cursor.followedBy other) = none := by
  rw [exact tail stops, Option.map_eq_none_iff] at notFound
  rw [exact other otherStops, notFound, Option.map_none]

/-- A reader that takes a character settles where it stops at an opening brace behind others. -/
theorem settles_of_stopsAtBrace {expression : Expression Rule Result}
    (reads : ∀ cursor, Reads expression cursor (reader cursor))
    (takes : expression.takesChar takesChar = true)
    (exact : ∀ cursor, cursor.rest ≠ [] → StopsAtBrace reader cursor) :
    Settles Anywhere reader := by
  intro tail start after result stops found _
  have leaves := (reads start).congr found
  obtain ⟨cursor, rfl, suffix⟩ := exists_followedBy leaves.suffix
  have shorter := leaves.shorter takes
  simp only [Cursor.followedBy, List.length_append] at shorter
  have nonempty : cursor.rest ≠ [] := List.ne_nil_of_length_pos (by omega)
  have foundHere := stopsAtBrace_of_followedBy (exact cursor nonempty) stops found
  refine ⟨cursor, rfl, suffix, fun other otherStops => ?_⟩
  rw [exact cursor nonempty other otherStops, foundHere, Option.map_some]

/-- What a reader that settles anywhere does not find in front of a tail, it does not find at the
end. -/
theorem Settles.eq_none (settles : Settles Anywhere reader) (stops : Stops '{' tail)
    (notFound : reader (cursor.followedBy tail) = none) : reader cursor = none := by
  cases found : reader cursor with
  | none => rfl
  | some pair =>
      obtain ⟨result, after⟩ := pair
      rw [← followedBy_nil after] at found
      obtain ⟨same, equality, -, again⟩ := settles (stops_nil '{') found trivial
      rw [followedBy_nil] at equality
      rw [equality, again tail stops] at notFound
      cases notFound

end Settling

/-! ## Literals and gaps -/

section Literals

variable {chars tail : List Char} {start cursor after : Cursor}

theorem literal?_eq_some_iff :
    cursor.literal? chars = some after ↔
      cursor.rest = chars ++ after.rest ∧ after.place = cursor.place.advanceAll chars := by
  induction chars generalizing cursor with
  | nil =>
      obtain ⟨place, rest⟩ := cursor
      obtain ⟨afterPlace, afterRest⟩ := after
      simp [Cursor.literal?, Place.advanceAll, eq_comm, and_comm]
  | cons wanted more inductionHypothesis =>
      obtain ⟨place, rest⟩ := cursor
      cases rest with
      | nil => simp [Cursor.literal?]
      | cons char rest =>
          by_cases same : wanted = char
          · subst same
            simp only [Cursor.literal?, if_true, inductionHypothesis, List.cons_append,
              List.cons.injEq, true_and]
            rfl
          · simp [Cursor.literal?, same, Ne.symm same]

/-- A literal is found again whatever follows. -/
theorem settles_literal? (found : start.literal? chars = some (after.followedBy tail)) :
    ∃ cursor : Cursor, start = cursor.followedBy tail ∧ cursor.rest = chars ++ after.rest ∧
      ∀ other, (cursor.followedBy other).literal? chars = some (after.followedBy other) := by
  obtain ⟨rest, place⟩ := literal?_eq_some_iff.1 found
  obtain ⟨startPlace, startRest⟩ := start
  simp only [Cursor.followedBy] at rest place
  refine ⟨⟨startPlace, chars ++ after.rest⟩, ?_, rfl, fun other => ?_⟩
  · simp only [Cursor.followedBy, rest, List.append_assoc]
  · exact literal?_eq_some_iff.2 ⟨List.append_assoc .., place⟩

theorem skipGaps_followedBy (stops : Stops '{' tail) (cursor : Cursor) :
    (cursor.followedBy tail).skipGaps = cursor.skipGaps.followedBy tail := by
  have exact := Reads.stopsAtBrace (fun cursor => reads_gaps cursor) rfl cursor tail stops
  simp only [Option.map_some, Option.some.injEq] at exact
  exact congrArg Prod.snd exact

theorem settles_skipGaps (stops : Stops '{' tail)
    (found : start.skipGaps = after.followedBy tail) :
    ∃ cursor : Cursor, start = cursor.followedBy tail ∧ after.rest <:+ cursor.rest ∧
      ∀ other, Stops '{' other → (cursor.followedBy other).skipGaps = after.followedBy other := by
  have later := skipGaps_suffix start
  rw [found] at later
  obtain ⟨cursor, rfl, suffix⟩ := exists_followedBy later
  rw [skipGaps_followedBy stops] at found
  refine ⟨cursor, rfl, suffix, fun other otherStops => ?_⟩
  rw [skipGaps_followedBy otherStops, followedBy_cancel found]

/-- What closes a tag is found again behind the gaps. -/
theorem settles_closing (stops : Stops '{' tail)
    (found : start.skipGaps.literal? chars = some (after.followedBy tail)) :
    ∃ cursor : Cursor, start = cursor.followedBy tail ∧ chars ++ after.rest <:+ cursor.rest ∧
      ∀ other, Stops '{' other →
        (cursor.followedBy other).skipGaps.literal? chars = some (after.followedBy other) := by
  obtain ⟨atClosing, spaced, rest, closes⟩ := settles_literal? found
  obtain ⟨cursor, rfl, suffix, skips⟩ := settles_skipGaps stops spaced
  rw [rest] at suffix
  refine ⟨cursor, rfl, suffix, fun other otherStops => ?_⟩
  rw [skips other otherStops, closes]

end Literals

/-! ## References and specials -/

theorem settles_key : Settles Anywhere key? :=
  settles_of_stopsAtBrace reads_key rfl fun cursor _ => Reads.stopsAtBrace reads_key rfl cursor

theorem settles_identifier : Settles Anywhere identifier? :=
  settles_of_stopsAtBrace reads_identifier rfl fun cursor _ =>
    Reads.stopsAtBrace reads_identifier rfl cursor

section Exact

variable {cursor : Cursor} {tail : List Char}

/-- A literal that holds no opening brace stops there. -/
theorem literal?_followedBy {chars : List Char} (noBrace : '{' ∉ chars) (stops : Stops '{' tail)
    (cursor : Cursor) :
    (cursor.followedBy tail).literal? chars =
      (cursor.literal? chars).map fun after => after.followedBy tail := by
  induction chars generalizing cursor with
  | nil => rfl
  | cons wanted more inductionHypothesis =>
      rw [List.mem_cons, not_or] at noBrace
      obtain ⟨place, rest⟩ := cursor
      cases rest with
      | cons char rest =>
          have later := inductionHypothesis noBrace.2 ⟨place.advance char, rest⟩
          simp only [Cursor.followedBy] at later
          simp only [Cursor.followedBy, List.cons_append, Cursor.literal?]
          split
          · exact later
          · rfl
      | nil =>
          cases tail with
          | nil => rfl
          | cons char rest =>
              cases stops char rfl
              exact if_neg (Ne.symm noBrace.1)

theorem filters_followedBy (stops : Stops '{' tail) (cursor : Cursor) :
    (cursor.followedBy tail).many filter? =
      ((cursor.many filter?).1, (cursor.many filter?).2.followedBy tail) := by
  have exact := Reads.stopsAtBrace reads_filters rfl cursor tail stops
  simpa only [Option.map_some, Option.some.injEq] using exact

/-- Where there is a character, a reference is read the same whatever follows. -/
theorem stopsAtBrace_reference? (nonempty : cursor.rest ≠ []) :
    StopsAtBrace reference? cursor := by
  intro tail stops
  obtain ⟨place, rest⟩ := cursor
  cases rest with
  | nil => exact absurd rfl nonempty
  | cons char rest =>
      by_cases brace : char = '{'
      · subst brace
        have named := Reads.stopsAtBrace reads_identifier rfl ⟨place.advance '{', rest⟩ tail stops
        have opens : ∀ more, Cursor.literal? ['{'] ⟨place, '{' :: more⟩ =
            some ⟨place.advance '{', more⟩ := fun _ => rfl
        simp only [Cursor.followedBy] at named
        simp only [reference?, Cursor.followedBy, List.cons_append, opens, named,
          Option.bind_eq_bind, Option.bind_some]
        cases identifier? ⟨place.advance '{', rest⟩ with
        | none => rfl
        | some pair =>
            have filters := filters_followedBy stops pair.2
            have closes := literal?_followedBy (by decide : '{' ∉ ['}']) stops
              (pair.2.many filter?).2
            simp only [Cursor.followedBy] at filters closes
            simp only [Option.map_some, Option.bind_some, filters, closes]
            cases (pair.2.many filter?).2.literal? ['}'] <;> rfl
      · simp only [Cursor.followedBy, List.cons_append, reference?_eq_none brace, Option.map_none]

/-- Where there is a character, a special is read the same whatever follows. -/
theorem stopsAtBrace_special? (nonempty : cursor.rest ≠ []) : StopsAtBrace special? cursor := by
  intro tail stops
  obtain ⟨place, rest⟩ := cursor
  cases rest with
  | nil => exact absurd rfl nonempty
  | cons char rest =>
      have opens : ∀ more, Cursor.literal? ['{', '~'] ⟨place, char :: more⟩ =
          if '{' = char then Cursor.literal? ['~'] ⟨place.advance char, more⟩ else none :=
        fun _ => rfl
      have marked := literal?_followedBy (by decide : '{' ∉ ['~']) stops
        ⟨place.advance char, rest⟩
      simp only [Cursor.followedBy] at marked
      simp only [special?, Cursor.followedBy, List.cons_append, opens, marked,
        Option.bind_eq_bind]
      split
      · cases Cursor.literal? ['~'] ⟨place.advance char, rest⟩ with
        | none => rfl
        | some inside =>
            have named := Reads.stopsAtBrace reads_key rfl inside tail stops
            simp only [Cursor.followedBy] at named
            simp only [Option.map_some, Option.bind_some, named]
            cases key? inside with
            | none => rfl
            | some pair =>
                have closes := literal?_followedBy (by decide : '{' ∉ ['}']) stops pair.2
                simp only [Cursor.followedBy] at closes
                simp only [Option.map_some, Option.bind_some, closes]
                cases pair.2.literal? ['}'] <;> rfl
      · rfl

end Exact

theorem settles_reference : Settles Anywhere reference? :=
  settles_of_stopsAtBrace reads_reference rfl fun _ => stopsAtBrace_reference?

theorem settles_special : Settles Anywhere special? :=
  settles_of_stopsAtBrace reads_special rfl fun _ => stopsAtBrace_special?

/-! ## Whatever looks like a tag -/

section Looking

variable {chars tail : List Char} {accepts : Char → Bool} {cursor : Cursor}

theorem dropWhile_append_brace (tail : List Char) (rejects : accepts '}' = false)
    (closes : '}' ∈ chars) :
    (chars ++ tail).dropWhile accepts = chars.dropWhile accepts ++ tail ∧
      '}' ∈ chars.dropWhile accepts := by
  induction chars with
  | nil => cases closes
  | cons char rest inductionHypothesis =>
      rw [List.cons_append]
      cases accepted : accepts char with
      | false =>
          rw [List.dropWhile_cons_of_neg (by simp [accepted]),
            List.dropWhile_cons_of_neg (by simp [accepted])]
          exact ⟨rfl, closes⟩
      | true =>
          rw [List.dropWhile_cons_of_pos accepted, List.dropWhile_cons_of_pos accepted]
          refine inductionHypothesis ((List.mem_cons.1 closes).resolve_left ?_)
          rintro rfl
          rw [rejects] at accepted
          cases accepted

theorem takeWhile_append_brace (rejects : accepts '}' = false) (closes : '}' ∈ chars) :
    (chars ++ tail).takeWhile accepts = chars.takeWhile accepts := by
  have split := List.takeWhile_append_dropWhile (p := accepts) (l := chars ++ tail)
  rw [(dropWhile_append_brace tail rejects closes).1] at split
  have whole : chars.takeWhile accepts ++ (chars.dropWhile accepts ++ tail) = chars ++ tail := by
    rw [← List.append_assoc, List.takeWhile_append_dropWhile]
  exact List.append_cancel_right (split.trans whole.symm)

theorem closesTag_append (closes : '}' ∈ chars) :
    closesTag (chars ++ tail) = closesTag chars := by
  obtain ⟨spaced, closesInner⟩ := dropWhile_append_brace tail
    (by decide : isGap '}' = false) closes
  obtain ⟨content, closesContent⟩ := dropWhile_append_brace tail
    (by decide : isTagContent '}' = false) closesInner
  obtain ⟨spacedEnd, closesEnd⟩ := dropWhile_append_brace tail
    (by decide : isGap '}' = false) closesContent
  rw [closesTag_eq, closesTag_eq, spaced, content, spacedEnd,
    takeWhile_append_brace (by decide) closesInner]
  generalize ((chars.dropWhile isGap).dropWhile isTagContent).dropWhile isGap = left at closesEnd
  cases left with
  | nil => cases closesEnd
  | cons char more => rfl

theorem hasTagShape_append (closes : '}' ∈ chars) :
    hasTagShape (chars ++ tail) = hasTagShape chars := by
  cases chars with
  | nil => cases closes
  | cons char inside =>
      by_cases brace : char = '{'
      · subst brace
        have closesInside : '}' ∈ inside := (List.mem_cons.1 closes).resolve_left (by decide)
        obtain ⟨spaced, closesMark⟩ := dropWhile_append_brace tail
          (by decide : isGap '}' = false) closesInside
        simp only [hasTagShape, List.cons_append, spaced]
        generalize inside.dropWhile isGap = left at closesMark
        cases left with
        | nil => cases closesMark
        | cons mark afterMark =>
            by_cases closing : mark = '}'
            · subst closing
              rfl
            · have closesAfter : '}' ∈ afterMark :=
                (List.mem_cons.1 closesMark).resolve_left (Ne.symm closing)
              simp only [List.cons_append, closesTag_append closesAfter]
      · have noShape : ∀ rest, hasTagShape (char :: rest) = false := by
          intro rest
          unfold hasTagShape
          split
          next inside opens => exact absurd (List.cons.inj opens).1 brace
          next => rfl
        rw [List.cons_append, noShape, noShape]

/-- Where a closing brace comes later, what follows does not decide whether a tag seems to start. -/
theorem looksLikeTag_followedBy (stops : Stops '{' tail) (closes : Closes cursor) :
    looksLikeTag (cursor.followedBy tail) = looksLikeTag cursor := by
  have shape : hasTagShape (cursor.followedBy tail).rest = hasTagShape cursor.rest :=
    hasTagShape_append closes
  simp only [looksLikeTag, shape, stopsAtBrace_reference? closes.nonempty tail stops,
    Option.isSome_map]

theorem brace_mem_of_closesTag (closes : closesTag chars = true) : '}' ∈ chars := by
  rw [closesTag_eq, Bool.and_eq_true] at closes
  obtain ⟨left, rest⟩ := List.isPrefixOf_iff_prefix.1 closes.2
  have member : '}' ∈ ((chars.dropWhile isGap).dropWhile isTagContent).dropWhile isGap := by
    rw [← rest]
    exact List.mem_cons_self
  exact (List.dropWhile_suffix _).subset <| (List.dropWhile_suffix _).subset <|
    (List.dropWhile_suffix _).subset member

/-- What looks like a tag has a closing brace. -/
theorem closes_of_looksLikeTag (looks : looksLikeTag cursor = true) : Closes cursor := by
  rw [looksLikeTag, Bool.or_eq_true] at looks
  rcases looks with shape | reference
  · obtain ⟨place, rest⟩ := cursor
    unfold hasTagShape at shape
    split at shape
    next inside opens =>
      split at shape
      next mark afterMark marked =>
        have member : '}' ∈ inside.dropWhile isGap := by
          rw [marked]
          exact List.mem_cons_of_mem _ (brace_mem_of_closesTag (Bool.and_eq_true_iff.1 shape).2)
        unfold Closes
        rw [opens]
        exact List.mem_cons_of_mem _ ((List.dropWhile_suffix _).subset member)
      next => cases shape
    next => cases shape
  · obtain ⟨⟨node, after⟩, found⟩ := Option.isSome_iff_exists.1 reference
    simp only [reference?, Option.bind_eq_bind, Option.bind_eq_some_iff] at found
    obtain ⟨inside, opens, ⟨identifier, afterName⟩, named, last, closed, -⟩ := found
    have filters : (afterName.many filter?).2.rest <:+ afterName.rest :=
      (reads_filters afterName).suffix
    have suffix := (filters.trans ((reads_identifier inside).congr named).suffix).subset
    unfold Closes
    rw [rest_of_literal? opens]
    apply List.mem_append_right
    apply suffix
    rw [rest_of_literal? closed]
    exact List.mem_cons_self

end Looking

section Repetitions

variable {Result : Type} {item : Expression Rule Result}
variable {reader : Cursor → Option (Result × Cursor)} {results : List Result}
variable {tail : List Char} {start after : Cursor}

/-- A repetition ends where its reader finds nothing. -/
theorem many_ends (reads : ∀ cursor, Reads item cursor (reader cursor))
    (takes : item.takesChar takesChar = true) (found : start.many reader = (results, after)) :
    reader after = none := by
  induction results generalizing start with
  | nil =>
      rw [Reads.many_eq start (fun later _ => reads later) takes] at found
      cases first : reader start with
      | none =>
          rw [first] at found
          cases found
          exact first
      | some pair =>
          rw [first] at found
          cases found
  | cons result more inductionHypothesis =>
      rw [Reads.many_eq start (fun later _ => reads later) takes] at found
      cases first : reader start with
      | none =>
          rw [first] at found
          cases found
      | some pair =>
          rw [first] at found
          cases found
          exact inductionHypothesis rfl

theorem settles_many (reads : ∀ cursor, Reads item cursor (reader cursor))
    (takes : item.takesChar takesChar = true) (settles : Settles Closes reader)
    (stops : Stops '{' tail) (found : start.many reader = (results, after.followedBy tail))
    (closes : Closes after)
    (ends : ∀ other, Stops '{' other → reader (after.followedBy other) = none) :
    ∃ cursor : Cursor, start = cursor.followedBy tail ∧ after.rest <:+ cursor.rest ∧
      ∀ other, Stops '{' other →
        (cursor.followedBy other).many reader = (results, after.followedBy other) := by
  have unfolds := fun cursor : Cursor => Reads.many_eq cursor (fun later _ => reads later) takes
  induction results generalizing start with
  | nil =>
      rw [unfolds] at found
      cases first : reader start with
      | some pair =>
          rw [first] at found
          cases found
      | none =>
          rw [first] at found
          cases found
          refine ⟨after, rfl, List.suffix_refl _, fun other otherStops => ?_⟩
          rw [unfolds, ends other otherStops]
  | cons result more inductionHypothesis =>
      rw [unfolds] at found
      cases first : reader start with
      | none =>
          rw [first] at found
          cases found
      | some pair =>
          obtain ⟨value, middle⟩ := pair
          rw [first] at found
          simp only [Prod.mk.injEq, List.cons.injEq] at found
          obtain ⟨⟨rfl, moreFound⟩, ended⟩ := found
          obtain ⟨later, rfl, suffix, again⟩ := inductionHypothesis (Prod.ext moreFound ended)
          obtain ⟨cursor, rfl, suffixFirst, firstAgain⟩ :=
            settles stops first (closes.earlier suffix)
          refine ⟨cursor, rfl, suffix.trans suffixFirst, fun other otherStops => ?_⟩
          rw [unfolds, firstAgain other otherStops]
          simp only [again other otherStops]

end Repetitions

/-! ## Quoted texts -/

section Quoted

variable {cursor after : Cursor} {text : String} {quotation : Quotation}

theorem stopsAtBrace_quotedChar? (closes : Closes cursor) : StopsAtBrace quotedChar? cursor := by
  intro tail stops
  have looks := looksLikeTag_followedBy stops closes
  have escape := literal?_followedBy (by decide : '{' ∉ ['\\', '"']) stops cursor
  obtain ⟨place, rest⟩ := cursor
  cases rest with
  | nil => exact absurd rfl closes.nonempty
  | cons char rest =>
      simp only [Cursor.followedBy, List.cons_append] at looks escape
      simp only [quotedChar?, Cursor.followedBy, List.cons_append, looks, escape,
        Cursor.startsWith, Cursor.char?]
      cases Cursor.literal? ['\\', '"'] ⟨place, char :: rest⟩ <;> split_ifs <;> rfl

theorem settles_quotedChar : Settles Closes quotedChar? := by
  intro tail start after result stops found closes
  obtain ⟨cursor, rfl, suffix⟩ := exists_followedBy ((reads_quotedChar start).congr found).suffix
  have exact := stopsAtBrace_quotedChar? (closes.earlier suffix)
  have foundHere := stopsAtBrace_of_followedBy exact stops found
  refine ⟨cursor, rfl, suffix, fun other otherStops => ?_⟩
  rw [exact other otherStops, foundHere, Option.map_some]

theorem settles_quotedText : Settles Closes quotedText? := by
  intro tail start after text stops found closes
  have quotedText?_eq : ∀ cursor, quotedText? cursor =
      (nonempty? (cursor.many quotedChar?)).map fun found =>
        (String.ofList found.1, found.2) := by
    intro cursor
    unfold quotedText?
    rw [← many_quotedChar?]
    rcases cursor.many quotedChar? with ⟨_ | ⟨char, more⟩, last⟩ <;> rfl
  rw [quotedText?_eq, Option.map_eq_some_iff] at found
  obtain ⟨⟨chars, last⟩, run, equality⟩ := found
  cases equality
  cases many : start.many quotedChar? with
  | mk taken last =>
      rw [many] at run
      cases taken with
      | nil => cases run
      | cons char more =>
          cases run
          have ended := many_ends reads_quotedChar rfl many
          have exact := stopsAtBrace_quotedChar? closes
          obtain ⟨cursor, rfl, suffix, again⟩ := settles_many reads_quotedChar rfl
            settles_quotedChar stops many closes fun other otherStops =>
              eq_none_of_stopsAtBrace exact stops otherStops ended
          refine ⟨cursor, rfl, suffix, fun other otherStops => ?_⟩
          rw [quotedText?_eq, again other otherStops]
          rfl

theorem settles_quotedPart : Settles Closes quotedPart? := by
  intro tail start after node stops found closes
  unfold quotedPart? at found ⊢
  cases special : special? start with
  | some pair =>
      rw [special] at found
      cases found
      obtain ⟨cursor, rfl, suffix, again⟩ := settles_special stops special trivial
      refine ⟨cursor, rfl, suffix, fun other otherStops => ?_⟩
      rw [again other otherStops]
  | none =>
      rw [special] at found
      cases reference : reference? start with
      | some pair =>
          rw [reference] at found
          cases found
          obtain ⟨cursor, rfl, suffix, again⟩ := settles_reference stops reference trivial
          have specialExact := stopsAtBrace_special? (closes.earlier suffix).nonempty
          refine ⟨cursor, rfl, suffix, fun other otherStops => ?_⟩
          rw [eq_none_of_stopsAtBrace specialExact stops otherStops special,
            again other otherStops]
      | none =>
          rw [reference] at found
          simp only [Option.map_eq_some_iff] at found
          obtain ⟨⟨text, last⟩, read, equality⟩ := found
          cases equality
          obtain ⟨cursor, rfl, suffix, again⟩ := settles_quotedText stops read closes
          have nonempty := (closes.earlier suffix).nonempty
          have specialExact := stopsAtBrace_special? nonempty
          have referenceExact := stopsAtBrace_reference? nonempty
          refine ⟨cursor, rfl, suffix, fun other otherStops => ?_⟩
          rw [eq_none_of_stopsAtBrace specialExact stops otherStops special,
            eq_none_of_stopsAtBrace referenceExact stops otherStops reference,
            again other otherStops]
          rfl

/-- At a quote there is nothing more inside of the quotes. -/
theorem quotedPart?_quote (place : Place) (rest : List Char) :
    quotedPart? ⟨place, '"' :: rest⟩ = none := by
  have noText : quotedText? ⟨place, '"' :: rest⟩ = none := by
    simp [quotedText?, quotedRunFrom]
  simp only [quotedPart?, special?, literal?_brace_eq_none (by decide : '"' ≠ '{'),
    reference?_eq_none (by decide : '"' ≠ '{'), noText, Option.bind_eq_bind, Option.bind_none,
    Option.map_none]

theorem quotedPart?_eq_none (closed : cursor.literal? ['"'] = some after) :
    quotedPart? cursor = none := by
  have rest := rest_of_literal? closed
  obtain ⟨place, _⟩ := cursor
  cases rest
  exact quotedPart?_quote place _

theorem settles_quotedPlain : Settles Closes quotedPlain? := by
  intro tail start after quotation stops found closes
  simp only [quotedPlain?, Option.bind_eq_bind, Option.bind_eq_some_iff] at found
  obtain ⟨inside, opened, ⟨text, afterText⟩, read, last, closed, equality⟩ := found
  cases equality
  obtain ⟨atQuote, rfl, quoteRest, closesAgain⟩ := settles_literal? closed
  have closesQuote : Closes atQuote := closes.earlier (quoteRest ▸ List.suffix_append _ _)
  obtain ⟨within, rfl, suffix, textAgain⟩ := settles_quotedText stops read closesQuote
  obtain ⟨cursor, rfl, rest, opensAgain⟩ := settles_literal? opened
  refine ⟨cursor, rfl, ?_, fun other otherStops => ?_⟩
  · rw [rest]
    rw [quoteRest] at suffix
    exact ((List.suffix_append _ _).trans suffix).trans (List.suffix_append _ _)
  · simp only [quotedPlain?, opensAgain, textAgain other otherStops, closesAgain,
      Option.bind_eq_bind, Option.bind_some]
    rfl

theorem quotedMixed?_eq (cursor : Cursor) :
    quotedMixed? cursor =
      (cursor.literal? ['"']).bind fun inside =>
        (nonempty? (inside.many quotedPart?)).bind fun (parts, afterParts) =>
          (afterParts.literal? ['"']).map fun last => (.mixed parts cursor.position, last) := by
  unfold quotedMixed?
  simp only [Option.bind_eq_bind]
  cases cursor.literal? ['"'] with
  | none => rfl
  | some inside =>
      simp only [Option.bind_some]
      rcases inside.many quotedPart? with ⟨_ | ⟨part, more⟩, afterParts⟩
      · rfl
      · simp only [nonempty?, Option.bind_some]
        cases afterParts.literal? ['"'] <;> rfl

theorem settles_quotedMixed : Settles Closes quotedMixed? := by
  intro tail start after quotation stops found closes
  simp only [quotedMixed?_eq, Option.bind_eq_some_iff, Option.map_eq_some_iff] at found
  obtain ⟨inside, opened, ⟨parts, afterParts⟩, read, last, closed, equality⟩ := found
  cases equality
  obtain ⟨atQuote, rfl, quoteRest, closesAgain⟩ := settles_literal? closed
  have closesQuote : Closes atQuote := closes.earlier (quoteRest ▸ List.suffix_append _ _)
  cases many : inside.many quotedPart? with
  | mk taken last =>
      rw [many] at read
      cases taken with
      | nil => cases read
      | cons part more =>
          cases read
          obtain ⟨within, rfl, suffix, partsAgain⟩ := settles_many reads_quotedPart rfl
            settles_quotedPart stops many closesQuote fun other _ =>
              quotedPart?_eq_none (closesAgain other)
          obtain ⟨cursor, rfl, rest, opensAgain⟩ := settles_literal? opened
          refine ⟨cursor, rfl, ?_, fun other otherStops => ?_⟩
          · rw [rest]
            rw [quoteRest] at suffix
            exact ((List.suffix_append _ _).trans suffix).trans (List.suffix_append _ _)
          · simp only [quotedMixed?_eq, opensAgain, partsAgain other otherStops, nonempty?,
              closesAgain, Option.bind_some, Option.map_some]
            rfl

/-- Nothing that looks like a tag begins where a run of quoted text does. -/
theorem looksLikeTag_of_quotedText? {text : String}
    (run : quotedText? cursor = some (text, after)) : looksLikeTag cursor = false := by
  cases looks : looksLikeTag cursor with
  | false => rfl
  | true =>
      obtain ⟨place, rest⟩ := cursor
      cases rest with
      | nil => cases run
      | cons char rest =>
          have empty : quotedRunFrom place (char :: rest) = ([], ⟨place, char :: rest⟩) := by
            unfold quotedRunFrom
            rw [if_pos (by simp only [looks, Bool.true_or])]
          rw [quotedText?, empty] at run
          cases run

/-- Where a plain text between quotes is read, the same text could be read as one with tags. -/
theorem quotedMixed?_of_quotedPlain? (read : quotedPlain? cursor = some (quotation, after)) :
    ∃ mixed, quotedMixed? cursor = some (mixed, after) := by
  simp only [quotedPlain?, Option.bind_eq_bind, Option.bind_eq_some_iff] at read
  obtain ⟨inside, opened, ⟨text, afterText⟩, run, last, closed, equality⟩ := read
  cases equality
  have noTag := looksLikeTag_of_quotedText? run
  have noSpecial : special? inside = none := by
    cases found : special? inside with
    | none => rfl
    | some pair =>
        rw [looksLikeTag_of_special? found] at noTag
        cases noTag
  have noReference : reference? inside = none := by
    cases found : reference? inside with
    | none => rfl
    | some pair =>
        rw [looksLikeTag_of_reference? (by rw [found]; rfl)] at noTag
        cases noTag
  have parts : inside.many quotedPart? = ([.text text inside.position], afterText) := by
    rw [Reads.many_eq inside (fun later _ => reads_quotedPart later) rfl]
    simp only [quotedPart?, noSpecial, noReference, run, Option.map_some]
    rw [Reads.many_eq afterText (fun later _ => reads_quotedPart later) rfl]
    simp only [quotedPart?_eq_none closed]
  refine ⟨.mixed [.text text inside.position] cursor.position, ?_⟩
  simp only [quotedMixed?, opened, parts, closed, Option.bind_eq_bind, Option.bind_some]
  rfl

theorem settles_quotedNothing : Settles Closes quotedNothing? := by
  intro tail start after quotation stops found closes
  simp only [quotedNothing?, Option.bind_eq_bind, Option.bind_eq_some_iff] at found
  obtain ⟨last, quotes, equality⟩ := found
  cases equality
  obtain ⟨cursor, rfl, rest, again⟩ := settles_literal? quotes
  refine ⟨cursor, rfl, rest ▸ List.suffix_append _ _, fun other _ => ?_⟩
  simp only [quotedNothing?, again, Option.bind_eq_bind, Option.bind_some]
  rfl

theorem quotedNothing?_eq_none (stops : Stops '{' tail) (otherStops : Stops '{' other)
    (notFound : quotedNothing? (cursor.followedBy tail) = none) :
    quotedNothing? (cursor.followedBy other) = none := by
  simp only [quotedNothing?, literal?_followedBy (by decide : '{' ∉ ['"', '"']) stops,
    literal?_followedBy (by decide : '{' ∉ ['"', '"']) otherStops] at notFound ⊢
  cases quotes : cursor.literal? ['"', '"'] with
  | none => rfl
  | some after =>
      rw [quotes] at notFound
      cases notFound

theorem settles_quotation : Settles Closes quotation? := by
  intro tail start after quotation stops found closes
  unfold quotation? at found ⊢
  cases nothing : quotedNothing? start with
  | some pair =>
      rw [nothing] at found
      cases found
      obtain ⟨cursor, rfl, suffix, again⟩ := settles_quotedNothing stops nothing closes
      refine ⟨cursor, rfl, suffix, fun other otherStops => ?_⟩
      rw [again other otherStops]
  | none =>
      rw [nothing] at found
      cases plain : quotedPlain? start with
      | some pair =>
          rw [plain] at found
          cases found
          obtain ⟨cursor, rfl, suffix, again⟩ := settles_quotedPlain stops plain closes
          refine ⟨cursor, rfl, suffix, fun other otherStops => ?_⟩
          rw [quotedNothing?_eq_none stops otherStops nothing, again other otherStops]
      | none =>
          rw [plain] at found
          obtain ⟨cursor, rfl, suffix, again⟩ := settles_quotedMixed stops found closes
          refine ⟨cursor, rfl, suffix, fun other otherStops => ?_⟩
          rw [quotedNothing?_eq_none stops otherStops nothing, again other otherStops]
          -- A plain text would end where the text with tags does, and would have been read before.
          cases early : quotedPlain? (cursor.followedBy other) with
          | none => rfl
          | some pair =>
              obtain ⟨mixed, otherwise⟩ := quotedMixed?_of_quotedPlain? early
              rw [again other otherStops] at otherwise
              obtain ⟨result, last⟩ := pair
              simp only [Option.some.injEq, Prod.mk.injEq] at otherwise
              rw [← otherwise.2] at early
              obtain ⟨same, equality, -, plainAgain⟩ := settles_quotedPlain otherStops early closes
              cases followedBy_cancel equality
              rw [plainAgain tail stops] at plain
              cases plain

end Quoted

end BraceTemplate.Reading
