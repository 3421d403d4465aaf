import BraceTemplate.Proofs.Reading.EndTags
import BraceTemplate.Proofs.Reading.TagSeams

/-!
# Characters that nothing fits

Main statement: where reading stops in front of a character, a brace opens what looks like a tag and
is none, and the source up to there is a template by itself, with the parts that were read.
-/

namespace BraceTemplate

namespace Reading

open Source Grammar

/-! ## Runs of text -/

section Text

variable {tail : List Char} {cursor after : Cursor} {node : Node}

/-- Whatever ends a run of text at the end of a source does so in front of more. -/
theorem endsText_followedBy (stops : Stops '{' tail) (ends : endsText cursor = true) :
    endsText (cursor.followedBy tail) = true := by
  simp only [endsText, Bool.or_eq_true] at ends ⊢
  rcases ends with ((looks | raw) | comment) | breaks
  · rw [looksLikeTag_followedBy stops (closes_of_looksLikeTag looks)]
    exact .inl (.inl (.inl looks))
  · refine .inl (.inl (.inr ?_))
    cases notFound : raw? (cursor.followedBy tail) with
    | some pair => rfl
    | none =>
        rw [settles_raw.eq_none stops notFound] at raw
        cases raw
  · refine .inl (.inr ?_)
    cases notFound : comment? (cursor.followedBy tail) with
    | some pair => rfl
    | none =>
        rw [settles_comment.eq_none stops notFound] at comment
        cases comment
  · refine .inr ?_
    obtain ⟨place, rest⟩ := cursor
    cases rest with
    | nil => cases breaks
    | cons char rest => exact breaks

theorem takeUntil_ends {stopsAt : Cursor → Bool} {chars : List Char}
    (run : cursor.takeUntil stopsAt = (chars, after)) :
    after.rest = [] ∨ stopsAt after = true := by
  induction chars generalizing cursor with
  | nil =>
      obtain ⟨place, rest⟩ := cursor
      cases rest with
      | nil =>
          cases run
          exact .inl rfl
      | cons char rest =>
          simp only [Cursor.takeUntil, Cursor.takeUntilFrom] at run
          split at run
          · rename_i stopped
            cases run
            exact .inr stopped
          · cases run
  | cons first more inductionHypothesis =>
      obtain ⟨place, rest⟩ := cursor
      cases rest with
      | nil => cases run
      | cons char rest =>
          simp only [Cursor.takeUntil, Cursor.takeUntilFrom] at run
          split at run
          · cases run
          · simp only [Prod.mk.injEq, List.cons.injEq] at run
            have more : (Cursor.mk (place.advance char) rest).takeUntil stopsAt = (_, after) :=
              Prod.ext run.1.2 run.2
            exact inductionHypothesis more

theorem stopsAtBrace_newline (cursor : Cursor) : StopsAtBrace newline? cursor := by
  intro tail stops
  have exact := Reads.stopsAtBrace reads_lineEnd rfl cursor tail stops
  rw [newline?_eq, newline?_eq, exact]
  cases lineEnd? cursor <;> rfl

theorem takeWhile_isGap_followedBy (stops : Stops '{' tail) (cursor : Cursor) :
    (cursor.followedBy tail).takeWhile isGap =
      ((cursor.takeWhile isGap).1, (cursor.takeWhile isGap).2.followedBy tail) := by
  have exact := Reads.stopsAtBrace (fun cursor => reads_gaps cursor) rfl cursor tail stops
  simpa only [Option.map_some, Option.some.injEq] using exact

/-- A text is read the same without what follows, where it ends there as well. -/
theorem text?_cut (stops : Stops '{' tail)
    (read : text? (cursor.followedBy tail) = some (node, after.followedBy tail))
    (ends : endsText (after.followedBy tail) = true → after.rest = [] ∨ endsText after = true) :
    text? cursor = some (node, after) := by
  have newline := stopsAtBrace_newline cursor tail stops
  unfold text? at read ⊢
  cases broken : newline? cursor with
  | some pair =>
      obtain ⟨chars, afterBreak⟩ := pair
      rw [newline, broken] at read
      simp only [Option.map_some, takeWhile_isGap_followedBy stops, Option.some.injEq,
        Prod.mk.injEq] at read ⊢
      exact ⟨read.1, followedBy_cancel read.2⟩
  | none =>
      rw [newline, broken] at read
      dsimp only [Option.map_none] at read
      cases run : (cursor.followedBy tail).takeUntil endsText with
      | mk chars last =>
          rw [run] at read
          cases chars with
          | nil => cases read
          | cons char more =>
              cases read
              have atEnd : after.rest = [] ∨ endsText after = true := by
                rcases takeUntil_ends run with nothing | stopped
                · exact .inl (List.append_eq_nil_iff.1 nothing).1
                · exact ends stopped
              obtain ⟨same, equality, -, again⟩ := settles_takeUntil run
              cases followedBy_cancel equality
              have cut := again []
              simp only [followedBy_nil] at cut
              rw [cut (fun later _ stopped => endsText_followedBy stops stopped) atEnd]
              rfl

end Text

/-! ## Sections -/

/-- Parts that are read up to the end of what comes before a tail, or up to a tag there, are read
the same without the tail. -/
def Cuts (tail : List Char) (cursor : Cursor) : Prop :=
  ∀ {nodes : List Node} {after : Cursor},
    parts (cursor.followedBy tail) = .ok (nodes, after.followedBy tail) →
    after.rest = [] ∨ Closes after → parts cursor = .ok (nodes, after)

theorem parts_advances {start after : Cursor} {nodes : List Node}
    (read : parts start = .ok (nodes, after)) :
    ∃ taken, start.rest = taken ++ after.rest ∧ after.place = start.place.advanceAll taken := by
  have derived := derives_parts _ start (Nat.lt_succ_self _)
  change Derives grammar _ start (.ofResult (parts start)) at derived
  rw [read] at derived
  exact derived.advances

theorem parts_suffix {start after : Cursor} {nodes : List Node}
    (read : parts start = .ok (nodes, after)) : after.rest <:+ start.rest := by
  obtain ⟨taken, rest, -⟩ := parts_advances read
  exact ⟨taken, rest.symm⟩

section Sections

variable {tail : List Char} {cursor after : Cursor} {node : Node}

/-- What a reader that settles anywhere finds in front of a tail, it finds without it. -/
theorem Settles.cut {Result : Type} {reader : Cursor → Option (Result × Cursor)} {result : Result}
    (settles : Settles Anywhere reader) (stops : Stops '{' tail)
    (found : reader (cursor.followedBy tail) = some (result, after.followedBy tail)) :
    reader cursor = some (result, after) := by
  obtain ⟨same, equality, -, again⟩ := settles stops found trivial
  have foundHere := again [] (stops_nil '{')
  rwa [← followedBy_cancel equality, followedBy_nil, followedBy_nil] at foundHere

theorem branchesWithin_cut {limit : Nat} (stops : Stops '{' tail)
    (inside : ∀ later : Cursor, later.rest.length < limit → Cuts tail later)
    {start atEnd : Cursor} {branches : List (String × Node)} (closes : Closes atEnd)
    (early : start.rest.length < limit + tail.length)
    (read : branchesWithin parts start.rest.length start =
      .ok (branches, atEnd.followedBy tail)) :
    ∃ cursor : Cursor, start = cursor.followedBy tail ∧ atEnd.rest <:+ cursor.rest ∧
      branchesWithin parts cursor.rest.length cursor = .ok (branches, atEnd) := by
  induction size : start.rest.length using Nat.strongRecOn generalizing start branches with
  | ind size inductionHypothesis =>
      subst size
      cases tag : branchTag? start with
      | none =>
          rw [branches_none tag] at read
          cases read
          exact ⟨atEnd, rfl, List.suffix_refl _,
            branches_none (settles_branchTag.eq_none stops tag)⟩
      | some pair =>
          obtain ⟨name, within⟩ := pair
          have shorter := branchTag?_shorter tag
          rw [branchesWithin_step (Nat.le_refl _) tag] at read
          cases body : parts within with
          | error error =>
              rw [body] at read
              cases read
          | ok pair =>
              obtain ⟨nodes, afterBody⟩ := pair
              simp only [body] at read
              have notLonger := parts_notLonger (partsInside_parts start within shorter) body
              cases more : branchesWithin parts afterBody.rest.length afterBody with
              | error error =>
                  rw [more] at read
                  cases read
              | ok pair =>
                  obtain ⟨others, last⟩ := pair
                  rw [more] at read
                  cases read
                  obtain ⟨behind, rfl, suffix, moreCut⟩ := inductionHypothesis _ (by omega)
                    (by omega) more rfl
                  obtain ⟨body', rfl, bodySuffix⟩ := exists_followedBy (parts_suffix body)
                  obtain ⟨cursor, rfl, cursorSuffix, -⟩ := settles_branchTag stops tag trivial
                  have tagCut := settles_branchTag.cut stops tag
                  have lengths : body'.rest.length < limit := by
                    simp only [Cursor.followedBy, List.length_append] at shorter early
                    omega
                  have bodyCut := inside body' lengths body (.inr (closes.earlier suffix))
                  refine ⟨cursor, rfl, suffix.trans (bodySuffix.trans cursorSuffix), ?_⟩
                  rw [branchesWithin_step (Nat.le_refl _) tagCut, bodyCut]
                  simp only [moreCut]
                  rfl

theorem opening?_followedBy {opening : Opening} {afterOpening : Cursor} {mark : Char}
    {more : List Char} (stops : Stops '{' tail) (noStart : isKeyStart mark = false)
    (brace : '}' ∈ mark :: more) (opened : opening? cursor = some (opening, afterOpening))
    (closed : afterOpening.skipGaps.literal? (mark :: more) = some after) :
    ∃ behind : Cursor, opening? (cursor.followedBy tail) = some (opening, behind) ∧
      behind.skipGaps.literal? (mark :: more) = some (after.followedBy tail) := by
  rw [← followedBy_nil after] at closed
  obtain ⟨same, equality, -, again⟩ :=
    settles_opening (stops_nil '{') noStart brace opened closed
  rw [followedBy_nil] at equality
  rw [equality]
  exact again tail stops

theorem endTag?_of_closeSection {opened : String} (ended : closeSection opened cursor = .ok after) :
    ∃ identifier, endTag? cursor = some (identifier, after) ∧ identifier.text = opened := by
  unfold closeSection at ended
  cases found : endTag? cursor with
  | none =>
      rw [found] at ended
      cases ended
  | some pair =>
      obtain ⟨identifier, last⟩ := pair
      rw [found] at ended
      simp only at ended
      split at ended
      · rename_i named
        cases ended
        exact ⟨identifier, rfl, named⟩
      · cases ended

theorem closes_of_endTag? {identifier : Identifier}
    (found : endTag? cursor = some (identifier, after)) : Closes cursor := by
  simp only [endTag?, Option.bind_eq_bind, Option.bind_eq_some_iff] at found
  obtain ⟨inside, opens, ⟨name, afterName⟩, named, last, closed, -⟩ := found
  have suffix := ((reads_identifier inside.skipGaps).congr named).suffix
  have member := (suffix.trans (skipGaps_suffix inside)).subset
    (mem_of_literal? closed (by decide))
  unfold Closes
  rw [rest_of_literal? opens]
  exact List.mem_append_right _ member

/-- What closes a section at once does not close an opening tag before its bodies. -/
theorem literal?_slash_eq_none (closed : cursor.literal? ['/', '}'] = some after) :
    cursor.literal? ['}'] = none := by
  have rest := rest_of_literal? closed
  obtain ⟨place, _⟩ := cursor
  cases rest
  rfl

/-- Where there is no section in front of a tail, there is none without it. -/
theorem section?_cut_none (stops : Stops '{' tail)
    (notFound : section? parts (cursor.followedBy tail) = .ok none) :
    (section? parts cursor) = .ok none := by
  unfold section? at notFound ⊢
  cases opened : opening? cursor with
  | none => rfl
  | some pair =>
      obtain ⟨opening, afterOpening⟩ := pair
      cases closed : afterOpening.skipGaps.literal? ['}'] with
      | some inside =>
          obtain ⟨behind, openedThere, closedThere⟩ :=
            opening?_followedBy stops (by decide) (by decide) opened closed
          simp only [openedThere, closedThere] at notFound
          split at notFound
          · cases notFound
          · split at notFound <;> cases notFound
      | none =>
          cases selfClosed : afterOpening.skipGaps.literal? ['/', '}'] with
          | none => simp only [closed, selfClosed, Option.map_none]
          | some last =>
              obtain ⟨behind, openedThere, closedThere⟩ :=
                opening?_followedBy stops (by decide) (by decide) opened selfClosed
              simp only [openedThere, literal?_slash_eq_none closedThere, closedThere] at notFound
              cases notFound

/-- An opening tag that is closed in front of a tail is read and closed the same without it. -/
theorem opening?_cut {opening : Opening} {afterOpening : Cursor} {mark : Char} {more : List Char}
    (stops : Stops '{' tail) (noStart : isKeyStart mark = false) (brace : '}' ∈ mark :: more)
    (opened : opening? (cursor.followedBy tail) = some (opening, afterOpening))
    (closed : afterOpening.skipGaps.literal? (mark :: more) = some (after.followedBy tail)) :
    ∃ behind : Cursor, opening? cursor = some (opening, behind) ∧
      behind.skipGaps.literal? (mark :: more) = some after := by
  obtain ⟨same, equality, -, again⟩ := settles_opening stops noStart brace opened closed
  cases followedBy_cancel equality
  simpa only [followedBy_nil] using again [] (stops_nil '{')

/-- The bodies of a section that close in front of a tail are read the same without it. -/
theorem sectionBodies_cut {limit : Nat} (stops : Stops '{' tail)
    (inside : ∀ later : Cursor, later.rest.length < limit → Cuts tail later)
    {start atEnd : Cursor} {bodies : List (String × Node)} (closes : Closes atEnd)
    (early : start.rest.length < limit + tail.length)
    (read : sectionBodies parts start = .ok (bodies, atEnd.followedBy tail)) :
    ∃ within : Cursor, start = within.followedBy tail ∧
      sectionBodies parts within = .ok (bodies, atEnd) := by
  obtain ⟨nodes, afterBody, branches, body, more, rfl⟩ := sectionBodies_cases read
  have notLonger := (parts_suffix body).length_le
  obtain ⟨behind, rfl, suffix, moreCut⟩ := branchesWithin_cut stops inside closes (by omega) more
  obtain ⟨within, rfl, -⟩ := exists_followedBy (parts_suffix body)
  have lengths : within.rest.length < limit := by
    simp only [Cursor.followedBy, List.length_append] at early
    omega
  have bodyCut := inside within lengths body (.inr (closes.earlier suffix))
  refine ⟨within, rfl, ?_⟩
  simp only [sectionBodies, bodyCut, moreCut]
  rfl

/-- An end tag in front of a tail closes a section the same without it. -/
theorem closeSection_cut {opened : String} {atEnd : Cursor} (stops : Stops '{' tail)
    (ended : closeSection opened atEnd = .ok (after.followedBy tail)) :
    ∃ last : Cursor, atEnd = last.followedBy tail ∧ Closes last ∧
      closeSection opened last = .ok after := by
  obtain ⟨identifier, tag, named⟩ := endTag?_of_closeSection ended
  obtain ⟨last, rfl, -, -⟩ := settles_endTag stops tag trivial
  have tagCut := settles_endTag.cut stops tag
  refine ⟨last, rfl, closes_of_endTag? tagCut, ?_⟩
  simp only [closeSection, tagCut, named, if_true]

/-- A section in front of a tail is read the same without it. -/
theorem section?_cut (stops : Stops '{' tail)
    (inside : ∀ later : Cursor, later.rest.length < cursor.rest.length → Cuts tail later)
    (read : section? parts (cursor.followedBy tail) =
      .ok (some (node, after.followedBy tail))) :
    (section? parts cursor) = .ok (some (node, after)) := by
  unfold section? at read ⊢
  cases opened : opening? (cursor.followedBy tail) with
  | none =>
      rw [opened] at read
      cases read
  | some pair =>
      obtain ⟨opening, afterOpening⟩ := pair
      rw [opened] at read
      cases closed : afterOpening.skipGaps.literal? ['}'] with
      | none =>
          simp only [closed, Except.ok.injEq, Option.map_eq_some_iff] at read
          obtain ⟨last, selfClosed, equality⟩ := read
          cases equality
          obtain ⟨behind, openedHere, closedHere⟩ :=
            opening?_cut stops (by decide) (by decide) opened selfClosed
          simp only [openedHere, literal?_slash_eq_none closedHere, closedHere, Option.map_some]
          rfl
      | some start =>
          have shorter := inside_shorter opened closed
          simp only [closed] at read
          cases bodies : sectionBodies parts start with
          | error error =>
              rw [bodies] at read
              cases read
          | ok pair =>
              obtain ⟨entries, atEnd⟩ := pair
              simp only [bodies] at read
              cases ended : closeSection opening.identifier.text atEnd with
              | error error =>
                  rw [ended] at read
                  cases read
              | ok last =>
                  rw [ended] at read
                  cases read
                  obtain ⟨atEnd, rfl, closes, endedHere⟩ := closeSection_cut stops ended
                  simp only [Cursor.followedBy, List.length_append] at shorter
                  obtain ⟨within, rfl, bodiesHere⟩ :=
                    sectionBodies_cut stops inside closes shorter bodies
                  obtain ⟨behind, openedHere, closedHere⟩ :=
                    opening?_cut stops (by decide) (by decide) opened closed
                  simp only [openedHere, closedHere, bodiesHere, endedHere]
                  rfl

end Sections

/-! ## Parts -/

section Parts

variable {tail : List Char} {cursor after : Cursor} {node : Node}

theorem earlyPart?_cut (stops : Stops '{' tail)
    (found : earlyPart? (cursor.followedBy tail) = some (node, after.followedBy tail)) :
    earlyPart? cursor = some (node, after) := by
  unfold earlyPart? at found ⊢
  cases raw : raw? (cursor.followedBy tail) with
  | some pair =>
      obtain ⟨value, last⟩ := pair
      rw [raw] at found
      cases found
      rw [settles_raw.cut stops raw]
  | none =>
      rw [raw] at found
      rw [settles_raw.eq_none stops raw]
      exact settles_comment.cut stops found

theorem earlyPart?_cut_none (stops : Stops '{' tail)
    (notFound : earlyPart? (cursor.followedBy tail) = none) : earlyPart? cursor = none := by
  unfold earlyPart? at notFound ⊢
  cases raw : raw? (cursor.followedBy tail) with
  | some pair =>
      rw [raw] at notFound
      cases notFound
  | none =>
      rw [raw] at notFound
      rw [settles_raw.eq_none stops raw]
      exact settles_comment.eq_none stops notFound

abbrev EndsAlike (tail : List Char) (cursor : Cursor) : Prop :=
  endsText (cursor.followedBy tail) = true → cursor.rest = [] ∨ endsText cursor = true

theorem latePart?_cut (stops : Stops '{' tail) (ends : EndsAlike tail after)
    (found : latePart? (cursor.followedBy tail) = some (node, after.followedBy tail)) :
    latePart? cursor = some (node, after) := by
  unfold latePart? at found ⊢
  cases included : inclusion? (cursor.followedBy tail) with
  | some pair =>
      obtain ⟨value, last⟩ := pair
      rw [included] at found
      cases found
      rw [settles_inclusion.cut stops included]
  | none =>
      rw [included] at found
      rw [settles_inclusion.eq_none stops included]
      cases special : special? (cursor.followedBy tail) with
      | some pair =>
          obtain ⟨value, last⟩ := pair
          rw [special] at found
          cases found
          rw [settles_special.cut stops special]
      | none =>
          rw [special] at found
          rw [settles_special.eq_none stops special]
          cases reference : reference? (cursor.followedBy tail) with
          | some pair =>
              obtain ⟨value, last⟩ := pair
              rw [reference] at found
              cases found
              rw [settles_reference.cut stops reference]
          | none =>
              rw [reference] at found
              rw [settles_reference.eq_none stops reference]
              exact text?_cut stops found ends

/-- A part in front of a tail is read the same without it. -/
theorem part?_cut (stops : Stops '{' tail)
    (inside : ∀ later : Cursor, later.rest.length < cursor.rest.length → Cuts tail later)
    (ends : EndsAlike tail after)
    (found : part? parts (cursor.followedBy tail) = .ok (some (node, after.followedBy tail))) :
    part? parts cursor = .ok (some (node, after)) := by
  unfold part? at found ⊢
  cases early : earlyPart? (cursor.followedBy tail) with
  | some pair =>
      obtain ⟨value, last⟩ := pair
      rw [early] at found
      cases found
      rw [earlyPart?_cut stops early]
  | none =>
      rw [early] at found
      rw [earlyPart?_cut_none stops early]
      cases enclosed : section? parts (cursor.followedBy tail) with
      | error error =>
          rw [enclosed] at found
          cases found
      | ok attempt =>
          rw [enclosed] at found
          cases attempt with
          | some pair =>
              obtain ⟨value, last⟩ := pair
              cases found
              rw [section?_cut stops inside enclosed]
          | none =>
              simp only [Except.ok.injEq] at found
              rw [section?_cut_none stops enclosed]
              simp only [latePart?_cut stops ends found]

/-- What stands where no part fits: a brace that opens what looks like a tag and is none. -/
structure Misfits (cursor : Cursor) : Prop where
  looks : looksLikeTag cursor = true
  noRaw : raw? cursor = none
  noComment : comment? cursor = none
  noSection : section? parts cursor = .ok none
  noInclusion : inclusion? cursor = none
  noSpecial : special? cursor = none
  noReference : reference? cursor = none

theorem text?_eq_none_iff : text? cursor = none ↔
    cursor.startsWith isLineBreak = false ∧ (cursor.rest = [] ∨ endsText cursor = true) := by
  unfold text?
  cases broken : newline? cursor with
  | some pair =>
      have breaks := startsWith_of_newline? broken
      simp [breaks]
  | none =>
      have sameLine : cursor.startsWith isLineBreak = false := by
        rw [newline?_eq, Option.map_eq_none_iff] at broken
        rw [← isSome_lineEnd?, broken]
        rfl
      simp only [sameLine, true_and]
      constructor
      · intro notFound
        cases run : cursor.takeUntil endsText with
        | mk chars last =>
            rw [run] at notFound
            cases chars with
            | cons char more => cases notFound
            | nil =>
                cases takeUntil_nil run
                exact takeUntil_ends run
      · rintro (nothing | ends)
        · obtain ⟨place, _⟩ := cursor
          cases nothing
          rfl
        · rw [takeUntil_of_stops ends]

theorem part?_eq_none_iff : part? parts cursor = .ok none ↔
    earlyPart? cursor = none ∧ section? parts cursor = .ok none ∧ latePart? cursor = none := by
  unfold part?
  cases earlyPart? cursor with
  | some found => simp
  | none =>
      cases section? parts cursor with
      | error error => simp
      | ok attempt => cases attempt <;> simp

theorem earlyPart?_eq_none_iff :
    earlyPart? cursor = none ↔ raw? cursor = none ∧ comment? cursor = none := by
  unfold earlyPart?
  cases raw? cursor <;> simp

theorem latePart?_eq_none_iff : latePart? cursor = none ↔ inclusion? cursor = none ∧
    special? cursor = none ∧ reference? cursor = none ∧ text? cursor = none := by
  unfold latePart?
  cases inclusion? cursor with
  | some found => simp
  | none =>
      cases special? cursor with
      | some found => simp
      | none => cases reference? cursor <;> simp

/-- No part fits exactly at the end and where a tag seems to start and does not. -/
theorem part?_eq_none_iff_misfits :
    part? parts cursor = .ok none ↔ cursor.rest = [] ∨ Misfits cursor := by
  rw [part?_eq_none_iff, earlyPart?_eq_none_iff, latePart?_eq_none_iff, text?_eq_none_iff]
  constructor
  · rintro ⟨⟨noRaw, noComment⟩, noSection, noInclusion, noSpecial, noReference, sameLine, ends⟩
    refine ends.imp_right fun ends => ?_
    have looks : looksLikeTag cursor = true := by
      simpa only [endsText, noRaw, noComment, sameLine, Option.isSome_none, Bool.or_false]
        using ends
    exact ⟨looks, noRaw, noComment, noSection, noInclusion, noSpecial, noReference⟩
  · rintro (nothing | misfits)
    · obtain ⟨place, _⟩ := cursor
      cases nothing
      exact ⟨⟨rfl, rfl⟩, rfl, rfl, rfl, rfl, rfl, .inl rfl⟩
    · obtain ⟨looks, noRaw, noComment, noSection, noInclusion, noSpecial, noReference⟩ := misfits
      have sameLine : cursor.startsWith isLineBreak = false := by
        obtain ⟨place, rest⟩ := cursor
        cases rest with
        | nil => rfl
        | cons char rest =>
            by_cases brace : char = '{'
            · subst brace
              rfl
            · rw [looksLikeTag_eq_false brace] at looks
              cases looks
      exact ⟨⟨noRaw, noComment⟩, noSection, noInclusion, noSpecial, noReference, sameLine,
        .inr (by simp only [endsText, looks, Bool.true_or])⟩

/-- Where a tag seems to start in front of a tail and does not, that is so without the tail if the
tag would end before it. -/
theorem Misfits.cut (stops : Stops '{' tail) (closes : Closes cursor)
    (misfits : Misfits (cursor.followedBy tail)) : Misfits cursor where
  looks := by rw [← looksLikeTag_followedBy stops closes, misfits.looks]
  noRaw := settles_raw.eq_none stops misfits.noRaw
  noComment := settles_comment.eq_none stops misfits.noComment
  noSection := section?_cut_none stops misfits.noSection
  noInclusion := settles_inclusion.eq_none stops misfits.noInclusion
  noSpecial := settles_special.eq_none stops misfits.noSpecial
  noReference := settles_reference.eq_none stops misfits.noReference

theorem part?_cut_none (stops : Stops '{' tail) (atEnd : cursor.rest = [] ∨ Closes cursor)
    (notFound : part? parts (cursor.followedBy tail) = .ok none) :
    part? parts cursor = .ok none := by
  rw [part?_eq_none_iff_misfits] at notFound ⊢
  refine atEnd.imp_right fun closes => (notFound.resolve_left ?_).cut stops closes
  simp [Cursor.followedBy, closes.nonempty]

theorem goesOn_of_meets_text {content : String} {position : Position}
    (meets : Meets cursor after (.text content position)) : endsText cursor = false := by
  cases meets with
  | gapped gapped => cases gapped
  | text _ _ goesOn _ => exact goesOn
  | stopping _ notText => exact absurd rfl (notText _ _)

/-- Where the same part is read with and without a tail, a run of text in front of it ends alike. -/
theorem endsAlike_of_part? {last lastCut : Cursor} (stops : Stops '{' tail)
    (found : part? parts (cursor.followedBy tail) = .ok (some (node, last)))
    (foundCut : part? parts cursor = .ok (some (node, lastCut))) : EndsAlike tail cursor := by
  intro ends
  refine .inr ?_
  have meets := meets_part found
  cases meets_part foundCut with
  | stopping _ _ endsCut => exact endsCut
  | text content position _ _ =>
      rw [goesOn_of_meets_text meets] at ends
      cases ends
  | gapped gapped starts looksCut =>
      have closes : Closes cursor := by
        obtain ⟨mark, inside, rest, -, first, more, spaced, -, brace⟩ := starts
        have member : '}' ∈ inside.dropWhile isGap := by
          rw [spaced]
          exact List.mem_cons_of_mem _ brace
        unfold Closes
        rw [rest]
        exact List.mem_cons_of_mem _ (List.mem_cons_of_mem _
          ((List.dropWhile_suffix _).subset member))
      cases meets with
      | gapped _ _ looks =>
          rw [looksCut, ← looksLikeTag_followedBy stops closes, ← looks, ends]
      | text => cases gapped
      | stopping notGapped =>
          rw [notGapped] at gapped
          cases gapped

theorem endsAlike_of_misfits (stops : Stops '{' tail) (closes : Closes cursor)
    (misfits : Misfits (cursor.followedBy tail)) : EndsAlike tail cursor := by
  have looks := (misfits.cut stops closes).looks
  exact fun _ => .inr (by simp only [endsText, looks, Bool.true_or])

/-- Parts are read up to where none fits, one behind the other. -/
theorem parts_eq_ok_iff {nodes : List Node} : parts cursor = .ok (nodes, after) ↔
    (part? parts cursor = .ok none ∧ nodes = [] ∧ after = cursor) ∨
      ∃ node behind others, part? parts cursor = .ok (some (node, behind)) ∧
        parts behind = .ok (others, after) ∧ nodes = node :: others := by
  rw [parts_eq]
  cases part? parts cursor with
  | error error => simp
  | ok next =>
      cases next with
      | none => simp [eq_comm]
      | some pair =>
          obtain ⟨node, behind⟩ := pair
          dsimp only
          cases more : parts behind with
          | error error => simp [more]
          | ok pair =>
              obtain ⟨others, last⟩ := pair
              simp only [reduceCtorEq, Except.ok.injEq, false_and, false_or, Option.some.injEq,
                Prod.mk.injEq]
              constructor
              · rintro ⟨rfl, rfl⟩
                exact ⟨node, behind, others, ⟨rfl, rfl⟩, more, rfl⟩
              · rintro ⟨_, _, _, ⟨rfl, rfl⟩, same, rfl⟩
                rw [more] at same
                cases same
                exact ⟨rfl, rfl⟩

/-- Where a run of text is read in front of other parts, it ends alike with and without a tail. -/
theorem endsAlike_of_parts {nodes : List Node} (stops : Stops '{' tail)
    (read : parts (cursor.followedBy tail) = .ok (nodes, after.followedBy tail))
    (readCut : parts cursor = .ok (nodes, after)) (atEnd : after.rest = [] ∨ Closes after) :
    EndsAlike tail cursor := by
  rcases parts_eq_ok_iff.1 read with ⟨found, rfl, -⟩ | ⟨node, behind, others, found, -, rfl⟩
  · rcases parts_eq_ok_iff.1 readCut with ⟨-, -, rfl⟩ | ⟨_, _, _, -, -, impossible⟩
    · rcases atEnd with nothing | closes
      · exact fun _ => .inl nothing
      · have misfits := (part?_eq_none_iff_misfits.1 found).resolve_left
          (by simp [Cursor.followedBy, closes.nonempty])
        exact endsAlike_of_misfits stops closes misfits
    · cases impossible
  · rcases parts_eq_ok_iff.1 readCut with ⟨-, impossible, -⟩ | ⟨_, _, _, foundCut, -, same⟩
    · cases impossible
    · cases same
      exact endsAlike_of_part? stops found foundCut

/-- Parts that are read in front of a tail that no part reaches into are read without it. -/
theorem cuts (stops : Stops '{' tail) (cursor : Cursor) : Cuts tail cursor := by
  induction size : cursor.rest.length using Nat.strongRecOn generalizing cursor with
  | ind size inductionHypothesis =>
      subst size
      intro nodes after read atEnd
      rcases parts_eq_ok_iff.1 read with ⟨found, rfl, last⟩ | ⟨node, last, others, found, more, rfl⟩
      · cases followedBy_cancel last
        exact parts_eq_ok_iff.2 (.inl ⟨part?_cut_none stops atEnd found, rfl, rfl⟩)
      · have shorter := part?_shorter found
        obtain ⟨behind, rfl, -⟩ := exists_followedBy (parts_suffix more)
        have lengths : behind.rest.length < cursor.rest.length := by
          simpa [Cursor.followedBy] using shorter
        have moreCut := inductionHypothesis _ lengths behind rfl more atEnd
        have ends := endsAlike_of_parts stops more moreCut atEnd
        have foundCut := part?_cut stops
          (fun later laterLt => inductionHypothesis _ laterLt later rfl) ends found
        exact parts_eq_ok_iff.2 (.inr ⟨node, behind, others, foundCut, moreCut, rfl⟩)

theorem parts_ends {nodes : List Node} (read : parts cursor = .ok (nodes, after)) :
    part? parts after = .ok none := by
  induction nodes generalizing cursor with
  | nil =>
      rcases parts_eq_ok_iff.1 read with ⟨found, -, rfl⟩ | ⟨_, _, _, -, -, impossible⟩
      · exact found
      · cases impossible
  | cons node others inductionHypothesis =>
      rcases parts_eq_ok_iff.1 read with ⟨-, impossible, -⟩ | ⟨_, _, _, -, more, same⟩
      · cases impossible
      · cases same
        exact inductionHypothesis more

end Parts

/-! ## Sources that are unexpected somewhere -/

theorem offset_advanceAll (place : Place) (chars : List Char) :
    (place.advanceAll chars).offset = place.offset + (String.ofList chars).utf8ByteSize := by
  induction chars generalizing place with
  | nil => simp [Place.advanceAll]
  | cons char rest inductionHypothesis =>
      have advanced : (place.advance char).offset = place.offset + char.utf8Size := by
        unfold Place.advance
        split_ifs <;> rfl
      have later := inductionHypothesis (place.advance char)
      rw [Place.advanceAll, List.foldl_cons, ← Place.advanceAll, later, advanced]
      simp only [String.ofList_cons, String.utf8ByteSize_append, String.utf8ByteSize_singleton]
      omega

theorem Misfits.startsWithBrace {place : Place} {char : Char} {rest : List Char}
    (misfits : Misfits ⟨place, char :: rest⟩) : char = '{' := by
  by_contra noBrace
  have looks := misfits.looks
  rw [looksLikeTag_eq_false noBrace] at looks
  cases looks

/-- Parts are read up to a place in the source. -/
theorem behindText_of_parts {source : String} {nodes : List Node} {last : Cursor}
    (read : parts (Cursor.ofString source) = .ok (nodes, last)) :
    ∃ before rest : String, source = before ++ rest ∧ behindText before rest = last ∧
      last.place.offset = before.utf8ByteSize := by
  obtain ⟨taken, split, place⟩ := parts_advances read
  refine ⟨String.ofList taken, String.ofList last.rest, ?_, ?_, ?_⟩
  · rw [← String.ofList_append, ← split]
    exact (String.ofList_toList).symm
  · obtain ⟨lastPlace, left⟩ := last
    simp only [behindText, String.toList_ofList, Cursor.mk.injEq, and_true]
    exact place.symm
  · have offset := offset_advanceAll Place.start taken
    exact (congrArg Place.offset place).trans (offset.trans (Nat.zero_add _))

/-- What stands in front of a tail that no part reaches into is a template with the parts that were
read. -/
theorem parse_front {before rest : String} {nodes : List Node} (stops : Stops '{' rest.toList)
    (read : parts (Cursor.ofString (before ++ rest)) = .ok (nodes, behindText before rest)) :
    Node.parse before = .ok (.body nodes Place.start.position) := by
  have front :
      Cursor.ofString (before ++ rest) = (Cursor.ofString before).followedBy rest.toList := by
    simp only [Cursor.ofString, Cursor.followedBy, String.toList_append]
  rw [front] at read
  have cut : parts (Cursor.ofString before) = .ok (nodes, ⟨(behindText before rest).place, []⟩) :=
    cuts stops _ read (.inl rfl)
  exact (parse_eq_ok_iff_parts _ _).2 ⟨nodes, _, cut, rfl, rfl⟩

/-- Where something is unexpected, a brace opens what looks like a tag and is none, and the source
up to there is a template with the parts that were read. -/
theorem parse_unexpected {source : String} {error : ParseError} {expected : List String}
    {found : Option Char} (fails : Node.parse source = .error error)
    (fault : error.fault = .unexpected expected found) :
    ∃ before rest : String, ∃ nodes,
      source = before ++ rest ∧ rest.toList.head? = some '{' ∧
      error.offset = before.utf8ByteSize ∧
      error = .at (behindText before rest).place (.unexpected expected found) ∧
      found = some '{' ∧
      expected = ["buffer", "comment", "partial", "raw", "reference", "section", "special"] ∧
      Misfits (behindText before rest) ∧
      parts (Cursor.ofString source) = .ok (nodes, behindText before rest) ∧
      Node.parse before = .ok (.body nodes Place.start.position) := by
  unfold Node.parse at fails
  cases read : parts (Cursor.ofString source) with
  | error other =>
      simp only [read] at fails
      cases fails
      obtain ⟨_, _, _, _, _, _, _, _, unclosed⟩ := missesEndTag_of_parts read
      have missing := unclosed.isMissingEndTag
      rw [fault] at missing
      cases missing
  | ok pair =>
      obtain ⟨nodes, last⟩ := pair
      obtain ⟨before, rest, rfl, rfl, offset⟩ := behindText_of_parts read
      have misfits := part?_eq_none_iff_misfits.1 (parts_ends read)
      simp only [read, behindText] at fails
      cases left : rest.toList with
      | nil =>
          rw [left] at fails
          cases fails
      | cons char back =>
          rw [left] at fails
          cases fails
          cases fault
          have misfits := misfits.resolve_left (by simp [behindText, left])
          have brace : char = '{' := by
            simp only [behindText, left] at misfits
            exact misfits.startsWithBrace
          subst brace
          have stops : Stops '{' rest.toList := left ▸ stops_cons '{' back
          exact ⟨before, rest, nodes, rfl, by rw [left]; rfl, offset, rfl, rfl, rfl, misfits, rfl,
            parse_front stops read⟩

/-- An end tag that nothing opens is unexpected, behind the text in front of it. -/
theorem parse_unexpected_endTag :
    ∃ error, Node.parse "\u00e9\x7b/b\x7d" = .error error ∧
      error.fault = .unexpected partNames (some '{') ∧ error.offset = 2 ∧
      ∃ before rest : String, ∃ nodes, "\u00e9\x7b/b\x7d" = before ++ rest ∧
        error.offset = before.utf8ByteSize ∧ Misfits (behindText before rest) ∧
        Node.parse before = .ok (.body nodes Place.start.position) := by
  have fault : (Node.parse "\u00e9\x7b/b\x7d").map (fun _ => ()) =
      .error ⟨2, 1, 2, .unexpected partNames (some '{')⟩ := by
    decide +kernel
  cases fails : Node.parse "\u00e9\x7b/b\x7d" with
  | ok tree =>
      rw [fails] at fault
      cases fault
  | error error =>
      rw [fails] at fault
      cases fault
      obtain ⟨before, rest, nodes, whole, -, offset, -, -, -, misfits, -, parsed⟩ :=
        parse_unexpected fails rfl
      exact ⟨_, rfl, rfl, rfl, before, rest, nodes, whole, offset, misfits, parsed⟩

end Reading

end BraceTemplate
