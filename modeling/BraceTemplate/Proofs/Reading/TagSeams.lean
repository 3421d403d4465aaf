import BraceTemplate.Proofs.Reading.Seams

/-!
# Whole tags do not depend on what follows them

Main statements: raw texts, comments, inclusions, the opening tags of sections up to what closes
them, and their end tags are read the same in front of everything that starts with an opening brace,
and at the end.
-/

namespace BraceTemplate.Reading

open Source Grammar

theorem number_exact (cursor : Cursor) : StopsAtBrace number? cursor :=
  Reads.stopsAtBrace reads_number rfl cursor

theorem identifier_exact (cursor : Cursor) : StopsAtBrace identifier? cursor :=
  Reads.stopsAtBrace reads_identifier rfl cursor

theorem settles_paramValue : Settles Closes paramValue? := by
  intro tail start after value stops found closes
  unfold paramValue? at found ⊢
  cases number : number? start with
  | some pair =>
      obtain ⟨literal, last⟩ := pair
      rw [number] at found
      cases found
      have settles : Settles Anywhere number? :=
        settles_of_stopsAtBrace reads_number rfl fun cursor _ => number_exact cursor
      obtain ⟨cursor, rfl, suffix, again⟩ := settles stops number trivial
      refine ⟨cursor, rfl, suffix, fun other otherStops => ?_⟩
      rw [again other otherStops]
  | none =>
      rw [number] at found
      cases identifier : identifier? start with
      | some pair =>
          obtain ⟨name, last⟩ := pair
          rw [identifier] at found
          cases found
          obtain ⟨cursor, rfl, suffix, again⟩ := settles_identifier stops identifier trivial
          refine ⟨cursor, rfl, suffix, fun other otherStops => ?_⟩
          rw [eq_none_of_stopsAtBrace (number_exact cursor) stops otherStops number,
            again other otherStops]
      | none =>
          rw [identifier] at found
          simp only [Option.map_eq_some_iff] at found
          obtain ⟨⟨quotation, last⟩, read, equality⟩ := found
          cases equality
          obtain ⟨cursor, rfl, suffix, again⟩ := settles_quotation stops read closes
          refine ⟨cursor, rfl, suffix, fun other otherStops => ?_⟩
          rw [eq_none_of_stopsAtBrace (number_exact cursor) stops otherStops number,
            eq_none_of_stopsAtBrace (identifier_exact cursor) stops otherStops identifier,
            again other otherStops]
          rfl

theorem settles_gap : Settles Anywhere (Cursor.char? isGap) :=
  settles_of_stopsAtBrace (Reads.oneOf isGap) rfl fun cursor _ =>
    Reads.stopsAtBrace (Reads.oneOf isGap) rfl cursor

theorem settles_param : Settles Closes param? := by
  intro tail start after param stops found closes
  simp only [param?, Option.bind_eq_bind, Option.bind_eq_some_iff] at found
  obtain ⟨⟨gap, afterGap⟩, spaced, ⟨key, afterKey⟩, named, afterSign, signed, ⟨value, last⟩, read,
    equality⟩ := found
  cases equality
  obtain ⟨behindSign, rfl, suffix, valueAgain⟩ := settles_paramValue stops read closes
  obtain ⟨atSign, rfl, signRest, signAgain⟩ := settles_literal? signed
  obtain ⟨atKey, spacedMore, keySuffix, keyAgain⟩ := settles_key stops named trivial
  obtain ⟨behindGap, rfl, gapSuffix, gapsAgain⟩ := settles_skipGaps stops spacedMore
  obtain ⟨cursor, rfl, cursorSuffix, gapAgain⟩ := settles_gap stops spaced trivial
  refine ⟨cursor, rfl, ?_, fun other otherStops => ?_⟩
  · rw [signRest] at keySuffix
    exact suffix.trans <| (List.suffix_append _ _).trans <| keySuffix.trans <|
      gapSuffix.trans cursorSuffix
  · simp only [param?, gapAgain other otherStops, gapsAgain other otherStops,
      keyAgain other otherStops, signAgain, valueAgain other otherStops, Option.bind_eq_bind,
      Option.bind_some]
    rfl

/-- Where a tag is closed, no parameter comes. -/
theorem param?_eq_none {cursor : Cursor} (noKey : key? cursor.skipGaps = none) :
    param? cursor = none := by
  obtain ⟨place, rest⟩ := cursor
  cases rest with
  | nil => rfl
  | cons char rest =>
      cases gap : isGap char with
      | false => simp [param?, Cursor.char?, gap]
      | true =>
          have spaced : (Cursor.mk place (char :: rest)).skipGaps =
              (Cursor.mk (place.advance char) rest).skipGaps := by
            simp only [Cursor.skipGaps, takeWhile_cons, gap, if_true]
          rw [spaced] at noKey
          simp only [param?, Cursor.char?, gap, if_true, noKey, Option.bind_eq_bind,
            Option.bind_some, Option.bind_none]

theorem key?_eq_none {cursor after : Cursor} {mark : Char} {more : List Char}
    (noStart : isKeyStart mark = false) (closed : cursor.literal? (mark :: more) = some after) :
    key? cursor = none := by
  have rest := rest_of_literal? closed
  obtain ⟨place, _⟩ := cursor
  cases rest
  simp [key?, Cursor.char?, noStart]

section Closing

variable {mark : Char} {more tail : List Char} {start after : Cursor}

theorem settles_context {found : Option Identifier} (stops : Stops '{' tail)
    (read : context start = (found, after.followedBy tail)) :
    ∃ cursor : Cursor, start = cursor.followedBy tail ∧ after.rest <:+ cursor.rest ∧
      ∀ other, Stops '{' other →
        context (cursor.followedBy other) = (found, after.followedBy other) := by
  have later : (context start).2.rest <:+ start.rest := (reads_context start).suffix
  rw [read] at later
  obtain ⟨cursor, rfl, suffix⟩ := exists_followedBy later
  have exact := Reads.stopsAtBrace reads_context rfl cursor
  have foundHere := stopsAtBrace_of_followedBy exact stops (congrArg some read)
  simp only [Option.some.injEq] at foundHere
  refine ⟨cursor, rfl, suffix, fun other otherStops => ?_⟩
  have again := exact other otherStops
  simp only [foundHere, Option.map_some, Option.some.injEq] at again
  exact again

/-- A context and parameters are read the same up to what closes the tag. -/
theorem settles_contextParams {found : Option Identifier} {params : List (Param Node)}
    {afterContext afterParams : Cursor} (stops : Stops '{' tail)
    (noStart : isKeyStart mark = false) (brace : '}' ∈ mark :: more)
    (read : context start = (found, afterContext))
    (many : afterContext.many param? = (params, afterParams))
    (closed : afterParams.skipGaps.literal? (mark :: more) = some (after.followedBy tail)) :
    ∃ cursor : Cursor, start = cursor.followedBy tail ∧
      (mark :: more) ++ after.rest <:+ cursor.rest ∧
      ∀ other, Stops '{' other → ∃ behindContext behindParams,
        context (cursor.followedBy other) = (found, behindContext) ∧
        behindContext.many param? = (params, behindParams) ∧
        behindParams.skipGaps.literal? (mark :: more) = some (after.followedBy other) := by
  obtain ⟨atGaps, rfl, closing, closesAgain⟩ := settles_closing stops closed
  have closes : Closes atGaps := closing.subset (List.mem_append_left _ brace)
  obtain ⟨atParams, rfl, paramsSuffix, paramsAgain⟩ := settles_many
    (fun cursor => reads_param cursor) rfl settles_param stops many closes
    fun other otherStops => param?_eq_none (key?_eq_none noStart (closesAgain other otherStops))
  obtain ⟨cursor, rfl, suffix, again⟩ := settles_context stops read
  exact ⟨cursor, rfl, closing.trans (paramsSuffix.trans suffix), fun other otherStops =>
    ⟨_, _, again other otherStops, paramsAgain other otherStops, closesAgain other otherStops⟩⟩

/-- What the opening tag of a section says is the same up to what closes the tag. -/
theorem settles_opening {opening : Opening} {afterOpening : Cursor} (stops : Stops '{' tail)
    (noStart : isKeyStart mark = false) (brace : '}' ∈ mark :: more)
    (opened : opening? start = some (opening, afterOpening))
    (closed : afterOpening.skipGaps.literal? (mark :: more) = some (after.followedBy tail)) :
    ∃ cursor : Cursor, start = cursor.followedBy tail ∧
      (mark :: more) ++ after.rest <:+ cursor.rest ∧
      ∀ other, Stops '{' other → ∃ behindOpening,
        opening? (cursor.followedBy other) = some (opening, behindOpening) ∧
        behindOpening.skipGaps.literal? (mark :: more) = some (after.followedBy other) := by
  simp only [opening?, Option.bind_eq_bind, Option.bind_eq_some_iff] at opened
  obtain ⟨inside, opens, ⟨kind, afterMark⟩, marked, ⟨identifier, afterName⟩, named,
    equality⟩ := opened
  cases equality
  obtain ⟨atContext, rfl, contextSuffix, contextAgain⟩ := settles_contextParams stops noStart brace
    (Prod.eta (context afterName)).symm (Prod.eta _).symm closed
  obtain ⟨atName, spaced, nameSuffix, nameAgain⟩ := settles_identifier stops named trivial
  obtain ⟨behindMark, rfl, markSuffix, gapsAgain⟩ := settles_skipGaps stops spaced
  have settlesMark : Settles Anywhere (Cursor.classify? SectionKind.ofMark?) :=
    settles_of_stopsAtBrace (Reads.char SectionKind.ofMark?) rfl fun cursor _ =>
      Reads.stopsAtBrace (Reads.char SectionKind.ofMark?) rfl cursor
  obtain ⟨within, rfl, withinSuffix, markAgain⟩ := settlesMark stops marked trivial
  obtain ⟨cursor, rfl, rest, opensAgain⟩ := settles_literal? opens
  refine ⟨cursor, rfl, ?_, fun other otherStops => ?_⟩
  · rw [rest]
    exact contextSuffix.trans <| nameSuffix.trans <| markSuffix.trans <| withinSuffix.trans <|
      List.suffix_append _ _
  · obtain ⟨behindContext, behindParams, contextRead, manyRead, closedRead⟩ :=
      contextAgain other otherStops
    refine ⟨behindParams, ?_, closedRead⟩
    simp only [opening?, opensAgain, markAgain other otherStops, gapsAgain other otherStops,
      nameAgain other otherStops, contextRead, manyRead, Option.bind_eq_bind, Option.bind_some]
    rfl

end Closing

theorem settles_target : Settles Closes target? := by
  intro tail start after target stops found closes
  unfold target? at found ⊢
  cases key : key? start with
  | some pair =>
      obtain ⟨name, last⟩ := pair
      rw [key] at found
      cases found
      obtain ⟨cursor, rfl, suffix, again⟩ := settles_key stops key trivial
      refine ⟨cursor, rfl, suffix, fun other otherStops => ?_⟩
      rw [again other otherStops]
  | none =>
      rw [key] at found
      simp only [Option.map_eq_some_iff] at found
      obtain ⟨⟨quotation, last⟩, read, equality⟩ := found
      cases equality
      obtain ⟨cursor, rfl, suffix, again⟩ := settles_quotation stops read closes
      have exact := Reads.stopsAtBrace reads_key rfl cursor
      refine ⟨cursor, rfl, suffix, fun other otherStops => ?_⟩
      rw [eq_none_of_stopsAtBrace exact stops otherStops key, again other otherStops]
      rfl

theorem settles_inclusion : Settles Anywhere inclusion? := by
  intro tail start after node stops found _
  simp only [inclusion?, Option.bind_eq_bind, Option.bind_eq_some_iff] at found
  obtain ⟨inside, opens, ⟨kind, afterMark⟩, marked, ⟨target, afterTarget⟩, named, last, closed,
    equality⟩ := found
  cases equality
  obtain ⟨atContext, rfl, contextSuffix, contextAgain⟩ := settles_contextParams stops
    (by decide : isKeyStart '/' = false) (by decide) (Prod.eta (context afterTarget)).symm
    (Prod.eta _).symm closed
  have closes : Closes atContext := contextSuffix.subset (List.mem_append_left _ (by decide))
  obtain ⟨atTarget, spaced, targetSuffix, targetAgain⟩ := settles_target stops named closes
  obtain ⟨behindMark, rfl, markSuffix, gapsAgain⟩ := settles_skipGaps stops spaced
  have settlesMark : Settles Anywhere (Cursor.classify? inclusionKind?) :=
    settles_of_stopsAtBrace (Reads.char inclusionKind?) rfl fun cursor _ =>
      Reads.stopsAtBrace (Reads.char inclusionKind?) rfl cursor
  obtain ⟨within, rfl, withinSuffix, markAgain⟩ := settlesMark stops marked trivial
  obtain ⟨cursor, rfl, rest, opensAgain⟩ := settles_literal? opens
  refine ⟨cursor, rfl, ?_, fun other otherStops => ?_⟩
  · rw [rest]
    exact (List.suffix_append _ _).trans <| contextSuffix.trans <| targetSuffix.trans <|
      markSuffix.trans <| withinSuffix.trans <| List.suffix_append _ _
  · obtain ⟨behindContext, behindParams, contextRead, manyRead, closedRead⟩ :=
      contextAgain other otherStops
    simp only [inclusion?, opensAgain, markAgain other otherStops, gapsAgain other otherStops,
      targetAgain other otherStops, contextRead, manyRead, closedRead, Option.bind_eq_bind,
      Option.bind_some]
    rfl

theorem settles_endTag : Settles Anywhere endTag? := by
  intro tail start after identifier stops found _
  simp only [endTag?, Option.bind_eq_bind, Option.bind_eq_some_iff] at found
  obtain ⟨inside, opens, ⟨name, afterName⟩, named, last, closed, equality⟩ := found
  cases equality
  obtain ⟨atGaps, rfl, gapsSuffix, closesAgain⟩ := settles_closing stops closed
  obtain ⟨atName, spaced, nameSuffix, nameAgain⟩ := settles_identifier stops named trivial
  obtain ⟨within, rfl, withinSuffix, gapsAgain⟩ := settles_skipGaps stops spaced
  obtain ⟨cursor, rfl, rest, opensAgain⟩ := settles_literal? opens
  refine ⟨cursor, rfl, ?_, fun other otherStops => ?_⟩
  · rw [rest]
    exact (List.suffix_append _ _).trans <| gapsSuffix.trans <| nameSuffix.trans <|
      withinSuffix.trans <| List.suffix_append _ _
  · simp only [endTag?, opensAgain, gapsAgain other otherStops, nameAgain other otherStops,
      closesAgain other otherStops, Option.bind_eq_bind, Option.bind_some]
    rfl

theorem settles_branchTag : Settles Anywhere branchTag? := by
  intro tail start after name stops found _
  simp only [branchTag?, Option.bind_eq_bind, Option.bind_eq_some_iff] at found
  obtain ⟨inside, opens, ⟨key, afterName⟩, named, last, closed, equality⟩ := found
  cases equality
  obtain ⟨atBrace, rfl, braceRest, closesAgain⟩ := settles_literal? closed
  obtain ⟨within, rfl, withinSuffix, nameAgain⟩ := settles_key stops named trivial
  obtain ⟨cursor, rfl, rest, opensAgain⟩ := settles_literal? opens
  refine ⟨cursor, rfl, ?_, fun other otherStops => ?_⟩
  · rw [rest]
    rw [braceRest] at withinSuffix
    exact (List.suffix_append _ _).trans <| withinSuffix.trans <| List.suffix_append _ _
  · simp only [branchTag?, opensAgain, nameAgain other otherStops, closesAgain,
      Option.bind_eq_bind, Option.bind_some]
    rfl

section Runs

variable {stopsAt : Cursor → Bool} {chars tail : List Char} {start after : Cursor}

/-- A run that takes nothing stays where it is. -/
theorem takeUntil_nil {last : Cursor} (run : start.takeUntil stopsAt = ([], last)) :
    last = start := by
  obtain ⟨place, rest⟩ := start
  cases rest with
  | nil => exact (congrArg Prod.snd run).symm
  | cons char rest =>
      simp only [Cursor.takeUntil, Cursor.takeUntilFrom] at run
      split at run
      · exact (congrArg Prod.snd run).symm
      · cases run

/-- A run of characters is the same in front of something else where that stops it nowhere before
its end, and at its end. -/
theorem settles_takeUntil (run : start.takeUntil stopsAt = (chars, after.followedBy tail)) :
    ∃ cursor : Cursor, start = cursor.followedBy tail ∧ after.rest <:+ cursor.rest ∧
      ∀ other, (∀ later : Cursor, after.rest <:+ later.rest →
          stopsAt (later.followedBy other) = true → stopsAt (later.followedBy tail) = true) →
        ((after.followedBy other).rest = [] ∨ stopsAt (after.followedBy other) = true) →
        (cursor.followedBy other).takeUntil stopsAt = (chars, after.followedBy other) := by
  induction chars generalizing start with
  | nil =>
      refine ⟨after, (takeUntil_nil run).symm, List.suffix_refl _, fun other _ atEnd => ?_⟩
      rcases atEnd with nothing | stopped
      · generalize after.followedBy other = last at nothing
        obtain ⟨place, _⟩ := last
        cases nothing
        rfl
      · exact takeUntil_of_stops stopped
  | cons first more inductionHypothesis =>
      obtain ⟨place, rest⟩ := start
      cases rest with
      | nil => cases run
      | cons char rest =>
          simp only [Cursor.takeUntil, Cursor.takeUntilFrom] at run
          split at run
          · cases run
          · rename_i goesOn
            simp only [Prod.mk.injEq, List.cons.injEq] at run
            obtain ⟨⟨rfl, moreRun⟩, ended⟩ := run
            have laterRun : (Cursor.mk (place.advance char) rest).takeUntil stopsAt =
                (more, after.followedBy tail) := Prod.ext moreRun ended
            obtain ⟨⟨laterPlace, taken⟩, equality, suffix, again⟩ := inductionHypothesis laterRun
            simp only [Cursor.followedBy, Cursor.mk.injEq] at equality
            obtain ⟨rfl, rfl⟩ := equality
            refine ⟨⟨place, char :: taken⟩, rfl, suffix.trans (List.suffix_cons _ _),
              fun other before atEnd => ?_⟩
            have goesOnThere :
                stopsAt (Cursor.followedBy ⟨place, char :: taken⟩ other) = false := by
              rw [← Bool.not_eq_true]
              intro stopped
              exact goesOn (before _ (suffix.trans (List.suffix_cons _ _)) stopped)
            have laterAgain := again other before atEnd
            simp only [Cursor.followedBy, List.cons_append, Cursor.takeUntil]
              at goesOnThere laterAgain ⊢
            simp only [Cursor.takeUntilFrom, goesOnThere, laterAgain, Bool.false_eq_true, if_false]

theorem settles_delimited (opening closing : List Char) :
    Settles Anywhere (delimited? opening closing) := by
  intro tail start after content stops found _
  simp only [delimited?, Option.bind_eq_bind, Option.bind_eq_some_iff] at found
  obtain ⟨inside, opens, last, closed, equality⟩ := found
  cases equality
  obtain ⟨atClosing, ended, closingRest, closesAgain⟩ := settles_literal? closed
  obtain ⟨within, rfl, withinSuffix, runAgain⟩ := settles_takeUntil (Prod.ext rfl ended)
  obtain ⟨cursor, rfl, rest, opensAgain⟩ := settles_literal? opens
  refine ⟨cursor, rfl, ?_, fun other otherStops => ?_⟩
  · rw [rest]
    rw [closingRest] at withinSuffix
    exact (List.suffix_append _ _).trans <| withinSuffix.trans <| List.suffix_append _ _
  · have prefixed : ∀ (later : Cursor) (more : List Char), atClosing.rest <:+ later.rest →
        closing.isPrefixOf (later.followedBy more).rest = closing.isPrefixOf later.rest := by
      intro later more suffix
      have enough : closing.length ≤ later.rest.length := by
        have longer := suffix.length_le
        rw [closingRest, List.length_append] at longer
        omega
      rw [Bool.eq_iff_iff, List.isPrefixOf_iff_prefix, List.isPrefixOf_iff_prefix]
      exact ⟨fun starts => List.prefix_of_prefix_length_le starts (List.prefix_append _ _) enough,
        fun starts => starts.trans (List.prefix_append _ _)⟩
    have run := runAgain other
      (fun later suffix stopped => by rwa [prefixed later _ suffix] at stopped ⊢)
      (.inr (by
        rw [prefixed _ _ (List.suffix_refl _), closingRest, List.isPrefixOf_iff_prefix]
        exact List.prefix_append _ _))
    simp only [delimited?, opensAgain, run, closesAgain, Option.bind_eq_bind, Option.bind_some]
    rfl

theorem settles_built {opening closing : List Char} (build : String → Position → Node) :
    Settles Anywhere fun cursor => (delimited? opening closing cursor).map
      fun (content, after) => (build content cursor.position, after) := by
  intro tail start after node stops found _
  simp only [Option.map_eq_some_iff] at found
  obtain ⟨⟨content, last⟩, read, equality⟩ := found
  cases equality
  obtain ⟨cursor, rfl, suffix, again⟩ := settles_delimited _ _ stops read trivial
  refine ⟨cursor, rfl, suffix, fun other otherStops => ?_⟩
  simp only [again other otherStops, Option.map_some]
  rfl

end Runs

theorem settles_raw : Settles Anywhere raw? :=
  settles_built Node.raw

theorem settles_comment : Settles Anywhere comment? :=
  settles_built Node.comment

end BraceTemplate.Reading
