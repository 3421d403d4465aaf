import BraceTemplate.Proofs.Reading.TextInFront
import BraceTemplate.Template.Tidy

/-!
# Sources that are text

Where no tag starts at any character of a source, and nothing that is taken for one, every part of
it is a run of text or a line break with the gaps behind it, and the parts hold all of the source.
A section whose end tag is missing is no tag and yet ends the parse, where it opens at the beginning
or behind a line break and gaps: there a part starts.
-/

namespace BraceTemplate

namespace Source

namespace Cursor

/-- The cursor behind the first characters of a source. -/
def behind (before rest : List Char) : Cursor :=
  ⟨Place.start.advanceAll before, rest⟩

theorem behind_advance (before : List Char) (char : Char) (rest : List Char) :
    ⟨(Place.start.advanceAll before).advance char, rest⟩ = behind (before ++ [char]) rest := by
  rw [behind, Place.advanceAll_append]
  rfl

/-- Up to a place that the next character alone tells. -/
theorem takeUntil_behind (stops : Cursor → Bool) (stopsAt : Char → Bool) (before rest : List Char)
    (agree : ∀ taken char more, rest = taken ++ char :: more →
      stops (behind (before ++ taken) (char :: more)) = stopsAt char) :
    (behind before rest).takeUntil stops =
      (rest.takeWhile (!stopsAt ·),
        behind (before ++ rest.takeWhile (!stopsAt ·)) (rest.dropWhile (!stopsAt ·))) := by
  induction rest generalizing before with
  | nil => simp [behind, takeUntil, takeUntilFrom]
  | cons char rest inductionHypothesis =>
      have here : stops ⟨Place.start.advanceAll before, char :: rest⟩ = stopsAt char := by
        simpa [behind] using agree [] char rest rfl
      have later := inductionHypothesis (before ++ [char]) fun taken other more split => by
        simpa using agree (char :: taken) other more (congrArg (char :: ·) split)
      simp only [behind, takeUntil, Place.advanceAll_append] at later
      simp only [behind, takeUntil, takeUntilFrom, here]
      cases stopped : stopsAt char with
      | true => simp [stopped]
      | false =>
          simp only [stopped, Bool.false_eq_true, if_false, Bool.not_false,
            List.takeWhile_cons_of_pos, List.dropWhile_cons_of_pos]
          have passed : (Place.start.advanceAll before).advance char =
              (Place.start.advanceAll before).advanceAll [char] := rfl
          rw [passed, later, ← Place.advanceAll_append, ← Place.advanceAll_append]
          simp

theorem takeWhile_behind (accepts : Char → Bool) (before rest : List Char) :
    (behind before rest).takeWhile accepts =
      (rest.takeWhile accepts,
        behind (before ++ rest.takeWhile accepts) (rest.dropWhile accepts)) := by
  have run := takeUntil_behind (fun next => !next.startsWith accepts) (fun char => !accepts char)
    before rest fun _ _ _ _ => rfl
  simpa [takeWhile] using run

end Cursor

end Source

namespace Reading

open Source Grammar

/-- No tag starts here, nothing that looks like one, no raw block and no comment. -/
structure Untagged (cursor : Cursor) : Prop where
  noSection : ∀ found, section? parts cursor ≠ .ok (some found)
  noInclusion : inclusion? cursor = none
  noSpecial : special? cursor = none
  noReference : reference? cursor = none
  noLook : looksLikeTag cursor = false
  noRaw : raw? cursor = none
  noComment : comment? cursor = none

/-- At no character of a source a tag starts. -/
def HoldsNoTag (source : String) : Prop :=
  ∀ before rest, source.toList = before ++ rest → Untagged (Cursor.behind before rest)

/-- Whether a part starts behind these characters of a source without tags: there are none, or among
the gaps that they end with is a line break. -/
def StartsPart (before : List Char) : Prop :=
  before = [] ∨ (before.reverse.takeWhile isGap).any isLineBreak = true

instance (before : List Char) : Decidable (StartsPart before) :=
  inferInstanceAs (Decidable (_ ∨ _))

/-- Where a part starts there is no section whose end tag is missing, or one within it. -/
def MissesNoEndTag (source : String) : Prop :=
  ∀ before rest, source.toList = before ++ rest → StartsPart before →
    (section? parts (Cursor.behind before rest)).isOk = true

section Deciding

/-- Whether something holds where a text is cut in two can be tried at every cut. -/
theorem forall_split_iff {ofSplit : List Char → List Char → Prop} (chars : List Char) :
    (∀ count ∈ List.range (chars.length + 1), ofSplit (chars.take count) (chars.drop count)) ↔
      ∀ before rest, chars = before ++ rest → ofSplit before rest := by
  constructor
  · rintro holds before rest rfl
    have inRange : before.length ∈ List.range ((before ++ rest).length + 1) := by
      rw [List.mem_range, List.length_append]
      omega
    simpa using holds before.length inRange
  · exact fun holds count _ => holds _ _ (List.take_append_drop count chars).symm

theorem untagged_iff (cursor : Cursor) :
    ((section? parts cursor).toOption.join.isNone = true ∧ (inclusion? cursor).isNone = true ∧
        (special? cursor).isNone = true ∧ (reference? cursor).isNone = true ∧
        looksLikeTag cursor = false ∧ (raw? cursor).isNone = true ∧
        (comment? cursor).isNone = true) ↔ Untagged cursor := by
  simp only [Option.isNone_iff_eq_none]
  constructor
  · rintro ⟨noSection, others⟩
    refine ⟨fun found opened => ?_, others.1, others.2.1, others.2.2.1, others.2.2.2.1,
      others.2.2.2.2.1, others.2.2.2.2.2⟩
    rw [opened] at noSection
    cases noSection
  · intro untagged
    refine ⟨?_, untagged.noInclusion, untagged.noSpecial, untagged.noReference, untagged.noLook,
      untagged.noRaw, untagged.noComment⟩
    cases attempt : section? parts cursor with
    | error error => rfl
    | ok found =>
        cases found with
        | none => rfl
        | some found => exact absurd attempt (untagged.noSection found)

instance (cursor : Cursor) : Decidable (Untagged cursor) :=
  decidable_of_iff _ (untagged_iff cursor)

instance (source : String) : Decidable (HoldsNoTag source) :=
  decidable_of_iff _ (forall_split_iff source.toList)

instance (source : String) : Decidable (MissesNoEndTag source) :=
  decidable_of_iff _ (forall_split_iff source.toList)

end Deciding

/-- The characters without every run of a line break and the gaps behind it; at the beginning gaps
may be skipped already. -/
def withoutBreaks (skipping : Bool) : List Char → List Char
  | [] => []
  | char :: rest =>
    if isLineBreak char || (skipping && isGap char) then withoutBreaks true rest
    else char :: withoutBreaks false rest

theorem isGap_of_isLineBreak {char : Char} (breaks : isLineBreak char = true) :
    isGap char = true := by
  rw [isGap, breaks, Bool.or_true]

theorem startsPart_lineBreak {char : Char} (breaks : isLineBreak char = true)
    (before rest : List Char) : StartsPart (before ++ (char :: rest).takeWhile isGap) := by
  have gap := isGap_of_isLineBreak breaks
  have gaps : ∀ other ∈ (rest.takeWhile isGap).reverse, isGap other = true := fun other member =>
    List.mem_takeWhile_imp (List.mem_reverse.mp member)
  right
  rw [List.takeWhile_cons_of_pos gap, List.reverse_append, List.reverse_cons, List.append_assoc,
    List.takeWhile_append_of_pos gaps]
  simp [gap, breaks]

/-- Skipping goes on behind the gaps. -/
theorem withoutBreaks_true (chars : List Char) :
    withoutBreaks true chars = withoutBreaks false (chars.dropWhile isGap) := by
  induction chars with
  | nil => rfl
  | cons char rest inductionHypothesis =>
      by_cases gap : isGap char = true
      · simp [withoutBreaks, gap, inductionHypothesis]
      · have noBreak : isLineBreak char = false := by
          simpa using fun breaks => gap (isGap_of_isLineBreak breaks)
        simp [withoutBreaks, gap, noBreak]

theorem withoutBreaks_lineBreak {char : Char} (breaks : isLineBreak char = true)
    (rest : List Char) :
    withoutBreaks false (char :: rest) = withoutBreaks false ((char :: rest).dropWhile isGap) := by
  simp [withoutBreaks, breaks, isGap_of_isLineBreak breaks, withoutBreaks_true]

/-- Characters within a line stay. -/
theorem withoutBreaks_line (chars : List Char) :
    withoutBreaks false chars =
      chars.takeWhile (!isLineBreak ·) ++
        withoutBreaks false (chars.dropWhile (!isLineBreak ·)) := by
  induction chars with
  | nil => rfl
  | cons char rest inductionHypothesis =>
      by_cases breaks : isLineBreak char = true
      · simp [breaks]
      · simp only [withoutBreaks, breaks, Bool.false_and, Bool.or_self, Bool.false_eq_true,
          if_false, Bool.not_false, List.takeWhile_cons_of_pos, List.dropWhile_cons_of_pos,
          List.cons_append, ← inductionHypothesis]

/-- Nodes that are texts, which together are some characters. -/
inductive Spells : List Char → List Node → Prop
  | nil : Spells [] []
  | cons (chars : List Char) (position : Position) {more : List Char} {nodes : List Node} :
    Spells more nodes →
      Spells (chars ++ more) (.text (String.ofList chars) position :: nodes)

/-- What tidying leaves of characters without tags. -/
def tidied : Whitespace → List Char → List Char
  | .preserve, chars => chars
  | .strip, chars => withoutBreaks false chars

/-- What is left of a source without tags: all of it, or what stands in no line break and not in the
gaps behind one. -/
def leftOf : Whitespace → String → String
  | .preserve, source => source
  | .strip, source => String.ofList (withoutBreaks false source.toList)

theorem leftOf_eq (whitespace : Whitespace) (source : String) :
    leftOf whitespace source = String.ofList (tidied whitespace source.toList) := by
  cases whitespace with
  | strip => rfl
  | preserve => exact String.ofList_toList.symm

section Parts

variable {before rest : List Char} {readParts : BodyRule}

/-- A section is read or not whatever reads its parts, once it is known not to open. -/
theorem section?_eq_none (readParts : BodyRule) {cursor : Cursor}
    (unopened : section? parts cursor = .ok none) :
    (section? readParts cursor) = .ok none := by
  unfold section? at unopened ⊢
  split at unopened
  next notOpened => rfl
  next opening afterOpening opened =>
    dsimp only at unopened ⊢
    cases closed : afterOpening.skipGaps.literal? ['}'] with
    | none => simpa only [closed] using unopened
    | some inside =>
        simp only [closed] at unopened
        split at unopened
        · cases unopened
        · split at unopened <;> cases unopened

theorem Untagged.part?_eq {cursor : Cursor} (untagged : Untagged cursor)
    (faultless : (section? parts cursor).isOk = true) :
    part? readParts cursor = .ok (text? cursor) := by
  have noSection : section? parts cursor = .ok none := by
    cases found : section? parts cursor with
    | error error =>
        rw [found] at faultless
        cases faultless
    | ok attempt =>
        cases attempt with
        | none => rfl
        | some pair => exact absurd found (untagged.noSection pair)
  have unopened := section?_eq_none readParts noSection
  simp only [part?, earlyPart?, latePart?, untagged.noRaw, untagged.noComment, unopened,
    untagged.noInclusion, untagged.noSpecial, untagged.noReference]

theorem Untagged.endsText_eq {char : Char} (untagged : Untagged (.behind before (char :: rest))) :
    endsText (.behind before (char :: rest)) = isLineBreak char := by
  simp only [endsText, untagged.noLook, untagged.noRaw, untagged.noComment, Option.isSome_none,
    Bool.or_self, Bool.false_or]
  rfl

/-- A run of text goes on to the end of the line. -/
theorem text?_line {char : Char} (noBreak : isLineBreak char = false)
    (untagged : ∀ taken more, char :: rest = taken ++ more →
      Untagged (.behind (before ++ taken) more)) :
    ∃ position,
      text? (.behind before (char :: rest)) =
        some (.text (String.ofList ((char :: rest).takeWhile (!isLineBreak ·))) position,
          .behind (before ++ (char :: rest).takeWhile (!isLineBreak ·))
            ((char :: rest).dropWhile (!isLineBreak ·))) := by
  have noReturn : '\r' ≠ char := by
    rintro rfl
    exact absurd noBreak (by decide)
  have noNewline : newline? (.behind before (char :: rest)) = none := by
    simp [newline?, Cursor.behind, Cursor.literal?, Cursor.char?, noReturn, noBreak]
  have run := Cursor.takeUntil_behind endsText isLineBreak before (char :: rest)
    fun taken other more split => (untagged taken _ split).endsText_eq
  refine ⟨(Cursor.behind before (char :: rest)).position, ?_⟩
  simp only [text?, noNewline, run, noBreak, Bool.not_false, List.takeWhile_cons_of_pos]

/-- A line break takes itself and the gaps behind it. -/
theorem text?_lineBreak (before rest : List Char) {char : Char}
    (breaks : isLineBreak char = true) :
    ∃ newline blanks position,
      text? (.behind before (char :: rest)) =
        some (.lineBreak (String.ofList newline) (String.ofList blanks) position,
          .behind (before ++ (char :: rest).takeWhile isGap) ((char :: rest).dropWhile isGap)) ∧
      newline ++ blanks = (char :: rest).takeWhile isGap := by
  obtain ⟨newline, more, split, gaps, read⟩ : ∃ newline more, char :: rest = newline ++ more ∧
      (∀ other ∈ newline, isGap other = true) ∧
      newline? (.behind before (char :: rest)) =
        some (String.ofList newline, .behind (before ++ newline) more) := by
    by_cases taken : ∃ more, char = '\r' ∧ rest = '\n' :: more
    · obtain ⟨more, rfl, rfl⟩ := taken
      refine ⟨['\r', '\n'], more, rfl, by simp [isGap, isLineBreak], ?_⟩
      rw [Cursor.behind, Cursor.behind, Place.advanceAll_append]
      rfl
    · refine ⟨[char], rest, rfl, by simpa using isGap_of_isLineBreak breaks, ?_⟩
      have alone : Cursor.literal? ['\r', '\n'] (.behind before (char :: rest)) = none := by
        unfold Cursor.behind
        by_cases isReturn : char = '\r'
        · cases rest with
          | nil => simp [Cursor.literal?, isReturn]
          | cons other more =>
              have different : '\n' ≠ other := by
                rintro rfl
                exact taken ⟨more, isReturn, rfl⟩
              simp [Cursor.literal?, isReturn, different]
        · simp [Cursor.literal?, Ne.symm isReturn]
      rw [newline?, alone, ← Cursor.behind_advance]
      simp only [Cursor.char?, Cursor.behind, breaks, if_true, Option.map_some]
      rfl
  refine ⟨newline, more.takeWhile isGap, (Cursor.behind before (char :: rest)).position, ?_, ?_⟩
  · simp only [text?, read, Cursor.takeWhile_behind]
    rw [split, List.takeWhile_append_of_pos gaps, List.dropWhile_append_of_pos gaps,
      List.append_assoc]
  · rw [split, List.takeWhile_append_of_pos gaps]

/-- A part and what is read behind it. -/
theorem partsWithin_of_part? {fuel : Nat} {cursor after last : Cursor} {node : Node}
    {nodes : List Node} (first : part? (partsWithin fuel) cursor = .ok (some (node, after)))
    (more : partsWithin fuel after = .ok (nodes, last)) :
    partsWithin (fuel + 1) cursor = .ok (node :: nodes, last) := by
  simp only [partsWithin, first, more]

theorem Spells.lineBreak (newline blanks : List Char) (position : Position) {more : List Char}
    {nodes : List Node} (spells : Spells more (Node.tidyParts .preserve nodes)) :
    Spells ((newline ++ blanks) ++ more) (Node.tidyParts .preserve
      (.lineBreak (String.ofList newline) (String.ofList blanks) position :: nodes)) := by
  have joined := Spells.cons (newline ++ blanks) position spells
  rwa [String.ofList_append] at joined

def ReadsText (fuel : Nat) (before rest : List Char) : Prop :=
  ∃ nodes last, partsWithin fuel (.behind before rest) = .ok (nodes, last) ∧ last.rest = [] ∧
    ∀ whitespace, Spells (tidied whitespace rest) (Node.tidyParts whitespace nodes)

variable {fuel : Nat} {char : Char}

theorem readsText_lineBreak (breaks : isLineBreak char = true)
    (later : ReadsText fuel (before ++ (char :: rest).takeWhile isGap)
      ((char :: rest).dropWhile isGap)) :
    ReadsText (fuel + 1) before (char :: rest) := by
  have noBrace : char ≠ '{' := by
    rintro rfl
    exact absurd breaks (by decide)
  obtain ⟨newline, blanks, position, read, whole⟩ :=
    text?_lineBreak before rest breaks
  obtain ⟨nodes, last, readMore, ends, spells⟩ := later
  refine ⟨_, last, partsWithin_of_part? ((part?_eq_text? noBrace).trans (congrArg _ read)) readMore,
    ends, ?_⟩
  rintro (_ | _)
  · have stripped := spells .strip
    rwa [tidied, ← withoutBreaks_lineBreak breaks] at stripped
  · have kept := (spells .preserve).lineBreak newline blanks position
    rwa [whole, tidied, List.takeWhile_append_dropWhile] at kept

theorem readsText_line (noBreak : isLineBreak char = false)
    (untagged : ∀ taken more, char :: rest = taken ++ more →
      Untagged (.behind (before ++ taken) more))
    (faultless : (section? parts (.behind before (char :: rest))).isOk = true)
    (later : ReadsText fuel (before ++ (char :: rest).takeWhile (!isLineBreak ·))
      ((char :: rest).dropWhile (!isLineBreak ·))) :
    ReadsText (fuel + 1) before (char :: rest) := by
  have here : Untagged (.behind before (char :: rest)) := by
    simpa using untagged [] _ rfl
  obtain ⟨position, read⟩ := text?_line noBreak untagged
  obtain ⟨nodes, last, readMore, ends, spells⟩ := later
  refine ⟨_, last,
    partsWithin_of_part? ((here.part?_eq faultless).trans (congrArg _ read)) readMore,
    ends, ?_⟩
  rintro (_ | _)
  · have stripped := (spells .strip).cons ((char :: rest).takeWhile (!isLineBreak ·)) position
    rwa [tidied, ← withoutBreaks_line] at stripped
  · have kept := (spells .preserve).cons ((char :: rest).takeWhile (!isLineBreak ·)) position
    rwa [tidied, List.takeWhile_append_dropWhile] at kept

/-- A line break takes the gaps with it, so that behind it a part starts; behind a run of text there
is a line break or the end. -/
theorem readsText_of_untagged {source : String} (holdsNoTag : HoldsNoTag source)
    (missesNoEndTag : MissesNoEndTag source) (fuel : Nat) (before rest : List Char)
    (enough : rest.length < fuel) (split : source.toList = before ++ rest)
    (starts : StartsPart before ∨ ∀ char ∈ rest.head?, isLineBreak char = true) :
    ReadsText fuel before rest := by
  induction fuel generalizing before rest with
  | zero => omega
  | succ fuel inductionHypothesis =>
      cases rest with
      | nil =>
          refine ⟨[], .behind before [], ?_, rfl, fun whitespace => ?_⟩
          · rw [partsWithin, (holdsNoTag before [] split).part?_eq rfl]
            rfl
          · cases whitespace <;> exact .nil
      | cons char rest =>
          have bound : rest.length < fuel := by simpa using enough
          cases breaks : isLineBreak char with
          | true =>
              have gap := isGap_of_isLineBreak breaks
              have shorter := List.length_dropWhile_le isGap rest
              refine readsText_lineBreak breaks (inductionHypothesis _ _ ?_ ?_ (.inl ?_))
              · rw [List.dropWhile_cons_of_pos gap]
                omega
              · rw [List.append_assoc, List.takeWhile_append_dropWhile, split]
              · exact startsPart_lineBreak breaks before rest
          | false =>
              have starting : StartsPart before := by
                refine starts.resolve_right fun breaksHere => ?_
                rw [breaksHere char rfl] at breaks
                cases breaks
              have shorter := List.length_dropWhile_le (!isLineBreak ·) rest
              refine readsText_line breaks (fun taken more splitMore => ?_)
                (missesNoEndTag before _ split starting) (inductionHypothesis _ _ ?_ ?_ (.inr ?_))
              · exact holdsNoTag _ more (by rw [split, splitMore, List.append_assoc])
              · simp only [List.dropWhile_cons, breaks, Bool.not_false, if_true]
                omega
              · rw [List.append_assoc, List.takeWhile_append_dropWhile, split]
              · intro other atHead
                have stopped := List.head?_dropWhile_not (!isLineBreak ·) (char :: rest)
                rw [Option.mem_def.mp atHead] at stopped
                simpa using stopped

/-- A source without tags parses, and what tidying leaves of its parts spells what is left of it. -/
theorem parse_untagged {source : String} (holdsNoTag : HoldsNoTag source)
    (missesNoEndTag : MissesNoEndTag source) :
    ∃ nodes position, Node.parse source = .ok (.body nodes position) ∧
      ∀ whitespace, Spells (tidied whitespace source.toList)
        (Node.tidyParts whitespace nodes) := by
  obtain ⟨nodes, last, read, ends, spells⟩ := readsText_of_untagged holdsNoTag missesNoEndTag
    (source.toList.length + 1) [] source.toList (Nat.lt_succ_self _) rfl (.inl (.inl rfl))
  exact ⟨nodes, _, (parse_eq_ok_iff_parts _ _).2 ⟨nodes, last, read, ends, rfl⟩, spells⟩

end Parts

end Reading

end BraceTemplate
