import BraceTemplate.Proofs.Reading.Cases
import BraceTemplate.Proofs.Reading.Documents
import Mathlib.Data.List.TakeWhile

/-!
# Which tags look like tags

References and specials always look like tags to the lookahead that ends a run of text. A section or
an inclusion does where no line break comes before its first closing brace.
-/

namespace BraceTemplate

/-- Whether a part is a tag whose parts gaps may stand between: a section or an inclusion. -/
def Node.mayHoldGaps : Node → Bool
  | .sectionTag .. => true
  | .inclusion .. => true
  | _ => false

namespace Reading

open Source Grammar

def gapChars : List Char :=
  ['\t', '\x0b', '\x0c', ' ', '\u00a0', '\ufeff', '\n', '\r', '\u2028', '\u2029']

/-- A gap is none of some characters where none of these is a gap. -/
theorem isGap_eq_false {accepts : Char → Bool}
    (noGap : gapChars.all (fun gap => !accepts gap) = true) {char : Char}
    (accepted : accepts char = true) : isGap char = false := by
  cases gap : isGap char with
  | false => rfl
  | true =>
      have listed : char ∈ gapChars := by
        simpa [gapChars, isGap, isBlank, isLineBreak, or_assoc] using gap
      have rejected := List.all_eq_true.mp noGap char listed
      rw [accepted] at rejected
      cases rejected

theorem isGap_eq_false_of_isKeyStart {char : Char} (starts : isKeyStart char = true) :
    isGap char = false :=
  isGap_eq_false (by decide) starts

theorem isKeyChar_of_isKeyStart {char : Char} (starts : isKeyStart char = true) :
    isKeyChar char = true := by
  simp only [isKeyStart, isKeyChar, Char.isAlphanum, Bool.or_eq_true] at starts ⊢
  rcases starts with (alpha | underscore) | dollar
  · exact .inl (.inl (.inl (.inl alpha)))
  · exact .inl (.inl (.inr underscore))
  · exact .inl (.inr dollar)

theorem isTagContent_of_isKeyChar {char : Char} (accepted : isKeyChar char = true) :
    isTagContent char = true := by
  have noGap := isGap_eq_false (by decide) accepted
  have noBrace : char ≠ '}' := by
    rintro rfl
    exact absurd accepted (by decide)
  simp only [isGap, Bool.or_eq_false_iff] at noGap
  simp [isTagContent, noBrace, noGap.2]

theorem closesTag_of_content {chars : List Char} {first : Char} {more left : List Char}
    (starts : chars.dropWhile isGap = first :: more) (content : isTagContent first = true)
    (closes : more.dropWhile isTagContent = '}' :: left) : closesTag chars = true := by
  rw [closesTag_eq, starts, List.takeWhile_cons_of_pos content, List.dropWhile_cons_of_pos content,
    closes]
  rfl

/-- What stands in a tag ends at the closing brace where no line break comes before it. -/
theorem dropWhile_isTagContent {chars : List Char} (closes : '}' ∈ chars)
    (sameLine : ∀ char ∈ chars.takeWhile (· != '}'), isLineBreak char = false) :
    ∃ left, chars.dropWhile isTagContent = '}' :: left := by
  induction chars with
  | nil => cases closes
  | cons char rest inductionHypothesis =>
      by_cases brace : char = '}'
      · subst brace
        exact ⟨rest, rfl⟩
      · rw [List.takeWhile_cons_of_pos (by simpa using brace)] at sameLine
        have charLine := sameLine char List.mem_cons_self
        rw [List.dropWhile_cons_of_pos (by simp [isTagContent, brace, charLine])]
        exact inductionHypothesis ((List.mem_cons.1 closes).resolve_left (Ne.symm brace))
          fun other member => sameLine other (.tail _ member)

theorem rest_of_literal? {chars : List Char} {cursor after : Cursor}
    (found : cursor.literal? chars = some after) : cursor.rest = chars ++ after.rest := by
  induction chars generalizing cursor with
  | nil =>
      cases found
      rfl
  | cons wanted more inductionHypothesis =>
      obtain ⟨place, rest⟩ := cursor
      cases rest with
      | nil => cases found
      | cons char rest =>
          simp only [Cursor.literal?] at found
          split at found
          next same =>
            have later := inductionHypothesis found
            dsimp only at later
            rw [same, later, List.cons_append]
          next => cases found

theorem rest_of_key? {cursor after : Cursor} {name : String}
    (found : key? cursor = some (name, after)) :
    ∃ first more, cursor.rest = first :: more ∧ isKeyStart first = true ∧
      after.rest = more.dropWhile isKeyChar := by
  obtain ⟨place, rest⟩ := cursor
  cases rest with
  | nil => cases found
  | cons first more =>
      cases starts : isKeyStart first with
      | false => simp [key?, Cursor.char?, starts] at found
      | true =>
          simp only [key?, Cursor.char?, starts, if_true, Option.some.injEq, Prod.mk.injEq] at found
          refine ⟨first, more, rfl, starts, ?_⟩
          rw [← found.2, (rest_takeWhile isKeyChar _ more).2]

section Lookahead

variable {cursor after : Cursor} {node : Node}

theorem looksLikeTag_of_reference? (found : (reference? cursor).isSome = true) :
    looksLikeTag cursor = true := by
  simp only [looksLikeTag, found, Bool.or_true]

theorem looksLikeTag_of_special? (found : special? cursor = some (node, after)) :
    looksLikeTag cursor = true := by
  simp only [special?, Option.bind_eq_bind, Option.bind_eq_some_iff] at found
  obtain ⟨inside, opened, ⟨name, afterName⟩, named, last, closed, -⟩ := found
  obtain ⟨first, more, insideRest, starts, nameRest⟩ := rest_of_key? named
  rw [rest_of_literal? closed] at nameRest
  have firstGap := isGap_eq_false_of_isKeyStart starts
  have content : isTagContent first = true :=
    isTagContent_of_isKeyChar (isKeyChar_of_isKeyStart starts)
  have closes : more.dropWhile isTagContent = '}' :: last.rest := by
    rw [← List.takeWhile_append_dropWhile (p := isKeyChar) (l := more), ← nameRest,
      List.dropWhile_append_of_pos fun char member =>
        isTagContent_of_isKeyChar (List.mem_takeWhile_imp member)]
    rfl
  have shape : hasTagShape cursor.rest = true := by
    rw [rest_of_literal? opened, insideRest]
    have spaced : (first :: more).dropWhile isGap = first :: more := by
      rw [List.dropWhile_cons_of_neg (by simp [firstGap])]
    simp [hasTagShape, closesTag_of_content spaced content closes, isTagMark, isGap, isBlank,
      isLineBreak]
  simp only [looksLikeTag, shape, Bool.true_or]

/-- Behind the mark of a tag something comes that is neither a gap nor a closing brace, and later
the closing brace. -/
def TagBody (chars : List Char) : Prop :=
  ∃ first more, chars.dropWhile isGap = first :: more ∧ first ≠ '}' ∧ '}' ∈ more

def TagStart (chars : List Char) : Prop :=
  ∃ mark inside, chars = '{' :: mark :: inside ∧ isTagMark mark = true ∧ TagBody inside

/-- Behind a mark a name is read that does not start with a closing brace, and a closing brace comes
later. -/
theorem tagBody_of_reads {Result : Type} {expression : Expression Rule Result}
    {reader : Cursor → Option (Result × Cursor)} {mark middle atEnd : Cursor} {result : Result}
    (noBrace : ∀ place rest, reader ⟨place, '}' :: rest⟩ = none)
    (noEnd : ∀ place, reader ⟨place, []⟩ = none)
    (found : reader mark.skipGaps = some (result, middle))
    (reads : Reads expression mark.skipGaps (reader mark.skipGaps))
    (later : atEnd.rest <:+ middle.rest) (closes : '}' ∈ atEnd.rest) : TagBody mark.rest := by
  have member : '}' ∈ mark.skipGaps.rest :=
    (later.trans (reads.congr found).suffix).subset closes
  have spaced := rest_skipGaps mark
  generalize mark.skipGaps = start at found member spaced
  obtain ⟨place, rest⟩ := start
  cases rest with
  | nil =>
      rw [noEnd] at found
      cases found
  | cons first more =>
      have notBrace : first ≠ '}' := by
        rintro rfl
        rw [noBrace] at found
        cases found
      exact ⟨first, more, spaced.symm, notBrace,
        (List.mem_cons.1 member).resolve_left (Ne.symm notBrace)⟩

theorem skipGaps_suffix (cursor : Cursor) : cursor.skipGaps.rest <:+ cursor.rest := by
  rw [rest_skipGaps]
  exact List.dropWhile_suffix _

theorem rest_of_classify? {Kind : Type} {kindOf : Char → Option Kind} {kind : Kind}
    (found : cursor.classify? kindOf = some (kind, after)) :
    ∃ char, cursor.rest = char :: after.rest ∧ kindOf char = some kind := by
  obtain ⟨place, rest⟩ := cursor
  cases rest with
  | nil => cases found
  | cons char rest =>
      simp only [Cursor.classify?, Option.map_eq_some_iff] at found
      obtain ⟨_, classified, equality⟩ := found
      cases equality
      exact ⟨char, rfl, classified⟩

theorem isTagMark_of_ofMark? {mark : Char} {kind : SectionKind}
    (found : SectionKind.ofMark? mark = some kind) : isTagMark mark = true := by
  unfold SectionKind.ofMark? at found
  split_ifs at found <;> (subst_vars; rfl)

theorem isTagMark_of_inclusionKind? {mark : Char} {kind : InclusionKind}
    (found : inclusionKind? mark = some kind) : isTagMark mark = true := by
  unfold inclusionKind? at found
  split_ifs at found <;> (subst_vars; rfl)

theorem mem_of_literal? {closing : List Char}
    (closed : cursor.skipGaps.literal? closing = some after) (brace : '}' ∈ closing) :
    '}' ∈ cursor.rest := by
  apply (skipGaps_suffix cursor).subset
  rw [rest_of_literal? closed]
  exact List.mem_append_left _ brace

theorem opening?_tagStart {opening : Opening} {afterOpening last : Cursor} {closing : List Char}
    (opened : opening? cursor = some (opening, afterOpening))
    (closed : afterOpening.skipGaps.literal? closing = some last) (brace : '}' ∈ closing) :
    TagStart cursor.rest := by
  simp only [opening?, Option.bind_eq_bind, Option.bind_eq_some_iff] at opened
  obtain ⟨inside, opens, ⟨kind, afterMark⟩, marked, ⟨identifier, afterName⟩, named,
    equality⟩ := opened
  cases equality
  obtain ⟨mark, insideRest, classified⟩ := rest_of_classify? marked
  have rest : cursor.rest = '{' :: mark :: afterMark.rest := by
    rw [rest_of_literal? opens, insideRest]
    rfl
  have later := ((reads_params (context afterName).2).suffix).trans
    ((reads_context afterName).suffix)
  exact ⟨mark, afterMark.rest, rest, isTagMark_of_ofMark? classified,
    tagBody_of_reads (fun _ _ => rfl) (fun _ => rfl) named (reads_identifier _) later
      (mem_of_literal? closed brace)⟩

/-- A section starts with an opening tag, whatever its bodies are. -/
theorem section?_tagStart {readParts : BodyRule}
    (found : section? readParts cursor = .ok (some (node, after))) :
    node.mayHoldGaps = true ∧ TagStart cursor.rest := by
  obtain ⟨opening, afterOpening, bodies, opened, rfl, ofBodies⟩ := section?_cases found
  refine ⟨rfl, ?_⟩
  rcases ofBodies with ⟨-, closed⟩ | ⟨inside, atEnd, closed, -⟩
  · exact opening?_tagStart opened closed (by decide)
  · exact opening?_tagStart opened closed (by decide)

theorem inclusion?_tagStart (included : inclusion? cursor = some (node, after)) :
    node.mayHoldGaps = true ∧ TagStart cursor.rest := by
  simp only [inclusion?, Option.bind_eq_bind, Option.bind_eq_some_iff] at included
  obtain ⟨inside, opens, ⟨kind, afterMark⟩, marked, ⟨target, afterTarget⟩, named, last, closed,
    equality⟩ := included
  cases equality
  obtain ⟨mark, insideRest, classified⟩ := rest_of_classify? marked
  have rest : cursor.rest = '{' :: mark :: afterMark.rest := by
    rw [rest_of_literal? opens, insideRest]
    rfl
  have later := ((reads_params (context afterTarget).2).suffix).trans
    ((reads_context afterTarget).suffix)
  exact ⟨rfl, mark, afterMark.rest, rest, isTagMark_of_inclusionKind? classified,
    tagBody_of_reads (fun _ _ => rfl) (fun _ => rfl) named (reads_target _) later
      (mem_of_literal? closed (by decide))⟩

/-- A tag without a line break before the first closing brace looks like a tag. -/
theorem hasTagShape_of_sameLine {chars : List Char} (starts : TagStart chars)
    (sameLine : ∀ char ∈ chars.takeWhile (· != '}'), isLineBreak char = false) :
    hasTagShape chars = true := by
  obtain ⟨mark, inside, rfl, marked, first, more, spaced, notBrace, closes⟩ := starts
  have noGap : isGap mark = false := isGap_eq_false (by decide) marked
  have markNotBrace : mark ≠ '}' := by
    rintro rfl
    exact absurd marked (by decide)
  have gaps : ∀ char ∈ inside.takeWhile isGap, char != '}' := by
    intro char member
    rw [bne_iff_ne]
    rintro rfl
    exact absurd (List.mem_takeWhile_imp member) (by decide)
  have split : inside = inside.takeWhile isGap ++ first :: more := by
    rw [← spaced, List.takeWhile_append_dropWhile]
  have firstGap : isGap first = false := by
    have notDropped := List.dropWhile_get_zero_not isGap inside (by simp [spaced])
    simpa [spaced] using notDropped
  rw [split, List.takeWhile_cons_of_pos (by decide), List.takeWhile_cons_of_pos (by simpa using
    markNotBrace), List.takeWhile_append_of_pos gaps, List.takeWhile_cons_of_pos (by simpa using
    notBrace)] at sameLine
  have content : isTagContent first = true := by
    simp only [isGap, Bool.or_eq_false_iff] at firstGap
    simp [isTagContent, notBrace, firstGap.2]
  obtain ⟨left, ends⟩ := dropWhile_isTagContent closes fun char member =>
    sameLine char (by simp [member])
  simp [hasTagShape, noGap, marked, closesTag_of_content spaced content ends]

theorem looksLikeTag_of_sameLine (starts : TagStart cursor.rest)
    (sameLine : ∀ char ∈ cursor.rest.takeWhile (· != '}'), isLineBreak char = false) :
    looksLikeTag cursor = true := by
  simp only [looksLikeTag, hasTagShape_of_sameLine starts sameLine, Bool.true_or]

end Lookahead

end Reading

end BraceTemplate
