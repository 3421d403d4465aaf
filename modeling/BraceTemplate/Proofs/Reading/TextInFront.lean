import BraceTemplate.Proofs.Reading.Placement
import BraceTemplate.Proofs.Reading.TagShape

/-!
# Text in front of a template

A run of text stops in front of what looks like a tag. Text that is put in front of a template
leaves its parts alone exactly where the first of them is no section and no inclusion, or is one
that looks like a tag. A tag with a line break between its parts need not look like one.
-/

namespace BraceTemplate

/-- The parts with text put in front; a text in front of a text becomes one text. -/
def Node.putTextFront (content : String) : List Node → List Node
  | .text more position :: others => .text (content ++ more) position :: others
  | parts => .text content default :: parts

namespace Reading

open Source Grammar

/-- Whether a character neither opens a tag nor ends a line. -/
def isPlainChar (char : Char) : Bool :=
  char != '{' && !isLineBreak char

section NoTag

variable {readParts : BodyRule} {place : Place} {char : Char} {rest : List Char}

theorem literal?_brace_eq_none (noBrace : char ≠ '{') (more : List Char) :
    Cursor.literal? ('{' :: more) ⟨place, char :: rest⟩ = none :=
  if_neg noBrace.symm

theorem delimited?_eq_none (noBrace : char ≠ '{') (more closing : List Char) :
    delimited? ('{' :: more) closing ⟨place, char :: rest⟩ = none := by
  simp only [delimited?, literal?_brace_eq_none noBrace, Option.bind_eq_bind, Option.bind_none]

theorem reference?_eq_none (noBrace : char ≠ '{') : reference? ⟨place, char :: rest⟩ = none := by
  simp only [reference?, literal?_brace_eq_none noBrace, Option.bind_eq_bind, Option.bind_none]

theorem looksLikeTag_eq_false (noBrace : char ≠ '{') :
    looksLikeTag ⟨place, char :: rest⟩ = false := by
  have noShape : hasTagShape (char :: rest) = false := by
    unfold hasTagShape
    split
    next inside opens => exact absurd (List.cons.inj opens).1 noBrace
    next => rfl
  simp only [looksLikeTag, noShape, reference?_eq_none noBrace, Option.isSome_none, Bool.or_self]

theorem endsText_eq_false (plain : isPlainChar char = true) :
    endsText ⟨place, char :: rest⟩ = false := by
  simp only [isPlainChar, Bool.and_eq_true, bne_iff_ne, Bool.not_eq_true'] at plain
  obtain ⟨noBrace, sameLine⟩ := plain
  simp only [endsText, looksLikeTag_eq_false noBrace, raw?, comment?, delimited?_eq_none noBrace,
    Option.map_none, Option.isSome_none, Cursor.startsWith, sameLine, Bool.or_self]

/-- Where no brace opens, the only part there can be is text. -/
theorem part?_eq_text? (noBrace : char ≠ '{') :
    part? readParts ⟨place, char :: rest⟩ = .ok (text? ⟨place, char :: rest⟩) := by
  simp only [part?, earlyPart?, raw?, comment?, delimited?_eq_none noBrace, opening?, section?,
    latePart?, inclusion?, special?, literal?_brace_eq_none noBrace, reference?_eq_none noBrace,
    Option.map_none, Option.bind_eq_bind, Option.bind_none]

end NoTag

/-- A run of text passes plain characters and goes on behind them. -/
theorem takeUntil_append {chars : List Char} (plain : ∀ char ∈ chars, isPlainChar char = true)
    (place : Place) (rest : List Char) :
    (Cursor.mk place (chars ++ rest)).takeUntil endsText =
      (chars ++ ((Cursor.mk (place.advanceAll chars) rest).takeUntil endsText).1,
        ((Cursor.mk (place.advanceAll chars) rest).takeUntil endsText).2) := by
  induction chars generalizing place with
  | nil => rfl
  | cons char more inductionHypothesis =>
      have goesOn : endsText ⟨place, char :: (more ++ rest)⟩ = false :=
        endsText_eq_false (plain char List.mem_cons_self)
      have later := inductionHypothesis (fun other member => plain other (.tail _ member))
        (place.advance char)
      simp only [Cursor.takeUntil] at later ⊢
      simp only [List.cons_append, Cursor.takeUntilFrom, goesOn, later, Bool.false_eq_true,
        if_false]
      rfl

/-- Plain characters in front of a source are read with the run of text behind them. -/
theorem part?_append {readParts : BodyRule} {chars : List Char} (nonempty : chars ≠ [])
    (plain : ∀ char ∈ chars, isPlainChar char = true) (place : Place) (rest : List Char) :
    part? readParts ⟨place, chars ++ rest⟩ =
      .ok (some (.text (String.ofList
          (chars ++ ((Cursor.mk (place.advanceAll chars) rest).takeUntil endsText).1))
          place.position,
        ((Cursor.mk (place.advanceAll chars) rest).takeUntil endsText).2)) := by
  cases chars with
  | nil => exact absurd rfl nonempty
  | cons char more =>
      have charPlain := plain char List.mem_cons_self
      simp only [isPlainChar, Bool.and_eq_true, bne_iff_ne, Bool.not_eq_true'] at charPlain
      obtain ⟨noBrace, sameLine⟩ := charPlain
      have noReturn : '\r' ≠ char := by
        rintro rfl
        exact absurd sameLine (by decide)
      have noNewline : newline? ⟨place, char :: (more ++ rest)⟩ = none := by
        simp [newline?, Cursor.literal?, Cursor.char?, noReturn, sameLine]
      have run := takeUntil_append plain place rest
      rw [List.cons_append] at run ⊢
      rw [part?_eq_text? noBrace]
      simp only [text?, noNewline, run]
      rfl

/-- How a part at a cursor and the lookahead for the end of a run of text go together. -/
inductive Meets (cursor after : Cursor) : Node → Prop
  | gapped {node : Node} :
      node.mayHoldGaps = true → TagStart cursor.rest →
      endsText cursor = looksLikeTag cursor → Meets cursor after node
  | text (content : List Char) (position : Position) :
      endsText cursor = false → cursor.takeUntil endsText = (content, after) →
      Meets cursor after (.text (String.ofList content) position)
  | stopping {node : Node} :
      node.mayHoldGaps = false → (∀ content position, node ≠ .text content position) →
      endsText cursor = true → Meets cursor after node

section Meeting

variable {cursor after : Cursor} {node : Node}

theorem meets_raw (found : raw? cursor = some (node, after)) : Meets cursor after node := by
  have ends : endsText cursor = true := by
    simp only [endsText, found, Option.isSome_some, Bool.or_true, Bool.true_or]
  simp only [raw?, Option.map_eq_some_iff] at found
  obtain ⟨_, _, equality⟩ := found
  cases equality
  exact .stopping rfl (by simp) ends

theorem meets_comment (found : comment? cursor = some (node, after)) :
    Meets cursor after node := by
  have ends : endsText cursor = true := by
    simp only [endsText, found, Option.isSome_some, Bool.or_true, Bool.true_or]
  simp only [comment?, Option.map_eq_some_iff] at found
  obtain ⟨_, _, equality⟩ := found
  cases equality
  exact .stopping rfl (by simp) ends

theorem meets_special (found : special? cursor = some (node, after)) :
    Meets cursor after node := by
  have ends : endsText cursor = true := by
    simp only [endsText, looksLikeTag_of_special? found, Bool.true_or]
  simp only [special?, Option.bind_eq_bind, Option.bind_eq_some_iff] at found
  obtain ⟨inside, -, ⟨name, afterName⟩, -, last, -, equality⟩ := found
  cases equality
  exact .stopping rfl (by simp) ends

theorem meets_reference (found : reference? cursor = some (node, after)) :
    Meets cursor after node := by
  have ends : endsText cursor = true := by
    simp only [endsText, looksLikeTag_of_reference? (by rw [found]; rfl), Bool.true_or]
  simp only [reference?, Option.bind_eq_bind, Option.bind_eq_some_iff] at found
  obtain ⟨inside, -, ⟨name, afterName⟩, -, last, -, equality⟩ := found
  cases equality
  exact .stopping rfl (by simp) ends

theorem startsWith_of_newline? {newline : String}
    (found : newline? cursor = some (newline, after)) :
    cursor.startsWith isLineBreak = true := by
  rw [← isSome_lineEnd?]
  rw [newline?_eq, Option.map_eq_some_iff] at found
  obtain ⟨_, broken, -⟩ := found
  rw [broken]
  rfl

theorem takeUntil_of_stops {stops : Cursor → Bool} (stopped : stops cursor = true) :
    cursor.takeUntil stops = ([], cursor) := by
  obtain ⟨place, rest⟩ := cursor
  cases rest with
  | nil => rfl
  | cons char rest =>
      simp only [Cursor.takeUntil, Cursor.takeUntilFrom, stopped, if_true]

theorem takeUntil_of_goesOn {stops : Cursor → Bool} {place : Place} {char : Char}
    {rest : List Char} (goesOn : stops ⟨place, char :: rest⟩ = false) :
    ∃ taken after, (Cursor.mk place (char :: rest)).takeUntil stops = (char :: taken, after) := by
  cases run : Cursor.takeUntilFrom stops (place.advance char) rest with
  | mk taken after =>
      refine ⟨taken, after, ?_⟩
      simp only [Cursor.takeUntil, Cursor.takeUntilFrom, goesOn, run, Bool.false_eq_true, if_false]

theorem meets_text (found : text? cursor = some (node, after)) : Meets cursor after node := by
  unfold text? at found
  cases broken : newline? cursor with
  | some pair =>
      have ends : endsText cursor = true := by
        have breaks := startsWith_of_newline? broken
        simp only [endsText, breaks, Bool.or_true]
      rw [broken] at found
      cases found
      exact .stopping rfl (by simp) ends
  | none =>
      rw [broken] at found
      cases run : cursor.takeUntil endsText with
      | mk content last =>
          rw [run] at found
          cases content with
          | nil => cases found
          | cons char more =>
              cases found
              have goesOn : endsText cursor = false := by
                cases ends : endsText cursor with
                | false => rfl
                | true =>
                    rw [takeUntil_of_stops ends] at run
                    cases run
              exact .text (char :: more) cursor.position goesOn run

/-- Where neither raw text nor a comment comes, a run of text stops in front of an opening tag only
if it looks like one. -/
theorem meets_tag (noEarly : earlyPart? cursor = none) (gapped : node.mayHoldGaps = true)
    (starts : TagStart cursor.rest) : Meets cursor after node := by
  apply Meets.gapped gapped starts
  have sameLine : cursor.startsWith isLineBreak = false := by
    obtain ⟨mark, inside, rest, -⟩ := starts
    unfold Cursor.startsWith
    rw [rest]
    rfl
  have noRaw : raw? cursor = none := by
    cases found : raw? cursor with
    | none => rfl
    | some pair => simp [earlyPart?, found] at noEarly
  have noComment : comment? cursor = none := by
    simpa [earlyPart?, noRaw] using noEarly
  simp only [endsText, noRaw, noComment, sameLine, Option.isSome_none, Bool.or_false]

theorem meets_latePart (noEarly : earlyPart? cursor = none)
    (found : latePart? cursor = some (node, after)) : Meets cursor after node := by
  rcases latePart?_cases found with included | special | reference | text
  · obtain ⟨gapped, starts⟩ := inclusion?_tagStart included
    exact meets_tag noEarly gapped starts
  · exact meets_special special
  · exact meets_reference reference
  · exact meets_text text

theorem meets_part {readParts : BodyRule}
    (found : part? readParts cursor = .ok (some (node, after))) : Meets cursor after node := by
  rcases part?_cases found with early | ⟨noEarly, enclosed | late⟩
  · rcases earlyPart?_cases early with raw | comment
    · exact meets_raw raw
    · exact meets_comment comment
  · obtain ⟨gapped, starts⟩ := section?_tagStart enclosed
    exact meets_tag noEarly gapped starts
  · exact meets_latePart noEarly late

end Meeting

theorem parse_eq_ok_iff_parts (source : String) (tree : Node) :
    Node.parse source = .ok tree ↔
      ∃ nodes last, parts (Cursor.ofString source) = .ok (nodes, last) ∧ last.rest = [] ∧
        tree = .body nodes Place.start.position := by
  rw [parse_eq_ok_iff]
  unfold bodyAt
  cases parts (Cursor.ofString source) with
  | error error => simp [Except.map]
  | ok pair =>
      obtain ⟨nodes, last⟩ := pair
      simp only [Except.map, Except.ok.injEq, Prod.mk.injEq]
      constructor
      · rintro ⟨_, ⟨rfl, rfl⟩, ends⟩
        exact ⟨nodes, last, ⟨rfl, rfl⟩, ends, rfl⟩
      · rintro ⟨_, _, ⟨rfl, rfl⟩, ends, rfl⟩
        exact ⟨last, ⟨rfl, rfl⟩, ends⟩

/-- The cursor at a source that text stands in front of. -/
def behindText (text source : String) : Cursor :=
  ⟨Place.start.advanceAll text.toList, source.toList⟩

section Behind

variable {text source : String} {tree : Node} {parts : List Node} {position : Position}

/-- Behind text a source is read from where the run of text ends. -/
theorem parse_append (nonempty : text ≠ "") (plain : ∀ char ∈ text.toList, isPlainChar char = true)
    {taken : List Char} {after : Cursor}
    (run : (behindText text source).takeUntil endsText = (taken, after)) :
    Node.parse (text ++ source) = .ok tree ↔
      ∃ nodes last, partsWithin (text.toList.length + source.toList.length) after =
          .ok (nodes, last) ∧ last.rest = [] ∧
        tree = .body (.text (String.ofList (text.toList ++ taken)) Place.start.position :: nodes)
          Place.start.position := by
  have someText : text.toList ≠ [] := by simpa using nonempty
  have first : ∀ readParts : BodyRule,
      part? readParts ⟨Place.start, text.toList ++ source.toList⟩ =
        .ok (some (.text (String.ofList (text.toList ++ taken)) Place.start.position, after)) := by
    intro readParts
    rw [part?_append someText plain]
    rw [behindText] at run
    rw [run]
  rw [parse_eq_ok_iff_parts]
  simp only [Reading.parts, Cursor.ofString, String.toList_append, List.length_append, partsWithin,
    first]
  cases partsWithin (text.toList.length + source.toList.length) after with
  | error error => simp
  | ok pair =>
      obtain ⟨nodes, last⟩ := pair
      simp

/-- Where the run of text ends with the text in front, the parts are left alone. -/
theorem parse_append_of_stops (nonempty : text ≠ "")
    (plain : ∀ char ∈ text.toList, isPlainChar char = true)
    (parsed : Node.parse source = .ok (.body parts position))
    (stops : (behindText text source).takeUntil endsText = ([], behindText text source)) :
    ∃ tree, Node.parse (text ++ source) = .ok tree ∧
      tree.Alike (.body (.text text default :: parts) position) := by
  obtain ⟨nodes, last, read, ends, equality⟩ := (parse_eq_ok_iff_parts _ _).1 parsed
  cases equality
  have positive : 0 < text.toList.length := by
    rw [List.length_pos_iff]
    simpa using nonempty
  have behind : (Cursor.ofString source).Alike (behindText text source) := rfl
  have enough : (behindText text source).rest.length <
      text.toList.length + source.toList.length := by
    dsimp only [behindText]
    omega
  obtain ⟨others, otherLast, readBehind, sameParts, lastAlike⟩ :=
    parts_alike (Nat.lt_succ_self _) enough behind read
  refine ⟨_, (parse_append nonempty plain stops).2 ⟨others, otherLast, readBehind, ?_, rfl⟩, ?_⟩
  · rw [← lastAlike, ends]
  · have sameText : (Node.text (String.ofList (text.toList ++ [])) Place.start.position).Alike
        (.text text default) := by
      simp [Node.Alike, Node.bare]
    exact .body (.cons sameText (sameParts.flip.imp fun _ _ same => same.symm)) _ _

/-- The first part of a source, and what is read behind it. -/
theorem firstPart_of_parse {first : Node} {rest : List Node}
    (parsed : Node.parse source = .ok (.body (first :: rest) position)) :
    ∃ after last, part? (partsWithin source.toList.length) (Cursor.ofString source) =
        .ok (some (first, after)) ∧
      partsWithin source.toList.length after = .ok (rest, last) ∧ last.rest = [] ∧
      after.rest.length < source.toList.length := by
  obtain ⟨nodes, last, read, ends, equality⟩ := (parse_eq_ok_iff_parts _ _).1 parsed
  cases equality
  have unfolded : partsWithin (source.toList.length + 1) (Cursor.ofString source) =
      .ok (first :: rest, last) := read
  have inside : PartsInside (partsWithin source.toList.length) (Cursor.ofString source) :=
    fun later laterLt => derives_parts _ later laterLt
  have derived := derives_part inside
  unfold partsWithin at unfolded
  cases found : part? (partsWithin source.toList.length) (Cursor.ofString source) with
  | error error =>
      rw [found] at unfolded
      cases unfolded
  | ok attempt =>
      rw [found] at unfolded derived
      cases attempt with
      | none => cases unfolded
      | some pair =>
          obtain ⟨node, after⟩ := pair
          dsimp only at unfolded
          cases more : partsWithin source.toList.length after with
          | error error =>
              rw [more] at unfolded
              cases unfolded
          | ok morePair =>
              rw [more] at unfolded
              cases unfolded
              have shorter : after.rest.length < (Cursor.ofString source).rest.length :=
                Reads.shorter derived rfl
              exact ⟨after, _, rfl, more, ends, shorter⟩

/-- Only the empty source has no parts. -/
theorem toList_of_parse_nil (parsed : Node.parse source = .ok (.body [] position)) :
    source.toList = [] := by
  obtain ⟨nodes, last, read, ends, equality⟩ := (parse_eq_ok_iff_parts _ _).1 parsed
  cases equality
  have unfolded : partsWithin (source.toList.length + 1) (Cursor.ofString source) =
      .ok ([], last) := read
  unfold partsWithin at unfolded
  split at unfolded
  next => cases unfolded
  next =>
    cases unfolded
    exact ends
  next =>
    split at unfolded
    next => cases unfolded
    next => cases unfolded

/-- A text at the front of a source becomes one text with the text in front. -/
theorem parse_append_of_text (nonempty : text ≠ "")
    (plain : ∀ char ∈ text.toList, isPlainChar char = true) {content : List Char}
    {place : Position} {rest : List Node} {after last : Cursor}
    (run : (Cursor.ofString source).takeUntil endsText = (content, after))
    (read : partsWithin source.toList.length after = .ok (rest, last)) (ends : last.rest = [])
    (shorter : after.rest.length < source.toList.length) :
    ∃ tree, Node.parse (text ++ source) = .ok tree ∧
      tree.Alike (.body (.text (text ++ String.ofList content) place :: rest) position) := by
  have behind : (behindText text source).Alike (Cursor.ofString source) := rfl
  obtain ⟨sameContent, afterAlike⟩ := takeUntil_alike endsText_alike behind
  rw [run] at sameContent afterAlike
  cases runBehind : (behindText text source).takeUntil endsText with
  | mk taken afterBehind =>
      rw [runBehind] at sameContent afterAlike
      dsimp only at sameContent afterAlike
      have enough : afterBehind.rest.length < text.toList.length + source.toList.length := by
        rw [afterAlike]
        omega
      obtain ⟨others, otherLast, readBehind, sameParts, lastAlike⟩ :=
        parts_alike shorter enough afterAlike.symm read
      have parsed := (parse_append nonempty plain runBehind).2
        ⟨others, otherLast, readBehind, lastAlike.symm.trans ends, rfl⟩
      refine ⟨_, parsed, .body (.cons ?_ (sameParts.flip.imp fun _ _ same => same.symm)) _ _⟩
      simp [Node.Alike, Node.bare, sameContent]

/-- A tag that does not look like one is taken for text. -/
theorem not_alike_of_goesOn (nonempty : text ≠ "")
    (plain : ∀ char ∈ text.toList, isPlainChar char = true) {first : Char} {more : List Char}
    (source_eq : source.toList = first :: more)
    (goesOn : endsText (Cursor.ofString source) = false)
    (parsed : Node.parse (text ++ source) = .ok tree) :
    ¬tree.Alike (.body (.text text default :: parts) position) := by
  have behind : (behindText text source).Alike (Cursor.ofString source) := rfl
  have goesOnBehind : endsText (behindText text source) = false := by
    rw [endsText_alike behind, goesOn]
  obtain ⟨taken, after, run⟩ : ∃ taken after,
      (behindText text source).takeUntil endsText = (first :: taken, after) := by
    unfold behindText at goesOnBehind ⊢
    rw [source_eq] at goesOnBehind ⊢
    exact takeUntil_of_goesOn goesOnBehind
  obtain ⟨nodes, last, -, -, rfl⟩ := (parse_append nonempty plain run).1 parsed
  intro alike
  simp only [Node.Alike, Node.bare, Node.bareParts, Node.body.injEq, List.cons.injEq,
    Node.text.injEq] at alike
  have sameText := congrArg String.length alike.1.1.1
  simp at sameText

/-- Text in front of a template leaves its parts alone where the first of them is no tag that gaps
may stand in, or is one that looks like a tag. -/
theorem parse_append_of_seen (nonempty : text ≠ "")
    (plain : ∀ char ∈ text.toList, isPlainChar char = true)
    (parsed : Node.parse source = .ok (.body parts position))
    (seen : ∀ first ∈ parts.head?, first.mayHoldGaps = true →
      looksLikeTag (Cursor.ofString source) = true) :
    ∃ tree, Node.parse (text ++ source) = .ok tree ∧
      tree.Alike (.body (Node.putTextFront text parts) position) := by
  have behind : (behindText text source).Alike (Cursor.ofString source) := rfl
  cases parts with
  | nil =>
      have stops : (behindText text source).takeUntil endsText = ([], behindText text source) := by
        rw [behindText, toList_of_parse_nil parsed]
        rfl
      exact parse_append_of_stops nonempty plain parsed stops
  | cons first rest =>
      obtain ⟨after, last, found, read, ends, shorter⟩ := firstPart_of_parse parsed
      cases meets_part found with
      | gapped gapped starts looks =>
          have front : Node.putTextFront text (first :: rest) =
              .text text default :: first :: rest := by
            cases first <;> first | rfl | cases gapped
          rw [seen first rfl gapped, ← endsText_alike behind] at looks
          rw [front]
          exact parse_append_of_stops nonempty plain parsed (takeUntil_of_stops looks)
      | text content position goesOn run =>
          exact parse_append_of_text nonempty plain run read ends shorter
      | stopping notGapped notText stops =>
          have front : Node.putTextFront text (first :: rest) =
              .text text default :: first :: rest := by
            cases first <;> first | rfl | exact absurd rfl (notText _ _)
          rw [← endsText_alike behind] at stops
          rw [front]
          exact parse_append_of_stops nonempty plain parsed (takeUntil_of_stops stops)

/-- Where the first part is a tag that gaps may stand in and does not look like one, the text in
front swallows its beginning. -/
theorem not_alike_of_unseen {first : Node} {rest : List Node} (nonempty : text ≠ "")
    (plain : ∀ char ∈ text.toList, isPlainChar char = true)
    (parsed : Node.parse source = .ok (.body (first :: rest) position))
    (gapped : first.mayHoldGaps = true) (unseen : looksLikeTag (Cursor.ofString source) = false)
    (parsedBehind : Node.parse (text ++ source) = .ok tree) :
    ¬tree.Alike (.body (Node.putTextFront text (first :: rest)) position) := by
  have front : Node.putTextFront text (first :: rest) = .text text default :: first :: rest := by
    cases first <;> first | rfl | cases gapped
  obtain ⟨after, last, found, -⟩ := firstPart_of_parse parsed
  rw [front]
  cases meets_part found with
  | gapped _ starts looks =>
      obtain ⟨mark, inside, source_eq, -⟩ := starts
      rw [unseen] at looks
      exact not_alike_of_goesOn nonempty plain source_eq looks parsedBehind
  | text => cases gapped
  | stopping notGapped =>
      rw [notGapped] at gapped
      cases gapped

/-- Text in front of a template leaves its parts alone where no line break comes before the first
closing brace. -/
theorem parse_append_of_sameLine (nonempty : text ≠ "")
    (plain : ∀ char ∈ text.toList, isPlainChar char = true)
    (parsed : Node.parse source = .ok (.body parts position))
    (sameLine : ∀ char ∈ source.toList.takeWhile (· != '}'), isLineBreak char = false) :
    ∃ tree, Node.parse (text ++ source) = .ok tree ∧
      tree.Alike (.body (Node.putTextFront text parts) position) := by
  apply parse_append_of_seen nonempty plain parsed
  intro first member gapped
  obtain ⟨rest, rfl⟩ := List.head?_eq_some_iff.1 member
  obtain ⟨after, last, found, -⟩ := firstPart_of_parse parsed
  cases meets_part found with
  | gapped _ starts _ => exact looksLikeTag_of_sameLine starts sameLine
  | text => cases gapped
  | stopping notGapped =>
      rw [notGapped] at gapped
      cases gapped

/-- Text in front of a template leaves its parts alone exactly where the first of them is no tag
that gaps may stand in, or is one that looks like a tag. -/
theorem parse_append_iff (nonempty : text ≠ "")
    (plain : ∀ char ∈ text.toList, isPlainChar char = true)
    (parsed : Node.parse source = .ok (.body parts position)) :
    (∃ tree, Node.parse (text ++ source) = .ok tree ∧
        tree.Alike (.body (Node.putTextFront text parts) position)) ↔
      ∀ first ∈ parts.head?, first.mayHoldGaps = true →
        looksLikeTag (Cursor.ofString source) = true := by
  constructor
  · rintro ⟨tree, parsedBehind, alike⟩ first member gapped
    obtain ⟨rest, rfl⟩ := List.head?_eq_some_iff.1 member
    cases looks : looksLikeTag (Cursor.ofString source) with
    | true => rfl
    | false =>
        have swallowed := not_alike_of_unseen nonempty plain parsed gapped looks parsedBehind
        exact absurd alike swallowed
  · exact parse_append_of_seen nonempty plain parsed

theorem parse_append_iff_section :
    ∃ parts position, Node.parse "\x7b#a b=1\x7dy\x7b/a\x7d" = .ok (.body parts position) ∧
      ((∃ tree, Node.parse ("x" ++ "\x7b#a b=1\x7dy\x7b/a\x7d") = .ok tree ∧
          tree.Alike (.body (Node.putTextFront "x" parts) position)) ↔
        ∀ first ∈ parts.head?, first.mayHoldGaps = true →
          looksLikeTag (Cursor.ofString "\x7b#a b=1\x7dy\x7b/a\x7d") = true) := by
  have reads : (Node.parse "\x7b#a b=1\x7dy\x7b/a\x7d").toOption.isSome = true := by
    decide +kernel
  cases found : Node.parse "\x7b#a b=1\x7dy\x7b/a\x7d" with
  | error error =>
      rw [found] at reads
      cases reads
  | ok tree =>
      obtain ⟨parts, last, -, -, rfl⟩ := (parse_eq_ok_iff_parts _ _).1 found
      have plain : "x".toList.all isPlainChar = true := by decide
      exact ⟨parts, _, rfl, parse_append_iff (by decide) (List.all_eq_true.mp plain) found⟩

/-- A section tag with a line break between its parts is read at the beginning of a source, and is
a fault behind text. -/
theorem parse_append_unseenTag :
    (∃ parts position, Node.parse "\x7b#a\n b=1\x7dy\x7b/a\x7d" = .ok (.body parts position)) ∧
      "x" ≠ "" ∧ (∀ char ∈ "x".toList, isPlainChar char = true) ∧
      ¬∃ tree, Node.parse ("x" ++ "\x7b#a\n b=1\x7dy\x7b/a\x7d") = .ok tree := by
  have reads : (Node.parse "\x7b#a\n b=1\x7dy\x7b/a\x7d").toOption.isSome = true := by
    decide +kernel
  have faulty : (Node.parse ("x" ++ "\x7b#a\n b=1\x7dy\x7b/a\x7d")).toOption.isNone = true := by
    decide +kernel
  have plain : "x".toList.all isPlainChar = true := by decide
  refine ⟨?_, by decide, List.all_eq_true.mp plain, ?_⟩
  · cases found : Node.parse "\x7b#a\n b=1\x7dy\x7b/a\x7d" with
    | error error =>
        rw [found] at reads
        cases reads
    | ok tree =>
        obtain ⟨parts, last, -, -, rfl⟩ := (parse_eq_ok_iff_parts _ _).1 found
        exact ⟨parts, _, rfl⟩
  · rintro ⟨tree, found⟩
    rw [found] at faulty
    cases faulty

end Behind

end Reading

end BraceTemplate
