import BraceTemplate.Proofs.Reading.Tags
import BraceTemplate.Reading.Document

/-!
Whole templates. Main statement: a source has a tree exactly where the grammar matches all of it,
and the tree is the one the match builds.
-/

namespace BraceTemplate.Grammar

open Reading Source
open Expression hiding char

theorem reads_delimited (build : String → Position → Node) (opening closing : List Char)
    (cursor : Cursor) :
    Reads (delimited build opening closing) cursor
      ((delimited? opening closing cursor).map fun (content, after) =>
        (build content cursor.position, after)) := by
  have looks := Looks.butNot (Reads.text closing)
  simp only [Option.isSome_map, isSome_literal?] at looks
  have content := Reads.afterText opening cursor looks.many
  have build := (Reads.position cursor).map fun position content =>
    build (String.ofList content) position
  have opened := build.behind (fun change result => change result) content
  apply (opened.beforeText closing).congr
  unfold delimited?
  cases cursor.literal? opening with
  | none => rfl
  | some inside =>
      simp only [Option.bind_eq_bind, Option.bind_some, Option.map_some]
      cases (inside.takeUntil fun next => closing.isPrefixOf next.rest).2.literal? closing <;> rfl

theorem reads_raw (cursor : Cursor) : Reads (.rule .raw) cursor (raw? cursor) :=
  .rule (reads_delimited Node.raw _ _ cursor)

theorem reads_comment (cursor : Cursor) : Reads (.rule .comment) cursor (comment? cursor) :=
  .rule (reads_delimited Node.comment _ _ cursor)

theorem newline?_eq (cursor : Cursor) :
    newline? cursor = (lineEnd? cursor).map fun (chars, after) => (String.ofList chars, after) := by
  unfold newline? lineEnd?
  cases cursor.literal? ['\r', '\n'] with
  | some after => rfl
  | none =>
      rw [Option.map_map]
      rfl

theorem looks_text :
    Looks (butNot (.rule .tag) *> butNot (.rule .raw) *> butNot (.rule .comment) *>
      butNot (.rule .lineEnd)) endsText := by
  have looks := (((Looks.butNot reads_tag).and (Looks.butNot reads_raw)).and
    (Looks.butNot reads_comment)).and (Looks.butNot reads_lineEnd)
  simp only [isSome_tag?, isSome_lineEnd?] at looks
  exact looks

theorem reads_text (cursor : Cursor) : Reads (.rule .buffer) cursor (text? cursor) := by
  have buildBreak := (Reads.position cursor).map fun position newline blanks =>
    Node.lineBreak (String.ofList newline) (String.ofList blanks) position
  have lineBreak := (buildBreak.behind (fun change result => change result)
    (reads_lineEnd cursor)).seq reads_gaps
  have buildText := (Reads.position cursor).map fun position content =>
    Node.text (String.ofList content) position
  have text := buildText.behind (fun change result => change result) (looks_text.atLeastOne cursor)
  apply Derives.rule
  apply (lineBreak.choice text).congr
  unfold text?
  rw [newline?_eq]
  cases lineEnd? cursor with
  | some pair => rfl
  | none => rcases cursor.takeUntil endsText with ⟨_ | ⟨char, more⟩, after⟩ <;> rfl

def Outcome.ofAttempt {Result : Type} :
    Except ParseError (Option (Result × Cursor)) → Outcome Result
  | .ok found => ofOption found
  | .error _ => aborted

def Outcome.ofResult {Result : Type} : Except ParseError (Result × Cursor) → Outcome Result
  | .ok (result, after) => matched result after
  | .error _ => aborted

/-- A repetition goes on behind a match until there is a fault. -/
theorem derives_more {Result : Type} {item : Expression Rule Result} {cursor middle : Cursor}
    {result : Result} {found : Except ParseError (List Result × Cursor)}
    (itemMatches : Derives grammar item cursor (.matched result middle))
    (more : Derives grammar (many item) middle (.ofResult found)) :
    Derives grammar (many item) cursor
      (.ofResult (found.map fun (results, after) => (result :: results, after))) := by
  cases found with
  | error error => exact .starMore itemMatches more nofun
  | ok pair => exact .starMore itemMatches more nofun

abbrev PartsInside (readParts : BodyRule) (cursor : Cursor) : Prop :=
  ∀ later : Cursor, later.rest.length < cursor.rest.length →
    Derives grammar (many (.rule .part)) later (.ofResult (readParts later))

def bodyAt (readParts : BodyRule) (cursor : Cursor) : Except ParseError (Node × Cursor) :=
  (readParts cursor).map fun (parts, after) => (.body parts cursor.position, after)

section Sections

variable {readParts : BodyRule} {cursor : Cursor}

theorem derives_body {cursor : Cursor}
    (parts : Derives grammar (many (.rule .part)) cursor (.ofResult (readParts cursor))) :
    Derives grammar (.rule .body) cursor (.ofResult (bodyAt readParts cursor)) := by
  have build := (Reads.position cursor).map fun position parts => Node.body parts position
  have whole := Derives.both (fun change result => change result) build parts
  apply Derives.rule
  unfold bodyAt
  cases found : readParts cursor with
  | error error =>
      rw [found] at whole
      exact whole
  | ok pair =>
      rw [found] at whole
      exact whole

theorem PartsInside.later (inside : PartsInside readParts cursor) {later : Cursor}
    (laterLe : later.rest.length ≤ cursor.rest.length) : PartsInside readParts later :=
  fun last lastLt => inside last (Nat.lt_of_lt_of_le lastLt laterLe)

theorem derives_branch_none (notFound : branchTag? cursor = none) :
    Derives grammar branch cursor .failed := by
  have tag := ((reads_branchTag cursor).congr notFound).map
    (Prod.mk : String → Node → String × Node)
  exact .bothFailed _ tag

theorem derives_branch {name : String} {afterTag : Cursor}
    (found : branchTag? cursor = some (name, afterTag))
    (parts : Derives grammar (many (.rule .part)) afterTag (.ofResult (readParts afterTag))) :
    Derives grammar branch cursor
      ((Outcome.ofResult (bodyAt readParts afterTag)).map (Prod.mk name)) := by
  have tag := ((reads_branchTag cursor).congr found).map (Prod.mk : String → Node → String × Node)
  exact .both _ tag (derives_body parts)

theorem branches_none {fuel : Nat} (notFound : branchTag? cursor = none) :
    branchesWithin readParts fuel cursor = .ok ([], cursor) := by
  cases fuel with
  | zero => rfl
  | succ fuel => simp only [branchesWithin, notFound]

/-- The branches of a section up to a bound that is the number of characters that are left. -/
theorem derives_branches (fuel : Nat) (cursor : Cursor) (enough : cursor.rest.length ≤ fuel)
    (inside : PartsInside readParts cursor) :
    Derives grammar (many branch) cursor (.ofResult (branchesWithin readParts fuel cursor)) := by
  induction fuel generalizing cursor with
  | zero =>
      cases found : branchTag? cursor with
      | none =>
          rw [branches_none found]
          exact .starEnd (derives_branch_none found)
      | some pair =>
          obtain ⟨name, afterTag⟩ := pair
          have shorter := ((reads_branchTag cursor).congr found).shorter rfl
          omega
  | succ fuel inductionHypothesis =>
      cases found : branchTag? cursor with
      | none =>
          rw [branches_none found]
          exact .starEnd (derives_branch_none found)
      | some pair =>
          obtain ⟨name, afterTag⟩ := pair
          have shorter := ((reads_branchTag cursor).congr found).shorter rfl
          have parts := inside afterTag shorter
          have item := derives_branch found parts
          simp only [branchesWithin, found]
          cases partsFound : readParts afterTag with
          | error error =>
              rw [bodyAt, partsFound] at item
              exact .starAborted item
          | ok pair =>
              obtain ⟨nodes, afterBody⟩ := pair
              rw [bodyAt, partsFound] at item
              rw [partsFound] at parts
              have notLonger := Reads.notLonger parts
              have more := inductionHypothesis afterBody (by omega) (inside.later (by omega))
              have whole := derives_more item more
              dsimp only
              cases moreFound : branchesWithin readParts fuel afterBody with
              | error error =>
                  rw [moreFound] at whole
                  exact whole
              | ok pair =>
                  rw [moreFound] at whole
                  exact whole

def enclosedStart : Expression Rule (Node → List (String × Node) → Option Identifier → Enclosed) :=
  Enclosed.mk <$> position <*> .rule .opening <* gaps <* text ['}']

def enclosedStart? (cursor : Cursor) :
    Option ((Node → List (String × Node) → Option Identifier → Enclosed) × Cursor) :=
  (opening? cursor).bind fun (opening, after) =>
    (after.skipGaps.literal? ['}']).map fun inside =>
      (Enclosed.mk cursor.position opening, inside)

theorem reads_enclosedStart (cursor : Cursor) :
    Reads enclosedStart cursor (enclosedStart? cursor) := by
  have build := (Reads.position cursor).map Enclosed.mk
  have opened := build.behind (fun change result => change result) (reads_opening cursor)
  apply (opened.beforeGaps.beforeText ['}']).congr
  unfold enclosedStart?
  cases opening? cursor <;> rfl

theorem reads_selfClosing (cursor : Cursor) :
    Reads ((fun position opening => sectionOf position opening []) <$> position <*>
      .rule .opening <* gaps <* text ['/', '}']) cursor
      ((opening? cursor).bind fun (opening, after) =>
        (after.skipGaps.literal? ['/', '}']).map fun last =>
          (sectionOf cursor.position opening [], last)) := by
  have build := (Reads.position cursor).map fun position opening => sectionOf position opening []
  have opened := build.behind (fun change result => change result) (reads_opening cursor)
  apply (opened.beforeGaps.beforeText ['/', '}']).congr
  cases opening? cursor <;> rfl

def enclosedBodies : Expression Rule (Option Identifier → Enclosed) :=
  enclosedStart <*> .rule .body <*> .rule .bodies

section Enclosed

variable {opening : Opening} {afterOpening afterTag : Cursor}

theorem enclosedStart?_eq (opened : opening? cursor = some (opening, afterOpening))
    (closed : afterOpening.skipGaps.literal? ['}'] = some afterTag) :
    enclosedStart? cursor = some (Enclosed.mk cursor.position opening, afterTag) := by
  simp only [enclosedStart?, opened, Option.bind_some, closed, Option.map_some]

theorem derives_enclosedBodies (inside : PartsInside readParts cursor)
    (started : enclosedStart? cursor = some (Enclosed.mk cursor.position opening, afterTag)) :
    (∃ error, sectionBodies readParts afterTag = .error error ∧
        Derives grammar enclosedBodies cursor .aborted) ∨
      ∃ main branches atEnd,
        sectionBodies readParts afterTag = .ok (branches ++ [(mainBody, main)], atEnd) ∧
        Derives grammar enclosedBodies cursor
          (.matched (Enclosed.mk cursor.position opening main branches) atEnd) := by
  have start := (reads_enclosedStart cursor).congr started
  have shorter := start.shorter rfl
  have parts := inside afterTag shorter
  have body := Derives.both (fun change result => change result) start (derives_body parts)
  cases partsFound : readParts afterTag with
  | error error =>
      rw [bodyAt, partsFound] at body
      refine .inl ⟨error, ?_, .bothAborted _ body⟩
      simp only [sectionBodies, partsFound]
  | ok pair =>
      obtain ⟨nodes, afterBody⟩ := pair
      rw [bodyAt, partsFound] at body
      rw [partsFound] at parts
      have notLonger := Reads.notLonger parts
      have branches : Derives grammar (.rule .bodies) afterBody
          (.ofResult (branchesWithin readParts afterBody.rest.length afterBody)) :=
        .rule (derives_branches _ afterBody (Nat.le_refl _) (inside.later (by omega)))
      have bodies := Derives.both (fun change result => change result) body branches
      cases branchesFound : branchesWithin readParts afterBody.rest.length afterBody with
      | error error =>
          rw [branchesFound] at bodies
          refine .inl ⟨error, ?_, bodies⟩
          simp only [sectionBodies, partsFound, branchesFound]
      | ok pair =>
          obtain ⟨found, atEnd⟩ := pair
          rw [branchesFound] at bodies
          refine .inr ⟨.body nodes afterTag.position, found, atEnd, ?_, bodies⟩
          simp only [sectionBodies, partsFound, branchesFound]

/-- The end tag of a section has to name what its opening tag names. -/
theorem derives_closed {main : Node} {branches : List (String × Node)} {atEnd : Cursor}
    (bodies : Derives grammar enclosedBodies cursor
      (.matched (Enclosed.mk cursor.position opening main branches) atEnd)) :
    Derives grammar (demand Enclosed.node? (enclosedBodies <*> optional (.rule .endTag))) cursor
      (.ofResult ((closeSection opening.identifier.text atEnd).map fun after =>
        (sectionOf cursor.position opening (branches ++ [(mainBody, main)]), after))) := by
  have closing := (reads_endTag atEnd).optional
  have whole := Derives.both (fun change result => change result) bodies closing
  have demanded := Derives.demand Enclosed.node? whole
  cases found : endTag? atEnd with
  | none =>
      simp only [found] at demanded
      simp only [closeSection, found]
      exact demanded
  | some pair =>
      obtain ⟨identifier, after⟩ := pair
      simp only [found] at demanded
      simp only [closeSection, found]
      by_cases same : identifier.text = opening.identifier.text
      · have node : Enclosed.node? ⟨cursor.position, opening, main, branches, some identifier⟩ =
            some (sectionOf cursor.position opening (branches ++ [(mainBody, main)])) := by
          simp [Enclosed.node?, same]
        simp only [Outcome.ofOption, Outcome.map, Outcome.demand, Option.map_some, Option.some_or,
          node] at demanded
        rw [if_pos same]
        exact demanded
      · have noNode : Enclosed.node? ⟨cursor.position, opening, main, branches, some identifier⟩ =
            none := by
          simp [Enclosed.node?, same]
        simp only [Outcome.ofOption, Outcome.map, Outcome.demand, Option.map_some, Option.some_or,
          noNode] at demanded
        rw [if_neg same]
        exact demanded

end Enclosed

/-- A section reads as the grammar says: with bodies up to its end tag, or closed at once. -/
theorem derives_section (inside : PartsInside readParts cursor) :
    Derives grammar (.rule .sectionTag) cursor (.ofAttempt (section? readParts cursor)) := by
  have selfClosing := reads_selfClosing cursor
  have start := reads_enclosedStart cursor
  apply Derives.rule
  cases opened : opening? cursor with
  | none =>
      simp only [enclosedStart?, opened, Option.bind_none] at start selfClosing
      have failed : Derives grammar
          (demand Enclosed.node? (enclosedBodies <*> optional (.rule .endTag))) cursor .failed :=
        .demand _ (.bothFailed _ (.bothFailed _ (.bothFailed _ start)))
      simp only [section?, opened]
      exact .secondChoice failed selfClosing
  | some pair =>
      obtain ⟨opening, afterOpening⟩ := pair
      cases closed : afterOpening.skipGaps.literal? ['}'] with
      | none =>
          simp only [enclosedStart?, opened, Option.bind_some, closed, Option.map_none]
            at start selfClosing
          have failed : Derives grammar
              (demand Enclosed.node? (enclosedBodies <*> optional (.rule .endTag))) cursor
              .failed :=
            .demand _ (.bothFailed _ (.bothFailed _ (.bothFailed _ start)))
          simp only [section?, opened, closed]
          exact .secondChoice failed selfClosing
      | some afterTag =>
          simp only [section?, opened, closed]
          rcases derives_enclosedBodies inside (enclosedStart?_eq opened closed) with
            ⟨error, faulty, aborts⟩ | ⟨main, branches, atEnd, bodies, enclosed⟩
          · have aborted : Derives grammar
                (demand Enclosed.node? (enclosedBodies <*> optional (.rule .endTag))) cursor
                .aborted :=
              .demand _ (.bothAborted _ aborts)
            rw [faulty]
            exact .firstChoice nofun aborted
          · have demanded := derives_closed enclosed
            rw [bodies]
            dsimp only
            cases ends : closeSection opening.identifier.text atEnd with
            | error error =>
                rw [ends] at demanded
                exact .firstChoice nofun demanded
            | ok after =>
                rw [ends] at demanded
                exact .firstChoice nofun demanded

theorem reads_latePart (cursor : Cursor) :
    Reads (.rule .inclusion <|> .rule .special <|> .rule .reference <|> .rule .buffer) cursor
      (latePart? cursor) := by
  have reads := (reads_inclusion cursor).choice <| (reads_special cursor).choice <|
    (reads_reference cursor).choice (reads_text cursor)
  apply reads.congr
  unfold latePart?
  cases inclusion? cursor with
  | some found => rfl
  | none =>
      cases special? cursor with
      | some found => rfl
      | none => cases reference? cursor <;> rfl

theorem derives_part (inside : PartsInside readParts cursor) :
    Derives grammar (.rule .part) cursor (.ofAttempt (part? readParts cursor)) := by
  have sectionTag := derives_section inside
  apply Derives.rule
  unfold part? earlyPart?
  cases raw : raw? cursor with
  | some found => exact .firstChoice nofun ((reads_raw cursor).congr raw)
  | none =>
      apply Derives.secondChoice ((reads_raw cursor).congr raw)
      cases comment : comment? cursor with
      | some found => exact .firstChoice nofun ((reads_comment cursor).congr comment)
      | none =>
          apply Derives.secondChoice ((reads_comment cursor).congr comment)
          cases found : section? readParts cursor with
          | error error =>
              rw [found] at sectionTag
              exact .firstChoice nofun sectionTag
          | ok next =>
              rw [found] at sectionTag
              cases next with
              | some pair => exact .firstChoice nofun sectionTag
              | none => exact .secondChoice sectionTag (reads_latePart cursor)

end Sections

/-- The parts up to a bound that is more than the number of characters that are left. -/
theorem derives_parts (fuel : Nat) (cursor : Cursor) (enough : cursor.rest.length < fuel) :
    Derives grammar (many (.rule .part)) cursor (.ofResult (partsWithin fuel cursor)) := by
  induction fuel generalizing cursor with
  | zero => omega
  | succ fuel inductionHypothesis =>
      have inside : PartsInside (partsWithin fuel) cursor :=
        fun later laterLt => inductionHypothesis later (by omega)
      have part := derives_part inside
      simp only [partsWithin]
      cases found : part? (partsWithin fuel) cursor with
      | error error =>
          rw [found] at part
          exact .starAborted part
      | ok next =>
          cases next with
          | none =>
              rw [found] at part
              exact .starEnd part
          | some pair =>
              obtain ⟨node, after⟩ := pair
              rw [found] at part
              have shorter := Reads.shorter part rfl
              have whole := derives_more part (inductionHypothesis after (by omega))
              dsimp only
              cases moreFound : partsWithin fuel after with
              | error error =>
                  rw [moreFound] at whole
                  exact whole
              | ok pair =>
                  rw [moreFound] at whole
                  exact whole

/-- The whole source is a body, and the tree is what the grammar builds of it. -/
def Describes (source : String) (tree : Node) : Prop :=
  ∃ last, Derives grammar (.rule .body) (Cursor.ofString source) (.matched tree last) ∧
    last.rest = []

theorem derives_source (source : String) :
    Derives grammar (.rule .body) (Cursor.ofString source)
      (.ofResult (bodyAt Reading.parts (Cursor.ofString source))) :=
  derives_body (derives_parts _ _ (Nat.lt_succ_self _))

theorem parse_eq_ok_iff (source : String) (tree : Node) :
    Node.parse source = .ok tree ↔
      ∃ last, bodyAt Reading.parts (Cursor.ofString source) = .ok (tree, last) ∧
        last.rest = [] := by
  simp only [Node.parse, bodyAt]
  cases Reading.parts (Cursor.ofString source) with
  | error error => simp [Except.map]
  | ok pair =>
      obtain ⟨nodes, last⟩ := pair
      cases ends : last.rest with
      | nil =>
          simp only [Except.map, Except.ok.injEq, Prod.mk.injEq, ends]
          constructor
          · rintro rfl
            exact ⟨last, ⟨rfl, rfl⟩, ends⟩
          · rintro ⟨final, ⟨rfl, rfl⟩, atEnd⟩
            rfl
      | cons char rest => simp [Except.map, ends]

/-- A source has a tree exactly where the grammar describes all of it, and it is the tree that the
match builds. -/
theorem parse_eq_ok_iff_describes (source : String) (tree : Node) :
    Node.parse source = .ok tree ↔ Describes source tree := by
  have derivation := derives_source source
  rw [parse_eq_ok_iff]
  constructor
  · rintro ⟨last, read, ends⟩
    rw [read] at derivation
    exact ⟨last, derivation, ends⟩
  · rintro ⟨last, matched, ends⟩
    have same := derivation.functional matched
    refine ⟨last, ?_, ends⟩
    cases read : bodyAt Reading.parts (Cursor.ofString source) with
    | error error =>
        rw [read] at same
        cases same
    | ok pair =>
        rw [read] at same
        cases same
        rfl

end BraceTemplate.Grammar
