import BraceTemplate.Proofs.Reading.Documents
import BraceTemplate.Proofs.Scanning.Derivations

/-!
The routines of templates run to what the grammar of templates derives: apart from what they put
back and note, they differ from the grammar in the loops that a missing character ends, and such a
loop fails where the grammar fails behind it. Main statement: `Runs.derivesGrammar`.
-/

namespace BraceTemplate.Scanning

open Source Reading Grammar

theorem reads_texts (all : List (List Char)) (cursor : Cursor) :
    Reads (Routine.texts all).expression cursor
      ((cursor.literal? all.flatten).map fun after => ((), after)) := by
  have chars : (all.map fun chars => Piece.mk chars (some (quoted chars))).flatMap Piece.chars =
      all.flatten := by
    rw [List.flatMap_map, List.flatMap_id']
  have spells : Reads (spelled () all.flatten) cursor _ := derives_spelled () all.flatten cursor
  rwa [← chars] at spells ⊢

theorem reads_text (chars : List Char) (cursor : Cursor) :
    Reads (Routine.text chars).expression cursor
      ((cursor.literal? chars).map fun after => ((), after)) := by
  have reads := reads_texts [chars] cursor
  rwa [List.flatten_singleton] at reads

theorem reads_sight (chars : List Char) (cursor : Cursor) :
    Reads (Routine.sight chars).expression cursor
      ((cursor.literal? chars).map fun after => ((), after)) := by
  have spells : Reads (spelled () (chars ++ [])) cursor _ := derives_spelled () (chars ++ []) cursor
  exact spells.congr (by rw [List.append_nil])

section Guards

variable {lookahead : Expression Rule Unit} {stopsAt : Cursor → Bool}

/-- Characters up to where a lookahead fails, which has to come before the end. -/
theorem reads_guarded (looks : Looks lookahead stopsAt) (cursor : Cursor) :
    Reads (guarded id lookahead (.oneOf fun _ => true)) cursor
      (if stopsAt (cursor.takeUntil stopsAt).2 then some (cursor.takeUntil stopsAt) else none) := by
  have ends := (looks (cursor.takeUntil stopsAt).2).butNot
  apply ((looks.many cursor).behind (fun results _ => id results) ends).congr
  cases stopsAt (cursor.takeUntil stopsAt).2 <;> rfl

end Guards

theorem reads_delimitedRoutine (build : String → Position → Node) (opening closing : List Char)
    (cursor : Cursor) :
    Reads (delimited build opening closing).expression cursor
      ((delimited? opening closing cursor).map fun (content, after) =>
        (build content cursor.position, after)) := by
  have looks := Looks.butNot (reads_sight closing)
  simp only [Option.isSome_map, isSome_literal?] at looks
  have content := (reads_text opening cursor).seqRight (reads_guarded looks)
  have builds := (Reads.position cursor).map fun position content =>
    build (String.ofList content) position
  have opened := builds.behind (fun change result => change result) content
  have closed := opened.both (fun result _ => result) fun _ middle _ => reads_text closing middle
  apply closed.congr
  unfold delimited?
  cases cursor.literal? opening with
  | none => rfl
  | some inside =>
      simp only [Option.bind_eq_bind, Option.bind_some, Option.map_some]
      obtain ⟨chars, atEnd⟩ := inside.takeUntil fun next => closing.isPrefixOf next.rest
      simp only [← isSome_literal?]
      cases closes : atEnd.literal? closing with
      | none => rfl
      | some after => simp [closes]

theorem looks_tagEnd :
    Looks (Expression.butNot (Routine.text ['}']).expression *>
        Expression.butNot (.rule .lineEnd)) fun cursor =>
      (cursor.literal? ['}']).isSome || (lineEnd? cursor).isSome := by
  have looks := (Looks.butNot (reads_text ['}'])).and (Looks.butNot reads_lineEnd)
  simpa only [Option.isSome_map] using looks

/-- What stands between the mark of a tag and its closing brace, where the source does not end
before a brace or a line end. -/
theorem reads_tagContentRoutine (cursor : Cursor) :
    Reads tagContent.expression cursor
      (if (cursor.takeWhile isTagContent).2.rest = [] then none
        else nonempty? (cursor.takeWhile isTagContent)) := by
  have content := (reads_guarded looks_tagEnd cursor).check fun chars =>
    if chars.isEmpty then none else some chars
  rw [takeUntil_tagContent] at content
  apply content.congr
  cases run : cursor.takeWhile isTagContent with
  | mk chars atEnd =>
      by_cases ended : atEnd.rest = []
      · obtain ⟨place, rest⟩ := atEnd
        cases ended
        rfl
      · rw [← takeUntil_tagContent] at run
        have stopped := (takeUntil_ends run).resolve_left ended
        simp only [if_pos stopped, if_neg ended]
        cases chars <;> rfl

theorem reads_tagLike (cursor : Cursor) : Reads tagLike.expression cursor (shape? cursor) := by
  have marked := ((reads_text ['{'] cursor).seqRight reads_gaps).seqRight
    (Reads.oneOf isTagMark)
  have content := (marked.seqRight reads_gaps).seqRight reads_tagContentRoutine
  have closed := (content.seqRight reads_gaps).seqRight (reads_text ['}'])
  apply closed.congr
  unfold shape?
  cases cursor.literal? ['{'] with
  | none => rfl
  | some inside =>
      simp only [Option.map_some, Option.bind_some]
      cases found : (inside.takeWhile isGap).2.char? isTagMark with
      | none => simp [Cursor.skipGaps, found]
      | some pair =>
          obtain ⟨mark, afterMark⟩ := pair
          simp only [Cursor.skipGaps, found, closing?, Option.bind_some]
          obtain ⟨chars, atEnd⟩ := (afterMark.takeWhile isGap).2.takeWhile isTagContent
          -- At the end of the source there is no brace that could close the tag.
          by_cases ended : atEnd.rest = []
          · obtain ⟨place, rest⟩ := atEnd
            cases ended
            cases chars <;> rfl
          · rw [if_neg ended]
            cases chars <;> rfl

/-- What the routine of a rule tries derives what the rule does. -/
theorem derives_rule (Result : Type) (name : Rule Result) (cursor : Cursor)
    (outcome : Outcome Result)
    (derivation : Derives grammar (routines Result name).expression cursor outcome) :
    Derives grammar (.rule name) cursor outcome := by
  cases name with
  | raw =>
      rw [derivation.functional (reads_delimitedRoutine Node.raw _ _ cursor)]
      exact reads_raw cursor
  | comment =>
      rw [derivation.functional (reads_delimitedRoutine Node.comment _ _ cursor)]
      exact reads_comment cursor
  | tag =>
      have reads := (reads_tagLike cursor).choice ((reads_reference cursor).map fun _ => ())
      rw [derivation.functional reads]
      exact reads_tag cursor
  | _ => exact .rule derivation

def alwaysMatches (Result : Type) (name : Rule Result) : Bool :=
  !takesChar Result name

def alwaysRestores (Result : Type) (_ : Rule Result) : Bool :=
  true

theorem certain_routines (Result : Type) (name : Rule Result)
    (certain : alwaysMatches Result name = true) :
    (routines Result name).certain alwaysMatches = true := by
  cases name <;> first | rfl | cases certain

theorem restores_routines (Result : Type) (name : Rule Result) :
    (routines Result name).restores alwaysMatches alwaysRestores = true := by
  cases name <;> rfl

theorem backtracks_routines (Result : Type) (name : Rule Result) :
    (routines Result name).backtracks alwaysMatches alwaysRestores = true := by
  cases name <;> rfl

section Runs

variable {source : String} {Result : Type} {scan after : Scan} {found : Option Result}

/-- A run that starts without a fault derives what it returns, up to where it ends. -/
theorem Runs.derivesGrammar {routine : Routine Rule Result}
    (run : Runs routines source routine scan found after) (isPlace : IsPlace source scan.place)
    (noFault : scan.fault = none)
    (backtracks : routine.backtracks alwaysMatches alwaysRestores = true) :
    Derives grammar routine.expression (cursorAt source scan.place)
      (after.outcome source found) :=
  run.derives certain_routines (fun _ name _ => restores_routines _ name) backtracks_routines
    derives_rule isPlace noFault backtracks

theorem Runs.putsBack {routine : Routine Rule Result}
    (run : Runs routines source routine scan none after) (noFault : after.fault = none)
    (restores : routine.restores alwaysMatches alwaysRestores = true) : after.place = scan.place :=
  run.restores certain_routines (fun _ name _ => restores_routines _ name) noFault restores rfl

/-- Where a routine is the routine of a reader, a run that starts without a fault notes none and
returns what the reader finds. -/
theorem Runs.reads {routine : Routine Rule Result} {read : Option (Result × Cursor)}
    (run : Runs routines source routine scan found after) (isPlace : IsPlace source scan.place)
    (noFault : scan.fault = none)
    (backtracks : routine.backtracks alwaysMatches alwaysRestores = true)
    (reads : Reads routine.expression (cursorAt source scan.place) read) :
    after.fault = none ∧
      read = found.map fun result => (result, cursorAt source after.place) := by
  have same := (run.derivesGrammar isPlace noFault backtracks).functional reads
  by_cases afterNoFault : after.fault = none
  · refine ⟨afterNoFault, ?_⟩
    unfold Scan.outcome at same
    rw [if_pos afterNoFault] at same
    rcases read with _ | ⟨result, behind⟩ <;> cases found <;> cases same <;> rfl
  · rw [Scan.outcome_of_fault afterNoFault] at same
    cases read <;> cases same

end Runs

end BraceTemplate.Scanning
