import BraceTemplate.Proofs.Reading.Names

/-!
Paths and identifiers. The grammar reads the steps of a path a run at a time, keys with a bracket
behind them or a bracket with keys behind it; one step after the other gives the same steps.
-/

namespace BraceTemplate.Grammar

open Reading Source
open Expression hiding char

/-- Applying a reader again and again leads from one cursor to another. -/
inductive Run {Result : Type} (reader : Cursor → Option (Result × Cursor)) :
    Cursor → List Result → Cursor → Prop
  | nil (cursor : Cursor) : Run reader cursor [] cursor
  | cons {cursor middle after : Cursor} {result : Result} {results : List Result} :
      reader cursor = some (result, middle) →
      Run reader middle results after →
      Run reader cursor (result :: results) after

namespace Run

variable {Result Other : Type} {reader : Cursor → Option (Result × Cursor)}
  {cursor middle after : Cursor}

theorem append {first second : List Result} (firstRun : Run reader cursor first middle)
    (secondRun : Run reader middle second after) :
    Run reader cursor (first ++ second) after := by
  induction firstRun with
  | nil _ => exact secondRun
  | cons found _ inductionHypothesis => exact .cons found (inductionHypothesis secondRun)

/-- Every match of one reader is one of another, up to how it is written. -/
theorem map {other : Cursor → Option (Other × Cursor)} {change : Result → Other}
    (changes : ∀ start result later, reader start = some (result, later) →
      other start = some (change result, later))
    {results : List Result} (run : Run reader cursor results after) :
    Run other cursor (results.map change) after := by
  induction run with
  | nil start => exact .nil start
  | cons found _ inductionHypothesis => exact .cons (changes _ _ _ found) inductionHypothesis

variable {item : Expression Rule Result}

theorem of_many (cursor : Cursor)
    (reads : ∀ later : Cursor, later.rest.length ≤ cursor.rest.length →
      Reads item later (reader later))
    (takes : item.takesChar takesChar = true) :
    Run reader cursor (cursor.many reader).1 (cursor.many reader).2 := by
  generalize bound : cursor.rest.length = count at reads
  induction count using Nat.strongRecOn generalizing cursor with
  | _ count inductionHypothesis =>
      subst bound
      rw [Reads.many_eq cursor reads takes]
      cases found : reader cursor with
      | none => exact .nil cursor
      | some pair =>
          obtain ⟨result, middle⟩ := pair
          have shorter := ((reads cursor (Nat.le_refl _)).congr found).shorter takes
          apply Run.cons found
          exact inductionHypothesis _ shorter middle rfl
            fun later laterLe => reads later (by omega)

/-- A repetition begins with every run, and goes on where the run ends. -/
theorem many_eq {results : List Result} (run : Run reader cursor results after)
    (reads : ∀ later : Cursor, later.rest.length ≤ cursor.rest.length →
      Reads item later (reader later))
    (takes : item.takesChar takesChar = true) :
    cursor.many reader = (results ++ (after.many reader).1, (after.many reader).2) := by
  induction run with
  | nil start => rfl
  | @cons start middle last result results found _ inductionHypothesis =>
      have shorter := ((reads start (Nat.le_refl _)).congr found).shorter takes
      have goesOn := inductionHypothesis fun later laterLe => reads later (by omega)
      simp only [Reads.many_eq start reads takes, found, goesOn, List.cons_append]

end Run

def dotName? (cursor : Cursor) : Option (String × Cursor) :=
  (cursor.literal? ['.']).bind key?

theorem dotKey?_eq (cursor : Cursor) :
    dotKey? cursor = (dotName? cursor).map fun (name, after) => (.key name, after) := by
  unfold dotKey? dotName?
  cases cursor.literal? ['.'] with
  | none => rfl
  | some inside =>
      simp only [Option.bind_eq_bind, Option.bind_some]
      cases key? inside <;> rfl

theorem reads_dotted (cursor : Cursor) : Reads dotted cursor (dotName? cursor) :=
  Reads.afterText ['.'] cursor reads_key

abbrev Inside (identifierAt? : Cursor → Option (Identifier × Cursor)) (cursor : Cursor) : Prop :=
  ∀ later : Cursor, later.rest.length < cursor.rest.length →
    Reads (.rule .identifier) later (identifierAt? later)

section Steps

variable {identifierAt? : Cursor → Option (Identifier × Cursor)} {cursor : Cursor}

theorem Inside.later (inside : Inside identifierAt? cursor) {later : Cursor}
    (laterLe : later.rest.length ≤ cursor.rest.length) : Inside identifierAt? later :=
  fun last lastLt => inside last (Nat.lt_of_lt_of_le lastLt laterLe)

theorem reads_index {cursor : Cursor}
    (identifiers : Reads (.rule .identifier) cursor (identifierAt? cursor)) :
    Reads index cursor (Reading.bracketed? identifierAt? cursor) := by
  have number := (reads_digits cursor).map fun digits => PathSegment.index (String.ofList digits)
  apply (number.choice (identifiers.map PathSegment.lookup)).congr
  unfold Reading.bracketed?
  cases digits? cursor <;> rfl

theorem reads_bracketed (inside : Inside identifierAt? cursor) :
    Reads bracketed cursor (bracket? identifierAt? cursor) := by
  have mark := Reads.text ['['] cursor
  have opened := mark.both (fun _ result => result) fun _ middle found =>
    reads_index (inside middle ((mark.congr found).shorter rfl))
  apply (opened.beforeText [']']).congr
  unfold bracket?
  cases cursor.literal? ['['] with
  | none => rfl
  | some afterMark =>
      simp only [Option.bind_eq_bind, Option.bind_some, Option.map_some]
      cases Reading.bracketed? identifierAt? afterMark with
      | none => rfl
      | some pair =>
          obtain ⟨segment, afterIndex⟩ := pair
          simp only [Option.bind_some, Option.map_some]
          cases afterIndex.literal? [']'] <;> rfl

theorem reads_step (inside : Inside identifierAt? cursor) :
    Reads (PathSegment.key <$> dotted <|> bracketed) cursor (segment? identifierAt? cursor) := by
  have reads := ((reads_dotted cursor).map PathSegment.key).choice (reads_bracketed inside)
  apply reads.congr
  rw [← dotKey?_eq]
  unfold segment?
  cases dotKey? cursor <;> rfl

/-- The steps that an expression reads at once are a run of single steps, and there are some where
something comes next. -/
def ReadsRun (identifierAt? : Cursor → Option (Identifier × Cursor))
    (expression : Expression Rule (List PathSegment)) (cursor : Cursor) (comes : Bool) : Prop :=
  ∃ found, Reads expression cursor found ∧ found.isSome = comes ∧
    ∀ segments after, found = some (segments, after) →
      Run (segment? identifierAt?) cursor segments after

theorem ReadsRun.optional {expression : Expression Rule (List PathSegment)} {comes : Bool}
    (reads : ReadsRun identifierAt? expression cursor comes) :
    ∃ more after, Reads (Expression.optional expression) cursor (some (more, after)) ∧
      Run (segment? identifierAt?) cursor (more.getD []) after := by
  obtain ⟨found, expressionReads, _, run⟩ := reads
  have optionalReads := expressionReads.optional
  cases found with
  | none => exact ⟨none, cursor, optionalReads, .nil cursor⟩
  | some pair =>
      obtain ⟨segments, after⟩ := pair
      exact ⟨some segments, after, optionalReads, run segments after rfl⟩

theorem run_dotted (identifierAt? : Cursor → Option (Identifier × Cursor)) (cursor : Cursor) :
    Run (segment? identifierAt?) cursor ((cursor.many dotName?).1.map .key)
      (cursor.many dotName?).2 := by
  have names : Run dotName? cursor (cursor.many dotName?).1 (cursor.many dotName?).2 :=
    Run.of_many cursor (fun later _ => reads_dotted later) rfl
  apply names.map
  intro start name later found
  simp only [segment?, dotKey?_eq, found, Option.map_some]

theorem readsRun_arrayPart
    (brackets : ∀ later : Cursor, later.rest.length < cursor.rest.length →
      ReadsRun identifierAt? (.rule .array) later (bracket? identifierAt? later).isSome) :
    ReadsRun identifierAt? (.rule .arrayPart) cursor (dotName? cursor).isSome := by
  have keys := Reads.atLeastOne cursor (fun later _ => reads_dotted later) rfl
  have unfolded := Reads.many_eq cursor (fun later _ => reads_dotted later) rfl
  have changed := keys.map fun keys (more : Option (List PathSegment)) =>
    keys.map PathSegment.key ++ more.getD []
  cases found : dotName? cursor with
  | none =>
      simp only [found] at unfolded
      rw [unfolded] at changed
      refine ⟨none, ?_, rfl, nofun⟩
      exact .rule (.bothFailed _ changed)
  | some pair =>
      obtain ⟨name, middle⟩ := pair
      simp only [found] at unfolded
      have run := run_dotted identifierAt? cursor
      rw [unfolded] at changed run
      have afterKeys := keys
      rw [unfolded] at afterKeys
      have shorter := afterKeys.shorter rfl
      obtain ⟨more, after, optionalReads, moreRun⟩ := (brackets _ shorter).optional
      have whole := Derives.both (fun change result => change result) changed optionalReads
      refine ⟨some (_, after), .rule whole, rfl, ?_⟩
      intro segments last equality
      cases equality
      exact run.append moreRun

theorem not_dotted_of_bracket {found : PathSegment × Cursor}
    (bracket : bracket? identifierAt? cursor = some found) : dotName? cursor = none := by
  obtain ⟨place, rest⟩ := cursor
  cases rest with
  | nil => rfl
  | cons char rest =>
      by_cases dot : '.' = char
      · subst dot
        cases bracket
      · simp [dotName?, Cursor.literal?, dot]

theorem readsRun_array (inside : Inside identifierAt? cursor)
    (keys : ∀ later : Cursor, later.rest.length < cursor.rest.length →
      ReadsRun identifierAt? (.rule .arrayPart) later (dotName? later).isSome) :
    ReadsRun identifierAt? (.rule .array) cursor (bracket? identifierAt? cursor).isSome := by
  have bracket := reads_bracketed inside
  have changed := bracket.map fun index (more : Option (List PathSegment)) =>
    index :: more.getD []
  cases found : bracket? identifierAt? cursor with
  | none =>
      rw [found] at changed
      refine ⟨none, ?_, rfl, nofun⟩
      exact .rule (.bothFailed _ changed)
  | some pair =>
      obtain ⟨segment, middle⟩ := pair
      have shorter := (bracket.congr found).shorter rfl
      rw [found] at changed
      obtain ⟨more, after, optionalReads, moreRun⟩ := (keys _ shorter).optional
      have whole := Derives.both (fun change result => change result) changed optionalReads
      refine ⟨some (_, after), .rule whole, rfl, ?_⟩
      intro segments last equality
      cases equality
      apply Run.cons _ moreRun
      simp only [segment?, dotKey?_eq, not_dotted_of_bracket found, found, Option.map_none]

theorem readsRun (inside : Inside identifierAt? cursor) :
    ReadsRun identifierAt? (.rule .arrayPart) cursor (dotName? cursor).isSome ∧
      ReadsRun identifierAt? (.rule .array) cursor (bracket? identifierAt? cursor).isSome := by
  generalize bound : cursor.rest.length = count
  induction count using Nat.strongRecOn generalizing cursor with
  | _ count inductionHypothesis =>
      subst bound
      have shorterRuns := fun (later : Cursor) (laterLt : later.rest.length < cursor.rest.length) =>
        inductionHypothesis _ laterLt (inside.later (Nat.le_of_lt laterLt)) rfl
      constructor
      · exact readsRun_arrayPart fun later laterLt => (shorterRuns later laterLt).2
      · exact readsRun_array inside fun later laterLt => (shorterRuns later laterLt).1

/-- Where no step comes there is no run of steps; otherwise the single steps begin with the run. -/
theorem reads_steps (inside : Inside identifierAt? cursor) :
    (Reads steps cursor none ∧ cursor.many (segment? identifierAt?) = ([], cursor)) ∨
      ∃ segments middle, Reads steps cursor (some (segments, middle)) ∧ segments ≠ [] ∧
        cursor.many (segment? identifierAt?) =
          (segments ++ (middle.many (segment? identifierAt?)).1,
            (middle.many (segment? identifierAt?)).2) := by
  obtain ⟨⟨dottedFound, dottedReads, dottedComes, dottedRun⟩,
    ⟨bracketFound, bracketReads, bracketComes, bracketRun⟩⟩ := readsRun inside
  have stepsRead := dottedReads.choice bracketReads
  have single : ∀ later : Cursor, later.rest.length ≤ cursor.rest.length →
      Reads (PathSegment.key <$> dotted <|> bracketed) later (segment? identifierAt? later) :=
    fun later laterLe => reads_step (inside.later laterLe)
  cases found : dottedFound.or bracketFound with
  | none =>
      left
      obtain ⟨rfl, rfl⟩ := Option.or_eq_none_iff.1 found
      have noDot : dotName? cursor = none := by simpa using dottedComes.symm
      have noBracket : bracket? identifierAt? cursor = none := by simpa using bracketComes.symm
      refine ⟨stepsRead, ?_⟩
      rw [Reads.many_eq cursor single rfl]
      simp only [segment?, dotKey?_eq, noDot, noBracket, Option.map_none]
  | some pair =>
      right
      obtain ⟨segments, middle⟩ := pair
      have run : Run (segment? identifierAt?) cursor segments middle := by
        rcases Option.or_eq_some_iff.1 found with found | ⟨_, found⟩
        · exact dottedRun segments middle found
        · exact bracketRun segments middle found
      have shorter := (stepsRead.congr found).shorter rfl
      refine ⟨segments, middle, stepsRead.congr found, ?_, run.many_eq single rfl⟩
      rintro rfl
      cases run
      exact Nat.lt_irrefl _ shorter

/-- Runs of steps, one after the other, are the single steps one after the other. -/
theorem reads_manySteps (inside : Inside identifierAt? cursor) :
    ∃ runs, Reads (many steps) cursor
        (some (runs, (cursor.many (segment? identifierAt?)).2)) ∧
      runs.flatten = (cursor.many (segment? identifierAt?)).1 := by
  generalize bound : cursor.rest.length = count
  induction count using Nat.strongRecOn generalizing cursor with
  | _ count inductionHypothesis =>
      subst bound
      rcases reads_steps inside with ⟨noStep, ends⟩ | ⟨segments, middle, stepsRead, _, begins⟩
      · rw [ends]
        exact ⟨[], .starEnd noStep, rfl⟩
      · have shorter := stepsRead.shorter rfl
        obtain ⟨runs, goesOn, flat⟩ :=
          inductionHypothesis _ shorter (inside.later (Nat.le_of_lt shorter)) rfl
        rw [begins, ← flat]
        exact ⟨segments :: runs, .starMore stepsRead goesOn nofun, rfl⟩

theorem reads_atLeastOneSteps (inside : Inside identifierAt? cursor) :
    ∃ found, Reads (atLeastOne steps) cursor found ∧
      (found.map fun (runs, after) => (runs.flatten, after)) =
        nonempty? (cursor.many (segment? identifierAt?)) := by
  rcases reads_steps inside with ⟨noStep, ends⟩ | ⟨segments, middle, stepsRead, some_step, begins⟩
  · rw [ends]
    exact ⟨none, .bothFailed _ (noStep.map List.cons), rfl⟩
  · have shorter := stepsRead.shorter rfl
    obtain ⟨runs, goesOn, flat⟩ := reads_manySteps (inside.later (Nat.le_of_lt shorter))
    have whole := Derives.both (fun change result => change result) (stepsRead.map List.cons) goesOn
    refine ⟨some (segments :: runs, _), whole, ?_⟩
    rw [begins, ← flat]
    cases segments with
    | nil => exact absurd rfl some_step
    | cons first more => rfl

theorem reads_stepped {start : Cursor} {name : Option String}
    (begins : Reads (optional (.rule .key)) cursor (some (name, start)))
    (inside : Inside identifierAt? cursor) :
    Reads (pathOf <$> optional (.rule .key) <*> atLeastOne steps) cursor
      ((nonempty? (start.many (segment? identifierAt?))).map fun (segments, after) =>
        (pathOf name [segments], after)) := by
  obtain ⟨found, stepsRead, flat⟩ := reads_atLeastOneSteps (inside.later begins.notLonger)
  have whole := (begins.map pathOf).behind (fun change result => change result) stepsRead
  apply whole.congr
  rw [← flat, Option.map_map]
  cases found with
  | none => rfl
  | some pair => cases name <;> simp [pathOf]

theorem reads_steppedPath (inside : Inside identifierAt? cursor) :
    Reads (pathOf <$> optional (.rule .key) <*> atLeastOne steps) cursor
      (steppedPath? identifierAt? cursor) := by
  have begins := (reads_key cursor).optional
  cases found : key? cursor with
  | none =>
      rw [found] at begins
      apply (reads_stepped begins inside).congr
      simp only [steppedPath?, found]
      rcases cursor.many (segment? identifierAt?) with ⟨_ | ⟨segment, segments⟩, after⟩
      · rfl
      · simp [nonempty?, pathOf]
  | some pair =>
      obtain ⟨name, start⟩ := pair
      rw [found] at begins
      apply (reads_stepped begins inside).congr
      simp only [steppedPath?, found]
      rcases start.many (segment? identifierAt?) with ⟨_ | ⟨segment, segments⟩, after⟩
      · rfl
      · simp [nonempty?, pathOf]

theorem reads_dotPath (inside : Inside identifierAt? cursor) :
    Reads (pathOf none <$> (text ['.'] *> many steps)) cursor (dotPath? identifierAt? cursor) := by
  have dot := Reads.text ['.'] cursor
  cases found : cursor.literal? ['.'] with
  | none =>
      rw [found] at dot
      have fails : Reads (text ['.'] *> many steps) cursor none := .bothFailed _ dot
      apply (fails.map (pathOf none)).congr
      simp only [dotPath?, found, Option.map_none]
  | some start =>
      rw [found] at dot
      have shorter := dot.shorter rfl
      obtain ⟨runs, stepsRead, flat⟩ := reads_manySteps (inside.later (Nat.le_of_lt shorter))
      have whole := dot.behind (fun _ result => result) stepsRead
      apply (whole.map (pathOf none)).congr
      simp only [dotPath?, found, Option.map_some, pathOf, flat]

theorem reads_path (inside : Inside identifierAt? cursor) :
    Reads (.rule .path) cursor
      ((steppedPath? identifierAt? cursor).or (dotPath? identifierAt? cursor)) := by
  apply Derives.rule
  exact (reads_steppedPath inside).choice (reads_dotPath inside)

end Steps

theorem reads_identifierWithin (fuel : Nat) (cursor : Cursor)
    (enough : cursor.rest.length < fuel) :
    Reads (.rule .identifier) cursor (identifierWithin? fuel cursor) := by
  induction fuel generalizing cursor with
  | zero => omega
  | succ fuel inductionHypothesis =>
      have inside : Inside (identifierWithin? fuel) cursor :=
        fun later laterLt => inductionHypothesis later (by omega)
      have reads := (reads_path inside).choice ((reads_key cursor).map Identifier.key)
      apply Derives.rule
      apply reads.congr
      simp only [identifierWithin?]
      cases steppedPath? (identifierWithin? fuel) cursor with
      | some found => rfl
      | none => cases dotPath? (identifierWithin? fuel) cursor <;> rfl

theorem reads_identifier (cursor : Cursor) :
    Reads (.rule .identifier) cursor (identifier? cursor) :=
  reads_identifierWithin _ cursor (Nat.lt_succ_self _)

end BraceTemplate.Grammar
