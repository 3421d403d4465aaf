import BraceTemplate.Proofs.Grammar.Template

/-!
Readers and what the grammar derives. A reader that finds something is a match, one that finds
nothing a failure, and the ways in which expressions are put together are ways in which readers are.
-/

namespace BraceTemplate.Grammar

open Source Expression

def Outcome.ofOption {Result : Type} : Option (Result × Cursor) → Outcome Result
  | some (result, after) => .matched result after
  | none => .failed

abbrev Reads {Result : Type} (expression : Expression Rule Result) (cursor : Cursor)
    (found : Option (Result × Cursor)) : Prop :=
  Derives grammar expression cursor (.ofOption found)

def nonempty? {Result : Type} : List Result × Cursor → Option (List Result × Cursor)
  | ([], _) => none
  | (result :: results, after) => some (result :: results, after)

namespace Reads

variable {First Second Result : Type} {cursor : Cursor}

theorem congr {expression : Expression Rule Result} {found other : Option (Result × Cursor)}
    (reads : Reads expression cursor found) (equality : found = other) :
    Reads expression cursor other :=
  equality ▸ reads

theorem notLonger {expression : Expression Rule Result} {result : Result} {after : Cursor}
    (reads : Reads expression cursor (some (result, after))) :
    after.rest.length ≤ cursor.rest.length := by
  have takes := reads.takes takesChar_consistent
  simp only [Outcome.ofOption, Outcome.Takes] at takes
  omega

theorem shorter {expression : Expression Rule Result} {result : Result} {after : Cursor}
    (reads : Reads expression cursor (some (result, after)))
    (takes : expression.takesChar takesChar = true) :
    after.rest.length < cursor.rest.length := by
  have takesOne := reads.takes takesChar_consistent
  simp only [Outcome.ofOption, Outcome.Takes, takes, Bool.toNat_true] at takesOne
  omega

theorem suffix {expression : Expression Rule Result} {result : Result} {after : Cursor}
    (reads : Reads expression cursor (some (result, after))) : after.rest <:+ cursor.rest :=
  reads.leavesEnd

theorem position (cursor : Cursor) :
    Reads Expression.position cursor (some (cursor.position, cursor)) :=
  .here id cursor

theorem done (result : Result) (cursor : Cursor) :
    Reads (Expression.done result) cursor (some (result, cursor)) :=
  .here _ cursor

theorem map (change : First → Second) {item : Expression Rule First}
    {found : Option (First × Cursor)} (reads : Reads item cursor found) :
    Reads (change <$> item) cursor (found.map fun (result, after) => (change result, after)) := by
  have checked := Derives.check (fun result => some (change result)) reads
  cases found <;> exact checked

theorem check (test : First → Option Second) {item : Expression Rule First}
    {found : Option (First × Cursor)} (reads : Reads item cursor found) :
    Reads (.check test item) cursor
      (found.bind fun (result, after) => (test result).map fun changed => (changed, after)) := by
  have checked := Derives.check test reads
  cases found with
  | none => exact checked
  | some pair =>
      obtain ⟨result, after⟩ := pair
      simp only [Outcome.ofOption, Outcome.check] at checked
      simp only [Option.bind_some]
      cases accepted : test result <;> rw [accepted] at checked <;> exact checked

theorem behind (join : First → Second → Result) {first : Expression Rule First}
    {second : Expression Rule Second} {value : First} {middle : Cursor}
    {found : Option (Second × Cursor)} (firstReads : Reads first cursor (some (value, middle)))
    (secondReads : Reads second middle found) :
    Reads (.both join first second) cursor
      (found.map fun (other, after) => (join value other, after)) := by
  have joined := Derives.both join firstReads secondReads
  cases found <;> exact joined

/-- Reading one after the other, where the second reader is known at the cursors the first one
leaves. -/
theorem both (join : First → Second → Result) {first : Expression Rule First}
    {second : Expression Rule Second} {found : Option (First × Cursor)}
    {next : Cursor → Option (Second × Cursor)} (firstReads : Reads first cursor found)
    (secondReads : ∀ result middle, found = some (result, middle) →
      Reads second middle (next middle)) :
    Reads (.both join first second) cursor
      (found.bind fun (result, middle) =>
        (next middle).map fun (other, after) => (join result other, after)) := by
  cases found with
  | none => exact .bothFailed join firstReads
  | some pair =>
      obtain ⟨result, middle⟩ := pair
      exact firstReads.behind join (secondReads result middle rfl)

theorem choice {first second : Expression Rule Result} {found other : Option (Result × Cursor)}
    (firstReads : Reads first cursor found) (secondReads : Reads second cursor other) :
    Reads (first <|> second) cursor (found.or other) := by
  cases found with
  | none => exact .secondChoice firstReads secondReads
  | some pair => exact .firstChoice nofun firstReads

theorem optional {item : Expression Rule Result} {found : Option (Result × Cursor)}
    (reads : Reads item cursor found) :
    Reads (Expression.optional item) cursor
      ((found.map fun (result, after) => (some result, after)).or (some (none, cursor))) :=
  (reads.map some).choice (done none cursor)

theorem butNot {item : Expression Rule Result} {found : Option (Result × Cursor)}
    (reads : Reads item cursor found) :
    Reads (Expression.butNot item) cursor (if found.isSome then none else some ((), cursor)) := by
  have lookahead := Derives.absent () reads
  cases found <;> exact lookahead

theorem char (classify : Char → Option Result) (cursor : Cursor) :
    Reads (.char classify) cursor (cursor.classify? classify) := by
  cases found : cursor.classify? classify with
  | none => exact Derives.noChar classify cursor found
  | some pair => exact Derives.char classify cursor found

theorem oneOf (accepts : Char → Bool) (cursor : Cursor) :
    Reads (Expression.oneOf accepts) cursor (cursor.char? accepts) := by
  have reads := char (fun char => if accepts char then some char else none) cursor
  obtain ⟨place, rest⟩ := cursor
  cases rest with
  | nil => exact reads
  | cons char rest =>
      simp only [Cursor.classify?] at reads
      simp only [Cursor.char?]
      cases accepted : accepts char <;> rw [accepted] at reads <;> exact reads

theorem text (chars : List Char) (cursor : Cursor) :
    Reads (Expression.text chars) cursor
      ((cursor.literal? chars).map fun after => ((), after)) := by
  induction chars generalizing cursor with
  | nil => exact done () cursor
  | cons wanted more inductionHypothesis =>
      have first := char (fun char => if wanted = char then some () else none) cursor
      have reads := first.both (fun _ result => result)
        fun _ middle _ => inductionHypothesis middle
      apply reads.congr
      obtain ⟨place, rest⟩ := cursor
      cases rest with
      | nil => rfl
      | cons char rest =>
          by_cases same : wanted = char
          · simp [Cursor.classify?, Cursor.literal?, same, Option.map_map, Function.comp_def]
          · simp [Cursor.classify?, Cursor.literal?, same]

section Sequences

variable {item : Expression Rule Result} {next : Cursor → Option (Result × Cursor)}

theorem seq {first : Expression Rule (Result → Second)}
    {found : Option ((Result → Second) × Cursor)}
    (firstReads : Reads first cursor found) (reads : ∀ middle, Reads item middle (next middle)) :
    Reads (first <*> item) cursor (found.bind fun (change, middle) =>
      (next middle).map fun (result, after) => (change result, after)) :=
  firstReads.both _ fun _ middle _ => reads middle

theorem seqRight {first : Expression Rule First} {found : Option (First × Cursor)}
    (firstReads : Reads first cursor found) (reads : ∀ middle, Reads item middle (next middle)) :
    Reads (first *> item) cursor (found.bind fun (_, middle) => next middle) := by
  apply (firstReads.both (fun _ result => result) fun _ middle _ => reads middle).congr
  cases found with
  | none => rfl
  | some pair => cases found : next pair.2 <;> simp [found]

theorem afterText (chars : List Char) (cursor : Cursor)
    (reads : ∀ middle, Reads item middle (next middle)) :
    Reads (Expression.text chars *> item) cursor ((cursor.literal? chars).bind next) := by
  apply ((text chars cursor).seqRight reads).congr
  cases cursor.literal? chars <;> rfl

theorem beforeText (chars : List Char) {found : Option (Result × Cursor)}
    (reads : Reads item cursor found) :
    Reads (item <* Expression.text chars) cursor (found.bind fun (result, middle) =>
      (middle.literal? chars).map fun after => (result, after)) := by
  apply (reads.both (fun result _ => result) fun _ middle _ => text chars middle).congr
  cases found with
  | none => rfl
  | some pair => simp [Option.map_map, Function.comp_def]

end Sequences

section Repetitions

variable {item : Expression Rule Result} {reader : Cursor → Option (Result × Cursor)}

/-- A reader that takes a character whenever it finds something is repeated often enough where the
bound is the number of characters that are left. -/
theorem manyWithin (cursor : Cursor) (fuel : Nat) (enough : cursor.rest.length ≤ fuel)
    (reads : ∀ later : Cursor, later.rest.length ≤ cursor.rest.length →
      Reads item later (reader later))
    (takes : item.takesChar takesChar = true) :
    Reads (Expression.many item) cursor (some (Cursor.manyWithin reader fuel cursor)) := by
  induction fuel generalizing cursor with
  | zero =>
      cases found : reader cursor with
      | none =>
          have fails := (reads cursor (Nat.le_refl _)).congr found
          exact .starEnd fails
      | some pair =>
          obtain ⟨result, after⟩ := pair
          have shorter := ((reads cursor (Nat.le_refl _)).congr found).shorter takes
          omega
  | succ fuel inductionHypothesis =>
      cases found : reader cursor with
      | none =>
          have fails := (reads cursor (Nat.le_refl _)).congr found
          simp only [Cursor.manyWithin, found]
          exact .starEnd fails
      | some pair =>
          obtain ⟨result, after⟩ := pair
          have itemReads := (reads cursor (Nat.le_refl _)).congr found
          have shorter := itemReads.shorter takes
          have goesOn : Reads (Expression.many item) after
              (some (Cursor.manyWithin reader fuel after)) := by
            apply inductionHypothesis after (by omega)
            intro later laterLe
            exact reads later (by omega)
          simp only [Cursor.manyWithin, found]
          exact .starMore itemReads goesOn nofun

theorem many (cursor : Cursor)
    (reads : ∀ later : Cursor, later.rest.length ≤ cursor.rest.length →
      Reads item later (reader later))
    (takes : item.takesChar takesChar = true) :
    Reads (Expression.many item) cursor (some (cursor.many reader)) :=
  manyWithin cursor _ (Nat.le_refl _) reads takes

/-- A repetition unfolds into the first match and the repetition behind it. -/
theorem many_eq (cursor : Cursor)
    (reads : ∀ later : Cursor, later.rest.length ≤ cursor.rest.length →
      Reads item later (reader later))
    (takes : item.takesChar takesChar = true) :
    cursor.many reader = match reader cursor with
      | none => ([], cursor)
      | some (result, after) => (result :: (after.many reader).1, (after.many reader).2) := by
  have whole := many cursor reads takes
  cases found : reader cursor with
  | none =>
      have fails := (reads cursor (Nat.le_refl _)).congr found
      have ends := whole.functional (.starEnd fails)
      simp only [Outcome.ofOption, Outcome.matched.injEq] at ends
      exact Prod.ext ends.1 ends.2
  | some pair =>
      obtain ⟨result, after⟩ := pair
      have itemReads := (reads cursor (Nat.le_refl _)).congr found
      have shorter := itemReads.shorter takes
      have goesOn : Reads (Expression.many item) after (some (after.many reader)) := by
        exact many after (fun later laterLe => reads later (by omega)) takes
      have unfolded := whole.functional (.starMore itemReads goesOn nofun)
      simp only [Outcome.ofOption, Outcome.map, Outcome.matched.injEq] at unfolded
      exact Prod.ext unfolded.1 unfolded.2

theorem atLeastOne (cursor : Cursor)
    (reads : ∀ later : Cursor, later.rest.length ≤ cursor.rest.length →
      Reads item later (reader later))
    (takes : item.takesChar takesChar = true) :
    Reads (Expression.atLeastOne item) cursor (nonempty? (cursor.many reader)) := by
  have firstReads := (reads cursor (Nat.le_refl _)).map List.cons
  have moreReads : ∀ change middle,
      (reader cursor).map (fun (result, after) => (List.cons result, after)) =
        some (change, middle) →
      Reads (Expression.many item) middle (some (middle.many reader)) := by
    intro change middle found
    simp only [Option.map_eq_some_iff] at found
    obtain ⟨⟨result, after⟩, found, equality⟩ := found
    cases equality
    have notLonger := ((reads cursor (Nat.le_refl _)).congr found).notLonger
    exact many after (fun later laterLe => reads later (Nat.le_trans laterLe notLonger)) takes
  apply (firstReads.both (fun change result => change result) moreReads).congr
  rw [many_eq cursor reads takes]
  cases reader cursor <;> rfl

end Repetitions

end Reads

/-- A reader of single characters, repeated, is a run up to the first place where it stops. -/
theorem many_eq_takeUntil {stops : Cursor → Bool} {reader : Cursor → Option (Char × Cursor)}
    (single : ∀ cursor, reader cursor = if stops cursor then none else
      cursor.char? fun _ => true) (cursor : Cursor) :
    cursor.many reader = cursor.takeUntil stops := by
  obtain ⟨place, rest⟩ := cursor
  simp only [Cursor.many, Cursor.takeUntil]
  induction rest generalizing place with
  | nil => rfl
  | cons char rest inductionHypothesis =>
      simp only [List.length_cons, Cursor.manyWithin, Cursor.takeUntilFrom, single]
      cases stops ⟨place, char :: rest⟩ with
      | true => rfl
      | false =>
          simp only [Cursor.char?, Bool.false_eq_true, if_false, if_true]
          rw [inductionHypothesis]

theorem takeUntil_congr {stops other : Cursor → Bool}
    (agree : ∀ place char rest, stops ⟨place, char :: rest⟩ = other ⟨place, char :: rest⟩)
    (cursor : Cursor) : cursor.takeUntil stops = cursor.takeUntil other := by
  obtain ⟨place, rest⟩ := cursor
  simp only [Cursor.takeUntil]
  induction rest generalizing place with
  | nil => rfl
  | cons char rest inductionHypothesis =>
      simp only [Cursor.takeUntilFrom, agree, inductionHypothesis]

theorem many_char? (accepts : Char → Bool) (cursor : Cursor) :
    cursor.many (Cursor.char? accepts) = cursor.takeWhile accepts := by
  apply many_eq_takeUntil
  intro later
  obtain ⟨place, rest⟩ := later
  cases rest with
  | nil => rfl
  | cons char rest =>
      cases accepted : accepts char <;> simp [Cursor.char?, Cursor.startsWith, accepted]

namespace Reads

variable {Result : Type}

theorem manyOf (accepts : Char → Bool) (cursor : Cursor) :
    Reads (Expression.many (Expression.oneOf accepts)) cursor
      (some (cursor.takeWhile accepts)) := by
  have reads := many cursor (fun later _ => oneOf accepts later) rfl
  exact reads.congr (congrArg some (many_char? accepts cursor))

end Reads

def Looks (lookahead : Expression Rule Unit) (stops : Cursor → Bool) : Prop :=
  ∀ cursor, Reads lookahead cursor (if stops cursor then none else some ((), cursor))

namespace Looks

variable {Result : Type} {lookahead other : Expression Rule Unit} {stops otherStops : Cursor → Bool}

theorem butNot {item : Expression Rule Result} {reader : Cursor → Option (Result × Cursor)}
    (reads : ∀ cursor, Reads item cursor (reader cursor)) :
    Looks (Expression.butNot item) fun cursor => (reader cursor).isSome :=
  fun cursor => (reads cursor).butNot

theorem and (looks : Looks lookahead stops) (otherLooks : Looks other otherStops) :
    Looks (lookahead *> other) fun cursor => stops cursor || otherStops cursor := by
  intro cursor
  apply ((looks cursor).seqRight otherLooks).congr
  cases stopped : stops cursor <;> simp [stopped]

theorem anyChar (looks : Looks lookahead stops) (cursor : Cursor) :
    Reads (lookahead *> Expression.oneOf fun _ => true) cursor
      (if stops cursor then none else cursor.char? fun _ => true) := by
  apply ((looks cursor).seqRight (Reads.oneOf fun _ => true)).congr
  cases stops cursor <;> rfl

theorem many (looks : Looks lookahead stops) (cursor : Cursor) :
    Reads (Expression.many (lookahead *> Expression.oneOf fun _ => true)) cursor
      (some (cursor.takeUntil stops)) := by
  have repeated := Reads.many cursor (fun later _ => looks.anyChar later)
    (by simp [Expression.takesChar, SeqRight.seqRight, Expression.oneOf])
  exact repeated.congr (congrArg some (many_eq_takeUntil (fun _ => rfl) cursor))

theorem atLeastOne (looks : Looks lookahead stops) (cursor : Cursor) :
    Reads (Expression.atLeastOne (lookahead *> Expression.oneOf fun _ => true)) cursor
      (nonempty? (cursor.takeUntil stops)) := by
  have repeated := Reads.atLeastOne cursor (fun later _ => looks.anyChar later)
    (by simp [Expression.takesChar, SeqRight.seqRight, Expression.oneOf])
  exact repeated.congr (congrArg nonempty? (many_eq_takeUntil (fun _ => rfl) cursor))

end Looks

end BraceTemplate.Grammar
