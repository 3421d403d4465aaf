import BraceTemplate.Proofs.Grammar.Readers

/-!
# What follows the characters an expression reads

An expression that takes no character of one kind derives the same in front of everything that
starts with such a character, and at the end.
-/

namespace BraceTemplate

def Source.Cursor.followedBy (cursor : Cursor) (tail : List Char) : Cursor :=
  ⟨cursor.place, cursor.rest ++ tail⟩

namespace Grammar

open Source

def Stops (barrier : Char) (tail : List Char) : Prop :=
  ∀ char ∈ tail.head?, char = barrier

theorem stops_nil (barrier : Char) : Stops barrier [] :=
  nofun

theorem stops_cons (barrier : Char) (more : List Char) : Stops barrier (barrier :: more) := by
  intro char member
  cases member
  rfl

@[simp]
theorem followedBy_nil (cursor : Cursor) : cursor.followedBy [] = cursor := by
  simp [Cursor.followedBy]

theorem followedBy_cancel {first second : Cursor} {tail : List Char}
    (same : first.followedBy tail = second.followedBy tail) : first = second := by
  obtain ⟨place, rest⟩ := first
  obtain ⟨otherPlace, otherRest⟩ := second
  simp only [Cursor.followedBy, Cursor.mk.injEq, List.append_cancel_right_eq] at same
  simp only [same]

/-- Where what is left ends as another cursor with a tail behind it, it has the tail behind it. -/
theorem exists_followedBy {middle after : Cursor} {tail : List Char}
    (suffix : (after.followedBy tail).rest <:+ middle.rest) :
    ∃ cursor : Cursor, middle = cursor.followedBy tail ∧ after.rest <:+ cursor.rest := by
  obtain ⟨taken, rest⟩ := suffix
  refine ⟨⟨middle.place, taken ++ after.rest⟩, ?_, List.suffix_append _ _⟩
  simp only [Cursor.followedBy] at rest ⊢
  rw [List.append_assoc, rest]

namespace Expression

def avoids {Rule : Type → Type} (barrier : Char)
    (rules : (Result : Type) → Rule Result → Bool) {Result : Type} : Expression Rule Result → Bool
  | here _ => true
  | char classify => (classify barrier).isNone
  | rule name => rules Result name
  | both _ first second => first.avoids barrier rules && second.avoids barrier rules
  | choice first second => first.avoids barrier rules && second.avoids barrier rules
  | star _ item => item.avoids barrier rules
  | absent _ item => item.avoids barrier rules
  | check _ item => item.avoids barrier rules
  | demand _ item => item.avoids barrier rules

end Expression

namespace Outcome

variable {First Second : Type} {tail : List Char}

def followedBy (tail : List Char) : Outcome First → Outcome First
  | matched result after => matched result (after.followedBy tail)
  | failed => failed
  | aborted => aborted

theorem followedBy_map (change : First → Second) (outcome : Outcome First) :
    (outcome.map change).followedBy tail = (outcome.followedBy tail).map change := by
  cases outcome <;> rfl

theorem followedBy_absent (result : Second) (cursor : Cursor) (outcome : Outcome First) :
    (outcome.absent result cursor).followedBy tail =
      (outcome.followedBy tail).absent result (cursor.followedBy tail) := by
  cases outcome <;> rfl

theorem followedBy_check (test : First → Option Second) (outcome : Outcome First) :
    (outcome.check test).followedBy tail = (outcome.followedBy tail).check test := by
  cases outcome with
  | matched result after =>
      simp only [check, followedBy]
      cases test result <;> rfl
  | failed => rfl
  | aborted => rfl

theorem followedBy_demand (test : First → Option Second) (outcome : Outcome First) :
    (outcome.demand test).followedBy tail = (outcome.followedBy tail).demand test := by
  cases outcome with
  | matched result after =>
      simp only [demand, followedBy]
      cases test result <;> rfl
  | failed => rfl
  | aborted => rfl

end Outcome

section Character

variable {Kind : Type} {kindOf : Char → Option Kind} {cursor after : Cursor} {kind : Kind}
variable {barrier : Char} {tail : List Char}

theorem classify?_followedBy (found : cursor.classify? kindOf = some (kind, after)) :
    (cursor.followedBy tail).classify? kindOf = some (kind, after.followedBy tail) := by
  obtain ⟨place, rest⟩ := cursor
  cases rest with
  | nil => cases found
  | cons char rest =>
      simp only [Cursor.classify?, Option.map_eq_some_iff] at found
      obtain ⟨_, classified, equality⟩ := found
      cases equality
      simp only [Cursor.followedBy, List.cons_append, Cursor.classify?, classified, Option.map_some]

theorem classify?_followedBy_eq_none (stops : Stops barrier tail)
    (rejected : (kindOf barrier).isNone = true) (notFound : cursor.classify? kindOf = none) :
    (cursor.followedBy tail).classify? kindOf = none := by
  obtain ⟨place, rest⟩ := cursor
  cases rest with
  | cons char rest =>
      simp only [Cursor.classify?, Option.map_eq_none_iff] at notFound
      simp only [Cursor.followedBy, List.cons_append, Cursor.classify?, notFound, Option.map_none]
  | nil =>
      cases tail with
      | nil => rfl
      | cons char more =>
          cases stops char rfl
          simp only [Cursor.followedBy, List.nil_append, Cursor.classify?,
            Option.isNone_iff_eq_none.1 rejected, Option.map_none]

end Character

/-- An expression that avoids a character derives the same in front of it as at the end. -/
theorem Derives.followedBy {Rule : Type → Type} {table : Table Rule} {barrier : Char}
    {rules : (Result : Type) → Rule Result → Bool} {tail : List Char}
    (consistent : ∀ (Result : Type) (name : Rule Result),
      rules Result name = true → (table Result name).avoids barrier rules = true)
    (stops : Stops barrier tail) {Result : Type} {expression : Expression Rule Result}
    {cursor : Cursor} {outcome : Outcome Result}
    (derivation : Derives table expression cursor outcome)
    (avoids : expression.avoids barrier rules = true) :
    Derives table expression (cursor.followedBy tail) (outcome.followedBy tail) := by
  induction derivation with
  | here result cursor => exact .here result (cursor.followedBy tail)
  | char classify cursor found => exact .char classify _ (classify?_followedBy found)
  | noChar classify cursor notFound =>
      exact .noChar classify _ (classify?_followedBy_eq_none stops avoids notFound)
  | @rule _ name _ _ _ inductionHypothesis =>
      exact .rule (inductionHypothesis (consistent _ name avoids))
  | both join _ _ firstHypothesis secondHypothesis =>
      obtain ⟨first, second⟩ := Bool.and_eq_true_iff.1 avoids
      rw [Outcome.followedBy_map]
      exact .both join (firstHypothesis first) (secondHypothesis second)
  | bothFailed join _ firstHypothesis =>
      exact .bothFailed join (firstHypothesis (Bool.and_eq_true_iff.1 avoids).1)
  | bothAborted join _ firstHypothesis =>
      exact .bothAborted join (firstHypothesis (Bool.and_eq_true_iff.1 avoids).1)
  | @firstChoice _ _ _ _ outcome notFailed _ inductionHypothesis =>
      have derived := inductionHypothesis (Bool.and_eq_true_iff.1 avoids).1
      refine .firstChoice ?_ derived
      cases outcome with
      | failed => exact notFailed
      | matched => nofun
      | aborted => nofun
  | secondChoice _ _ firstHypothesis secondHypothesis =>
      obtain ⟨first, second⟩ := Bool.and_eq_true_iff.1 avoids
      exact .secondChoice (firstHypothesis first) (secondHypothesis second)
  | @star _ _ collect item _ _ _ inductionHypothesis =>
      have unfolded : (Expression.choice (.both List.cons item (.star id item))
          (.here fun _ => [])).avoids barrier rules = true := by
        simpa only [Expression.avoids, Bool.and_true, Bool.and_self] using avoids
      rw [Outcome.followedBy_map]
      exact .star collect (inductionHypothesis unfolded)
  | absent result _ inductionHypothesis =>
      rw [Outcome.followedBy_absent]
      exact .absent result (inductionHypothesis avoids)
  | check test _ inductionHypothesis =>
      rw [Outcome.followedBy_check]
      exact .check test (inductionHypothesis avoids)
  | demand test _ inductionHypothesis =>
      rw [Outcome.followedBy_demand]
      exact .demand test (inductionHypothesis avoids)

def avoidsBrace : (Result : Type) → Rule Result → Bool
  | _, .context => true
  | _, .filters => true
  | _, .identifier => true
  | _, .number => true
  | _, .float => true
  | _, .integer => true
  | _, .path => true
  | _, .key => true
  | _, .array => true
  | _, .arrayPart => true
  | _, .lineEnd => true
  | _, .gap => true
  | _, _ => false

theorem avoidsBrace_consistent (Result : Type) (name : Rule Result)
    (avoids : avoidsBrace Result name = true) :
    (grammar Result name).avoids '{' avoidsBrace = true := by
  cases name <;> first | rfl | cases avoids

def StopsAtBrace {Result : Type} (reader : Cursor → Option (Result × Cursor)) (cursor : Cursor) :
    Prop :=
  ∀ tail, Stops '{' tail → reader (cursor.followedBy tail) =
    (reader cursor).map fun (result, after) => (result, after.followedBy tail)

theorem Reads.stopsAtBrace {Result : Type} {expression : Expression Rule Result}
    {reader : Cursor → Option (Result × Cursor)}
    (reads : ∀ cursor, Reads expression cursor (reader cursor))
    (avoids : expression.avoids '{' avoidsBrace = true) (cursor : Cursor) :
    StopsAtBrace reader cursor := by
  intro tail stops
  have derived := Derives.followedBy avoidsBrace_consistent stops (reads cursor) avoids
  have same := (reads (cursor.followedBy tail)).functional derived
  cases here : reader cursor with
  | none =>
      cases there : reader (cursor.followedBy tail) with
      | none => rfl
      | some pair =>
          rw [here, there] at same
          cases same
  | some pair =>
      cases there : reader (cursor.followedBy tail) with
      | none =>
          rw [here, there] at same
          cases same
      | some other =>
          rw [here, there] at same
          simp only [Outcome.ofOption, Outcome.followedBy, Outcome.matched.injEq] at same
          exact congrArg some (Prod.ext same.1 same.2)

end Grammar

end BraceTemplate
