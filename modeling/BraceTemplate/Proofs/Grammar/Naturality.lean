import BraceTemplate.Proofs.Grammar.Expression
import Mathlib.Data.List.Forall2

/-!
# Derivations do not depend on the place

Where the same characters are left, an expression derives the same outcome. Only an expression that
takes nothing can tell where it stands, so that results may differ in what they make of positions
and nowhere else: it is enough to know, rule by rule, in which sense results are the same.
-/

namespace BraceTemplate

/-- The same characters are left, wherever they start. -/
def Source.Cursor.Alike (first second : Cursor) : Prop :=
  first.rest = second.rest

namespace Grammar

open Source

/-- Two outcomes are of one sort, and matches are the same in a sense with the same left. -/
inductive Outcome.Alike {Result : Type} (same : Result → Result → Prop) :
    Outcome Result → Outcome Result → Prop
  | matched {result other : Result} {after otherAfter : Cursor} :
      same result other → after.Alike otherAfter →
      Outcome.Alike same (.matched result after) (.matched other otherAfter)
  | failed : Outcome.Alike same .failed .failed
  | aborted : Outcome.Alike same .aborted .aborted

namespace Expression

variable {Rule : Type → Type}
variable (rules : (Result : Type) → Rule Result → Result → Result → Prop)

/-- Results of an expression are the same in a sense wherever its parts are the same in some sense,
given in which sense the results of every rule are. -/
def Keeps {Result : Type} : Expression Rule Result → (Result → Result → Prop) → Prop
  | here result, same => ∀ position other, same (result position) (result other)
  | char classify, same => ∀ char result, classify char = some result → same result result
  | rule name, same => ∀ result other, rules Result name result other → same result other
  | both join first second, same => ∃ sameFirst sameSecond,
    first.Keeps sameFirst ∧ second.Keeps sameSecond ∧
      ∀ one other, sameFirst one other → ∀ next otherNext, sameSecond next otherNext →
        same (join one next) (join other otherNext)
  | choice first second, same => first.Keeps same ∧ second.Keeps same
  | star collect item, same => ∃ sameItem, item.Keeps sameItem ∧
    ∀ items others, List.Forall₂ sameItem items others → same (collect items) (collect others)
  | absent result item, same => (∃ sameItem, item.Keeps sameItem) ∧ same result result
  | check test item, same => ∃ sameFirst, item.Keeps sameFirst ∧
    ∀ one other, sameFirst one other → Option.Rel same (test one) (test other)
  | demand test item, same => ∃ sameFirst, item.Keeps sameFirst ∧
    ∀ one other, sameFirst one other → Option.Rel same (test one) (test other)

def Plain (plain : (Result : Type) → Rule Result → Prop) {Result : Type} :
    Expression Rule Result → Prop
  | here result => ∀ position other, result position = result other
  | char _ => True
  | rule name => plain Result name
  | both _ first second => first.Plain plain ∧ second.Plain plain
  | choice first second => first.Plain plain ∧ second.Plain plain
  | star _ item => item.Plain plain
  | absent _ item => item.Plain plain
  | check _ item => item.Plain plain
  | demand _ item => item.Plain plain

variable {plain : (Result : Type) → Rule Result → Prop}

/-- Where no result tells a position, results are kept as they are. -/
theorem Plain.keeps (equal : ∀ (Result : Type) (name : Rule Result), plain Result name →
      rules Result name = Eq) {Result : Type} {expression : Expression Rule Result}
    (isPlain : expression.Plain plain) : expression.Keeps rules Eq := by
  induction expression with
  | here result => exact isPlain
  | char classify => exact fun _ _ _ => rfl
  | rule name =>
      intro result other same
      rw [equal _ name isPlain] at same
      exact same
  | both join first second firstHypothesis secondHypothesis =>
      refine ⟨Eq, Eq, firstHypothesis isPlain.1, secondHypothesis isPlain.2, ?_⟩
      rintro one _ rfl next _ rfl
      rfl
  | choice first second firstHypothesis secondHypothesis =>
      exact ⟨firstHypothesis isPlain.1, secondHypothesis isPlain.2⟩
  | star collect item inductionHypothesis =>
      refine ⟨Eq, inductionHypothesis isPlain, ?_⟩
      intro items others same
      rw [List.forall₂_eq_eq_eq] at same
      exact congrArg collect same
  | absent result item inductionHypothesis =>
      exact ⟨⟨Eq, inductionHypothesis isPlain⟩, rfl⟩
  | check test item inductionHypothesis =>
      refine ⟨Eq, inductionHypothesis isPlain, ?_⟩
      rintro one _ rfl
      cases test one with
      | none => exact .none
      | some changed => exact .some rfl
  | demand test item inductionHypothesis =>
      refine ⟨Eq, inductionHypothesis isPlain, ?_⟩
      rintro one _ rfl
      cases test one with
      | none => exact .none
      | some changed => exact .some rfl

end Expression

theorem classify?_alike {Kind : Type} {kindOf : Char → Option Kind} {here there after : Cursor}
    {kind : Kind} (alike : here.Alike there) (found : here.classify? kindOf = some (kind, after)) :
    ∃ other, there.classify? kindOf = some (kind, other) ∧ after.Alike other ∧
      ∃ char, kindOf char = some kind := by
  obtain ⟨place, rest⟩ := here
  obtain ⟨otherPlace, _⟩ := there
  cases alike
  cases rest with
  | nil => cases found
  | cons char rest =>
      simp only [Cursor.classify?, Option.map_eq_some_iff] at found
      obtain ⟨kind, classified, equality⟩ := found
      cases equality
      refine ⟨⟨otherPlace.advance char, rest⟩, ?_, rfl, char, classified⟩
      simp only [Cursor.classify?, classified, Option.map_some]

theorem classify?_eq_none_alike {Kind : Type} {kindOf : Char → Option Kind} {here there : Cursor}
    (alike : here.Alike there) (notFound : here.classify? kindOf = none) :
    there.classify? kindOf = none := by
  cases found : there.classify? kindOf with
  | none => rfl
  | some pair =>
      obtain ⟨other, foundHere, _⟩ := classify?_alike alike.symm found
      rw [notFound] at foundHere
      cases foundHere

namespace Outcome.Alike

variable {First Second : Type}
variable {same : First → First → Prop} {sameSecond : Second → Second → Prop}
variable {outcome other : Outcome First}

theorem map {change otherChange : First → Second} (alike : outcome.Alike same other)
    (changed : ∀ one next, same one next → sameSecond (change one) (otherChange next)) :
    (outcome.map change).Alike sameSecond (other.map otherChange) := by
  cases alike with
  | matched sameResult afterAlike => exact .matched (changed _ _ sameResult) afterAlike
  | failed => exact .failed
  | aborted => exact .aborted

theorem check {test : First → Option Second} (alike : outcome.Alike same other)
    (tested : ∀ one next, same one next → Option.Rel sameSecond (test one) (test next)) :
    (outcome.check test).Alike sameSecond (other.check test) := by
  cases alike with
  | failed => exact .failed
  | aborted => exact .aborted
  | @matched result other after otherAfter sameResult afterAlike =>
      have related := tested _ _ sameResult
      simp only [Outcome.check]
      generalize test result = first at related ⊢
      generalize test other = second at related ⊢
      cases related with
      | none => exact .failed
      | some sameChanged => exact .matched sameChanged afterAlike

theorem demand {test : First → Option Second} (alike : outcome.Alike same other)
    (tested : ∀ one next, same one next → Option.Rel sameSecond (test one) (test next)) :
    (outcome.demand test).Alike sameSecond (other.demand test) := by
  cases alike with
  | failed => exact .failed
  | aborted => exact .aborted
  | @matched result other after otherAfter sameResult afterAlike =>
      have related := tested _ _ sameResult
      simp only [Outcome.demand]
      generalize test result = first at related ⊢
      generalize test other = second at related ⊢
      cases related with
      | none => exact .aborted
      | some sameChanged => exact .matched sameChanged afterAlike

theorem absent {result : Second} {here there : Cursor} (alike : outcome.Alike same other)
    (sameResult : sameSecond result result) (cursorsAlike : here.Alike there) :
    (outcome.absent result here).Alike sameSecond (other.absent result there) := by
  cases alike with
  | matched => exact .failed
  | failed => exact .matched sameResult cursorsAlike
  | aborted => exact .aborted

end Outcome.Alike

/-- Where the same characters are left, an expression derives the same. -/
theorem Derives.alike {Rule : Type → Type} {table : Table Rule}
    {rules : (Result : Type) → Rule Result → Result → Result → Prop}
    (consistent : ∀ (Result : Type) (name : Rule Result),
      (table Result name).Keeps rules (rules Result name))
    {Result : Type} {expression : Expression Rule Result} {here there : Cursor}
    {outcome : Outcome Result} {same : Result → Result → Prop}
    (derivation : Derives table expression here outcome) (keeps : expression.Keeps rules same)
    (alike : here.Alike there) :
    ∃ other, Derives table expression there other ∧ outcome.Alike same other := by
  induction derivation generalizing there with
  | here result cursor => exact ⟨_, .here result there, .matched (keeps _ _) alike⟩
  | char classify cursor found =>
      obtain ⟨other, foundThere, afterAlike, char, classified⟩ := classify?_alike alike found
      exact ⟨_, .char classify there foundThere, .matched (keeps char _ classified) afterAlike⟩
  | noChar classify cursor notFound =>
      exact ⟨_, .noChar classify there (classify?_eq_none_alike alike notFound), .failed⟩
  | @rule _ name _ _ _ inductionHypothesis =>
      obtain ⟨other, derived, outcomeAlike⟩ := inductionHypothesis (consistent _ name) alike
      refine ⟨other, .rule derived, ?_⟩
      cases outcomeAlike with
      | matched sameResult afterAlike => exact .matched (keeps _ _ sameResult) afterAlike
      | failed => exact .failed
      | aborted => exact .aborted
  | both join _ _ firstHypothesis secondHypothesis =>
      obtain ⟨sameFirst, sameSecond, firstKeeps, secondKeeps, joined⟩ := keeps
      obtain ⟨_, firstDerived, firstAlike⟩ := firstHypothesis firstKeeps alike
      cases firstAlike with
      | matched sameValue middleAlike =>
          obtain ⟨other, secondDerived, secondAlike⟩ := secondHypothesis secondKeeps middleAlike
          have wholeAlike := secondAlike.map (joined _ _ sameValue)
          exact ⟨_, .both join firstDerived secondDerived, wholeAlike⟩
  | bothFailed join _ firstHypothesis =>
      obtain ⟨sameFirst, sameSecond, firstKeeps, -, -⟩ := keeps
      obtain ⟨_, firstDerived, firstAlike⟩ := firstHypothesis firstKeeps alike
      cases firstAlike
      exact ⟨_, .bothFailed join firstDerived, .failed⟩
  | bothAborted join _ firstHypothesis =>
      obtain ⟨sameFirst, sameSecond, firstKeeps, -, -⟩ := keeps
      obtain ⟨_, firstDerived, firstAlike⟩ := firstHypothesis firstKeeps alike
      cases firstAlike
      exact ⟨_, .bothAborted join firstDerived, .aborted⟩
  | firstChoice notFailed _ inductionHypothesis =>
      obtain ⟨other, derived, outcomeAlike⟩ := inductionHypothesis keeps.1 alike
      refine ⟨other, .firstChoice ?_ derived, outcomeAlike⟩
      rintro rfl
      cases outcomeAlike
      exact notFailed rfl
  | secondChoice _ _ firstHypothesis secondHypothesis =>
      obtain ⟨_, firstDerived, firstAlike⟩ := firstHypothesis keeps.1 alike
      cases firstAlike
      obtain ⟨other, derived, outcomeAlike⟩ := secondHypothesis keeps.2 alike
      exact ⟨other, .secondChoice firstDerived derived, outcomeAlike⟩
  | @star _ _ collect item _ _ _ inductionHypothesis =>
      obtain ⟨sameItem, itemKeeps, collected⟩ := keeps
      have repeated : (Expression.star id item).Keeps rules (List.Forall₂ sameItem) :=
        ⟨sameItem, itemKeeps, fun _ _ same => same⟩
      have unfolded : (Expression.choice (.both List.cons item (.star id item))
          (.here fun _ => [])).Keeps rules (List.Forall₂ sameItem) :=
        ⟨⟨sameItem, List.Forall₂ sameItem, itemKeeps, repeated,
          fun _ _ sameFirst _ _ sameMore => .cons sameFirst sameMore⟩, fun _ _ => .nil⟩
      obtain ⟨other, derived, outcomeAlike⟩ := inductionHypothesis unfolded alike
      exact ⟨_, .star collect derived, outcomeAlike.map collected⟩
  | absent result _ inductionHypothesis =>
      obtain ⟨⟨sameItem, itemKeeps⟩, sameResult⟩ := keeps
      obtain ⟨other, derived, outcomeAlike⟩ := inductionHypothesis itemKeeps alike
      exact ⟨_, .absent result derived, outcomeAlike.absent sameResult alike⟩
  | check test _ inductionHypothesis =>
      obtain ⟨sameFirst, itemKeeps, tested⟩ := keeps
      obtain ⟨other, derived, outcomeAlike⟩ := inductionHypothesis itemKeeps alike
      exact ⟨_, .check test derived, outcomeAlike.check tested⟩
  | demand test _ inductionHypothesis =>
      obtain ⟨sameFirst, itemKeeps, tested⟩ := keeps
      obtain ⟨other, derived, outcomeAlike⟩ := inductionHypothesis itemKeeps alike
      exact ⟨_, .demand test derived, outcomeAlike.demand tested⟩

end Grammar

end BraceTemplate
