import Mathlib.Data.List.Forall2
import BraceTemplate.Context

/-!
# Values that are alike

Values are alike where they are the same, but for the tags that texts with tags in them come from if
these are left open. The parameters of a tag and what frames hold are alike entry by entry, and so
is what is found in them.
-/

namespace BraceTemplate

namespace Value

/-- The same value; or, where it is left open which tag a text with tags comes from, the same such
text. -/
inductive Alike (loose : Prop) : Value → Value → Prop
  | same (value : Value) : Alike loose value value
  | passedOn (isLoose : loose) (program : Program) (body : BodyId) (stamp other : Stamp) :
      Alike loose (function (.inline program body stamp)) (function (.inline program body other))

/-- Parameters with the same keys and values that are alike. -/
def Params.Alike (loose : Prop) (one other : Params) : Prop :=
  List.Forall₂ (fun first second => second.1 = first.1 ∧ first.2.Alike loose second.2) one other

/-- What frames hold: values, or the parameters of a tag. -/
inductive HeadAlike (loose : Prop) : Value → Value → Prop
  | value {one other : Value} (alike : Alike loose one other) : HeadAlike loose one other
  | params {one other : Params} (alike : Params.Alike loose one other) :
      HeadAlike loose (object one) (object other)

section Alike

variable {loose : Prop} {one other : Value}

theorem Alike.eq (alike : Alike loose one other) (strict : ¬ loose) : other = one := by
  cases alike with
  | same value => rfl
  | passedOn isLoose program body stamp other => exact absurd isLoose strict

theorem Alike.isTruthy (alike : Alike loose one other) : other.isTruthy = one.isTruthy := by
  cases alike <;> rfl

theorem Alike.isEmpty (alike : Alike loose one other) : other.isEmpty = one.isEmpty := by
  cases alike <;> rfl

theorem Alike.kind (alike : Alike loose one other) : other.kind = one.kind := by
  cases alike <;> rfl

theorem Alike.display (alike : Alike loose one other) : other.display = one.display := by
  cases alike with
  | same value => rfl
  | passedOn isLoose program body stamp other => simp only [Value.display]

abbrev FoundAlike (loose : Prop) : Option Value → Option Value → Prop :=
  Option.Rel (Alike loose)

theorem foundAlike_refl (found : Option Value) : FoundAlike loose found found := by
  cases found with
  | none => exact .none
  | some value => exact .some (.same value)

theorem FoundAlike.split {found also : Option Value} (alike : FoundAlike loose found also) :
    (found = none ∧ also = none) ∨
      ∃ value another, found = some value ∧ also = some another ∧ Alike loose value another := by
  cases alike with
  | none => exact .inl ⟨rfl, rfl⟩
  | some values => exact .inr ⟨_, _, rfl, rfl, values⟩

theorem FoundAlike.bind {found also : Option Value} {next : Value → Option Value}
    (alike : FoundAlike loose found also)
    (each : ∀ value another, Alike loose value another →
      FoundAlike loose (next value) (next another)) :
    FoundAlike loose (found.bind next) (also.bind next) := by
  cases alike with
  | none => exact .none
  | some values => exact each _ _ values

end Alike

namespace Params

variable {loose : Prop} {one other : Params}

theorem alike_refl (params : Params) : Alike loose params params :=
  List.forall₂_same.mpr fun entry _ => ⟨rfl, .same entry.2⟩

theorem Alike.find? (alike : Alike loose one other) (key : String) :
    FoundAlike loose (one.find? key) (other.find? key) := by
  induction alike with
  | nil => exact .none
  | @cons first second _ _ entries _ inductionHypothesis =>
      obtain ⟨sameKey, values⟩ := entries
      rw [Members.find?_cons, Members.find?_cons, sameKey]
      by_cases found : first.1 = key
      · rw [if_pos found, if_pos found]
        exact .some values
      · rw [if_neg found, if_neg found]
        exact inductionHypothesis

theorem Alike.eq (alike : Alike loose one other) (strict : ¬ loose) : other = one := by
  induction alike with
  | nil => rfl
  | cons entries _ inductionHypothesis =>
      rw [inductionHypothesis, Prod.ext entries.1 (entries.2.eq strict)]

theorem Alike.isEmpty (alike : Alike loose one other) : other.isEmpty = one.isEmpty := by
  cases alike <;> rfl

theorem Alike.insert (alike : Alike loose one other) (key : String) {value another : Value}
    (values : Value.Alike loose value another) :
    Alike loose (one.insert key value) (other.insert key another) := by
  induction alike with
  | nil => exact .cons ⟨rfl, values⟩ .nil
  | @cons first second rest others entries alikeRest inductionHypothesis =>
      obtain ⟨firstKey, firstValue⟩ := first
      obtain ⟨secondKey, secondValue⟩ := second
      obtain rfl : secondKey = firstKey := entries.1
      unfold Members.insert
      by_cases same : key = secondKey
      · rw [if_pos same, if_pos same]
        exact .cons ⟨rfl, values⟩ alikeRest
      · rw [if_neg same, if_neg same]
        by_cases before : key < secondKey
        · rw [if_pos before, if_pos before]
          exact .cons ⟨rfl, values⟩ (.cons entries alikeRest)
        · rw [if_neg before, if_neg before]
          exact .cons entries inductionHypothesis

theorem Alike.ofList (alike : Alike loose one other) :
    Alike loose (Members.ofList one) (Members.ofList other) := by
  have gathering : ∀ gathered also : Params, Alike loose gathered also →
      Alike loose (one.foldl (fun members entry => members.insert entry.1 entry.2) gathered)
        (other.foldl (fun members entry => members.insert entry.1 entry.2) also) := by
    induction alike with
    | nil => exact fun _ _ gathered => gathered
    | @cons first second _ _ entries _ inductionHypothesis =>
        intro gathered also alikeSoFar
        refine inductionHypothesis _ _ ?_
        simp only [entries.1]
        exact alikeSoFar.insert _ entries.2
  exact gathering [] [] .nil

def MayYield (params : Params) (key : String) (value : Value) : Prop :=
  ∃ operand, params.find? key = some operand ∧ (operand.isFunction = false → value = operand)

end Params

namespace HeadAlike

variable {loose : Prop} {one other : Value}

theorem refl (value : Value) : HeadAlike loose value value :=
  .value (.same value)

theorem eq (alike : HeadAlike loose one other) (strict : ¬ loose) : other = one := by
  cases alike with
  | value values => exact values.eq strict
  | params entries => exact congrArg object (entries.eq strict)

theorem child? (alike : HeadAlike loose one other) (key : String) :
    FoundAlike loose (one.child? key) (other.child? key) := by
  cases alike with
  | value values =>
      cases values with
      | same value => exact foundAlike_refl _
      | passedOn isLoose program body stamp another => exact .none
  | params entries => exact entries.find? key

/-- Only the members of objects and arrays are found by their keys in a frame. -/
theorem memberOfFrame? (alike : HeadAlike loose one other) (key : String)
    (iteration also : Option Iteration) (select another : Option Value) :
    FoundAlike loose (Context.memberOfFrame? key ⟨one, iteration, select⟩)
      (Context.memberOfFrame? key ⟨other, also, another⟩) := by
  cases alike with
  | value values =>
      cases values with
      | same value => exact foundAlike_refl _
      | passedOn isLoose program body stamp another => exact .none
  | params entries => exact entries.find? key

end HeadAlike

end Value

end BraceTemplate
