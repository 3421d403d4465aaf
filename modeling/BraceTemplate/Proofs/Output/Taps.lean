import BraceTemplate.Proofs.Output.Handles

/-!
# What taps do

What passes taps leaves a text, and fills pots on its way. Behind a tap that fills a pot nothing but
the empty text passes: whatever stands there makes no difference to that pot, nor to later ones.
-/

namespace BraceTemplate.Output

namespace Tap

/-- The pots after a text has passed taps. -/
def filled : List Tap → String → Array String → Array String
  | [], _, pots => pots
  | change transform :: older, text, pots => filled older (transform text) pots
  | collect pot :: older, text, pots => filled older "" (pots.modify pot (· ++ text))

def upTo (pot : Nat) : List Tap → List Tap
  | [] => []
  | change transform :: older => change transform :: upTo pot older
  | collect other :: older =>
    if other = pot then [collect pot] else collect other :: upTo pot older

/-- Taps that make nothing of the empty text. -/
def AreSilent (taps : List Tap) : Prop :=
  passedAll taps "" = ""

/-- The pots from a number on are the same. -/
structure PotsAgree (bound : Nat) (one other : Array String) : Prop where
  size : other.size = one.size
  same : ∀ pot, bound ≤ pot → other[pot]? = one[pot]?

variable {pot bound : Nat} {taps front back : List Tap} {text : String}
variable {one other : Array String}

theorem passedAll_append :
    passedAll (front ++ back) text = passedAll back (passedAll front text) := by
  induction front generalizing text with
  | nil => rfl
  | cons newest rest inductionHypothesis => exact inductionHypothesis

theorem filled_append :
    filled (front ++ back) text one =
      filled back (passedAll front text) (filled front text one) := by
  induction front generalizing text one with
  | nil => rfl
  | cons newest rest inductionHypothesis =>
      cases newest with
      | change transform => exact inductionHypothesis
      | collect other => exact inductionHypothesis

theorem upTo_of_notMem (absent : collect pot ∉ taps) : upTo pot taps = taps := by
  induction taps with
  | nil => rfl
  | cons newest older inductionHypothesis =>
      simp only [List.mem_cons, not_or] at absent
      cases newest with
      | change transform => rw [upTo, inductionHypothesis absent.2]
      | collect other =>
          have different : other ≠ pot := fun same => absent.1 (same ▸ rfl)
          rw [upTo, if_neg different, inductionHypothesis absent.2]

theorem upTo_append (absent : collect pot ∉ front) :
    upTo pot (front ++ collect pot :: back) = front ++ [collect pot] := by
  induction front with
  | nil => exact if_pos rfl
  | cons newest rest inductionHypothesis =>
      simp only [List.mem_cons, not_or] at absent
      cases newest with
      | change transform => rw [List.cons_append, upTo, inductionHypothesis absent.2,
          List.cons_append]
      | collect other =>
          have different : other ≠ pot := fun same => absent.1 (same ▸ rfl)
          rw [List.cons_append, upTo, if_neg different, inductionHypothesis absent.2,
            List.cons_append]

theorem PotsAgree.fill (agree : PotsAgree bound one other) (pot : Nat) (text : String) :
    PotsAgree bound (one.modify pot (· ++ text)) (other.modify pot (· ++ text)) := by
  refine ⟨by simp [agree.size], fun found beyond => ?_⟩
  rw [Array.getElem?_modify, Array.getElem?_modify, agree.same found beyond]

theorem PotsAgree.filled (agree : PotsAgree bound one other) (taps : List Tap) (text : String) :
    PotsAgree bound (filled taps text one) (filled taps text other) := by
  induction taps generalizing text one other with
  | nil => exact agree
  | cons newest older inductionHypothesis =>
      cases newest with
      | change transform => exact inductionHypothesis agree _
      | collect pot => exact inductionHypothesis (agree.fill pot text) _

/-- Pots before the bound may be filled in one place only. -/
theorem PotsAgree.filledBefore (agree : PotsAgree bound one other)
    (known : ∀ pot, collect pot ∈ taps → pot < bound) (text : String) :
    PotsAgree bound (Tap.filled taps text one) other := by
  induction taps generalizing text one with
  | nil => exact agree
  | cons newest older inductionHypothesis =>
      have others := fun pot member => known pot (List.mem_cons_of_mem _ member)
      cases newest with
      | change transform => exact inductionHypothesis agree others _
      | collect pot =>
          have before := known pot List.mem_cons_self
          refine inductionHypothesis ⟨by simp [agree.size], fun found beyond => ?_⟩ others _
          rw [Array.getElem?_modify, if_neg (by omega), agree.same found beyond]

theorem size_filled : (filled taps text one).size = one.size := by
  induction taps generalizing text one with
  | nil => rfl
  | cons newest older inductionHypothesis =>
      cases newest with
      | change transform => exact inductionHypothesis
      | collect pot => exact inductionHypothesis.trans Array.size_modify

end Tap

namespace Writer

variable {Continuation Listener Client : Type}

def upTo (pot : Nat) (writer : Writer) : Writer :=
  { writer with taps := Tap.upTo pot writer.taps }

theorem upTo_tap {pot : Nat} {tap : Tap} (other : tap ≠ .collect pot) (writer : Writer) :
    (writer.tap tap).upTo pot = (writer.upTo pot).tap tap := by
  cases tap with
  | change transform => rfl
  | collect found =>
      have different : found ≠ pot := fun same => other (same ▸ rfl)
      exact congrArg (Writer.mk writer.outlet writer.segment) (if_neg different)

theorem run_passTaps (taps : List Tap) (text : String)
    (store : Store Continuation Listener Client) :
    passTaps taps text store =
      some (Tap.passedAll taps text, { store with pots := Tap.filled taps text store.pots }) := by
  induction taps generalizing store text with
  | nil => rfl
  | cons newest older inductionHypothesis =>
      cases newest with
      | change transform => exact inductionHypothesis (transform text) store
      | collect pot =>
          rw [passTaps, run_bind, run_fillPot, Option.bind_some, inductionHypothesis]
          rfl

end Writer

end BraceTemplate.Output
