import BraceTemplate.Proofs.Output.Branches
import Mathlib.Logic.Function.Basic

/-!
# What an outlet still waits for

An outlet that gathers waits for its open segments. Where the texts are known that are to come on
them, so is the text of the outlet in the end, in whatever order they come.
-/

namespace BraceTemplate.Output

abbrev Debts := List (Nat × String)

def Coming.Pays (coming : Coming) (debts : Debts) : Prop :=
  ∀ debt ∈ debts, coming debt.1 = debt.2

theorem Coming.Pays.of_perm {coming : Coming} {debts others : Debts} (pays : coming.Pays debts)
    (same : debts.Perm others) : coming.Pays others :=
  fun debt member => pays debt (same.mem_iff.mpr member)

@[simp]
theorem Coming.pays_nil (coming : Coming) : coming.Pays [] :=
  fun _ member => absurd member List.not_mem_nil

theorem Coming.pays_append {coming : Coming} {debts others : Debts} :
    coming.Pays (debts ++ others) ↔ coming.Pays debts ∧ coming.Pays others :=
  List.forall_mem_append

/-- An outlet waits for the texts on its open segments; with them its text is the given one. -/
structure Gathering.Awaits {Continuation : Type} (gathering : Gathering Continuation)
    (debts : Debts) (text : String) : Prop where
  orderly : Segment.Orderly gathering.waiting gathering.nextNumber
  opens : (Segment.openNumbers gathering.waiting).Perm (debts.map Prod.fst)
  equation : ∀ coming : Coming, coming.Pays debts → gathering.total coming = text

/-- The same, seen from one segment, where a text is still to be written; the others are open too.
-/
structure Spot.Awaits {Continuation : Type} (spot : Spot Continuation) (others : Debts)
    (left text : String) : Prop where
  opens : (Segment.openNumbers spot.before ++ Segment.openNumbers spot.behind).Perm
    (others.map Prod.fst)
  equation : ∀ coming : Coming, coming.Pays others →
    spot.sofar coming ++ left ++ Segment.totals coming spot.behind = text

section Awaiting

variable {Continuation : Type} {gathering : Gathering Continuation} {spot : Spot Continuation}
variable {debts others : Debts} {number : Nat} {left text : String}

theorem Gathering.Awaits.of_perm (awaits : gathering.Awaits debts text)
    (same : debts.Perm others) : gathering.Awaits others text :=
  ⟨awaits.orderly, awaits.opens.trans (same.map Prod.fst),
    fun coming pays => awaits.equation coming (pays.of_perm same.symm)⟩

theorem Gathering.Awaits.exists_spot (awaits : gathering.Awaits ((number, left) :: others) text) :
    ∃ spot : Spot Continuation,
      spot.gathering = gathering ∧ spot.segment.number = number ∧ spot.segment.ended = false ∧
        spot.Awaits others left text := by
  have openHere : number ∈ Segment.openNumbers gathering.waiting :=
    awaits.opens.mem_iff.mpr (by simp)
  obtain ⟨earlier, segment, later, split, sameNumber, unended⟩ :=
    Segment.split_of_mem_openNumbers openHere
  obtain ⟨passed, waiting, nextNumber, again, gathered, onResult⟩ := gathering
  have orderly := awaits.orderly
  have opens := awaits.opens
  simp only at split orderly opens
  subst split
  have notEarlier : number ∉ Segment.openNumbers earlier := fun member =>
    orderly.notMem_before (sameNumber ▸ Segment.mem_numbers_of_mem_openNumbers member)
  have notLater : number ∉ Segment.openNumbers later := fun member =>
    orderly.notMem_behind (sameNumber ▸ Segment.mem_numbers_of_mem_openNumbers member)
  have rest : (Segment.openNumbers earlier ++ Segment.openNumbers later).Perm
      (others.map Prod.fst) := by
    rw [Segment.openNumbers_append, Segment.openNumbers_cons_of_open unended, sameNumber]
      at opens
    exact (List.perm_middle.symm.trans opens).cons_inv
  refine ⟨⟨passed, earlier, segment, later, nextNumber, again, gathered, onResult⟩, rfl,
    sameNumber, unended, rest, ?_⟩
  intro coming pays
  let whole : Coming := Function.update coming number left
  have different : ∀ other, other ≠ number → whole other = coming other :=
    fun other unequal => Function.update_of_ne unequal _ _
  have paysAll : whole.Pays ((number, left) :: others) := by
    intro debt member
    rcases List.mem_cons.mp member with rfl | other
    · exact Function.update_self _ _ _
    · have elsewhere : debt.1 ≠ number := by
        intro same
        have listed : number ∈ others.map Prod.fst := List.mem_map.mpr ⟨debt, other, same⟩
        rcases List.mem_append.mp (rest.mem_iff.mpr listed) with found | found
        · exact notEarlier found
        · exact notLater found
      rw [different _ elsewhere, pays debt other]
  have total := awaits.equation whole paysAll
  have sameEarlier : Segment.totals whole earlier = Segment.totals coming earlier :=
    Segment.totals_congr fun other member =>
      different other fun same => notEarlier (same ▸ member)
  have sameLater : Segment.totals whole later = Segment.totals coming later :=
    Segment.totals_congr fun other member =>
      different other fun same => notLater (same ▸ member)
  have here : segment.total whole = segment.text ++ left := by
    simp [Segment.total, unended, sameNumber, whole]
  simpa [Gathering.total, Spot.sofar, sameEarlier, sameLater, here, String.append_assoc] using total

/-- What is still to be written at a spot is to come on its segment. -/
theorem Spot.Awaits.gathering_awaits (awaits : spot.Awaits others left text)
    (unended : spot.segment.ended = false)
    (orderly : Segment.Orderly spot.gathering.waiting spot.nextNumber) :
    spot.gathering.Awaits ((spot.segment.number, left) :: others) text := by
  refine ⟨orderly, ?_, ?_⟩
  · simp only [Spot.gathering, Segment.openNumbers_append,
      Segment.openNumbers_cons_of_open unended, List.map_cons]
    exact List.perm_middle.trans (awaits.opens.cons _)
  · intro coming pays
    have here : coming spot.segment.number = left := pays _ (List.mem_cons_self ..)
    have equation := awaits.equation coming fun debt member =>
      pays debt (List.mem_cons_of_mem _ member)
    simpa [Gathering.total, Spot.gathering, Spot.sofar, Segment.total, unended, here,
      String.append_assoc] using equation

theorem Spot.Awaits.written {first : String}
    (awaits : spot.Awaits others (first ++ left) text) :
    (spot.written first).Awaits others left text := by
  refine ⟨awaits.opens, fun coming pays => ?_⟩
  have equation := awaits.equation coming pays
  rw [Spot.sofar_written]
  simpa [Spot.written, String.append_assoc] using equation

/-- After a fork there is one part to come on the branch and one behind it. -/
theorem Spot.Awaits.onBranch_awaits {first : String}
    (awaits : spot.Awaits others (first ++ left) text)
    (orderly : Segment.Orderly spot.onBranch.gathering.waiting spot.onBranch.nextNumber) :
    spot.onBranch.gathering.Awaits
      ((spot.nextNumber, first) :: (spot.nextNumber + 1, left) :: others) text := by
  have ahead : spot.onBranch.Awaits ((spot.nextNumber + 1, left) :: others) first text := by
    refine ⟨?_, fun coming pays => ?_⟩
    · simp only [Spot.onBranch, Segment.openNumbers_append, Segment.openNumbers_closed_cons,
        Segment.openNumbers_fresh_cons, Segment.openNumbers_nil, List.append_nil, List.map_cons]
      exact List.perm_middle.trans (awaits.opens.cons _)
    · have next : coming (spot.nextNumber + 1) = left := pays _ (List.mem_cons_self ..)
      have equation := awaits.equation coming fun debt member =>
        pays debt (List.mem_cons_of_mem _ member)
      simpa [Spot.onBranch, Spot.sofar, Segment.total, Segment.closed, Segment.fresh, next,
        String.append_assoc] using equation
  exact ahead.gathering_awaits rfl orderly

/-- Once everything is written at a spot, its segment ends, and what can leave does. -/
theorem Spot.Awaits.closed (awaits : spot.Awaits others "" text)
    (orderly : Segment.Orderly spot.closed.gathering.waiting spot.nextNumber) :
    spot.closed.gathering.drained.Awaits others text := by
  refine ⟨Gathering.orderly_drained orderly, ?_, ?_⟩
  · rw [Gathering.openNumbers_drained orderly.noError, Writer.StandsAt.openNumbers_closed]
    exact awaits.opens
  · intro coming pays
    rw [Gathering.total_drained orderly.noError]
    simpa [Gathering.total, Spot.gathering, Spot.closed, Spot.sofar, Segment.total,
      Segment.closed, String.append_assoc] using awaits.equation coming pays

theorem Spot.Awaits.text_drained (awaits : spot.Awaits [] "" text)
    (orderly : Segment.Orderly spot.closed.gathering.waiting spot.nextNumber) :
    spot.closed.gathering.drained.text = text := by
  have noneOpen :
      Segment.openNumbers spot.before ++ Segment.openNumbers spot.behind = [] :=
    List.Perm.eq_nil awaits.opens
  rw [Gathering.text_drained_of_noneOpen orderly.noError
    (Writer.StandsAt.openNumbers_closed.trans noneOpen) fun _ => ""]
  have equation := awaits.equation (fun _ => "") (Coming.pays_nil _)
  simpa [Gathering.total, Spot.gathering, Spot.closed, Spot.sofar, Segment.total,
    Segment.closed, String.append_assoc] using equation

end Awaiting

end BraceTemplate.Output
