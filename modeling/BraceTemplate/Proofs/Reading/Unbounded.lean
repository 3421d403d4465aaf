import BraceTemplate.Proofs.Reading.Documents

/-!
# Reading does not meet its bounds

The parts of a template, and the branches of its sections, are read up to bounds that suffice: any
larger ones give the same. So parts are read one after the other by the rule for a part, with
whatever is inside of a section read in the same way.
-/

namespace BraceTemplate.Reading

open Source Grammar

abbrev SameInside (readParts other : BodyRule) (cursor : Cursor) : Prop :=
  ∀ later : Cursor, later.rest.length < cursor.rest.length → readParts later = other later

section Sections

variable {readParts other : BodyRule} {cursor : Cursor}

theorem SameInside.later (same : SameInside readParts other cursor) {later : Cursor}
    (laterLe : later.rest.length ≤ cursor.rest.length) : SameInside readParts other later :=
  fun last lastLt => same last (Nat.lt_of_lt_of_le lastLt laterLe)

theorem branchTag?_shorter {name : String} {inside : Cursor}
    (found : branchTag? cursor = some (name, inside)) :
    inside.rest.length < cursor.rest.length :=
  ((reads_branchTag cursor).congr found).shorter rfl

theorem parts_notLonger {nodes : List Node} {after : Cursor}
    (derives : Derives grammar (Expression.many (.rule .part)) cursor
      (.ofResult (readParts cursor)))
    (read : readParts cursor = .ok (nodes, after)) : after.rest.length ≤ cursor.rest.length := by
  rw [read] at derives
  exact Reads.notLonger derives

theorem branchesWithin_eq (inside : PartsInside readParts cursor)
    (same : SameInside readParts other cursor) {fuel more : Nat}
    (enough : cursor.rest.length ≤ fuel) (enoughMore : cursor.rest.length ≤ more) :
    branchesWithin readParts fuel cursor = branchesWithin other more cursor := by
  induction fuel generalizing cursor more with
  | zero =>
      cases found : branchTag? cursor with
      | none => rw [branches_none found, branches_none found]
      | some pair => exact absurd (branchTag?_shorter found) (by omega)
  | succ fuel inductionHypothesis =>
      cases found : branchTag? cursor with
      | none => rw [branches_none found, branches_none found]
      | some pair =>
          obtain ⟨name, afterTag⟩ := pair
          have shorter := branchTag?_shorter found
          cases more with
          | zero => omega
          | succ more =>
              simp only [branchesWithin, found, ← same afterTag shorter]
              cases read : readParts afterTag with
              | error error => rfl
              | ok pair =>
                  obtain ⟨nodes, afterBody⟩ := pair
                  have notLonger := parts_notLonger (inside afterTag shorter) read
                  simp only [inductionHypothesis (inside.later (by omega)) (same.later (by omega))
                    (by omega : afterBody.rest.length ≤ fuel)
                    (by omega : afterBody.rest.length ≤ more)]

theorem sectionBodies_eq (inside : PartsInside readParts cursor)
    (same : SameInside readParts other cursor) {afterTag : Cursor}
    (shorter : afterTag.rest.length < cursor.rest.length) :
    sectionBodies readParts afterTag = sectionBodies other afterTag := by
  unfold sectionBodies
  rw [← same afterTag shorter]
  cases read : readParts afterTag with
  | error error => rfl
  | ok pair =>
      obtain ⟨nodes, afterBody⟩ := pair
      have notLonger := parts_notLonger (inside afterTag shorter) read
      simp only [branchesWithin_eq (inside.later (by omega)) (same.later (by omega))
        (Nat.le_refl afterBody.rest.length) (Nat.le_refl _)]

/-- The main body of a section begins behind its opening tag. -/
theorem inside_shorter {opening : Opening} {afterOpening inside : Cursor}
    (opened : opening? cursor = some (opening, afterOpening))
    (closed : afterOpening.skipGaps.literal? ['}'] = some inside) :
    inside.rest.length < cursor.rest.length :=
  ((reads_enclosedStart cursor).congr (enclosedStart?_eq opened closed)).shorter rfl

theorem part?_eq (inside : PartsInside readParts cursor)
    (same : SameInside readParts other cursor) :
    part? readParts cursor = part? other cursor := by
  have sections : section? readParts cursor = section? other cursor := by
    unfold section?
    cases opened : opening? cursor with
    | none => rfl
    | some pair =>
        obtain ⟨opening, afterOpening⟩ := pair
        cases closed : afterOpening.skipGaps.literal? ['}'] with
        | none => simp only [closed]
        | some afterTag =>
            simp only [closed, sectionBodies_eq inside same (inside_shorter opened closed)]
  unfold part?
  rw [sections]

end Sections

/-- Every bound that suffices gives the same parts. -/
theorem partsWithin_eq {fuel more : Nat} {cursor : Cursor} (enough : cursor.rest.length < fuel)
    (enoughMore : cursor.rest.length < more) :
    partsWithin fuel cursor = partsWithin more cursor := by
  induction fuel generalizing cursor more with
  | zero => omega
  | succ fuel inductionHypothesis =>
      cases more with
      | zero => omega
      | succ more =>
          have inside : PartsInside (partsWithin fuel) cursor :=
            fun later laterLt => derives_parts fuel later (by omega)
          have same : SameInside (partsWithin fuel) (partsWithin more) cursor :=
            fun later laterLt => inductionHypothesis (by omega) (by omega)
          simp only [partsWithin, ← part?_eq inside same]
          cases found : part? (partsWithin fuel) cursor with
          | error error => rfl
          | ok next =>
              cases next with
              | none => rfl
              | some pair =>
                  obtain ⟨node, after⟩ := pair
                  have part := derives_part inside
                  rw [found] at part
                  have shorter : after.rest.length < cursor.rest.length := Reads.shorter part rfl
                  simp only [inductionHypothesis (by omega : after.rest.length < fuel)
                    (by omega : after.rest.length < more)]

/-- The parts inside of parts are read as those around them. -/
theorem partsInside_parts (cursor : Cursor) : PartsInside parts cursor :=
  fun later _ => derives_parts _ later (Nat.lt_succ_self _)

theorem part?_parts (cursor : Cursor) :
    part? (partsWithin cursor.rest.length) cursor = part? parts cursor :=
  part?_eq (fun later laterLt => derives_parts _ later laterLt)
    fun _ laterLt => partsWithin_eq laterLt (Nat.lt_succ_self _)

theorem part?_shorter {cursor after : Cursor} {node : Node}
    (found : part? parts cursor = .ok (some (node, after))) :
    after.rest.length < cursor.rest.length := by
  have part := derives_part (partsInside_parts cursor)
  rw [found] at part
  exact Reads.shorter part rfl

/-- Parts are read one after the other. -/
theorem parts_eq (cursor : Cursor) :
    parts cursor =
      match part? parts cursor with
      | .error error => .error error
      | .ok none => .ok ([], cursor)
      | .ok (some (node, afterPart)) =>
        match parts afterPart with
        | .error error => .error error
        | .ok (nodes, after) => .ok (node :: nodes, after) := by
  change partsWithin (cursor.rest.length + 1) cursor = _
  rw [partsWithin, part?_parts]
  cases found : part? parts cursor with
  | error error => rfl
  | ok next =>
      cases next with
      | none => rfl
      | some pair =>
          obtain ⟨node, after⟩ := pair
          have same : partsWithin cursor.rest.length after = parts after :=
            partsWithin_eq (part?_shorter found) (Nat.lt_succ_self _)
          rcases read : parts after with error | ⟨nodes, last⟩ <;> simp only [same, read]

end BraceTemplate.Reading
