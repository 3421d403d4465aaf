import BraceTemplate.Reading.Document

/-!
# What was read

Where a reader of parts or of what they hold finds something, one of its alternatives has found it.
-/

namespace BraceTemplate.Reading

open Source

variable {cursor after : Cursor} {node : Node} {readParts : BodyRule}

theorem quotedPart?_cases (read : quotedPart? cursor = some (node, after)) :
    special? cursor = some (node, after) ∨ reference? cursor = some (node, after) ∨
      ∃ content, node = .text content cursor.position := by
  unfold quotedPart? at read
  split at read
  · rename_i found special
    exact .inl (special.trans read)
  · split at read
    · rename_i found reference
      exact .inr (.inl (reference.trans read))
    · obtain ⟨⟨content, _⟩, _, yielded⟩ := Option.map_eq_some_iff.mp read
      cases yielded
      exact .inr (.inr ⟨content, rfl⟩)

/-- Text with tags in it begins at the first quote, and its parts stand behind that. -/
theorem quotation?_mixed {parts : List Node} {position : Position}
    (read : quotation? cursor = some (.mixed parts position, after)) :
    position = cursor.position ∧
      ∃ inside, cursor.literal? ['"'] = some inside ∧ (inside.many quotedPart?).1 = parts := by
  unfold quotation? at read
  split at read
  · rename_i found nothing
    cases read
    simp [quotedNothing?, Option.bind_eq_some_iff] at nothing
  · split at read
    · rename_i found plain
      cases read
      simp [quotedPlain?, Option.bind_eq_some_iff] at plain
    · simp only [quotedMixed?, Option.bind_eq_bind, Option.bind_eq_some_iff] at read
      obtain ⟨inside, opened, read⟩ := read
      split at read
      · cases read
      · rename_i many
        obtain ⟨_, _, yielded⟩ := Option.bind_eq_some_iff.mp read
        cases yielded
        exact ⟨rfl, inside, opened, congrArg Prod.fst many⟩

theorem paramValue?_inline {inner : Node}
    (read : paramValue? cursor = some (.inline inner, after)) :
    ∃ parts position, inner = .body parts position ∧
      quotation? cursor = some (.mixed parts position, after) := by
  unfold paramValue? at read
  split at read
  · cases read
  · split at read
    · cases read
    · obtain ⟨⟨quotation, _⟩, quoted, folded⟩ := Option.map_eq_some_iff.mp read
      cases quotation with
      | plain text => cases folded
      | mixed parts position =>
          cases folded
          exact ⟨parts, position, rfl, quoted⟩

theorem target?_inline {inner : Node} (read : target? cursor = some (.inline inner, after)) :
    ∃ parts position, inner = .body parts position ∧
      quotation? cursor = some (.mixed parts position, after) := by
  unfold target? at read
  split at read
  · cases read
  · obtain ⟨⟨quotation, _⟩, quoted, folded⟩ := Option.map_eq_some_iff.mp read
    cases quotation with
    | plain text => cases folded
    | mixed parts position =>
        cases folded
        exact ⟨parts, position, rfl, quoted⟩

theorem earlyPart?_cases (read : earlyPart? cursor = some (node, after)) :
    raw? cursor = some (node, after) ∨ comment? cursor = some (node, after) := by
  unfold earlyPart? at read
  split at read
  · rename_i found raw
    exact .inl (raw.trans read)
  · exact .inr read

theorem latePart?_cases (read : latePart? cursor = some (node, after)) :
    inclusion? cursor = some (node, after) ∨ special? cursor = some (node, after) ∨
      reference? cursor = some (node, after) ∨ text? cursor = some (node, after) := by
  unfold latePart? at read
  split at read
  · rename_i found inclusion
    exact .inl (inclusion.trans read)
  · split at read
    · rename_i found special
      exact .inr (.inl (special.trans read))
    · split at read
      · rename_i found reference
        exact .inr (.inr (.inl (reference.trans read)))
      · exact .inr (.inr (.inr read))

theorem part?_cases (read : part? readParts cursor = .ok (some (node, after))) :
    earlyPart? cursor = some (node, after) ∨ earlyPart? cursor = none ∧
      (section? readParts cursor = .ok (some (node, after)) ∨
        latePart? cursor = some (node, after)) := by
  unfold part? at read
  split at read
  · rename_i found early
    cases read
    exact .inl early
  · rename_i early
    split at read
    · cases read
    · rename_i found enclosed
      cases read
      exact .inr ⟨early, .inl enclosed⟩
    · exact .inr ⟨early, .inr (Except.ok.inj read)⟩

/-- A section has the bodies behind its opening tag, or none where it is closed at once. -/
theorem section?_cases (read : section? readParts cursor = .ok (some (node, after))) :
    ∃ opening afterOpening bodies, opening? cursor = some (opening, afterOpening) ∧
      node = .sectionTag opening.kind opening.identifier opening.context opening.params bodies
        cursor.position ∧
      (bodies = [] ∧ afterOpening.skipGaps.literal? ['/', '}'] = some after ∨
        ∃ inside atEnd, afterOpening.skipGaps.literal? ['}'] = some inside ∧
          sectionBodies readParts inside = .ok (bodies, atEnd)) := by
  unfold section? at read
  split at read
  · cases read
  · rename_i opening afterOpening opened
    dsimp only at read
    split at read
    · rename_i inside closed
      split at read
      · cases read
      · rename_i bodies atEnd ofBodies
        split at read
        · cases read
        · cases read
          exact ⟨opening, afterOpening, bodies, opened, rfl, .inr ⟨inside, atEnd, closed, ofBodies⟩⟩
    · simp only [Except.ok.injEq, Option.map_eq_some_iff, Prod.mk.injEq] at read
      obtain ⟨last, closed, yielded, rfl⟩ := read
      exact ⟨opening, afterOpening, [], opened, yielded.symm, .inl ⟨rfl, closed⟩⟩

theorem sectionBodies_cases {inside atEnd : Cursor} {bodies : List (String × Node)}
    (read : sectionBodies readParts inside = .ok (bodies, atEnd)) :
    ∃ parts afterBody branches, readParts inside = .ok (parts, afterBody) ∧
      branchesWithin readParts afterBody.rest.length afterBody = .ok (branches, atEnd) ∧
      bodies = branches ++ [(mainBody, .body parts inside.position)] := by
  unfold sectionBodies at read
  split at read
  · cases read
  · rename_i parts afterBody main
    split at read
    · cases read
    · rename_i branches last ofBranches
      cases read
      exact ⟨parts, afterBody, branches, main, ofBranches, rfl⟩

theorem branchesWithin_succ_cases {fuel : Nat} {branches : List (String × Node)}
    (read : branchesWithin readParts (fuel + 1) cursor = .ok (branches, after)) :
    branches = [] ∨ ∃ name inside parts afterBody others,
      branchTag? cursor = some (name, inside) ∧ readParts inside = .ok (parts, afterBody) ∧
      branchesWithin readParts fuel afterBody = .ok (others, after) ∧
      branches = (name, .body parts inside.position) :: others := by
  unfold branchesWithin at read
  split at read
  · cases read
    exact .inl rfl
  · rename_i name inside tag
    split at read
    · cases read
    · rename_i parts afterBody body
      split at read
      · cases read
      · rename_i others last following
        cases read
        exact .inr ⟨name, inside, parts, afterBody, others, tag, body, following, rfl⟩

end BraceTemplate.Reading
