import BraceTemplate.Proofs.Reading.Unbounded

/-!
# Sections that miss their end tag

Main statement: a source misses an end tag exactly where reading it from left to right comes to the
end of the bodies of a section and no end tag with its name stands there. What is wrong there is
what is wrong with the source: nothing that could be tried afterwards and no section around it makes
a difference.
-/

namespace BraceTemplate

/-- Whether what is wrong with a source is an end tag. -/
def ParseFault.isMissingEndTag : ParseFault → Bool
  | missingEndTag _ _ => true
  | unexpected _ _ => false

namespace Reading

open Source Grammar

/-- A section with bodies begins at a cursor: behind its opening tag its main body begins. -/
structure Opens (cursor : Cursor) (opening : Opening) (inside : Cursor) : Prop where
  early : earlyPart? cursor = none
  opened : ∃ afterOpening, opening? cursor = some (opening, afterOpening) ∧
    afterOpening.skipGaps.literal? ['}'] = some inside

/-- Branches that are read one after the other. -/
inductive ReadsBranches : Cursor → Cursor → Prop
  | done (cursor : Cursor) : ReadsBranches cursor cursor
  | more {cursor inside afterBody last : Cursor} {name : String} {nodes : List Node}
      (tag : branchTag? cursor = some (name, inside))
      (body : parts inside = .ok (nodes, afterBody)) (rest : ReadsBranches afterBody last) :
      ReadsBranches cursor last

def ReadsBodies (inside last : Cursor) : Prop :=
  ∃ nodes afterBody, parts inside = .ok (nodes, afterBody) ∧ ReadsBranches afterBody last

/-- The places where a part is tried when parts are read from left to right: behind every part, and
where the bodies of sections begin. -/
inductive Tries (start : Cursor) : Cursor → Prop
  | start : Tries start start
  | behind {cursor after : Cursor} {node : Node} (tries : Tries start cursor)
      (part : part? parts cursor = .ok (some (node, after))) : Tries start after
  | main {cursor inside : Cursor} {opening : Opening} (tries : Tries start cursor)
      (opens : Opens cursor opening inside) : Tries start inside
  | branch {cursor inside atBranch within : Cursor} {opening : Opening} {name : String}
      (tries : Tries start cursor) (opens : Opens cursor opening inside)
      (bodies : ReadsBodies inside atBranch) (tag : branchTag? atBranch = some (name, within)) :
      Tries start within

/-- What is wrong at the end of the bodies of a section: there is no end tag, or it names something
else. -/
inductive Unclosed (opened : String) (atEnd : Cursor) : ParseError → Prop
  | nothing (missing : endTag? atEnd = none) :
      Unclosed opened atEnd (.at atEnd.place (.missingEndTag opened none))
  | other {identifier : Identifier} {after : Cursor}
      (found : endTag? atEnd = some (identifier, after)) (differs : identifier.text ≠ opened) :
      Unclosed opened atEnd (.at after.place (.missingEndTag opened (some identifier.text)))

/-- Reading from a cursor comes to the end of the bodies of a section that is not closed there. -/
def MissesEndTag (start : Cursor) (error : ParseError) : Prop :=
  ∃ cursor opening inside atEnd, Tries start cursor ∧ Opens cursor opening inside ∧
    ReadsBodies inside atEnd ∧ branchTag? atEnd = none ∧
    Unclosed opening.identifier.text atEnd error

theorem Tries.trans {start middle last : Cursor} (first : Tries start middle)
    (second : Tries middle last) : Tries start last := by
  induction second with
  | start => exact first
  | behind _ part inductionHypothesis => exact inductionHypothesis.behind part
  | main _ opens inductionHypothesis => exact inductionHypothesis.main opens
  | branch _ opens bodies tag inductionHypothesis =>
      exact inductionHypothesis.branch opens bodies tag

theorem MissesEndTag.earlier {start middle : Cursor} {error : ParseError}
    (misses : MissesEndTag middle error) (tries : Tries start middle) :
    MissesEndTag start error := by
  obtain ⟨cursor, opening, inside, atEnd, later, rest⟩ := misses
  exact ⟨cursor, opening, inside, atEnd, tries.trans later, rest⟩

theorem closeSection_eq_error_iff {opened : String} {atEnd : Cursor} {error : ParseError} :
    closeSection opened atEnd = .error error ↔ Unclosed opened atEnd error := by
  unfold closeSection
  constructor
  · intro fails
    cases found : endTag? atEnd with
    | none =>
        rw [found] at fails
        cases fails
        exact .nothing found
    | some pair =>
        obtain ⟨identifier, after⟩ := pair
        rw [found] at fails
        simp only at fails
        split at fails
        · cases fails
        · rename_i differs
          cases fails
          exact .other found differs
  · intro unclosed
    cases unclosed with
    | nothing missing => rw [missing]
    | other found differs =>
        rw [found]
        exact if_neg differs

theorem Unclosed.isMissingEndTag {opened : String} {atEnd : Cursor} {error : ParseError}
    (unclosed : Unclosed opened atEnd error) : error.fault.isMissingEndTag = true := by
  cases unclosed <;> rfl

theorem branchesWithin_step {fuel : Nat} {cursor within : Cursor} {name : String}
    (enough : cursor.rest.length ≤ fuel) (tag : branchTag? cursor = some (name, within)) :
    branchesWithin parts fuel cursor =
      match parts within with
      | .error error => .error error
      | .ok (nodes, afterBody) =>
        match branchesWithin parts afterBody.rest.length afterBody with
        | .error error => .error error
        | .ok (branches, after) =>
          .ok ((name, .body nodes within.position) :: branches, after) := by
  have shorter := branchTag?_shorter tag
  cases fuel with
  | zero => omega
  | succ fuel =>
      simp only [branchesWithin, tag]
      cases read : parts within with
      | error error => rfl
      | ok pair =>
          obtain ⟨nodes, afterBody⟩ := pair
          have notLonger := parts_notLonger (partsInside_parts cursor within shorter) read
          have same := branchesWithin_eq (partsInside_parts afterBody) (fun _ _ => rfl)
            (by omega : afterBody.rest.length ≤ fuel) (Nat.le_refl _)
          rcases more : branchesWithin parts afterBody.rest.length afterBody
            with error | ⟨branches, last⟩ <;> simp only [same, more]

/-- Branches are read up to where no branch begins, or up to one in whose body there is a fault. -/
theorem branchesWithin_cases (cursor : Cursor) :
    (∃ branches atEnd, branchesWithin parts cursor.rest.length cursor = .ok (branches, atEnd) ∧
        ReadsBranches cursor atEnd ∧ branchTag? atEnd = none) ∨
      ∃ error atBranch name within,
        branchesWithin parts cursor.rest.length cursor = .error error ∧
        ReadsBranches cursor atBranch ∧ branchTag? atBranch = some (name, within) ∧
        within.rest.length < cursor.rest.length ∧ parts within = .error error := by
  induction size : cursor.rest.length using Nat.strongRecOn generalizing cursor with
  | ind size inductionHypothesis =>
      subst size
      cases tag : branchTag? cursor with
      | none => exact .inl ⟨[], cursor, branches_none tag, .done cursor, tag⟩
      | some pair =>
          obtain ⟨name, within⟩ := pair
          have shorter := branchTag?_shorter tag
          rw [branchesWithin_step (Nat.le_refl _) tag]
          cases read : parts within with
          | error error =>
              exact .inr ⟨error, cursor, name, within, rfl, .done cursor, tag, shorter, read⟩
          | ok pair =>
              obtain ⟨nodes, afterBody⟩ := pair
              have notLonger := parts_notLonger (partsInside_parts cursor within shorter) read
              rcases inductionHypothesis _ (by omega) afterBody rfl with
                ⟨branches, atEnd, found, reads, last⟩ |
                ⟨error, atBranch, other, inner, found, reads, otherTag, otherShorter, fault⟩
              · simp only [found]
                exact .inl ⟨_, atEnd, rfl, .more tag read reads, last⟩
              · simp only [found]
                exact .inr ⟨error, atBranch, other, inner, rfl, .more tag read reads, otherTag,
                  by omega, fault⟩

/-- Branches that are read come to the same end within the bound. -/
theorem ReadsBranches.branchesWithin_eq {cursor atEnd : Cursor}
    (reads : ReadsBranches cursor atEnd) :
    (∀ error, branchesWithin parts atEnd.rest.length atEnd = .error error →
      branchesWithin parts cursor.rest.length cursor = .error error) ∧
    (branchTag? atEnd = none → ∃ branches,
      branchesWithin parts cursor.rest.length cursor = .ok (branches, atEnd)) := by
  induction reads with
  | done cursor => exact ⟨fun _ fault => fault, fun last => ⟨[], branches_none last⟩⟩
  | more tag body _ inductionHypothesis =>
      rw [branchesWithin_step (Nat.le_refl _) tag, body]
      refine ⟨fun error fault => ?_, fun last => ?_⟩
      · simp only [inductionHypothesis.1 error fault]
      · obtain ⟨branches, found⟩ := inductionHypothesis.2 last
        simp only [found]
        exact ⟨_, rfl⟩

section Parts

variable {cursor inside : Cursor} {opening : Opening} {error : ParseError}

/-- A section with bodies is as its bodies and its end tag are. -/
theorem Opens.part?_eq (opens : Opens cursor opening inside) :
    part? parts cursor =
      match sectionBodies parts inside with
      | .error error => .error error
      | .ok (bodies, atEnd) =>
        match closeSection opening.identifier.text atEnd with
        | .error error => .error error
        | .ok after =>
          .ok (some (.sectionTag opening.kind opening.identifier opening.context opening.params
            bodies cursor.position, after)) := by
  obtain ⟨early, afterOpening, opened, closed⟩ := opens
  unfold part? section?
  rw [early, opened]
  simp only [closed]
  cases sectionBodies parts inside with
  | error error => rfl
  | ok pair =>
      obtain ⟨bodies, atEnd⟩ := pair
      simp only
      cases closeSection opening.identifier.text atEnd <;> rfl

/-- Only a section with bodies can be faulty. -/
theorem opens_of_part?_error (fault : part? parts cursor = .error error) :
    ∃ opening inside, Opens cursor opening inside := by
  unfold part? at fault
  cases early : earlyPart? cursor with
  | some found =>
      rw [early] at fault
      cases fault
  | none =>
      rw [early] at fault
      unfold section? at fault
      cases opened : opening? cursor with
      | none =>
          rw [opened] at fault
          cases fault
      | some pair =>
          obtain ⟨opening, afterOpening⟩ := pair
          rw [opened] at fault
          cases closed : afterOpening.skipGaps.literal? ['}'] with
          | some inside => exact ⟨opening, inside, early, afterOpening, opened, closed⟩
          | none =>
              simp only [closed] at fault
              cases selfClosed : afterOpening.skipGaps.literal? ['/', '}'] with
              | none =>
                  rw [selfClosed] at fault
                  cases fault
              | some after =>
                  rw [selfClosed] at fault
                  cases fault

/-- A fault in a section is one of a part in it, or of its end tag. -/
theorem Opens.missesEndTag (opens : Opens cursor opening inside)
    (fault : part? parts cursor = .error error)
    (inner : ∀ later : Cursor, later.rest.length < cursor.rest.length →
      parts later = .error error → MissesEndTag later error) : MissesEndTag cursor error := by
  have begins : Tries cursor inside := .main .start opens
  have shorter : inside.rest.length < cursor.rest.length := by
    obtain ⟨_, afterOpening, opened, closed⟩ := opens
    exact inside_shorter opened closed
  rw [opens.part?_eq] at fault
  unfold sectionBodies at fault
  cases read : parts inside with
  | error other =>
      rw [read] at fault
      cases fault
      exact (inner inside shorter read).earlier begins
  | ok pair =>
      obtain ⟨nodes, afterBody⟩ := pair
      have notLonger := parts_notLonger (partsInside_parts cursor inside shorter) read
      rw [read] at fault
      rcases branchesWithin_cases afterBody with ⟨branches, atEnd, found, reads, last⟩ |
        ⟨other, atBranch, name, within, found, reads, tag, within_shorter, faulty⟩
      · simp only [found] at fault
        cases closes : closeSection opening.identifier.text atEnd with
        | error other =>
            rw [closes] at fault
            cases fault
            exact ⟨cursor, opening, inside, atEnd, .start, opens, ⟨nodes, afterBody, read, reads⟩,
              last, closeSection_eq_error_iff.mp closes⟩
        | ok after =>
            rw [closes] at fault
            cases fault
      · simp only [found] at fault
        cases fault
        have bodies : ReadsBodies inside atBranch := ⟨nodes, afterBody, read, reads⟩
        exact (inner within (by omega) faulty).earlier (.branch .start opens bodies tag)

/-- A fault in a body of a section is one of the section. -/
theorem Opens.part?_eq_error (opens : Opens cursor opening inside)
    (faulty : sectionBodies parts inside = .error error) : part? parts cursor = .error error := by
  rw [opens.part?_eq, faulty]

end Parts

theorem parts_eq_error {cursor : Cursor} {error : ParseError}
    (fault : part? parts cursor = .error error) : parts cursor = .error error := by
  rw [parts_eq, fault]

theorem missesEndTag_of_parts {cursor : Cursor} {error : ParseError}
    (fault : parts cursor = .error error) : MissesEndTag cursor error := by
  induction size : cursor.rest.length using Nat.strongRecOn generalizing cursor with
  | ind size inductionHypothesis =>
      subst size
      cases part : part? parts cursor with
      | error other =>
          rw [parts_eq_error part] at fault
          cases fault
          obtain ⟨opening, inside, opens⟩ := opens_of_part?_error part
          exact opens.missesEndTag part fun later shorter faulty =>
            inductionHypothesis _ shorter faulty rfl
      | ok next =>
          rw [parts_eq, part] at fault
          cases next with
          | none => cases fault
          | some pair =>
              obtain ⟨node, after⟩ := pair
              cases read : parts after with
              | error other =>
                  simp only [read] at fault
                  cases fault
                  exact (inductionHypothesis _ (part?_shorter part) read rfl).earlier
                    (.behind .start part)
              | ok pair =>
                  simp only [read] at fault
                  cases fault

/-- Nothing that comes before or stands around drops a fault. -/
theorem Tries.parts_eq_error {start cursor : Cursor} {error : ParseError}
    (tries : Tries start cursor) (fault : parts cursor = .error error) :
    parts start = .error error := by
  induction tries with
  | start => exact fault
  | behind _ part inductionHypothesis =>
      refine inductionHypothesis ?_
      rw [parts_eq, part]
      simp only [fault]
  | main _ opens inductionHypothesis =>
      refine inductionHypothesis (Reading.parts_eq_error (opens.part?_eq_error ?_))
      unfold sectionBodies
      rw [fault]
  | @branch _ _ atBranch within _ _ _ opens bodies tag inductionHypothesis =>
      refine inductionHypothesis (Reading.parts_eq_error (opens.part?_eq_error ?_))
      obtain ⟨nodes, afterBody, read, reads⟩ := bodies
      unfold sectionBodies
      rw [read]
      have faulty : branchesWithin parts atBranch.rest.length atBranch = .error error := by
        rw [branchesWithin_step (Nat.le_refl _) tag, fault]
      simp only [reads.branchesWithin_eq.1 error faulty]

theorem MissesEndTag.parts_eq_error {start : Cursor} {error : ParseError}
    (misses : MissesEndTag start error) : parts start = .error error := by
  obtain ⟨cursor, opening, inside, atEnd, tries, opens, ⟨nodes, afterBody, read, reads⟩, last,
    unclosed⟩ := misses
  refine tries.parts_eq_error (Reading.parts_eq_error ?_)
  obtain ⟨branches, found⟩ := reads.branchesWithin_eq.2 last
  rw [opens.part?_eq]
  unfold sectionBodies
  simp only [read, found, closeSection_eq_error_iff.mpr unclosed]

theorem MissesEndTag.unique {start : Cursor} {error other : ParseError}
    (misses : MissesEndTag start error) (missesOther : MissesEndTag start other) :
    other = error := by
  have same := misses.parts_eq_error
  rw [missesOther.parts_eq_error] at same
  cases same
  rfl

/-- A source misses an end tag exactly where reading it comes to the end of the bodies of a section
that is not closed there, and that is what is wrong with it: reading goes no further, and so comes
to no other such section. -/
theorem parse_missingEndTag_iff (source : String) (error : ParseError) :
    (Node.parse source = .error error ∧ error.fault.isMissingEndTag = true) ↔
      MissesEndTag (Cursor.ofString source) error ∧
        ∀ other, MissesEndTag (Cursor.ofString source) other → other = error := by
  unfold Node.parse
  constructor
  · rintro ⟨fault, missing⟩
    have misses : MissesEndTag (Cursor.ofString source) error := by
      refine missesEndTag_of_parts ?_
      cases read : parts (Cursor.ofString source) with
      | error other =>
          simp only [read] at fault
          cases fault
          rfl
      | ok pair =>
          obtain ⟨nodes, last⟩ := pair
          simp only [read] at fault
          cases left : last.rest with
          | nil =>
              simp only [left] at fault
              cases fault
          | cons char rest =>
              simp only [left] at fault
              cases fault
              cases missing
    exact ⟨misses, fun _ => misses.unique⟩
  · rintro ⟨misses, -⟩
    have missing : error.fault.isMissingEndTag = true := by
      obtain ⟨_, _, _, _, _, _, _, _, unclosed⟩ := misses
      exact unclosed.isMissingEndTag
    simp only [misses.parts_eq_error, missing, and_self]

/-- The section inside is the first whose bodies end: the end tag of the one around it closes
neither. -/
example :
    (match Node.parse "x\x7b#a\x7dy\x7b#b\x7dz\x7b/a\x7d" with
      | .error error => some error
      | .ok _ => none) = some ⟨15, 1, 16, .missingEndTag "b" (some "a")⟩ := by
  decide +kernel

end Reading

end BraceTemplate
