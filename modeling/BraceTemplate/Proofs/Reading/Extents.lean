import BraceTemplate.Proofs.Program.Filters
import BraceTemplate.Proofs.Reading.Unexpected

/-!
# Tags as they stand in a source

A tag with bodies stands in a source from its opening tag over its main body and its branches up to
its end tag. The tags of a source stand in one another or apart: reading comes to each of them
within the bodies of those around it, which decide whether it is compiled and with which filter.
-/

namespace BraceTemplate.Reading

open Source Grammar

/-- A body as it stands in a source: where it begins, its parts, and where it ends. -/
structure Stretch where
  first : Cursor
  nodes : List Node
  last : Cursor

namespace Stretch

def IsRead (stretch : Stretch) : Prop :=
  parts stretch.first = .ok (stretch.nodes, stretch.last)

instance (stretch : Stretch) : Decidable stretch.IsRead :=
  inferInstanceAs (Decidable (parts stretch.first = .ok (stretch.nodes, stretch.last)))

def node (stretch : Stretch) : Node :=
  .body stretch.nodes stretch.first.position

end Stretch

/-- Branches stand one after the other between two cursors, with nothing that begins a further one
behind them. -/
inductive BranchesStand : Cursor → List (String × Stretch) → Cursor → Prop
  | none {cursor : Cursor} (tag : branchTag? cursor = .none) : BranchesStand cursor [] cursor
  | more {cursor last : Cursor} {name : String} {stretch : Stretch}
      {rest : List (String × Stretch)} (tag : branchTag? cursor = some (name, stretch.first))
      (isRead : stretch.IsRead) (others : BranchesStand stretch.last rest last) :
      BranchesStand cursor ((name, stretch) :: rest) last

/-- A tag with bodies as it stands in a source. -/
structure Extent where
  opening : Opening
  main : Stretch
  branches : List (String × Stretch)
  /-- Where the end tag begins. -/
  atEnd : Cursor
  after : Cursor

namespace Extent

/-- The bodies of the tag in its tree. -/
def bodies (extent : Extent) : List (String × Node) :=
  (extent.branches.map fun branch => (branch.1, branch.2.node)) ++ [(mainBody, extent.main.node)]

/-- The tag in a tree. -/
def node (extent : Extent) (position : Position) : Node :=
  .sectionTag extent.opening.kind extent.opening.identifier extent.opening.context
    extent.opening.params extent.bodies position

/-- Whether no branch goes by the name of the main body. -/
def keepsMain (extent : Extent) : Bool :=
  extent.branches.all fun branch => branch.1 ≠ mainBody

/-- A tag stands at a cursor: its opening tag is there, behind it its bodies, and behind these an
end tag with its name. -/
structure StandsAt (extent : Extent) (cursor : Cursor) : Prop where
  opens : Opens cursor extent.opening extent.main.first
  main : extent.main.IsRead
  branches : BranchesStand extent.main.last extent.branches extent.atEnd
  closes : closeSection extent.opening.identifier.text extent.atEnd = .ok extent.after

end Extent

/-- A body of a tag that something stands in: the main one or a branch. -/
structure Surrounding where
  extent : Extent
  isMain : Bool

/-- Reading parts from a cursor on comes to a tag with bodies, within bodies of other tags, the
outermost first. -/
inductive Finds : Cursor → List Surrounding → Extent → Prop
  | here {cursor : Cursor} {extent : Extent} (stands : extent.StandsAt cursor) :
      Finds cursor [] extent
  | behind {cursor after : Cursor} {node : Node} {around : List Surrounding} {extent : Extent}
      (part : part? parts cursor = .ok (some (node, after))) (later : Finds after around extent) :
      Finds cursor around extent
  | inMain {cursor : Cursor} {outer extent : Extent} {around : List Surrounding}
      (stands : outer.StandsAt cursor) (inner : Finds outer.main.first around extent) :
      Finds cursor (⟨outer, true⟩ :: around) extent
  | inBranch {cursor : Cursor} {outer extent : Extent} {around : List Surrounding}
      {branch : String × Stretch} (stands : outer.StandsAt cursor)
      (member : branch ∈ outer.branches) (inner : Finds branch.2.first around extent) :
      Finds cursor (⟨outer, false⟩ :: around) extent

def cursorAt (source : String) (count : Nat) : Cursor :=
  ⟨Place.start.advanceAll (source.toList.take count), source.toList.drop count⟩

namespace Surrounding

def enclosure (surrounding : Surrounding) : Enclosure :=
  .sectionTag surrounding.extent.opening.kind surrounding.extent.opening.identifier
    surrounding.extent.opening.context (if surrounding.isMain then .main else .branch)

/-- Whether what stands in the body is compiled. -/
def isCompiled (surrounding : Surrounding) : Bool :=
  surrounding.enclosure.isCompiled

end Surrounding

/-- The automatic filter in the bodies of tags, given the one outside of them. -/
def automaticWithin (auto : Option String) (around : List Surrounding) : Option String :=
  automatic auto (around.reverse.map Surrounding.enclosure)

theorem automaticWithin_cons (auto : Option String) (surrounding : Surrounding)
    (around : List Surrounding) :
    automaticWithin auto (surrounding :: around) =
      automaticWithin (automatic auto [surrounding.enclosure]) around := by
  simp only [automaticWithin, automatic, List.reverse_cons, List.map_append, List.map_cons,
    List.map_nil, List.findSome?_append]
  cases (around.reverse.map Surrounding.enclosure).findSome? Enclosure.filter? <;> rfl

namespace Surrounding

variable {surrounding : Surrounding} {auto : Option String}

theorem isCompiled_of_definition (isDefinition : surrounding.extent.opening.kind = .define) :
    surrounding.isCompiled = surrounding.isMain := by
  unfold isCompiled enclosure
  rw [isDefinition]
  cases surrounding.isMain <;> rfl

theorem isCompiled_of_pragma_iff (isPragma : surrounding.extent.opening.kind = .pragma) :
    surrounding.isCompiled = true ↔
      surrounding.extent.opening.identifier.text = escapePragma ∧ surrounding.isMain = true := by
  unfold isCompiled enclosure
  rw [isPragma]
  cases surrounding.isMain <;> simp [Enclosure.isCompiled, escapePragma]

/-- Other tags than definitions and pragmas have all their bodies compiled. -/
theorem isCompiled_of_other (noDefinition : surrounding.extent.opening.kind ≠ .define)
    (noPragma : surrounding.extent.opening.kind ≠ .pragma) : surrounding.isCompiled = true := by
  unfold isCompiled enclosure
  cases kind : surrounding.extent.opening.kind with
  | define => exact absurd kind noDefinition
  | pragma => exact absurd kind noPragma
  | _ => rfl

theorem automatic_of_other (noPragma : surrounding.extent.opening.kind ≠ .pragma) :
    automatic auto [surrounding.enclosure] = auto := by
  refine automatic_cons_of_none ?_
  unfold enclosure
  cases kind : surrounding.extent.opening.kind with
  | pragma => exact absurd kind noPragma
  | _ => rfl

theorem automatic_of_escape {extent : Extent} (isPragma : extent.opening.kind = .pragma)
    (isEscape : extent.opening.identifier.text = escapePragma) :
    automatic auto [(Surrounding.mk extent true).enclosure] =
      pragmaFilter extent.opening.context := by
  unfold enclosure
  rw [isPragma]
  exact automatic_escape isEscape

end Surrounding

theorem Stretch.eq_of_isRead {stretch other : Stretch} (isRead : stretch.IsRead)
    (isReadToo : other.IsRead) (same : stretch.first = other.first) : stretch = other := by
  obtain ⟨first, nodes, last⟩ := stretch
  obtain ⟨_, otherNodes, otherLast⟩ := other
  cases same
  have equal := isRead.symm.trans isReadToo
  cases equal
  rfl

theorem Stretch.last_le {stretch : Stretch} (isRead : stretch.IsRead) :
    stretch.last.rest.length ≤ stretch.first.rest.length :=
  (parts_suffix isRead).length_le

theorem closeSection_shorter {opened : String} {cursor after : Cursor}
    (closes : closeSection opened cursor = .ok after) :
    after.rest.length < cursor.rest.length := by
  unfold closeSection at closes
  cases found : endTag? cursor with
  | none =>
      rw [found] at closes
      cases closes
  | some pair =>
      obtain ⟨identifier, last⟩ := pair
      rw [found] at closes
      simp only at closes
      split at closes
      · cases closes
        exact ((reads_endTag cursor).congr found).shorter rfl
      · cases closes

theorem Opens.shorter {cursor inside : Cursor} {opening : Opening}
    (opens : Opens cursor opening inside) : inside.rest.length < cursor.rest.length := by
  obtain ⟨-, afterOpening, opened, closed⟩ := opens
  exact inside_shorter opened closed

theorem Opens.unique {cursor inside otherInside : Cursor} {opening other : Opening}
    (opens : Opens cursor opening inside) (opensToo : Opens cursor other otherInside) :
    opening = other ∧ inside = otherInside := by
  obtain ⟨-, afterOpening, opened, closed⟩ := opens
  obtain ⟨-, otherAfter, otherOpened, otherClosed⟩ := opensToo
  cases opened.symm.trans otherOpened
  cases closed.symm.trans otherClosed
  exact ⟨rfl, rfl⟩

namespace BranchesStand

variable {cursor last otherLast : Cursor} {branches others : List (String × Stretch)}

theorem unique (stand : BranchesStand cursor branches last)
    (standToo : BranchesStand cursor others otherLast) : branches = others ∧ last = otherLast := by
  induction stand generalizing others with
  | none tag =>
      cases standToo with
      | none _ => exact ⟨rfl, rfl⟩
      | more otherTag _ _ => cases tag.symm.trans otherTag
  | @more cursor last name stretch rest tag isRead _ inductionHypothesis =>
      cases standToo with
      | none otherTag => cases tag.symm.trans otherTag
      | @more _ _ otherName otherStretch otherRest otherTag otherRead more =>
          have same := tag.symm.trans otherTag
          simp only [Option.some.injEq, Prod.mk.injEq] at same
          obtain rfl := Stretch.eq_of_isRead isRead otherRead same.2
          obtain ⟨rfl, rfl⟩ := inductionHypothesis more
          exact ⟨by rw [same.1], rfl⟩

theorem last_le (stand : BranchesStand cursor branches last) :
    last.rest.length ≤ cursor.rest.length := by
  induction stand with
  | none _ => exact Nat.le_refl _
  | more tag isRead _ inductionHypothesis =>
      have shorter := branchTag?_shorter tag
      have notLonger := Stretch.last_le isRead
      omega

theorem isRead_of_mem (stand : BranchesStand cursor branches last) :
    ∀ branch ∈ branches, branch.2.IsRead := by
  induction stand with
  | none _ => simp
  | more _ isRead _ inductionHypothesis =>
      exact List.forall_mem_cons.mpr ⟨isRead, inductionHypothesis⟩

/-- A branch stands between where the branches begin and where they end. -/
theorem between_of_mem (stand : BranchesStand cursor branches last) :
    ∀ branch ∈ branches, branch.2.first.rest.length < cursor.rest.length ∧
      last.rest.length ≤ branch.2.last.rest.length := by
  induction stand with
  | none _ => simp
  | more tag isRead others inductionHypothesis =>
      have shorter := branchTag?_shorter tag
      have notLonger := Stretch.last_le isRead
      refine List.forall_mem_cons.mpr ⟨⟨shorter, others.last_le⟩, fun branch member => ?_⟩
      obtain ⟨before, behind⟩ := inductionHypothesis branch member
      exact ⟨by omega, behind⟩

/-- The branches that are read from a cursor on are those that stand there. -/
theorem branchesWithin_eq_ok (stand : BranchesStand cursor branches last) :
    branchesWithin parts cursor.rest.length cursor =
      .ok (branches.map fun branch => (branch.1, branch.2.node), last) := by
  induction stand with
  | none tag => exact branches_none tag
  | more tag isRead _ inductionHypothesis =>
      rw [branchesWithin_step (Nat.le_refl _) tag, isRead]
      simp only [inductionHypothesis]
      rfl

theorem exists_of_branchesWithin {entries : List (String × Node)}
    (read : branchesWithin parts cursor.rest.length cursor = .ok (entries, last)) :
    ∃ branches, BranchesStand cursor branches last ∧
      entries = branches.map fun branch => (branch.1, branch.2.node) := by
  induction size : cursor.rest.length using Nat.strongRecOn generalizing cursor entries with
  | ind size inductionHypothesis =>
      subst size
      cases tag : branchTag? cursor with
      | none =>
          rw [branches_none tag] at read
          cases read
          exact ⟨[], .none tag, rfl⟩
      | some pair =>
          obtain ⟨name, within⟩ := pair
          have shorter := branchTag?_shorter tag
          rw [branchesWithin_step (Nat.le_refl _) tag] at read
          cases body : parts within with
          | error error =>
              rw [body] at read
              cases read
          | ok pair =>
              obtain ⟨nodes, afterBody⟩ := pair
              have notLonger := (parts_suffix body).length_le
              rw [body] at read
              simp only at read
              cases more : branchesWithin parts afterBody.rest.length afterBody with
              | error error =>
                  rw [more] at read
                  cases read
              | ok pair =>
                  obtain ⟨others, atEnd⟩ := pair
                  rw [more] at read
                  cases read
                  obtain ⟨branches, stand, rfl⟩ :=
                    inductionHypothesis _ (by omega) more rfl
                  exact ⟨(name, ⟨within, nodes, afterBody⟩) :: branches, .more tag body stand, rfl⟩

end BranchesStand

namespace Extent

variable {cursor after : Cursor} {extent other : Extent} {node : Node}

theorem StandsAt.unique (stands : extent.StandsAt cursor) (standsToo : other.StandsAt cursor) :
    extent = other := by
  obtain ⟨opening, main, branches, atEnd, after⟩ := extent
  obtain ⟨otherOpening, otherMain, otherBranches, otherAtEnd, otherAfter⟩ := other
  obtain ⟨opens, mainRead, branchesStand, closes⟩ := stands
  obtain ⟨opensToo, mainReadToo, branchesStandToo, closesToo⟩ := standsToo
  dsimp only at *
  obtain ⟨rfl, sameFirst⟩ := opens.unique opensToo
  obtain rfl := Stretch.eq_of_isRead mainRead mainReadToo sameFirst
  obtain ⟨rfl, rfl⟩ := branchesStand.unique branchesStandToo
  cases closes.symm.trans closesToo
  rfl

theorem StandsAt.sectionBodies_eq (stands : extent.StandsAt cursor) :
    sectionBodies parts extent.main.first = .ok (extent.bodies, extent.atEnd) := by
  unfold sectionBodies
  rw [stands.main]
  simp only [stands.branches.branchesWithin_eq_ok]
  rfl

/-- The part that is read where a tag stands is that tag. -/
theorem StandsAt.part?_eq (stands : extent.StandsAt cursor) :
    part? parts cursor = .ok (some (extent.node cursor.position, extent.after)) := by
  rw [stands.opens.part?_eq, stands.sectionBodies_eq]
  simp only [stands.closes]
  rfl

/-- Where an opening tag is read and a part with it, a tag stands. -/
theorem exists_standsAt {opening : Opening} {inside : Cursor} (opens : Opens cursor opening inside)
    (part : part? parts cursor = .ok (some (node, after))) :
    ∃ extent : Extent, extent.StandsAt cursor := by
  rw [opens.part?_eq] at part
  cases bodies : sectionBodies parts inside with
  | error error =>
      rw [bodies] at part
      cases part
  | ok pair =>
      obtain ⟨entries, atEnd⟩ := pair
      rw [bodies] at part
      simp only at part
      cases closes : closeSection opening.identifier.text atEnd with
      | error error =>
          rw [closes] at part
          cases part
      | ok last =>
          obtain ⟨nodes, afterBody, _, main, ofBranches, _⟩ := sectionBodies_cases bodies
          obtain ⟨branches, stand, _⟩ := BranchesStand.exists_of_branchesWithin ofBranches
          exact ⟨⟨opening, ⟨inside, nodes, afterBody⟩, branches, atEnd, last⟩,
            opens, main, stand, closes⟩

/-- What is left where the pieces of a tag begin and end. -/
theorem StandsAt.lengths (stands : extent.StandsAt cursor) :
    extent.main.first.rest.length < cursor.rest.length ∧
      extent.main.last.rest.length ≤ extent.main.first.rest.length ∧
      extent.atEnd.rest.length ≤ extent.main.last.rest.length ∧
      extent.after.rest.length < extent.atEnd.rest.length :=
  ⟨stands.opens.shorter, Stretch.last_le stands.main, stands.branches.last_le,
    closeSection_shorter stands.closes⟩

end Extent

/-- A tag stands behind a cursor, and its end tag before another. -/
structure Extent.Between (cursor last : Cursor) (extent : Extent) : Prop where
  first : extent.main.first.rest.length < cursor.rest.length
  inOrder : extent.atEnd.rest.length ≤ extent.main.first.rest.length
  last : last.rest.length < extent.atEnd.rest.length

namespace Extent

variable {cursor last after : Cursor} {extent outer : Extent} {nodes : List Node} {node : Node}

theorem Between.mono {earlier later : Cursor} (between : extent.Between cursor last)
    (first : cursor.rest.length ≤ earlier.rest.length)
    (behind : later.rest.length ≤ last.rest.length) : extent.Between earlier later :=
  ⟨Nat.lt_of_lt_of_le between.first first, between.inOrder, Nat.lt_of_le_of_lt behind between.last⟩

end Extent

/-- Parts that are read behind a part end where the parts from there on do. -/
theorem exists_of_parts_part {cursor last after : Cursor} {nodes : List Node} {node : Node}
    (read : parts cursor = .ok (nodes, last))
    (part : part? parts cursor = .ok (some (node, after))) :
    ∃ later, parts after = .ok (later, last) ∧ nodes = node :: later := by
  rw [parts_eq, part] at read
  simp only at read
  cases behind : parts after with
  | error error =>
      rw [behind] at read
      cases read
  | ok pair =>
      rw [behind] at read
      cases read
      exact ⟨_, rfl, rfl⟩

theorem Extent.StandsAt.between {cursor last : Cursor} {extent : Extent} {nodes : List Node}
    (stands : extent.StandsAt cursor) (read : parts cursor = .ok (nodes, last)) :
    extent.Between cursor last := by
  obtain ⟨later, behind, -⟩ := exists_of_parts_part read stands.part?_eq
  have notLonger := (parts_suffix behind).length_le
  obtain ⟨first, main, branches, closed⟩ := stands.lengths
  exact ⟨first, by omega, by omega⟩

/-- The bodies of a tag stand between its opening tag and its end tag. -/
theorem Extent.StandsAt.body_between {cursor : Cursor} {outer : Extent}
    (stands : outer.StandsAt cursor) :
    ∀ stretch ∈ outer.main :: outer.branches.map Prod.snd, stretch.IsRead ∧
      stretch.first.rest.length ≤ outer.main.first.rest.length ∧
      outer.atEnd.rest.length ≤ stretch.last.rest.length := by
  obtain ⟨-, main, branches, -⟩ := stands.lengths
  refine List.forall_mem_cons.mpr ⟨⟨stands.main, Nat.le_refl _, branches⟩, ?_⟩
  intro stretch member
  obtain ⟨branch, isBranch, rfl⟩ := List.mem_map.mp member
  obtain ⟨begins, ends⟩ := stands.branches.between_of_mem branch isBranch
  exact ⟨stands.branches.isRead_of_mem branch isBranch, by omega, ends⟩

theorem Extent.Between.within {cursor last : Cursor} {outer extent : Extent} {isMain : Bool}
    {around : List Surrounding} {stretch : Stretch} (outside : outer.Between cursor last)
    (begins : stretch.first.rest.length ≤ outer.main.first.rest.length)
    (ends : outer.atEnd.rest.length ≤ stretch.last.rest.length)
    (inside : ∀ other ∈ extent :: around.map Surrounding.extent,
      other.Between stretch.first stretch.last) :
    ∀ other ∈ extent :: (⟨outer, isMain⟩ :: around).map Surrounding.extent,
      other.Between cursor last := by
  have ⟨first, _, before⟩ := outside
  have shifted : ∀ other ∈ extent :: around.map Surrounding.extent, other.Between cursor last :=
    fun other member => (inside other member).mono (by omega) (by omega)
  intro other member
  rcases List.mem_cons.mp member with rfl | member
  · exact shifted _ List.mem_cons_self
  · rcases List.mem_cons.mp member with rfl | member
    · exact outside
    · exact shifted other (List.mem_cons_of_mem _ member)

/-- All tags that are found among parts, with those around them, stand between where these begin and
where they end. -/
theorem Finds.between {cursor last : Cursor} {around : List Surrounding} {extent : Extent}
    {nodes : List Node} (finds : Finds cursor around extent)
    (read : parts cursor = .ok (nodes, last)) :
    ∀ other ∈ extent :: around.map Surrounding.extent, other.Between cursor last := by
  induction finds generalizing nodes last with
  | here stands =>
      intro other member
      rw [List.mem_singleton.mp member]
      exact stands.between read
  | @behind cursor after node around extent part later inductionHypothesis =>
      obtain ⟨others, behind, -⟩ := exists_of_parts_part read part
      have shorter := part?_shorter part
      exact fun other member =>
        (inductionHypothesis behind other member).mono (Nat.le_of_lt shorter) (Nat.le_refl _)
  | inMain stands inner inductionHypothesis =>
      obtain ⟨isRead, begins, ends⟩ := stands.body_between _ List.mem_cons_self
      exact (stands.between read).within begins ends (inductionHypothesis isRead)
  | inBranch stands isBranch inner inductionHypothesis =>
      obtain ⟨isRead, begins, ends⟩ :=
        stands.body_between _ (List.mem_cons_of_mem _ (List.mem_map_of_mem isBranch))
      exact (stands.between read).within begins ends (inductionHypothesis isRead)

/-- What is found in a body does not stand in the tag of the body again. -/
theorem Finds.fresh {around : List Surrounding} {extent outer : Extent} {stretch : Stretch}
    (finds : Finds stretch.first around extent) (isRead : stretch.IsRead)
    (begins : stretch.first.rest.length ≤ outer.main.first.rest.length) :
    outer ∉ around.map Surrounding.extent := by
  intro member
  have first := (finds.between isRead outer (List.mem_cons_of_mem _ member)).first
  omega

theorem Finds.nodup {cursor last : Cursor} {around : List Surrounding} {extent : Extent}
    {nodes : List Node} (finds : Finds cursor around extent)
    (read : parts cursor = .ok (nodes, last)) : (around.map Surrounding.extent).Nodup := by
  induction finds generalizing nodes last with
  | here stands => exact .nil
  | behind part later inductionHypothesis =>
      obtain ⟨others, behind, -⟩ := exists_of_parts_part read part
      exact inductionHypothesis behind
  | inMain stands inner inductionHypothesis =>
      obtain ⟨isRead, begins, -⟩ := stands.body_between _ List.mem_cons_self
      exact List.nodup_cons.mpr ⟨inner.fresh isRead begins, inductionHypothesis isRead⟩
  | inBranch stands isBranch inner inductionHypothesis =>
      obtain ⟨isRead, begins, -⟩ :=
        stands.body_between _ (List.mem_cons_of_mem _ (List.mem_map_of_mem isBranch))
      exact List.nodup_cons.mpr ⟨inner.fresh isRead begins, inductionHypothesis isRead⟩

section Found

variable {cursor after : Cursor} {around : List Surrounding} {extent outer : Extent} {node : Node}

theorem not_finds_of_none (nothing : part? parts cursor = .ok none) :
    ¬Finds cursor around extent := by
  intro finds
  cases finds with
  | here stands => cases nothing.symm.trans stands.part?_eq
  | behind part _ => cases nothing.symm.trans part
  | inMain stands _ => cases nothing.symm.trans stands.part?_eq
  | inBranch stands _ _ => cases nothing.symm.trans stands.part?_eq

/-- Where no tag with bodies stands, tags are found behind the part only. -/
theorem finds_iff_behind (part : part? parts cursor = .ok (some (node, after)))
    (nowhere : ∀ outer : Extent, ¬outer.StandsAt cursor) :
    Finds cursor around extent ↔ Finds after around extent := by
  refine ⟨fun finds => ?_, .behind part⟩
  cases finds with
  | here stands => exact absurd stands (nowhere _)
  | behind other later =>
      cases part.symm.trans other
      exact later
  | inMain stands _ => exact absurd stands (nowhere _)
  | inBranch stands _ _ => exact absurd stands (nowhere _)

/-- Where a tag with bodies stands, it is found itself, then what is in its bodies, and then what
comes behind it. -/
theorem finds_iff_of_standsAt (stands : outer.StandsAt cursor) :
    Finds cursor around extent ↔
      (around = [] ∧ extent = outer) ∨
      (∃ rest, around = ⟨outer, true⟩ :: rest ∧ Finds outer.main.first rest extent) ∨
      (∃ rest, around = ⟨outer, false⟩ :: rest ∧
        ∃ branch ∈ outer.branches, Finds branch.2.first rest extent) ∨
      Finds outer.after around extent := by
  constructor
  · intro finds
    cases finds with
    | here other => exact .inl ⟨rfl, other.unique stands⟩
    | behind part later =>
        cases part.symm.trans stands.part?_eq
        exact .inr (.inr (.inr later))
    | inMain other inner =>
        cases other.unique stands
        exact .inr (.inl ⟨_, rfl, inner⟩)
    | inBranch other isBranch inner =>
        cases other.unique stands
        exact .inr (.inr (.inl ⟨_, rfl, _, isBranch, inner⟩))
  · rintro (⟨rfl, rfl⟩ | ⟨rest, rfl, inner⟩ | ⟨rest, rfl, branch, isBranch, inner⟩ | later)
    · exact .here stands
    · exact .inMain stands inner
    · exact .inBranch stands isBranch inner
    · exact .behind stands.part?_eq later

end Found

end BraceTemplate.Reading
