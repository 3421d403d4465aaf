import Mathlib.Data.List.Perm.Subperm
import Mathlib.Logic.Relation
import BraceTemplate.Proofs.Program.Accounting
import BraceTemplate.Proofs.Program.Defining

/-!
# How bodies nest

A body stands in another where a step of that one names it: for a tag, for a parameter, or for the
name of a template. In the program of any tree the bodies are trees by this: the first body of the
program is the root of one, and the main body of each definition that of another, whether the
definition stays or a later one under its name takes its place.
-/

namespace BraceTemplate

namespace Members

variable {Held : Type}

theorem insert_subperm (members : Members Held) (key : String) (added : Held) :
    (members.insert key added).Subperm ((key, added) :: members) := by
  induction members with
  | nil => exact List.Subperm.refl _
  | cons entry rest inductionHypothesis =>
      obtain ⟨other, held⟩ := entry
      unfold insert
      split
      · exact ((List.sublist_cons_self _ _).cons_cons _).subperm
      · split
        · exact List.Subperm.refl _
        · exact ((List.subperm_cons _).mpr inductionHypothesis).trans
            (List.Perm.swap _ _ _).subperm

/-- A table holds entries that it was made of, each at most once. -/
theorem ofList_subperm (entries : List (String × Held)) : (ofList entries).Subperm entries := by
  suffices all : ∀ members : Members Held,
      (entries.foldl (fun members entry => members.insert entry.1 entry.2) members).Subperm
        (entries ++ members) by
    simpa [ofList] using all []
  induction entries with
  | nil => exact fun members => List.Subperm.refl _
  | cons entry rest inductionHypothesis =>
      intro members
      refine (inductionHypothesis _).trans ?_
      refine ((List.subperm_append_left rest).mpr (members.insert_subperm entry.1 entry.2)).trans ?_
      exact List.perm_middle.subperm

end Members

namespace Program

def Encloses (program : Program) (outer inner : BodyId) : Prop :=
  ∃ op ∈ program.body outer, inner ∈ op.opened

/-- Numbers of bodies are used for bodies that there are, within a body for later ones, and none is
used twice, in steps and in the table of blocks. -/
structure IsOrdered (program : Program) : Prop where
  root : program.root < program.bodies.length
  blocks : ∀ id ∈ program.blockBodies, id < program.bodies.length
  opened : ∀ outer inner, program.Encloses outer inner →
    outer < inner ∧ inner < program.bodies.length
  once : (Op.allOpened program.bodies.flatten ++ program.blockBodies).Nodup

/-- The bodies of a program are trees with given roots: nothing encloses a root, no two bodies
enclose the same one, and each body is within one of the roots. -/
structure IsForest (program : Program) (roots : List BodyId) : Prop where
  nodup : roots.Nodup
  outermost : ∀ root ∈ roots, ∀ outer, ¬program.Encloses outer root
  parent : ∀ outer other inner, program.Encloses outer inner → program.Encloses other inner →
    outer = other
  within : ∀ id < program.bodies.length, ∃! root, root ∈ roots ∧
    Relation.ReflTransGen program.Encloses root id

variable {program : Program} {outer other inner : BodyId}

theorem encloses_iff : program.Encloses outer inner ↔
    ∃ ops, program.bodies[outer]? = some ops ∧ inner ∈ Op.allOpened ops := by
  constructor
  · rintro ⟨op, inBody, opened⟩
    obtain ⟨ops, found, inOps⟩ := exists_of_mem_body inBody
    exact ⟨ops, found, List.mem_flatMap.mpr ⟨op, inOps, opened⟩⟩
  · rintro ⟨ops, found, member⟩
    obtain ⟨op, inOps, opened⟩ := List.mem_flatMap.mp member
    refine ⟨op, ?_, opened⟩
    rw [Program.body, List.getD_eq_getElem?_getD, found]
    exact inOps

theorem mem_allOpened_iff :
    inner ∈ Op.allOpened program.bodies.flatten ↔ ∃ outer, program.Encloses outer inner := by
  simp only [encloses_iff, Op.allOpened, List.mem_flatMap, List.mem_flatten]
  constructor
  · rintro ⟨op, ⟨ops, member, inOps⟩, opened⟩
    obtain ⟨outer, found⟩ := List.getElem?_of_mem member
    exact ⟨outer, ops, found, op, inOps, opened⟩
  · rintro ⟨outer, ops, found, op, inOps, opened⟩
    exact ⟨op, ⟨ops, List.mem_of_getElem? found, inOps⟩, opened⟩

/-- Where no number is used twice in steps, a body stands in one other body at most. -/
theorem eq_of_encloses (once : (Op.allOpened program.bodies.flatten).Nodup)
    (encloses : program.Encloses outer inner) (enclosesToo : program.Encloses other inner) :
    outer = other := by
  obtain ⟨ops, found, member⟩ := encloses_iff.mp encloses
  obtain ⟨otherOps, otherFound, otherMember⟩ := encloses_iff.mp enclosesToo
  have flat : Op.allOpened program.bodies.flatten = program.bodies.flatMap Op.allOpened := by
    rw [Op.allOpened, List.flatten_eq_flatMap, List.flatMap_assoc]
    rfl
  rw [flat, List.nodup_flatMap, List.pairwise_iff_getElem] at once
  obtain ⟨bound, rfl⟩ := List.getElem?_eq_some_iff.mp found
  obtain ⟨otherBound, rfl⟩ := List.getElem?_eq_some_iff.mp otherFound
  rcases Nat.lt_trichotomy outer other with before | same | behind
  · exact absurd otherMember (once.2 outer other bound otherBound before member)
  · exact same
  · exact absurd member (once.2 other outer otherBound bound behind otherMember)

/-- Where bodies enclose later ones, the numbers of all bodies are those of roots and those that
steps name. -/
theorem isForest_of_perm {roots : List BodyId}
    (later : ∀ outer inner : Nat, program.Encloses outer inner → outer < inner)
    (all : (roots ++ Op.allOpened program.bodies.flatten).Perm
      (List.range program.bodies.length)) : program.IsForest roots := by
  have once := all.nodup_iff.mpr List.nodup_range
  rw [List.nodup_append] at once
  obtain ⟨nodup, openedOnce, apart⟩ := once
  have outermost : ∀ root ∈ roots, ∀ outer, ¬program.Encloses outer root :=
    fun root isRoot outer encloses =>
      apart root isRoot root (mem_allOpened_iff.mpr ⟨outer, encloses⟩) rfl
  have parent : ∀ outer other inner, program.Encloses outer inner →
      program.Encloses other inner → outer = other :=
    fun _ _ _ => eq_of_encloses openedOnce
  refine ⟨nodup, outermost, parent, fun id => ?_⟩
  induction id using Nat.strongRecOn with
  | ind id inductionHypothesis =>
      intro bound
      rcases List.mem_append.mp (all.mem_iff.mpr (List.mem_range.mpr bound)) with isRoot | isOpened
      · refine ⟨id, ⟨isRoot, .refl⟩, fun other otherRoot => ?_⟩
        rcases Relation.ReflTransGen.cases_tail otherRoot.2 with same | ⟨middle, _, encloses⟩
        · exact same.symm
        · exact absurd encloses (outermost id isRoot middle)
      · -- What encloses the body has a smaller number, and nothing else encloses it.
        obtain ⟨outer, encloses⟩ := mem_allOpened_iff.mp isOpened
        have before := later outer id encloses
        obtain ⟨root, ⟨isRoot, reaches⟩, unique⟩ :=
          inductionHypothesis outer before (Nat.lt_trans before bound)
        refine ⟨root, ⟨isRoot, reaches.tail encloses⟩, fun other otherRoot => ?_⟩
        rcases Relation.ReflTransGen.cases_tail otherRoot.2 with same | ⟨middle, path, last⟩
        · exact absurd encloses (outermost id (same ▸ otherRoot.1) outer)
        · exact unique other ⟨otherRoot.1, parent middle outer id last encloses ▸ path⟩

theorem zip_names {next : Nat} {bodies : List (List Op)} {definitions : List Definition}
    {blocks : List (String × BodyId)}
    (laidOut : List.Forall₂ (Definition.LaidOut next bodies) definitions blocks) :
    (definitions.map Definition.name).zip (blocks.map Prod.snd) = blocks := by
  induction laidOut with
  | nil => rfl
  | cons here _ inductionHypothesis =>
      rw [List.map_cons, List.map_cons, List.zip_cons_cons, inductionHypothesis, ← here.name]

section OfNode

variable (name auto : Option String) (node : Node)

def definedBodies : List BodyId :=
  (Compile.openBody (node.steps auto) 0).blocks.map Prod.snd

/-- Every number is that of the first body or of a definition, or a step names it, and it is just
one of these, once. -/
theorem ofNode_perm :
    (((ofNode name auto node).root :: definedBodies auto node) ++
      Op.allOpened (ofNode name auto node).bodies.flatten).Perm
        (List.range (ofNode name auto node).bodies.length) := by
  rw [List.range_eq_range']
  exact (List.perm_append_comm.cons _).trans (node.perm_range' auto)

theorem lt_of_encloses {outer inner : Nat}
    (encloses : (ofNode name auto node).Encloses outer inner) : outer < inner := by
  obtain ⟨ops, found, member⟩ := encloses_iff.mp encloses
  have accounts := Compile.Accounts.openBody (node.steps_accounts auto)
  have behind := accounts.ascends 0 outer ops found inner member
  omega

/-- The table of blocks keeps some of the bodies of definitions. -/
theorem blockBodies_subperm :
    (ofNode name auto node).blockBodies.Subperm (definedBodies auto node) := by
  obtain ⟨entries, perm, sublist⟩ :=
    Members.ofList_subperm (Compile.openBody (node.steps auto) 0).blocks
  exact ⟨entries.map Prod.snd, perm.map _, sublist.map _⟩

theorem ofNode_isOrdered : (ofNode name auto node).IsOrdered := by
  let program := ofNode name auto node
  have all := ofNode_perm name auto node
  have kept := blockBodies_subperm name auto node
  have below : ∀ id ∈ (program.root :: definedBodies auto node) ++
      Op.allOpened program.bodies.flatten, id < program.bodies.length :=
    fun id member => List.mem_range.mp (all.mem_iff.mp member)
  refine ⟨?_, fun id member => ?_, fun outer inner encloses => ⟨?_, ?_⟩, ?_⟩
  · exact below program.root List.mem_cons_self
  · exact below id (List.mem_append_left _ (List.mem_cons_of_mem _ (kept.subset member)))
  · exact lt_of_encloses name auto node encloses
  · exact below inner (List.mem_append_right _ (mem_allOpened_iff.mpr ⟨outer, encloses⟩))
  · obtain ⟨others, perm, sublist⟩ :=
      (List.subperm_append_left (Op.allOpened program.bodies.flatten)).mpr kept
    have apart : (definedBodies auto node ++ Op.allOpened program.bodies.flatten).Nodup :=
      (all.nodup_iff.mpr List.nodup_range).of_cons
    exact perm.nodup_iff.mp ((List.nodup_append_comm.mp apart).sublist sublist)

theorem implements_definedBodies :
    List.Forall₂ (ofNode name auto node).Implements (node.definitions auto)
      (definedBodies auto node) :=
  List.forall₂_map_right_iff.mpr
    (((node.steps_defines auto).openBody 0).imp fun _ _ => implements_of_laidOut)

end OfNode

/-- The program of any tree uses the numbers of its bodies in order and each at most once, and its
bodies are trees: one from its first body on, and one for each definition of a block, also for those
that a later one under their name takes the place of. -/
theorem ofNode_isForest (name auto : Option String) (node : Node) :
    (ofNode name auto node).IsOrdered ∧
      ∃ defined : List BodyId,
        List.Forall₂ (ofNode name auto node).Implements (node.definitions auto) defined ∧
        (ofNode name auto node).blocks =
          Members.ofList (((node.definitions auto).map Definition.name).zip defined) ∧
        (ofNode name auto node).IsForest ((ofNode name auto node).root :: defined) := by
  have isForest := isForest_of_perm (fun _ _ => lt_of_encloses name auto node)
    (ofNode_perm name auto node)
  refine ⟨ofNode_isOrdered name auto node, definedBodies auto node,
    implements_definedBodies name auto node, ?_, isForest⟩
  rw [definedBodies, zip_names ((node.steps_defines auto).openBody 0)]
  rfl

end Program

end BraceTemplate
