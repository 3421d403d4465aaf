import Mathlib.Data.Set.Operations
import BraceTemplate.Proofs.Program.Everywhere
import BraceTemplate.Proofs.Program.Forest
import BraceTemplate.Proofs.Reading.Extents
import BraceTemplate.Proofs.Reading.Positions
import BraceTemplate.Proofs.Reading.TextInFront

/-!
# Which definition of a block stays

The definitions of a source are compiled in the order of their end tags, but for one thing: what
stands in the main body of a tag is compiled behind what stands in its branches, though its end tags
come first. Main statement: of the definitions of a block the last one in this order stays.
-/

namespace BraceTemplate

open Reading Source

/-! ## Definitions as they stand -/

/-- A tag of a source with the bodies that it stands in, the outermost first. -/
structure Standing where
  around : List Surrounding
  extent : Extent

namespace Standing

def extents (standing : Standing) : List Extent :=
  standing.extent :: standing.around.map Surrounding.extent

def within (surrounding : Surrounding) (standing : Standing) : Standing :=
  ⟨surrounding :: standing.around, standing.extent⟩

/-- What the tag defines, with the automatic filter where it stands. -/
def definition (auto : Option String) (standing : Standing) : Definition :=
  ⟨standing.extent.opening.identifier.text, standing.extent.main.node,
    automaticWithin auto standing.around⟩

/-- From a cursor on a block is defined by a tag, which stands in nothing that is left out. -/
structure IsDefined (start : Cursor) (standing : Standing) : Prop where
  found : Finds start standing.around standing.extent
  kind : standing.extent.opening.kind = .define
  compiled : ∀ surrounding ∈ standing.around, surrounding.isCompiled = true

/-- A block is defined under a name. -/
def Defines (start : Cursor) (block : String) (standing : Standing) : Prop :=
  standing.IsDefined start ∧ standing.extent.opening.identifier.text = block

def EndsBefore (first second : Standing) : Prop :=
  second.extent.atEnd.rest.length < first.extent.atEnd.rest.length

def InMainBeside (first second : Standing) : Prop :=
  ∃ outer, ⟨outer, true⟩ ∈ first.around ∧ ⟨outer, false⟩ ∈ second.around

def Precedes (first second : Standing) : Prop :=
  second.InMainBeside first ∨ first.EndsBefore second ∧ ¬first.InMainBeside second

/-- The last definition of a block in the order of compilation. -/
def IsLast (start : Cursor) (block : String) (standing : Standing) : Prop :=
  standing.Defines start block ∧
    ∀ other : Standing, other.Defines start block → other = standing ∨ other.Precedes standing

end Standing

/-- Whether no branch of a definition or of an escape pragma goes by the name of the main body,
which is behind the branches. -/
def Node.keepsMain : Node → Bool
  | .sectionTag .define _ _ _ bodies _ => bodies.dropLast.all fun entry => entry.1 ≠ mainBody
  | .sectionTag .pragma identifier _ _ bodies _ =>
    identifier.text ≠ escapePragma || bodies.dropLast.all fun entry => entry.1 ≠ mainBody
  | _ => true

/-! ## Definitions in order -/

namespace Standing

variable {cursor last : Cursor} {first second standing : Standing} {surrounding : Surrounding}
variable {nodes : List Node} {outer : Extent}

theorem IsDefined.between (isDefined : standing.IsDefined cursor)
    (read : parts cursor = .ok (nodes, last)) :
    ∀ extent ∈ standing.extents, extent.Between cursor last :=
  isDefined.found.between read

/-- What ends before a place precedes what begins behind it. -/
theorem precedes_of_apart {middle earlier later : Cursor}
    (before : ∀ extent ∈ first.extents, extent.Between earlier middle)
    (behind : ∀ extent ∈ second.extents, extent.Between middle later) : first.Precedes second := by
  refine .inr ⟨?_, ?_⟩
  · have ends := (before _ List.mem_cons_self).last
    obtain ⟨begins, inOrder, -⟩ := behind _ List.mem_cons_self
    unfold EndsBefore
    omega
  · rintro ⟨outer, ofFirst, ofSecond⟩
    obtain ⟨-, inOrder, ends⟩ :=
      before outer (List.mem_cons_of_mem _ (List.mem_map_of_mem ofFirst))
    have begins := (behind outer (List.mem_cons_of_mem _ (List.mem_map_of_mem ofSecond))).first
    omega

theorem inMainBeside_within_iff (fresh : surrounding.extent ∉ first.around.map Surrounding.extent)
    (freshToo : surrounding.extent ∉ second.around.map Surrounding.extent) :
    (first.within surrounding).InMainBeside (second.within surrounding) ↔
      first.InMainBeside second := by
  constructor
  · rintro ⟨outer, ofFirst, ofSecond⟩
    rcases List.mem_cons.mp ofFirst with isFirst | ofFirst
    · rcases List.mem_cons.mp ofSecond with isSecond | ofSecond
      · cases isFirst.trans isSecond.symm
      · rw [← isFirst] at freshToo
        exact absurd (List.mem_map_of_mem ofSecond) freshToo
    · rcases List.mem_cons.mp ofSecond with isSecond | ofSecond
      · rw [← isSecond] at fresh
        exact absurd (List.mem_map_of_mem ofFirst) fresh
      · exact ⟨outer, ofFirst, ofSecond⟩
  · rintro ⟨outer, ofFirst, ofSecond⟩
    exact ⟨outer, List.mem_cons_of_mem _ ofFirst, List.mem_cons_of_mem _ ofSecond⟩

theorem Precedes.within (precedes : first.Precedes second)
    (fresh : surrounding.extent ∉ first.around.map Surrounding.extent)
    (freshToo : surrounding.extent ∉ second.around.map Surrounding.extent) :
    (first.within surrounding).Precedes (second.within surrounding) :=
  precedes.imp (inMainBeside_within_iff freshToo fresh).mpr
    (And.imp_right (mt (inMainBeside_within_iff fresh freshToo).mp))

def Enumerates (auto : Option String) (holds : Standing → Prop) (definitions : List Definition) :
    Prop :=
  ∃ standings : List Standing, standings.map (definition auto) = definitions ∧
    (∀ standing, standing ∈ standings ↔ holds standing) ∧ standings.Pairwise Precedes

namespace Enumerates

variable {auto : Option String} {holds holdsToo : Standing → Prop}
variable {definitions definitionsToo : List Definition}

theorem nothing (none : ∀ standing, ¬holds standing) : Enumerates auto holds [] :=
  ⟨[], rfl, fun standing => by simp [none standing], .nil⟩

theorem congr (enumerates : Enumerates auto holds definitions)
    (same : ∀ standing, holdsToo standing ↔ holds standing) :
    Enumerates auto holdsToo definitions := by
  obtain ⟨standings, mapped, members, ordered⟩ := enumerates
  exact ⟨standings, mapped, fun standing => (members standing).trans (same standing).symm, ordered⟩

theorem single (standing : Standing) :
    Enumerates auto (· = standing) [standing.definition auto] :=
  ⟨[standing], rfl, fun _ => List.mem_singleton, List.pairwise_singleton _ _⟩

theorem append (earlier : Enumerates auto holds definitions)
    (later : Enumerates auto holdsToo definitionsToo)
    (apart : ∀ first second, holds first → holdsToo second → first.Precedes second) :
    Enumerates auto (fun standing => holds standing ∨ holdsToo standing)
      (definitions ++ definitionsToo) := by
  obtain ⟨standings, rfl, members, ordered⟩ := earlier
  obtain ⟨others, rfl, membersToo, orderedToo⟩ := later
  refine ⟨standings ++ others, List.map_append, fun standing => ?_, ?_⟩
  · rw [List.mem_append, members, membersToo]
  · exact List.pairwise_append.mpr ⟨ordered, orderedToo, fun first isFirst second isSecond =>
      apart first second ((members first).mp isFirst) ((membersToo second).mp isSecond)⟩

/-- What stands in a body stands in the same order around that body. -/
theorem within {surrounding : Surrounding}
    (inside : Enumerates (automatic auto [surrounding.enclosure]) holds definitions)
    (fresh : ∀ standing, holds standing →
      surrounding.extent ∉ standing.around.map Surrounding.extent) :
    Enumerates auto (fun standing => ∃ inner, holds inner ∧ standing = inner.within surrounding)
      definitions := by
  obtain ⟨standings, rfl, members, ordered⟩ := inside
  refine ⟨standings.map (Standing.within surrounding), ?_, fun standing => ?_, ?_⟩
  · rw [List.map_map]
    refine List.map_congr_left fun standing _ => ?_
    simp only [Function.comp, definition, Standing.within, automaticWithin_cons]
  · simp only [List.mem_map, members, eq_comm]
  · refine List.pairwise_map.mpr (ordered.imp_of_mem fun isFirst isSecond precedes => ?_)
    exact precedes.within (fresh _ ((members _).mp isFirst)) (fresh _ ((members _).mp isSecond))

end Enumerates

def StandsIn (outer : Extent) (standing : Standing) : Prop :=
  (outer.opening.kind = .define ∧ standing = ⟨[], outer⟩) ∨
  ((Surrounding.mk outer true).isCompiled = true ∧
    ∃ inner : Standing, inner.IsDefined outer.main.first ∧ standing = inner.within ⟨outer, true⟩) ∨
  ((Surrounding.mk outer false).isCompiled = true ∧
    ∃ inner : Standing, (∃ branch ∈ outer.branches, inner.IsDefined branch.2.first) ∧
      standing = inner.within ⟨outer, false⟩)

theorem isDefined_iff_behind {node : Node} {after : Cursor}
    (part : part? parts cursor = .ok (some (node, after)))
    (nowhere : ∀ outer : Extent, ¬outer.StandsAt cursor) :
    standing.IsDefined cursor ↔ standing.IsDefined after := by
  have same : Finds cursor standing.around standing.extent ↔
      Finds after standing.around standing.extent := finds_iff_behind part nowhere
  exact ⟨fun isDefined => ⟨same.mp isDefined.found, isDefined.kind, isDefined.compiled⟩,
    fun isDefined => ⟨same.mpr isDefined.found, isDefined.kind, isDefined.compiled⟩⟩

theorem isDefined_iff_of_standsAt (stands : outer.StandsAt cursor) :
    standing.IsDefined cursor ↔ standing.StandsIn outer ∨ standing.IsDefined outer.after := by
  obtain ⟨around, extent⟩ := standing
  constructor
  · rintro ⟨found, kind, compiled⟩
    rcases (finds_iff_of_standsAt stands).mp found with
      ⟨rfl, rfl⟩ | ⟨rest, rfl, inner⟩ | ⟨rest, rfl, branch, isBranch, inner⟩ | later
    · exact .inl (.inl ⟨kind, rfl⟩)
    · obtain ⟨here, inside⟩ := List.forall_mem_cons.mp compiled
      exact .inl (.inr (.inl ⟨here, ⟨rest, extent⟩, ⟨inner, kind, inside⟩, rfl⟩))
    · obtain ⟨here, inside⟩ := List.forall_mem_cons.mp compiled
      exact .inl (.inr (.inr ⟨here, ⟨rest, extent⟩,
        ⟨branch, isBranch, inner, kind, inside⟩, rfl⟩))
    · exact .inr ⟨later, kind, compiled⟩
  · rintro ((⟨kind, same⟩ | ⟨here, inner, isDefined, same⟩ |
      ⟨here, inner, ⟨branch, isBranch, isDefined⟩, same⟩) | isDefined)
    · cases same
      exact ⟨.here stands, kind, by simp⟩
    · cases same
      exact ⟨.inMain stands isDefined.found, isDefined.kind,
        List.forall_mem_cons.mpr ⟨here, isDefined.compiled⟩⟩
    · cases same
      exact ⟨.inBranch stands isBranch isDefined.found, isDefined.kind,
        List.forall_mem_cons.mpr ⟨here, isDefined.compiled⟩⟩
    · exact ⟨.behind stands.part?_eq isDefined.found, isDefined.kind, isDefined.compiled⟩

end Standing

namespace Node

variable {auto : Option String} {branches : List (String × Node)} {main : Node}

theorem definitionsOfBodies_append (auto : Option String) (first second : List (String × Node)) :
    definitionsOfBodies auto (first ++ second) =
      definitionsOfBodies auto first ++ definitionsOfBodies auto second := by
  induction first with
  | nil => rfl
  | cons entry rest inductionHypothesis =>
      simp only [List.cons_append, definitionsOfBodies, inductionHypothesis, List.append_assoc]

theorem definitionsOfMain_keeping (others : ∀ entry ∈ branches, entry.1 ≠ mainBody) :
    definitionsOfMain auto (branches ++ [(mainBody, main)]) = definitions auto main := by
  induction branches with
  | nil => simp [definitionsOfMain]
  | cons entry rest inductionHypothesis =>
      obtain ⟨here, later⟩ := List.forall_mem_cons.mp others
      simp only [List.cons_append, definitionsOfMain, if_neg here, inductionHypothesis later]

theorem definitionsOfDefine_keeping {defined : String}
    (others : ∀ entry ∈ branches, entry.1 ≠ mainBody) :
    definitionsOfDefine auto defined (branches ++ [(mainBody, main)]) =
      definitions auto main ++ [⟨defined, main, auto⟩] := by
  induction branches with
  | nil => simp [definitionsOfDefine]
  | cons entry rest inductionHypothesis =>
      obtain ⟨here, later⟩ := List.forall_mem_cons.mp others
      simp only [List.cons_append, definitionsOfDefine, if_neg here, inductionHypothesis later]

theorem definitions_of_isPlain {node : Node} (isPlain : node.isPlain = true) :
    definitions auto node = [] := by
  cases node with
  | body parts position => cases isPlain
  | sectionTag kind identifier context params bodies position => cases isPlain
  | inclusion kind target context params position => cases isPlain
  | _ => rfl

/-- Nothing is defined between quotes. -/
theorem definitions_of_isQuotation {inner : Node} (isQuotation : inner.isQuotation = true) :
    definitions auto inner = [] := by
  cases inner with
  | body parts position =>
      have each : ∀ part ∈ parts, part.isPlain = true := by
        simpa [Node.isQuotation] using isQuotation
      clear isQuotation
      change definitionsOfParts auto parts = []
      induction parts with
      | nil => rfl
      | cons part rest inductionHypothesis =>
          obtain ⟨here, later⟩ := List.forall_mem_cons.mp each
          rw [definitionsOfParts, definitions_of_isPlain here, inductionHypothesis later,
            List.append_nil]
  | _ => cases isQuotation

theorem definitionsOfParams_of_quotes {params : List (Param Node)}
    (each : ∀ param ∈ params, param.Quotes) : definitionsOfParams auto params = [] := by
  induction params with
  | nil => rfl
  | cons param rest inductionHypothesis =>
      obtain ⟨here, later⟩ := List.forall_mem_cons.mp each
      obtain ⟨key, value⟩ := param
      cases value with
      | inline inner =>
          rw [definitionsOfParams, definitions_of_isQuotation (here inner rfl),
            inductionHypothesis later, List.append_nil]
      | _ => exact inductionHypothesis later

/-- Nothing is defined by a tag without bodies. -/
theorem definitions_of_closedAtOnce {kind : SectionKind} {identifier : Identifier}
    {context : Option Identifier} {params : List (Param Node)} {position : Position}
    (each : ∀ param ∈ params, param.Quotes) :
    definitions auto (.sectionTag kind identifier context params [] position) = [] := by
  cases kind with
  | define => rfl
  | pragma => simp only [definitions, definitionsOfMain, ite_self]
  | _ => exact definitionsOfParams_of_quotes each

theorem definitions_of_latePart? {cursor after : Cursor} {node : Node}
    (late : latePart? cursor = some (node, after)) : definitions auto node = [] := by
  rcases latePart?_cases late with inclusion | special | reference | text
  · simp only [inclusion?, Option.bind_eq_bind, Option.bind_eq_some_iff] at inclusion
    obtain ⟨_, _, _, _, ⟨target, afterTarget⟩, ofTarget, _, _, yielded⟩ := inclusion
    cases yielded
    have none : definitionsOfTarget auto target = [] := by
      cases target with
      | name plain => rfl
      | inline inner => exact definitions_of_isQuotation (target?_quotes ofTarget inner rfl)
    rw [definitions, none, definitionsOfParams_of_quotes (many_param?_quotes _), List.append_nil]
  · exact definitions_of_isPlain (special?_isPlain special)
  · exact definitions_of_isPlain (reference?_isPlain reference)
  · exact definitions_of_isPlain (text?_isPlain text)

/-- Nothing is defined by a part that is no tag with bodies. -/
theorem definitions_of_part? {cursor after : Cursor} {node : Node}
    (part : part? parts cursor = .ok (some (node, after)))
    (nowhere : ∀ outer : Extent, ¬outer.StandsAt cursor) : definitions auto node = [] := by
  rcases part?_cases part with isEarly | ⟨early, enclosed | late⟩
  · exact definitions_of_isPlain (earlyPart?_isPlain isEarly)
  · obtain ⟨opening, afterOpening, bodies, opened, rfl, ofBodies⟩ := section?_cases enclosed
    rcases ofBodies with ⟨rfl, _⟩ | ⟨inside, atEnd, closed, _⟩
    · exact definitions_of_closedAtOnce (opening?_quotes opened)
    · obtain ⟨outer, stands⟩ := Extent.exists_standsAt ⟨early, afterOpening, opened, closed⟩ part
      exact absurd stands (nowhere outer)
  · exact definitions_of_latePart? late

end Node

/-! ## The order of compilation -/

namespace Standing

variable {cursor last : Cursor} {outer : Extent} {auto : Option String}

/-- Branches are compiled one after the other. -/
theorem enumerates_branches {branches : List (String × Stretch)}
    (stand : BranchesStand cursor branches last)
    (inside : ∀ branch ∈ branches, Enumerates auto (IsDefined branch.2.first)
      (branch.2.node.definitions auto)) :
    Enumerates auto (fun standing => ∃ branch ∈ branches, standing.IsDefined branch.2.first)
      (Node.definitionsOfBodies auto (branches.map fun branch => (branch.1, branch.2.node))) := by
  induction stand with
  | none _ => exact .nothing (by simp)
  | @more cursor last name stretch rest tag isRead others inductionHypothesis =>
      obtain ⟨here, later⟩ := List.forall_mem_cons.mp inside
      refine (here.append (inductionHypothesis later) ?_).congr fun standing => by simp
      rintro first second isFirst ⟨branch, isBranch, isSecond⟩
      have begins := (others.between_of_mem branch isBranch).1
      exact precedes_of_apart (isFirst.between isRead) fun extent member =>
        (isSecond.between (others.isRead_of_mem branch isBranch) extent member).mono
          (Nat.le_of_lt begins) (Nat.le_refl _)

theorem clear_body {holds : Node → Bool} {stretch : Stretch}
    (clear : Node.allBodies holds outer.bodies = true)
    (member : stretch ∈ outer.main :: outer.branches.map Prod.snd) :
    Node.allParts holds stretch.nodes = true := by
  have each := Node.allBodies_eq_true_iff.mp clear
  have whole : stretch.node.all holds = true := by
    rcases List.mem_cons.mp member with rfl | isBranch
    · exact each (mainBody, outer.main.node) (List.mem_append_right _ List.mem_cons_self)
    · obtain ⟨branch, ofBranch, rfl⟩ := List.mem_map.mp isBranch
      exact each (branch.1, branch.2.node)
        (List.mem_append_left _ (List.mem_map.mpr ⟨branch, ofBranch, rfl⟩))
  exact (Bool.and_eq_true_iff.mp whole).2

theorem StandsIn.between {standing : Standing} (standsIn : standing.StandsIn outer)
    (stands : outer.StandsAt cursor) :
    ∀ extent ∈ standing.extents, extent.Between cursor outer.after := by
  obtain ⟨first, main, branches, closed⟩ := stands.lengths
  have itself : outer.Between cursor outer.after := ⟨first, by omega, closed⟩
  rcases standsIn with ⟨-, rfl⟩ | ⟨-, inner, isDefined, rfl⟩ |
    ⟨-, inner, ⟨branch, isBranch, isDefined⟩, rfl⟩
  · exact List.forall_mem_singleton.mpr itself
  · obtain ⟨isRead, begins, ends⟩ := stands.body_between _ List.mem_cons_self
    exact itself.within begins ends (isDefined.between isRead)
  · obtain ⟨isRead, begins, ends⟩ :=
      stands.body_between _ (List.mem_cons_of_mem _ (List.mem_map_of_mem isBranch))
    exact itself.within begins ends (isDefined.between isRead)

section Tags

variable (stands : outer.StandsAt cursor)
variable (inside : ∀ stretch ∈ outer.main :: outer.branches.map Prod.snd, ∀ auto,
  Enumerates auto (IsDefined stretch.first) (stretch.node.definitions auto))

include stands inside

theorem enumerates_main (auto : Option String) :
    Enumerates auto
      (fun standing => ∃ inner : Standing, inner.IsDefined outer.main.first ∧
        standing = inner.within ⟨outer, true⟩)
      (outer.main.node.definitions (automatic auto [(Surrounding.mk outer true).enclosure])) :=
  (inside _ List.mem_cons_self _).within fun _ isDefined =>
    isDefined.found.fresh stands.main (Nat.le_refl _)

/-- The bodies of other tags are compiled in order, the main one last. -/
theorem enumerates_bodies {auto : Option String}
    (same : ∀ isMain, automatic auto [(Surrounding.mk outer isMain).enclosure] = auto) :
    Enumerates auto
      (fun standing =>
        (∃ inner : Standing, (∃ branch ∈ outer.branches, inner.IsDefined branch.2.first) ∧
          standing = inner.within ⟨outer, false⟩) ∨
        ∃ inner : Standing, inner.IsDefined outer.main.first ∧
          standing = inner.within ⟨outer, true⟩)
      (Node.definitionsOfBodies auto outer.bodies) := by
  have ofMain := enumerates_main stands inside auto
  have ofBranches : Enumerates auto
      (fun standing => ∃ branch ∈ outer.branches, standing.IsDefined branch.2.first) _ :=
    enumerates_branches stands.branches fun branch isBranch =>
      inside _ (List.mem_cons_of_mem _ (List.mem_map_of_mem isBranch)) auto
  have fresh : ∀ standing : Standing,
      (∃ branch ∈ outer.branches, standing.IsDefined branch.2.first) →
        outer ∉ standing.around.map Surrounding.extent := by
    rintro standing ⟨branch, isBranch, isDefined⟩
    obtain ⟨isRead, begins, -⟩ :=
      stands.body_between _ (List.mem_cons_of_mem _ (List.mem_map_of_mem isBranch))
    exact isDefined.found.fresh isRead begins
  rw [Extent.bodies, Node.definitionsOfBodies_append]
  simp only [Node.definitionsOfBodies, List.append_nil]
  rw [same] at ofMain
  refine .append (.within ((same false).symm ▸ ofBranches) fresh) ofMain ?_
  rintro _ _ ⟨first, -, rfl⟩ ⟨second, -, rfl⟩
  exact .inl ⟨outer, List.mem_cons_self, List.mem_cons_self⟩

theorem enumerates_definition (isDefinition : outer.opening.kind = .define)
    (others : ∀ entry ∈ outer.branches.map fun branch => (branch.1, branch.2.node),
      entry.1 ≠ mainBody) :
    Enumerates auto (StandsIn outer) ((outer.node cursor.position).definitions auto) := by
  have definitions : (outer.node cursor.position).definitions auto =
      outer.main.node.definitions auto ++ [Standing.definition auto ⟨[], outer⟩] := by
    simp only [Extent.node, Node.definitions, isDefinition]
    exact Node.definitionsOfDefine_keeping others
  have ofMain := enumerates_main stands inside auto
  rw [Surrounding.automatic_of_other (by simp [isDefinition])] at ofMain
  rw [definitions]
  refine (ofMain.append (.single ⟨[], outer⟩) ?_).congr fun standing => ?_
  · rintro _ _ ⟨first, isFirst, rfl⟩ rfl
    have ends := (isFirst.between stands.main _ List.mem_cons_self).last
    refine .inr ⟨Nat.lt_of_le_of_lt stands.branches.last_le ends, ?_⟩
    rintro ⟨_, _, member⟩
    cases member
  · simp [StandsIn, isDefinition, Surrounding.isCompiled_of_definition, or_comm]

theorem enumerates_pragma (isPragma : outer.opening.kind = .pragma)
    (others : outer.opening.identifier.text = escapePragma →
      ∀ entry ∈ outer.branches.map fun branch => (branch.1, branch.2.node),
        entry.1 ≠ mainBody) :
    Enumerates auto (StandsIn outer) ((outer.node cursor.position).definitions auto) := by
  have compiled := fun isMain =>
    @Surrounding.isCompiled_of_pragma_iff (Surrounding.mk outer isMain) isPragma
  by_cases isEscape : outer.opening.identifier.text = escapePragma
  · have definitions : (outer.node cursor.position).definitions auto =
        outer.main.node.definitions (pragmaFilter outer.opening.context) := by
      simp only [Extent.node, Node.definitions, isPragma, if_pos isEscape]
      exact Node.definitionsOfMain_keeping (others isEscape)
    have ofMain := enumerates_main stands inside auto
    rw [Surrounding.automatic_of_escape isPragma isEscape] at ofMain
    rw [definitions]
    refine ofMain.congr fun standing => ?_
    simp [StandsIn, isPragma, compiled, isEscape]
  · have definitions : (outer.node cursor.position).definitions auto = [] := by
      simp only [Extent.node, Node.definitions, isPragma, if_neg isEscape]
    rw [definitions]
    refine .nothing fun standing => ?_
    simp [StandsIn, isPragma, compiled, isEscape]

theorem enumerates_other (noDefinition : outer.opening.kind ≠ .define)
    (noPragma : outer.opening.kind ≠ .pragma) :
    Enumerates auto (StandsIn outer) ((outer.node cursor.position).definitions auto) := by
  have noParams : Node.definitionsOfParams auto outer.opening.params = [] := by
    obtain ⟨-, afterOpening, opened, -⟩ := stands.opens
    exact Node.definitionsOfParams_of_quotes (opening?_quotes opened)
  have definitions : (outer.node cursor.position).definitions auto =
      Node.definitionsOfBodies auto outer.bodies := by
    rw [← List.append_nil (Node.definitionsOfBodies auto outer.bodies), ← noParams]
    unfold Extent.node
    cases kind : outer.opening.kind with
    | define => exact absurd kind noDefinition
    | pragma => exact absurd kind noPragma
    | _ => rfl
  have compiled := fun isMain =>
    @Surrounding.isCompiled_of_other (Surrounding.mk outer isMain) noDefinition noPragma
  rw [definitions]
  refine (enumerates_bodies stands inside fun _ =>
    Surrounding.automatic_of_other noPragma).congr fun standing => ?_
  simp only [StandsIn, noDefinition, compiled, false_and, true_and, false_or]
  exact or_comm

theorem enumerates_tag (clear : (outer.node cursor.position).keepsMain = true)
    (auto : Option String) :
    Enumerates auto (StandsIn outer) ((outer.node cursor.position).definitions auto) := by
  have keeps : outer.bodies.dropLast.all (fun entry => entry.1 ≠ mainBody) = true →
      ∀ entry ∈ outer.branches.map fun branch => (branch.1, branch.2.node),
        entry.1 ≠ mainBody := by
    intro keeps entry member
    rw [Extent.bodies, List.dropLast_concat] at keeps
    simpa using List.all_eq_true.mp keeps entry member
  by_cases isDefinition : outer.opening.kind = .define
  · simp only [Extent.node, Node.keepsMain, isDefinition] at clear
    exact enumerates_definition stands inside isDefinition (keeps clear)
  by_cases isPragma : outer.opening.kind = .pragma
  · refine enumerates_pragma stands inside isPragma fun isEscape => keeps ?_
    simpa [Extent.node, Node.keepsMain, isPragma, isEscape] using clear
  · exact enumerates_other stands inside isDefinition isPragma

end Tags

/-- Parts are compiled in order, as far as they are. -/
theorem enumerates_parts {nodes : List Node} (read : parts cursor = .ok (nodes, last))
    (clear : Node.allParts Node.keepsMain nodes = true) :
    Enumerates auto (IsDefined cursor) (Node.definitionsOfParts auto nodes) := by
  induction size : cursor.rest.length using Nat.strongRecOn generalizing cursor nodes last auto with
  | ind size inductionHypothesis =>
      subst size
      cases part : part? parts cursor with
      | error error =>
          rw [parts_eq_error part] at read
          cases read
      | ok next =>
          cases next with
          | none =>
              rw [parts_eq, part] at read
              cases read
              exact .nothing fun standing isDefined => not_finds_of_none part isDefined.found
          | some pair =>
              obtain ⟨node, after⟩ := pair
              obtain ⟨later, behind, rfl⟩ := exists_of_parts_part read part
              obtain ⟨here, clearLater⟩ := Bool.and_eq_true_iff.mp clear
              have others := @inductionHypothesis _ (part?_shorter part) _ _ auto _ behind
                clearLater rfl
              by_cases standing : ∃ outer : Extent, outer.StandsAt cursor
              · obtain ⟨outer, stands⟩ := standing
                cases part.symm.trans stands.part?_eq
                simp only [Extent.node, Node.all, Bool.and_eq_true] at here
                have inside : ∀ stretch ∈ outer.main :: outer.branches.map Prod.snd, ∀ auto,
                    Enumerates auto (IsDefined stretch.first) (stretch.node.definitions auto) := by
                  intro stretch member auto
                  obtain ⟨isRead, begins, -⟩ := stands.body_between stretch member
                  have shorter := stands.lengths.1
                  have clearInside := clear_body here.2.2 member
                  exact inductionHypothesis _ (by omega) isRead clearInside rfl
                refine ((enumerates_tag stands inside here.1 auto).append others ?_).congr ?_
                · exact fun first second isFirst isSecond =>
                    precedes_of_apart (isFirst.between stands) (isSecond.between behind)
                · exact fun standing => isDefined_iff_of_standsAt stands
              · rw [not_exists] at standing
                rw [Node.definitionsOfParts, Node.definitions_of_part? part standing,
                  List.nil_append]
                exact others.congr fun other => isDefined_iff_behind part standing

end Standing

/-- In an ordered list the last of those with a property is behind all others. -/
theorem find?_reverse_of_pairwise {Item : Type} {related : Item → Item → Prop} {items : List Item}
    (ordered : items.Pairwise related) {holds : Item → Bool} {last : Item}
    (found : items.reverse.find? holds = some last) :
    last ∈ items ∧ holds last = true ∧
      ∀ other ∈ items, holds other = true → other = last ∨ related other last := by
  obtain ⟨holdsLast, behind, before, split, noneBehind⟩ := List.find?_eq_some_iff_append.mp found
  have whole : items = before.reverse ++ last :: behind.reverse := by
    rw [← List.reverse_reverse items, split]
    simp
  subst whole
  refine ⟨by simp, holdsLast, fun other member holdsOther => ?_⟩
  rcases List.mem_append.mp member with earlier | member
  · exact .inr ((List.pairwise_append.mp ordered).2.2 other earlier last List.mem_cons_self)
  · rcases List.mem_cons.mp member with same | later
    · exact .inl same
    · have lacks := noneBehind other (List.mem_reverse.mp later)
      rw [holdsOther] at lacks
      cases lacks

/-- A list of distinct items is taken to any list of its length. -/
theorem exists_map_eq {Item Image : Type} {items : List Item} {images : List Image}
    [Inhabited Image] (distinct : items.Nodup) (sameLength : items.length = images.length) :
    ∃ change : Item → Image, items.map change = images := by
  classical
  induction items generalizing images with
  | nil => exact ⟨default, (List.eq_nil_of_length_eq_zero sameLength.symm).symm⟩
  | cons item rest inductionHypothesis =>
      cases images with
      | nil => cases sameLength
      | cons image others =>
          obtain ⟨fresh, distinctRest⟩ := List.nodup_cons.mp distinct
          obtain ⟨change, mapped⟩ := inductionHypothesis distinctRest (Nat.succ.inj sameLength)
          refine ⟨Function.update change item image, ?_⟩
          rw [List.map_cons, Function.update_self, ← mapped]
          congr 1
          refine List.map_congr_left fun other member => Function.update_of_ne ?_ _ _
          rintro rfl
          exact fresh member

theorem Standing.IsDefined.not_precedes_self {start last : Cursor} {nodes : List Node}
    {standing : Standing} (isDefined : standing.IsDefined start)
    (read : parts start = .ok (nodes, last)) : ¬standing.Precedes standing := by
  have apart : ¬standing.InMainBeside standing := by
    rintro ⟨outer, inMain, inBranch⟩
    have same := List.inj_on_of_nodup_map (isDefined.found.nodup read) inMain inBranch rfl
    cases same
  rintro (beside | ⟨ends, -⟩)
  · exact apart beside
  · exact absurd ends (Nat.lt_irrefl _)

namespace Program

variable {config : Config} {name : Option String} {source : String} {program : Program}

/-- The blocks of a program are those of the definitions of its source, in the order of compilation,
each with a body of its own. -/
theorem exists_registration (compiled : ofSource config name source = .ok program)
    (clear : ∀ tree, Node.parse source = .ok tree → tree.all Node.keepsMain = true) :
    ∃ (standings : List Standing) (bodyOf : Standing → BodyId),
      (∀ standing, standing ∈ standings ↔ standing.IsDefined (Cursor.ofString source)) ∧
      standings.Pairwise Standing.Precedes ∧ (standings.map bodyOf).Nodup ∧
      (∀ standing ∈ standings, program.Implements
        ((standing.definition config.autoEscape).tidied config.whitespace) (bodyOf standing)) ∧
      program.blocks = Members.ofList (standings.map fun standing =>
        (standing.extent.opening.identifier.text, bodyOf standing)) := by
  obtain ⟨tree, parsed, rfl⟩ := ofSource_eq_ok_iff.mp compiled
  obtain ⟨nodes, last, read, -, rfl⟩ := (parse_eq_ok_iff_parts source tree).mp parsed
  obtain ⟨standings, mapped, members, ordered⟩ : Standing.Enumerates config.autoEscape
      (Standing.IsDefined (Cursor.ofString source)) (Node.definitionsOfParts _ nodes) :=
    Standing.enumerates_parts read (Bool.and_eq_true_iff.mp (clear _ parsed)).2
  have distinct : standings.Nodup := by
    refine ordered.imp_of_mem fun {first second} isFirst _ precedes => ?_
    rintro rfl
    exact ((members first).mp isFirst).not_precedes_self read precedes
  let tidied := (Node.body nodes Place.start.position).tidy config.whitespace
  let laid := Compile.openBody (tidied.steps config.autoEscape) 0
  have definitions : tidied.definitions config.autoEscape = standings.map fun standing =>
      (standing.definition config.autoEscape).tidied config.whitespace := by
    rw [Node.definitions_tidy, Node.definitions, ← mapped, List.map_map]
    rfl
  have laidOut := (tidied.steps_defines config.autoEscape).openBody 0
  rw [definitions] at laidOut
  obtain ⟨bodyOf, bodies⟩ : ∃ bodyOf : Standing → BodyId,
      standings.map bodyOf = definedBodies config.autoEscape tidied :=
    exists_map_eq distinct (by simpa [definedBodies] using laidOut.length_eq)
  have blocks : laid.blocks = standings.map fun standing =>
      (standing.extent.opening.identifier.text, bodyOf standing) := by
    rw [← zip_names laidOut, show laid.blocks.map Prod.snd = standings.map bodyOf from bodies.symm,
      List.map_map, List.zip_map']
    rfl
  have apart : (standings.map bodyOf).Nodup := by
    have all := (ofNode_perm name config.autoEscape tidied).nodup_iff.mpr List.nodup_range
    rw [bodies]
    exact ((List.nodup_append.mp all).1).of_cons
  refine ⟨standings, bodyOf, members, ordered, apart, ?_, congrArg Members.ofList blocks⟩
  rw [show (Compile.openBody (tidied.steps config.autoEscape) 0).blocks = _ from blocks] at laidOut
  have each := List.forall₂_map_left_iff.mp (List.forall₂_map_right_iff.mp laidOut)
  intro standing member
  have ofStanding : Definition.LaidOut 0 laid.bodies _ _ :=
    List.forall₂_same.mp each standing member
  exact @implements_of_laidOut (ofNode name config.autoEscape tidied) _ _ ofStanding

/-- In the program of a source every definition that is compiled has a body of its own, and the
table of blocks has the body of the last one of each name. -/
theorem ofSource_lastDefinition (compiled : ofSource config name source = .ok program)
    (clear : ∀ tree, Node.parse source = .ok tree → tree.all Node.keepsMain = true) :
    let start := Cursor.ofString source
    ∃ bodyOf : Standing → BodyId,
      Set.InjOn bodyOf {standing | standing.IsDefined start} ∧
      (∀ standing : Standing, standing.IsDefined start →
        program.Implements ((standing.definition config.autoEscape).tidied config.whitespace)
          (bodyOf standing)) ∧
      ∀ block, match program.blocks.find? block with
        | none => ∀ standing : Standing, ¬standing.Defines start block
        | some id => ∃ last : Standing, last.IsLast start block ∧ bodyOf last = id := by
  obtain ⟨standings, bodyOf, members, ordered, apart, implemented, blocks⟩ :=
    exists_registration compiled clear
  refine ⟨bodyOf, fun first isFirst second isSecond => ?_, fun standing isDefined => ?_,
    fun block => ?_⟩
  · exact List.inj_on_of_nodup_map apart ((members first).mpr isFirst)
      ((members second).mpr isSecond)
  · exact implemented standing ((members standing).mpr isDefined)
  · rw [blocks, Members.find?_ofList, ← List.map_reverse, List.find?_map, Option.map_map]
    cases found : standings.reverse.find?
        ((fun entry => entry.1 == block) ∘ fun standing : Standing =>
          (standing.extent.opening.identifier.text, bodyOf standing)) with
    | none =>
        rintro standing ⟨isDefined, named⟩
        have lacks := List.find?_eq_none.mp found standing
          (List.mem_reverse.mpr ((members standing).mpr isDefined))
        exact lacks (beq_iff_eq.mpr named)
    | some last =>
        obtain ⟨isIn, named, behind⟩ := find?_reverse_of_pairwise ordered found
        refine ⟨last, ⟨⟨(members last).mp isIn, beq_iff_eq.mp named⟩, ?_⟩, rfl⟩
        rintro other ⟨isDefined, named⟩
        exact behind other ((members other).mpr isDefined) (beq_iff_eq.mpr named)

end Program

/-! ## Definitions that end later and do not stay -/

namespace Reading

section EndTags

variable {source : String}

theorem BranchesStand.isIn {cursor last : Cursor} {branches : List (String × Stretch)}
    (stand : BranchesStand cursor branches last) (isIn : cursor.IsIn source) :
    (∀ branch ∈ branches, branch.2.first.IsIn source) ∧ last.IsIn source := by
  induction stand with
  | none tag => exact ⟨by simp, isIn⟩
  | @more cursor last name stretch rest tag isRead others inductionHypothesis =>
      have first : stretch.first.IsIn source := isIn.read (Grammar.reads_branchTag cursor) tag
      obtain ⟨later, lastIn⟩ := inductionHypothesis (first.parts isRead)
      exact ⟨List.forall_mem_cons.mpr ⟨first, later⟩, lastIn⟩

/-- What is found stands somewhere in the source. -/
theorem Finds.exists_standsAt {start : Cursor} {around : List Surrounding} {extent : Extent}
    (finds : Finds start around extent) (isIn : start.IsIn source) :
    ∃ cursor : Cursor, cursor.IsIn source ∧ extent.StandsAt cursor := by
  induction finds with
  | here stands => exact ⟨_, isIn, stands⟩
  | behind part _ inductionHypothesis => exact inductionHypothesis (isIn.part part)
  | inMain stands _ inductionHypothesis => exact inductionHypothesis (stands.opens.isIn isIn)
  | inBranch stands isBranch _ inductionHypothesis =>
      have last := (stands.opens.isIn isIn).parts stands.main
      exact inductionHypothesis ((stands.branches.isIn last).1 _ isBranch)

theorem Extent.StandsAt.atEnd_isIn {cursor : Cursor} {extent : Extent}
    (stands : extent.StandsAt cursor) (isIn : cursor.IsIn source) : extent.atEnd.IsIn source :=
  (stands.branches.isIn ((stands.opens.isIn isIn).parts stands.main)).2

end EndTags

def closesBehind (source name : String) (left : Nat) : Bool :=
  (List.range (source.toList.length + 1)).any fun count =>
    (cursorAt source count).rest.length < left && (closeSection name (cursorAt source count)).isOk

end Reading

/-- No tag with the same name ends later. -/
theorem Standing.not_endsBefore {source name : String} {standing other : Standing}
    (nothing : closesBehind source name standing.extent.atEnd.rest.length = false)
    (found : Finds (.ofString source) other.around other.extent)
    (named : other.extent.opening.identifier.text = name) : ¬standing.EndsBefore other := by
  intro ends
  obtain ⟨cursor, isIn, stands⟩ := found.exists_standsAt (.ofString source)
  obtain ⟨before, rest, split, same⟩ := stands.atEnd_isIn isIn
  have here : cursorAt source before.length = other.extent.atEnd := by
    simp [cursorAt, Cursor.behind, split, same]
  have bound : before.length ∈ List.range (source.toList.length + 1) := by
    rw [List.mem_range, split, List.length_append]
    omega
  have lacks := List.any_eq_false.mp nothing before.length bound
  have closes := stands.closes
  unfold EndsBefore at ends
  rw [named] at closes
  simp [here, closes, ends, Except.isOk, Except.toBool] at lacks

namespace Program

/-- Of the definitions of a block that stand in no pragma, the body of the one whose end tag comes
last in the source is the one in the table. -/
def KeepsLastEnding (config : Config) (source block : String) (program : Program) : Prop :=
  ∀ last : Standing, Finds (.ofString source) last.around last.extent →
    last.extent.opening.kind = .define → last.extent.opening.identifier.text = block →
    (∀ surrounding ∈ last.around, surrounding.extent.opening.kind ≠ .pragma) →
    (∀ other : Standing, Finds (.ofString source) other.around other.extent →
      other.extent.opening.kind = .define → other.extent.opening.identifier.text = block →
      ¬last.EndsBefore other) →
    ∃ id, program.blocks.find? block = some id ∧
      program.Implements ((last.definition config.autoEscape).tidied config.whitespace) id

end Program

def definingAt (source : String) (count : Nat) (text : String) : Extent :=
  ⟨⟨.define, .key "b", none, []⟩,
    ⟨cursorAt source (count + 4), [.text text ⟨1, count + 5⟩], cursorAt source (count + 5)⟩, [],
    cursorAt source (count + 5), cursorAt source (count + 9)⟩

/-- Both bodies of a section define a block, and the main one comes first. -/
def besideSource : String :=
  "\x7b#a\x7d\x7b<b\x7d1\x7b/b\x7d\x7b:else\x7d\x7b<b\x7d2\x7b/b\x7d\x7b/a\x7d"

def besideSection : Extent :=
  ⟨⟨.each, .key "a", none, []⟩,
    ⟨cursorAt besideSource 4, [(definingAt besideSource 4 "1").node ⟨1, 5⟩],
      cursorAt besideSource 13⟩,
    [("else", ⟨cursorAt besideSource 20, [(definingAt besideSource 20 "2").node ⟨1, 21⟩],
      cursorAt besideSource 29⟩)],
    cursorAt besideSource 29, cursorAt besideSource 33⟩

/-- A branch of a definition defines a block again. -/
def branchSource : String :=
  "\x7b<b\x7d1\x7b/b\x7d\x7b<a\x7d\x7b:c\x7d\x7b<b\x7d2\x7b/b\x7d\x7b/a\x7d"

def branchDefinition : Extent :=
  ⟨⟨.define, .key "a", none, []⟩, ⟨cursorAt branchSource 13, [], cursorAt branchSource 13⟩,
    [("c", ⟨cursorAt branchSource 17, [(definingAt branchSource 17 "2").node ⟨1, 18⟩],
      cursorAt branchSource 26⟩)],
    cursorAt branchSource 26, cursorAt branchSource 30⟩

theorem besideSection_standsAt : besideSection.StandsAt (.ofString besideSource) := by
  refine ⟨⟨?_, cursorAt besideSource 3, ?_, ?_⟩, ?_, .more ?_ ?_ (.none ?_), ?_⟩ <;> decide +kernel

theorem branchDefinition_standsAt : branchDefinition.StandsAt (cursorAt branchSource 9) := by
  refine ⟨⟨?_, cursorAt branchSource 12, ?_, ?_⟩, ?_, .more ?_ ?_ (.none ?_), ?_⟩ <;> decide +kernel

namespace Program

theorem ofSource_besideSource : ofSource .standard none besideSource = .ok ⟨none, 0,
    [[.condition .each (.key "a") none [] [("else", 1), ("block", 3)]], [], [.write "2"], [],
      [.write "1"]], [("b", 4)]⟩ := by
  decide +kernel

/-- The definition in the main body stays, though it ends before the one in the branch. -/
theorem ofSource_lastDefinition_beside :
    ∃ program, ofSource .standard none besideSource = .ok program ∧
      (∀ tree, Node.parse besideSource = .ok tree → tree.all Node.keepsMain = true) ∧
      ∃ last : Standing, last.IsLast (.ofString besideSource) "b" ∧
        program.blocks.find? "b" = some 4 ∧ program.body 4 = [.write "1"] ∧
        program.Implements ((last.definition (some "h")).tidied .strip) 4 := by
  have clear : ∀ tree, Node.parse besideSource = .ok tree → tree.all Node.keepsMain = true := by
    have parsed : Node.parse besideSource = .ok (.body [besideSection.node ⟨1, 1⟩] ⟨1, 1⟩) := by
      decide +kernel
    intro tree isTree
    rw [parsed] at isTree
    obtain rfl := Except.ok.inj isTree
    simp [Extent.node, Extent.bodies, Stretch.node, besideSection, definingAt, Node.all,
      Node.allParts, Node.allParams, Node.allBodies, Node.keepsMain]
  obtain ⟨bodyOf, -, implemented, table⟩ := ofSource_lastDefinition ofSource_besideSource clear
  obtain ⟨last, isLast, same⟩ := table "b"
  have ofLast := implemented last isLast.1.1
  rw [same] at ofLast
  exact ⟨_, ofSource_besideSource, clear, last, isLast, rfl, rfl, ofLast⟩

/-- In a section whose main body and branch define a block, and where a branch of a definition
defines it, it is not the definition whose end tag comes last that stays. -/
theorem not_keepsLastEnding :
    (∃ program, ofSource .standard none besideSource = .ok program ∧
      ¬program.KeepsLastEnding .standard besideSource "b") ∧
    ∃ program, ofSource .standard none branchSource = .ok program ∧
      ¬program.KeepsLastEnding .standard branchSource "b" := by
  constructor
  · refine ⟨_, ofSource_besideSource, fun keeps => ?_⟩
    have stands : (definingAt besideSource 20 "2").StandsAt (cursorAt besideSource 20) := by
      refine ⟨⟨?_, cursorAt besideSource 23, ?_, ?_⟩, ?_, .none ?_, ?_⟩ <;> decide +kernel
    obtain ⟨id, found, implemented⟩ := keeps ⟨[⟨besideSection, false⟩], _⟩
      (.inBranch besideSection_standsAt List.mem_cons_self (.here stands)) rfl rfl
      (by simp [besideSection]) fun other isFound _ named =>
        Standing.not_endsBefore (by decide +kernel) isFound named
    cases found
    have same : [Op.write "1"] = [Op.write "2"] := implemented
    simp at same
  · have compiled : ofSource .standard none branchSource =
        .ok ⟨none, 0, [[], [.write "1"], []], [("a", 2), ("b", 1)]⟩ := by
      decide +kernel
    refine ⟨_, compiled, fun keeps => ?_⟩
    have first : (definingAt branchSource 0 "1").StandsAt (.ofString branchSource) := by
      refine ⟨⟨?_, cursorAt branchSource 3, ?_, ?_⟩, ?_, .none ?_, ?_⟩ <;> decide +kernel
    have stands : (definingAt branchSource 17 "2").StandsAt (cursorAt branchSource 17) := by
      refine ⟨⟨?_, cursorAt branchSource 20, ?_, ?_⟩, ?_, .none ?_, ?_⟩ <;> decide +kernel
    obtain ⟨id, found, implemented⟩ := keeps ⟨[⟨branchDefinition, false⟩], _⟩
      (.behind first.part?_eq
        (.inBranch branchDefinition_standsAt List.mem_cons_self (.here stands))) rfl rfl
      (by simp [branchDefinition]) fun other isFound _ named =>
        Standing.not_endsBefore (by decide +kernel) isFound named
    cases found
    have same : [Op.write "1"] = [Op.write "2"] := implemented
    simp at same

end Program

end BraceTemplate
