import BraceTemplate.Proofs.Program.Defining
import BraceTemplate.Proofs.Reading.Extents
import BraceTemplate.Proofs.Reading.TextInFront
import BraceTemplate.Render.State

/-!
# Main bodies

The main body of a tag is kept among its branches, under a name that a branch can have too, and is
looked up there by its name. Main statement: where no branch has that name, what a program uses as
the main body of a tag is what stands in the source between the opening tag and the first branch. A
branch of that name is used in its place.
-/

namespace BraceTemplate

open Reading Source

/-! ## Pieces of what is laid out -/

namespace Laid

variable {Result Next Whole : Type} {whole : Laid Whole} {next id : BodyId}

/-- What was laid out from a number on is a piece of a whole: the whole has its bodies under the
same numbers, and its blocks. -/
structure IsIn (laid : Laid Result) (next : BodyId) (whole : Laid Whole) : Prop where
  bodies : ∀ (index : Nat) ops, laid.bodies[index]? = some ops →
    whole.bodies[next + index]? = some ops
  blocks : ∀ block ∈ laid.blocks, block ∈ whole.blocks

theorem IsIn.first {first : Compile Result} {second : Result → Compile Next}
    (isIn : ((first >>= second) next).IsIn next whole) : (first next).IsIn next whole where
  bodies index ops found := by
    obtain ⟨bound, -⟩ := List.getElem?_eq_some_iff.mp found
    refine isIn.bodies index ops ?_
    change ((first next).bodies ++ _)[index]? = some ops
    rw [List.getElem?_append_left bound, found]
  blocks block member := isIn.blocks block (List.mem_append_left _ member)

theorem IsIn.second {first : Compile Result} {second : Result → Compile Next}
    (isIn : ((first >>= second) next).IsIn next whole) :
    (second (first next).result (next + (first next).bodies.length)).IsIn
      (next + (first next).bodies.length) whole where
  bodies index ops found := by
    rw [Nat.add_assoc]
    refine isIn.bodies _ ops ?_
    change ((first next).bodies ++ _)[(first next).bodies.length + index]? = some ops
    rw [List.getElem?_append_right (Nat.le_add_right _ _), Nat.add_sub_cancel_left, found]
  blocks block member := isIn.blocks block (List.mem_append_right _ member)

/-- A body of the whole is what was compiled for it. -/
structure Opens (whole : Laid Whole) (contents : Compile (List Op)) (id : BodyId) : Prop where
  body : whole.bodies[id]? = some (contents (id + 1)).result
  inside : (contents (id + 1)).IsIn (id + 1) whole

def OpensAs (whole : Laid Whole) (auto : Option String) (entry : String × Node)
    (named : String × BodyId) : Prop :=
  entry.1 = named.1 ∧ whole.Opens (entry.2.steps auto) named.2

/-- The steps of a piece of compilation are among those of a body of the whole. -/
def Holds (whole : Laid Whole) (contents : Compile (List Op)) : Prop :=
  ∃ (next id : Nat) (ops : List Op), whole.bodies[id]? = some ops ∧
    (contents next).result <:+: ops ∧ (contents next).IsIn next whole

theorem IsIn.opens {contents : Compile (List Op)}
    (isIn : (Compile.openBody contents next).IsIn next whole) : whole.Opens contents next where
  body := isIn.bodies 0 _ rfl
  inside.bodies index ops found := by
    rw [Nat.add_assoc, Nat.add_comm 1 index]
    exact isIn.bodies (index + 1) ops found
  inside.blocks := isIn.blocks

theorem Opens.holds {contents : Compile (List Op)} (opens : whole.Opens contents id) :
    whole.Holds contents :=
  ⟨id + 1, id, _, opens.body, List.infix_rfl, opens.inside⟩

theorem opens_openBody (contents : Compile (List Op)) :
    (Compile.openBody contents 0).Opens contents 0 :=
  IsIn.opens ⟨fun index ops found => by rwa [Nat.zero_add], fun _ => id⟩

end Laid

/-! ## Compiling -/

namespace Node

variable {Whole : Type} {whole : Laid Whole} {auto : Option String} {whitespace : Whitespace}

theorem holds_of_mem {parts : List Node} (holds : whole.Holds (stepsOfParts auto parts)) :
    ∀ part ∈ parts, whole.Holds (part.steps auto) := by
  induction parts with
  | nil => simp
  | cons part rest inductionHypothesis =>
      obtain ⟨next, id, ops, found, steps, isIn⟩ := holds
      let later := next + (part.steps auto next).bodies.length
      have split : (stepsOfParts auto (part :: rest) next).result =
          (part.steps auto next).result ++ (stepsOfParts auto rest later).result := rfl
      rw [split] at steps
      refine List.forall_mem_cons.mpr ⟨?_, inductionHypothesis ?_⟩
      · exact ⟨next, id, ops, found, (List.prefix_append _ _).isInfix.trans steps, isIn.first⟩
      · exact ⟨later, id, ops, found, (List.suffix_append _ _).isInfix.trans steps,
          isIn.second.first⟩

theorem openBodies_opens {bodies : List (String × Node)} {next : BodyId}
    (isIn : (openBodies auto bodies next).IsIn next whole) :
    List.Forall₂ (whole.OpensAs auto) bodies (openBodies auto bodies next).result := by
  induction bodies generalizing next with
  | nil => exact .nil
  | cons entry rest inductionHypothesis =>
      exact .cons ⟨rfl, isIn.first.opens⟩ (inductionHypothesis isIn.second.first)

theorem exists_op_of_holds {bodies : List (String × Node)} {params : List (Param Node)}
    {tag : NamedBodies → ParamExprs → Op}
    (holds : whole.Holds (do
      let bodies ← openBodies auto bodies
      let params ← paramExprs auto params
      pure [tag bodies params])) :
    ∃ (id : Nat) (ops : List Op) (entries : NamedBodies) (exprs : ParamExprs),
      whole.bodies[id]? = some ops ∧ tag entries exprs ∈ ops ∧
      List.Forall₂ (whole.OpensAs auto) bodies entries := by
  obtain ⟨next, id, ops, found, steps, isIn⟩ := holds
  exact ⟨id, ops, _, _, found, steps.mem (List.mem_singleton_self _), openBodies_opens isIn.first⟩

section Keeping

variable {branches : List (String × Node)} {main : Node}

theorem openMain_keeping (others : ∀ entry ∈ branches, entry.1 ≠ mainBody) :
    openMain auto (branches ++ [(mainBody, main)]) = (do
      let id ← Compile.openBody (main.steps auto)
      pure (some id)) := by
  induction branches with
  | nil => simp [openMain]
  | cons entry rest inductionHypothesis =>
      obtain ⟨here, later⟩ := List.forall_mem_cons.mp others
      simp only [List.cons_append, openMain, if_neg here, inductionHypothesis later]

theorem stepsOfMain_keeping (others : ∀ entry ∈ branches, entry.1 ≠ mainBody) :
    stepsOfMain auto (branches ++ [(mainBody, main)]) = main.steps auto := by
  induction branches with
  | nil => simp [stepsOfMain]
  | cons entry rest inductionHypothesis =>
      obtain ⟨here, later⟩ := List.forall_mem_cons.mp others
      simp only [List.cons_append, stepsOfMain, if_neg here, inductionHypothesis later]

end Keeping

theorem tidyBodies_eq_map (bodies : List (String × Node)) :
    tidyBodies whitespace bodies = bodies.map fun entry => (entry.1, entry.2.tidy whitespace) := by
  induction bodies with
  | nil => rfl
  | cons entry rest inductionHypothesis =>
      rw [tidyBodies, inductionHypothesis]
      rfl

/-- What is no text stays when texts are joined. -/
theorem mem_joinTexts {nodes : List Node} {node : Node} (member : node ∈ nodes)
    (noText : ∀ content position, node ≠ text content position) : node ∈ joinTexts nodes := by
  induction nodes with
  | nil => cases member
  | cons part rest inductionHypothesis =>
      change node ∈ joinFront part (joinTexts rest)
      rcases List.mem_cons.mp member with rfl | later
      · unfold joinFront
        split
        · exact absurd rfl (noText _ _)
        · exact List.mem_cons_self
      · have stays := inductionHypothesis later
        unfold joinFront
        split
        · rename_i joined
          rw [joined] at stays
          rcases List.mem_cons.mp stays with rfl | stays
          · exact absurd rfl (noText _ _)
          · exact List.mem_cons_of_mem _ stays
        · exact List.mem_cons_of_mem _ stays

theorem mem_tidyParts {parts : List Node} {part tidied : Node} (member : part ∈ parts)
    (stays : tidy? whitespace part = some tidied) : tidied ∈ tidyParts whitespace parts := by
  induction parts with
  | nil => cases member
  | cons other rest inductionHypothesis =>
      rw [tidyParts, List.mem_append]
      rcases List.mem_cons.mp member with rfl | later
      · exact .inl (by simp [stays])
      · exact .inr (inductionHypothesis later)

end Node

/-! ## Tags -/

/-- The step that a tag is compiled to, with its bodies and its parameters; definitions and pragmas
are compiled to none. -/
def Reading.Opening.op? (opening : Opening) (entries : NamedBodies) (exprs : ParamExprs) :
    Option Op :=
  match opening.kind with
  | .each => some (.condition .each opening.identifier opening.context exprs entries)
  | .present => some (.condition .present opening.identifier opening.context exprs entries)
  | .absent => some (.condition .absent opening.identifier opening.context exprs entries)
  | .yield => some (.block (.literal opening.identifier.text) opening.context exprs entries)
  | .helper => some (.helper opening.identifier.text opening.context exprs entries)
  | .define => none
  | .pragma => none

namespace Reading

/-- The tag in a tidied tree. -/
def Extent.tidied (extent : Extent) (whitespace : Whitespace) (position : Position) : Node :=
  .sectionTag extent.opening.kind extent.opening.identifier extent.opening.context
    (Node.tidyParams whitespace extent.opening.params)
    (Node.tidyBodies whitespace extent.bodies) position

/-- Whether only the main body of the tag is compiled, if anything of it is. -/
def Extent.picksMain (extent : Extent) : Bool :=
  extent.opening.kind = .define || extent.opening.kind = .pragma

def Extent.IsLaidOut {Whole : Type} (extent : Extent) (whole : Laid Whole) (auto : Option String)
    (whitespace : Whitespace) : Prop :=
  let main := extent.main.node.tidy whitespace
  match extent.opening.kind with
  | .define => ∃ id, (extent.opening.identifier.text, id) ∈ whole.blocks ∧
      whole.Opens (main.steps auto) id
  | .pragma => extent.opening.identifier.text = escapePragma →
      whole.Holds (main.steps (pragmaFilter extent.opening.context))
  | _ => ∃ (id : Nat) (ops : List Op) (entries : NamedBodies) (exprs : ParamExprs),
      whole.bodies[id]? = some ops ∧ (∃ op ∈ ops, extent.opening.op? entries exprs = some op) ∧
      List.Forall₂ (whole.OpensAs auto) (Node.tidyBodies whitespace extent.bodies) entries

theorem Extent.isLaidOut_of_holds {Whole : Type} {extent : Extent} {whole : Laid Whole}
    {auto : Option String} {whitespace : Whitespace} {position : Position}
    (keeps : extent.picksMain = true → extent.keepsMain = true)
    (holds : whole.Holds ((extent.tidied whitespace position).steps auto)) :
    extent.IsLaidOut whole auto whitespace := by
  have bodies : Node.tidyBodies whitespace extent.bodies =
      (extent.branches.map fun branch => (branch.1, branch.2.node.tidy whitespace)) ++
        [(mainBody, extent.main.node.tidy whitespace)] := by
    simp [Node.tidyBodies_eq_map, Extent.bodies]
  have others : extent.picksMain = true → ∀ entry ∈ extent.branches.map fun branch =>
      (branch.1, branch.2.node.tidy whitespace), entry.1 ≠ mainBody := by
    intro picks entry member
    obtain ⟨branch, isBranch, rfl⟩ := List.mem_map.mp member
    simpa using List.all_eq_true.mp (keeps picks) branch isBranch
  unfold tidied at holds
  unfold IsLaidOut
  cases kind : extent.opening.kind with
  | define =>
      have others := others (by simp [picksMain, kind])
      simp only [kind, Node.steps, bodies, Node.openMain_keeping others] at holds
      obtain ⟨next, _, _, _, _, isIn⟩ := holds
      exact ⟨next, isIn.second.first.blocks _ (List.mem_singleton_self _), isIn.first.first.opens⟩
  | pragma =>
      intro main isEscape
      have others := others (by simp [picksMain, kind])
      simp only [kind, Node.steps, if_pos isEscape, bodies, Node.stepsOfMain_keeping others]
        at holds
      exact holds
  | _ =>
      simp only [kind, Node.steps] at holds
      obtain ⟨id, ops, entries, exprs, found, member, opens⟩ := Node.exists_op_of_holds holds
      exact ⟨id, ops, entries, exprs, found, ⟨_, member, by simp [Opening.op?, kind]⟩, opens⟩

/-- Tags stand in one another from the parts of a body on: each is a part of a body of the one
around it. -/
inductive Leads : List Node → List Surrounding → Extent → Prop
  | here {nodes : List Node} {extent : Extent} {position : Position}
      (member : extent.node position ∈ nodes) : Leads nodes [] extent
  | inMain {nodes : List Node} {outer extent : Extent} {around : List Surrounding}
      {position : Position} (member : outer.node position ∈ nodes)
      (inner : Leads outer.main.nodes around extent) : Leads nodes (⟨outer, true⟩ :: around) extent
  | inBranch {nodes : List Node} {outer extent : Extent} {around : List Surrounding}
      {position : Position} {branch : String × Stretch} (member : outer.node position ∈ nodes)
      (isBranch : branch ∈ outer.branches) (inner : Leads branch.2.nodes around extent) :
      Leads nodes (⟨outer, false⟩ :: around) extent

section Leading

variable {nodes : List Node} {around : List Surrounding} {extent : Extent}

theorem Leads.cons {node : Node} (leads : Leads nodes around extent) :
    Leads (node :: nodes) around extent := by
  cases leads with
  | here member => exact .here (List.mem_cons_of_mem _ member)
  | inMain member inner => exact .inMain (List.mem_cons_of_mem _ member) inner
  | inBranch member isBranch inner => exact .inBranch (List.mem_cons_of_mem _ member) isBranch inner

/-- The part that is read where a tag stands is that tag. -/
theorem Extent.StandsAt.mem {cursor last : Cursor} (stands : extent.StandsAt cursor)
    (read : parts cursor = .ok (nodes, last)) : extent.node cursor.position ∈ nodes := by
  obtain ⟨later, -, rfl⟩ := exists_of_parts_part read stands.part?_eq
  exact List.mem_cons_self

theorem Finds.leads {cursor last : Cursor} (finds : Finds cursor around extent)
    (read : parts cursor = .ok (nodes, last)) : Leads nodes around extent := by
  induction finds generalizing nodes last with
  | here stands => exact .here (stands.mem read)
  | behind part _ inductionHypothesis =>
      obtain ⟨later, behind, rfl⟩ := exists_of_parts_part read part
      exact (inductionHypothesis behind).cons
  | inMain stands _ inductionHypothesis =>
      exact .inMain (stands.mem read) (inductionHypothesis stands.main)
  | inBranch stands isBranch _ inductionHypothesis =>
      exact .inBranch (stands.mem read) isBranch
        (inductionHypothesis (stands.branches.isRead_of_mem _ isBranch))

variable {Whole : Type} {whole : Laid Whole} {auto : Option String} {whitespace : Whitespace}

theorem Extent.holds_of_mem {position : Position} (member : extent.node position ∈ nodes)
    (holds : whole.Holds ((Node.body nodes position).tidy whitespace |>.steps auto)) :
    whole.Holds ((extent.tidied whitespace position).steps auto) := by
  refine Node.holds_of_mem holds _ (Node.mem_joinTexts (Node.mem_tidyParts member rfl) ?_)
  intro content other same
  cases same

theorem exists_related_of_mem {First Second : Type} {related : First → Second → Prop}
    {first : List First} {second : List Second} (all : List.Forall₂ related first second) :
    ∀ one ∈ first, ∃ other ∈ second, related one other := by
  induction all with
  | nil => simp
  | cons here _ inductionHypothesis =>
      refine List.forall_mem_cons.mpr ⟨⟨_, List.mem_cons_self, here⟩, fun one member => ?_⟩
      obtain ⟨other, isOther, related⟩ := inductionHypothesis one member
      exact ⟨other, List.mem_cons_of_mem _ isOther, related⟩

/-- Other tags than definitions and pragmas have all their bodies compiled. -/
theorem Extent.IsLaidOut.holds_body (laidOut : extent.IsLaidOut whole auto whitespace)
    (noDefinition : extent.opening.kind ≠ .define) (noPragma : extent.opening.kind ≠ .pragma) :
    ∀ entry ∈ extent.bodies, whole.Holds ((entry.2.tidy whitespace).steps auto) := by
  unfold IsLaidOut at laidOut
  split at laidOut
  · rename_i kind
    exact absurd kind noDefinition
  · rename_i kind
    exact absurd kind noPragma
  · obtain ⟨_, _, _, _, _, _, opens⟩ := laidOut
    intro entry member
    rw [Node.tidyBodies_eq_map] at opens
    obtain ⟨named, -, -, opened⟩ :=
      exists_related_of_mem opens (entry.1, entry.2.tidy whitespace) (List.mem_map_of_mem member)
    exact opened.holds

theorem Extent.IsLaidOut.holds_main (laidOut : extent.IsLaidOut whole auto whitespace)
    (compiled : (Surrounding.mk extent true).isCompiled = true) :
    whole.Holds ((extent.main.node.tidy whitespace).steps
      (automatic auto [(Surrounding.mk extent true).enclosure])) := by
  by_cases isDefinition : extent.opening.kind = .define
  · rw [Surrounding.automatic_of_other (by simp [isDefinition])]
    simp only [IsLaidOut, isDefinition] at laidOut
    obtain ⟨id, -, opens⟩ := laidOut
    exact opens.holds
  by_cases isPragma : extent.opening.kind = .pragma
  · obtain ⟨isEscape, -⟩ := (Surrounding.isCompiled_of_pragma_iff isPragma).mp compiled
    rw [Surrounding.automatic_of_escape isPragma isEscape]
    simp only [IsLaidOut, isPragma] at laidOut
    exact laidOut isEscape
  · rw [Surrounding.automatic_of_other isPragma]
    exact laidOut.holds_body isDefinition isPragma _
      (List.mem_append_right _ (List.mem_singleton_self _))

theorem Extent.IsLaidOut.holds_branch (laidOut : extent.IsLaidOut whole auto whitespace)
    (compiled : (Surrounding.mk extent false).isCompiled = true) {branch : String × Stretch}
    (isBranch : branch ∈ extent.branches) :
    whole.Holds ((branch.2.node.tidy whitespace).steps
      (automatic auto [(Surrounding.mk extent false).enclosure])) := by
  have noDefinition : extent.opening.kind ≠ .define := fun isDefinition => by
    rw [Surrounding.isCompiled_of_definition isDefinition] at compiled
    cases compiled
  have noPragma : extent.opening.kind ≠ .pragma := fun isPragma => by
    cases ((Surrounding.isCompiled_of_pragma_iff isPragma).mp compiled).2
  rw [Surrounding.automatic_of_other noPragma]
  exact laidOut.holds_body noDefinition noPragma (branch.1, branch.2.node)
    (List.mem_append_left _ (List.mem_map.mpr ⟨branch, isBranch, rfl⟩))

/-- A tag that stands in bodies that are compiled is laid out, with the filter that holds there. -/
theorem Leads.isLaidOut {position : Position} (leads : Leads nodes around extent)
    (compiled : ∀ surrounding ∈ around, surrounding.isCompiled = true)
    (keeps : ∀ outer ∈ extent :: around.map Surrounding.extent,
      outer.picksMain = true → outer.keepsMain = true)
    (holds : whole.Holds (((Node.body nodes position).tidy whitespace).steps auto)) :
    extent.IsLaidOut whole (automaticWithin auto around) whitespace := by
  induction leads generalizing auto position with
  | here member =>
      exact Extent.isLaidOut_of_holds (keeps _ List.mem_cons_self)
        (Extent.holds_of_mem member holds)
  | inMain member inner inductionHypothesis =>
      obtain ⟨ofExtent, ofAround⟩ := List.forall_mem_cons.mp keeps
      obtain ⟨ofOuter, ofOthers⟩ := List.forall_mem_cons.mp ofAround
      obtain ⟨here, inside⟩ := List.forall_mem_cons.mp compiled
      have laidOut := Extent.isLaidOut_of_holds ofOuter (Extent.holds_of_mem member holds)
      rw [automaticWithin_cons]
      exact inductionHypothesis inside (List.forall_mem_cons.mpr ⟨ofExtent, ofOthers⟩)
        (laidOut.holds_main here)
  | inBranch member isBranch inner inductionHypothesis =>
      obtain ⟨ofExtent, ofAround⟩ := List.forall_mem_cons.mp keeps
      obtain ⟨ofOuter, ofOthers⟩ := List.forall_mem_cons.mp ofAround
      obtain ⟨here, inside⟩ := List.forall_mem_cons.mp compiled
      have laidOut := Extent.isLaidOut_of_holds ofOuter (Extent.holds_of_mem member holds)
      rw [automaticWithin_cons]
      exact inductionHypothesis inside (List.forall_mem_cons.mpr ⟨ofExtent, ofOthers⟩)
        (laidOut.holds_branch here isBranch)

end Leading

end Reading

/-! ## Programs -/

/-- The blocks that are noted when a tree is compiled, in order, each with the number of its body.
Of two under one name the table of the program has the later one. -/
def Node.notedBlocks (auto : Option String) (node : Node) : List (String × BodyId) :=
  (Compile.openBody (node.steps auto) 0).blocks

namespace Program

/-- What a program uses as the main body of a tag: a text with tags in it, tidied and compiled with
a filter. A block is noted with the number of the body, the main body of an escape pragma is
compiled in its place, and the step of any other tag has it among its bodies. -/
def UsesMain (program : Program) (noted : List (String × BodyId)) (extent : Extent)
    (auto : Option String) (main : Node) : Prop :=
  match extent.opening.kind with
  | .define => ∃ id, (extent.opening.identifier.text, id) ∈ noted ∧
      program.Implements ⟨extent.opening.identifier.text, main, auto⟩ id
  | .pragma => extent.opening.identifier.text = escapePragma → ∃ id next,
      (main.steps (pragmaFilter extent.opening.context) next).result <:+: program.body id
  | _ => ∃ id entries exprs used,
      (∃ op ∈ program.body id, extent.opening.op? entries exprs = some op) ∧
      entries.map Prod.fst = extent.bodies.map Prod.fst ∧
      (Render.Bodies.mk program entries).find? mainBody = some used ∧
      program.body used = (main.steps auto (used + 1)).result

section Using

variable {Whole : Type} {whole : Laid Whole} {program : Program} {extent : Extent}
variable {auto : Option String} {whitespace : Whitespace}

/-- Where no branch has its name, the main body is what is found under it. -/
theorem find?_tidyBodies (keeps : extent.keepsMain = true) :
    (Node.tidyBodies whitespace extent.bodies).find? (fun entry => entry.1 == mainBody) =
      some (mainBody, extent.main.node.tidy whitespace) := by
  have others : extent.branches.find? (fun branch => branch.1 == mainBody) = none := by
    refine List.find?_eq_none.mpr fun branch isBranch => ?_
    simpa using List.all_eq_true.mp keeps branch isBranch
  rw [Node.tidyBodies_eq_map, Extent.bodies, List.map_append, List.find?_append, List.map_map,
    List.find?_map]
  simp only [Function.comp_def, others]
  rfl

theorem exists_usedMain {entries : NamedBodies} (keeps : extent.keepsMain = true)
    (opens : List.Forall₂ (whole.OpensAs auto) (Node.tidyBodies whitespace extent.bodies)
      entries) :
    ∃ used, (Render.Bodies.mk program entries).find? mainBody = some used ∧
      whole.Opens ((extent.main.node.tidy whitespace).steps auto) used := by
  have found : Option.Rel (whole.OpensAs auto) _ (entries.find? fun named => named.1 == mainBody) :=
    rel_find? opens fun entry named ofEntry => congrArg (· == mainBody) ofEntry.1
  rw [find?_tidyBodies keeps] at found
  unfold Render.Bodies.find?
  cases main : entries.find? fun named => named.1 == mainBody with
  | none =>
      rw [main] at found
      cases found
  | some named =>
      rw [main] at found
      cases found with
      | some ofMain => exact ⟨named.2, rfl, ofMain.2⟩

theorem names_of_opens {entries : NamedBodies}
    (opens : List.Forall₂ (whole.OpensAs auto) (Node.tidyBodies whitespace extent.bodies)
      entries) : entries.map Prod.fst = extent.bodies.map Prod.fst := by
  rw [Node.tidyBodies_eq_map, List.forall₂_map_left_iff] at opens
  have same : List.Forall₂ Eq (extent.bodies.map Prod.fst) (entries.map Prod.fst) :=
    List.forall₂_map_left_iff.mpr (List.forall₂_map_right_iff.mpr
      (opens.imp fun _ _ ofEntry => ofEntry.1))
  rw [List.forall₂_eq_eq_eq] at same
  exact same.symm

theorem usesMain_of_isLaidOut (same : program.bodies = whole.bodies)
    (keeps : extent.keepsMain = true) (laidOut : extent.IsLaidOut whole auto whitespace) :
    program.UsesMain whole.blocks extent auto (extent.main.node.tidy whitespace) := by
  have bodyIs : ∀ {id : Nat} {ops : List Op}, whole.bodies[id]? = some ops →
      program.body id = ops := fun found => by
    rw [body, List.getD_eq_getElem?_getD, same, found]
    rfl
  unfold Extent.IsLaidOut at laidOut
  unfold UsesMain
  cases kind : extent.opening.kind with
  | define =>
      simp only [kind] at laidOut ⊢
      obtain ⟨id, noted, opens⟩ := laidOut
      exact ⟨id, noted, bodyIs opens.body⟩
  | pragma =>
      simp only [kind] at laidOut ⊢
      intro isEscape
      obtain ⟨next, id, ops, found, steps, -⟩ := laidOut isEscape
      exact ⟨id, next, (bodyIs found).symm ▸ steps⟩
  | _ =>
      simp only [kind] at laidOut ⊢
      obtain ⟨id, ops, entries, exprs, found, isStep, opens⟩ := laidOut
      obtain ⟨used, isUsed, opened⟩ := exists_usedMain keeps opens
      exact ⟨id, entries, exprs, used, (bodyIs found).symm ▸ isStep, names_of_opens opens, isUsed,
        bodyIs opened.body⟩

end Using

/-- In the program of a source the main body of a tag is what stands in the source between its
opening tag and its first branch, where no branch of the tag has the name of the main body, and none
of the definitions and pragmas around it. -/
theorem ofSource_usesMain {config : Config} {name : Option String} {source : String}
    {program : Program} {around : List Surrounding} {extent : Extent}
    (compiled : ofSource config name source = .ok program)
    (found : Finds (.ofString source) around extent)
    (isCompiled : ∀ surrounding ∈ around, surrounding.isCompiled = true)
    (keeps : extent.keepsMain = true)
    (keepsAround : ∀ outer ∈ around.map Surrounding.extent,
      outer.picksMain = true → outer.keepsMain = true) :
    ∃ tree, Node.parse source = .ok tree ∧
      program.UsesMain ((tree.tidy config.whitespace).notedBlocks config.autoEscape) extent
        (automaticWithin config.autoEscape around) (extent.main.node.tidy config.whitespace) := by
  obtain ⟨tree, parsed, rfl⟩ := ofSource_eq_ok_iff.mp compiled
  refine ⟨tree, parsed, ?_⟩
  obtain ⟨nodes, last, read, -, rfl⟩ := (parse_eq_ok_iff_parts source tree).mp parsed
  have whole := Laid.opens_openBody
    (((Node.body nodes Place.start.position).tidy config.whitespace).steps config.autoEscape)
  exact usesMain_of_isLaidOut rfl keeps ((found.leads read).isLaidOut isCompiled
    (List.forall_mem_cons.mpr ⟨fun _ => keeps, keepsAround⟩) whole.holds)

/-- The main body of a section is used with the filter of the pragma around it. -/
def escapedSource : String :=
  "\x7b%esc:j\x7d\x7b#a\x7d\x7bx\x7d\x7b:c\x7db\x7b/a\x7d\x7b/esc\x7d"

def escapedSection : Extent :=
  ⟨⟨.each, .key "a", none, []⟩,
    ⟨cursorAt escapedSource 12, [.reference (.key "x") [] ⟨1, 13⟩], cursorAt escapedSource 15⟩,
    [("c", ⟨cursorAt escapedSource 19, [.text "b" ⟨1, 20⟩], cursorAt escapedSource 20⟩)],
    cursorAt escapedSource 20, cursorAt escapedSource 24⟩

def escapingPragma : Extent :=
  ⟨⟨.pragma, .key "esc", some (.key "j"), []⟩,
    ⟨cursorAt escapedSource 8, [escapedSection.node ⟨1, 9⟩], cursorAt escapedSource 24⟩, [],
    cursorAt escapedSource 24, cursorAt escapedSource 30⟩

theorem ofSource_usesMain_escaped :
    ∃ program tree, ofSource .standard none escapedSource = .ok program ∧
      Finds (.ofString escapedSource) [⟨escapingPragma, true⟩] escapedSection ∧
      Node.parse escapedSource = .ok tree ∧
      program.UsesMain ((tree.tidy .strip).notedBlocks (some "h")) escapedSection (some "j")
        (.body [.reference (.key "x") [] ⟨1, 13⟩] ⟨1, 13⟩) := by
  have outer : escapingPragma.StandsAt (.ofString escapedSource) := by
    refine ⟨⟨?_, cursorAt escapedSource 7, ?_, ?_⟩, ?_, .none ?_, ?_⟩ <;> decide +kernel
  have inner : escapedSection.StandsAt (cursorAt escapedSource 8) := by
    refine ⟨⟨?_, cursorAt escapedSource 11, ?_, ?_⟩, ?_, .more ?_ ?_ (.none ?_), ?_⟩ <;>
      decide +kernel
  have compiled : ofSource .standard none escapedSource = .ok ⟨none, 0,
      [[.condition .each (.key "a") none [] [("c", 1), ("block", 2)]], [.write "b"],
        [.reference (.key "x") ⟨[], some "j"⟩]], []⟩ := by
    decide +kernel
  have found : Finds (.ofString escapedSource) [⟨escapingPragma, true⟩] escapedSection :=
    .inMain outer (.here inner)
  obtain ⟨tree, parsed, uses⟩ := ofSource_usesMain compiled found (by decide) (by decide)
    (by decide)
  exact ⟨_, tree, compiled, found, parsed, uses⟩

end Program

/-- A tag with a main body and a branch of the same name, each of one character. -/
def takenSource (mark name : String) : String :=
  "\x7b" ++ mark ++ name ++ "\x7dm\x7b:block\x7db\x7b/" ++ name ++ "\x7d"

/-- That tag, with a main body that begins behind a number of characters. -/
def takenTag (mark name : String) (kind : SectionKind) (first : Nat) : Extent :=
  let source := takenSource mark name
  ⟨⟨kind, .key name, none, []⟩,
    ⟨cursorAt source first, [.text "m" ⟨1, first + 1⟩], cursorAt source (first + 1)⟩,
    [("block", ⟨cursorAt source (first + 9), [.text "b" ⟨1, first + 10⟩],
      cursorAt source (first + 10)⟩)],
    cursorAt source (first + 10), cursorAt source source.toList.length⟩

namespace Program

/-- What is used as the main body of a tag at the beginning of a source is not its main body. -/
def PassesOverMain (source : String) (extent : Extent) : Prop :=
  ∃ program, ofSource .standard none source = .ok program ∧ Finds (.ofString source) [] extent ∧
    ∀ noted, program.blocks = Members.ofList noted →
      ¬program.UsesMain noted extent (some "h") (extent.main.node.tidy .strip)

/-- A branch that has the name of the main body is used in its place: in a section, in a definition
and in an escape pragma. -/
theorem not_usesMain :
    PassesOverMain (takenSource "#" "a") (takenTag "#" "a" .each 4) ∧
      PassesOverMain (takenSource "<" "a") (takenTag "<" "a" .define 4) ∧
      PassesOverMain (takenSource "%" "esc") (takenTag "%" "esc" .pragma 6) := by
  refine ⟨?_, ?_, ?_⟩
  · have stands : (takenTag "#" "a" .each 4).StandsAt (.ofString (takenSource "#" "a")) := by
      refine ⟨⟨?_, cursorAt (takenSource "#" "a") 3, ?_, ?_⟩, ?_, .more ?_ ?_ (.none ?_), ?_⟩ <;>
        decide +kernel
    have compiled : ofSource .standard none (takenSource "#" "a") = .ok ⟨none, 0,
        [[.condition .each (.key "a") none [] [("block", 1), ("block", 2)]], [.write "b"],
          [.write "m"]], []⟩ := by
      decide +kernel
    refine ⟨_, compiled, .here stands, fun noted _ uses => ?_⟩
    obtain ⟨id, entries, exprs, used, ⟨op, member, isStep⟩, -, found, isMain⟩ := uses
    have only : entries = [("block", 1), ("block", 2)] := by
      rcases id with _ | _ | _ | id <;> simp [body] at member <;> subst member <;>
        simp [Opening.op?, takenTag] at isStep
      exact isStep.2
    subst only
    cases found
    have same : [Op.write "b"] = [Op.write "m"] := isMain
    simp at same
  · have stands : (takenTag "<" "a" .define 4).StandsAt (.ofString (takenSource "<" "a")) := by
      refine ⟨⟨?_, cursorAt (takenSource "<" "a") 3, ?_, ?_⟩, ?_, .more ?_ ?_ (.none ?_), ?_⟩ <;>
        decide +kernel
    have compiled : ofSource .standard none (takenSource "<" "a") =
        .ok ⟨none, 0, [[], [.write "b"]], [("a", 1)]⟩ := by
      decide +kernel
    refine ⟨_, compiled, .here stands, fun noted _ uses => ?_⟩
    obtain ⟨id, -, implemented⟩ := uses
    have same : [[], [Op.write "b"]].getD id [] = [Op.write "m"] := implemented
    rcases id with _ | _ | id <;> simp at same
  · have stands : (takenTag "%" "esc" .pragma 6).StandsAt (.ofString (takenSource "%" "esc")) := by
      refine ⟨⟨?_, cursorAt (takenSource "%" "esc") 5, ?_, ?_⟩, ?_, .more ?_ ?_ (.none ?_), ?_⟩ <;>
        decide +kernel
    have compiled : ofSource .standard none (takenSource "%" "esc") =
        .ok ⟨none, 0, [[.write "b"]], []⟩ := by
      decide +kernel
    refine ⟨_, compiled, .here stands, fun noted _ uses => ?_⟩
    obtain ⟨id, next, isInfix⟩ := uses rfl
    have member : Op.write "m" ∈ [[Op.write "b"]].getD id [] := isInfix.subset List.mem_cons_self
    rcases id with _ | id <;> simp at member

end Program

end BraceTemplate
