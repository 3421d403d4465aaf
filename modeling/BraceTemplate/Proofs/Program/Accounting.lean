import Mathlib.Data.List.Nodup
import BraceTemplate.Proofs.Program.Everywhere

/-!
# Bodies that are entered in one way

Compiling uses every number that it gives out once, and in the steps of a body only greater ones
than its own. A body is the first one of its program, or a step enters it for a tag, a parameter or
a name, or it is that of a block; no body is two of these.
-/

namespace BraceTemplate

def Op.opened (op : Op) : List BodyId :=
  op.entries.map Prod.snd ++ op.quoted

def Op.allOpened (ops : List Op) : List BodyId :=
  ops.flatMap opened

namespace Program

def blockBodies (program : Program) : List BodyId :=
  program.blocks.map Prod.snd

def IsInner (program : Program) (id : BodyId) : Prop :=
  id ≠ program.root ∧ id ∉ program.blockBodies

/-- Blocks have bodies of their own, and so have steps. -/
structure IsApart (program : Program) : Prop where
  root : program.root ∉ program.blockBodies
  step : ∀ id, ∀ op ∈ program.body id, ∀ other ∈ op.opened, program.IsInner other

end Program

def Laid.uses {Result : Type} (ofResult : Result → List BodyId) (laid : Laid Result) :
    List BodyId :=
  ofResult laid.result ++ (Op.allOpened laid.bodies.flatten ++ laid.blocks.map Prod.snd)

/-- Compiling that uses given numbers, and those that it gives out, as often as they are there, and
within a body only greater ones than that of the body. -/
structure Compile.Accounts {Result : Type} (compile : Compile Result) (given : List BodyId)
    (ofResult : Result → List BodyId) : Prop where
  counts : ∀ next (id : Nat), ((compile next).uses ofResult).count id =
    given.count id + (List.range' next (compile next).bodies.length).count id
  ascends : ∀ (next index : Nat) ops, (compile next).bodies[index]? = some ops →
    ∀ id : Nat, id ∈ Op.allOpened ops → next + index < id

namespace Compile.Accounts

variable {Result Next : Type} {given : List BodyId} {ofResult : Result → List BodyId}
variable {ofNext : Next → List BodyId}

theorem pure {result : Result} (uses : ∀ id : Nat, (ofResult result).count id = given.count id) :
    Accounts (Pure.pure result) given ofResult where
  counts next id := by
    change (ofResult result ++ ([] ++ [])).count id = given.count id + 0
    simpa using uses id
  ascends _ _ _ found := by cases found

theorem bind {first : Compile Result} {second : Result → Compile Next}
    (ofFirst : first.Accounts [] ofResult)
    (ofSecond : ∀ result, (second result).Accounts (ofResult result ++ given) ofNext) :
    Accounts (first >>= second) given ofNext where
  counts next id := by
    have earlier := ofFirst.counts next id
    have later := (ofSecond (first next).result).counts (next + (first next).bodies.length) id
    have laid :
        (first >>= second) next =
          let following := second (first next).result (next + (first next).bodies.length)
          ⟨following.result, (first next).bodies ++ following.bodies,
            (first next).blocks ++ following.blocks⟩ :=
      rfl
    rw [laid]
    -- The numbers of the second piece begin where those of the first end.
    simp only [Laid.uses, Op.allOpened, List.flatten_append, List.flatMap_append, List.map_append,
      List.length_append, ← List.range'_append_1, List.count_append, List.count_nil]
      at earlier later ⊢
    omega
  ascends next index ops found id opened := by
    have bodies : ((first >>= second) next).bodies = (first next).bodies ++
        (second (first next).result (next + (first next).bodies.length)).bodies :=
      rfl
    rw [bodies, List.getElem?_append] at found
    split at found
    · exact ofFirst.ascends next index ops found id opened
    · have behind := (ofSecond (first next).result).ascends _ _ ops found id opened
      omega

/-- The number of a block is used for the block. -/
theorem define (name : String) (id : BodyId) :
    Accounts (do
      Compile.define name id
      Pure.pure []) [id] Op.allOpened where
  counts _ _ := rfl
  ascends _ _ _ found := by cases found

/-- The number of an opened body is used once, for the body, and all it contains comes later. -/
theorem openBody {contents : Compile (List Op)} (accounts : contents.Accounts [] Op.allOpened) :
    (Compile.openBody contents).Accounts [] fun id => [id] where
  counts next id := by
    have inner := accounts.counts (next + 1) id
    have laid :
        Compile.openBody contents next =
          ⟨next, (contents (next + 1)).result :: (contents (next + 1)).bodies,
            (contents (next + 1)).blocks⟩ :=
      rfl
    rw [laid]
    simp only [Laid.uses, Op.allOpened, List.flatten_cons, List.flatMap_append, List.length_cons,
      List.range'_succ, List.count_append, List.count_cons, List.count_nil] at inner ⊢
    omega
  ascends next index ops found id opened := by
    cases index with
    | zero =>
        cases found
        have used : 0 < ((contents (next + 1)).uses Op.allOpened).count id :=
          List.count_pos_iff.mpr (List.mem_append_left _ opened)
        rw [accounts.counts, List.count_nil, Nat.zero_add, List.count_pos_iff,
          List.mem_range'_1] at used
        omega
    | succ index =>
        have behind := accounts.ascends (next + 1) index ops found id opened
        omega

end Compile.Accounts

namespace Node

theorem writing_accounts (text : String) :
    (Pure.pure (Op.writing text) : Compile (List Op)).Accounts [] Op.allOpened := by
  refine .pure fun id => ?_
  unfold Op.writing
  split <;> rfl

mutual

/-- Compiling a tree uses every number once, in a body with a smaller one. -/
theorem steps_accounts : ∀ (node : Node) (auto : Option String),
    (node.steps auto).Accounts [] Op.allOpened
  | body parts _, auto => stepsOfParts_accounts parts auto
  | text _ _, _ => writing_accounts _
  | lineBreak _ _ _, _ => writing_accounts _
  | raw _ _, _ => writing_accounts _
  | comment _ _, _ => .pure fun _ => rfl
  | special _ _, _ => writing_accounts _
  | reference _ _ _, _ => .pure fun _ => rfl
  | sectionTag kind identifier context params bodies _, auto => by
    have tagged : ∀ {tag : NamedBodies → ParamExprs → Op},
        (∀ entries exprs,
          (tag entries exprs).opened = entries.map Prod.snd ++ ParamExprs.quoted exprs) →
        Compile.Accounts (do
          let bodies ← openBodies auto bodies
          let params ← paramExprs auto params
          pure [tag bodies params]) [] Op.allOpened := by
      refine fun opened => .bind (openBodies_accounts bodies auto) fun entries =>
        .bind (paramExprs_accounts params auto) fun exprs => .pure fun id => ?_
      simp only [Op.allOpened, List.flatMap_singleton, opened, List.count_append, List.count_nil]
      omega
    cases kind with
    | each => exact tagged fun _ _ => rfl
    | present => exact tagged fun _ _ => rfl
    | absent => exact tagged fun _ _ => rfl
    | yield => exact tagged fun _ _ => rfl
    | helper => exact tagged fun _ _ => rfl
    | define =>
        refine .bind (openMain_accounts bodies auto) fun opened => ?_
        cases opened with
        | none => exact .pure fun _ => rfl
        | some id => exact .define _ id
    | pragma =>
        simp only [steps]
        split
        · exact stepsOfMain_accounts bodies (pragmaFilter context)
        · exact .pure fun _ => rfl
  | inclusion kind target context params _, auto => by
    refine .bind (targetName_accounts target auto) fun name =>
      .bind (paramExprs_accounts params auto) fun exprs => ?_
    cases kind <;> refine .pure fun id => ?_ <;>
      simp only [Op.allOpened, List.flatMap_singleton, Op.opened, Op.entries, Op.quoted,
        List.map_nil, List.nil_append, List.count_append, List.count_nil] <;>
      omega

theorem stepsOfParts_accounts : ∀ (parts : List Node) (auto : Option String),
    (stepsOfParts auto parts).Accounts [] Op.allOpened
  | [], _ => .pure fun _ => rfl
  | part :: rest, auto => by
    refine .bind (steps_accounts part auto) fun first =>
      .bind (stepsOfParts_accounts rest auto) fun others => .pure fun id => ?_
    simp only [Op.allOpened, List.flatMap_append, List.count_append, List.count_nil]
    omega

theorem openMain_accounts : ∀ (bodies : List (String × Node)) (auto : Option String),
    (openMain auto bodies).Accounts [] Option.toList
  | [], _ => .pure fun _ => rfl
  | (name, inner) :: rest, auto => by
    unfold openMain
    split
    · exact .bind (.openBody (steps_accounts inner auto)) fun opened =>
        .pure fun id => by simp
    · exact openMain_accounts rest auto

theorem stepsOfMain_accounts : ∀ (bodies : List (String × Node)) (auto : Option String),
    (stepsOfMain auto bodies).Accounts [] Op.allOpened
  | [], _ => .pure fun _ => rfl
  | (name, inner) :: rest, auto => by
    unfold stepsOfMain
    split
    · exact steps_accounts inner auto
    · exact stepsOfMain_accounts rest auto

theorem openBodies_accounts : ∀ (bodies : List (String × Node)) (auto : Option String),
    (openBodies auto bodies).Accounts [] fun entries => entries.map Prod.snd
  | [], _ => .pure fun _ => rfl
  | (_, inner) :: rest, auto => by
    refine .bind (.openBody (steps_accounts inner auto)) fun opened =>
      .bind (openBodies_accounts rest auto) fun others => .pure fun id => ?_
    simp only [List.map_cons, List.count_cons, List.count_append, List.count_nil]
    omega

theorem paramExprs_accounts : ∀ (params : List (Param Node)) (auto : Option String),
    (paramExprs auto params).Accounts [] ParamExprs.quoted
  | [], _ => .pure fun _ => rfl
  | ⟨_, .literal _⟩ :: rest, auto =>
    .bind (paramExprs_accounts rest auto) fun _ => .pure fun _ => by simp [ParamExprs.quoted]
  | ⟨_, .identifier _⟩ :: rest, auto =>
    .bind (paramExprs_accounts rest auto) fun _ => .pure fun _ => by simp [ParamExprs.quoted]
  | ⟨_, .inline inner⟩ :: rest, auto => by
    refine .bind (.openBody (steps_accounts inner auto)) fun opened =>
      .bind (paramExprs_accounts rest auto) fun others => .pure fun id => ?_
    simp only [ParamExprs.quoted, List.count_cons, List.count_append, List.count_nil]
    omega

theorem targetName_accounts : ∀ (target : Target Node) (auto : Option String),
    (targetName auto target).Accounts [] Name.quoted
  | .name _, _ => .pure fun _ => rfl
  | .inline inner, auto =>
    .bind (.openBody (steps_accounts inner auto)) fun _ => .pure fun _ => by simp [Name.quoted]

end

/-- The numbers of all bodies, each once: that of the first one, those that steps name, and those of
blocks. -/
theorem perm_range' (node : Node) (auto : Option String) :
    let laid := Compile.openBody (node.steps auto) 0
    (laid.uses fun id => [id]).Perm (List.range' 0 laid.bodies.length) := by
  refine List.perm_iff_count.mpr fun id => ?_
  rw [(Compile.Accounts.openBody (steps_accounts node auto)).counts, List.count_nil, Nat.zero_add]

end Node

namespace Program

end Program

end BraceTemplate
