import BraceTemplate.Proofs.Program.Quoting

/-!
# What holds everywhere in a template

A property of the parts of a tree that tidying keeps gives a property of the steps that are laid out
for the tree, in every body of its program. The bodies of a tag have greater numbers than the body
that the tag stands in. Where neither sections over data nor inclusions have texts with tags in them
among their parameters, no such text gets into the data.
-/

namespace BraceTemplate

def Param.isSimple (param : Param Node) : Bool :=
  match param.value with
  | .inline _ => false
  | _ => true

namespace Node

mutual

/-- Whether a part and all parts within it have a property. -/
def all (holds : Node → Bool) : Node → Bool
  | body parts position => holds (body parts position) && allParts holds parts
  | sectionTag kind identifier context params bodies position =>
    holds (sectionTag kind identifier context params bodies position) &&
      (allParams holds params && allBodies holds bodies)
  | inclusion kind (.name name) context params position =>
    holds (inclusion kind (.name name) context params position) && allParams holds params
  | inclusion kind (.inline inner) context params position =>
    holds (inclusion kind (.inline inner) context params position) &&
      (all holds inner && allParams holds params)
  | text content position => holds (text content position)
  | lineBreak newline blanks position => holds (lineBreak newline blanks position)
  | raw content position => holds (raw content position)
  | comment content position => holds (comment content position)
  | special key position => holds (special key position)
  | reference identifier filters position => holds (reference identifier filters position)

def allParts (holds : Node → Bool) : List Node → Bool
  | [] => true
  | part :: rest => all holds part && allParts holds rest

def allBodies (holds : Node → Bool) : List (String × Node) → Bool
  | [] => true
  | (_, inner) :: rest => all holds inner && allBodies holds rest

def allParams (holds : Node → Bool) : List (Param Node) → Bool
  | [] => true
  | ⟨_, .literal _⟩ :: rest => allParams holds rest
  | ⟨_, .identifier _⟩ :: rest => allParams holds rest
  | ⟨_, .inline inner⟩ :: rest => all holds inner && allParams holds rest

end

theorem allParts_eq_true_iff {holds : Node → Bool} {parts : List Node} :
    allParts holds parts = true ↔ ∀ part ∈ parts, all holds part = true := by
  induction parts with
  | nil => simp [allParts]
  | cons part rest inductionHypothesis => simp [allParts, inductionHypothesis]

theorem allBodies_eq_true_iff {holds : Node → Bool} {bodies : List (String × Node)} :
    allBodies holds bodies = true ↔ ∀ entry ∈ bodies, all holds entry.2 = true := by
  induction bodies with
  | nil => simp [allBodies]
  | cons entry rest inductionHypothesis => simp [allBodies, inductionHypothesis]

/-- A property that tidying keeps: all bodies and texts have it, and tags keep it when what is
within them is tidied. -/
structure Lasts (holds : Node → Bool) : Prop where
  body : ∀ parts position, holds (body parts position) = true
  text : ∀ content position, holds (text content position) = true
  sectionTag : ∀ whitespace kind identifier context params bodies position,
    holds (sectionTag kind identifier context params bodies position) = true →
      holds (sectionTag kind identifier context (tidyParams whitespace params)
        (tidyBodies whitespace bodies) position) = true
  inclusion : ∀ whitespace kind target tidied context params position,
    holds (inclusion kind target context params position) = true →
      holds (inclusion kind tidied context (tidyParams whitespace params) position) = true

section Tidying

variable {holds : Node → Bool}

theorem allParts_append (first second : List Node) :
    allParts holds (first ++ second) = (allParts holds first && allParts holds second) := by
  induction first with
  | nil => rfl
  | cons part rest inductionHypothesis =>
      simp [allParts, inductionHypothesis, Bool.and_assoc]

theorem allParts_joinTexts (lasts : Lasts holds) (parts : List Node)
    (inside : allParts holds parts = true) :
    allParts holds (joinTexts parts) = true := by
  induction parts with
  | nil => rfl
  | cons part rest inductionHypothesis =>
      obtain ⟨here, later⟩ : all holds part = true ∧ allParts holds rest = true := by
        simpa [allParts] using inside
      have joined := inductionHypothesis later
      change allParts holds (joinFront part (joinTexts rest)) = true
      unfold joinFront
      split
      · rename_i split
        rw [split] at joined
        simpa [allParts, all, lasts.text] using joined
      · simp [allParts, here, joined]

theorem all_orEmptyBody (lasts : Lasts holds) {tidied : Option Node} (position : Position)
    (each : ∀ node, tidied = some node → all holds node = true) :
    all holds (orEmptyBody tidied position) = true := by
  cases tidied with
  | none => simp [orEmptyBody, all, allParts, lasts.body]
  | some node => exact each node rfl

mutual

theorem all_tidy? (lasts : Lasts holds) {whitespace : Whitespace} :
    ∀ node : Node, all holds node = true →
    ∀ tidied, tidy? whitespace node = some tidied → all holds tidied = true
  | body parts position, inside, tidied, stays => by
    cases stays
    obtain ⟨-, parts⟩ : _ ∧ allParts holds parts = true := by simpa [all] using inside
    simpa [all, lasts.body] using
      allParts_joinTexts lasts _ (allParts_tidyParts lasts _ parts)
  | text content position, inside, tidied, stays => by
    cases stays
    exact inside
  | lineBreak newline blanks position, inside, tidied, stays => by
    cases whitespace with
    | strip => cases stays
    | preserve =>
        cases stays
        exact lasts.text _ _
  | raw content position, inside, tidied, stays => by
    cases stays
    exact inside
  | comment content position, inside, tidied, stays => by cases stays
  | special key position, inside, tidied, stays => by
    cases stays
    exact lasts.text _ _
  | reference identifier filters position, inside, tidied, stays => by
    cases stays
    exact inside
  | sectionTag kind identifier context params bodies position, inside, tidied, stays => by
    cases stays
    simp only [all, Bool.and_eq_true] at inside ⊢
    exact ⟨lasts.sectionTag _ _ _ _ _ _ _ inside.1, allParams_tidyParams lasts _ inside.2.1,
      allBodies_tidyBodies lasts _ inside.2.2⟩
  | inclusion kind (.name name) context params position, inside, tidied, stays => by
    cases stays
    simp only [all, Bool.and_eq_true] at inside ⊢
    exact ⟨lasts.inclusion _ _ _ _ _ _ _ inside.1, allParams_tidyParams lasts _ inside.2⟩
  | inclusion kind (.inline inner) context params position, inside, tidied, stays => by
    cases stays
    simp only [all, Bool.and_eq_true] at inside ⊢
    exact ⟨lasts.inclusion _ _ _ _ _ _ _ inside.1,
      all_orEmptyBody lasts _ (all_tidy? lasts inner inside.2.1),
      allParams_tidyParams lasts _ inside.2.2⟩

theorem allParts_tidyParts (lasts : Lasts holds) {whitespace : Whitespace} :
    ∀ parts : List Node, allParts holds parts = true →
    allParts holds (tidyParts whitespace parts) = true
  | [], _ => rfl
  | part :: rest, inside => by
    simp only [allParts, Bool.and_eq_true] at inside
    rw [tidyParts, allParts_append, allParts_tidyParts lasts rest inside.2, Bool.and_true]
    cases tidied : tidy? whitespace part with
    | none => rfl
    | some stays => simpa [allParts] using all_tidy? lasts part inside.1 stays tidied

theorem allBodies_tidyBodies (lasts : Lasts holds) {whitespace : Whitespace} :
    ∀ bodies : List (String × Node), allBodies holds bodies = true →
    allBodies holds (tidyBodies whitespace bodies) = true
  | [], _ => rfl
  | (name, inner) :: rest, inside => by
    simp only [tidyBodies, allBodies, Bool.and_eq_true] at inside ⊢
    exact ⟨all_orEmptyBody lasts _ (all_tidy? lasts inner inside.1),
      allBodies_tidyBodies lasts rest inside.2⟩

theorem allParams_tidyParams (lasts : Lasts holds) {whitespace : Whitespace} :
    ∀ params : List (Param Node), allParams holds params = true →
    allParams holds (tidyParams whitespace params) = true
  | [], _ => rfl
  | ⟨key, .literal value⟩ :: rest, inside => allParams_tidyParams lasts rest inside
  | ⟨key, .identifier name⟩ :: rest, inside => allParams_tidyParams lasts rest inside
  | ⟨key, .inline inner⟩ :: rest, inside => by
    simp only [tidyParams, allParams, Bool.and_eq_true] at inside ⊢
    exact ⟨all_orEmptyBody lasts _ (all_tidy? lasts inner inside.1),
      allParams_tidyParams lasts rest inside.2⟩

end

theorem all_tidy (lasts : Lasts holds) (whitespace : Whitespace) {node : Node}
    (inside : all holds node = true) :
    all holds (node.tidy whitespace) = true :=
  all_orEmptyBody lasts _ (all_tidy? lasts node inside)

end Tidying

end Node

/-- From every number on that is not below a given one, every step that is laid out has a property
in the body it stands in, and so has the result. -/
def Compile.Each {Result : Type} (least : BodyId) (property : BodyId → Op → Prop)
    (ofResult : Result → Prop) (compile : Compile Result) : Prop :=
  ∀ next, least ≤ next → ofResult (compile next).result ∧
    ∀ index ops, (compile next).bodies[index]? = some ops → ∀ op ∈ ops, property (next + index) op

def Op.Below (property : BodyId → Op → Prop) (least : BodyId) (ops : List Op) : Prop :=
  ∀ op ∈ ops, ∀ id < least, property id op

namespace Compile.Each

variable {Result Next : Type} {least : BodyId} {property : BodyId → Op → Prop}
variable {ofResult : Result → Prop} {ofNext : Next → Prop}

theorem pure {result : Result} (holds : ofResult result) :
    Each least property ofResult (Pure.pure result) :=
  fun _ _ => ⟨holds, fun _ _ found => by cases found⟩

theorem bind {first : Compile Result} {second : Result → Compile Next}
    (ofFirst : Each least property ofResult first)
    (ofSecond : ∀ result, ofResult result → Each least property ofNext (second result)) :
    Each least property ofNext (first >>= second) := by
  intro next atLeast
  obtain ⟨here, earlier⟩ := ofFirst next atLeast
  obtain ⟨there, later⟩ := ofSecond _ here (next + (first next).bodies.length)
    (Nat.le_trans atLeast (Nat.le_add_right _ _))
  refine ⟨there, fun index ops found => ?_⟩
  change ((first next).bodies ++ _)[index]? = some ops at found
  rcases Nat.lt_or_ge index (first next).bodies.length with inFirst | inSecond
  · rw [List.getElem?_append_left inFirst] at found
    exact earlier index ops found
  · rw [List.getElem?_append_right inSecond] at found
    have moved := later _ ops found
    rwa [Nat.add_assoc, Nat.add_sub_cancel' inSecond] at moved

/-- The steps of an opened body may stand in it: what they open comes behind it. -/
theorem openBody {contents : Compile (List Op)}
    (each : ∀ inner, Each inner property (Op.Below property inner) contents) :
    Each least property (least ≤ ·) (Compile.openBody contents) := by
  intro next atLeast
  obtain ⟨own, inner⟩ := each (next + 1) (next + 1) (Nat.le_refl _)
  refine ⟨atLeast, fun index ops found => ?_⟩
  cases index with
  | zero =>
      cases found
      exact fun op member => own op member next (Nat.lt_succ_self next)
  | succ index =>
      have moved := inner index ops found
      rwa [Nat.add_assoc, Nat.add_comm 1] at moved

theorem define (name : String) (id : BodyId) :
    Each least property (fun _ => True) (Compile.define name id) :=
  fun _ _ => ⟨trivial, fun _ _ found => by cases found⟩

end Compile.Each

namespace Node

/-- What parts with a property are compiled to, under automatic filters of a kind. The bodies of a
tag have greater numbers than the body that the tag stands in. -/
structure Lays (holds : Node → Bool) (ofAuto : Option String → Prop)
    (property : BodyId → Op → Prop) : Prop where
  write : ∀ id text, property id (.write text)
  reference : ∀ {id identifier filters position auto},
    holds (.reference identifier filters position) = true → ofAuto auto →
      property id (.reference identifier ⟨filters, auto⟩)
  condition : ∀ {id kind condition identifier context params bodies position exprs entries},
    holds (.sectionTag kind identifier context params bodies position) = true →
      (kind = .each ∨ kind = .present ∨ kind = .absent) →
        (params.all Param.isSimple = true → ParamExprs.quoted exprs = []) →
          (∀ entry ∈ entries, id < entry.2) →
            property id (.condition condition identifier context exprs entries)
  block : ∀ {id name context exprs entries}, (∀ entry ∈ entries, id < entry.2) →
    property id (.block name context exprs entries)
  helper : ∀ {id identifier context params bodies position exprs entries},
    holds (.sectionTag .helper identifier context params bodies position) = true →
      (∀ entry ∈ entries, id < entry.2) →
        property id (.helper identifier.text context exprs entries)
  pragma : ∀ {identifier context params bodies position},
    holds (.sectionTag .pragma identifier context params bodies position) = true →
      identifier.text = escapePragma → ofAuto (pragmaFilter context)
  inclusion : ∀ {id name target context params position exprs},
    holds (.inclusion .template target context params position) = true →
      (params.all Param.isSimple = true → ParamExprs.quoted exprs = []) →
        property id (.inclusion name context exprs)

section Laying

variable {holds : Node → Bool} {ofAuto : Option String → Prop} {property : BodyId → Op → Prop}
variable {least : BodyId}

theorem writing_below (lays : Lays holds ofAuto property) (text : String) :
    Op.Below property least (Op.writing text) := by
  intro op member id _
  unfold Op.writing at member
  split at member
  · cases member
  · rw [List.mem_singleton.mp member]
    exact lays.write id text

theorem inclusion_each (lays : Lays holds ofAuto property) {kind : InclusionKind}
    {target : Target Node} {context : Option Identifier} {params : List (Param Node)}
    {position : Position} {name : Name} {exprs : ParamExprs} :
    holds (.inclusion kind target context params position) = true →
      (params.all Param.isSimple = true → ParamExprs.quoted exprs = []) →
        Compile.Each least property (Op.Below property least)
          (match kind with
            | .template => pure [.inclusion name context exprs]
            | .block => pure [.block name context exprs []]) := by
  intro here simple
  cases kind with
  | template =>
      exact .pure (List.forall_mem_singleton.mpr fun id _ => lays.inclusion here simple)
  | block =>
      exact .pure (List.forall_mem_singleton.mpr fun id _ =>
        lays.block fun _ member => absurd member List.not_mem_nil)

mutual

/-- Every step of a tree has the property that its parts give. -/
theorem steps_each (lays : Lays holds ofAuto property) :
    ∀ (node : Node) (least : BodyId) (auto : Option String), all holds node = true → ofAuto auto →
      Compile.Each least property (Op.Below property least) (node.steps auto)
  | body parts _, least, auto, inside, isAuto => by
    simp only [all, Bool.and_eq_true] at inside
    exact stepsOfParts_each lays parts least auto inside.2 isAuto
  | text _ _, _, _, _, _ => .pure (writing_below lays _)
  | lineBreak _ _ _, _, _, _, _ => .pure (writing_below lays _)
  | raw _ _, _, _, _, _ => .pure (writing_below lays _)
  | comment _ _, _, _, _, _ => .pure fun _ member => absurd member List.not_mem_nil
  | special _ _, _, _, _, _ => .pure (writing_below lays _)
  | reference _ _ _, _, _, inside, isAuto =>
    .pure (List.forall_mem_singleton.mpr fun _ _ => lays.reference inside isAuto)
  | sectionTag kind identifier context params bodies _, least, auto, inside, isAuto => by
    simp only [all, Bool.and_eq_true] at inside
    obtain ⟨here, inParams, inBodies⟩ := inside
    have tagged : ∀ tag : NamedBodies → ParamExprs → Op,
        (∀ entries exprs id, (∀ entry ∈ entries, id < entry.2) →
          (params.all Param.isSimple = true → ParamExprs.quoted exprs = []) →
            property id (tag entries exprs)) →
        Compile.Each least property (Op.Below property least) (do
          let bodies ← openBodies auto bodies
          let params ← paramExprs auto params
          pure [tag bodies params]) := fun tag ofTag =>
      (openBodies_each lays bodies least auto inBodies isAuto).bind fun entries behind =>
        (paramExprs_each lays params least auto inParams isAuto).bind fun exprs simple =>
          .pure (List.forall_mem_singleton.mpr fun id below => ofTag entries exprs id
            (fun entry member => Nat.lt_of_lt_of_le below (behind entry member)) simple)
    cases kind with
    | each => exact tagged _ fun _ _ _ behind simple => lays.condition here (by simp) simple behind
    | present =>
        exact tagged _ fun _ _ _ behind simple => lays.condition here (by simp) simple behind
    | absent =>
        exact tagged _ fun _ _ _ behind simple => lays.condition here (by simp) simple behind
    | yield => exact tagged _ fun _ _ _ behind _ => lays.block behind
    | helper => exact tagged _ fun _ _ _ behind _ => lays.helper here behind
    | define =>
        refine (openMain_each lays bodies least auto inBodies isAuto).bind fun opened _ => ?_
        cases opened with
        | none => exact .pure fun _ member => absurd member List.not_mem_nil
        | some id =>
            exact (Compile.Each.define _ id).bind fun _ _ =>
              .pure fun _ member => absurd member List.not_mem_nil
    | pragma =>
        unfold steps
        simp only
        split
        · rename_i isEscape
          exact stepsOfMain_each lays bodies least _ inBodies (lays.pragma here isEscape)
        · exact .pure fun _ member => absurd member List.not_mem_nil
  | inclusion kind (.name name) context params _, least, auto, inside, isAuto => by
    simp only [all, Bool.and_eq_true] at inside
    have named : Compile.Each least property (fun _ => True) (targetName auto (.name name)) :=
      .pure trivial
    exact named.bind fun name _ =>
      (paramExprs_each lays params least auto inside.2 isAuto).bind fun exprs simple =>
        inclusion_each lays inside.1 simple
  | inclusion kind (.inline inner) context params _, least, auto, inside, isAuto => by
    simp only [all, Bool.and_eq_true] at inside
    have opened : Compile.Each least property (least ≤ ·) (Compile.openBody (inner.steps auto)) :=
      .openBody fun least => steps_each lays inner least auto inside.2.1 isAuto
    have named : Compile.Each least property (fun _ => True) (targetName auto (.inline inner)) :=
      opened.bind fun _ _ => .pure trivial
    exact named.bind fun name _ =>
      (paramExprs_each lays params least auto inside.2.2 isAuto).bind fun exprs simple =>
        inclusion_each lays inside.1 simple

theorem stepsOfParts_each (lays : Lays holds ofAuto property) :
    ∀ (parts : List Node) (least : BodyId) (auto : Option String),
      allParts holds parts = true → ofAuto auto →
        Compile.Each least property (Op.Below property least) (stepsOfParts auto parts)
  | [], _, _, _, _ => .pure fun _ member => absurd member List.not_mem_nil
  | part :: rest, least, auto, inside, isAuto => by
    simp only [allParts, Bool.and_eq_true] at inside
    exact (steps_each lays part least auto inside.1 isAuto).bind fun first ofFirst =>
      (stepsOfParts_each lays rest least auto inside.2 isAuto).bind fun others ofOthers =>
        .pure (List.forall_mem_append.mpr ⟨ofFirst, ofOthers⟩)

theorem stepsOfMain_each (lays : Lays holds ofAuto property) :
    ∀ (bodies : List (String × Node)) (least : BodyId) (auto : Option String),
      allBodies holds bodies = true → ofAuto auto →
        Compile.Each least property (Op.Below property least) (stepsOfMain auto bodies)
  | [], _, _, _, _ => .pure fun _ member => absurd member List.not_mem_nil
  | (name, inner) :: rest, least, auto, inside, isAuto => by
    simp only [allBodies, Bool.and_eq_true] at inside
    unfold stepsOfMain
    split
    · exact steps_each lays inner least auto inside.1 isAuto
    · exact stepsOfMain_each lays rest least auto inside.2 isAuto

theorem openMain_each (lays : Lays holds ofAuto property) :
    ∀ (bodies : List (String × Node)) (least : BodyId) (auto : Option String),
      allBodies holds bodies = true → ofAuto auto →
        Compile.Each least property (fun _ => True) (openMain auto bodies)
  | [], _, _, _, _ => .pure trivial
  | (name, inner) :: rest, least, auto, inside, isAuto => by
    simp only [allBodies, Bool.and_eq_true] at inside
    have opened : Compile.Each least property (least ≤ ·) (Compile.openBody (inner.steps auto)) :=
      .openBody fun least => steps_each lays inner least auto inside.1 isAuto
    unfold openMain
    split
    · exact opened.bind fun _ _ => .pure trivial
    · exact openMain_each lays rest least auto inside.2 isAuto

theorem openBodies_each (lays : Lays holds ofAuto property) :
    ∀ (bodies : List (String × Node)) (least : BodyId) (auto : Option String),
      allBodies holds bodies = true → ofAuto auto →
        Compile.Each least property (fun entries => ∀ entry ∈ entries, least ≤ entry.2)
          (openBodies auto bodies)
  | [], _, _, _, _ => .pure fun _ member => absurd member List.not_mem_nil
  | (name, inner) :: rest, least, auto, inside, isAuto => by
    simp only [allBodies, Bool.and_eq_true] at inside
    have opened : Compile.Each least property (least ≤ ·) (Compile.openBody (inner.steps auto)) :=
      .openBody fun least => steps_each lays inner least auto inside.1 isAuto
    exact opened.bind fun id behind =>
      (openBodies_each lays rest least auto inside.2 isAuto).bind fun others ofOthers =>
        .pure (List.forall_mem_cons.mpr ⟨behind, ofOthers⟩)

theorem paramExprs_each (lays : Lays holds ofAuto property) :
    ∀ (params : List (Param Node)) (least : BodyId) (auto : Option String),
      allParams holds params = true → ofAuto auto →
        Compile.Each least property
          (fun exprs => params.all Param.isSimple = true → ParamExprs.quoted exprs = [])
          (paramExprs auto params)
  | [], _, _, _, _ => .pure fun _ => rfl
  | ⟨key, .literal value⟩ :: rest, least, auto, inside, isAuto =>
    (paramExprs_each lays rest least auto inside isAuto).bind fun _ simple => .pure simple
  | ⟨key, .identifier name⟩ :: rest, least, auto, inside, isAuto =>
    (paramExprs_each lays rest least auto inside isAuto).bind fun _ simple => .pure simple
  | ⟨key, .inline inner⟩ :: rest, least, auto, inside, isAuto => by
    simp only [allParams, Bool.and_eq_true] at inside
    have opened : Compile.Each least property (least ≤ ·) (Compile.openBody (inner.steps auto)) :=
      .openBody fun least => steps_each lays inner least auto inside.1 isAuto
    exact opened.bind fun _ _ =>
      (paramExprs_each lays rest least auto inside.2 isAuto).bind fun _ _ =>
        .pure fun isSimple => by cases isSimple

end

end Laying

end Node

/-- In the program of a source whose tree has a property everywhere, every step has the property
that it gives in the body it stands in. -/
theorem Program.ofSource_each {config : Config} {name : Option String} {source : String}
    {program : Program} {holds : Node → Bool} {ofAuto : Option String → Prop}
    {property : BodyId → Op → Prop} (lasts : Node.Lasts holds)
    (lays : Node.Lays holds ofAuto property) (isAuto : ofAuto config.autoEscape)
    (inside : ∀ tree, Node.parse source = .ok tree → tree.all holds = true)
    (compiled : ofSource config name source = .ok program) :
    ∀ id, ∀ op ∈ program.body id, property id op := by
  obtain ⟨node, parsed, rfl⟩ := ofSource_eq_ok_iff.mp compiled
  have tidied := Node.all_tidy lasts config.whitespace (inside node parsed)
  have opened : Compile.Each 0 property (0 ≤ ·)
      (Compile.openBody ((node.tidy config.whitespace).steps config.autoEscape)) :=
    .openBody fun least => Node.steps_each lays _ least _ tidied isAuto
  intro id op member
  obtain ⟨ops, found, inOps⟩ := exists_of_mem_body member
  have holds := (opened 0 (Nat.zero_le _)).2 id ops found op inOps
  rwa [Nat.zero_add] at holds

/-- The bodies of a step by name. -/
def Op.entries : Op → NamedBodies
  | condition _ _ _ _ bodies => bodies
  | block _ _ _ bodies => bodies
  | helper _ _ _ bodies => bodies
  | _ => []

/-- The bodies of the texts with tags in them that a step puts among the data. -/
def Op.passed : Op → List BodyId
  | condition _ _ _ params _ => params.quoted
  | inclusion _ _ params => params.quoted
  | _ => []

/-- A step in a body: the bodies of its tag come later, and no text gets into the data. -/
structure Op.Descends (id : BodyId) (op : Op) : Prop where
  entries : ∀ entry ∈ op.entries, id < entry.2
  passed : op.passed = []

def Program.Descends (program : Program) : Prop :=
  ∀ id, ∀ op ∈ program.body id, op.Descends id

end BraceTemplate
