import BraceTemplate.Program.Compile

/-!
# Tidying keeps the program

Compiling a tidied tree yields the program of the tree itself, except that neighbouring writes are
joined. Where line breaks are stripped it is the program of the tree without its line breaks. Bodies
keep their numbers, and blocks their names.
-/

namespace BraceTemplate

namespace Op

def joinFront (op : Op) (rest : List Op) : List Op :=
  match op, rest with
  | write first, write second :: others => write (first ++ second) :: others
  | other, others => other :: others

/-- The steps with every run of neighbouring writes as one write. -/
def joinWrites (ops : List Op) : List Op :=
  ops.foldr joinFront []

theorem joinFront_joinFront (first second : String) (rest : List Op) :
    joinFront (write first) (joinFront (write second) rest) =
      joinFront (write (first ++ second)) rest := by
  cases rest with
  | nil => rfl
  | cons op others => cases op <;> simp [joinFront, String.append_assoc]

theorem joinWrites_append (first second : List Op) :
    joinWrites (first ++ second) = first.foldr joinFront (joinWrites second) :=
  List.foldr_append

/-- Joining the writes of a first part beforehand changes nothing. -/
theorem joinWrites_joined_append (first second : List Op) :
    joinWrites (joinWrites first ++ second) = joinWrites (first ++ second) := by
  induction first with
  | nil => rfl
  | cons op rest inductionHypothesis =>
      have pushed :
          joinWrites (joinFront op (joinWrites rest) ++ second) =
            joinFront op (joinWrites (joinWrites rest ++ second)) := by
        generalize joinWrites rest = joined
        unfold joinFront
        split
        · exact (joinFront_joinFront _ _ _).symm
        · rfl
      rw [inductionHypothesis] at pushed
      exact pushed

def SameJoined (first second : List Op) : Prop :=
  joinWrites first = joinWrites second

namespace SameJoined

theorem refl (ops : List Op) : SameJoined ops ops :=
  rfl

theorem append {first second others more : List Op} (same : SameJoined first second)
    (sameOthers : SameJoined others more) : SameJoined (first ++ others) (second ++ more) := by
  calc
    joinWrites (first ++ others) = joinWrites (joinWrites first ++ others) :=
      (joinWrites_joined_append first others).symm
    _ = joinWrites (joinWrites second ++ others) := by rw [same]
    _ = joinWrites (second ++ others) := joinWrites_joined_append second others
    _ = joinWrites (second ++ more) := by
      rw [joinWrites_append, joinWrites_append, sameOthers]

/-- Writing two texts is writing the joined text. -/
theorem writing_append (first second : String) :
    SameJoined (writing (first ++ second)) (writing first ++ writing second) := by
  unfold SameJoined writing
  by_cases firstEmpty : first = ""
  · simp [firstEmpty]
  · by_cases secondEmpty : second = ""
    · simp [secondEmpty]
    · simp [firstEmpty, secondEmpty, joinWrites, joinFront]

end SameJoined

end Op

/-- The program with every run of neighbouring writes as one write. -/
def Program.joinWrites (program : Program) : Program :=
  { program with bodies := program.bodies.map Op.joinWrites }

/-- Two layouts whose results are related, with the same bodies once their writes are joined, and
with the same blocks. -/
structure Laid.Alike {Result : Type} (related : Result → Result → Prop)
    (first second : Laid Result) : Prop where
  result : related first.result second.result
  bodies : first.bodies.map Op.joinWrites = second.bodies.map Op.joinWrites
  blocks : first.blocks = second.blocks

/-- Two ways of compiling that agree from every number on. -/
def Compile.Alike {Result : Type} (related : Result → Result → Prop)
    (first second : Compile Result) : Prop :=
  ∀ next, (first next).Alike related (second next)

namespace Compile.Alike

variable {Result Next : Type} {related : Result → Result → Prop}
variable {relatedNext : Next → Next → Prop}

theorem pure {first second : Result} (same : related first second) :
    Compile.Alike related (Pure.pure first) (Pure.pure second) :=
  fun _ => ⟨same, rfl, rfl⟩

theorem refl (reflexive : ∀ result, related result result) (compile : Compile Result) :
    Compile.Alike related compile compile :=
  fun _ => ⟨reflexive _, rfl, rfl⟩

theorem trans {first second third : Compile (List Op)}
    (earlier : Compile.Alike Op.SameJoined first second)
    (later : Compile.Alike Op.SameJoined second third) :
    Compile.Alike Op.SameJoined first third := by
  intro next
  obtain ⟨result, bodies, blocks⟩ := earlier next
  obtain ⟨resultLater, bodiesLater, blocksLater⟩ := later next
  exact ⟨Eq.trans result resultLater, bodies.trans bodiesLater, blocks.trans blocksLater⟩

theorem bind {first second : Compile Result} {afterFirst afterSecond : Result → Compile Next}
    (alike : Compile.Alike related first second)
    (next : ∀ one other, related one other →
      Compile.Alike relatedNext (afterFirst one) (afterSecond other)) :
    Compile.Alike relatedNext (first >>= afterFirst) (second >>= afterSecond) := by
  intro start
  have earlier := alike start
  have sameLength : (first start).bodies.length = (second start).bodies.length := by
    simpa using congrArg List.length earlier.bodies
  have later :=
    next _ _ earlier.result (start + (second start).bodies.length)
  rw [← sameLength] at later
  refine ⟨?_, ?_, ?_⟩
  · simpa [Bind.bind, Compile.andThen, sameLength] using later.result
  · simpa [Bind.bind, Compile.andThen, sameLength, earlier.bodies] using later.bodies
  · simpa [Bind.bind, Compile.andThen, sameLength, earlier.blocks] using later.blocks

/-- Steps of one part after the other. -/
theorem append {first second others more : Compile (List Op)}
    (alike : Compile.Alike Op.SameJoined first second)
    (alikeOthers : Compile.Alike Op.SameJoined others more) :
    Compile.Alike Op.SameJoined
      (do
        let steps ← first
        let later ← others
        Pure.pure (steps ++ later))
      (do
        let steps ← second
        let later ← more
        Pure.pure (steps ++ later)) :=
  alike.bind fun _ _ same => alikeOthers.bind fun _ _ sameLater => .pure (same.append sameLater)

theorem openBody {first second : Compile (List Op)}
    (alike : Compile.Alike Op.SameJoined first second) :
    Compile.Alike Eq (Compile.openBody first) (Compile.openBody second) := by
  intro next
  obtain ⟨result, bodies, blocks⟩ := alike (next + 1)
  have joined : Op.joinWrites (first (next + 1)).result =
      Op.joinWrites (second (next + 1)).result :=
    result
  exact ⟨rfl, by simp [Compile.openBody, joined, bodies], blocks⟩

end Compile.Alike

namespace Node

def stepsOfTidied (auto : Option String) : Option Node → Compile (List Op)
  | none => pure []
  | some node => steps auto node

theorem steps_orEmptyBody (auto : Option String) (tidied : Option Node) (position : Position) :
    steps auto (orEmptyBody tidied position) = stepsOfTidied auto tidied := by
  cases tidied with
  | none => rfl
  | some node => rfl

/-- A text that is joined with the next one writes what the two write. -/
theorem stepsOfParts_joinFront (auto : Option String) (node : Node) (rest : List Node) :
    Compile.Alike Op.SameJoined (stepsOfParts auto (joinFront node rest))
      (stepsOfParts auto (node :: rest)) := by
  unfold joinFront
  split
  · rename_i first position second otherPosition others
    intro next
    have same := (Op.SameJoined.writing_append first second).append
      (Op.SameJoined.refl (stepsOfParts auto others next).result)
    refine ⟨?_, ?_, ?_⟩
    · simpa [stepsOfParts, steps, Bind.bind, Compile.andThen, Pure.pure, Compile.done] using same
    · simp [stepsOfParts, steps, Bind.bind, Compile.andThen, Pure.pure, Compile.done]
    · simp [stepsOfParts, steps, Bind.bind, Compile.andThen, Pure.pure, Compile.done]
  · exact .refl Op.SameJoined.refl _

/-- Joining the texts among parts joins their writes. -/
theorem stepsOfParts_joinTexts (auto : Option String) (parts : List Node) :
    Compile.Alike Op.SameJoined (stepsOfParts auto (joinTexts parts))
      (stepsOfParts auto parts) := by
  induction parts with
  | nil => exact .refl Op.SameJoined.refl _
  | cons part rest inductionHypothesis =>
      have joined := stepsOfParts_joinFront auto part (joinTexts rest)
      exact joined.trans (.append (.refl Op.SameJoined.refl _) inductionHypothesis)

theorem stepsOfParts_tidied (auto : Option String) (tidied : Option Node) (rest : List Node) :
    Compile.Alike Op.SameJoined (stepsOfParts auto (tidied.toList ++ rest))
      (do
        let first ← stepsOfTidied auto tidied
        let others ← stepsOfParts auto rest
        pure (first ++ others)) := by
  cases tidied with
  | none =>
      intro next
      refine ⟨?_, ?_, ?_⟩ <;>
        simp [stepsOfTidied, Op.SameJoined, Bind.bind, Compile.andThen, Pure.pure, Compile.done]
  | some node => exact .refl Op.SameJoined.refl _

mutual

/-- What stays of a part has the steps of the part. -/
theorem steps_tidy? (auto : Option String) : ∀ node : Node,
    Compile.Alike Op.SameJoined (stepsOfTidied auto (tidy? .preserve node)) (steps auto node)
  | body parts _ =>
    (stepsOfParts_joinTexts auto _).trans (stepsOfParts_tidyParts auto parts)
  | text _ _ => .refl Op.SameJoined.refl _
  | lineBreak _ _ _ => .refl Op.SameJoined.refl _
  | raw _ _ => .refl Op.SameJoined.refl _
  | comment _ _ => .refl Op.SameJoined.refl _
  | special _ _ => .refl Op.SameJoined.refl _
  | reference _ _ _ => .refl Op.SameJoined.refl _
  | sectionTag kind identifier context params bodies _ => by
    have tagged : ∀ tag : NamedBodies → ParamExprs → Op,
        Compile.Alike Op.SameJoined
          (do
            let bodies ← openBodies auto (tidyBodies .preserve bodies)
            let params ← paramExprs auto (tidyParams .preserve params)
            pure [tag bodies params])
          (do
            let bodies ← openBodies auto bodies
            let params ← paramExprs auto params
            pure [tag bodies params]) := fun tag =>
      (openBodies_tidyBodies auto bodies).bind fun _ _ sameBodies =>
        (paramExprs_tidyParams auto params).bind fun _ _ sameParams =>
          .pure (by rw [sameBodies, sameParams]; exact .refl _)
    cases kind with
    | each => exact tagged _
    | present => exact tagged _
    | absent => exact tagged _
    | yield => exact tagged _
    | helper => exact tagged _
    | define =>
        refine (openMain_tidyBodies auto bodies).bind fun opened _ same => ?_
        rw [same]
        exact .refl Op.SameJoined.refl _
    | pragma =>
        unfold tidy? stepsOfTidied steps
        simp only
        split
        · exact stepsOfMain_tidyBodies (pragmaFilter context) bodies
        · exact .refl Op.SameJoined.refl _
  | inclusion kind (.name name) context params _ =>
    .bind (.refl (fun _ => rfl) _) fun named _ sameName =>
      (paramExprs_tidyParams auto params).bind fun _ _ sameParams => by
        rw [sameName, sameParams]
        exact .refl Op.SameJoined.refl _
  | inclusion kind (.inline inner) context params _ =>
    .bind ((steps_tidied auto inner).openBody.bind fun _ _ same =>
        .pure (congrArg Name.body same)) fun named _ sameName =>
      (paramExprs_tidyParams auto params).bind fun _ _ sameParams => by
        rw [sameName, sameParams]
        exact .refl Op.SameJoined.refl _

theorem stepsOfParts_tidyParts (auto : Option String) : ∀ parts : List Node,
    Compile.Alike Op.SameJoined (stepsOfParts auto (tidyParts .preserve parts))
      (stepsOfParts auto parts)
  | [] => .refl Op.SameJoined.refl _
  | part :: rest =>
    (stepsOfParts_tidied auto _ _).trans
      (.append (steps_tidy? auto part) (stepsOfParts_tidyParts auto rest))

theorem steps_tidied (auto : Option String) (node : Node) :
    Compile.Alike Op.SameJoined (steps auto (orEmptyBody (tidy? .preserve node) node.position))
      (steps auto node) := by
  rw [steps_orEmptyBody]
  exact steps_tidy? auto node

theorem stepsOfMain_tidyBodies (auto : Option String) : ∀ bodies : List (String × Node),
    Compile.Alike Op.SameJoined (stepsOfMain auto (tidyBodies .preserve bodies))
      (stepsOfMain auto bodies)
  | [] => .refl Op.SameJoined.refl _
  | (name, inner) :: rest => by
    unfold tidyBodies stepsOfMain
    split
    · exact steps_tidied auto inner
    · exact stepsOfMain_tidyBodies auto rest

theorem openMain_tidyBodies (auto : Option String) : ∀ bodies : List (String × Node),
    Compile.Alike Eq (openMain auto (tidyBodies .preserve bodies)) (openMain auto bodies)
  | [] => .refl (fun _ => rfl) _
  | (name, inner) :: rest => by
    unfold tidyBodies openMain
    split
    · exact (steps_tidied auto inner).openBody.bind fun _ _ same => .pure (congrArg some same)
    · exact openMain_tidyBodies auto rest

theorem openBodies_tidyBodies (auto : Option String) : ∀ bodies : List (String × Node),
    Compile.Alike Eq (openBodies auto (tidyBodies .preserve bodies)) (openBodies auto bodies)
  | [] => .refl (fun _ => rfl) _
  | (name, inner) :: rest =>
    (steps_tidied auto inner).openBody.bind fun _ _ same =>
      (openBodies_tidyBodies auto rest).bind fun _ _ sameOthers =>
        .pure (by rw [same, sameOthers])

theorem paramExprs_tidyParams (auto : Option String) : ∀ params : List (Param Node),
    Compile.Alike Eq (paramExprs auto (tidyParams .preserve params)) (paramExprs auto params)
  | [] => .refl (fun _ => rfl) _
  | ⟨key, .literal value⟩ :: rest =>
    (paramExprs_tidyParams auto rest).bind fun _ _ same => .pure (by rw [same])
  | ⟨key, .identifier name⟩ :: rest =>
    (paramExprs_tidyParams auto rest).bind fun _ _ same => .pure (by rw [same])
  | ⟨key, .inline inner⟩ :: rest =>
    (steps_tidied auto inner).openBody.bind fun _ _ same =>
      (paramExprs_tidyParams auto rest).bind fun _ _ sameOthers =>
        .pure (by rw [same, sameOthers])

end

mutual

def unbroken? : Node → Option Node
  | body parts position => some (body (unbrokenParts parts) position)
  | text content position => some (text content position)
  | lineBreak _ _ _ => none
  | raw content position => some (raw content position)
  | comment content position => some (comment content position)
  | special key position => some (special key position)
  | reference identifier filters position => some (reference identifier filters position)
  | sectionTag kind identifier context params bodies position =>
    some (sectionTag kind identifier context (unbrokenParams params) (unbrokenBodies bodies)
      position)
  | inclusion kind (.name name) context params position =>
    some (inclusion kind (.name name) context (unbrokenParams params) position)
  | inclusion kind (.inline inner) context params position =>
    some (inclusion kind (.inline (orEmptyBody (unbroken? inner) inner.position)) context
      (unbrokenParams params) position)

def unbrokenParts : List Node → List Node
  | [] => []
  | part :: rest => (unbroken? part).toList ++ unbrokenParts rest

def unbrokenBodies : List (String × Node) → List (String × Node)
  | [] => []
  | (name, inner) :: rest =>
    (name, orEmptyBody (unbroken? inner) inner.position) :: unbrokenBodies rest

def unbrokenParams : List (Param Node) → List (Param Node)
  | [] => []
  | ⟨key, .literal value⟩ :: rest => ⟨key, .literal value⟩ :: unbrokenParams rest
  | ⟨key, .identifier name⟩ :: rest => ⟨key, .identifier name⟩ :: unbrokenParams rest
  | ⟨key, .inline inner⟩ :: rest =>
    ⟨key, .inline (orEmptyBody (unbroken? inner) inner.position)⟩ :: unbrokenParams rest

end

/-- The tree without its line breaks, at every depth. Where a whole body is due, an empty body
stands for a line break. -/
def unbroken (node : Node) : Node :=
  orEmptyBody (unbroken? node) node.position

theorem position_unbroken (node : Node) : (unbroken node).position = node.position := by
  cases node with
  | inclusion kind target context params position => cases target <;> rfl
  | _ => rfl

theorem tidyParts_append (whitespace : Whitespace) (first second : List Node) :
    tidyParts whitespace (first ++ second) =
      tidyParts whitespace first ++ tidyParts whitespace second := by
  induction first with
  | nil => rfl
  | cons part rest inductionHypothesis => simp [tidyParts, inductionHypothesis]

/-- Where a body is due, an empty body stands for what does not stay. -/
theorem tidy_orEmptyBody {node : Node}
    (same : tidy? .strip node = (unbroken? node).bind (tidy? .preserve)) :
    orEmptyBody (tidy? .strip node) node.position =
      orEmptyBody (tidy? .preserve (unbroken node)) (unbroken node).position := by
  rw [position_unbroken, same]
  unfold unbroken
  cases unbroken? node with
  | none => rfl
  | some stays => rfl

mutual

/-- Tidying that strips line breaks tidies what is left without them. -/
theorem tidy?_strip : ∀ node : Node,
    tidy? .strip node = (unbroken? node).bind (tidy? .preserve)
  | body parts position => by simp [tidy?, unbroken?, tidyParts_strip parts]
  | text _ _ => rfl
  | lineBreak _ _ _ => rfl
  | raw _ _ => rfl
  | comment _ _ => rfl
  | special _ _ => rfl
  | reference _ _ _ => rfl
  | sectionTag kind identifier context params bodies position => by
    simp [tidy?, unbroken?, tidyParams_strip params, tidyBodies_strip bodies]
  | inclusion kind (.name name) context params position => by
    simp [tidy?, unbroken?, tidyParams_strip params]
  | inclusion kind (.inline inner) context params position => by
    have here := tidy_orEmptyBody (tidy?_strip inner)
    simp only [tidy?, unbroken?, tidyParams_strip params, here, Option.bind_some]
    rfl

theorem tidyParts_strip : ∀ parts : List Node,
    tidyParts .strip parts = tidyParts .preserve (unbrokenParts parts)
  | [] => rfl
  | part :: rest => by
    rw [tidyParts, unbrokenParts, tidyParts_append, ← tidyParts_strip rest, tidy?_strip part]
    cases unbroken? part with
    | none => rfl
    | some stays => simp [tidyParts]

theorem tidyBodies_strip : ∀ bodies : List (String × Node),
    tidyBodies .strip bodies = tidyBodies .preserve (unbrokenBodies bodies)
  | [] => rfl
  | (name, inner) :: rest => by
    rw [tidyBodies, tidy_orEmptyBody (tidy?_strip inner), tidyBodies_strip rest]
    rfl

theorem tidyParams_strip : ∀ params : List (Param Node),
    tidyParams .strip params = tidyParams .preserve (unbrokenParams params)
  | [] => rfl
  | ⟨key, .literal value⟩ :: rest => by
    rw [tidyParams, tidyParams_strip rest]
    rfl
  | ⟨key, .identifier name⟩ :: rest => by
    rw [tidyParams, tidyParams_strip rest]
    rfl
  | ⟨key, .inline inner⟩ :: rest => by
    rw [tidyParams, tidy_orEmptyBody (tidy?_strip inner), tidyParams_strip rest]
    rfl

end

theorem tidy_strip (node : Node) : node.tidy .strip = node.unbroken.tidy .preserve :=
  tidy_orEmptyBody (tidy?_strip node)

end Node

theorem Program.joinWrites_ofNode_preserve (name auto : Option String) (node : Node) :
    (ofNode name auto (node.tidy .preserve)).joinWrites = (ofNode name auto node).joinWrites := by
  obtain ⟨result, bodies, blocks⟩ := (Node.steps_tidied auto node).openBody 0
  unfold ofNode joinWrites Node.tidy
  simp only [result, bodies, blocks]

/-- Compiling a tidied tree and compiling the tree lay out the same program, once neighbouring
writes are joined. Where line breaks are stripped, the tree has to do without them too. -/
theorem Program.joinWrites_ofNode_tidy (name auto : Option String) (node : Node) :
    (ofNode name auto (node.tidy .preserve)).joinWrites = (ofNode name auto node).joinWrites ∧
      (ofNode name auto (node.tidy .strip)).joinWrites =
        (ofNode name auto node.unbroken).joinWrites := by
  refine ⟨joinWrites_ofNode_preserve name auto node, ?_⟩
  rw [Node.tidy_strip]
  exact joinWrites_ofNode_preserve name auto node.unbroken

end BraceTemplate
