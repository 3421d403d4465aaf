import Mathlib.Data.List.Forall2
import BraceTemplate.Program.Compile

/-!
# Where blocks are defined

A template defines a block by a tag, which may stand anywhere in what is compiled of it: on its own,
in a section, in another definition, in front of the tags that yield to it or behind them. Pragmas
that are not known are left out with all that stands in them, and so are the branches of pragmas and
definitions. Of several definitions of a block the one that ends last stays.
-/

namespace BraceTemplate

/-- A definition of a block: its name, its main body, and the automatic filter where it stands. -/
structure Definition where
  name : String
  contents : Node
  auto : Option String

namespace Node

mutual

/-- The definitions that stand in a part, in the order in which they end. -/
def definitions (auto : Option String) : Node → List Definition
  | body parts _ => definitionsOfParts auto parts
  | sectionTag kind identifier context params bodies _ =>
    match kind with
    | .define => definitionsOfDefine auto identifier.text bodies
    | .pragma =>
      if identifier.text = escapePragma then definitionsOfMain (pragmaFilter context) bodies
      else []
    | _ => definitionsOfBodies auto bodies ++ definitionsOfParams auto params
  | inclusion _ target _ params _ =>
    definitionsOfTarget auto target ++ definitionsOfParams auto params
  | _ => []

def definitionsOfParts (auto : Option String) : List Node → List Definition
  | [] => []
  | part :: rest => definitions auto part ++ definitionsOfParts auto rest

def definitionsOfDefine (auto : Option String) (defined : String) :
    List (String × Node) → List Definition
  | [] => []
  | (name, inner) :: rest =>
    if name = mainBody then definitions auto inner ++ [⟨defined, inner, auto⟩]
    else definitionsOfDefine auto defined rest

def definitionsOfMain (auto : Option String) : List (String × Node) → List Definition
  | [] => []
  | (name, inner) :: rest =>
    if name = mainBody then definitions auto inner else definitionsOfMain auto rest

def definitionsOfBodies (auto : Option String) : List (String × Node) → List Definition
  | [] => []
  | (_, inner) :: rest => definitions auto inner ++ definitionsOfBodies auto rest

def definitionsOfParams (auto : Option String) : List (Param Node) → List Definition
  | [] => []
  | ⟨_, .literal _⟩ :: rest => definitionsOfParams auto rest
  | ⟨_, .identifier _⟩ :: rest => definitionsOfParams auto rest
  | ⟨_, .inline inner⟩ :: rest => definitions auto inner ++ definitionsOfParams auto rest

def definitionsOfTarget (auto : Option String) : Target Node → List Definition
  | .name _ => []
  | .inline inner => definitions auto inner

end

/-- The definition of a block: of those under its name the one that ends last. -/
def definition? (auto : Option String) (name : String) (node : Node) : Option Definition :=
  (node.definitions auto).reverse.find? fun definition => definition.name == name

end Node

def Definition.tidied (whitespace : Whitespace) (definition : Definition) : Definition :=
  { definition with contents := definition.contents.tidy whitespace }

namespace Node

section Tidying

variable {whitespace : Whitespace}

theorem definitionsOfParts_append (auto : Option String) (first second : List Node) :
    definitionsOfParts auto (first ++ second) =
      definitionsOfParts auto first ++ definitionsOfParts auto second := by
  induction first with
  | nil => rfl
  | cons part rest inductionHypothesis =>
      simp only [List.cons_append, definitionsOfParts, inductionHypothesis, List.append_assoc]

/-- Nothing is defined in texts, joined or not. -/
theorem definitionsOfParts_joinTexts (auto : Option String) (parts : List Node) :
    definitionsOfParts auto (joinTexts parts) = definitionsOfParts auto parts := by
  induction parts with
  | nil => rfl
  | cons part rest inductionHypothesis =>
      change definitionsOfParts auto (joinFront part (joinTexts rest)) = _
      rw [definitionsOfParts, ← inductionHypothesis]
      unfold joinFront
      split
      · rename_i split
        rw [split]
        rfl
      · rfl

/-- Where nothing stays, the empty body in its place defines nothing either. -/
theorem definitions_orEmptyBody {auto : Option String} {tidied : Option Node}
    {defined : List Definition} (stays : definitionsOfParts auto tidied.toList = defined)
    (position : Position) : (orEmptyBody tidied position).definitions auto = defined := by
  subst stays
  cases tidied with
  | none => rfl
  | some node => exact (List.append_nil _).symm

mutual

/-- What stays of a part has its definitions, tidied. -/
theorem definitions_tidy? (auto : Option String) : ∀ node : Node,
    definitionsOfParts auto (tidy? whitespace node).toList =
      (node.definitions auto).map (Definition.tidied whitespace)
  | body parts _ =>
    (List.append_nil _).trans
      ((definitionsOfParts_joinTexts auto _).trans (definitionsOfParts_tidyParts auto parts))
  | text _ _ => rfl
  | lineBreak _ _ _ => by cases whitespace <;> rfl
  | raw _ _ => rfl
  | comment _ _ => rfl
  | special _ _ => rfl
  | reference _ _ _ => rfl
  | sectionTag kind identifier context params bodies _ => by
    refine (List.append_nil _).trans ?_
    have tagged : definitionsOfBodies auto (tidyBodies whitespace bodies) ++
          definitionsOfParams auto (tidyParams whitespace params) =
        (definitionsOfBodies auto bodies ++ definitionsOfParams auto params).map
          (Definition.tidied whitespace) := by
      rw [List.map_append, definitionsOfBodies_tidyBodies auto bodies,
        definitionsOfParams_tidyParams auto params]
    cases kind with
    | define => exact definitionsOfDefine_tidyBodies auto identifier.text bodies
    | pragma =>
        simp only [definitions]
        split
        · exact definitionsOfMain_tidyBodies (pragmaFilter context) bodies
        · rfl
    | _ => exact tagged
  | inclusion kind (.name name) context params _ =>
    (List.append_nil _).trans (definitionsOfParams_tidyParams auto params)
  | inclusion kind (.inline inner) context params _ => by
    refine (List.append_nil _).trans ?_
    rw [definitions, definitions, List.map_append, ← definitionsOfParams_tidyParams auto params]
    exact congrArg (· ++ _) (definitions_orEmptyBody (definitions_tidy? auto inner) _)

theorem definitionsOfParts_tidyParts (auto : Option String) : ∀ parts : List Node,
    definitionsOfParts auto (tidyParts whitespace parts) =
      (definitionsOfParts auto parts).map (Definition.tidied whitespace)
  | [] => rfl
  | part :: rest => by
    rw [tidyParts, definitionsOfParts_append, definitions_tidy? auto part,
      definitionsOfParts_tidyParts auto rest, definitionsOfParts, List.map_append]

theorem definitionsOfDefine_tidyBodies (auto : Option String) (defined : String) :
    ∀ bodies : List (String × Node),
    definitionsOfDefine auto defined (tidyBodies whitespace bodies) =
      (definitionsOfDefine auto defined bodies).map (Definition.tidied whitespace)
  | [] => rfl
  | (name, inner) :: rest => by
    simp only [tidyBodies, definitionsOfDefine]
    split
    · rw [definitions_orEmptyBody (definitions_tidy? auto inner), List.map_append]
      rfl
    · exact definitionsOfDefine_tidyBodies auto defined rest

theorem definitionsOfMain_tidyBodies (auto : Option String) : ∀ bodies : List (String × Node),
    definitionsOfMain auto (tidyBodies whitespace bodies) =
      (definitionsOfMain auto bodies).map (Definition.tidied whitespace)
  | [] => rfl
  | (name, inner) :: rest => by
    simp only [tidyBodies, definitionsOfMain]
    split
    · exact definitions_orEmptyBody (definitions_tidy? auto inner) _
    · exact definitionsOfMain_tidyBodies auto rest

theorem definitionsOfBodies_tidyBodies (auto : Option String) : ∀ bodies : List (String × Node),
    definitionsOfBodies auto (tidyBodies whitespace bodies) =
      (definitionsOfBodies auto bodies).map (Definition.tidied whitespace)
  | [] => rfl
  | (name, inner) :: rest => by
    simp only [tidyBodies, definitionsOfBodies, List.map_append]
    rw [definitions_orEmptyBody (definitions_tidy? auto inner),
      definitionsOfBodies_tidyBodies auto rest]

theorem definitionsOfParams_tidyParams (auto : Option String) : ∀ params : List (Param Node),
    definitionsOfParams auto (tidyParams whitespace params) =
      (definitionsOfParams auto params).map (Definition.tidied whitespace)
  | [] => rfl
  | ⟨_, .literal _⟩ :: rest => definitionsOfParams_tidyParams auto rest
  | ⟨_, .identifier _⟩ :: rest => definitionsOfParams_tidyParams auto rest
  | ⟨_, .inline inner⟩ :: rest => by
    simp only [tidyParams, definitionsOfParams, List.map_append]
    rw [definitions_orEmptyBody (definitions_tidy? auto inner),
      definitionsOfParams_tidyParams auto rest]

end

theorem definitions_tidy (auto : Option String) (node : Node) :
    (node.tidy whitespace).definitions auto =
      (node.definitions auto).map (Definition.tidied whitespace) :=
  definitions_orEmptyBody (definitions_tidy? auto node) _

/-- Tidying keeps which definition of a block counts. -/
theorem definition?_tidy (auto : Option String) (name : String) (node : Node) :
    (node.tidy whitespace).definition? auto name =
      (node.definition? auto name).map (Definition.tidied whitespace) := by
  rw [definition?, definitions_tidy, ← List.map_reverse, List.find?_map]
  rfl

end Tidying

end Node

/-- A block among bodies that were laid out from a number on: it goes by the name of a definition,
and its body is what that contains. -/
structure Definition.LaidOut (next : Nat) (bodies : List (List Op)) (definition : Definition)
    (block : String × Nat) : Prop where
  name : block.1 = definition.name
  least : next ≤ block.2
  body : bodies[block.2 - next]? =
    some (definition.contents.steps definition.auto (block.2 + 1)).result

namespace Definition.LaidOut

variable {next : Nat} {first second : List (List Op)} {definition : Definition}
variable {block : String × Nat}

theorem append_left (laidOut : definition.LaidOut next first block) :
    definition.LaidOut next (first ++ second) block := by
  obtain ⟨bound, _⟩ := List.getElem?_eq_some_iff.mp laidOut.body
  exact ⟨laidOut.name, laidOut.least, by rw [List.getElem?_append_left bound, laidOut.body]⟩

theorem append_right (laidOut : definition.LaidOut (next + first.length) second block) :
    definition.LaidOut next (first ++ second) block := by
  have least := laidOut.least
  have reached : first.length ≤ block.2 - next := by omega
  have shifted : block.2 - next - first.length = block.2 - (next + first.length) := by omega
  exact ⟨laidOut.name, by omega,
    by rw [List.getElem?_append_right reached, shifted, laidOut.body]⟩

theorem cons {ops : List Op} (laidOut : definition.LaidOut (next + 1) second block) :
    definition.LaidOut next (ops :: second) block :=
  (show definition.LaidOut (next + [ops].length) second block from laidOut).append_right

end Definition.LaidOut

/-- Compiling lays out definitions as blocks, in their order. -/
def Compile.Defines {Result : Type} (compile : Compile Result)
    (definitions : List Definition) : Prop :=
  ∀ next, List.Forall₂ (Definition.LaidOut next (compile next).bodies) definitions
    (compile next).blocks

namespace Compile.Defines

variable {Result Next : Type} {earlier later : List Definition}

theorem pure (result : Result) : Defines (Pure.pure result) [] :=
  fun _ => .nil

theorem bind {first : Compile Result} {second : Result → Compile Next}
    (ofFirst : first.Defines earlier) (ofSecond : ∀ result, (second result).Defines later) :
    (first >>= second).Defines (earlier ++ later) :=
  fun next => List.rel_append
    ((ofFirst next).imp fun _ _ laidOut => laidOut.append_left)
    ((ofSecond _ _).imp fun _ _ laidOut => laidOut.append_right)

/-- What comes behind may define nothing. -/
theorem followedBy {first : Compile Result} {second : Result → Compile Next}
    (ofFirst : first.Defines earlier) (ofSecond : ∀ result, (second result).Defines []) :
    (first >>= second).Defines earlier :=
  List.append_nil earlier ▸ ofFirst.bind ofSecond

theorem openBody {contents : Compile (List Op)} (ofContents : contents.Defines earlier) :
    (Compile.openBody contents).Defines earlier :=
  fun next => (ofContents (next + 1)).imp fun _ _ laidOut => laidOut.cons

end Compile.Defines

namespace Node

mutual

/-- Compiling a part lays out the definitions that stand in it. -/
theorem steps_defines : ∀ (node : Node) (auto : Option String),
    (node.steps auto).Defines (node.definitions auto)
  | body parts _, auto => stepsOfParts_defines parts auto
  | text _ _, _ => .pure _
  | lineBreak _ _ _, _ => .pure _
  | raw _ _, _ => .pure _
  | comment _ _, _ => .pure _
  | special _ _, _ => .pure _
  | reference _ _ _, _ => .pure _
  | sectionTag kind identifier context params bodies _, auto => by
    have tagged : ∀ tag : NamedBodies → ParamExprs → Op, Compile.Defines (do
        let bodies ← openBodies auto bodies
        let params ← paramExprs auto params
        pure [tag bodies params])
        (definitionsOfBodies auto bodies ++ definitionsOfParams auto params) := fun tag =>
      (openBodies_defines bodies auto).bind fun _ =>
        (paramExprs_defines params auto).followedBy fun _ => .pure _
    cases kind with
    | each => exact tagged _
    | present => exact tagged _
    | absent => exact tagged _
    | yield => exact tagged _
    | helper => exact tagged _
    | define => exact openMain_defines bodies auto identifier.text
    | pragma =>
        simp only [steps, definitions]
        split
        · exact stepsOfMain_defines bodies (pragmaFilter context)
        · exact .pure _
  | inclusion kind target context params _, auto =>
    (targetName_defines target auto).bind fun _ =>
      (paramExprs_defines params auto).followedBy fun _ => by cases kind <;> exact .pure _

theorem stepsOfParts_defines : ∀ (parts : List Node) (auto : Option String),
    (stepsOfParts auto parts).Defines (definitionsOfParts auto parts)
  | [], _ => .pure _
  | part :: rest, auto =>
    (steps_defines part auto).bind fun _ =>
      (stepsOfParts_defines rest auto).followedBy fun _ => .pure _

/-- The number of the main body is noted once all of it is laid out. -/
theorem openMain_defines : ∀ (bodies : List (String × Node)) (auto : Option String)
    (defined : String), Compile.Defines (do
      match ← openMain auto bodies with
      | none => pure []
      | some id => do
        Compile.define defined id
        pure ([] : List Op)) (definitionsOfDefine auto defined bodies)
  | [], _, _ => fun _ => .nil
  | (name, inner) :: rest, auto, defined => by
    unfold openMain definitionsOfDefine
    split
    · intro next
      let laid := Compile.openBody (steps auto inner) next
      have inside := (steps_defines inner auto).openBody next
      have itself : Definition.LaidOut next laid.bodies ⟨defined, inner, auto⟩
          (defined, laid.result) :=
        ⟨rfl, Nat.le_refl next, by
          rw [show laid.result - next = 0 from Nat.sub_self next]
          rfl⟩
      have whole := List.rel_append inside (.cons itself .nil)
      simpa [bind, Compile.andThen, Compile.define, Pure.pure, Compile.done] using whole
    · exact openMain_defines rest auto defined

theorem stepsOfMain_defines : ∀ (bodies : List (String × Node)) (auto : Option String),
    (stepsOfMain auto bodies).Defines (definitionsOfMain auto bodies)
  | [], _ => .pure _
  | (name, inner) :: rest, auto => by
    unfold stepsOfMain definitionsOfMain
    split
    · exact steps_defines inner auto
    · exact stepsOfMain_defines rest auto

theorem openBodies_defines : ∀ (bodies : List (String × Node)) (auto : Option String),
    (openBodies auto bodies).Defines (definitionsOfBodies auto bodies)
  | [], _ => .pure _
  | (_, inner) :: rest, auto =>
    (steps_defines inner auto).openBody.bind fun _ =>
      (openBodies_defines rest auto).followedBy fun _ => .pure _

theorem paramExprs_defines : ∀ (params : List (Param Node)) (auto : Option String),
    (paramExprs auto params).Defines (definitionsOfParams auto params)
  | [], _ => .pure _
  | ⟨_, .literal _⟩ :: rest, auto =>
    (paramExprs_defines rest auto).followedBy fun _ => .pure _
  | ⟨_, .identifier _⟩ :: rest, auto =>
    (paramExprs_defines rest auto).followedBy fun _ => .pure _
  | ⟨_, .inline inner⟩ :: rest, auto =>
    (steps_defines inner auto).openBody.bind fun _ =>
      (paramExprs_defines rest auto).followedBy fun _ => .pure _

theorem targetName_defines : ∀ (target : Target Node) (auto : Option String),
    (targetName auto target).Defines (definitionsOfTarget auto target)
  | .name _, _ => .pure _
  | .inline inner, auto => (steps_defines inner auto).openBody.followedBy fun _ => .pure _

end

end Node

theorem rel_find? {First Second : Type} {related : First → Second → Prop} {first : List First}
    {second : List Second} {holds : First → Bool} {holdsAlso : Second → Bool}
    (all : List.Forall₂ related first second)
    (same : ∀ one other, related one other → holds one = holdsAlso other) :
    Option.Rel related (first.find? holds) (second.find? holdsAlso) := by
  induction all with
  | nil => exact .none
  | @cons one other _ _ here _ inductionHypothesis =>
      rw [List.find?_cons, List.find?_cons, same one other here]
      cases holdsAlso other with
      | false => exact inductionHypothesis
      | true => exact .some here

theorem rel_map_right {First Second Third : Type} {related : First → Second → Prop}
    {relatedAlso : First → Third → Prop} {change : Second → Third} {first : Option First}
    {second : Option Second} (rel : Option.Rel related first second)
    (implies : ∀ one other, related one other → relatedAlso one (change other)) :
    Option.Rel relatedAlso first (second.map change) := by
  cases rel with
  | none => exact .none
  | some here => exact .some (implies _ _ here)

namespace Program

/-- A body of a program is what a definition contains, compiled where it is laid out. -/
def Implements (program : Program) (definition : Definition) (body : BodyId) : Prop :=
  program.body body = (definition.contents.steps definition.auto (body + 1)).result

/-- What is laid out from the first number on is found under its own. -/
theorem implements_of_laidOut {program : Program} {definition : Definition}
    {block : String × BodyId} (laidOut : definition.LaidOut 0 program.bodies block) :
    program.Implements definition block.2 := by
  have found := laidOut.body
  rw [Nat.sub_zero] at found
  rw [Implements, body, List.getD_eq_getElem?_getD, found]
  rfl

/-- A program has the definitions of its tree: under each name the one that ends last. -/
theorem ofNode_blocks (name auto : Option String) (node : Node) (block : String) :
    Option.Rel (ofNode name auto node).Implements (node.definition? auto block)
      ((ofNode name auto node).blocks.find? block) := by
  let laid := Compile.openBody (node.steps auto) 0
  have laidOut := (node.steps_defines auto).openBody 0
  have found : Option.Rel (Definition.LaidOut 0 laid.bodies) (node.definition? auto block)
      (laid.blocks.reverse.find? fun entry => entry.1 == block) :=
    rel_find? (List.forall₂_reverse_iff.mpr laidOut) fun definition entry ofEntry => by
      rw [ofEntry.name]
  have kept : (ofNode name auto node).blocks.find? block = _ :=
    Members.find?_ofList laid.blocks block
  rw [kept]
  exact rel_map_right found fun definition entry ofEntry => implements_of_laidOut ofEntry

end Program

end BraceTemplate
