import BraceTemplate.Proofs.Program.Laying
import BraceTemplate.Render.Params

/-!
# What the functions of data may be

Rendering makes values of other values: it goes down into objects and arrays, counts, and passes
parameters on. Functions come in holds as texts with tags in them. Where all functions of the data
are allowed ones, and so are those that the tags pass on, only allowed functions are ever called.
-/

namespace BraceTemplate

namespace Value

/-- A value in which only allowed functions occur. -/
inductive Holds (allowed : Function Value → Prop) : Value → Prop
  | null : Holds allowed null
  | bool (value : Bool) : Holds allowed (bool value)
  | number (value : Number) : Holds allowed (number value)
  | string (text : String) : Holds allowed (string text)
  | array {items : List Value} (each : ∀ item ∈ items, Holds allowed item) :
      Holds allowed (array items)
  | object {members : List (String × Value)}
      (each : ∀ entry ∈ members, Holds allowed entry.2) : Holds allowed (object members)
  | function {called : Function Value} (isAllowed : allowed called) :
      Holds allowed (function called)

variable {allowed : Function Value → Prop}

mutual

theorem holds_ofJson : ∀ json : Json, (ofJson json).Holds allowed
  | .null => .null
  | .bool value => .bool value
  | .number value => .number value
  | .string text => .string text
  | .array items => .array (holds_itemsOfJson items)
  | .object members => .object (holds_membersOfJson members)

theorem holds_itemsOfJson :
    ∀ items : List Json, ∀ item ∈ itemsOfJson items, item.Holds allowed
  | [], _, member => absurd member List.not_mem_nil
  | first :: rest, item, member => by
    rcases List.mem_cons.mp member with rfl | later
    · exact holds_ofJson first
    · exact holds_itemsOfJson rest item later

theorem holds_membersOfJson :
    ∀ members : List (String × Json), ∀ entry ∈ membersOfJson members, entry.2.Holds allowed
  | [], _, member => absurd member List.not_mem_nil
  | (_, first) :: rest, entry, member => by
    rcases List.mem_cons.mp member with rfl | later
    · exact holds_ofJson first
    · exact holds_membersOfJson rest entry later

end

theorem holds_ofNat (value : Nat) : (ofNat value).Holds allowed :=
  .number _

theorem holds_ofFloat (value : Float) : (ofFloat value).Holds allowed := by
  unfold ofFloat
  split
  · exact .number _
  · exact .null

theorem Holds.mono {other : Function Value → Prop} {value : Value} (holds : value.Holds allowed)
    (implies : ∀ called, allowed called → other called) : value.Holds other := by
  induction holds with
  | null => exact .null
  | bool value => exact .bool value
  | number value => exact .number value
  | string text => exact .string text
  | array each inductionHypothesis => exact .array inductionHypothesis
  | object each inductionHypothesis => exact .object inductionHypothesis
  | function isAllowed => exact .function (implies _ isAllowed)

theorem Holds.child? {value child : Value} {key : String} (holds : value.Holds allowed)
    (found : value.child? key = some child) : child.Holds allowed := by
  cases holds with
  | object each => exact each _ (Members.mem_of_find? found)
  | array each =>
      unfold Value.child? at found
      simp only at found
      split at found
      · cases found
        exact holds_ofNat _
      · obtain ⟨index, _, here⟩ := Option.bind_eq_some_iff.mp found
        exact each child (List.mem_of_getElem? here)
  | string text =>
      unfold Value.child? at found
      simp only at found
      split at found
      · cases found
        exact holds_ofNat _
      · cases found
  | null => cases found
  | bool value => cases found
  | number value => cases found
  | function isAllowed => cases found

/-- Parameters in which only allowed functions occur. -/
def Params.Holds (allowed : Function Value → Prop) (params : Params) : Prop :=
  ∀ entry ∈ params, entry.2.Holds allowed

theorem Params.Holds.find? {params : Params} {key : String} {value : Value}
    (holds : params.Holds allowed) (found : params.find? key = some value) : value.Holds allowed :=
  holds _ (Members.mem_of_find? found)

end Value

/-- A context in which only allowed functions occur; the programs whose blocks are in scope have a
property. -/
structure Context.Holds (allowed : Function Value → Prop) (ofBlocks : Program → Prop)
    (context : Context) : Prop where
  frames : ∀ frame ∈ context.frames, frame.head.Holds allowed
  globals : context.globals.Holds allowed
  blocks : ∀ program ∈ context.blockChain, ofBlocks program

namespace Context.Holds

variable {allowed : Function Value → Prop} {ofBlocks : Program → Prop}
variable {context : Context} {value : Value}

theorem mono {other : Function Value → Prop} {ofOthers : Program → Prop}
    (holds : context.Holds allowed ofBlocks) (implies : ∀ called, allowed called → other called)
    (inScope : ∀ program, ofBlocks program → ofOthers program) : context.Holds other ofOthers :=
  ⟨fun frame member => (holds.frames frame member).mono implies, holds.globals.mono implies,
    fun program member => inScope program (holds.blocks program member)⟩

theorem pushFrame {frame : Frame} (holds : context.Holds allowed ofBlocks)
    (head : frame.head.Holds allowed) :
    (context.pushFrame frame).Holds allowed ofBlocks := by
  refine ⟨?_, holds.globals, holds.blocks⟩
  intro other member
  rcases List.mem_cons.mp member with rfl | inside
  · exact head
  · exact holds.frames other inside

theorem push (holds : context.Holds allowed ofBlocks) (head : value.Holds allowed) :
    (context.push value).Holds allowed ofBlocks :=
  holds.pushFrame head

theorem pushIndexed {index length : Nat} (holds : context.Holds allowed ofBlocks)
    (head : value.Holds allowed) :
    (context.pushIndexed value index length).Holds allowed ofBlocks :=
  holds.pushFrame head

theorem pushSelect (holds : context.Holds allowed ofBlocks) (key : Value) :
    (context.pushSelect key).Holds allowed ofBlocks :=
  holds.pushFrame .null

theorem ofValue (holds : value.Holds allowed) : (Context.ofValue value).Holds allowed ofBlocks :=
  push ⟨fun _ member => absurd member List.not_mem_nil, .null,
    fun _ member => absurd member List.not_mem_nil⟩ holds

theorem rebase (holds : context.Holds allowed ofBlocks) (head : value.Holds allowed) :
    (context.rebase value).Holds allowed ofBlocks :=
  push ⟨fun _ member => absurd member List.not_mem_nil, holds.globals, holds.blocks⟩ head

theorem named (holds : context.Holds allowed ofBlocks) (name : String) :
    (context.named name).Holds allowed ofBlocks :=
  ⟨holds.frames, holds.globals, holds.blocks⟩

theorem withBlocks {program : Program} (holds : context.Holds allowed ofBlocks)
    (inScope : ofBlocks program) :
    (context.withBlocks program).Holds allowed ofBlocks := by
  refine ⟨holds.frames, holds.globals, ?_⟩
  intro other member
  rcases Context.mem_enterBlocks member with rfl | inside
  · exact inScope
  · exact holds.blocks other inside

theorem forBlock (holds : context.Holds allowed ofBlocks) :
    context.forBlock.Holds allowed ofBlocks :=
  ⟨holds.frames, holds.globals, holds.blocks⟩

theorem forPartial {params : Value.Params} (holds : context.Holds allowed ofBlocks)
    (ofParams : params.Holds allowed) :
    (context.forPartial params).Holds allowed ofBlocks := by
  have base :
      ({ context with
        frames := context.frames.head?.toList.map fun frame => ⟨frame.head, frame.iteration, none⟩
        partialDepth := nextWord context.partialDepth
        level := context.level + 1 } : Context).Holds allowed ofBlocks := by
    refine ⟨?_, holds.globals, holds.blocks⟩
    intro frame member
    obtain ⟨outer, inside, rfl⟩ := List.mem_map.mp member
    exact holds.frames outer (List.mem_of_mem_head? (Option.mem_toList.mp inside))
  unfold Context.forPartial
  simp only
  split
  · exact base
  · exact base.push (.object ofParams)

theorem current? (holds : context.Holds allowed ofBlocks) (found : context.current? = some value) :
    value.Holds allowed := by
  obtain ⟨frame, first, rfl⟩ := Option.map_eq_some_iff.mp found
  exact holds.frames frame (List.mem_of_mem_head? first)

theorem lookup? {key : String} (holds : context.Holds allowed ofBlocks)
    (found : context.lookup? key = some value) :
    value.Holds allowed := by
  unfold Context.lookup? at found
  split at found
  · obtain ⟨index, _, rfl⟩ := Option.map_eq_some_iff.mp found
    exact Value.holds_ofNat index
  · split at found
    · obtain ⟨length, _, rfl⟩ := Option.map_eq_some_iff.mp found
      exact Value.holds_ofNat length
    · split at found
      · rename_i inFrame searched
        cases found
        obtain ⟨frame, member, here⟩ := List.exists_of_findSome?_eq_some searched
        have head := holds.frames frame member
        unfold Context.memberOfFrame? at here
        split at here
        · rename_i members isObject
          rw [isObject] at head
          exact head.child? here
        · rename_i items isArray
          rw [isArray] at head
          exact head.child? here
        · cases here
      · exact holds.globals.child? found

theorem descend? {found : Option Value} {keys : List String}
    (holds : ∀ start, found = some start → start.Holds allowed)
    (reached : Context.descend? found keys = some value) : value.Holds allowed := by
  induction keys generalizing found with
  | nil => exact holds value reached
  | cons key rest inductionHypothesis =>
      refine inductionHypothesis ?_ reached
      intro start below
      obtain ⟨inner, here, child⟩ := Option.bind_eq_some_iff.mp below
      exact (holds inner here).child? child

theorem getPath? {relative : Bool} {keys : List String} (holds : context.Holds allowed ofBlocks)
    (found : context.getPath? relative keys = some value) : value.Holds allowed := by
  unfold Context.getPath? at found
  split at found
  · split at found
    · exact holds.current? found
    · cases found
  · refine descend? ?_ found
    intro start first
    split at first
    · obtain ⟨head, here, child⟩ := Option.bind_eq_some_iff.mp first
      exact (holds.current? here).child? child
    · exact holds.lookup? first

theorem resolve? {identifier : Identifier} (holds : context.Holds allowed ofBlocks)
    (found : context.resolve? identifier = some value) : value.Holds allowed := by
  cases identifier with
  | key name =>
      rw [Context.resolve?] at found
      exact holds.getPath? found
  | path relative segments =>
      rw [Context.resolve?] at found
      split at found
      · cases found
      · exact holds.getPath? found

theorem block? {name : String} {override : BlockRef} (holds : context.Holds allowed ofBlocks)
    (found : context.block? name = some override) : ofBlocks override.program := by
  obtain ⟨program, member, here⟩ := List.exists_of_findSome?_eq_some found
  obtain ⟨body, _, rfl⟩ := Option.map_eq_some_iff.mp here
  exact holds.blocks program member

theorem forBodies {rebased : Option Identifier} (holds : context.Holds allowed ofBlocks) :
    (context.forBodies rebased).Holds allowed ofBlocks := by
  unfold Context.forBodies
  split
  · exact holds
  · rename_i identifier
    refine holds.rebase ?_
    cases found : context.resolve? identifier with
    | none => exact .null
    | some value => exact holds.resolve? found

end Context.Holds

namespace Render

variable {allowed : Function Value → Prop} {ofBlocks : Program → Prop}

theorem holds_literalValue (literal : Literal) : (literalValue literal).Holds allowed := by
  cases literal with
  | string text => exact .string text
  | integer value => exact .number _
  | float value => exact Value.holds_ofFloat value

theorem mem_quoted {exprs : ParamExprs} {key : String} {id : BodyId}
    (member : (key, ParamExpr.body id) ∈ exprs) : id ∈ exprs.quoted := by
  induction exprs with
  | nil => cases member
  | cons first rest inductionHypothesis =>
      obtain ⟨other, expr⟩ := first
      rcases List.mem_cons.mp member with same | later
      · cases same
        exact List.mem_cons_self
      · have inRest := inductionHypothesis later
        cases expr with
        | body opened => exact List.mem_cons_of_mem _ inRest
        | literal value => exact inRest
        | identifier name => exact inRest

/-- The functions among the parameters of a tag are those of the context and the bodies of texts
with tags in them. -/
theorem holds_params {program : Program} {context : Context} {exprs : ParamExprs}
    (holds : context.Holds allowed ofBlocks)
    (ofBodies : ∀ id ∈ exprs.quoted, ∀ stamp, allowed (.inline program id stamp)) :
    (params program context exprs).Holds allowed := by
  have each : ∀ entry ∈ exprs.filterMap fun entry =>
      (paramValue? program context entry.1 entry.2).map fun value => (entry.1, value),
      entry.2.Holds allowed := by
    intro entry member
    obtain ⟨⟨key, expr⟩, inside, evaluated⟩ := List.mem_filterMap.mp member
    obtain ⟨value, found, rfl⟩ := Option.map_eq_some_iff.mp evaluated
    cases expr with
    | literal literal =>
        cases found
        exact holds_literalValue literal
    | identifier name => exact holds.resolve? found
    | body id =>
        cases found
        exact .function (ofBodies id (mem_quoted inside) _)
  exact Members.forall_mem_ofList each

end Render

end BraceTemplate
