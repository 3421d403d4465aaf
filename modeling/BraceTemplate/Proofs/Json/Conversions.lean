import BraceTemplate.Proofs.Json.ReadBack
import BraceTemplate.Proofs.Render.Holding
import BraceTemplate.Render.Filter

/-!
# Values through their JSON texts

A value that is written as a JSON text and read again comes back without its functions, and a JSON
value that is taken as a value of the data and back is the same. Numbers are whole here, and members
are in order, as data holds them; the text is read as deep as readers follow.
-/

namespace BraceTemplate

namespace Value

mutual

/-- How deep arrays and objects nest. -/
def nesting : Value → Nat
  | array items => nestingOfItems items + 1
  | object members => nestingOfMembers members + 1
  | _ => 0

def nestingOfItems : List Value → Nat
  | [] => 0
  | item :: rest => max (nesting item) (nestingOfItems rest)

def nestingOfMembers : List (String × Value) → Nat
  | [] => 0
  | (_, value) :: rest => max (nesting value) (nestingOfMembers rest)

end

mutual

/-- A value without its functions: among items they give way to null, and among members they are
left out. -/
def withoutFunctions : Value → Value
  | array items => array (itemsWithoutFunctions items)
  | object members => object (membersWithoutFunctions members)
  | function _ => null
  | value => value

def itemsWithoutFunctions : List Value → List Value
  | [] => []
  | item :: rest => withoutFunctions item :: itemsWithoutFunctions rest

def membersWithoutFunctions : List (String × Value) → List (String × Value)
  | [] => []
  | (key, value) :: rest =>
    if value.isFunction then membersWithoutFunctions rest
    else (key, withoutFunctions value) :: membersWithoutFunctions rest

end

/-- Values as data holds them, without doubles: numbers are whole, and members are in order. -/
inductive IsWhole : Value → Prop
  | null : IsWhole null
  | bool (value : Bool) : IsWhole (bool value)
  | number {value : Int} (fits : Number.isWhole value = true) : IsWhole (number (.whole value))
  | string (text : String) : IsWhole (string text)
  | array {items : List Value} (each : ∀ item ∈ items, IsWhole item) : IsWhole (array items)
  | object {members : List (String × Value)} (ascend : Members.Ascend members)
      (each : ∀ entry ∈ members, IsWhole entry.2) : IsWhole (object members)
  | function (called : Function Value) : IsWhole (function called)

theorem itemsToJson_eq_map (items : List Value) : itemsToJson items = items.map toJson := by
  induction items with
  | nil => rfl
  | cons first rest inductionHypothesis => rw [itemsToJson, inductionHypothesis, List.map_cons]

theorem membersToJson_eq_map (members : List (String × Value)) :
    membersToJson members =
      (members.filter fun entry => !entry.2.isFunction).map fun entry =>
        (entry.1, entry.2.toJson) := by
  induction members with
  | nil => rfl
  | cons first rest inductionHypothesis =>
      obtain ⟨key, value⟩ := first
      cases isFunction : value.isFunction <;>
        simp [membersToJson, isFunction, inductionHypothesis]

theorem nesting_le_nestingOfItems {item : Value} {items : List Value} (member : item ∈ items) :
    item.nesting ≤ nestingOfItems items := by
  induction items with
  | nil => cases member
  | cons first rest inductionHypothesis =>
      rw [nestingOfItems]
      rcases List.mem_cons.mp member with rfl | later
      · exact Nat.le_max_left _ _
      · exact Nat.le_trans (inductionHypothesis later) (Nat.le_max_right _ _)

theorem nesting_le_nestingOfMembers {entry : String × Value} {members : List (String × Value)}
    (member : entry ∈ members) : entry.2.nesting ≤ nestingOfMembers members := by
  induction members with
  | nil => cases member
  | cons first rest inductionHypothesis =>
      rw [nestingOfMembers]
      rcases List.mem_cons.mp member with rfl | later
      · exact Nat.le_max_left _ _
      · exact Nat.le_trans (inductionHypothesis later) (Nat.le_max_right _ _)

/-- The JSON value of a value nests no deeper than the value. -/
theorem IsWhole.exact_toJson {value : Value} (whole : value.IsWhole) {depth : Nat}
    (nests : value.nesting ≤ depth) : Json.Exact depth value.toJson := by
  induction whole generalizing depth with
  | null => exact .null
  | bool value => exact .bool value
  | number fits => exact .number fits
  | string text => exact .string text
  | function called => exact .null
  | @array items _ inductionHypothesis =>
      rw [nesting] at nests
      obtain ⟨inner, rfl⟩ : ∃ inner, depth = inner + 1 := ⟨depth - 1, by omega⟩
      rw [toJson, itemsToJson_eq_map]
      refine .array fun json member => ?_
      obtain ⟨item, inside, rfl⟩ := List.mem_map.mp member
      have bounded := nesting_le_nestingOfItems inside
      exact inductionHypothesis item inside (by omega)
  | @object members ascend _ inductionHypothesis =>
      rw [nesting] at nests
      obtain ⟨inner, rfl⟩ : ∃ inner, depth = inner + 1 := ⟨depth - 1, by omega⟩
      rw [toJson, membersToJson_eq_map]
      refine .object ?_ fun json member => ?_
      · exact List.pairwise_map.mpr (List.Pairwise.filter _ ascend)
      · obtain ⟨entry, kept, rfl⟩ := List.mem_map.mp member
        have inside := (List.mem_filter.mp kept).1
        have bounded := nesting_le_nestingOfMembers inside
        exact inductionHypothesis entry inside (by omega)

mutual

theorem ofJson_toJson : ∀ value : Value, ofJson value.toJson = value.withoutFunctions
  | null => rfl
  | bool _ => rfl
  | number _ => rfl
  | string _ => rfl
  | array items => congrArg array (itemsOfJson_itemsToJson items)
  | object members => congrArg object (membersOfJson_membersToJson members)
  | function _ => rfl

theorem itemsOfJson_itemsToJson :
    ∀ items : List Value, itemsOfJson (itemsToJson items) = itemsWithoutFunctions items
  | [] => rfl
  | first :: rest => by
    rw [itemsToJson, itemsOfJson, ofJson_toJson first, itemsOfJson_itemsToJson rest,
      itemsWithoutFunctions]

theorem membersOfJson_membersToJson : ∀ members : List (String × Value),
    membersOfJson (membersToJson members) = membersWithoutFunctions members
  | [] => rfl
  | (key, first) :: rest => by
    rw [membersToJson, membersWithoutFunctions]
    split
    · exact membersOfJson_membersToJson rest
    · rw [membersOfJson, ofJson_toJson first, membersOfJson_membersToJson rest]

end

theorem isFunction_ofJson (json : Json) : (ofJson json).isFunction = false := by
  cases json <;> rfl

mutual

theorem toJson_ofJson : ∀ json : Json, (ofJson json).toJson = json
  | .null => rfl
  | .bool _ => rfl
  | .number _ => rfl
  | .string _ => rfl
  | .array items => congrArg Json.array (itemsToJson_itemsOfJson items)
  | .object members => congrArg Json.object (membersToJson_membersOfJson members)

theorem itemsToJson_itemsOfJson : ∀ items : List Json, itemsToJson (itemsOfJson items) = items
  | [] => rfl
  | first :: rest => by
    rw [itemsOfJson, itemsToJson, toJson_ofJson first, itemsToJson_itemsOfJson rest]

theorem membersToJson_membersOfJson :
    ∀ members : List (String × Json), membersToJson (membersOfJson members) = members
  | [] => rfl
  | (key, first) :: rest => by
    rw [membersOfJson, membersToJson, isFunction_ofJson first, if_neg Bool.false_ne_true,
      toJson_ofJson first, membersToJson_membersOfJson rest]

end

theorem itemsWithoutFunctions_eq_self {items : List Value}
    (each : ∀ item ∈ items, item.withoutFunctions = item) :
    itemsWithoutFunctions items = items := by
  induction items with
  | nil => rfl
  | cons first rest inductionHypothesis =>
      rw [itemsWithoutFunctions, each first List.mem_cons_self,
        inductionHypothesis fun item member => each item (List.mem_cons_of_mem _ member)]

theorem membersWithoutFunctions_eq_self {members : List (String × Value)}
    (each : ∀ entry ∈ members, entry.2.isFunction = false ∧ entry.2.withoutFunctions = entry.2) :
    membersWithoutFunctions members = members := by
  induction members with
  | nil => rfl
  | cons first rest inductionHypothesis =>
      obtain ⟨plain, same⟩ := each first List.mem_cons_self
      rw [membersWithoutFunctions, plain, if_neg Bool.false_ne_true, same,
        inductionHypothesis fun entry member => each entry (List.mem_cons_of_mem _ member)]

theorem isFunction_eq_false_of_holds {value : Value} (none : value.Holds fun _ => False) :
    value.isFunction = false := by
  cases none with
  | function impossible => exact impossible.elim
  | _ => rfl

/-- A value in which no function occurs stays as it is. -/
theorem withoutFunctions_of_holds {value : Value} (none : value.Holds fun _ => False) :
    value.withoutFunctions = value := by
  induction none with
  | null => rfl
  | bool value => rfl
  | number value => rfl
  | string text => rfl
  | array each inductionHypothesis =>
      exact congrArg array (itemsWithoutFunctions_eq_self inductionHypothesis)
  | object each inductionHypothesis =>
      exact congrArg object (membersWithoutFunctions_eq_self fun entry member =>
        ⟨isFunction_eq_false_of_holds (each entry member), inductionHypothesis entry member⟩)
  | function impossible => exact impossible.elim

end Value

namespace Filter

/-- What is written as a JSON text and read again. -/
def throughJson (value : Value) : Value :=
  applyNamed standard "jp" (applyNamed standard "js" value)

/-- The JSON text of a value is read as the value without its functions, and so as the value itself
where it has none: among items functions give way to null, and among members they are left out, at
every depth. JSON values are the same after they have been values of the data. -/
theorem throughJson_eq {value : Value} (whole : value.IsWhole)
    (nests : value.nesting ≤ Json.maxDepth) :
    throughJson value = value.withoutFunctions ∧
      ((value.Holds fun _ => False) → throughJson value = value) ∧
        ∀ json : Json, (Value.ofJson json).toJson = json := by
  have text : throughJson value = ofJsonText (.string value.toJson.compact) := rfl
  have read : throughJson value = value.withoutFunctions := by
    rw [text, ofJsonText, Json.parse?_compact (whole.exact_toJson nests)]
    exact Value.ofJson_toJson value
  exact ⟨read, fun none => read.trans (Value.withoutFunctions_of_holds none),
    Value.toJson_ofJson⟩

def silent : Value :=
  .function (.host 0 ⟨[], .handle⟩)

/-- A text whose first two characters are escaped. -/
def guarded : Value :=
  .string "\"\u0001é"

/-- Members with a function in an array and one in the object itself. -/
def mixed : List (String × Value) :=
  [("a", .array [.number (.whole (-3)), silent, guarded]), ("f", silent)]

/-- Functions of an array and of an object are gone, and what has none comes back. -/
theorem throughJson_eq_mixed :
    throughJson (.object mixed) =
        .object [("a", .array [.number (.whole (-3)), .null, guarded])] ∧
      throughJson (.array [guarded, .null]) = .array [guarded, .null] := by
  have whole : ∀ entry ∈ mixed, entry.2.IsWhole := by
    refine List.forall_mem_cons.mpr ⟨.array ?_, List.forall_mem_singleton.mpr (.function _)⟩
    exact List.forall_mem_cons.mpr ⟨.number (by decide), List.forall_mem_cons.mpr
      ⟨.function _, List.forall_mem_singleton.mpr (.string _)⟩⟩
  have ascend : Members.Ascend mixed :=
    List.pairwise_pair.mpr (by decide)
  have plain : ∀ item ∈ [guarded, .null], item.IsWhole :=
    List.forall_mem_cons.mpr ⟨.string _, List.forall_mem_singleton.mpr .null⟩
  have none : ∀ item ∈ [guarded, .null], item.Holds fun _ => False :=
    List.forall_mem_cons.mpr ⟨.string _, List.forall_mem_singleton.mpr .null⟩
  exact ⟨(throughJson_eq (.object ascend whole) (by decide)).1,
    (throughJson_eq (.array plain) (by decide)).2.1 (.array none)⟩

end Filter

end BraceTemplate
