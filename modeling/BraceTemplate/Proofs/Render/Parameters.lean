import BraceTemplate.Host.Function
import BraceTemplate.Proofs.Render.Resolving

/-!
# Parameters that are functions

A function that is given as a parameter is called with a handle whose output is gathered. Until an
outlet comes to its result meanwhile, what the call does to the outlets that were there is this:
segments keep their order, only forks add some, and where the taps that the handle had already make
nothing of the empty text, every text stays. The value is that of a call without those taps.
Where a function forks, or such a tap makes something of nothing, the outlet shows it.
-/

namespace BraceTemplate.Render

open Output

variable {depth : Nat} {called : Function Value} {writer : Writer} {context : Context}
variable {store later : Store Continuation Observer State} {result : Value}

/-- The plain value that a call stands for, with the text that was gathered from it. -/
def calledValue (gathered : String) : Except RenderError Returned → Value
  | .ok (.value value) => value
  | .ok (.handle _) => if gathered.isEmpty then .bool false else .string gathered
  | .error _ => .bool false

/-- The value of a call stays without the taps of the handle that it leaves. -/
theorem calledValue_upTo (gathered : String) (pot : Nat) (ended : Except RenderError Returned) :
    calledValue gathered (ended.map (Returned.upTo pot)) = calledValue gathered ended := by
  cases ended with
  | error error => rfl
  | ok returned => cases returned <;> rfl

/-- The store in which a call for a parameter starts: with a pot of its own. -/
def withPot (store : Store Continuation Observer State) : Store Continuation Observer State :=
  { store with pots := store.pots.push "" }

/-- A function is called with one tap more, and what that tap has gathered counts in the end. -/
theorem run_resolveValue (calls : Calls) (called : Function Value) (writer : Writer)
    (context : Context) (store : Store Continuation Observer State) :
    resolveValue calls (.function called) writer context store =
      (calls.call called (writer.tap (.collect store.pots.size)) context Bodies.none []
        (withPot store)).map fun found =>
          (calledValue (found.2.pots.getD store.pots.size "") found.1, found.2) := by
  unfold resolveValue
  simp only [run_bind, run_openPot, Option.bind_some]
  rw [Option.map_eq_bind]
  refine congrArg (Option.bind _) (funext fun ⟨ended, later⟩ => ?_)
  cases ended with
  | error error => rfl
  | ok returned => cases returned <;> rfl

/-- The outlets that were there have kept what they had: their segments in order, with new ones only
where something forked, and their texts where older taps are silent. -/
def KeepsOutput (older : List Tap) (store later : Store Continuation Observer State) : Prop :=
  ∀ (id : OutletId) (before : Outlet Continuation Observer), store.outlets[id]? = some before →
    ∃ outlet, later.outlets[id]? = some outlet ∧ before.Extended outlet ∧
      (Tap.AreSilent older → before.Unwritten outlet)

/-- No outlet that was there has come to a result. -/
def GoesOn (store later : Store Continuation Observer State) : Prop :=
  ∀ id < store.outlets.size, ∀ result, later.HasResult id result → ∃ other, store.HasResult id other

section Resolution

variable {known : ∀ pot, Tap.collect pot ∈ writer.taps → pot < store.pots.size}

def resolutionOf (store : Store Continuation Observer State) (writer : Writer)
    (known : ∀ pot, Tap.collect pot ∈ writer.taps → pot < store.pots.size) : Resolution :=
  ⟨store, writer.taps, known⟩

/-- In the beginning the stores are the same. -/
theorem beside_withPot :
    (resolutionOf store writer known).Beside (withPot store) (withPot store) where
  pots := ⟨rfl, fun _ _ => rfl⟩
  opened := by simp [resolutionOf, withPot]
  size := rfl
  grown := Nat.le_refl _
  pairs := by
    intro id outlet shadow there also
    cases there.symm.trans also
    exact ⟨fun _ => ⟨outlet, there, rfl, outlet.extended_refl, fun _ => outlet.unwritten_refl⟩,
      fun new => absurd (Store.lt_size_of_outlet there) (Nat.not_lt.mpr new)⟩
  settled := rfl
  engine := ⟨_, _, rfl⟩

theorem muffles_tap (here : writer.outlet < store.outlets.size) :
    (resolutionOf store writer known).Muffles (writer.tap (.collect store.pots.size)) :=
  ⟨fun _ => ⟨[], List.not_mem_nil, rfl⟩, fun new => absurd here (Nat.not_lt.mpr new)⟩

theorem keepsOutput_of_beside {shadow : Store Continuation Observer State}
    (beside : (resolutionOf store writer known).Beside later shadow) :
    KeepsOutput writer.taps store later := by
  intro id before there
  have old := Store.lt_size_of_outlet there
  have bound : id < later.outlets.size := Nat.lt_of_lt_of_le old beside.grown
  obtain ⟨_, -, pairs⟩ := beside.there (Array.getElem?_eq_getElem bound)
  obtain ⟨first, same, -, extended, unwritten⟩ := pairs.old old
  cases same.symm.trans there
  exact ⟨_, Array.getElem?_eq_getElem bound, extended, unwritten⟩

end Resolution

/-- A parameter that is a function is resolved beside the output. Unless an outlet that was there
comes to its result meanwhile, all of them keep what they had, and the value is the one that the
function returns, else the text that it writes, else false, when it is called with a handle that has
none of the taps there were. -/
theorem resolveValue_keepsOutput
    (known : ∀ pot, Tap.collect pot ∈ writer.taps → pot < store.pots.size)
    (here : writer.outlet < store.outlets.size)
    (ran : resolveValue (callsWithin depth) (.function called) writer context store =
      some (result, later))
    (goesOn : GoesOn store later) :
    KeepsOutput writer.taps store later ∧
      ∃ ended after, (callsWithin depth).call called
          { writer with taps := [.collect store.pots.size] } context Bodies.none []
          (withPot store) = some (ended, after) ∧
        result = calledValue (after.pots.getD store.pots.size "") ended := by
  rw [run_resolveValue] at ran
  obtain ⟨⟨ended, reached⟩, calling, same⟩ := Option.map_eq_some_iff.mp ran
  cases same
  have shadows := (callsWithin_shadow (resolutionOf store writer known) depth).call True called
    (writer.tap (.collect store.pots.size)) context Bodies.none [] fun _ => muffles_tap here
  have lasts : (resolutionOf store writer known).Lasts (withPot store) := fun _ _ has => has
  rcases shadows.goes trivial _ _ _ _ lasts beside_withPot calling with
    ⟨id, old, final, has, first⟩ | ⟨-, after, callingAlso, beside⟩
  · obtain ⟨other, already⟩ := goesOn id old final has
    exact absurd already (first other)
  · have bare : (writer.tap (.collect store.pots.size)).upTo (resolutionOf store writer known).pot =
        { writer with taps := [.collect store.pots.size] } :=
      congrArg (Writer.mk writer.outlet writer.segment) (if_pos rfl)
    rw [bare] at callingAlso
    refine ⟨keepsOutput_of_beside beside, _, after, callingAlso, ?_⟩
    rw [calledValue_upTo, Array.getD_eq_getD_getElem?, Array.getD_eq_getD_getElem?]
    exact congrArg (fun text? => calledValue (text?.getD "") ended)
      (beside.pots.same store.pots.size (Nat.le_refl _)).symm

/-- One render that has just started. -/
def started : Store Continuation Observer State :=
  ⟨#[.opened (.collect "" none (some (.report "r")))], #[], #[], ⟨.ofConfig .standard, false⟩⟩

/-- The text is taken before an older tap doubles it, and the output stays empty. -/
theorem resolveValue_keepsOutput_doubled :
    ∃ later, resolveValue (callsWithin 2) (.function (.host 0 (.writing "x")))
        ((Writer.onOutlet 0).tap (.change Text.doubled)) .empty started =
          some (.string "x", later) ∧
      GoesOn started later ∧ Tap.AreSilent [.change Text.doubled] ∧
      KeepsOutput [.change Text.doubled] started later := by
  have ran : resolveValue (callsWithin 2) (.function (.host 0 (.writing "x")))
      ((Writer.onOutlet 0).tap (.change Text.doubled)) .empty started =
        some (.string "x", { started with pots := #["x"] }) := rfl
  have goesOn : GoesOn started { started with pots := #["x"] } :=
    fun id _ result has => ⟨result, has⟩
  have known : ∀ pot, Tap.collect pot ∈ [Tap.change Text.doubled] → pot < started.pots.size := by
    simp
  exact ⟨_, ran, goesOn, rfl, (resolveValue_keepsOutput known Nat.zero_lt_one ran goesOn).1⟩

/-- A function that forks leaves segments behind, and where an older tap puts the empty text between
parentheses, these are written. -/
theorem resolveValue_leavesTrace :
    (∃ later, resolveValue (callsWithin 2) (.function (.host 0 (.waiting "s"))) (.onOutlet 0) .empty
        started = some (.bool false, later) ∧
      later.outlets[0]?.map Outlet.numbers = some [0, 1, 2]) ∧
    ∃ later, resolveValue (callsWithin 2) (.function (.host 0 (.writing "x")))
        ((Writer.onOutlet 0).tap (.change Text.parenthesized)) .empty started =
          some (.string "x", later) ∧
      later.outlets[0]?.map (fun outlet => outlet.waiting.map Segment.text) = some ["()"] :=
  ⟨⟨_, rfl, rfl⟩, ⟨_, rfl, rfl⟩⟩

end BraceTemplate.Render
