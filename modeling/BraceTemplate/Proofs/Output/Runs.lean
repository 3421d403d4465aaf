import BraceTemplate.Output.Writer

/-!
# Equations of runs, and what they ensure

What the basic runs do with a store. A run on one outlet, once that outlet is known, replaces it and
leaves everything else of the store alone. What runs ensure is so afterwards if something is so
before; a run that is out of steps ensures everything.
-/

namespace BraceTemplate.Output

section Equations

variable {Continuation Listener Client Result Next : Type}

theorem run_pure (result : Result) (store : Store Continuation Listener Client) :
    (pure result : Run Continuation Listener Client Result) store = some (result, store) :=
  rfl

theorem run_bind
    (first : Run Continuation Listener Client Result)
    (next : Result → Run Continuation Listener Client Next)
    (store : Store Continuation Listener Client) :
    (first >>= next) store =
      (first store).bind fun found => next found.1 found.2 :=
  rfl

theorem run_discard
    (action : Run Continuation Listener Client Result)
    (store : Store Continuation Listener Client) :
    (discard action) store =
      (action store).map fun found => (PUnit.unit, found.2) := by
  cases equality : action store with
  | none =>
      simp [discard, Functor.discard, Functor.mapConst, StateT.map, equality]
  | some found =>
      simp [discard, Functor.discard, Functor.mapConst, StateT.map, equality]

/-- What goes on after a first run starts from the store where that one ended. -/
theorem bind_eq_some
    {first : Run Continuation Listener Client Result}
    {next : Result → Run Continuation Listener Client Next}
    {store later : Store Continuation Listener Client} {result : Next} :
    (first >>= next) store = some (result, later) ↔
      ∃ found middle,
        first store = some (found, middle) ∧
          next found middle = some (result, later) := by
  rw [run_bind]
  constructor
  · intro equality
    obtain ⟨⟨found, middle⟩, firstEquality, nextEquality⟩ :=
      Option.bind_eq_some_iff.mp equality
    exact ⟨found, middle, firstEquality, nextEquality⟩
  · rintro ⟨found, middle, firstEquality, nextEquality⟩
    simp [firstEquality, nextEquality]

theorem run_client (store : Store Continuation Listener Client) :
    client store = some (store.client, store) :=
  rfl

theorem run_modifyClient (change : Client → Client) (store : Store Continuation Listener Client) :
    modifyClient change store = some ((), { store with client := change store.client }) :=
  rfl

theorem run_openOutlet
    (sink : Sink Continuation Listener) (store : Store Continuation Listener Client) :
    openOutlet sink store =
      some (store.outlets.size,
        { store with outlets := store.outlets.push (Outlet.opened sink) }) :=
  rfl

theorem run_openPot (store : Store Continuation Listener Client) :
    openPot store = some (store.pots.size, { store with pots := store.pots.push "" }) :=
  rfl

theorem run_potText (pot : Nat) (store : Store Continuation Listener Client) :
    potText pot store = some (store.pots.getD pot "", store) :=
  rfl

theorem run_fillPot (pot : Nat) (text : String) (store : Store Continuation Listener Client) :
    fillPot pot text store =
      some ((), { store with pots := store.pots.modify pot (· ++ text) }) :=
  rfl

theorem run_outlet? (id : OutletId) (store : Store Continuation Listener Client) :
    outlet? id store = some (store.outlets[id]?, store) :=
  rfl

end Equations

namespace Store

variable {Continuation Listener Client : Type}

def put (store : Store Continuation Listener Client) (id : OutletId)
    (outlet : Outlet Continuation Listener) : Store Continuation Listener Client :=
  { store with outlets := store.outlets.setIfInBounds id outlet }

variable (store : Store Continuation Listener Client) {id other : OutletId}
variable (outlet later : Outlet Continuation Listener)

@[simp]
theorem put_client : (store.put id outlet).client = store.client :=
  rfl

@[simp]
theorem put_outlets_size : (store.put id outlet).outlets.size = store.outlets.size := by
  simp [put]

@[simp]
theorem put_put : (store.put id outlet).put id later = store.put id later := by
  simp [put]

theorem put_outlets_self (there : id < store.outlets.size) :
    (store.put id outlet).outlets[id]? = some outlet := by
  simp [put, there]

theorem put_outlets_of_ne (different : id ≠ other) :
    (store.put id outlet).outlets[other]? = store.outlets[other]? := by
  simp [put, different]

theorem put_comm (different : id ≠ other) :
    (store.put other later).put id outlet = (store.put id outlet).put other later := by
  simp only [put]
  congr 1
  exact Array.setIfInBounds_comm _ _ (Ne.symm different)

variable {store outlet}

theorem lt_size_of_outlet (there : store.outlets[id]? = some outlet) :
    id < store.outlets.size :=
  (Array.getElem?_eq_some_iff.mp there).1

theorem put_self (there : store.outlets[id]? = some outlet) :
    store.put id outlet = store := by
  obtain ⟨bound, equality⟩ := Array.getElem?_eq_some_iff.mp there
  subst equality
  simp [put, Array.setIfInBounds, bound]

end Store

section OneOutlet

variable {Continuation Listener Client : Type}
variable {store : Store Continuation Listener Client} {id : OutletId}
variable {outlet : Outlet Continuation Listener}

theorem run_modifyOutlet
    (there : store.outlets[id]? = some outlet)
    (change : Outlet Continuation Listener → Outlet Continuation Listener) :
    modifyOutlet id change store = some ((), store.put id (change outlet)) := by
  obtain ⟨bound, equality⟩ := Array.getElem?_eq_some_iff.mp there
  have modified :
      store.outlets.modify id change = store.outlets.setIfInBounds id (change outlet) := by
    apply Array.ext_getElem?
    intro index
    rw [Array.getElem?_modify, Array.getElem?_setIfInBounds]
    by_cases same : id = index
    · subst same
      simp [bound, equality]
    · simp [same]
  change some ((), { store with outlets := store.outlets.modify id change }) = _
  rw [modified]
  rfl

/-- Where there is no outlet, nothing is changed. -/
theorem run_modifyOutlet_none (nowhere : store.outlets[id]? = none)
    (change : Outlet Continuation Listener → Outlet Continuation Listener) :
    modifyOutlet id change store = some ((), store) := by
  have unchanged : store.outlets.modify id change = store.outlets := by
    apply Array.ext_getElem?
    intro index
    rw [Array.getElem?_modify]
    split
    · rename_i same
      subst same
      rw [nowhere]
      rfl
    · rfl
  change some ((), { store with outlets := store.outlets.modify id change }) = _
  rw [unchanged]

theorem run_setSink
    (there : store.outlets[id]? = some outlet) (sink : Sink Continuation Listener) :
    setSink id sink store = some ((), store.put id { outlet with sink := sink }) :=
  run_modifyOutlet there _

end OneOutlet

variable {Continuation Listener Client Result Next : Type}

/-- A run that leads, if anywhere, from stores with a property to a result and a store with another.
-/
def Ensures (before : Store Continuation Listener Client → Prop)
    (run : Run Continuation Listener Client Result)
    (after : Result → Store Continuation Listener Client → Prop) : Prop :=
  ∀ store result later, before store → run store = some (result, later) → after result later

namespace Ensures

variable {before : Store Continuation Listener Client → Prop}
variable {run : Run Continuation Listener Client Result}
variable {after : Result → Store Continuation Listener Client → Prop}
variable {last : Next → Store Continuation Listener Client → Prop}

theorem pure {result : Result} (holds : ∀ store, before store → after result store) :
    Ensures before (Pure.pure result : Run Continuation Listener Client Result) after := by
  intro store found later held equality
  cases equality
  exact holds store held

theorem outOfSteps :
    Ensures before (Output.outOfSteps : Run Continuation Listener Client Result) after := by
  intro store found later held equality
  cases equality

theorem bind {next : Result → Run Continuation Listener Client Next}
    (ofFirst : Ensures before run after)
    (ofNext : ∀ result, Ensures (after result) (next result) last) :
    Ensures before (run >>= next) last := by
  intro store result later held equality
  obtain ⟨found, middle, first, second⟩ := bind_eq_some.mp equality
  exact ofNext found middle result later (ofFirst store found middle held first) second

theorem weaken {stronger : Store Continuation Listener Client → Prop}
    (ensures : Ensures before run after) (implies : ∀ store, stronger store → before store) :
    Ensures stronger run after :=
  fun store result later held => ensures store result later (implies store held)

theorem strengthen {weaker : Result → Store Continuation Listener Client → Prop}
    (ensures : Ensures before run after)
    (implies : ∀ result store, after result store → weaker result store) :
    Ensures before run weaker :=
  fun store result later held ran => implies result later (ensures store result later held ran)

theorem discard {afterwards : Store Continuation Listener Client → Prop}
    (ensures : Ensures before run fun _ => afterwards) :
    Ensures before (Functor.discard run) fun _ => afterwards := by
  intro store result later held equality
  rw [run_discard] at equality
  obtain ⟨⟨found, reached⟩, ran, same⟩ := Option.map_eq_some_iff.mp equality
  cases same
  exact ensures store found reached held ran

/-- A run that looks at an outlet first. -/
theorem outlet? {id : OutletId}
    {next : Option (Outlet Continuation Listener) → Run Continuation Listener Client Next}
    (ofNext : ∀ found, Ensures (fun store => before store ∧ store.outlets[id]? = found)
      (next found) last) :
    Ensures before (Output.outlet? id >>= next) last := by
  intro store result later held equality
  exact ofNext _ store result later ⟨held, rfl⟩ equality

theorem modifyClient {change : Client → Client}
    {afterwards : Store Continuation Listener Client → Prop}
    (holds : ∀ store, before store →
      afterwards { store with client := change store.client }) :
    Ensures before (Output.modifyClient change : Run Continuation Listener Client Unit)
      fun _ => afterwards := by
  intro store result later held equality
  cases equality
  exact holds store held

end Ensures

end BraceTemplate.Output
