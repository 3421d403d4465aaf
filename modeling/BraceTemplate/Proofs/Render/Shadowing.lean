import BraceTemplate.Proofs.Output.Taps
import BraceTemplate.Proofs.Output.Unwritten
import BraceTemplate.Proofs.Render.Keeping
import BraceTemplate.Proofs.Render.Telling

/-!
# Resolving a parameter with and without older taps

While a parameter is resolved, everything that is written through the handle at hand, or through one
that stems from it, fills a pot first; what passes older taps afterwards is the empty text. So the
same goes on without the older taps: outlets that have been opened meanwhile are the same, and of
those that were there all but the texts. This is so until one of those comes to a result.
-/

namespace BraceTemplate

namespace Render

open Output

def Continuation.upTo (pot : Nat) : Continuation → Continuation
  | .report label => .report label
  | .capture branch next => .capture (branch.upTo pot) next

def sinkUpTo (pot : Nat) : Sink Continuation Observer → Sink Continuation Observer
  | .collect text result onResult => .collect text result (onResult.map (Continuation.upTo pot))
  | .stream listeners => .stream listeners

def outletUpTo (pot : Nat) (outlet : Outlet Continuation Observer) :
    Outlet Continuation Observer :=
  { outlet with sink := sinkUpTo pot outlet.sink }

/-- The place where a parameter is resolved: the store at the beginning, and the taps of the handle
at hand. -/
structure Resolution where
  base : Store Continuation Observer State
  older : List Tap
  known : ∀ pot, Tap.collect pot ∈ older → pot < base.pots.size

namespace Resolution

/-- The pot that is filled with what is written. -/
def pot (resolution : Resolution) : Nat :=
  resolution.base.pots.size

variable (resolution : Resolution)

/-- What is written through a handle fills the pot first, or goes to an outlet that has been opened
meanwhile. -/
structure Muffles (writer : Writer) : Prop where
  old : writer.outlet < resolution.base.outlets.size →
    ∃ newer, Tap.collect resolution.pot ∉ newer ∧
      writer.taps = newer ++ Tap.collect resolution.pot :: resolution.older
  new : resolution.base.outlets.size ≤ writer.outlet → Tap.collect resolution.pot ∉ writer.taps

def Stems (writer next : Writer) : Prop :=
  next.outlet = writer.outlet ∧
    ∃ newer, Tap.collect resolution.pot ∉ newer ∧ next.taps = newer ++ writer.taps

def MuffledSink (sink : Sink Continuation Observer) : Prop :=
  ∀ text result continuation, sink = .collect text result (some continuation) →
    ∃ branch next, continuation = .capture branch next ∧ resolution.Muffles branch

/-- An outlet, and the same one where the older taps are left out. -/
structure Pairs (id : OutletId) (outlet shadow : Outlet Continuation Observer) : Prop where
  old : id < resolution.base.outlets.size →
    ∃ before, resolution.base.outlets[id]? = some before ∧ shadow.textless = outlet.textless ∧
      before.Extended outlet ∧ (Tap.AreSilent resolution.older → before.Unwritten outlet)
  new : resolution.base.outlets.size ≤ id →
    shadow = outletUpTo resolution.pot outlet ∧ resolution.MuffledSink outlet.sink

/-- A store, and the same one where the older taps are left out. -/
structure Beside (one other : Store Continuation Observer State) : Prop where
  pots : Tap.PotsAgree resolution.base.pots.size one.pots other.pots
  opened : resolution.base.pots.size < one.pots.size
  size : other.outlets.size = one.outlets.size
  grown : resolution.base.outlets.size ≤ one.outlets.size
  pairs : ∀ id outlet shadow, one.outlets[id]? = some outlet → other.outlets[id]? = some shadow →
    resolution.Pairs id outlet shadow
  settled : other.client.settled = one.client.settled
  engine : ∃ requests held,
    other.client.engine = { one.client.engine with requests := requests, held := held }

def HasEnded (store : Store Continuation Observer State) : Prop :=
  ∃ id < resolution.base.outlets.size, ∃ result, store.HasResult id result ∧
    ∀ other, ¬ resolution.base.HasResult id other

def Lasts (store : Store Continuation Observer State) : Prop :=
  ∀ id result, resolution.base.HasResult id result → store.HasResult id result

/-- An action and the same one where the older taps are left out: until an outlet that was there
comes to a result, both yield the same, but for taps, and lead to stores beside one another. -/
structure Shadows {Result : Type} (holds : Prop) (good : Result → Prop) (image : Result → Result)
    (one other : Action Result) : Prop where
  keeps : ∀ id result, Keeps (Store.HasResult id result) one
  goes : holds → ∀ store shadow result later, resolution.Lasts store →
    resolution.Beside store shadow → one store = some (result, later) →
      resolution.HasEnded later ∨ good result ∧ ∃ after,
        other shadow = some (image result, after) ∧ resolution.Beside later after

abbrev Agrees {Result : Type} (holds : Prop) (good : Result → Prop) (one other : Action Result) :
    Prop :=
  resolution.Shadows holds good id one other

variable {resolution}

theorem Stems.refl (writer : Writer) : resolution.Stems writer writer :=
  ⟨rfl, [], List.not_mem_nil, rfl⟩

theorem Stems.atSegment (writer : Writer) (number : Nat) :
    resolution.Stems writer { writer with segment := number } :=
  ⟨rfl, [], List.not_mem_nil, rfl⟩

theorem Stems.trans {writer next last : Writer} (first : resolution.Stems writer next)
    (second : resolution.Stems next last) : resolution.Stems writer last := by
  obtain ⟨sameFirst, newer, absent, taps⟩ := first
  obtain ⟨sameSecond, newest, also, tapsAlso⟩ := second
  refine ⟨sameSecond.trans sameFirst, newest ++ newer, ?_, ?_⟩
  · rw [List.mem_append, not_or]
    exact ⟨also, absent⟩
  · rw [tapsAlso, taps, List.append_assoc]

theorem Muffles.stem {writer next : Writer} (muffles : resolution.Muffles writer)
    (stems : resolution.Stems writer next) : resolution.Muffles next := by
  obtain ⟨same, newest, absent, taps⟩ := stems
  refine ⟨fun old => ?_, fun new => ?_⟩
  · obtain ⟨newer, also, tapsBefore⟩ := muffles.old (same ▸ old)
    refine ⟨newest ++ newer, ?_, ?_⟩
    · rw [List.mem_append, not_or]
      exact ⟨absent, also⟩
    · rw [taps, tapsBefore, List.append_assoc]
  · rw [taps, List.mem_append, not_or]
    exact ⟨absent, muffles.new (same ▸ new)⟩

theorem Muffles.onOutlet {id : OutletId} (new : resolution.base.outlets.size ≤ id) :
    resolution.Muffles (Writer.onOutlet id) :=
  ⟨fun old => absurd old (Nat.not_lt.mpr new), fun _ => List.not_mem_nil⟩

theorem Stems.tap {writer : Writer} {tap : Tap} (other : tap ≠ .collect resolution.pot) :
    resolution.Stems writer (writer.tap tap) :=
  ⟨rfl, [tap], by simpa using Ne.symm other, rfl⟩

/-- The newest tap is taken away again. -/
theorem Stems.untap {writer next : Writer} {tap : Tap} (other : tap ≠ .collect resolution.pot)
    (stems : resolution.Stems (writer.tap tap) next) :
    resolution.Stems writer next.untap ∧
      next.untap.upTo resolution.pot = (next.upTo resolution.pot).untap := by
  obtain ⟨same, newer, absent, taps⟩ := stems
  have whole : next.taps = (newer ++ [tap]) ++ writer.taps := by
    rw [taps, List.append_assoc]
    rfl
  have absentAll : Tap.collect resolution.pot ∉ newer ++ [tap] := by
    rw [List.mem_append, not_or]
    exact ⟨absent, by simpa using Ne.symm other⟩
  cases front : newer ++ [tap] with
  | nil => simp at front
  | cons newest rest =>
      rw [front] at whole absentAll
      have here : newest ≠ .collect resolution.pot := fun isPot => by
        rw [isPot] at absentAll
        exact absentAll List.mem_cons_self
      refine ⟨⟨same, rest, fun member => absentAll (List.mem_cons_of_mem _ member), ?_⟩, ?_⟩
      · rw [Writer.untap, whole]
        rfl
      · have cut : Tap.upTo resolution.pot (newest :: (rest ++ writer.taps)) =
            newest :: Tap.upTo resolution.pot (rest ++ writer.taps) := by
          cases newest with
          | change transform => rfl
          | collect other => exact if_neg fun same : other = resolution.pot => here (same ▸ rfl)
        rw [Writer.untap, Writer.upTo, Writer.upTo, Writer.untap, whole]
        simp only [List.cons_append, List.tail_cons, cut]

section Stores

variable {one other : Store Continuation Observer State} {id : OutletId}
variable {outlet shadow : Outlet Continuation Observer}

theorem Beside.there (beside : resolution.Beside one other)
    (there : one.outlets[id]? = some outlet) :
    ∃ shadow, other.outlets[id]? = some shadow ∧ resolution.Pairs id outlet shadow := by
  have bound : id < other.outlets.size := beside.size ▸ Store.lt_size_of_outlet there
  have also := Array.getElem?_eq_getElem bound
  exact ⟨_, also, beside.pairs id _ _ there also⟩

theorem Beside.nowhere (beside : resolution.Beside one other) (nowhere : one.outlets[id]? = none) :
    other.outlets[id]? = none := by
  rw [Array.getElem?_eq_none_iff] at nowhere ⊢
  rwa [beside.size]

theorem Beside.put (beside : resolution.Beside one other)
    (pairs : resolution.Pairs id outlet shadow) :
    resolution.Beside (one.put id outlet) (other.put id shadow) := by
  refine { beside with
    size := by rw [Store.put_outlets_size, Store.put_outlets_size, beside.size]
    grown := by rw [Store.put_outlets_size]; exact beside.grown
    pairs := fun found first second there also => ?_ }
  by_cases here : id = found
  · subst here
    have bound : id < one.outlets.size := by
      simpa using Store.lt_size_of_outlet there
    rw [Store.put_outlets_self _ _ bound] at there
    rw [Store.put_outlets_self _ _ (beside.size ▸ bound)] at also
    cases there
    cases also
    exact pairs
  · rw [Store.put_outlets_of_ne _ _ here] at there also
    exact beside.pairs found first second there also

/-- Something is done to one of the two outlets only. -/
theorem Beside.putOne (beside : resolution.Beside one other)
    (also : other.outlets[id]? = some shadow) (pairs : resolution.Pairs id outlet shadow) :
    resolution.Beside (one.put id outlet) other := by
  have both := beside.put pairs
  rwa [Store.put_self also] at both

theorem Beside.noting (beside : resolution.Beside one other) (events others : List Event) :
    resolution.Beside (one.noting events) (other.noting others) :=
  { beside with }

theorem Pairs.same (pairs : resolution.Pairs id outlet shadow) :
    shadow.nextNumber = outlet.nextNumber ∧ shadow.flushing = outlet.flushing ∧
      shadow.again = outlet.again := by
  rcases Nat.lt_or_ge id resolution.base.outlets.size with old | new
  · obtain ⟨_, -, alike, -⟩ := pairs.old old
    exact ⟨congrArg (fun outlet => outlet.nextNumber) alike,
      congrArg (fun outlet => outlet.flushing) alike, congrArg (fun outlet => outlet.again) alike⟩
  · rw [(pairs.new new).1]
    exact ⟨rfl, rfl, rfl⟩

theorem Beside.again (beside : resolution.Beside one other) (id : OutletId) :
    other.outlets[id]?.map Outlet.again = one.outlets[id]?.map Outlet.again := by
  cases there : one.outlets[id]? with
  | none => rw [beside.nowhere there]
  | some outlet =>
      obtain ⟨shadow, also, pairs⟩ := beside.there there
      rw [also, Option.map_some, Option.map_some, pairs.same.2.2]

theorem Beside.withPots (beside : resolution.Beside one other) {pots others : Array String}
    (agree : Tap.PotsAgree resolution.base.pots.size pots others)
    (size : pots.size = one.pots.size) :
    resolution.Beside { one with pots := pots } { other with pots := others } :=
  { beside with pots := agree, opened := size ▸ beside.opened }

theorem HasEnded.keep {Result : Type} {run : Action Result}
    (keeps : ∀ id result, Keeps (Store.HasResult id result) run) {result : Result}
    (ended : resolution.HasEnded one) (ran : run one = some (result, other)) :
    resolution.HasEnded other := by
  obtain ⟨id, old, final, has, first⟩ := ended
  exact ⟨id, old, final, keeps id final one result other has ran, first⟩

end Stores

namespace Shadows

variable {Result Next : Type} {holds : Prop} {good : Result → Prop} {image : Result → Result}
variable {first second : Action Result}

theorem pure {result shadow : Result} (isGood : holds → good result)
    (same : holds → shadow = image result) :
    resolution.Shadows holds good image (Pure.pure result) (Pure.pure shadow) := by
  refine ⟨fun _ _ => .pure _, fun held store other found later _ beside ran => .inr ?_⟩
  cases ran
  exact ⟨isGood held, other, by rw [same held]; rfl, beside⟩

theorem outOfSteps : resolution.Shadows holds good image Output.outOfSteps Output.outOfSteps :=
  ⟨fun _ _ => .outOfSteps, fun _ _ _ _ _ _ _ ran => by cases ran⟩

/-- What goes on from the result of an action goes on from the image of the result. -/
theorem bind {goodNext : Next → Prop} {imageNext : Next → Next}
    {next nextAlso : Result → Action Next}
    (shadows : resolution.Shadows holds good image first second)
    (each : ∀ result, resolution.Shadows (holds ∧ good result) goodNext imageNext (next result)
      (nextAlso (image result))) :
    resolution.Shadows holds goodNext imageNext (first >>= next) (second >>= nextAlso) := by
  refine ⟨fun id result => (shadows.keeps id result).bind fun found => (each found).keeps id result,
    fun held store other result later lasts beside ran => ?_⟩
  obtain ⟨found, middle, ranFirst, ranNext⟩ := bind_eq_some.mp ran
  rcases shadows.goes held store other found middle lasts beside ranFirst with
    ended | ⟨isGood, after, ranAlso, besideThen⟩
  · exact .inl (ended.keep (each found).keeps ranNext)
  · have lastsThen : resolution.Lasts middle := fun id result has =>
      shadows.keeps id result _ _ _ (lasts id result has) ranFirst
    rcases (each found).goes ⟨held, isGood⟩ middle after result later lastsThen besideThen ranNext
      with ended | ⟨goodLast, last, ranLast, besideLast⟩
    · exact .inl ended
    · exact .inr ⟨goodLast, last, bind_eq_some.mpr ⟨_, after, ranAlso, ranLast⟩, besideLast⟩

theorem mono {held : Prop} {better : Result → Prop}
    (shadows : resolution.Shadows holds good image first second) (weaker : held → holds)
    (implies : ∀ result, held → good result → better result) :
    resolution.Shadows held better image first second := by
  refine ⟨shadows.keeps, fun isHeld store other result later lasts beside ran => ?_⟩
  exact (shadows.goes (weaker isHeld) store other result later lasts beside ran).imp_right
    fun ⟨isGood, after⟩ => ⟨implies result isHeld isGood, after⟩

/-- Another action may take the place of the one without the older taps. -/
theorem replace {third : Action Result}
    (shadows : resolution.Shadows holds good image first second) (same : holds → third = second) :
    resolution.Shadows holds good image first third := by
  refine ⟨shadows.keeps, fun held => ?_⟩
  rw [same held]
  exact shadows.goes held

theorem discard {good : Result → Prop}
    (shadows : resolution.Shadows holds good image first second) :
    resolution.Agrees holds (fun _ => True) (Functor.discard first)
      (Functor.discard second) := by
  refine ⟨fun id result => (shadows.keeps id result).discard,
    fun held store other result later lasts beside ran => ?_⟩
  rw [run_discard] at ran
  obtain ⟨⟨found, reached⟩, ranFirst, same⟩ := Option.map_eq_some_iff.mp ran
  cases same
  rcases shadows.goes held store other found reached lasts beside ranFirst with
    ended | ⟨-, after, ranAlso, besideThen⟩
  · exact .inl ended
  · exact .inr ⟨trivial, after, by rw [run_discard, ranAlso]; rfl, besideThen⟩

/-- Both engines are the same but for the handles they keep. -/
theorem ofEngine {next nextAlso : Engine → Action Result}
    (each : ∀ engine requests held, resolution.Shadows holds good image (next engine)
      (nextAlso { engine with requests := requests, held := held })) :
    resolution.Shadows holds good image (engine >>= next) (engine >>= nextAlso) := by
  refine ⟨fun id result => keeps_engine.bind fun found => (each found [] []).keeps id result,
    fun isHeld store other result later lasts beside ran => ?_⟩
  obtain ⟨requests, held, same⟩ := beside.engine
  have looked : (engine >>= nextAlso : Action Result) other =
      nextAlso { store.client.engine with requests := requests, held := held } other := by
    rw [← same]
    rfl
  rw [looked]
  exact (each store.client.engine requests held).goes isHeld store other result later lasts beside
    ran

theorem modifyEngine {change changeAlso : Engine → Engine}
    (each : ∀ engine requests held, ∃ requestsThen heldThen,
      changeAlso { engine with requests := requests, held := held } =
        { change engine with requests := requestsThen, held := heldThen }) :
    resolution.Agrees holds (fun _ => True) (Render.modifyEngine change)
      (Render.modifyEngine changeAlso) := by
  refine ⟨fun _ _ => Keeps.modifyClient _, fun _ store other result later _ beside ran => .inr ?_⟩
  cases ran
  refine ⟨trivial, _, rfl, { beside with engine := ?_ }⟩
  obtain ⟨requests, held, same⟩ := beside.engine
  simp only [same]
  exact each _ requests held

theorem isSettled : resolution.Agrees holds (fun _ => True) isSettled Render.isSettled := by
  refine ⟨fun _ _ => keeps_isSettled, fun _ store other result later _ beside ran => .inr ?_⟩
  cases ran
  exact ⟨trivial, other, congrArg (fun settled => some (settled, other)) beside.settled, beside⟩

theorem setSettled (settled : Bool) :
    resolution.Agrees holds (fun _ => True) (setSettled settled)
      (Render.setSettled settled) := by
  refine ⟨fun _ _ => Keeps.modifyClient _, fun _ store other result later _ beside ran => .inr ?_⟩
  cases ran
  exact ⟨trivial, _, rfl, { beside with settled := rfl }⟩

theorem withFreshSelect (shadows : resolution.Shadows holds good image first second) :
    resolution.Shadows holds good image (withFreshSelect first)
      (Render.withFreshSelect second) := by
  refine isSettled.bind fun outer => (setSettled false).bind fun _ => ?_
  refine (shadows.mono (fun held => held.1.1) fun _ _ isGood => isGood).bind fun result => ?_
  exact (setSettled outer).bind fun _ => .pure (fun held => held.1.2) fun _ => rfl

/-- A pot that is opened meanwhile is not the one of the parameter. -/
theorem openPot :
    resolution.Agrees holds (fun pot => resolution.pot < pot) openPot Output.openPot := by
  refine ⟨fun _ _ => .openPot, fun _ store other result later _ beside ran => .inr ?_⟩
  rw [run_openPot] at ran
  cases ran
  refine ⟨beside.opened, { other with pots := other.pots.push "" },
    by rw [run_openPot, beside.pots.size]; rfl, { beside with
    pots := ⟨by simp [beside.pots.size], fun pot beyond => ?_⟩
    opened := by simpa using Nat.lt_succ_of_lt beside.opened }⟩
  simp only [Array.getElem?_push, beside.pots.size, beside.pots.same pot beyond]

theorem potText {pot : Nat} (opened : holds → resolution.pot < pot) :
    resolution.Agrees holds (fun _ => True) (potText pot) (Output.potText pot) := by
  refine ⟨fun _ _ => .potText pot, fun held store other result later _ beside ran => .inr ?_⟩
  rw [run_potText] at ran
  cases ran
  refine ⟨trivial, other, ?_, beside⟩
  rw [run_potText, Array.getD_eq_getD_getElem?, Array.getD_eq_getD_getElem?,
    beside.pots.same pot (Nat.le_of_lt (opened held))]
  rfl

end Shadows

end Resolution

end Render

end BraceTemplate
