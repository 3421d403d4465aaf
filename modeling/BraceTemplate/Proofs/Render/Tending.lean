import BraceTemplate.Proofs.Output.Awaited
import BraceTemplate.Proofs.Output.Runs
import BraceTemplate.Proofs.Render.Holding
import BraceTemplate.Render.Entry

/-!
# Segments are tended

Every segment that is awaited is on some handle that is to end it: one in use, one that host code or
a request for a template keeps, or one that a capture goes on with when it is complete. Writing,
forking, ending, failing and delivering keep it so. Where nothing is in use and nothing kept, all
outlets are finished.
-/

namespace BraceTemplate

/-! ## Host code that goes on from where it has forked

A fork leaves a handle for what comes behind the branch. Host code that forks, or renders, has to
hand that handle on: a function that stands for a value, and a helper that fails, do not.
-/

/-- Whether an action leaves the handle where it is, whatever the bodies of the tag are. -/
def HostAction.stays : HostAction → Bool
  | write _ | writeParams | writeParam _ | writePlace | writeStack | fail _ => true
  | fork _ | forkWriting _ | render _ _ | renderOr _ _ _ | renderTapped _ _ _ | capture _ => false

/-- Whether an action forks, whatever the bodies of the tag are. -/
def HostAction.forks : HostAction → Bool
  | fork _ | forkWriting _ => true
  | _ => false

def HostFunction.forks {Held : Type} (function : HostFunction Held) : Bool :=
  function.actions.any HostAction.forks

/-- A function that hands on the handle it goes on with, or stays at the one it is called with. If
it forks, it is one that is refused while a parameter is gathered. What it returns holds only such
functions. -/
inductive Function.Settles (refuses : HostFunction Value → Bool) : Function Value → Prop
  | inline {program : Program} {id : BodyId} {stamp : Stamp} (quotes : program.Quotes)
      (isPlain : program.IsPlain id) : Settles refuses (.inline program id stamp)
  | host {identity : Nat} {function : HostFunction Value}
      (handle : function.result = .handle ∨ ∀ action ∈ function.actions, action.stays = true)
      (refused : function.forks = true → refuses function = true)
      (returned : ∀ value, function.result = .value value → value.Holds (Settles refuses)) :
      Settles refuses (.host identity function)

/-- A helper that does not fail, or stays at the handle it is called with. -/
def HostHelper.Settles (helper : HostHelper) : Prop :=
  helper.error = none ∨ ∀ action ∈ helper.actions, action.stays = true

def Helper.Settles : Helper → Prop
  | .builtin _ => True
  | .host helper => helper.Settles

section Refusing

variable (refuses : HostFunction Value → Bool)

abbrev Value.Settles (value : Value) : Prop :=
  value.Holds (Function.Settles refuses)

abbrev Value.Params.Settle (params : Value.Params) : Prop :=
  params.Holds (Function.Settles refuses)

abbrev Context.Settles (context : Context) : Prop :=
  context.Holds (Function.Settles refuses) Program.Quotes

def Task.Settles : Task → Prop
  | .named _ _ context => context.Settles refuses
  | .program template _ context => template.Quotes ∧ context.Settles refuses

/-- An engine whose helpers hand on the handles they go on with. -/
structure Engine.Settles (engine : Engine) : Prop where
  registry : ∀ entry ∈ engine.registry, entry.2.Quotes
  helpers : ∀ entry ∈ engine.helpers, entry.2.Settles
  requests : ∀ request ∈ engine.requests, request.context.Settles refuses
  queue : ∀ task ∈ engine.queue, task.Settles refuses

def Render.Capture.Settles : Render.Capture → Prop
  | .include context => context.Settles refuses
  | .shout => True

end Refusing

/-- The handle that a render is to be written through. -/
def Task.writer : Task → Output.Writer
  | named _ writer _ => writer
  | program _ writer _ => writer

/-- The handles that wait with an engine. -/
def Engine.keeps (engine : Engine) : List Output.Writer :=
  engine.held.map Prod.snd ++ engine.requests.map Request.branch ++ engine.queue.map Task.writer

namespace Output

def Writer.stand (writer : Writer) : OutletId × Nat :=
  (writer.outlet, writer.segment)

def Outlet.continuation? {Continuation Listener : Type} (outlet : Outlet Continuation Listener) :
    Option Continuation :=
  match outlet.sink with
  | .collect _ _ onResult => onResult
  | .stream _ => none

/-- Whether an event is the report of a render. -/
def Event.reports (label : String) : Event → Bool
  | done other _ => other == label
  | failed other _ => other == label
  | _ => false

end Output

namespace Render

open Output

/-- How often a render under a label has been reported. -/
def reports (label : String) (store : Store Continuation Observer State) : Nat :=
  store.events.toList.countP (Event.reports label)

def willReport (label : String) (outlet : Outlet Continuation Observer) : Bool :=
  match outlet.continuation? with
  | some (.report other) => other == label
  | _ => false

def unreported (label : String) (store : Store Continuation Observer State) : Nat :=
  store.outlets.toList.countP (willReport label)

/-- Who works on outlets at some moment, and how many reports there are to be in the end. -/
structure Scene where
  /-- The outlets that are being delivered, the innermost delivery first. -/
  delivering : List OutletId
  inUse : List Writer
  due : String → Nat

namespace Scene

def use (scene : Scene) (writer : Writer) : Scene :=
  { scene with inUse := writer :: scene.inUse }

def deliver (scene : Scene) (id : OutletId) : Scene :=
  { scene with delivering := id :: scene.delivering }

def owe (scene : Scene) (label : String) : Scene :=
  { scene with due := fun other => scene.due other + if label == other then 1 else 0 }

end Scene

def stands (inUse : List Writer) (store : Store Continuation Observer State) :
    List (OutletId × Nat) :=
  (inUse ++ store.client.engine.keeps).map Writer.stand

/-- Some handle is to end a segment. -/
inductive Tended (inUse : List Writer) (store : Store Continuation Observer State)
    (stand : OutletId × Nat) : Prop
  | kept (member : stand ∈ stands inUse store)
  | capture {id : OutletId} {outlet : Outlet Continuation Observer} {branch : Writer}
      {next : Capture} (there : store.outlets[id]? = some outlet)
      (handsOn : outlet.continuation? = some (.capture branch next)) (same : branch.stand = stand)

/-- An outlet that gathers a text to its end and then hands it on. Unless something was changed that
is not delivered yet, it halts, or will be looked at again by a delivery. -/
structure Orderly (refuses : HostFunction Value → Bool) (scene : Scene) (changed : Prop)
    (id : OutletId) (outlet : Outlet Continuation Observer) : Prop where
  flushing : outlet.flushing = true ↔ id ∈ scene.delivering
  numbered : Segment.Numbered outlet.waiting outlet.nextNumber
  finished : outlet.finished = true → outlet.continuation? = none
  gathers : outlet.finished = false → ∃ text onResult, outlet.sink = .collect text none onResult
  halting : outlet.finished = false → ¬changed →
    Segment.Halting outlet.waiting ∨ (id ∈ scene.delivering ∧ outlet.again = true)
  captures : ∀ branch next, outlet.continuation? = some (.capture branch next) →
    branch.outlet < id ∧ next.Settles refuses

/-- A store in which every awaited segment is tended. Something may have been changed at outlets
that is not delivered yet. -/
structure SoundBut (refuses : HostFunction Value → Bool) (changed : OutletId → Prop) (scene : Scene)
    (store : Store Continuation Observer State) : Prop where
  delivering : ∀ id ∈ scene.delivering, id < store.outlets.size
  outlets : ∀ id outlet, store.outlets[id]? = some outlet →
    Orderly refuses scene (changed id) id outlet
  tended : ∀ id outlet, store.outlets[id]? = some outlet → outlet.finished = false →
    ∀ number, Segment.Awaits outlet.waiting number → Tended scene.inUse store (id, number)
  placed : ∀ stand ∈ stands scene.inUse store, stand.1 < store.outlets.size
  engine : store.client.engine.Settles refuses
  due : ∀ label, reports label store + unreported label store = scene.due label

/-- A store in which every awaited segment is tended, and everything is delivered. -/
abbrev Sound (refuses : HostFunction Value → Bool) (scene : Scene)
    (store : Store Continuation Observer State) : Prop :=
  SoundBut refuses (fun _ => False) scene store

section Tending

variable {refuses : HostFunction Value → Bool} {scene : Scene}
variable {store : Store Continuation Observer State}
variable {changed changedLater : OutletId → Prop} {id other : OutletId} {writer : Writer}
variable {outlet later : Outlet Continuation Observer} {stand : OutletId × Nat}
variable {inUse : List Writer}

namespace Tended

/-- A handle tends no other segment than its own. -/
theorem drop (tended : Tended (writer :: inUse) store stand) (different : stand ≠ writer.stand) :
    Tended inUse store stand := by
  cases tended with
  | kept member =>
      rcases List.mem_cons.mp member with same | still
      · exact absurd same different
      · exact .kept still
  | capture there handsOn same => exact .capture there handsOn same

theorem use (tended : Tended inUse store stand) (writer : Writer) :
    Tended (writer :: inUse) store stand := by
  cases tended with
  | kept member => exact .kept (List.mem_cons_of_mem _ member)
  | capture there handsOn same => exact .capture there handsOn same

/-- Of an outlet it only matters what it hands on to. -/
theorem put (tended : Tended inUse store stand) (there : store.outlets[id]? = some outlet)
    (handsOn : ∀ branch next, outlet.continuation? = some (.capture branch next) →
      branch.stand = stand →
        later.continuation? = some (.capture branch next) ∨ stand ∈ stands inUse store) :
    Tended inUse (store.put id later) stand := by
  cases tended with
  | kept member => exact .kept member
  | @capture other found branch next thereOther ofOther same =>
      by_cases here : id = other
      · subst here
        obtain rfl : outlet = found := Option.some.inj (there.symm.trans thereOther)
        rcases handsOn branch next ofOther same with still | kept
        · exact .capture (Store.put_outlets_self _ _ (Store.lt_size_of_outlet there)) still same
        · exact .kept kept
      · exact .capture ((Store.put_outlets_of_ne _ _ here).trans thereOther) ofOther same

end Tended

theorem unreported_put (there : store.outlets[id]? = some outlet)
    (later : Outlet Continuation Observer) (label : String) :
    unreported label (store.put id later) + (if willReport label outlet then 1 else 0) =
      unreported label store + (if willReport label later then 1 else 0) := by
  obtain ⟨bound, equality⟩ := Array.getElem?_eq_some_iff.mp there
  have inList : id < store.outlets.toList.length := by simpa using bound
  have here : store.outlets.toList[id] = outlet := by simpa using equality
  have counted : willReport label outlet = true →
      0 < store.outlets.toList.countP (willReport label) :=
    fun reporting => List.countP_pos_iff.mpr ⟨outlet, here ▸ List.getElem_mem inList, reporting⟩
  unfold unreported Store.put
  rw [Array.toList_setIfInBounds, List.countP_set inList, here]
  cases reporting : willReport label outlet with
  | false => simp
  | true =>
      have some := counted reporting
      simp only [if_true]
      omega

/-- An outlet is replaced by another one. -/
theorem SoundBut.replace {sceneLater : Scene} (sound : SoundBut refuses changed scene store)
    (there : store.outlets[id]? = some outlet)
    (orderly : Orderly refuses sceneLater (changedLater id) id later)
    (others : ∀ other found, other ≠ id → Orderly refuses scene (changed other) other found →
      Orderly refuses sceneLater (changedLater other) other found)
    (elsewhere : ∀ stand, stand.1 ≠ id → Tended scene.inUse store stand →
      Tended sceneLater.inUse (store.put id later) stand)
    (tended : later.finished = false → ∀ number, Segment.Awaits later.waiting number →
      Tended sceneLater.inUse (store.put id later) (id, number))
    (placed : ∀ stand ∈ stands sceneLater.inUse store, stand.1 < store.outlets.size)
    (delivering : ∀ other ∈ sceneLater.delivering, other ∈ scene.delivering ∨ other = id)
    (due : ∀ label, reports label store + unreported label (store.put id later) =
      sceneLater.due label) :
    SoundBut refuses changedLater sceneLater (store.put id later) := by
  have bound := Store.lt_size_of_outlet there
  refine ⟨fun other member => ?_, fun other found thereOther => ?_,
    fun other found thereOther unfinished number awaits => ?_, ?_, sound.engine, due⟩
  · rw [Store.put_outlets_size]
    rcases delivering other member with still | rfl
    · exact sound.delivering other still
    · exact bound
  · by_cases here : id = other
    · subst here
      rw [Store.put_outlets_self _ _ bound] at thereOther
      cases thereOther
      exact orderly
    · rw [Store.put_outlets_of_ne _ _ here] at thereOther
      exact others other found (Ne.symm here) (sound.outlets other found thereOther)
  · by_cases here : id = other
    · subst here
      rw [Store.put_outlets_self _ _ bound] at thereOther
      cases thereOther
      exact tended unfinished number awaits
    · rw [Store.put_outlets_of_ne _ _ here] at thereOther
      exact elsewhere _ (Ne.symm here)
        (sound.tended other found thereOther unfinished number awaits)
  · rw [Store.put_outlets_size]
    exact placed

/-- An outlet is replaced by one that hands its result on to the same, and other handles are in use
from then on. -/
theorem SoundBut.put {more : List Writer} (sound : SoundBut refuses changed scene store)
    (there : store.outlets[id]? = some outlet)
    (handsOn : later.continuation? = outlet.continuation?)
    (orderly : Orderly refuses scene (changedLater id) id later)
    (excused : ∀ other, other ≠ id → ¬changedLater other → ¬changed other)
    (elsewhere : ∀ stand, stand.1 ≠ id → Tended scene.inUse store stand → Tended more store stand)
    (tended : later.finished = false → ∀ number, Segment.Awaits later.waiting number →
      Tended more store (id, number))
    (placed : ∀ stand ∈ stands more store, stand.1 < store.outlets.size) :
    SoundBut refuses changedLater { scene with inUse := more } (store.put id later) := by
  have putTended : ∀ stand, Tended more store stand → Tended more (store.put id later) stand :=
    fun stand tended => tended.put there fun branch next same _ => .inl (handsOn.trans same)
  refine sound.replace there { orderly with } (fun other found different before => ?_)
    (fun stand different before => putTended stand (elsewhere stand different before))
    (fun unfinished number awaits => putTended _ (tended unfinished number awaits)) placed
    (fun other member => .inl member) fun label => ?_
  · exact { before with
      halting := fun unfinished unchanged =>
        before.halting unfinished (excused other different unchanged) }
  · have sums := unreported_put there later label
    have same : willReport label later = willReport label outlet := by
      rw [willReport, willReport, handsOn]
    rw [same] at sums
    have before := sound.due label
    simp only
    omega

/-- Handles change hands: the segments that they are on stay the same. -/
theorem SoundBut.pass {next : Store Continuation Observer State} {more : List Writer}
    (sound : SoundBut refuses changed scene store) (outlets : next.outlets = store.outlets)
    (events : next.events = store.events) (engine : next.client.engine.Settles refuses)
    (same : ∀ stand, stand ∈ stands more next ↔ stand ∈ stands scene.inUse store) :
    SoundBut refuses changed { scene with inUse := more } next := by
  refine ⟨outlets ▸ sound.delivering, fun id outlet there => ?_,
    fun id outlet there unfinished number awaits => ?_, fun stand member => ?_, engine,
    fun label => ?_⟩
  · rw [outlets] at there
    exact { sound.outlets id outlet there with }
  · rw [outlets] at there
    cases sound.tended id outlet there unfinished number awaits with
    | kept member => exact .kept ((same _).mpr member)
    | capture thereAlso handsOn sameStand =>
        exact .capture (outlets ▸ thereAlso) handsOn sameStand
  · rw [outlets]
    exact sound.placed stand ((same stand).mp member)
  · have before := sound.due label
    rw [reports, unreported] at before ⊢
    rw [outlets, events]
    exact before

/-- Handles are handed to the engine, or taken from it. -/
theorem SoundBut.exchange {engine : Engine} {more : List Writer}
    (sound : SoundBut refuses changed scene store) (settles : engine.Settles refuses)
    (same : ∀ writer, writer ∈ more ++ engine.keeps ↔
      writer ∈ scene.inUse ++ store.client.engine.keeps) :
    SoundBut refuses changed { scene with inUse := more }
      { store with client := { store.client with engine := engine } } := by
  refine sound.pass rfl rfl settles fun stand => ?_
  simp only [stands, List.mem_map, same]

/-- A handle onto an outlet that is there may always be in use. -/
theorem SoundBut.use (sound : SoundBut refuses changed scene store)
    (placed : writer.outlet < store.outlets.size) :
    SoundBut refuses changed (scene.use writer) store := by
  refine ⟨sound.delivering, fun id outlet there => { sound.outlets id outlet there with },
    fun id outlet there unfinished number awaits =>
      (sound.tended id outlet there unfinished number awaits).use writer, fun stand member => ?_,
    sound.engine, sound.due⟩
  rcases List.mem_cons.mp member with rfl | still
  · exact placed
  · exact sound.placed stand still

theorem SoundBut.exists_outlet (sound : SoundBut refuses changed (scene.use writer) store) :
    ∃ outlet, store.outlets[writer.outlet]? = some outlet :=
  ⟨_, Array.getElem?_eq_getElem (sound.placed writer.stand List.mem_cons_self)⟩

/-- Changes of a segment by which it is neither ended nor failed, and does not cease to be so. -/
theorem SoundBut.changeSegment (sound : SoundBut refuses changed scene store)
    (there : store.outlets[id]? = some outlet) {number : Nat} {change : Segment → Segment}
    (sameNumber : ∀ segment, (change segment).number = segment.number)
    (same : ∀ segment, (change segment).ended = segment.ended ∧
      (change segment).error = segment.error) :
    SoundBut refuses changed scene (store.put id (outlet.change number change)) := by
  have orderly := sound.outlets id outlet there
  refine sound.put there rfl { orderly with
    numbered := orderly.numbered.of_numbers (Segment.numbers_changeSegment sameNumber)
    halting := fun unfinished unchanged =>
      (orderly.halting unfinished unchanged).imp_left (Segment.Halting.changeSegment same) }
    (fun _ _ unchanged => unchanged) (fun _ _ tended => tended) (fun unfinished number awaits => ?_)
    sound.placed
  exact sound.tended id outlet there unfinished number
    ((Segment.awaits_changeSegment_iff sameNumber same).mp awaits)

theorem write_sound (writer : Writer) (text : String) :
    Ensures (Sound refuses (scene.use writer))
      (writer.write text : Action Writer)
      fun next store => next = writer ∧ Sound refuses (scene.use writer) store := by
  intro store next last sound ran
  obtain ⟨pots, passed⟩ := Writer.passTaps_eq writer.taps text store
  have filled : Sound refuses (scene.use writer) { store with pots } :=
    sound.pass rfl rfl sound.engine fun _ => Iff.rfl
  rw [Writer.write, run_bind, passed, Option.bind_some] at ran
  simp only at ran
  split at ran
  · cases ran
    exact ⟨rfl, filled⟩
  · obtain ⟨outlet, there⟩ := filled.exists_outlet
    rw [run_bind, run_modifyOutlet there] at ran
    cases ran
    exact ⟨rfl, filled.changeSegment there (fun _ => rfl) fun _ => ⟨rfl, rfl⟩⟩

/-- After a fork two handles are in use for one. -/
theorem fork_sound (writer : Writer) :
    Ensures (Sound refuses (scene.use writer)) (writer.fork : Action (Writer × Writer))
      fun forked store => Sound refuses ((scene.use forked.2).use forked.1) store := by
  intro store forked last sound ran
  obtain ⟨outlet, there⟩ := sound.exists_outlet
  have bound := Store.lt_size_of_outlet there
  have orderly := sound.outlets _ outlet there
  simp only [Writer.fork, run_bind, run_outlet?, there, Option.bind_some, run_modifyOutlet there]
    at ran
  cases ran
  refine sound.put there rfl { orderly with
    numbered := orderly.numbered.insertBehind _
    halting := fun unfinished unchanged =>
      (orderly.halting unfinished unchanged).imp_left fun halting => halting.insertBehind .. }
    (fun _ _ unchanged => unchanged)
    (fun stand elsewhere tended =>
      ((tended.drop fun same => elsewhere (congrArg Prod.fst same)).use _).use _)
    (fun unfinished number awaits => ?_) ?_
  · rcases awaits.of_insertBehind orderly.numbered with rfl | rfl | ⟨different, before⟩
    · exact .kept List.mem_cons_self
    · exact .kept (List.mem_cons_of_mem _ List.mem_cons_self)
    · refine (((sound.tended _ outlet there unfinished number before).drop ?_).use _).use _
      exact fun same => different (congrArg Prod.snd same)
  · intro stand member
    rcases List.mem_cons.mp member with rfl | member
    · exact bound
    · rcases List.mem_cons.mp member with rfl | member
      · exact bound
      · exact sound.placed stand (List.mem_cons_of_mem _ member)

end Tending

end Render

end BraceTemplate
