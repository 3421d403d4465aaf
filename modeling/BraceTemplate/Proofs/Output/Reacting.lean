import BraceTemplate.Proofs.Output.Fates
import BraceTemplate.Proofs.Output.Keeping
import BraceTemplate.Proofs.Output.Listening
import BraceTemplate.Proofs.Output.Operations
import BraceTemplate.Proofs.Output.Runs

/-!
# Operations of those who are told

Listeners and continuations operate on handles when they are told of something, on any handle that
is kept and whether or not output is just being delivered. All that ever becomes of an outlet is
then a course of changes to segments that are there, and what its sink has been told is what was
told in the course of them.
-/

namespace BraceTemplate.Output

namespace Desk

abbrev Reacting := Desk → List Operation

def answering (reaction : Reacting) (handlers : Handlers Pending Unit Desk) (pending : Pending)
    (result : Except RenderError String) : Work Unit := do
  resume handlers pending result
  match pending with
  | .answer => operateAll handlers (reaction (← client))
  | .capture _ _ _ _ => pure ()

/-- Listeners and continuations that operate, within a bound on how deep this nests. -/
def reactingWithin (reaction : Reacting) : Nat → Handlers Pending Unit Desk
  | 0 => ⟨0, fun _ _ => outOfSteps, fun _ _ => outOfSteps⟩
  | depth + 1 =>
    let inner := reactingWithin reaction depth
    ⟨depth + 1, answering reaction inner, fun listener occasion => do
      hear listener occasion
      operateAll inner (reaction (← client))⟩

/-- Opens an outlet, keeps its first handle under a name, and operates. -/
def runReacting (reaction : Reacting) (depth : Nat) (sink : Sink Pending Unit) (head : String)
    (operations : List Operation) : Work Unit := do
  let id ← openOutlet sink
  keep head (Writer.onOutlet id)
  operateAll (reactingWithin reaction depth) operations

end Desk

def Occasion.gather : String × Option (Except RenderError String) → Occasion →
    String × Option (Except RenderError String)
  | (text, result), .data piece => (text ++ piece, result)
  | (text, _), .finished => ("", some (.ok text))
  | _, .failed error => ("", some (.error error))

def gathered (occasions : List Occasion) : String × Option (Except RenderError String) :=
  occasions.foldl Occasion.gather ("", none)

def toldAll (audience : Channel → Nat) (occasions : List Occasion) : List Occasion :=
  occasions.flatMap fun occasion => List.replicate (audience occasion.channel) occasion

namespace Sink

def owed (audience : Channel → Nat) (occasions : List Occasion) : Sink Pending Unit → List Occasion
  | .collect _ _ _ => occasions
  | .stream _ => toldAll audience occasions

def Knows (audience : Channel → Nat) (heard due told : List Occasion) : Sink Pending Unit → Prop
  | .collect text result _ => ∃ had, told = had ++ due ∧ gathered had = (text, result)
  | .stream _ => toldAll audience told = heard ++ due

/-- Two sinks that differ at most in what they have gathered so far, or in who listens. -/
def Alike : Sink Pending Unit → Sink Pending Unit → Prop
  | .collect _ result onResult, .collect _ other onOther => other = result ∧ onOther = onResult
  | .stream _, .stream _ => True
  | _, _ => False

end Sink

def Pending.writers : Pending → List Writer
  | .answer => []
  | .capture branch _ _ _ => [branch]

def Sink.writers : Sink Pending Unit → List Writer
  | .collect _ _ onResult => (onResult.map Pending.writers).getD []
  | .stream _ => []

/-- The segment of a handle is there. -/
def Store.Holds (store : Store Pending Unit Desk) (writer : Writer) : Prop :=
  ∃ outlet, store.outlets[writer.outlet]? = some outlet ∧ writer.segment < outlet.nextNumber

/-- What an outlet has become, and what its sink has been told, comes of changes to a new outlet. -/
structure Outlet.ComesOf (audience : Channel → Nat) (heard due : List Occasion)
    (changes : List Change) (outlet : Outlet Pending Unit) : Prop where
  within : Change.AllWithin 1 changes
  became : outlet.bare = Outlet.blank.after changes
  knows : outlet.sink.Knows audience heard due (Outlet.blank.told changes)

def Sink.complete? : Sink Pending Unit → Option String
  | .collect _ (some (.ok text)) _ => some text
  | _ => none

def Store.captured? (store : Store Pending Unit Desk) (id : OutletId) : Option String :=
  if id = 0 then none else store.outlets[id]?.bind fun outlet => outlet.sink.complete?

/-- The texts of the captures that have come to one. -/
def Store.captures (store : Store Pending Unit Desk) : List String :=
  (List.range store.outlets.size).filterMap store.captured?

/-- What a pending text is once it is there: it is taken by a capture, if it did not fail. -/
def Pending.takes : Pending → Except RenderError String → List String
  | .capture _ _ _ _, .ok text => [text]
  | _, _ => []

/-- The error that is set on the branch of a capture once it has a result. -/
def Pending.error? : Pending → Except RenderError String → Option RenderError
  | .capture _ _ _ _, .error error => some error
  | .capture _ _ _ (.error error), .ok _ => some error
  | _, _ => none

def Store.Leaves (store : Store Pending Unit Desk) (writer : Writer) : Prop :=
  ∃ outlet, store.outlets[writer.outlet]? = some outlet ∧ outlet.Open writer.segment

/-- A capture: its own outlet, the branch at its place, and what goes on there. -/
structure Watch where
  stub : OutletId
  branch : Writer
  name : String
  following : List Operation
  followed : Except RenderError String

namespace Watch

def pending (watch : Watch) : Pending :=
  .capture watch.branch watch.name watch.following watch.followed

def Awaits (watch : Watch) (store : Store Pending Unit Desk) : Prop :=
  ∃ outlet text, store.outlets[watch.stub]? = some outlet ∧
    outlet.sink = .collect text none (some watch.pending)

def Spares (watch : Watch) (writer : Writer) : Prop :=
  writer.outlet = watch.branch.outlet → writer.segment ≠ watch.branch.segment

end Watch

/-- What is kept about a run. -/
structure Ledger where
  /-- The changes that an outlet has seen before. -/
  past : OutletId → List Change
  /-- The handles in use. -/
  held : List Writer
  /-- Whether an outlet is being delivered. -/
  busy : OutletId → Bool
  /-- Whether something may leave an outlet that has not. -/
  alarm : OutletId → Bool
  /-- Whether the first outlet is a stream. -/
  streams : Bool
  /-- How many listeners there are, and how many of them are attached. -/
  audience : Channel → Nat
  ears : Channel → Nat
  /-- What is due to a sink. -/
  due : OutletId → List Occasion
  /-- Texts that are there and have not been taken. -/
  unheard : List String
  watch : Option Watch
  /-- The result that the capture has yet to act on. -/
  acting : Option (Except RenderError String)

namespace Ledger

def holding (ledger : Ledger) (writers : List Writer) : Ledger :=
  { ledger with held := writers ++ ledger.held }

def entering (ledger : Ledger) (id : OutletId) : Ledger :=
  { ledger with busy := Function.update ledger.busy id true }

def alarming (ledger : Ledger) (id : OutletId) : Ledger :=
  { ledger with alarm := Function.update ledger.alarm id true }

def owing (ledger : Ledger) (id : OutletId) (due : List Occasion) : Ledger :=
  { ledger with due := Function.update ledger.due id due }

def hushing (ledger : Ledger) (channel : Channel) : Ledger :=
  { ledger with ears := Function.update ledger.ears channel 0 }

def handing (ledger : Ledger) (texts : List String) : Ledger :=
  { ledger with unheard := texts ++ ledger.unheard }

def yielding (ledger : Ledger) (id : OutletId) (result : Except RenderError String) : Ledger :=
  { ledger with
    acting := if ledger.watch.map Watch.stub = some id then some result else ledger.acting }

/-- What is known of an outlet. -/
structure Covers (ledger : Ledger) (heard : List Occasion) (id : OutletId)
    (outlet : Outlet Pending Unit) : Prop where
  course : ∃ more, outlet.ComesOf ledger.audience heard (ledger.due id) (ledger.past id ++ more)
  busy : outlet.flushing = ledger.busy id
  settled : ledger.alarm id = true ∨ (outlet.flushing = true ∧ outlet.again = true) ∨ outlet.Settled
  stream : ∀ listeners, outlet.sink = .stream listeners →
    id = 0 ∧ ledger.streams = true ∧ ∀ channel, (listeners.on channel).length = ledger.ears channel
  collect : ∀ text result onResult, outlet.sink = .collect text result onResult →
    ¬ (id = 0 ∧ ledger.streams = true)
  awaited : ∀ text onResult, outlet.sink = .collect text none onResult →
    if id = 0 then onResult = none ∨ onResult = some .answer
    else ∃ branch name following followed, onResult = some (.capture branch name following followed)
  resolved : ∀ text result onResult, outlet.sink = .collect text (some result) onResult →
    outlet.finished = true

def RestsAt (ledger : Ledger) (id : OutletId) : Prop :=
  ledger.busy id = false → ledger.due id = [] ∧ (id = 0 → ledger.ears = ledger.audience)

/-- A handle that is used: its segment is there, and it is not that of a branch whose capture has no
result. -/
structure Lends (ledger : Ledger) (store : Store Pending Unit Desk) (writer : Writer) : Prop where
  holds : store.Holds writer
  spares : ∀ watch ∈ ledger.watch, watch.Awaits store → watch.Spares writer

/-- An error has been set on the branch of a capture; if it is that of the capture's own outlet, the
branch has not left. -/
def Blamed (ledger : Ledger) (pending : Pending) (result : Except RenderError String)
    (store : Store Pending Unit Desk) : Prop :=
  ∀ branch ∈ pending.writers, ∀ error ∈ pending.error? result, ∃ outlet changes,
    store.outlets[branch.outlet]? = some outlet ∧
    outlet.ComesOf ledger.audience store.client.occasions (ledger.due branch.outlet) changes ∧
    .fail branch.segment error ∈ changes ∧
    (result = .error error → branch.segment ∉ outlet.passed)

def Waits (ledger : Ledger) (watch : Watch) (store : Store Pending Unit Desk) : Prop :=
  watch.Awaits store ∧ ledger.acting = none ∧ store.Leaves watch.branch

def Acts (ledger : Ledger) (watch : Watch) (result : Except RenderError String)
    (store : Store Pending Unit Desk) : Prop :=
  (∃ outlet text, store.outlets[watch.stub]? = some outlet ∧
    outlet.sink = .collect text (some result) none) ∧
  (∀ last ∈ ledger.acting, last = result) ∧
  (ledger.acting = none → ledger.Blamed watch.pending result store)

/-- What is known of a capture. -/
structure Watched (ledger : Ledger) (watch : Watch) (store : Store Pending Unit Desk) : Prop where
  apart : watch.branch.outlet ≠ watch.stub
  state : ledger.Waits watch store ∨ ∃ result, ledger.Acts watch result store

/-- All that is known of a store. -/
structure Upright (ledger : Ledger) (store : Store Pending Unit Desk) : Prop where
  covers : ∀ id outlet, store.outlets[id]? = some outlet →
    ledger.Covers store.client.occasions id outlet
  rests : ∀ id, ledger.RestsAt id
  beyond : ∀ id, store.outlets.size ≤ id → ledger.past id = [] ∧ ledger.busy id = false
  handles : ∀ entry ∈ store.client.handles, ledger.Lends store entry.2
  sinks : ∀ (id : OutletId) (outlet : Outlet Pending Unit), store.outlets[id]? = some outlet →
    ∀ writer ∈ outlet.sink.writers, store.Holds writer ∧
      ∀ watch ∈ ledger.watch, id ≠ watch.stub → watch.Awaits store → watch.Spares writer
  held : ∀ writer ∈ ledger.held, ledger.Lends store writer
  taken : (store.client.captured ++ ledger.unheard).Perm store.captures
  watched : ∀ watch ∈ ledger.watch, ledger.Watched watch store

end Ledger

end BraceTemplate.Output
