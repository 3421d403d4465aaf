import BraceTemplate.Output.Outlet

/-!
All outlets together, with what taps have gathered, the events that a user of the library sees, and
the state of whoever writes to the outlets. A run may be out of steps; this is the only way in which
it yields nothing.
-/

namespace BraceTemplate.Output

/-- What a user of the library sees happen. The label is the one under which a render was started,
or a listener attached. -/
inductive Event where
  /-- A collected render is complete. -/
  | done (label text : String)
  | failed (label : String) (error : RenderError)
  | data (label piece : String)
  | ended (label : String)
  | error (label : String) (error : RenderError)
  /-- A piece was passed on to a writer. -/
  | piped (label piece : String)
  | flushed (label : String)
  /-- The writer took no piece. -/
  | refused (label : String)

/-- What a listener is told. -/
inductive Occasion where
  | data (piece : String)
  | finished
  | failed (error : RenderError)

/-- The kinds of occasions. -/
inductive Channel where
  | data
  | finished
  | failed
deriving Repr, DecidableEq

def Occasion.channel : Occasion → Channel
  | data _ => .data
  | finished => .finished
  | failed _ => .failed

abbrev OutletId := Nat

/-- The state of a run. -/
structure Store (Continuation Listener Client : Type) where
  outlets : Array (Outlet Continuation Listener)
  /-- The texts that collecting taps have gathered. -/
  pots : Array String
  events : Array Event
  client : Client

abbrev Run (Continuation Listener Client Result : Type) :=
  StateT (Store Continuation Listener Client) Option Result

/-- How whoever writes to the outlets reacts to them. -/
structure Handlers (Continuation Listener Client : Type) where
  /-- How many rounds a delivery may take. -/
  rounds : Nat
  /-- Takes the result of a collecting outlet. -/
  resume : Continuation → Except RenderError String → Run Continuation Listener Client Unit
  /-- Tells a listener; yields the listener for later occasions. -/
  hear : Listener → Occasion → Run Continuation Listener Client Listener

namespace Store

variable {Continuation Listener Client : Type}

/-- The state before anything is written. -/
def initial (client : Client) : Store Continuation Listener Client :=
  ⟨#[], #[], #[], client⟩

end Store

section Runs

variable {Continuation Listener Client : Type}

def outOfSteps {Result : Type} : Run Continuation Listener Client Result :=
  fun _ => none

def client : Run Continuation Listener Client Client := do
  pure (← get).client

def modifyClient (change : Client → Client) : Run Continuation Listener Client Unit :=
  modify fun store => { store with client := change store.client }

def emit (event : Event) : Run Continuation Listener Client Unit :=
  modify fun store => { store with events := store.events.push event }

/-- Takes the events that were noted since they were last taken. -/
def takeEvents : Run Continuation Listener Client (List Event) := do
  let events := (← get).events
  modify fun store => { store with events := #[] }
  pure events.toList

def openOutlet (sink : Sink Continuation Listener) : Run Continuation Listener Client OutletId := do
  let store ← get
  set { store with outlets := store.outlets.push (Outlet.opened sink) }
  pure store.outlets.size

def modifyOutlet (id : OutletId)
    (change : Outlet Continuation Listener → Outlet Continuation Listener) :
    Run Continuation Listener Client Unit :=
  modify fun store => { store with outlets := store.outlets.modify id change }

def outlet? (id : OutletId) :
    Run Continuation Listener Client (Option (Outlet Continuation Listener)) := do
  pure (← get).outlets[id]?

def setSink (id : OutletId) (sink : Sink Continuation Listener) :
    Run Continuation Listener Client Unit :=
  modifyOutlet id fun outlet => { outlet with sink := sink }

/-- The result of a collecting outlet, where there is one. -/
def result? (id : OutletId) :
    Run Continuation Listener Client (Option (Except RenderError String)) := do
  match ← outlet? id with
  | some outlet =>
    match outlet.sink with
    | .collect _ result _ => pure result
    | .stream _ => pure none
  | none => pure none

/-- A pot for a collecting tap. -/
def openPot : Run Continuation Listener Client Nat := do
  let store ← get
  set { store with pots := store.pots.push "" }
  pure store.pots.size

def potText (pot : Nat) : Run Continuation Listener Client String := do
  pure ((← get).pots.getD pot "")

def fillPot (pot : Nat) (text : String) : Run Continuation Listener Client Unit :=
  modify fun store => { store with pots := store.pots.modify pot (· ++ text) }

end Runs

end BraceTemplate.Output
