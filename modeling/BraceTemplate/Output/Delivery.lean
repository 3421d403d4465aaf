import BraceTemplate.Output.Store

/-!
Delivering what can leave an outlet. What listeners and continuations do while a delivery runs may
let more leave; it is delivered by another round of the same delivery, never by a delivery within
it.
-/

namespace BraceTemplate.Output

section Delivery

variable {Continuation Listener Client : Type}

namespace Listeners

def on (listeners : Listeners Listener) : Channel → List Listener
  | .data => listeners.onData
  | .finished => listeners.onEnd
  | .failed => listeners.onError

/-- Replaces the listeners of a channel. -/
def withChannel (listeners : Listeners Listener) (channel : Channel) (held : List Listener) :
    Listeners Listener :=
  match channel with
  | .data => { listeners with onData := held }
  | .finished => { listeners with onEnd := held }
  | .failed => { listeners with onError := held }

end Listeners

def listeners? (id : OutletId) :
    Run Continuation Listener Client (Option (Listeners Listener)) := do
  match ← outlet? id with
  | some outlet =>
    match outlet.sink with
    | .collect _ _ _ => pure none
    | .stream listeners => pure (some listeners)
  | none => pure none

/-- Changes the listeners of a stream. -/
def modifyListeners (id : OutletId) (change : Listeners Listener → Listeners Listener) :
    Run Continuation Listener Client Unit :=
  modifyOutlet id fun outlet =>
    match outlet.sink with
    | .collect _ _ _ => outlet
    | .stream listeners => { outlet with sink := .stream (change listeners) }

/-- Tells every listener there is at this moment, in order. Listeners that are attached meanwhile
come after them and are told of later occasions. -/
def tell (handlers : Handlers Continuation Listener Client) (id : OutletId) (occasion : Occasion) :
    Run Continuation Listener Client Unit := do
  match ← listeners? id with
  | none => pure ()
  | some listeners =>
    let channel := occasion.channel
    modifyListeners id fun current => current.withChannel channel []
    let heard ← (listeners.on channel).mapM fun listener => handlers.hear listener occasion
    modifyListeners id fun current => current.withChannel channel (heard ++ current.on channel)

/-- Notes the result of a collecting outlet and hands it on. -/
def conclude (handlers : Handlers Continuation Listener Client) (id : OutletId)
    (result : Except RenderError String) (onResult : Option Continuation) :
    Run Continuation Listener Client Unit := do
  setSink id (.collect "" (some result) none)
  match onResult with
  | none => pure ()
  | some continuation => handlers.resume continuation result

/-- Passes on what has left an outlet. -/
def deliver (handlers : Handlers Continuation Listener Client) (id : OutletId)
    (pieces : List String) (outcome : Outcome) : Run Continuation Listener Client Unit := do
  match ← outlet? id with
  | none => pure ()
  | some outlet =>
    match outlet.sink with
    | .collect text result onResult =>
      let gathered := text ++ String.join pieces
      match outcome with
      | .pending => setSink id (.collect gathered result onResult)
      | .finished => conclude handlers id (.ok gathered) onResult
      | .failed error => conclude handlers id (.error error) onResult
    | .stream _ =>
      for piece in pieces do
        tell handlers id (.data piece)
      match outcome with
      | .pending => pure ()
      | .finished => tell handlers id .finished
      | .failed error => tell handlers id (.failed error)

/-- Lets leave what can and passes it on; yields whether something changed meanwhile. -/
def flushRound (handlers : Handlers Continuation Listener Client) (id : OutletId) :
    Run Continuation Listener Client Bool := do
  modifyOutlet id fun outlet => { outlet with again := false }
  match ← outlet? id with
  | none => pure false
  | some outlet =>
    let (pieces, outcome, drained) := outlet.drain
    modifyOutlet id fun _ => drained
    deliver handlers id pieces outcome
    match ← outlet? id with
    | none => pure false
    | some later => pure later.again

def flushRounds (handlers : Handlers Continuation Listener Client) (id : OutletId) :
    Nat → Run Continuation Listener Client Unit
  | 0 => outOfSteps
  | rounds + 1 => do
    if ← flushRound handlers id then flushRounds handlers id rounds
    else pure ()

/-- Delivers what can leave. Within a delivery of the same outlet it only asks for another round. -/
def flush (handlers : Handlers Continuation Listener Client) (id : OutletId) :
    Run Continuation Listener Client Unit := do
  match ← outlet? id with
  | none => pure ()
  | some outlet =>
    if outlet.flushing then modifyOutlet id fun outlet => { outlet with again := true }
    else
      modifyOutlet id fun outlet => { outlet with flushing := true }
      flushRounds handlers id handlers.rounds
      modifyOutlet id fun outlet => { outlet with flushing := false }

end Delivery

end BraceTemplate.Output
