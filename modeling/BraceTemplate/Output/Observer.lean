import BraceTemplate.Output.Delivery

/-!
Observers of a stream: one that notes every occasion, and one that passes pieces on to a writer.
What an observer notes depends on the occasion alone.
-/

namespace BraceTemplate.Output

/-- What watches a stream. -/
inductive Observer where
  /-- Notes every occasion under a label. -/
  | record (label : String)
  /-- Passes pieces on to a writer, which may take none, and flushes it in the end. -/
  | pipe (label : String) (refuses : Bool)
deriving Repr, DecidableEq

namespace Observer

/-- What an observer notes on an occasion. -/
def notes : Observer → Occasion → List Event
  | record label, .data piece => [.data label piece]
  | record label, .finished => [.ended label]
  | record label, .failed error => [.error label error]
  | pipe label refuses, .data piece => [if refuses then .refused label else .piped label piece]
  | pipe label _, .finished => [.flushed label]
  | pipe _ _, .failed _ => []

section Watching

variable {Continuation Listener Client : Type}

def watch (observer : Observer) (occasion : Occasion) : Run Continuation Listener Client Unit :=
  (observer.notes occasion).forM emit

end Watching

end Observer

section Attaching

variable {Continuation Listener Client : Type}

/-- Attaches a listener to one channel of a stream. -/
def attachTo (id : OutletId) (channel : Channel) (listener : Listener) :
    Run Continuation Listener Client Unit :=
  modifyListeners id fun listeners =>
    listeners.withChannel channel (listeners.on channel ++ [listener])

/-- Attaches a listener to the channels that its observer notes something on: all for a record,
pieces and the end for a pipe. -/
def attach (id : OutletId) (observer : Observer) (listener : Listener) :
    Run Continuation Listener Client Unit :=
  match observer with
  | .record _ => [Channel.data, .finished, .failed].forM fun channel => attachTo id channel listener
  | .pipe _ _ => [Channel.data, .finished].forM fun channel => attachTo id channel listener

end Attaching

end BraceTemplate.Output
