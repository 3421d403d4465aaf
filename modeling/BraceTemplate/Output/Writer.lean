import BraceTemplate.Output.Delivery

/-!
Handles onto the segments of an outlet. A handle stays usable whatever was done with it; what is
written to a segment that has left, or behind an error, is never seen.
-/

namespace BraceTemplate.Output

/-- Something that everything written through a handle passes. -/
inductive Tap where
  | change (transform : String → String)
  /-- Keeps what is written, and passes on nothing. -/
  | collect (pot : Nat)

/-- A handle onto a segment. -/
structure Writer where
  outlet : OutletId
  segment : Nat
  /-- The newest tap comes first. -/
  taps : List Tap

namespace Writer

section Handles

variable {Continuation Listener Client : Type}

/-- A handle onto the first segment of an outlet. -/
def onOutlet (id : OutletId) : Writer := ⟨id, 0, []⟩

/-- Adds a tap in front of the others. -/
def tap (writer : Writer) (tap : Tap) : Writer :=
  { writer with taps := tap :: writer.taps }

def untap (writer : Writer) : Writer :=
  { writer with taps := writer.taps.tail }

/-- What becomes of a text that passes taps, the newest first. -/
def passTaps : List Tap → String → Run Continuation Listener Client String
  | [], text => pure text
  | .change transform :: older, text => passTaps older (transform text)
  | .collect pot :: older, text => do
    fillPot pot text
    passTaps older ""

/-- Writes at the end of the segment. -/
def write (writer : Writer) (text : String) : Run Continuation Listener Client Writer := do
  let passed ← passTaps writer.taps text
  if passed.isEmpty then pure ()
  else
    modifyOutlet writer.outlet fun outlet =>
      outlet.change writer.segment fun segment => { segment with text := segment.text ++ passed }
  pure writer

/-- Ends the segment and delivers what can leave. -/
def finish (handlers : Handlers Continuation Listener Client) (writer : Writer) :
    Run Continuation Listener Client Unit := do
  modifyOutlet writer.outlet fun outlet =>
    outlet.change writer.segment fun segment => { segment with ended := true }
  flush handlers writer.outlet

/-- Writes and then ends the segment. -/
def finishWith (handlers : Handlers Continuation Listener Client) (writer : Writer)
    (text : String) : Run Continuation Listener Client Unit := do
  let writer ← writer.write text
  writer.finish handlers

/-- Fails the render at the segment: what stands before it still leaves, nothing behind it does. -/
def fail (handlers : Handlers Continuation Listener Client) (writer : Writer)
    (error : RenderError) : Run Continuation Listener Client Writer := do
  modifyOutlet writer.outlet fun outlet =>
    outlet.change writer.segment fun segment => { segment with error := some error }
  flush handlers writer.outlet
  pure writer

/-- Forks: a handle onto a branch at this place, and one for what comes behind the branch. -/
def fork (writer : Writer) : Run Continuation Listener Client (Writer × Writer) := do
  match ← outlet? writer.outlet with
  | none => pure (writer, writer)
  | some outlet =>
    modifyOutlet writer.outlet fun outlet => outlet.fork writer.segment
    let branch := outlet.nextNumber
    pure ({ writer with segment := branch }, { writer with segment := branch + 1 })

/-- Writes into an outlet of its own and, when that is complete, goes on with its text on a branch
at this place. -/
def capture (handlers : Handlers Continuation Listener Client) (writer : Writer)
    (render : Writer → Run Continuation Listener Client (Except RenderError Writer))
    (onResult : Writer → Continuation) : Run Continuation Listener Client Writer := do
  let (branch, next) ← writer.fork
  let id ← openOutlet (.collect "" none (some (onResult branch)))
  match ← render (onOutlet id) with
  | .ok last => last.finish handlers
  | .error error => discard ((onOutlet id).fail handlers error)
  pure next

/-- Goes on after a capture: the branch ends with what the continuation wrote, or fails. -/
def settle (handlers : Handlers Continuation Listener Client) (branch : Writer)
    (result : Except RenderError String)
    (continue? : String → Run Continuation Listener Client (Except RenderError Writer)) :
    Run Continuation Listener Client Unit := do
  match result with
  | .error error => discard (branch.fail handlers error)
  | .ok text =>
    match ← continue? text with
    | .ok last => last.finish handlers
    | .error error => discard (branch.fail handlers error)

end Handles

end Writer

end BraceTemplate.Output
