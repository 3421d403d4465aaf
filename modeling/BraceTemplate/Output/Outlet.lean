import BraceTemplate.Error

/-!
The output of one render: segments in their final order. Output leaves from the front, segment by
segment, as soon as a segment has ended; an error at the front ends everything. A fork puts two
segments right behind the one it starts from, whether or not that one has left.
-/

namespace BraceTemplate.Output

/-- A piece of output that is written to until it has ended. -/
structure Segment where
  number : Nat
  text : String
  ended : Bool
  error : Option RenderError

/-- A segment nothing was written to. -/
def Segment.fresh (number : Nat) : Segment := ⟨number, "", false, none⟩

/-- What is called when a stream has something to tell. -/
structure Listeners (Listener : Type) where
  onData : List Listener
  onEnd : List Listener
  onError : List Listener

/-- Where output goes. -/
inductive Sink (Continuation Listener : Type) where
  /-- It is gathered; in the end the whole text, or the error, is the result and is handed on once.
  -/
  | collect (text : String) (result : Option (Except RenderError String))
      (onResult : Option Continuation)
  /-- Every piece is told to listeners. -/
  | stream (listeners : Listeners Listener)

/-- The output of one render. -/
structure Outlet (Continuation Listener : Type) where
  /-- The numbers of the segments that have left, in order. -/
  passed : List Nat
  /-- The segments that have not, in order. -/
  waiting : List Segment
  nextNumber : Nat
  /-- All segments have left, or one has failed. -/
  finished : Bool
  /-- Output is being delivered. -/
  flushing : Bool
  /-- Something changed while output was being delivered. -/
  again : Bool
  sink : Sink Continuation Listener

/-- How a round of leaving ended. -/
inductive Outcome where
  /-- The front has not ended yet. -/
  | pending
  | finished
  | failed (error : RenderError)

/-- What a round of leaving yields. -/
structure Drained where
  pieces : List String
  outcome : Outcome
  passed : List Nat
  waiting : List Segment

namespace Outlet

variable {Continuation Listener : Type}

def opened (sink : Sink Continuation Listener) : Outlet Continuation Listener :=
  ⟨[], [Segment.fresh 0], 1, false, false, false, sink⟩

/-- Changes the segment with a number. -/
def changeSegment (number : Nat) (change : Segment → Segment) : List Segment → List Segment
  | [] => []
  | segment :: rest =>
    if segment.number = number then change segment :: rest
    else segment :: changeSegment number change rest

/-- Changes the segment with a number where it has not left. -/
def change (outlet : Outlet Continuation Listener) (number : Nat) (change : Segment → Segment) :
    Outlet Continuation Listener :=
  { outlet with waiting := changeSegment number change outlet.waiting }

/-- Puts segments right behind the one with a number, which ends. -/
def insertBehind (number : Nat) (added : List Segment) : List Segment → List Segment
  | [] => []
  | segment :: rest =>
    if segment.number = number then { segment with ended := true } :: (added ++ rest)
    else segment :: insertBehind number added rest

/-- Puts numbers right behind a number. -/
def insertPassed (number : Nat) (added : List Nat) : List Nat → List Nat
  | [] => []
  | other :: rest =>
    if other = number then other :: (added ++ rest)
    else other :: insertPassed number added rest

/-- Forks at a segment: behind it come a branch and what follows the branch. -/
def fork (outlet : Outlet Continuation Listener) (number : Nat) : Outlet Continuation Listener :=
  let branch := outlet.nextNumber
  { outlet with
    passed := insertPassed number [branch, branch + 1] outlet.passed
    waiting := insertBehind number [Segment.fresh branch, Segment.fresh (branch + 1)] outlet.waiting
    nextNumber := branch + 2 }

def drainWaiting : List Segment → Drained
  | [] => ⟨[], .finished, [], []⟩
  | segment :: rest =>
    match segment.error with
    | some error => ⟨[], .failed error, [], { segment with error := none } :: rest⟩
    | none =>
      if segment.ended then
        let drained := drainWaiting rest
        { drained with
          pieces := if segment.text.isEmpty then drained.pieces else segment.text :: drained.pieces
          passed := segment.number :: drained.passed }
      else ⟨[], .pending, [], segment :: rest⟩

/-- Lets leave what can; nothing does after the end or an error. -/
def drain (outlet : Outlet Continuation Listener) :
    List String × Outcome × Outlet Continuation Listener :=
  if outlet.finished then ([], .pending, outlet)
  else
    let drained := drainWaiting outlet.waiting
    let finished := match drained.outcome with
      | .pending => false
      | _ => true
    (drained.pieces, drained.outcome,
      { outlet with
        passed := outlet.passed ++ drained.passed, waiting := drained.waiting, finished })

end Outlet

end BraceTemplate.Output
