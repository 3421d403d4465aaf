import Mathlib.Tactic.SplitIfs
import BraceTemplate.Error

/-!
Routines of a scanner, and what they do to the one state they all share: where the scanner stands
in the bytes of a source, how deep it is within what is only tried, and the furthest place where
something was missed. A routine that fails may leave the state anywhere; only names, attempts and
lookaheads put the place back. Main statement: a routine has at most one run from a state
(`Runs.functional`).
-/

namespace BraceTemplate.Scanning

open Source

def charsFrom? : Nat → List Char → Option (List Char)
  | 0, chars => some chars
  | _ + 1, [] => none
  | offset + 1, char :: chars =>
    if char.utf8Size ≤ offset + 1 then charsFrom? (offset + 1 - char.utf8Size) chars else none

def cursorAt (source : String) (place : Place) : Cursor :=
  ⟨place, (charsFrom? place.offset source.toList).getD []⟩

/-- What scanning has come to. -/
@[ext]
structure Scan where
  place : Place
  /-- How many names and lookaheads are being tried. -/
  silenced : Nat
  /-- The furthest place where something was missed. -/
  furthest : Place
  /-- What was missed there. -/
  expected : List String
  /-- A demand that was not met. -/
  fault : Option ParseError
deriving DecidableEq

/-- Characters to be taken together, and how they are called where they are missed. -/
structure Piece where
  chars : List Char
  called : Option String

namespace Scan

def start : Scan :=
  ⟨Place.start, 0, Place.start, [], none⟩

def moveTo (place : Place) (scan : Scan) : Scan :=
  { scan with place }

def silence (scan : Scan) : Scan :=
  { scan with silenced := scan.silenced + 1 }

def unsilence (scan : Scan) : Scan :=
  { scan with silenced := scan.silenced - 1 }

def miss (what : String) (scan : Scan) : Scan :=
  if 0 < scan.silenced ∨ scan.place.offset < scan.furthest.offset then scan
  else if scan.furthest.offset < scan.place.offset then
    { scan with furthest := scan.place, expected := [what] }
  else { scan with expected := scan.expected ++ [what] }

def noteFault (fault : ParseFault) (scan : Scan) : Scan :=
  { scan with fault := some (.at scan.place fault) }

def takeChar {Kind : Type} (source : String) (kindOf : Char → Option Kind) (called : String)
    (scan : Scan) : Option Kind × Scan :=
  match (cursorAt source scan.place).classify? kindOf with
  | some (kind, after) => (some kind, scan.moveTo after.place)
  | none => (none, scan.miss called)

def takePieces (source : String) : List Piece → Scan → Bool × Scan
  | [], scan => (true, scan)
  | piece :: more, scan =>
    match (cursorAt source scan.place).literal? piece.chars with
    | some after => takePieces source more (scan.moveTo after.place)
    | none => (false, piece.called.elim scan fun what => scan.miss what)

section Fields

variable (scan : Scan) (place : Place) (what : String)

@[simp] theorem moveTo_place : (scan.moveTo place).place = place := rfl

@[simp] theorem miss_place : (scan.miss what).place = scan.place := by
  unfold miss
  split_ifs <;> rfl

@[simp] theorem miss_silenced : (scan.miss what).silenced = scan.silenced := by
  unfold miss
  split_ifs <;> rfl

@[simp] theorem miss_fault : (scan.miss what).fault = scan.fault := by
  unfold miss
  split_ifs <;> rfl

/-- Nothing is noted about what is only tried. -/
theorem miss_of_silenced (silenced : 0 < scan.silenced) : scan.miss what = scan :=
  if_pos (.inl silenced)

end Fields

end Scan

/-- Routines over named rules, with the results they return. -/
inductive Routine (Rule : Type → Type) : Type → Type 1 where
  /-- Takes nothing. -/
  | here {Result : Type} (result : Position → Result) : Routine Rule Result
  | char {Result : Type} (kindOf : Char → Option Result) (called : String) : Routine Rule Result
  | pieces {Result : Type} (result : Result) (all : List Piece) : Routine Rule Result
  | rule {Result : Type} (name : Rule Result) : Routine Rule Result
  | map {First Result : Type} (change : First → Result) (item : Routine Rule First) :
      Routine Rule Result
  | both {First Second Result : Type} (join : First → Second → Result)
      (first : Routine Rule First) (second : Routine Rule Second) : Routine Rule Result
  /-- The second where the first fails, from wherever the first left the state. -/
  | choice {Result : Type} (first second : Routine Rule Result) : Routine Rule Result
  /-- A loop that ends with the first round that fails. -/
  | star {Item Result : Type} (collect : List Item → Result) (item : Routine Rule Item) :
      Routine Rule Result
  /-- A loop that ends where its guard fails; a round that fails is a failure of the whole. -/
  | during {Held Item Result : Type} (collect : List Item → Result) (guard : Routine Rule Held)
      (item : Routine Rule Item) : Routine Rule Result
  /-- A lookahead for what must not come next. -/
  | absent {Item Result : Type} (result : Result) (item : Routine Rule Item) :
      Routine Rule Result
  | check {First Result : Type} (test : First → Option Result) (item : Routine Rule First) :
      Routine Rule Result
  /-- A result that the test does not accept is a fault. -/
  | demand {First Result : Type} (test : First → Option Result) (fault : First → ParseFault)
      (item : Routine Rule First) : Routine Rule Result
  /-- Puts the place back where the item fails, and calls what was missed by the name. -/
  | named {Result : Type} (name : String) (item : Routine Rule Result) : Routine Rule Result
  /-- Puts the place back where the item fails. -/
  | attempt {Result : Type} (item : Routine Rule Result) : Routine Rule Result
  /-- Fails at once where a fault is noted. -/
  | beforeFault {Result : Type} (item : Routine Rule Result) : Routine Rule Result
  /-- Fails behind an item that notes a fault. -/
  | unlessFault {Result : Type} (item : Routine Rule Result) : Routine Rule Result

abbrev RoutineTable (Rule : Type → Type) : Type 1 :=
  (Result : Type) → Rule Result → Routine Rule Result

/-- A routine runs from a state to what it returns and the state it leaves. -/
inductive Runs {Rule : Type → Type} (table : RoutineTable Rule) (source : String) :
    {Result : Type} → Routine Rule Result → Scan → Option Result → Scan → Prop
  | here {Result : Type} (result : Position → Result) (scan : Scan) :
      Runs table source (.here result) scan (some (result scan.place.position)) scan
  | char {Result : Type} {kindOf : Char → Option Result} {called : String} {scan after : Scan}
      {found : Option Result} :
      scan.takeChar source kindOf called = (found, after) →
      Runs table source (.char kindOf called) scan found after
  | pieces {Result : Type} {result : Result} {all : List Piece} {scan after : Scan} :
      scan.takePieces source all = (true, after) →
      Runs table source (.pieces result all) scan (some result) after
  | piecesFailed {Result : Type} {result : Result} {all : List Piece} {scan after : Scan} :
      scan.takePieces source all = (false, after) →
      Runs table source (.pieces result all) scan none after
  | rule {Result : Type} {name : Rule Result} {scan after : Scan} {found : Option Result} :
      Runs table source (table Result name) scan found after →
      Runs table source (.rule name) scan found after
  | map {First Result : Type} (change : First → Result) {item : Routine Rule First}
      {scan after : Scan} {found : Option First} :
      Runs table source item scan found after →
      Runs table source (.map change item) scan (found.map change) after
  | both {First Second Result : Type} (join : First → Second → Result)
      {first : Routine Rule First} {second : Routine Rule Second} {scan middle after : Scan}
      {value : First} {found : Option Second} :
      Runs table source first scan (some value) middle →
      Runs table source second middle found after →
      Runs table source (.both join first second) scan (found.map (join value)) after
  | bothFailed {First Second Result : Type} (join : First → Second → Result)
      {first : Routine Rule First} {second : Routine Rule Second} {scan after : Scan} :
      Runs table source first scan none after →
      Runs table source (.both join first second) scan none after
  | firstChoice {Result : Type} {first second : Routine Rule Result} {scan after : Scan}
      {result : Result} :
      Runs table source first scan (some result) after →
      Runs table source (.choice first second) scan (some result) after
  | secondChoice {Result : Type} {first second : Routine Rule Result} {scan middle after : Scan}
      {found : Option Result} :
      Runs table source first scan none middle →
      Runs table source second middle found after →
      Runs table source (.choice first second) scan found after
  /-- A loop is a round and the loop, or else nothing. -/
  | star {Item Result : Type} (collect : List Item → Result) {item : Routine Rule Item}
      {scan after : Scan} {found : Option (List Item)} :
      Runs table source (.choice (.both List.cons item (.star id item)) (.here fun _ => [])) scan
        found after →
      Runs table source (.star collect item) scan (found.map collect) after
  | during {Held Item Result : Type} (collect : List Item → Result) {guard : Routine Rule Held}
      {item : Routine Rule Item} {scan middle after : Scan} {held : Held}
      {found : Option (List Item)} :
      Runs table source guard scan (some held) middle →
      Runs table source (.both List.cons item (.during id guard item)) middle found after →
      Runs table source (.during collect guard item) scan (found.map collect) after
  | duringEnd {Held Item Result : Type} (collect : List Item → Result)
      {guard : Routine Rule Held} {item : Routine Rule Item} {scan after : Scan} :
      Runs table source guard scan none after →
      Runs table source (.during collect guard item) scan (some (collect [])) after
  | absent {Item Result : Type} (result : Result) {item : Routine Rule Item}
      {scan after : Scan} :
      Runs table source item scan.silence none after →
      Runs table source (.absent result item) scan (some result)
        (after.unsilence.moveTo scan.place)
  | absentFailed {Item Result : Type} (result : Result) {item : Routine Rule Item}
      {scan after : Scan} {present : Item} :
      Runs table source item scan.silence (some present) after →
      Runs table source (.absent result item) scan none (after.unsilence.moveTo scan.place)
  | check {First Result : Type} (test : First → Option Result) {item : Routine Rule First}
      {scan after : Scan} {found : Option First} :
      Runs table source item scan found after →
      Runs table source (.check test item) scan (found.bind test) after
  | demandMet {First Result : Type} {test : First → Option Result} {fault : First → ParseFault}
      {item : Routine Rule First} {scan after : Scan} {value : First} {result : Result} :
      Runs table source item scan (some value) after → test value = some result →
      Runs table source (.demand test fault item) scan (some result) after
  | demandUnmet {First Result : Type} {test : First → Option Result} {fault : First → ParseFault}
      {item : Routine Rule First} {scan after : Scan} {value : First} :
      Runs table source item scan (some value) after → test value = none →
      Runs table source (.demand test fault item) scan none (after.noteFault (fault value))
  | demandFailed {First Result : Type} {test : First → Option Result}
      {fault : First → ParseFault} {item : Routine Rule First} {scan after : Scan} :
      Runs table source item scan none after →
      Runs table source (.demand test fault item) scan none after
  | named {Result : Type} (name : String) {item : Routine Rule Result} {scan after : Scan}
      {result : Result} :
      Runs table source item scan.silence (some result) after →
      Runs table source (.named name item) scan (some result) after.unsilence
  | namedFailed {Result : Type} (name : String) {item : Routine Rule Result}
      {scan after : Scan} :
      Runs table source item scan.silence none after →
      Runs table source (.named name item) scan none
        ((after.unsilence.moveTo scan.place).miss name)
  | attempt {Result : Type} {item : Routine Rule Result} {scan after : Scan} {result : Result} :
      Runs table source item scan (some result) after →
      Runs table source (.attempt item) scan (some result) after
  | attemptFailed {Result : Type} {item : Routine Rule Result} {scan after : Scan} :
      Runs table source item scan none after →
      Runs table source (.attempt item) scan none (after.moveTo scan.place)
  | beforeFault {Result : Type} {item : Routine Rule Result} {scan after : Scan}
      {found : Option Result} :
      scan.fault = none → Runs table source item scan found after →
      Runs table source (.beforeFault item) scan found after
  | behindFault {Result : Type} (item : Routine Rule Result) {scan : Scan} :
      scan.fault ≠ none → Runs table source (.beforeFault item) scan none scan
  | unlessFault {Result : Type} {item : Routine Rule Result} {scan after : Scan}
      {found : Option Result} :
      Runs table source item scan found after → after.fault = none →
      Runs table source (.unlessFault item) scan found after
  | withFault {Result : Type} {item : Routine Rule Result} {scan after : Scan}
      {found : Option Result} :
      Runs table source item scan found after → after.fault ≠ none →
      Runs table source (.unlessFault item) scan none after

/-- A routine has at most one run from a state. -/
theorem Runs.functional {Rule : Type → Type} {table : RoutineTable Rule} {source : String}
    {Result : Type} {routine : Routine Rule Result} {scan after last : Scan}
    {found other : Option Result} (run : Runs table source routine scan found after)
    (again : Runs table source routine scan other last) : other = found ∧ last = after := by
  induction run generalizing last with
  | here result scan =>
      cases again
      exact ⟨rfl, rfl⟩
  | char taken =>
      cases again with
      | char takenAgain =>
          rw [taken] at takenAgain
          cases takenAgain
          exact ⟨rfl, rfl⟩
  | pieces taken =>
      cases again with
      | pieces takenAgain =>
          rw [taken] at takenAgain
          cases takenAgain
          exact ⟨rfl, rfl⟩
      | piecesFailed notTaken =>
          rw [taken] at notTaken
          cases notTaken
  | piecesFailed notTaken =>
      cases again with
      | pieces taken =>
          rw [notTaken] at taken
          cases taken
      | piecesFailed notTakenAgain =>
          rw [notTaken] at notTakenAgain
          cases notTakenAgain
          exact ⟨rfl, rfl⟩
  | rule _ inductionHypothesis =>
      cases again with
      | rule body => exact inductionHypothesis body
  | map change _ inductionHypothesis =>
      cases again with
      | map _ item =>
          obtain ⟨rfl, rfl⟩ := inductionHypothesis item
          exact ⟨rfl, rfl⟩
  | both join _ _ firstHypothesis secondHypothesis =>
      cases again with
      | both _ first second =>
          obtain ⟨same, rfl⟩ := firstHypothesis first
          cases same
          obtain ⟨rfl, rfl⟩ := secondHypothesis second
          exact ⟨rfl, rfl⟩
      | bothFailed _ first => cases (firstHypothesis first).1
  | bothFailed join _ inductionHypothesis =>
      cases again with
      | both _ first _ => cases (inductionHypothesis first).1
      | bothFailed _ first => exact ⟨rfl, (inductionHypothesis first).2⟩
  | firstChoice _ inductionHypothesis =>
      cases again with
      | firstChoice first => exact inductionHypothesis first
      | secondChoice first _ => cases (inductionHypothesis first).1
  | secondChoice _ _ firstHypothesis secondHypothesis =>
      cases again with
      | firstChoice first => cases (firstHypothesis first).1
      | secondChoice first second =>
          obtain ⟨-, rfl⟩ := firstHypothesis first
          exact secondHypothesis second
  | star collect _ inductionHypothesis =>
      cases again with
      | star _ unfolded =>
          obtain ⟨rfl, rfl⟩ := inductionHypothesis unfolded
          exact ⟨rfl, rfl⟩
  | during collect _ _ guardHypothesis roundHypothesis =>
      cases again with
      | during _ guard round =>
          obtain ⟨-, rfl⟩ := guardHypothesis guard
          obtain ⟨rfl, rfl⟩ := roundHypothesis round
          exact ⟨rfl, rfl⟩
      | duringEnd _ guard => cases (guardHypothesis guard).1
  | duringEnd collect _ inductionHypothesis =>
      cases again with
      | during _ guard _ => cases (inductionHypothesis guard).1
      | duringEnd _ guard => exact ⟨rfl, (inductionHypothesis guard).2⟩
  | absent result _ inductionHypothesis =>
      cases again with
      | absent _ item =>
          obtain ⟨-, rfl⟩ := inductionHypothesis item
          exact ⟨rfl, rfl⟩
      | absentFailed _ item => cases (inductionHypothesis item).1
  | absentFailed result _ inductionHypothesis =>
      cases again with
      | absent _ item => cases (inductionHypothesis item).1
      | absentFailed _ item =>
          obtain ⟨-, rfl⟩ := inductionHypothesis item
          exact ⟨rfl, rfl⟩
  | check test _ inductionHypothesis =>
      cases again with
      | check _ item =>
          obtain ⟨rfl, rfl⟩ := inductionHypothesis item
          exact ⟨rfl, rfl⟩
  | demandMet _ accepted inductionHypothesis =>
      cases again with
      | demandMet item acceptedAgain =>
          obtain ⟨same, rfl⟩ := inductionHypothesis item
          cases same
          rw [accepted] at acceptedAgain
          cases acceptedAgain
          exact ⟨rfl, rfl⟩
      | demandUnmet item rejected =>
          cases (inductionHypothesis item).1
          rw [accepted] at rejected
          cases rejected
      | demandFailed item => cases (inductionHypothesis item).1
  | demandUnmet _ rejected inductionHypothesis =>
      cases again with
      | demandMet item accepted =>
          cases (inductionHypothesis item).1
          rw [rejected] at accepted
          cases accepted
      | demandUnmet item _ =>
          obtain ⟨same, rfl⟩ := inductionHypothesis item
          cases same
          exact ⟨rfl, rfl⟩
      | demandFailed item => cases (inductionHypothesis item).1
  | demandFailed _ inductionHypothesis =>
      cases again with
      | demandMet item _ => cases (inductionHypothesis item).1
      | demandUnmet item _ => cases (inductionHypothesis item).1
      | demandFailed item => exact ⟨rfl, (inductionHypothesis item).2⟩
  | named name _ inductionHypothesis =>
      cases again with
      | named _ item =>
          obtain ⟨same, rfl⟩ := inductionHypothesis item
          exact ⟨same, rfl⟩
      | namedFailed _ item => cases (inductionHypothesis item).1
  | namedFailed name _ inductionHypothesis =>
      cases again with
      | named _ item => cases (inductionHypothesis item).1
      | namedFailed _ item =>
          obtain ⟨-, rfl⟩ := inductionHypothesis item
          exact ⟨rfl, rfl⟩
  | attempt _ inductionHypothesis =>
      cases again with
      | attempt item => exact inductionHypothesis item
      | attemptFailed item => cases (inductionHypothesis item).1
  | attemptFailed _ inductionHypothesis =>
      cases again with
      | attempt item => cases (inductionHypothesis item).1
      | attemptFailed item =>
          obtain ⟨-, rfl⟩ := inductionHypothesis item
          exact ⟨rfl, rfl⟩
  | beforeFault noFault _ inductionHypothesis =>
      cases again with
      | beforeFault _ item => exact inductionHypothesis item
      | behindFault _ fault => exact absurd noFault fault
  | behindFault item fault =>
      cases again with
      | beforeFault noFault _ => exact absurd noFault fault
      | behindFault _ _ => exact ⟨rfl, rfl⟩
  | unlessFault _ noFault inductionHypothesis =>
      cases again with
      | unlessFault item _ => exact inductionHypothesis item
      | withFault item fault =>
          obtain ⟨-, rfl⟩ := inductionHypothesis item
          exact absurd noFault fault
  | withFault _ fault inductionHypothesis =>
      cases again with
      | unlessFault item noFault =>
          obtain ⟨-, rfl⟩ := inductionHypothesis item
          exact absurd noFault fault
      | withFault item _ => exact ⟨rfl, (inductionHypothesis item).2⟩

end BraceTemplate.Scanning
