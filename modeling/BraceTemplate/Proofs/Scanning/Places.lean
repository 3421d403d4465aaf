import BraceTemplate.Proofs.Reading.Unexpected
import BraceTemplate.Proofs.Scanning.Routine

/-!
Scanning stays on places of the source, whatever fails on the way: a routine leaves the place behind
characters it passed, and the furthest place where it was. Main statements: `Runs.passes`,
`Runs.sound` and `Runs.follows`.
-/

namespace BraceTemplate.Scanning

open Source Reading Grammar

variable {source : String}

/-- The place behind a beginning of the source: as many bytes are before it, and its line, its
column and its flag come from passing the beginning. -/
def IsPlace (source : String) (place : Place) : Prop :=
  ∃ before rest : String, source = before ++ rest ∧ place.offset = before.utf8ByteSize ∧
    place = Place.start.advanceAll before.toList

/-- From a place on characters come next, and a later place is the one behind them. -/
structure Passes (source : String) (place : Place) (taken : List Char) (later : Place) : Prop where
  rest : (cursorAt source place).rest = taken ++ (cursorAt source later).rest
  later_eq : later = place.advanceAll taken

/-- Behind the bytes of a beginning comes what the beginning leaves. -/
theorem charsFrom?_append (before rest : List Char) :
    charsFrom? (String.ofList before).utf8ByteSize (before ++ rest) = some rest := by
  induction before with
  | nil => simp [charsFrom?]
  | cons char before inductionHypothesis =>
      obtain ⟨size, sizeEq⟩ := Nat.exists_eq_succ_of_ne_zero char.utf8Size_pos.ne'
      have bytes : (String.ofList (char :: before)).utf8ByteSize =
          size + (String.ofList before).utf8ByteSize + 1 := by
        simp only [String.ofList_cons, String.utf8ByteSize_append, String.utf8ByteSize_singleton,
          sizeEq]
        omega
      have left : size + (String.ofList before).utf8ByteSize + 1 - (size + 1) =
          (String.ofList before).utf8ByteSize := by
        omega
      rw [bytes, List.cons_append, charsFrom?, sizeEq, Nat.succ_eq_add_one, if_pos (by omega), left]
      exact inductionHypothesis

namespace IsPlace

theorem start (source : String) : IsPlace source Place.start :=
  ⟨"", source, String.empty_append.symm, rfl, rfl⟩

theorem of_append {before rest : List Char} (split : source.toList = before ++ rest) :
    IsPlace source (Place.start.advanceAll before) := by
  refine ⟨String.ofList before, String.ofList rest, ?_, ?_, ?_⟩
  · rw [← String.ofList_append, ← split, String.ofList_toList]
  · rw [offset_advanceAll]
    exact Nat.zero_add _
  · rw [String.toList_ofList]

/-- At a place the source is what was passed and what is left. -/
theorem exists_split {place : Place} (isPlace : IsPlace source place) :
    ∃ before, source.toList = before ++ (cursorAt source place).rest ∧
      place = Place.start.advanceAll before := by
  obtain ⟨before, rest, rfl, offset, place_eq⟩ := isPlace
  refine ⟨before.toList, ?_, place_eq⟩
  have left := charsFrom?_append before.toList rest.toList
  rw [String.ofList_toList, ← offset] at left
  simp only [cursorAt, String.toList_append, left, Option.getD_some]

theorem cursorAt_rest {before rest : List Char} (split : source.toList = before ++ rest) :
    (cursorAt source (Place.start.advanceAll before)).rest = rest := by
  have offset : (Place.start.advanceAll before).offset = (String.ofList before).utf8ByteSize :=
    (offset_advanceAll _ _).trans (Nat.zero_add _)
  simp only [cursorAt, offset, split, charsFrom?_append, Option.getD_some]

/-- Behind characters that come next there is a place again. -/
theorem passes {place : Place} (isPlace : IsPlace source place) {taken rest : List Char}
    (next : (cursorAt source place).rest = taken ++ rest) :
    Passes source place taken (place.advanceAll taken) := by
  obtain ⟨before, split, rfl⟩ := isPlace.exists_split
  rw [next, ← List.append_assoc] at split
  refine ⟨?_, rfl⟩
  rw [next, ← Place.advanceAll_append, cursorAt_rest split]

theorem pass {place later : Place} {taken : List Char} (isPlace : IsPlace source place)
    (passes : Passes source place taken later) : IsPlace source later := by
  obtain ⟨before, split, rfl⟩ := isPlace.exists_split
  obtain ⟨rest, rfl⟩ := passes
  rw [rest, ← List.append_assoc] at split
  rw [← Place.advanceAll_append]
  exact of_append split

end IsPlace

namespace Passes

theorem nothing (source : String) (place : Place) : Passes source place [] place :=
  ⟨rfl, rfl⟩

theorem trans {place middle later : Place} {taken more : List Char}
    (passes : Passes source place taken middle) (passesMore : Passes source middle more later) :
    Passes source place (taken ++ more) later := by
  obtain ⟨rest, rfl⟩ := passes
  obtain ⟨moreRest, rfl⟩ := passesMore
  exact ⟨by rw [rest, moreRest, List.append_assoc], (Place.advanceAll_append _ _ _).symm⟩

/-- What is left gets shorter by what is passed. -/
theorem length_rest {place later : Place} {taken : List Char}
    (passes : Passes source place taken later) :
    (cursorAt source later).rest.length + taken.length = (cursorAt source place).rest.length := by
  rw [passes.rest, List.length_append]
  omega

theorem offset_lt {place later : Place} {taken : List Char}
    (passes : Passes source place taken later) (nonempty : taken ≠ []) :
    place.offset < later.offset := by
  cases taken with
  | nil => exact absurd rfl nonempty
  | cons char more =>
      have positive := char.utf8Size_pos
      rw [passes.later_eq, offset_advanceAll]
      simp only [String.ofList_cons, String.utf8ByteSize_append, String.utf8ByteSize_singleton]
      omega

end Passes

namespace Routine

/-- Whether a routine passes a character wherever it succeeds, given for which rules that is so. -/
def takes {Rule : Type → Type} (rules : (Result : Type) → Rule Result → Bool) {Result : Type} :
    Routine Rule Result → Bool
  | here _ => false
  | char _ _ => true
  | pieces _ all => !(all.flatMap Piece.chars).isEmpty
  | rule name => rules Result name
  | map _ item => item.takes rules
  | both _ first second => first.takes rules || second.takes rules
  | choice first second => first.takes rules && second.takes rules
  | star _ _ => false
  | during _ _ _ => false
  | absent _ _ => false
  | check _ item => item.takes rules
  | demand _ _ item => item.takes rules
  | named _ item => item.takes rules
  | attempt item => item.takes rules
  | beforeFault item => item.takes rules
  | unlessFault item => item.takes rules

end Routine

section Primitives

variable {Kind : Type} {scan after : Scan}

theorem takeChar_passes {kindOf : Char → Option Kind} {called : String} {found : Option Kind}
    (isPlace : IsPlace source scan.place)
    (taken : scan.takeChar source kindOf called = (found, after)) :
    ∃ passed, Passes source scan.place passed after.place ∧
      (found.isSome = true → passed ≠ []) := by
  unfold Scan.takeChar at taken
  cases next : (cursorAt source scan.place).classify? kindOf with
  | none =>
      rw [next] at taken
      cases taken
      refine ⟨[], ?_, nofun⟩
      rw [Scan.miss_place]
      exact .nothing source scan.place
  | some pair =>
      obtain ⟨kind, behind⟩ := pair
      rw [next] at taken
      cases taken
      obtain ⟨passed, rest, place⟩ := advances_classify? next
      have shorter := length_classify? next
      refine ⟨passed, ?_, fun _ nothing => ?_⟩
      · rw [Scan.moveTo_place, place]
        exact isPlace.passes rest
      · rw [rest, nothing, List.nil_append] at shorter
        omega

theorem takePieces_passes {all : List Piece} {found : Bool} (isPlace : IsPlace source scan.place)
    (taken : scan.takePieces source all = (found, after)) :
    ∃ passed, Passes source scan.place passed after.place ∧
      (found = true → passed = all.flatMap Piece.chars) := by
  induction all generalizing scan with
  | nil =>
      cases taken
      exact ⟨[], .nothing _ _, fun _ => rfl⟩
  | cons piece more inductionHypothesis =>
      unfold Scan.takePieces at taken
      cases next : (cursorAt source scan.place).literal? piece.chars with
      | none =>
          rw [next] at taken
          cases taken
          refine ⟨[], ?_, nofun⟩
          have stays : (piece.called.elim scan fun what => scan.miss what).place = scan.place := by
            cases piece.called <;> simp
          rw [stays]
          exact .nothing source scan.place
      | some behind =>
          rw [next] at taken
          obtain ⟨rest, place⟩ := literal?_eq_some_iff.1 next
          have passes : Passes source scan.place piece.chars behind.place := by
            rw [place]
            exact isPlace.passes rest
          have moved : IsPlace source (scan.moveTo behind.place).place := isPlace.pass passes
          obtain ⟨passed, passesMore, spelled⟩ := inductionHypothesis moved taken
          exact ⟨piece.chars ++ passed, passes.trans passesMore, fun all =>
            congrArg (piece.chars ++ ·) (spelled all)⟩

end Primitives

section Runs

variable {Rule : Type → Type} {table : RoutineTable Rule} {Result : Type}
  {routine : Routine Rule Result} {scan after : Scan} {found : Option Result}

/-- A routine leaves the place behind characters it passed, and passes at least one where it
succeeds and takes characters. -/
theorem Runs.passes (rules : (Result : Type) → Rule Result → Bool)
    (consistent : ∀ (Result : Type) (name : Rule Result),
      rules Result name = true → (table Result name).takes rules = true)
    (run : Runs table source routine scan found after) (isPlace : IsPlace source scan.place) :
    ∃ taken, Passes source scan.place taken after.place ∧
      (routine.takes rules = true → found.isSome = true → taken ≠ []) := by
  induction run with
  | here result scan => exact ⟨[], .nothing _ _, nofun⟩
  | char taken =>
      obtain ⟨passed, passes, nonempty⟩ := takeChar_passes isPlace taken
      exact ⟨passed, passes, fun _ => nonempty⟩
  | pieces taken =>
      obtain ⟨passed, passes, spelled⟩ := takePieces_passes isPlace taken
      refine ⟨passed, passes, fun takes _ => ?_⟩
      rw [spelled rfl]
      simpa [Routine.takes] using takes
  | piecesFailed notTaken =>
      obtain ⟨passed, passes, -⟩ := takePieces_passes isPlace notTaken
      exact ⟨passed, passes, nofun⟩
  | @rule _ name _ _ _ _ inductionHypothesis =>
      obtain ⟨taken, passes, nonempty⟩ := inductionHypothesis isPlace
      exact ⟨taken, passes, fun takes => nonempty (consistent _ name takes)⟩
  | map change _ inductionHypothesis =>
      obtain ⟨taken, passes, nonempty⟩ := inductionHypothesis isPlace
      exact ⟨taken, passes, fun takes found => nonempty takes (by simpa using found)⟩
  | both join _ _ firstHypothesis secondHypothesis =>
      obtain ⟨taken, passes, nonempty⟩ := firstHypothesis isPlace
      obtain ⟨more, passesMore, moreNonempty⟩ := secondHypothesis (isPlace.pass passes)
      refine ⟨taken ++ more, passes.trans passesMore, fun takes found nothing => ?_⟩
      obtain ⟨noneTaken, noMore⟩ := List.append_eq_nil_iff.1 nothing
      rcases Bool.or_eq_true_iff.1 takes with takesFirst | takesSecond
      · exact nonempty takesFirst rfl noneTaken
      · exact moreNonempty takesSecond (by simpa using found) noMore
  | bothFailed join _ inductionHypothesis =>
      obtain ⟨taken, passes, -⟩ := inductionHypothesis isPlace
      exact ⟨taken, passes, nofun⟩
  | firstChoice _ inductionHypothesis =>
      obtain ⟨taken, passes, nonempty⟩ := inductionHypothesis isPlace
      exact ⟨taken, passes, fun takes => nonempty (Bool.and_eq_true_iff.1 takes).1⟩
  | secondChoice _ _ firstHypothesis secondHypothesis =>
      obtain ⟨taken, passes, -⟩ := firstHypothesis isPlace
      obtain ⟨more, passesMore, nonempty⟩ := secondHypothesis (isPlace.pass passes)
      refine ⟨taken ++ more, passes.trans passesMore, fun takes found nothing => ?_⟩
      exact nonempty (Bool.and_eq_true_iff.1 takes).2 found (List.append_eq_nil_iff.1 nothing).2
  | star collect _ inductionHypothesis =>
      obtain ⟨taken, passes, -⟩ := inductionHypothesis isPlace
      exact ⟨taken, passes, nofun⟩
  | during collect _ _ guardHypothesis roundHypothesis =>
      obtain ⟨taken, passes, -⟩ := guardHypothesis isPlace
      obtain ⟨more, passesMore, -⟩ := roundHypothesis (isPlace.pass passes)
      exact ⟨taken ++ more, passes.trans passesMore, nofun⟩
  | duringEnd collect _ inductionHypothesis =>
      obtain ⟨taken, passes, -⟩ := inductionHypothesis isPlace
      exact ⟨taken, passes, nofun⟩
  | absent result _ _ => exact ⟨[], .nothing _ _, nofun⟩
  | absentFailed result _ _ => exact ⟨[], .nothing _ _, nofun⟩
  | @check _ _ test _ _ _ found _ inductionHypothesis =>
      obtain ⟨taken, passes, nonempty⟩ := inductionHypothesis isPlace
      refine ⟨taken, passes, fun takes accepted => nonempty takes ?_⟩
      cases found with
      | none => cases accepted
      | some value => rfl
  | demandMet _ _ inductionHypothesis =>
      obtain ⟨taken, passes, nonempty⟩ := inductionHypothesis isPlace
      exact ⟨taken, passes, fun takes _ => nonempty takes rfl⟩
  | demandUnmet _ _ inductionHypothesis =>
      obtain ⟨taken, passes, -⟩ := inductionHypothesis isPlace
      exact ⟨taken, passes, nofun⟩
  | demandFailed _ inductionHypothesis =>
      obtain ⟨taken, passes, -⟩ := inductionHypothesis isPlace
      exact ⟨taken, passes, nofun⟩
  | named name _ inductionHypothesis => exact inductionHypothesis isPlace
  | namedFailed name _ _ =>
      refine ⟨[], ?_, nofun⟩
      rw [Scan.miss_place]
      exact .nothing _ _
  | attempt _ inductionHypothesis => exact inductionHypothesis isPlace
  | attemptFailed _ _ => exact ⟨[], .nothing _ _, nofun⟩
  | beforeFault _ _ inductionHypothesis => exact inductionHypothesis isPlace
  | behindFault item _ => exact ⟨[], .nothing _ _, nofun⟩
  | unlessFault _ _ inductionHypothesis => exact inductionHypothesis isPlace
  | withFault _ _ inductionHypothesis =>
      obtain ⟨taken, passes, -⟩ := inductionHypothesis isPlace
      exact ⟨taken, passes, nofun⟩

theorem Runs.exists_passes (run : Runs table source routine scan found after)
    (isPlace : IsPlace source scan.place) :
    ∃ taken, Passes source scan.place taken after.place := by
  obtain ⟨taken, passes, -⟩ := run.passes (fun _ _ => false) nofun isPlace
  exact ⟨taken, passes⟩

theorem Runs.isPlace (run : Runs table source routine scan found after)
    (isPlace : IsPlace source scan.place) : IsPlace source after.place := by
  obtain ⟨taken, passes⟩ := run.exists_passes isPlace
  exact isPlace.pass passes

end Runs

/-- Both the place and the furthest one are places of the source. -/
structure Scan.Sound (source : String) (scan : Scan) : Prop where
  place : IsPlace source scan.place
  furthest : IsPlace source scan.furthest

/-- What a state that follows another has kept: how deep it is within what is only tried, what was
noted before where all of it is only tried, and a fault. -/
structure Scan.Follows (scan after : Scan) : Prop where
  silenced : after.silenced = scan.silenced
  furthest : 0 < scan.silenced → after.furthest = scan.furthest
  expected : 0 < scan.silenced → after.expected = scan.expected
  fault : after.fault = none → scan.fault = none

namespace Scan.Sound

variable {scan after : Scan}

theorem start (source : String) : Scan.start.Sound source :=
  ⟨.start source, .start source⟩

theorem moveTo {place : Place} (sound : scan.Sound source) (isPlace : IsPlace source place) :
    (scan.moveTo place).Sound source :=
  ⟨isPlace, sound.furthest⟩

theorem silence (sound : scan.Sound source) : scan.silence.Sound source :=
  ⟨sound.place, sound.furthest⟩

theorem unsilence (sound : scan.Sound source) : scan.unsilence.Sound source :=
  ⟨sound.place, sound.furthest⟩

theorem miss (sound : scan.Sound source) (what : String) : (scan.miss what).Sound source := by
  unfold Scan.miss
  split_ifs
  · exact sound
  · exact ⟨sound.place, sound.place⟩
  · exact ⟨sound.place, sound.furthest⟩

theorem takeChar {Kind : Type} {kindOf : Char → Option Kind} {called : String}
    {found : Option Kind} (sound : scan.Sound source)
    (taken : scan.takeChar source kindOf called = (found, after)) : after.Sound source := by
  obtain ⟨_, passes, -⟩ := takeChar_passes sound.place taken
  have isPlace := sound.place.pass passes
  unfold Scan.takeChar at taken
  split at taken <;> cases taken
  · exact sound.moveTo isPlace
  · exact sound.miss called

theorem takePieces {all : List Piece} {found : Bool} (sound : scan.Sound source)
    (taken : scan.takePieces source all = (found, after)) : after.Sound source := by
  induction all generalizing scan with
  | nil =>
      cases taken
      exact sound
  | cons piece more inductionHypothesis =>
      unfold Scan.takePieces at taken
      split at taken
      · rename_i behind next
        obtain ⟨rest, place⟩ := literal?_eq_some_iff.1 next
        have isPlace : IsPlace source behind.place := by
          rw [place]
          exact sound.place.pass (sound.place.passes rest)
        exact inductionHypothesis (sound.moveTo isPlace) taken
      · cases taken
        cases piece.called with
        | none => exact sound
        | some what => exact sound.miss what

end Scan.Sound

namespace Scan.Follows

variable {scan middle after : Scan}

theorem refl (scan : Scan) : scan.Follows scan :=
  ⟨rfl, fun _ => rfl, fun _ => rfl, id⟩

theorem trans (first : scan.Follows middle) (second : middle.Follows after) :
    scan.Follows after where
  silenced := second.silenced.trans first.silenced
  furthest silenced := by
    rw [second.furthest (first.silenced ▸ silenced), first.furthest silenced]
  expected silenced := by
    rw [second.expected (first.silenced ▸ silenced), first.expected silenced]
  fault noFault := first.fault (second.fault noFault)

theorem moveTo (place : Place) (scan : Scan) : scan.Follows (scan.moveTo place) :=
  ⟨rfl, fun _ => rfl, fun _ => rfl, id⟩

theorem miss (what : String) (scan : Scan) : scan.Follows (scan.miss what) where
  silenced := scan.miss_silenced what
  furthest silenced := by rw [scan.miss_of_silenced what silenced]
  expected silenced := by rw [scan.miss_of_silenced what silenced]
  fault noFault := by rwa [scan.miss_fault what] at noFault

theorem noteFault (fault : ParseFault) (scan : Scan) : scan.Follows (scan.noteFault fault) :=
  ⟨rfl, fun _ => rfl, fun _ => rfl, nofun⟩

/-- What is only tried leaves nothing behind but a fault. -/
theorem unsilence (follows : scan.silence.Follows after) : scan.Follows after.unsilence where
  silenced := by
    have silenced := follows.silenced
    simp only [Scan.silence, Scan.unsilence] at silenced ⊢
    omega
  furthest _ := follows.furthest (Nat.succ_pos _)
  expected _ := follows.expected (Nat.succ_pos _)
  fault := follows.fault

/-- What is only tried and put back leaves the state as it was, but for a fault. -/
theorem putBack_eq (follows : scan.silence.Follows after) (noFault : after.fault = none) :
    after.unsilence.moveTo scan.place = scan := by
  have furthest : after.furthest = scan.furthest := follows.furthest (Nat.succ_pos _)
  have expected : after.expected = scan.expected := follows.expected (Nat.succ_pos _)
  have fault : after.fault = scan.fault := noFault.trans (follows.fault noFault).symm
  exact Scan.ext rfl follows.unsilence.silenced furthest expected fault

theorem takeChar {Kind : Type} {kindOf : Char → Option Kind} {called : String}
    {found : Option Kind} (taken : scan.takeChar source kindOf called = (found, after)) :
    scan.Follows after := by
  unfold Scan.takeChar at taken
  split at taken <;> cases taken
  · exact .moveTo _ scan
  · exact .miss called scan

theorem takePieces {all : List Piece} {found : Bool}
    (taken : scan.takePieces source all = (found, after)) : scan.Follows after := by
  induction all generalizing scan with
  | nil =>
      cases taken
      exact .refl _
  | cons piece more inductionHypothesis =>
      unfold Scan.takePieces at taken
      split at taken
      · exact (Follows.moveTo _ scan).trans (inductionHypothesis taken)
      · cases taken
        cases piece.called with
        | none => exact .refl scan
        | some what => exact .miss what scan

end Scan.Follows

section Runs

variable {Rule : Type → Type} {table : RoutineTable Rule} {Result : Type}
  {routine : Routine Rule Result} {scan after : Scan} {found : Option Result}

/-- From places of the source a routine leaves places of the source. -/
theorem Runs.sound (run : Runs table source routine scan found after)
    (sound : scan.Sound source) : after.Sound source := by
  induction run with
  | here result scan => exact sound
  | char taken => exact sound.takeChar taken
  | pieces taken => exact sound.takePieces taken
  | piecesFailed notTaken => exact sound.takePieces notTaken
  | rule _ inductionHypothesis => exact inductionHypothesis sound
  | map change _ inductionHypothesis => exact inductionHypothesis sound
  | both join _ _ firstHypothesis secondHypothesis =>
      exact secondHypothesis (firstHypothesis sound)
  | bothFailed join _ inductionHypothesis => exact inductionHypothesis sound
  | firstChoice _ inductionHypothesis => exact inductionHypothesis sound
  | secondChoice _ _ firstHypothesis secondHypothesis =>
      exact secondHypothesis (firstHypothesis sound)
  | star collect _ inductionHypothesis => exact inductionHypothesis sound
  | during collect _ _ guardHypothesis roundHypothesis =>
      exact roundHypothesis (guardHypothesis sound)
  | duringEnd collect _ inductionHypothesis => exact inductionHypothesis sound
  | absent result _ inductionHypothesis =>
      exact (inductionHypothesis sound.silence).unsilence.moveTo sound.place
  | absentFailed result _ inductionHypothesis =>
      exact (inductionHypothesis sound.silence).unsilence.moveTo sound.place
  | check test _ inductionHypothesis => exact inductionHypothesis sound
  | demandMet _ _ inductionHypothesis => exact inductionHypothesis sound
  | demandUnmet _ _ inductionHypothesis =>
      exact ⟨(inductionHypothesis sound).place, (inductionHypothesis sound).furthest⟩
  | demandFailed _ inductionHypothesis => exact inductionHypothesis sound
  | named name _ inductionHypothesis => exact (inductionHypothesis sound.silence).unsilence
  | namedFailed name _ inductionHypothesis =>
      exact ((inductionHypothesis sound.silence).unsilence.moveTo sound.place).miss name
  | attempt _ inductionHypothesis => exact inductionHypothesis sound
  | attemptFailed _ inductionHypothesis => exact (inductionHypothesis sound).moveTo sound.place
  | beforeFault _ _ inductionHypothesis => exact inductionHypothesis sound
  | behindFault item _ => exact sound
  | unlessFault _ _ inductionHypothesis => exact inductionHypothesis sound
  | withFault _ _ inductionHypothesis => exact inductionHypothesis sound

/-- The state that a routine leaves follows the one it started in. -/
theorem Runs.follows (run : Runs table source routine scan found after) : scan.Follows after := by
  induction run with
  | here result scan => exact .refl scan
  | char taken => exact .takeChar taken
  | pieces taken => exact .takePieces taken
  | piecesFailed notTaken => exact .takePieces notTaken
  | rule _ inductionHypothesis => exact inductionHypothesis
  | map change _ inductionHypothesis => exact inductionHypothesis
  | both join _ _ firstHypothesis secondHypothesis => exact firstHypothesis.trans secondHypothesis
  | bothFailed join _ inductionHypothesis => exact inductionHypothesis
  | firstChoice _ inductionHypothesis => exact inductionHypothesis
  | secondChoice _ _ firstHypothesis secondHypothesis =>
      exact firstHypothesis.trans secondHypothesis
  | star collect _ inductionHypothesis => exact inductionHypothesis
  | during collect _ _ guardHypothesis roundHypothesis =>
      exact guardHypothesis.trans roundHypothesis
  | duringEnd collect _ inductionHypothesis => exact inductionHypothesis
  | absent result _ inductionHypothesis => exact inductionHypothesis.unsilence.trans (.moveTo _ _)
  | absentFailed result _ inductionHypothesis =>
      exact inductionHypothesis.unsilence.trans (.moveTo _ _)
  | check test _ inductionHypothesis => exact inductionHypothesis
  | demandMet _ _ inductionHypothesis => exact inductionHypothesis
  | demandUnmet _ _ inductionHypothesis => exact inductionHypothesis.trans (.noteFault _ _)
  | demandFailed _ inductionHypothesis => exact inductionHypothesis
  | named name _ inductionHypothesis => exact inductionHypothesis.unsilence
  | namedFailed name _ inductionHypothesis =>
      exact (inductionHypothesis.unsilence.trans (.moveTo _ _)).trans (.miss name _)
  | attempt _ inductionHypothesis => exact inductionHypothesis
  | attemptFailed _ inductionHypothesis => exact inductionHypothesis.trans (.moveTo _ _)
  | beforeFault _ _ inductionHypothesis => exact inductionHypothesis
  | behindFault item _ => exact .refl _
  | unlessFault _ _ inductionHypothesis => exact inductionHypothesis
  | withFault _ _ inductionHypothesis => exact inductionHypothesis

end Runs

end BraceTemplate.Scanning
