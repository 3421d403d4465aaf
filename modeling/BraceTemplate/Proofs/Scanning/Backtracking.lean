import BraceTemplate.Proofs.Scanning.Verdicts

/-!
# Backtracking keeps the place

Whatever is tried and put back, every routine that the scanner comes to starts and ends at a place
of the source, with the line, the column and the flag of that place, and comes to an end. Main
statement: `backtracking_keepsPlace`.
-/

namespace BraceTemplate.Scanning

open Source Reading Grammar

/-- A round of a loop that succeeds: where its item starts, and where it ends. -/
inductive Round (source : String) :
    {Result : Type} → Routine Rule Result → Scan → Scan → Scan → Prop
  | star {Item Result : Type} {collect : List Item → Result} {item : Routine Rule Item}
      {scan after : Scan} {result : Item} :
      Runs routines source item scan (some result) after →
      Round source (.star collect item) scan scan after
  | during {Held Item Result : Type} {collect : List Item → Result} {guard : Routine Rule Held}
      {item : Routine Rule Item} {scan begun after : Scan} {held : Held} {result : Item} :
      Runs routines source guard scan (some held) begun →
      Runs routines source item begun (some result) after →
      Round source (.during collect guard item) scan begun after

/-- A routine is started in a state: a rule at the start of the source or anywhere that is come to,
or whatever a routine that is started starts itself. -/
inductive Reached (source : String) : {Result : Type} → Routine Rule Result → Scan → Prop
  | start {Result : Type} (name : Rule Result) : Reached source (.rule name) Scan.start
  | instead {Other Result : Type} {other : Routine Rule Other} {scan : Scan} (name : Rule Result) :
      Reached source other scan → Reached source (.rule name) scan
  | afterwards {Other Result : Type} {other : Routine Rule Other} {scan after : Scan}
      {found : Option Other} (name : Rule Result) :
      Reached source other scan → Runs routines source other scan found after →
      Reached source (.rule name) after
  | rule {Result : Type} {name : Rule Result} {scan : Scan} :
      Reached source (.rule name) scan → Reached source (routines Result name) scan
  | map {First Result : Type} {change : First → Result} {item : Routine Rule First} {scan : Scan} :
      Reached source (.map change item) scan → Reached source item scan
  | first {First Second Result : Type} {join : First → Second → Result}
      {first : Routine Rule First} {second : Routine Rule Second} {scan : Scan} :
      Reached source (.both join first second) scan → Reached source first scan
  | second {First Second Result : Type} {join : First → Second → Result}
      {first : Routine Rule First} {second : Routine Rule Second} {scan middle : Scan}
      {value : First} :
      Reached source (.both join first second) scan →
      Runs routines source first scan (some value) middle → Reached source second middle
  | firstChoice {Result : Type} {first second : Routine Rule Result} {scan : Scan} :
      Reached source (.choice first second) scan → Reached source first scan
  | secondChoice {Result : Type} {first second : Routine Rule Result} {scan middle : Scan} :
      Reached source (.choice first second) scan →
      Runs routines source first scan none middle → Reached source second middle
  | item {Item Result : Type} {collect : List Item → Result} {item : Routine Rule Item}
      {scan : Scan} :
      Reached source (.star collect item) scan → Reached source item scan
  | guard {Held Item Result : Type} {collect : List Item → Result} {guard : Routine Rule Held}
      {item : Routine Rule Item} {scan : Scan} :
      Reached source (.during collect guard item) scan → Reached source guard scan
  | guarded {Held Item Result : Type} {collect : List Item → Result} {guard : Routine Rule Held}
      {item : Routine Rule Item} {scan begun : Scan} {held : Held} :
      Reached source (.during collect guard item) scan →
      Runs routines source guard scan (some held) begun → Reached source item begun
  /-- A loop goes on behind each of its rounds. -/
  | again {Result : Type} {loop : Routine Rule Result} {scan begun after : Scan} :
      Reached source loop scan → Round source loop scan begun after → Reached source loop after
  | absent {Item Result : Type} {result : Result} {item : Routine Rule Item} {scan : Scan} :
      Reached source (.absent result item) scan → Reached source item scan.silence
  | check {First Result : Type} {test : First → Option Result} {item : Routine Rule First}
      {scan : Scan} :
      Reached source (.check test item) scan → Reached source item scan
  | demand {First Result : Type} {test : First → Option Result} {fault : First → ParseFault}
      {item : Routine Rule First} {scan : Scan} :
      Reached source (.demand test fault item) scan → Reached source item scan
  | named {Result : Type} {name : String} {item : Routine Rule Result} {scan : Scan} :
      Reached source (.named name item) scan → Reached source item scan.silence
  | attempt {Result : Type} {item : Routine Rule Result} {scan : Scan} :
      Reached source (.attempt item) scan → Reached source item scan
  | beforeFault {Result : Type} {item : Routine Rule Result} {scan : Scan} :
      Reached source (.beforeFault item) scan → scan.fault = none → Reached source item scan
  | unlessFault {Result : Type} {item : Routine Rule Result} {scan : Scan} :
      Reached source (.unlessFault item) scan → Reached source item scan

namespace Routine

def isTried {Result : Type} : Routine Rule Result → Bool
  | named _ _ => true
  | attempt _ => true
  | rule name =>
    match routines Result name with
    | named _ _ => true
    | attempt _ => true
    | _ => false
  | _ => false

def looksAhead {Result : Type} : Routine Rule Result → Bool
  | absent _ _ => true
  | _ => false

end Routine

/-- What a run leaves: places of the source, the depth of what is only tried, and the place it
started from where it was tried in vain or only looked ahead. -/
structure KeepsPlace (source : String) {Result : Type} (routine : Routine Rule Result)
    (scan : Scan) (found : Option Result) (after : Scan) : Prop where
  sound : after.Sound source
  silenced : after.silenced = scan.silenced
  restored : routine.isTried = true → found = none → after.place = scan.place
  looked : routine.looksAhead = true → after.place = scan.place

section Runs

variable {source : String} {Result : Type} {routine : Routine Rule Result} {scan begun after : Scan}
  {found : Option Result}

theorem Runs.restored (run : Runs routines source routine scan found after)
    (tried : routine.isTried = true) (fails : found = none) : after.place = scan.place := by
  induction run with
  | @rule _ name _ _ _ _ inductionHypothesis =>
      apply inductionHypothesis ?_ fails
      unfold Routine.isTried at tried
      cases isTried : routines _ name with
      | named => rfl
      | attempt => rfl
      | _ =>
          simp only [isTried] at tried
          cases tried
  | named _ _ => cases fails
  | namedFailed name _ _ => exact Scan.miss_place _ name
  | attempt _ => cases fails
  | attemptFailed _ _ => rfl
  | _ => cases tried

theorem Runs.looked (run : Runs routines source routine scan found after)
    (looksAhead : routine.looksAhead = true) : after.place = scan.place := by
  cases run with
  | absent _ _ => rfl
  | absentFailed _ _ => rfl
  | _ => cases looksAhead

theorem Runs.keepsPlace (run : Runs routines source routine scan found after)
    (sound : scan.Sound source) : KeepsPlace source routine scan found after :=
  ⟨run.sound sound, run.follows.silenced, run.restored, run.looked⟩

/-- The item of a round that succeeds passes a character. -/
theorem Round.passes (round : Round source routine scan begun after)
    (loopsAdvance : routine.loopsAdvance takesChar = true) (isPlace : IsPlace source scan.place) :
    ∃ taken, taken ≠ [] ∧ Passes source begun.place taken after.place := by
  cases round with
  | star run =>
      obtain ⟨takes, -⟩ := Bool.and_eq_true_iff.1 loopsAdvance
      obtain ⟨taken, passes, nonempty⟩ := run.passes takesChar takes_consistent isPlace
      exact ⟨taken, nonempty takes rfl, passes⟩
  | during guardRun run =>
      obtain ⟨-, takesLoops⟩ := Bool.and_eq_true_iff.1 loopsAdvance
      obtain ⟨takes, -⟩ := Bool.and_eq_true_iff.1 takesLoops
      obtain ⟨taken, passes, nonempty⟩ :=
        run.passes takesChar takes_consistent (guardRun.isPlace isPlace)
      exact ⟨taken, nonempty takes rfl, passes⟩

theorem Round.isPlace_begun (round : Round source routine scan begun after)
    (isPlace : IsPlace source scan.place) :
    IsPlace source begun.place ∧ begun.left source ≤ scan.left source := by
  cases round with
  | star run => exact ⟨isPlace, Nat.le_refl _⟩
  | during guardRun run => exact ⟨guardRun.isPlace isPlace, guardRun.left_le isPlace⟩

theorem Round.sound (round : Round source routine scan begun after) (sound : scan.Sound source) :
    after.Sound source := by
  cases round with
  | star run => exact run.sound sound
  | during guardRun run => exact run.sound (guardRun.sound sound)

/-- Rounds do not follow one another for ever, since each of them leaves fewer characters. -/
theorem acc_rounds (loopsAdvance : routine.loopsAdvance takesChar = true)
    (isPlace : IsPlace source scan.place) :
    Acc (fun later earlier => ∃ begun, Round source routine earlier begun later) scan := by
  induction size : scan.left source using Nat.strongRecOn generalizing scan with
  | ind size inductionHypothesis =>
      subst size
      refine ⟨scan, fun later ⟨begun, round⟩ => ?_⟩
      obtain ⟨begunIsPlace, notMore⟩ := round.isPlace_begun isPlace
      obtain ⟨taken, nonempty, passes⟩ := round.passes loopsAdvance isPlace
      have positive := List.length_pos_of_ne_nil nonempty
      have length := passes.length_rest
      have fewer : later.left source < scan.left source := by
        unfold Scan.left at notMore ⊢
        omega
      exact inductionHypothesis _ fewer (begunIsPlace.pass passes) rfl

/-- Whatever is started is started at places of the source, and its loops advance. -/
theorem Reached.sound (reached : Reached source routine scan) :
    scan.Sound source ∧ routine.loopsAdvance takesChar = true := by
  induction reached with
  | start name => exact ⟨.start source, rfl⟩
  | instead name _ inductionHypothesis => exact ⟨inductionHypothesis.1, rfl⟩
  | afterwards name _ run inductionHypothesis => exact ⟨run.sound inductionHypothesis.1, rfl⟩
  | @rule _ name _ _ inductionHypothesis =>
      exact ⟨inductionHypothesis.1, loopsAdvance_routines _ name⟩
  | map _ inductionHypothesis => exact inductionHypothesis
  | first _ inductionHypothesis =>
      exact ⟨inductionHypothesis.1, (Bool.and_eq_true_iff.1 inductionHypothesis.2).1⟩
  | second _ run inductionHypothesis =>
      exact ⟨run.sound inductionHypothesis.1, (Bool.and_eq_true_iff.1 inductionHypothesis.2).2⟩
  | firstChoice _ inductionHypothesis =>
      exact ⟨inductionHypothesis.1, (Bool.and_eq_true_iff.1 inductionHypothesis.2).1⟩
  | secondChoice _ run inductionHypothesis =>
      exact ⟨run.sound inductionHypothesis.1, (Bool.and_eq_true_iff.1 inductionHypothesis.2).2⟩
  | item _ inductionHypothesis =>
      exact ⟨inductionHypothesis.1, (Bool.and_eq_true_iff.1 inductionHypothesis.2).2⟩
  | guard _ inductionHypothesis =>
      exact ⟨inductionHypothesis.1, (Bool.and_eq_true_iff.1 inductionHypothesis.2).1⟩
  | guarded _ run inductionHypothesis =>
      obtain ⟨-, takesLoops⟩ := Bool.and_eq_true_iff.1 inductionHypothesis.2
      exact ⟨run.sound inductionHypothesis.1, (Bool.and_eq_true_iff.1 takesLoops).2⟩
  | again _ round inductionHypothesis =>
      exact ⟨round.sound inductionHypothesis.1, inductionHypothesis.2⟩
  | absent _ inductionHypothesis => exact ⟨inductionHypothesis.1.silence, inductionHypothesis.2⟩
  | check _ inductionHypothesis => exact inductionHypothesis
  | demand _ inductionHypothesis => exact inductionHypothesis
  | named _ inductionHypothesis => exact ⟨inductionHypothesis.1.silence, inductionHypothesis.2⟩
  | attempt _ inductionHypothesis => exact inductionHypothesis
  | beforeFault _ _ inductionHypothesis => exact inductionHypothesis
  | unlessFault _ inductionHypothesis => exact inductionHypothesis

end Runs

/-- The scanner says of a source what reading it comes to. Whatever routine it starts on the way,
and whatever rule is started anywhere on it, starts at places of the source and has one run. Every
run leaves places of the source and the depth of what is only tried, and puts the place back where
it was tried in vain or only looked ahead. Every round of a loop passes a character, so that the
rounds come to an end. -/
theorem backtracking_keepsPlace (source : String) :
    (∃ tree last, Runs routines source (.rule .body) Scan.start (some tree) last ∧
      verdict source tree last = Node.parse source) ∧
    ∀ {Result : Type} {routine : Routine Rule Result} {scan : Scan},
      Reached source routine scan →
        scan.Sound source ∧
        (∃! run : Option Result × Scan, Runs routines source routine scan run.1 run.2) ∧
        (∀ found after, Runs routines source routine scan found after →
          KeepsPlace source routine scan found after) ∧
        (∀ begun after, Round source routine scan begun after →
          ∃ taken, taken ≠ [] ∧ Passes source begun.place taken after.place) ∧
        Acc (fun later earlier => ∃ begun, Round source routine earlier begun later) scan := by
  refine ⟨exists_verdict source, fun {Result} {routine} {scan} reached => ?_⟩
  obtain ⟨sound, loopsAdvance⟩ := reached.sound
  obtain ⟨found, after, run⟩ := exists_run source routine loopsAdvance sound.place
  refine ⟨sound, ⟨(found, after), run, fun ⟨other, last⟩ again => ?_⟩, ?_, ?_, ?_⟩
  · obtain ⟨rfl, rfl⟩ := run.functional again
    rfl
  · exact fun found after run => run.keepsPlace sound
  · exact fun begun after round => round.passes loopsAdvance sound.place
  · exact acc_rounds loopsAdvance sound.place

/-- A section that is not closed is put back to the start of the source. -/
theorem backtracking_keepsPlace_unclosed :
    Reached "\x7b#abc" (.rule .sectionTag) Scan.start ∧
      ∃ after, Runs routines "\x7b#abc" (.rule .sectionTag) Scan.start none after ∧
        after.Sound "\x7b#abc" ∧ after.silenced = 0 ∧ after.place = Place.start := by
  have reached : Reached "\x7b#abc" (.rule .sectionTag) Scan.start := .start .sectionTag
  obtain ⟨sound, ⟨⟨found, after⟩, run, -⟩, keeps, -⟩ :=
    (backtracking_keepsPlace "\x7b#abc").2 reached
  have unclosed : section? parts (cursorAt "\x7b#abc" Scan.start.place) = .ok none := by rfl
  have tried := attempts_section (fun _ _ => completes_body) sound.place rfl run
  rw [unclosed] at tried
  have fails : found = none := Option.map_eq_none_iff.1 tried.2.symm
  subst fails
  have kept := keeps none after run
  exact ⟨reached, after, run, kept.sound, kept.silenced, kept.restored rfl rfl⟩

end BraceTemplate.Scanning
