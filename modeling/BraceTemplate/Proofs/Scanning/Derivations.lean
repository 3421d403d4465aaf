import BraceTemplate.Proofs.Grammar.Readers
import BraceTemplate.Proofs.Scanning.Places
import BraceTemplate.Proofs.Scanning.Template

/-!
Runs are derivations. A failure leaves the place where it was wherever something else is tried next,
so that what a routine runs to is what its expression derives, and a fault is what ends everything.
Main statement: `Runs.derives`.
-/

namespace BraceTemplate.Scanning

open Source Reading Grammar

variable {Rule : Type → Type} {source : String}

/-! ## Where a failure leaves the place -/

namespace Routine

variable (certainRules restoring : (Result : Type) → Rule Result → Bool)

/-- Whether a routine leaves the place where it was, also where it succeeds. -/
def stays {Result : Type} : Routine Rule Result → Bool
  | here _ => true
  | map _ item => item.stays
  | both _ first second => first.stays && second.stays
  | absent _ _ => true
  | _ => false

def certain {Result : Type} : Routine Rule Result → Bool
  | here _ => true
  | rule name => certainRules Result name
  | map _ item => item.certain
  | both _ first second => first.certain && second.certain
  | choice _ second => second.certain
  | star _ _ => true
  | named _ item => item.certain
  | attempt item => item.certain
  | beforeFault item => item.certain
  | unlessFault item => item.certain
  | _ => false

def restores {Result : Type} : Routine Rule Result → Bool
  | here _ => true
  | char _ _ => true
  | pieces _ all => decide (all.length ≤ 1)
  | rule name => restoring Result name
  | map _ item => item.restores
  | both _ first second =>
    first.restores && (second.certain certainRules || first.stays && second.restores)
  | choice first second => first.restores && second.restores
  | star _ _ => true
  | during _ _ _ => false
  | absent _ _ => true
  | check _ _ => false
  | demand _ _ _ => false
  | named _ _ => true
  | attempt _ => true
  | beforeFault item => item.restores
  | unlessFault item => item.restores

def backtracks {Result : Type} : Routine Rule Result → Bool
  | here _ => true
  | char _ _ => true
  | pieces _ _ => true
  | rule _ => true
  | map _ item => item.backtracks
  | both _ first second => first.backtracks && second.backtracks
  | choice first second =>
    first.restores certainRules restoring && (first.backtracks && second.backtracks)
  | star _ item => item.restores certainRules restoring && item.backtracks
  | during _ guard item =>
    guard.restores certainRules restoring && (guard.backtracks && item.backtracks)
  | absent _ item => item.backtracks
  | check _ item => item.backtracks
  | demand _ _ item => item.backtracks
  | named _ item => item.backtracks
  | attempt item => item.backtracks
  | beforeFault item => item.backtracks
  | unlessFault item => item.backtracks

end Routine

section Failures

variable {table : RoutineTable Rule} {certainRules restoring : (Result : Type) → Rule Result → Bool}
  {Result : Type} {routine : Routine Rule Result} {scan after : Scan} {found : Option Result}

theorem Runs.stays (run : Runs table source routine scan found after)
    (stays : routine.stays = true) : after.place = scan.place := by
  induction run with
  | here result scan => rfl
  | map change _ inductionHypothesis => exact inductionHypothesis stays
  | both join _ _ firstHypothesis secondHypothesis =>
      obtain ⟨firstStays, secondStays⟩ := Bool.and_eq_true_iff.1 stays
      exact (secondHypothesis secondStays).trans (firstHypothesis firstStays)
  | bothFailed join _ inductionHypothesis =>
      exact inductionHypothesis (Bool.and_eq_true_iff.1 stays).1
  | absent result _ _ => rfl
  | absentFailed result _ _ => rfl
  | _ => cases stays

variable (certainConsistent : ∀ (Result : Type) (name : Rule Result),
  certainRules Result name = true → (table Result name).certain certainRules = true)

include certainConsistent

theorem Runs.certain (run : Runs table source routine scan found after)
    (noFault : after.fault = none) (certain : routine.certain certainRules = true) :
    found.isSome = true := by
  induction run with
  | here result scan => rfl
  | rule _ inductionHypothesis =>
      exact inductionHypothesis noFault (certainConsistent _ _ certain)
  | map change _ inductionHypothesis =>
      rw [Option.isSome_map]
      exact inductionHypothesis noFault certain
  | both join _ _ _ secondHypothesis =>
      rw [Option.isSome_map]
      exact secondHypothesis noFault (Bool.and_eq_true_iff.1 certain).2
  | bothFailed join _ inductionHypothesis =>
      exact inductionHypothesis noFault (Bool.and_eq_true_iff.1 certain).1
  | firstChoice _ _ => rfl
  | secondChoice _ _ _ secondHypothesis => exact secondHypothesis noFault certain
  | star collect _ inductionHypothesis =>
      rw [Option.isSome_map]
      exact inductionHypothesis noFault rfl
  | named name _ _ => rfl
  | namedFailed name _ inductionHypothesis =>
      rw [Scan.miss_fault] at noFault
      exact inductionHypothesis noFault certain
  | attempt _ _ => rfl
  | attemptFailed _ inductionHypothesis => exact inductionHypothesis noFault certain
  | beforeFault _ _ inductionHypothesis => exact inductionHypothesis noFault certain
  | behindFault item fault => exact absurd noFault fault
  | unlessFault _ _ inductionHypothesis => exact inductionHypothesis noFault certain
  | withFault _ fault _ => exact absurd noFault fault
  | _ => cases certain

variable (restoringConsistent : ∀ (Result : Type) (name : Rule Result),
  restoring Result name = true → (table Result name).restores certainRules restoring = true)

include restoringConsistent

/-- A routine that restores leaves the place where it was when it fails without a fault. -/
theorem Runs.restores (run : Runs table source routine scan found after)
    (noFault : after.fault = none) (restores : routine.restores certainRules restoring = true)
    (fails : found = none) : after.place = scan.place := by
  induction run with
  | here result scan => rfl
  | @char _ kindOf called scan _ _ taken =>
      unfold Scan.takeChar at taken
      split at taken
      · cases taken
        cases fails
      · cases taken
        exact scan.miss_place called
  | pieces _ => cases fails
  | @piecesFailed _ _ all scan _ notTaken =>
      have single : all.length ≤ 1 := of_decide_eq_true restores
      obtain _ | ⟨piece, _ | ⟨other, more⟩⟩ := all
      · cases notTaken
      · unfold Scan.takePieces at notTaken
        split at notTaken
        · cases notTaken
        · cases notTaken
          cases piece.called with
          | none => rfl
          | some what => exact scan.miss_place what
      · simp at single
  | rule _ inductionHypothesis =>
      exact inductionHypothesis noFault (restoringConsistent _ _ restores) fails
  | map change _ inductionHypothesis =>
      exact inductionHypothesis noFault restores (Option.map_eq_none_iff.1 fails)
  | both join first second firstHypothesis secondHypothesis =>
      have secondFails := Option.map_eq_none_iff.1 fails
      obtain ⟨-, later⟩ := Bool.and_eq_true_iff.1 restores
      rcases Bool.or_eq_true_iff.1 later with certain | stays
      · have succeeds := second.certain certainConsistent noFault certain
        rw [secondFails] at succeeds
        cases succeeds
      · obtain ⟨firstStays, secondRestores⟩ := Bool.and_eq_true_iff.1 stays
        exact (secondHypothesis noFault secondRestores secondFails).trans (first.stays firstStays)
  | bothFailed join _ inductionHypothesis =>
      exact inductionHypothesis noFault (Bool.and_eq_true_iff.1 restores).1 rfl
  | firstChoice _ _ => cases fails
  | secondChoice _ second firstHypothesis secondHypothesis =>
      obtain ⟨firstRestores, secondRestores⟩ := Bool.and_eq_true_iff.1 restores
      exact (secondHypothesis noFault secondRestores fails).trans
        (firstHypothesis (second.follows.fault noFault) firstRestores rfl)
  | star collect unfolded _ =>
      have succeeds := unfolded.certain certainConsistent noFault rfl
      rw [Option.map_eq_none_iff.1 fails] at succeeds
      cases succeeds
  | during => cases restores
  | duringEnd => cases restores
  | absent result _ _ => rfl
  | absentFailed result _ _ => rfl
  | check => cases restores
  | demandMet => cases restores
  | demandUnmet => cases restores
  | demandFailed => cases restores
  | named => cases fails
  | namedFailed name _ _ => rw [Scan.miss_place, Scan.moveTo_place]
  | attempt => cases fails
  | attemptFailed _ _ => rfl
  | beforeFault _ _ inductionHypothesis => exact inductionHypothesis noFault restores fails
  | behindFault item fault => rfl
  | unlessFault _ _ inductionHypothesis => exact inductionHypothesis noFault restores fails
  | withFault _ fault _ => exact absurd noFault fault

end Failures

/-! ## Outcomes of runs -/

/-- What an expression derives where a routine returns something and leaves a state. -/
def Scan.outcome (source : String) {Result : Type} (after : Scan) (found : Option Result) :
    Outcome Result :=
  if after.fault = none then
    .ofOption (found.map fun result => (result, cursorAt source after.place))
  else .aborted

namespace Scan

variable {First Second Result : Type} {after : Scan}

theorem outcome_some (noFault : after.fault = none) (result : Result) :
    after.outcome source (some result) = .matched result (cursorAt source after.place) :=
  if_pos noFault

theorem outcome_none (noFault : after.fault = none) :
    after.outcome source (none : Option Result) = .failed :=
  if_pos noFault

theorem outcome_of_fault (fault : after.fault ≠ none) (found : Option Result) :
    after.outcome source found = .aborted :=
  if_neg fault

theorem outcome_map (change : First → Second) (found : Option First) :
    after.outcome source (found.map change) = (after.outcome source found).map change := by
  unfold outcome
  split_ifs
  · cases found <;> rfl
  · rfl

theorem outcome_check (test : First → Option Second) (found : Option First) :
    after.outcome source (found.bind test) = (after.outcome source found).check test := by
  unfold outcome
  split_ifs
  · cases found with
    | none => rfl
    | some value =>
        simp only [Option.bind_some, Option.map_some, Outcome.ofOption, Outcome.check]
        cases test value <;> rfl
  · rfl

/-- A lookahead finds nothing or something, and puts the place back. -/
theorem outcome_absent (result : Second) (found : Option First) (place : Place) :
    (after.unsilence.moveTo place).outcome source (found.elim (some result) fun _ => none) =
      (after.outcome source found).absent result (cursorAt source place) := by
  by_cases noFault : after.fault = none
  · have behind : (after.unsilence.moveTo place).fault = none := noFault
    unfold outcome
    rw [if_pos noFault, if_pos behind]
    cases found <;> rfl
  · have behind : (after.unsilence.moveTo place).fault ≠ none := noFault
    rw [outcome_of_fault noFault, outcome_of_fault behind]
    rfl

section Demands

variable {test : First → Option Second} {value : First}

theorem outcome_demandMet {result : Second} (accepted : test value = some result) :
    after.outcome source (some result) = (after.outcome source (some value)).demand test := by
  unfold outcome
  split_ifs
  · simp only [Option.map_some, Outcome.ofOption, Outcome.demand, accepted]
  · rfl

theorem outcome_demandUnmet (fault : ParseFault) (rejected : test value = none) :
    (after.noteFault fault).outcome source (none : Option Second) =
      (after.outcome source (some value)).demand test := by
  rw [outcome_of_fault (Option.some_ne_none _)]
  unfold outcome
  split_ifs
  · simp only [Option.map_some, Outcome.ofOption, Outcome.demand, rejected]
  · rfl

theorem outcome_demandFailed (test : First → Option Second) :
    after.outcome source (none : Option Second) =
      (after.outcome source (none : Option First)).demand test := by
  unfold outcome
  split_ifs <;> rfl

end Demands

end Scan

/-! ## Characters -/

section Characters

variable {table : Table Rule} {Result : Type} {scan after : Scan}

theorem derives_spelled (result : Result) (chars : List Char) (cursor : Cursor) :
    Derives table (spelled result chars) cursor
      (.ofOption ((cursor.literal? chars).map fun after => (result, after))) := by
  induction chars generalizing cursor with
  | nil => exact .here _ cursor
  | cons wanted more inductionHypothesis =>
      obtain ⟨place, rest⟩ := cursor
      cases rest with
      | nil => exact .bothFailed _ (.noChar _ _ rfl)
      | cons char rest =>
          by_cases same : wanted = char
          · have first : Derives table (.char fun char => if wanted = char then some () else none)
                ⟨place, char :: rest⟩ (.matched () ⟨place.advance char, rest⟩) :=
              .char _ _ (by simp [Cursor.classify?, same])
            have whole := Derives.both (fun _ result => result) first
              (inductionHypothesis ⟨place.advance char, rest⟩)
            simp only [Cursor.literal?, if_pos same]
            cases found : Cursor.literal? more ⟨place.advance char, rest⟩ <;>
              rw [found] at whole <;> exact whole
          · simp only [Cursor.literal?, if_neg same]
            exact .bothFailed _ (.noChar _ _ (by simp [Cursor.classify?, same]))

/-- Behind what a cursor passes there is the cursor of the source again. -/
theorem cursorAt_of_passes {place : Place} {taken : List Char} {cursor : Cursor}
    (isPlace : IsPlace source place) (rest : (cursorAt source place).rest = taken ++ cursor.rest)
    (behind : cursor.place = place.advanceAll taken) : cursorAt source cursor.place = cursor := by
  have passes := isPlace.passes rest
  rw [← behind] at passes
  have same := passes.rest
  rw [rest, List.append_cancel_left_eq] at same
  obtain ⟨cursorPlace, cursorRest⟩ := cursor
  exact congrArg (Cursor.mk cursorPlace) same.symm

theorem derives_char {kindOf : Char → Option Result} {called : String} {found : Option Result}
    (isPlace : IsPlace source scan.place) (noFault : scan.fault = none)
    (taken : scan.takeChar source kindOf called = (found, after)) :
    Derives table (.char kindOf) (cursorAt source scan.place) (after.outcome source found) := by
  unfold Scan.takeChar at taken
  split at taken
  · rename_i kind behind next
    cases taken
    obtain ⟨passed, rest, place⟩ := advances_classify? next
    rw [Scan.outcome_some (by exact noFault), Scan.moveTo_place,
      cursorAt_of_passes isPlace rest place]
    exact .char kindOf _ next
  · rename_i next
    cases taken
    rw [Scan.outcome_none (by rwa [Scan.miss_fault])]
    exact .noChar kindOf _ next

theorem literal?_append (chars more : List Char) (cursor : Cursor) :
    cursor.literal? (chars ++ more) = (cursor.literal? chars).bind fun behind =>
      behind.literal? more := by
  induction chars generalizing cursor with
  | nil => rfl
  | cons wanted chars inductionHypothesis =>
      obtain ⟨place, rest⟩ := cursor
      cases rest with
      | nil => rfl
      | cons char rest =>
          simp only [List.cons_append, Cursor.literal?, inductionHypothesis]
          split_ifs <;> rfl

/-- Pieces are taken where their characters come next all together. -/
theorem literal?_of_takePieces {all : List Piece} {found : Bool}
    (isPlace : IsPlace source scan.place) (taken : scan.takePieces source all = (found, after)) :
    after.fault = scan.fault ∧
      (cursorAt source scan.place).literal? (all.flatMap Piece.chars) =
        if found then some (cursorAt source after.place) else none := by
  induction all generalizing scan with
  | nil =>
      cases taken
      exact ⟨rfl, rfl⟩
  | cons piece more inductionHypothesis =>
      rw [List.flatMap_cons, literal?_append]
      unfold Scan.takePieces at taken
      split at taken
      · rename_i behind next
        obtain ⟨rest, place⟩ := literal?_eq_some_iff.1 next
        have same := cursorAt_of_passes isPlace rest place
        have behindIsPlace : IsPlace source behind.place := by
          rw [place]
          exact isPlace.pass (isPlace.passes rest)
        obtain ⟨fault, later⟩ := inductionHypothesis
          (show IsPlace source (scan.moveTo behind.place).place from behindIsPlace) taken
        rw [Scan.moveTo_place, same] at later
        exact ⟨fault, by rw [next, Option.bind_some, later]⟩
      · rename_i next
        cases taken
        refine ⟨?_, by rw [next]; rfl⟩
        cases piece.called with
        | none => rfl
        | some what => exact scan.miss_fault what

theorem derives_pieces (result : Result) {all : List Piece} {found : Bool}
    (isPlace : IsPlace source scan.place) (noFault : scan.fault = none)
    (taken : scan.takePieces source all = (found, after)) :
    Derives table (spelled result (all.flatMap Piece.chars)) (cursorAt source scan.place)
      (after.outcome source (if found then some result else none)) := by
  obtain ⟨fault, next⟩ := literal?_of_takePieces isPlace taken
  have afterNoFault := fault.trans noFault
  have spells : Derives table _ _ _ :=
    derives_spelled result (all.flatMap Piece.chars) (cursorAt source scan.place)
  rw [next] at spells
  cases found with
  | true =>
      rw [if_pos rfl, Scan.outcome_some afterNoFault]
      exact spells
  | false =>
      rw [if_neg Bool.false_ne_true, Scan.outcome_none afterNoFault]
      exact spells

end Characters

section During

variable {table : Table Rule} {Held Item Result : Type} {guard : Expression Rule Held}
  {item : Expression Rule Item} {cursor : Cursor}

theorem star_not_failed : ¬ Derives table (.star id item) cursor .failed := by
  intro fails
  generalize isFailed : Outcome.failed = outcome at fails
  cases fails with
  | @star _ _ _ _ _ outcome unfolded =>
      cases outcome with
      | matched => cases isFailed
      | aborted => cases isFailed
      | failed =>
          cases unfolded with
          | firstChoice notFailed _ => exact notFailed rfl
          | secondChoice _ ends => cases ends

/-- A loop with a guard: rounds behind a guard that holds, up to where it does not hold. -/
abbrev guarded (collect : List Item → Result) (guard : Expression Rule Held)
    (item : Expression Rule Item) : Expression Rule Result :=
  .both (fun results _ => collect results)
    (.star id (.both (fun _ result => result) guard item)) (.absent () guard)

theorem derives_guardedEnd (collect : List Item → Result)
    (fails : Derives table guard cursor .failed) :
    Derives table (guarded collect guard item) cursor (.matched (collect []) cursor) :=
  .both _ (Derives.starEnd (.bothFailed _ fails)) (.absent () fails)

theorem derives_guarded (collect : List Item → Result) {held : Held} {middle : Cursor}
    {outcome : Outcome (List Item)} (holds : Derives table guard cursor (.matched held middle))
    (round : Derives table (.both List.cons item (guarded id guard item)) middle outcome) :
    Derives table (guarded collect guard item) cursor (outcome.map collect) := by
  cases round with
  | @both _ _ _ _ _ _ _ behind value found itemMatches goesOn =>
      have first := Derives.both (fun _ result => result) holds itemMatches
      cases goesOn with
      | @both _ _ _ _ _ _ _ last results ends more ended =>
          have whole := Derives.both (fun results _ => collect results)
            (Derives.starMore first more nofun) ended
          cases ends <;> exact whole
      | bothFailed _ more => exact absurd more star_not_failed
      | bothAborted _ more => exact .bothAborted _ (Derives.starMore first more nofun)
  | bothFailed _ itemFails =>
      have ends := Derives.starEnd (.both (fun _ result => result) holds itemFails)
      exact .both _ ends (.absent () holds)
  | bothAborted _ itemAborts =>
      exact .bothAborted _ (Derives.starAborted (.both (fun _ result => result) holds itemAborts))

end During

/-! ## Runs -/

section Runs

variable {table : RoutineTable Rule} {grammar : Table Rule}
  {certainRules restoring : (Result : Type) → Rule Result → Bool}
  (certainConsistent : ∀ (Result : Type) (name : Rule Result),
    certainRules Result name = true → (table Result name).certain certainRules = true)
  (restoringConsistent : ∀ (Result : Type) (name : Rule Result),
    restoring Result name = true → (table Result name).restores certainRules restoring = true)
  (backtracking : ∀ (Result : Type) (name : Rule Result),
    (table Result name).backtracks certainRules restoring = true)
  (agrees : ∀ (Result : Type) (name : Rule Result) (cursor : Cursor) (outcome : Outcome Result),
    Derives grammar (table Result name).expression cursor outcome →
      Derives grammar (.rule name) cursor outcome)

include certainConsistent restoringConsistent backtracking agrees

/-- A run that starts without a fault is a derivation: what it returns is matched up to the place it
leaves, and a fault ends everything. -/
theorem Runs.derives {Result : Type} {routine : Routine Rule Result} {scan after : Scan}
    {found : Option Result} (run : Runs table source routine scan found after)
    (isPlace : IsPlace source scan.place) (noFault : scan.fault = none)
    (backtracks : routine.backtracks certainRules restoring = true) :
    Derives grammar routine.expression (cursorAt source scan.place)
      (after.outcome source found) := by
  induction run with
  | here result scan =>
      rw [Scan.outcome_some noFault]
      exact .here result _
  | char taken => exact derives_char isPlace noFault taken
  | pieces taken => exact derives_pieces _ isPlace noFault taken
  | piecesFailed notTaken => exact derives_pieces _ isPlace noFault notTaken
  | rule _ inductionHypothesis =>
      exact agrees _ _ _ _ (inductionHypothesis isPlace noFault (backtracking _ _))
  | @map _ _ change _ _ _ found _ inductionHypothesis =>
      have item := Derives.check (fun result => some (change result))
        (inductionHypothesis isPlace noFault backtracks)
      rw [← Scan.outcome_check] at item
      cases found <;> exact item
  | @both _ _ _ join _ _ _ middle after value found first second firstHypothesis
      secondHypothesis =>
      obtain ⟨firstBacktracks, secondBacktracks⟩ := Bool.and_eq_true_iff.1 backtracks
      have firstDerives := firstHypothesis isPlace noFault firstBacktracks
      by_cases middleNoFault : middle.fault = none
      · rw [Scan.outcome_some middleNoFault] at firstDerives
        rw [Scan.outcome_map]
        exact .both join firstDerives
          (secondHypothesis (first.isPlace isPlace) middleNoFault secondBacktracks)
      · rw [Scan.outcome_of_fault middleNoFault] at firstDerives
        rw [Scan.outcome_of_fault (fun none => middleNoFault (second.follows.fault none))]
        exact .bothAborted join firstDerives
  | @bothFailed _ _ _ join _ _ _ after _ inductionHypothesis =>
      have firstDerives := inductionHypothesis isPlace noFault (Bool.and_eq_true_iff.1 backtracks).1
      by_cases afterNoFault : after.fault = none
      · rw [Scan.outcome_none afterNoFault] at firstDerives ⊢
        exact .bothFailed join firstDerives
      · rw [Scan.outcome_of_fault afterNoFault] at firstDerives ⊢
        exact .bothAborted join firstDerives
  | @firstChoice _ _ _ _ after _ _ inductionHypothesis =>
      obtain ⟨-, both⟩ := Bool.and_eq_true_iff.1 backtracks
      have firstDerives := inductionHypothesis isPlace noFault (Bool.and_eq_true_iff.1 both).1
      refine .firstChoice ?_ firstDerives
      by_cases afterNoFault : after.fault = none
      · rw [Scan.outcome_some afterNoFault]
        nofun
      · rw [Scan.outcome_of_fault afterNoFault]
        nofun
  | @secondChoice _ _ _ _ middle after found first second firstHypothesis secondHypothesis =>
      obtain ⟨firstRestores, both⟩ := Bool.and_eq_true_iff.1 backtracks
      obtain ⟨firstBacktracks, secondBacktracks⟩ := Bool.and_eq_true_iff.1 both
      have firstDerives := firstHypothesis isPlace noFault firstBacktracks
      by_cases middleNoFault : middle.fault = none
      · rw [Scan.outcome_none middleNoFault] at firstDerives
        have restored :=
          first.restores certainConsistent restoringConsistent middleNoFault firstRestores rfl
        have secondDerives :=
          secondHypothesis (first.isPlace isPlace) middleNoFault secondBacktracks
        rw [restored] at secondDerives
        exact .secondChoice firstDerives secondDerives
      · rw [Scan.outcome_of_fault middleNoFault] at firstDerives
        rw [Scan.outcome_of_fault (fun none => middleNoFault (second.follows.fault none))]
        exact .firstChoice nofun firstDerives
  | star collect _ inductionHypothesis =>
      obtain ⟨itemRestores, itemBacktracks⟩ := Bool.and_eq_true_iff.1 backtracks
      rw [Scan.outcome_map]
      apply Derives.star collect
      apply inductionHypothesis isPlace noFault
      simp only [Routine.backtracks, Routine.restores, Routine.certain, itemRestores,
        itemBacktracks, Bool.true_or, Bool.and_self]
  | @during _ _ _ collect _ _ _ middle after _ _ guard round guardHypothesis roundHypothesis =>
      obtain ⟨guardRestores, both⟩ := Bool.and_eq_true_iff.1 backtracks
      obtain ⟨guardBacktracks, itemBacktracks⟩ := Bool.and_eq_true_iff.1 both
      have guardDerives := guardHypothesis isPlace noFault guardBacktracks
      by_cases middleNoFault : middle.fault = none
      · rw [Scan.outcome_some middleNoFault] at guardDerives
        have roundDerives := roundHypothesis (guard.isPlace isPlace) middleNoFault (by
          simp only [Routine.backtracks, guardRestores, guardBacktracks, itemBacktracks,
            Bool.and_self])
        rw [Scan.outcome_map]
        exact derives_guarded collect guardDerives roundDerives
      · rw [Scan.outcome_of_fault middleNoFault] at guardDerives
        rw [Scan.outcome_of_fault (fun none => middleNoFault (round.follows.fault none))]
        exact .bothAborted _ (Derives.starAborted (.bothAborted _ guardDerives))
  | @duringEnd _ _ _ collect _ _ _ after guard inductionHypothesis =>
      obtain ⟨guardRestores, both⟩ := Bool.and_eq_true_iff.1 backtracks
      have guardDerives := inductionHypothesis isPlace noFault (Bool.and_eq_true_iff.1 both).1
      by_cases afterNoFault : after.fault = none
      · rw [Scan.outcome_none afterNoFault] at guardDerives
        have restored :=
          guard.restores certainConsistent restoringConsistent afterNoFault guardRestores rfl
        rw [Scan.outcome_some afterNoFault, restored]
        exact derives_guardedEnd collect guardDerives
      · rw [Scan.outcome_of_fault afterNoFault] at guardDerives ⊢
        exact .bothAborted _ (Derives.starAborted (.bothAborted _ guardDerives))
  | absent result _ inductionHypothesis =>
      have lookahead := Derives.absent result (inductionHypothesis isPlace noFault backtracks)
      rwa [← Scan.outcome_absent] at lookahead
  | absentFailed result _ inductionHypothesis =>
      have lookahead := Derives.absent result (inductionHypothesis isPlace noFault backtracks)
      rwa [← Scan.outcome_absent] at lookahead
  | check test _ inductionHypothesis =>
      rw [Scan.outcome_check]
      exact .check test (inductionHypothesis isPlace noFault backtracks)
  | demandMet _ accepted inductionHypothesis =>
      rw [Scan.outcome_demandMet accepted]
      exact .demand _ (inductionHypothesis isPlace noFault backtracks)
  | demandUnmet _ rejected inductionHypothesis =>
      rw [Scan.outcome_demandUnmet _ rejected]
      exact .demand _ (inductionHypothesis isPlace noFault backtracks)
  | @demandFailed _ _ test _ _ _ _ _ inductionHypothesis =>
      rw [Scan.outcome_demandFailed test]
      exact .demand test (inductionHypothesis isPlace noFault backtracks)
  | named name _ inductionHypothesis => exact inductionHypothesis isPlace noFault backtracks
  | @namedFailed _ name _ _ after _ inductionHypothesis =>
      have item := inductionHypothesis isPlace noFault backtracks
      unfold Scan.outcome at item ⊢
      rwa [Scan.miss_fault]
  | attempt _ inductionHypothesis => exact inductionHypothesis isPlace noFault backtracks
  | attemptFailed _ inductionHypothesis => exact inductionHypothesis isPlace noFault backtracks
  | beforeFault _ _ inductionHypothesis => exact inductionHypothesis isPlace noFault backtracks
  | behindFault item fault => exact absurd noFault fault
  | unlessFault _ _ inductionHypothesis => exact inductionHypothesis isPlace noFault backtracks
  | withFault _ fault inductionHypothesis =>
      have item := inductionHypothesis isPlace noFault backtracks
      rw [Scan.outcome_of_fault fault] at item ⊢
      exact item

end Runs

end BraceTemplate.Scanning
