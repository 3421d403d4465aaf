import BraceTemplate.Proofs.Reading.EndTags
import BraceTemplate.Proofs.Scanning.Halting
import BraceTemplate.Proofs.Scanning.Readings

/-!
Sections, their bodies and parts run to what is read of them, the fault of a section that is not
closed included: nothing is tried behind a fault, and no section around it makes a difference. Main
statement: `completes_body`.
-/

namespace BraceTemplate.Scanning

open Source Reading Grammar

variable {source : String}

/-! ## Attempts at reading -/

abbrev Attempt (Result : Type) : Type :=
  Except ParseError (Option (Result × Cursor))

namespace Attempt

variable {First Second Result : Type}

def both (join : First → Second → Result) (first : Attempt First)
    (second : Cursor → Attempt Second) : Attempt Result :=
  match first with
  | .error error => .error error
  | .ok none => .ok none
  | .ok (some (value, middle)) =>
    (second middle).map fun found => found.map fun (other, last) => (join value other, last)

def orElse (first second : Attempt Result) : Attempt Result :=
  match first with
  | .error error => .error error
  | .ok none => second
  | .ok (some found) => .ok (some found)

def demand (test : First → Option Result) (fault : First → ParseFault) (item : Attempt First) :
    Attempt Result :=
  match item with
  | .error error => .error error
  | .ok none => .ok none
  | .ok (some (value, last)) =>
    match test value with
    | some result => .ok (some (result, last))
    | none => .error (.at last.place (fault value))

end Attempt

def oneByOne {Item : Type} (one : Cursor → Attempt Item)
    (all : Cursor → Except ParseError (List Item × Cursor)) (cursor : Cursor) :
    Except ParseError (List Item × Cursor) :=
  match one cursor with
  | .error error => .error error
  | .ok none => .ok ([], cursor)
  | .ok (some (result, behind)) =>
    (all behind).map fun (results, last) => (result :: results, last)

def ComesTo (source : String) {Result : Type} (found : Option Result) (after : Scan) :
    Attempt Result → Prop
  | .error error => found = none ∧ after.fault = some error
  | .ok read =>
    after.fault = none ∧ read = found.map fun result => (result, cursorAt source after.place)

def Attempts (source : String) {Result : Type} (routine : Routine Rule Result) (scan : Scan)
    (attempt : Attempt Result) : Prop :=
  ∀ ⦃found : Option Result⦄ ⦃after : Scan⦄, Runs routines source routine scan found after →
    ComesTo source found after attempt

/-- A routine comes to what is read without a failure but for a fault. What it returns where there
is a fault makes no difference. -/
def Completes (source : String) {Result : Type} (routine : Routine Rule Result) (scan : Scan)
    (whole : Except ParseError (Result × Cursor)) : Prop :=
  ∀ ⦃found : Option Result⦄ ⦃after : Scan⦄, Runs routines source routine scan found after →
    match whole with
    | .error error => after.fault = some error
    | .ok (result, last) =>
      after.fault = none ∧ found = some result ∧ last = cursorAt source after.place

section Operators

variable {First Second Result : Type} {scan : Scan}

namespace Attempts

theorem ofReads {routine : Routine Rule Result} {read : Option (Result × Cursor)}
    (isPlace : IsPlace source scan.place) (noFault : scan.fault = none)
    (backtracks : routine.backtracks alwaysMatches alwaysRestores = true)
    (reads : Reads routine.expression (cursorAt source scan.place) read) :
    Attempts source routine scan (.ok read) :=
  fun _ _ run => run.reads isPlace noFault backtracks reads

/-- What is tried where the place was put back reads what there was to read before. -/
theorem ofReadsBack {routine : Routine Rule Result} {middle : Scan}
    {read : Option (Result × Cursor)} (isPlace : IsPlace source scan.place)
    (backtracks : routine.backtracks alwaysMatches alwaysRestores = true)
    (reads : Reads routine.expression (cursorAt source scan.place) read)
    (back : middle.place = scan.place) (noFault : middle.fault = none) :
    Attempts source routine middle (.ok read) := by
  rw [← back] at isPlace reads
  exact ofReads isPlace noFault backtracks reads

theorem both {join : First → Second → Result} {first : Routine Rule First}
    {second : Routine Rule Second} {firstAttempt : Attempt First}
    {secondAttempt : Cursor → Attempt Second}
    (firstAttempts : Attempts source first scan firstAttempt)
    (secondAttempts : ∀ ⦃value : First⦄ ⦃middle : Scan⦄,
      Runs routines source first scan (some value) middle → middle.fault = none →
      Attempts source second middle (secondAttempt (cursorAt source middle.place))) :
    Attempts source (.both join first second) scan (firstAttempt.both join secondAttempt) := by
  intro found after run
  cases run with
  | @both _ _ _ _ _ _ _ middle _ value other firstRun secondRun =>
      have begun := firstAttempts firstRun
      rcases firstAttempt with error | _ | ⟨result, behind⟩
      · cases begun.1
      · cases begun.2
      · obtain ⟨noFault, same⟩ := begun
        cases same
        have ended := secondAttempts firstRun noFault secondRun
        simp only [Attempt.both]
        cases secondRead : secondAttempt (cursorAt source middle.place) with
        | error error =>
            rw [secondRead] at ended
            obtain ⟨rfl, fault⟩ := ended
            exact ⟨rfl, fault⟩
        | ok read =>
            rw [secondRead] at ended
            obtain ⟨noFault, rfl⟩ := ended
            refine ⟨noFault, ?_⟩
            cases other <;> rfl
  | bothFailed _ firstRun =>
      have begun := firstAttempts firstRun
      rcases firstAttempt with error | _ | ⟨result, behind⟩
      · exact ⟨rfl, begun.2⟩
      · exact ⟨begun.1, rfl⟩
      · cases begun.2

theorem choice {first second : Routine Rule Result} {read : Option (Result × Cursor)}
    {secondAttempt : Attempt Result}
    (restores : first.restores alwaysMatches alwaysRestores = true)
    (firstAttempts : Attempts source first scan (.ok read))
    (secondAttempts : ∀ ⦃middle : Scan⦄, middle.place = scan.place → middle.fault = none →
      Attempts source second middle secondAttempt) :
    Attempts source (.choice first second) scan (Attempt.orElse (.ok read) secondAttempt) := by
  intro found after run
  cases run with
  | firstChoice firstRun =>
      obtain ⟨noFault, rfl⟩ := firstAttempts firstRun
      exact ⟨noFault, rfl⟩
  | secondChoice firstRun secondRun =>
      obtain ⟨noFault, rfl⟩ := firstAttempts firstRun
      exact secondAttempts (firstRun.putsBack noFault restores) noFault secondRun

/-- What stands behind a fault is not tried. -/
theorem orElse {first second : Routine Rule Result} {firstAttempt secondAttempt : Attempt Result}
    (restores : first.restores alwaysMatches alwaysRestores = true)
    (firstAttempts : Attempts source first scan firstAttempt)
    (secondAttempts : ∀ ⦃middle : Scan⦄, middle.place = scan.place → middle.fault = none →
      Attempts source second middle secondAttempt) :
    Attempts source (.choice first (.beforeFault second)) scan
      (firstAttempt.orElse secondAttempt) := by
  intro found after run
  cases run with
  | firstChoice firstRun =>
      have begun := firstAttempts firstRun
      rcases firstAttempt with error | _ | ⟨result, behind⟩
      · exact begun
      · cases begun.2
      · exact begun
  | secondChoice firstRun secondRun =>
      have begun := firstAttempts firstRun
      rcases firstAttempt with error | _ | ⟨result, behind⟩
      · cases secondRun with
        | beforeFault noFault _ =>
            have impossible := noFault.symm.trans begun.2
            cases impossible
        | behindFault _ _ => exact begun
      · cases secondRun with
        | beforeFault noFault secondRun =>
            exact secondAttempts (firstRun.putsBack noFault restores) noFault secondRun
        | behindFault _ fault => exact absurd begun.1 fault
      · cases begun.2

theorem demand {test : First → Option Result} {fault : First → ParseFault}
    {item : Routine Rule First} {attempt : Attempt First}
    (attempts : Attempts source item scan attempt) :
    Attempts source (.demand test fault item) scan (attempt.demand test fault) := by
  intro found after run
  cases run with
  | demandMet itemRun accepted =>
      have tried := attempts itemRun
      rcases attempt with error | _ | ⟨value, last⟩
      · cases tried.1
      · cases tried.2
      · obtain ⟨noFault, same⟩ := tried
        cases same
        simp only [Attempt.demand, accepted]
        exact ⟨noFault, rfl⟩
  | demandUnmet itemRun rejected =>
      have tried := attempts itemRun
      rcases attempt with error | _ | ⟨value, last⟩
      · cases tried.1
      · cases tried.2
      · obtain ⟨noFault, same⟩ := tried
        cases same
        simp only [Attempt.demand, rejected]
        exact ⟨rfl, rfl⟩
  | demandFailed itemRun =>
      have tried := attempts itemRun
      rcases attempt with error | _ | ⟨value, last⟩
      · exact ⟨rfl, tried.2⟩
      · exact ⟨tried.1, rfl⟩
      · cases tried.2

theorem named {name : String} {item : Routine Rule Result} {attempt : Attempt Result}
    (attempts : Attempts source item scan.silence attempt) :
    Attempts source (.named name item) scan attempt := by
  intro found after run
  cases run with
  | named _ itemRun =>
      have tried := attempts itemRun
      cases attempt <;> exact tried
  | namedFailed _ itemRun =>
      have tried := attempts itemRun
      cases attempt with
      | error error => exact ⟨rfl, (Scan.miss_fault _ name).trans tried.2⟩
      | ok read => exact ⟨(Scan.miss_fault _ name).trans tried.1, tried.2⟩

theorem attempt {item : Routine Rule Result} {attempt : Attempt Result}
    (attempts : Attempts source item scan attempt) :
    Attempts source (.attempt item) scan attempt := by
  intro found after run
  cases run with
  | attempt itemRun => exact attempts itemRun
  | attemptFailed itemRun =>
      have tried := attempts itemRun
      cases attempt <;> exact tried

theorem beforeFault {item : Routine Rule Result} {attempt : Attempt Result}
    (noFault : scan.fault = none) (attempts : Attempts source item scan attempt) :
    Attempts source (.beforeFault item) scan attempt := by
  intro found after run
  cases run with
  | beforeFault _ itemRun => exact attempts itemRun
  | behindFault _ fault => exact absurd noFault fault

end Attempts

namespace Completes

theorem named {name : String} {item : Routine Rule Result}
    {whole : Except ParseError (Result × Cursor)}
    (completes : Completes source item scan.silence whole) :
    Completes source (.named name item) scan whole := by
  intro found after run
  cases run with
  | named _ itemRun =>
      have tried := completes itemRun
      rcases whole with error | ⟨result, last⟩ <;> exact tried
  | namedFailed _ itemRun =>
      have tried := completes itemRun
      rcases whole with error | ⟨result, last⟩
      · exact (Scan.miss_fault _ name).trans tried
      · cases tried.2.1

/-- What must not succeed with a fault is an attempt. -/
theorem unlessFault {item : Routine Rule Result} {whole : Except ParseError (Result × Cursor)}
    (completes : Completes source item scan whole) :
    Attempts source (.unlessFault item) scan (whole.map some) := by
  intro found after run
  cases run with
  | unlessFault itemRun noFault =>
      have tried := completes itemRun
      rcases whole with error | ⟨result, last⟩
      · have impossible := noFault.symm.trans tried
        cases impossible
      · obtain ⟨-, rfl, rfl⟩ := tried
        exact ⟨noFault, rfl⟩
  | withFault itemRun fault =>
      have tried := completes itemRun
      rcases whole with error | ⟨result, last⟩
      · exact ⟨rfl, tried⟩
      · exact absurd tried.1 fault

end Completes

/-- Building something of the position leaves the state as it is. -/
theorem Runs.eq_of_position {build : Position → Result} {after : Scan} {found : Option Result}
    (run : Runs routines source (build <$> .position) scan found after) :
    found = some (build scan.place.position) ∧ after = scan := by
  cases run with
  | map _ here =>
      cases here
      exact ⟨rfl, rfl⟩

/-- A loop ends where its item fails, or goes on behind the item. -/
theorem Runs.star_cases {Item : Type} {item : Routine Rule Item} {after : Scan}
    {found : Option (List Item)}
    (run : Runs routines source (.star id item) scan found after) :
    (found = some [] ∧ Runs routines source item scan none after) ∨
      ∃ result results middle, found = some (result :: results) ∧
        Runs routines source item scan (some result) middle ∧
        Runs routines source (.star id item) middle (some results) after := by
  cases run with
  | star _ unfolded =>
      cases unfolded with
      | firstChoice round =>
          generalize whole : some _ = found at round
          cases round with
          | @both _ _ _ _ _ _ _ middle _ result more first rest =>
              cases more with
              | none => cases whole
              | some results =>
                  cases whole
                  exact .inr ⟨result, results, middle, rfl, first, rest⟩
          | bothFailed _ _ => cases whole
      | secondChoice round ends =>
          cases ends
          generalize whole : none = found at round
          cases round with
          | both _ first rest =>
              have succeeds := rest.isSome_star
              rw [Option.map_eq_none_iff.1 whole.symm] at succeeds
              cases succeeds
          | bothFailed _ fails => exact .inl ⟨rfl, fails⟩

/-- A loop completes what is read item by item, where its item is attempted so. -/
theorem Completes.star {Item : Type} {item : Routine Rule Item} {one : Cursor → Attempt Item}
    {all : Cursor → Except ParseError (List Item × Cursor)}
    (unfolds : ∀ cursor, all cursor = oneByOne one all cursor)
    (takes : item.takes takesChar = true)
    (restores : item.restores alwaysMatches alwaysRestores = true)
    (attempts : ∀ ⦃later : Scan⦄, later.left source ≤ scan.left source →
      IsPlace source later.place → later.fault = none →
      Attempts source item later (one (cursorAt source later.place)))
    (isPlace : IsPlace source scan.place) (noFault : scan.fault = none) :
    Completes source (.star id item) scan (all (cursorAt source scan.place)) := by
  intro found after run
  induction size : scan.left source using Nat.strongRecOn generalizing scan found with
  | ind size inductionHypothesis =>
      subst size
      rw [unfolds, oneByOne]
      rcases run.star_cases with ⟨rfl, ends⟩ | ⟨result, results, middle, rfl, first, rest⟩
      · have tried := attempts (Nat.le_refl _) isPlace noFault ends
        cases read : one (cursorAt source scan.place) with
        | error error =>
            rw [read] at tried
            exact tried.2
        | ok next =>
            rw [read] at tried
            obtain ⟨afterNoFault, rfl⟩ := tried
            exact ⟨afterNoFault, rfl,
              congrArg (cursorAt source) (ends.putsBack afterNoFault restores).symm⟩
      · have tried := attempts (Nat.le_refl _) isPlace noFault first
        cases read : one (cursorAt source scan.place) with
        | error error =>
            rw [read] at tried
            cases tried.1
        | ok next =>
            rw [read] at tried
            obtain ⟨middleNoFault, rfl⟩ := tried
            have fewer := first.left_lt takes_consistent takes isPlace
            have more := inductionHypothesis _ fewer (fun _ few => attempts (few.trans fewer.le))
              (first.isPlace isPlace) middleNoFault rest rfl
            simp only [Option.map_some]
            cases readMore : all (cursorAt source middle.place) with
            | error error =>
                rw [readMore] at more
                exact more
            | ok pair =>
                rw [readMore] at more
                obtain ⟨afterNoFault, same, ended⟩ := more
                cases same
                exact ⟨afterNoFault, rfl, ended⟩

end Operators

/-! ## Bodies, branches and sections -/

def CompletesBelow (source : String) (bound : Nat) : Prop :=
  ∀ ⦃scan : Scan⦄, scan.left source < bound → IsPlace source scan.place → scan.fault = none →
    Completes source (.rule .body) scan (bodyAt parts (cursorAt source scan.place))

theorem CompletesBelow.mono {bound lower : Nat} (below : CompletesBelow source bound)
    (le : lower ≤ bound) : CompletesBelow source lower :=
  fun _ fewer => below (fewer.trans_le le)

def branchAt (cursor : Cursor) : Attempt (String × Node) :=
  Attempt.both (fun named body => named body)
    (.ok ((branchTag? cursor).map fun (name, within) => (Prod.mk name, within)))
    fun within => (bodyAt parts within).map some

def branchesAt (cursor : Cursor) : Except ParseError (List (String × Node) × Cursor) :=
  branchesWithin parts cursor.rest.length cursor

def mainAt (cursor : Cursor) :
    Attempt (List (String × Node) → Option Identifier → Enclosed) :=
  Attempt.both (fun start main => start main) (.ok (enclosedStart? cursor)) fun inside =>
    (bodyAt parts inside).map some

def bodiesAt (cursor : Cursor) : Attempt (Option Identifier → Enclosed) :=
  (mainAt cursor).both (fun start branches => start branches) fun afterMain =>
    (branchesAt afterMain).map some

def enclosedAt (cursor : Cursor) : Attempt Enclosed :=
  (bodiesAt cursor).both (fun start closing => start closing) fun atEnd =>
    .ok (((endTag? atEnd).map fun (name, last) => (some name, last)).or (some (none, atEnd)))

def sectionAt (cursor : Cursor) : Attempt Node :=
  ((enclosedAt cursor).demand Enclosed.node? enclosedFault).orElse
    (.ok ((opening? cursor).bind fun (opening, after) =>
      (after.skipGaps.literal? ['/', '}']).map fun last =>
        (sectionOf cursor.position opening [], last)))

theorem branchesAt_eq (cursor : Cursor) :
    branchesAt cursor = oneByOne branchAt branchesAt cursor := by
  unfold branchesAt oneByOne branchAt bodyAt
  cases tag : branchTag? cursor with
  | none => exact branches_none tag
  | some pair =>
      obtain ⟨name, within⟩ := pair
      rw [branchesWithin_step (Nat.le_refl _) tag]
      simp only [Attempt.both, Option.map_some]
      rcases parts within with error | ⟨nodes, behind⟩
      · rfl
      · simp only [Except.map, Option.map_some]
        rcases branchesWithin parts behind.rest.length behind with error | ⟨branches, last⟩ <;> rfl

theorem sectionAt_eq (cursor : Cursor) : sectionAt cursor = section? parts cursor := by
  unfold sectionAt enclosedAt bodiesAt mainAt section? enclosedStart?
  cases opened : opening? cursor with
  | none => rfl
  | some pair =>
      obtain ⟨opening, afterOpening⟩ := pair
      simp only [Option.bind_some]
      cases closed : afterOpening.skipGaps.literal? ['}'] with
      | none => rfl
      | some inside =>
          simp only [Option.map_some, Attempt.both, sectionBodies, bodyAt]
          rcases parts inside with error | ⟨nodes, afterMain⟩
          · rfl
          · simp only [Except.map, Option.map_some, branchesAt]
            rcases branchesWithin parts afterMain.rest.length afterMain with
              error | ⟨branches, atEnd⟩
            · rfl
            · simp only [Option.map_some, closeSection]
              rcases endTag? atEnd with _ | ⟨name, last⟩
              · rfl
              · by_cases same : name.text = opening.identifier.text
                · simp [Attempt.demand, Attempt.orElse, Enclosed.node?, sectionOf, same]
                · simp [Attempt.demand, Attempt.orElse, Enclosed.node?, enclosedFault, same]

/-- The parts in the order in which they are tried. -/
theorem part?_eq_orElse (cursor : Cursor) :
    part? parts cursor = Attempt.orElse (.ok (raw? cursor))
      (Attempt.orElse (.ok (comment? cursor))
        (Attempt.orElse (section? parts cursor) (.ok (latePart? cursor)))) := by
  unfold part? earlyPart?
  cases raw? cursor with
  | some read => rfl
  | none =>
      cases comment? cursor with
      | some read => rfl
      | none => rcases section? parts cursor with error | _ | read <;> rfl

section Parts

variable {scan : Scan}

theorem attempts_branch (below : CompletesBelow source (scan.left source))
    (isPlace : IsPlace source scan.place) (noFault : scan.fault = none) :
    Attempts source branch scan (branchAt (cursorAt source scan.place)) := by
  have tag : Attempts source (Prod.mk <$> branchTag : Routine Rule (Node → String × Node)) scan _ :=
    Attempts.ofReads isPlace noFault rfl ((reads_branchTag _).map Prod.mk)
  exact tag.both fun _ _ start startNoFault =>
    (below (start.left_lt takes_consistent rfl isPlace) (start.isPlace isPlace)
      startNoFault).unlessFault

theorem completes_bodies (below : CompletesBelow source (scan.left source + 1))
    (isPlace : IsPlace source scan.place) (noFault : scan.fault = none) :
    Completes source (.rule .bodies) scan (branchesAt (cursorAt source scan.place)) := by
  have loop : Completes source (.star id branch) scan.silence
      (branchesAt (cursorAt source scan.silence.place)) :=
    Completes.star branchesAt_eq rfl rfl
      (fun _ notMore => attempts_branch (below.mono (notMore.trans (Nat.le_succ _)))) isPlace
      noFault
  intro found after run
  cases run with
  | rule run => exact loop.named run

theorem attempts_section (below : CompletesBelow source (scan.left source))
    (isPlace : IsPlace source scan.place) (noFault : scan.fault = none) :
    Attempts source (.rule .sectionTag) scan (section? parts (cursorAt source scan.place)) := by
  have start : Attempts source enclosedStart scan.silence _ :=
    Attempts.ofReads isPlace noFault rfl (reads_enclosedStart _)
  have main : Attempts source (enclosedStart <*> .unlessFault (.rule .body)) scan.silence
      (mainAt (cursorAt source scan.place)) :=
    start.both fun _ inside run insideNoFault =>
      (below (run.left_lt takes_consistent rfl isPlace) (run.isPlace isPlace)
        insideNoFault).unlessFault
  have bodies : Attempts source (enclosedStart <*> .unlessFault (.rule .body) <*>
      .unlessFault (.rule .bodies)) scan.silence (bodiesAt (cursorAt source scan.place)) :=
    main.both fun _ afterMain run afterMainNoFault =>
      (completes_bodies (below.mono (run.left_lt takes_consistent rfl isPlace))
        (run.isPlace isPlace) afterMainNoFault).unlessFault
  have whole : Attempts source enclosed scan.silence (enclosedAt (cursorAt source scan.place)) :=
    bodies.both fun _ atEnd run atEndNoFault =>
      Attempts.ofReads (run.isPlace isPlace) atEndNoFault rfl (reads_endTag _).optional
  have either : Attempts source
      (.attempt (.demand Enclosed.node? enclosedFault enclosed) <|> .beforeFault selfClosing)
      scan.silence (sectionAt (cursorAt source scan.place)) :=
    Attempts.orElse rfl whole.demand.attempt fun _ =>
      Attempts.ofReadsBack isPlace rfl (reads_selfClosing _)
  rw [← sectionAt_eq]
  intro found after run
  cases run with
  | rule run => exact either.named run

theorem attempts_part (below : CompletesBelow source (scan.left source))
    (isPlace : IsPlace source scan.place) (noFault : scan.fault = none) :
    Attempts source (.rule .part) scan (part? parts (cursorAt source scan.place)) := by
  have fromSection : ∀ ⦃middle : Scan⦄, middle.place = scan.place → middle.fault = none →
      Attempts source (.rule .sectionTag <|> .beforeFault latePart) middle
        (Attempt.orElse (section? parts (cursorAt source scan.place))
          (.ok (latePart? (cursorAt source scan.place)))) := by
    intro middle back middleNoFault
    rw [← back] at isPlace ⊢
    exact Attempts.orElse rfl (attempts_section (by rwa [Scan.left, back]) isPlace middleNoFault)
      fun _ => Attempts.ofReadsBack isPlace rfl (reads_latePart _)
  have comment : ∀ ⦃middle : Scan⦄, middle.place = scan.place → middle.fault = none →
      Attempts source (.rule .comment) middle (.ok (comment? (cursorAt source scan.place))) :=
    fun _ => Attempts.ofReadsBack isPlace rfl (reads_comment _)
  have raw : Attempts source (.rule .raw) scan (.ok (raw? (cursorAt source scan.place))) :=
    Attempts.ofReads isPlace noFault rfl (reads_raw _)
  have any := Attempts.choice rfl raw fun _ back middleNoFault =>
    (comment back middleNoFault).choice rfl fun _ again => fromSection (again.trans back)
  rw [part?_eq_orElse]
  intro found after run
  cases run with
  | rule run => exact any.beforeFault noFault run

/-! ## Bodies -/

theorem parts_unfolds (cursor : Cursor) : parts cursor = oneByOne (part? parts) parts cursor := by
  rw [parts_eq, oneByOne]
  rcases part? parts cursor with error | _ | ⟨node, behind⟩
  · rfl
  · rfl
  · dsimp only
    rcases parts behind with error | ⟨nodes, last⟩ <;> rfl

/-- A body is its parts, and does not fail. -/
theorem Runs.body_cases {found : Option Node} {after : Scan}
    (run : Runs routines source (.rule .body) scan found after) :
    ∃ nodes, Runs routines source (.star id (.rule .part)) scan (some nodes) after ∧
      found = some (.body nodes scan.place.position) := by
  cases run with
  | rule run =>
      cases run with
      | bothFailed _ build => cases build.eq_of_position.1
      | both _ build rest =>
          obtain ⟨built, rfl⟩ := build.eq_of_position
          cases built
          obtain ⟨nodes, rfl⟩ := Option.isSome_iff_exists.1 rest.isSome_star
          exact ⟨nodes, rest, rfl⟩

/-- A body completes what is read of it. -/
theorem completes_body (isPlace : IsPlace source scan.place) (noFault : scan.fault = none) :
    Completes source (.rule .body) scan (bodyAt parts (cursorAt source scan.place)) := by
  induction size : scan.left source using Nat.strongRecOn generalizing scan with
  | ind size inductionHypothesis =>
      subst size
      have loop : Completes source (.star id (.rule .part)) scan
          (parts (cursorAt source scan.place)) :=
        Completes.star parts_unfolds rfl rfl (fun later notMore => attempts_part
          (fun inner fewer innerIsPlace innerNoFault => inductionHypothesis _
            (fewer.trans_le notMore) innerIsPlace innerNoFault rfl)) isPlace noFault
      intro found after run
      obtain ⟨nodes, rest, rfl⟩ := run.body_cases
      have whole := loop rest
      unfold bodyAt
      cases read : parts (cursorAt source scan.place) with
      | error error =>
          rw [read] at whole
          exact whole
      | ok pair =>
          rw [read] at whole
          obtain ⟨noneNoted, same, ended⟩ := whole
          cases same
          exact ⟨noneNoted, rfl, ended⟩

end Parts

end BraceTemplate.Scanning
