import BraceTemplate.Proofs.Scanning.Places
import BraceTemplate.Proofs.Scanning.Template

/-!
Every routine comes to an end. A loop goes on only behind a character, and before a rule passes a
character it calls only rules of a lower rank, so that the characters that are left and the rank get
smaller together. Main statement: `exists_run`.
-/

namespace BraceTemplate.Scanning

open Source Grammar

namespace Routine

variable {Rule : Type → Type} (rules known : (Result : Type) → Rule Result → Bool)

def loopsAdvance {Result : Type} : Routine Rule Result → Bool
  | here _ => true
  | char _ _ => true
  | pieces _ _ => true
  | rule _ => true
  | map _ item => item.loopsAdvance
  | both _ first second => first.loopsAdvance && second.loopsAdvance
  | choice first second => first.loopsAdvance && second.loopsAdvance
  | star _ item => item.takes rules && item.loopsAdvance
  | during _ guard item => guard.loopsAdvance && (item.takes rules && item.loopsAdvance)
  | absent _ item => item.loopsAdvance
  | check _ item => item.loopsAdvance
  | demand _ _ item => item.loopsAdvance
  | named _ item => item.loopsAdvance
  | attempt item => item.loopsAdvance
  | beforeFault item => item.loopsAdvance
  | unlessFault item => item.loopsAdvance

def leads {Result : Type} : Routine Rule Result → Bool
  | here _ => true
  | char _ _ => true
  | pieces _ _ => true
  | rule name => known Result name
  | map _ item => item.leads
  | both _ first second => first.leads && (first.takes rules || second.leads)
  | choice first second => first.leads && second.leads
  | star _ item => item.leads
  | during _ guard item => guard.leads && item.leads
  | absent _ item => item.leads
  | check _ item => item.leads
  | demand _ _ item => item.leads
  | named _ item => item.leads
  | attempt item => item.leads
  | beforeFault item => item.leads
  | unlessFault item => item.leads

end Routine

/-- How many characters are left. -/
def Scan.left (source : String) (scan : Scan) : Nat :=
  (cursorAt source scan.place).rest.length

def Halts {Rule : Type → Type} (table : RoutineTable Rule) (source : String) {Result : Type}
    (routine : Routine Rule Result) (scan : Scan) : Prop :=
  ∃ found after, Runs table source routine scan found after

section Halting

variable {Rule : Type → Type} {table : RoutineTable Rule} {source : String}
  {rules known : (Result : Type) → Rule Result → Bool}

/-- A loop does not fail. -/
theorem Runs.isSome_star {Item Result : Type} {collect : List Item → Result}
    {item : Routine Rule Item} {scan after : Scan} {found : Option Result}
    (run : Runs table source (.star collect item) scan found after) : found.isSome = true := by
  cases run with
  | star _ unfolded =>
      cases unfolded with
      | firstChoice _ => rfl
      | secondChoice _ ends =>
          cases ends
          rfl

theorem Runs.left_le {Result : Type} {routine : Routine Rule Result} {scan after : Scan}
    {found : Option Result} (run : Runs table source routine scan found after)
    (isPlace : IsPlace source scan.place) : after.left source ≤ scan.left source := by
  obtain ⟨taken, passes⟩ := run.exists_passes isPlace
  exact Nat.le.intro passes.length_rest

variable (consistent : ∀ (Result : Type) (name : Rule Result),
  rules Result name = true → (table Result name).takes rules = true)

include consistent

theorem Runs.left_lt {Result : Type} {routine : Routine Rule Result} {scan after : Scan}
    {result : Result} (run : Runs table source routine scan (some result) after)
    (takes : routine.takes rules = true) (isPlace : IsPlace source scan.place) :
    after.left source < scan.left source := by
  obtain ⟨taken, passes, nonempty⟩ := run.passes rules consistent isPlace
  have positive : 0 < taken.length := List.length_pos_of_ne_nil (nonempty takes rfl)
  have length := passes.length_rest
  unfold Scan.left
  omega

/-- A loop comes to an end where its rounds do so as long as no more than so many characters are
left, since every round leaves fewer. -/
theorem halts_star {Item : Type} {item : Routine Rule Item} {scan : Scan}
    (takes : item.takes rules = true) (isPlace : IsPlace source scan.place)
    (round : ∀ later : Scan, IsPlace source later.place → later.left source ≤ scan.left source →
      Halts table source item later) :
    Halts table source (.choice (.both List.cons item (.star id item)) (.here fun _ => []))
      scan := by
  induction size : scan.left source using Nat.strongRecOn generalizing scan with
  | ind size inductionHypothesis =>
      subst size
      obtain ⟨found, middle, run⟩ := round scan isPlace (Nat.le_refl _)
      cases found with
      | none => exact ⟨_, _, .secondChoice (.bothFailed _ run) (.here _ _)⟩
      | some result =>
          have fewer := run.left_lt consistent takes isPlace
          obtain ⟨more, after, goesOn⟩ := inductionHypothesis _ fewer (run.isPlace isPlace)
            (fun later laterIsPlace few => round later laterIsPlace (few.trans fewer.le)) rfl
          have loop := Runs.star id goesOn
          obtain ⟨results, some_eq⟩ := Option.isSome_iff_exists.1 loop.isSome_star
          rw [some_eq] at loop
          exact ⟨_, _, .firstChoice (.both _ run loop)⟩

theorem halts_during {Held Item : Type} {guard : Routine Rule Held} {item : Routine Rule Item}
    {scan : Scan} (takes : item.takes rules = true) (isPlace : IsPlace source scan.place)
    (guardRound : ∀ later : Scan, IsPlace source later.place →
      later.left source ≤ scan.left source → Halts table source guard later)
    (round : ∀ later : Scan, IsPlace source later.place → later.left source ≤ scan.left source →
      Halts table source item later) :
    Halts table source (.during id guard item) scan := by
  induction size : scan.left source using Nat.strongRecOn generalizing scan with
  | ind size inductionHypothesis =>
      subst size
      obtain ⟨held, middle, guardRun⟩ := guardRound scan isPlace (Nat.le_refl _)
      cases held with
      | none => exact ⟨_, _, .duringEnd id guardRun⟩
      | some held =>
          have middleIsPlace := guardRun.isPlace isPlace
          have notMore := guardRun.left_le isPlace
          obtain ⟨found, behind, run⟩ := round middle middleIsPlace notMore
          cases found with
          | none => exact ⟨_, _, .during id guardRun (.bothFailed _ run)⟩
          | some result =>
              have fewer := (run.left_lt consistent takes middleIsPlace).trans_le notMore
              obtain ⟨more, after, goesOn⟩ :=
                inductionHypothesis _ fewer (run.isPlace middleIsPlace)
                  (fun later laterIsPlace few => guardRound later laterIsPlace (few.trans fewer.le))
                  (fun later laterIsPlace few => round later laterIsPlace (few.trans fewer.le)) rfl
              exact ⟨_, _, .during id guardRun (.both _ run goesOn)⟩

variable (known) in
/-- A routine comes to an end where rules do so with fewer characters left than a bound, and the
rules it leads with do so at the bound. -/
theorem halts_within {bound : Nat}
    (fewer : ∀ (Result : Type) (name : Rule Result) (scan : Scan), IsPlace source scan.place →
      scan.left source < bound → Halts table source (.rule name) scan)
    (first : ∀ (Result : Type) (name : Rule Result) (scan : Scan), known Result name = true →
      IsPlace source scan.place → scan.left source = bound → Halts table source (.rule name) scan)
    {Result : Type} (routine : Routine Rule Result)
    (loopsAdvance : routine.loopsAdvance rules = true) {scan : Scan}
    (isPlace : IsPlace source scan.place) (few : scan.left source ≤ bound)
    (leads : scan.left source = bound → routine.leads rules known = true) :
    Halts table source routine scan := by
  induction routine generalizing scan with
  | here result => exact ⟨_, _, .here result scan⟩
  | char kindOf called => exact ⟨_, _, .char rfl⟩
  | pieces result all =>
      cases taken : scan.takePieces source all with
      | mk found after =>
          cases found with
          | true => exact ⟨_, _, .pieces taken⟩
          | false => exact ⟨_, _, .piecesFailed taken⟩
  | rule name =>
      rcases few.lt_or_eq with lower | same
      · exact fewer _ name scan isPlace lower
      · exact first _ name scan (leads same) isPlace same
  | map change item inductionHypothesis =>
      obtain ⟨found, after, run⟩ := inductionHypothesis loopsAdvance isPlace few leads
      exact ⟨_, _, .map change run⟩
  | both join first second firstHypothesis secondHypothesis =>
      obtain ⟨firstLoops, secondLoops⟩ := Bool.and_eq_true_iff.1 loopsAdvance
      obtain ⟨found, middle, run⟩ := firstHypothesis firstLoops isPlace few
        fun same => (Bool.and_eq_true_iff.1 (leads same)).1
      cases found with
      | none => exact ⟨_, _, .bothFailed join run⟩
      | some value =>
          have notMore := run.left_le isPlace
          -- At the bound nothing was passed, so that the second routine leads as well.
          have secondLeads : middle.left source = bound → second.leads rules known = true := by
            intro same
            rcases Bool.or_eq_true_iff.1 (Bool.and_eq_true_iff.1 (leads (by omega))).2 with
              takes | leadsSecond
            · have passed := run.left_lt consistent takes isPlace
              omega
            · exact leadsSecond
          obtain ⟨other, after, secondRun⟩ := secondHypothesis secondLoops (run.isPlace isPlace)
            (notMore.trans few) secondLeads
          exact ⟨_, _, .both join run secondRun⟩
  | choice first second firstHypothesis secondHypothesis =>
      obtain ⟨firstLoops, secondLoops⟩ := Bool.and_eq_true_iff.1 loopsAdvance
      obtain ⟨found, middle, run⟩ := firstHypothesis firstLoops isPlace few
        fun same => (Bool.and_eq_true_iff.1 (leads same)).1
      cases found with
      | some result => exact ⟨_, _, .firstChoice run⟩
      | none =>
          have notMore := run.left_le isPlace
          obtain ⟨other, after, secondRun⟩ := secondHypothesis secondLoops (run.isPlace isPlace)
            (notMore.trans few) fun same => (Bool.and_eq_true_iff.1 (leads (by omega))).2
          exact ⟨_, _, .secondChoice run secondRun⟩
  | star collect item inductionHypothesis =>
      obtain ⟨takes, loops⟩ := Bool.and_eq_true_iff.1 loopsAdvance
      obtain ⟨found, after, run⟩ := halts_star consistent takes isPlace
        fun later laterIsPlace notMore => inductionHypothesis loops laterIsPlace
          (notMore.trans few) fun same => leads (by omega)
      exact ⟨_, _, .star collect run⟩
  | during collect guard item guardHypothesis inductionHypothesis =>
      obtain ⟨guardLoops, takesLoops⟩ := Bool.and_eq_true_iff.1 loopsAdvance
      obtain ⟨takes, loops⟩ := Bool.and_eq_true_iff.1 takesLoops
      obtain ⟨found, after, run⟩ := halts_during consistent takes isPlace
        (fun later laterIsPlace notMore => guardHypothesis guardLoops laterIsPlace
          (notMore.trans few) fun same => (Bool.and_eq_true_iff.1 (leads (by omega))).1)
        (fun later laterIsPlace notMore => inductionHypothesis loops laterIsPlace
          (notMore.trans few) fun same => (Bool.and_eq_true_iff.1 (leads (by omega))).2)
      cases run with
      | during _ guardRun round => exact ⟨_, _, .during collect guardRun round⟩
      | duringEnd _ guardRun => exact ⟨_, _, .duringEnd collect guardRun⟩
  | absent result item inductionHypothesis =>
      have tried : Halts table source item scan.silence :=
        inductionHypothesis loopsAdvance isPlace few leads
      obtain ⟨found, after, run⟩ := tried
      cases found with
      | none => exact ⟨_, _, .absent result run⟩
      | some value => exact ⟨_, _, .absentFailed result run⟩
  | check test item inductionHypothesis =>
      obtain ⟨found, after, run⟩ := inductionHypothesis loopsAdvance isPlace few leads
      exact ⟨_, _, .check test run⟩
  | demand test fault item inductionHypothesis =>
      obtain ⟨found, after, run⟩ := inductionHypothesis loopsAdvance isPlace few leads
      cases found with
      | none => exact ⟨_, _, .demandFailed run⟩
      | some value =>
          cases accepted : test value with
          | some result => exact ⟨_, _, .demandMet run accepted⟩
          | none => exact ⟨_, _, .demandUnmet run accepted⟩
  | named name item inductionHypothesis =>
      have tried : Halts table source item scan.silence :=
        inductionHypothesis loopsAdvance isPlace few leads
      obtain ⟨found, after, run⟩ := tried
      cases found with
      | none => exact ⟨_, _, .namedFailed name run⟩
      | some value => exact ⟨_, _, .named name run⟩
  | attempt item inductionHypothesis =>
      obtain ⟨found, after, run⟩ := inductionHypothesis loopsAdvance isPlace few leads
      cases found with
      | none => exact ⟨_, _, .attemptFailed run⟩
      | some value => exact ⟨_, _, .attempt run⟩
  | beforeFault item inductionHypothesis =>
      by_cases noFault : scan.fault = none
      · obtain ⟨found, after, run⟩ := inductionHypothesis loopsAdvance isPlace few leads
        exact ⟨_, _, .beforeFault noFault run⟩
      · exact ⟨_, _, .behindFault item noFault⟩
  | unlessFault item inductionHypothesis =>
      obtain ⟨found, after, run⟩ := inductionHypothesis loopsAdvance isPlace few leads
      by_cases noFault : after.fault = none
      · exact ⟨_, _, .unlessFault run noFault⟩
      · exact ⟨_, _, .withFault run noFault⟩

variable {rank : (Result : Type) → Rule Result → Nat}
  (loopsAdvance : ∀ (Result : Type) (name : Rule Result),
    (table Result name).loopsAdvance rules = true)
  (leads : ∀ (Result : Type) (name : Rule Result),
    (table Result name).leads rules (fun _ other => decide (rank _ other < rank Result name)) =
      true)

include loopsAdvance leads

/-- A rule comes to an end, first by the number of characters that are left and then by its rank. -/
theorem halts_rule (bound : Nat) : ∀ (level : Nat) (Result : Type) (name : Rule Result)
    (scan : Scan), rank Result name = level → IsPlace source scan.place →
      scan.left source = bound → Halts table source (.rule name) scan := by
  induction bound using Nat.strongRecOn with
  | ind bound boundHypothesis =>
      intro level
      induction level using Nat.strongRecOn with
      | ind level levelHypothesis =>
          intro Result name scan rank_eq isPlace size
          subst rank_eq
          obtain ⟨found, after, run⟩ := halts_within _ consistent
            (fun _ other later laterIsPlace fewer =>
              boundHypothesis _ fewer _ _ other later rfl laterIsPlace rfl)
            (fun _ other later lower laterIsPlace same =>
              levelHypothesis _ (of_decide_eq_true lower) _ other later rfl laterIsPlace same)
            (table Result name) (loopsAdvance Result name) isPlace size.le
            fun _ => leads Result name
          exact ⟨found, after, .rule run⟩

theorem halts {Result : Type} (routine : Routine Rule Result)
    (routineLoops : routine.loopsAdvance rules = true) {scan : Scan}
    (isPlace : IsPlace source scan.place) : Halts table source routine scan := by
  have fewer : ∀ (Other : Type) (name : Rule Other) (later : Scan), IsPlace source later.place →
      later.left source < scan.left source + 1 → Halts table source (.rule name) later :=
    fun _ name later laterIsPlace _ =>
      halts_rule consistent loopsAdvance leads _ _ _ name later rfl laterIsPlace rfl
  exact halts_within (fun _ _ => false) consistent fewer nofun routine routineLoops isPlace
    (Nat.le_succ _) fun same => absurd same (Nat.ne_of_lt (Nat.lt_succ_self _))

end Halting

theorem takes_consistent (Result : Type) (name : Rule Result)
    (takes : takesChar Result name = true) : (routines Result name).takes takesChar = true := by
  cases name <;> first | rfl | cases takes

def rank : (Result : Type) → Rule Result → Nat
  | _, .gap | _, .number | _, .path | _, .sectionTag | _, .tag => 1
  | _, .params | _, .identifier | _, .literal | _, .buffer => 2
  | _, .inlinePart | _, .part => 3
  | _, .body => 4
  | _, _ => 0

theorem loopsAdvance_routines (Result : Type) (name : Rule Result) :
    (routines Result name).loopsAdvance takesChar = true := by
  cases name <;> rfl

theorem leads_routines (Result : Type) (name : Rule Result) :
    (routines Result name).leads takesChar
      (fun _ other => decide (rank _ other < rank Result name)) = true := by
  cases name <;> rfl

/-- Every routine whose loops advance comes to an end, from every place of a source. -/
theorem exists_run (source : String) {Result : Type} (routine : Routine Rule Result)
    (loopsAdvance : routine.loopsAdvance takesChar = true) {scan : Scan}
    (isPlace : IsPlace source scan.place) :
    ∃ found after, Runs routines source routine scan found after :=
  halts takes_consistent loopsAdvance_routines leads_routines routine loopsAdvance isPlace

end BraceTemplate.Scanning
