import Mathlib.Data.List.Sort
import BraceTemplate.Proofs.Scanning.Faults

/-!
What a scanner says of a source once its body was run: the tree, the fault that was noted, or that
something was unexpected at the furthest place. All of a body's parts are called by their names, so
that where none of them fits all their names are noted at its last place. Main statement:
`exists_verdict`, the scanner says what reading comes to.
-/

namespace BraceTemplate.Scanning

open Source Reading Grammar

variable {source : String}

/-- What is said of a source whose body was run. -/
def verdict (source : String) (tree : Node) (last : Scan) : Except ParseError Node :=
  match last.fault with
  | some error => .error error
  | none =>
    if source.utf8ByteSize ≤ last.place.offset then .ok tree
    else
      .error (.at last.furthest (.unexpected (last.expected.insertionSort (· ≤ ·)).eraseReps
        (cursorAt source last.furthest).rest.head?))

def Scan.missAll (names : List String) (scan : Scan) : Scan :=
  names.foldl (fun scan what => scan.miss what) scan

namespace Scan

variable {scan : Scan}

theorem missAll_append (names more : List String) (scan : Scan) :
    scan.missAll (names ++ more) = (scan.missAll names).missAll more :=
  List.foldl_append

theorem missAll_place (names : List String) (scan : Scan) :
    (scan.missAll names).place = scan.place := by
  induction names generalizing scan with
  | nil => rfl
  | cons name names inductionHypothesis =>
      exact (inductionHypothesis (scan.miss name)).trans (scan.miss_place name)

theorem miss_furthest_le (name : String) (behind : scan.furthest.offset ≤ scan.place.offset) :
    (scan.miss name).furthest.offset ≤ scan.place.offset := by
  unfold miss
  split_ifs
  · exact behind
  · exact Nat.le_refl _
  · exact behind

theorem missAll_furthest_le (names : List String) (scan : Scan)
    (behind : scan.furthest.offset ≤ scan.place.offset) :
    (scan.missAll names).furthest.offset ≤ scan.place.offset := by
  induction names generalizing scan with
  | nil => exact behind
  | cons name names inductionHypothesis =>
      have later := inductionHypothesis (scan.miss name)
      rw [miss_place] at later
      exact later (miss_furthest_le name behind)

/-- Nothing was noted yet at the place of a state. -/
def Fresh (scan : Scan) : Prop :=
  scan.furthest.offset < scan.place.offset ∨ scan.furthest = scan.place ∧ scan.expected = []

theorem Fresh.furthest_le (fresh : scan.Fresh) : scan.furthest.offset ≤ scan.place.offset := by
  rcases fresh with before | ⟨here, -⟩
  · exact before.le
  · rw [here]

/-- What is missed where something was noted already is noted behind it. -/
theorem missAll_noted (names : List String) (scan : Scan) (loud : scan.silenced = 0)
    (here : scan.furthest = scan.place) :
    scan.missAll names = { scan with expected := scan.expected ++ names } := by
  induction names generalizing scan with
  | nil => simp [missAll]
  | cons name names inductionHypothesis =>
      have noted : scan.miss name = { scan with expected := scan.expected ++ [name] } := by
        simp [miss, loud, here]
      have later := inductionHypothesis (scan.miss name)
      rw [noted] at later
      simpa [missAll, noted] using later loud here

/-- What is missed at a place where nothing was noted yet is noted there. -/
theorem Fresh.missAll_eq (fresh : scan.Fresh) (loud : scan.silenced = 0) (name : String)
    (names : List String) :
    scan.missAll (name :: names) =
      { scan with furthest := scan.place, expected := name :: names } := by
  have first : scan.miss name = { scan with furthest := scan.place, expected := [name] } := by
    rcases fresh with before | ⟨here, nothing⟩
    · simp [miss, loud, before, before.le]
    · simp [miss, loud, here, nothing]
  have later := missAll_noted names (scan.miss name)
  rw [first] at later
  simpa [missAll, first] using later loud rfl

end Scan

/-- Where a routine fails it notes names one after the other, and where it succeeds nothing further
on than where it started. -/
structure Notes (source : String) {Result : Type} (names : List String)
    (routine : Routine Rule Result) : Prop where
  failed : ∀ ⦃scan after : Scan⦄, Runs routines source routine scan none after →
    after.fault = none → after = scan.missAll names
  succeeded : ∀ ⦃scan after : Scan⦄ ⦃result : Result⦄,
    Runs routines source routine scan (some result) after → after.fault = none →
    scan.furthest.offset ≤ scan.place.offset → after.furthest.offset ≤ scan.place.offset

namespace Notes

variable {Result : Type} {names more : List String}

/-- Inside of a name nothing is noted but the name. -/
theorem named (name : String) (item : Routine Rule Result) :
    Notes source [name] (.named name item) where
  failed scan after run noFault := by
    cases run with
    | namedFailed _ itemRun =>
        rw [Scan.miss_fault] at noFault
        rw [itemRun.follows.putBack_eq noFault]
        rfl
  succeeded scan after result run noFault behind := by
    cases run with
    | named _ itemRun =>
        have furthest := itemRun.follows.furthest (Nat.succ_pos _)
        exact (congrArg Place.offset furthest).trans_le behind

theorem rule {name : Rule Result} (notes : Notes source names (routines Result name)) :
    Notes source names (.rule name) where
  failed _ _ run noFault := by
    cases run with
    | rule run => exact notes.failed run noFault
  succeeded _ _ _ run noFault behind := by
    cases run with
    | rule run => exact notes.succeeded run noFault behind

theorem ofNamed {rule : Rule Result} {name : String} {item : Routine Rule Result}
    (isNamed : routines Result rule = .named name item) : Notes source [name] (.rule rule) :=
  .rule (isNamed ▸ named name item)

theorem choice {first second : Routine Rule Result} (notes : Notes source names first)
    (moreNotes : Notes source more second) :
    Notes source (names ++ more) (.choice first second) where
  failed scan after run noFault := by
    cases run with
    | secondChoice firstRun secondRun =>
        have middle := notes.failed firstRun (secondRun.follows.fault noFault)
        rw [moreNotes.failed secondRun noFault, middle, Scan.missAll_append]
  succeeded scan after result run noFault behind := by
    cases run with
    | firstChoice firstRun => exact notes.succeeded firstRun noFault behind
    | secondChoice firstRun secondRun =>
        have middle := notes.failed firstRun (secondRun.follows.fault noFault)
        subst middle
        have later := moreNotes.succeeded secondRun noFault
        rw [Scan.missAll_place] at later
        exact later (Scan.missAll_furthest_le names scan behind)

theorem beforeFault {item : Routine Rule Result} (notes : Notes source names item) :
    Notes source names (.beforeFault item) where
  failed _ _ run noFault := by
    cases run with
    | beforeFault _ run => exact notes.failed run noFault
    | behindFault _ fault => exact absurd noFault fault
  succeeded _ _ _ run noFault behind := by
    cases run with
    | beforeFault _ run => exact notes.succeeded run noFault behind

end Notes

def partOrder : List String :=
  ["raw", "comment", "section", "partial", "special", "reference", "buffer"]

/-- A part that fails notes the names of all parts. -/
theorem notes_part (source : String) : Notes source partOrder (.rule .part) := by
  have late : Notes source ["partial", "special", "reference", "buffer"] latePart :=
    (Notes.ofNamed rfl).choice
      ((Notes.ofNamed rfl).choice ((Notes.ofNamed rfl).choice (Notes.ofNamed rfl)))
  have any : Notes source partOrder
      (.rule .raw <|> .rule .comment <|> .rule .sectionTag <|> .beforeFault latePart) :=
    (Notes.ofNamed rfl).choice
      ((Notes.ofNamed rfl).choice ((Notes.ofNamed rfl).choice late.beforeFault))
  exact .rule any.beforeFault

section Verdicts

variable {scan after : Scan}

/-- Where parts are tried by themselves, the furthest place where something was missed is the one
behind the last of them, and all parts were missed there. -/
theorem furthest_of_parts {found : Option (List Node)}
    (run : Runs routines source (.star id (.rule .part)) scan found after)
    (isPlace : IsPlace source scan.place) (noFault : after.fault = none)
    (loud : scan.silenced = 0) (fresh : scan.Fresh) :
    after.furthest = after.place ∧ after.expected = partOrder := by
  induction size : scan.left source using Nat.strongRecOn generalizing scan found with
  | ind size inductionHypothesis =>
      subst size
      rcases run.star_cases with ⟨rfl, ends⟩ | ⟨result, results, middle, rfl, first, rest⟩
      · have missed := (notes_part source).failed ends noFault
        rw [partOrder, fresh.missAll_eq loud] at missed
        rw [missed]
        exact ⟨rfl, rfl⟩
      · have middleNoFault := rest.follows.fault noFault
        have noted := (notes_part source).succeeded first middleNoFault fresh.furthest_le
        obtain ⟨taken, passes, nonempty⟩ := first.passes takesChar takes_consistent isPlace
        have behind := noted.trans_lt (passes.offset_lt (nonempty rfl rfl))
        exact inductionHypothesis _ (first.left_lt takes_consistent rfl isPlace) rest
          (first.isPlace isPlace) (first.follows.silenced.trans loud) (.inl behind) rfl

/-- The end of the source is where nothing is left. -/
theorem IsPlace.atEnd_iff {place : Place} (isPlace : IsPlace source place) :
    source.utf8ByteSize ≤ place.offset ↔ (cursorAt source place).rest = [] := by
  obtain ⟨before, rest, rfl, offset, rfl⟩ := isPlace
  rw [IsPlace.cursorAt_rest String.toList_append, offset, String.utf8ByteSize_append,
    String.toList_eq_nil_iff, ← String.utf8ByteSize_eq_zero_iff]
  omega

theorem cursorAt_start (source : String) :
    cursorAt source Scan.start.place = Cursor.ofString source :=
  congrArg (Cursor.mk Place.start) (IsPlace.cursorAt_rest (List.nil_append _).symm)

theorem verdict_unexpected {tree : Node} {last : Scan} {char : Char} {rest : List Char}
    (noFault : last.fault = none) (left : (cursorAt source last.place).rest = char :: rest)
    (isPlace : IsPlace source last.place) (furthest : last.furthest = last.place)
    (expected : last.expected = partOrder) :
    verdict source tree last = .error (.at last.place (.unexpected partNames (some char))) := by
  have notEnded : ¬ source.utf8ByteSize ≤ last.place.offset := by
    rw [isPlace.atEnd_iff, left]
    exact List.cons_ne_nil _ _
  have sorted : (partOrder.insertionSort (· ≤ ·)).eraseReps = partNames := by rfl
  simp only [verdict, noFault, if_neg notEnded, furthest, expected, left, sorted, List.head?_cons]

/-- The scanner says of a source what reading it comes to. -/
theorem exists_verdict (source : String) :
    ∃ tree last, Runs routines source (.rule .body) Scan.start (some tree) last ∧
      verdict source tree last = Node.parse source := by
  have atStart : IsPlace source Scan.start.place := .start source
  obtain ⟨found, last, run⟩ := exists_run source (.rule .body) rfl atStart
  obtain ⟨nodes, rest, rfl⟩ := run.body_cases
  refine ⟨_, last, run, ?_⟩
  have read := completes_body atStart rfl run
  rw [cursorAt_start, bodyAt] at read
  unfold Node.parse
  cases parsed : parts (Cursor.ofString source) with
  | error error =>
      rw [parsed] at read
      simp only [verdict, show last.fault = some error from read, parsed]
  | ok pair =>
      obtain ⟨others, atLast⟩ := pair
      rw [parsed] at read
      obtain ⟨noFault, same, rfl⟩ := read
      cases same
      have isPlace := run.isPlace atStart
      simp only [parsed]
      cases left : (cursorAt source last.place).rest with
      | nil =>
          simp only [verdict, noFault, if_pos (isPlace.atEnd_iff.2 left)]
          rfl
      | cons char more =>
          obtain ⟨furthest, expected⟩ :=
            furthest_of_parts rest atStart noFault rfl (.inr ⟨rfl, rfl⟩)
          exact verdict_unexpected noFault left isPlace furthest expected

end Verdicts

end BraceTemplate.Scanning
