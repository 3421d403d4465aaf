import BraceTemplate.Proofs.Program.Quoting
import BraceTemplate.Proofs.Reading.EndTags
import BraceTemplate.Proofs.Reading.Seams

/-!
# How identifiers are written

The text of an identifier is a spelling of it: where nothing goes on with a name behind it, reading
it gives the identifier back and takes all of it. So different identifiers that can be read have
different texts, and an end tag closes a section exactly where it names what the section names.
-/

namespace BraceTemplate

namespace Reading

open Source Grammar

/-! ## Identifiers that can be read -/

def isKey (name : String) : Bool :=
  match name.toList with
  | [] => false
  | first :: more => isKeyStart first && more.all isKeyChar

def isIndex (digits : String) : Bool :=
  !digits.toList.isEmpty && digits.toList.all Char.isDigit

end Reading

open Reading

mutual

/-- Whether an identifier can be read. A path that is not relative begins with a key and has a step
behind it. -/
def Identifier.isReadable : Identifier → Bool
  | .key name => isKey name
  | .path true segments => PathSegment.areReadable segments
  | .path false (.key name :: segments) =>
    isKey name && (!segments.isEmpty && PathSegment.areReadable segments)
  | .path false _ => false

def PathSegment.areReadable : List PathSegment → Bool
  | [] => true
  | .key name :: rest => isKey name && PathSegment.areReadable rest
  | .index digits :: rest => isIndex digits && PathSegment.areReadable rest
  | .lookup inner :: rest => inner.isReadable && PathSegment.areReadable rest

end

namespace Reading

open Source Grammar

def endsName (rest : List Char) : Bool :=
  rest.head?.all fun char => !isKeyChar char && char != '.' && char != '['

theorem takeWhile_append {accepts : Char → Bool} {chars rest : List Char}
    (accepted : ∀ char ∈ chars, accepts char = true)
    (stops : ∀ char ∈ rest.head?, accepts char = false) (place : Place) :
    (Cursor.mk place (chars ++ rest)).takeWhile accepts =
      (chars, ⟨place.advanceAll chars, rest⟩) := by
  induction chars generalizing place with
  | nil =>
      cases rest with
      | nil => rfl
      | cons char rest =>
          rw [List.nil_append, takeWhile_cons, stops char rfl]
          rfl
  | cons char chars inductionHypothesis =>
      have later := inductionHypothesis (fun other member => accepted other (.tail _ member))
        (place.advance char)
      rw [List.cons_append, takeWhile_cons, accepted char List.mem_cons_self, if_pos rfl, later]
      rfl

theorem exists_of_isKey {name : String} (spelled : isKey name = true) :
    ∃ first more, name.toList = first :: more ∧ isKeyStart first = true ∧
      ∀ char ∈ more, isKeyChar char = true := by
  unfold isKey at spelled
  split at spelled
  next => cases spelled
  next first more letters =>
    rw [Bool.and_eq_true, List.all_eq_true] at spelled
    exact ⟨first, more, letters, spelled⟩

theorem key?_spelled {name : String} (spelled : isKey name = true) {rest : List Char}
    (stops : ∀ char ∈ rest.head?, isKeyChar char = false) (place : Place) :
    key? ⟨place, name.toList ++ rest⟩ = some (name, ⟨place.advanceAll name.toList, rest⟩) := by
  obtain ⟨first, more, letters, starts, goesOn⟩ := exists_of_isKey spelled
  have run := takeWhile_append goesOn stops (place.advance first)
  have text : String.ofList (first :: more) = name := by rw [← letters, String.ofList_toList]
  rw [letters]
  simp only [key?, Cursor.char?, List.cons_append, starts, if_true, run, text]
  rfl

theorem key?_eq_none_of_head {place : Place} {rest : List Char}
    (noStart : ∀ char ∈ rest.head?, isKeyStart char = false) : key? ⟨place, rest⟩ = none := by
  cases rest with
  | nil => rfl
  | cons char rest =>
    have here : isKeyStart char = false := noStart char rfl
    simp [key?, Cursor.char?, here]

theorem identifier?_eq (cursor : Cursor) :
    identifier? cursor =
      ((steppedPath? identifier? cursor).or (dotPath? identifier? cursor)).or
        ((key? cursor).map fun (name, after) => (.key name, after)) := by
  have inside : Inside identifier? cursor := fun later _ => reads_identifier later
  have unfolded := (reads_path inside).choice ((reads_key cursor).map Identifier.key)
  have same := (reads_identifier cursor).functional (.rule unfolded)
  generalize identifier? cursor = found at same
  generalize Option.or _ _ = other at same
  rcases found with _ | ⟨found, after⟩ <;> rcases other with _ | ⟨other, otherAfter⟩ <;>
    cases same <;> rfl

/-! ## Steps -/

section Steps

variable {rest : List Char} {place : Place}

theorem textOfRest_head (segments : List PathSegment) (ends : endsName rest = true) :
    ∀ char ∈ ((PathSegment.textOfRest segments).toList ++ rest).head?, isKeyChar char = false := by
  cases segments with
  | nil =>
      intro char first
      have first : rest.head? = some char := by simpa [PathSegment.textOfRest] using first
      simp only [endsName, first, Option.all_some, Bool.and_eq_true, Bool.not_eq_true'] at ends
      exact ends.1.1
  | cons segment more =>
      intro char first
      cases segment <;>
        · simp [PathSegment.textOfRest] at first
          subst first
          decide

theorem endsKey_of_endsName (ends : endsName rest = true) :
    ∀ char ∈ rest.head?, isKeyChar char = false := by
  simpa [PathSegment.textOfRest] using textOfRest_head [] ends

/-- The text of an identifier begins with a key or with a dot. -/
theorem text_head {identifier : Identifier} (readable : identifier.isReadable = true) :
    ∃ first more, identifier.text.toList = first :: more ∧
      (isKeyStart first = true ∨ first = '.') := by
  have ofKey : ∀ name tail, isKey name = true → ∃ first more,
      (name ++ tail : String).toList = first :: more ∧ (isKeyStart first = true ∨ first = '.') := by
    intro name tail spelled
    obtain ⟨first, more, letters, starts, -⟩ := exists_of_isKey spelled
    exact ⟨first, more ++ tail.toList, by rw [String.toList_append, letters]; rfl, .inl starts⟩
  match identifier, readable with
  | .key name, readable => simpa [Identifier.text] using ofKey name "" readable
  | .path true segments, _ =>
      exact ⟨'.', (PathSegment.textOfFirst segments).toList, by simp [Identifier.text], .inr rfl⟩
  | .path false (.key name :: segments), readable =>
      simp only [Identifier.isReadable, Bool.and_eq_true] at readable
      simpa [Identifier.text, PathSegment.textOfFirst] using
        ofKey name (PathSegment.textOfRest segments) readable.1

theorem digits?_spelled {digits : String} (spelled : isIndex digits = true) (more : List Char) :
    digits? ⟨place, digits.toList ++ ']' :: more⟩ =
      some (digits.toList, ⟨place.advanceAll digits.toList, ']' :: more⟩) := by
  simp only [isIndex, Bool.and_eq_true, Bool.not_eq_true', List.all_eq_true] at spelled
  obtain ⟨some_digit, all_digits⟩ := spelled
  have stops : ∀ char ∈ (']' :: more).head?, char.isDigit = false := by
    rintro char ⟨⟩
    rfl
  unfold digits?
  rw [takeWhile_append all_digits stops]
  cases letters : digits.toList with
  | nil => simp [letters] at some_digit
  | cons digit others => rfl

theorem isDigit_eq_false_of_isKeyStart {char : Char} (starts : isKeyStart char = true) :
    char.isDigit = false := by
  simp only [isKeyStart, Bool.or_eq_true, decide_eq_true_eq] at starts
  rcases starts with (letter | rfl) | rfl
  · change (decide (char.val ≥ 'A'.val ∧ char.val ≤ 'Z'.val) ||
      (decide (char.val ≥ 'a'.val) && decide (char.val ≤ 'z'.val))) = true at letter
    change (decide (char.val ≥ '0'.val) && decide (char.val ≤ '9'.val)) = false
    grind
  · rfl
  · rfl

theorem digits?_eq_none_of_text {identifier : Identifier}
    (readable : identifier.isReadable = true) :
    digits? ⟨place, identifier.text.toList ++ rest⟩ = none := by
  obtain ⟨first, more, text, starts⟩ := text_head readable
  have noDigit : first.isDigit = false := by
    rcases starts with starts | rfl
    · exact isDigit_eq_false_of_isKeyStart starts
    · rfl
  unfold digits?
  rw [text, List.cons_append, takeWhile_cons, noDigit]
  rfl

theorem dotKey?_spelled {name : String} (spelled : isKey name = true)
    (stops : ∀ char ∈ rest.head?, isKeyChar char = false) (place : Place) :
    dotKey? ⟨place, '.' :: (name.toList ++ rest)⟩ =
      some (.key name, ⟨place.advanceAll ('.' :: name.toList), rest⟩) := by
  have read := key?_spelled spelled stops (place.advance '.')
  simp only [dotKey?, Cursor.literal?, if_true, Option.bind_eq_bind, Option.bind_some, read]
  rfl

/-- What is read in brackets is a step, and further steps may stand behind it. -/
theorem run_bracket (written : String) {segment : PathSegment} {more : List PathSegment}
    (text : PathSegment.textOfRest (segment :: more) =
      "[" ++ written ++ "]" ++ PathSegment.textOfRest more)
    (inside : ∀ (start : Place) (behind : List Char),
      bracketed? identifier? ⟨start, written.toList ++ ']' :: behind⟩ =
        some (segment, ⟨start.advanceAll written.toList, ']' :: behind⟩))
    (later : ∀ start : Place, Run (segment? identifier?)
      ⟨start, (PathSegment.textOfRest more).toList ++ rest⟩ more
      ⟨start.advanceAll (PathSegment.textOfRest more).toList, rest⟩) (place : Place) :
    Run (segment? identifier?) ⟨place, (PathSegment.textOfRest (segment :: more)).toList ++ rest⟩
      (segment :: more)
      ⟨place.advanceAll (PathSegment.textOfRest (segment :: more)).toList, rest⟩ := by
  have chars : (PathSegment.textOfRest (segment :: more)).toList =
      '[' :: (written.toList ++ [']']) ++ (PathSegment.textOfRest more).toList := by
    simp [text]
  have afterBracket : place.advanceAll ('[' :: (written.toList ++ [']'])) =
      ((place.advance '[').advanceAll written.toList).advance ']' :=
    Place.advanceAll_append (place.advance '[') written.toList [']']
  rw [chars, Place.advanceAll_append, afterBracket]
  refine .cons ?_ (later _)
  simp [segment?, dotKey?, bracket?, Cursor.literal?, inside]

theorem segment?_eq_none {char : Char} (noDot : char ≠ '.') (noBracket : char ≠ '[') :
    segment? identifier? ⟨place, char :: rest⟩ = none := by
  simp [segment?, dotKey?, bracket?, Cursor.literal?, noDot.symm, noBracket.symm]

theorem segment?_eq_none_of_ends (ends : endsName rest = true) :
    segment? identifier? ⟨place, rest⟩ = none := by
  cases rest with
  | nil => rfl
  | cons char rest =>
      simp only [endsName, List.head?_cons, Option.all_some, Bool.and_eq_true, bne_iff_ne] at ends
      exact segment?_eq_none ends.1.2 ends.2

/-- Where a run of steps comes to a place at which no step can be read, it is all there is. -/
theorem many_of_run {cursor after : Cursor} {segments : List PathSegment}
    (run : Run (segment? identifier?) cursor segments after)
    (noStep : segment? identifier? after = none) :
    cursor.many (segment? identifier?) = (segments, after) := by
  have reads : ∀ later : Cursor, Reads _ later (segment? identifier? later) := fun later =>
    @reads_step identifier? later fun inner _ => reads_identifier inner
  have last : after.many (segment? identifier?) = ([], after) := by
    rw [Reads.many_eq _ (fun later _ => reads later) rfl, noStep]
  rw [run.many_eq (fun later _ => reads later) rfl, last, List.append_nil]

/-! ## Paths -/

/-- Steps that no key stands in front of are a path by themselves. -/
theorem identifier?_steps {cursor after : Cursor} {segments : List PathSegment}
    (noKey : key? cursor = none) (steps : cursor.many (segment? identifier?) = (segments, after))
    (nonempty : segments ≠ []) : identifier? cursor = some (.path true segments, after) := by
  have path : steppedPath? identifier? cursor = some (.path true segments, after) := by
    cases segments with
    | nil => exact absurd rfl nonempty
    | cons segment more => simp only [steppedPath?, noKey, steps]
  rw [identifier?_eq, path, Option.some_or, Option.some_or]

/-- A dot that no key stands behind begins a path of the steps there. -/
theorem identifier?_dot {after : Cursor} {segments : List PathSegment}
    (noKeyChar : ∀ char ∈ rest.head?, isKeyChar char = false)
    (steps : (Cursor.mk (place.advance '.') rest).many (segment? identifier?) = (segments, after)) :
    identifier? ⟨place, '.' :: rest⟩ = some (.path true segments, after) := by
  have noKey : key? ⟨place.advance '.', rest⟩ = none := by
    refine key?_eq_none_of_head fun char first => ?_
    have rejected := noKeyChar char first
    by_contra starts
    rw [isKeyChar_of_isKeyStart (by simpa using starts)] at rejected
    cases rejected
  have noStep : segment? identifier? ⟨place, '.' :: rest⟩ = none := by
    simp [segment?, dotKey?, bracket?, Cursor.literal?, noKey]
  have noPath : steppedPath? identifier? ⟨place, '.' :: rest⟩ = none := by
    have noKeyHere : key? ⟨place, '.' :: rest⟩ = none := rfl
    simp only [steppedPath?, noKeyHere, many_of_run (.nil _) noStep]
  have path : dotPath? identifier? ⟨place, '.' :: rest⟩ = some (.path true segments, after) := by
    simp only [dotPath?, Cursor.literal?, if_true, steps]
  rw [identifier?_eq, noPath, path]
  rfl

/-- A relative path is written with a dot in front: that of its first key, or one of its own. -/
theorem identifier?_relative {segments : List PathSegment} (ends : endsName rest = true)
    (run : ∀ start : Place, Run (segment? identifier?)
      ⟨start, (PathSegment.textOfRest segments).toList ++ rest⟩ segments
      ⟨start.advanceAll (PathSegment.textOfRest segments).toList, rest⟩) :
    identifier? ⟨place, (Identifier.path true segments).text.toList ++ rest⟩ =
      some (.path true segments,
        ⟨place.advanceAll (Identifier.path true segments).text.toList, rest⟩) := by
  have steps := fun start => many_of_run (run start) (segment?_eq_none_of_ends ends)
  have ownDot : (Identifier.path true segments).text = "." ++ PathSegment.textOfRest segments →
      (∀ char ∈ ((PathSegment.textOfRest segments).toList ++ rest).head?, isKeyChar char = false) →
      identifier? ⟨place, (Identifier.path true segments).text.toList ++ rest⟩ =
        some (.path true segments,
          ⟨place.advanceAll (Identifier.path true segments).text.toList, rest⟩) := by
    intro text noKeyChar
    rw [text, String.toList_append]
    exact identifier?_dot noKeyChar (steps (place.advance '.'))
  have noKeyChar := textOfRest_head segments ends
  -- A key brings its own dot along, and is then read by the rule for steps.
  match segments with
  | [] => exact ownDot rfl noKeyChar
  | .index digits :: more => exact ownDot rfl noKeyChar
  | .lookup inner :: more => exact ownDot rfl noKeyChar
  | .key name :: more =>
      have text : (Identifier.path true (.key name :: more)).text =
          PathSegment.textOfRest (.key name :: more) := by
        simp [Identifier.text, PathSegment.textOfFirst, PathSegment.textOfRest, String.append_assoc]
      rw [text]
      refine identifier?_steps (key?_eq_none_of_head ?_) (steps place) (List.cons_ne_nil _ _)
      intro char first
      simp only [PathSegment.textOfRest, String.toList_append, List.append_assoc] at first
      cases first
      rfl

end Steps

mutual

/-- What is written for an identifier is read as that identifier, and no more is taken. -/
theorem identifier?_text : ∀ identifier : Identifier, identifier.isReadable = true →
    ∀ (place : Place) (rest : List Char), endsName rest = true →
      identifier? ⟨place, identifier.text.toList ++ rest⟩ =
        some (identifier, ⟨place.advanceAll identifier.text.toList, rest⟩)
  | .key name, readable, place, rest, ends => by
      have read := key?_spelled readable (endsKey_of_endsName ends) place
      have noStep := many_of_run (.nil ⟨place.advanceAll name.toList, rest⟩)
        (segment?_eq_none_of_ends ends)
      have noPath : steppedPath? identifier? ⟨place, name.toList ++ rest⟩ = none := by
        simp only [steppedPath?, read, noStep]
      obtain ⟨first, more, letters, starts, -⟩ := exists_of_isKey readable
      have noDot : first ≠ '.' := by
        rintro rfl
        cases starts
      have noDotPath : dotPath? identifier? ⟨place, name.toList ++ rest⟩ = none := by
        simp [dotPath?, Cursor.literal?, letters, noDot.symm]
      rw [Identifier.text, identifier?_eq, noPath, noDotPath, read]
      rfl
  | .path true segments, readable, place, rest, ends =>
      identifier?_relative ends fun start => run_textOfRest segments readable start rest ends
  | .path false (.key name :: segments), readable, place, rest, ends => by
      simp only [Identifier.isReadable, Bool.and_eq_true] at readable
      obtain ⟨spelled, some_step, steps⟩ := readable
      have run := run_textOfRest segments steps (place.advanceAll name.toList) rest ends
      have read := key?_spelled spelled (textOfRest_head segments ends) place
      have path : steppedPath? identifier?
          ⟨place, name.toList ++ ((PathSegment.textOfRest segments).toList ++ rest)⟩ =
        some (.path false (.key name :: segments), ⟨(place.advanceAll name.toList).advanceAll
          (PathSegment.textOfRest segments).toList, rest⟩) := by
        simp only [steppedPath?, read, many_of_run run (segment?_eq_none_of_ends ends)]
        cases segments with
        | nil => cases some_step
        | cons segment more => rfl
      simp only [Identifier.text, PathSegment.textOfFirst, Bool.false_eq_true, if_false,
        String.empty_append, String.toList_append, List.append_assoc, Place.advanceAll_append]
      rw [identifier?_eq, path]
      rfl

/-- What is written for steps is read as those steps, one after the other. -/
theorem run_textOfRest : ∀ segments : List PathSegment, PathSegment.areReadable segments = true →
    ∀ (place : Place) (rest : List Char), endsName rest = true →
      Run (segment? identifier?) ⟨place, (PathSegment.textOfRest segments).toList ++ rest⟩ segments
        ⟨place.advanceAll (PathSegment.textOfRest segments).toList, rest⟩
  | [], _, place, rest, _ => .nil _
  | .key name :: more, readable, place, rest, ends => by
      simp only [PathSegment.areReadable, Bool.and_eq_true] at readable
      have later := run_textOfRest more readable.2
        (place.advanceAll ('.' :: name.toList)) rest ends
      have step := dotKey?_spelled readable.1 (textOfRest_head more ends) place
      have written : (PathSegment.textOfRest (.key name :: more)).toList =
          '.' :: name.toList ++ (PathSegment.textOfRest more).toList := by
        simp [PathSegment.textOfRest]
      rw [written, Place.advanceAll_append, List.append_assoc]
      refine .cons ?_ later
      simp only [segment?, List.cons_append, step]
  | .index digits :: more, readable, place, rest, ends => by
      simp only [PathSegment.areReadable, Bool.and_eq_true] at readable
      have later := fun start => run_textOfRest more readable.2 start rest ends
      refine run_bracket digits rfl (fun start behind => ?_) later place
      rw [bracketed?, digits?_spelled readable.1]
      simp only [String.ofList_toList]
  | .lookup inner :: more, readable, place, rest, ends => by
      simp only [PathSegment.areReadable, Bool.and_eq_true] at readable
      have later := fun start => run_textOfRest more readable.2 start rest ends
      refine run_bracket inner.text rfl (fun start behind => ?_) later place
      rw [bracketed?, digits?_eq_none_of_text readable.1,
        identifier?_text inner readable.1 start (']' :: behind) rfl]
      rfl

end

/-! ## Everything that is read can be written -/

theorem isKey_of_key? {cursor after : Cursor} {name : String}
    (read : key? cursor = some (name, after)) : isKey name = true := by
  unfold key? at read
  split at read
  next => cases read
  next first later found =>
    cases read
    obtain ⟨place, rest⟩ := cursor
    cases rest with
    | nil => cases found
    | cons char rest =>
        simp only [Cursor.char?] at found
        split at found
        next starts =>
          cases found
          have run := (rest_takeWhile isKeyChar (place.advance first) rest).1
          rw [isKey, String.toList_ofList]
          change (isKeyStart first &&
            ((Cursor.mk (place.advance first) rest).takeWhile isKeyChar).1.all isKeyChar) = true
          rw [run, starts, Bool.true_and, List.all_eq_true]
          exact fun other member => List.mem_takeWhile_imp member
        next => cases found

theorem isIndex_of_digits? {cursor after : Cursor} {digits : List Char}
    (read : digits? cursor = some (digits, after)) : isIndex (String.ofList digits) = true := by
  have run := (rest_takeWhile Char.isDigit cursor.place cursor.rest).1
  unfold digits? at read
  split at read
  next => cases read
  next digit more later found =>
    cases read
    have all_digits : ∀ other ∈ digit :: more, other.isDigit = true := by
      rw [show digit :: more = cursor.rest.takeWhile Char.isDigit by rw [← run, found]]
      exact fun other member => List.mem_takeWhile_imp member
    simpa [isIndex] using all_digits

theorem areReadable_iff {segments : List PathSegment} :
    PathSegment.areReadable segments = true ↔
      ∀ segment ∈ segments, PathSegment.areReadable [segment] = true := by
  induction segments with
  | nil => simp [PathSegment.areReadable]
  | cons segment more inductionHypothesis =>
      rw [List.forall_mem_cons, ← inductionHypothesis]
      cases segment <;> simp [PathSegment.areReadable]

abbrev FindsReadable (identifierAt? : Cursor → Option (Identifier × Cursor)) : Prop :=
  ∀ cursor identifier after, identifierAt? cursor = some (identifier, after) →
    identifier.isReadable = true

section Finding

variable {identifierAt? : Cursor → Option (Identifier × Cursor)} {cursor after : Cursor}

theorem isReadable_of_segment? (finds : FindsReadable identifierAt?) {segment : PathSegment}
    (read : segment? identifierAt? cursor = some (segment, after)) :
    PathSegment.areReadable [segment] = true := by
  unfold segment? at read
  cases dotted : dotKey? cursor with
  | some found =>
      rw [dotted] at read
      simp only [dotKey?, Option.bind_eq_bind, Option.bind_eq_some_iff] at dotted
      obtain ⟨_, _, ⟨name, _⟩, key, yielded⟩ := dotted
      cases yielded
      cases read
      simp [PathSegment.areReadable, isKey_of_key? key]
  | none =>
      rw [dotted] at read
      simp only [bracket?, bracketed?, Option.bind_eq_bind, Option.bind_eq_some_iff] at read
      obtain ⟨inside, _, ⟨found, _⟩, bracketed, _, _, yielded⟩ := read
      cases yielded
      cases number : digits? inside with
      | some pair =>
          rw [number] at bracketed
          cases bracketed
          simp [PathSegment.areReadable, isIndex_of_digits? number]
      | none =>
          rw [number] at bracketed
          simp only [Option.map_eq_some_iff] at bracketed
          obtain ⟨⟨inner, _⟩, name, yielded⟩ := bracketed
          cases yielded
          simp [PathSegment.areReadable, finds _ _ _ name]

theorem areReadable_many (finds : FindsReadable identifierAt?) (cursor : Cursor) :
    PathSegment.areReadable (cursor.many (segment? identifierAt?)).1 = true :=
  areReadable_iff.2 (Cursor.forall_mem_many (fun _ _ _ => isReadable_of_segment? finds) cursor)

theorem isReadable_of_steppedPath? (finds : FindsReadable identifierAt?) {identifier : Identifier}
    (read : steppedPath? identifierAt? cursor = some (identifier, after)) :
    identifier.isReadable = true := by
  unfold steppedPath? at read
  cases named : key? cursor with
  | some pair =>
      obtain ⟨name, behind⟩ := pair
      have readable := areReadable_many finds behind
      rw [named] at read
      rcases steps : behind.many (segment? identifierAt?) with ⟨_ | ⟨segment, more⟩, last⟩ <;>
        rw [steps] at readable <;> simp only [steps] at read <;> cases read
      simp [Identifier.isReadable, isKey_of_key? named, readable]
  | none =>
      have readable := areReadable_many finds cursor
      rw [named] at read
      rcases steps : cursor.many (segment? identifierAt?) with ⟨_ | ⟨segment, more⟩, last⟩ <;>
        rw [steps] at readable <;> simp only [steps] at read <;> cases read
      exact readable

theorem isReadable_of_dotPath? (finds : FindsReadable identifierAt?) {identifier : Identifier}
    (read : dotPath? identifierAt? cursor = some (identifier, after)) :
    identifier.isReadable = true := by
  unfold dotPath? at read
  split at read
  next => cases read
  next inside _ =>
    cases read
    exact areReadable_many finds inside

end Finding

theorem finds_identifierWithin (fuel : Nat) : FindsReadable (identifierWithin? fuel) := by
  induction fuel with
  | zero => exact fun _ _ _ read => by cases read
  | succ fuel inductionHypothesis =>
      intro cursor identifier after read
      have steps := areReadable_many inductionHypothesis
      unfold identifierWithin? at read
      cases stepped : steppedPath? (identifierWithin? fuel) cursor with
      | some found =>
          rw [stepped] at read
          cases read
          exact isReadable_of_steppedPath? inductionHypothesis stepped
      | none =>
          rw [stepped] at read
          cases dotted : dotPath? (identifierWithin? fuel) cursor with
          | some found =>
              rw [dotted] at read
              cases read
              exact isReadable_of_dotPath? inductionHypothesis dotted
          | none =>
              rw [dotted] at read
              simp only [Option.map_eq_some_iff] at read
              obtain ⟨⟨name, _⟩, key, yielded⟩ := read
              cases yielded
              exact isKey_of_key? key

/-- The identifiers that are read somewhere. -/
theorem isReadable_iff {identifier : Identifier} :
    identifier.isReadable = true ↔
      ∃ cursor after, identifier? cursor = some (identifier, after) := by
  constructor
  · intro readable
    exact ⟨_, _, identifier?_text identifier readable Place.start [] rfl⟩
  · rintro ⟨cursor, after, read⟩
    exact finds_identifierWithin _ cursor identifier after read

theorem eq_of_text_eq {first second : Identifier} (readable : first.isReadable = true)
    (readableToo : second.isReadable = true) (same : first.text = second.text) :
    first = second := by
  have read := identifier?_text first readable Place.start [] rfl
  rw [same, identifier?_text second readableToo Place.start [] rfl] at read
  cases read
  rfl

/-- Behind the bodies of a section an end tag closes it exactly where it names the section. -/
theorem closeSection_eq_ok_iff {identifier : Identifier} (readable : identifier.isReadable = true)
    {atEnd last : Cursor} :
    closeSection identifier.text atEnd = .ok last ↔ endTag? atEnd = some (identifier, last) := by
  unfold closeSection
  cases found : endTag? atEnd with
  | none => simp
  | some pair =>
      obtain ⟨closing, after⟩ := pair
      have readableToo : closing.isReadable = true := by
        simp only [endTag?, Option.bind_eq_bind, Option.bind_eq_some_iff] at found
        obtain ⟨_, _, ⟨name, _⟩, read, _, _, yielded⟩ := found
        cases yielded
        exact isReadable_iff.2 ⟨_, _, read⟩
      by_cases same : closing.text = identifier.text
      · obtain rfl := eq_of_text_eq readableToo readable same
        simp
      · have differs : closing ≠ identifier := fun equality => same (congrArg _ equality)
        simp [same, differs]

/-- An identifier that is read somewhere is read back from its text in front of a closing brace or
bracket, and just that is taken. No other identifier that is read has the same text, and a section
that goes by it is read exactly where the end tag behind its bodies names it, up to there. -/
theorem identifier?_readBack {start after : Cursor} {identifier : Identifier}
    (read : identifier? start = some (identifier, after)) :
    (∀ closing ∈ ['}', ']'], ∀ (place : Place) (rest : List Char),
      identifier? ⟨place, identifier.text.toList ++ closing :: rest⟩ =
        some (identifier, ⟨place.advanceAll identifier.text.toList, closing :: rest⟩)) ∧
    (∀ otherStart other otherAfter, identifier? otherStart = some (other, otherAfter) →
      (other.text = identifier.text ↔ other = identifier)) ∧
    ∀ cursor opening inside bodies atEnd, Opens cursor opening inside →
      opening.identifier = identifier → sectionBodies parts inside = .ok (bodies, atEnd) →
        ∀ last, (∃ node, part? parts cursor = .ok (some (node, last))) ↔
          endTag? atEnd = some (identifier, last) := by
  have readable := isReadable_iff.2 ⟨start, after, read⟩
  refine ⟨?_, ?_, ?_⟩
  · intro closing member place rest
    refine identifier?_text identifier readable place (closing :: rest) ?_
    rcases List.mem_pair.1 member with rfl | rfl <;> rfl
  · intro otherStart other otherAfter otherRead
    have readableToo := isReadable_iff.2 ⟨otherStart, otherAfter, otherRead⟩
    exact ⟨eq_of_text_eq readableToo readable, fun same => same ▸ rfl⟩
  · rintro cursor opening inside bodies atEnd opens rfl read last
    rw [← closeSection_eq_ok_iff readable, opens.part?_eq, read]
    dsimp only
    cases closeSection opening.identifier.text atEnd with
    | error error => simp
    | ok after => simp

/-- Brackets in brackets are read back, behind a relative path of nothing but brackets. -/
theorem identifier?_readBack_nested :
    ∃ identifier after,
      identifier? (Cursor.ofString "[a.b[0]][.]|h\x7d") = some (identifier, after) ∧
      identifier.text = ".[a.b[0]][.]" ∧
      identifier? ⟨Place.start, ".[a.b[0]][.]".toList ++ [']', 'x']⟩ =
        some (identifier, ⟨⟨12, 1, 13, false⟩, [']', 'x']⟩) := by
  have read : identifier? (Cursor.ofString "[a.b[0]][.]|h\x7d") = some (.path true
      [.lookup (.path false [.key "a", .key "b", .index "0"]), .lookup (.path true [])],
        ⟨⟨11, 1, 12, false⟩, ['|', 'h', '}']⟩) := by
    rfl
  exact ⟨_, _, read, rfl, (identifier?_readBack read).1 ']' (by simp) Place.start ['x']⟩

end Reading

end BraceTemplate
