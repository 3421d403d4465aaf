import Mathlib.Data.List.Forall2
import Mathlib.Logic.Function.Basic
import BraceTemplate.Proofs.Output.Handles

/-!
# Places of the output

What is done through the handles of one outlet where handles may also fail. The output then has
places, one behind the other: a handle starts a place, and leaves it where it forks or ends. A
render comes to the texts of all places, or to a failure at the first place that has one.
-/

namespace BraceTemplate.Output

/-- A place of the output: what is written there, and the failures set there, oldest first. -/
structure Place where
  text : String
  failures : List RenderError

namespace Place

def blank : Place := ⟨"", []⟩

def written (place : Place) (text : String) : Place :=
  { place with text := place.text ++ text }

def failed (place : Place) (error : RenderError) : Place :=
  { place with failures := place.failures ++ [error] }

/-- The same place, of whose failures some are known, but at least one if there are any. -/
structure Refines (place whole : Place) : Prop where
  text : place.text = whole.text
  known : whole.failures ≠ [] → place.failures ≠ []
  among : ∀ error ∈ place.failures, error ∈ whole.failures

abbrev RefineAll (places wholes : List Place) : Prop :=
  List.Forall₂ Refines places wholes

/-- The texts of places, without the empty ones. -/
def pieces (places : List Place) : List String :=
  (places.map text).filter fun text => !text.isEmpty

/-- What an output with some places may come to: its text where nothing fails, and else one of the
failures at the first place that has any. -/
def Yield (places : List Place) : Except RenderError String → Prop
  | .ok text =>
    (∀ place ∈ places, place.failures = []) ∧ text = String.join (places.map Place.text)
  | .error error =>
    ∃ before place behind, places = before ++ place :: behind ∧
      (∀ earlier ∈ before, earlier.failures = []) ∧ error ∈ place.failures

/-- How far an output with some places has come: the places that have left are the first ones, and
it ends with the last place, or with a failure behind those that have left. -/
def Reach (places left : List Place) : Outcome → Prop
  | .pending => left <+: places
  | .finished => left = places
  | .failed error =>
    ∃ place behind, places = left ++ place :: behind ∧ error ∈ place.failures

theorem Refines.refl (place : Place) : place.Refines place :=
  ⟨rfl, id, fun _ member => member⟩

theorem Refines.trans {place between whole : Place} (first : place.Refines between)
    (second : between.Refines whole) : place.Refines whole :=
  ⟨first.text.trans second.text, fun some => first.known (second.known some),
    fun error member => second.among error (first.among error member)⟩

theorem Refines.written {place whole : Place} (refines : place.Refines whole) (text : String) :
    (place.written text).Refines (whole.written text) :=
  ⟨congrArg (· ++ text) refines.text, refines.known, refines.among⟩

theorem Refines.failed {place whole : Place} (refines : place.Refines whole)
    (error : RenderError) : (place.failed error).Refines (whole.failed error) := by
  refine ⟨refines.text, fun _ => by simp [Place.failed], fun other member => ?_⟩
  simp only [Place.failed, List.mem_append, List.mem_singleton] at member ⊢
  exact member.imp (refines.among other) id

theorem Refines.eq_of_sound {place whole : Place} (refines : place.Refines whole)
    (sound : place.failures = []) : place = whole := by
  obtain ⟨text, failures⟩ := place
  obtain ⟨wholeText, wholeFailures⟩ := whole
  have none : wholeFailures = [] := Decidable.byContradiction fun some => refines.known some sound
  have same : text = wholeText := refines.text
  simp only at sound
  rw [same, sound, none]

theorem RefineAll.refl (places : List Place) : RefineAll places places :=
  List.forall₂_same.mpr fun place _ => Refines.refl place

theorem RefineAll.trans {places between wholes : List Place}
    (first : RefineAll places between) (second : RefineAll between wholes) :
    RefineAll places wholes := by
  induction first generalizing wholes with
  | nil => exact second
  | cons here _ inductionHypothesis =>
      cases second with
      | cons there rest => exact .cons (here.trans there) (inductionHypothesis rest)

theorem RefineAll.append {first firstWhole second secondWhole : List Place}
    (refines : RefineAll first firstWhole) (others : RefineAll second secondWhole) :
    RefineAll (first ++ second) (firstWhole ++ secondWhole) :=
  List.rel_append refines others

/-- Places without failures that lead a refinement are the first ones of the whole. -/
theorem RefineAll.split {left rest wholes : List Place} (refines : RefineAll (left ++ rest) wholes)
    (sound : ∀ place ∈ left, place.failures = []) :
    ∃ behind, wholes = left ++ behind ∧ RefineAll rest behind := by
  induction left generalizing wholes with
  | nil => exact ⟨wholes, rfl, refines⟩
  | cons place others inductionHypothesis =>
      cases refines with
      | cons here later =>
          obtain ⟨behind, rfl, refinesRest⟩ :=
            inductionHypothesis later fun other member => sound other (by simp [member])
          rw [here.eq_of_sound (sound place (by simp))]
          exact ⟨behind, rfl, refinesRest⟩

/-- Where every place has at most one failure, an output comes to one thing only. -/
theorem Yield.unique {places : List Place} {first second : Except RenderError String}
    (single : ∀ place ∈ places, place.failures.length ≤ 1)
    (ofFirst : Yield places first) (ofSecond : Yield places second) : first = second := by
  cases first with
  | ok text =>
      cases second with
      | ok other => rw [ofFirst.2, ofSecond.2]
      | error error =>
          obtain ⟨before, place, behind, rfl, -, member⟩ := ofSecond
          rw [ofFirst.1 place (by simp)] at member
          cases member
  | error error =>
      obtain ⟨before, place, behind, split, sound, member⟩ := ofFirst
      cases second with
      | ok text =>
          rw [ofSecond.1 place (by simp [split])] at member
          cases member
      | error other =>
          obtain ⟨otherBefore, otherPlace, otherBehind, otherSplit, otherSound, otherMember⟩ :=
            ofSecond
          have samePlace : place = otherPlace := by
            rw [split] at otherSplit
            rcases List.append_eq_append_iff.mp otherSplit with
              ⟨more, beforeSplit, rest⟩ | ⟨more, beforeSplit, rest⟩
            · cases more with
              | nil => simpa using (List.cons.inj rest).1
              | cons head tail =>
                  obtain ⟨rfl, -⟩ := List.cons.inj rest
                  rw [otherSound place (by simp [beforeSplit])] at member
                  cases member
            · cases more with
              | nil => simpa using (List.cons.inj rest).1.symm
              | cons head tail =>
                  obtain ⟨rfl, -⟩ := List.cons.inj rest
                  rw [sound otherPlace (by simp [beforeSplit])] at otherMember
                  cases otherMember
          subst samePlace
          obtain ⟨only, failures⟩ : ∃ only, place.failures = [only] := by
            have short := single place (by simp [split])
            have some := List.length_pos_of_mem member
            exact List.length_eq_one_iff.mp (by omega)
          rw [failures, List.mem_singleton] at member otherMember
          rw [member, otherMember]

end Place

/-- What is done through a handle, one thing after the other. -/
inductive Course where
  | finish
  | write (text : String) (next : Course)
  | tap (newest : Tap) (next : Course)
  | untap (next : Course)
  /-- Another handle goes on with the branch. -/
  | fork (branch next : Course)
  | fail (error : RenderError) (next : Course)

namespace Course

/-- The places that a handle with some taps, and the handles forked off it, make of the place where
the handle stands. -/
def places : Course → List Tap → Place → List Place
  | finish, _, here => [here]
  | write text next, taps, here => next.places taps (here.written (Tap.passedAll taps text))
  | tap newest next, taps, here => next.places (newest :: taps) here
  | untap next, taps, here => next.places taps.tail here
  | fork branch next, taps, here =>
    here :: (branch.places taps .blank ++ next.places taps .blank)
  | fail error next, taps, here => next.places taps (here.failed error)

/-- The number of steps of a handle and of the handles forked off it. -/
def steps : Course → Nat
  | finish => 1
  | write _ next => next.steps + 1
  | tap _ next => next.steps + 1
  | untap next => next.steps + 1
  | fork branch next => branch.steps + next.steps + 1
  | fail _ next => next.steps + 1

theorem places_refine (course : Course) (taps : List Tap) {here whole : Place}
    (refines : here.Refines whole) :
    Place.RefineAll (course.places taps here) (course.places taps whole) := by
  induction course generalizing taps here whole with
  | finish => exact .cons refines .nil
  | write text next inductionHypothesis => exact inductionHypothesis taps (refines.written _)
  | tap newest next inductionHypothesis => exact inductionHypothesis _ refines
  | untap next inductionHypothesis => exact inductionHypothesis _ refines
  | fork branch next _ _ => exact .cons refines (Place.RefineAll.refl _)
  | fail error next inductionHypothesis => exact inductionHypothesis taps (refines.failed error)

/-- The first place is the one where the handle stands, with what is still done there. -/
theorem places_eq_cons (course : Course) (taps : List Tap) (here : Place) :
    ∃ first others, course.places taps here = first :: others ∧
      ∀ error ∈ here.failures, error ∈ first.failures := by
  induction course generalizing taps here with
  | finish => exact ⟨here, [], rfl, fun _ member => member⟩
  | write text next inductionHypothesis => exact inductionHypothesis taps _
  | tap newest next inductionHypothesis => exact inductionHypothesis _ _
  | untap next inductionHypothesis => exact inductionHypothesis _ _
  | fork branch next _ _ => exact ⟨here, _, rfl, fun _ member => member⟩
  | fail error next inductionHypothesis =>
      obtain ⟨first, others, equality, among⟩ := inductionHypothesis taps (here.failed error)
      exact ⟨first, others, equality, fun other member =>
        among other (List.mem_append_left _ member)⟩

section Steps

variable {Continuation Listener Client : Type}

/-- Takes the first step; yields the handles that go on, with what is left for them to do. -/
def step (handlers : Handlers Continuation Listener Client) (writer : Writer) :
    Course → Run Continuation Listener Client (List (Writer × Course))
  | finish => do
    writer.finish handlers
    pure []
  | write text next => do
    let writer ← writer.write text
    pure [(writer, next)]
  | tap newest next => pure [(writer.tap newest, next)]
  | untap next => pure [(writer.untap, next)]
  | fork branch next => do
    let (inner, later) ← writer.fork
    pure [(inner, branch), (later, next)]
  | fail error next => do
    let writer ← writer.fail handlers error
    pure [(writer, next)]

end Steps

end Course

abbrev Prospects := Nat → Place → List Place

namespace Segment

/-- What a segment is by now. -/
def place (segment : Segment) : Place :=
  ⟨segment.text, segment.error.toList⟩

/-- The places of some segments in the end. -/
def places (coming : Prospects) (segments : List Segment) : List Place :=
  segments.flatMap fun segment =>
    if segment.ended then [segment.place] else coming segment.number segment.place

@[simp]
theorem places_nil (coming : Prospects) : places coming [] = [] :=
  rfl

@[simp]
theorem places_append (coming : Prospects) (first second : List Segment) :
    places coming (first ++ second) = places coming first ++ places coming second := by
  simp [places]

theorem places_cons_of_ended {coming : Prospects} {segment : Segment}
    (ended : segment.ended = true) (rest : List Segment) :
    places coming (segment :: rest) = segment.place :: places coming rest := by
  simp [places, ended]

theorem places_cons_of_open {coming : Prospects} {segment : Segment}
    (unended : segment.ended = false) (rest : List Segment) :
    places coming (segment :: rest) =
      coming segment.number segment.place ++ places coming rest := by
  simp [places, unended]

theorem places_of_ended {coming : Prospects} {segments : List Segment}
    (ended : ∀ segment ∈ segments, segment.ended = true) :
    places coming segments = segments.map place := by
  induction segments with
  | nil => rfl
  | cons segment rest inductionHypothesis =>
      rw [places_cons_of_ended (ended segment (by simp)),
        inductionHypothesis fun other member => ended other (by simp [member])]
      rfl

theorem places_congr {coming other : Prospects} {segments : List Segment}
    (agree : ∀ number ∈ openNumbers segments, coming number = other number) :
    places coming segments = places other segments := by
  induction segments with
  | nil => rfl
  | cons segment rest inductionHypothesis =>
      cases ended : segment.ended with
      | true =>
          rw [openNumbers_cons_of_ended ended] at agree
          rw [places_cons_of_ended ended, places_cons_of_ended ended, inductionHypothesis agree]
      | false =>
          rw [openNumbers_cons_of_open ended] at agree
          rw [places_cons_of_open ended, places_cons_of_open ended,
            agree _ (List.mem_cons_self ..),
            inductionHypothesis fun number member => agree number (by simp [member])]

end Segment

end BraceTemplate.Output
