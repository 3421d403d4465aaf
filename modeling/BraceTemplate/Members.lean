/-!
Entries under text keys, kept in ascending order of their keys. Objects of the data, evaluated
parameters and the tables of an engine are all of this kind. Keys are ordered by their characters,
and a key occurs once.
-/

namespace BraceTemplate

/-- Entries in ascending key order, each key once. -/
abbrev Members (Held : Type) := List (String × Held)

namespace Members

variable {Held : Type}

def find? (members : Members Held) (key : String) : Option Held :=
  match members with
  | [] => none
  | (other, held) :: rest => if other = key then some held else find? rest key

/-- Puts an entry under a key, in place of the one that is there. -/
def insert (members : Members Held) (key : String) (added : Held) : Members Held :=
  match members with
  | [] => [(key, added)]
  | (other, held) :: rest =>
    if key = other then (key, added) :: rest
    else if key < other then (key, added) :: (other, held) :: rest
    else (other, held) :: insert rest key added

/-- Takes the entry under a key away. -/
def erase (members : Members Held) (key : String) : Members Held :=
  match members with
  | [] => []
  | (other, held) :: rest => if other = key then rest else (other, held) :: erase rest key

def contains (members : Members Held) (key : String) : Bool :=
  (members.find? key).isSome

/-- The entries of a list in key order; of two under one key the later stays. -/
def ofList (entries : List (String × Held)) : Members Held :=
  entries.foldl (fun members entry => members.insert entry.1 entry.2) []

/-- Nothing is found among no entries. -/
@[simp] theorem find?_nil (key : String) : find? ([] : Members Held) key = none := rfl

/-- The first entry is what is found under its key. -/
theorem find?_cons (other : String) (held : Held) (rest : Members Held) (key : String) :
    find? ((other, held) :: rest) key = if other = key then some held else find? rest key := rfl

/-- What is put under a key is found there. -/
theorem find?_insert_self (members : Members Held) (key : String) (added : Held) :
    (members.insert key added).find? key = some added := by
  induction members with
  | nil => simp [insert, find?]
  | cons entry rest inductionHypothesis =>
    obtain ⟨other, held⟩ := entry
    simp only [insert]
    split
    · simp [find?]
    · split
      · simp [find?]
      · rename_i different _
        simp only [find?, inductionHypothesis, if_neg (Ne.symm different)]

/-- Putting an entry under one key moves nothing under another. -/
theorem find?_insert_of_ne (members : Members Held) {key sought : String} (added : Held)
    (different : key ≠ sought) :
    (members.insert key added).find? sought = members.find? sought := by
  induction members with
  | nil => simp [insert, find?, different]
  | cons entry rest inductionHypothesis =>
    obtain ⟨other, held⟩ := entry
    simp only [insert]
    split
    · rename_i same
      subst same
      simp [find?, different]
    · split
      · simp [find?, different]
      · simp only [find?, inductionHypothesis]

theorem find?_foldl_insert (entries : List (String × Held)) (members : Members Held)
    (key : String) :
    find? (entries.foldl (fun members entry => members.insert entry.1 entry.2) members) key =
      ((entries.reverse.find? fun entry => entry.1 == key).map Prod.snd).or
        (members.find? key) := by
  induction entries generalizing members with
  | nil => rfl
  | cons entry rest inductionHypothesis =>
      rw [List.foldl_cons, inductionHypothesis, List.reverse_cons, List.find?_append]
      by_cases same : entry.1 = key
      · subst same
        simp [find?_insert_self]
      · rw [find?_insert_of_ne _ _ same]
        simp [same]

/-- Of entries under one key the last is found. -/
theorem find?_ofList (entries : List (String × Held)) (key : String) :
    (ofList entries).find? key =
      (entries.reverse.find? fun entry => entry.1 == key).map Prod.snd := by
  rw [ofList, find?_foldl_insert, find?_nil, Option.or_none]

/-! ## Membership -/

variable {property : String × Held → Prop}

theorem mem_of_find? {members : Members Held} {key : String} {held : Held}
    (found : members.find? key = some held) : (key, held) ∈ members := by
  induction members with
  | nil => cases found
  | cons entry rest inductionHypothesis =>
      obtain ⟨other, first⟩ := entry
      rw [find?_cons] at found
      split at found
      · rename_i same
        cases found
        simp [same]
      · exact List.mem_cons_of_mem _ (inductionHypothesis found)

theorem forall_mem_insert {members : Members Held} {key : String} {added : Held}
    (each : ∀ entry ∈ members, property entry) (new : property (key, added)) :
    ∀ entry ∈ members.insert key added, property entry := by
  induction members with
  | nil => simpa [insert] using new
  | cons first rest inductionHypothesis =>
      have later := inductionHypothesis fun entry member => each entry (by simp [member])
      have here := each first (by simp)
      obtain ⟨other, held⟩ := first
      intro entry member
      unfold insert at member
      split at member
      · rcases List.mem_cons.mp member with rfl | inRest
        · exact new
        · exact each entry (by simp [inRest])
      · split at member
        · rcases List.mem_cons.mp member with rfl | inAll
          · exact new
          · exact each entry inAll
        · rcases List.mem_cons.mp member with rfl | inRest
          · exact here
          · exact later entry inRest

theorem forall_mem_ofList {entries : List (String × Held)}
    (each : ∀ entry ∈ entries, property entry) : ∀ entry ∈ ofList entries, property entry := by
  unfold ofList
  have start : ∀ entry ∈ ([] : Members Held), property entry := by simp
  generalize ([] : Members Held) = gathered at start
  induction entries generalizing gathered with
  | nil => exact start
  | cons first rest inductionHypothesis =>
      exact inductionHypothesis (fun entry member => each entry (by simp [member])) _
        (forall_mem_insert start (each first (by simp)))

end Members

end BraceTemplate
