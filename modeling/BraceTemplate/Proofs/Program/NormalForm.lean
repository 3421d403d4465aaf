import BraceTemplate.Proofs.Program.Everywhere

/-!
# The form of a tidied tree

In a tidied tree no body, whether of a tag or of a text with tags in it, holds a comment, a special
or a line break, and no two texts are next to each other. Everything that is not text stands in it
where it stood in the tree. Tidying such a tree changes nothing.
-/

namespace BraceTemplate.Node

def textsApart : List Node → Bool
  | text _ _ :: text _ _ :: _ => false
  | _ :: rest => textsApart rest
  | [] => true

/-- Whether a part is as tidying leaves it: no comment, special or line break, and no body with
neighbouring texts. -/
def isTidied : Node → Bool
  | body parts _ => textsApart parts
  | lineBreak _ _ _ => false
  | comment _ _ => false
  | special _ _ => false
  | _ => true

mutual

def textless? : Node → Option Node
  | body parts position => some (body (textlessParts parts) position)
  | text _ _ => none
  | lineBreak _ _ _ => none
  | comment _ _ => none
  | special _ _ => none
  | raw content position => some (raw content position)
  | reference identifier filters position => some (reference identifier filters position)
  | sectionTag kind identifier context params bodies position =>
    some (sectionTag kind identifier context (textlessParams params) (textlessBodies bodies)
      position)
  | inclusion kind (.name name) context params position =>
    some (inclusion kind (.name name) context (textlessParams params) position)
  | inclusion kind (.inline inner) context params position =>
    some (inclusion kind (.inline (orEmptyBody (textless? inner) inner.position)) context
      (textlessParams params) position)

def textlessParts : List Node → List Node
  | [] => []
  | part :: rest => (textless? part).toList ++ textlessParts rest

def textlessBodies : List (String × Node) → List (String × Node)
  | [] => []
  | (name, inner) :: rest =>
    (name, orEmptyBody (textless? inner) inner.position) :: textlessBodies rest

def textlessParams : List (Param Node) → List (Param Node)
  | [] => []
  | ⟨key, .literal value⟩ :: rest => ⟨key, .literal value⟩ :: textlessParams rest
  | ⟨key, .identifier name⟩ :: rest => ⟨key, .identifier name⟩ :: textlessParams rest
  | ⟨key, .inline inner⟩ :: rest =>
    ⟨key, .inline (orEmptyBody (textless? inner) inner.position)⟩ :: textlessParams rest

end

/-- The tree without its texts, line breaks, comments and specials, at every depth. Where a whole
body is due, an empty body stands for one of these. -/
def textless (node : Node) : Node :=
  orEmptyBody (textless? node) node.position

theorem textsApart_joinFront (node : Node) {rest : List Node} (apart : textsApart rest = true) :
    textsApart (joinFront node rest) = true := by
  unfold joinFront
  split
  · rename_i first position second otherPosition others
    cases others with
    | nil => rfl
    | cons other more => cases other <;> exact apart
  · rename_i different
    cases rest with
    | nil => cases node <;> rfl
    | cons next others =>
        cases node with
        | text first position =>
            cases next with
            | text second otherPosition =>
                exact absurd rfl (different first position second otherPosition others rfl)
            | _ => exact apart
        | _ => exact apart

theorem textsApart_joinTexts (parts : List Node) : textsApart (joinTexts parts) = true := by
  induction parts with
  | nil => rfl
  | cons part rest inductionHypothesis => exact textsApart_joinFront part inductionHypothesis

/-- Nothing is joined where texts are apart. -/
theorem joinTexts_eq {parts : List Node} (apart : textsApart parts = true) :
    joinTexts parts = parts := by
  induction parts with
  | nil => rfl
  | cons part rest inductionHypothesis =>
      have apartRest : textsApart rest = true := by
        cases part with
        | text first position =>
            cases rest with
            | nil => rfl
            | cons next others => cases next <;> first | exact apart | cases apart
        | _ => exact apart
      change joinFront part (joinTexts rest) = part :: rest
      rw [inductionHypothesis apartRest]
      unfold joinFront
      split
      · cases apart
      · rfl

theorem textlessParts_append (first second : List Node) :
    textlessParts (first ++ second) = textlessParts first ++ textlessParts second := by
  induction first with
  | nil => rfl
  | cons part rest inductionHypothesis => simp [textlessParts, inductionHypothesis]

theorem textlessParts_joinTexts (parts : List Node) :
    textlessParts (joinTexts parts) = textlessParts parts := by
  induction parts with
  | nil => rfl
  | cons part rest inductionHypothesis =>
      change textlessParts (joinFront part (joinTexts rest)) = _
      rw [textlessParts, ← inductionHypothesis]
      unfold joinFront
      split
      · rename_i split
        rw [split]
        rfl
      · rfl

theorem all_isTidied_orEmptyBody {tidied : Option Node} (position : Position)
    (each : ∀ node, tidied = some node → all isTidied node = true) :
    all isTidied (orEmptyBody tidied position) = true := by
  cases tidied with
  | none => rfl
  | some node => exact each node rfl

theorem position_tidy? {whitespace : Whitespace} {node tidied : Node}
    (stays : tidy? whitespace node = some tidied) : tidied.position = node.position := by
  cases node with
  | lineBreak newline blanks position =>
      cases whitespace with
      | strip => cases stays
      | preserve =>
          cases stays
          rfl
  | inclusion kind target context params position => cases target <;> cases stays <;> rfl
  | _ => cases stays <;> rfl

theorem textless_orEmptyBody {whitespace : Whitespace} {node : Node}
    (same : (tidy? whitespace node).bind textless? = textless? node) :
    textless (orEmptyBody (tidy? whitespace node) node.position) = textless node := by
  unfold textless
  rw [← same]
  cases stays : tidy? whitespace node with
  | none => rfl
  | some tidied =>
      have samePosition := position_tidy? stays
      simp [orEmptyBody, samePosition]

section Once

variable {whitespace : Whitespace}

mutual

/-- What stays of a part is tidied at every depth. -/
theorem all_isTidied_tidy? : ∀ (node tidied : Node), tidy? whitespace node = some tidied →
    all isTidied tidied = true
  | body parts position, tidied, stays => by
    cases stays
    have each := forall_mem_joinTexts (fun _ _ => rfl)
      (allParts_eq_true_iff.mp (allParts_isTidied_tidyParts parts))
    simp only [all, isTidied, textsApart_joinTexts, allParts_eq_true_iff.mpr each, Bool.and_self]
  | text _ _, tidied, stays => by
    cases stays
    rfl
  | lineBreak _ _ _, tidied, stays => by
    cases whitespace with
    | strip => cases stays
    | preserve =>
        cases stays
        rfl
  | raw _ _, tidied, stays => by
    cases stays
    rfl
  | comment _ _, tidied, stays => by cases stays
  | special _ _, tidied, stays => by
    cases stays
    rfl
  | reference _ _ _, tidied, stays => by
    cases stays
    rfl
  | sectionTag kind identifier context params bodies position, tidied, stays => by
    cases stays
    simp only [all, isTidied, allParams_isTidied_tidyParams params,
      allBodies_isTidied_tidyBodies bodies, Bool.and_self]
  | inclusion kind (.name name) context params position, tidied, stays => by
    cases stays
    simp only [all, isTidied, allParams_isTidied_tidyParams params, Bool.and_self]
  | inclusion kind (.inline inner) context params position, tidied, stays => by
    cases stays
    have here := all_isTidied_orEmptyBody inner.position (all_isTidied_tidy? inner)
    simp only [all, isTidied, here, allParams_isTidied_tidyParams params, Bool.and_self]

theorem allParts_isTidied_tidyParts : ∀ parts : List Node,
    allParts isTidied (tidyParts whitespace parts) = true
  | [] => rfl
  | part :: rest => by
    rw [tidyParts, allParts_append, allParts_isTidied_tidyParts rest, Bool.and_true]
    refine allParts_eq_true_iff.mpr fun tidied member => ?_
    exact all_isTidied_tidy? part tidied (Option.mem_toList.mp member)

theorem allBodies_isTidied_tidyBodies : ∀ bodies : List (String × Node),
    allBodies isTidied (tidyBodies whitespace bodies) = true
  | [] => rfl
  | (_, inner) :: rest => by
    have here := all_isTidied_orEmptyBody inner.position (all_isTidied_tidy? inner)
    simp only [tidyBodies, allBodies, here, allBodies_isTidied_tidyBodies rest, Bool.and_self]

theorem allParams_isTidied_tidyParams : ∀ params : List (Param Node),
    allParams isTidied (tidyParams whitespace params) = true
  | [] => rfl
  | ⟨_, .literal _⟩ :: rest => allParams_isTidied_tidyParams rest
  | ⟨_, .identifier _⟩ :: rest => allParams_isTidied_tidyParams rest
  | ⟨_, .inline inner⟩ :: rest => by
    have here := all_isTidied_orEmptyBody inner.position (all_isTidied_tidy? inner)
    simp only [tidyParams, allParams, here, allParams_isTidied_tidyParams rest, Bool.and_self]

end

mutual

/-- What there is of a part besides text stays. -/
theorem textless?_tidy? : ∀ node : Node,
    (tidy? whitespace node).bind textless? = textless? node
  | body parts position => by
    simp only [tidy?, Option.bind_some, textless?, textlessParts_joinTexts,
      textlessParts_tidyParts parts]
  | text _ _ => rfl
  | lineBreak _ _ _ => by cases whitespace <;> rfl
  | raw _ _ => rfl
  | comment _ _ => rfl
  | special _ _ => rfl
  | reference _ _ _ => rfl
  | sectionTag kind identifier context params bodies position => by
    simp only [tidy?, Option.bind_some, textless?, textlessParams_tidyParams params,
      textlessBodies_tidyBodies bodies]
  | inclusion kind (.name name) context params position => by
    simp only [tidy?, Option.bind_some, textless?, textlessParams_tidyParams params]
  | inclusion kind (.inline inner) context params position => by
    have here := textless_orEmptyBody (textless?_tidy? inner)
    unfold textless at here
    simp only [tidy?, Option.bind_some, textless?, textlessParams_tidyParams params, here]

theorem textlessParts_tidyParts : ∀ parts : List Node,
    textlessParts (tidyParts whitespace parts) = textlessParts parts
  | [] => rfl
  | part :: rest => by
    rw [tidyParts, textlessParts_append, textlessParts_tidyParts rest, textlessParts,
      ← textless?_tidy? part]
    cases tidy? whitespace part with
    | none => rfl
    | some tidied => simp [textlessParts]

theorem textlessBodies_tidyBodies : ∀ bodies : List (String × Node),
    textlessBodies (tidyBodies whitespace bodies) = textlessBodies bodies
  | [] => rfl
  | (_, inner) :: rest => by
    have here := textless_orEmptyBody (textless?_tidy? inner)
    unfold textless at here
    simp only [tidyBodies, textlessBodies, here, textlessBodies_tidyBodies rest]

theorem textlessParams_tidyParams : ∀ params : List (Param Node),
    textlessParams (tidyParams whitespace params) = textlessParams params
  | [] => rfl
  | ⟨_, .literal _⟩ :: rest => by
    rw [tidyParams, textlessParams, textlessParams_tidyParams rest, textlessParams]
  | ⟨_, .identifier _⟩ :: rest => by
    rw [tidyParams, textlessParams, textlessParams_tidyParams rest, textlessParams]
  | ⟨_, .inline inner⟩ :: rest => by
    have here := textless_orEmptyBody (textless?_tidy? inner)
    unfold textless at here
    simp only [tidyParams, textlessParams, here, textlessParams_tidyParams rest]

end

end Once

section Again

variable {whitespace : Whitespace}

mutual

/-- A tidied part stays as it is. -/
theorem tidy?_eq_some : ∀ node : Node, all isTidied node = true →
    tidy? whitespace node = some node
  | body parts position, tidied => by
    simp only [all, isTidied, Bool.and_eq_true] at tidied
    rw [tidy?, tidyParts_eq parts tidied.2, joinTexts_eq tidied.1]
  | text _ _, _ => rfl
  | lineBreak _ _ _, tidied => by cases tidied
  | raw _ _, _ => rfl
  | comment _ _, tidied => by cases tidied
  | special _ _, tidied => by cases tidied
  | reference _ _ _, _ => rfl
  | sectionTag kind identifier context params bodies position, tidied => by
    simp only [all, Bool.and_eq_true] at tidied
    rw [tidy?, tidyParams_eq params tidied.2.1, tidyBodies_eq bodies tidied.2.2]
  | inclusion kind (.name name) context params position, tidied => by
    simp only [all, Bool.and_eq_true] at tidied
    rw [tidy?, tidyParams_eq params tidied.2]
  | inclusion kind (.inline inner) context params position, tidied => by
    simp only [all, Bool.and_eq_true] at tidied
    rw [tidy?, tidyParams_eq params tidied.2.2, tidy?_eq_some inner tidied.2.1]
    rfl

theorem tidyParts_eq : ∀ parts : List Node, allParts isTidied parts = true →
    tidyParts whitespace parts = parts
  | [], _ => rfl
  | part :: rest, tidied => by
    simp only [allParts, Bool.and_eq_true] at tidied
    rw [tidyParts, tidy?_eq_some part tidied.1, tidyParts_eq rest tidied.2]
    rfl

theorem tidyBodies_eq : ∀ bodies : List (String × Node), allBodies isTidied bodies = true →
    tidyBodies whitespace bodies = bodies
  | [], _ => rfl
  | (_, inner) :: rest, tidied => by
    simp only [allBodies, Bool.and_eq_true] at tidied
    rw [tidyBodies, tidy?_eq_some inner tidied.1, tidyBodies_eq rest tidied.2]
    rfl

theorem tidyParams_eq : ∀ params : List (Param Node), allParams isTidied params = true →
    tidyParams whitespace params = params
  | [], _ => rfl
  | ⟨_, .literal _⟩ :: rest, tidied => by rw [tidyParams, tidyParams_eq rest tidied]
  | ⟨_, .identifier _⟩ :: rest, tidied => by rw [tidyParams, tidyParams_eq rest tidied]
  | ⟨_, .inline inner⟩ :: rest, tidied => by
    simp only [allParams, Bool.and_eq_true] at tidied
    rw [tidyParams, tidy?_eq_some inner tidied.1, tidyParams_eq rest tidied.2]
    rfl

end

end Again

/-- Tidying leaves no comments, specials, line breaks and neighbouring texts at any depth and keeps
everything else in its place, and to tidy once more, in either way, changes nothing. -/
theorem tidy_isNormal (whitespace : Whitespace) (node : Node) :
    (node.tidy whitespace).all isTidied = true ∧
      (node.tidy whitespace).textless = node.textless ∧
      ∀ again, (node.tidy whitespace).tidy again = node.tidy whitespace := by
  have tidied : (node.tidy whitespace).all isTidied = true :=
    all_isTidied_orEmptyBody _ (all_isTidied_tidy? node)
  refine ⟨tidied, textless_orEmptyBody (textless?_tidy? node), fun again => ?_⟩
  rw [tidy, tidy?_eq_some _ tidied]
  rfl

end BraceTemplate.Node
