import Mathlib.Data.String.Basic

/-!
# Texts that are split

A text that is split at a character is split as the list of its characters is, so that texts without
the character that were joined by it come back.
-/

namespace BraceTemplate.Text

open String

theorem extract_since (left since right : List Char) :
    Pos.Raw.extract (ofList (left ++ since ++ right)) ⟨utf8Len left⟩ ⟨utf8Len (left ++ since)⟩ =
      ofList since := by
  rw [utf8Len_append]
  exact extract_of_valid left since right

/-- Splitting goes through a text from the left. The characters `left` are done with, `since` are
those since the last separator, and `right` are to come. -/
theorem splitOnAux_singleton (separator : Char) (left since right : List Char)
    (pieces : List String) :
    splitOnAux (ofList (left ++ since ++ right)) (singleton separator) ⟨utf8Len left⟩
        ⟨utf8Len (left ++ since)⟩ 0 pieces =
      pieces.reverse ++
        (List.splitOnPPrepend (· == separator) right since.reverse).map ofList := by
  induction right generalizing left since pieces with
  | nil =>
      rw [splitOnAux, if_pos ((atEnd_of_valid _ _).mpr rfl), extract_since]
      simp
  | cons next rest inductionHypothesis =>
      have goesOn : ¬ (⟨utf8Len (left ++ since)⟩ : Pos.Raw).atEnd
          (ofList (left ++ since ++ next :: rest)) = true := by
        rw [atEnd_of_valid]
        exact List.cons_ne_nil next rest
      have current : Pos.Raw.get (ofList (left ++ since ++ next :: rest))
          ⟨utf8Len (left ++ since)⟩ = next := get_of_valid _ _
      have wanted : Pos.Raw.get (singleton separator) 0 = separator := get_of_valid [] [separator]
      have advanced : Pos.Raw.next (ofList (left ++ since ++ next :: rest))
          ⟨utf8Len (left ++ since)⟩ = ⟨utf8Len (left ++ since) + next.utf8Size⟩ :=
        next_of_valid _ _ _
      rw [splitOnAux, if_neg goesOn, current, wanted, List.splitOnPPrepend_cons_eq_if]
      by_cases separates : (next == separator) = true
      · have same : next = separator := by simpa using separates
        subst same
        have found : Pos.Raw.next (singleton next) 0 = ⟨next.utf8Size⟩ := by
          simpa using next_of_valid [] next []
        have whole : (⟨next.utf8Size⟩ : Pos.Raw).atEnd (singleton next) = true := by
          simpa using (atEnd_of_valid [next] []).mpr rfl
        have back : (⟨utf8Len (left ++ since) + next.utf8Size⟩ : Pos.Raw).unoffsetBy
            ⟨next.utf8Size⟩ = ⟨utf8Len (left ++ since)⟩ := by
          simp [Pos.Raw.unoffsetBy]
        have later := inductionHypothesis (left ++ since ++ [next]) [] (ofList since :: pieces)
        simp only [if_pos separates, advanced, found, whole, if_true, back, extract_since]
        simpa [Nat.add_assoc] using later
      · have back : (⟨utf8Len (left ++ since)⟩ : Pos.Raw).unoffsetBy 0 =
            ⟨utf8Len (left ++ since)⟩ := by
          simp [Pos.Raw.unoffsetBy]
        have later := inductionHypothesis left (since ++ [next]) pieces
        simp only [if_neg separates, back, advanced]
        simpa [Nat.add_assoc] using later

/-- A text is split at a character as the list of its characters is. -/
theorem splitOn_singleton (text : String) (separator : Char) :
    text.splitOn (singleton separator) = (text.toList.splitOn separator).map ofList := by
  have notEmpty : (singleton separator == "") = false := by
    rw [beq_eq_false_iff_ne, ne_eq, ← toList_inj]
    simp
  rw [splitOn, notEmpty, if_neg Bool.false_ne_true]
  have split := splitOnAux_singleton separator [] [] text.toList []
  rw [List.append_nil, List.nil_append, ofList_toList] at split
  exact split

/-- Texts that were joined by a character which none of them has come back. -/
theorem splitOn_intercalate {separator : Char} {pieces : List String} (filled : pieces ≠ [])
    (lacks : ∀ piece ∈ pieces, separator ∉ piece.toList) :
    ((singleton separator).intercalate pieces).splitOn (singleton separator) = pieces := by
  have lists : ∀ chars ∈ pieces.map toList, separator ∉ chars := by
    intro chars member
    obtain ⟨piece, inside, rfl⟩ := List.mem_map.mp member
    exact lacks piece inside
  have notEmpty : pieces.map toList ≠ [] := by simpa using filled
  rw [splitOn_singleton, toList_intercalate, toList_singleton,
    List.splitOn_intercalate separator lists notEmpty, List.map_map]
  simp [Function.comp_def]

/-- What stands before a separator and what stands behind it are split each by itself. -/
theorem splitOn_append_separator (separator : Char) (first second : String) :
    (first ++ singleton separator ++ second).splitOn (singleton separator) =
      first.splitOn (singleton separator) ++ second.splitOn (singleton separator) := by
  simp only [splitOn_singleton, toList_append, toList_singleton, List.append_assoc,
    List.singleton_append, List.splitOn_append_cons_self, List.map_append]

/-- The pieces of a list that is split at an element are parts of it without the element. -/
theorem sublist_of_mem_splitOn {separator : Char} {chars piece : List Char}
    (member : piece ∈ chars.splitOn separator) : piece.Sublist chars ∧ separator ∉ piece := by
  induction chars generalizing piece with
  | nil => simp_all
  | cons first rest inductionHypothesis =>
      rw [List.splitOn_cons_eq_if_modifyHead] at member
      split at member
      · rcases List.mem_cons.mp member with rfl | inRest
        · exact ⟨List.nil_sublist _, List.not_mem_nil⟩
        · exact (inductionHypothesis inRest).imp_left (List.Sublist.cons first)
      · rename_i different
        obtain ⟨head, others, split⟩ :=
          List.exists_cons_of_ne_nil (List.splitOn_ne_nil separator rest)
        rw [split] at member inductionHypothesis
        rcases List.mem_cons.mp member with rfl | inRest
        · obtain ⟨part, lacks⟩ := inductionHypothesis List.mem_cons_self
          refine ⟨part.cons_cons first, List.not_mem_cons_of_ne_of_not_mem ?_ lacks⟩
          rintro rfl
          exact different (beq_self_eq_true _)
        · exact (inductionHypothesis (List.mem_cons_of_mem _ inRest)).imp_left
            (List.Sublist.cons first)

/-- The pieces of a text that is split at a character lack it, and none is longer than the text. -/
theorem of_mem_splitOn {separator : Char} {text piece : String}
    (member : piece ∈ text.splitOn (singleton separator)) :
    piece.length ≤ text.length ∧ separator ∉ piece.toList := by
  rw [splitOn_singleton] at member
  obtain ⟨chars, inside, rfl⟩ := List.mem_map.mp member
  obtain ⟨part, lacks⟩ := sublist_of_mem_splitOn inside
  rw [toList_ofList, length_ofList, ← length_toList]
  exact ⟨part.length_le, lacks⟩

end BraceTemplate.Text
