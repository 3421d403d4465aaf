import Mathlib.Data.List.TakeWhile
import BraceTemplate.Loading.FileTree
import BraceTemplate.Proofs.Text.Splitting

/-!
# Which names stay below the root

A path leads to a place: its segments are gone through from the left, and two dots leave the
directory that was entered last. The path of a file for a name leads below the root, whatever the
root is, exactly if the name by itself leads somewhere further down: if it does not start at the
top, does not leave where it starts, and does not come back to it.
-/

namespace BraceTemplate.FilePath

/-! ## Places -/

def isAbsolute (path : String) : Bool :=
  path.toList.head? == some '/'

/-- The directories that were entered, the last one first, without the last one. There is nothing
above the top; elsewhere two dots that leave nothing stay. -/
def leave (rooted : Bool) : List String → List String
  | [] => if rooted then [] else [".."]
  | last :: before => if last = ".." then ".." :: last :: before else before

/-- The directories that are entered, the last one first, after one more segment. -/
def enter (rooted : Bool) (entered : List String) (segment : String) : List String :=
  if isIdle segment then entered
  else if segment = ".." then leave rooted entered
  else segment :: entered

def wayTo (path : String) : List String :=
  (segments path).foldl (enter (isAbsolute path)) []

/-- Where a path leads, from the outermost directory inward, without single dots and with two dots
only where they leave the place that a relative path starts from. -/
def place (path : String) : List String :=
  (wayTo path).reverse

/-- Whether a path leads from the place of a root further down. -/
def IsBelow (root path : String) : Prop :=
  isAbsolute path = isAbsolute root ∧
    ∃ more, more ≠ [] ∧ ".." ∉ more ∧ place path = place root ++ more

/-- Whether a name by itself leads further down. -/
def IsLocal (name : String) : Prop :=
  isAbsolute name = false ∧ place name ≠ [] ∧ ".." ∉ place name

theorem isBelow_iff_drop {root path : String} :
    IsBelow root path ↔ isAbsolute path = isAbsolute root ∧ place root <+: place path ∧
      (place path).drop (place root).length ≠ [] ∧
        ".." ∉ (place path).drop (place root).length := by
  refine and_congr_right fun _ => ⟨?_, ?_⟩
  · rintro ⟨more, filled, lacks, onward⟩
    rw [onward, List.drop_left]
    exact ⟨List.prefix_append _ _, filled, lacks⟩
  · rintro ⟨⟨more, onward⟩, filled, lacks⟩
    rw [← onward, List.drop_left] at filled lacks
    exact ⟨more, filled, lacks, onward.symm⟩

instance (root path : String) : Decidable (IsBelow root path) :=
  decidable_of_iff _ isBelow_iff_drop.symm

instance (name : String) : Decidable (IsLocal name) :=
  inferInstanceAs (Decidable (_ ∧ _ ∧ _))

theorem isBelow_iff {root path : String} :
    IsBelow root path ↔ isAbsolute path = isAbsolute root ∧
      ∃ inner, inner ≠ [] ∧ ".." ∉ inner ∧ wayTo path = inner ++ wayTo root := by
  refine and_congr_right fun _ => ⟨?_, ?_⟩
  · rintro ⟨more, filled, lacks, onward⟩
    refine ⟨more.reverse, by simpa using filled, by simpa using lacks, ?_⟩
    rw [← List.reverse_inj, List.reverse_append, List.reverse_reverse]
    exact onward
  · rintro ⟨inner, filled, lacks, onward⟩
    exact ⟨inner.reverse, by simpa using filled, by simpa using lacks,
      by rw [place, onward, List.reverse_append, ← place]⟩

theorem isLocal_iff {name : String} :
    IsLocal name ↔ isAbsolute name = false ∧ wayTo name ≠ [] ∧ ".." ∉ wayTo name := by
  simp [IsLocal, place]

/-! ## Going through segments -/

section Entering

variable {rooted : Bool} {entered : List String} {segment : String}

theorem enter_idle (idle : isIdle segment = true) : enter rooted entered segment = entered := by
  rw [enter, if_pos idle]

theorem enter_name (busy : isIdle segment = false) (named : segment ≠ "..") :
    enter rooted entered segment = segment :: entered := by
  rw [enter, busy, if_neg Bool.false_ne_true, if_neg named]

theorem enter_leave : enter rooted entered ".." = leave rooted entered := rfl

theorem leave_cons {last : String} (named : last ≠ "..") :
    leave rooted (last :: entered) = entered := by
  rw [leave, if_neg named]

/-- A segment is idle, leaves, or is a name. -/
theorem segment_cases (segment : String) :
    isIdle segment = true ∨ segment = ".." ∨ isIdle segment = false ∧ segment ≠ ".." := by
  cases isIdle segment <;> by_cases leaves : segment = ".." <;> simp [leaves]

theorem foldl_enter_idle {idle : List String} (each : ∀ segment ∈ idle, isIdle segment = true) :
    idle.foldl (enter rooted) entered = entered := by
  induction idle with
  | nil => rfl
  | cons first rest inductionHypothesis =>
      rw [List.foldl_cons, enter_idle (each first List.mem_cons_self)]
      exact inductionHypothesis fun segment member => each segment (List.mem_cons_of_mem _ member)

/-- Only segments are entered. -/
theorem mem_of_mem_enter {directory : String} (member : directory ∈ enter rooted entered segment) :
    directory ∈ entered ∨ directory = segment := by
  rcases segment_cases segment with idle | rfl | ⟨busy, named⟩
  · rw [enter_idle idle] at member
    exact .inl member
  · rw [enter_leave] at member
    unfold leave at member
    grind
  · rw [enter_name busy named] at member
    exact (List.mem_cons.mp member).symm

theorem mem_of_mem_foldl_enter {segments : List String} {directory : String}
    (member : directory ∈ segments.foldl (enter rooted) entered) :
    directory ∈ entered ∨ directory ∈ segments := by
  induction segments generalizing entered with
  | nil => exact .inl member
  | cons first rest inductionHypothesis =>
      rcases inductionHypothesis member with before | behind
      · refine (mem_of_mem_enter before).imp id ?_
        rintro rfl
        exact List.mem_cons_self
      · exact .inr (List.mem_cons_of_mem _ behind)

/-- Two dots that were left to stand stay. -/
theorem leave_mem_enter (member : ".." ∈ entered) (segment : String) :
    ".." ∈ enter rooted entered segment := by
  rcases segment_cases segment with idle | rfl | ⟨busy, named⟩
  · rwa [enter_idle idle]
  · rw [enter_leave]
    unfold leave
    grind
  · rw [enter_name busy named]
    exact List.mem_cons_of_mem _ member

theorem leave_mem_foldl_enter (member : ".." ∈ entered) (segments : List String) :
    ".." ∈ segments.foldl (enter rooted) entered := by
  induction segments generalizing entered with
  | nil => exact member
  | cons first rest inductionHypothesis => exact inductionHypothesis (leave_mem_enter member first)

/-- Segments that leave nothing behind them enter from everywhere what they enter from the start. -/
theorem foldl_enter_append {segments inner : List String} (outer : List String)
    (stays : ".." ∉ segments.foldl (enter false) inner) :
    segments.foldl (enter rooted) (inner ++ outer) =
      segments.foldl (enter false) inner ++ outer := by
  induction segments generalizing inner with
  | nil => rfl
  | cons first rest inductionHypothesis =>
      rw [List.foldl_cons] at stays
      suffices step : enter rooted (inner ++ outer) first = enter false inner first ++ outer by
        rw [List.foldl_cons, List.foldl_cons, step]
        exact inductionHypothesis stays
      rcases segment_cases first with idle | rfl | ⟨busy, named⟩
      · rw [enter_idle idle, enter_idle idle]
      · cases inner with
        | nil =>
            -- Dots that find nothing to leave are still there at the end.
            exact absurd (leave_mem_foldl_enter List.mem_cons_self rest) stays
        | cons last before =>
            have named : last ≠ ".." := by
              rintro rfl
              exact stays (leave_mem_foldl_enter (leave_mem_enter List.mem_cons_self _) rest)
            rw [enter_leave, enter_leave, List.cons_append, leave_cons named, leave_cons named]
      · rw [enter_name busy named, enter_name busy named, List.cons_append]

/-- A directory below the top that segments leave is entered again only by its name. -/
theorem not_mem_foldl_enter {directory : String} (named : directory ≠ "..")
    {segments inner : List String} (unnamed : directory ∉ segments) (lacks : ".." ∉ inner)
    (leaves : ".." ∈ segments.foldl (enter false) inner) :
    directory ∉ segments.foldl (enter true) (inner ++ [directory]) := by
  induction segments generalizing inner with
  | nil => exact absurd leaves lacks
  | cons first rest inductionHypothesis =>
      rw [List.foldl_cons] at leaves ⊢
      have unnamedRest : directory ∉ rest := fun member =>
        unnamed (List.mem_cons_of_mem _ member)
      rcases segment_cases first with idle | rfl | ⟨busy, isName⟩
      · rw [enter_idle idle] at leaves ⊢
        exact inductionHypothesis unnamedRest lacks leaves
      · rw [enter_leave] at leaves ⊢
        cases inner with
        | nil =>
            rw [List.nil_append, leave_cons named]
            exact fun member => (mem_of_mem_foldl_enter member).elim List.not_mem_nil unnamedRest
        | cons last before =>
            have isName : last ≠ ".." := fun same => lacks (same ▸ List.mem_cons_self)
            rw [leave_cons isName] at leaves
            rw [List.cons_append, leave_cons isName]
            exact inductionHypothesis unnamedRest
              (fun member => lacks (List.mem_cons_of_mem _ member)) leaves
      · rw [enter_name busy isName] at leaves ⊢
        refine inductionHypothesis unnamedRest ?_ leaves
        simp [lacks, isName.symm]

/-- Where at least two directories are entered after a segment, the outer of them were before. -/
theorem exists_of_enter_eq_append {inner outer : List String} (filled : inner ≠ [])
    (below : outer ≠ []) (onward : enter rooted entered segment = inner ++ outer) :
    ∃ before, entered = before ++ outer := by
  obtain ⟨last, others, rfl⟩ := List.exists_cons_of_ne_nil filled
  rcases segment_cases segment with idle | rfl | ⟨busy, named⟩
  · rw [enter_idle idle] at onward
    exact ⟨_, onward⟩
  · rw [enter_leave] at onward
    cases entered with
    | nil => cases rooted <;> simp [leave, below] at onward
    | cons top before =>
        by_cases stands : top = ".."
        · rw [leave, if_pos stands, List.cons_append, List.cons.injEq] at onward
          exact ⟨others, onward.2⟩
        · rw [leave_cons stands] at onward
          exact ⟨top :: last :: others, congrArg (top :: ·) onward⟩
  · rw [enter_name busy named, List.cons_append, List.cons.injEq] at onward
    exact ⟨others, onward.2⟩

end Entering

theorem segments_eq (path : String) :
    segments path = (path.toList.splitOn '/').map String.ofList :=
  Text.splitOn_singleton path '/'

theorem segments_join (first second : String) :
    segments (first ++ "/" ++ second) = segments first ++ segments second :=
  Text.splitOn_append_separator '/' first second

theorem of_mem_segments {path segment : String} (member : segment ∈ segments path) :
    segment.length ≤ path.length ∧ '/' ∉ segment.toList :=
  Text.of_mem_splitOn member

theorem segments_intercalate {pieces : List String} (filled : pieces ≠ [])
    (lacks : ∀ piece ∈ pieces, '/' ∉ piece.toList) :
    segments ("/".intercalate pieces) = pieces :=
  Text.splitOn_intercalate filled lacks

/-- A path starts at the top if nothing stands before its first slash. -/
theorem isAbsolute_of_segments {path first : String} {rest : List String}
    (split : segments path = first :: rest) :
    isAbsolute path = (first == "" && !rest.isEmpty) := by
  have lists := split
  rw [segments_eq] at lists
  unfold isAbsolute
  cases letters : path.toList with
  | nil =>
      rw [letters] at lists
      cases lists
      rfl
  | cons char more =>
      rw [letters, List.splitOn_cons_eq_if_modifyHead] at lists
      by_cases slash : char = '/'
      · subst slash
        rw [beq_self_eq_true, if_pos rfl] at lists
        cases lists
        simp
      · obtain ⟨head, others, splitMore⟩ :=
          List.exists_cons_of_ne_nil (List.splitOn_ne_nil '/' more)
        rw [if_neg (by simpa using slash), splitMore] at lists
        cases lists
        have filled : String.ofList (char :: head) ≠ "" := by
          rw [ne_eq, ← String.toList_inj, String.toList_ofList]
          exact List.cons_ne_nil _ _
        rw [beq_eq_false_iff_ne.mpr filled, List.head?_cons, Bool.false_and]
        simpa using slash

/-- What stands in front of a segment tells whether a path starts at the top, if the segment is not
empty or the last one. -/
theorem isAbsolute_of_segments_append {path segment : String} {front behind : List String}
    (split : segments path = front ++ segment :: behind)
    (tells : segment ≠ "" ∨ behind = []) :
    isAbsolute path = (front.head? == some "") := by
  cases front with
  | nil =>
      rw [isAbsolute_of_segments split]
      rcases tells with filled | rfl
      · simp [filled]
      · simp
  | cons first rest =>
      rw [isAbsolute_of_segments split]
      simp

theorem segments_of_splitFileName? {path file : String} {outer : List String}
    (split : splitFileName? path = some (outer, file)) :
    ∃ behind, segments path = outer ++ file :: behind ∧
      (∀ segment ∈ behind, isIdle segment = true) ∧ isIdle file = false ∧ file ≠ ".." := by
  unfold splitFileName? at split
  split at split
  · cases split
  · rename_i name before reversed
    split at split
    · cases split
    · rename_i named
      cases split
      have busy : isIdle file = false := by
        have head := List.head?_dropWhile_not isIdle (segments path).reverse
        rw [← reversedSegments, reversed] at head
        simpa using head
      refine ⟨((segments path).reverse.takeWhile isIdle).reverse, ?_, ?_, busy, named⟩
      · rw [← List.reverse_inj]
        simp only [List.reverse_append, List.reverse_cons, List.reverse_reverse,
          List.append_assoc, List.singleton_append]
        rw [← reversed, reversedSegments, List.takeWhile_append_dropWhile]
      · intro segment member
        exact List.mem_takeWhile_imp (List.mem_reverse.mp member)

/-- A path with a file name leads to the file in the directories before it. -/
theorem wayTo_of_splitFileName? {path file : String} {outer : List String}
    (split : splitFileName? path = some (outer, file)) :
    wayTo path = file :: outer.foldl (enter (isAbsolute path)) [] := by
  obtain ⟨behind, parts, idle, busy, named⟩ := segments_of_splitFileName? split
  rw [wayTo, parts, List.foldl_append, List.foldl_cons, foldl_enter_idle idle,
    enter_name busy named]

/-- A path that leads somewhere has a segment that is not idle. -/
theorem reversedSegments_ne_nil {path : String} (leads : wayTo path ≠ []) :
    reversedSegments path ≠ [] := by
  intro none
  refine leads (foldl_enter_idle fun segment member => ?_)
  exact List.dropWhile_eq_nil_iff.mp none segment (List.mem_reverse.mpr member)

/-- A path that ends with the segments of a name has the file name of the name. -/
theorem splitFileName?_of_segments {path name : String} {front : List String}
    (parts : segments path = front ++ segments name) (leads : wayTo name ≠ []) :
    splitFileName? path =
      (splitFileName? name).map fun split => (front ++ split.1, split.2) := by
  have filled := reversedSegments_ne_nil leads
  have reversed : reversedSegments path = reversedSegments name ++ front.reverse := by
    unfold reversedSegments at filled ⊢
    rw [parts, List.reverse_append, List.dropWhile_append, if_neg (by simpa using filled)]
  obtain ⟨file, before, ends⟩ := List.exists_cons_of_ne_nil filled
  simp only [splitFileName?, reversed, ends, List.cons_append]
  split <;> simp

theorem stem_eq_self {file : String} (none : splitExtension? file = none) : stem file = file := by
  rw [stem, none]
  rfl

theorem lacks_stem {file : String} (lacks : '/' ∉ file.toList) : '/' ∉ (stem file).toList := by
  cases split : splitExtension? file with
  | none => rwa [stem_eq_self split]
  | some parts =>
      rw [stem, split, Option.map_some, Option.getD_some]
      unfold splitExtension? at split
      dsimp only at split
      split at split
      · cases split
      · cases split
      · rename_i dot before _ dropped
        cases split
        intro member
        have inside : '/' ∈ file.toList.reverse.dropWhile (· ≠ '.') := by
          rw [dropped]
          exact List.mem_cons_of_mem _ (by simpa using member)
        exact lacks (by simpa using (List.dropWhile_sublist _).subset inside)

/-! ## Replacing the extension -/

section Replacing

variable {path name file added : String} {outer : List String}

def withEnding (file added : String) : String :=
  stem file ++ (if added.isEmpty then "" else "." ++ added)

theorem intercalate_concat_append (front : List String) (last more : String) :
    "/".intercalate (front ++ [last]) ++ more = "/".intercalate (front ++ [last ++ more]) := by
  induction front with
  | nil => simp
  | cons first rest inductionHypothesis =>
      rw [List.cons_append, List.cons_append, String.intercalate_cons_of_ne_nil (by simp),
        String.intercalate_cons_of_ne_nil (by simp), String.append_assoc, inductionHypothesis]

theorem withExtension_eq (split : splitFileName? path = some (outer, file)) (added : String) :
    withExtension path added = "/".intercalate (outer ++ [withEnding file added]) := by
  rw [withExtension, split]
  exact intercalate_concat_append _ _ _

theorem segments_withExtension (lacks : '/' ∉ added.toList)
    (split : splitFileName? path = some (outer, file)) :
    segments (withExtension path added) = outer ++ [withEnding file added] := by
  obtain ⟨behind, parts, -⟩ := segments_of_splitFileName? split
  have each : ∀ segment ∈ outer ++ file :: behind, '/' ∉ segment.toList := fun segment member =>
    (of_mem_segments (parts ▸ member)).2
  rw [withExtension_eq split]
  refine segments_intercalate (by simp) (List.forall_mem_append.mpr ⟨?_, ?_⟩)
  · exact fun segment member => each segment (List.mem_append_left _ member)
  · rw [List.forall_mem_singleton, withEnding, String.toList_append, List.mem_append, not_or]
    refine ⟨lacks_stem (each file (by simp)), ?_⟩
    split <;> simp [lacks]

/-- The extension tells nothing about where a path starts. -/
theorem isAbsolute_withExtension (lacks : '/' ∉ added.toList) :
    isAbsolute (withExtension path added) = isAbsolute path := by
  cases split : splitFileName? path with
  | none => rw [withExtension, split]
  | some parts =>
      obtain ⟨behind, ends, -, busy, -⟩ := segments_of_splitFileName? split
      have filled : parts.2 ≠ "" := fun same => by simp [same, isIdle] at busy
      rw [isAbsolute_of_segments_append ends (.inl filled),
        isAbsolute_of_segments_append (segments_withExtension lacks split) (.inr rfl)]

/-- A file name without an extension is one with an extension too. -/
theorem withEnding_isName (busy : isIdle file = false) (named : file ≠ "..")
    (none : splitExtension? file = none) (added : String) :
    isIdle (withEnding file added) = false ∧ withEnding file added ≠ ".." := by
  rw [withEnding, stem_eq_self none]
  split
  · rw [String.append_empty]
    exact ⟨busy, named⟩
  · rename_i filled
    have filledFile : file.length ≠ 0 := by
      intro same
      rw [String.length_eq_zero_iff.mp same] at busy
      cases busy
    have filledAdded : added.length ≠ 0 := by
      rw [ne_eq, String.length_eq_zero_iff]
      simpa using filled
    have long : 2 < (file ++ ("." ++ added)).length := by
      rw [String.length_append, String.length_append, show ".".length = 1 from rfl]
      omega
    have differs : ∀ short : String, short.length ≤ 2 → file ++ ("." ++ added) ≠ short := by
      rintro short bound rfl
      omega
    refine ⟨?_, differs ".." (by decide)⟩
    rw [isIdle, Bool.or_eq_false_iff, beq_eq_false_iff_ne, beq_eq_false_iff_ne]
    exact ⟨differs "" (by decide), differs "." (by decide)⟩

/-- What lies above a path with another extension lies above the path. -/
theorem exists_wayTo_of_withExtension {inner above : List String} (lacks : '/' ∉ added.toList)
    (filled : inner ≠ []) (below : above ≠ [])
    (onward : wayTo (withExtension path added) = inner ++ above) :
    ∃ before, before ≠ [] ∧ wayTo path = before ++ above := by
  cases split : splitFileName? path with
  | none =>
      rw [withExtension, split] at onward
      exact ⟨inner, filled, onward⟩
  | some parts =>
      rw [wayTo, isAbsolute_withExtension lacks, segments_withExtension lacks split,
        List.foldl_append] at onward
      obtain ⟨before, led⟩ := exists_of_enter_eq_append filled below onward
      refine ⟨parts.2 :: before, List.cons_ne_nil _ _, ?_⟩
      rw [wayTo_of_splitFileName? split, led, List.cons_append]

end Replacing

theorem isAbsolute_append {first : String} (filled : first ≠ "") (second : String) :
    isAbsolute (first ++ second) = isAbsolute first := by
  have lists : first.toList ≠ [] := by
    rw [ne_eq, String.toList_eq_nil_iff]
    exact filled
  rw [isAbsolute, String.toList_append, List.head?_append_of_ne_nil _ lists, ← isAbsolute]

theorem segments_empty : segments "" = [""] :=
  segments_intercalate (List.cons_ne_nil "" []) (by simp)

theorem join_of_relative {name : String} (relative : isAbsolute name = false) (root : String) :
    join root name =
      match root.toList.getLast? with
      | none => name
      | some last => if last = '/' then root ++ name else root ++ "/" ++ name := by
  unfold join
  split
  · rename_i rest letters
    rw [isAbsolute, letters] at relative
    cases relative
  · rfl

/-- The segments of a joined name follow segments that lead where the root leads. -/
theorem exists_segments_join {name : String} (relative : isAbsolute name = false)
    (root : String) :
    ∃ front, segments (join root name) = front ++ segments name ∧
      isAbsolute (join root name) = isAbsolute root ∧
      front.foldl (enter (isAbsolute root)) [] = wayTo root := by
  rw [join_of_relative relative]
  cases ends : root.toList.getLast? with
  | none =>
      obtain rfl : root = "" := String.toList_eq_nil_iff.mp (List.getLast?_eq_none_iff.mp ends)
      refine ⟨[], rfl, relative, ?_⟩
      rw [wayTo, segments_empty]
      rfl
  | some last =>
      have filled : root ≠ "" := by
        rintro rfl
        cases ends
      by_cases slash : last = '/'
      · subst slash
        obtain ⟨before, letters⟩ := List.getLast?_eq_some_iff.mp ends
        have closed : root = String.ofList before ++ "/" := by
          rw [← String.toList_inj, letters]
          simp
        have parts : segments root = segments (String.ofList before) ++ [""] := by
          rw [closed, ← String.append_empty (s := _ ++ _), segments_join, segments_empty]
        refine ⟨segments (String.ofList before), ?_, isAbsolute_append filled name, ?_⟩
        · simp only [if_true]
          rw [closed, segments_join]
        · rw [wayTo, parts, List.foldl_append]
          rfl
      · refine ⟨segments root, ?_, ?_, rfl⟩
        · simp only [if_neg slash]
          rw [segments_join]
        · simp only [if_neg slash]
          rw [String.append_assoc]
          exact isAbsolute_append filled _

theorem join_of_absolute {name : String} (absolute : isAbsolute name = true) (root : String) :
    join root name = name := by
  unfold join
  split
  · rfl
  · rename_i others
    cases letters : name.toList with
    | nil => simp [isAbsolute, letters] at absolute
    | cons first rest =>
        have slash : first = '/' := by simpa [isAbsolute, letters] using absolute
        exact absurd (slash ▸ letters) (others rest)

/-! ## Names that stay below the root -/

section Resolving

variable {extension : Option String} {name : String}

/-- The path for a name is the joined one, or the joined one with the extension if the name has
none. -/
theorem resolve_cases (root : String) (extension : Option String) (name : String) :
    resolve root extension name = join root name ∨
      ∃ added ∈ extension, extension? name = none ∧
        resolve root extension name = withExtension (join root name) added := by
  cases extension with
  | none => exact .inl rfl
  | some added =>
      cases own : extension? name with
      | some found =>
          left
          simp [resolve, own]
      | none =>
          right
          exact ⟨added, rfl, rfl, by simp [resolve, own]⟩

/-- Segments behind those that lead where the root leads lead further down if they do by
themselves. -/
theorem isBelow_of_segments {root path : String} {front onward : List String}
    (parts : segments path = front ++ onward) (starts : isAbsolute path = isAbsolute root)
    (leads : front.foldl (enter (isAbsolute root)) [] = wayTo root)
    (filled : onward.foldl (enter false) [] ≠ [])
    (stays : ".." ∉ onward.foldl (enter false) []) : IsBelow root path := by
  refine isBelow_iff.mpr ⟨starts, _, filled, stays, ?_⟩
  rw [wayTo, parts, starts, List.foldl_append, leads]
  exact foldl_enter_append (wayTo root) stays

theorem wayTo_of_relative (relative : isAbsolute name = false) :
    wayTo name = (segments name).foldl (enter false) [] := by
  rw [wayTo, relative]

theorem IsLocal.isBelow_join (isLocal : IsLocal name) (root : String) :
    IsBelow root (join root name) := by
  obtain ⟨relative, filled, stays⟩ := isLocal_iff.mp isLocal
  obtain ⟨front, parts, starts, leads⟩ := exists_segments_join relative root
  rw [wayTo_of_relative relative] at filled stays
  exact isBelow_of_segments parts starts leads filled stays

/-- The extension is put behind the last directory that the name enters, so that the others stay
where they are. -/
theorem IsLocal.isBelow_withExtension {added : String} (isLocal : IsLocal name)
    (lacks : '/' ∉ added.toList) (noOwn : extension? name = none) (root : String) :
    IsBelow root (withExtension (join root name) added) := by
  obtain ⟨relative, filled, stays⟩ := isLocal_iff.mp isLocal
  obtain ⟨front, parts, starts, leads⟩ := exists_segments_join relative root
  have fileOf := splitFileName?_of_segments parts filled
  cases split : splitFileName? name with
  | none =>
      rw [split, Option.map_none] at fileOf
      rw [withExtension, fileOf]
      exact isLocal.isBelow_join root
  | some found =>
      obtain ⟨outer, file⟩ := found
      rw [split, Option.map_some] at fileOf
      have noExtension : splitExtension? file = none := by
        simpa [extension?, split] using noOwn
      obtain ⟨-, -, -, busy, named⟩ := segments_of_splitFileName? split
      obtain ⟨goesOn, isName⟩ := withEnding_isName busy named noExtension added
      have entered : (outer ++ [withEnding file added]).foldl (enter false) [] =
          withEnding file added :: outer.foldl (enter false) [] := by
        rw [List.foldl_append, List.foldl_cons, enter_name goesOn isName, List.foldl_nil]
      have segmented := segments_withExtension lacks fileOf
      rw [List.append_assoc] at segmented
      refine isBelow_of_segments segmented ?_ leads ?_ ?_
      · rw [isAbsolute_withExtension lacks, starts]
      · rw [entered]
        exact List.cons_ne_nil _ _
      · rw [wayTo_of_splitFileName? split, relative] at stays
        rw [entered]
        simp only [List.mem_cons, not_or] at stays ⊢
        exact ⟨isName.symm, stays.2⟩

/-- The path for a name that leads further down leads below every root. -/
theorem IsLocal.isBelow (isLocal : IsLocal name)
    (lacks : ∀ added ∈ extension, '/' ∉ added.toList) (root : String) :
    IsBelow root (resolve root extension name) := by
  rcases resolve_cases root extension name with same | ⟨added, given, noOwn, replaced⟩
  · rw [same]
    exact isLocal.isBelow_join root
  · rw [replaced]
    exact isLocal.isBelow_withExtension (lacks added given) noOwn root

/-- What lies above the path for a name lies above the joined path. -/
theorem exists_wayTo_of_resolve {root : String} {inner above : List String}
    (lacks : ∀ added ∈ extension, '/' ∉ added.toList) (filled : inner ≠ []) (below : above ≠ [])
    (onward : wayTo (resolve root extension name) = inner ++ above) :
    ∃ before, before ≠ [] ∧ wayTo (join root name) = before ++ above := by
  rcases resolve_cases root extension name with same | ⟨added, given, -, replaced⟩
  · rw [same] at onward
    exact ⟨inner, filled, onward⟩
  · rw [replaced] at onward
    exact exists_wayTo_of_withExtension (lacks added given) filled below onward

def longName (name : String) : String :=
  String.ofList (List.replicate (name.length + 1) 'r')

theorem longName_not_mem_segments (name : String) : longName name ∉ segments name := by
  intro member
  have short := (of_mem_segments member).1
  rw [longName, String.length_ofList, List.length_replicate] at short
  omega

theorem longName_ne (name : String) {other : String} (starts : other.toList.head? ≠ some 'r') :
    longName name ≠ other := by
  rintro rfl
  exact starts (by simp [longName, List.replicate_succ])

theorem isIdle_longName (name : String) : isIdle (longName name) = false := by
  rw [isIdle, Bool.or_eq_false_iff, beq_eq_false_iff_ne, beq_eq_false_iff_ne]
  exact ⟨longName_ne name (by decide), longName_ne name (by decide)⟩

theorem wayTo_longName (name : String) : wayTo ("/" ++ longName name) = [longName name] := by
  have single : segments (longName name) = [longName name] := by
    rw [← String.intercalate_singleton (s := "/") (t := longName name)]
    exact segments_intercalate (List.cons_ne_nil _ _) (by simp [longName])
  rw [wayTo, show "/" ++ longName name = "" ++ "/" ++ longName name from rfl, segments_join,
    segments_empty, single]
  exact enter_name (isIdle_longName name) (longName_ne name (by decide))

/-- A name leads further down by itself if its path leads below a directory that it does not name.
-/
theorem IsLocal.of_isBelow (lacks : ∀ added ∈ extension, '/' ∉ added.toList)
    (below : IsBelow ("/" ++ longName name) (resolve ("/" ++ longName name) extension name)) :
    IsLocal name := by
  obtain ⟨-, inner, filledInner, -, resolved⟩ := isBelow_iff.mp below
  rw [wayTo_longName] at resolved
  obtain ⟨before, filled, onward⟩ :=
    exists_wayTo_of_resolve lacks filledInner (List.cons_ne_nil _ _) resolved
  have entered : longName name ∈ wayTo (join ("/" ++ longName name) name) := by
    rw [onward]
    exact List.mem_concat_self
  cases starts : isAbsolute name with
  | true =>
      rw [join_of_absolute starts] at entered
      exact ((mem_of_mem_foldl_enter entered).elim List.not_mem_nil
        (longName_not_mem_segments name)).elim
  | false =>
      obtain ⟨front, parts, rooted, leads⟩ :=
        exists_segments_join starts ("/" ++ longName name)
      have atTop : isAbsolute ("/" ++ longName name) = true := by
        rw [isAbsolute_append (by decide)]
        decide
      rw [wayTo_longName] at leads
      rw [wayTo, parts, rooted, List.foldl_append, leads, atTop] at onward entered
      -- A name that leaves where it starts leaves the directory, and no segment enters it again.
      by_cases stays : ".." ∈ (segments name).foldl (enter false) []
      · have left := not_mem_foldl_enter (longName_ne name (by decide))
          (longName_not_mem_segments name) List.not_mem_nil stays
        exact absurd entered left
      · have same : (segments name).foldl (enter false) [] = before := by
          rw [← List.append_left_inj [longName name], ← onward]
          exact (foldl_enter_append [longName name] stays).symm
        refine isLocal_iff.mpr ⟨starts, ?_, ?_⟩
        · rw [wayTo_of_relative starts, same]
          exact filled
        · rw [wayTo_of_relative starts]
          exact stays

/-- The path for a name leads below every root exactly if the name by itself leads further down. -/
theorem resolve_isBelow_iff (lacks : ∀ added ∈ extension, '/' ∉ added.toList) (name : String) :
    (∀ root, IsBelow root (resolve root extension name)) ↔ IsLocal name :=
  ⟨fun each => .of_isBelow lacks (each _), fun isLocal => isLocal.isBelow lacks⟩

/-- A name with a directory that it leaves again, and one that leaves where it starts. -/
theorem resolve_isBelow_iff_leaving :
    (∀ root, IsBelow root (resolve root (some "tl") "mail/../footer")) ∧
      ¬∀ root, IsBelow root (resolve root (some "tl") "mail/../../footer") := by
  have lacks : ∀ added ∈ some "tl", '/' ∉ added.toList := by simp
  have stays : IsLocal "mail/../footer" := by
    simp only [IsLocal, place, wayTo, segments_eq]
    decide +kernel
  have leaves : ¬IsLocal "mail/../../footer" := by
    simp only [IsLocal, place, wayTo, segments_eq]
    decide +kernel
  exact ⟨(resolve_isBelow_iff lacks _).mpr stays, mt (resolve_isBelow_iff lacks _).mp leaves⟩

/-- A name that starts at the top, one that leaves the root, and the empty name, which hands the
extension to the root itself. -/
theorem resolve_leavesRoot :
    (resolve "/templates" none "/etc/passwd" = "/etc/passwd" ∧
      ¬IsBelow "/templates" "/etc/passwd") ∧
    (resolve "/templates" none "../secret" = "/templates/../secret" ∧
      ¬IsBelow "/templates" "/templates/../secret") ∧
    (resolve "/templates" (some "tl") "" = "/templates.tl" ∧
      ¬IsBelow "/templates" "/templates.tl") := by
  simp only [isBelow_iff_drop, place, wayTo, resolve, withExtension, extension?, splitFileName?,
    reversedSegments, segments_eq]
  decide +kernel

end Resolving

end BraceTemplate.FilePath

namespace BraceTemplate.FileTree

open FilePath

variable {tree : FileTree}

/-- A path that is followed to its end has led where it leads by its segments alone. -/
theorem reverse_of_follow {place found segments : List String} (lacks : ".." ∉ place)
    (followed : tree.follow place segments = .ok found) :
    found.reverse = segments.foldl (enter true) place.reverse := by
  induction segments generalizing place with
  | nil =>
      cases followed
      rfl
  | cons first rest inductionHypothesis =>
      rw [List.foldl_cons]
      unfold follow at followed
      split at followed
      · cases followed
      rcases segment_cases first with idle | rfl | ⟨busy, named⟩
      · rw [if_pos idle] at followed
        rw [enter_idle idle]
        exact inductionHypothesis lacks followed
      · rw [if_neg (by decide), if_pos rfl] at followed
        have above : place.dropLast.reverse = leave true place.reverse := by
          rcases List.eq_nil_or_concat place with rfl | ⟨before, last, rfl⟩
          · rfl
          · have named : last ≠ ".." := fun same => lacks (by simp [same])
            simp [leave_cons named]
        rw [enter_leave, ← above]
        exact inductionHypothesis (fun member => lacks (List.dropLast_subset _ member)) followed
      · rw [if_neg (by simp [busy]), if_neg named] at followed
        split at followed
        · cases followed
        dsimp only at followed
        split at followed
        · rw [enter_name busy named, ← List.reverse_concat]
          exact inductionHypothesis (by simp [lacks, named.symm]) followed
        · cases followed

/-- A file that is read at a path that starts at the top stands where the path leads. -/
theorem file?_of_read {path text : String} (absolute : isAbsolute path = true)
    (read : tree.read path = .ok text) : tree.file? (place path) = some text := by
  unfold FileTree.read at read
  split at read
  · cases read
  split at read
  · cases read
  split at read
  · cases read
  split at read
  · cases read
  rename_i found followed
  have led : found = place path := by
    rw [place, wayTo, absolute, ← List.reverse_nil, ← reverse_of_follow List.not_mem_nil followed,
      List.reverse_reverse]
  split at read
  · rename_i content there
    cases read
    rw [← led, there]
  · cases read

/-- What is read for a name that leads further down stands in a file below the root. -/
theorem exists_file?_of_isLocal {root name text : String} {extension : Option String}
    (absolute : isAbsolute root = true) (isLocal : IsLocal name)
    (lacks : ∀ added ∈ extension, '/' ∉ added.toList)
    (read : tree.read (resolve root extension name) = .ok text) :
    ∃ more, more ≠ [] ∧ ".." ∉ more ∧ tree.file? (place root ++ more) = some text := by
  obtain ⟨same, more, filled, named, onward⟩ := isLocal.isBelow lacks root
  refine ⟨more, filled, named, ?_⟩
  rw [← onward]
  exact file?_of_read (same.trans absolute) read

end BraceTemplate.FileTree
