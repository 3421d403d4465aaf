import Mathlib.Logic.Relation
import BraceTemplate.Proofs.Program.Quoting
import BraceTemplate.Proofs.Reading.Lines
import BraceTemplate.Proofs.Reading.Unexpected
import BraceTemplate.Proofs.Reading.Verbatim

/-!
# Where nodes and errors are

Reading a source goes on from one character to the next, whatever is tried in between, so that the
line and the column of every node of its tree, and of the error where there is none, are those of a
place in the source: the one where the node is read, or where the error was met.
-/

namespace BraceTemplate

def Param.inline? (param : Param Node) : Option Node :=
  match param.value with
  | .inline inner => some inner
  | _ => none

def Target.inline? : Target Node → Option Node
  | .inline inner => some inner
  | .name _ => none

def Node.children : Node → List Node
  | .body parts _ => parts
  | .sectionTag _ _ _ params bodies _ => params.filterMap Param.inline? ++ bodies.map Prod.snd
  | .inclusion _ target _ params _ => target.inline?.toList ++ params.filterMap Param.inline?
  | _ => []

/-- A tree has a node: itself, one right below, or one below these. -/
def Node.Has (tree node : Node) : Prop :=
  Relation.ReflTransGen (fun outer inner => inner ∈ outer.children) tree node

theorem Node.children_eq_nil {node : Node} (isPlain : node.isPlain = true) :
    node.children = [] := by
  cases node <;> first | rfl | cases isPlain

namespace Source.Cursor

def IsIn (source : String) (cursor : Cursor) : Prop :=
  ∃ before rest, source.toList = before ++ rest ∧ cursor = behind before rest

end Source.Cursor

namespace Reading

open Source Grammar

/-- A node is read from a cursor on: a part, a part between quotes, a body of a tag or of the whole
source, or what stands between quotes. -/
inductive StartsAt (cursor : Cursor) : Node → Prop
  | part {node : Node} {after : Cursor} (read : part? parts cursor = .ok (some (node, after))) :
      StartsAt cursor node
  | quotedPart {node : Node} {after : Cursor} (read : quotedPart? cursor = some (node, after)) :
      StartsAt cursor node
  | body {nodes : List Node} {after : Cursor} (read : parts cursor = .ok (nodes, after)) :
      StartsAt cursor (.body nodes cursor.position)
  | quotation {nodes : List Node} {position : Position} {after : Cursor}
      (read : quotation? cursor = some (.mixed nodes position, after)) :
      StartsAt cursor (.body nodes position)

/-- A node and all nodes below it are read from cursors of a source on. -/
inductive Placed (source : String) : Node → Prop
  | intro {cursor : Cursor} {node : Node} (isIn : cursor.IsIn source)
      (starts : StartsAt cursor node) (children : ∀ child ∈ node.children, Placed source child) :
      Placed source node

/-- What a reader makes of a cursor: a node with its position, and with nodes below it that have
their places. -/
structure Places (source : String) (cursor : Cursor) (node : Node) : Prop where
  position : node.position = cursor.position
  children : ∀ child ∈ node.children, Placed source child

end Reading

namespace Source.Cursor.IsIn

open Reading Grammar

variable {source : String} {cursor after : Cursor} {Result : Type}

theorem ofString (source : String) : (Cursor.ofString source).IsIn source :=
  ⟨[], source.toList, rfl, rfl⟩

theorem advance (isIn : cursor.IsIn source)
    (advances : ∃ taken, cursor.rest = taken ++ after.rest ∧
      after.place = cursor.place.advanceAll taken) : after.IsIn source := by
  obtain ⟨before, rest, split, rfl⟩ := isIn
  obtain ⟨taken, suffix, place⟩ := advances
  refine ⟨before ++ taken, after.rest, ?_, ?_⟩
  · rw [split, List.append_assoc, ← suffix]
    rfl
  · obtain ⟨afterPlace, afterRest⟩ := after
    dsimp only at place
    rw [place]
    simp only [behind, Place.advanceAll_append]

/-- Behind what a reader takes reading goes on in the source. -/
theorem read {expression : Expression Rule Result} {found : Option (Result × Cursor)}
    {result : Result} (isIn : cursor.IsIn source) (reads : Reads expression cursor found)
    (equality : found = some (result, after)) : after.IsIn source := by
  subst equality
  exact isIn.advance reads.advances

theorem literal {chars : List Char} (isIn : cursor.IsIn source)
    (found : cursor.literal? chars = some after) : after.IsIn source :=
  isIn.read (Reads.text chars cursor) (by rw [found]; rfl)

theorem skipGaps (isIn : cursor.IsIn source) : cursor.skipGaps.IsIn source :=
  isIn.read (reads_gaps cursor) rfl

theorem context (isIn : cursor.IsIn source) : (Reading.context cursor).2.IsIn source :=
  isIn.read (reads_context cursor) rfl

theorem parts {nodes : List Node} (isIn : cursor.IsIn source)
    (found : Reading.parts cursor = .ok (nodes, after)) : after.IsIn source :=
  isIn.advance (parts_advances found)

theorem part {node : Node} (isIn : cursor.IsIn source)
    (found : part? Reading.parts cursor = .ok (some (node, after))) : after.IsIn source := by
  have derived := derives_part (partsInside_parts cursor)
  rw [found] at derived
  exact isIn.advance derived.advances

/-- Whatever a repetition holds is read somewhere in the source. -/
theorem exists_of_mem_many {item : Expression Rule Result}
    {reader : Cursor → Option (Result × Cursor)} (isIn : cursor.IsIn source)
    (reads : ∀ later, Reads item later (reader later))
    (takes : item.takesChar takesChar = true) :
    ∀ result ∈ (cursor.many reader).1,
      ∃ later last, later.IsIn source ∧ reader later = some (result, last) := by
  have run := Run.of_many cursor (fun later _ => reads later) takes
  generalize (cursor.many reader).1 = results at run ⊢
  generalize (cursor.many reader).2 = last at run
  induction run with
  | nil => exact fun _ member => by cases member
  | cons first _ inductionHypothesis =>
      intro result member
      rcases List.mem_cons.1 member with rfl | later
      · exact ⟨_, _, isIn, first⟩
      · exact inductionHypothesis (isIn.read (reads _) first) result later

end Source.Cursor.IsIn

namespace Reading

open Source Grammar

section Readers

variable {source : String} {cursor after : Cursor} {node : Node}

theorem Places.plain (isPlain : node.isPlain = true) (position : node.position = cursor.position) :
    Places source cursor node :=
  ⟨position, by simp [node.children_eq_nil isPlain]⟩

theorem special?_places (read : special? cursor = some (node, after)) :
    Places source cursor node := by
  simp only [special?, Option.bind_eq_bind, Option.bind_eq_some_iff] at read
  obtain ⟨_, _, _, _, _, _, yielded⟩ := read
  cases yielded
  exact .plain rfl rfl

theorem reference?_places (read : reference? cursor = some (node, after)) :
    Places source cursor node := by
  simp only [reference?, Option.bind_eq_bind, Option.bind_eq_some_iff] at read
  obtain ⟨_, _, _, _, _, _, yielded⟩ := read
  cases yielded
  exact .plain rfl rfl

theorem quotedPart?_places (read : quotedPart? cursor = some (node, after)) :
    Places source cursor node := by
  rcases quotedPart?_cases read with special | reference | ⟨_, rfl⟩
  · exact special?_places special
  · exact reference?_places reference
  · exact .plain rfl rfl

theorem text?_places (read : text? cursor = some (node, after)) : Places source cursor node := by
  unfold text? at read
  split at read
  next =>
    cases read
    exact .plain rfl rfl
  next =>
    split at read
    next => cases read
    next =>
      cases read
      exact .plain rfl rfl

theorem earlyPart?_places (read : earlyPart? cursor = some (node, after)) :
    Places source cursor node := by
  rcases earlyPart?_cases read with raw | comment
  · obtain ⟨_, _, yielded⟩ := Option.map_eq_some_iff.1 raw
    cases yielded
    exact .plain rfl rfl
  · obtain ⟨_, _, yielded⟩ := Option.map_eq_some_iff.1 comment
    cases yielded
    exact .plain rfl rfl

/-- What stands between quotes begins at the first of them, and its parts are read one after the
other behind it. -/
theorem quotation?_placed (isIn : cursor.IsIn source) {nodes : List Node} {position : Position}
    (read : quotation? cursor = some (.mixed nodes position, after)) :
    Placed source (.body nodes position) := by
  have starts : StartsAt cursor (.body nodes position) := .quotation read
  obtain ⟨rfl, inside, opened, rfl⟩ := quotation?_mixed read
  refine ⟨isIn, starts, fun part member => ?_⟩
  obtain ⟨later, last, laterIn, readPart⟩ :=
    (isIn.literal opened).exists_of_mem_many reads_quotedPart rfl part member
  have places : Places source later part := quotedPart?_places readPart
  exact ⟨laterIn, .quotedPart readPart, places.children⟩

theorem param?_placed (isIn : cursor.IsIn source) {param : Param Node}
    (read : param? cursor = some (param, after)) :
    ∀ inner ∈ param.inline?, Placed source inner := by
  simp only [param?, Option.bind_eq_bind, Option.bind_eq_some_iff] at read
  obtain ⟨_, gap, _, key, _, sign, ⟨value, _⟩, ofValue, yielded⟩ := read
  cases yielded
  have keyIn := (isIn.read (Reads.oneOf isGap _) gap).skipGaps
  have valueIn := (keyIn.read (reads_key _) key).literal sign
  intro inner same
  cases value with
  | inline found =>
      cases same
      obtain ⟨parts, position, rfl, quoted⟩ := paramValue?_inline ofValue
      exact quotation?_placed valueIn quoted
  | _ => cases same

theorem params_placed (isIn : cursor.IsIn source) :
    ∀ inner ∈ (cursor.many param?).1.filterMap Param.inline?, Placed source inner := by
  intro inner member
  obtain ⟨param, inParams, holds⟩ := List.mem_filterMap.1 member
  obtain ⟨later, last, laterIn, read⟩ :=
    isIn.exists_of_mem_many reads_param rfl param inParams
  exact param?_placed laterIn read inner holds

theorem target?_placed (isIn : cursor.IsIn source) {target : Target Node}
    (read : target? cursor = some (target, after)) :
    ∀ inner ∈ target.inline?, Placed source inner := by
  intro inner same
  cases target with
  | name text => cases same
  | inline found =>
      cases same
      obtain ⟨parts, position, rfl, quoted⟩ := target?_inline read
      exact quotation?_placed isIn quoted

theorem inclusion?_places (isIn : cursor.IsIn source)
    (read : inclusion? cursor = some (node, after)) : Places source cursor node := by
  simp only [inclusion?, Option.bind_eq_bind, Option.bind_eq_some_iff] at read
  obtain ⟨_, opened, ⟨_, _⟩, mark, ⟨_, _⟩, target, _, _, yielded⟩ := read
  cases yielded
  have targetIn := ((isIn.literal opened).read (Reads.char inclusionKind? _) mark).skipGaps
  refine ⟨rfl, fun inner member => ?_⟩
  rcases List.mem_append.1 member with ofTarget | ofParams
  · exact target?_placed targetIn target inner (Option.mem_toList.1 ofTarget)
  · exact params_placed (targetIn.read (reads_target _) target).context inner ofParams

theorem opening?_placed (isIn : cursor.IsIn source) {opening : Opening}
    (read : opening? cursor = some (opening, after)) :
    ∀ inner ∈ opening.params.filterMap Param.inline?, Placed source inner := by
  simp only [opening?, Option.bind_eq_bind, Option.bind_eq_some_iff] at read
  obtain ⟨_, opened, ⟨_, _⟩, mark, ⟨_, _⟩, name, yielded⟩ := read
  cases yielded
  have nameIn := ((isIn.literal opened).read (Reads.char SectionKind.ofMark? _) mark).skipGaps
  exact params_placed (nameIn.read (reads_identifier _) name).context

theorem latePart?_places (isIn : cursor.IsIn source)
    (read : latePart? cursor = some (node, after)) : Places source cursor node := by
  rcases latePart?_cases read with inclusion | special | reference | text
  · exact inclusion?_places isIn inclusion
  · exact special?_places special
  · exact reference?_places reference
  · exact text?_places text

end Readers

section Parts

variable {source : String} {cursor after : Cursor} {node : Node} {limit : Nat}

def PlacesLater (source : String) (limit : Nat) : Prop :=
  ∀ later : Cursor, later.IsIn source → later.rest.length < limit →
    ∀ nodes after, parts later = .ok (nodes, after) → ∀ node ∈ nodes, Placed source node

theorem body_placed (placesLater : PlacesLater source limit) (isIn : cursor.IsIn source)
    (shorter : cursor.rest.length < limit) {nodes : List Node}
    (read : parts cursor = .ok (nodes, after)) : Placed source (.body nodes cursor.position) :=
  ⟨isIn, .body read, placesLater cursor isIn shorter nodes after read⟩

theorem branchesWithin_placed (placesLater : PlacesLater source limit) {fuel : Nat}
    (isIn : cursor.IsIn source) (notLonger : cursor.rest.length ≤ limit)
    {branches : List (String × Node)}
    (read : branchesWithin parts fuel cursor = .ok (branches, after)) :
    ∀ entry ∈ branches, Placed source entry.2 := by
  induction fuel generalizing cursor branches with
  | zero =>
      cases read
      simp
  | succ fuel inductionHypothesis =>
      rcases branchesWithin_succ_cases read with rfl |
        ⟨name, inside, nodes, afterBody, others, tag, body, following, rfl⟩
      · simp
      · have shorter := branchTag?_shorter tag
        have insideIn := isIn.read (reads_branchTag cursor) tag
        have bodyLength := (parts_suffix body).length_le
        intro entry member
        rcases List.mem_cons.1 member with rfl | later
        · exact body_placed placesLater insideIn (by omega) body
        · exact inductionHypothesis (insideIn.parts body) (by omega) following entry later

theorem section?_places (placesLater : PlacesLater source cursor.rest.length)
    (isIn : cursor.IsIn source) (read : section? parts cursor = .ok (some (node, after))) :
    Places source cursor node := by
  obtain ⟨opening, afterOpening, bodies, opened, rfl, ofBodies⟩ := section?_cases read
  have ofParams := opening?_placed isIn opened
  refine ⟨rfl, fun inner member => ?_⟩
  rcases List.mem_append.1 member with inParams | inBodies
  · exact ofParams inner inParams
  · rcases ofBodies with ⟨rfl, -⟩ | ⟨inside, atEnd, closed, ofBodies⟩
    · cases inBodies
    · obtain ⟨nodes, afterBody, branches, main, ofBranches, rfl⟩ := sectionBodies_cases ofBodies
      have shorter := inside_shorter opened closed
      have insideIn := (isIn.read (reads_opening cursor) opened).skipGaps.literal closed
      have bodyLength := (parts_suffix main).length_le
      obtain ⟨entry, inEntries, rfl⟩ := List.mem_map.1 inBodies
      rcases List.mem_append.1 inEntries with branch | isMain
      · exact branchesWithin_placed placesLater (insideIn.parts main) (by omega) ofBranches
          entry branch
      · rw [List.mem_singleton.1 isMain]
        exact body_placed placesLater insideIn shorter main

theorem part?_places (placesLater : PlacesLater source cursor.rest.length)
    (isIn : cursor.IsIn source) (read : part? parts cursor = .ok (some (node, after))) :
    Places source cursor node := by
  rcases part?_cases read with early | ⟨_, enclosed | late⟩
  · exact earlyPart?_places early
  · exact section?_places placesLater isIn enclosed
  · exact latePart?_places isIn late

theorem placesLater (source : String) (limit : Nat) : PlacesLater source limit := by
  -- Both the bodies of a section and the parts behind it are read with less left.
  induction limit with
  | zero => exact fun _ _ impossible => absurd impossible (Nat.not_lt_zero _)
  | succ limit inductionHypothesis =>
      intro cursor isIn shorter nodes after read
      rcases parts_eq_ok_iff.1 read with ⟨-, rfl, -⟩ | ⟨first, behind, others, part, more, rfl⟩
      · simp
      · have inside : PlacesLater source cursor.rest.length := fun later laterIn laterShorter =>
          inductionHypothesis later laterIn (by omega)
        have behindShorter := part?_shorter part
        intro node member
        rcases List.mem_cons.1 member with rfl | later
        · exact ⟨isIn, .part part, (part?_places inside isIn part).children⟩
        · exact inductionHypothesis behind (isIn.part part) (by omega) others after more node later

/-- Where a node is read in a source, its position is that of the place. -/
theorem StartsAt.position_eq (starts : StartsAt cursor node) (isIn : cursor.IsIn source) :
    node.position = cursor.position := by
  cases starts with
  | part read => exact (part?_places (placesLater source _) isIn read).position
  | quotedPart read =>
      have places : Places source cursor node := quotedPart?_places read
      exact places.position
  | body read => rfl
  | quotation read => exact (quotation?_mixed read).1

end Parts

theorem Placed.of_has {source : String} {tree node : Node} (placed : Placed source tree)
    (has : tree.Has node) : Placed source node := by
  induction has with
  | refl => exact placed
  | tail _ child inductionHypothesis =>
      cases inductionHypothesis with
      | intro _ _ children => exact children _ child

theorem placed_of_parse {source : String} {tree : Node} (parsed : Node.parse source = .ok tree) :
    Placed source tree := by
  obtain ⟨nodes, last, read, -, rfl⟩ := (parse_eq_ok_iff_parts source tree).1 parsed
  exact body_placed (placesLater source _) (.ofString source) (Nat.lt_succ_self _) read

section Faults

variable {source : String} {start cursor inside atEnd : Cursor} {opening : Opening}
  {error : ParseError}

theorem Opens.isIn (opens : Opens cursor opening inside) (isIn : cursor.IsIn source) :
    inside.IsIn source := by
  obtain ⟨afterOpening, opened, closed⟩ := opens.opened
  exact (isIn.read (reads_opening cursor) opened).skipGaps.literal closed

theorem ReadsBranches.isIn (branches : ReadsBranches cursor atEnd) (isIn : cursor.IsIn source) :
    atEnd.IsIn source := by
  induction branches with
  | done => exact isIn
  | more tag body _ inductionHypothesis =>
      exact inductionHypothesis ((isIn.read (reads_branchTag _) tag).parts body)

theorem ReadsBodies.isIn (bodies : ReadsBodies inside atEnd) (isIn : inside.IsIn source) :
    atEnd.IsIn source := by
  obtain ⟨nodes, afterBody, main, branches⟩ := bodies
  exact branches.isIn (isIn.parts main)

theorem Tries.isIn (tries : Tries start cursor) (isIn : start.IsIn source) :
    cursor.IsIn source := by
  induction tries with
  | start => exact isIn
  | behind _ part inductionHypothesis => exact inductionHypothesis.part part
  | main _ opens inductionHypothesis => exact opens.isIn inductionHypothesis
  | branch _ opens bodies tag inductionHypothesis =>
      exact (bodies.isIn (opens.isIn inductionHypothesis)).read (reads_branchTag _) tag

/-- Every error is met at a cursor of the source. -/
theorem exists_of_parse_error (fails : Node.parse source = .error error) :
    ∃ cursor : Cursor, cursor.IsIn source ∧ error = .at cursor.place error.fault := by
  unfold Node.parse at fails
  dsimp only at fails
  split at fails
  next other read =>
    cases fails
    obtain ⟨cursor, opening, inside, atEnd, tries, opens, bodies, -, unclosed⟩ :=
      missesEndTag_of_parts read
    have endIn := bodies.isIn (opens.isIn (tries.isIn (.ofString source)))
    cases unclosed with
    | nothing => exact ⟨atEnd, endIn, rfl⟩
    | other found _ => exact ⟨_, endIn.read (reads_endTag atEnd) found, rfl⟩
  next nodes last read =>
    split at fails
    next => cases fails
    next =>
      cases fails
      exact ⟨last, (Cursor.IsIn.ofString source).parts read, rfl⟩

end Faults

/-- Every node of the tree of a source is read from some place of the source on, and wherever it is
read its line and column are the ones of the place; so are the line and the column of an error the
ones of the place that its offset tells. Lines are counted by their breaks, except that a line feed
behind a separator begins no line. -/
theorem parse_follows (source : String) :
    (∀ tree, Node.parse source = .ok tree → ∀ node, tree.Has node →
      (∃ before rest, source.toList = before ++ rest ∧ StartsAt (.behind before rest) node) ∧
        ∀ before rest, source.toList = before ++ rest → StartsAt (.behind before rest) node →
          node.position.Follows before) ∧
    ∀ error, Node.parse source = .error error → ∃ before rest,
      source.toList = before ++ rest ∧ error.offset = (String.ofList before).utf8ByteSize ∧
        (Position.mk error.line error.column).Follows before := by
  refine ⟨fun tree parsed node has => ⟨?_, fun before rest split starts => ?_⟩,
    fun error fails => ?_⟩
  · cases (placed_of_parse parsed).of_has has with
    | intro isIn starts children =>
        obtain ⟨before, rest, split, rfl⟩ := isIn
        exact ⟨before, rest, split, starts⟩
  · rw [starts.position_eq ⟨before, rest, split, rfl⟩]
    exact Place.follows_advanceAll before
  · obtain ⟨cursor, ⟨before, rest, split, rfl⟩, met⟩ := exists_of_parse_error fails
    have offset := offset_advanceAll Place.start before
    refine ⟨before, rest, split, ?_, ?_⟩
    · rw [met]
      exact offset.trans (Nat.zero_add _)
    · rw [met]
      exact Place.follows_advanceAll before

/-- Three line breaks, of which the first is two characters. -/
theorem parse_follows_breaks :
    ∃ tree node, Node.parse "a\r\n\r\u2029\x7bx\x7d" = .ok tree ∧ tree.Has node ∧
      node.position = ⟨4, 1⟩ ∧ ∃ before rest,
        "a\r\n\r\u2029\x7bx\x7d".toList = before ++ rest ∧ StartsAt (.behind before rest) node ∧
          node.position.Follows before := by
  let last : Node := .reference (.key "x") [] ⟨4, 1⟩
  let tree : Node :=
    .body [.text "a" ⟨1, 1⟩, .lineBreak "\r\n" "\r\u2029" ⟨1, 2⟩, last] ⟨1, 1⟩
  have parsed : Node.parse "a\r\n\r\u2029\x7bx\x7d" = .ok tree := rfl
  have has : tree.Has last := .single (by simp [tree, Node.children])
  obtain ⟨⟨before, rest, split, starts⟩, follows⟩ := (parse_follows _).1 tree parsed last has
  exact ⟨tree, last, parsed, has, rfl, before, rest, split, starts,
    follows before rest split starts⟩

/-- Behind a line separator a line feed begins no line, neither for a node nor for an error, though
both characters end one. -/
theorem parse_separatedFeed :
    lineBreaks ['\u2028', '\n'] = 2 ∧
      (∃ tree node, Node.parse "\u2028\n\x7bx\x7d" = .ok tree ∧ tree.Has node ∧
        StartsAt (.behind ['\u2028', '\n'] ['{', 'x', '}']) node ∧ node.position = ⟨2, 1⟩) ∧
      ∃ error, Node.parse "\u2028\n\x7b/a\x7d" = .error error ∧
        error.offset = (String.ofList ['\u2028', '\n']).utf8ByteSize ∧ error.line = 2 := by
  let last : Node := .reference (.key "x") [] ⟨2, 1⟩
  let tree : Node := .body [.lineBreak "\u2028" "\n" ⟨1, 1⟩, last] ⟨1, 1⟩
  have has : tree.Has last := .single (by simp [tree, Node.children])
  have read : part? parts (.behind ['\u2028', '\n'] ['{', 'x', '}']) =
      .ok (some (last, .behind ['\u2028', '\n', '{', 'x', '}'] [])) := rfl
  exact ⟨rfl, ⟨tree, last, rfl, has, .part read, rfl⟩, _, rfl, by decide +kernel, rfl⟩

end Reading

end BraceTemplate
