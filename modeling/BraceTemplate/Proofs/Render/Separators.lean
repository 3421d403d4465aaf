import BraceTemplate.Proofs.Render.Enclosures

/-!
# Separators stand between elements

In a section over an array, a separator renders its body for all elements but the last, and it does
so as well within sections and selects that stand in the body of the section. So what is rendered
is the body for each element and the body of the separator between each two.
-/

namespace BraceTemplate

namespace Render

open Output

/-- Steps among which a separator stands, by itself or in enclosures. -/
inductive Nest where
  | separator (front : List Op) (name : String) (exprs : ParamExprs) (entries : NamedBodies)
      (behind : List Op)
  | within (front : List Op) (enclosure : Enclosure) (inner : Nest) (behind : List Op)

namespace Nest

def ops : Nest → List Op
  | separator front name exprs entries behind =>
    front ++ .helper name none exprs entries :: behind
  | within front enclosure _ behind => front ++ enclosure.op :: behind

/-- Renders the steps with the body of the separator in its place, or with nothing there. -/
def render (program : Program) (separated : Bool) :
    Nest → Nat → Context → Writer → Action (Except RenderError Writer)
  | _, 0, _, _ => outOfSteps
  | separator front _ _ entries behind, depth + 1, context, writer =>
    let calls := callsWithin depth
    inTurn (runOps calls program context front writer) fun next =>
      inTurn (if separated then calls.renderNamed ⟨program, entries⟩ mainBody next context
        else pure (.ok next)) (runOps calls program context behind)
  | within front enclosure inner behind, depth + 1, context, writer =>
    let calls := callsWithin depth
    inTurn (runOps calls program context front writer) fun next =>
      inTurn (enclosure.around calls program context (inner.render program separated depth) next)
        (runOps calls program context behind)

/-- The contexts that parts of a nest are rendered with: that of its steps, and all that are entered
on the way to the separator. -/
inductive Meets (program : Program) : Nest → Context → Context → Prop
  | here (nest : Nest) (context : Context) : Meets program nest context context
  | within {front behind : List Op} {enclosure : Enclosure} {inner : Nest}
      {context inside met : Context} (enters : enclosure.Enters program context inside)
      (meets : Meets program inner inside met) :
      Meets program (within front enclosure inner behind) context met

/-- The separator is one, all enclosures around it open, and their bodies are the steps in them. -/
inductive Stands (helpers : Members Helper) (program : Program) : Nest → Context → Prop
  | separator {front behind : List Op} {name : String} {exprs : ParamExprs} {entries : NamedBodies}
      {context : Context} (found : helpers.find? name = some (.builtin .separator)) :
      Stands helpers program (separator front name exprs entries behind) context
  | within {front behind : List Op} {enclosure : Enclosure} {inner : Nest} {context : Context}
      {id : BodyId} (opens : enclosure.Opens helpers program context)
      (body : enclosure.body? program = some id) (laid : program.body id = inner.ops)
      (stands : ∀ inside, enclosure.Enters program context inside →
        Stands helpers program inner inside) :
      Stands helpers program (within front enclosure inner behind) context

end Nest

section Nests

variable {helpers : Members Helper} {program : Program} {context : Context} {nest : Nest}

theorem Nest.Meets.iteration? {met : Context} (meets : nest.Meets program context met) :
    met.iteration? = context.iteration? := by
  induction meets with
  | here nest context => rfl
  | within enters _ inductionHypothesis => exact inductionHypothesis.trans enters.iteration?

/-- A separator renders its body unless the element is the last one. -/
theorem runOp_separator {depth : Nat} {writer : Writer} {name : String}
    {separated : Bool} (found : helpers.find? name = some (.builtin .separator))
    (place : isLast context = !separated) (exprs : ParamExprs) (entries : NamedBodies) :
    SameFrom (HasHelpers helpers)
      (runOp (callsWithin depth) program context writer (.helper name none exprs entries))
      (if separated then
        (callsWithin depth).renderNamed ⟨program, entries⟩ mainBody writer context
      else pure (.ok writer)) := by
  refine (runOp_builtin found exprs entries).trans ?_
  simp only [runBuiltin, runSeparator, place]
  cases separated <;> exact .refl _

/-- A step between others is what another way of rendering makes of it. -/
theorem runOps_between {depth : Nat} {writer : Writer} {front behind : List Op} {op : Op}
    {other : Writer → Action (Except RenderError Writer)}
    (same : ∀ next, SameFrom (HasHelpers helpers)
      (runOp (callsWithin depth) program context next op) (other next)) :
    SameFrom (HasHelpers helpers)
      (runOps (callsWithin depth) program context (front ++ op :: behind) writer)
      (inTurn (runOps (callsWithin depth) program context front writer) fun next =>
        inTurn (other next) (runOps (callsWithin depth) program context behind)) := by
  rw [runOps_append]
  refine (SameFrom.refl _).inTurn (keepsHelpers_runOps front) fun next => ?_
  exact (same next).inTurn (keepsHelpers_runOp op) fun _ => .refl _

/-- A body in which a separator stands renders the body of the separator unless the element is the
last one, in whatever enclosures the separator stands. -/
theorem renderBody_nest {separated : Bool} (stands : nest.Stands helpers program context)
    (place : isLast context = !separated) {id : BodyId} (laid : program.body id = nest.ops)
    (depth : Nat) (writer : Writer) :
    SameFrom (HasHelpers helpers) ((callsWithin depth).renderBody program id writer context)
      (nest.render program separated depth context writer) := by
  induction stands generalizing depth id writer with
  | separator found =>
      cases depth with
      | zero => exact .refl _
      | succ depth =>
          change SameFrom _ (runOps (callsWithin depth) program _ (program.body id) writer) _
          rw [laid]
          exact runOps_between fun next => runOp_separator found place _ _
  | within opens body inside _ inductionHypothesis =>
      cases depth with
      | zero => exact .refl _
      | succ depth =>
          change SameFrom _ (runOps (callsWithin depth) program _ (program.body id) writer) _
          rw [laid]
          refine runOps_between fun next => runOp_enclosure opens body ?_
          intro inner last enters
          exact inductionHypothesis inner enters ((isLast_congr enters.iteration?).trans place)
            inside depth last

end Nests

/-- Renders the body for each element from a place on, with the separator between each two. -/
def Nest.renderJoined (program : Program) (nest : Nest) (depth : Nat) (context : Context)
    (length : Nat) : Nat → List Value → Writer → Action (Except RenderError Writer)
  | _, [], writer => pure (.ok writer)
  | index, item :: rest, writer =>
    inTurn (nest.render program (index + 1 < length) depth (context.pushIndexed item index length)
      writer) (nest.renderJoined program depth context length (index + 1) rest)

section Elements

variable {helpers : Members Helper} {program : Program} {context : Context} {nest : Nest}

/-- The last element is the one behind which there is none, where a machine word tells the length.
-/
theorem isLast_pushIndexed (item : Value) {index length : Nat} (inside : index < length)
    (short : length < Nat.pow 2 64) :
    isLast (context.pushIndexed item index length) = !decide (index + 1 < length) := by
  have next : nextWord index = index + 1 :=
    nextWord_of_lt (Nat.lt_of_lt_of_le inside (Nat.le_sub_one_of_lt short))
  change (nextWord index == length) = _
  rw [next, ← decide_not, Bool.beq_eq_decide_eq]
  exact decide_eq_decide.mpr ⟨by omega, by omega⟩

theorem renderElements_joined {length : Nat} (short : length < Nat.pow 2 64) {id : BodyId}
    (laid : program.body id = nest.ops) (depth : Nat) (items : List Value) (index : Nat)
    (fits : index + items.length = length)
    (stands : ∀ offset item, items[offset]? = some item →
      nest.Stands helpers program (context.pushIndexed item (index + offset) length))
    (writer : Writer) :
    SameFrom (HasHelpers helpers)
      (renderElements (callsWithin depth) program id context length index items writer)
      (nest.renderJoined program depth context length index items writer) := by
  induction items generalizing index writer with
  | nil => exact .refl _
  | cons item rest inductionHypothesis =>
      have inside : index < length := by
        rw [List.length_cons] at fits
        omega
      have here := renderBody_nest (stands 0 item rfl) (isLast_pushIndexed item inside short) laid
        depth writer
      refine SameFrom.inTurn here (keepsHelpers_renderBody helpers depth program id writer _) ?_
      refine inductionHypothesis (index + 1) ?_ ?_
      · rw [List.length_cons] at fits
        omega
      · intro offset other found
        rw [Nat.add_right_comm]
        exact stands (offset + 1) other found

end Elements

def segmentText? (writer : Writer) (store : Store Continuation Observer State) : Option String :=
  store.outlets[writer.outlet]?.bind fun outlet =>
    (outlet.waiting.find? fun segment => segment.number == writer.segment).map Segment.text

/-- From all stores whose state has a property, a part of a body adds a text where a handle stands,
and goes on from this handle with such a state. -/
def Adds (holds : State → Prop) (writer : Writer) (text : String)
    (action : Action (Except RenderError Writer)) : Prop :=
  ∀ store written, holds store.client → segmentText? writer store = some written →
    ∃ later, action store = some (.ok writer, later) ∧ holds later.client ∧
      segmentText? writer later = some (written ++ text)

theorem find?_changeSegment {number : Nat} {change : Segment → Segment}
    (sameNumber : ∀ segment, (change segment).number = segment.number) (segments : List Segment) :
    (Outlet.changeSegment number change segments).find? (fun segment => segment.number == number) =
      (segments.find? fun segment => segment.number == number).map change := by
  induction segments with
  | nil => rfl
  | cons segment rest inductionHypothesis =>
      unfold Outlet.changeSegment
      by_cases here : segment.number = number
      · simp [here, sameNumber]
      · simp [here, inductionHypothesis]

namespace Adds

variable {holds : State → Prop} {writer : Writer} {text other : String}

theorem nothing : Adds holds writer "" (pure (.ok writer)) := by
  intro store written held found
  rw [String.append_empty]
  exact ⟨store, rfl, held, found⟩

theorem inTurn {first : Action (Except RenderError Writer)}
    {next : Writer → Action (Except RenderError Writer)} (adds : Adds holds writer text first)
    (addsNext : Adds holds writer other (next writer)) :
    Adds holds writer (text ++ other) (inTurn first next) := by
  intro store written held found
  obtain ⟨middle, ran, heldThen, foundThen⟩ := adds store written held found
  obtain ⟨later, ranNext, heldLater, foundLater⟩ := addsNext middle _ heldThen foundThen
  refine ⟨later, ?_, heldLater, by rw [foundLater, String.append_assoc]⟩
  unfold Render.inTurn
  rw [run_bind, ran]
  exact ranNext

theorem ofSame {action also : Action (Except RenderError Writer)} {weaker : State → Prop}
    (same : SameFrom weaker action also) (implies : ∀ state, holds state → weaker state)
    (adds : Adds holds writer text also) : Adds holds writer text action := by
  intro store written held found
  rw [same store (implies _ held)]
  exact adds store written held found

/-- What is written through a handle without taps is added as it is. -/
theorem write {calls : Calls} {program : Program} {context : Context}
    (untapped : writer.taps = []) (text : String) :
    Adds holds writer text (runOps calls program context [.write text] writer) := by
  intro store written held found
  refine ⟨writer.wrote text store, ?_, by rwa [Writer.wrote_client], ?_⟩
  · simp only [runOps, runOp, run_bind, Writer.write_direct (.inl untapped), Option.bind_some,
      run_pure]
  · unfold segmentText? at found ⊢
    obtain ⟨outlet, there, here⟩ := Option.bind_eq_some_iff.mp found
    obtain ⟨segment, isFound, rfl⟩ := Option.map_eq_some_iff.mp here
    have now : (writer.wrote text store).outlets[writer.outlet]? =
        some (outlet.change writer.segment fun segment => segment.written text) := by
      simp only [Writer.wrote, untapped, Array.getElem?_modify, if_true, there, Option.map_some]
    have sameNumber : ∀ segment : Segment, (segment.written text).number = segment.number :=
      fun _ => rfl
    rw [now, Option.bind_some, Outlet.change]
    dsimp only
    rw [find?_changeSegment sameNumber, isFound]
    rfl

/-- A separator by itself at the end of a body adds its text to that of the body, or nothing. -/
theorem separator {program : Program} {depth : Nat} {context : Context} {front : List Op}
    {name : String} {exprs : ParamExprs} {entries : NamedBodies} {another : Prop}
    [Decidable another]
    (adds : Adds holds writer text (runOps (callsWithin depth) program context front writer))
    (addsBetween : another → Adds holds writer other
      ((callsWithin depth).renderNamed ⟨program, entries⟩ mainBody writer context)) :
    Adds holds writer (text ++ if another then other else "")
      ((Nest.separator front name exprs entries []).render program another (depth + 1) context
        writer) := by
  have behind : Adds holds writer "" (runOps (callsWithin depth) program context [] writer) :=
    nothing
  refine adds.inTurn ?_
  rw [← String.append_empty (s := if another then other else "")]
  refine inTurn ?_ behind
  by_cases follows : another
  · simp only [follows, decide_true, if_true]
    exact addsBetween follows
  · simp only [follows, decide_false, Bool.false_eq_true, if_false]
    exact nothing

/-- Elements add their texts one after the other. -/
theorem renderJoined {nest : Nest} {program : Program} {depth : Nat} {context : Context}
    {length : Nat} {texts : Nat → String} (items : List Value) (index : Nat)
    (each : ∀ offset item, items[offset]? = some item →
      Adds holds writer (texts (index + offset))
        (nest.render program (index + offset + 1 < length) depth
          (context.pushIndexed item (index + offset) length) writer)) :
    Adds holds writer (String.join ((List.range' index items.length).map texts))
      (nest.renderJoined program depth context length index items writer) := by
  induction items generalizing index with
  | nil => exact nothing
  | cons item rest inductionHypothesis =>
      rw [List.length_cons, List.range'_succ, List.map_cons, String.join_cons]
      refine (each 0 item rfl).inTurn (inductionHypothesis (index + 1) ?_)
      intro offset other found
      rw [Nat.add_right_comm]
      exact each (offset + 1) other found

end Adds

section Sections

variable {helpers : Members Helper} {program : Program} {context : Context} {nest : Nest}
variable {identifier : Identifier} {rebased : Option Identifier} {exprs : ParamExprs}
variable {entries : NamedBodies} {items : List Value} {main : BodyId}

/-- The place of the element and the length of the array are found by their names. -/
theorem resolve?_place {index length : Nat}
    (place : context.iteration? = some ⟨index, length⟩) :
    context.resolve? (.key "$idx") = some (.ofNat index) ∧
      context.resolve? (.key "$len") = some (.ofNat length) := by
  constructor
  · simp [Context.resolve?, Context.getPath?, Context.lookup?, Context.descend?, Context.index?,
      Context.indexName, place]
  · simp [Context.resolve?, Context.getPath?, Context.lookup?, Context.descend?, Context.length?,
      Context.indexName, Context.lengthName, place]

/-- A section over an array without another branch goes through its elements. -/
theorem runOp_elements {calls : Calls} {writer : Writer}
    (found : context.resolve? identifier = some (.array items))
    (mainGiven : Bodies.find? ⟨program, entries⟩ mainBody = some main)
    (elseless : items = [] → Bodies.find? ⟨program, entries⟩ elseBody = none) :
    runOp calls program context writer (.condition .each identifier rebased exprs entries) =
      renderElements calls program main
        (withParams (context.forBodies rebased) (params program context exprs)) items.length 0 items
        writer := by
  simp only [runOp, found, renderSection, renderEach, mainGiven, Calls.renderNamed]
  cases items with
  | nil =>
      rw [elseless rfl]
      rfl
  | cons item rest => rfl

/-- A section over an array whose body has a separator renders, for one element after the other,
this body, with the body of the separator in its place for all elements but the last, and nothing
there for the last. It does so in whatever sections without a context of their own the separator
stands, as long as they stand on values that are there and no arrays, and in whatever selects. All
parts see the place of the element and the length of the array, and for an empty array nothing is
rendered. So where each part adds a text, the section adds these texts, one after the other. -/
theorem separators_join (found : context.resolve? identifier = some (.array items))
    (short : items.length < Nat.pow 2 64)
    (mainGiven : Bodies.find? ⟨program, entries⟩ mainBody = some main)
    (elseless : items = [] → Bodies.find? ⟨program, entries⟩ elseBody = none)
    (laid : program.body main = nest.ops) :
    let within := withParams (context.forBodies rebased) (params program context exprs)
    let element (index : Nat) (item : Value) : Context :=
      within.pushIndexed item index items.length
    let renders (depth : Nat) (writer : Writer) : Action (Except RenderError Writer) :=
      runOp (callsWithin depth) program context writer
        (.condition .each identifier rebased exprs entries)
    (∀ index item, items[index]? = some item →
      nest.Stands helpers program (element index item)) →
    (∀ depth writer, SameFrom (HasHelpers helpers) (renders depth writer)
      (nest.renderJoined program depth within items.length 0 items writer)) ∧
    (∀ index item met, items[index]? = some item → nest.Meets program (element index item) met →
      met.resolve? (.key "$idx") = some (.ofNat index) ∧
        met.resolve? (.key "$len") = some (.ofNat items.length)) ∧
    ∀ depth writer holds (texts : Nat → String),
      (∀ state, holds state → HasHelpers helpers state) →
        ((∀ index item, items[index]? = some item →
            Adds holds writer (texts index)
              (nest.render program (index + 1 < items.length) depth (element index item) writer)) →
          Adds holds writer (String.join ((List.range items.length).map texts))
            (renders depth writer)) ∧
        ∀ front name given tagged (between : Nat → String),
          nest = .separator front name given tagged [] →
          (∀ index item, items[index]? = some item →
            Adds holds writer (texts index)
              (runOps (callsWithin depth) program (element index item) front writer)) →
          (∀ index item, items[index]? = some item → index + 1 < items.length →
            Adds holds writer (between index)
              ((callsWithin depth).renderNamed ⟨program, tagged⟩ mainBody writer
                (element index item))) →
          Adds holds writer
            (String.join ((List.range items.length).map fun index =>
              texts index ++ if index + 1 < items.length then between index else ""))
            (renders (depth + 1) writer) := by
  intro within element renders stands
  have joined : ∀ depth writer, SameFrom (HasHelpers helpers) (renders depth writer)
      (nest.renderJoined program depth within items.length 0 items writer) := by
    intro depth writer
    change SameFrom _ (runOp _ _ _ _ _) _
    rw [runOp_elements found mainGiven elseless]
    refine renderElements_joined short laid depth items 0 (Nat.zero_add _) ?_ writer
    intro offset item there
    rw [Nat.zero_add]
    exact stands offset item there
  have adds : ∀ depth writer (holds : State → Prop) (texts : Nat → String),
      (∀ state, holds state → HasHelpers helpers state) →
      (∀ index item, items[index]? = some item →
        Adds holds writer (texts index)
          (nest.render program (index + 1 < items.length) depth (element index item) writer)) →
      Adds holds writer (String.join ((List.range items.length).map texts))
        (renders depth writer) := by
    intro depth writer holds texts has each
    refine .ofSame (joined depth writer) has ?_
    rw [List.range_eq_range']
    refine Adds.renderJoined items 0 fun offset item there => ?_
    rw [Nat.zero_add]
    exact each offset item there
  refine ⟨joined, fun index item met there meets => resolve?_place meets.iteration?,
    fun depth writer holds texts has => ⟨adds depth writer holds texts has, ?_⟩⟩
  rintro front name given tagged between rfl addsOwn addsBetween
  exact adds (depth + 1) writer holds _ has fun index item there =>
    .separator (addsOwn index item there) (addsBetween index item there)

end Sections

/-- Sections over "k": in the body 1 a text, and a separator in a section over "o" in a select; in
the body 5 a text and a separator by itself. -/
def joining : Program :=
  let separator : Op := .helper "sep" none [] [(mainBody, 4)]
  ⟨none, 0,
    [[], [.write "b", .helper "select" none [("key", .literal (.integer 1))] [(mainBody, 2)]],
      [.condition .each (.key "o") none [] [(mainBody, 3)]], [separator, .write "."], [.write ","],
      [.write "b", separator]], []⟩

/-- The separator of the first of these bodies, in its enclosures. -/
def joiningNest : Nest :=
  .within [.write "b"] (.select "select" .select [("key", .literal (.integer 1))] [(mainBody, 2)])
    (.within [] (.condition .each (.key "o") [] [(mainBody, 3)])
      (.separator [] "sep" [] [(mainBody, 4)] [.write "."]) []) []

/-- Three elements, and an object to stand on. -/
def joined : Context :=
  .ofValue (.object [("k", .array [.null, .null, .null]), ("o", .object [("n", .null)])])

/-- Three elements have two separators between them. -/
theorem separators_join_three :
    (∃ last later,
      joiningNest.renderJoined joining 4 joined 3 0 [.null, .null, .null] (.onOutlet 0) selecting =
        some (.ok last, later) ∧
      later.outlets[0]?.map (fun outlet => outlet.waiting.map Segment.text) =
        some ["b,.b,.b."]) ∧
    Adds (HasHelpers Helper.standard) (.onOutlet 0) "b,b,b"
      (runOp (callsWithin 2) joining joined (.onOutlet 0)
        (.condition .each (.key "k") none [] [(mainBody, 5)])) := by
  constructor
  · have stands : ∀ index item, ([.null, .null, .null] : List Value)[index]? = some item →
        joiningNest.Stands Helper.standard joining (joined.pushIndexed item index 3) := by
      intro index item there
      obtain rfl : item = .null := by
        have member := List.mem_of_getElem? there
        simpa using member
      refine .within ⟨rfl, rfl⟩ rfl rfl ?_
      rintro _ ⟨key⟩
      exact .within ⟨_, .each rfl⟩ rfl rfl fun inside _ => .separator rfl
    have joins : runOp (callsWithin 4) joining joined (.onOutlet 0)
          (.condition .each (.key "k") none [] [(mainBody, 1)]) selecting =
        joiningNest.renderJoined joining 4 joined 3 0 [.null, .null, .null] (.onOutlet 0)
          selecting :=
      (@separators_join Helper.standard joining joined joiningNest (.key "k") none []
        [(mainBody, 1)] [.null, .null, .null] 1 rfl (by decide) rfl nofun rfl stands).1 4
        (.onOutlet 0) selecting rfl
    have ran : ∃ last later,
        runOp (callsWithin 4) joining joined (.onOutlet 0)
          (.condition .each (.key "k") none [] [(mainBody, 1)]) selecting =
            some (.ok last, later) ∧
        later.outlets[0]?.map (fun outlet => outlet.waiting.map Segment.text) =
          some ["b,.b,.b."] :=
      ⟨_, _, rfl, rfl⟩
    rwa [joins] at ran
  · let nest : Nest := .separator [.write "b"] "sep" [] [(mainBody, 4)] []
    obtain ⟨-, -, adds⟩ := @separators_join Helper.standard joining joined nest (.key "k") none []
      [(mainBody, 5)] [.null, .null, .null] 5 rfl (by decide) rfl nofun rfl
      fun _ _ _ => .separator rfl
    exact (adds 1 (.onOutlet 0) (HasHelpers Helper.standard) (fun _ => "b") fun _ has => has).2
      [.write "b"] "sep" [] [(mainBody, 4)] (fun _ => ",") rfl (fun _ _ _ => .write rfl "b")
      fun _ _ _ _ => .write rfl ","

/-- A section or a select with a context of its own drops the frames of the elements, so that the
last element is followed by a separator too; and a section over a function that returns an array
goes through that array. -/
theorem separators_trail :
    let elements : Value := .array [.null, .null]
    let held : Value := .object [("n", .string "x")]
    textAmong? [("main", "\x7b#k\x7d\x7b#o:o\x7d\x7bn\x7d\x7b@sep\x7d,\x7b/sep\x7d" ++
          "\x7b/o\x7d\x7b/k\x7d")]
        (.object [("k", elements), ("o", held)]) = some "x,x," ∧
      textAmong? [("main", "\x7b#k\x7dx\x7b@select:o key=k\x7d\x7b@sep\x7d,\x7b/sep\x7d" ++
            "\x7b/select\x7d\x7b/k\x7d")]
          (.object [("k", elements), ("o", held)]) = some "x,x," ∧
        textAmong? [("main", "\x7b#k\x7dx\x7b#f\x7d\x7b@sep\x7d,\x7b/sep\x7d\x7b/f\x7d" ++
              "\x7b/k\x7d")]
            (.object [("f", .function (.host 0 (.returning elements))), ("k", elements)]) =
          some "x,x," := by
  decide +kernel

end Render

end BraceTemplate
