import BraceTemplate.Proofs.Render.FirstMatch
import BraceTemplate.Proofs.Render.Following
import BraceTemplate.Proofs.Render.Infallible

/-!
# The frame of a select is seen through

The frame that a select opens holds nothing of its own, so that lookups go on to the frames around
it. Whatever only looks keys and paths up from the outermost frame that has them renders in a select
as it does in its place. An inclusion that stands in the frame itself does not: it takes along the
innermost frame alone, which holds nothing.
-/

namespace BraceTemplate

open Value (FoundAlike foundAlike_refl)

/-- Frames, and the same frames without some of those that selects have opened. -/
inductive Frame.ThroughSelects : List Frame → List Frame → Prop
  | nil : ThroughSelects [] []
  | cons {one other : Frame} {ones others : List Frame} (alike : one.Alike True other)
      (rest : ThroughSelects ones others) : ThroughSelects (one :: ones) (other :: others)
  | opened (key : Value) {ones others : List Frame} (rest : ThroughSelects ones others) :
      ThroughSelects (⟨.null, none, some key⟩ :: ones) others

/-- A context, and the same one without some of the frames that selects have opened. -/
structure Context.ThroughSelects (one other : Context) : Prop where
  frames : Frame.ThroughSelects one.frames other.frames
  globals : other.globals = one.globals
  blockChain : other.blockChain = one.blockChain
  templateName : other.templateName = one.templateName
  partialDepth : other.partialDepth = one.partialDepth
  blockDepth : other.blockDepth = one.blockDepth

namespace Frame.ThroughSelects

variable {ones others : List Frame}

theorem refl (frames : List Frame) : ThroughSelects frames frames := by
  induction frames with
  | nil => exact .nil
  | cons first rest inductionHypothesis =>
      exact .cons ⟨.refl first.head, rfl, fun _ => rfl⟩ inductionHypothesis

theorem iteration? (through : ThroughSelects ones others) :
    others.findSome? Frame.iteration = ones.findSome? Frame.iteration := by
  induction through with
  | nil => rfl
  | cons alike _ inductionHypothesis =>
      rw [List.findSome?_cons, List.findSome?_cons, alike.iteration, inductionHypothesis]
  | opened key _ inductionHypothesis => exact inductionHypothesis

/-- The frame of a select has no members, so the search goes on. -/
theorem member? (through : ThroughSelects ones others) (key : String) :
    FoundAlike True (ones.findSome? (Context.memberOfFrame? key))
      (others.findSome? (Context.memberOfFrame? key)) := by
  induction through with
  | nil => exact .none
  | @cons one other _ _ alike _ inductionHypothesis =>
      have member : FoundAlike True (Context.memberOfFrame? key one)
          (Context.memberOfFrame? key other) :=
        alike.head.memberOfFrame? key one.iteration other.iteration one.select other.select
      rw [List.findSome?_cons, List.findSome?_cons]
      rcases member.split with ⟨none, noneAlso⟩ | ⟨value, another, some, someAlso, values⟩
      · rw [none, noneAlso]
        exact inductionHypothesis
      · rw [some, someAlso]
        exact .some values
  | opened selected _ inductionHypothesis => exact inductionHypothesis

end Frame.ThroughSelects

mutual

def Identifier.isRelative : Identifier → Bool
  | .key _ => false
  | .path relative segments => relative || PathSegment.areRelative segments

def PathSegment.areRelative : List PathSegment → Bool
  | [] => false
  | .key _ :: rest => PathSegment.areRelative rest
  | .index _ :: rest => PathSegment.areRelative rest
  | .lookup inner :: rest => inner.isRelative || PathSegment.areRelative rest

end

def Value.isPassedOn : Value → Bool
  | function (.inline _ _ _) => true
  | _ => false

def Helper.seesThrough : Helper → Bool
  | .builtin (.compare _) => false
  | .builtin .contextDump => false
  | .builtin _ => true
  | .host helper => !helper.actions.any HostAction.writesStack

/-- Whether a function of the host takes no notice of the frames as such, and looks up no text that
a tag has passed on. -/
def HostFunction.seesThrough (context : Context) (function : HostFunction Value) : Bool :=
  !function.actions.any HostAction.writesStack &&
    match function.result with
    | .lookup path =>
      !(Context.pathParts path).1 && !(context.get? path).any Value.isPassedOn
    | _ => true

/-- Whether a step takes no notice of the frame of a select. An inclusion takes the innermost frame
along, and must not stand in the frame of a select itself. -/
def Op.seesThrough (helpers : Members Helper) (context : Context) (op : Op) : Bool :=
  !op.identifiers.any Identifier.isRelative &&
    match op with
    | .helper name _ _ _ => (helpers.find? name).all Helper.seesThrough
    | .inclusion _ rebased _ => (context.forBodies rebased).select?.isNone
    | _ => true

theorem Value.Alike.eq_of_not_isPassedOn {one other : Value} (alike : one.Alike True other)
    (plain : one.isPassedOn = false) : other = one := by
  cases alike with
  | same value => rfl
  | passedOn isLoose program body stamp also => cases plain

theorem Context.descend?_alike {found also : Option Value} (alike : FoundAlike True found also)
    (keys : List String) : FoundAlike True (descend? found keys) (descend? also keys) := by
  induction keys generalizing found also with
  | nil => exact alike
  | cons key rest inductionHypothesis =>
      exact inductionHypothesis <| alike.bind fun value another values =>
        (Value.HeadAlike.value values).child? key

namespace Context.ThroughSelects

variable {one other : Context}

theorem refl (context : Context) : context.ThroughSelects context :=
  ⟨.refl context.frames, rfl, rfl, rfl, rfl, rfl⟩

/-- A select opens a frame on the context that it stands in. -/
theorem pushSelect (context : Context) (key : Value) :
    (context.pushSelect key).ThroughSelects context :=
  ⟨.opened key (.refl context.frames), rfl, rfl, rfl, rfl, rfl⟩

theorem iteration? (through : one.ThroughSelects other) : other.iteration? = one.iteration? :=
  through.frames.iteration?

theorem lookup? (through : one.ThroughSelects other) (key : String) :
    FoundAlike True (one.lookup? key) (other.lookup? key) := by
  unfold Context.lookup? index? length?
  rw [through.iteration?, through.globals]
  split
  · exact foundAlike_refl _
  · split
    · exact foundAlike_refl _
    · rcases (through.frames.member? key).split with
        ⟨none, noneAlso⟩ | ⟨value, another, some, someAlso, values⟩
      · rw [none, noneAlso]
        exact foundAlike_refl _
      · rw [some, someAlso]
        exact .some values

theorem getPath? (through : one.ThroughSelects other) (keys : List String) :
    FoundAlike True (one.getPath? false keys) (other.getPath? false keys) := by
  cases keys with
  | nil => exact .none
  | cons first rest => exact descend?_alike (through.lookup? first) rest

theorem get? (through : one.ThroughSelects other) {path : String}
    (absolute : (pathParts path).1 = false) :
    FoundAlike True (one.get? path) (other.get? path) := by
  rw [get?_eq, get?_eq, absolute]
  exact through.getPath? _

mutual

theorem resolve? (through : one.ThroughSelects other) :
    ∀ identifier : Identifier, identifier.isRelative = false →
      FoundAlike True (one.resolve? identifier) (other.resolve? identifier)
  | .key name, _ => by
    simp only [Context.resolve?]
    exact through.getPath? [name]
  | .path relative segments, absolute => by
    simp only [Identifier.isRelative, Bool.or_eq_false_iff] at absolute
    obtain ⟨rfl, absolute⟩ := absolute
    simp only [Context.resolve?, through.resolveKeys? segments absolute]
    cases one.resolveKeys? segments with
    | none => exact .none
    | some keys => exact through.getPath? keys

theorem resolveKeys? (through : one.ThroughSelects other) :
    ∀ segments : List PathSegment, PathSegment.areRelative segments = false →
      other.resolveKeys? segments = one.resolveKeys? segments
  | [], _ => rfl
  | .key name :: rest, absolute => by
    simp only [PathSegment.areRelative] at absolute
    simp only [Context.resolveKeys?, through.resolveKeys? rest absolute]
  | .index digits :: rest, absolute => by
    simp only [PathSegment.areRelative] at absolute
    simp only [Context.resolveKeys?, through.resolveKeys? rest absolute]
  | .lookup inner :: rest, absolute => by
    simp only [PathSegment.areRelative, Bool.or_eq_false_iff] at absolute
    simp only [Context.resolveKeys?, through.resolveKeys? rest absolute.2]
    rcases (through.resolve? inner absolute.1).split with
      ⟨none, noneAlso⟩ | ⟨value, another, some, someAlso, values⟩
    · simp only [none, noneAlso]
    · simp only [some, someAlso, values.display]

end

theorem pushFrame (through : one.ThroughSelects other) {first second : Frame}
    (frames : first.Alike True second) :
    (one.pushFrame first).ThroughSelects (other.pushFrame second) :=
  { through with frames := .cons frames through.frames }

theorem rebase (through : one.ThroughSelects other) {first second : Value}
    (heads : Value.HeadAlike True first second) :
    (one.rebase first).ThroughSelects (other.rebase second) :=
  { through with frames := .cons ⟨heads, rfl, fun _ => rfl⟩ .nil }

theorem forBodies (through : one.ThroughSelects other) {rebased : Option Identifier}
    (absolute : ∀ identifier ∈ rebased, identifier.isRelative = false) :
    (one.forBodies rebased).ThroughSelects (other.forBodies rebased) := by
  cases rebased with
  | none => exact through
  | some identifier =>
      refine through.rebase ?_
      rcases (through.resolve? identifier (absolute identifier rfl)).split with
        ⟨none, noneAlso⟩ | ⟨value, another, some, someAlso, values⟩
      · rw [none, noneAlso]
        exact .refl _
      · rw [some, someAlso]
        exact .value values

/-- Outside of the frame of a select the innermost frames are alike, and go along with an inclusion.
-/
theorem forPartial (through : one.ThroughSelects other) (outside : one.select? = none)
    {given also : Value.Params} (alike : given.Alike True also) :
    (one.forPartial given).ThroughSelects (other.forPartial also) := by
  have frames : Frame.ThroughSelects
      (one.frames.head?.toList.map fun frame => ⟨frame.head, frame.iteration, none⟩)
      (other.frames.head?.toList.map fun frame => ⟨frame.head, frame.iteration, none⟩) := by
    have frames := through.frames
    unfold select? at outside
    generalize one.frames = ones at *
    generalize other.frames = others at *
    cases frames with
    | nil => exact .nil
    | cons alike _ => exact .cons ⟨alike.head, alike.iteration, fun _ => rfl⟩ .nil
    -- Here the frame that goes along would be the one of the select, which only one side has.
    | opened key _ => cases outside
  have base : (one.forPartial []).ThroughSelects (other.forPartial []) :=
    { through with
      frames := frames
      partialDepth := congrArg nextWord through.partialDepth }
  rw [forPartial_eq one, forPartial_eq other, alike.isEmpty]
  split
  · exact base
  · exact base.pushFrame ⟨.params alike, rfl, fun _ => rfl⟩

end Context.ThroughSelects

namespace Render

open Output

/-- Whatever takes notice of the frame of a select is kept out. -/
def seeingThrough (helpers : Members Helper) : Guard where
  op _ context op := op.seesThrough helpers context
  host function context := function.seesThrough context

section Permitting

variable {helpers : Members Helper} {program : Program} {one other : Context}

theorem absolute_of_permitted {op : Op}
    (permitted : (seeingThrough helpers).op program one op = true) :
    ∀ identifier ∈ op.identifiers, identifier.isRelative = false := by
  simp only [seeingThrough, Op.seesThrough, Bool.and_eq_true, Bool.not_eq_true'] at permitted
  intro identifier member
  simpa using List.any_eq_false.mp permitted.1 identifier member

theorem forPartial_throughSelects {name : Name} {rebased : Option Identifier} {exprs : ParamExprs}
    {given also : Value.Params}
    (permitted : (seeingThrough helpers).op program one (.inclusion name rebased exprs) = true)
    (through : one.ThroughSelects other) (alike : given.Alike True also) :
    ((one.forBodies rebased).forPartial given).ThroughSelects
      ((other.forBodies rebased).forPartial also) := by
  have absolute := absolute_of_permitted permitted
  simp only [seeingThrough, Op.seesThrough, Bool.and_eq_true, Option.isNone_iff_eq_none]
    at permitted
  have inner := through.forBodies fun identifier member => absolute identifier
    (List.mem_append_left _ (Option.mem_toList.mpr member))
  exact inner.forPartial permitted.2 alike

theorem readsAlike_of_seesThrough {name : String} {rebased : Option Identifier}
    {exprs : ParamExprs} {entries : NamedBodies} {helper : Helper}
    (permitted : (seeingThrough helpers).op program one (.helper name rebased exprs entries) = true)
    (found : helpers.find? name = some helper) (given : Value.Params) (inner also : Context) :
    helper.ReadsAlike True given inner also := by
  simp only [seeingThrough, Op.seesThrough, Bool.and_eq_true, found, Option.all_some] at permitted
  have sees := permitted.2
  cases helper with
  | host helper =>
      intro writes
      rw [Helper.seesThrough, HostAction.any_writesStack writes] at sees
      cases sees
  | builtin helper =>
      cases helper with
      | compare comparison => cases sees
      | contextDump => cases sees
      | _ => trivial

theorem host_throughSelects {function : HostFunction Value}
    (permitted : (seeingThrough helpers).host function one = true)
    (through : one.ThroughSelects other) :
    (HostAction.writeStack ∈ function.actions → other.stackJson = one.stackJson) ∧
      ∀ path, function.result = .lookup path → other.get? path = one.get? path := by
  simp only [seeingThrough, HostFunction.seesThrough, Bool.and_eq_true, Bool.not_eq_true']
    at permitted
  refine ⟨fun writes => ?_, fun path looks => ?_⟩
  · rw [HostAction.any_writesStack writes] at permitted
    cases permitted.1
  · have reads := permitted.2
    simp only [looks, Bool.and_eq_true, Bool.not_eq_true'] at reads
    rcases (through.get? reads.1).split with
      ⟨none, noneAlso⟩ | ⟨value, another, some, someAlso, values⟩
    · rw [none, noneAlso]
    · rw [some, Option.any_some] at reads
      rw [some, someAlso, values.eq_of_not_isPassedOn reads.2]

end Permitting

/-- Contexts are alike but for frames that selects have opened. It is left open which tag a text
comes from, as that is told by how many frames were opened, and whether a branch has matched, as
branches are kept out. -/
def throughSelects (helpers : Members Helper) : Likeness where
  loose := True
  helpers := helpers
  guard := seeingThrough helpers
  like one other := one.ThroughSelects other
  outline through :=
    ⟨through.blockChain, through.templateName, through.partialDepth, through.blockDepth,
      through.iteration?⟩
  level _ strict := absurd trivial strict
  pushFrame through frames := through.pushFrame frames
  rebase through heads := through.rebase heads
  named _ through := { through with templateName := rfl }
  withBlocks program through :=
    { through with blockChain := congrArg (Context.enterBlocks · program) through.blockChain }
  forBlock through := { through with blockDepth := congrArg nextWord through.blockDepth }
  identifiers permitted through identifier member :=
    through.resolve? identifier (absolute_of_permitted permitted identifier member)
  forPartial permitted through alike := forPartial_throughSelects permitted through alike
  helper permitted found _ := readsAlike_of_seesThrough permitted found _ _ _
  host permitted through := host_throughSelects permitted through

section Transparency

variable {depth : Nat} {program : Program} {context : Context} {writer : Writer} {key : Value}
variable {store later : Store Continuation Observer State} {entries : NamedBodies} {id : BodyId}
variable {result : Except RenderError Writer}

/-- Rendering in a select, with no branch matched at first and what has matched before kept. -/
theorem run_renderSelect {calls : Calls} (main : Bodies.find? ⟨program, entries⟩ mainBody = some id)
    (ran : renderSelect calls key writer context ⟨program, entries⟩ store = some (result, later)) :
    ∃ reached, calls.renderBody program id writer (context.pushSelect key)
          { store with client := { store.client with settled := false } } =
        some (result, reached) ∧
      later = { reached with
        client := { reached.client with settled := store.client.settled } } := by
  have entered : renderSelect calls key writer context ⟨program, entries⟩ =
      withFreshSelect (calls.renderBody program id writer (context.pushSelect key)) := by
    unfold renderSelect Calls.renderNamed
    rw [main]
  rw [entered] at ran
  obtain ⟨⟨found, reached⟩, inside, same⟩ := Option.bind_eq_some_iff.mp ran
  cases same
  exact ⟨reached, inside, rfl⟩

/-- What a main body renders in a select under the guard, its steps render in place of it. -/
theorem inPlace_of_renderSelect (main : Bodies.find? ⟨program, entries⟩ mainBody = some id)
    (ran : renderSelect (callsGuarded (seeingThrough store.client.engine.helpers) depth) key writer
      context ⟨program, entries⟩ store = some (result, later)) :
    ∃ after,
      runOps (callsWithin depth) program context (program.body id) writer store =
        some (result, after) ∧
      (throughSelects store.client.engine.helpers).Mirrors later after := by
  let through := throughSelects store.client.engine.helpers
  obtain ⟨reached, inside, rfl⟩ := run_renderSelect main ran
  cases depth with
  | zero => cases inside
  | succ depth =>
      -- The select starts as if no branch had matched; no step that is permitted asks for that.
      have itself : through.Mirrors store store := .refl Context.ThroughSelects.refl store rfl
      have fresh : through.Mirrors
          { store with client := { store.client with settled := false } } store :=
        { itself with settled := fun strict => absurd trivial strict }
      have entered : through.Follows
          ((callsGuarded through.guard (depth + 1)).renderBody program id writer
            (context.pushSelect key))
          (runOps (callsWithin (depth + 1)) program context (program.body id) writer) := by
        change through.Follows
          (if through.guard.body program id (context.pushSelect key) then
            runOps (callsGuarded through.guard depth) program (context.pushSelect key)
              (program.body id) writer
            else outOfSteps) _
        split
        · rename_i permitted
          exact (callsGuarded_follow through (Nat.le_succ depth)).runOps
            (Context.ThroughSelects.pushSelect context key) permitted
        · exact .outOfSteps _
      obtain ⟨after, inPlace, mirrors⟩ := entered _ _ _ _ fresh inside
      exact ⟨after, inPlace, { mirrors with settled := fun strict => absurd trivial strict }⟩

/-- A select whose key stands for something is transparent to the data: what its main body renders
in its frame without taking notice of it, with no inclusion in the frame itself, the tag renders;
and from where the key was found the steps of the body render the same in place of the tag, to the
same handle, up to contexts that are kept for later and differ by frames of selects alone. -/
theorem select_is_transparent {halfway : Store Continuation Observer State} {name : String}
    {exprs : ParamExprs} (found : store.client.engine.helpers.find? name = some (.builtin .select))
    (main : Bodies.find? ⟨program, entries⟩ mainBody = some id)
    (resolves : resolveParam? (callsWithin depth) (params program context exprs) "key" writer
      context store = some (some key, halfway))
    (ran : renderSelect (callsGuarded (seeingThrough halfway.client.engine.helpers) depth) key
      writer context ⟨program, entries⟩ halfway = some (result, later)) :
    ∃ last after, result = .ok last ∧
      runOp (callsWithin depth) program context writer (.helper name none exprs entries) store =
        some (.ok last, later) ∧
      runOps (callsWithin depth) program context (program.body id) writer halfway =
        some (.ok last, after) ∧
      (throughSelects halfway.client.engine.helpers).Mirrors later after := by
  have unguarded : renderSelect (callsWithin depth) key writer context ⟨program, entries⟩ halfway =
      some (result, later) :=
    ((callsGuarded_follow (.equality _ (seeingThrough halfway.client.engine.helpers))
      (Nat.le_refl depth)).renderSelect rfl key).unguarded ran
  obtain ⟨reached, inside, -⟩ := run_renderSelect main unguarded
  obtain ⟨last, rfl⟩ := isHandle_of_renderBody inside
  obtain ⟨after, inPlace, mirrors⟩ := inPlace_of_renderSelect main ran
  refine ⟨last, after, rfl, ?_, inPlace, mirrors⟩
  have selected : runSelect (callsWithin depth) writer context ⟨program, entries⟩
      (params program context exprs) store = some (.ok last, later) := by
    unfold runSelect
    rw [run_bind, resolves]
    exact unguarded
  rw [runOp_helper found, run_bind]
  exact congrArg (Option.bind · _) selected

end Transparency

/-- A program with a select that shows "n", and a section on "o" that includes "p". -/
def selectingThrough : Program :=
  ⟨none, 0, [[.helper "select" none [("key", .identifier (.key "k"))] [(mainBody, 1)]],
    [.reference (.key "n") ⟨["h"], none⟩, .condition .each (.key "o") none [] [(mainBody, 2)]],
    [.reference (.key "n") ⟨[], none⟩, .inclusion (.literal "p") none []]], []⟩

/-- A template that shows "m". -/
def included : Program :=
  ⟨some "p", 0, [[.reference (.key "m") ⟨[], none⟩]], []⟩

/-- Steps in a select show what is around it, also in a section that includes a template. -/
theorem select_is_transparent_section :
    let store : Store Continuation Observer State :=
      { selecting with client := ⟨(Engine.ofConfig .standard).register "p" included, false⟩ }
    let context := Context.ofValue (.object
      [("k", .string "a"), ("n", .string "x"), ("o", .object [("m", .string "y")])])
    ∃ last later after,
      runOp (callsWithin 4) selectingThrough context (.onOutlet 0)
          (.helper "select" none [("key", .identifier (.key "k"))] [(mainBody, 1)]) store =
        some (.ok last, later) ∧
      runOps (callsWithin 4) selectingThrough context (selectingThrough.body 1) (.onOutlet 0)
          store =
        some (.ok last, after) ∧
      (throughSelects Helper.standard).Mirrors later after := by
  intro store context
  have found : store.client.engine.helpers.find? "select" = some (.builtin .select) := rfl
  have main : Bodies.find? ⟨selectingThrough, [(mainBody, 1)]⟩ mainBody = some 1 := rfl
  have resolves : resolveParam? (callsWithin 4)
      (params selectingThrough context [("key", .identifier (.key "k"))]) "key" (.onOutlet 0)
      context store = some (some (.string "a"), store) := rfl
  have yields : (renderSelect (callsGuarded (seeingThrough Helper.standard) 4) (.string "a")
      (.onOutlet 0) context ⟨selectingThrough, [(mainBody, 1)]⟩ store).isSome = true := by
    decide +kernel
  obtain ⟨⟨result, later⟩, ran⟩ := Option.isSome_iff_exists.mp yields
  obtain ⟨last, after, -, selected, inPlace, mirrors⟩ :=
    select_is_transparent found main resolves ran
  exact ⟨last, later, after, selected, inPlace, mirrors⟩

/-- A template that is included in the frame of a select itself sees nothing of the data. -/
theorem select_is_opaque_to_inclusions :
    let data : Value := .object [("k", .string "a"), ("n", .string "x")]
    textAmong? [("main", "\x7b@select key=k\x7d\x7b>p/\x7d\x7b/select\x7d"), ("p", "\x7bn\x7d")]
        data = some "" ∧
      textAmong? [("main", "\x7b>p/\x7d"), ("p", "\x7bn\x7d")] data = some "x" := by
  decide +kernel

end Render

end BraceTemplate
