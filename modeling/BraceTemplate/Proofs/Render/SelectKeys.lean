import BraceTemplate.Proofs.Render.FirstMatch

/-!
# Contexts that differ in the keys of their selects

The key of a select is read in one place only: by a comparison that has none of its own, in the
frame that the select opened. So identifiers, blocks, parameters and the stack of the data are the
same whatever the keys of the selects around are, and so is every context that drops the frames.
Whether rendering asks for the key is told by the steps that it may come to in that frame.
-/

namespace BraceTemplate

def Frame.keyless (frame : Frame) : Frame :=
  { frame with select := none }

namespace Context

def keyless (context : Context) : Context :=
  { context with frames := context.frames.map Frame.keyless }

/-- Contexts that are the same but for the keys of the selects around. -/
structure SameButKeys (one other : Context) : Prop where
  keyless : other.keyless = one.keyless
  /-- The innermost frame of both is one of a select, or of neither. -/
  selects : other.select?.isSome = one.select?.isSome

variable {one other : Context}

mutual

/-- What identifiers stand for is told by what paths stand for. -/
theorem resolve?_congr (same : ∀ relative keys, other.getPath? relative keys =
    one.getPath? relative keys) :
    ∀ identifier : Identifier, other.resolve? identifier = one.resolve? identifier
  | .key name => by
    simp only [resolve?]
    exact same false [name]
  | .path relative segments => by
    simp only [resolve?, resolveKeys?_congr same segments, same]

theorem resolveKeys?_congr (same : ∀ relative keys, other.getPath? relative keys =
    one.getPath? relative keys) :
    ∀ segments : List PathSegment, other.resolveKeys? segments = one.resolveKeys? segments
  | [] => rfl
  | .key name :: rest => by
    simp only [resolveKeys?, resolveKeys?_congr same rest]
  | .index digits :: rest => by
    simp only [resolveKeys?, resolveKeys?_congr same rest]
  | .lookup inner :: rest => by
    simp only [resolveKeys?, resolve?_congr same inner, resolveKeys?_congr same rest]

end

theorem iteration?_keyless (context : Context) : context.keyless.iteration? = context.iteration? :=
  List.findSome?_map

theorem current?_keyless (context : Context) : context.keyless.current? = context.current? := by
  cases frames : context.frames <;> simp [keyless, current?, frames, Frame.keyless]

theorem lookup?_keyless (context : Context) (key : String) :
    context.keyless.lookup? key = context.lookup? key := by
  have members : context.keyless.frames.findSome? (memberOfFrame? key) =
      context.frames.findSome? (memberOfFrame? key) := List.findSome?_map
  unfold lookup? index? length?
  rw [iteration?_keyless, members]
  rfl

theorem getPath?_keyless (context : Context) (relative : Bool) (keys : List String) :
    context.keyless.getPath? relative keys = context.getPath? relative keys := by
  unfold getPath?
  simp only [current?_keyless, lookup?_keyless]

theorem stackJson_keyless (context : Context) : context.keyless.stackJson = context.stackJson := by
  have each : ∀ frames : List Frame, stackOfFrames (frames.map Frame.keyless) =
      stackOfFrames frames := by
    intro frames
    induction frames with
    | nil => rfl
    | cons frame rest inductionHypothesis =>
        rw [stackOfFrames.eq_def, stackOfFrames.eq_def (frame :: rest)]
        simp only [List.map_cons, inductionHypothesis]
        cases rest <;> rfl
  exact each context.frames

theorem forPartial_keyless (context : Context) (params : Value.Params) :
    context.keyless.forPartial params = context.forPartial params := by
  unfold forPartial keyless
  cases context.frames <;> rfl

namespace SameButKeys

theorem refl (context : Context) : context.SameButKeys context :=
  ⟨rfl, rfl⟩

/-- What does not see the keys is the same. -/
theorem congr {Result : Type} (same : one.SameButKeys other) (read : Context → Result)
    (blind : ∀ context : Context, read context.keyless = read context) : read other = read one := by
  rw [← blind other, same.keyless, blind]

theorem iteration? (same : one.SameButKeys other) : other.iteration? = one.iteration? :=
  same.congr Context.iteration? iteration?_keyless

theorem current? (same : one.SameButKeys other) : other.current? = one.current? :=
  same.congr Context.current? current?_keyless

theorem getPath? (same : one.SameButKeys other) (relative : Bool) (keys : List String) :
    other.getPath? relative keys = one.getPath? relative keys :=
  same.congr (·.getPath? relative keys) (getPath?_keyless · relative keys)

theorem get? (same : one.SameButKeys other) (path : String) : other.get? path = one.get? path :=
  same.getPath? _ _

theorem resolve? (same : one.SameButKeys other) (identifier : Identifier) :
    other.resolve? identifier = one.resolve? identifier :=
  resolve?_congr same.getPath? identifier

theorem stackJson (same : one.SameButKeys other) : other.stackJson = one.stackJson :=
  same.congr Context.stackJson stackJson_keyless

theorem block? (same : one.SameButKeys other) (name : String) :
    other.block? name = one.block? name :=
  same.congr (·.block? name) fun _ => rfl

theorem coerce (same : one.SameButKeys other) (value : Value) (type : Option String) :
    Operand.coerce value type other = Operand.coerce value type one := by
  unfold Operand.coerce
  rw [same.get?]

theorem params (same : one.SameButKeys other) (program : Program) (exprs : ParamExprs) :
    Render.params program other exprs = Render.params program one exprs := by
  have level : other.level = one.level := same.congr Context.level fun _ => rfl
  have each : ∀ key expr, Render.paramValue? program other key expr =
      Render.paramValue? program one key expr := by
    intro key expr
    cases expr with
    | literal value => rfl
    | identifier name => exact same.resolve? name
    | body id => simp only [Render.paramValue?, level]
  simp only [Render.params, each]

theorem pushFrame (same : one.SameButKeys other) (frame : Frame) :
    (one.pushFrame frame).SameButKeys (other.pushFrame frame) :=
  ⟨congrArg (Context.pushFrame · frame.keyless) same.keyless, rfl⟩

/-- Opening a select on one key or on another makes no other difference. -/
theorem pushSelect (same : one.SameButKeys other) (first second : Value) :
    (one.pushSelect first).SameButKeys (other.pushSelect second) :=
  ⟨congrArg (Context.push · .null) same.keyless, rfl⟩

theorem forBlock (same : one.SameButKeys other) : one.forBlock.SameButKeys other.forBlock :=
  ⟨congrArg Context.forBlock same.keyless, same.selects⟩

theorem rebase (same : one.SameButKeys other) (head : Value) :
    other.rebase head = one.rebase head :=
  same.congr (·.rebase head) fun _ => rfl

/-- A tag with a context of its own drops all selects around. -/
theorem forBodies_some (same : one.SameButKeys other) (identifier : Identifier) :
    other.forBodies (some identifier) = one.forBodies (some identifier) := by
  simp only [Context.forBodies, same.resolve?, same.rebase]

theorem forBodies (same : one.SameButKeys other) (rebased : Option Identifier) :
    (one.forBodies rebased).SameButKeys (other.forBodies rebased) := by
  cases rebased with
  | none => exact same
  | some identifier =>
      rw [same.forBodies_some]
      exact .refl _

/-- An inclusion drops all selects around. -/
theorem forPartial (same : one.SameButKeys other) (params : Value.Params) :
    other.forPartial params = one.forPartial params :=
  same.congr (·.forPartial params) (forPartial_keyless · params)

end SameButKeys

end Context

def ParamExpr.stands (resolve? : Identifier → Option Value) : ParamExpr → Bool
  | identifier name => (resolve? name).isSome
  | literal _ => true
  | body _ => true

/-- Whether a tag has a parameter under a key that refers to something. -/
def ParamExprs.gives (resolve? : Identifier → Option Value) (key : String)
    (exprs : ParamExprs) : Bool :=
  exprs.any fun entry => entry.1 == key && entry.2.stands resolve?

/-- What the steps in a frame go by. -/
structure Sight where
  helpers : Members Helper
  resolve? : Identifier → Option Value
  block? : String → Option BlockRef

def Context.sight (context : Context) (helpers : Members Helper) : Sight :=
  ⟨helpers, context.resolve?, context.block?⟩

def BuiltinHelper.rendersInFrame (body : String) : BuiltinHelper → Bool
  | separator => body == mainBody
  | compare _ => body == elseBody
  | _ => false

namespace Op

/-- Whether a step compares with the key of the select that it stands in: it has no key of its own,
or one that refers to nothing. -/
def asksSelect (sight : Sight) : Op → Bool
  | helper name none exprs _ =>
    match sight.helpers.find? name with
    | some (.builtin (.compare _)) => !exprs.gives sight.resolve? "key"
    | _ => false
  | _ => false

/-- Whether a step may render a body in the frame that it stands in before a branch has matched.
What holds a context, parameters, an element or a value of its own stands in another frame. -/
def rendersInFrame (sight : Sight) (body : String) : Op → Bool
  | condition .each identifier none exprs _ =>
    match sight.resolve? identifier with
    | some (.function (.host _ _)) => true
    | some (.bool true) => body == mainBody && !exprs.any fun entry => entry.2.stands sight.resolve?
    | _ => body == elseBody && !exprs.any fun entry => entry.2.stands sight.resolve?
  | condition .present identifier none _ _ =>
    body == if Render.isPresent (sight.resolve? identifier) then mainBody else elseBody
  | condition .absent identifier none _ _ =>
    body == if Render.isPresent (sight.resolve? identifier) then elseBody else mainBody
  | block (.literal name) none _ _ => body == mainBody && (sight.block? name).isNone
  | block (.body _) none _ _ => body == mainBody
  | helper name none _ _ =>
    match sight.helpers.find? name with
    | some (.builtin called) => called.rendersInFrame body
    | some (.host _) => true
    | none => false
  | _ => false

def yieldsInFrame (name : String) : Op → Bool
  | block (.literal text) none _ _ => text == name
  | block (.body _) none _ _ => true
  | _ => false

end Op

/-- The bodies that rendering a body may come to in the frame that it is rendered in, before a
branch has matched. -/
inductive Program.Visits (sight : Sight) (program : Program) (id : BodyId) :
    Program → BodyId → Prop
  | here : Visits sight program id program id
  | within {other : Program} {inner opened : BodyId} {op : Op} {name : String}
      (visits : Visits sight program id other inner) (member : op ∈ other.body inner)
      (renders : op.rendersInFrame sight name = true)
      (found : Render.Bodies.find? ⟨other, op.entries⟩ name = some opened) :
      Visits sight program id other opened
  | override {other : Program} {inner : BodyId} {op : Op} {name : String} {override : BlockRef}
      (visits : Visits sight program id other inner) (member : op ∈ other.body inner)
      (yields : op.yieldsInFrame name = true) (found : sight.block? name = some override) :
      Visits sight program id override.program override.body

theorem Program.Visits.trans {sight : Sight} {program other last : Program}
    {id inner final : BodyId} (first : program.Visits sight id other inner)
    (second : other.Visits sight inner last final) : program.Visits sight id last final := by
  induction second with
  | here => exact first
  | within _ member renders found inductionHypothesis =>
      exact inductionHypothesis.within member renders found
  | override _ member yields found inductionHypothesis =>
      exact inductionHypothesis.override member yields found

/-- A body that comes to no step in its frame that asks for the key of the select. -/
structure Program.Unasking (sight : Sight) (program : Program) (id : BodyId) : Prop where
  quotes : program.Quotes
  unasked : ∀ other inner, program.Visits sight id other inner →
    ∀ op ∈ other.body inner, op.asksSelect sight = false

/-- A step that comes to no step in its frame that asks for the key of the select. -/
structure Op.Unasking (sight : Sight) (program : Program) (op : Op) : Prop where
  quotes : program.Quotes
  quoted : ∀ id ∈ op.quoted, program.IsPlain id
  unasked : op.asksSelect sight = false
  within : ∀ name id, op.rendersInFrame sight name = true →
    Render.Bodies.find? ⟨program, op.entries⟩ name = some id → program.Unasking sight id
  override : ∀ name override, op.yieldsInFrame name = true → sight.block? name = some override →
    override.program.Quotes → override.program.Unasking sight override.body

namespace Program.Unasking

variable {sight : Sight} {program : Program} {id : BodyId}

theorem op (unasking : program.Unasking sight id) {op : Op} (member : op ∈ program.body id) :
    op.Unasking sight program where
  quotes := unasking.quotes
  quoted _ quoted := unasking.quotes.isPlain member quoted
  unasked := unasking.unasked program id .here op member
  within _ _ renders found := ⟨unasking.quotes, fun _ _ visits =>
    unasking.unasked _ _ ((Visits.here.within member renders found).trans visits)⟩
  override _ _ yields found quotes := ⟨quotes, fun _ _ visits =>
    unasking.unasked _ _ ((Visits.here.override member yields found).trans visits)⟩

/-- Bodies of which no step asks for the key, and that open only one another, come to no step that
does. -/
theorem ofClosed (quotes : program.Quotes) {ids : List BodyId}
    (unasked : ∀ inner ∈ ids, ∀ op ∈ program.body inner, op.asksSelect sight = false)
    (closed : ∀ inner ∈ ids, ∀ op ∈ program.body inner, ∀ name opened,
      op.rendersInFrame sight name = true →
        Render.Bodies.find? ⟨program, op.entries⟩ name = some opened → opened ∈ ids)
    (unyielding : ∀ inner ∈ ids, ∀ op ∈ program.body inner, ∀ name,
      op.yieldsInFrame name = false)
    (member : id ∈ ids) : program.Unasking sight id := by
  have inside : ∀ other inner, program.Visits sight id other inner →
      other = program ∧ inner ∈ ids := by
    intro other inner visits
    induction visits with
    | here => exact ⟨rfl, member⟩
    | within _ here renders found inductionHypothesis =>
        obtain ⟨rfl, known⟩ := inductionHypothesis
        exact ⟨rfl, closed _ known _ here _ _ renders found⟩
    | override _ here yields _ inductionHypothesis =>
        obtain ⟨rfl, known⟩ := inductionHypothesis
        rw [unyielding _ known _ here] at yields
        cases yields
  refine ⟨quotes, fun other inner visits op here => ?_⟩
  obtain ⟨rfl, known⟩ := inside other inner visits
  exact unasked inner known op here

/-- A body that only writes and refers asks for nothing. -/
theorem ofPlain (quotes : program.Quotes) (isPlain : program.IsPlain id) :
    program.Unasking sight id := by
  have each : ∀ inner ∈ [id], ∀ op ∈ program.body inner, op.isPlain = true :=
    List.forall_mem_singleton.mpr isPlain
  have alone : id ∈ [id] := List.mem_cons_self
  refine ofClosed quotes ?_ ?_ ?_ alone
  all_goals
    intro inner known op here
    have plainOp := each inner known op here
    cases op with
    | write text => simp [Op.asksSelect, Op.rendersInFrame, Op.yieldsInFrame]
    | reference identifier chain =>
        simp [Op.asksSelect, Op.rendersInFrame, Op.yieldsInFrame]
    | _ => cases plainOp

end Program.Unasking

end BraceTemplate
