import Mathlib.Data.List.ReduceOption
import BraceTemplate.Host.Function
import BraceTemplate.Proofs.Render.FirstMatch
import BraceTemplate.Proofs.Render.Following

/-!
# Functions of the host that stand for values

A reference and a section take what a function of the host returns for the value itself. So both
write the same whether a key holds a value or a function that stands for it, as long as the bodies
of the section, and what they bring in, do not mention the key. Sections that ask whether a value is
there call no function, and take it for a value that is not empty.
-/

namespace BraceTemplate

/-! ## Data that differ under a key -/

/-- The same value; or objects or arrays of which one holds something under a key, and that hold the
same under all others. -/
inductive Value.SameBut (key : String) : Value → Value → Prop
  | refl (value : Value) : SameBut key value value
  | object {members others : Members Value} (holds : ((object members).child? key).isSome = true)
      (elsewhere : ∀ sought, sought ≠ key →
        (object others).child? sought = (object members).child? sought) :
      SameBut key (object members) (object others)
  | array {items others : List Value} (holds : ((array items).child? key).isSome = true)
      (elsewhere : ∀ sought, sought ≠ key →
        (array others).child? sought = (array items).child? sought) :
      SameBut key (array items) (array others)

structure Frame.SameBut (key : String) (one other : Frame) : Prop where
  head : one.head.SameBut key other.head
  iteration : other.iteration = one.iteration
  select : other.select = one.select

/-- A context, and one whose data differ from it under a key alone. -/
structure Context.SameBut (key : String) (one other : Context) : Prop where
  frames : List.Forall₂ (Frame.SameBut key) one.frames other.frames
  globals : ∀ sought, sought ≠ key → other.globals.child? sought = one.globals.child? sought
  blockChain : other.blockChain = one.blockChain
  templateName : other.templateName = one.templateName
  partialDepth : other.partialDepth = one.partialDepth
  blockDepth : other.blockDepth = one.blockDepth
  level : other.level = one.level

/-- Whether a frame holds something under a key. -/
def Frame.holds (key : String) (frame : Frame) : Bool :=
  (frame.head.child? key).isSome

section Differing

variable {key sought : String}

theorem Value.SameBut.child? {one other : Value} (same : one.SameBut key other)
    (different : sought ≠ key) : other.child? sought = one.child? sought := by
  cases same with
  | refl => rfl
  | object _ elsewhere => exact elsewhere sought different
  | array _ elsewhere => exact elsewhere sought different

theorem Value.SameBut.eq_of_lacks {one other : Value} (same : one.SameBut key other)
    (lacks : (one.child? key).isSome = false) : other = one := by
  cases same with
  | refl => rfl
  | object holds _ => exact absurd holds (by rw [lacks]; exact Bool.false_ne_true)
  | array holds _ => exact absurd holds (by rw [lacks]; exact Bool.false_ne_true)

variable {one other : Frame}

theorem Frame.SameBut.member? (same : one.SameBut key other) (different : sought ≠ key) :
    Context.memberOfFrame? sought other = Context.memberOfFrame? sought one := by
  have child := same.head.child? different
  have head := same.head
  unfold Context.memberOfFrame?
  generalize one.head = first at *
  generalize other.head = second at *
  cases head with
  | refl => rfl
  | object => exact child
  | array => exact child

theorem Frame.SameBut.eq_of_lacks (same : one.SameBut key other)
    (lacks : one.holds key = false) : other = one := by
  obtain ⟨head, iteration, select⟩ := other
  obtain rfl := same.head.eq_of_lacks lacks
  obtain rfl := same.iteration
  obtain rfl := same.select
  rfl

theorem frames_eq_of_lack {frames others : List Frame}
    (same : List.Forall₂ (Frame.SameBut key) frames others)
    (lack : frames.any (Frame.holds key) = false) : others = frames := by
  induction same with
  | nil => rfl
  | cons first _ inductionHypothesis =>
      rw [List.any_cons, Bool.or_eq_false_iff] at lack
      rw [first.eq_of_lacks lack.1, inductionHypothesis lack.2]

theorem findSome?_frames {Found : Type} {frames others : List Frame} {find : Frame → Option Found}
    (same : List.Forall₂ (Frame.SameBut key) frames others)
    (each : ∀ frame another, frame.SameBut key another → find another = find frame) :
    others.findSome? find = frames.findSome? find := by
  induction same with
  | nil => rfl
  | cons first _ inductionHypothesis =>
      rw [List.findSome?_cons, List.findSome?_cons, each _ _ first, inductionHypothesis]

end Differing

/-! ## What mentions a key -/

namespace Context

def innermostHolds (key : String) (context : Context) : Bool :=
  context.frames.head?.any (Frame.holds key)

/-- Whether a path starts at a key, or takes the innermost frame as a whole where that holds
something under the key. -/
def pathMentions (key : String) (context : Context) (relative : Bool) : List String → Bool
  | [] => relative && context.innermostHolds key
  | first :: _ => first == key && (!relative || context.innermostHolds key)

def textMentions (key : String) (context : Context) (path : String) : Bool :=
  context.pathMentions key (pathParts path).1 (pathParts path).2

end Context

mutual

/-- Whether an identifier mentions a key, in brackets or as the start of its path. -/
def Identifier.mentions (key : String) (context : Context) : Identifier → Bool
  | .key name => name == key
  | .path relative segments =>
    PathSegment.mention key context segments ||
      ((context.resolveKeys? segments).map (context.pathMentions key relative)).getD false

def PathSegment.mention (key : String) (context : Context) : List PathSegment → Bool
  | [] => false
  | .key _ :: rest => PathSegment.mention key context rest
  | .index _ :: rest => PathSegment.mention key context rest
  | .lookup inner :: rest => inner.mentions key context || PathSegment.mention key context rest

end

/-- Whether a helper reads what a context holds under a key, other than by its parameters: a
comparison that looks operands up in the context, or a dump of frames that hold something there. An
operand that is only known once it is called may be anything. -/
def Helper.mentions (key : String) (given : Value.Params) (context : Context) : Helper → Bool
  | .builtin (.compare _) =>
    (given.find? "type").bind Value.text? == some "context" &&
      [(given.find? "key").or context.select?, given.find? "value"].reduceOption.any fun operand =>
        operand.isFunction || context.textMentions key operand.display
  | .builtin .contextDump =>
    context.innermostHolds key ||
      ((given.find? "key").any fun operand => operand.isFunction || operand.display == "full") &&
        context.frames.any (Frame.holds key)
  | .builtin _ => false
  | .host helper =>
    helper.actions.any HostAction.writesStack && context.frames.any (Frame.holds key)

/-- Whether a function of the host reads what a context holds under a key. -/
def HostFunction.mentions (key : String) (context : Context) (function : HostFunction Value) :
    Bool :=
  function.actions.any HostAction.writesStack && context.frames.any (Frame.holds key) ||
    match function.result with
    | .lookup path => context.textMentions key path
    | _ => false

/-- Whether a step mentions a key. -/
def Op.mentions (key : String) (helpers : Members Helper) (program : Program) (context : Context)
    (op : Op) : Bool :=
  op.identifiers.any (Identifier.mentions key context) ||
    match op with
    | .helper name rebased exprs _ =>
      (helpers.find? name).any
        (Helper.mentions key (Render.params program context exprs) (context.forBodies rebased))
    | _ => false

namespace Context.SameBut

variable {key : String} {one other : Context}

theorem refl (key : String) (context : Context) : context.SameBut key context :=
  ⟨List.forall₂_same.mpr fun frame _ => ⟨.refl frame.head, rfl, rfl⟩, fun _ _ => rfl, rfl, rfl, rfl,
    rfl, rfl⟩

/-- Data, and the same data with something else under a key. -/
theorem ofValue {members : Members Value} {first : Value} (found : members.find? key = some first)
    (second : Value) :
    (Context.ofValue (.object members)).SameBut key
      (Context.ofValue (.object (members.insert key second))) := by
  have holds : ((Value.object members).child? key).isSome = true := by
    rw [Value.child?, found, Option.isSome_some]
  have head : (Value.object members).SameBut key (.object (members.insert key second)) :=
    .object holds fun sought different =>
      Members.find?_insert_of_ne members second (Ne.symm different)
  exact ⟨.cons ⟨head, rfl, rfl⟩ .nil, fun _ _ => rfl, rfl, rfl, rfl, rfl, rfl⟩

theorem iteration? (same : one.SameBut key other) : other.iteration? = one.iteration? :=
  findSome?_frames same.frames fun _ _ frames => frames.iteration

theorem head?_eq_of_lacks (same : one.SameBut key other) (lacks : one.innermostHolds key = false) :
    other.frames.head? = one.frames.head? := by
  unfold innermostHolds at lacks
  have frames := same.frames
  generalize one.frames = firsts at *
  generalize other.frames = seconds at *
  cases frames with
  | nil => rfl
  | cons first _ => exact congrArg some (first.eq_of_lacks lacks)

theorem current?_eq_of_lacks (same : one.SameBut key other)
    (lacks : one.innermostHolds key = false) : other.current? = one.current? := by
  rw [current?, current?, same.head?_eq_of_lacks lacks]

theorem stackJson_eq_of_lack (same : one.SameBut key other)
    (lack : one.frames.any (Frame.holds key) = false) : other.stackJson = one.stackJson := by
  rw [stackJson, stackJson, frames_eq_of_lack same.frames lack]

theorem select? (same : one.SameBut key other) : other.select? = one.select? := by
  unfold Context.select?
  have frames := same.frames
  generalize one.frames = firsts at *
  generalize other.frames = seconds at *
  cases frames with
  | nil => rfl
  | cons first _ => exact first.select

theorem lookup? (same : one.SameBut key other) {sought : String} (different : sought ≠ key) :
    other.lookup? sought = one.lookup? sought := by
  unfold Context.lookup? index? length?
  rw [same.iteration?, same.globals sought different,
    findSome?_frames same.frames fun _ _ frames => frames.member? different]

/-- The member of the innermost frame under another key. -/
theorem current?_child? (same : one.SameBut key other) {sought : String}
    (different : sought ≠ key) :
    (other.current?.bind fun head => head.child? sought) =
      one.current?.bind fun head => head.child? sought := by
  unfold current?
  have frames := same.frames
  generalize one.frames = firsts at *
  generalize other.frames = seconds at *
  cases frames with
  | nil => rfl
  | cons first _ => exact first.head.child? different

theorem getPath? (same : one.SameBut key other) {relative : Bool} {keys : List String}
    (silent : one.pathMentions key relative keys = false) :
    other.getPath? relative keys = one.getPath? relative keys := by
  cases keys with
  | nil =>
      cases relative with
      | false => rfl
      | true => exact same.current?_eq_of_lacks silent
  | cons first rest =>
      unfold Context.getPath?
      refine congrArg (descend? · rest) ?_
      by_cases isKey : first = key
      · cases relative with
        | false => simp [pathMentions, isKey] at silent
        | true =>
            have lacks : one.innermostHolds key = false := by
              simpa [pathMentions, isKey] using silent
            rw [if_pos rfl, if_pos rfl, same.current?_eq_of_lacks lacks]
      · cases relative with
        | false => exact same.lookup? isKey
        | true => exact same.current?_child? isKey

theorem get? (same : one.SameBut key other) {path : String}
    (silent : one.textMentions key path = false) : other.get? path = one.get? path := by
  rw [get?_eq, get?_eq]
  exact same.getPath? silent

mutual

theorem resolve? (same : one.SameBut key other) :
    ∀ identifier : Identifier, identifier.mentions key one = false →
      other.resolve? identifier = one.resolve? identifier
  | .key name, silent => by
    have different : name ≠ key := by simpa [Identifier.mentions] using silent
    have elsewhere : one.pathMentions key false [name] = false := by
      simp [pathMentions, different]
    simp only [Context.resolve?]
    exact same.getPath? elsewhere
  | .path relative segments, silent => by
    simp only [Identifier.mentions, Bool.or_eq_false_iff] at silent
    simp only [Context.resolve?, same.resolveKeys? segments silent.1]
    cases keys : one.resolveKeys? segments with
    | none => rfl
    | some found =>
        have elsewhere := silent.2
        rw [keys] at elsewhere
        exact same.getPath? elsewhere

theorem resolveKeys? (same : one.SameBut key other) :
    ∀ segments : List PathSegment, PathSegment.mention key one segments = false →
      other.resolveKeys? segments = one.resolveKeys? segments
  | [], _ => rfl
  | .key name :: rest, silent => by
    simp only [PathSegment.mention] at silent
    simp only [Context.resolveKeys?, same.resolveKeys? rest silent]
  | .index digits :: rest, silent => by
    simp only [PathSegment.mention] at silent
    simp only [Context.resolveKeys?, same.resolveKeys? rest silent]
  | .lookup inner :: rest, silent => by
    simp only [PathSegment.mention, Bool.or_eq_false_iff] at silent
    simp only [Context.resolveKeys?, same.resolve? inner silent.1,
      same.resolveKeys? rest silent.2]

end

theorem pushFrame (same : one.SameBut key other) (frame : Frame) :
    (one.pushFrame frame).SameBut key (other.pushFrame frame) :=
  { same with
    frames := .cons ⟨.refl frame.head, rfl, rfl⟩ same.frames
    level := congrArg (· + 1) same.level }

theorem rebase (same : one.SameBut key other) (head : Value) :
    (one.rebase head).SameBut key (other.rebase head) :=
  { same with
    frames := .cons ⟨.refl head, rfl, rfl⟩ .nil
    level := congrArg (· + 1) same.level }

theorem forBodies (same : one.SameBut key other) {rebased : Option Identifier}
    (silent : ∀ identifier ∈ rebased, identifier.mentions key one = false) :
    (one.forBodies rebased).SameBut key (other.forBodies rebased) := by
  cases rebased with
  | none => exact same
  | some identifier =>
      simp only [Context.forBodies, same.resolve? identifier (silent identifier rfl)]
      exact same.rebase _

theorem forPartial (same : one.SameBut key other) (given : Value.Params) :
    (one.forPartial given).SameBut key (other.forPartial given) := by
  have frames : List.Forall₂ (Frame.SameBut key)
      (one.frames.head?.toList.map fun frame => ⟨frame.head, frame.iteration, none⟩)
      (other.frames.head?.toList.map fun frame => ⟨frame.head, frame.iteration, none⟩) := by
    have frames := same.frames
    generalize one.frames = firsts at *
    generalize other.frames = seconds at *
    cases frames with
    | nil => exact .nil
    | cons first _ => exact .cons ⟨first.head, first.iteration, rfl⟩ .nil
  have base : (one.forPartial []).SameBut key (other.forPartial []) :=
    { same with
      frames := frames
      partialDepth := congrArg nextWord same.partialDepth
      level := congrArg (· + 1) same.level }
  rw [forPartial_eq one, forPartial_eq other]
  split
  · exact base
  · exact base.pushFrame _

end Context.SameBut

/-! ## Rendering without mentioning a key -/

/-- Only operands that are looked up in the context depend on it. -/
theorem Operand.coerce_eq {value : Value} {type : Option String} {one other : Context}
    (looked : type = some "context" → other.get? value.display = one.get? value.display) :
    coerce value type other = coerce value type one := by
  unfold coerce
  split
  · rfl
  · split
    · rfl
    · rfl
    · rfl
    · rw [looked rfl]
    · rfl

/-- An operand of a comparison that does not mention a key is the same where data differ under it.
-/
theorem coerce_of_sameBut {key : String} {one other : Context} (same : one.SameBut key other)
    {given : Value.Params} {comparison : Comparison} {value : Value}
    (silent : Helper.mentions key given one (.builtin (.compare comparison)) = false)
    (source : given.MayYield "key" value ∨ given.MayYield "value" value ∨
      (given.find? "key" = none ∧ one.select? = some value)) :
    Operand.coerce value ((given.find? "type").bind Value.text?) other =
      Operand.coerce value ((given.find? "type").bind Value.text?) one := by
  refine Operand.coerce_eq fun ofContext => ?_
  have looks : [(given.find? "key").or one.select?, given.find? "value"].reduceOption.any
      (fun operand => operand.isFunction || one.textMentions key operand.display) = false := by
    simpa [Helper.mentions, ofContext] using silent
  rw [List.any_eq_false] at looks
  have sameAt : ∀ operand,
      operand ∈ [(given.find? "key").or one.select?, given.find? "value"].reduceOption →
        (operand.isFunction = false → value = operand) →
          other.get? value.display = one.get? value.display := by
    intro operand member plain
    have silentAt := looks operand member
    simp only [Bool.or_eq_true, not_or, Bool.not_eq_true] at silentAt
    rw [plain silentAt.1]
    exact same.get? silentAt.2
  rcases source with ⟨operand, there, plain⟩ | ⟨operand, there, plain⟩ | ⟨none, selected⟩
  · exact sameAt operand (List.reduceOption_mem_iff.mpr (by simp [there])) plain
  · exact sameAt operand (List.reduceOption_mem_iff.mpr (by simp [there])) plain
  · have member : some value ∈ [(given.find? "key").or one.select?, given.find? "value"] := by
      simp [none, selected]
    exact sameAt value (List.reduceOption_mem_iff.mpr member) fun _ => rfl

/-- A helper that does not mention a key reads the same where data differ under it. -/
theorem Helper.readsAlike_of_sameBut {key : String} {one other : Context}
    (same : one.SameBut key other) {given : Value.Params} {helper : Helper}
    (silent : helper.mentions key given one = false) :
    helper.ReadsAlike False given one other := by
  cases helper with
  | host helper =>
      intro writes
      simp only [Helper.mentions, Bool.and_eq_false_iff] at silent
      refine same.stackJson_eq_of_lack (silent.resolve_left ?_)
      rw [HostAction.any_writesStack writes]
      exact Bool.noConfusion
  | builtin helper =>
      cases helper with
      | contextDump =>
          simp only [Helper.mentions, Bool.or_eq_false_iff, Bool.and_eq_false_iff] at silent
          obtain ⟨lacks, dumps⟩ := silent
          refine ⟨by rw [same.current?_eq_of_lacks lacks], ?_⟩
          rintro value ⟨operand, found, plain⟩ full
          refine same.stackJson_eq_of_lack (dumps.resolve_left fun none => ?_)
          rw [found, Option.any_some, Bool.or_eq_false_iff] at none
          rw [plain none.1] at full
          simp [full] at none
      | compare comparison =>
          exact ⟨id, same.select?, fun value source => coerce_of_sameBut same silent source⟩
      | _ => trivial

namespace Render

open Output

def withoutKey (key : String) (helpers : Members Helper) : Guard where
  op program context op := !op.mentions key helpers program context
  host function context := !function.mentions key context

section Permitting

variable {key : String} {helpers : Members Helper} {program : Program} {one other : Context}

theorem identifiers_of_permitted {op : Op}
    (permitted : (withoutKey key helpers).op program one op = true) :
    ∀ identifier ∈ op.identifiers, identifier.mentions key one = false := by
  simp only [withoutKey, Op.mentions, Bool.not_eq_true', Bool.or_eq_false_iff] at permitted
  intro identifier member
  have silent := List.any_eq_false.mp permitted.1 identifier member
  simpa using silent

theorem forPartial_of_permitted {name : Name} {rebased : Option Identifier} {exprs : ParamExprs}
    (permitted : (withoutKey key helpers).op program one (.inclusion name rebased exprs) = true)
    (same : one.SameBut key other) (given : Value.Params) :
    ((one.forBodies rebased).forPartial given).SameBut key
      ((other.forBodies rebased).forPartial given) := by
  refine (same.forBodies fun identifier member => ?_).forPartial given
  exact identifiers_of_permitted permitted identifier
    (List.mem_append_left _ (Option.mem_toList.mpr member))

theorem readsAlike_of_permitted {name : String} {rebased : Option Identifier} {exprs : ParamExprs}
    {entries : NamedBodies} {helper : Helper}
    (permitted :
      (withoutKey key helpers).op program one (.helper name rebased exprs entries) = true)
    (found : helpers.find? name = some helper) (same : one.SameBut key other) :
    helper.ReadsAlike False (params program one exprs) (one.forBodies rebased)
      (other.forBodies rebased) := by
  have silent := identifiers_of_permitted permitted
  have inner := same.forBodies fun identifier member => silent identifier
    (List.mem_append_left _ (Option.mem_toList.mpr member))
  refine Helper.readsAlike_of_sameBut inner ?_
  simp only [withoutKey, Op.mentions, Bool.not_eq_true', Bool.or_eq_false_iff, found,
    Option.any_some] at permitted
  exact permitted.2

theorem host_of_permitted {function : HostFunction Value}
    (permitted : (withoutKey key helpers).host function one = true) (same : one.SameBut key other) :
    (HostAction.writeStack ∈ function.actions → other.stackJson = one.stackJson) ∧
      ∀ path, function.result = .lookup path → other.get? path = one.get? path := by
  simp only [withoutKey, HostFunction.mentions, Bool.not_eq_true', Bool.or_eq_false_iff,
    Bool.and_eq_false_iff] at permitted
  refine ⟨fun writes => ?_, fun path looks => ?_⟩
  · refine same.stackJson_eq_of_lack (permitted.1.resolve_left ?_)
    rw [HostAction.any_writesStack writes]
    exact Bool.noConfusion
  · rw [looks] at permitted
    exact same.get? permitted.2

end Permitting

/-- Contexts are alike whose data differ under a key alone. -/
def apartFrom (key : String) (helpers : Members Helper) : Likeness where
  loose := False
  helpers := helpers
  guard := withoutKey key helpers
  like one other := one.SameBut key other
  outline same :=
    ⟨same.blockChain, same.templateName, same.partialDepth, same.blockDepth, same.iteration?⟩
  level same _ := same.level
  pushFrame same frames := frames.eq id ▸ same.pushFrame _
  rebase same heads := heads.eq id ▸ same.rebase _
  named _ same := { same with templateName := rfl }
  withBlocks program same :=
    { same with blockChain := congrArg (Context.enterBlocks · program) same.blockChain }
  forBlock same := { same with blockDepth := congrArg nextWord same.blockDepth }
  identifiers permitted same identifier member :=
    same.resolve? identifier (identifiers_of_permitted permitted identifier member) ▸
      Value.foundAlike_refl _
  forPartial permitted same alike := alike.eq id ▸ forPartial_of_permitted permitted same _
  helper permitted found same := readsAlike_of_permitted permitted found same
  host permitted same := host_of_permitted permitted same

/-! ## Functions that stand for values -/

/-- Called with a context, a function changes nothing and returns a value. -/
def StandsFor (calls : Calls) (called : Function Value) (context : Context) (value : Value) :
    Prop :=
  ∀ writer bodies given store,
    calls.call called writer context bodies given store = some (.ok (.value value), store)

theorem standsFor_returning (depth identity : Nat) (context : Context) (value : Value) :
    StandsFor (callsWithin (depth + 1)) (.host identity (.returning value)) context value :=
  fun _ _ _ _ => rfl

section Unwrapping

variable {calls : Calls} {program : Program} {context : Context} {writer : Writer}
variable {identifier : Identifier} {value : Value} {store : Store Continuation Observer State}
variable {identity : Nat} {function : HostFunction Value}

/-- A reference to a value writes it. -/
theorem runOp_reference_value (found : context.resolve? identifier = some value)
    (plain : value.isFunction = false) (chain : FilterChain) :
    runOp calls program context writer (.reference identifier chain) =
      (writeValue chain writer value >>= fun next => pure (.ok next)) := by
  simp only [runOp, renderReference, found]
  cases value with
  | function called => cases plain
  | _ => rfl

/-- A reference to a function writes the value that it stands for. -/
theorem runOp_reference_standing
    (found : context.resolve? identifier = some (.function (.host identity function)))
    (stands : StandsFor calls (.host identity function) context value) (chain : FilterChain) :
    runOp calls program context writer (.reference identifier chain) =
      (writeValue chain writer value >>= fun next => pure (.ok next)) := by
  funext store
  simp only [runOp, renderReference, found]
  rw [run_bind, run_bind, run_bind, stands]
  rfl

section Bodies

variable (rebased : Option Identifier) (exprs : ParamExprs) (entries : NamedBodies)

/-- The bodies of a section on a value are rendered for it. -/
theorem runOp_each_value (found : context.resolve? identifier = some value)
    (plain : value.isFunction = false) :
    runOp calls program context writer (.condition .each identifier rebased exprs entries) =
      renderEach calls writer
        (if (params program context exprs).isEmpty then context.forBodies rebased
          else (context.forBodies rebased).push (.object (params program context exprs)))
        (some value) ⟨program, entries⟩ := by
  simp only [runOp, renderSection, found]
  cases value with
  | function called => cases plain
  | _ => rfl

/-- The bodies of a section on a function are rendered for the value that it stands for. -/
theorem runOp_each_standing
    (found : context.resolve? identifier = some (.function (.host identity function)))
    (stands : StandsFor calls (.host identity function) (context.forBodies rebased) value) :
    runOp calls program context writer (.condition .each identifier rebased exprs entries) =
      renderEach calls writer
        (if (params program context exprs).isEmpty then context.forBodies rebased
          else (context.forBodies rebased).push (.object (params program context exprs)))
        (some value) ⟨program, entries⟩ := by
  funext store
  simp only [runOp, renderSection, found]
  rw [run_bind, stands]
  rfl

/-- The other sections ask whether a value is there; one that is not empty is, and so is a function.
-/
theorem runOp_presence {kind : Condition} (asks : kind ≠ .each)
    (found : context.resolve? identifier = some value) (filled : value.isEmpty = false) :
    runOp calls program context writer (.condition kind identifier rebased exprs entries) =
      renderPresence calls writer (context.forBodies rebased) (kind = .present)
        ⟨program, entries⟩ := by
  have there : isPresent (some value) = true := by rw [isPresent, filled, Bool.not_false]
  simp only [runOp, found, there]
  cases kind with
  | each => exact absurd rfl asks
  | present => rfl
  | absent => rfl

end Bodies

/-- Whether a key holds a value or a function of the host that stands for it, a reference to the key
does the same with any filters, and a section on it does so with any bodies: what is yielded on the
value without mentioning the key is yielded on the function, and leads to the same output. A section
that asks whether a value is there does so where the value is not empty. The parameters and the own
context of the tag do not mention the key either. -/
theorem returned_denotes_itself {key : String} {held called : Context}
    (same : held.SameBut key called) (holds : held.resolve? (.key key) = some value)
    (plain : value.isFunction = false)
    (calls : called.resolve? (.key key) = some (.function (.host identity function)))
    (depth : Nat) (program : Program) (writer : Writer)
    (store : Store Continuation Observer State) :
    (∀ chain, StandsFor (callsWithin depth) (.host identity function) called value →
      runOp (callsWithin depth) program called writer (.reference (.key key) chain) store =
        runOp (callsWithin depth) program held writer (.reference (.key key) chain) store) ∧
      ∀ kind rebased exprs entries result later,
        let tag : Op := .condition kind (.key key) rebased exprs entries
        let apart := apartFrom key store.client.engine.helpers
        (kind = .each → StandsFor (callsWithin depth) (.host identity function)
          (called.forBodies rebased) value) →
        (kind ≠ .each → value.isEmpty = false) →
        (∀ identifier ∈ rebased.toList ++ exprs.identifiers,
          identifier.mentions key held = false) →
        runOp (callsGuarded apart.guard depth) program held writer tag store =
            some (result, later) →
          runOp (callsWithin depth) program held writer tag store = some (result, later) ∧
            ∃ after,
              runOp (callsWithin depth) program called writer tag store = some (result, after) ∧
                apart.Mirrors later after := by
  refine ⟨fun chain stands => ?_, ?_⟩
  · rw [runOp_reference_standing calls stands, runOp_reference_value holds plain]
  intro kind rebased exprs entries result later tag apart stands filled silent ran
  have inner : apart.like (held.forBodies rebased) (called.forBodies rebased) :=
    same.forBodies fun identifier member => silent identifier
      (List.mem_append_left _ (Option.mem_toList.mpr member))
  have given : (params program held exprs).Alike apart.loose (params program called exprs) := by
    have sameContexts : apart.like held called := same
    refine Likeness.params_alike sameContexts program fun identifier member => ?_
    rw [same.resolve? identifier (silent identifier (List.mem_append_right _ member))]
    exact Value.foundAlike_refl _
  have follow := callsGuarded_follow apart (Nat.le_refl depth)
  have follows : apart.Follows (runOp (callsGuarded apart.guard depth) program held writer tag)
      (runOp (callsWithin depth) program called writer tag) := by
    by_cases each : kind = .each
    · subst each
      rw [runOp_each_value rebased exprs entries holds plain,
        runOp_each_standing rebased exprs entries calls (stands rfl)]
      exact follow.renderEach (Likeness.withParams_like inner given) (Value.foundAlike_refl _)
    · rw [runOp_presence rebased exprs entries each holds (filled each),
        runOp_presence rebased exprs entries each calls rfl]
      exact follow.renderPresence inner _
  have unguarded : (Likeness.equality store.client.engine.helpers apart.guard).Follows
      (runOp (callsGuarded apart.guard depth) program held writer tag)
      (runOp (callsWithin depth) program held writer tag) :=
    (callsGuarded_follow (.equality _ apart.guard) (Nat.le_refl depth)).runCondition kind entries
      (Value.foundAlike_refl _) rfl (Value.Params.alike_refl _)
  have mirrors : apart.Mirrors store store := .refl (Context.SameBut.refl key) store rfl
  exact ⟨unguarded.unguarded ran, follows store store result later mirrors ran⟩

end Unwrapping

/-- A program whose body 0 writes the value under "n". -/
def showing : Program :=
  ⟨none, 1, [[.reference (.key "n") ⟨[], none⟩],
    [.condition .each (.key "k") none [("p", .literal (.string "q"))] [(mainBody, 0)]]], []⟩

/-- A section on a text, and on a function that returns it, shows another member. -/
theorem returned_denotes_itself_text :
    let members : Value.Params := [("k", .string "v"), ("n", .string "x")]
    let returning : Value := .function (.host 0 (.returning (.string "v")))
    let held := Context.ofValue (.object members)
    let called := Context.ofValue (.object (members.insert "k" returning))
    let tag : Op := .condition .each (.key "k") none [("p", .literal (.string "q"))] [(mainBody, 0)]
    (runOp (callsWithin 3) showing called (.onOutlet 0) (.reference (.key "k") ⟨["h"], none⟩)
        selecting =
      runOp (callsWithin 3) showing held (.onOutlet 0) (.reference (.key "k") ⟨["h"], none⟩)
        selecting) ∧
    ∃ result later after,
      runOp (callsWithin 3) showing held (.onOutlet 0) tag selecting = some (result, later) ∧
        runOp (callsWithin 3) showing called (.onOutlet 0) tag selecting = some (result, after) ∧
          (apartFrom "k" Helper.standard).Mirrors later after := by
  intro members returning held called tag
  have same : held.SameBut "k" called := .ofValue rfl returning
  have stands : StandsFor (callsWithin 3) (.host 0 (.returning (.string "v"))) called
      (.string "v") :=
    standsFor_returning 2 0 called (.string "v")
  obtain ⟨refers, tags⟩ :=
    returned_denotes_itself same rfl rfl rfl 3 showing (.onOutlet 0) selecting
  have yields : (runOp (callsGuarded (withoutKey "k" Helper.standard) 3) showing held (.onOutlet 0)
      tag selecting).isSome = true := by
    decide +kernel
  obtain ⟨⟨result, later⟩, ran⟩ := Option.isSome_iff_exists.mp yields
  have silent : ∀ identifier ∈ Option.toList none ++ ParamExprs.identifiers
      [("p", .literal (.string "q"))], identifier.mentions "k" held = false := by
    decide
  obtain ⟨onValue, after, onFunction, mirrors⟩ := tags .each none [("p", .literal (.string "q"))]
    [(mainBody, 0)] result later (fun _ => stands) (fun asks => absurd rfl asks) silent ran
  exact ⟨refers _ stands, result, later, after, onValue, onFunction, mirrors⟩

/-- A section that asks whether a value is there takes a function for one that is, whatever the
function returns. -/
theorem returned_denotes_nothing_null :
    let source := "\x7b?k\x7da\x7b:else\x7db\x7b/k\x7d"
    textAmong? [("main", source)] (.object [("k", .null)]) = some "b" ∧
      textAmong? [("main", source)]
        (.object [("k", .function (.host 0 (.returning .null)))]) = some "a" := by
  decide +kernel

end Render

end BraceTemplate
