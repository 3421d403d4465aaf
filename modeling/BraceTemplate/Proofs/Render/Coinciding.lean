import BraceTemplate.Proofs.Render.SelectKeys

/-!
# Rendering that coincides whatever the key of the select

Rendering with two contexts that differ in the keys of their selects coincides where no step that it
comes to in the frame of the select asks for the key, once a branch of the select has matched, and
where the innermost frames are of selects on the same key, or of none. A comparison with a key of
its own notes that it matches before it renders its block, so what stands in the block may ask.
-/

namespace BraceTemplate.Render

open Output

/-! ## Actions that coincide -/

/-- The state of a render with the helpers of its engine, in which, if told so, a branch of the
innermost select has matched. -/
structure StandsBy (helpers : Members Helper) (matched : Bool) (state : State) : Prop where
  helpers : state.engine.helpers = helpers
  settled : matched = true → state.settled = true

/-- Actions that do the same from such states, and lead to such states again. -/
structure Coincides {Result : Type} (helpers : Members Helper) (matched : Bool)
    (action other : Action Result) : Prop where
  same : SameFrom (StandsBy helpers matched) action other
  keeps : KeepsClient (StandsBy helpers matched) action

/-- What rendering with two contexts coincides by: a branch has matched, the innermost frames are of
selects on the same key, or nothing asks for that key. -/
inductive Agrees (matched : Bool) (one other : Context) (unasked : Prop) : Prop
  | settled (isSettled : matched = true)
  | alike (alike : other.select? = one.select?)
  | unasked (isUnasked : unasked)

theorem Agrees.imp {matched : Bool} {one other : Context} {unasked also : Prop}
    (agrees : Agrees matched one other unasked) (implies : unasked → also) :
    Agrees matched one other also := by
  cases agrees with
  | settled isSettled => exact .settled isSettled
  | alike alike => exact .alike alike
  | unasked isUnasked => exact .unasked (implies isUnasked)

section Actions

variable {Result : Type} {helpers : Members Helper} {matched : Bool}
variable {action other : Action Result}

/-- What leaves whether a branch has matched as it is, be it so or not. -/
theorem keeps_ofEach (each : ∀ settled, KeepsClient (Stands helpers settled) action) :
    KeepsClient (StandsBy helpers matched) action := by
  intro store result later stands ran
  have kept := each store.client.settled store result later ⟨stands.helpers, rfl⟩ ran
  exact ⟨kept.helpers, fun isMatched => kept.settled.trans (stands.settled isMatched)⟩

theorem keeps_ofSettled (keeps : KeepsClient (Stands helpers true) action) :
    KeepsClient (StandsBy helpers true) action := by
  intro store result later stands ran
  have kept := keeps store result later ⟨stands.helpers, stands.settled rfl⟩ ran
  exact ⟨kept.helpers, fun _ => kept.settled⟩

namespace Coincides

theorem ofKeeps (keeps : KeepsClient (StandsBy helpers matched) action) :
    Coincides helpers matched action action :=
  ⟨.refl _, keeps⟩

theorem outOfSteps :
    Coincides helpers matched (Output.outOfSteps : Action Result) Output.outOfSteps :=
  ofKeeps .outOfSteps

/-- A select of its own starts with no match. -/
theorem withFreshSelect (inside : Coincides helpers false action other) :
    Coincides helpers matched (Render.withFreshSelect action) (Render.withFreshSelect other) := by
  have unmatched : ∀ state : State, state.engine.helpers = helpers →
      StandsBy helpers false state := fun state known => ⟨known, fun never => by cases never⟩
  constructor
  · intro store stands
    have same := inside.same { store with client := ⟨store.client.engine, false⟩ }
      (unmatched _ stands.helpers)
    exact congrArg (Option.bind · fun found => some (found.1, { found.2 with
      client := { found.2.client with settled := store.client.settled } })) same
  · refine keeps_ofEach fun settled => leaves_withFreshSelect ?_
    intro store result later known ran
    exact (inside.keeps store result later (unmatched _ known) ran).helpers

/-- A branch that matches notes this first. -/
theorem noteMatch (inside : Coincides helpers true action other) :
    Coincides helpers matched (setSettled true >>= fun _ => action)
      (setSettled true >>= fun _ => other) := by
  have noted : ∀ state, StandsBy helpers matched state →
      StandsBy helpers true { state with settled := true } :=
    fun _ stands => ⟨stands.helpers, fun _ => rfl⟩
  constructor
  · intro store stands
    exact inside.same { store with client := { store.client with settled := true } }
      (noted _ stands)
  · intro store result later stands ran
    have kept := inside.keeps { store with client := { store.client with settled := true } } result
      later (noted _ stands) ran
    exact ⟨kept.helpers, fun _ => kept.settled rfl⟩

end Coincides

end Actions

def Sense.coinciding (helpers : Members Helper) (matched : Bool) : Sense where
  Runs good first second := Coincides helpers matched first second ∧
    ∀ store result later, StandsBy helpers matched store.client →
      first store = some (result, later) → good result
  fine _ := True
  permits _ := True
  fails := True
  returns _ := True
  knows engine := engine.helpers = helpers
  pure := by
    rintro Result good result holds
    refine ⟨.ofKeeps (.pure result), fun store _ _ _ ran => ?_⟩
    cases ran
    exact holds
  bind := by
    rintro Result Next good goodNext first second next also ⟨⟨same, keeps⟩, yields⟩ ofNext
    refine ⟨⟨fun store stands => ?_, fun store result later stands ran => ?_⟩,
      fun store result later stands ran => ?_⟩
    · rw [run_bind, run_bind, ← same store stands]
      cases ran : first store with
      | none => rfl
      | some found =>
          exact (ofNext _ (yields store _ _ stands ran) ⟨store, _, ran⟩).1.same _
            (keeps store _ _ stands ran)
    · obtain ⟨found, middle, ranFirst, ranNext⟩ := bind_eq_some.mp ran
      exact (ofNext _ (yields store _ _ stands ranFirst) ⟨store, _, ranFirst⟩).1.keeps middle
        result later (keeps store _ _ stands ranFirst) ranNext
    · obtain ⟨found, middle, ranFirst, ranNext⟩ := bind_eq_some.mp ran
      exact (ofNext _ (yields store _ _ stands ranFirst) ⟨store, _, ranFirst⟩).2 middle
        result later (keeps store _ _ stands ranFirst) ranNext
  ofEngine each := by
    have here := fun (store : Store Continuation Observer State) known =>
      each store.client.engine store.client.engine.requests known
    exact ⟨⟨fun store stands => (here store stands.helpers).1.same store stands,
        fun store result later stands ran =>
          (here store stands.helpers).1.keeps store result later stands ran⟩,
      fun store result later stands ran =>
        (here store stands.helpers).2 store result later stands ran⟩
  write text _ := ⟨.ofKeeps (KeepsClient.write text), fun _ _ _ _ _ => trivial⟩
  ofText _ := trivial
  ofNothing := trivial
  failed _ _ := trivial
  recursiveBlock _ _ := trivial

section Sense

variable {Result : Type} {helpers : Members Helper} {matched : Bool}
variable {action other : Action Result}

theorem isFree_coinciding : (Sense.coinciding helpers matched).IsFree :=
  ⟨fun _ => trivial, trivial, fun _ => trivial⟩

theorem Coincides.runs (coincides : Coincides helpers matched action other) :
    (Sense.coinciding helpers matched).Runs (fun _ => True) action other :=
  ⟨coincides, fun _ _ _ _ _ => trivial⟩

theorem runs_ofKeeps (keeps : KeepsClient (StandsBy helpers matched) action) :
    (Sense.coinciding helpers matched).Runs (fun _ => True) action action :=
  (Coincides.ofKeeps keeps).runs

end Sense

/-! ## Rendering with two contexts -/

/-- What becomes of a tag whose bodies and parameters do not ask for the key of the select. -/
structure TagUnasking (helpers : Members Helper) (context : Context) (bodies : Bodies)
    (params : Value.Params) : Prop where
  isQuoted : IsQuoted context
  ofParams : params.Holds Function.IsQuoted
  ofBodies : ∀ name id, bodies.find? name = some id →
    bodies.program.Unasking (context.sight helpers) id

abbrev BodyAgrees (helpers : Members Helper) (matched : Bool) (one other : Context)
    (program : Program) (id : BodyId) : Prop :=
  Agrees matched one other (IsQuoted one ∧ program.Unasking (one.sight helpers) id)

abbrev ParamsAgree (matched : Bool) (one other : Context) (params : Value.Params) : Prop :=
  Agrees matched one other (IsQuoted one ∧ params.Holds Function.IsQuoted)

abbrev TagAgrees (helpers : Members Helper) (matched : Bool) (one other : Context)
    (bodies : Bodies) (params : Value.Params) : Prop :=
  Agrees matched one other (TagUnasking helpers one bodies params)

/-- Rendering that coincides with contexts that differ in the keys of their selects. -/
structure Calls.Coincide (calls : Calls) (helpers : Members Helper) : Prop where
  leave : ∀ settled, calls.Leave helpers settled
  renderBody : ∀ {matched one other}, one.SameButKeys other → ∀ program body writer,
    BodyAgrees helpers matched one other program body →
      Coincides helpers matched (calls.renderBody program body writer one)
        (calls.renderBody program body writer other)
  call : ∀ {matched one other}, one.SameButKeys other → ∀ called writer bodies params,
    Agrees matched one other (called.IsQuoted ∧ TagUnasking helpers one bodies params) →
      Coincides helpers matched (calls.call called writer one bodies params)
        (calls.call called writer other bodies params)

section Contexts

variable {helpers : Members Helper} {matched : Bool} {one other : Context} {bodies : Bodies}
variable {params : Value.Params} {unasked : Prop}

theorem TagUnasking.unbodied (isQuoted : IsQuoted one) :
    TagUnasking helpers one Bodies.none [] :=
  ⟨isQuoted, fun _ member => absurd member List.not_mem_nil, fun _ _ none => by cases none⟩

theorem Agrees.body (agrees : TagAgrees helpers matched one other bodies params) {name : String}
    {id : BodyId} (found : bodies.find? name = some id) :
    BodyAgrees helpers matched one other bodies.program id :=
  agrees.imp fun unasking => ⟨unasking.isQuoted, unasking.ofBodies name id found⟩

theorem Agrees.ofParams (agrees : TagAgrees helpers matched one other bodies params) :
    ParamsAgree matched one other params :=
  agrees.imp fun unasking => ⟨unasking.isQuoted, unasking.ofParams⟩

theorem Agrees.value (agrees : ParamsAgree matched one other params) {key : String} {value : Value}
    (found : params.find? key = some value) :
    Agrees matched one other
      (IsQuoted one ∧ ∀ called, value = .function called → called.IsQuoted) := by
  refine agrees.imp fun ⟨isQuoted, ofParams⟩ => ⟨isQuoted, fun called isCalled => ?_⟩
  subst isCalled
  cases ofParams.find? found with
  | function isAllowed => exact isAllowed

/-- A tag with a context of its own does not see the select. -/
theorem Agrees.forBodies (same : one.SameButKeys other)
    (agrees : Agrees matched one other unasked) (rebased : Option Identifier) :
    Agrees matched (one.forBodies rebased) (other.forBodies rebased)
      (rebased = none ∧ unasked) := by
  cases rebased with
  | none => exact agrees.imp fun isUnasked => ⟨rfl, isUnasked⟩
  | some identifier => exact .alike (congrArg Context.select? (same.forBodies_some identifier))

theorem Agrees.forBlock (agrees : Agrees matched one other unasked) :
    Agrees matched one.forBlock other.forBlock unasked := by
  cases agrees with
  | settled isSettled => exact .settled isSettled
  | alike alike => exact .alike alike
  | unasked isUnasked => exact .unasked isUnasked

theorem sight_forBlock (context : Context) : context.forBlock.sight helpers =
    context.sight helpers := by
  have resolved : context.forBlock.resolve? = context.resolve? :=
    funext (Context.resolve?_congr fun _ _ => rfl)
  unfold Context.sight
  rw [resolved]
  rfl

/-- The parameters of a tag hold those that refer to something. -/
theorem exists_find?_params {program : Program} {exprs : ParamExprs} {key : String}
    (gives : exprs.gives one.resolve? key = true) :
    ∃ value, (Render.params program one exprs).find? key = some value := by
  obtain ⟨⟨other, expr⟩, inside, isGiven⟩ := List.any_eq_true.mp gives
  obtain ⟨sameKey, stands⟩ := Bool.and_eq_true_iff.mp isGiven
  obtain rfl : other = key := eq_of_beq sameKey
  obtain ⟨value, evaluated⟩ : ∃ value, paramValue? program one other expr = some value := by
    cases expr with
    | literal literal => exact ⟨_, rfl⟩
    | identifier name => exact Option.isSome_iff_exists.mp stands
    | body id => exact ⟨_, rfl⟩
  unfold Render.params
  rw [Members.find?_ofList]
  have member : (other, value) ∈ (exprs.filterMap fun entry =>
      (paramValue? program one entry.1 entry.2).map fun value => (entry.1, value)).reverse :=
    List.mem_reverse.mpr (List.mem_filterMap.mpr ⟨_, inside, by simp [evaluated]⟩)
  obtain ⟨entry, first⟩ := Option.isSome_iff_exists.mp
    (List.find?_isSome (p := (·.1 == other)).mpr ⟨_, member, beq_self_eq_true other⟩)
  exact ⟨entry.2, Option.map_eq_some_iff.mpr ⟨entry, first, rfl⟩⟩

/-- A tag without parameters has none that refers to something. -/
theorem stands_eq_false {program : Program} {exprs : ParamExprs}
    (isEmpty : (Render.params program one exprs).isEmpty = true) :
    (exprs.any fun entry => entry.2.stands one.resolve?) = false := by
  refine Bool.eq_false_iff.mpr fun any => ?_
  obtain ⟨entry, inside, stands⟩ := List.any_eq_true.mp any
  have gives : exprs.gives one.resolve? entry.1 = true :=
    List.any_eq_true.mpr ⟨entry, inside, by simp [stands]⟩
  obtain ⟨value, found⟩ :=
    (exists_find?_params gives :
      ∃ value, (Render.params program one exprs).find? entry.1 = some value)
  rw [List.isEmpty_iff.mp isEmpty] at found
  cases found

end Contexts

/-! ## The accord -/

/-- With contexts that differ in the keys of their selects, what is rendered, called or resolved
does not ask for the key where the innermost ones differ and no branch has matched. -/
def Ground.coinciding (helpers : Members Helper) (matched : Bool) : Ground where
  loose := False
  body one other program id :=
    one.SameButKeys other ∧ BodyAgrees helpers matched one other program id
  fresh one other _ _ := one.SameButKeys other ∧ other.select? = one.select?
  call called another one other bodies given also :=
    (another = called ∧ also = given) ∧ one.SameButKeys other ∧
      Agrees matched one other (called.IsQuoted ∧ TagUnasking helpers one bodies given)
  resolves value another one other :=
    another = value ∧ one.SameButKeys other ∧
      Agrees matched one other
        (IsQuoted one ∧ ∀ called, value = .function called → called.IsQuoted)
  names one other program id :=
    one.SameButKeys other ∧ BodyAgrees helpers matched one other program id
  compares one other bodies given also :=
    (also = given ∧ one.SameButKeys other) ∧ ParamsAgree matched one other given ∧
      Agrees matched one other (∃ value, given.find? "key" = some value) ∧
        ∀ id, bodies.find? elseBody = some id →
          BodyAgrees helpers matched one other bodies.program id
  includes one other _ _ := other = one ∧ one.select? = none
  hosts := True

abbrev Accord.coinciding (helpers : Members Helper) (matched : Bool) : Accord where
  toSense := .coinciding helpers matched
  toGround := .coinciding helpers matched

namespace Coinciding

section Grounds

variable {helpers : Members Helper} {matched : Bool} {one other : Context} {bodies : Bodies}
variable {params : Value.Params} {value? : Option Value}

theorem named (same : one.SameButKeys other) {name : String}
    (agrees : ∀ id, bodies.find? name = some id →
      BodyAgrees helpers matched one other bodies.program id) :
    (Accord.coinciding helpers matched).Named one other bodies name :=
  fun id found => ⟨same, agrees id found⟩

/-- A frame on top of both contexts hides their selects. -/
theorem named_pushFrame (same : one.SameButKeys other) (frame : Frame) (name : String) :
    (Accord.coinciding helpers matched).Named (one.pushFrame frame) (other.pushFrame frame) bodies
      name :=
  named (same.pushFrame frame) fun _ _ => .alike rfl

theorem resolves (same : one.SameButKeys other) (agrees : ParamsAgree matched one other params) :
    (Accord.coinciding helpers matched).Resolves one other params params :=
  ⟨Value.Params.alike_refl _, fun _ _ _ found _ alike =>
    ⟨alike.eq not_false, same, agrees.value found⟩⟩

theorem selects (same : one.SameButKeys other) :
    (Accord.coinciding helpers matched).Selects one other bodies :=
  fun _ _ _ => ⟨same.pushFrame _, rfl⟩

theorem each (same : one.SameButKeys other)
    (main : value? = some (.bool true) → ∀ id, bodies.find? mainBody = some id →
      BodyAgrees helpers matched one other bodies.program id)
    (otherwise : value? ≠ some (.bool true) → ∀ id, bodies.find? elseBody = some id →
      BodyAgrees helpers matched one other bodies.program id) :
    (Accord.coinciding helpers matched).Each one other bodies value? value? where
  alike := Value.foundAlike_refl _
  main isTrue := named same (main isTrue)
  pushed value _ _ _ alike := by
    obtain rfl := alike.eq not_false
    exact named_pushFrame same _ _
  element _ _ _ _ _ := named_pushFrame same _ _
  otherwise different := named same (otherwise different)

/-- The bodies of a section see its parameters, where it has any, in front of the select. -/
theorem each_withParams (same : one.SameButKeys other)
    (main : params.isEmpty = true → value? = some (.bool true) →
      ∀ id, bodies.find? mainBody = some id →
        BodyAgrees helpers matched one other bodies.program id)
    (otherwise : params.isEmpty = true → value? ≠ some (.bool true) →
      ∀ id, bodies.find? elseBody = some id →
        BodyAgrees helpers matched one other bodies.program id) :
    (Accord.coinciding helpers matched).Each (withParams one params) (withParams other params)
      bodies value? value? := by
  unfold withParams
  split
  · rename_i isEmpty
    exact each same (main isEmpty) (otherwise isEmpty)
  · exact each (same.pushFrame _) (fun _ _ _ => .alike rfl) fun _ _ _ => .alike rfl

theorem sections (same : one.SameButKeys other)
    (called : ∀ identity function, value? = some (.function (.host identity function)) →
      TagAgrees helpers matched one other bodies params)
    (main : params.isEmpty = true → value? = some (.bool true) →
      ∀ id, bodies.find? mainBody = some id →
        BodyAgrees helpers matched one other bodies.program id)
    (otherwise : params.isEmpty = true → value? ≠ some (.bool true) →
      ∀ id, bodies.find? elseBody = some id →
        BodyAgrees helpers matched one other bodies.program id) :
    (Accord.coinciding helpers matched).Section one other bodies params params value? value? where
  alike := Value.foundAlike_refl _
  called identity function isHost := ⟨⟨rfl, rfl⟩, same,
    (called identity function isHost).imp fun unasking => ⟨.host _ _, unasking⟩⟩
  returned identity function isHost _ _ :=
    each_withParams same (fun _ _ _ => (called identity function isHost).body) fun _ _ _ =>
      (called identity function isHost).body
  plain _ := each_withParams same main otherwise

theorem builtin (same : one.SameButKeys other) (ofParams : ParamsAgree matched one other params)
    (helper : BuiltinHelper)
    (keyed : ∀ comparison, helper = .compare comparison →
      Agrees matched one other (∃ value, params.find? "key" = some value))
    (ofBodies : ∀ name id, helper.rendersInFrame name = true → bodies.find? name = some id →
      BodyAgrees helpers matched one other bodies.program id) :
    (Accord.coinciding helpers matched).Builtin one other bodies params params helper := by
  cases helper with
  | separator =>
      refine ⟨?_, named same fun id => ofBodies mainBody id rfl⟩
      unfold isLast
      rw [same.iteration?]
  | place =>
      refine ⟨?_, named_pushFrame same _ _⟩
      unfold Context.index?
      rw [same.iteration?]
  | select => exact ⟨resolves same ofParams, selects same⟩
  | compare comparison =>
      exact ⟨⟨rfl, same⟩, ofParams, keyed comparison rfl, fun id => ofBodies elseBody id rfl⟩
  | math => exact ⟨resolves same ofParams, selects same⟩
  | size => exact resolves same ofParams
  | contextDump =>
      exact ⟨resolves same ofParams, by rw [same.current?], fun _ _ _ => same.stackJson⟩

/-- A body is rendered with the context of the tag, or with a frame of its own on top. -/
theorem scopeAgrees (same : one.SameButKeys other)
    (agrees : TagAgrees helpers matched one other bodies params) (scope : Scope) {name : String}
    {id : BodyId} (found : bodies.find? name = some id) :
    (scopeContext one params scope).SameButKeys (scopeContext other params scope) ∧
      BodyAgrees helpers matched (scopeContext one params scope) (scopeContext other params scope)
        bodies.program id := by
  cases scope with
  | same => exact ⟨same, agrees.body found⟩
  | pushText text => exact ⟨same.pushFrame _, .alike rfl⟩
  | pushParams => exact ⟨same.pushFrame _, .alike rfl⟩
  | rebaseParams =>
      unfold scopeContext
      rw [same.rebase]
      exact ⟨.refl _, .alike rfl⟩
  | pushIndexed text index length => exact ⟨same.pushFrame _, .alike rfl⟩

theorem placeText_eq (same : one.SameButKeys other) : placeText other = placeText one := by
  have read : ∀ context : Context, placeText context.keyless = placeText context := by
    intro context
    unfold placeText Context.index? Context.length?
    rw [Context.iteration?_keyless]
    rfl
  exact same.congr placeText read

theorem hosting (same : one.SameButKeys other)
    (agrees : TagAgrees helpers matched one other bodies params) (actions : List HostAction) :
    (Accord.coinciding helpers matched).Hosting one other bodies params params actions where
  hosts := trivial
  alike := Value.Params.alike_refl _
  place := placeText_eq same
  stack _ := same.stackJson
  resolves key := by
    refine ⟨rfl, same, ?_⟩
    cases found : params.find? key with
    | none => exact agrees.imp fun unasking => ⟨unasking.isQuoted, nofun⟩
    | some value => exact agrees.ofParams.value found
  scopes scope _ _ found := scopeAgrees same agrees scope found
  permitted _ _ := trivial

theorem calling (same : one.SameButKeys other) {called : Function Value}
    (agrees : Agrees matched one other (called.IsQuoted ∧ TagUnasking helpers one bodies params)) :
    (Accord.coinciding helpers matched).Calling one other bodies params params called called := by
  cases called with
  | inline program body stamp =>
      refine .inline ⟨same, agrees.imp fun ⟨callable, unasking⟩ => ⟨unasking.isQuoted, ?_⟩⟩
      cases callable with
      | inline quotes isPlain => exact .ofPlain quotes isPlain
  | host identity function =>
      refine .host (hosting same (agrees.imp And.right) _) (fun path _ => same.get? path)
        fun next _ => ?_
      cases function.result <;> trivial

end Grounds

/-! ## Steps -/

section Steps

variable {helpers : Members Helper} {matched : Bool} {one other : Context} {program : Program}

/-- The text of a name or a parameter does not ask for the key of the select. -/
theorem quotedAgrees {op : Op}
    (agrees : Agrees matched one other (IsQuoted one ∧ op.Unasking (one.sight helpers) program))
    {id : BodyId} (quoted : id ∈ op.quoted) : BodyAgrees helpers matched one other program id :=
  agrees.imp fun ⟨isQuoted, unasking⟩ =>
    ⟨isQuoted, .ofPlain unasking.quotes (unasking.quoted id quoted)⟩

variable {name : String} {rebased : Option Identifier} {exprs : ParamExprs} {entries : NamedBodies}

theorem steps_condition (same : one.SameButKeys other) {kind : Condition} {identifier : Identifier}
    (agrees : Agrees matched one other (IsQuoted one ∧
      (Op.condition kind identifier rebased exprs entries).Unasking (one.sight helpers) program)) :
    (Accord.coinciding helpers matched).Steps program one other
      (.condition kind identifier rebased exprs entries) := by
  have inFrame := agrees.forBodies same rebased
  have within : ∀ body, (rebased = none →
      (Op.condition kind identifier none exprs entries).rendersInFrame (one.sight helpers) body =
        true) → ∀ id, Bodies.find? ⟨program, entries⟩ body = some id →
      BodyAgrees helpers matched (one.forBodies rebased) (other.forBodies rebased) program id := by
    intro body renders id found
    refine inFrame.imp fun ⟨isNone, isQuoted, unasking⟩ => ?_
    subst isNone
    exact ⟨isQuoted, unasking.within body id (renders rfl) found⟩
  cases kind with
  | each =>
      simp only [Accord.Steps, same.resolve?, same.params]
      refine sections (same.forBodies rebased) (fun identity function isHost => ?_)
        (fun isEmpty isTrue => within mainBody fun _ => ?_)
        (fun isEmpty different => within elseBody fun _ => ?_)
      · refine inFrame.imp fun ⟨isNone, isQuoted, unasking⟩ => ?_
        subst isNone
        refine ⟨isQuoted, Render.holds_params isQuoted fun inner here _ => ?_,
          fun body id found => unasking.within body id ?_ found⟩
        · exact .inline unasking.quotes (unasking.quoted inner here)
        · simp [Op.rendersInFrame, Context.sight, isHost]
      · simp [Op.rendersInFrame, Context.sight, isTrue, stands_eq_false isEmpty]
      · simp only [Op.rendersInFrame]
        split
        · rfl
        · rename_i isTrue
          exact absurd isTrue different
        · simp [Context.sight, stands_eq_false isEmpty]
  | present =>
      refine ⟨by rw [same.resolve?], named (same.forBodies rebased) ?_⟩
      exact within _ fun _ => beq_self_eq_true _
  | absent =>
      refine ⟨by rw [same.resolve?], named (same.forBodies rebased) (within _ fun _ => ?_)⟩
      simp only [Op.rendersInFrame, Context.sight]
      split <;> simp_all

theorem steps_block (same : one.SameButKeys other) {name : Name}
    (agrees : Agrees matched one other (IsQuoted one ∧
      (Op.block name rebased exprs entries).Unasking (one.sight helpers) program)) :
    (Accord.coinciding helpers matched).Steps program one other
      (.block name rebased exprs entries) := by
  have inFrame := agrees.forBodies same rebased
  refine ⟨?_, fun text isText => ⟨(same.forBodies rebased).block? text,
    (same.forBodies rebased).congr Context.blockDepth fun _ => rfl, fun none =>
      named (same.forBodies rebased) fun id found => ?_, fun _ override _ _ found =>
        ⟨(same.forBodies rebased).forBlock, ?_⟩⟩⟩
  · cases name with
    | literal text => trivial
    | body inner => exact ⟨same, quotedAgrees agrees List.mem_cons_self⟩
  · refine inFrame.imp fun ⟨isNone, isQuoted, unasking⟩ => ?_
    subst isNone
    refine ⟨isQuoted, unasking.within mainBody id ?_ found⟩
    cases name with
    | literal literal =>
        obtain rfl := isText literal rfl
        exact Bool.and_eq_true_iff.mpr
          ⟨beq_self_eq_true mainBody, Option.isNone_iff_eq_none.mpr none⟩
    | body inner => exact beq_self_eq_true mainBody
  · refine (inFrame.imp fun ⟨isNone, isQuoted, unasking⟩ => ?_).forBlock
    subst isNone
    refine ⟨isQuoted.forBlock, ?_⟩
    rw [sight_forBlock]
    refine unasking.override text override ?_ found (isQuoted.block? found)
    cases name with
    | literal literal => exact beq_iff_eq.mpr (isText literal rfl).symm
    | body inner => rfl

theorem steps_helper (same : one.SameButKeys other)
    (agrees : Agrees matched one other (IsQuoted one ∧
      (Op.helper name rebased exprs entries).Unasking (one.sight helpers) program)) :
    (Accord.coinciding helpers matched).Steps program one other
      (.helper name rebased exprs entries) := by
  have inFrame := agrees.forBodies same rebased
  have ofParams : ParamsAgree matched (one.forBodies rebased) (other.forBodies rebased)
      (Render.params program one exprs) := by
    refine inFrame.imp fun ⟨isNone, isQuoted, unasking⟩ => ?_
    subst isNone
    exact ⟨isQuoted, Render.holds_params isQuoted fun inner here _ =>
      .inline unasking.quotes (unasking.quoted inner here)⟩
  intro engine helper known found
  rw [known] at found
  rw [same.params]
  cases helper with
  | builtin helper =>
      refine builtin (same.forBodies rebased) ofParams helper (fun comparison isCompare => ?_)
        fun body id renders opened => ?_
      · subst isCompare
        refine inFrame.imp fun ⟨isNone, isQuoted, unasking⟩ => ?_
        subst isNone
        have unasked := unasking.unasked
        simp only [Op.asksSelect, Context.sight, found, Bool.not_eq_false'] at unasked
        exact exists_find?_params unasked
      · refine inFrame.imp fun ⟨isNone, isQuoted, unasking⟩ => ?_
        subst isNone
        refine ⟨isQuoted, unasking.within body id ?_ opened⟩
        simpa only [Op.rendersInFrame, Context.sight, found] using renders
  | host helper =>
      refine hosting (same.forBodies rebased) (inFrame.imp fun ⟨isNone, isQuoted, unasking⟩ => ?_) _
      subst isNone
      refine ⟨isQuoted, Render.holds_params isQuoted fun inner here _ =>
        .inline unasking.quotes (unasking.quoted inner here), fun body id opened =>
          unasking.within body id ?_ opened⟩
      simp only [Op.rendersInFrame, Context.sight, found]

/-- Every step that comes to none that asks for the key stands on that ground. -/
theorem steps (same : one.SameButKeys other) {op : Op}
    (agrees : Agrees matched one other (IsQuoted one ∧ op.Unasking (one.sight helpers) program)) :
    (Accord.coinciding helpers matched).Steps program one other op := by
  cases op with
  | write text => trivial
  | reference identifier chain =>
      simp only [Accord.Steps, same.resolve?]
      refine ⟨Value.foundAlike_refl _, fun called another found again => ?_⟩
      cases found.symm.trans again
      refine ⟨⟨rfl, rfl⟩, same, agrees.imp fun ⟨isQuoted, _⟩ => ⟨?_, .unbodied isQuoted⟩⟩
      cases isQuoted.resolve? found with
      | function isAllowed => exact isAllowed
  | condition kind identifier rebased exprs entries => exact steps_condition same agrees
  | block name rebased exprs entries => exact steps_block same agrees
  | helper name rebased exprs entries => exact steps_helper same agrees
  | inclusion name rebased exprs =>
      simp only [Accord.Steps, same.params, (same.forBodies rebased).forPartial]
      exact ⟨rfl, select?_forPartial _ _⟩

end Steps

end Coinciding

namespace Calls.Coincide

variable {calls : Calls} {helpers : Members Helper} {matched : Bool}
variable {writer : Writer} {one other : Context} {bodies : Bodies} {params : Value.Params}

theorem keep (coincide : calls.Coincide helpers) :
    calls.handlers.KeepClient (StandsBy helpers matched) :=
  ⟨fun continuation result => keeps_ofEach fun settled =>
      (coincide.leave settled).handlers.resume continuation result,
    fun listener occasion => keeps_ofEach fun settled =>
      (coincide.leave settled).handlers.hear listener occasion⟩

theorem enters (coincide : calls.Coincide helpers) :
    (Accord.coinciding helpers matched).Enters calls calls where
  body := by
    rintro one other program id writer ⟨same, agrees⟩ -
    exact isFree_coinciding.ended (coincide.renderBody same _ _ _ agrees).runs
  fresh := by
    rintro one other program id writer ⟨same, alike⟩ -
    have inside : Coincides helpers false (calls.renderBody program id writer one)
        (calls.renderBody program id writer other) :=
      coincide.renderBody same _ _ _ (.alike alike)
    exact isFree_coinciding.ended inside.withFreshSelect.runs
  unopened writer :=
    isFree_coinciding.ended (Coincides.ofKeeps (.pure _)).withFreshSelect.runs
  call := by
    rintro called _ one other bodies given _ writer ⟨⟨rfl, rfl⟩, same, agrees⟩ -
    exact isFree_coinciding.returned (coincide.call same _ _ _ _ agrees).runs
  resolves := by
    rintro value _ one other writer ⟨rfl, same, agrees⟩ -
    refine (Sense.coinciding helpers matched).resolveValue False (.same _) (fun _ => trivial) ?_
      (runs_ofKeeps KeepsClient.openPot) fun pot => runs_ofKeeps (Keeps.potText pot)
    rintro called _ pot rfl ⟨⟩
    exact isFree_coinciding.returned (coincide.call same _ _ _ _ (agrees.imp
      fun ⟨isQuoted, ofValue⟩ => ⟨ofValue called rfl, .unbodied isQuoted⟩)).runs
  fail _ _ := runs_ofKeeps (KeepsClient.fail coincide.keep _)

theorem serves (coincide : calls.Coincide helpers) :
    (Accord.coinciding helpers matched).Serves calls calls where
  everywhere _ := trivial
  opened := ⟨.ofKeeps (KeepsClient.openOutlet _), fun _ _ _ _ _ =>
    runs_ofKeeps KeepsClient.result?⟩
  fork _ := runs_ofKeeps KeepsClient.fork
  hold slot branch := runs_ofKeeps (keeps_ofEach fun _ => keeps_modifyEngine fun _ => rfl)
  finish _ := runs_ofKeeps (KeepsClient.finish coincide.keep)
  shout := by
    rintro one other program id writer ⟨same, agrees⟩
    refine (Sense.coinciding helpers matched).bind (runs_ofKeeps KeepsClient.fork)
      fun ⟨branch, next⟩ _ _ => (Sense.coinciding helpers matched).bind
        (runs_ofKeeps (KeepsClient.openOutlet _)) fun outlet _ _ =>
          (Sense.coinciding helpers matched).bind (coincide.renderBody same _ _ _ agrees).runs
            fun ended _ _ => ?_
    cases ended with
    | ok last =>
        exact (Sense.coinciding helpers matched).bind
          (runs_ofKeeps (KeepsClient.finish coincide.keep)) fun _ _ _ =>
            (Sense.coinciding helpers matched).pure trivial
    | error error =>
        exact (Sense.coinciding helpers matched).bind
          (runs_ofKeeps (KeepsClient.fail coincide.keep error).discard) fun _ _ _ =>
            (Sense.coinciding helpers matched).pure trivial

/-- Once a branch has matched, a comparison without a key of its own renders what it has for the
case that it does not hold, whatever the key of the select. -/
theorem runComparison_settled (coincide : calls.Coincide helpers) (same : one.SameButKeys other)
    (keyless : params.find? "key" = none) (comparison : Comparison) :
    Coincides helpers true (runComparison calls comparison writer one bodies params)
      (runComparison calls comparison writer other bodies params) := by
  have passes : ∀ context : Context, SameFrom (StandsBy helpers true)
      (runComparison calls comparison writer context bodies params)
      (if context.select?.isSome then do
        let _ ← Render.resolveParam? calls params "value" writer context
        calls.renderNamed bodies elseBody writer context
      else pure (.ok writer)) := by
    intro context store stands
    have unkeyed : Render.resolveParam? calls params "key" writer context = pure none := by
      unfold Render.resolveParam?
      rw [keyless]
    have noted : isSettled store = some (true, store) :=
      congrArg (fun settled => some (settled, store)) (stands.settled rfl)
    unfold runComparison comparisonKey?
    rw [unkeyed, pure_bind]
    cases context.select? with
    | none => rfl
    | some key =>
        simp only [run_bind, noted]
        rfl
  have passing : (Sense.coinciding helpers true).Runs (Sense.coinciding helpers true).Ended
      (if one.select?.isSome then do
        let _ ← Render.resolveParam? calls params "value" writer one
        calls.renderNamed bodies elseBody writer one
      else pure (.ok writer))
      (if other.select?.isSome then do
        let _ ← Render.resolveParam? calls params "value" writer other
        calls.renderNamed bodies elseBody writer other
      else pure (.ok writer)) := by
    rw [same.selects]
    split
    · refine (Sense.coinciding helpers true).bind
        (coincide.enters.resolveParam? (Coinciding.resolves same (.settled rfl)) trivial "value")
        fun _ _ _ => ?_
      exact coincide.enters.renderNamed (Coinciding.named same fun _ _ => .settled rfl) trivial
    · exact (Sense.coinciding helpers true).pure trivial
  exact ⟨fun store stands => (passes one store stands).trans
      ((passing.1.same store stands).trans (passes other store stands).symm),
    keeps_ofSettled ((coincide.leave true).runComparison (.inl rfl) comparison)⟩

/-- A comparison with a key of its own renders its block only once it has noted that it matches. -/
theorem runComparison (coincide : calls.Coincide helpers) (same : one.SameButKeys other)
    (ofParams : ParamsAgree matched one other params)
    (keyed : Agrees matched one other (∃ value, params.find? "key" = some value))
    (otherwise : ∀ id, bodies.find? elseBody = some id →
      BodyAgrees helpers matched one other bodies.program id) (comparison : Comparison) :
    Coincides helpers matched (runComparison calls comparison writer one bodies params)
      (runComparison calls comparison writer other bodies params) := by
  have going : (∃ value, params.find? "key" = some value) ∨ other.select? = one.select? →
      Coincides helpers matched (Render.runComparison calls comparison writer one bodies params)
        (Render.runComparison calls comparison writer other bodies params) := by
    intro known
    refine (coincide.enters.runComparison ⟨Coinciding.resolves same ofParams, known, same.selects,
      fun value _ => same.coerce value _, fun none => ?_, Coinciding.named same otherwise⟩
      (runs_ofKeeps keeps_isSettled) (fun _ => ?_) trivial comparison).1
    · have alike : other.select? = one.select? := by
        rw [none]
        refine Option.not_isSome_iff_eq_none.mp ?_
        rw [same.selects, none]
        exact Bool.false_ne_true
      exact Coinciding.named same fun _ _ => .alike alike
    · have inside : (Sense.coinciding helpers true).Runs (fun _ => True)
          (calls.renderNamed bodies mainBody writer one)
          (calls.renderNamed bodies mainBody writer other) :=
        (Sense.coinciding helpers true).mono
          (coincide.enters.renderNamed (Coinciding.named same fun _ _ => .settled rfl) trivial)
          fun _ _ => trivial
      exact isFree_coinciding.ended inside.1.noteMatch.runs
  cases keyed with
  | alike alike => exact going (.inr alike)
  | unasked isKeyed => exact going (.inl isKeyed)
  | settled isSettled =>
      subst isSettled
      cases found : params.find? "key" with
      | none => exact coincide.runComparison_settled same found comparison
      | some value => exact going (.inl ⟨value, found⟩)

theorem conducts (coincide : calls.Coincide helpers) :
    (Accord.coinciding helpers matched).Conducts calls calls where
  toEnters := coincide.enters
  names agrees := coincide.enters.bodyText coincide.serves agrees
  compares := by
    rintro comparison one other bodies given _ writer ⟨⟨rfl, same⟩, ofParams, keyed, otherwise⟩ -
    exact isFree_coinciding.ended
      (coincide.runComparison same ofParams keyed otherwise comparison).runs
  includes := by
    rintro one _ program name writer ⟨rfl, fresh⟩ -
    exact runs_ofKeeps (keeps_ofEach fun settled =>
      (coincide.leave settled).renderInclusion fun _ _ => .ofFresh fresh)
  serves _ := coincide.serves

theorem runOp (coincide : calls.Coincide helpers) (same : one.SameButKeys other)
    {program : Program} {op : Op}
    (agrees : Agrees matched one other
      (IsQuoted one ∧ op.Unasking (one.sight helpers) program)) :
    Coincides helpers matched (runOp calls program one writer op)
      (runOp calls program other writer op) :=
  (coincide.conducts.runOp (Coinciding.steps same agrees) trivial).1

theorem runOps (coincide : calls.Coincide helpers) (same : one.SameButKeys other)
    {program : Program} {id : BodyId}
    (agrees : BodyAgrees helpers matched one other program id) (ops : List Op)
    (members : ∀ op ∈ ops, op ∈ program.body id) :
    Coincides helpers matched (runOps calls program one ops writer)
      (runOps calls program other ops writer) := by
  refine (coincide.conducts.runOps (fun op here => Coinciding.steps same ?_) trivial).1
  exact agrees.imp fun ⟨isQuoted, unasking⟩ => ⟨isQuoted, unasking.op (members op here)⟩

theorem callFunction (coincide : calls.Coincide helpers) (same : one.SameButKeys other)
    {called : Function Value}
    (agrees : Agrees matched one other (called.IsQuoted ∧ TagUnasking helpers one bodies params)) :
    Coincides helpers matched (callFunction calls called writer one bodies params)
      (callFunction calls called writer other bodies params) :=
  (coincide.conducts.callFunction (Coinciding.calling same agrees) trivial).1

end Calls.Coincide

/-- Rendering within a bound coincides with contexts that differ in the keys of their selects. -/
theorem callsWithin_coincide (helpers : Members Helper) (depth : Nat) :
    (callsWithin depth).Coincide helpers := by
  induction depth with
  | zero =>
      refine ⟨fun settled => callsWithin_leave helpers settled 0, ?_, ?_⟩
      · intro matched one other _ program body writer _
        unfold callsWithin renderBodyWithin
        exact .outOfSteps
      · intro matched one other _ called writer bodies params _
        unfold callsWithin callWithin
        exact .outOfSteps
  | succ depth coincide =>
      refine ⟨fun settled => callsWithin_leave helpers settled (depth + 1), ?_, ?_⟩
      · intro matched one other same program body writer agrees
        unfold callsWithin renderBodyWithin
        exact coincide.runOps same agrees _ fun _ member => member
      · intro matched one other same called writer bodies params agrees
        unfold callsWithin callWithin
        exact coincide.callFunction same agrees

end BraceTemplate.Render
