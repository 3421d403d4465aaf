import BraceTemplate.Proofs.Render.Conditions
import BraceTemplate.Proofs.Render.Infallible

/-!
# Tags around a part of a body

A section over a value that is no array and a tag that opens a select push frames of their own, and
what is found in the frames around them is found in theirs: above all the place in the array that is
gone through. So a separator goes by the innermost array, however many such tags stand between the
array and the separator.
-/

namespace BraceTemplate

def Context.standsOn? (context : Context) (identifier : Identifier) : Option Value :=
  match context.resolve? identifier with
  | some (.function (.host _ function)) =>
    match function.result with
    | .value value => some value
    | .lookup path => some ((context.get? path).getD .null)
    | .handle | .error _ => none
  | found => found

namespace Render

open Output

/-- Renders two parts of a body in turn: the second goes on from the handle that the first leaves.
-/
def inTurn (first : Action (Except RenderError Writer))
    (next : Writer → Action (Except RenderError Writer)) : Action (Except RenderError Writer) := do
  match ← first with
  | .error error => pure (.error error)
  | .ok later => next later

section Parts

variable {calls : Calls} {program : Program} {context : Context} {writer : Writer}
variable {holds : State → Prop}

theorem inTurn_assoc (first : Action (Except RenderError Writer))
    (second third : Writer → Action (Except RenderError Writer)) :
    inTurn (inTurn first second) third = inTurn first fun next => inTurn (second next) third := by
  unfold inTurn
  rw [bind_assoc]
  refine bind_congr fun ended => ?_
  cases ended <;> rfl

theorem runOps_append (front behind : List Op) :
    runOps calls program context (front ++ behind) writer =
      inTurn (runOps calls program context front writer)
        (runOps calls program context behind) := by
  induction front generalizing writer with
  | nil => rfl
  | cons op rest inductionHypothesis =>
      have later : runOps calls program context (rest ++ behind) = fun next =>
          inTurn (runOps calls program context rest next) (runOps calls program context behind) :=
        funext fun _ => inductionHypothesis
      change inTurn (runOp calls program context writer op)
        (runOps calls program context (rest ++ behind)) = _
      rw [later]
      exact (inTurn_assoc _ _ _).symm

theorem SameFrom.inTurn {first other : Action (Except RenderError Writer)}
    {next otherNext : Writer → Action (Except RenderError Writer)}
    (same : SameFrom holds first other) (keeps : KeepsClient holds first)
    (later : ∀ writer, SameFrom holds (next writer) (otherNext writer)) :
    SameFrom holds (inTurn first next) (inTurn other otherNext) :=
  same.bind keeps fun ended => by
    cases ended with
    | error error => exact .refl _
    | ok next => exact later next

end Parts

/-- A tag around a part of a body: a section without a context of its own, or a tag of a helper that
opens a select. -/
inductive Enclosure where
  | condition (kind : Condition) (identifier : Identifier) (exprs : ParamExprs)
      (entries : NamedBodies)
  | select (name : String) (helper : BuiltinHelper) (exprs : ParamExprs) (entries : NamedBodies)

def insideSection? (context : Context) : Option Value → Option Context
  | none | some (.array _) => none
  | some (.bool true) => some context
  | some value => if value.isTruthy then some (context.push value) else none

namespace Enclosure

def op : Enclosure → Op
  | condition kind identifier exprs entries => .condition kind identifier none exprs entries
  | select name _ exprs entries => .helper name none exprs entries

/-- The body that is rendered for a value that is there: the other branch of a section that asks
whether the value is missing. -/
def body? (program : Program) : Enclosure → Option BodyId
  | condition .absent _ _ entries => Bodies.find? ⟨program, entries⟩ elseBody
  | condition _ _ _ entries => Bodies.find? ⟨program, entries⟩ mainBody
  | select _ _ _ entries => Bodies.find? ⟨program, entries⟩ mainBody

/-- The contexts that the body may be rendered with. -/
inductive Enters (program : Program) (context : Context) : Enclosure → Context → Prop
  | each {identifier : Identifier} {exprs : ParamExprs} {entries : NamedBodies} {inside : Context}
      (stands : insideSection? (withParams context (params program context exprs))
        (context.standsOn? identifier) = some inside) :
      Enters program context (condition .each identifier exprs entries) inside
  | present {identifier : Identifier} {exprs : ParamExprs} {entries : NamedBodies}
      (there : isPresent (context.resolve? identifier) = true) :
      Enters program context (condition .present identifier exprs entries) context
  | absent {identifier : Identifier} {exprs : ParamExprs} {entries : NamedBodies}
      (there : isPresent (context.resolve? identifier) = true) :
      Enters program context (condition .absent identifier exprs entries) context
  | select {name : String} {helper : BuiltinHelper} {exprs : ParamExprs} {entries : NamedBodies}
      (key : Value) :
      Enters program context (select name helper exprs entries) (context.pushSelect key)

/-- A section whose value is there and no array, or a tag whose helper opens a select. -/
def Opens (helpers : Members Helper) (program : Program) (context : Context) : Enclosure → Prop
  | select name helper _ _ =>
    helpers.find? name = some (.builtin helper) ∧ helper.opensSelect = true
  | enclosure => ∃ inside, enclosure.Enters program context inside

def afterCall (calls : Calls) (writer : Writer) (context : Context) (value? : Option Value)
    (bodies : Bodies) (given : Value.Params) (next : Action (Except RenderError Writer)) :
    Action (Except RenderError Writer) :=
  match value? with
  | some (.function (.host identity function)) => do
    match ← calls.call (.host identity function) writer context bodies given with
    | .error _ => pure (.ok writer)
    | .ok _ => next
  | _ => next

/-- Renders an enclosure whose body is rendered in a given way. A function of the host that a
section is over is called first; a select without a key renders nothing. -/
def around (calls : Calls) (program : Program) (context : Context)
    (inner : Context → Writer → Action (Except RenderError Writer)) (writer : Writer) :
    Enclosure → Action (Except RenderError Writer)
  | condition .each identifier exprs entries =>
    let given := params program context exprs
    match insideSection? (withParams context given) (context.standsOn? identifier) with
    | none => pure (.ok writer)
    | some inside =>
      afterCall calls writer context (context.resolve? identifier) ⟨program, entries⟩ given
        (inner inside writer)
  | condition _ _ _ _ => inner context writer
  | select _ helper exprs _ => do
    match ← selectKey? calls helper writer context (params program context exprs) with
    | none => pure (.ok writer)
    | some key => withFreshSelect (inner (context.pushSelect key) writer)

end Enclosure

section Places

variable {program : Program} {context inside : Context} {value? : Option Value}

theorem withParams_iteration? (given : Value.Params) :
    (withParams context given).iteration? = context.iteration? := by
  unfold withParams
  split <;> rfl

theorem insideSection?_iteration? (stands : insideSection? context value? = some inside) :
    inside.iteration? = context.iteration? := by
  unfold insideSection? at stands
  split at stands
  · cases stands
  · cases stands
  · cases stands
    rfl
  · split at stands
    · cases stands
      rfl
    · cases stands

/-- The frames that an enclosure pushes are no elements of an array. -/
theorem Enclosure.Enters.iteration? {enclosure : Enclosure}
    (enters : enclosure.Enters program context inside) :
    inside.iteration? = context.iteration? := by
  cases enters with
  | each stands => exact (insideSection?_iteration? stands).trans (withParams_iteration? _)
  | present there => rfl
  | absent there => rfl
  | select key => rfl

theorem isLast_congr (same : inside.iteration? = context.iteration?) :
    isLast inside = isLast context := by
  unfold isLast
  rw [same]

end Places

section Rendering

variable {helpers : Members Helper} {program : Program} {context inside : Context}
variable {writer : Writer} {depth : Nat}

/-- The engine has some helpers. -/
def HasHelpers (helpers : Members Helper) (state : State) : Prop :=
  state.engine.helpers = helpers

theorem keepsHelpers_runOps (ops : List Op) :
    KeepsClient (HasHelpers helpers) (runOps (callsWithin depth) program context ops writer) :=
  keepsHelpers ((callsWithin_respect _ depth).runOps program ops context.holds_true)

theorem keepsHelpers_runOp (op : Op) :
    KeepsClient (HasHelpers helpers) (runOp (callsWithin depth) program context writer op) :=
  keepsHelpers ((callsWithin_respect _ depth).runOp program op context.holds_true)

theorem keepsHelpers_call (called : Function Value) (bodies : Bodies) (given : Value.Params) :
    KeepsClient (HasHelpers helpers)
      ((callsWithin depth).call called writer context bodies given) :=
  keepsHelpers ((callsWithin_respect (helperTerms helpers) depth).call called writer context bodies
    given trivial context.holds_true fun entry _ => entry.2.holds_true)

/-- A helper that every engine starts with leaves a handle, so its tag does just what it does. -/
theorem runOp_builtin {name : String} {helper : BuiltinHelper}
    (found : helpers.find? name = some (.builtin helper)) (exprs : ParamExprs)
    (entries : NamedBodies) :
    SameFrom (HasHelpers helpers)
      (runOp (callsWithin depth) program context writer (.helper name none exprs entries))
      (runBuiltin (callsWithin depth) helper writer context ⟨program, entries⟩
        (params program context exprs)) := by
  intro store has
  rw [← has] at found
  rw [runOp_helper found, run_bind]
  change (runBuiltin (callsWithin depth) helper writer context ⟨program, entries⟩
    (params program context exprs) store).bind _ = _
  cases ran : runBuiltin (callsWithin depth) helper writer context ⟨program, entries⟩
    (params program context exprs) store with
  | none => rfl
  | some ended =>
      obtain ⟨result, later⟩ := ended
      have respects : (Terms.any (.none _)).Respects IsHandle
          (runBuiltin (callsWithin depth) helper writer context ⟨program, entries⟩
            (params program context exprs)) :=
        (callsWithin_respect _ depth).runBuiltin helper (fun entry _ => entry.2.holds_true)
          context.holds_true
      obtain ⟨last, rfl⟩ := (respects.ensures (Terms.parallel_any store) ran).2
      rfl

/-- A section for a value that is there and no array renders its main body once. -/
theorem renderEach_inside {calls : Calls} {bodies : Bodies} {value? : Option Value}
    (stands : insideSection? context value? = some inside) :
    renderEach calls writer context value? bodies =
      calls.renderNamed bodies mainBody writer inside := by
  unfold insideSection? at stands
  split at stands
  next => cases stands
  next => cases stands
  next =>
    cases stands
    rfl
  next value noArray noTrue =>
    split at stands
    next truthy =>
      cases stands
      unfold renderEach
      split
      next items same =>
        cases same
        exact absurd rfl (noArray items)
      next same =>
        cases same
        exact absurd rfl noTrue
      next other _ _ same =>
        cases same
        rw [if_pos truthy]
      next same => cases same
    next => cases stands

/-- A section over a function of the host stands on what the function returns. -/
theorem exists_returned {identifier : Identifier} {identity : Nat} {function : HostFunction Value}
    (found : context.resolve? identifier = some (.function (.host identity function)))
    (stands : insideSection? inside (context.standsOn? identifier) ≠ none) :
    ∃ value, context.standsOn? identifier = some value ∧
      ∀ next, hostResult context next function.result = .ok (.value value) := by
  unfold Context.standsOn? at stands ⊢
  rw [found] at stands ⊢
  cases result : function.result with
  | value value => exact ⟨value, by simp only [result], fun _ => rfl⟩
  | lookup path => exact ⟨_, by simp only [result], fun _ => rfl⟩
  | handle => simp [result, insideSection?] at stands
  | error error => simp [result, insideSection?] at stands

/-- A call of a host function that returns a value, if it returns, returns this value. -/
theorem run_call_returns {identity : Nat} {function : HostFunction Value} {value : Value}
    (returns : ∀ next, hostResult context next function.result = .ok (.value value))
    {bodies : Bodies} {given : Value.Params} {store later : Store Continuation Observer State}
    {returned : Returned}
    (ran : (callsWithin depth).call (.host identity function) writer context bodies given store =
      some (.ok returned, later)) : returned = .value value := by
  cases depth with
  | zero => cases ran
  | succ depth =>
      change callFunction (callsWithin depth) (.host identity function) writer context bodies given
        store = _ at ran
      unfold callFunction at ran
      obtain ⟨ended, middle, -, rest⟩ := bind_eq_some.mp ran
      cases ended with
      | error error => cases rest
      | ok next =>
          simp only [returns next] at rest
          cases rest
          rfl

/-- A section over a function of the host that returns a value goes on with the value. -/
theorem renderSection_host {identity : Nat} {function : HostFunction Value} {value : Value}
    (returns : ∀ next, hostResult context next function.result = .ok (.value value))
    {bodies : Bodies} {given : Value.Params} {next : Action (Except RenderError Writer)}
    (same : SameFrom (HasHelpers helpers)
      (renderEach (callsWithin depth) writer (withParams context given) (some value) bodies) next) :
    SameFrom (HasHelpers helpers)
      (renderSection (callsWithin depth) writer context
        (some (.function (.host identity function))) bodies given)
      (Enclosure.afterCall (callsWithin depth) writer context
        (some (.function (.host identity function))) bodies given next) := by
  intro store has
  unfold renderSection Enclosure.afterCall
  dsimp only
  rw [run_bind, run_bind]
  cases ran : (callsWithin depth).call (.host identity function) writer context bodies given
      store with
  | none => rfl
  | some called =>
      obtain ⟨result, later⟩ := called
      have kept : HasHelpers helpers later.client :=
        keepsHelpers_call _ _ _ store result later has ran
      cases result with
      | error error => rfl
      | ok returned =>
          obtain rfl := run_call_returns returns ran
          exact same later kept

/-- A section over any other value calls nothing. -/
theorem renderSection_plain (writer : Writer) (context : Context) {value? : Option Value}
    (notHost : ∀ identity function, value? ≠ some (.function (.host identity function)))
    (calls : Calls) (bodies : Bodies) (given : Value.Params) :
    renderSection calls writer context value? bodies given =
        renderEach calls writer (withParams context given) value? bodies ∧
      ∀ next, Enclosure.afterCall calls writer context value? bodies given next = next := by
  match value?, notHost with
  | some (.function (.host identity function)), no => exact absurd rfl (no identity function)
  | some (.function (.inline _ _ _)), _ | none, _ | some .null, _ | some (.bool _), _
  | some (.number _), _ | some (.string _), _ | some (.array _), _ | some (.object _), _ =>
      exact ⟨rfl, fun _ => rfl⟩

/-- A section renders its body for what it stands on. -/
theorem runOp_each {identifier : Identifier} {exprs : ParamExprs} {entries : NamedBodies}
    {id : BodyId} {inner : Context → Writer → Action (Except RenderError Writer)}
    (main : Bodies.find? ⟨program, entries⟩ mainBody = some id)
    (stands : insideSection? (withParams context (params program context exprs))
      (context.standsOn? identifier) = some inside)
    (same : ∀ next, SameFrom (HasHelpers helpers)
      ((callsWithin depth).renderBody program id next inside) (inner inside next)) :
    SameFrom (HasHelpers helpers)
      (runOp (callsWithin depth) program context writer
        (.condition .each identifier none exprs entries))
      ((Enclosure.condition .each identifier exprs entries).around (callsWithin depth) program
        context inner writer) := by
  have renders : renderEach (callsWithin depth) writer
        (withParams context (params program context exprs)) (context.standsOn? identifier)
        ⟨program, entries⟩ =
      (callsWithin depth).renderBody program id writer inside := by
    rw [renderEach_inside stands, Calls.renderNamed, main]
  have goesOn := same writer
  rw [← renders] at goesOn
  simp only [Enclosure.around, stands]
  change SameFrom _ (renderSection _ writer context (context.resolve? identifier) _ _) _
  by_cases isHost : ∃ identity function,
      context.resolve? identifier = some (.function (.host identity function))
  · obtain ⟨identity, function, found⟩ := isHost
    obtain ⟨value, standsOn, returns⟩ := exists_returned found
      fun missing => by rw [missing] at stands; cases stands
    rw [standsOn] at goesOn
    rw [found]
    exact renderSection_host returns goesOn
  · have notHost : ∀ identity function,
        context.resolve? identifier ≠ some (.function (.host identity function)) :=
      fun identity function found => isHost ⟨identity, function, found⟩
    have standsOn : context.standsOn? identifier = context.resolve? identifier := by
      unfold Context.standsOn?
      split
      next identity function found => exact absurd found (notHost identity function)
      next => rfl
    obtain ⟨plainly, callsNothing⟩ := renderSection_plain writer context notHost
      (callsWithin depth) ⟨program, entries⟩ (params program context exprs)
    rw [standsOn] at goesOn
    rw [plainly, callsNothing]
    exact goesOn

/-- A tag that opens a select renders its body in it. -/
theorem runOp_select {name : String} {helper : BuiltinHelper} {exprs : ParamExprs}
    {entries : NamedBodies} {id : BodyId}
    {inner : Context → Writer → Action (Except RenderError Writer)}
    (found : helpers.find? name = some (.builtin helper)) (opens : helper.opensSelect = true)
    (main : Bodies.find? ⟨program, entries⟩ mainBody = some id)
    (same : ∀ key, SameFrom (HasHelpers helpers)
      ((callsWithin depth).renderBody program id writer (context.pushSelect key))
      (inner (context.pushSelect key) writer)) :
    SameFrom (HasHelpers helpers)
      (runOp (callsWithin depth) program context writer (.helper name none exprs entries))
      ((Enclosure.select name helper exprs entries).around (callsWithin depth) program context inner
        writer) := by
  refine (runOp_builtin found exprs entries).trans ?_
  rw [runBuiltin_opensSelect opens main]
  refine (SameFrom.refl _).bind (keepsHelpers_selectKey? depth helper) fun key? => ?_
  cases key? with
  | none => exact .refl _
  | some key =>
      simp only [renderSelect, Calls.renderNamed, main]
      exact withFreshSelect_sameFrom fun store stands => same key store stands.helpers

/-- An enclosure that opens renders its body in one of the contexts it enters. -/
theorem runOp_enclosure {enclosure : Enclosure} {id : BodyId}
    {inner : Context → Writer → Action (Except RenderError Writer)}
    (opens : enclosure.Opens helpers program context) (body : enclosure.body? program = some id)
    (same : ∀ inside next, enclosure.Enters program context inside →
      SameFrom (HasHelpers helpers) ((callsWithin depth).renderBody program id next inside)
        (inner inside next)) :
    SameFrom (HasHelpers helpers) (runOp (callsWithin depth) program context writer enclosure.op)
      (enclosure.around (callsWithin depth) program context inner writer) := by
  cases enclosure with
  | select name helper exprs entries =>
      exact runOp_select opens.1 opens.2 body fun key => same _ writer (.select key)
  | condition kind identifier exprs entries =>
      obtain ⟨inside, enters⟩ := opens
      cases enters with
      | each stands => exact runOp_each body stands fun next => same _ next (.each stands)
      | present there =>
          have renders := same _ writer (.present there)
          simp only [Enclosure.op, runOp, renderPresence, Context.forBodies, there, if_true,
            Calls.renderNamed]
          rw [show Bodies.find? ⟨program, entries⟩ mainBody = some id from body]
          exact renders
      | absent there =>
          have renders := same _ writer (.absent there)
          simp only [Enclosure.op, runOp, renderPresence, Context.forBodies, there, Bool.not_true,
            Bool.false_eq_true, if_false, Calls.renderNamed]
          rw [show Bodies.find? ⟨program, entries⟩ elseBody = some id from body]
          exact renders

end Rendering

end Render

end BraceTemplate
