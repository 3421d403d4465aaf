import BraceTemplate.Proofs.Render.Holding
import BraceTemplate.Proofs.Render.Stepping

/-!
# Rendering with allowed functions

Where all functions of the data are allowed ones, a render comes to none but those. An accord on
that ground says the same of both renders: it holds of every step, with one context for both.
-/

namespace BraceTemplate

namespace Value

mutual

theorem holds_true : ∀ value : Value, value.Holds fun _ => True
  | .null => .null
  | .bool value => .bool value
  | .number value => .number value
  | .string text => .string text
  | .array items => .array (holds_true_items items)
  | .object members => .object (holds_true_members members)
  | .function _ => .function trivial

theorem holds_true_items : ∀ items : List Value, ∀ item ∈ items, item.Holds fun _ => True
  | [], _, member => absurd member List.not_mem_nil
  | first :: rest, item, member => by
    rcases List.mem_cons.mp member with same | later
    · rw [same]
      exact holds_true first
    · exact holds_true_items rest item later

theorem holds_true_members : ∀ members : List (String × Value),
    ∀ entry ∈ members, entry.2.Holds fun _ => True
  | [], _, member => absurd member List.not_mem_nil
  | (key, first) :: rest, entry, member => by
    rcases List.mem_cons.mp member with same | later
    · rw [same]
      exact holds_true first
    · exact holds_true_members rest entry later

end

end Value

theorem Context.holds_true (context : Context) :
    context.Holds (fun _ => True) fun _ => True :=
  ⟨fun frame _ => frame.head.holds_true, context.globals.holds_true, fun _ _ => trivial⟩

theorem Context.Holds.get? {allowed : Function Value → Prop} {ofBlocks : Program → Prop}
    {context : Context} {path : String} {value : Value}
    (holds : context.Holds allowed ofBlocks) (found : context.get? path = some value) :
    value.Holds allowed := by
  unfold Context.get? at found
  exact holds.getPath? found

namespace Render

open Output

/-- Which functions occur, and with which errors renders may fail. -/
structure Allowance where
  allowed : Function Value → Prop
  permitted : RenderError → Prop
  inline : ∀ program body stamp, allowed (.inline program body stamp)
  fails : ∀ identity function, allowed (.host identity function) →
    ∀ error, HostAction.fail error ∈ function.actions → permitted error
  returns : ∀ identity function, allowed (.host identity function) →
    ∀ value, function.result = .value value → value.Holds allowed

/-- All functions occur, and renders may fail with all errors. -/
def Allowance.all : Allowance where
  allowed _ := True
  permitted _ := True
  inline _ _ _ := trivial
  fails _ _ _ _ _ := trivial
  returns _ _ _ value _ := value.holds_true

abbrev Allowance.Admits (allowance : Allowance) (context : Context) : Prop :=
  context.Holds allowance.allowed fun _ => True

def Ground.allowing (allowance : Allowance) : Ground where
  loose := False
  body one other _ _ := other = one ∧ allowance.Admits one
  fresh one other _ _ := other = one ∧ allowance.Admits one
  call called another one other _ given also :=
    (another = called ∧ allowance.allowed called) ∧ (other = one ∧ allowance.Admits one) ∧
      also = given ∧ given.Holds allowance.allowed
  resolves value another one other :=
    (another = value ∧ value.Holds allowance.allowed) ∧ other = one ∧ allowance.Admits one
  names one other _ _ := other = one ∧ allowance.Admits one
  compares one other _ given also :=
    (other = one ∧ allowance.Admits one) ∧ also = given ∧ given.Holds allowance.allowed
  includes one other _ _ := other = one ∧ allowance.Admits one
  hosts := True

/-- A sense in which functions that only allowed ones occur in may be called. -/
structure Sense.Allows (sense : Sense) (allowance : Allowance) : Prop where
  returns (value : Value) : sense.returns value ↔ value.Holds allowance.allowed
  permits (error : RenderError) : allowance.permitted error → sense.permits error
  helpers {engine : Engine} {name : String} {helper : HostHelper} : sense.knows engine →
    engine.helpers.find? name = some (.host helper) →
      ∀ error, HostAction.fail error ∈ helper.actions → sense.permits error

abbrev Sense.allowing (sense : Sense) (allowance : Allowance) : Accord where
  toSense := sense
  toGround := .allowing allowance

namespace Allowance

variable {allowance : Allowance} {sense : Sense} {context : Context} {bodies : Bodies}
variable {params : Value.Params} {program : Program} {calls others : Calls}

theorem holds_noParams : Value.Params.Holds allowance.allowed [] :=
  fun _ member => absurd member List.not_mem_nil

theorem holds_params (admits : allowance.Admits context) (program : Program)
    (exprs : ParamExprs) :
    (Render.params program context exprs).Holds allowance.allowed :=
  Render.holds_params admits fun id _ stamp => allowance.inline program id stamp

theorem named (admits : allowance.Admits context) (bodies : Bodies) (name : String) :
    (sense.allowing allowance).Named context context bodies name :=
  fun _ _ => ⟨rfl, admits⟩

theorem selects (admits : allowance.Admits context) (bodies : Bodies) :
    (sense.allowing allowance).Selects context context bodies :=
  fun key _ _ => ⟨rfl, admits.pushSelect key⟩

theorem resolves (admits : allowance.Admits context) (holds : params.Holds allowance.allowed) :
    (sense.allowing allowance).Resolves context context params params := by
  refine ⟨Value.Params.alike_refl _, fun key value another found _ alike => ?_⟩
  exact ⟨⟨alike.eq not_false, holds.find? found⟩, rfl, admits⟩

theorem each (admits : allowance.Admits context) (bodies : Bodies) {value? : Option Value}
    (holds : ∀ value, value? = some value → value.Holds allowance.allowed) :
    (sense.allowing allowance).Each context context bodies value? value? where
  alike := Value.foundAlike_refl _
  main _ := named admits _ _
  pushed value another found _ alike := by
    obtain rfl := alike.eq not_false
    exact named (admits.push (holds _ found)) _ _
  element items found item member index := by
    cases holds _ found with
    | array ofItems => exact named (admits.pushIndexed (ofItems item member)) _ _
  otherwise _ := named admits _ _

theorem admits_withParams (admits : allowance.Admits context)
    (holds : params.Holds allowance.allowed) : allowance.Admits (withParams context params) := by
  unfold withParams
  split
  · exact admits
  · exact admits.push (.object holds)

theorem sections (allows : sense.Allows allowance) (admits : allowance.Admits context)
    (holds : params.Holds allowance.allowed) (bodies : Bodies) {value? : Option Value}
    (ofValue : ∀ value, value? = some value → value.Holds allowance.allowed) :
    (sense.allowing allowance).Section context context bodies params params value? value? where
  alike := Value.foundAlike_refl _
  called identity function found := by
    cases ofValue _ found with
    | function isAllowed => exact ⟨⟨rfl, isAllowed⟩, ⟨rfl, admits⟩, rfl, holds⟩
  returned _ _ _ value returns := each (admits_withParams admits holds) bodies <| by
    rintro _ ⟨⟩
    exact (allows.returns value).mp returns
  plain _ := each (admits_withParams admits holds) bodies ofValue

theorem comparing (admits : allowance.Admits context) (holds : params.Holds allowance.allowed)
    (bodies : Bodies) :
    (sense.allowing allowance).Comparing context context bodies params params where
  resolves := resolves admits holds
  keyed := .inr rfl
  selects := rfl
  coerces _ _ := rfl
  outside _ := named admits _ _
  otherwise := named admits _ _

theorem builtin (admits : allowance.Admits context) (holds : params.Holds allowance.allowed)
    (bodies : Bodies) (helper : BuiltinHelper) :
    (sense.allowing allowance).Builtin context context bodies params params helper := by
  cases helper with
  | separator => exact ⟨rfl, named admits _ _⟩
  | place =>
      refine ⟨rfl, named (admits.push ?_) _ _⟩
      cases context.index? with
      | none => exact .null
      | some index => exact Value.holds_ofNat index
  | select => exact ⟨resolves admits holds, selects admits _⟩
  | compare comparison => exact ⟨⟨rfl, admits⟩, rfl, holds⟩
  | math => exact ⟨resolves admits holds, selects admits _⟩
  | size => exact resolves admits holds
  | contextDump => exact ⟨resolves admits holds, rfl, fun _ _ _ => rfl⟩

theorem admits_scopeContext (admits : allowance.Admits context)
    (holds : params.Holds allowance.allowed) (scope : Scope) :
    allowance.Admits (scopeContext context params scope) := by
  cases scope with
  | same => exact admits
  | pushText text => exact admits.push (.string text)
  | pushParams => exact admits.push (.object holds)
  | rebaseParams => exact admits.rebase (.object holds)
  | pushIndexed text index length => exact admits.pushIndexed (.string text)

theorem hosting (admits : allowance.Admits context) (holds : params.Holds allowance.allowed)
    (bodies : Bodies) {actions : List HostAction}
    (permitted : ∀ error, HostAction.fail error ∈ actions → sense.permits error) :
    (sense.allowing allowance).Hosting context context bodies params params actions where
  hosts := trivial
  alike := Value.Params.alike_refl _
  place := rfl
  stack _ := rfl
  resolves key := by
    refine ⟨⟨rfl, ?_⟩, rfl, admits⟩
    cases found : params.find? key with
    | none => exact .null
    | some value => exact holds.find? found
  scopes scope name := named (admits_scopeContext admits holds scope) _ _
  permitted := permitted

theorem calling (allows : sense.Allows allowance) {called : Function Value}
    (isAllowed : allowance.allowed called) (admits : allowance.Admits context)
    (holds : params.Holds allowance.allowed) (bodies : Bodies) :
    (sense.allowing allowance).Calling context context bodies params params called called := by
  cases called with
  | inline program body stamp => exact .inline ⟨rfl, admits⟩
  | host identity function =>
      refine .host (hosting admits holds bodies fun error member =>
        allows.permits error (allowance.fails identity function isAllowed error member))
        (fun _ _ => rfl) fun next fine => ?_
      cases result : function.result with
      | handle => exact fine
      | value held =>
          exact (allows.returns held).mpr
            (allowance.returns identity function isAllowed held result)
      | lookup path =>
          refine (allows.returns _).mpr ?_
          cases found : context.get? path with
          | none => exact .null
          | some held => exact admits.get? found
      | error error => trivial

/-- Every step stands on that ground. -/
theorem steps (allows : sense.Allows allowance) (admits : allowance.Admits context)
    (program : Program) (op : Op) :
    (sense.allowing allowance).Steps program context context op := by
  have ofParams := holds_params admits program
  have inner : ∀ rebased : Option Identifier, allowance.Admits (context.forBodies rebased) :=
    fun _ => admits.forBodies
  cases op with
  | write text => trivial
  | reference identifier chain =>
      refine ⟨Value.foundAlike_refl _, fun called another found again => ?_⟩
      cases found.symm.trans again
      cases admits.resolve? found with
      | function isAllowed => exact ⟨⟨rfl, isAllowed⟩, ⟨rfl, admits⟩, rfl, holds_noParams⟩
  | condition kind identifier rebased exprs entries =>
      cases kind with
      | each =>
          exact sections allows (inner rebased) (ofParams exprs) _ fun _ found =>
            admits.resolve? found
      | present => exact ⟨rfl, named (inner rebased) _ _⟩
      | absent => exact ⟨rfl, named (inner rebased) _ _⟩
  | block name rebased exprs entries =>
      refine ⟨?_, fun text _ => ⟨rfl, rfl, fun _ => named (inner rebased) _ _,
        fun _ _ _ _ _ => ⟨rfl, (inner rebased).forBlock⟩⟩⟩
      cases name with
      | literal text => trivial
      | body id => exact ⟨rfl, admits⟩
  | helper name rebased exprs entries =>
      intro engine helper known found
      cases helper with
      | builtin helper => exact builtin (inner rebased) (ofParams exprs) _ helper
      | host helper => exact hosting (inner rebased) (ofParams exprs) _ (allows.helpers known found)
  | inclusion name rebased exprs => exact ⟨rfl, (inner rebased).forPartial (ofParams exprs)⟩

end Allowance

/-- What rendering with allowed functions rests on: bodies and functions are in accord, and so is
what else is done with handles. -/
structure Sense.Supports (sense : Sense) (allowance : Allowance) (calls others : Calls) :
    Prop where
  allows : sense.Allows allowance
  body {context : Context} (program : Program) (id : BodyId) (writer : Writer) :
    allowance.Admits context →
      sense.Runs sense.Ended (calls.renderBody program id writer context)
        (others.renderBody program id writer context)
  call {called : Function Value} {context : Context} {params : Value.Params} (bodies : Bodies)
    (writer : Writer) : allowance.allowed called → allowance.Admits context →
      params.Holds allowance.allowed →
        sense.Runs sense.Returned (calls.call called writer context bodies params)
          (others.call called writer context bodies params)
  fail {error : RenderError} (writer : Writer) : sense.permits error →
    sense.Runs sense.fine (writer.fail calls.handlers error) (writer.fail others.handlers error)
  isSettled : sense.Runs (fun _ => True) isSettled isSettled
  setSettled (settled : Bool) : sense.Runs (fun _ => True) (setSettled settled) (setSettled settled)
  openPot : sense.Runs (fun _ => True) openPot openPot
  potText (pot : Nat) : sense.Runs (fun _ => True) (potText pot) (potText pot)
  serves : (sense.allowing allowance).Serves calls others

namespace Sense.Supports

variable {sense : Sense} {allowance : Allowance} {calls others : Calls} {context : Context}
variable {Result : Type} {good : Result → Prop} {first second : Action Result}

theorem withFreshSelect (supports : sense.Supports allowance calls others)
    (inside : sense.Runs good first second) :
    sense.Runs good (withFreshSelect first) (Render.withFreshSelect second) :=
  sense.bind supports.isSettled fun outer _ _ =>
    sense.bind (supports.setSettled false) fun _ _ _ => sense.bind inside fun _ holds _ =>
      sense.bind (supports.setSettled outer) fun _ _ _ => sense.pure holds

theorem enters (supports : sense.Supports allowance calls others) :
    (sense.allowing allowance).Enters calls others where
  body := by
    rintro one _ program id writer ⟨rfl, admits⟩ -
    exact supports.body program id writer admits
  fresh := by
    rintro one _ program id writer ⟨rfl, admits⟩ -
    exact supports.withFreshSelect (supports.body program id writer admits)
  unopened fine := supports.withFreshSelect (sense.pure fine)
  call := by
    rintro called _ one _ bodies given _ writer ⟨⟨rfl, isAllowed⟩, ⟨rfl, admits⟩, rfl, holds⟩ -
    exact supports.call bodies writer isAllowed admits holds
  resolves := by
    rintro value _ one _ writer ⟨⟨rfl, holds⟩, rfl, admits⟩ -
    refine sense.resolveValue False (.same _)
      (fun _ => (supports.allows.returns _).mpr holds) ?_ supports.openPot supports.potText
    rintro called _ pot rfl ⟨⟩
    cases holds with
    | function isAllowed =>
        exact supports.call _ _ isAllowed admits Allowance.holds_noParams
  fail permits _ := supports.fail _ permits

/-- Every step is in accord as soon as inclusions are. -/
theorem conducts (supports : sense.Supports allowance calls others)
    (includes : ∀ {context}, allowance.Admits context → ∀ program name writer,
      sense.Runs sense.fine (renderInclusion calls program writer context name)
        (renderInclusion others program writer context name)) :
    (sense.allowing allowance).Conducts calls others where
  toEnters := supports.enters
  names agree := supports.enters.bodyText supports.serves agree
  compares := by
    rintro comparison one _ bodies given _ writer ⟨⟨rfl, admits⟩, rfl, holds⟩ fine
    refine supports.enters.runComparison (Allowance.comparing admits holds bodies)
      supports.isSettled (fun _ => ?_) fine comparison
    exact sense.bind (supports.setSettled true) fun _ _ _ =>
      supports.enters.renderNamed (Allowance.named admits bodies mainBody) fine
  includes := by
    rintro one _ program name writer ⟨rfl, admits⟩ -
    exact includes admits program name writer
  serves _ := supports.serves

theorem runOps (supports : sense.Supports allowance calls others)
    (conducts : (sense.allowing allowance).Conducts calls others)
    (admits : allowance.Admits context) (program : Program) (ops : List Op) (writer : Writer) :
    sense.Runs sense.Ended (runOps calls program context ops writer)
      (Render.runOps others program context ops writer) :=
  conducts.runOps (fun op _ => Allowance.steps supports.allows admits program op)
    (supports.serves.everywhere writer)

theorem callFunction (supports : sense.Supports allowance calls others)
    (conducts : (sense.allowing allowance).Conducts calls others) {called : Function Value}
    {params : Value.Params} (isAllowed : allowance.allowed called)
    (admits : allowance.Admits context) (holds : params.Holds allowance.allowed) (bodies : Bodies)
    (writer : Writer) :
    sense.Runs sense.Returned (callFunction calls called writer context bodies params)
      (Render.callFunction others called writer context bodies params) :=
  conducts.callFunction (Allowance.calling supports.allows isAllowed admits holds bodies)
    (supports.serves.everywhere writer)

end Sense.Supports

end Render

end BraceTemplate
