import BraceTemplate.Proofs.Output.Clients
import BraceTemplate.Proofs.Program.Everywhere
import BraceTemplate.Proofs.Render.Keeping
import BraceTemplate.Proofs.Render.Respecting

/-!
# Whether a branch of a select has matched

Rendering changes whether a branch of the innermost select has matched in one way only: a comparison
whose context is that of the select notes that it holds. So once a branch has matched this stays, it
stays in contexts that are not those of a select, and it stays where rendering comes to no
comparison in the context of the select: neither among the bodies that it enters nor among those of
the overrides in scope.
-/

namespace BraceTemplate

def Op.compares (helpers : Members Helper) : Op → Bool
  | helper name _ _ _ =>
    match helpers.find? name with
    | some (.builtin (.compare _)) => true
    | _ => false
  | _ => false

def Op.mayYield (name : String) : Op → Bool
  | block (.literal text) _ _ _ => text == name
  | block (.body _) _ _ _ => true
  | _ => false

/-- The bodies that rendering a body may come to: those of the tags in it, and the overrides of the
blocks in it. -/
inductive Program.Reaches (block? : String → Option BlockRef) (program : Program) (id : BodyId) :
    Program → BodyId → Prop
  | here : Reaches block? program id program id
  | within {other : Program} {inner : BodyId} {op : Op} {entry : String × BodyId}
      (reaches : Reaches block? program id other inner) (member : op ∈ other.body inner)
      (opened : entry ∈ op.entries) : Reaches block? program id other entry.2
  | override {other : Program} {inner : BodyId} {op : Op} {name : String} {override : BlockRef}
      (reaches : Reaches block? program id other inner) (member : op ∈ other.body inner)
      (mayYield : op.mayYield name = true) (found : block? name = some override) :
      Reaches block? program id override.program override.body

theorem Program.Reaches.trans {block? : String → Option BlockRef} {program other last : Program}
    {id inner final : BodyId} (first : program.Reaches block? id other inner)
    (second : other.Reaches block? inner last final) : program.Reaches block? id last final := by
  induction second with
  | here => exact first
  | within _ member opened inductionHypothesis => exact inductionHypothesis.within member opened
  | override _ member mayYield found inductionHypothesis =>
      exact inductionHypothesis.override member mayYield found

/-- A function of the host, or a text with tags in it whose body only writes and refers. -/
inductive Function.IsQuoted : Function Value → Prop
  | inline {program : Program} {id : BodyId} {stamp : Stamp} (quotes : program.Quotes)
      (isPlain : program.IsPlain id) : IsQuoted (.inline program id stamp)
  | host (identity : Nat) (function : HostFunction Value) : IsQuoted (.host identity function)

namespace Render

open Output

/-- A context whose texts with tags in them, and those of the programs in scope, only write and
refer, as those of templates compiled from sources do. -/
abbrev IsQuoted (context : Context) : Prop :=
  context.Holds Function.IsQuoted Program.Quotes

/-- A body from which rendering comes to no comparison, with the blocks in scope. -/
structure LacksComparisons (helpers : Members Helper) (block? : String → Option BlockRef)
    (program : Program) (id : BodyId) : Prop where
  quotes : program.Quotes
  lacks : ∀ other inner, program.Reaches block? id other inner →
    ∀ op ∈ other.body inner, op.compares helpers = false

/-- The state of a render with the helpers of its engine and whether a branch of the innermost
select has matched. -/
structure Stands (helpers : Members Helper) (matched : Bool) (state : State) : Prop where
  helpers : state.engine.helpers = helpers
  settled : state.settled = matched

def Sheltered (matched : Bool) (context : Context) : Prop :=
  matched = true ∨ context.select? = none

/-- A body that leaves the innermost select as it is. -/
inductive BodyLeaves (helpers : Members Helper) (matched : Bool) (context : Context)
    (program : Program) (id : BodyId) : Prop
  | sheltered (sheltered : Sheltered matched context)
  | lacking (isQuoted : IsQuoted context)
      (lacks : LacksComparisons helpers context.block? program id)

/-- A tag that leaves the innermost select as it is. -/
inductive TagLeaves (helpers : Members Helper) (matched : Bool) (context : Context)
    (bodies : Bodies) (params : Value.Params) : Prop
  | sheltered (sheltered : Sheltered matched context)
  | lacking (isQuoted : IsQuoted context) (ofParams : params.Holds Function.IsQuoted)
      (ofBodies : ∀ name id, bodies.find? name = some id →
        LacksComparisons helpers context.block? bodies.program id)

/-- Rendering that leaves whether a branch has matched as it is, where the context is sheltered or
no comparison is come to. -/
structure Calls.Leave (calls : Calls) (helpers : Members Helper) (matched : Bool) : Prop where
  handlers : calls.handlers.KeepClient (Stands helpers matched)
  still : ∀ program body writer context,
    KeepsClient (fun state => state.engine.helpers = helpers)
      (calls.renderBody program body writer context)
  renderBody : ∀ program body writer context, BodyLeaves helpers matched context program body →
    KeepsClient (Stands helpers matched) (calls.renderBody program body writer context)
  call : ∀ called writer context bodies params, TagLeaves helpers matched context bodies params →
    (Sheltered matched context ∨ called.IsQuoted) →
      KeepsClient (Stands helpers matched) (calls.call called writer context bodies params)

section Contexts

variable {helpers : Members Helper} {matched : Bool} {context : Context} {program : Program}
variable {block? : String → Option BlockRef} {id : BodyId} {bodies : Bodies} {params : Value.Params}

theorem BodyLeaves.ofFresh (fresh : context.select? = none) :
    BodyLeaves helpers matched context program id :=
  .sheltered (.inr fresh)

/-- A body that only writes and refers comes to nothing else. -/
theorem LacksComparisons.ofPlain (quotes : program.Quotes) (isPlain : program.IsPlain id) :
    LacksComparisons helpers block? program id := by
  have nothing : ∀ other inner, program.Reaches block? id other inner →
      other = program ∧ inner = id := by
    intro other inner reaches
    induction reaches with
    | here => exact ⟨rfl, rfl⟩
    | @within _ _ op _ _ member opened inductionHypothesis =>
        obtain ⟨rfl, rfl⟩ := inductionHypothesis
        have plainOp := isPlain op member
        cases op with
        | write text => cases opened
        | reference identifier chain => cases opened
        | _ => cases plainOp
    | @override _ _ op _ _ _ member mayYield _ inductionHypothesis =>
        obtain ⟨rfl, rfl⟩ := inductionHypothesis
        have plainOp := isPlain op member
        cases op with
        | block name rebased exprs entries => cases plainOp
        | _ => cases mayYield
  refine ⟨quotes, fun other inner reaches op member => ?_⟩
  obtain ⟨rfl, rfl⟩ := nothing other inner reaches
  have plainOp := isPlain op member
  cases op with
  | helper name rebased exprs entries => cases plainOp
  | _ => rfl

theorem LacksComparisons.within (lacks : LacksComparisons helpers block? program id) {op : Op}
    (member : op ∈ program.body id) {entry : String × BodyId} (opened : entry ∈ op.entries) :
    LacksComparisons helpers block? program entry.2 :=
  ⟨lacks.quotes, fun _ _ reaches =>
    lacks.lacks _ _ ((Program.Reaches.here.within member opened).trans reaches)⟩

theorem LacksComparisons.override (lacks : LacksComparisons helpers block? program id) {op : Op}
    (member : op ∈ program.body id) {name : String} (mayYield : op.mayYield name = true)
    {override : BlockRef} (found : block? name = some override)
    (quotes : override.program.Quotes) :
    LacksComparisons helpers block? override.program override.body :=
  ⟨quotes, fun _ _ reaches =>
    lacks.lacks _ _ ((Program.Reaches.here.override member mayYield found).trans reaches)⟩

theorem Bodies.exists_of_find? {name : String} (found : bodies.find? name = some id) :
    ∃ entry ∈ bodies.entries, entry.2 = id := by
  obtain ⟨entry, first, rfl⟩ := Option.map_eq_some_iff.mp found
  exact ⟨entry, List.mem_of_find?_eq_some first, rfl⟩

theorem TagLeaves.body (leaves : TagLeaves helpers matched context bodies params) {name : String}
    (found : bodies.find? name = some id) :
    BodyLeaves helpers matched context bodies.program id := by
  cases leaves with
  | sheltered sheltered => exact .sheltered sheltered
  | lacking isQuoted ofParams ofBodies => exact .lacking isQuoted (ofBodies name id found)

theorem TagLeaves.unbodied (leaves : TagLeaves helpers matched context bodies params) :
    TagLeaves helpers matched context Bodies.none [] := by
  cases leaves with
  | sheltered sheltered => exact .sheltered sheltered
  | lacking isQuoted ofParams ofBodies =>
      exact .lacking isQuoted (fun _ member => absurd member List.not_mem_nil)
        fun _ _ none => by cases none

/-- A frame on top of the context shelters it. -/
theorem TagLeaves.ofFresh (fresh : context.select? = none) :
    TagLeaves helpers matched context bodies params :=
  .sheltered (.inr fresh)

/-- What stands in the parameters of a tag may be called. -/
theorem TagLeaves.param (leaves : TagLeaves helpers matched context bodies params) {key : String}
    {called : Function Value} (found : params.find? key = some (.function called)) :
    Sheltered matched context ∨ called.IsQuoted := by
  cases leaves with
  | sheltered sheltered => exact .inl sheltered
  | lacking isQuoted ofParams ofBodies =>
      cases ofParams.find? found with
      | function isAllowed => exact .inr isAllowed

/-- The context of the bodies of a tag is that of the tag, or a fresh one. -/
theorem TagLeaves.forBodies (leaves : TagLeaves helpers matched context bodies params)
    (rebased : Option Identifier) :
    TagLeaves helpers matched (context.forBodies rebased) bodies params := by
  cases rebased with
  | none => exact leaves
  | some identifier => exact .ofFresh rfl

/-- An inclusion has a frame of its own. -/
theorem select?_forPartial (context : Context) (params : Value.Params) :
    (context.forPartial params).select? = none := by
  unfold Context.forPartial
  simp only
  split
  · cases found : context.frames.head? with
    | none => rfl
    | some frame => rfl
  · rfl

end Contexts

section State

variable {helpers : Members Helper} {matched : Bool} {Result : Type}

theorem keeps_setSettled :
    KeepsClient (Stands helpers matched) (setSettled matched) :=
  KeepsClient.modifyClient fun _ stands => ⟨stands.helpers, rfl⟩

/-- A select of its own leaves the one around it as it is. -/
theorem leaves_withFreshSelect {action : Action Result}
    (still : KeepsClient (fun state => state.engine.helpers = helpers) action) :
    KeepsClient (Stands helpers matched) (withFreshSelect action) := by
  intro store result later stands ran
  have looked : withFreshSelect action store =
      (action { store with client := { store.client with settled := false } }).bind fun found =>
        some (found.1, { found.2 with
          client := { found.2.client with settled := store.client.settled } }) := rfl
  rw [looked] at ran
  obtain ⟨⟨found, reached⟩, inside, same⟩ := Option.bind_eq_some_iff.mp ran
  have kept : reached.client.engine.helpers = helpers :=
    still { store with client := ⟨store.client.engine, false⟩ } found reached stands.helpers inside
  obtain ⟨rfl, rfl⟩ := Prod.mk.inj (Option.some.inj same)
  exact ⟨kept, stands.settled⟩

theorem keeps_modifyEngine {change : Engine → Engine}
    (same : ∀ engine, (change engine).helpers = engine.helpers) :
    KeepsClient (Stands helpers matched) (modifyEngine change) :=
  KeepsClient.modifyClient fun state stands =>
    ⟨(same state.engine).trans stands.helpers, stands.settled⟩

/-- What goes on with the engine may rely on its helpers. -/
theorem keeps_ofEngine {next : Engine → Action Result}
    (each : ∀ engine, engine.helpers = helpers →
      KeepsClient (Stands helpers matched) (next engine)) :
    KeepsClient (Stands helpers matched) (engine >>= next) :=
  fun store result later stands ran =>
    each store.client.engine stands.helpers store result later stands ran

end State

/-! ## The accord -/

/-- It is kept that the innermost select stands as it did. -/
def Sense.standing (helpers : Members Helper) (matched : Bool) : Sense :=
  .keeping (fun store => Stands helpers matched store.client)
    (fun engine => engine.helpers = helpers) (fun _ stands => stands.helpers)
    fun _ => KeepsClient.write

theorem isFree_standing {helpers : Members Helper} {matched : Bool} :
    (Sense.standing helpers matched).IsFree :=
  isFree_keeping

/-- With one context for both renders, what is rendered, called or resolved leaves the innermost
select as it is. -/
def Ground.leaving (helpers : Members Helper) (matched : Bool) : Ground where
  loose := False
  body one other program id := other = one ∧ BodyLeaves helpers matched one program id
  fresh one other _ _ := other = one
  call called another one other bodies given also :=
    (another = called ∧ other = one ∧ also = given) ∧ TagLeaves helpers matched one bodies given ∧
      (Sheltered matched one ∨ called.IsQuoted)
  resolves value another one other :=
    (another = value ∧ other = one) ∧ TagLeaves helpers matched one Bodies.none [] ∧
      ∀ called, value = .function called → Sheltered matched one ∨ called.IsQuoted
  names one other program id := other = one ∧ BodyLeaves helpers matched one program id
  compares one other _ given also := (other = one ∧ also = given) ∧ Sheltered matched one
  includes one other program name :=
    other = one ∧ ∀ id, name = .body id → BodyLeaves helpers matched one program id
  hosts := True

abbrev Accord.leaving (helpers : Members Helper) (matched : Bool) : Accord where
  toSense := .standing helpers matched
  toGround := .leaving helpers matched

namespace TagLeaves

variable {helpers : Members Helper} {matched : Bool} {context : Context} {bodies : Bodies}
variable {params : Value.Params}

theorem named (leaves : TagLeaves helpers matched context bodies params) (name : String) :
    (Accord.leaving helpers matched).Named context context bodies name :=
  fun _ found => ⟨rfl, leaves.body found⟩

theorem named_fresh (bodies : Bodies) (fresh : context.select? = none) (name : String) :
    (Accord.leaving helpers matched).Named context context bodies name :=
  fun _ _ => ⟨rfl, .ofFresh fresh⟩

theorem resolves (leaves : TagLeaves helpers matched context bodies params) :
    (Accord.leaving helpers matched).Resolves context context params params := by
  refine ⟨Value.Params.alike_refl _, fun key value another found _ alike =>
    ⟨⟨alike.eq not_false, rfl⟩, leaves.unbodied, ?_⟩⟩
  rintro called rfl
  exact leaves.param found

theorem each (leaves : TagLeaves helpers matched context bodies params) (value? : Option Value) :
    (Accord.leaving helpers matched).Each context context bodies value? value? where
  alike := Value.foundAlike_refl _
  main _ := leaves.named _
  pushed _ _ _ _ alike := by
    obtain rfl := alike.eq not_false
    exact named_fresh bodies rfl _
  element _ _ _ _ _ := named_fresh bodies rfl _
  otherwise _ := leaves.named _

theorem withParams (leaves : TagLeaves helpers matched context bodies params) :
    TagLeaves helpers matched (withParams context params) bodies params := by
  unfold Render.withParams
  split
  · exact leaves
  · exact .ofFresh rfl

theorem sections (leaves : TagLeaves helpers matched context bodies params)
    (value? : Option Value) :
    (Accord.leaving helpers matched).Section context context bodies params params value?
      value? where
  alike := Value.foundAlike_refl _
  called _ _ _ := ⟨⟨rfl, rfl, rfl⟩, leaves, .inr (.host _ _)⟩
  returned _ _ _ _ _ := leaves.withParams.each _
  plain _ := leaves.withParams.each _

theorem builtin (leaves : TagLeaves helpers matched context bodies params) (helper : BuiltinHelper)
    (comparing : ∀ comparison, helper = .compare comparison → Sheltered matched context) :
    (Accord.leaving helpers matched).Builtin context context bodies params params helper := by
  cases helper with
  | separator => exact ⟨rfl, leaves.named _⟩
  | place => exact ⟨rfl, named_fresh bodies rfl _⟩
  | select => exact ⟨leaves.resolves, fun _ _ _ => rfl⟩
  | compare comparison => exact ⟨⟨rfl, rfl⟩, comparing comparison rfl⟩
  | math => exact ⟨leaves.resolves, fun _ _ _ => rfl⟩
  | size => exact leaves.resolves
  | contextDump => exact ⟨leaves.resolves, rfl, fun _ _ _ => rfl⟩

theorem scope (leaves : TagLeaves helpers matched context bodies params) (scope : Scope) :
    TagLeaves helpers matched (scopeContext context params scope) bodies params := by
  cases scope with
  | same => exact leaves
  | _ => exact .ofFresh rfl

theorem hosting (leaves : TagLeaves helpers matched context bodies params)
    (actions : List HostAction) :
    (Accord.leaving helpers matched).Hosting context context bodies params params actions where
  hosts := trivial
  alike := Value.Params.alike_refl _
  place := rfl
  stack _ := rfl
  resolves key := by
    refine ⟨⟨rfl, rfl⟩, leaves.unbodied, fun called same => ?_⟩
    cases found : params.find? key with
    | none =>
        rw [found] at same
        cases same
    | some value =>
        rw [found] at same
        exact leaves.param (found.trans (congrArg some same))
  scopes scope _ := (leaves.scope scope).named _
  permitted _ _ := trivial

theorem calling (leaves : TagLeaves helpers matched context bodies params)
    {called : Function Value} (callable : Sheltered matched context ∨ called.IsQuoted) :
    (Accord.leaving helpers matched).Calling context context bodies params params called
      called := by
  cases called with
  | inline program body stamp =>
      refine .inline ⟨rfl, ?_⟩
      cases leaves with
      | sheltered sheltered => exact .sheltered sheltered
      | lacking isQuoted ofParams ofBodies =>
          rcases callable with sheltered | ⟨quotes, isPlain⟩
          · exact .sheltered sheltered
          · exact .lacking isQuoted (.ofPlain quotes isPlain)
  | host identity function =>
      refine .host (leaves.hosting _) (fun _ _ => rfl) fun next _ => ?_
      cases function.result <;> trivial

end TagLeaves

namespace BodyLeaves

variable {helpers : Members Helper} {matched : Bool} {context : Context} {program : Program}
variable {id inner : BodyId} {op : Op}

/-- The bodies of a tag, with its parameters, leave the select as it is where the body that the tag
stands in does. -/
theorem tag (leaves : BodyLeaves helpers matched context program id)
    (member : op ∈ program.body id) (exprs : ParamExprs)
    (quoted : ∀ id ∈ exprs.quoted, id ∈ op.quoted) :
    TagLeaves helpers matched context ⟨program, op.entries⟩
      (Render.params program context exprs) := by
  cases leaves with
  | sheltered sheltered => exact .sheltered sheltered
  | lacking isQuoted lacks =>
      refine .lacking isQuoted (Render.holds_params isQuoted fun inner here _ => ?_)
        fun name inner found => ?_
      · exact .inline lacks.quotes (lacks.quotes.isPlain member (quoted inner here))
      · obtain ⟨entry, opened, rfl⟩ := Bodies.exists_of_find? found
        exact lacks.within member opened

/-- The text of a name or a parameter leaves the select as it is. -/
theorem quoted (leaves : BodyLeaves helpers matched context program id)
    (member : op ∈ program.body id) (quoted : inner ∈ op.quoted) :
    BodyLeaves helpers matched context program inner := by
  cases leaves with
  | sheltered sheltered => exact .sheltered sheltered
  | lacking isQuoted lacks =>
      exact .lacking isQuoted (.ofPlain lacks.quotes (lacks.quotes.isPlain member quoted))

/-- The override of a block leaves the select as it is where the body that the block stands in
does. -/
theorem override (leaves : BodyLeaves helpers matched context program id)
    (member : op ∈ program.body id) {name : String} (mayYield : op.mayYield name = true)
    (rebased : Option Identifier) {override : BlockRef}
    (found : (context.forBodies rebased).block? name = some override) :
    BodyLeaves helpers matched (context.forBodies rebased).forBlock override.program
      override.body := by
  cases rebased with
  | some identifier => exact .ofFresh rfl
  | none =>
      cases leaves with
      | sheltered sheltered => exact .sheltered sheltered
      | lacking isQuoted lacks =>
          exact .lacking isQuoted.forBlock
            (lacks.override member mayYield found (isQuoted.block? found))

/-- A function that an identifier stands for may be called. -/
theorem reference {identifier : Identifier}
    (isQuoted : Sheltered matched context ∨ IsQuoted context) {called : Function Value}
    (found : context.resolve? identifier = some (.function called)) :
    TagLeaves helpers matched context Bodies.none [] ∧
      (Sheltered matched context ∨ called.IsQuoted) := by
  rcases isQuoted with sheltered | isQuoted
  · exact ⟨.sheltered sheltered, .inl sheltered⟩
  · refine ⟨.lacking isQuoted (fun _ member => absurd member List.not_mem_nil) nofun, .inr ?_⟩
    cases isQuoted.resolve? found with
    | function isAllowed => exact isAllowed

theorem isQuoted (leaves : BodyLeaves helpers matched context program id) :
    Sheltered matched context ∨ IsQuoted context := by
  cases leaves with
  | sheltered sheltered => exact .inl sheltered
  | lacking isQuoted lacks => exact .inr isQuoted

/-- Every step of a body that leaves the select as it is stands on that ground. -/
theorem steps (leaves : BodyLeaves helpers matched context program id)
    (member : op ∈ program.body id) :
    (Accord.leaving helpers matched).Steps program context context op := by
  cases op with
  | write text => trivial
  | reference identifier chain =>
      refine ⟨Value.foundAlike_refl _, fun called another found again => ?_⟩
      cases found.symm.trans again
      exact ⟨⟨rfl, rfl, rfl⟩, reference leaves.isQuoted found⟩
  | condition kind identifier rebased exprs entries =>
      have own := (leaves.tag member exprs fun _ here => here).forBodies rebased
      cases kind with
      | each => exact own.sections _
      | present => exact ⟨rfl, own.named _⟩
      | absent => exact ⟨rfl, own.named _⟩
  | block name rebased exprs entries =>
      have own := (leaves.tag member exprs fun _ here =>
        List.mem_append_right _ here).forBodies rebased
      refine ⟨?_, fun text isText => ⟨rfl, rfl, fun _ => own.named _,
        fun _ _ _ _ found => ⟨rfl, leaves.override member ?_ rebased found⟩⟩⟩
      · cases name with
        | literal text => trivial
        | body inner => exact ⟨rfl, leaves.quoted member List.mem_cons_self⟩
      · cases name with
        | literal literal => exact beq_iff_eq.mpr (isText literal rfl).symm
        | body inner => rfl
  | helper name rebased exprs entries =>
      have own := (leaves.tag member exprs fun _ here => here).forBodies rebased
      intro engine helper known found
      rw [known] at found
      cases helper with
      | host helper => exact own.hosting _
      | builtin builtin =>
          refine own.builtin builtin fun comparison same => ?_
          subst same
          cases rebased with
          | some identifier => exact .inr rfl
          | none =>
              cases leaves with
              | sheltered sheltered => exact sheltered
              | lacking isQuoted lacks =>
                  have none := lacks.lacks _ _ .here _ member
                  simp only [Op.compares, found, Bool.true_eq_false] at none
  | inclusion name rebased exprs => exact ⟨rfl, fun _ _ => .ofFresh (select?_forPartial _ _)⟩

end BodyLeaves

namespace Calls.Leave

variable {calls : Calls} {helpers : Members Helper} {matched : Bool}
variable {writer : Writer} {context : Context} {bodies : Bodies} {params : Value.Params}

theorem keeps_findOrCompile (name source : String) :
    KeepsClient (Stands helpers matched) (findOrCompile name source) := by
  refine keeps_ofEngine fun engine _ => ?_
  split
  · exact .pure _
  · split
    · exact .pure _
    · exact Keeps.bind (keeps_modifyEngine fun _ => rfl) fun _ => .pure _

theorem keeps_registerSource (name source : String) :
    KeepsClient (Stands helpers matched) (registerSource name source) := by
  refine keeps_ofEngine fun engine same => ?_
  simp only [Engine.addTemplate]
  cases engine.compile (some name) source with
  | error fault => exact .pure _
  | ok program =>
      exact KeepsClient.modifyClient fun _ stands => ⟨same, stands.settled⟩

theorem enters (leave : calls.Leave helpers matched) :
    (Accord.leaving helpers matched).Enters calls calls where
  body := by
    rintro one _ program id writer ⟨rfl, leaves⟩ -
    exact isFree_standing.ended (runs_of_keeps (leave.renderBody _ _ _ _ leaves))
  fresh := by
    rintro one _ program id writer rfl -
    exact isFree_standing.ended (runs_of_keeps (leaves_withFreshSelect (leave.still _ _ _ _)))
  unopened _ := isFree_standing.ended (runs_of_keeps (leaves_withFreshSelect (.pure _)))
  call := by
    rintro called _ one _ bodies given _ writer ⟨⟨rfl, rfl, rfl⟩, leaves, callable⟩ -
    exact isFree_standing.returned (runs_of_keeps (leave.call _ _ _ _ _ leaves callable))
  resolves := by
    rintro value _ one _ writer ⟨⟨rfl, rfl⟩, leaves, callable⟩ -
    refine (Sense.standing helpers matched).resolveValue False (.same _)
      (fun _ => trivial) ?_ (runs_of_keeps KeepsClient.openPot) fun pot =>
        runs_of_keeps (.potText pot)
    rintro called _ pot rfl ⟨⟩
    exact isFree_standing.returned
      (runs_of_keeps (leave.call _ _ _ _ _ leaves (callable called rfl)))
  fail _ _ := runs_of_keeps (KeepsClient.fail leave.handlers _)

theorem serves (leave : calls.Leave helpers matched) :
    (Accord.leaving helpers matched).Serves calls calls where
  everywhere _ := trivial
  opened store outlet later stands ran :=
    ⟨runs_of_keeps KeepsClient.result?, KeepsClient.openOutlet _ store outlet later stands ran⟩
  fork _ := runs_of_keeps KeepsClient.fork
  hold _ _ := runs_of_keeps (keeps_modifyEngine fun _ => rfl)
  finish _ := runs_of_keeps (KeepsClient.finish leave.handlers)
  shout := by
    rintro one _ program id writer ⟨rfl, leaves⟩
    exact runs_of_keeps
      (KeepsClient.capture leave.handlers fun _ => leave.renderBody _ _ _ _ leaves)

theorem loads (leave : calls.Leave helpers matched) :
    (Accord.leaving helpers matched).Loads calls calls fun one other => other = one where
  serves := leave.serves
  permitted _ := trivial
  findOrCompile name source := runs_of_keeps (keeps_findOrCompile name source)
  registerSource name source := runs_of_keeps (keeps_registerSource name source)
  asks _ _ _ := runs_of_keeps (keeps_modifyEngine fun _ => rfl)
  fresh program := by
    rintro rfl
    rfl
  named _ same := by rw [same]
  capture := by
    rintro one _ program id writer - ⟨rfl, leaves⟩
    exact runs_of_keeps
      (KeepsClient.capture leave.handlers fun _ => leave.renderBody _ _ _ _ leaves)

/-- A comparison makes no difference where its context is sheltered. -/
theorem runComparison (leave : calls.Leave helpers matched) (sheltered : Sheltered matched context)
    (comparison : Comparison) :
    KeepsClient (Stands helpers matched)
      (runComparison calls comparison writer context bodies params) := by
  have leaves : TagLeaves helpers matched context bodies params := .sheltered sheltered
  refine keeps_of_runs (leave.enters.runComparison ⟨leaves.resolves, .inr rfl, rfl, fun _ _ => rfl,
    fun _ => leaves.named _, leaves.named _⟩ (runs_of_keeps keeps_isSettled) (fun selected => ?_)
    trivial comparison)
  rcases sheltered with rfl | fresh
  · exact (Sense.standing helpers true).bind (runs_of_keeps keeps_setSettled) fun _ _ _ =>
      leave.enters.renderNamed (leaves.named mainBody) trivial
  · rw [fresh] at selected
    cases selected

theorem renderInclusion (leave : calls.Leave helpers matched) {program : Program} {name : Name}
    (leaves : ∀ id, name = .body id → BodyLeaves helpers matched context program id) :
    KeepsClient (Stands helpers matched)
      (renderInclusion calls program writer context name) :=
  keeps_of_runs (leave.enters.renderInclusion leave.loads rfl rfl rfl name
    (fun id isBody => ⟨rfl, leaves id isBody⟩) writer)

theorem conducts (leave : calls.Leave helpers matched) :
    (Accord.leaving helpers matched).Conducts calls calls where
  toEnters := leave.enters
  names leaves := leave.enters.bodyText leave.serves leaves
  compares := by
    rintro comparison one _ bodies given _ writer ⟨⟨rfl, rfl⟩, sheltered⟩ -
    exact isFree_standing.ended (runs_of_keeps (leave.runComparison sheltered comparison))
  includes := by
    rintro one _ program name writer ⟨rfl, leaves⟩ -
    exact runs_of_keeps (leave.renderInclusion leaves)
  serves _ := leave.serves

theorem renderNamed (leave : calls.Leave helpers matched) {name : String}
    (leaves : ∀ id, bodies.find? name = some id →
      BodyLeaves helpers matched context bodies.program id) :
    KeepsClient (Stands helpers matched) (calls.renderNamed bodies name writer context) :=
  keeps_of_runs (leave.enters.renderNamed (fun id found => ⟨rfl, leaves id found⟩) trivial)

theorem resolveParam? (leave : calls.Leave helpers matched)
    (leaves : TagLeaves helpers matched context bodies params) (key : String) :
    KeepsClient (Stands helpers matched) (resolveParam? calls params key writer context) :=
  keeps_of_runs (leave.enters.resolveParam? leaves.resolves trivial key)

theorem renderReference (leave : calls.Leave helpers matched)
    (isQuoted : Sheltered matched context ∨ IsQuoted context) (identifier : Identifier)
    (chain : FilterChain) :
    KeepsClient (Stands helpers matched)
      (renderReference calls writer context identifier chain) := by
  refine keeps_of_runs (leave.enters.renderReference (Value.foundAlike_refl _)
    (fun called another found again => ?_) trivial chain)
  cases found.symm.trans again
  exact ⟨⟨rfl, rfl, rfl⟩, BodyLeaves.reference isQuoted found⟩

theorem runOp (leave : calls.Leave helpers matched) {program : Program} {id : BodyId}
    (leaves : BodyLeaves helpers matched context program id) {op : Op}
    (member : op ∈ program.body id) :
    KeepsClient (Stands helpers matched) (runOp calls program context writer op) :=
  keeps_of_runs (leave.conducts.runOp (leaves.steps member) trivial)

theorem runOps (leave : calls.Leave helpers matched) {program : Program} {id : BodyId}
    (leaves : BodyLeaves helpers matched context program id) (ops : List Op)
    (members : ∀ op ∈ ops, op ∈ program.body id) :
    KeepsClient (Stands helpers matched) (runOps calls program context ops writer) :=
  keeps_of_runs (leave.conducts.runOps (fun op here => leaves.steps (members op here)) trivial)

theorem callFunction (leave : calls.Leave helpers matched)
    (leaves : TagLeaves helpers matched context bodies params) {called : Function Value}
    (callable : Sheltered matched context ∨ called.IsQuoted) :
    KeepsClient (Stands helpers matched)
      (callFunction calls called writer context bodies params) :=
  keeps_of_runs (leave.conducts.callFunction (leaves.calling callable) trivial)

theorem renderNamedTemplate (leave : calls.Leave helpers matched) (name : String) :
    KeepsClient (Stands helpers matched) (renderNamedTemplate calls name writer context) :=
  keeps_of_runs (leave.enters.renderNamedTemplate leave.loads rfl name writer)

theorem resume (leave : calls.Leave helpers matched) (continuation : Continuation)
    (result : Except RenderError String) :
    KeepsClient (Stands helpers matched) (resume calls continuation result) := by
  cases continuation with
  | report label => cases result <;> exact KeepsClient.emit _
  | capture branch next =>
      refine KeepsClient.settle leave.handlers fun text => ?_
      cases next with
      | «include» context => exact (leave.renderNamedTemplate text).bind fun _ => .pure _
      | shout => exact (KeepsClient.write _).bind fun _ => .pure _

end Calls.Leave

def helperTerms (helpers : Members Helper) : Terms where
  allowance := .all
  tenure := .keeping (fun engine => engine.helpers = helpers) (fun _ _ _ same _ => same)
    (fun _ _ same => same) fun _ _ same => same
  spoken _ := True
  aside := .none _

/-- What respects those terms keeps the helpers. -/
theorem keepsHelpers {helpers : Members Helper} {Result : Type} {action : Action Result}
    {ofResult : Result → Prop} (respects : (helperTerms helpers).Respects ofResult action) :
    KeepsClient (fun state => state.engine.helpers = helpers) action :=
  fun _ _ _ same ran => (respects.ensures (Terms.parallel_self same) ran).1.engine

/-- Rendering never changes the helpers of the engine. -/
theorem keepsHelpers_renderBody (helpers : Members Helper) (depth : Nat) (program : Program)
    (body : BodyId) (writer : Writer) (context : Context) :
    KeepsClient (fun state => state.engine.helpers = helpers)
      ((callsWithin depth).renderBody program body writer context) :=
  keepsHelpers ((callsWithin_respect _ depth).renderBody _ _ _ _ context.holds_true)

/-- Observers only note what they hear. -/
theorem keepsClient_hear {holds : State → Prop} (observer : Observer) (occasion : Occasion) :
    KeepsClient holds (hear observer occasion) :=
  (Keeps.forM (fun event => KeepsClient.emit event) _).bind fun _ => .pure _

/-- Rendering within a bound leaves the innermost select as it is where the context is sheltered or
no comparison is come to. -/
theorem callsWithin_leave (helpers : Members Helper) (matched : Bool) (depth : Nat) :
    (callsWithin depth).Leave helpers matched := by
  induction depth with
  | zero =>
      refine ⟨⟨?_, keepsClient_hear⟩, keepsHelpers_renderBody helpers 0, ?_, ?_⟩
      · intro continuation result
        unfold callsWithin resumeWithin
        exact .outOfSteps
      · intro program body writer context _
        unfold callsWithin renderBodyWithin
        exact .outOfSteps
      · intro called writer context bodies params _ _
        unfold callsWithin callWithin
        exact .outOfSteps
  | succ depth leave =>
      refine ⟨⟨?_, keepsClient_hear⟩, keepsHelpers_renderBody helpers (depth + 1), ?_, ?_⟩
      · intro continuation result
        unfold callsWithin resumeWithin
        exact leave.resume continuation result
      · intro program body writer context leaves
        unfold callsWithin renderBodyWithin
        exact leave.runOps leaves _ fun _ member => member
      · intro called writer context bodies params leaves callable
        unfold callsWithin callWithin
        exact leave.callFunction leaves callable

end Render

end BraceTemplate
