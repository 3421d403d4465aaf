import BraceTemplate.Proofs.Output.Collecting
import BraceTemplate.Proofs.Program.Laying
import BraceTemplate.Proofs.Render.Plain
import BraceTemplate.Proofs.Render.Refinement
import BraceTemplate.Proofs.Render.Stepping
import BraceTemplate.Proofs.Render.Watched

/-!
# Steps that end

Two actions end alike where an engine does not change and an outlet hands nothing on: both yield the
same result and leave the same store, in which that still holds and all other outlets are as they
were. Rendering a body ends where rendering the bodies that its steps enter does. Every such body
comes later in the same program, or stands behind one more inclusion or override, so that the bodies
that are left to enter become fewer.
-/

namespace BraceTemplate

/-- A program with at most a number of bodies, each entered in one way and from a smaller number;
those of parameters and names only write and refer. -/
structure Program.IsBounded (size : Nat) (program : Program) : Prop where
  length : program.bodies.length ≤ size
  apart : program.IsApart
  descends : program.Descends
  quotes : program.Quotes

def Function.IsQuotation : Function Value → Prop
  | .inline program id _ => program.IsPlain id ∧ program.IsInner id
  | .host _ _ => False

theorem Function.IsQuotation.exists_inline {called : Function Value}
    (isQuotation : called.IsQuotation) :
    ∃ program id stamp, called = .inline program id stamp ∧ program.IsPlain id ∧
      program.IsInner id := by
  cases called with
  | inline program id stamp => exact ⟨program, id, stamp, rfl, isQuotation⟩
  | host identity function => cases isQuotation

abbrev Context.IsData (size : Nat) (context : Context) : Prop :=
  context.Holds (fun _ => False) (Program.IsBounded size)

namespace Context

variable {size : Nat} {outer inner : Context}

/-- A context of data with the same inclusions and overrides around it as another one. -/
structure Beside (size : Nat) (outer inner : Context) : Prop where
  data : inner.IsData size
  partialDepth : inner.partialDepth = outer.partialDepth
  blockDepth : inner.blockDepth = outer.blockDepth

namespace Beside

variable {value : Value}

theorem refl (data : outer.IsData size) : Beside size outer outer :=
  ⟨data, rfl, rfl⟩

theorem push (beside : Beside size outer inner) (head : value.Holds fun _ => False) :
    Beside size outer (inner.push value) :=
  ⟨beside.data.push head, beside.partialDepth, beside.blockDepth⟩

theorem pushIndexed {index length : Nat} (beside : Beside size outer inner)
    (head : value.Holds fun _ => False) :
    Beside size outer (inner.pushIndexed value index length) :=
  ⟨beside.data.pushIndexed head, beside.partialDepth, beside.blockDepth⟩

theorem pushSelect (beside : Beside size outer inner) (key : Value) :
    Beside size outer (inner.pushSelect key) :=
  ⟨beside.data.pushSelect key, beside.partialDepth, beside.blockDepth⟩

theorem forBodies (data : outer.IsData size) (rebased : Option Identifier) :
    Beside size outer (outer.forBodies rebased) := by
  refine ⟨data.forBodies, ?_, ?_⟩
  · cases rebased <;> rfl
  · cases rebased <;> rfl

end Beside

theorem partialDepth_forPartial (params : Value.Params) :
    (outer.forPartial params).partialDepth = nextWord outer.partialDepth := by
  unfold forPartial
  simp only
  split <;> rfl

theorem blockDepth_forPartial (params : Value.Params) :
    (outer.forPartial params).blockDepth = outer.blockDepth := by
  unfold forPartial
  simp only
  split <;> rfl

theorem mem_blockBodies_of_block? {name : String} {override : BlockRef}
    (found : outer.block? name = some override) :
    override.body ∈ override.program.blockBodies := by
  obtain ⟨program, -, here⟩ := List.exists_of_findSome?_eq_some found
  obtain ⟨body, there, rfl⟩ := Option.map_eq_some_iff.mp here
  exact List.mem_map_of_mem (Members.mem_of_find? there)

end Context

namespace Render

open Output

/-! ## Actions that end -/

/-- The engine is a given one, and a given outlet hands nothing on. -/
structure Steady (root : OutletId) (engine : Engine)
    (store : Store Continuation Observer State) : Prop where
  engine : store.client.engine = engine
  outlet : ∃ outlet, store.outlets[root]? = some outlet ∧ outlet.Collects

def Spares (root : OutletId) (store later : Store Continuation Observer State) : Prop :=
  ∀ id outlet, id ≠ root → store.outlets[id]? = some outlet → later.outlets[id]? = some outlet

def Ends {Result : Type} (root : OutletId) (engine : Engine) (ofResult : Result → Prop)
    (first second : Action Result) : Prop :=
  ∀ store, Steady root engine store → ∃ result later,
    first store = some (result, later) ∧ second store = some (result, later) ∧ ofResult result ∧
      Steady root engine later ∧ Spares root store later

section Ending

variable {Result Next : Type} {root : OutletId} {engine : Engine}
variable {ofResult : Result → Prop} {ofNext : Next → Prop}
variable {store later : Store Continuation Observer State} {writer : Writer}

theorem Spares.refl (store : Store Continuation Observer State) : Spares root store store :=
  fun _ _ _ there => there

theorem Spares.trans {between : Store Continuation Observer State}
    (first : Spares root store between) (second : Spares root between later) :
    Spares root store later :=
  fun id outlet other there => second id outlet other (first id outlet other there)

/-- Changing the outlet alone, to one that hands nothing on. -/
theorem Steady.put (steady : Steady root engine store) {outlet : Outlet Continuation Observer}
    (collects : outlet.Collects) :
    Steady root engine (store.put root outlet) ∧ Spares root store (store.put root outlet) := by
  obtain ⟨before, there, -⟩ := steady.outlet
  refine ⟨⟨steady.engine, outlet, ?_, collects⟩, fun id other different found => ?_⟩
  · exact Store.put_outlets_self _ _ (Store.lt_size_of_outlet there)
  · rwa [Store.put_outlets_of_ne _ _ (Ne.symm different)]

/-- One outlet more. -/
theorem Steady.open (steady : Steady root engine store) (added : Outlet Continuation Observer) :
    Steady root engine (store.open added) ∧ Spares root store (store.open added) := by
  obtain ⟨outlet, there, collects⟩ := steady.outlet
  exact ⟨⟨steady.engine, outlet, Store.open_outlets_of_some there, collects⟩,
    fun _ _ _ found => Store.open_outlets_of_some found⟩

namespace Ends

theorem pure {result : Result} (holds : ofResult result) :
    Ends root engine ofResult (Pure.pure result) (Pure.pure result) :=
  fun store steady => ⟨result, store, rfl, rfl, holds, steady, .refl store⟩

theorem bind {first second : Action Result} {firstNext secondNext : Result → Action Next}
    (ends : Ends root engine ofResult first second)
    (next : ∀ result, ofResult result → Ends root engine ofNext (firstNext result)
      (secondNext result)) :
    Ends root engine ofNext (first >>= firstNext) (second >>= secondNext) := by
  intro store steady
  obtain ⟨result, between, ran, ranOther, holds, still, spares⟩ := ends store steady
  obtain ⟨final, later, ranNext, ranOtherNext, holdsNext, stillNext, sparesNext⟩ :=
    next result holds between still
  refine ⟨final, later, ?_, ?_, holdsNext, stillNext, spares.trans sparesNext⟩
  · rw [run_bind, ran]
    exact ranNext
  · rw [run_bind, ranOther]
    exact ranOtherNext

/-- Reading the engine yields the given one. -/
theorem ofEngine {firstNext secondNext : Engine → Action Result}
    (ends : Ends root engine ofResult (firstNext engine) (secondNext engine)) :
    Ends root engine ofResult (Render.engine >>= firstNext) (Render.engine >>= secondNext) := by
  intro store steady
  obtain ⟨result, later, ran, ranOther, rest⟩ := ends store steady
  refine ⟨result, later, ?_, ?_, rest⟩
  · rw [run_bind, Render.engine, run_bind, run_client, Option.bind_some, run_pure,
      Option.bind_some, steady.engine]
    exact ran
  · rw [run_bind, Render.engine, run_bind, run_client, Option.bind_some, run_pure,
      Option.bind_some, steady.engine]
    exact ranOther

theorem isSettled : Ends root engine (fun _ => True) Render.isSettled Render.isSettled :=
  fun store steady => ⟨store.client.settled, store, rfl, rfl, trivial, steady, .refl store⟩

theorem setSettled (settled : Bool) :
    Ends root engine (fun _ => True) (Render.setSettled settled) (Render.setSettled settled) :=
  fun store steady =>
    ⟨(), { store with client := { store.client with settled := settled } }, rfl, rfl, trivial,
      ⟨steady.engine, steady.outlet⟩, fun _ _ _ there => there⟩

theorem withFreshSelect {first second : Action Result}
    (ends : Ends root engine ofResult first second) :
    Ends root engine ofResult (Render.withFreshSelect first) (Render.withFreshSelect second) :=
  isSettled.bind fun _ _ => (setSettled false).bind fun _ _ => ends.bind fun _ holds =>
    (setSettled _).bind fun _ _ => .pure holds

theorem write (on : writer.IsOn root) (text : String) :
    Ends root engine (Writer.IsOn root) (writer.write text) (writer.write text) := by
  intro store steady
  obtain ⟨outlet, there, collects⟩ := steady.outlet
  rw [← on.outlet] at there
  obtain ⟨after, collected, ran⟩ := write_collects there collects on.untapped text
  rw [on.outlet] at ran
  exact ⟨writer, _, ran, ran, on, steady.put collected⟩

theorem fail {handlers others : Handlers Continuation Observer State}
    (rounds : 0 < handlers.rounds) (otherRounds : 0 < others.rounds) (on : writer.IsOn root)
    (error : RenderError) :
    Ends root engine (Writer.IsOn root) (writer.fail handlers error)
      (writer.fail others error) := by
  intro store steady
  obtain ⟨outlet, there, collects⟩ := steady.outlet
  rw [← on.outlet] at there
  obtain ⟨after, collected, ran⟩ := fail_collects there collects error
  rw [on.outlet] at ran
  exact ⟨writer, _, ran handlers rounds, ran others otherRounds, on, steady.put collected⟩

theorem finish {handlers others : Handlers Continuation Observer State}
    (rounds : 0 < handlers.rounds) (otherRounds : 0 < others.rounds) (on : writer.IsOn root) :
    Ends root engine (fun _ => True) (writer.finish handlers) (writer.finish others) := by
  intro store steady
  obtain ⟨outlet, there, collects⟩ := steady.outlet
  rw [← on.outlet] at there
  obtain ⟨after, collected, ran⟩ := finish_collects there collects
  rw [on.outlet] at ran
  exact ⟨(), _, ran handlers rounds, ran others otherRounds, trivial, steady.put collected⟩

theorem fork (on : writer.IsOn root) :
    Ends root engine (fun forked => forked.1.IsOn root ∧ forked.2.IsOn root)
      (writer.fork : Action (Writer × Writer)) writer.fork := by
  intro store steady
  obtain ⟨outlet, there, collects⟩ := steady.outlet
  rw [← on.outlet] at there
  obtain ⟨branch, next, after, collected, ran⟩ := fork_collects there collects
  rw [on.outlet] at ran
  exact ⟨_, _, ran, ran, ⟨⟨rfl, on.untapped⟩, ⟨rfl, on.untapped⟩⟩, steady.put collected⟩

end Ends

theorem Ends.yielded {first second : Action Result}
    (ends : Ends root engine ofResult first second) :
    Ends root engine (fun result => ofResult result ∧ Yields first result) first second := by
  intro store steady
  obtain ⟨result, later, ran, ranOther, holds, rest⟩ := ends store steady
  exact ⟨result, later, ran, ranOther, ⟨holds, store, later, ran⟩, rest⟩

end Ending

def Sense.ending (root : OutletId) (engine : Engine) : Sense where
  Runs := Ends root engine
  fine := Writer.IsOn root
  permits _ := True
  fails := True
  returns _ := True
  knows known := known = engine
  pure := .pure
  bind ends next := ends.yielded.bind fun result found => next result found.1 found.2
  ofEngine each := .ofEngine (each engine engine.requests rfl)
  write text on := .write on text
  ofText _ := trivial
  ofNothing := trivial
  failed _ _ := trivial
  recursiveBlock _ _ := trivial

abbrev Leaves (root : OutletId) (engine : Engine) (result : Except RenderError Writer) : Prop :=
  (Sense.ending root engine).Ended result

/-! ## What is left to enter -/

/-- A bound on how many bodies may still be entered one within the other: all bodies of a program
for every inclusion and override that is left, and the later bodies of this one. -/
def rank (maxDepth size : Nat) (context : Context) (id : BodyId) : Nat :=
  (2 * maxDepth + 1 - (context.partialDepth + context.blockDepth)) * (size + 1) + (size - id)

section Rank

variable {maxDepth size id other : Nat} {outer inner : Context}

theorem rank_lt_of_later (partialDepth : inner.partialDepth = outer.partialDepth)
    (blockDepth : inner.blockDepth = outer.blockDepth) (later : id < other) (bound : id < size) :
    rank maxDepth size inner other < rank maxDepth size outer id := by
  unfold rank
  rw [partialDepth, blockDepth]
  omega

theorem rank_lt_of_deeper
    (deeper : outer.partialDepth + outer.blockDepth < inner.partialDepth + inner.blockDepth)
    (within : outer.partialDepth + outer.blockDepth ≤ 2 * maxDepth) :
    rank maxDepth size inner other < rank maxDepth size outer id := by
  unfold rank
  obtain ⟨left, remains⟩ : ∃ left,
      2 * maxDepth + 1 - (outer.partialDepth + outer.blockDepth) = left + 1 :=
    ⟨2 * maxDepth - (outer.partialDepth + outer.blockDepth), by omega⟩
  have fewer : 2 * maxDepth + 1 - (inner.partialDepth + inner.blockDepth) ≤ left := by omega
  calc
    (2 * maxDepth + 1 - (inner.partialDepth + inner.blockDepth)) * (size + 1) + (size - other) ≤
        left * (size + 1) + (size - other) :=
      Nat.add_le_add_right (Nat.mul_le_mul_right _ fewer) _
    _ < left * (size + 1) + (size + 1) := by omega
    _ = (left + 1) * (size + 1) := (Nat.succ_mul _ _).symm
    _ ≤ (2 * maxDepth + 1 - (outer.partialDepth + outer.blockDepth)) * (size + 1) +
        (size - id) := by
      rw [remains]
      exact Nat.le_add_right _ _

end Rank

def Writes {Result : Type} (writer : Writer) (first second : Action Result) (result : Result) :
    Prop :=
  ∃ text, ∀ store : Store Continuation Observer State,
    store.client.engine.filters = Filter.standard →
      first store = some (result, writer.wrote text store) ∧
        second store = some (result, writer.wrote text store)

/-- A context with which any template may be entered. -/
structure Opens (maxDepth size limit : Nat) (nesting : Nesting) (context : Context) : Prop where
  data : context.IsData size
  admits : nesting.Admits maxDepth context
  rank : ∀ id, rank maxDepth size context id < limit

/-- A body that may be entered. -/
structure Enterable (maxDepth size limit : Nat) (nesting : Nesting) (context : Context)
    (program : Program) (id : BodyId) : Prop where
  bounded : program.IsBounded size
  data : context.IsData size
  fits : Nesting.Fits maxDepth ((program, id) :: nesting) context
  rank : rank maxDepth size context id < limit

/-- Two ways of rendering end alike on bodies of a rank below a limit that fit in a nesting. -/
structure BodiesHalt (engine : Engine) (size : Nat) (root : OutletId) (limit : Nat)
    (nesting : Nesting) (calls others : Calls) : Prop where
  closed : engine.IsClosed
  /-- The numbers in contexts come to more than is allowed. -/
  passable : engine.config.maxDepth < greatestWord
  registered : ∀ name program, engine.registry.find? name = some program → program.IsBounded size
  rounds : 0 < calls.handlers.rounds
  otherRounds : 0 < others.handlers.rounds
  body : ∀ program (id : BodyId) writer context,
    Enterable engine.config.maxDepth size limit nesting context program id → writer.IsOn root →
      Ends root engine (Leaves root engine) (calls.renderBody program id writer context)
        (others.renderBody program id writer context)

/-- They end alike on plain bodies too, and on inclusions whose name was captured. -/
structure Halting (engine : Engine) (size : Nat) (root : OutletId) (limit : Nat)
    (nesting : Nesting) (calls others : Calls) : Prop
    extends BodiesHalt engine size root limit nesting calls others where
  plain : ∀ program (id : BodyId) writer context, program.IsPlain id → context.IsData size →
    writer.IsDirect → Nesting.Fits engine.config.maxDepth ((program, id) :: nesting) context →
      Writes writer (calls.renderBody program id writer context)
        (others.renderBody program id writer context) (.ok writer)
  function : ∀ program (id : BodyId) stamp writer context bodies params, program.IsPlain id →
    context.IsData size → writer.IsDirect →
      Nesting.Fits engine.config.maxDepth ((program, id) :: nesting) context →
        Writes writer (calls.call (.inline program id stamp) writer context bodies params)
          (others.call (.inline program id stamp) writer context bodies params)
          (.ok (.handle writer))
  captured : ∀ branch context text, branch.IsOn root →
    Opens engine.config.maxDepth size limit nesting context →
      Ends root engine (fun _ => True)
        (calls.handlers.resume (.capture branch (.include context)) (.ok text))
        (others.handlers.resume (.capture branch (.include context)) (.ok text))

/-- A body that is being rendered. -/
structure Entered (maxDepth size limit : Nat) (nesting : Nesting) (program : Program) (id : BodyId)
    (context : Context) : Prop where
  program : program.IsBounded size
  data : context.IsData size
  fits : nesting.Fits maxDepth context
  rank : rank maxDepth size context id ≤ limit
  bound : id < size

/-- A body of a tag, a parameter or a name fits where the tag does. -/
theorem Entered.fits_inner {maxDepth size limit : Nat} {nesting : Nesting}
    {program origin : Program} {id other : BodyId} {context inner : Context}
    (entered : Entered maxDepth size limit nesting program id context)
    (beside : Context.Beside size context inner) (isInner : origin.IsInner other) :
    Nesting.Fits maxDepth ((origin, other) :: nesting) inner := by
  have samePartial := beside.partialDepth
  have bound := entered.fits.partialDepth
  exact entered.fits.enter isInner (by omega) (by omega) beside.blockDepth

/-- A context with which texts with tags in them that were passed on may be rendered. -/
structure Quotable (maxDepth size : Nat) (nesting : Nesting) (context : Context) : Prop where
  data : context.IsData size
  fits : ∀ {program : Program} {id : BodyId}, program.IsInner id →
    Nesting.Fits maxDepth ((program, id) :: nesting) context

theorem Entered.quotable {maxDepth size limit : Nat} {nesting : Nesting} {program : Program}
    {id : BodyId} {context inner : Context}
    (entered : Entered maxDepth size limit nesting program id context)
    (beside : Context.Beside size context inner) : Quotable maxDepth size nesting inner :=
  ⟨beside.data, entered.fits_inner beside⟩

/-! ## The accord -/

/-- With one context for both renders, bodies may be entered and plain bodies be rendered by
themselves; what is included stands in a body that has been entered, and no function of the host is
called. -/
def Ground.ending (maxDepth size limit : Nat) (nesting : Nesting) : Ground where
  loose := False
  body one other program id := other = one ∧ Enterable maxDepth size limit nesting one program id
  fresh one other program id := other = one ∧ Enterable maxDepth size limit nesting one program id
  call _ _ _ _ _ _ _ := False
  resolves value another one other :=
    (another = value ∧ other = one) ∧ value.Holds Function.IsQuotation ∧
      Quotable maxDepth size nesting one
  names one other program id :=
    other = one ∧ program.IsPlain id ∧ program.IsInner id ∧ Quotable maxDepth size nesting one
  compares one other bodies given also :=
    (other = one ∧ also = given) ∧
      (given.Holds Function.IsQuotation ∧ Quotable maxDepth size nesting one) ∧
        ∀ name id, bodies.find? name = some id →
          Enterable maxDepth size limit nesting one bodies.program id
  includes one other program name :=
    other = one ∧ ∃ outer id, Entered maxDepth size limit nesting program id outer ∧
      one.IsData size ∧ one.partialDepth = nextWord outer.partialDepth ∧
        one.blockDepth = outer.blockDepth ∧
          ∀ inner ∈ name.quoted, program.IsPlain inner ∧ program.IsInner inner
  hosts := False

abbrev Accord.ending (engine : Engine) (size : Nat) (root : OutletId) (limit : Nat)
    (nesting : Nesting) : Accord where
  toSense := .ending root engine
  toGround := .ending engine.config.maxDepth size limit nesting

section Grounds

variable {engine : Engine} {size limit : Nat} {root : OutletId} {nesting : Nesting}
variable {program : Program} {id : BodyId} {context inner : Context} {entries : NamedBodies}
variable {params : Value.Params} {value? : Option Value}

namespace Entered

/-- A later body of the program may be entered. -/
theorem later (entered : Entered engine.config.maxDepth size limit nesting program id context)
    (beside : Context.Beside size context inner) {other : BodyId}
    (inside : id < other ∧ program.IsInner other) :
    Enterable engine.config.maxDepth size limit nesting inner program other :=
  ⟨entered.program, beside.data, entered.fits_inner beside inside.2, Nat.lt_of_lt_of_le
    (rank_lt_of_later beside.partialDepth beside.blockDepth inside.1 entered.bound) entered.rank⟩

section Tag

variable (entered : Entered engine.config.maxDepth size limit nesting program id context)
variable (inside : ∀ entry ∈ entries, id < entry.2 ∧ program.IsInner entry.2)
variable (beside : Context.Beside size context inner)

include entered beside

theorem resolves (holds : params.Holds Function.IsQuotation) :
    (Accord.ending engine size root limit nesting).Resolves inner inner params params :=
  ⟨Value.Params.alike_refl _, fun _ _ _ found _ alike =>
    ⟨⟨alike.eq not_false, rfl⟩, holds.find? found, entered.quotable beside⟩⟩

include inside

theorem enterable {name : String} {other : BodyId}
    (found : Bodies.find? ⟨program, entries⟩ name = some other) :
    Enterable engine.config.maxDepth size limit nesting inner program other := by
  obtain ⟨entry, here, rfl⟩ := Option.map_eq_some_iff.mp found
  exact entered.later beside (inside entry (List.mem_of_find?_eq_some here))

theorem named (name : String) :
    (Accord.ending engine size root limit nesting).Named inner inner ⟨program, entries⟩ name :=
  fun _ found => ⟨rfl, entered.enterable inside beside found⟩

theorem selects :
    (Accord.ending engine size root limit nesting).Selects inner inner ⟨program, entries⟩ :=
  fun key _ found => ⟨rfl, entered.enterable inside (beside.pushSelect key) found⟩

theorem each (ofValue : ∀ value, value? = some value → value.Holds fun _ => False) :
    (Accord.ending engine size root limit nesting).Each inner inner ⟨program, entries⟩ value?
      value? where
  alike := Value.foundAlike_refl _
  main _ := entered.named inside beside _
  pushed value _ found _ alike := by
    obtain rfl := alike.eq not_false
    exact entered.named inside (beside.push (ofValue _ found)) _
  element items found item member index := by
    cases ofValue _ found with
    | array ofItems => exact entered.named inside (beside.pushIndexed (ofItems item member)) _
  otherwise _ := entered.named inside beside _

theorem sections (ofValue : ∀ value, value? = some value → value.Holds fun _ => False)
    (ofParams : params.Holds fun _ => False) :
    (Accord.ending engine size root limit nesting).Section inner inner ⟨program, entries⟩ params
      params value? value? := by
  have none : ∀ identity function, value? ≠ some (.function (.host identity function)) := by
    intro identity function isHost
    cases ofValue _ isHost with
    | function isAllowed => exact isAllowed
  refine ⟨Value.foundAlike_refl _, fun _ _ isHost => absurd isHost (none _ _),
    fun _ _ isHost => absurd isHost (none _ _), fun _ => entered.each inside ?_ ofValue⟩
  unfold withParams
  split
  · exact beside
  · exact beside.push (.object ofParams)

theorem builtin (holds : params.Holds Function.IsQuotation) (helper : BuiltinHelper) :
    (Accord.ending engine size root limit nesting).Builtin inner inner ⟨program, entries⟩ params
      params helper := by
  cases helper with
  | separator => exact ⟨rfl, entered.named inside beside _⟩
  | place =>
      refine ⟨rfl, entered.named inside (beside.push ?_) _⟩
      cases inner.index? with
      | none => exact .null
      | some index => exact Value.holds_ofNat index
  | select => exact ⟨entered.resolves beside holds, entered.selects inside beside⟩
  | compare comparison =>
      exact ⟨⟨rfl, rfl⟩, ⟨holds, entered.quotable beside⟩, fun _ _ =>
        entered.enterable inside beside⟩
  | math => exact ⟨entered.resolves beside holds, entered.selects inside beside⟩
  | size => exact entered.resolves beside holds
  | contextDump => exact ⟨entered.resolves beside holds, rfl, fun _ _ _ => rfl⟩

/-- An override is entered behind one more override, which there may be no more of than allowed. -/
theorem block (passable : engine.config.maxDepth < greatestWord) (name : String) :
    (Accord.ending engine size root limit nesting).Block inner inner name ⟨program, entries⟩ := by
  refine ⟨rfl, rfl, fun _ => entered.named inside beside _, ?_⟩
  rintro _ override rfl within found
  have bounded := beside.data.block? found
  have here := beside.blockDepth
  have deeper : inner.forBlock.blockDepth = context.blockDepth + 1 :=
    (nextWord_of_lt (by omega)).trans (congrArg Nat.succ here)
  have same : inner.forBlock.partialDepth = context.partialDepth := beside.partialDepth
  have notRoot : override.body ≠ override.program.root := by
    intro isRoot
    exact bounded.apart.root (isRoot ▸ Context.mem_blockBodies_of_block? found)
  have partialBound := entered.fits.partialDepth
  have blockBound := entered.fits.blockDepth
  refine ⟨rfl, bounded, beside.data.forBlock,
    entered.fits.override notRoot same deeper (by omega), ?_⟩
  exact Nat.lt_of_lt_of_le (rank_lt_of_deeper (by omega) (by omega)) entered.rank

end Tag

/-- Every step of a body that has been entered stands on that ground. -/
theorem steps (entered : Entered engine.config.maxDepth size limit nesting program id context)
    (closed : engine.IsClosed) (passable : engine.config.maxDepth < greatestWord) {op : Op}
    (member : op ∈ program.body id) :
    (Accord.ending engine size root limit nesting).Steps program context context op := by
  have data := entered.data
  have apart := entered.program.apart.step id op member
  have inside : ∀ entry ∈ op.entries, id < entry.2 ∧ program.IsInner entry.2 := fun entry here =>
    ⟨(entered.program.descends id op member).entries entry here,
      apart _ (List.mem_append_left _ (List.mem_map_of_mem here))⟩
  have quotations : ∀ other ∈ op.quoted, program.IsPlain other ∧ program.IsInner other :=
    fun other here => ⟨entered.program.quotes.isPlain member here,
      apart other (List.mem_append_right _ here)⟩
  have passed := (entered.program.descends id op member).passed
  have dataOfPassed : ∀ exprs : ParamExprs, exprs.quoted = [] →
      (params program context exprs).Holds fun _ => False := by
    refine fun exprs none => holds_params data fun other here => ?_
    rw [none] at here
    cases here
  cases op with
  | write text => trivial
  | reference identifier chain =>
      refine ⟨Value.foundAlike_refl _, fun called another found _ => ?_⟩
      cases data.resolve? found with
      | function isAllowed => exact isAllowed
  | condition kind identifier rebased exprs entries =>
      have beside := Context.Beside.forBodies data rebased
      cases kind with
      | each =>
          exact entered.sections inside beside (fun value found => data.resolve? found)
            (dataOfPassed exprs passed)
      | present => exact ⟨rfl, entered.named inside beside _⟩
      | absent => exact ⟨rfl, entered.named inside beside _⟩
  | block name rebased exprs entries =>
      refine ⟨?_, fun text _ => entered.block inside (.forBodies data rebased) passable text⟩
      cases name with
      | literal text => trivial
      | body other =>
          obtain ⟨isPlain, isInner⟩ := quotations other List.mem_cons_self
          exact ⟨rfl, isPlain, isInner, entered.quotable (.refl data)⟩
  | helper name rebased exprs entries =>
      have ofParams : (params program context exprs).Holds Function.IsQuotation :=
        holds_params (data.mono (fun _ none => none.elim) fun _ bounded => bounded)
          fun other here _ => quotations other here
      rintro _ helper rfl found
      rw [closed.helpers] at found
      obtain ⟨builtin, rfl⟩ := standard_builtin found
      exact entered.builtin inside (.forBodies data rebased) ofParams builtin
  | inclusion name rebased exprs =>
      have beside := Context.Beside.forBodies data rebased
      refine ⟨rfl, context, id, entered, beside.data.forPartial (dataOfPassed exprs passed), ?_, ?_,
        fun other here => quotations other (List.mem_append_left _ here)⟩
      · rw [Context.partialDepth_forPartial, beside.partialDepth]
      · rw [Context.blockDepth_forPartial, beside.blockDepth]

end Entered

end Grounds

namespace Halting

variable {engine : Engine} {size limit : Nat} {root : OutletId} {nesting : Nesting}
variable {calls others : Calls} {program : Program} {context inner : Context}
variable {bodies : Bodies} {writer : Writer} {params : Value.Params}

theorem filters_eq (closed : engine.IsClosed) {store : Store Continuation Observer State}
    (steady : Steady root engine store) :
    store.client.engine.filters = Filter.standard := by
  rw [steady.engine]
  exact closed.filters

/-- A function among parameters is called with a tap that keeps what its plain body writes. -/
theorem resolveValue (halting : Halting engine size root limit nesting calls others)
    (quotable : Quotable engine.config.maxDepth size nesting inner) (on : writer.IsOn root)
    {value : Value} (holds : value.Holds Function.IsQuotation) :
    Ends root engine (fun _ => True) (resolveValue calls value writer inner)
      (resolveValue others value writer inner) := by
  cases holds with
  | @function called isQuotation =>
      obtain ⟨origin, body, stamp, rfl, isPlain, isInner⟩ := isQuotation.exists_inline
      intro store steady
      have tapped : (writer.tap (.collect store.pots.size)).taps = [.collect store.pots.size] := by
        rw [Writer.tap, on.untapped]
      obtain ⟨text, ran⟩ := halting.function origin body stamp
        (writer.tap (.collect store.pots.size)) inner Bodies.none [] isPlain quotable.data
        (.inr ⟨_, tapped⟩) (quotable.fits isInner)
      have filters := filters_eq halting.closed steady
      obtain ⟨first, second⟩ := ran { store with pots := store.pots.push "" } filters
      -- The tap keeps the text from the outlet: only its pot has changed.
      have same : (writer.tap (.collect store.pots.size)).wrote text
          ({ store with pots := store.pots.push "" } : Store Continuation Observer State) =
          { store with pots := (store.pots.push "").modify store.pots.size (· ++ text) } := by
        unfold Writer.wrote
        rw [tapped]
      rw [same] at first second
      have gathered :
          ((store.pots.push "").modify store.pots.size (· ++ text)).getD store.pots.size "" =
            text := by
        simp [Array.getElem_modify]
      refine ⟨if text.isEmpty then .bool false else .string text,
        { store with pots := (store.pots.push "").modify store.pots.size (· ++ text) },
        ?_, ?_, trivial, ⟨steady.engine, steady.outlet⟩, fun _ _ _ there => there⟩
      · unfold Render.resolveValue
        simp only [run_bind, run_openPot, Option.bind_some, first, run_potText, gathered]
        rfl
      · unfold Render.resolveValue
        simp only [run_bind, run_openPot, Option.bind_some, second, run_potText, gathered]
        rfl
  | _ => exact .pure trivial

theorem bodyText (halting : Halting engine size root limit nesting calls others)
    (quotable : Quotable engine.config.maxDepth size nesting context) {other : BodyId}
    (isPlain : program.IsPlain other) (isInner : program.IsInner other) :
    Ends root engine (fun _ => True) (bodyText calls program other context)
      (bodyText others program other context) := by
  intro store steady
  have filters := filters_eq halting.closed steady
  obtain ⟨text, ran⟩ := halting.plain program other (Writer.onOutlet store.outlets.size) context
    isPlain quotable.data (.inl rfl) (quotable.fits isInner)
  obtain ⟨first, second⟩ := ran (store.open (Outlet.opened (.collect "" none none))) filters
  exact ⟨text, store.open ((Spot.complete none text).told (.ok text)),
    run_bodyText halting.rounds first, run_bodyText halting.otherRounds second, trivial,
    steady.open _⟩

theorem enters (halting : Halting engine size root limit nesting calls others) :
    (Accord.ending engine size root limit nesting).Enters calls others where
  body := by
    rintro _ _ program id writer ⟨rfl, enterable⟩ on
    exact halting.body program id writer _ enterable on
  fresh := by
    rintro _ _ program id writer ⟨rfl, enterable⟩ on
    exact (halting.body program id writer _ enterable on).withFreshSelect
  unopened on := Ends.withFreshSelect (.pure on)
  call never := never.elim
  resolves := by
    rintro _ _ _ _ writer ⟨⟨rfl, rfl⟩, holds, quotable⟩ on
    exact halting.resolveValue quotable on holds
  fail _ on := Ends.fail halting.rounds halting.otherRounds on _

theorem runComparison (halting : Halting engine size root limit nesting calls others)
    (quotable : Quotable engine.config.maxDepth size nesting inner) (on : writer.IsOn root)
    (holds : params.Holds Function.IsQuotation)
    (enterable : ∀ name id, bodies.find? name = some id →
      Enterable engine.config.maxDepth size limit nesting inner bodies.program id)
    (comparison : Comparison) :
    Ends root engine (Leaves root engine)
      (runComparison calls comparison writer inner bodies params)
      (runComparison others comparison writer inner bodies params) := by
  have named : ∀ name,
      (Accord.ending engine size root limit nesting).Named inner inner bodies name :=
    fun name id found => ⟨rfl, enterable name id found⟩
  have resolves : (Accord.ending engine size root limit nesting).Resolves inner inner params
      params :=
    ⟨Value.Params.alike_refl _, fun _ _ _ found _ alike =>
      ⟨⟨alike.eq not_false, rfl⟩, holds.find? found, quotable⟩⟩
  exact halting.enters.runComparison
    ⟨resolves, .inr rfl, rfl, fun _ _ => rfl, fun _ => named _, named _⟩ .isSettled
    (fun _ => (Ends.setSettled true).bind fun _ _ => halting.enters.renderNamed (named _) on) on
    comparison

end Halting

end Render

end BraceTemplate
