import BraceTemplate.Proofs.Output.Debts
import BraceTemplate.Proofs.Render.Keeping
import BraceTemplate.Proofs.Render.Plain

/-!
# Rendering writes what evaluation yields

What a render does through a handle, seen from the segment where the handle writes. Rendering
simulates an evaluation if it writes its text there, or leaves its error as the result of the
outlet. A template that a loader has yet to answer owes its text: its branch stands open in front of
the place where the render goes on.
-/

namespace BraceTemplate

/-- What a loader answers, in the end if not at once; one that registers templates by itself is left
out. -/
def Loader.Gives (answers : String → Except RenderError String) : Loader → Prop
  | none => answers = Evaluate.unanswered
  | immediate source => source = answers
  | registering _ _ => False
  | deferred => True

namespace Render

open Output Evaluate

/-- Where the templates of a render come from. -/
structure Setting where
  config : Config
  /-- The templates that are registered when the render starts. -/
  registry : Members Program
  loader : Loader
  answers : String → Except RenderError String
  gives : loader.Gives answers
  quotes : ∀ name program, registry.find? name = some program → program.Quotes

def Setting.templates (setting : Setting) : Templates :=
  Templates.of setting.config setting.registry setting.answers

def Setting.IsPrompt (setting : Setting) : Prop :=
  match setting.loader with
  | .deferred => False
  | _ => True

theorem Setting.lookup_quotes {setting : Setting} {name : String} {program : Program}
    (found : setting.templates.lookup name = .ok program) : program.Quotes := by
  unfold Setting.templates Templates.of at found
  simp only at found
  split at found
  · rename_i registered
    cases found
    exact setting.quotes _ _ registered
  · split at found
    · cases found
    · split at found
      · cases found
      · rename_i compiled
        cases found
        exact Program.ofSource_quotes compiled

/-- An engine in the middle of a render: what it has registered since the start are answers of the
loader. -/
structure Setting.Suits (setting : Setting) (engine : Engine) : Prop where
  config : engine.config = setting.config
  helpers : engine.helpers = Helper.standard
  filters : engine.filters = Filter.standard
  loader : engine.loader = setting.loader
  kept : ∀ name program, setting.registry.find? name = some program →
    engine.registry.find? name = some program
  known : ∀ name program, engine.registry.find? name = some program →
    setting.templates.lookup name = .ok program

/-- A request with the text that its answer will write on the branch, and a bound on how many
templates that includes. -/
structure Owed where
  request : Request
  text : String
  cost : Nat

/-- The segment that a request keeps open. -/
def Owed.segment (owed : Owed) : Nat :=
  owed.request.branch.segment

/-- The text that a request owes is that of its template. -/
structure Owed.Due (setting : Setting) (depth : Nat) (outlet : OutletId) (owed : Owed) :
    Prop where
  onOutlet : owed.request.branch.outlet = outlet
  untapped : owed.request.branch.taps = []
  tame : owed.request.context.Tame
  unregistered : setting.registry.find? owed.request.template = none
  text : ∃ steps earlier more,
    steps ≤ depth ∧ more.length ≤ owed.cost ∧
      ∀ settled,
        templateText setting.templates (textsWithin setting.templates steps) owed.request.template
            owed.request.context ⟨settled, earlier⟩ =
          some (.ok (owed.text, ⟨settled, earlier ++ more⟩))

def totalCost : List Owed → Nat
  | [] => 0
  | one :: others => one.cost + totalCost others

@[simp]
theorem totalCost_nil : totalCost [] = 0 :=
  rfl

@[simp]
theorem totalCost_append (first second : List Owed) :
    totalCost (first ++ second) = totalCost first + totalCost second := by
  induction first with
  | nil => simp [totalCost]
  | cons one others inductionHypothesis =>
      simp only [List.cons_append, totalCost, inductionHypothesis]
      omega

def debts (owed : List Owed) : Debts :=
  owed.map fun one => (one.segment, one.text)

/-- The state while a render goes on at a handle. -/
structure Ready (setting : Setting) (writer : Writer) (spot : Spot Continuation)
    (store : Store Continuation Observer State) (trace : Trace) : Prop where
  standing : writer.StandsAt spot store
  untapped : writer.taps = []
  suits : setting.Suits store.client.engine
  settled : store.client.settled = trace.settled

/-- Between two moments of a render a text was written at a handle, where some templates were
included and some are owed. Nothing else that can be seen has changed. -/
structure Progress (setting : Setting) (depth : Nat) (writer : Writer) (spot : Spot Continuation)
    (store : Store Continuation Observer State) (text : String) (included : List String)
    (owed : List Owed) (last : Writer) (reached : Spot Continuation)
    (later : Store Continuation Observer State) : Prop where
  standing : last.StandsAt reached later
  sameOutlet : last.outlet = writer.outlet
  untapped : last.taps = []
  sameBehind : reached.behind = spot.behind
  sameOnResult : reached.onResult = spot.onResult
  sofar : ∀ coming : Coming, coming.Pays (debts owed) →
    reached.sofar coming = spot.sofar coming ++ text
  opens : (Segment.openNumbers reached.before).Perm
    (Segment.openNumbers spot.before ++ owed.map Owed.segment)
  others : ∀ id outlet, id ≠ writer.outlet → store.outlets[id]? = some outlet →
    later.outlets[id]? = some outlet
  events : later.events = store.events
  suits : setting.Suits later.client.engine
  requests : later.client.engine.requests =
    store.client.engine.requests ++ owed.map Owed.request
  queue : later.client.engine.queue = store.client.engine.queue
  registered : ∀ name program, store.client.engine.registry.find? name = some program →
    later.client.engine.registry.find? name = some program
  loaded : setting.IsPrompt → ∀ name ∈ included,
    ∃ program, later.client.engine.registry.find? name = some program
  due : ∀ one ∈ owed, one.Due setting depth writer.outlet
  cost : totalCost owed ≤ included.length
  prompt : setting.IsPrompt → owed = []

namespace Progress

variable {setting : Setting} {depth : Nat} {writer middle last : Writer}
variable {spot between reached : Spot Continuation}
variable {store halfway later : Store Continuation Observer State} {first second : String}
variable {included others : List String} {owed further : List Owed}

theorem trans
    (earlier : Progress setting depth writer spot store first included owed middle between halfway)
    (following : Progress setting depth middle between halfway second others further last reached
      later) :
    Progress setting depth writer spot store (first ++ second) (included ++ others)
      (owed ++ further) last reached later := by
  have sameOutlet := following.sameOutlet.trans earlier.sameOutlet
  refine ⟨following.standing, sameOutlet, following.untapped,
    following.sameBehind.trans earlier.sameBehind,
    following.sameOnResult.trans earlier.sameOnResult, ?_, ?_, ?_,
    following.events.trans earlier.events, following.suits, ?_,
    following.queue.trans earlier.queue, ?_, ?_, ?_, ?_, ?_⟩
  · intro coming pays
    rw [debts, List.map_append] at pays
    obtain ⟨early, late⟩ := Coming.pays_append.mp pays
    rw [following.sofar coming late, earlier.sofar coming early, String.append_assoc]
  · rw [List.map_append, ← List.append_assoc]
    exact following.opens.trans (earlier.opens.append_right _)
  · intro id outlet different there
    refine following.others id outlet ?_ (earlier.others id outlet different there)
    rw [earlier.sameOutlet]
    exact different
  · rw [following.requests, earlier.requests, List.map_append, List.append_assoc]
  · intro name program there
    exact following.registered name program (earlier.registered name program there)
  · intro isPrompt name member
    rcases List.mem_append.mp member with early | late
    · obtain ⟨program, there⟩ := earlier.loaded isPrompt name early
      exact ⟨program, following.registered name program there⟩
    · exact following.loaded isPrompt name late
  · intro one member
    rcases List.mem_append.mp member with early | late
    · exact earlier.due one early
    · have due := following.due one late
      rw [earlier.sameOutlet] at due
      exact due
  · have early := earlier.cost
    have late := following.cost
    simp only [totalCost_append, List.length_append]
    omega
  · intro isPrompt
    rw [earlier.prompt isPrompt, following.prompt isPrompt]
    rfl

/-- The end of a progress is a place to go on from. -/
theorem ready {after : Trace}
    (progress : Progress setting depth writer spot store first included owed last reached later)
    (settled : later.client.settled = after.settled) :
    Ready setting last reached later after :=
  ⟨progress.standing, progress.untapped, progress.suits, settled⟩

/-- Where what was written was to be written, what the requests owe is to come. -/
theorem awaits {others : Debts} {whole : String}
    (progress : Progress setting depth writer spot store first included owed last reached later)
    (awaits : spot.Awaits others first whole) :
    reached.Awaits (others ++ debts owed) "" whole := by
  refine ⟨?_, fun coming pays => ?_⟩
  · have opens := progress.opens.append_right (Segment.openNumbers spot.behind)
    have split : (others ++ debts owed).map Prod.fst =
        others.map Prod.fst ++ owed.map Owed.segment := by
      simp [debts, Function.comp_def]
    rw [progress.sameBehind, split]
    refine opens.trans (List.Perm.trans ?_ (awaits.opens.append_right _))
    rw [List.append_assoc, List.append_assoc]
    exact List.perm_append_comm.append_left _
  · obtain ⟨early, late⟩ := Coming.pays_append.mp pays
    rw [progress.sofar coming late, progress.sameBehind, String.append_empty]
    exact awaits.equation coming early

theorem noneOpen
    (progress : Progress setting depth writer spot store first included owed last reached later)
    (isPrompt : setting.IsPrompt) (noneOpen : Segment.openNumbers spot.before = []) :
    Segment.openNumbers reached.before = [] := by
  have opens := progress.opens
  rw [noneOpen, progress.prompt isPrompt] at opens
  exact opens.eq_nil

end Progress

/-- Two stores that differ in nothing that a user or a handle in use sees. -/
structure Unseen (store later : Store Continuation Observer State) : Prop where
  engine : later.client.engine = store.client.engine
  events : later.events = store.events
  outlets : ∀ (id : OutletId) outlet, store.outlets[id]? = some outlet →
    later.outlets[id]? = some outlet

namespace Unseen

variable {setting : Setting} {writer : Writer} {spot : Spot Continuation} {trace : Trace}
variable {store halfway later : Store Continuation Observer State}

theorem refl (store : Store Continuation Observer State) : Unseen store store :=
  ⟨rfl, rfl, fun _ _ there => there⟩

theorem trans (first : Unseen store halfway) (second : Unseen halfway later) :
    Unseen store later :=
  ⟨second.engine.trans first.engine, second.events.trans first.events,
    fun id outlet there => second.outlets id outlet (first.outlets id outlet there)⟩

theorem progress (unseen : Unseen store later) (ready : Ready setting writer spot store trace)
    (depth : Nat) :
    Progress setting depth writer spot store "" [] [] writer spot later := by
  refine ⟨⟨unseen.outlets _ _ ready.standing.there, ready.standing.sameNumber,
      ready.standing.unended, ready.standing.orderly⟩, rfl, ready.untapped, rfl, rfl, ?_, ?_, ?_,
    unseen.events, ?_, ?_, ?_, ?_, ?_, ?_, ?_, fun _ => rfl⟩
  · simp
  · simp
  · exact fun id outlet _ there => unseen.outlets id outlet there
  · rw [unseen.engine]
    exact ready.suits
  · rw [unseen.engine]
    simp
  · rw [unseen.engine]
  · rw [unseen.engine]
    exact fun _ _ there => there
  · simp
  · simp
  · simp

end Unseen

def Advances (setting : Setting) (depth : Nat) (writer : Writer) (spot : Spot Continuation)
    (store : Store Continuation Observer State) (trace : Trace) (text : String) (after : Trace)
    (last : Writer) (later : Store Continuation Observer State) : Prop :=
  ∃ reached owed more,
    after.included = trace.included ++ more ∧ later.client.settled = after.settled ∧
      Progress setting depth writer spot store text more owed last reached later

/-- An action writes the text of an evaluation through a handle, and yields the handle to go on
with. Where the evaluation has an error, the error is the result of the outlet, whatever is rendered
afterwards. The evaluation may be out of steps earlier than the action. -/
def Simulates {Result : Type} (setting : Setting) (depth : Nat) (exactly : Prop) (writer : Writer)
    (evaluation : Evaluation String) (action : Action Result) (result : Writer → Result) : Prop :=
  ∀ spot store trace, Ready setting writer spot store trace →
    (∃ text after last later,
      evaluation trace = some (.ok (text, after)) ∧ action store = some (result last, later) ∧
        Advances setting depth writer spot store trace text after last later) ∨
    (∃ error,
      evaluation trace = some (.error error) ∧
        (setting.IsPrompt → Segment.openNumbers spot.before = [] →
          ∀ yielded later, action store = some (yielded, later) →
            later.HasResult writer.outlet (.error error))) ∨
    (evaluation trace = none ∧ (exactly → setting.IsPrompt → action store = none))

def Quietly {Result : Type} (exactly : Prop) (evaluation : Evaluation Result)
    (action : Action Result) : Prop :=
  ∀ store trace, store.client.engine.filters = Filter.standard →
    store.client.settled = trace.settled →
    (∃ value later,
      evaluation trace = some (.ok (value, trace)) ∧ action store = some (value, later) ∧
        later.client = store.client ∧ Unseen store later) ∨
    (evaluation trace = none ∧ (exactly → action store = none))

section Composing

variable {Result Next Value : Type} {setting : Setting} {depth : Nat} {exactly : Prop}
variable {writer : Writer} {evaluation : Evaluation String}
variable {action : Action Result} {result : Writer → Result}

namespace Quietly

theorem pure (value : Value) :
    Quietly exactly (Pure.pure value : Evaluation Value) (Pure.pure value) := by
  intro store trace _ _
  exact .inl ⟨value, store, rfl, rfl, rfl, .refl store⟩

theorem bind {evaluation : Evaluation Value} {action : Action Value}
    {second : Value → Evaluation Next} {next : Value → Action Next}
    (quietly : Quietly exactly evaluation action)
    (ofNext : ∀ value, Quietly exactly (second value) (next value)) :
    Quietly exactly (evaluation >>= second) (action >>= next) := by
  intro store trace filters settled
  rcases quietly store trace filters settled with
    ⟨value, halfway, evaluated, ran, sameClient, unseen⟩ | ⟨out, none⟩
  · rw [← sameClient] at filters settled
    rcases ofNext value halfway trace filters settled with
      ⟨final, later, evaluatedNext, ranNext, sameLater, unseenNext⟩ | ⟨out, none⟩
    · refine .inl ⟨final, later, ?_, ?_, sameLater.trans sameClient, unseen.trans unseenNext⟩
      · rw [evaluate_bind, evaluated]
        exact evaluatedNext
      · rw [run_bind, ran]
        exact ranNext
    · refine .inr ⟨?_, fun same => ?_⟩
      · rw [evaluate_bind, evaluated]
        exact out
      · rw [run_bind, ran]
        exact none same
  · refine .inr ⟨?_, fun same => ?_⟩
    · rw [evaluate_bind, out]
    · rw [run_bind, none same]
      rfl

end Quietly

namespace Simulates

theorem andThen {next : Result → Action Next} {final : Writer → Next}
    (simulates : Simulates setting depth exactly writer evaluation action result)
    (yields : ∀ last store, next (result last) store = some (final last, store))
    (keeps : ∀ yielded id error, Keeps (Store.HasResult id (.error error)) (next yielded)) :
    Simulates setting depth exactly writer evaluation (action >>= next) final := by
  intro spot store trace ready
  rcases simulates spot store trace ready with
    ⟨text, after, last, later, evaluated, ran, advances⟩ | ⟨error, evaluated, fails⟩ | ⟨out, none⟩
  · refine .inl ⟨text, after, last, later, evaluated, ?_, advances⟩
    rw [run_bind, ran]
    exact yields last later
  · refine .inr (.inl ⟨error, evaluated, fun isPrompt noneOpen yielded later ran => ?_⟩)
    obtain ⟨found, halfway, ranFirst, ranNext⟩ := bind_eq_some.mp ran
    exact keeps found _ _ _ _ _ (fails isPrompt noneOpen found halfway ranFirst) ranNext
  · refine .inr (.inr ⟨out, fun same isPrompt => ?_⟩)
    rw [run_bind, none same isPrompt]
    rfl

theorem append {second : Evaluation String} {next : Result → Action Next} {final : Writer → Next}
    (ofFirst : Simulates setting depth exactly writer evaluation action result)
    (ofNext : ∀ last, Simulates setting depth exactly last second (next (result last)) final)
    (keeps : ∀ yielded id error, Keeps (Store.HasResult id (.error error)) (next yielded)) :
    Simulates setting depth exactly writer (do
      let text ← evaluation
      let others ← second
      Pure.pure (text ++ others)) (action >>= next) final := by
  intro spot store trace ready
  rcases ofFirst spot store trace ready with
    ⟨text, after, middle, halfway, evaluated, ran, between, owed, more, noted, settled,
      progress⟩ | ⟨error, evaluated, fails⟩ | ⟨out, none⟩
  · rcases ofNext middle between halfway after (progress.ready settled) with
      ⟨others, final, last, later, evaluatedNext, ranNext, reached, further, moreNext, notedNext,
        settledNext, progressNext⟩ | ⟨error, evaluatedNext, fails⟩ | ⟨out, none⟩
    · refine .inl ⟨text ++ others, final, last, later, ?_, ?_, reached, owed ++ further,
        more ++ moreNext, ?_, settledNext, progress.trans progressNext⟩
      · rw [evaluate_bind, evaluated]
        simp only
        rw [evaluate_bind, evaluatedNext]
        rfl
      · rw [run_bind, ran]
        exact ranNext
      · rw [notedNext, noted, List.append_assoc]
    · refine .inr (.inl ⟨error, ?_, fun isPrompt noneOpen yielded later ranBoth => ?_⟩)
      · rw [evaluate_bind, evaluated]
        simp only
        rw [evaluate_bind, evaluatedNext]
      · rw [run_bind, ran] at ranBoth
        rw [← progress.sameOutlet]
        exact fails isPrompt (progress.noneOpen isPrompt noneOpen) yielded later ranBoth
    · refine .inr (.inr ⟨?_, fun same isPrompt => ?_⟩)
      · rw [evaluate_bind, evaluated]
        simp only
        rw [evaluate_bind, out]
      · rw [run_bind, ran]
        exact none same isPrompt
  · refine .inr (.inl ⟨error, ?_, fun isPrompt noneOpen yielded later ranBoth => ?_⟩)
    · rw [evaluate_bind, evaluated]
    · obtain ⟨found, halfway, ranFirst, ranNext⟩ := bind_eq_some.mp ranBoth
      exact keeps found _ _ _ _ _ (fails isPrompt noneOpen found halfway ranFirst) ranNext
  · refine .inr (.inr ⟨?_, fun same isPrompt => ?_⟩)
    · rw [evaluate_bind, out]
    · rw [run_bind, none same isPrompt]
      rfl

theorem afterQuietly {evaluation : Evaluation Value} {action : Action Value}
    {second : Value → Evaluation String} {next : Value → Action Next} {final : Writer → Next}
    (quietly : Quietly exactly evaluation action)
    (ofNext : ∀ value,
      Simulates setting depth exactly writer (second value) (next value) final) :
    Simulates setting depth exactly writer (evaluation >>= second) (action >>= next) final := by
  intro spot store trace ready
  rcases quietly store trace ready.suits.filters ready.settled with
    ⟨value, halfway, evaluated, ran, sameClient, unseen⟩ | ⟨out, none⟩
  · have still := unseen.progress ready depth
    have readyNext : Ready setting writer spot halfway trace :=
      still.ready (by rw [sameClient, ready.settled])
    rw [run_bind, ran, evaluate_bind, evaluated]
    rcases ofNext value spot halfway trace readyNext with
      ⟨text, after, last, later, evaluatedNext, ranNext, reached, owed, more, noted, settled,
        progress⟩ | ⟨error, evaluatedNext, fails⟩ | ⟨out, none⟩
    · refine .inl ⟨text, after, last, later, evaluatedNext, ranNext, reached, owed, more, noted,
        settled, ?_⟩
      simpa using still.trans progress
    · exact .inr (.inl ⟨error, evaluatedNext, fails⟩)
    · exact .inr (.inr ⟨out, none⟩)
  · refine .inr (.inr ⟨?_, fun same _ => ?_⟩)
    · rw [evaluate_bind, out]
    · rw [run_bind, none same]
      rfl

theorem afterEngine {next : Engine → Action Next} {final : Writer → Next}
    (ofNext : ∀ engine, setting.Suits engine →
      Simulates setting depth exactly writer evaluation (next engine) final) :
    Simulates setting depth exactly writer evaluation (Render.engine >>= next) final := by
  intro spot store trace ready
  exact ofNext store.client.engine ready.suits spot store trace ready

theorem pure (yielded : Writer → Result) :
    Simulates setting depth exactly writer (Pure.pure "") (Pure.pure (yielded writer)) yielded := by
  intro spot store trace ready
  have still := (Unseen.refl store).progress ready depth
  exact .inl ⟨"", trace, writer, store, rfl, rfl, spot, [], [], by simp, ready.settled, still⟩

end Simulates

end Composing

end Render

end BraceTemplate
