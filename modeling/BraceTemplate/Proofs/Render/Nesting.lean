import BraceTemplate.Proofs.Render.Inclusion

/-!
# Whole programs simulate their evaluation

A name with tags in it is written to an outlet of its own, and handing on its text renders the
template on a branch. With that every step of a program simulates its evaluation, and by induction
on the bound so does rendering within a bound: within the same one exactly, and within a larger one
wherever the evaluation is not out of steps.
-/

namespace BraceTemplate

namespace Output

variable {Continuation Listener Client : Type}

def Writer.capturing (handlers : Handlers Continuation Listener Client)
    (render : Writer → Run Continuation Listener Client (Except RenderError Writer))
    (onResult : Continuation) : Run Continuation Listener Client Unit := do
  let id ← openOutlet (.collect "" none (some onResult))
  match ← render (onOutlet id) with
  | .ok last => last.finish handlers
  | .error error => discard ((onOutlet id).fail handlers error)

theorem Writer.capture_eq (writer : Writer) (handlers : Handlers Continuation Listener Client)
    (render : Writer → Run Continuation Listener Client (Except RenderError Writer))
    (onResult : Writer → Continuation) :
    writer.capture handlers render onResult = (do
      let (branch, next) ← writer.fork
      capturing handlers render (onResult branch)
      pure next) := by
  funext store
  unfold capture capturing
  rw [run_bind, run_bind]
  cases writer.fork store with
  | none => rfl
  | some forked =>
      obtain ⟨⟨branch, next⟩, later⟩ := forked
      simp only [Option.bind_some, run_bind, run_openOutlet]
      rw [← Store.open]
      cases render (onOutlet later.outlets.size)
          (later.open (Outlet.opened (.collect "" none (some (onResult branch))))) with
      | none => rfl
      | some rendered =>
          obtain ⟨ended, reached⟩ := rendered
          cases ended <;> rfl

/-- Capturing what is only a text ends the output with the text. -/
theorem Writer.capturing_eq {store : Store Continuation Listener Client}
    {handlers : Handlers Continuation Listener Client}
    {render : Writer → Run Continuation Listener Client (Except RenderError Writer)}
    {onResult : Continuation} {text : String}
    (ran : render (onOutlet store.outlets.size)
        (store.open (Outlet.opened (.collect "" none (some onResult)))) =
      some (.ok (onOutlet store.outlets.size),
        (onOutlet store.outlets.size).wrote text
          (store.open (Outlet.opened (.collect "" none (some onResult)))))) :
    capturing handlers render onResult store =
      (onOutlet store.outlets.size).finish handlers
        (store.open ((Spot.opening (some onResult)).written text).gathering.outlet) := by
  unfold capturing
  rw [run_bind, run_openOutlet, Option.bind_some, run_bind, ← Store.open, ran, wrote_opening]
  rfl

end Output

namespace Render

open Output Evaluate

/-- Going on with a captured name renders the template under it, and ends the branch. -/
theorem resume_include (calls : Calls) (branch : Writer) (context : Context) (text : String) :
    resume calls (.capture branch (.include context)) (.ok text) = (do
      let last ← renderNamedTemplate calls text branch (context.named text)
      last.finish calls.handlers) := by
  funext store
  simp only [resume, Writer.settle, continueCapture, run_bind]
  cases renderNamedTemplate calls text branch (context.named text) store <;> rfl

namespace Matches

variable {setting : Setting} {depth : Nat} {exactly : Prop} {calls : Calls} {texts : Texts}
variable {writer : Writer} {context : Context} {program : Program}

theorem capturing_concludes (simulates : Matches setting depth exactly calls texts)
    (tame : context.Tame) {id : BodyId} (isPlain : program.IsPlain id) :
    Concludes setting depth exactly writer (do
      let text ← texts.body program id context
      texts.captured text context)
      (Writer.capturing calls.handlers (fun inner => calls.renderBody program id inner context)
        (.capture writer (.include context))) := by
  intro spot store trace ready someOpen
  rw [evaluate_bind]
  generalize same : Continuation.capture writer (.include context) = continuation
  rcases simulates.plain.body program id (Writer.onOutlet store.outlets.size) context isPlain
      (.inl rfl) tame (store.open (Outlet.opened (.collect "" none (some continuation)))) trace
      ready.suits.filters with ⟨out, none⟩ | ⟨text, evaluated, ran⟩
  · rw [out]
    refine .inr (.inr ⟨rfl, fun same _ => ?_⟩)
    unfold Writer.capturing
    rw [run_bind, run_openOutlet, Option.bind_some, run_bind, ← Store.open]
    dsimp only
    rw [none same]
    rfl
  · have rounds := simulates.rounds _ _ _ _ _ evaluated
    have unseen : Unseen store (store.handing (some continuation) text) :=
      ⟨rfl, rfl, fun _ _ there => Store.open_outlets_of_some there⟩
    have start := unseen.progress ready depth
    have readyNext : Ready setting writer spot (store.handing (some continuation) text) trace :=
      start.ready ready.settled
    have different : store.outlets.size ≠ writer.outlet :=
      Nat.ne_of_gt (Store.lt_size_of_outlet ready.standing.there)
    rw [evaluated, Writer.capturing_eq ran]
    simp only
    have captured := simulates.captured text writer context tame
    rw [same] at captured
    rcases captured spot _ trace readyNext someOpen with
      ⟨more, after, last, halfway, reached, owed, included, evaluatedNext, noted, settled, progress,
        handedOn⟩ | ⟨error, evaluatedNext, fails⟩ | ⟨out, none⟩
    · have handedOn :
          handOn calls.handlers (some continuation) (.ok text)
              (store.handing (some continuation) text) =
            some ((), halfway.put writer.outlet reached.closed.gathering.drained.outlet) :=
        handedOn
      have untouched :
          (halfway.put writer.outlet reached.closed.gathering.drained.outlet).outlets[
              store.outlets.size]? =
            some ((Spot.complete (some continuation) text).telling (.ok text)) := by
        rw [Store.put_outlets_of_ne _ _ (Ne.symm different)]
        exact progress.others _ _ different (Store.open_outlets_self _)
      have finished := finish_opening rounds handedOn untouched
      refine .inl ⟨more, after, last,
        halfway.put store.outlets.size ((Spot.complete (some continuation) text).told (.ok text)),
        reached, owed, included, evaluatedNext, noted, settled, ?_, ?_⟩
      · have whole := start.trans progress
        simp only [String.empty_append, List.nil_append] at whole
        exact whole.put_opened (by simp) different _
      · rw [finished, Store.put_comm _ _ _ different]
    · refine .inr (.inl ⟨error, evaluatedNext, fun isPrompt noneOpen later finished => ?_⟩)
      refine finish_opening_hasResult (simulates.handlers_keep _ _) ?_ finished
      exact fun middle handedOn => fails isPrompt noneOpen middle handedOn
    · refine .inr (.inr ⟨out, fun same isPrompt => ?_⟩)
      exact finish_opening_eq_none (none same isPrompt)

theorem renderInclusion (simulates : Matches setting depth exactly calls texts)
    (tame : context.Tame) {name : Name} (isPlain : ∀ id ∈ name.quoted, program.IsPlain id) :
    Simulates setting depth exactly writer
      (inclusionText setting.templates texts program context name)
      (renderInclusion calls program writer context name) id := by
  refine .afterEngine fun engine suits => ?_
  have sameDepth : engine.config.maxDepth = setting.templates.maxDepth := by
    rw [suits.config]
    rfl
  unfold inclusionText
  simp only [sameDepth]
  split
  · exact .fail simulates.handlers_keep
  · cases name with
    | literal text => exact simulates.renderNamedTemplate (tame.named text) text
    | body id =>
        simp only
        rw [Writer.capture_eq]
        exact .branching fun branch =>
          simulates.capturing_concludes tame (isPlain id (by simp [Name.quoted]))

theorem runOp (simulates : Matches setting depth exactly calls texts)
    (untapped : writer.taps = []) (quotes : program.Quotes) (tame : context.Tame) {op : Op}
    (isPlain : ∀ id ∈ op.quoted, program.IsPlain id) :
    Simulates setting depth exactly writer (opText setting.templates texts program context op)
      (runOp calls program context writer op) .ok := by
  cases op with
  | write text => exact write_simulates untapped text
  | reference identifier chain =>
      have plainly :=
        renderReference_plainly simulates.plain (.inl untapped) tame identifier chain
      exact (plainly.andThen fun store => rfl).simulates rfl
  | condition kind identifier rebased exprs entries =>
      have tameParams := tame_params tame isPlain
      cases kind with
      | each =>
          exact simulates.renderSection quotes tame.forBodies
            (fun value found => tame.resolve? found) tameParams
      | present => exact simulates.renderPresence quotes tame.forBodies _
      | absent => exact simulates.renderPresence quotes tame.forBodies _
  | block name rebased exprs entries =>
      have inName : ∀ id ∈ name.quoted, program.IsPlain id := fun id member =>
        isPlain id (by simp [Op.quoted, member])
      exact .afterQuietly (simulates.blockName inName tame) fun text =>
        simulates.renderBlock quotes tame.forBodies text
  | helper name rebased exprs entries =>
      exact simulates.renderHelper untapped quotes tame.forBodies (tame_params tame isPlain) name
  | inclusion name rebased exprs =>
      have inName : ∀ id ∈ name.quoted, program.IsPlain id := fun id member =>
        isPlain id (by simp [Op.quoted, member])
      have tameParams : (params program context exprs).Tame :=
        tame_params tame fun id member => isPlain id (by simp [Op.quoted, member])
      exact (simulates.renderInclusion (tame.forBodies.forPartial tameParams) inName).andThen
        (fun last store => rfl) fun yielded id error => .pure _

/-- The steps of a body write their texts in order. -/
theorem runOps (simulates : Matches setting depth exactly calls texts) (quotes : program.Quotes)
    (tame : context.Tame) {ops : List Op}
    (isPlain : ∀ op ∈ ops, ∀ id ∈ op.quoted, program.IsPlain id) :
    Simulates setting depth exactly writer (opsText setting.templates texts program context ops)
      (runOps calls program context ops writer) .ok := by
  induction ops generalizing writer with
  | nil => exact .pure Except.ok
  | cons op rest inductionHypothesis =>
      have first :
          Simulates setting depth exactly writer
            (opText setting.templates texts program context op)
            (Render.runOp calls program context writer op) .ok :=
        .ofUntapped fun untapped =>
          simulates.runOp untapped quotes tame (isPlain op (by simp))
      refine .append first (fun last => ?_) fun yielded id error => ?_
      · exact inductionHypothesis fun other member => isPlain other (by simp [member])
      · cases yielded with
        | error error => exact .pure _
        | ok next => exact (simulates.keep _ _).runOps _ _

theorem resume_concludes (simulates : Matches setting depth exactly calls texts) (text : String)
    (tame : context.Tame) :
    Concludes setting depth exactly writer
      (templateText setting.templates texts text (context.named text))
      (resume calls (.capture writer (.include context)) (.ok text)) := by
  rw [resume_include]
  refine (simulates.renderNamedTemplate (tame.named text) text).concludes simulates.handlers_keep ?_
  intro trace found evaluated
  obtain ⟨program, more, -, -, always⟩ := templateText_eq_ok simulates.texts_agree evaluated
  exact simulates.programText_rounds (always trace.settled)

end Matches

theorem textsWithin_rounds {templates : Templates} {steps depth : Nat} (bound : steps ≤ depth)
    {program : Program} {body : BodyId} {context : Context} {trace : Trace}
    {found : Except RenderError (String × Trace)}
    (evaluated : (textsWithin templates steps).body program body context trace = some found) :
    0 < depth := by
  cases steps with
  | zero => cases evaluated
  | succ steps => omega

/-- Rendering within a bound simulates evaluating within a smaller one. -/
theorem matches_within (setting : Setting) {steps depth limit : Nat} (bound : steps ≤ depth)
    (below : steps ≤ limit) :
    Matches setting limit (steps = depth) (callsWithin depth)
      (textsWithin setting.templates steps) := by
  induction steps generalizing depth with
  | zero =>
      refine ⟨plainCalls_within _ bound, fun id result => callsWithin_keep depth,
        ⟨0, below, rfl⟩, fun _ _ _ _ _ => textsWithin_rounds bound, ?_, ?_⟩
      · intro program body writer context quotes tame spot store trace ready
        refine .inr (.inr ⟨rfl, ?_⟩)
        rintro rfl isPrompt
        rfl
      · intro text branch context tame spot store trace ready someOpen
        refine .inr (.inr ⟨rfl, ?_⟩)
        rintro rfl isPrompt
        rfl
  | succ steps inductionHypothesis =>
      obtain ⟨depth, rfl⟩ : ∃ smaller, depth = smaller + 1 := ⟨depth - 1, by omega⟩
      have inner := inductionHypothesis (show steps ≤ depth by omega) (by omega)
      have plain := plainCalls_within setting.templates bound
      have exact : steps + 1 = depth + 1 ↔ steps = depth := by omega
      rw [propext exact] at plain ⊢
      refine ⟨plain, fun id result => callsWithin_keep _, ⟨steps + 1, below, rfl⟩,
        fun _ _ _ _ _ => textsWithin_rounds bound, ?_, ?_⟩
      · intro program body writer context quotes tame
        exact inner.runOps quotes tame fun op member id quoted => quotes.isPlain member quoted
      · intro text branch context tame
        exact inner.resume_concludes text tame

end Render

end BraceTemplate
