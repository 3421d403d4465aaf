import Mathlib.Data.List.Perm.Basic
import BraceTemplate.Host.Function
import BraceTemplate.Host.Helper
import BraceTemplate.Proofs.Render.Extending
import BraceTemplate.Proofs.Render.Refinement
import BraceTemplate.Proofs.Render.Walking

/-!
# Every render is reported once

Renders that are asked for, and branches that are ended and requests that are answered, each once
and in any order. Where host code hands on the handle it goes on with, and no function that forks is
called for a parameter, every segment that is awaited is tended all the while: nothing is reported
twice, and when nothing waits any more, everything has been reported.
-/

namespace BraceTemplate

namespace Render

open Output

/-! ## Rendering that refuses calls while a parameter is gathered

Rendering within a bound that is out of steps where a function of a certain kind is called with a
handle whose output is gathered for a parameter. What such a function forks would be lost there: the
render goes on from the handle that it has called the function with. Where functions that fork are
refused, every segment that is awaited stays tended.
-/

section Refusing

variable (refuses : HostFunction Value → Bool)

def isRefused (writer : Writer) : Function Value → Bool
  | .inline _ _ _ => false
  | .host _ function => gathers writer && refuses function

mutual

def renderBodyRefusing :
    Nat → Program → BodyId → Writer → Context → Action (Except RenderError Writer)
  | 0, _, _, _, _ => outOfSteps
  | depth + 1, program, body, writer, context =>
    let calls := ⟨⟨depth, resumeRefusing depth, hear⟩, renderBodyRefusing depth, callRefusing depth⟩
    runOps calls program context (program.body body) writer

def callRefusing : Nat → Function Value → Writer → Context → Bodies → Value.Params →
    Action (Except RenderError Returned)
  | 0, _, _, _, _, _ => outOfSteps
  | depth + 1, called, writer, context, bodies, params =>
    let calls := ⟨⟨depth, resumeRefusing depth, hear⟩, renderBodyRefusing depth, callRefusing depth⟩
    if isRefused refuses writer called then outOfSteps
    else callFunction calls called writer context bodies params

def resumeRefusing : Nat → Continuation → Except RenderError String → Action Unit
  | 0, _, _ => outOfSteps
  | depth + 1, continuation, result =>
    let calls := ⟨⟨depth, resumeRefusing depth, hear⟩, renderBodyRefusing depth, callRefusing depth⟩
    resume calls continuation result

end

/-- Rendering within a bound that calls no function of a kind while a parameter is gathered. -/
def callsRefusing (depth : Nat) : Calls :=
  ⟨⟨depth, resumeRefusing refuses depth, hear⟩, renderBodyRefusing refuses depth,
    callRefusing refuses depth⟩

end Refusing

section Threading

variable {refuses : HostFunction Value → Bool} {writer : Writer}

/-- Where nothing is refused, this is how everything is rendered. -/
theorem callsRefusing_of_admitted (admits : ∀ function, refuses function = false) (depth : Nat) :
    callsRefusing refuses depth = callsWithin depth := by
  have admitted : ∀ writer called, isRefused refuses writer called = false := by
    intro writer called
    cases called with
    | inline program id stamp => rfl
    | host identity function => rw [isRefused, admits, Bool.and_false]
  induction depth with
  | zero => rfl
  | succ depth inductionHypothesis =>
      have body : renderBodyRefusing refuses (depth + 1) = renderBodyWithin (depth + 1) := by
        funext program body writer context
        exact congrArg (fun calls => runOps calls program context (program.body body) writer)
          inductionHypothesis
      have calling : callRefusing refuses (depth + 1) = callWithin (depth + 1) := by
        funext called writer context bodies params
        rw [callRefusing, admitted, if_neg Bool.false_ne_true]
        exact congrArg (fun calls => callFunction calls called writer context bodies params)
          inductionHypothesis
      have resuming : resumeRefusing refuses (depth + 1) = resumeWithin (depth + 1) := by
        funext continuation result
        exact congrArg (fun calls => resume calls continuation result) inductionHypothesis
      rw [callsRefusing, callsWithin, body, calling, resuming]

/-- Whatever is yielded where calls are refused is yielded where none is. -/
theorem callsRefusing_extend (refuses : HostFunction Value → Bool) (depth : Nat) :
    (callsRefusing refuses depth).Extend (callsWithin depth) := by
  induction depth with
  | zero =>
      exact ⟨⟨Nat.zero_le _, fun _ _ => .outOfSteps _, fun _ _ => .refl (hear _ _)⟩,
        fun _ _ _ _ => .outOfSteps _, fun _ _ _ _ _ => .outOfSteps _⟩
  | succ depth extend =>
      refine ⟨⟨Nat.le_refl (depth + 1), fun continuation result => ?_,
        fun _ _ => .refl (hear _ _)⟩, ?_, ?_⟩
      · exact extend.resume continuation result
      · exact fun program body _ _ => extend.runOps program (program.body body)
      · intro called writer context bodies params
        simp only [callsRefusing, callRefusing]
        split
        · exact .outOfSteps _
        · exact extend.callFunction called bodies params

/-- A call that is not refused while a parameter is gathered is not of a function of the kind. -/
theorem refuses_of_admitted {called : Function Value} (gathered : gathers writer = true)
    (admitted : ¬isRefused refuses writer called = true) (identity : Nat)
    (function : HostFunction Value) (same : called = .host identity function) :
    refuses function = false := by
  subst same
  simpa [isRefused, gathered] using admitted

theorem callsRefusing_thread (refuses : HostFunction Value → Bool) (depth : Nat) :
    (callsRefusing refuses depth).Thread refuses := by
  induction depth with
  | zero =>
      exact ⟨⟨fun _ _ _ => .outOfSteps, fun _ _ _ _ _ => .outOfSteps⟩,
        fun _ _ _ _ _ _ _ => .outOfSteps, fun _ _ _ _ _ _ _ _ _ _ => .outOfSteps,
        fun _ _ _ _ _ _ _ => .outOfSteps, fun _ _ _ _ _ _ _ _ _ => .outOfSteps⟩
  | succ depth thread =>
      refine ⟨⟨fun scene => ?_, fun scene => ?_⟩, fun scene => ?_, fun scene => ?_, fun scene => ?_,
        fun scene => ?_⟩
      · exact Calls.Thread.report_sound (callsRefusing refuses depth)
      · exact fun branch next result settles => thread.resume_capture branch settles result
      · exact fun program body writer context quotes settles =>
          thread.runOps quotes settles (fun op member id => quotes.isPlain member) writer
      · intro called writer context bodies params ofFunction settles quotes ofParams
        simp only [callsRefusing, callRefusing]
        split
        · exact .outOfSteps
        · exact thread.callFunction settles quotes ofParams ofFunction
      · intro called writer context ofFunction settles gathered
        simp only [callsRefusing, callRefusing]
        split
        · exact .outOfSteps
        · rename_i admitted
          exact thread.callFunction_gathered settles ofFunction gathered
            (refuses_of_admitted gathered admitted)
      · exact fun program body writer context quotes isPlain settles gathered =>
          thread.runOps_gathered settles gathered isPlain

end Threading

/-- What is asked of an engine, or done with what waits with it. -/
inductive Turn where
  | render (name : String) (context : Context) (label : String)
  /-- A render of a loaded template, which waits until the pending renders are run. -/
  | renderProgram (program : Program) (data : Value) (label : String)
  | renderSource (source : String) (data : Value) (label : String)
  | runPending
  /-- A request is answered. -/
  | answer (index : Nat) (source : Except RenderError String)
  /-- A branch that host code keeps is ended with a text, or fails. -/
  | resume (index : Nat) (outcome : Except RenderError String)

def Turn.asks (label : String) : Turn → Bool
  | render _ _ other => other == label
  | renderProgram _ _ other => other == label
  | renderSource _ _ other => other == label
  | runPending => false
  | answer _ _ => false
  | resume _ _ => false

/-- Only such functions occur in the data of a turn as hand on the handle they go on with. -/
def Turn.Settles (refuses : HostFunction Value → Bool) : Turn → Prop
  | render _ context _ => context.Settles refuses
  | renderProgram template data _ => template.Quotes ∧ data.Settles refuses
  | renderSource _ data _ => data.Settles refuses
  | runPending => True
  | answer _ _ => True
  | resume _ _ => True

def asked (label : String) (turns : List Turn) : Nat :=
  turns.countP (Turn.asks label)

def answerAt (calls : Calls) (index : Nat) (source : Except RenderError String) : Action Unit := do
  match (← engine).requests[index]? with
  | none => pure ()
  | some request => do
    modifyEngine fun engine => { engine with requests := engine.requests.eraseIdx index }
    answer calls request source

def resumeAt (calls : Calls) (index : Nat) (outcome : Except RenderError String) : Action Unit := do
  match (← engine).held[index]? with
  | none => pure ()
  | some (_, branch) => do
    modifyEngine fun engine => { engine with held := engine.held.eraseIdx index }
    match outcome with
    | .ok text => branch.finishWith calls.handlers text
    | .error error => discard (branch.fail calls.handlers error)

def takeTurn (calls : Calls) : Turn → Action Unit
  | .render name context label => renderWithContext calls name context label
  | .renderProgram program data label => renderProgram program data label
  | .renderSource source data label => renderSource source data label
  | .runPending => discard (runPending calls)
  | .answer index source => answerAt calls index source
  | .resume index outcome => resumeAt calls index outcome

/-- Takes turns one after the other. -/
def takeTurns (calls : Calls) (turns : List Turn) : Action Unit :=
  turns.forM (takeTurn calls)

theorem Calls.Extend.takeTurns {calls others : Calls} (extend : calls.Extend others)
    (turns : List Turn) : Extends (takeTurns calls turns) (Render.takeTurns others turns) := by
  refine .forM (fun turn => ?_) turns
  cases turn with
  | render name context label => exact (Extends.refl _).bind fun _ => extend.renderToEnd name
  | renderProgram program data label => exact .refl _
  | renderSource source data label => exact .refl _
  | runPending => exact extend.runPending.discard
  | answer index source =>
      refine (Extends.refl _).bind fun engine => ?_
      split
      · exact .refl _
      · exact (Extends.refl _).bind fun _ => extend.answer _ source
  | resume index outcome =>
      refine (Extends.refl _).bind fun engine => ?_
      split
      · exact .refl _
      · refine (Extends.refl _).bind fun _ => ?_
        cases outcome with
        | ok text => exact .finishWith extend.handlers text
        | error error => exact (Extends.fail extend.handlers error).discard

/-- Turns that come to an end where calls are refused come to no call that is. -/
theorem takeTurns_of_refusing {refuses : HostFunction Value → Bool} {depth : Nat}
    {turns : List Turn} {store : Store Continuation Observer State}
    (ended : (takeTurns (callsRefusing refuses depth) turns store).isSome = true) :
    takeTurns (callsRefusing refuses depth) turns store =
      takeTurns (callsWithin depth) turns store := by
  obtain ⟨found, ran⟩ := Option.isSome_iff_exists.mp ended
  rw [ran]
  exact ((callsRefusing_extend refuses depth).takeTurns turns store found ran).symm

section Turns

variable {refuses : HostFunction Value → Bool} {scene : Scene} {calls : Calls}

/-- Of a list, one is taken. -/
theorem mem_map_take {Held Image : Type} {image : Held → Image} {all : List Held} {index : Nat}
    {held : Held} (there : all[index]? = some held) (other : Image) :
    other ∈ all.map image ↔ other = image held ∨ other ∈ (all.eraseIdx index).map image := by
  obtain ⟨bound, rfl⟩ := List.getElem?_eq_some_iff.mp there
  have taken := (List.getElem_cons_eraseIdx_perm bound).map image
  rw [← taken.mem_iff, List.map_cons, List.mem_cons]

namespace Calls.Thread

theorem renderToEnd (thread : calls.Thread refuses) {writer : Writer} {context : Context}
    (settles : context.Settles refuses) (name : String) :
    Ensures (Sound refuses (scene.use writer)) (renderToEnd calls name writer context)
      fun _ => Sound refuses scene :=
  (thread.renderNamedTemplate settles name).bind fun last => finish_sound thread.settling last

/-- An outlet whose result is to be reported is opened. -/
theorem open_sound (label : String) :
    Ensures (Sound refuses scene)
      (openOutlet (.collect "" none (some (.report label))) : Action OutletId)
      fun id => Sound refuses ((scene.owe label).use (Writer.onOutlet id)) := by
  exact openOutlet_sound (some (.report label)) scene.inUse (by simp) (fun _ member => .inl member)
    fun _ member => member

theorem entryContext_settles {context : Context} (settles : context.Settles refuses)
    (name : String) : (entryContext name context).Settles refuses := by
  unfold entryContext
  split
  · exact settles
  · exact settles.named name

theorem renderWithContext (thread : calls.Thread refuses) {context : Context}
    (settles : context.Settles refuses) (name label : String) :
    Ensures (Sound refuses scene) (renderWithContext calls name context label)
      fun _ => Sound refuses (scene.owe label) :=
  (open_sound label).bind fun _ => thread.renderToEnd (entryContext_settles settles name) name

theorem renderProgram_sound {program : Program} {data : Value} (quotes : program.Quotes)
    (settles : data.Settles refuses) (label : String) :
    Ensures (Sound refuses scene) (renderProgram program data label)
      fun _ => Sound refuses (scene.owe label) := by
  refine (open_sound label).bind fun id => ?_
  unfold defer modifyEngine
  refine Ensures.modifyClient fun store sound => ?_
  have context : (programContext program data).Settles refuses := by
    unfold programContext
    split
    · exact Context.Holds.named (.ofValue settles) _
    · exact .ofValue settles
  refine sound.exchange { sound.engine with queue := ?_ } fun writer => ?_
  · intro task member
    rcases List.mem_append.mp member with before | new
    · exact sound.engine.queue task before
    · rw [List.mem_singleton.mp new]
      exact ⟨quotes, context⟩
  · simp only [Engine.keeps, Scene.use, List.map_append, List.map_cons, List.map_nil,
      List.mem_append, List.mem_cons, List.not_mem_nil, Task.writer]
    tauto

theorem renderSource_sound {data : Value} (settles : data.Settles refuses) (source label : String) :
    Ensures (Sound refuses scene) (renderSource source data label)
      fun _ => Sound refuses (scene.owe label) := by
  refine engine_sound fun engine _ => ?_
  split
  · exact emit_sound label fun _ => rfl
  · rename_i program compiled
    exact renderProgram_sound (Program.ofSource_quotes compiled) settles label

theorem runTask (thread : calls.Thread refuses) {task : Task} (settles : task.Settles refuses) :
    Ensures (Sound refuses (scene.use task.writer)) (runTask calls task)
      fun _ => Sound refuses scene := by
  cases task with
  | named name writer context => exact thread.renderToEnd settles name
  | program program writer context =>
      exact (thread.renderTemplate settles.1 settles.2).bind
        fun last => finish_sound thread.settling last

/-- The handles of the renders that wait are taken into use, and each is used up. -/
theorem runPending (thread : calls.Thread refuses) :
    Ensures (Sound refuses scene) (runPending calls) fun _ => Sound refuses scene := by
  have running : ∀ tasks : List Task, (∀ task ∈ tasks, task.Settles refuses) →
      Ensures (Sound refuses { scene with inUse := tasks.map Task.writer ++ scene.inUse })
        (tasks.forM (Render.runTask calls)) fun _ => Sound refuses scene := by
    intro tasks settles
    induction tasks with
    | nil => exact .pure fun _ sound => sound
    | cons task rest inductionHypothesis =>
        exact (thread.runTask (settles task (by simp))).bind
          fun _ => inductionHypothesis fun other member => settles other (by simp [member])
  refine engine_known fun engine settles => ?_
  have taken : Ensures (fun store => store.client.engine = engine ∧ Sound refuses scene store)
      (modifyEngine fun engine => { engine with queue := [] })
      fun _ => Sound refuses
        { scene with inUse := engine.queue.map Task.writer ++ scene.inUse } := by
    refine modifyEngine_sound { settles with queue := by simp } fun writer => ?_
    simp only [Engine.keeps, List.map_nil, List.append_nil, List.mem_append]
    tauto
  exact taken.bind fun _ => (running _ settles.queue).bind fun _ => .pure fun _ sound => sound

theorem answerAt (thread : calls.Thread refuses) (index : Nat)
    (source : Except RenderError String) :
    Ensures (Sound refuses scene) (answerAt calls index source) fun _ => Sound refuses scene := by
  refine engine_known fun engine settles => ?_
  cases there : engine.requests[index]? with
  | none => exact .pure fun _ held => held.2
  | some request =>
      have taken : Ensures (fun store => store.client.engine = engine ∧ Sound refuses scene store)
          (modifyEngine fun engine => { engine with requests := engine.requests.eraseIdx index })
          fun _ => Sound refuses (scene.use request.branch) := by
        refine modifyEngine_sound { settles with
          requests := fun other member => settles.requests other (List.mem_of_mem_eraseIdx member) }
          fun writer => ?_
        simp only [Engine.keeps, List.mem_append, List.mem_cons, mem_map_take there]
        tauto
      exact taken.bind fun _ => thread.answer request
        (settles.requests request (List.mem_of_getElem? there)) source

theorem resumeAt (thread : calls.Thread refuses) (index : Nat)
    (outcome : Except RenderError String) :
    Ensures (Sound refuses scene) (resumeAt calls index outcome) fun _ => Sound refuses scene := by
  refine engine_known fun engine settles => ?_
  cases there : engine.held[index]? with
  | none => exact .pure fun _ held => held.2
  | some entry =>
      have taken : Ensures (fun store => store.client.engine = engine ∧ Sound refuses scene store)
          (modifyEngine fun engine => { engine with held := engine.held.eraseIdx index })
          fun _ => Sound refuses (scene.use entry.2) := by
        refine modifyEngine_sound { settles with } fun writer => ?_
        simp only [Engine.keeps, List.mem_append, List.mem_cons, mem_map_take there]
        tauto
      refine taken.bind fun _ => ?_
      cases outcome with
      | ok text => exact finishWith_sound thread.settling entry.2 text
      | error error =>
          exact ((fail_drop thread.settling entry.2 error).strengthen
            fun _ _ failed => failed.2).discard

/-- After a turn there is one report more to be where it asks for one. -/
theorem takeTurn (thread : calls.Thread refuses) {turn : Turn} (settles : turn.Settles refuses) :
    Ensures (Sound refuses scene) (takeTurn calls turn)
      fun _ => Sound refuses { scene with
        due := fun label => scene.due label + if turn.asks label then 1 else 0 } := by
  cases turn with
  | render name context label => exact thread.renderWithContext settles name label
  | renderProgram program data label => exact renderProgram_sound settles.1 settles.2 label
  | renderSource source data label => exact renderSource_sound settles source label
  | runPending => exact thread.runPending.discard
  | answer index source => exact thread.answerAt index source
  | resume index outcome => exact thread.resumeAt index outcome

theorem takeTurns (thread : calls.Thread refuses) {turns : List Turn}
    (settles : ∀ turn ∈ turns, turn.Settles refuses) :
    Ensures (Sound refuses scene) (takeTurns calls turns)
      fun _ => Sound refuses { scene with
        due := fun label => scene.due label + asked label turns } := by
  induction turns generalizing scene with
  | nil => exact .pure fun _ sound => sound
  | cons turn rest inductionHypothesis =>
      refine (thread.takeTurn (settles turn (by simp))).bind fun _ =>
        (inductionHypothesis fun other member => settles other (by simp [member])).strengthen
          fun _ store sound => ?_
      simpa only [asked, List.countP_cons, Nat.add_assoc, Nat.add_comm, Nat.add_left_comm]
        using sound

end Calls.Thread

end Turns

section Ending

variable {refuses : HostFunction Value → Bool} {scene : Scene}
variable {store : Store Continuation Observer State} {engine : Engine}

/-- The segment at which an unfinished outlet halts is one with which a later outlet goes on, so
that there is always another one. -/
theorem SoundBut.finished (sound : Sound refuses scene store) (idle : scene.inUse = [])
    (delivered : scene.delivering = []) (nothing : store.client.engine.keeps = []) {id : OutletId}
    {outlet : Outlet Continuation Observer} (there : store.outlets[id]? = some outlet) :
    outlet.finished = true := by
  induction left : store.outlets.size - id using Nat.strongRecOn generalizing id outlet with
  | _ count inductionHypothesis =>
      by_contra unfinished
      simp only [Bool.not_eq_true] at unfinished
      have orderly := sound.outlets id outlet there
      rcases orderly.halting unfinished not_false with halting | ⟨delivering, -⟩
      · obtain ⟨number, awaits⟩ := halting.exists_awaits
        cases sound.tended id outlet there unfinished number awaits with
        | kept member => simp [stands, idle, nothing] at member
        | @capture other found branch next thereOther handsOn same =>
            have behind := (sound.outlets other found thereOther).captures branch next handsOn
            have before : id < other := by
              rw [show id = branch.outlet from (congrArg Prod.fst same).symm]
              exact behind.1
            have bound := Store.lt_size_of_outlet thereOther
            have nearer : store.outlets.size - other < count :=
              left ▸ Nat.sub_lt_sub_left (Nat.lt_trans before bound) before
            have finished := inductionHypothesis _ nearer thereOther rfl
            rw [(sound.outlets other found thereOther).finished finished] at handsOn
            cases handsOn
      · rw [delivered] at delivering
        cases delivering

/-- Where nothing waits, nothing is still to be reported. -/
theorem SoundBut.reports_eq (sound : Sound refuses scene store) (idle : scene.inUse = [])
    (delivered : scene.delivering = []) (nothing : store.client.engine.keeps = [])
    (label : String) : reports label store = scene.due label := by
  have none : unreported label store = 0 := by
    refine List.countP_eq_zero.mpr fun outlet member => ?_
    obtain ⟨id, there⟩ := Array.mem_iff_getElem?.mp (Array.mem_toList_iff.mp member)
    have finished := sound.finished idle delivered nothing there
    rw [willReport, (sound.outlets id outlet there).finished finished]
    exact Bool.false_ne_true
  have due := sound.due label
  omega

/-- Nothing is awaited before anything is written. -/
theorem initial_sound (settles : engine.Settles refuses) (nothing : engine.keeps = []) :
    Sound refuses ⟨[], [], fun _ => 0⟩ (.initial ⟨engine, false⟩) where
  delivering := by simp
  outlets := by simp [Store.initial]
  tended := by simp [Store.initial]
  placed := by simp [stands, Store.initial, nothing]
  engine := settles
  due := fun _ => rfl

end Ending

/-- No render has been reported more often than it was asked for, and every segment that is awaited
is on a handle that waits, or that a capture goes on with. Where nothing waits, every render has
been reported as often as it was asked for. -/
structure Completes (turns : List Turn) (store : Store Continuation Observer State) : Prop where
  atMost : ∀ label, reports label store ≤ asked label turns
  tended : ∀ id outlet, store.outlets[id]? = some outlet → outlet.finished = false →
    ∀ number, Segment.Awaits outlet.waiting number → Tended [] store (id, number)
  complete : store.client.engine.keeps = [] → ∀ label, reports label store = asked label turns

section Sessions

variable {refuses : HostFunction Value → Bool} {engine : Engine} {turns : List Turn} {depth : Nat}
variable {later : Store Continuation Observer State}

/-- A session in which calls are refused completes. -/
theorem completes_of_refusing (settles : engine.Settles refuses) (nothing : engine.keeps = [])
    (ofTurns : ∀ turn ∈ turns, turn.Settles refuses)
    (ran : takeTurns (callsRefusing refuses depth) turns (.initial ⟨engine, false⟩) =
      some ((), later)) :
    Completes turns later := by
  have sound := (callsRefusing_thread refuses depth).takeTurns ofTurns _ _ _
    (initial_sound settles nothing) ran
  have due : ∀ label, reports label later + unreported label later = asked label turns := by
    simpa using sound.due
  refine ⟨fun label => ?_, sound.tended, fun keepsNothing label => ?_⟩
  · have sum := due label
    omega
  · simpa using sound.reports_eq rfl rfl keepsNothing label

/-- Where no function of the data forks, every session of renders completes. -/
theorem completes_of_unforked (settles : engine.Settles fun _ => false)
    (nothing : engine.keeps = []) (ofTurns : ∀ turn ∈ turns, turn.Settles fun _ => false)
    (ran : takeTurns (callsWithin depth) turns (.initial ⟨engine, false⟩) = some ((), later)) :
    Completes turns later := by
  rw [← callsRefusing_of_admitted (fun _ => rfl) depth] at ran
  exact completes_of_refusing settles nothing ofTurns ran

/-- A session does not complete where nothing waits and a render that was asked for is not
reported. -/
theorem not_completes {start : Store Continuation Observer State} (once : asked "r" turns = 1)
    (shown : (takeTurns (callsWithin depth) turns start).map
      (fun found => (found.2.client.engine.keeps.isEmpty, reports "r" found.2)) = some (true, 0)) :
    ∃ later, takeTurns (callsWithin depth) turns start = some ((), later) ∧
      later.client.engine.keeps = [] ∧ ¬Completes turns later := by
  obtain ⟨⟨_, later⟩, ran, same⟩ := Option.map_eq_some_iff.mp shown
  simp only [Prod.mk.injEq, List.isEmpty_iff] at same
  refine ⟨later, ran, same.1, fun completes => ?_⟩
  have reported := completes.complete same.1 "r"
  rw [same.2, once] at reported
  cases reported

end Sessions

/-- An engine with one template and the standard helpers. -/
def engineOf (source : String) : Engine :=
  .fresh .standard (Program.ofSources .standard [("main", source)]) .none

theorem settles_engineOf (refuses : HostFunction Value → Bool) (source : String) :
    (engineOf source).Settles refuses where
  registry := fun entry member => by
    obtain ⟨name, source, compiled⟩ := Program.compiled_ofSources .standard _ entry member
    exact Program.ofSource_quotes compiled
  helpers := Members.forall_mem_ofList (by simp [Helper.Settles])
  requests := by simp [engineOf, Engine.fresh, Engine.ofConfig]
  queue := by simp [engineOf, Engine.fresh, Engine.ofConfig]

def forkingData : Value :=
  .object [("f", .function (.host 0 (.waiting "s"))),
    ("g", .function (.host 1 (.returning (.string "xy"))))]

theorem settles_forkingData : forkingData.Settles HostFunction.forks := by
  have forking : Function.Settles HostFunction.forks (.host 0 (.waiting "s")) :=
    .host (.inl rfl) (fun forks => forks) (by simp [HostFunction.waiting])
  have returning : Function.Settles HostFunction.forks (.host 1 (.returning (.string "xy"))) := by
    refine .host (.inr (by simp [HostFunction.returning])) (fun forks => forks) fun value same => ?_
    cases same
    exact .string "xy"
  exact .object (by simp [Value.Holds.function forking, Value.Holds.function returning])

/-- A render, and the end of the branch that is kept then. -/
def forkingTurns : List Turn :=
  [.render "main" (.ofValue forkingData) "r", .resume 0 (.ok "x")]

/-- Where host code hands on the handle it goes on with, and refusing to call functions that fork
while a parameter is gathered changes nothing, a session of renders completes. -/
theorem rendersComplete {engine : Engine} {turns : List Turn} {depth : Nat}
    {later : Store Continuation Observer State} (settles : engine.Settles HostFunction.forks)
    (nothing : engine.keeps = []) (ofTurns : ∀ turn ∈ turns, turn.Settles HostFunction.forks)
    (ran : takeTurns (callsWithin depth) turns (.initial ⟨engine, false⟩) = some ((), later))
    (unrefused :
      takeTurns (callsRefusing HostFunction.forks depth) turns (.initial ⟨engine, false⟩) =
        takeTurns (callsWithin depth) turns (.initial ⟨engine, false⟩)) :
    Completes turns later :=
  completes_of_refusing settles nothing ofTurns (unrefused.trans ran)

/-- A function that forks where it is referred to, beside one that is called for a parameter. -/
theorem rendersComplete_forkedReference :
    ∃ later, takeTurns (callsWithin 9) forkingTurns
        (.initial ⟨engineOf "a{f}{@size key=g/}b", false⟩) = some ((), later) ∧
      Completes forkingTurns later ∧
      later.client.engine.keeps = [] ∧ reports "r" later = 1 := by
  have ofTurns : ∀ turn ∈ forkingTurns, turn.Settles HostFunction.forks := by
    simp only [forkingTurns, List.forall_mem_cons]
    exact ⟨.ofValue settles_forkingData, trivial, by simp⟩
  have unrefused :
      takeTurns (callsRefusing HostFunction.forks 9) forkingTurns
          (.initial ⟨engineOf "a{f}{@size key=g/}b", false⟩) =
        takeTurns (callsWithin 9) forkingTurns
          (.initial ⟨engineOf "a{f}{@size key=g/}b", false⟩) :=
    takeTurns_of_refusing (by decide +kernel)
  have shown :
      (takeTurns (callsWithin 9) forkingTurns
          (.initial ⟨engineOf "a{f}{@size key=g/}b", false⟩)).map
          (fun found => (found.2.client.engine.keeps.isEmpty, reports "r" found.2)) =
        some (true, 1) := by
    decide +kernel
  obtain ⟨⟨_, later⟩, ran, same⟩ := Option.map_eq_some_iff.mp shown
  simp only [Prod.mk.injEq, List.isEmpty_iff] at same
  exact ⟨later, ran, rendersComplete (settles_engineOf _ _) rfl ofTurns ran unrefused, same⟩

/-- A helper that fails after it has forked, and a function that forks while a parameter is
gathered: nothing waits in the end, and the render is not reported. -/
theorem rendersComplete_lostHandle :
    (∃ later, takeTurns (callsWithin 9) [.render "main" (.ofValue .null) "r"]
        (.initial ⟨(engineOf "a{@f/}b").withHelper "f" (.host (.failingForked "f")), false⟩) =
        some ((), later) ∧
      later.client.engine.keeps = [] ∧
      ¬Completes [.render "main" (.ofValue .null) "r"] later) ∧
    ∃ later, takeTurns (callsWithin 9) forkingTurns
        (.initial ⟨engineOf "a{@size key=f/}b", false⟩) = some ((), later) ∧
      later.client.engine.keeps = [] ∧ ¬Completes forkingTurns later := by
  exact ⟨not_completes (by decide) (by decide +kernel),
    not_completes (by decide) (by decide +kernel)⟩

end Render

end BraceTemplate
