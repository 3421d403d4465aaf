import BraceTemplate.Proofs.Render.Hosting

/-!
# Programs go on from where they have forked

Templates, their programs, and what captures and loaders go on with. A name that is captured and a
template that is asked for are rendered on branches of their own.
-/

namespace BraceTemplate

namespace Render

open Output

namespace Calls.Thread

variable {refuses : HostFunction Value → Bool} {scene : Scene} {writer : Writer} {context : Context}
variable {calls : Calls}

theorem renderTemplate (thread : calls.Thread refuses) {program : Program} (quotes : program.Quotes)
    (settles : context.Settles refuses) :
    Ensures (Sound refuses (scene.use writer)) (renderTemplate calls program writer context)
      fun next => Sound refuses (scene.use next) := by
  exact bind_goes (withFreshSelect_goes
    (thread.renderBody _ _ _ _ _ quotes (settles.withBlocks quotes))) fun last =>
      .pure fun _ sound => sound

theorem findOrCompile_sound (name source : String) :
    Ensures (Sound refuses scene) (findOrCompile name source)
      fun compiled store => (∀ program, compiled = .ok program → program.Quotes) ∧
        Sound refuses scene store := by
  refine engine_sound fun engine ofEngine => ?_
  split
  · rename_i program found
    refine .pure fun store sound => ⟨fun other same => ?_, sound⟩
    cases same
    exact ofEngine.registry _ (Members.mem_of_find? found)
  · split
    · exact .pure fun store sound => ⟨fun other same => (by cases same), sound⟩
    · rename_i program compiled
      have quotes : program.Quotes := Program.ofSource_quotes compiled
      refine Ensures.bind (Ensures.modifyClient fun store sound => ?_) fun _ =>
        .pure fun store sound => ⟨fun other same => Except.ok.inj same ▸ quotes, sound⟩
      exact sound.exchange { sound.engine with
        registry := Members.forall_mem_insert sound.engine.registry quotes } fun _ => Iff.rfl

/-- An answer ends the branch of its request. -/
theorem answer (thread : calls.Thread refuses) (request : Request)
    (settles : request.context.Settles refuses) (source : Except RenderError String) :
    Ensures (Sound refuses (scene.use request.branch)) (answer calls request source)
      fun _ => Sound refuses scene := by
  have failing : ∀ error, Ensures (Sound refuses (scene.use request.branch))
      (discard (request.branch.fail calls.handlers error)) fun _ => Sound refuses scene :=
    fun error => ((fail_drop thread.settling request.branch error).strengthen
      fun _ _ failed => failed.2).discard
  cases source with
  | error error => exact failing error
  | ok text =>
      refine (findOrCompile_sound _ _).bind fun compiled => ?_
      rintro store result later ⟨quotes, sound⟩ ran
      cases compiled with
      | error error => exact failing error store result later sound ran
      | ok program =>
          exact (thread.renderTemplate (quotes program rfl) settles).bind
            (fun last => finish_sound thread.settling last) store result later sound ran

theorem registerSource_sound (name source : String) :
    Ensures (Sound refuses scene) (registerSource name source) fun _ => Sound refuses scene := by
  refine engine_known fun engine settles => ?_
  unfold Engine.addTemplate
  cases compiled : engine.compile (some name) source with
  | error error => exact .pure fun _ held => held.2
  | ok program =>
      have quotes : program.Quotes := Program.ofSource_quotes compiled
      refine modifyEngine_sound { settles with registry := ?_ } fun _ => Iff.rfl
      exact Members.forall_mem_insert settles.registry quotes

/-- A template that is asked for is rendered on a branch, now or when it is there. -/
theorem load (thread : calls.Thread refuses) (settles : context.Settles refuses) (loader : Loader)
    (name : String) :
    Ensures (Sound refuses (scene.use writer)) (load calls loader name writer context)
      fun next => Sound refuses (scene.use next) := by
  cases loader with
  | none =>
      exact (fail_sound thread.settling writer _).strengthen fun _ _ => use_of_same
  | immediate source =>
      refine (fork_sound writer).bind fun forked => ?_
      exact (thread.answer ⟨name, forked.1, context⟩ settles _).bind
        fun _ => .pure fun _ sound => sound
  | registering source reply =>
      refine (fork_sound writer).bind fun forked => ?_
      exact (registerSource_sound _ _).bind fun _ =>
        (thread.answer ⟨name, forked.1, context⟩ settles _).bind
          fun _ => .pure fun _ sound => sound
  | deferred =>
      refine (fork_sound writer).bind fun forked => ?_
      refine (Ensures.modifyClient fun store sound => ?_).bind fun _ => .pure fun _ sound => sound
      refine sound.exchange { sound.engine with requests := ?_ } fun writer => ?_
      · intro request member
        rcases List.mem_append.mp member with before | new
        · exact sound.engine.requests request before
        · rw [List.mem_singleton.mp new]
          exact settles
      · simp only [Engine.keeps, Scene.use, List.map_append, List.map_cons, List.map_nil,
          List.mem_append, List.mem_cons, List.not_mem_nil]
        tauto

theorem renderNamedTemplate (thread : calls.Thread refuses) (settles : context.Settles refuses)
    (name : String) :
    Ensures (Sound refuses (scene.use writer)) (renderNamedTemplate calls name writer context)
      fun next => Sound refuses (scene.use next) := by
  refine engine_sound fun engine ofEngine => ?_
  split
  · rename_i program found
    exact thread.renderTemplate (ofEngine.registry _ (Members.mem_of_find? found)) settles
  · exact thread.load settles _ name

theorem renderInclusion (thread : calls.Thread refuses) {program : Program}
    (quotes : program.Quotes) (settles : context.Settles refuses) (name : Name) :
    Ensures (Sound refuses (scene.use writer)) (renderInclusion calls program writer context name)
      fun next => Sound refuses (scene.use next) := by
  refine engine_sound fun engine _ => ?_
  simp only
  split
  · exact (fail_sound thread.settling writer _).strengthen fun _ _ => use_of_same
  · cases name with
    | literal text => exact thread.renderNamedTemplate (settles.named text) text
    | body id =>
        have including : Capture.Settles refuses (.include context) := settles
        exact capture_sound thread.settling writer including fun scene inner =>
          thread.renderBody _ _ _ _ _ quotes settles

theorem runOp (thread : calls.Thread refuses) {program : Program} (quotes : program.Quotes)
    (settles : context.Settles refuses) {op : Op} (plain : ∀ id ∈ op.quoted, program.IsPlain id) :
    Ensures (Sound refuses (scene.use writer)) (runOp calls program context writer op)
      (Goes refuses scene) := by
  cases op with
  | write text => exact (write_goes writer text).strengthen fun _ _ => Stays.goes
  | reference identifier chain =>
      exact (thread.renderReference settles identifier chain).bind
        fun _ => .pure fun _ sound => sound
  | condition kind identifier rebased exprs entries =>
      cases kind with
      | each =>
          exact thread.renderSection quotes settles.forBodies (params_settle settles quotes plain)
            fun value found => settles.resolve? found
      | present => exact thread.renderNamed quotes settles.forBodies _
      | absent => exact thread.renderNamed quotes settles.forBodies _
  | block name rebased exprs entries =>
      have naming : Ensures (Sound refuses (scene.use writer))
          (blockName calls program context name) fun _ => Sound refuses (scene.use writer) := by
        cases name with
        | literal text => exact .pure fun _ sound => sound
        | body id => exact thread.bodyText quotes settles id
      exact naming.bind fun text => thread.renderBlock quotes settles.forBodies text
  | helper name rebased exprs entries =>
      exact thread.renderHelper quotes settles.forBodies (params_settle settles quotes plain) name
  | inclusion name rebased exprs =>
      have ofParams : (Render.params program context exprs).Settle refuses :=
        params_settle settles quotes fun id member => plain id (List.mem_append_right _ member)
      exact (thread.renderInclusion quotes (settles.forBodies.forPartial ofParams) name).bind
        fun _ => .pure fun _ sound => sound

theorem runOps (thread : calls.Thread refuses) {program : Program} (quotes : program.Quotes)
    (settles : context.Settles refuses) {ops : List Op}
    (plain : ∀ op ∈ ops, ∀ id ∈ op.quoted, program.IsPlain id) (writer : Writer) :
    Ensures (Sound refuses (scene.use writer)) (runOps calls program context ops writer)
      (Goes refuses scene) := by
  induction ops generalizing writer with
  | nil => exact .pure fun _ sound => sound
  | cons op rest inductionHypothesis =>
      exact bind_goes (thread.runOp quotes settles (plain op (by simp)))
        (inductionHypothesis fun other member => plain other (by simp [member]))

theorem renderReference_gathered (thread : calls.Thread refuses) (settles : context.Settles refuses)
    (gathered : gathers writer = true) (identifier : Identifier) (chain : FilterChain) :
    Ensures (Sound refuses (scene.use writer))
      (Render.renderReference calls writer context identifier chain)
      fun next store => next = writer ∧ Sound refuses (scene.use writer) store := by
  unfold Render.renderReference
  cases found : context.resolve? identifier with
  | none => exact .pure fun _ sound => ⟨rfl, sound⟩
  | some value =>
      cases settles.resolve? found with
      | function called =>
          refine (thread.gathered _ _ _ _ called settles gathered).bind fun returned => ?_
          rintro store result later ⟨same, sound⟩ ran
          cases returned with
          | error error =>
              cases ran
              exact ⟨rfl, sound⟩
          | ok returned =>
              cases returned with
              | handle next =>
                  cases ran
                  exact ⟨same _ rfl, sound⟩
              | value value => exact writeValue chain writer value store result later sound ran
      | _ => exact writeValue _ _ _

theorem runOps_gathered (thread : calls.Thread refuses) {program : Program}
    (settles : context.Settles refuses) (gathered : gathers writer = true) {ops : List Op}
    (plain : ∀ op ∈ ops, op.isPlain = true) :
    Ensures (Sound refuses (scene.use writer)) (Render.runOps calls program context ops writer)
      (Stays refuses scene writer) := by
  induction ops with
  | nil => exact .pure fun _ sound => ⟨rfl, sound⟩
  | cons op rest inductionHypothesis =>
      have going : Ensures (Sound refuses (scene.use writer))
          (Render.runOp calls program context writer op) (Stays refuses scene writer) := by
        have isPlain := plain op (by simp)
        cases op with
        | write text => exact write_goes writer text
        | reference identifier chain =>
            exact stays_of_same
              (thread.renderReference_gathered settles gathered identifier chain)
        | condition kind identifier rebased exprs entries => cases isPlain
        | block name rebased exprs entries => cases isPlain
        | helper name rebased exprs entries => cases isPlain
        | inclusion name rebased exprs => cases isPlain
      exact bind_stays going
        (inductionHypothesis fun other member => plain other (by simp [member]))

theorem emit_sound {event : Event} (label : String)
    (reporting : ∀ other, event.reports other = (label == other)) :
    Ensures (Sound refuses scene) (emit event : Action Unit)
      fun _ => Sound refuses (scene.owe label) := by
  intro store result later sound ran
  cases ran
  refine ⟨sound.delivering, fun id outlet there => { sound.outlets id outlet there with },
    fun id outlet there unfinished number awaits => ?_, sound.placed, sound.engine,
    fun other => ?_⟩
  · cases sound.tended id outlet there unfinished number awaits with
    | kept member => exact .kept member
    | capture thereAlso handsOn same => exact .capture thereAlso handsOn same
  · have before := sound.due other
    simp only [reports, unreported, Scene.owe] at before ⊢
    rw [Array.toList_push, List.countP_append, List.countP_singleton, reporting, ← before]
    omega

theorem report_sound (calls : Calls) (label : String) (result : Except RenderError String) :
    Ensures (Sound refuses scene) (resume calls (.report label) result)
      fun _ => Sound refuses (scene.owe label) := by
  cases result with
  | ok text => exact emit_sound label fun _ => rfl
  | error error => exact emit_sound label fun _ => rfl

theorem resume_capture (thread : calls.Thread refuses) (branch : Writer) {next : Capture}
    (settles : next.Settles refuses) (result : Except RenderError String) :
    Ensures (Sound refuses (scene.use branch)) (resume calls (.capture branch next) result)
      fun _ => Sound refuses scene := by
  refine settle_sound thread.settling branch result fun text => ?_
  cases next with
  | «include» context =>
      exact (thread.renderNamedTemplate (settles.named text) text).bind
        fun _ => .pure fun _ sound => sound
  | shout => exact (write_goes branch _).strengthen fun _ _ => Stays.goes

end Calls.Thread

end Render

end BraceTemplate
