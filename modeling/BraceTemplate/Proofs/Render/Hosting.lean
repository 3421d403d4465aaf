import BraceTemplate.Proofs.Render.Threading

/-!
# Host code goes on from where it has forked

Host code that hands on the handle it goes on with leaves no segment behind; what neither forks nor
renders stays at its handle, so that it may also fail or stand for a value.
-/

namespace BraceTemplate

namespace Render

open Output

namespace Calls.Thread

variable {refuses : HostFunction Value → Bool} {scene : Scene} {writer : Writer} {context : Context}
variable {calls : Calls}
variable {bodies : Bodies} {params : Value.Params}

/-- What neither forks nor renders stays at its handle. -/
theorem runAction_stays (thread : calls.Thread refuses) (settles : context.Settles refuses)
    (ofParams : params.Settle refuses) {action : HostAction}
    (stays : action.stays = true ∨ (action.forks = false ∧ bodies.entries = [])) :
    Ensures (Sound refuses (scene.use writer))
      (runAction calls writer context bodies params action) (Stays refuses scene writer) := by
  have missing : bodies.entries = [] → ∀ name, bodies.find? name = none := by
    intro empty name
    rw [Bodies.find?, empty]
    rfl
  have here : ∀ store, Sound refuses (scene.use writer) store →
      Stays refuses scene writer (.ok writer) store :=
    fun store sound => ⟨rfl, sound⟩
  cases action with
  | write text => exact write_goes writer text
  | writeParams => exact write_goes writer _
  | writeParam key =>
      refine Ensures.bind (thread.resolveValue ?_ settles) fun value => write_goes writer _
      cases found : params.find? key with
      | none => exact .null
      | some value => exact ofParams.find? found
  | writePlace => exact write_goes writer _
  | writeStack => exact write_goes writer _
  | fail error => exact fail_goes thread.settling writer error
  | fork slot => simp [HostAction.stays, HostAction.forks] at stays
  | forkWriting text => simp [HostAction.stays, HostAction.forks] at stays
  | render body scope =>
      have empty := (stays.resolve_left (by simp [HostAction.stays])).2
      unfold Render.runAction Calls.renderNamed
      simp only [missing empty]
      exact .pure here
  | renderOr body ifNone ifMissing =>
      have empty := (stays.resolve_left (by simp [HostAction.stays])).2
      unfold Render.runAction
      simp only [missing empty]
      exact write_goes writer _
  | renderTapped body change keep =>
      have empty := (stays.resolve_left (by simp [HostAction.stays])).2
      unfold Render.runAction
      simp only [missing empty]
      exact .pure here
  | capture body =>
      have empty := (stays.resolve_left (by simp [HostAction.stays])).2
      unfold Render.runAction
      simp only [missing empty]
      exact .pure here

theorem runActions_stays (thread : calls.Thread refuses) (settles : context.Settles refuses)
    (ofParams : params.Settle refuses) {actions : List HostAction}
    (stays : ∀ action ∈ actions,
      action.stays = true ∨ (action.forks = false ∧ bodies.entries = [])) :
    Ensures (Sound refuses (scene.use writer))
      (runActions calls context bodies params actions writer) (Stays refuses scene writer) := by
  induction actions with
  | nil => exact .pure fun _ sound => ⟨rfl, sound⟩
  | cons action rest inductionHypothesis =>
      exact bind_stays (thread.runAction_stays settles ofParams (stays action (by simp)))
        (inductionHypothesis fun other member => stays other (by simp [member]))

/-- A branch is kept by host code. -/
theorem hold_sound (slot : String) (branch : Writer) :
    Ensures (Sound refuses (scene.use branch)) (hold slot branch) fun _ => Sound refuses scene := by
  unfold hold modifyEngine
  refine Ensures.modifyClient fun store sound => ?_
  refine sound.exchange { sound.engine with } fun writer => ?_
  simp only [Engine.keeps, Scene.use, List.map_append, List.map_cons, List.map_nil, List.mem_append,
    List.mem_cons, List.not_mem_nil]
  tauto

theorem runAction (thread : calls.Thread refuses) (quotes : bodies.program.Quotes)
    (settles : context.Settles refuses) (ofParams : params.Settle refuses) (action : HostAction) :
    Ensures (Sound refuses (scene.use writer))
      (runAction calls writer context bodies params action) (Goes refuses scene) := by
  have staying : action.stays = true → Ensures (Sound refuses (scene.use writer))
      (Render.runAction calls writer context bodies params action) (Goes refuses scene) :=
    fun stays => (thread.runAction_stays settles ofParams (.inl stays)).strengthen
      fun _ _ => Stays.goes
  cases action with
  | write text => exact staying rfl
  | writeParams => exact staying rfl
  | writeParam key => exact staying rfl
  | writePlace => exact staying rfl
  | writeStack => exact staying rfl
  | fail error => exact staying rfl
  | fork slot =>
      refine (fork_sound writer).bind fun forked => ?_
      exact (hold_sound slot forked.1).bind fun _ => .pure fun _ sound => sound
  | forkWriting text =>
      refine (fork_sound writer).bind fun forked => ?_
      exact (finishWith_sound thread.settling forked.1 text).bind
        fun _ => .pure fun _ sound => sound
  | render body scope =>
      refine thread.renderNamed quotes ?_ _
      cases scope with
      | same => exact settles
      | pushText text => exact settles.push (.string text)
      | pushParams => exact settles.push (.object ofParams)
      | rebaseParams => exact settles.rebase (.object ofParams)
      | pushIndexed text index length => exact settles.pushIndexed (.string text)
  | renderOr body ifNone ifMissing =>
      unfold Render.runAction
      simp only
      split
      · exact thread.renderBody _ _ _ _ _ quotes settles
      · exact (write_goes writer _).strengthen fun _ _ => Stays.goes
  | renderTapped body change keep =>
      unfold Render.runAction
      simp only
      split
      · exact .pure fun _ sound => sound
      · refine Ensures.weaken (bind_goes (thread.renderBody scene _ _ (writer.tap (.change change))
          _ quotes settles) fun tapped => .pure fun store sound => ?_)
          fun store sound => Sound.retap sound rfl
        cases keep with
        | true => exact sound
        | false => exact Sound.retap sound rfl
  | capture body =>
      unfold Render.runAction
      simp only
      split
      · exact .pure fun _ sound => sound
      · have shouting : Capture.Settles refuses .shout := trivial
        exact (capture_sound thread.settling writer shouting fun scene inner =>
          thread.renderBody _ _ _ _ _ quotes settles).bind fun _ => .pure fun _ sound => sound

theorem runActions (thread : calls.Thread refuses) (quotes : bodies.program.Quotes)
    (settles : context.Settles refuses) (ofParams : params.Settle refuses)
    (actions : List HostAction) (writer : Writer) :
    Ensures (Sound refuses (scene.use writer))
      (runActions calls context bodies params actions writer) (Goes refuses scene) := by
  induction actions generalizing writer with
  | nil => exact .pure fun _ sound => sound
  | cons action rest inductionHypothesis =>
      exact bind_goes (thread.runAction quotes settles ofParams action) inductionHypothesis

theorem callFunction (thread : calls.Thread refuses) (settles : context.Settles refuses)
    (quotes : bodies.program.Quotes) (ofParams : params.Settle refuses) {called : Function Value}
    (ofFunction : called.Settles refuses) :
    Ensures (Sound refuses (scene.use writer))
      (callFunction calls called writer context bodies params) (Returns refuses scene writer) := by
  cases ofFunction with
  | inline ofProgram isPlain =>
      exact bind_goes (thread.renderBody _ _ _ _ _ ofProgram settles) fun last =>
        .pure fun _ sound => sound
  | @host identity function handle refused returned =>
      rcases handle with hands | stays
      · refine bind_goes (thread.runActions quotes settles ofParams _ writer) fun last => ?_
        simp only [hostResult, hands]
        exact .pure fun _ sound => sound
      · refine bind_stays (thread.runActions_stays settles ofParams fun action member =>
          .inl (stays action member)) (.pure fun store sound => ?_)
        unfold hostResult
        cases results : function.result with
        | handle => exact sound
        | value value => exact ⟨returned value results, sound⟩
        | lookup path =>
            refine ⟨?_, sound⟩
            cases found : context.get? path with
            | none => exact .null
            | some value => exact settles.getPath? found
        | error error => exact sound

/-- A helper goes on from where it has forked; one that fails has stayed where it was called. -/
theorem runHelper (thread : calls.Thread refuses) (quotes : bodies.program.Quotes)
    (settles : context.Settles refuses) (ofParams : params.Settle refuses) {helper : Helper}
    (ofHelper : helper.Settles) :
    Ensures (Sound refuses (scene.use writer))
      (runHelper calls helper writer context bodies params) (Recovers refuses scene writer) := by
  cases helper with
  | builtin helper =>
      refine (thread.runBuiltin quotes settles ofParams helper).strengthen fun result store => ?_
      cases result with
      | ok next => exact fun sound => sound
      | error error => exact fun absurd => absurd.elim
  | host helper =>
      rcases ofHelper with sound | stays
      · refine bind_goes (thread.runActions quotes settles ofParams _ writer) fun last => ?_
        simp only [sound]
        exact .pure fun _ sound => sound
      · refine bind_stays (thread.runActions_stays settles ofParams fun action member =>
          .inl (stays action member)) ?_
        cases failing : helper.error with
        | none => exact .pure fun _ sound => sound
        | some error => exact .pure fun _ sound => sound

theorem renderHelper (thread : calls.Thread refuses) (quotes : bodies.program.Quotes)
    (settles : context.Settles refuses) (ofParams : params.Settle refuses) (name : String) :
    Ensures (Sound refuses (scene.use writer))
      (renderHelper calls writer name bodies params context) (Goes refuses scene) := by
  refine engine_sound fun engine ofEngine => ?_
  cases found : engine.helpers.find? name with
  | none => exact .pure fun _ sound => sound
  | some helper =>
      have ofHelper := ofEngine.helpers _ (Members.mem_of_find? found)
      refine (thread.runHelper quotes settles ofParams ofHelper).bind fun ended => ?_
      cases ended with
      | ok next => exact .pure fun _ sound => sound
      | error error => exact .pure fun _ sound => sound

/-- A function that is called for a parameter stays at its handle, unless it forks. -/
theorem callFunction_gathered (thread : calls.Thread refuses) (settles : context.Settles refuses)
    {called : Function Value} (ofFunction : called.Settles refuses)
    (gathered : gathers writer = true)
    (calm : ∀ identity function, called = .host identity function → refuses function = false) :
    Ensures (Sound refuses (scene.use writer))
      (Render.callFunction calls called writer context Bodies.none [])
      fun result store => (∀ next, result = .ok (.handle next) → next = writer) ∧
        Sound refuses (scene.use writer) store := by
  cases ofFunction with
  | inline quotes isPlain =>
      exact bind_stays (thread.plainBody _ _ _ _ _ quotes isPlain settles gathered)
        (.pure fun store sound =>
          ⟨fun next same => (Returned.handle.inj (Except.ok.inj same)).symm, sound⟩)
  | @host identity function handle refused returned =>
      have calmHere : ∀ action ∈ function.actions, action.forks = false := by
        have forks : ¬function.forks = true := fun forks =>
          absurd (refused forks) (by simp [calm identity function rfl])
        rw [HostFunction.forks, List.any_eq_true, not_exists] at forks
        exact fun action member => by simpa [member] using forks action
      refine bind_stays (thread.runActions_stays settles settle_nil fun action member =>
        .inr ⟨calmHere action member, rfl⟩) (.pure fun store sound => ⟨fun next same => ?_, sound⟩)
      unfold hostResult at same
      cases results : function.result <;> rw [results] at same <;> cases same
      rfl

end Calls.Thread

end Render

end BraceTemplate
