import BraceTemplate.Proofs.Render.Simulation

/-!
# Inclusions simulate their evaluation

A template by name is rendered at its place if it is registered. Otherwise it is answered on a
branch, at once or later; the answer registers it and renders it there. A name with tags in it is
captured first, and the template is rendered on a branch too.
-/

namespace BraceTemplate.Render

open Output Evaluate

section Settings

variable {setting : Setting} {engine : Engine} {name : String} {program : Program}

/-- A template that the engine has not registered was not registered at the start. -/
theorem Setting.Suits.unregistered (suits : setting.Suits engine)
    (missing : engine.registry.find? name = none) : setting.registry.find? name = none := by
  cases found : setting.registry.find? name with
  | none => rfl
  | some program =>
      rw [suits.kept name program found] at missing
      cases missing

theorem Setting.lookup_unregistered (unregistered : setting.registry.find? name = none) :
    setting.templates.lookup name =
      match setting.answers name with
      | .error error => .error error
      | .ok source =>
        match Program.ofSource setting.config (some name) source with
        | .error error => .error (.parse error)
        | .ok program => .ok program := by
  unfold Setting.templates Templates.of
  cases answered : setting.answers name with
  | error error => simp only [unregistered, answered]
  | ok source =>
      cases compiled : Program.ofSource setting.config (some name) source <;>
        simp only [unregistered, answered, compiled]

/-- Registering a template that is missing, as it is to be included. -/
theorem Setting.Suits.register (suits : setting.Suits engine)
    (missing : engine.registry.find? name = none)
    (found : setting.templates.lookup name = .ok program) :
    setting.Suits (engine.register name program) := by
  refine ⟨suits.config, suits.helpers, suits.filters, suits.loader, ?_, ?_⟩
  · intro other registered there
    have before := suits.kept other registered there
    have different : name ≠ other := by
      rintro rfl
      rw [missing] at before
      cases before
    exact (Members.find?_insert_of_ne _ program different).trans before
  · intro other registered there
    by_cases same : name = other
    · subst same
      have self := Members.find?_insert_self engine.registry name program
      rw [Engine.register, self] at there
      cases there
      exact found
    · rw [Engine.register, Members.find?_insert_of_ne _ program same] at there
      exact suits.known other registered there

end Settings

section Registering

variable {setting : Setting} {depth : Nat} {writer : Writer} {spot : Spot Continuation}
variable {store later : Store Continuation Observer State} {trace : Trace}
variable {name text : String} {program : Program} {included : List String} {owed : List Owed}
variable {last : Writer} {reached : Spot Continuation}

theorem Ready.register (ready : Ready setting writer spot store trace) (depth : Nat)
    (missing : store.client.engine.registry.find? name = none)
    (found : setting.templates.lookup name = .ok program) :
    Progress setting depth writer spot store "" [] [] writer spot
      { store with
        client := { store.client with engine := store.client.engine.register name program } } := by
  have standing := ready.standing
  refine ⟨⟨standing.there, standing.sameNumber, standing.unended, standing.orderly⟩, rfl,
    ready.untapped, rfl, rfl, by simp, by simp, fun _ _ _ there => there, rfl,
    ready.suits.register missing found, ?_, rfl, ?_, by simp, by simp, by simp, fun _ => rfl⟩
  · simp [Engine.register]
  · intro other registered there
    have different : name ≠ other := by
      rintro rfl
      rw [missing] at there
      cases there
    exact (Members.find?_insert_of_ne _ program different).trans there

theorem Progress.including
    (progress : Progress setting depth writer spot store text included owed last reached later)
    (known : setting.IsPrompt →
      ∃ program, later.client.engine.registry.find? name = some program) :
    Progress setting depth writer spot store text (name :: included) owed last reached later := by
  refine { progress with loaded := ?_, cost := ?_ }
  · intro isPrompt other member
    rcases List.mem_cons.mp member with rfl | inside
    · exact known isPrompt
    · exact progress.loaded isPrompt other inside
  · have bound := progress.cost
    simp only [List.length_cons]
    omega

theorem Progress.put_opened
    (progress : Progress setting depth writer spot store text included owed last reached later)
    {id : OutletId} (opened : store.outlets[id]? = none) (different : id ≠ writer.outlet)
    (outlet : Outlet Continuation Observer) :
    Progress setting depth writer spot store text included owed last reached
      (later.put id outlet) := by
  refine ⟨?_, progress.sameOutlet, progress.untapped, progress.sameBehind, progress.sameOnResult,
    progress.sofar, progress.opens, ?_, progress.events, progress.suits, progress.requests,
    progress.queue, progress.registered, progress.loaded, progress.due, progress.cost,
    progress.prompt⟩
  · refine ⟨?_, progress.standing.sameNumber, progress.standing.unended, progress.standing.orderly⟩
    rw [Store.put_outlets_of_ne _ _ (progress.sameOutlet ▸ different)]
    exact progress.standing.there
  · intro other found elsewhere there
    have fresh : id ≠ other := by
      rintro rfl
      rw [opened] at there
      cases there
    rw [Store.put_outlets_of_ne _ _ fresh]
    exact progress.others other found elsewhere there

end Registering

namespace Matches

variable {setting : Setting} {depth : Nat} {exactly : Prop} {calls : Calls} {texts : Texts}
variable {writer : Writer} {context : Context} {name : String} {program : Program}

theorem texts_agree (simulates : Matches setting depth exactly calls texts) :
    texts.Agree setting.templates setting.templates texts := by
  obtain ⟨steps, -, rfl⟩ := simulates.within
  exact textsWithin_agree rfl steps

theorem handlers_keep (simulates : Matches setting depth exactly calls texts) (id : OutletId)
    (result : Except RenderError String) : calls.handlers.Keep (Store.HasResult id result) :=
  (simulates.keep id result).handlers

theorem renderTemplate (simulates : Matches setting depth exactly calls texts)
    (quotes : program.Quotes) (tame : context.Tame) :
    Simulates setting depth exactly writer (programText texts program context)
      (renderTemplate calls program writer context) id := by
  refine (simulates.body _ _ writer _ quotes (tame.withBlocks quotes)).withFreshSelect.andThen
    (fun last store => rfl) fun yielded id error => ?_
  cases yielded with
  | ok next => exact .pure _
  | error other => exact .fail (simulates.handlers_keep _ _) _

theorem programText_rounds (simulates : Matches setting depth exactly calls texts) {trace : Trace}
    {found : String × Trace}
    (evaluated : programText texts program context trace = some (.ok found)) :
    0 < calls.handlers.rounds := by
  obtain ⟨text, after⟩ := found
  obtain ⟨_, _, evaluatedBody⟩ := programText_eq_ok evaluated
  exact simulates.rounds _ _ _ _ _ evaluatedBody

theorem renderTemplate_concludes (simulates : Matches setting depth exactly calls texts)
    (quotes : program.Quotes) (tame : context.Tame) :
    Concludes setting depth exactly writer (programText texts program context) (do
      let last ← Render.renderTemplate calls program writer context
      last.finish calls.handlers) :=
  (simulates.renderTemplate quotes tame).concludes simulates.handlers_keep
    fun _ _ evaluated => simulates.programText_rounds evaluated

/-- An answer that is a template registers it, unless it has been registered meanwhile, and renders
it on the branch of the request. -/
theorem answer_eq (calls : Calls) (context : Context) {spot : Spot Continuation}
    {store : Store Continuation Observer State} {trace : Trace}
    (ready : Ready setting writer spot store trace) (depth : Nat)
    (unregistered : setting.registry.find? name = none)
    (found : setting.templates.lookup name = .ok program) :
    ∃ middle,
      Progress setting depth writer spot store "" [] [] writer spot middle ∧
        middle.client.settled = store.client.settled ∧
        middle.client.engine.registry.find? name = some program ∧
        answer calls ⟨name, writer, context⟩ (setting.answers name) store =
          (do
            let last ← Render.renderTemplate calls program writer context
            last.finish calls.handlers : Action Unit) middle := by
  rw [Setting.lookup_unregistered unregistered] at found
  cases answered : setting.answers name with
  | error error =>
      rw [answered] at found
      cases found
  | ok source =>
      rw [answered] at found
      cases compiled : Program.ofSource setting.config (some name) source with
      | error error =>
          simp only [compiled] at found
          cases found
      | ok built =>
          simp only [compiled] at found
          cases found
          have meaning : setting.templates.lookup name = .ok program := by
            rw [Setting.lookup_unregistered unregistered, answered]
            simp only [compiled]
          have compiles : store.client.engine.compile (some name) source = .ok program := by
            rw [Engine.compile, ready.suits.config]
            exact compiled
          cases known : store.client.engine.registry.find? name with
          | some registered =>
              have same := ready.suits.known name registered known
              rw [meaning] at same
              cases same
              refine ⟨store, (Unseen.refl store).progress ready depth, rfl, known, ?_⟩
              simp only [answer, findOrCompile, engine, run_bind, run_client, Option.bind_some,
                run_pure, known]
          | none =>
              refine ⟨_, ready.register depth known meaning, rfl,
                Members.find?_insert_self _ _ _, ?_⟩
              simp only [answer, findOrCompile, engine, run_bind, run_client, Option.bind_some,
                run_pure, known, compiles, modifyEngine, run_modifyClient]

/-- An answer that is no template fails the branch of the request. -/
theorem answer_eq_fail {spot : Spot Continuation} {store : Store Continuation Observer State}
    {trace : Trace} {error : RenderError} (ready : Ready setting writer spot store trace)
    (unregistered : setting.registry.find? name = none)
    (found : setting.templates.lookup name = .error error) :
    answer calls ⟨name, writer, context⟩ (setting.answers name) store =
      (discard (writer.fail calls.handlers error) : Action Unit) store := by
  have missing : store.client.engine.registry.find? name = none := by
    cases known : store.client.engine.registry.find? name with
    | none => rfl
    | some registered =>
        rw [ready.suits.known name registered known] at found
        cases found
  rw [Setting.lookup_unregistered unregistered] at found
  cases answered : setting.answers name with
  | error other =>
      rw [answered] at found
      cases found
      rfl
  | ok source =>
      rw [answered] at found
      cases compiled : Program.ofSource setting.config (some name) source with
      | ok built =>
          simp only [compiled] at found
          cases found
      | error fault =>
          simp only [compiled] at found
          cases found
          have compiles : store.client.engine.compile (some name) source = .error fault := by
            rw [Engine.compile, ready.suits.config]
            exact compiled
          simp only [answer, findOrCompile, engine, run_bind, run_client, Option.bind_some,
            run_pure, missing, compiles]

/-- An answer writes the text of the template on the branch of the request. -/
theorem answer_concludes (simulates : Matches setting depth exactly calls texts)
    (tame : context.Tame) (unregistered : setting.registry.find? name = none) :
    Concludes setting depth exactly writer (templateText setting.templates texts name context)
      (answer calls ⟨name, writer, context⟩ (setting.answers name)) := by
  intro spot store trace ready someOpen
  rw [templateText_eq]
  cases found : setting.templates.lookup name with
  | error error =>
      refine .inr (.inl ⟨error, rfl, fun _ noneOpen later ran => ?_⟩)
      rw [answer_eq_fail ready unregistered found, run_discard] at ran
      obtain ⟨⟨_, failed⟩, ranFail, same⟩ := Option.map_eq_some_iff.mp ran
      cases same
      exact ready.standing.fail_hasResult (simulates.handlers_keep _ _) noneOpen ranFail
  | ok program =>
      obtain ⟨middle, start, sameSettled, known, runsTo⟩ :=
        answer_eq calls context ready depth unregistered found
      have readyNext :
          Ready setting writer spot middle { trace with included := trace.included ++ [name] } :=
        start.ready (sameSettled.trans ready.settled)
      rw [runsTo]
      rcases simulates.renderTemplate_concludes (Setting.lookup_quotes found) tame spot middle _
          readyNext someOpen with
        ⟨text, after, last, halfway, reached, owed, more, evaluated, noted, settled, progress,
          ran⟩ | fails | out
      · refine .inl ⟨text, after, last, halfway, reached, owed, name :: more, evaluated,
          by simpa using noted, settled, ?_, ran⟩
        have whole := start.trans progress
        simp only [String.empty_append, List.nil_append] at whole
        exact whole.including fun _ => ⟨program, progress.registered name program known⟩
      · exact .inr (.inl fails)
      · exact .inr (.inr out)

theorem load_deferred (simulates : Matches setting depth exactly calls texts)
    (tame : context.Tame) (loader : setting.loader = .deferred) {spot : Spot Continuation}
    {store : Store Continuation Observer State} {trace after : Trace} {text : String}
    (ready : Ready setting writer spot store trace)
    (unregistered : setting.registry.find? name = none)
    (evaluated : templateText setting.templates texts name context trace =
      some (.ok (text, after))) :
    ∃ last later,
      load calls .deferred name writer context store = some (last, later) ∧
        Advances setting depth writer spot store trace text after last later := by
  obtain ⟨program, more, found, same, always⟩ :=
    templateText_eq_ok simulates.texts_agree evaluated
  obtain ⟨steps, bound, rfl⟩ := simulates.within
  subst same
  let request : Request := ⟨name, { writer with segment := spot.nextNumber }, context⟩
  let owed : Owed := ⟨request, text, (name :: more).length⟩
  have due : owed.Due setting depth writer.outlet := by
    refine ⟨rfl, ready.untapped, tame, unregistered, steps, trace.included, name :: more, bound,
      Nat.le_refl _, fun settled => ?_⟩
    rw [templateText_eq, found]
    exact always settled
  have notPrompt : ¬setting.IsPrompt := by simp [Setting.IsPrompt, loader]
  let later : Store Continuation Observer State :=
    { store.put writer.outlet spot.onBranch.gathering.outlet with
      client := { store.client with
        engine := { store.client.engine with
          requests := store.client.engine.requests ++ [request] } } }
  refine ⟨{ writer with segment := spot.nextNumber + 1 }, later, ?_, spot.pastBranch, [owed],
    name :: more, rfl, ready.settled, ?_⟩
  · simp only [load, run_bind, ready.standing.fork_eq, Option.bind_some, modifyEngine,
      run_modifyClient, run_pure]
    rfl
  · have standing := ready.standing.branch_standsAt
    have suits := ready.suits
    refine ⟨⟨?_, rfl, rfl, ?_⟩, rfl, ready.untapped, rfl, rfl, ?_, ?_, ?_, rfl,
      ⟨suits.config, suits.helpers, suits.filters, suits.loader, suits.kept, suits.known⟩, rfl, rfl,
      fun _ _ there => there, fun isPrompt => absurd isPrompt notPrompt, ?_, ?_,
      fun isPrompt => absurd isPrompt notPrompt⟩
    · rw [Spot.pastBranch_gathering]
      exact standing.there
    · rw [Spot.pastBranch_gathering]
      exact standing.orderly
    · intro coming pays
      rw [Spot.sofar_pastBranch]
      have here : coming spot.nextNumber = text :=
        pays (spot.nextNumber, text) (by simp [debts, owed, request, Owed.segment])
      rw [here]
    · simp [Spot.pastBranch, owed, request, Owed.segment]
    · intro id outlet different there
      exact (Store.put_outlets_of_ne _ _ (Ne.symm different)).trans there
    · intro one member
      rw [List.mem_singleton.mp member]
      exact due
    · simp [owed, totalCost]

theorem renderNamedTemplate (simulates : Matches setting depth exactly calls texts)
    (tame : context.Tame) (name : String) :
    Simulates setting depth exactly writer (templateText setting.templates texts name context)
      (renderNamedTemplate calls name writer context) id := by
  intro spot store trace ready
  cases known : store.client.engine.registry.find? name with
  | some program =>
      have runsTo : Render.renderNamedTemplate calls name writer context store =
          Render.renderTemplate calls program writer context store := by
        simp only [Render.renderNamedTemplate, engine, run_bind, run_client, Option.bind_some,
          run_pure, known]
      have found := ready.suits.known name program known
      rw [runsTo, templateText_eq, found]
      have noted :
          Ready setting writer spot store { trace with included := trace.included ++ [name] } :=
        ⟨ready.standing, ready.untapped, ready.suits, ready.settled⟩
      rcases simulates.renderTemplate (Setting.lookup_quotes found) tame spot store _ noted with
        ⟨text, after, last, later, evaluated, ran, reached, owed, more, same, settled, progress⟩ |
        fails | out
      · exact .inl ⟨text, after, last, later, evaluated, ran, reached, owed, name :: more,
          by simpa using same, settled,
          progress.including fun _ => ⟨program, progress.registered name program known⟩⟩
      · exact .inr (.inl fails)
      · exact .inr (.inr out)
  | none =>
      have runsTo : Render.renderNamedTemplate calls name writer context store =
          load calls store.client.engine.loader name writer context store := by
        simp only [Render.renderNamedTemplate, engine, run_bind, run_client, Option.bind_some,
          run_pure, known]
      have unregistered := ready.suits.unregistered known
      have gives := setting.gives
      rw [runsTo, ready.suits.loader]
      cases loader : setting.loader with
      | none =>
          rw [loader] at gives
          have missing : setting.templates.lookup name = .error (.missingTemplate name) := by
            rw [Setting.lookup_unregistered unregistered, gives]
            rfl
          rw [templateText_eq, missing]
          refine .inr (.inl ⟨_, rfl, fun _ noneOpen yielded later ran => ?_⟩)
          exact ready.standing.fail_hasResult (simulates.handlers_keep _ _) noneOpen ran
      | immediate source =>
          rw [loader] at gives
          cases gives
          exact Simulates.branching
            (fun branch => simulates.answer_concludes tame unregistered) spot store trace ready
      | registering source reply =>
          rw [loader] at gives
          cases gives
      | deferred =>
          have notPrompt : ¬setting.IsPrompt := by simp [Setting.IsPrompt, loader]
          cases evaluated : templateText setting.templates texts name context trace with
          | none => exact .inr (.inr ⟨rfl, fun _ isPrompt => absurd isPrompt notPrompt⟩)
          | some outcome =>
              cases outcome with
              | error error =>
                  exact .inr (.inl ⟨error, rfl, fun isPrompt => absurd isPrompt notPrompt⟩)
              | ok found =>
                  obtain ⟨text, after⟩ := found
                  obtain ⟨last, later, ran, advances⟩ :=
                    simulates.load_deferred tame loader ready unregistered evaluated
                  exact .inl ⟨text, after, last, later, rfl, ran, advances⟩

end Matches

end BraceTemplate.Render
