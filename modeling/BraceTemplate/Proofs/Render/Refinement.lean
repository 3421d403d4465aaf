import BraceTemplate.Proofs.Render.Nesting
import BraceTemplate.Render.Script

/-!
# A render to a text yields what the template evaluates to

Handles, forks, captures and taps leave no trace: the result of a render to a text is the text that
the steps of the template contribute, or the first error, as evaluation has it.
-/

namespace BraceTemplate

/-- An engine with the helpers and filters that every engine starts with and without a loader, whose
templates were compiled from sources. -/
structure Engine.IsClosed (engine : Engine) : Prop where
  helpers : engine.helpers = Helper.standard
  filters : engine.filters = Filter.standard
  loader : engine.loader = .none
  compiled : ∀ entry ∈ engine.registry, ∃ config name source,
    Program.ofSource config name source = .ok entry.2

/-- The templates of sources are compiled from those under their names. -/
theorem Program.source_of_mem_ofSources (config : Config) (sources : List (String × String)) :
    ∀ entry ∈ ofSources config sources, ∃ source, (entry.1, source) ∈ sources ∧
      ofSource config (some entry.1) source = .ok entry.2 := by
  refine Members.forall_mem_ofList fun entry member => ?_
  obtain ⟨⟨name, source⟩, inside, found⟩ := List.mem_filterMap.mp member
  obtain ⟨program, compiled, rfl⟩ := Option.map_eq_some_iff.mp found
  refine ⟨source, inside, ?_⟩
  cases built : ofSource config (some name) source with
  | error fault =>
      rw [built] at compiled
      cases compiled
  | ok same =>
      rw [built] at compiled
      cases compiled
      rfl

theorem Program.compiled_ofSources (config : Config) (sources : List (String × String)) :
    ∀ entry ∈ ofSources config sources, ∃ name source,
      ofSource config name source = .ok entry.2 := by
  intro entry member
  obtain ⟨source, -, compiled⟩ := source_of_mem_ofSources config sources entry member
  exact ⟨some entry.1, source, compiled⟩

theorem Engine.isClosed_ofSources (config : Config) (sources : List (String × String)) :
    (Engine.fresh config (Program.ofSources config sources) .none).IsClosed :=
  ⟨rfl, rfl, rfl, fun _ member => ⟨config, Program.compiled_ofSources config sources _ member⟩⟩

namespace Render

open Output Evaluate

section Starting

variable {setting : Setting} {store : Store Continuation Observer State}

def closedSetting {engine : Engine} (closed : engine.IsClosed) : Setting where
  config := engine.config
  registry := engine.registry
  loader := .none
  answers := unanswered
  gives := rfl
  quotes := by
    intro name program found
    obtain ⟨_, _, _, compiled⟩ := closed.compiled _ (Members.mem_of_find? found)
    exact Program.ofSource_quotes compiled

theorem closedSetting_suits {engine : Engine} (closed : engine.IsClosed) :
    (closedSetting closed).Suits engine := by
  refine ⟨rfl, closed.helpers, closed.filters, closed.loader, fun _ _ there => there, ?_⟩
  intro name program there
  simp only [Setting.templates, Templates.of, closedSetting, there]

theorem Ready.opening (suits : setting.Suits store.client.engine)
    (onResult : Option Continuation) :
    Ready setting (Writer.onOutlet store.outlets.size) (Spot.opening onResult)
      (store.open (Outlet.opened (.collect "" none onResult))) ⟨store.client.settled, []⟩ :=
  ⟨standsAt_opening _ _, rfl, suits, rfl⟩

theorem tame_entryContext {data : Value} (tame : data.Tame) (name : String) :
    (entryContext name (Context.ofValue data)).Tame :=
  (Context.Tame.ofValue tame).named name

end Starting

section Settled

variable (templates : Templates) (texts : Texts) (context : Context) (name : String)

theorem programText_map_fst (program : Program) (settled : Bool) (included : List String) :
    Option.map (Except.map Prod.fst) (programText texts program context ⟨settled, included⟩) =
      Option.map (Except.map Prod.fst)
        (texts.body program program.root (context.withBlocks program) ⟨false, included⟩) := by
  have evaluatesTo :
      programText texts program context ⟨settled, included⟩ =
        (do
          let text ← texts.body program program.root (context.withBlocks program)
          Evaluate.setSettled settled
          pure text : Evaluation String) ⟨false, included⟩ :=
    rfl
  simp only [evaluatesTo, evaluate_bind]
  cases texts.body program program.root (context.withBlocks program) ⟨false, included⟩ with
  | none => rfl
  | some outcome => cases outcome <;> rfl

/-- What a template yields does not depend on the select around it. -/
theorem templateText_settled (included : List String) (one other : Bool) :
    Option.map (Except.map Prod.fst)
        (templateText templates texts name context ⟨one, included⟩) =
      Option.map (Except.map Prod.fst)
        (templateText templates texts name context ⟨other, included⟩) := by
  rw [templateText_eq, templateText_eq]
  cases templates.lookup name with
  | error error => rfl
  | ok program =>
      exact (programText_map_fst texts context program one _).trans
        (programText_map_fst texts context program other _).symm

theorem text?_eq (depth : Nat) (data : Value) (settled : Bool) :
    Evaluate.text? templates depth name data =
      Option.map (Except.map Prod.fst)
        (templateText templates (textsWithin templates depth) name
          (entryContext name (Context.ofValue data)) ⟨settled, []⟩) :=
  templateText_settled _ _ _ _ _ _ _

variable {templates name}

end Settled

section ToText

variable {setting : Setting} {depth : Nat} {calls : Calls}
variable {store later : Store Continuation Observer State} {name : String} {data : Value}
variable {result : Except RenderError String}

theorem simulates_opening (suits : setting.Suits store.client.engine) (tame : data.Tame)
    (onResult : Option Continuation) :
    (∃ text after last halfway reached owed,
      templateText setting.templates (textsWithin setting.templates depth) name
          (entryContext name (Context.ofValue data)) ⟨store.client.settled, []⟩ =
          some (.ok (text, after)) ∧
        renderNamedTemplate (callsWithin depth) name (Writer.onOutlet store.outlets.size)
            (entryContext name (Context.ofValue data))
            (store.open (Outlet.opened (.collect "" none onResult))) = some (last, halfway) ∧
        0 < depth ∧
        Progress setting depth (Writer.onOutlet store.outlets.size) (Spot.opening onResult)
          (store.open (Outlet.opened (.collect "" none onResult))) text after.included owed last
          reached halfway ∧
        reached.Awaits (debts owed) "" text) ∨
    (∃ error,
      Evaluate.text? setting.templates depth name data = some (.error error) ∧
        (setting.IsPrompt → ∀ last halfway,
          renderNamedTemplate (callsWithin depth) name (Writer.onOutlet store.outlets.size)
              (entryContext name (Context.ofValue data))
              (store.open (Outlet.opened (.collect "" none onResult))) = some (last, halfway) →
            halfway.HasResult store.outlets.size (.error error))) ∨
    (Evaluate.text? setting.templates depth name data = none ∧
      (setting.IsPrompt →
        renderNamedTemplate (callsWithin depth) name (Writer.onOutlet store.outlets.size)
            (entryContext name (Context.ofValue data))
            (store.open (Outlet.opened (.collect "" none onResult))) = none)) := by
  have simulates := matches_within setting (Nat.le_refl depth) (Nat.le_refl depth)
  have same := text?_eq setting.templates name depth data store.client.settled
  rcases simulates.renderNamedTemplate (tame_entryContext tame name) name _ _ _
      (Ready.opening suits onResult) with
    ⟨text, after, last, halfway, evaluated, ran, reached, owed, more, noted, -, progress⟩ |
    ⟨error, evaluated, fails⟩ | ⟨out, none⟩
  · have rounds : 0 < (callsWithin depth).handlers.rounds := by
      obtain ⟨program, _, -, -, always⟩ := templateText_eq_ok simulates.texts_agree evaluated
      exact simulates.programText_rounds (always store.client.settled)
    have awaits : (Spot.opening onResult).Awaits [] text text :=
      ⟨.refl _, fun coming _ => by simp [Spot.sofar, Spot.opening, Segment.fresh]⟩
    simp only [List.nil_append] at noted
    subst noted
    exact .inl ⟨text, after, last, halfway, reached, owed, evaluated, ran, rounds, progress,
      progress.awaits awaits⟩
  · rw [evaluated] at same
    exact .inr (.inl ⟨error, same, fun isPrompt => fails isPrompt rfl⟩)
  · rw [out] at same
    exact .inr (.inr ⟨same, none rfl⟩)

/-- A render that ends the output of an outlet of its own leaves what the template evaluates to as
the result of the outlet. What a text includes is registered then. -/
theorem renderToEnd_hasResult (suits : setting.Suits store.client.engine)
    (isPrompt : setting.IsPrompt) (tame : data.Tame)
    (ran : renderToEnd (callsWithin depth) name (Writer.onOutlet store.outlets.size)
        (entryContext name (Context.ofValue data))
        (store.open (Outlet.opened (.collect "" none none))) = some ((), later)) :
    (∃ text after,
      templateText setting.templates (textsWithin setting.templates depth) name
          (entryContext name (Context.ofValue data)) ⟨store.client.settled, []⟩ =
          some (.ok (text, after)) ∧
        later.HasResult store.outlets.size (.ok text) ∧
        setting.Suits later.client.engine ∧
        later.client.engine.queue = store.client.engine.queue ∧
        ∀ name ∈ after.included,
          ∃ program, later.client.engine.registry.find? name = some program) ∨
    (∃ error,
      Evaluate.text? setting.templates depth name data = some (.error error) ∧
        later.HasResult store.outlets.size (.error error)) := by
  obtain ⟨ended, between, rendered, finished⟩ := bind_eq_some.mp ran
  rcases simulates_opening suits tame none with
    ⟨text, after, last, halfway, reached, owed, evaluated, same, rounds, progress, awaits⟩ |
    ⟨error, evaluated, fails⟩ | ⟨-, none⟩
  · rw [rendered] at same
    obtain ⟨rfl, rfl⟩ : ended = last ∧ between = halfway := by simpa using same
    refine .inl ⟨text, after, evaluated, ?_⟩
    rw [progress.prompt isPrompt] at awaits
    have standing := progress.standing
    have whole := awaits.text_drained standing.closed_orderly
    have bound := Store.lt_size_of_outlet standing.there
    have noResume : reached.onResult = Option.none := progress.sameOnResult
    have sameOutlet : ended.outlet = store.outlets.size := progress.sameOutlet
    have inSteps : 0 < (callsWithin depth).handlers.rounds := rounds
    have ends := standing.finish_finished (List.Perm.eq_nil awaits.opens) inSteps
      (by rw [noResume]; rfl) (Store.put_outlets_self _ _ bound)
    rw [whole, sameOutlet, finished] at ends
    cases ends
    rw [sameOutlet] at bound
    exact ⟨⟨_, Store.put_outlets_self _ _ (by simpa using bound), rfl, "", Option.none, rfl⟩,
      progress.suits, progress.queue, progress.loaded isPrompt⟩
  · refine .inr ⟨error, evaluated, ?_⟩
    exact Keeps.finish (callsWithin_keep depth).handlers _ _ _
      (fails isPrompt ended between rendered) finished
  · rw [none isPrompt] at rendered
    cases rendered

/-- A render to a text renders to the end of an outlet of its own, runs what waits, and reads the
result of the outlet. -/
theorem renderToString_eq_some
    (ran : renderToString (callsWithin depth) name data store = some (result, later)) :
    ∃ halfway pending,
      renderToEnd (callsWithin depth) name (Writer.onOutlet store.outlets.size)
          (entryContext name (Context.ofValue data))
          (store.open (Outlet.opened (.collect "" none none))) = some ((), halfway) ∧
        ∀ outcome, halfway.HasResult store.outlets.size outcome →
          result = outcome ∧ runPending (callsWithin depth) halfway = some (pending, later) := by
  obtain ⟨_, halfway, rendered, following⟩ :
      ∃ ended halfway,
        renderToEnd (callsWithin depth) name (Writer.onOutlet store.outlets.size)
            (entryContext name (Context.ofValue data))
            (store.open (Outlet.opened (.collect "" none none))) = some (ended, halfway) ∧
          (do
            discard (runPending (callsWithin depth))
            pure ((← result? store.outlets.size).getD (.error (.pending name))) :
              Action (Except RenderError String)) halfway = some (result, later) :=
    bind_eq_some.mp ran
  obtain ⟨_, beyond, discarded, reading⟩ := bind_eq_some.mp following
  rw [run_discard] at discarded
  obtain ⟨⟨count, _⟩, pending, same⟩ := Option.map_eq_some_iff.mp discarded
  cases same
  refine ⟨halfway, count, rendered, fun outcome hasResult => ?_⟩
  have still := (callsWithin_keep depth).runPending _ _ _ hasResult pending
  rw [run_bind, still.run_result?] at reading
  cases reading
  exact ⟨rfl, pending⟩

/-- A render to a text that ends has the result that the template evaluates to: its text, or the
first error. -/
theorem renderToString_eq_text {engine : Engine} (closed : engine.IsClosed)
    (sameEngine : store.client.engine = engine) (json : Json)
    (ran : renderToString (callsWithin depth) name (Value.ofJson json) store =
      some (result, later)) :
    Evaluate.text? (Templates.of engine.config engine.registry unanswered) depth name
        (Value.ofJson json) =
      some result := by
  have suits : (closedSetting closed).Suits store.client.engine := by
    rw [sameEngine]
    exact closedSetting_suits closed
  obtain ⟨halfway, pending, rendered, reads⟩ := renderToString_eq_some ran
  rcases renderToEnd_hasResult suits trivial (Value.tame_ofJson json) rendered with
    ⟨text, after, evaluated, hasResult, -⟩ | ⟨error, evaluated, hasResult⟩
  · rw [(reads _ hasResult).1, text?_eq _ _ _ _ store.client.settled]
    exact congrArg (Option.map (Except.map Prod.fst)) evaluated
  · rw [(reads _ hasResult).1]
    exact evaluated

/-- A name with tags in it, in a section, is captured and included. -/
theorem renderToString_eq_text_captured :
    ∃ engine data later,
      engine = Engine.fresh .standard
          (Program.ofSources .standard
            [("main", "<{#a}\x7b>\"{n}\"/\x7d{/a}>"), ("x", "{b}")]) .none ∧
        renderToString (callsWithin 7) "main" (.ofJson data) (Store.initial ⟨engine, false⟩) =
          some (.ok "<p>", later) ∧
        Evaluate.text? (Templates.of engine.config engine.registry unanswered) 7 "main"
            (.ofJson data) =
          some (.ok "<p>") := by
  let engine := Engine.fresh .standard
    (Program.ofSources .standard [("main", "<{#a}\x7b>\"{n}\"/\x7d{/a}>"), ("x", "{b}")]) .none
  let data : Json := .object [("a", .array [.object [("n", .string "x"), ("b", .string "p")]])]
  have rendered :
      ((renderToString (callsWithin 7) "main" (.ofJson data)
        (Store.initial ⟨engine, false⟩)).bind fun found => found.1.toOption) = some "<p>" := by
    decide +kernel
  obtain ⟨⟨outcome, later⟩, ran, found⟩ := Option.bind_eq_some_iff.mp rendered
  cases outcome with
  | error error => cases found
  | ok text =>
      simp only [Except.toOption, Option.some.injEq] at found
      subst found
      have closed : engine.IsClosed := Engine.isClosed_ofSources _ _
      exact ⟨engine, data, later, rfl, ran, renderToString_eq_text closed rfl data ran⟩

end ToText

end Render

end BraceTemplate
