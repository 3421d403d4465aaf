import BraceTemplate.Proofs.Render.Refinement
import BraceTemplate.Render.Entry

/-!
# Answers in any order

A loader may keep requests and have them answered later, each at any time. While requests wait, the
render has reported nothing; they owe what is missing of its text. When the last one is answered the
render reports, once, and the text is the one that a loader yields which answers at once.
-/

namespace BraceTemplate

namespace Render

open Output Evaluate

def withRequests (store : Store Continuation Observer State) (requests : List Request) :
    Store Continuation Observer State :=
  { store with
    client := { store.client with engine := { store.client.engine with requests := requests } } }

/-- What answering requests leads to, each once, in any order. Answers may lead to more requests. -/
inductive Answered (calls : Calls) (answers : String → Except RenderError String)
    (start : Store Continuation Observer State) : Nat → Store Continuation Observer State → Prop
  | start : Answered calls answers start 0 start
  | answer {count : Nat} {store later : Store Continuation Observer State} {request : Request}
      (before behind : List Request) (earlier : Answered calls answers start count store)
      (waits : store.client.engine.requests = before ++ request :: behind)
      (ran : answer calls request (answers request.template)
        (withRequests store (before ++ behind)) = some ((), later)) :
      Answered calls answers start (count + 1) later

/-! ## Answering the oldest request for a name -/

theorem takeFirst?_split {Held : Type} {test : Held → Bool} {all others : List Held} {held : Held}
    (found : takeFirst? test all = some (held, others)) :
    ∃ before behind, all = before ++ held :: behind ∧ others = before ++ behind := by
  induction all generalizing others with
  | nil => cases found
  | cons first rest inductionHypothesis =>
      unfold takeFirst? at found
      split at found
      · cases found
        exact ⟨[], rest, rfl, rfl⟩
      · obtain ⟨⟨_, kept⟩, foundInRest, same⟩ := Option.map_eq_some_iff.mp found
        cases same
        obtain ⟨before, behind, split, others⟩ := inductionHypothesis foundInRest
        exact ⟨first :: before, behind, by rw [split]; rfl, by rw [others]; rfl⟩

theorem takeFirst?_test {Held : Type} {test : Held → Bool} {all others : List Held} {held : Held}
    (found : takeFirst? test all = some (held, others)) : test held = true := by
  induction all generalizing others with
  | nil => cases found
  | cons first rest inductionHypothesis =>
      unfold takeFirst? at found
      split at found
      · rename_i admitted
        cases found
        exact admitted
      · obtain ⟨⟨_, kept⟩, foundInRest, same⟩ := Option.map_eq_some_iff.mp found
        cases same
        exact inductionHypothesis foundInRest

/-- Answering the oldest request for a name is one of the ways to answer. -/
theorem Answered.answerRequest {calls : Calls} {answers : String → Except RenderError String}
    {start store later : Store Continuation Observer State} {count : Nat} {name : String}
    (earlier : Answered calls answers start count store)
    (ran : answerRequest calls name (answers name) store = some (true, later)) :
    Answered calls answers start (count + 1) later := by
  unfold Render.answerRequest at ran
  rw [run_bind] at ran
  simp only [engine, run_bind, run_client, Option.bind_some, run_pure] at ran
  cases found : takeFirst? (fun request => request.template == name)
      store.client.engine.requests with
  | none =>
      rw [found] at ran
      cases ran
  | some taken =>
      obtain ⟨request, others⟩ := taken
      rw [found] at ran
      obtain ⟨before, behind, waits, rfl⟩ := takeFirst?_split found
      have sameName : request.template = name := by simpa using takeFirst?_test found
      obtain ⟨_, _, changed, answering⟩ := bind_eq_some.mp ran
      cases changed
      obtain ⟨_, _, answered, same⟩ := bind_eq_some.mp answering
      cases same
      refine earlier.answer before behind waits ?_
      rw [sameName]
      exact answered

/-! ## Renders on their way -/

/-- A render that has not reported owes the rest of its text to requests; one that owes nothing has
reported its text. -/
structure Underway (setting : Setting) (depth : Nat) (id : OutletId) (label text : String)
    (events : Array Event) (owed : List Owed) (store : Store Continuation Observer State) :
    Prop where
  suits : setting.Suits store.client.engine
  requests : store.client.engine.requests = owed.map Owed.request
  due : ∀ one ∈ owed, one.Due setting depth id
  waits : owed ≠ [] → store.events = events ∧ ∃ gathering : Gathering Continuation,
    store.outlets[id]? = some gathering.outlet ∧ gathering.onResult = some (.report label) ∧
      gathering.Awaits (debts owed) text
  reported : owed = [] → store.events = events.push (.done label text)

section Answering

variable {setting : Setting} {depth : Nat} {label text : String} {events : Array Event}
variable {owed : List Owed} {store : Store Continuation Observer State} {id : OutletId}
variable {name : String} {data : Value}

/-- At the end of what is rendered at a handle, the render goes on waiting, or reports. -/
theorem finish_underway {last : Writer} {reached : Spot Continuation} (rounds : 0 < depth)
    (standing : last.StandsAt reached store)
    (onResult : reached.onResult = some (.report label))
    (awaits : reached.Awaits (debts owed) "" text) (suits : setting.Suits store.client.engine)
    (requests : store.client.engine.requests = owed.map Owed.request)
    (due : ∀ one ∈ owed, one.Due setting depth last.outlet) :
    ∃ later, last.finish (callsWithin depth).handlers store = some ((), later) ∧
      Underway setting depth last.outlet label text store.events owed later := by
  have bound := Store.lt_size_of_outlet standing.there
  obtain ⟨depth, rfl⟩ : ∃ smaller, depth = smaller + 1 := ⟨depth - 1, by omega⟩
  have inSteps : 0 < (callsWithin (depth + 1)).handlers.rounds := rounds
  by_cases nothing : owed = []
  · subst nothing
    have whole := awaits.text_drained standing.closed_orderly
    let told := store.put last.outlet (reached.closed.gathering.telling (.ok text))
    have handedOn :
        handOn (callsWithin (depth + 1)).handlers reached.onResult
            (.ok reached.closed.gathering.drained.text)
            (store.put last.outlet (reached.closed.gathering.telling
              (.ok reached.closed.gathering.drained.text))) =
          some ((), { told with events := told.events.push (.done label text) }) := by
      rw [onResult, whole]
      rfl
    have ends := standing.finish_finished (List.Perm.eq_nil awaits.opens) inSteps handedOn
      (by rw [whole]; exact Store.put_outlets_self _ _ bound)
    refine ⟨_, ends, ?_, ?_, due, fun some => absurd rfl some, fun _ => rfl⟩
    · rw [Store.put_client]
      exact suits
    · rw [Store.put_client]
      exact requests
  · have someOpen :
        Segment.openNumbers reached.before ++ Segment.openNumbers reached.behind ≠ [] := by
      intro noneOpen
      have opens := awaits.opens
      rw [noneOpen] at opens
      exact nothing (by simpa [debts] using opens.nil_eq.symm)
    refine ⟨_, standing.finish_pending someOpen inSteps, ?_, ?_, due,
      fun _ => ⟨rfl, reached.closed.gathering.drained, Store.put_outlets_self _ _ bound, onResult,
        awaits.closed standing.closed_orderly⟩,
      fun none => absurd none nothing⟩
    · rw [Store.put_client]
      exact suits
    · rw [Store.put_client]
      exact requests

/-- A render that starts is on its way to the text of its template. -/
theorem render_underway (suits : setting.Suits store.client.engine)
    (noRequests : store.client.engine.requests = []) (tame : data.Tame)
    (evaluated : Evaluate.text? setting.templates depth name data = some (.ok text))
    (label : String) :
    ∃ owed later, render (callsWithin depth) name data label store = some ((), later) ∧
      Underway setting depth store.outlets.size label text store.events owed later ∧
      (setting.IsPrompt → owed = []) := by
  have runsTo :
      render (callsWithin depth) name data label store =
        (renderNamedTemplate (callsWithin depth) name (Writer.onOutlet store.outlets.size)
            (entryContext name (Context.ofValue data)) >>=
          fun last => last.finish (callsWithin depth).handlers)
          (store.open (Outlet.opened (.collect "" none (some (.report label))))) :=
    rfl
  rcases simulates_opening suits tame (some (.report label)) with
    ⟨written, after, last, halfway, reached, owed, evaluatedHere, ran, rounds, progress,
      awaits⟩ | ⟨error, fails, -⟩ | ⟨out, -⟩
  · have same : written = text := by
      rw [text?_eq _ _ _ _ store.client.settled, evaluatedHere] at evaluated
      cases evaluated
      rfl
    subst same
    have requests := progress.requests
    have noneThere :
        (store.open
          (Outlet.opened (.collect "" none (some (.report label))))).client.engine.requests = [] :=
      noRequests
    rw [noneThere, List.nil_append] at requests
    have sameOutlet : last.outlet = store.outlets.size := progress.sameOutlet
    obtain ⟨later, finished, underway⟩ := finish_underway rounds progress.standing
      progress.sameOnResult awaits progress.suits requests
      fun one member => by rw [progress.sameOutlet]; exact progress.due one member
    rw [sameOutlet, progress.events] at underway
    refine ⟨owed, later, ?_, underway, progress.prompt⟩
    rw [runsTo, run_bind, ran]
    exact finished
  · rw [evaluated] at fails
    cases fails
  · rw [evaluated] at out
    cases out

/-- A request that waits is owed, and the handle behind its branch stands where its text is
missing. -/
theorem Underway.owed_request {request : Request} {before behind : List Request}
    (underway : Underway setting depth id label text events owed store)
    (waits : store.client.engine.requests = before ++ request :: behind) :
    ∃ owedBefore one owedBehind, owed = owedBefore ++ one :: owedBehind ∧
      one.request = request ∧ (owedBefore ++ owedBehind).map Owed.request = before ++ behind ∧
      one.Due setting depth id ∧ store.events = events ∧
      ∃ spot : Spot Continuation, spot.onResult = some (.report label) ∧
        spot.Awaits (debts (owedBefore ++ owedBehind)) one.text text ∧
        one.request.branch.StandsAt spot (withRequests store (before ++ behind)) := by
  have listed := underway.requests
  rw [waits] at listed
  obtain ⟨owedBefore, others, rfl, sameBefore, sameOthers⟩ :=
    List.map_eq_append_iff.mp listed.symm
  obtain ⟨one, owedBehind, rfl, sameRequest, sameBehind⟩ := List.map_eq_cons_iff.mp sameOthers
  have due := underway.due one (by simp)
  obtain ⟨unreported, gathering, there, onResult, awaits⟩ := underway.waits (by simp)
  have first : (debts (owedBefore ++ one :: owedBehind)).Perm
      ((one.segment, one.text) :: debts (owedBefore ++ owedBehind)) := by
    simp [debts]
  obtain ⟨spot, rfl, sameNumber, unended, awaitsHere⟩ := (awaits.of_perm first).exists_spot
  have requests : (owedBefore ++ owedBehind).map Owed.request = before ++ behind := by
    rw [List.map_append, sameBefore, sameBehind]
  refine ⟨owedBefore, one, owedBehind, rfl, sameRequest, requests, due, unreported, spot, onResult,
    awaitsHere, ?_, sameNumber, unended, awaits.orderly⟩
  rw [due.onOutlet]
  exact there

theorem Setting.Suits.withRequests {requests : List Request}
    (suits : setting.Suits store.client.engine) :
    setting.Suits (withRequests store requests).client.engine :=
  ⟨suits.config, suits.helpers, suits.filters, suits.loader, suits.kept, suits.known⟩

/-- An answer renders the template of its request at the handle behind the branch. -/
theorem Owed.Due.answer {one : Owed} {spot : Spot Continuation} (due : one.Due setting depth id)
    (ready : ∀ earlier,
      Ready setting one.request.branch spot store ⟨store.client.settled, earlier⟩) :
    ∃ last halfway reached further,
      Render.answer (callsWithin depth) one.request (setting.answers one.request.template) store =
        last.finish (callsWithin depth).handlers halfway ∧
      0 < depth ∧ totalCost further < one.cost ∧
      ∃ included, Progress setting depth one.request.branch spot store one.text included further
        last reached halfway := by
  obtain ⟨steps, earlier, more, bound, cost, evaluated⟩ := due.text
  have simulates := matches_within setting bound bound
  obtain ⟨program, included, found, noted, always⟩ :=
    templateText_eq_ok simulates.texts_agree (evaluated store.client.settled)
  obtain ⟨middle, start, sameSettled, -, runsTo⟩ :=
    Matches.answer_eq (callsWithin depth) one.request.context (ready earlier) depth
      due.unregistered found
  have readyNext : Ready setting one.request.branch spot middle
      ⟨store.client.settled, earlier ++ [one.request.template]⟩ :=
    start.ready sameSettled
  rcases simulates.renderTemplate (Setting.lookup_quotes found) due.tame spot middle _
      readyNext with
    ⟨written, after, last, halfway, evaluatedHere, ran, reached, further, inside, notedHere, -,
      progress⟩ | ⟨error, fails, -⟩ | ⟨out, -⟩
  · rw [always store.client.settled] at evaluatedHere
    cases evaluatedHere
    have whole := start.trans progress
    simp only [String.empty_append, List.nil_append] at whole
    have rounds : 0 < depth := simulates.programText_rounds (always store.client.settled)
    have runs : Render.answer (callsWithin depth) one.request
        (setting.answers one.request.template) store =
          last.finish (callsWithin depth).handlers halfway := by
      rw [runsTo, run_bind, ran]
      rfl
    have fewer := whole.cost
    have sameInside : inside = included := by simpa using notedHere.symm
    have sameMore : more = one.request.template :: included := by simpa using noted
    rw [sameMore, List.length_cons] at cost
    rw [sameInside] at fewer
    exact ⟨last, halfway, reached, further, runs, rounds, by omega, _, whole⟩
  · rw [always store.client.settled] at fails
    cases fails
  · rw [always store.client.settled] at out
    cases out

/-- Every request can be answered, and the answer brings the render on its way; what is owed then is
less. -/
theorem Underway.answer {request : Request} {before behind : List Request}
    (underway : Underway setting depth id label text events owed store)
    (waits : store.client.engine.requests = before ++ request :: behind) :
    ∃ owedLater later,
      Render.answer (callsWithin depth) request (setting.answers request.template)
          (withRequests store (before ++ behind)) = some ((), later) ∧
        Underway setting depth id label text events owedLater later ∧
        totalCost owedLater < totalCost owed := by
  obtain ⟨owedBefore, one, owedBehind, rfl, rfl, requests, due, unreported, spot, onResult, awaits,
    standing⟩ := underway.owed_request waits
  obtain ⟨last, halfway, reached, further, ran, rounds, fewer, included, progress⟩ :=
    due.answer fun earlier => ⟨standing, due.untapped, underway.suits.withRequests, rfl⟩
  have sameOutlet : last.outlet = id := progress.sameOutlet.trans due.onOutlet
  have awaitsThere := progress.awaits awaits
  have listed : debts (owedBefore ++ owedBehind) ++ debts further =
      debts (owedBefore ++ owedBehind ++ further) :=
    List.map_append.symm
  rw [listed] at awaitsThere
  have requestsLater : halfway.client.engine.requests =
      (owedBefore ++ owedBehind ++ further).map Owed.request := by
    rw [progress.requests, List.map_append, requests]
    rfl
  have dueLater : ∀ other ∈ owedBefore ++ owedBehind ++ further,
      other.Due setting depth last.outlet := by
    intro other member
    rw [sameOutlet]
    rcases List.mem_append.mp member with still | further
    · refine underway.due other ?_
      simp only [List.mem_append, List.mem_cons] at still ⊢
      tauto
    · rw [← due.onOutlet]
      exact progress.due other further
  have sameResult : reached.onResult = some (.report label) :=
    progress.sameOnResult.trans onResult
  obtain ⟨later, finished, underwayLater⟩ :=
    finish_underway rounds progress.standing sameResult awaitsThere progress.suits requestsLater
      dueLater
  have sameEvents : halfway.events = events := progress.events.trans unreported
  rw [sameOutlet, sameEvents] at underwayLater
  refine ⟨_, later, ran.trans finished, underwayLater, ?_⟩
  simp only [totalCost_append, totalCost]
  omega

/-- However requests are answered, the render stays on its way, and every answer counts against what
was owed at first. -/
theorem Answered.underway {start later : Store Continuation Observer State} {count : Nat}
    (answered : Answered (callsWithin depth) setting.answers start count later)
    (underway : Underway setting depth id label text events owed start) :
    ∃ owedLater, Underway setting depth id label text events owedLater later ∧
      count + totalCost owedLater ≤ totalCost owed := by
  induction answered with
  | start => exact ⟨owed, underway, by omega⟩
  | answer before behind earlier waits ran inductionHypothesis =>
      obtain ⟨owedHere, here, counted⟩ := inductionHypothesis
      obtain ⟨owedLater, reached, same, underwayLater, fewer⟩ := here.answer waits
      rw [ran] at same
      cases same
      exact ⟨owedLater, underwayLater, by omega⟩

end Answering

/-! ## The same text -/

def withEngine (store : Store Continuation Observer State) (engine : Engine) :
    Store Continuation Observer State :=
  { store with client := { store.client with engine := engine } }

section SameText

variable {config : Config} {registry : Members Program} {depth : Nat} {name text : String}
variable {store immediate : Store Continuation Observer State}

def loadingSetting (config : Config)
    (quotes : ∀ name program, registry.find? name = some program → program.Quotes)
    (loader : Loader) {answers : String → Except RenderError String}
    (gives : loader.Gives answers) : Setting :=
  ⟨config, registry, loader, answers, gives, quotes⟩

theorem loadingSetting_suits
    (quotes : ∀ name program, registry.find? name = some program → program.Quotes)
    (loader : Loader) {answers : String → Except RenderError String}
    (gives : loader.Gives answers) :
    (loadingSetting config quotes loader gives).Suits (Engine.fresh config registry loader) := by
  refine ⟨rfl, rfl, rfl, rfl, fun _ _ there => there, ?_⟩
  intro name program there
  have found : registry.find? name = some program := there
  simp only [Setting.templates, Templates.of, loadingSetting, found]

theorem run_runPending_of_idle {calls : Calls} {store : Store Continuation Observer State}
    (idle : store.client.engine.queue = []) :
    runPending calls store =
      some (0, withEngine store { store.client.engine with queue := [] }) := by
  unfold runPending
  simp only [engine, run_bind, run_client, Option.bind_some, run_pure, modifyEngine,
    run_modifyClient, idle]
  rfl

/-- What a render to a text has shown with a loader that answers at once: the template evaluates to
the text, and everything it includes is registered afterwards. -/
theorem evaluated_of_renderToString {answers : String → Except RenderError String}
    (quotes : ∀ name program, registry.find? name = some program → program.Quotes) (json : Json)
    (ran : renderToString (callsWithin depth) name (Value.ofJson json)
        (withEngine store (.fresh config registry (.immediate answers))) =
      some (.ok text, immediate)) :
    ∃ after,
      templateText (Templates.of config registry answers)
          (textsWithin (Templates.of config registry answers) depth) name
          (entryContext name (Context.ofValue (Value.ofJson json))) ⟨store.client.settled, []⟩ =
        some (.ok (text, after)) ∧
      ∀ included ∈ after.included, ∃ program,
        immediate.client.engine.registry.find? included = some program ∧
          (Templates.of config registry answers).lookup included = .ok program := by
  let setting := loadingSetting config quotes (.immediate answers) rfl
  have suits : setting.Suits (Engine.fresh config registry (.immediate answers)) :=
    loadingSetting_suits quotes (.immediate answers) rfl
  have isPrompt : setting.IsPrompt := trivial
  obtain ⟨halfway, pending, rendered, reads⟩ := renderToString_eq_some ran
  rcases renderToEnd_hasResult suits isPrompt (Value.tame_ofJson json) rendered with
    ⟨found, after, evaluated, hasResult, suitsLater, queue, loaded⟩ | ⟨error, -, hasResult⟩
  · obtain ⟨same, waiting⟩ := reads _ hasResult
    cases same
    rw [run_runPending_of_idle queue] at waiting
    cases waiting
    refine ⟨after, evaluated, fun included member => ?_⟩
    obtain ⟨program, there⟩ := loaded included member
    exact ⟨program, there, suitsLater.known _ _ there⟩
  · cases (reads _ hasResult).1

/-- However the requests of a render are answered, every one can be, there is an end to them, and
the render shows one event, with the last answer. -/
structure ReportsInTheEnd (calls : Calls) (answers : String → Except RenderError String)
    (event : Event) (events : Array Event) (start : Store Continuation Observer State) :
    Prop where
  bounded : ∃ bound, ∀ count later, Answered calls answers start count later → count ≤ bound
  answerable : ∀ count later before request behind,
    Answered calls answers start count later →
      later.client.engine.requests = before ++ request :: behind →
        ∃ next, answer calls request (answers request.template)
          (withRequests later (before ++ behind)) = some ((), next)
  silent : ∀ count later, Answered calls answers start count later →
    later.client.engine.requests ≠ [] → later.events = events
  reported : ∀ count later, Answered calls answers start count later →
    later.client.engine.requests = [] → later.events = events.push event

theorem Underway.reportsInTheEnd {setting : Setting} {id : OutletId} {label : String}
    {events : Array Event} {owed : List Owed}
    (underway : Underway setting depth id label text events owed store) :
    ReportsInTheEnd (callsWithin depth) setting.answers (.done label text) events store := by
  refine ⟨⟨totalCost owed, ?_⟩, ?_, ?_, ?_⟩
  · intro count later answered
    obtain ⟨owedLater, -, counted⟩ := answered.underway underway
    omega
  · intro count later before request behind answered waits
    obtain ⟨owedLater, here, -⟩ := answered.underway underway
    obtain ⟨_, next, ran, -⟩ := here.answer waits
    exact ⟨next, ran⟩
  · intro count later answered waits
    obtain ⟨owedLater, here, -⟩ := answered.underway underway
    refine (here.waits ?_).1
    rintro rfl
    exact waits here.requests
  · intro count later answered none
    obtain ⟨owedLater, here, -⟩ := answered.underway underway
    refine here.reported (List.map_eq_nil_iff.mp (here.requests.symm.trans none))

theorem render_reports {setting : Setting} {engine : Engine} {data : Value}
    (suits : setting.Suits engine) (noRequests : engine.requests = [])
    (isPrompt : setting.IsPrompt) (tame : data.Tame)
    (evaluated : Evaluate.text? setting.templates depth name data = some (.ok text))
    (label : String) :
    ∃ later,
      render (callsWithin depth) name data label (withEngine store engine) = some ((), later) ∧
        later.events = store.events.push (.done label text) := by
  have suitsHere : setting.Suits (withEngine store engine).client.engine := suits
  have noneHere : (withEngine store engine).client.engine.requests = [] := noRequests
  obtain ⟨owed, later, rendered, underway, nothing⟩ :=
    render_underway suitsHere noneHere tame evaluated label
  exact ⟨later, rendered, underway.reported (nothing isPrompt)⟩

/-- A template evaluates to the same text without a loader, where everything that was loaded is
registered beforehand. -/
theorem evaluated_of_registered {answers : String → Except RenderError String} {data : Value}
    {after : Trace} {beforehand : Members Program}
    (quotes : ∀ name program, beforehand.find? name = some program → program.Quotes)
    (evaluated : templateText (Templates.of config registry answers)
        (textsWithin (Templates.of config registry answers) depth) name
        (entryContext name (Context.ofValue data)) ⟨store.client.settled, []⟩ =
      some (.ok (text, after)))
    (registered : ∀ included ∈ after.included, ∃ program,
      beforehand.find? included = some program ∧
        (Templates.of config registry answers).lookup included = .ok program) :
    Evaluate.text? (Templates.of config beforehand unanswered) depth name data =
      some (.ok text) := by
  have gives : Loader.none.Gives unanswered := rfl
  have suits : (loadingSetting config quotes .none gives).Suits
      (Engine.fresh config beforehand .none) :=
    loadingSetting_suits quotes .none gives
  have sameDepth :
      (Templates.of config registry answers).maxDepth =
        (Templates.of config beforehand unanswered).maxDepth :=
    rfl
  obtain ⟨more, noted, agrees⟩ :=
    (textsWithin_agree sameDepth depth).templateText name _ _ _ evaluated
  rw [text?_eq _ _ _ _ store.client.settled]
  refine congrArg (Option.map (Except.map Prod.fst)) (agrees fun included member => ?_)
  obtain ⟨program, there, found⟩ := registered included (by simpa [noted] using member)
  rw [found]
  exact (suits.known _ _ there).symm

/-- Where a template renders to a text with a loader that answers at once, it reports the same text
with this loader, with one that keeps requests, in whatever order they are answered, and without a
loader where the templates are registered beforehand. -/
theorem answeredInAnyOrder {answers : String → Except RenderError String}
    (quotes : ∀ name program, registry.find? name = some program → program.Quotes) (json : Json)
    (ran : renderToString (callsWithin depth) name (Value.ofJson json)
        (withEngine store (.fresh config registry (.immediate answers))) =
      some (.ok text, immediate))
    (label : String) :
    (∃ later,
      render (callsWithin depth) name (Value.ofJson json) label
          (withEngine store (.fresh config registry (.immediate answers))) =
          some ((), later) ∧
        later.events = store.events.push (.done label text)) ∧
    (∃ start,
      render (callsWithin depth) name (Value.ofJson json) label
          (withEngine store (Engine.fresh config registry .deferred)) = some ((), start) ∧
        ReportsInTheEnd (callsWithin depth) answers (.done label text) store.events start) ∧
    (∀ beforehand : Members Program,
      (∀ name program, beforehand.find? name = some program → program.Quotes) →
      (∀ name program, immediate.client.engine.registry.find? name = some program →
        beforehand.find? name = some program) →
      ∃ later,
        render (callsWithin depth) name (Value.ofJson json) label
            (withEngine store (Engine.fresh config beforehand .none)) = some ((), later) ∧
          later.events = store.events.push (.done label text)) := by
  obtain ⟨after, evaluated, loaded⟩ := evaluated_of_renderToString quotes json ran
  have tame := Value.tame_ofJson json
  have evaluatedHere :
      Evaluate.text? (Templates.of config registry answers) depth name (Value.ofJson json) =
        some (.ok text) := by
    rw [text?_eq _ _ _ _ store.client.settled]
    exact congrArg (Option.map (Except.map Prod.fst)) evaluated
  refine ⟨?_, ?_, fun beforehand quotesToo registered => ?_⟩
  · exact render_reports (loadingSetting_suits quotes (.immediate answers) rfl) rfl trivial tame
      evaluatedHere label
  · have gives : Loader.deferred.Gives answers := trivial
    have suits : (loadingSetting config quotes .deferred gives).Suits
        (withEngine store (Engine.fresh config registry .deferred)).client.engine :=
      loadingSetting_suits quotes .deferred gives
    have noRequests :
        (withEngine store (Engine.fresh config registry .deferred)).client.engine.requests = [] :=
      rfl
    obtain ⟨owed, start, rendered, underway, -⟩ :=
      render_underway suits noRequests tame evaluatedHere label
    exact ⟨start, rendered, underway.reportsInTheEnd⟩
  · have evaluatedThere := evaluated_of_registered quotesToo evaluated fun included member => by
      obtain ⟨program, there, found⟩ := loaded included member
      exact ⟨program, registered _ _ there, found⟩
    exact render_reports (loadingSetting_suits quotesToo .none rfl) rfl trivial tame evaluatedThere
      label

/-- Two requests for a template that includes another one. -/
theorem answeredInAnyOrder_nested :
    ∃ registry answers immediate start,
      registry = Program.ofSources .standard [("main", "<{>x/}{>y/}{>x/}>")] ∧
        answers = (fun name => .ok (if name = "x" then "{>y/}" else "p")) ∧
        renderToString (callsWithin 9) "main" (.ofJson .null)
            (withEngine (.initial ⟨.fresh .standard [] .none, false⟩)
              (.fresh .standard registry (.immediate answers))) =
          some (.ok "<ppp>", immediate) ∧
        render (callsWithin 9) "main" (.ofJson .null) "done"
            (withEngine (.initial ⟨.fresh .standard [] .none, false⟩)
              (.fresh .standard registry .deferred)) =
          some ((), start) ∧
        ReportsInTheEnd (callsWithin 9) answers (.done "done" "<ppp>") #[] start := by
  let registry := Program.ofSources .standard [("main", "<{>x/}{>y/}{>x/}>")]
  let answers : String → Except RenderError String :=
    fun name => .ok (if name = "x" then "{>y/}" else "p")
  let store : Store Continuation Observer State := .initial ⟨.fresh .standard [] .none, false⟩
  have quotes : ∀ name program, registry.find? name = some program → program.Quotes := by
    intro name program found
    obtain ⟨_, _, compiled⟩ :=
      Program.compiled_ofSources .standard _ _ (Members.mem_of_find? found)
    exact Program.ofSource_quotes compiled
  have rendered :
      ((renderToString (callsWithin 9) "main" (.ofJson .null)
        (withEngine store (.fresh .standard registry (.immediate answers)))).bind
          fun found => found.1.toOption) = some "<ppp>" := by
    decide +kernel
  obtain ⟨⟨outcome, immediate⟩, ran, found⟩ := Option.bind_eq_some_iff.mp rendered
  cases outcome with
  | error error => cases found
  | ok text =>
      simp only [Except.toOption, Option.some.injEq] at found
      subst found
      obtain ⟨-, ⟨start, started, reports⟩, -⟩ := answeredInAnyOrder quotes .null ran "done"
      exact ⟨registry, answers, immediate, start, rfl, rfl, ran, started, reports⟩

/-- A template whose comparison has an inclusion as its key, which no source compiles to: where the
template is there already, its text is the key. -/
def quotingInclusion : Program where
  name := some "main"
  root := 0
  bodies := [
    [.inclusion (.literal "x") none [],
      .helper "eq" none [("key", .body 1), ("value", .literal (.string "X"))] [("block", 2)]],
    [.inclusion (.literal "x") none []],
    [.write "yes"]]
  blocks := []

/-- A parameter has to be known when its tag is reached: a request in one is answered too late, and
the handle behind its branch is lost. -/
theorem answeredInAnyOrder_quotingInclusion :
    ∃ answers immediate start,
      answers = (fun _ => .ok "X") ∧
        renderToString (callsWithin 9) "main" (.ofJson .null)
            (withEngine (.initial ⟨.fresh .standard [] .none, false⟩)
              (.fresh .standard [("main", quotingInclusion)] (.immediate answers))) =
          some (.ok "Xyes", immediate) ∧
        render (callsWithin 9) "main" (.ofJson .null) "done"
            (withEngine (.initial ⟨.fresh .standard [] .none, false⟩)
              (.fresh .standard [("main", quotingInclusion)] .deferred)) =
          some ((), start) ∧
        ¬ReportsInTheEnd (callsWithin 9) answers (.done "done" "Xyes") #[] start := by
  let answers : String → Except RenderError String := fun _ => .ok "X"
  let store : Store Continuation Observer State := .initial ⟨.fresh .standard [] .none, false⟩
  have rendered :
      ((renderToString (callsWithin 9) "main" (.ofJson .null)
        (withEngine store (.fresh .standard [("main", quotingInclusion)]
          (.immediate answers)))).bind fun found => found.1.toOption) = some "Xyes" := by
    decide +kernel
  have answered :
      (((do
        render (callsWithin 9) "main" (.ofJson .null) "done"
        let first ← answerRequest (callsWithin 9) "x" (answers "x")
        let second ← answerRequest (callsWithin 9) "x" (answers "x")
        pure (first, second) : Action (Bool × Bool))
        (withEngine store (.fresh .standard [("main", quotingInclusion)] .deferred))).map
          fun found =>
            (found.1, found.2.client.engine.requests.isEmpty, found.2.events.size)) =
        some ((true, true), true, 0) := by
    decide +kernel
  obtain ⟨⟨outcome, immediate⟩, ran, found⟩ := Option.bind_eq_some_iff.mp rendered
  obtain ⟨⟨flags, last⟩, steps, shown⟩ := Option.map_eq_some_iff.mp answered
  obtain ⟨_, start, started, rest⟩ := bind_eq_some.mp steps
  obtain ⟨first, halfway, ranFirst, more⟩ := bind_eq_some.mp rest
  obtain ⟨second, _, ranSecond, same⟩ := bind_eq_some.mp more
  cases same
  simp only [Prod.mk.injEq] at shown
  obtain ⟨⟨rfl, rfl⟩, noRequests, noEvents⟩ := shown
  cases outcome with
  | error error => cases found
  | ok text =>
      simp only [Except.toOption, Option.some.injEq] at found
      subst found
      refine ⟨answers, immediate, start, rfl, ran, started, fun reports => ?_⟩
      have reached : Answered (callsWithin 9) answers start 2 last :=
        (Answered.start.answerRequest ranFirst).answerRequest ranSecond
      have reported := reports.reported _ _ reached (List.isEmpty_iff.mp noRequests)
      rw [reported] at noEvents
      cases noEvents

end SameText

end Render

end BraceTemplate
