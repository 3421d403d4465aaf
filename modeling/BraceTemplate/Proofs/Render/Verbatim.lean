import BraceTemplate.Proofs.Reading.Verbatim
import BraceTemplate.Proofs.Render.Answering

/-!
# Text renders as it is

A source that no tag starts in compiles to at most one write, whatever the data is: it renders to
itself, or to what is left of it without its line breaks and the gaps behind them.
-/

namespace BraceTemplate

open Reading

/-- Texts are joined to one text, or there are none. -/
theorem Reading.Spells.joinTexts_eq {chars : List Char} {nodes : List Node}
    (spells : Spells chars nodes) :
    Node.joinTexts nodes = [] ∧ chars = [] ∨
      ∃ position, Node.joinTexts nodes = [.text (String.ofList chars) position] := by
  induction spells with
  | nil => exact .inl ⟨rfl, rfl⟩
  | cons first position later inductionHypothesis =>
      refine .inr ⟨position, ?_⟩
      rw [Node.joinTexts, List.foldr_cons, ← Node.joinTexts]
      rcases inductionHypothesis with ⟨none, rfl⟩ | ⟨other, one⟩
      · rw [none, List.append_nil]
        rfl
      · rw [one, String.ofList_append]
        rfl

/-- Joined texts compile to one write. -/
theorem Reading.Spells.ofNode_eq {chars : List Char} {nodes : List Node}
    (spells : Spells chars nodes) (name auto : Option String) (position : Position) :
    Program.ofNode name auto (.body (Node.joinTexts nodes) position) =
      ⟨name, 0, [Op.writing (String.ofList chars)], []⟩ := by
  rcases spells.joinTexts_eq with ⟨none, rfl⟩ | ⟨other, one⟩
  · rw [none]
    rfl
  · have laid : Node.stepsOfParts auto [.text (String.ofList chars) other] =
        (pure (Op.writing (String.ofList chars) ++ []) : Compile (List Op)) := rfl
    rw [List.append_nil] at laid
    unfold Program.ofNode
    rw [one, Node.steps, laid]
    rfl

/-- A source without tags compiles to one write of what tidying leaves of it. -/
theorem Program.ofSource_untagged {source : String} (holdsNoTag : HoldsNoTag source)
    (missesNoEndTag : MissesNoEndTag source) (config : Config) (name : Option String) :
    Program.ofSource config name source =
      .ok ⟨name, 0, [Op.writing (leftOf config.whitespace source)], []⟩ := by
  obtain ⟨nodes, position, parsed, spells⟩ := parse_untagged holdsNoTag missesNoEndTag
  rw [Program.ofSource, parsed, leftOf_eq]
  exact congrArg Except.ok ((spells config.whitespace).ofNode_eq name config.autoEscape position)

namespace Render

open Output

variable {depth : Nat} {store : Store Continuation Observer State}

theorem runOps_writing {writer : Writer} (direct : writer.IsDirect) (calls : Calls)
    (program : Program) (context : Context) (text : String) :
    runOps calls program context (Op.writing text) writer store =
      some (.ok writer, writer.wrote text store) := by
  unfold Op.writing
  cases empty : text.isEmpty with
  | true =>
      have nothing : text = "" := by simpa using empty
      rw [nothing, Writer.wrote_empty direct]
      rfl
  | false =>
      simp only [Bool.false_eq_true, if_false, runOps, runOp, run_bind,
        Writer.write_direct direct, Option.bind_some, run_pure]

def writingProgram (name : Option String) (text : String) : Program :=
  ⟨name, 0, [Op.writing text], []⟩

/-- Rendering a template that is one write writes its text. -/
theorem renderTemplate_writing {writer : Writer} (untapped : writer.taps = [])
    (name : Option String) (text : String) (context : Context) :
    renderTemplate (callsWithin (depth + 1)) (writingProgram name text) writer context store =
      some (writer, writer.wrote text store) := by
  have body : ∀ store : Store Continuation Observer State,
      (callsWithin (depth + 1)).renderBody (writingProgram name text) 0 writer
          (context.withBlocks (writingProgram name text)) store =
        some (.ok writer, writer.wrote text store) :=
    fun store => runOps_writing (.inl untapped) _ _ _ text
  unfold renderTemplate withFreshSelect isSettled setSettled
  rw [show (writingProgram name text).root = 0 from rfl]
  simp only [run_bind, run_client, run_modifyClient, Option.bind_some, run_pure, body]
  unfold Writer.wrote
  rw [untapped]

/-- Rendering a template that is one write to a new outlet hands its text on. -/
theorem renderToEnd_writing (depth : Nat) {onResult : Option Continuation} {name text : String}
    {later : Store Continuation Observer State} {compiledName : Option String}
    (registered : store.client.engine.registry.find? name =
      some (writingProgram compiledName text)) (context : Context)
    (handedOn : handOn (callsWithin (depth + 1)).handlers onResult (.ok text)
      (store.handing onResult text) = some ((), later))
    (untouched : later.outlets[store.outlets.size]? =
      some ((Spot.complete onResult text).telling (.ok text))) :
    renderToEnd (callsWithin (depth + 1)) name (Writer.onOutlet store.outlets.size) context
        (store.open (Outlet.opened (.collect "" none onResult))) =
      some ((), later.put store.outlets.size ((Spot.complete onResult text).told (.ok text))) := by
  have found : (store.open (Outlet.opened (.collect "" none onResult))).client.engine.registry.find?
      name = some (writingProgram compiledName text) := registered
  unfold renderToEnd renderNamedTemplate engine
  simp only [run_bind, run_client, Option.bind_some, run_pure, found]
  rw [renderTemplate_writing rfl, Option.bind_some, wrote_opening]
  exact finish_opening (Nat.succ_pos depth) handedOn untouched

/-- A callback is told of the text of a template that is one write. -/
theorem render_writing {name text : String} {compiledName : Option String}
    (registered : store.client.engine.registry.find? name =
      some (writingProgram compiledName text)) (data : Value) (label : String) :
    ∃ later, render (callsWithin (depth + 1)) name data label store = some ((), later) ∧
      later.events = store.events.push (.done label text) := by
  have handedOn : handOn (callsWithin (depth + 1)).handlers (some (.report label)) (.ok text)
      (store.handing (some (.report label)) text) =
        some ((), { store.handing (some (.report label)) text with
          events := store.events.push (.done label text) }) := rfl
  exact ⟨_, renderToEnd_writing depth registered _ handedOn (Store.open_outlets_self _), rfl⟩

/-- A render to a text yields the text of a template that is one write. -/
theorem renderToString_writing {name text : String} {compiledName : Option String}
    (registered : store.client.engine.registry.find? name =
      some (writingProgram compiledName text)) (idle : store.client.engine.queue = [])
    (data : Value) :
    ∃ later, renderToString (callsWithin (depth + 1)) name data store =
      some (.ok text, later) := by
  let ended := store.open ((Spot.complete none text).told (.ok text))
  have handedOn : handOn (callsWithin (depth + 1)).handlers none (.ok text)
      (store.handing none text) = some ((), store.handing none text) := rfl
  have rendered := renderToEnd_writing depth registered
    (entryContext name (Context.ofValue data)) handedOn (Store.open_outlets_self _)
  rw [Store.handing, Store.open_put] at rendered
  have idleThen : ended.client.engine.queue = [] := idle
  refine ⟨withEngine ended { ended.client.engine with queue := [] }, ?_⟩
  unfold renderToString
  rw [run_bind, run_openOutlet, Option.bind_some, run_bind, ← Store.open]
  dsimp only
  rw [rendered, Option.bind_some, run_bind, run_discard, run_runPending_of_idle idleThen]
  simp only [Option.map_some, Option.bind_some, run_bind, result?, run_outlet?]
  have there : (withEngine ended { ended.client.engine with queue := [] }).outlets[
      store.outlets.size]? = some ((Spot.complete none text).told (.ok text)) :=
    Store.open_outlets_self _
  rw [there]
  rfl

/-- Text renders as it is: a source that no tag starts in, nor a section whose end tag is missing
where a part starts, compiles, and renders to itself where line breaks are preserved, and to what is
left of it without every line break and the gaps behind it where they are stripped. This is so for
every engine, whatever else it holds, and for all data: a callback is told of the text, and a text
is yielded where no other render waits. -/
theorem render_untagged {source : String} (holdsNoTag : HoldsNoTag source)
    (missesNoEndTag : MissesNoEndTag source) (engine : Engine) (name : String) :
    ∃ changed, engine.addTemplate name source = .ok changed ∧
      ∀ (depth : Nat) (data : Value) (store : Store Continuation Observer State),
        store.client.engine = changed →
          (∀ label, ∃ later,
            render (callsWithin (depth + 1)) name data label store = some ((), later) ∧
              later.events =
                store.events.push (.done label (leftOf engine.config.whitespace source))) ∧
          (engine.queue = [] → ∃ later,
            renderToString (callsWithin (depth + 1)) name data store =
              some (.ok (leftOf engine.config.whitespace source), later)) := by
  have compiled := Program.ofSource_untagged holdsNoTag missesNoEndTag engine.config (some name)
  refine ⟨engine.register name _, by rw [Engine.addTemplate, Engine.compile, compiled]; rfl, ?_⟩
  intro depth data store sameEngine
  have registered : store.client.engine.registry.find? name =
      some (writingProgram (some name) (leftOf engine.config.whitespace source)) := by
    rw [sameEngine]
    exact Members.find?_insert_self ..
  refine ⟨fun label => render_writing registered data label, fun idle => ?_⟩
  exact renderToString_writing registered (by rw [sameEngine]; exact idle) data

theorem render_untagged_braces :
    HoldsNoTag "x\x7b#a\n b=1\x7d \r\n\t\x7b y\x7d\x7b" ∧
      MissesNoEndTag "x\x7b#a\n b=1\x7d \r\n\t\x7b y\x7d\x7b" ∧
      ∃ changed, (Engine.ofConfig .standard).addTemplate "main"
          "x\x7b#a\n b=1\x7d \r\n\t\x7b y\x7d\x7b" = .ok changed ∧
        ∃ later, renderToString (callsWithin 1) "main" (.ofJson .null)
            (Store.initial ⟨changed, false⟩) =
          some (.ok "x\x7b#ab=1\x7d \x7b y\x7d\x7b", later) := by
  have holdsNoTag : HoldsNoTag "x\x7b#a\n b=1\x7d \r\n\t\x7b y\x7d\x7b" := by decide +kernel
  have missesNoEndTag : MissesNoEndTag "x\x7b#a\n b=1\x7d \r\n\t\x7b y\x7d\x7b" := by
    decide +kernel
  have left : leftOf .strip "x\x7b#a\n b=1\x7d \r\n\t\x7b y\x7d\x7b" =
      "x\x7b#ab=1\x7d \x7b y\x7d\x7b" := by
    decide +kernel
  obtain ⟨changed, added, renders⟩ :=
    render_untagged holdsNoTag missesNoEndTag (Engine.ofConfig .standard) "main"
  obtain ⟨later, ran⟩ := (renders 0 (.ofJson .null) (Store.initial ⟨changed, false⟩) rfl).2 rfl
  rw [show (Engine.ofConfig .standard).config.whitespace = .strip from rfl, left] at ran
  exact ⟨holdsNoTag, missesNoEndTag, changed, added, later, ran⟩

/-- A section tag with a line break between its parts is not taken for a tag; where its end tag is
missing there is no template. -/
theorem untagged_missingEndTag :
    HoldsNoTag "\x7b#a\n b=1\x7d" ∧
      ¬∃ changed, (Engine.ofConfig ⟨some "h", .preserve, 64⟩).addTemplate "main"
        "\x7b#a\n b=1\x7d" = .ok changed := by
  refine ⟨by decide +kernel, ?_⟩
  rintro ⟨changed, added⟩
  have faulty : (Node.parse "\x7b#a\n b=1\x7d").isOk = false := by decide +kernel
  unfold Engine.addTemplate Engine.compile Program.ofSource at added
  cases parsed : Node.parse "\x7b#a\n b=1\x7d" with
  | error error =>
      rw [parsed] at added
      cases added
  | ok tree =>
      rw [parsed] at faulty
      cases faulty

end Render

end BraceTemplate
