import BraceTemplate.Proofs.Render.FirstMatch
import BraceTemplate.Proofs.Render.Nesting
import BraceTemplate.Proofs.Render.Parameters
import BraceTemplate.Proofs.Text.Delimiters

/-!
# Texts of the data as names and operands

A name or a parameter that is the value under a key is the text of this value as the automatic
filter writes it. An inclusion and a block by such a name do what those by this text do, and a
comparison of a key with its own value holds where the filter leaves the text as it is.
-/

namespace BraceTemplate

open Text (Lacks)

/-- A body that writes the value under a key through the automatic filter alone. -/
def Program.Interpolates (program : Program) (id : BodyId) (key : String) : Prop :=
  program.body id = [.reference (.key key) ⟨[], some "h"⟩]

namespace Render

open Output Evaluate

section Interpolated

variable {program : Program} {id : BodyId} {key text : String} {context : Context}
variable {store : Store Continuation Observer State} {writer : Writer}

/-- The body writes the text as the automatic filter does, through whatever handle. -/
theorem renderBody_interpolated (depth : Nat) (interpolates : program.Interpolates id key)
    (found : context.resolve? (.key key) = some (.string text)) (filled : text ≠ "")
    (escapes : store.client.engine.filters.find? "h" = some (Filter.ofText Text.Html.escape)) :
    (callsWithin (depth + 1)).renderBody program id writer context store =
      (do
        pure (.ok (← writer.write (Text.Html.escape text))) :
          Action (Except RenderError Writer)) store := by
  have notEmpty : (Value.string text).isEmpty = false := by
    simpa [Value.isEmpty] using filled
  have applied : Filter.applyChain store.client.engine.filters ⟨[], some "h"⟩ (.string text) =
      Text.Html.escape text := by
    simp [Filter.applyChain, Filter.names, Filter.applyNamed, escapes, Filter.ofText,
      Value.display]
  change runOps (callsWithin depth) program context (program.body id) writer store = _
  rw [interpolates]
  simp only [runOps, runOp, renderReference, found, writeValue, notEmpty, Bool.false_eq_true,
    if_false, engine, run_bind, run_client, run_pure, Option.bind_some, applied]
  cases writer.write (Text.Html.escape text) store <;> rfl

/-- The name is the text, and an outlet of its own has come and gone. -/
theorem blockName_interpolated (depth : Nat) (interpolates : program.Interpolates id key)
    (found : context.resolve? (.key key) = some (.string text)) (filled : text ≠ "")
    (escapes : store.client.engine.filters.find? "h" = some (Filter.ofText Text.Html.escape)) :
    blockName (callsWithin (depth + 1)) program context (.body id) store =
      some (Text.Html.escape text, store.open
        ((Spot.complete none (Text.Html.escape text)).told (.ok (Text.Html.escape text)))) := by
  refine run_bodyText (Nat.succ_pos depth) ?_
  have sameFilters :
      (store.open (Outlet.opened (.collect "" none none))).client.engine.filters.find? "h" =
        some (Filter.ofText Text.Html.escape) := escapes
  rw [renderBody_interpolated depth interpolates found filled sameFilters, run_bind,
    Writer.write_direct (.inl rfl)]
  rfl

/-- A block by a value is the one by the text of the value. -/
theorem runOp_block_interpolated (depth : Nat) (interpolates : program.Interpolates id key)
    (found : context.resolve? (.key key) = some (.string text)) (filled : text ≠ "")
    (escapes : store.client.engine.filters.find? "h" = some (Filter.ofText Text.Html.escape))
    {rebased : Option Identifier} {exprs : ParamExprs} {entries : NamedBodies} :
    runOp (callsWithin (depth + 1)) program context writer
        (.block (.body id) rebased exprs entries) store =
      runOp (callsWithin (depth + 1)) program context writer
        (.block (.literal (Text.Html.escape text)) rebased exprs entries) (store.open
          ((Spot.complete none (Text.Html.escape text)).told (.ok (Text.Html.escape text)))) := by
  simp only [runOp]
  rw [run_bind, blockName_interpolated depth interpolates found filled escapes]
  rfl

/-- A block yields to its override. -/
theorem runOp_block_override {calls : Calls} {name : String} {override : BlockRef}
    (found : context.block? name = some override)
    (below : context.blockDepth < store.client.engine.config.maxDepth)
    {rebased : Option Identifier} {exprs : ParamExprs} {entries : NamedBodies} :
    runOp calls program context writer (.block (.literal name) rebased exprs entries) store =
      calls.renderBody override.program override.body writer (context.forBodies rebased).forBlock
        store := by
  have looked : engine store = some (store.client.engine, store) := rfl
  have inScope : (context.forBodies rebased).block? name = some override := by
    cases rebased <;> exact found
  have sameDepth : (context.forBodies rebased).blockDepth = context.blockDepth := by
    cases rebased <;> rfl
  simp only [runOp, blockName, pure_bind, renderBlock]
  rw [run_bind, looked, Option.bind_some]
  simp only [inScope, sameDepth, if_neg (Nat.not_le.mpr below)]

/-- What is written through a tap that keeps it fills a pot, and what older taps make of nothing
reaches the outlet. -/
theorem run_write_kept (known : ∀ pot, Tap.collect pot ∈ writer.taps → pot < store.pots.size)
    (text : String) :
    ∃ after, (writer.tap (.collect store.pots.size)).write text (withPot store) =
        some (writer.tap (.collect store.pots.size), after) ∧
      after.pots.getD store.pots.size "" = text ∧ after.client = store.client ∧
        after.events = store.events ∧
          (Tap.AreSilent writer.taps → after.outlets = store.outlets) := by
  let potted := (withPot store).pots.modify store.pots.size (· ++ text)
  have gathered : (Tap.filled writer.taps "" potted).getD store.pots.size "" = text := by
    have agree : Tap.PotsAgree store.pots.size potted potted := ⟨rfl, fun _ _ => rfl⟩
    have same := (agree.filledBefore known "").same store.pots.size (Nat.le_refl _)
    rw [Array.getD_eq_getD_getElem?, ← same]
    simp [potted, withPot, Array.getElem_modify]
  unfold Writer.write
  rw [run_bind, Writer.run_passTaps, Option.bind_some]
  dsimp only
  split
  · exact ⟨_, rfl, gathered, rfl, rfl, fun _ => rfl⟩
  · rename_i visible
    refine ⟨_, rfl, gathered, rfl, rfl, fun silent => absurd ?_ visible⟩
    exact String.isEmpty_iff.mpr silent

theorem resolveParam?_interpolated (depth : Nat) (interpolates : program.Interpolates id key)
    (found : context.resolve? (.key key) = some (.string text)) (filled : text ≠ "")
    (escapes : store.client.engine.filters.find? "h" = some (Filter.ofText Text.Html.escape))
    (known : ∀ pot, Tap.collect pot ∈ writer.taps → pot < store.pots.size)
    {given : Value.Params} {name : String} {stamp : Stamp}
    (isBody : given.find? name = some (.function (.inline program id stamp))) :
    ∃ after, resolveParam? (callsWithin (depth + 2)) given name writer context store =
        some (some (.string (Text.Html.escape text)), after) ∧
      after.client = store.client ∧ after.events = store.events ∧
        (Tap.AreSilent writer.taps → after.outlets = store.outlets) := by
  obtain ⟨after, wrote, gathered, sameClient, sameEvents, sameOutlets⟩ :=
    run_write_kept known (Text.Html.escape text)
  have called : (callsWithin (depth + 2)).call (.inline program id stamp)
      (writer.tap (.collect store.pots.size)) context Bodies.none [] (withPot store) =
      some (.ok (.handle (writer.tap (.collect store.pots.size))), after) := by
    have sameFilters : (withPot store).client.engine.filters.find? "h" =
        some (Filter.ofText Text.Html.escape) := escapes
    change callFunction (callsWithin (depth + 1)) (.inline program id stamp)
      (writer.tap (.collect store.pots.size)) context Bodies.none [] (withPot store) = _
    simp only [callFunction]
    rw [run_bind, renderBody_interpolated depth interpolates found filled sameFilters, run_bind,
      wrote]
    rfl
  have notEmpty : (Text.Html.escape text).isEmpty = false := by
    simpa using fun empty => filled (Text.Html.escape_eq_empty_iff.mp empty)
  refine ⟨after, ?_, sameClient, sameEvents, sameOutlets⟩
  simp only [resolveParam?, isBody]
  rw [run_bind, run_resolveValue, called]
  simp only [Option.map_some, calledValue, gathered, notEmpty]
  rfl

theorem coerce_string (filled : text ≠ "") :
    Operand.coerce (.string text) none context = .other (.string text) := by
  simp [Operand.coerce, Operand.isFalsy, Value.isTruthy, filled, Operand.ofValue]

/-- A comparison of a key with its own value holds where the filter leaves the text as it is. -/
theorem runOp_eq_interpolated (depth : Nat) (interpolates : program.Interpolates id key)
    (found : context.resolve? (.key key) = some (.string text)) (filled : text ≠ "")
    (escapes : store.client.engine.filters.find? "h" = some (Filter.ofText Text.Html.escape))
    (known : ∀ pot, Tap.collect pot ∈ writer.taps → pot < store.pots.size) {name : String}
    (compares : store.client.engine.helpers.find? name = some (.builtin (.compare .eq)))
    (entries : NamedBodies) :
    ∃ after, after.client = store.client ∧ after.events = store.events ∧
      (Tap.AreSilent writer.taps → after.outlets = store.outlets) ∧
        runOp (callsWithin (depth + 2)) program context writer
            (.helper name none [("key", .identifier (.key key)), ("value", .body id)] entries)
            store =
          ((if Text.Html.escape text = text then do
              if context.select?.isSome then setSettled true
              (callsWithin (depth + 2)).renderNamed ⟨program, entries⟩ mainBody writer context
            else (callsWithin (depth + 2)).renderNamed ⟨program, entries⟩ elseBody writer context)
              >>= fun ended => pure (.ok (afterHelper writer ended))) after := by
  have evaluated : params program context
      [("key", .identifier (.key key)), ("value", .body id)] =
      [("key", .string text),
        ("value", .function (.inline program id ⟨context.level, "value"⟩))] := by
    have ordered : ¬ "value" < "key" := by decide
    simp [params, paramValue?, found, Members.ofList, Members.insert, ordered]
  have ofKey : resolveParam? (callsWithin (depth + 2))
      [("key", .string text), ("value", .function (.inline program id ⟨context.level, "value"⟩))]
      "key" writer context store = some (some (.string text), store) := rfl
  have isBody : Members.find? [("key", Value.string text),
      ("value", Value.function (.inline program id ⟨context.level, "value"⟩))] "value" =
        some (.function (.inline program id ⟨context.level, "value"⟩)) := rfl
  obtain ⟨after, ofValue, sameClient, sameEvents, sameOutlets⟩ :=
    resolveParam?_interpolated depth interpolates found filled escapes known isBody
  refine ⟨after, sameClient, sameEvents, sameOutlets, ?_⟩
  have holds : Comparison.eq.holds (Operand.coerce (.string text) none context)
      (Operand.coerce (.string (Text.Html.escape text)) none context) =
        decide (Text.Html.escape text = text) := by
    rw [coerce_string filled,
      coerce_string fun empty => filled (Text.Html.escape_eq_empty_iff.mp empty)]
    simp only [Comparison.holds, Operand.same, Value.same, beq_eq_decide, eq_comm]
  rw [runOp_helper compares, evaluated]
  change ((runComparison (callsWithin (depth + 2)) .eq writer context ⟨program, entries⟩ _) >>=
    _) store = _
  rw [run_bind, run_bind]
  refine congrArg (Option.bind · _) ?_
  simp only [runComparison, comparisonKey?]
  rw [run_bind, run_bind, ofKey]
  simp only [Option.bind_some, run_pure]
  rw [run_bind, ofValue]
  simp only [Option.bind_some, Option.getD_some]
  have noType : (Members.find? [("key", Value.string text),
      ("value", .function (.inline program id ⟨context.level, "value"⟩))] "type").bind
        Value.text? = none := rfl
  simp only [noType, holds, Bool.true_and, decide_eq_true_eq]

/-- An inclusion evaluates to the template under its name. -/
theorem opText_literal {templates : Templates} (texts : Texts) {rebased : Option Identifier}
    {exprs : ParamExprs}
    (below : ((context.forBodies rebased).forPartial (params program context exprs)).partialDepth ≤
      templates.maxDepth) (name : String) :
    opText templates texts program context (.inclusion (.literal name) rebased exprs) =
      templateText templates texts name
        (((context.forBodies rebased).forPartial (params program context exprs)).named name) := by
  simp only [opText, inclusionText, if_neg (Nat.not_lt.mpr below)]

/-- An inclusion by a value evaluates to the template under the text of the value. -/
theorem opText_interpolated {templates : Templates} (steps : Nat)
    (interpolates : program.Interpolates id key) {rebased : Option Identifier} {exprs : ParamExprs}
    (below : ((context.forBodies rebased).forPartial (params program context exprs)).partialDepth ≤
      templates.maxDepth)
    (found : ((context.forBodies rebased).forPartial (params program context exprs)).resolve?
      (.key key) = some (.string text)) (filled : text ≠ "") :
    opText templates (textsWithin templates (steps + 1)) program context
        (.inclusion (.body id) rebased exprs) =
      templateText templates (textsWithin templates steps) (Text.Html.escape text)
        (((context.forBodies rebased).forPartial (params program context exprs)).named
          (Text.Html.escape text)) := by
  have notEmpty : (Value.string text).isEmpty = false := by
    simpa [Value.isEmpty] using filled
  have written : valueText ⟨[], some "h"⟩ (.string text) = Text.Html.escape text := by
    simp only [valueText, notEmpty]
    rfl
  have ofBody : (textsWithin templates (steps + 1)).body program id
      ((context.forBodies rebased).forPartial (params program context exprs)) =
        pure (Text.Html.escape text) := by
    change opsText templates (textsWithin templates steps) program _ (program.body id) = _
    rw [interpolates]
    simp only [opsText, opText, referenceText, found, written, pure_bind, String.append_empty]
  simp only [opText, inclusionText, if_neg (Nat.not_lt.mpr below), ofBody, pure_bind]
  rfl

/-- An inclusion by a value writes what one by the text of the value writes. -/
theorem runOp_inclusion_interpolated (setting : Setting) (depth : Nat)
    (interpolates : program.Interpolates id key) (quotes : program.Quotes) (tame : context.Tame)
    {rebased : Option Identifier} {exprs : ParamExprs}
    (isPlain : ∀ quoted ∈ exprs.quoted, program.IsPlain quoted)
    (below : ((context.forBodies rebased).forPartial (params program context exprs)).partialDepth ≤
      setting.config.maxDepth)
    (found : ((context.forBodies rebased).forPartial (params program context exprs)).resolve?
      (.key key) = some (.string text)) (filled : text ≠ "") :
    ∃ evaluation,
      evaluation = templateText setting.templates (textsWithin setting.templates depth)
        (Text.Html.escape text)
          (((context.forBodies rebased).forPartial (params program context exprs)).named
            (Text.Html.escape text)) ∧
      Simulates setting (depth + 1) True writer evaluation
          (runOp (callsWithin (depth + 1)) program context writer
            (.inclusion (.body id) rebased exprs)) .ok ∧
        Simulates setting (depth + 1) True writer evaluation
          (runOp (callsWithin depth) program context writer
            (.inclusion (.literal (Text.Html.escape text)) rebased exprs)) .ok := by
  have plainName : program.IsPlain id := by
    intro op member
    rw [interpolates, List.mem_singleton] at member
    subst member
    rfl
  refine ⟨_, rfl, .ofUntapped fun untapped => ?_, .ofUntapped fun untapped => ?_⟩
  · have within := matches_within setting (Nat.le_refl (depth + 1)) (Nat.le_refl (depth + 1))
    have isPlainOp : ∀ quoted ∈ Op.quoted (.inclusion (.body id) rebased exprs),
        program.IsPlain quoted := by
      intro quoted member
      rcases List.mem_append.mp member with ofName | ofExprs
      · rw [List.mem_singleton.mp ofName]
        exact plainName
      · exact isPlain quoted ofExprs
    have simulates := within.runOp untapped quotes tame isPlainOp
    rw [eq_self_iff_true, opText_interpolated depth interpolates below found filled] at simulates
    exact simulates
  · have within := matches_within setting (Nat.le_refl depth) (Nat.le_succ depth)
    have isPlainOp : ∀ quoted ∈
        Op.quoted (.inclusion (.literal (Text.Html.escape text)) rebased exprs),
        program.IsPlain quoted := fun quoted member => isPlain quoted member
    have simulates := within.runOp untapped quotes tame isPlainOp
    rw [eq_self_iff_true, opText_literal _ below] at simulates
    exact simulates

/-- A value under a key, as a name or an operand, stands for its text as the automatic filter writes
it. An inclusion by the value and one by this text write the text of the same template with the same
context, as long as inclusions nest no deeper than allowed. A block by the value is the block by
this text. A comparison of the key with its value renders the main body where the text is its own,
so that it has no delimiter and opens no entity, and else the other branch. -/
theorem interpolated_denotes_escaped (interpolates : program.Interpolates id key)
    (filled : text ≠ "") :
    (∀ (setting : Setting) (depth : Nat) (writer : Writer) (context : Context)
        (rebased : Option Identifier) (exprs : ParamExprs),
      let inner := (context.forBodies rebased).forPartial (params program context exprs)
      program.Quotes → context.Tame → (∀ quoted ∈ exprs.quoted, program.IsPlain quoted) →
        inner.partialDepth ≤ setting.config.maxDepth →
          inner.resolve? (.key key) = some (.string text) →
      ∃ evaluation,
        evaluation = templateText setting.templates (textsWithin setting.templates depth)
          (Text.Html.escape text) (inner.named (Text.Html.escape text)) ∧
        Simulates setting (depth + 1) True writer evaluation
            (runOp (callsWithin (depth + 1)) program context writer
              (.inclusion (.body id) rebased exprs)) .ok ∧
          Simulates setting (depth + 1) True writer evaluation
            (runOp (callsWithin depth) program context writer
              (.inclusion (.literal (Text.Html.escape text)) rebased exprs)) .ok) ∧
    (∀ (depth : Nat) (writer : Writer) (context : Context)
        (store : Store Continuation Observer State) (rebased : Option Identifier)
        (exprs : ParamExprs) (entries : NamedBodies),
      store.client.engine.filters.find? "h" = some (Filter.ofText Text.Html.escape) →
        context.resolve? (.key key) = some (.string text) →
      ∃ gone : Outlet Continuation Observer, gone.finished = true ∧
        runOp (callsWithin (depth + 1)) program context writer
            (.block (.body id) rebased exprs entries) store =
          runOp (callsWithin (depth + 1)) program context writer
            (.block (.literal (Text.Html.escape text)) rebased exprs entries) (store.open gone) ∧
        ∀ override, context.block? (Text.Html.escape text) = some override →
          context.blockDepth < store.client.engine.config.maxDepth →
            runOp (callsWithin (depth + 1)) program context writer
                (.block (.body id) rebased exprs entries) store =
              (callsWithin (depth + 1)).renderBody override.program override.body writer
                (context.forBodies rebased).forBlock (store.open gone)) ∧
    (∀ (depth : Nat) (writer : Writer) (context : Context)
        (store : Store Continuation Observer State) (name : String) (entries : NamedBodies),
      store.client.engine.filters.find? "h" = some (Filter.ofText Text.Html.escape) →
        store.client.engine.helpers.find? name = some (.builtin (.compare .eq)) →
          (∀ pot, Tap.collect pot ∈ writer.taps → pot < store.pots.size) →
            context.resolve? (.key key) = some (.string text) →
      ∃ after, after.client = store.client ∧ after.events = store.events ∧
        (Tap.AreSilent writer.taps → after.outlets = store.outlets) ∧
          runOp (callsWithin (depth + 2)) program context writer
              (.helper name none [("key", .identifier (.key key)), ("value", .body id)] entries)
              store =
            ((if Text.Html.escape text = text then do
                if context.select?.isSome then setSettled true
                (callsWithin (depth + 2)).renderNamed ⟨program, entries⟩ mainBody writer context
              else
                (callsWithin (depth + 2)).renderNamed ⟨program, entries⟩ elseBody writer context)
                >>= fun ended => pure (.ok (afterHelper writer ended))) after) ∧
    (Text.Html.escape text = text ↔ ∀ char ∈ '&' :: Text.Html.delimiters, Lacks char text) := by
  refine ⟨?_, ?_, ?_, Text.Html.escape_eq_self_iff text⟩
  · intro setting depth writer context rebased exprs inner quotes tame isPlain below found
    exact runOp_inclusion_interpolated setting depth interpolates quotes tame isPlain below found
      filled
  · intro depth writer context store rebased exprs entries escapes found
    refine ⟨(Spot.complete none (Text.Html.escape text)).told (.ok (Text.Html.escape text)), rfl,
      runOp_block_interpolated depth interpolates found filled escapes, ?_⟩
    intro override isOverride below
    rw [runOp_block_interpolated depth interpolates found filled escapes]
    have belowThen : context.blockDepth <
        (store.open ((Spot.complete none (Text.Html.escape text)).told
          (.ok (Text.Html.escape text)))).client.engine.config.maxDepth :=
      below
    exact runOp_block_override isOverride belowThen
  · intro depth writer context store name entries escapes compares known found
    exact runOp_eq_interpolated depth interpolates found filled escapes known compares entries

end Interpolated

/-- A program whose body 1 is the value under "k", and which defines a block. -/
def naming : Program :=
  ⟨none, 0, [[.write "x"], [.reference (.key "k") ⟨[], some "h"⟩], [.write "y"]],
    [("a&amp;b", 2)]⟩

def namingTemplates : Members Program :=
  [("a&amp;b", naming)]

theorem quotes_of_namingTemplates (name : String) (program : Program)
    (found : namingTemplates.find? name = some program) : program.Quotes := by
  have member := Members.mem_of_find? found
  obtain ⟨-, rfl⟩ : name = "a&amp;b" ∧ program = naming := by
    simpa [namingTemplates] using member
  decide

theorem none_gives_unanswered : Loader.none.Gives unanswered :=
  rfl

def namingSetting : Setting :=
  ⟨.standard, namingTemplates, .none, unanswered, none_gives_unanswered,
    quotes_of_namingTemplates⟩

/-- A text with an ampersand includes a template, yields to a block, and is not equal to itself. -/
theorem interpolated_denotes_escaped_ampersand :
    let context := (Context.ofValue (.ofJson (.object [("k", .string "a&b")]))).withBlocks naming
    (∃ evaluation : Evaluation String,
      evaluation ⟨false, []⟩ = some (.ok ("x", ⟨false, ["a&amp;b"]⟩)) ∧
        Simulates namingSetting 3 True (.onOutlet 0) evaluation
          (runOp (callsWithin 3) naming context (.onOutlet 0) (.inclusion (.body 1) none [])) .ok) ∧
    (∃ gone : Outlet Continuation Observer, gone.finished = true ∧
      runOp (callsWithin 1) naming context (.onOutlet 0) (.block (.body 1) none [] []) selecting =
        (callsWithin 1).renderBody naming 2 (.onOutlet 0) context.forBlock (selecting.open gone)) ∧
    ∃ after, after.client = selecting.client ∧
      runOp (callsWithin 2) naming context (.onOutlet 0)
          (.helper "eq" none [("key", .identifier (.key "k")), ("value", .body 1)]
            [(mainBody, 0), (elseBody, 2)]) selecting =
        ((callsWithin 2).renderNamed ⟨naming, [(mainBody, 0), (elseBody, 2)]⟩ elseBody (.onOutlet 0)
          context >>= fun ended => pure (.ok (afterHelper (.onOutlet 0) ended))) after := by
  intro context
  have quotes : naming.Quotes := by decide
  have tame : context.Tame := (Context.Tame.ofValue (Value.tame_ofJson _)).withBlocks quotes
  have interpolates : naming.Interpolates 1 "k" := rfl
  have filled : "a&b" ≠ "" := by decide
  obtain ⟨includes, yields, compares, -⟩ := interpolated_denotes_escaped interpolates filled
  obtain ⟨evaluation, rfl, simulates, -⟩ := includes namingSetting 2 (.onOutlet 0) context none []
    quotes tame (fun _ member => absurd member List.not_mem_nil) (by decide) rfl
  obtain ⟨gone, finished, -, override⟩ :=
    yields 0 (.onOutlet 0) context selecting none [] [] rfl rfl
  obtain ⟨after, sameClient, -, -, ran⟩ := compares 0 (.onOutlet 0) context selecting "eq"
    [(mainBody, 0), (elseBody, 2)] rfl rfl (fun _ member => absurd member List.not_mem_nil) rfl
  have different : Text.Html.escape "a&b" ≠ "a&b" := by decide
  rw [if_neg different] at ran
  exact ⟨⟨_, rfl, simulates⟩, ⟨gone, finished, override ⟨naming, 2⟩ rfl (by decide)⟩,
    after, sameClient, ran⟩

/-- A value does not stand for itself: a text with a delimiter is not equal to what stands in its
place, and names another template. An inclusion sees the innermost frame alone also for its name,
and where inclusions nest too deep, the error tells the template that the tag stands in. -/
theorem interpolated_denotes_no_value :
    textAmong? [("main", "\x7b@eq key=k value=\"\x7bk\x7d\"\x7dsame\x7b/eq\x7d")]
        (.ofJson (.object [("k", .string "a<b")])) = some "" ∧
      textAmong? [("main", "\x7b>\"\x7bk\x7d\"/\x7d"), ("a&b", "x")]
          (.ofJson (.object [("k", .string "a&b")])) =
        some "Template not found: a&amp;b" ∧
      textAmong? [("main", "\x7b#s\x7d\x7b>\"\x7bk\x7d\"/\x7d\x7b/s\x7d"), ("p", "x")]
          (.ofJson (.object [("k", .string "p"), ("s", .object [])])) =
        some "Template not found: " ∧
      textAmong? [("main", "\x7b>\"\x7bk\x7d\"/\x7d"), ("p", "\x7b>main/\x7d")]
          (.ofJson (.object [("k", .string "p")])) =
        some "Recursive partial inclusion detected (depth > 64): main" ∧
      textAmong? [("main", "\x7b>p/\x7d"), ("p", "\x7b>main/\x7d")]
          (.ofJson (.object [("k", .string "p")])) =
        some "Recursive partial inclusion detected (depth > 64): p" := by
  decide +kernel

end Render

end BraceTemplate
