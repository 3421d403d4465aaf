import BraceTemplate.Proofs.Render.Branching

/-!
# Every step simulates its evaluation

References, sections, blocks and helpers, given that bodies and functions nested in them do. Nothing
here depends on how deep they nest.
-/

namespace BraceTemplate.Render

open Output Evaluate

/-- A body that only writes, rendered by itself. -/
theorem run_bodyText {calls : Calls} {program : Program} {id : BodyId} {context : Context}
    {store : Store Continuation Observer State} {text : String}
    (rounds : 0 < calls.handlers.rounds)
    (ran : calls.renderBody program id (Writer.onOutlet store.outlets.size) context
        (store.open (Outlet.opened (.collect "" none none))) =
      some (.ok (Writer.onOutlet store.outlets.size),
        (Writer.onOutlet store.outlets.size).wrote text
          (store.open (Outlet.opened (.collect "" none none))))) :
    bodyText calls program id context store =
      some (text, store.open ((Spot.complete none text).told (.ok text))) := by
  unfold bodyText
  dsimp only
  rw [run_bind, run_openOutlet, Option.bind_some, run_bind, ← Store.open, ran, wrote_opening]
  simp only [Option.bind_some, run_bind, finish_opening_unheard rounds, result?, run_outlet?,
    Store.open_outlets_self]
  rfl

/-- Nested rendering simulates nested evaluation. -/
structure Matches (setting : Setting) (depth : Nat) (exactly : Prop) (calls : Calls)
    (texts : Texts) : Prop where
  plain : PlainCalls exactly calls texts
  keep : ∀ id result, calls.Keep id result
  within : ∃ steps, steps ≤ depth ∧ texts = textsWithin setting.templates steps
  rounds : ∀ program body context trace found,
    texts.body program body context trace = some found → 0 < calls.handlers.rounds
  body : ∀ program body writer context, program.Quotes → context.Tame →
    Simulates setting depth exactly writer (texts.body program body context)
      (calls.renderBody program body writer context) .ok
  captured : ∀ text branch context, context.Tame →
    Concludes setting depth exactly branch (texts.captured text context)
      (calls.handlers.resume (.capture branch (.include context)) (.ok text))

namespace Matches

variable {setting : Setting} {depth : Nat} {exactly : Prop} {calls : Calls} {texts : Texts}
variable {writer : Writer} {context : Context} {bodies : Bodies} {params : Value.Params}

/-- A parameter of tame data becomes the plain value that it is evaluated to. -/
theorem resolveValue (simulates : Matches setting depth exactly calls texts)
    (untapped : writer.taps = []) {value : Value} (tameValue : value.Tame) (tame : context.Tame) :
    Quietly exactly (plainValue texts value context) (resolveValue calls value writer context) := by
  cases tameValue with
  | @inline program body stamp isPlain =>
      intro store trace filters settled
      let potted : Store Continuation Observer State :=
        { store with pots := store.pots.push "" }
      have tapped : (writer.tap (.collect store.pots.size)).taps = [.collect store.pots.size] := by
        simp [Writer.tap, untapped]
      unfold plainValue Render.resolveValue
      dsimp only
      rw [run_bind, run_openPot, Option.bind_some, run_bind, evaluate_bind]
      rcases simulates.plain.function program body stamp _ context Bodies.none [] isPlain
          (.inr ⟨_, tapped⟩) tame potted trace filters with
        ⟨out, none⟩ | ⟨text, evaluated, ran⟩
      · rw [out]
        refine .inr ⟨rfl, fun same => ?_⟩
        rw [none same]
        rfl
      · have gathered :
            ((writer.tap (.collect store.pots.size)).wrote text potted).pots.getD
              store.pots.size "" = text := by
          unfold Writer.wrote
          rw [tapped]
          simp [potted, Array.getElem_modify]
        rw [evaluated, ran]
        refine .inl ⟨_, (writer.tap (.collect store.pots.size)).wrote text potted, rfl, ?_, ?_, ?_⟩
        · simp only [Option.bind_some, run_bind, run_potText, gathered]
          rfl
        · simp [potted]
        · unfold Writer.wrote
          rw [tapped]
          exact ⟨rfl, rfl, fun _ _ there => there⟩
  | _ => exact .pure _

theorem resolveParam? (simulates : Matches setting depth exactly calls texts)
    (untapped : writer.taps = []) (tameParams : params.Tame) (tame : context.Tame) (key : String) :
    Quietly exactly (param? texts params key context)
      (resolveParam? calls params key writer context) := by
  unfold param? Render.resolveParam?
  cases found : params.find? key with
  | none => exact .pure _
  | some value =>
      exact (simulates.resolveValue untapped (tameParams.find? found) tame).bind fun plain =>
        .pure _

theorem renderNamed (simulates : Matches setting depth exactly calls texts)
    (quotes : bodies.program.Quotes) (tame : context.Tame) (name : String) :
    Simulates setting depth exactly writer (texts.named bodies name context)
      (calls.renderNamed bodies name writer context) .ok := by
  unfold Texts.named Calls.renderNamed
  cases bodies.find? name with
  | none => exact .pure Except.ok
  | some body => exact simulates.body _ _ _ _ quotes tame

theorem renderElements (simulates : Matches setting depth exactly calls texts) {program : Program}
    (quotes : program.Quotes) (tame : context.Tame) (body : BodyId) (length index : Nat)
    {items : List Value} (tameItems : ∀ item ∈ items, item.Tame) :
    Simulates setting depth exactly writer
      (elementsText texts program body context length index items)
      (renderElements calls program body context length index items writer) .ok := by
  induction items generalizing index writer with
  | nil => exact .pure Except.ok
  | cons item rest inductionHypothesis =>
      have tameHere : (context.pushIndexed item index length).Tame :=
        tame.pushIndexed (tameItems item (by simp))
      have first := simulates.body program body writer _ quotes tameHere
      refine .append first (fun last => ?_) fun yielded id error => ?_
      · exact inductionHypothesis _ fun other member => tameItems other (by simp [member])
      · cases yielded with
        | error error => exact .pure _
        | ok next => exact (simulates.keep _ _).renderElements _ _ _ _ _

theorem renderEach (simulates : Matches setting depth exactly calls texts)
    (quotes : bodies.program.Quotes) (tame : context.Tame) {value? : Option Value}
    (tameValue : ∀ value, value? = some value → value.Tame) :
    Simulates setting depth exactly writer (eachText texts context value? bodies)
      (renderEach calls writer context value? bodies) .ok := by
  cases value? with
  | none => exact simulates.renderNamed quotes tame elseBody
  | some value =>
      have tameHere := tameValue value rfl
      have presence :
          Simulates setting depth exactly writer
            (if value.isTruthy then texts.named bodies mainBody (context.push value)
              else texts.named bodies elseBody context)
            (if value.isTruthy then calls.renderNamed bodies mainBody writer (context.push value)
              else calls.renderNamed bodies elseBody writer context) .ok := by
        split
        · exact simulates.renderNamed quotes (tame.push tameHere) mainBody
        · exact simulates.renderNamed quotes tame elseBody
      cases value with
      | array items =>
          unfold eachText Render.renderEach
          cases bodies.find? mainBody with
          | none => exact .pure Except.ok
          | some body =>
              simp only
              split
              · exact simulates.renderNamed quotes tame elseBody
              · cases tameHere with
                | array each => exact simulates.renderElements quotes tame _ _ _ each
      | bool flag =>
          cases flag with
          | true => exact simulates.renderNamed quotes tame mainBody
          | false => exact presence
      | _ => exact presence

theorem renderSection (simulates : Matches setting depth exactly calls texts)
    (quotes : bodies.program.Quotes) (tame : context.Tame) {value? : Option Value}
    (tameValue : ∀ value, value? = some value → value.Tame) (tameParams : params.Tame) :
    Simulates setting depth exactly writer (sectionText texts context value? bodies params)
      (renderSection calls writer context value? bodies params) .ok := by
  have tameInner : (if params.isEmpty then context else context.push (.object params)).Tame := by
    split
    · exact tame
    · exact tame.push (.object tameParams)
  have each :
      Simulates setting depth exactly writer (sectionText texts context value? bodies params)
        (Render.renderEach calls writer
          (if params.isEmpty then context else context.push (.object params)) value? bodies) .ok :=
    simulates.renderEach quotes tameInner tameValue
  cases value? with
  | none => exact each
  | some value =>
      cases value with
      | function called =>
          cases tameValue _ rfl with
          | inline isPlain => exact each
      | _ => exact each

theorem renderPresence (simulates : Matches setting depth exactly calls texts)
    (quotes : bodies.program.Quotes) (tame : context.Tame) (isPresent : Bool) :
    Simulates setting depth exactly writer (presenceText texts context isPresent bodies)
      (renderPresence calls writer context isPresent bodies) .ok :=
  simulates.renderNamed quotes tame _

theorem blockName (simulates : Matches setting depth exactly calls texts) {program : Program}
    {name : Name} (isPlain : ∀ id ∈ name.quoted, program.IsPlain id) (tame : context.Tame) :
    Quietly exactly (blockNameText texts program context name)
      (blockName calls program context name) := by
  cases name with
  | literal text => exact .pure text
  | body id =>
      intro store trace filters settled
      rcases simulates.plain.body program id (Writer.onOutlet store.outlets.size) context
          (isPlain id (by simp [Name.quoted])) (.inl rfl) tame
          (store.open (Outlet.opened (.collect "" none none))) trace filters with
        ⟨out, none⟩ | ⟨text, evaluated, ran⟩
      · refine .inr ⟨out, fun same => ?_⟩
        unfold Render.blockName bodyText
        dsimp only
        rw [run_bind, run_openOutlet, Option.bind_some, run_bind, ← Store.open, none same]
        rfl
      · have rounds := simulates.rounds _ _ _ _ _ evaluated
        exact .inl ⟨text, store.open ((Spot.complete none text).told (.ok text)), evaluated,
          run_bodyText rounds ran, rfl, rfl, rfl, fun _ _ there => Store.open_outlets_of_some there⟩

theorem renderBlock (simulates : Matches setting depth exactly calls texts)
    (quotes : bodies.program.Quotes) (tame : context.Tame) (name : String) :
    Simulates setting depth exactly writer
      (blockText setting.templates texts context name bodies)
      (renderBlock calls writer context name bodies) .ok := by
  refine .afterEngine fun engine suits => ?_
  have sameDepth : engine.config.maxDepth = setting.templates.maxDepth := by
    rw [suits.config]
    rfl
  unfold blockText
  simp only [sameDepth]
  cases found : context.block? name with
  | none => exact simulates.renderNamed quotes tame mainBody
  | some override =>
      simp only
      split
      · refine (Simulates.fail fun id result => (simulates.keep id result).handlers).andThen
          (fun last store => rfl) fun yielded id error => .pure _
      · exact simulates.body _ _ _ _ (tame.block? found) tame.forBlock

theorem renderSelect (simulates : Matches setting depth exactly calls texts)
    (quotes : bodies.program.Quotes) (tame : context.Tame) (key : Value) :
    Simulates setting depth exactly writer (keyedText texts key context bodies)
      (renderSelect calls key writer context bodies) .ok :=
  (simulates.renderNamed quotes (tame.pushSelect key) mainBody).withFreshSelect

theorem runSelect (simulates : Matches setting depth exactly calls texts)
    (untapped : writer.taps = []) (quotes : bodies.program.Quotes) (tame : context.Tame)
    (tameParams : params.Tame) :
    Simulates setting depth exactly writer (selectText texts context bodies params)
      (runSelect calls writer context bodies params) .ok := by
  refine .afterQuietly (simulates.resolveParam? untapped tameParams tame "key") fun key? => ?_
  cases key? with
  | none => exact .pure Except.ok
  | some key => exact simulates.renderSelect quotes tame key

/-- Whether a branch has matched is the same for the render and for the evaluation. -/
theorem isSettled_quietly : Quietly exactly Evaluate.isSettled Render.isSettled := by
  intro store trace _ settled
  refine .inl ⟨trace.settled, store, rfl, ?_, rfl, .refl store⟩
  rw [← settled]
  rfl

theorem comparisonKey? (simulates : Matches setting depth exactly calls texts)
    (untapped : writer.taps = []) (tame : context.Tame) (tameParams : params.Tame) :
    Quietly exactly (Evaluate.comparisonKey? texts context params)
      (Render.comparisonKey? calls writer context params) := by
  refine (simulates.resolveParam? untapped tameParams tame "key").bind fun key? => ?_
  cases key? with
  | some key => exact .pure _
  | none =>
      simp only
      cases context.select? with
      | none => exact .pure _
      | some key => exact isSettled_quietly.bind fun settled => .pure _

theorem runComparison (simulates : Matches setting depth exactly calls texts)
    (untapped : writer.taps = []) (quotes : bodies.program.Quotes) (tame : context.Tame)
    (tameParams : params.Tame) (comparison : Comparison) :
    Simulates setting depth exactly writer
      (comparisonText texts comparison context bodies params)
      (runComparison calls comparison writer context bodies params) .ok := by
  refine .afterQuietly (simulates.comparisonKey? untapped tame tameParams) fun key? => ?_
  cases key? with
  | none => exact .pure Except.ok
  | some found =>
      obtain ⟨key, mayMatch⟩ := found
      refine .afterQuietly (simulates.resolveParam? untapped tameParams tame "value")
        fun expected? => ?_
      simp only
      split
      · have mainSimulates :
            Simulates setting depth exactly writer (texts.named bodies mainBody context)
              (calls.renderNamed bodies mainBody writer context) .ok :=
          simulates.renderNamed quotes tame mainBody
        split
        · exact mainSimulates.afterSettling true
        · exact mainSimulates
      · exact simulates.renderNamed quotes tame elseBody

theorem write_simulates (untapped : writer.taps = []) (text : String) :
    Simulates setting depth exactly writer (pure text) (do
      pure (.ok (← writer.write text)) : Action (Except RenderError Writer)) .ok :=
  ((Plainly.write (.inl untapped) text).andThen fun _ => rfl).simulates rfl

theorem runMath (simulates : Matches setting depth exactly calls texts)
    (untapped : writer.taps = []) (quotes : bodies.program.Quotes) (tame : context.Tame)
    (tameParams : params.Tame) :
    Simulates setting depth exactly writer (mathText texts context bodies params)
      (runMath calls writer context bodies params) .ok := by
  refine .afterQuietly (simulates.resolveParam? untapped tameParams tame "key") fun key? =>
    .afterQuietly (simulates.resolveParam? untapped tameParams tame "method") fun method? => ?_
  cases key? with
  | none => exact .pure Except.ok
  | some key =>
      cases method?.filter Value.isTruthy with
      | none => exact .pure Except.ok
      | some method =>
          refine .afterQuietly (simulates.resolveParam? untapped tameParams tame "operand")
            fun operand? => ?_
          simp only
          cases Calculation.result? method.display (Calculation.quantity key)
              ((operand?.map Calculation.quantity).getD Operand.undefined) with
          | none => exact .pure Except.ok
          | some result =>
              cases bodies.find? mainBody with
              | some body => exact simulates.renderSelect quotes tame _
              | none => exact write_simulates untapped _

theorem runBuiltin (simulates : Matches setting depth exactly calls texts)
    (untapped : writer.taps = []) (quotes : bodies.program.Quotes) (tame : context.Tame)
    (tameParams : params.Tame) (helper : BuiltinHelper) :
    Simulates setting depth exactly writer (builtinText texts helper context bodies params)
      (runBuiltin calls helper writer context bodies params) .ok := by
  cases helper with
  | separator =>
      unfold builtinText Render.runBuiltin separatorText runSeparator
      simp only
      split
      · exact .pure Except.ok
      · exact simulates.renderNamed quotes tame mainBody
  | place =>
      refine simulates.renderNamed quotes (tame.push ?_) mainBody
      cases context.index? with
      | none => exact .null
      | some index => exact Value.tame_ofNat index
  | select => exact simulates.runSelect untapped quotes tame tameParams
  | compare comparison =>
      exact simulates.runComparison untapped quotes tame tameParams comparison
  | math => exact simulates.runMath untapped quotes tame tameParams
  | size =>
      exact .afterQuietly (simulates.resolveParam? untapped tameParams tame "key") fun value? =>
        write_simulates untapped _
  | contextDump =>
      refine .afterQuietly (simulates.resolveParam? untapped tameParams tame "key") fun key? =>
        .afterQuietly (simulates.resolveParam? untapped tameParams tame "to") fun to? => ?_
      simp only
      split
      · exact .pure Except.ok
      · exact write_simulates untapped _

end Matches

/-- The helpers that an engine starts with are not of the host. -/
theorem standard_builtin {name : String} {helper : Helper}
    (found : Helper.standard.find? name = some helper) : ∃ builtin, helper = .builtin builtin := by
  have each : ∀ entry ∈ Helper.standard, ∃ builtin, entry.2 = .builtin builtin := by
    refine Members.forall_mem_ofList fun entry member => ?_
    simp only [List.mem_cons, List.not_mem_nil, or_false] at member
    rcases member with
      rfl | rfl | rfl | rfl | rfl | rfl | rfl | rfl | rfl | rfl | rfl | rfl | rfl <;>
      exact ⟨_, rfl⟩
  exact each _ (Members.mem_of_find? found)

namespace Matches

variable {setting : Setting} {depth : Nat} {exactly : Prop} {calls : Calls} {texts : Texts}
variable {writer : Writer} {context : Context} {bodies : Bodies} {params : Value.Params}

theorem renderHelper (simulates : Matches setting depth exactly calls texts)
    (untapped : writer.taps = []) (quotes : bodies.program.Quotes) (tame : context.Tame)
    (tameParams : params.Tame) (name : String) :
    Simulates setting depth exactly writer (helperText texts name bodies params context)
      (renderHelper calls writer name bodies params context) .ok := by
  refine .afterEngine fun engine suits => ?_
  rw [suits.helpers]
  unfold helperText
  cases found : Helper.standard.find? name with
  | none => exact .pure Except.ok
  | some helper =>
      obtain ⟨builtin, rfl⟩ := standard_builtin found
      refine (simulates.runBuiltin untapped quotes tame tameParams builtin).andThen
        (fun last store => rfl) fun yielded id error => ?_
      cases yielded <;> exact .pure _

end Matches

end BraceTemplate.Render
