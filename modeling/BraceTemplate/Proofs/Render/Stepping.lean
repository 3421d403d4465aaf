import BraceTemplate.Proofs.Render.Accord

/-!
# Steps in accord

References, sections, blocks, helpers, code of the host and inclusions are in accord on the grounds
that they come to, and so are the steps of a body, one behind the other.
-/

namespace BraceTemplate.Render

open Output

namespace Sense

variable (sense : Sense) {Result : Type} {good weaker : Result → Prop}
variable {first second : Action Result} {writer : Writer}

theorem mono (runs : sense.Runs good first second)
    (implies : ∀ result, good result → weaker result) : sense.Runs weaker first second := by
  have same : ∀ action : Action Result, action >>= Pure.pure = action := bind_pure
  rw [← same first, ← same second]
  exact sense.bind runs fun result holds _ => sense.pure (implies result holds)

theorem discard (runs : sense.Runs good first second) :
    sense.Runs (fun _ => True) (Functor.discard first) (Functor.discard second) := by
  have same : ∀ action : Action Result,
      Functor.discard action = action >>= fun _ => Pure.pure PUnit.unit := by
    intro action
    funext store
    rw [run_discard, run_bind]
    cases action store <;> rfl
  rw [same, same]
  exact sense.bind runs fun _ _ _ => sense.pure trivial

/-- What leaves a handle ends as a body does. -/
theorem ok {first second : Action Writer} (runs : sense.Runs sense.fine first second) :
    sense.Runs sense.Ended (do Pure.pure (.ok (← first))) (do Pure.pure (.ok (← second))) :=
  sense.bind runs fun _ fine _ => sense.pure fine

theorem writeValue (fine : sense.fine writer) (chain : FilterChain) (value : Value) :
    sense.Runs sense.fine (writeValue chain writer value)
      (Render.writeValue chain writer value) := by
  unfold Render.writeValue
  split
  · exact sense.pure fine
  · exact sense.ofEngine fun _ _ _ => sense.write _ fine

/-- A sense that says nothing of handles, errors and values. -/
structure IsFree : Prop where
  fine (writer : Writer) : sense.fine writer
  fails : sense.fails
  returns (value : Value) : sense.returns value

theorem IsFree.ended {sense : Sense} (free : sense.IsFree)
    {first second : Action (Except RenderError Writer)}
    (runs : sense.Runs (fun _ => True) first second) : sense.Runs sense.Ended first second := by
  refine sense.mono runs fun ended _ => ?_
  cases ended with
  | error error => exact free.fails
  | ok next => exact free.fine next

theorem IsFree.returned {sense : Sense} (free : sense.IsFree)
    {first second : Action (Except RenderError Render.Returned)}
    (runs : sense.Runs (fun _ => True) first second) : sense.Runs sense.Returned first second := by
  refine sense.mono runs fun returned _ => ?_
  rcases returned with error | (next | value)
  · trivial
  · exact free.fine next
  · exact free.returns value

/-- A function among parameters is called with a tap that keeps what it writes. -/
theorem resolveValue {calls others : Calls} (loose : Prop) {value another : Value}
    {one other : Context} (alike : Value.Alike loose value another)
    (plain : value.isFunction = false → sense.returns value)
    (calling : ∀ called also pot, value = .function called → another = .function also →
      sense.Runs sense.Returned
        (calls.call called (writer.tap (.collect pot)) one Bodies.none [])
        (others.call also (writer.tap (.collect pot)) other Bodies.none []))
    (openPot : sense.Runs (fun _ => True) openPot openPot)
    (potText : ∀ pot, sense.Runs (fun _ => True) (potText pot) (potText pot)) :
    sense.Runs sense.returns (resolveValue calls value writer one)
      (Render.resolveValue others another writer other) := by
  have ofFunction : ∀ called also, value = .function called → another = .function also →
      sense.Runs sense.returns (Render.resolveValue calls value writer one)
        (Render.resolveValue others another writer other) := by
    rintro called also rfl rfl
    refine sense.bind openPot fun pot _ _ =>
      sense.bind (calling called also pot rfl rfl) fun returned ofReturned _ => ?_
    cases returned with
    | error error => exact sense.pure sense.ofNothing
    | ok returned =>
        cases returned with
        | value value => exact sense.pure ofReturned
        | handle next =>
            refine sense.bind (potText pot) fun text _ _ => sense.pure ?_
            split
            · exact sense.ofNothing
            · exact sense.ofText text
  cases alike with
  | passedOn isLoose program body stamp other => exact ofFunction _ _ rfl rfl
  | same value =>
      cases value with
      | function called => exact ofFunction called called rfl rfl
      | _ => exact sense.pure (plain rfl)

end Sense

theorem resolveValue_plain {calls : Calls} {value : Value} {writer : Writer} {context : Context}
    (plain : value.isFunction = false) : resolveValue calls value writer context = pure value := by
  cases value with
  | function called => cases plain
  | _ => rfl

namespace Accord.Enters

variable {accord : Accord} {calls others : Calls} {writer : Writer}
variable {one other : Context} {bodies : Bodies} {given also : Value.Params}
variable {value? another? : Option Value} {name : String} {program : Program}

theorem renderNamed (enters : accord.Enters calls others)
    (named : accord.Named one other bodies name) (fine : accord.fine writer) :
    accord.Runs accord.Ended (calls.renderNamed bodies name writer one)
      (others.renderNamed bodies name writer other) := by
  unfold Calls.renderNamed
  cases found : bodies.find? name with
  | none => exact accord.pure fine
  | some id => exact enters.body (named id found) fine

theorem renderSelect (enters : accord.Enters calls others)
    (selects : accord.Selects one other bodies) (key : Value) (fine : accord.fine writer) :
    accord.Runs accord.Ended (renderSelect calls key writer one bodies)
      (Render.renderSelect others key writer other bodies) := by
  unfold Render.renderSelect Calls.renderNamed
  cases found : bodies.find? mainBody with
  | none => exact enters.unopened fine
  | some id => exact enters.fresh (selects key id found) fine

theorem resolveParam? (enters : accord.Enters calls others)
    (resolves : accord.Resolves one other given also) (fine : accord.fine writer) (key : String) :
    accord.Runs (accord.Resolved given key) (resolveParam? calls given key writer one)
      (Render.resolveParam? others also key writer other) := by
  unfold Render.resolveParam?
  rcases (resolves.alike.find? key).split with
    ⟨none, noneAlso⟩ | ⟨value, another, some, someAlso, alike⟩
  · rw [none, noneAlso]
    exact accord.pure none
  · rw [some, someAlso]
    refine accord.bind (enters.resolves (resolves.each key _ _ some someAlso alike) fine)
      fun resolved returns yielded => accord.pure ⟨returns, value, some, fun plain => ?_⟩
    obtain ⟨store, later, ran⟩ := yielded
    rw [resolveValue_plain plain] at ran
    cases ran
    rfl

/-! ## References, sections and blocks -/

theorem renderReference (enters : accord.Enters calls others) {identifier : Identifier}
    (found : Value.FoundAlike accord.loose (one.resolve? identifier) (other.resolve? identifier))
    (called : ∀ called another, one.resolve? identifier = some (.function called) →
      other.resolve? identifier = some (.function another) →
        accord.call called another one other Bodies.none [] [])
    (fine : accord.fine writer) (chain : FilterChain) :
    accord.Runs accord.fine (renderReference calls writer one identifier chain)
      (Render.renderReference others writer other identifier chain) := by
  have calling : ∀ function another, one.resolve? identifier = some (.function function) →
      other.resolve? identifier = some (.function another) →
        accord.Runs accord.fine (Render.renderReference calls writer one identifier chain)
          (Render.renderReference others writer other identifier chain) := by
    intro function another here there
    simp only [Render.renderReference, here, there]
    refine accord.bind (enters.call (called _ _ here there) fine) fun returned ofReturned _ => ?_
    cases returned with
    | error error => exact accord.pure fine
    | ok returned =>
        cases returned with
        | handle next => exact accord.pure ofReturned
        | value value => exact accord.writeValue fine chain value
  rcases found.split with ⟨none, noneAlso⟩ | ⟨value, another, some, someAlso, values⟩
  · simp only [Render.renderReference, none, noneAlso]
    exact accord.pure fine
  · cases values with
    | passedOn isLoose program body stamp other => exact calling _ _ some someAlso
    | same value =>
        cases value with
        | function function => exact calling _ _ some someAlso
        | _ =>
            simp only [Render.renderReference, some, someAlso]
            exact accord.writeValue fine chain _

theorem renderElements (enters : accord.Enters calls others) {body : BodyId} {length : Nat}
    {items : List Value}
    (element : ∀ item ∈ items, ∀ index, accord.body (one.pushIndexed item index length)
      (other.pushIndexed item index length) program body)
    (fine : accord.fine writer) (index : Nat) :
    accord.Runs accord.Ended (renderElements calls program body one length index items writer)
      (Render.renderElements others program body other length index items writer) := by
  induction items generalizing index writer with
  | nil => exact accord.pure fine
  | cons item rest inductionHypothesis =>
      refine accord.bind (enters.body (element item List.mem_cons_self index) fine)
        fun ended ofEnded _ => ?_
      cases ended with
      | error error => exact accord.pure ofEnded
      | ok next =>
          exact inductionHypothesis (fun item later => element item (List.mem_cons_of_mem _ later))
            ofEnded _

theorem renderEach (enters : accord.Enters calls others)
    (each : accord.Each one other bodies value? another?) (fine : accord.fine writer) :
    accord.Runs accord.Ended (renderEach calls writer one value? bodies)
      (Render.renderEach others writer other another? bodies) := by
  obtain ⟨alike, main, pushed, element, otherwise⟩ := each
  cases alike with
  | none => exact enters.renderNamed (otherwise (by simp)) fine
  | some values =>
      cases values with
      | passedOn isLoose program body stamp another =>
          exact enters.renderNamed (pushed _ _ rfl rfl (.passedOn isLoose ..)) fine
      | same value =>
          unfold Render.renderEach
          split
          · rename_i items isArray
            cases isArray
            split
            · exact accord.pure fine
            · rename_i body found
              split
              · exact enters.renderNamed (otherwise (by simp)) fine
              · exact enters.renderElements
                  (fun item member index => element items rfl item member index body found) fine 0
          · rename_i isTrue
            exact enters.renderNamed (main isTrue) fine
          · rename_i held _ different isHeld
            cases isHeld
            split
            · exact enters.renderNamed (pushed _ _ rfl rfl (.same _)) fine
            · exact enters.renderNamed (otherwise fun same => different (Option.some.inj same)) fine
          · rename_i isNone
            cases isNone

theorem renderSection (enters : accord.Enters calls others)
    (sections : accord.Section one other bodies given also value? another?)
    (fine : accord.fine writer) :
    accord.Runs accord.Ended (renderSection calls writer one value? bodies given)
      (Render.renderSection others writer other another? bodies also) := by
  obtain ⟨alike, called, returned, plain⟩ := sections
  cases alike with
  | none => exact enters.renderEach (plain nofun) fine
  | some values =>
      cases values with
      | passedOn isLoose program body stamp another => exact enters.renderEach (plain nofun) fine
      | same value =>
          unfold Render.renderSection
          simp only
          split
          · rename_i identity function isHost
            refine accord.bind (enters.call (called _ _ isHost) fine) fun ended ofEnded _ => ?_
            cases ended with
            | error error => exact accord.pure fine
            | ok ended =>
                cases ended with
                | handle next => exact accord.pure ofEnded
                | value value => exact enters.renderEach (returned _ _ isHost value ofEnded) fine
          · rename_i different
            exact enters.renderEach (plain different) fine

theorem bodyText (enters : accord.Enters calls others) (serves : accord.Serves calls others)
    {id : BodyId} (entered : accord.body one other program id) :
    accord.Runs (fun _ => True) (bodyText calls program id one)
      (Render.bodyText others program id other) := by
  refine accord.bind serves.opened fun outlet resulting _ =>
    accord.bind (enters.body entered (serves.everywhere _)) fun ended ofEnded _ => ?_
  cases ended with
  | ok last =>
      refine accord.bind (serves.finish last) fun _ _ _ =>
        accord.bind resulting fun found _ _ => ?_
      split <;> exact accord.pure trivial
  | error error =>
      have fails := enters.fail (accord.failed error ofEnded)
        (serves.everywhere (Writer.onOutlet outlet))
      refine accord.bind (accord.discard fails) fun _ _ _ =>
        accord.bind resulting fun found _ _ => ?_
      split <;> exact accord.pure trivial

theorem renderBlock (enters : accord.Enters calls others)
    (block : accord.Block one other name bodies) (fine : accord.fine writer) :
    accord.Runs accord.Ended (renderBlock calls writer one name bodies)
      (Render.renderBlock others writer other name bodies) := by
  refine accord.ofEngine fun engine requests known => ?_
  simp only [block.same, block.depth]
  cases found : one.block? name with
  | none => exact enters.renderNamed (block.own found) fine
  | some override =>
      simp only
      split
      · exact accord.ok (enters.fail (accord.recursiveBlock name known) fine)
      · rename_i within
        exact enters.body (block.override engine override known (Nat.lt_of_not_le within) found)
          fine

/-! ## Helpers -/

theorem runSelect (enters : accord.Enters calls others)
    (resolves : accord.Resolves one other given also) (selects : accord.Selects one other bodies)
    (fine : accord.fine writer) :
    accord.Runs accord.Ended (runSelect calls writer one bodies given)
      (Render.runSelect others writer other bodies also) := by
  refine accord.bind (enters.resolveParam? resolves fine "key") fun key? _ _ => ?_
  cases key? with
  | none => exact accord.pure fine
  | some key => exact enters.renderSelect selects key fine

theorem runMath (enters : accord.Enters calls others)
    (resolves : accord.Resolves one other given also) (selects : accord.Selects one other bodies)
    (fine : accord.fine writer) :
    accord.Runs accord.Ended (runMath calls writer one bodies given)
      (Render.runMath others writer other bodies also) := by
  have rounds : (also.find? "round").map Value.isTruthy =
      (given.find? "round").map Value.isTruthy := by
    rcases (resolves.alike.find? "round").split with
      ⟨none, noneAlso⟩ | ⟨value, another, some, someAlso, values⟩
    · rw [none, noneAlso]
    · rw [some, someAlso, Option.map_some, Option.map_some, values.isTruthy]
  refine accord.bind (enters.resolveParam? resolves fine "key") fun key? _ _ =>
    accord.bind (enters.resolveParam? resolves fine "method") fun method? _ _ => ?_
  simp only
  split
  · refine accord.bind (enters.resolveParam? resolves fine "operand") fun operand? _ _ => ?_
    simp only [rounds]
    split
    · exact accord.pure fine
    · split
      · exact enters.renderSelect selects _ fine
      · exact accord.ok (accord.write _ fine)
  · exact accord.pure fine

theorem runContextDump (enters : accord.Enters calls others)
    (resolves : accord.Resolves one other given also)
    (current : other.current?.map Value.toJson = one.current?.map Value.toJson)
    (stack : ∀ value, given.MayYield "key" value → value.display = "full" →
      other.stackJson = one.stackJson)
    (fine : accord.fine writer) :
    accord.Runs accord.Ended (runContextDump calls writer one given)
      (Render.runContextDump others writer other also) := by
  refine accord.bind (enters.resolveParam? resolves fine "key") fun key? ofKey _ =>
    accord.bind (enters.resolveParam? resolves fine "to") fun to? _ _ => ?_
  have sameDump :
      (if key?.map Value.display = some "full" then other.stackJson
        else (other.current?.map Value.toJson).getD .null) =
      if key?.map Value.display = some "full" then one.stackJson
        else (one.current?.map Value.toJson).getD .null := by
    by_cases full : key?.map Value.display = some "full"
    · obtain ⟨key, rfl, display⟩ := Option.map_eq_some_iff.mp full
      rw [if_pos full, if_pos full, stack key ofKey.2 display]
    · rw [if_neg full, if_neg full, current]
  simp only [sameDump]
  split
  · exact accord.pure fine
  · exact accord.ok (accord.write _ fine)

/-- The key of a comparison is what its parameter may yield, or the key of the select. -/
theorem comparisonKey? (enters : accord.Enters calls others)
    (resolves : accord.Resolves one other given also)
    (keyed : (∃ value, given.find? "key" = some value) ∨ other.select? = one.select?)
    (isSettled : accord.Runs (fun _ => True) isSettled isSettled) (fine : accord.fine writer) :
    accord.Runs
      (fun key? => ∀ key mayMatch, key? = some (key, mayMatch) →
        given.MayYield "key" key ∨ (given.find? "key" = none ∧ one.select? = some key))
      (comparisonKey? calls writer one given) (Render.comparisonKey? others writer other also) := by
  refine accord.bind (enters.resolveParam? resolves fine "key") fun key? ofKey _ => ?_
  cases key? with
  | some key =>
      refine accord.pure ?_
      rintro _ _ ⟨⟩
      exact .inl ofKey.2
  | none =>
      have alike : other.select? = one.select? := keyed.resolve_left fun ⟨value, found⟩ =>
        Option.some_ne_none value (found.symm.trans ofKey)
      rw [alike]
      cases selected : one.select? with
      | none => exact accord.pure nofun
      | some held =>
          refine accord.bind isSettled fun settled _ _ => accord.pure ?_
          rintro _ _ ⟨⟩
          exact .inr ⟨ofKey, rfl⟩

/-- A comparison notes that it matches before it renders its block. -/
theorem runComparison (enters : accord.Enters calls others)
    (comparing : accord.Comparing one other bodies given also)
    (isSettled : accord.Runs (fun _ => True) isSettled isSettled)
    (noting : one.select?.isSome = true →
      accord.Runs accord.Ended
        (setSettled true >>= fun _ => calls.renderNamed bodies mainBody writer one)
        (setSettled true >>= fun _ => others.renderNamed bodies mainBody writer other))
    (fine : accord.fine writer) (comparison : Comparison) :
    accord.Runs accord.Ended (runComparison calls comparison writer one bodies given)
      (Render.runComparison others comparison writer other bodies also) := by
  obtain ⟨resolves, keyed, selects, coerces, outside, otherwise⟩ := comparing
  have sameType : (also.find? "type").bind Value.text? =
      (given.find? "type").bind Value.text? := by
    rcases (resolves.alike.find? "type").split with
      ⟨none, noneAlso⟩ | ⟨value, another, some, someAlso, values⟩
    · rw [none, noneAlso]
    · rw [some, someAlso]
      cases values <;> rfl
  refine accord.bind (enters.comparisonKey? resolves keyed isSettled fine) fun key? ofKey _ => ?_
  cases key? with
  | none => exact accord.pure fine
  | some found =>
      obtain ⟨key, mayMatch⟩ := found
      refine accord.bind (enters.resolveParam? resolves fine "value")
        fun expected? ofExpected _ => ?_
      have left := coerces key ((ofKey key mayMatch rfl).imp_right .inr)
      have right : Operand.coerce (expected?.getD .null)
            ((given.find? "type").bind Value.text?) other =
          Operand.coerce (expected?.getD .null) ((given.find? "type").bind Value.text?) one := by
        cases expected? with
        | none => rfl
        | some expected => exact coerces expected (.inr (.inl ofExpected.2))
      simp only [sameType, left, right, selects]
      split
      · split
        · rename_i inside
          exact noting inside
        · rename_i beside
          exact enters.renderNamed (outside (Option.not_isSome_iff_eq_none.mp beside)) fine
      · exact enters.renderNamed otherwise fine

/-! ## Templates -/

theorem renderTemplate (enters : accord.Enters calls others)
    (fresh : accord.fresh (one.withBlocks program) (other.withBlocks program) program program.root)
    (fine : accord.fine writer) :
    accord.Runs accord.fine (renderTemplate calls program writer one)
      (Render.renderTemplate others program writer other) := by
  refine accord.bind (enters.fresh fresh fine) fun ended ofEnded _ => ?_
  cases ended with
  | ok next => exact accord.pure ofEnded
  | error error => exact enters.fail (accord.failed error ofEnded) fine

section Loading

variable {within : Context → Context → Prop}

theorem answer (enters : accord.Enters calls others) (loads : accord.Loads calls others within)
    (like : within one other) (template : String) (branch : Writer)
    (source : Except RenderError String) :
    accord.Runs (fun _ => True) (answer calls ⟨template, branch, one⟩ source)
      (Render.answer others ⟨template, branch, other⟩ source) := by
  have fine := loads.serves.everywhere branch
  have failing : ∀ error, accord.Runs (fun _ => True)
      (Functor.discard (branch.fail calls.handlers error))
      (Functor.discard (branch.fail others.handlers error)) := fun error =>
    accord.discard (enters.fail (loads.permitted error) fine)
  cases source with
  | error error => exact failing error
  | ok text =>
      refine accord.bind (loads.findOrCompile template text) fun compiled _ _ => ?_
      cases compiled with
      | error error => exact failing error
      | ok program =>
          exact accord.bind (enters.renderTemplate (loads.fresh program like) fine)
            fun last _ _ => loads.serves.finish last

theorem load (enters : accord.Enters calls others) (loads : accord.Loads calls others within)
    (like : within one other) (loader : Loader) (name : String) (writer : Writer) :
    accord.Runs accord.fine (load calls loader name writer one)
      (Render.load others loader name writer other) := by
  have fine := loads.serves.everywhere
  have fork := loads.serves.fork writer
  cases loader with
  | none => exact enters.fail (loads.permitted _) (fine writer)
  | immediate source =>
      exact accord.bind fork fun ⟨branch, next⟩ _ _ =>
        accord.bind (enters.answer loads like name branch (source name)) fun _ _ _ =>
          accord.pure (fine next)
  | registering source reply =>
      exact accord.bind fork fun ⟨branch, next⟩ _ _ =>
        accord.bind (loads.registerSource name (source name)) fun _ _ _ =>
          accord.bind (enters.answer loads like name branch (.ok (reply name))) fun _ _ _ =>
            accord.pure (fine next)
  | deferred =>
      exact accord.bind fork fun ⟨branch, next⟩ _ _ =>
        accord.bind (loads.asks name branch like) fun _ _ _ => accord.pure (fine next)

theorem renderNamedTemplate (enters : accord.Enters calls others)
    (loads : accord.Loads calls others within) (like : within one other) (name : String)
    (writer : Writer) :
    accord.Runs accord.fine (renderNamedTemplate calls name writer one)
      (Render.renderNamedTemplate others name writer other) := by
  refine accord.ofEngine fun engine requests _ => ?_
  simp only
  split
  · exact enters.renderTemplate (loads.fresh _ like) (loads.serves.everywhere writer)
  · exact enters.load loads like engine.loader name writer

theorem renderInclusion (enters : accord.Enters calls others)
    (loads : accord.Loads calls others within) (like : within one other)
    (depth : other.partialDepth = one.partialDepth)
    (templateName : other.templateName = one.templateName) (name : Name)
    (captured : ∀ id, name = .body id → accord.body one other program id) (writer : Writer) :
    accord.Runs accord.fine (renderInclusion calls program writer one name)
      (Render.renderInclusion others program writer other name) := by
  have sameLabel : inclusionLabel other name = inclusionLabel one name := by
    cases name with
    | literal text => rfl
    | body id => rw [inclusionLabel, inclusionLabel, templateName]
  refine accord.ofEngine fun engine requests _ => ?_
  simp only [depth, sameLabel]
  split
  · exact enters.fail (loads.permitted _) (loads.serves.everywhere writer)
  · cases name with
    | literal text => exact enters.renderNamedTemplate loads (loads.named text like) text writer
    | body id =>
        exact accord.mono (loads.capture writer like (captured id rfl)) fun next _ =>
          loads.serves.everywhere next

end Loading

end Accord.Enters

namespace Accord.Conducts

variable {accord : Accord} {calls others : Calls} {writer : Writer}
variable {one other : Context} {bodies : Bodies} {given also : Value.Params}
variable {value? another? : Option Value} {program : Program}

theorem runBuiltin (conducts : accord.Conducts calls others) {helper : BuiltinHelper}
    (builtin : accord.Builtin one other bodies given also helper) (fine : accord.fine writer) :
    accord.Runs accord.Ended (runBuiltin calls helper writer one bodies given)
      (Render.runBuiltin others helper writer other bodies also) := by
  have enters := conducts.toEnters
  cases helper with
  | separator =>
      obtain ⟨sameLast, main⟩ := builtin
      simp only [Render.runBuiltin, runSeparator, sameLast]
      split
      · exact accord.pure fine
      · exact enters.renderNamed main fine
  | place =>
      obtain ⟨sameIndex, main⟩ := builtin
      simp only [Render.runBuiltin, runPlace, sameIndex]
      exact enters.renderNamed main fine
  | select => exact enters.runSelect builtin.1 builtin.2 fine
  | compare comparison => exact conducts.compares builtin fine
  | math => exact enters.runMath builtin.1 builtin.2 fine
  | size =>
      exact accord.bind (enters.resolveParam? builtin fine "key") fun _ _ _ =>
        accord.ok (accord.write _ fine)
  | contextDump => exact enters.runContextDump builtin.1 builtin.2.1 builtin.2.2 fine

/-! ## Code of the host -/

/-- How parameters are listed does not tell apart which tags texts come from. -/
theorem paramList_eq {loose : Prop} (alike : given.Alike loose also) :
    paramList also = paramList given := by
  have same : also.map (fun entry => entry.1 ++ "=" ++ entry.2.kind ++ ":" ++ entry.2.display) =
      given.map fun entry => entry.1 ++ "=" ++ entry.2.kind ++ ":" ++ entry.2.display := by
    induction alike with
    | nil => rfl
    | cons entries _ inductionHypothesis =>
        rw [List.map_cons, List.map_cons, inductionHypothesis, entries.1, entries.2.kind,
          entries.2.display]
  rw [paramList, paramList, same]

theorem runAction (conducts : accord.Conducts calls others) {actions : List HostAction}
    (hosting : accord.Hosting one other bodies given also actions) {action : HostAction}
    (member : action ∈ actions) (writer : Writer) :
    accord.Runs accord.Ended (runAction calls writer one bodies given action)
      (Render.runAction others writer other bodies also action) := by
  have serves := conducts.serves hosting.hosts
  have fine := serves.everywhere writer
  have entered : ∀ name, accord.Named one other bodies name := fun name =>
    hosting.scopes .same name
  have writing : ∀ text, accord.Runs accord.Ended
      (do Pure.pure (.ok (← writer.write text))) (do Pure.pure (.ok (← writer.write text))) :=
    fun text => accord.ok (accord.write text fine)
  cases action with
  | write text => exact writing text
  | writeParams =>
      simp only [Render.runAction, paramList_eq hosting.alike]
      exact writing _
  | writeParam key =>
      exact accord.bind (conducts.resolves (hosting.resolves key) fine) fun _ _ _ => writing _
  | writePlace =>
      simp only [Render.runAction, hosting.place]
      exact writing _
  | writeStack =>
      simp only [Render.runAction, hosting.stack member]
      exact writing _
  | fail error => exact accord.ok (conducts.fail (hosting.permitted error member) fine)
  | fork slot =>
      exact accord.bind (serves.fork writer) fun ⟨branch, next⟩ _ _ =>
        accord.bind (serves.hold slot branch) fun _ _ _ => accord.pure (serves.everywhere next)
  | forkWriting text =>
      exact accord.bind (serves.fork writer) fun ⟨branch, next⟩ _ _ =>
        accord.bind (accord.bind (accord.write text (serves.everywhere branch)) fun last _ _ =>
          serves.finish last) fun _ _ _ => accord.pure (serves.everywhere next)
  | render body scope => exact conducts.renderNamed (hosting.scopes scope body) fine
  | renderOr body ifNone ifMissing =>
      simp only [Render.runAction]
      split
      · rename_i id found
        exact conducts.body (entered body id found) fine
      · exact writing _
  | renderTapped body change keeping =>
      simp only [Render.runAction]
      split
      · exact accord.pure fine
      · rename_i id found
        refine accord.bind (conducts.body (entered body id found) (serves.everywhere _))
          fun ended ofEnded _ => ?_
        cases ended with
        | error error => exact accord.pure ofEnded
        | ok tapped => exact accord.pure (serves.everywhere _)
  | capture body =>
      simp only [Render.runAction]
      split
      · exact accord.pure fine
      · rename_i id found
        exact accord.bind (serves.shout writer (entered body id found)) fun next _ _ =>
          accord.pure (serves.everywhere next)

theorem runActions (conducts : accord.Conducts calls others) {actions : List HostAction}
    (hosting : accord.Hosting one other bodies given also actions) (writer : Writer) :
    accord.Runs accord.Ended (runActions calls one bodies given actions writer)
      (Render.runActions others other bodies also actions writer) := by
  have walking : ∀ rest, rest ⊆ actions → ∀ writer,
      accord.Runs accord.Ended (Render.runActions calls one bodies given rest writer)
        (Render.runActions others other bodies also rest writer) := by
    intro rest
    induction rest with
    | nil => exact fun _ writer => accord.pure ((conducts.serves hosting.hosts).everywhere writer)
    | cons action rest inductionHypothesis =>
        intro members writer
        refine accord.bind (conducts.runAction hosting (members List.mem_cons_self) writer)
          fun ended ofEnded _ => ?_
        cases ended with
        | error error => exact accord.pure ofEnded
        | ok next =>
            exact inductionHypothesis (fun _ later => members (List.mem_cons_of_mem _ later)) next
  exact walking actions (fun _ member => member) writer

theorem callFunction (conducts : accord.Conducts calls others) {called another : Function Value}
    (calling : accord.Calling one other bodies given also called another)
    (fine : accord.fine writer) :
    accord.Runs accord.Returned (callFunction calls called writer one bodies given)
      (Render.callFunction others another writer other bodies also) := by
  cases calling with
  | inline entered =>
      refine accord.bind (conducts.body entered fine) fun ended ofEnded _ => ?_
      cases ended with
      | error error => exact accord.pure trivial
      | ok next => exact accord.pure ofEnded
  | @host identity function hosting looked returned =>
      refine accord.bind (conducts.runActions hosting writer) fun ended ofEnded _ => ?_
      cases ended with
      | error error => exact accord.pure trivial
      | ok next =>
          have same : hostResult other next function.result =
              hostResult one next function.result := by
            cases result : function.result with
            | lookup path => rw [hostResult, hostResult, looked path result]
            | _ => rfl
          simp only [same]
          exact accord.pure (returned next ofEnded)

theorem runHelper (conducts : accord.Conducts calls others) {helper : Helper}
    (helping : accord.Helping one other bodies given also helper) (fine : accord.fine writer) :
    accord.Runs accord.Helped (runHelper calls helper writer one bodies given)
      (Render.runHelper others helper writer other bodies also) := by
  cases helper with
  | builtin helper =>
      refine accord.mono (conducts.runBuiltin helping fine) fun ended ofEnded => ?_
      cases ended with
      | error error => trivial
      | ok next => exact ofEnded
  | host helper =>
      refine accord.bind (conducts.runActions helping writer) fun ended ofEnded _ => ?_
      cases ended with
      | error error => exact accord.pure trivial
      | ok next =>
          simp only
          split
          · exact accord.pure trivial
          · exact accord.pure ofEnded

theorem renderHelper (conducts : accord.Conducts calls others) {name : String}
    (helping : ∀ engine helper, accord.knows engine → engine.helpers.find? name = some helper →
      accord.Helping one other bodies given also helper)
    (fine : accord.fine writer) :
    accord.Runs accord.Ended (renderHelper calls writer name bodies given one)
      (Render.renderHelper others writer name bodies also other) := by
  refine accord.ofEngine fun engine requests known => ?_
  cases found : engine.helpers.find? name with
  | none => exact accord.pure fine
  | some helper =>
      simp only
      refine accord.bind (conducts.runHelper (helping engine helper known found) fine)
        fun ended ofEnded _ => ?_
      cases ended with
      | error error => exact accord.pure fine
      | ok next => exact accord.pure ofEnded

theorem blockName (conducts : accord.Conducts calls others) {name : Name}
    (naming : accord.Naming one other program name) :
    accord.Runs (fun text => ∀ literal, name = .literal literal → text = literal)
      (blockName calls program one name) (Render.blockName others program other name) := by
  cases name with
  | literal text =>
      refine accord.pure ?_
      rintro _ ⟨⟩
      rfl
  | body id => exact accord.mono (conducts.names naming) fun _ _ _ => nofun

/-- A step is in accord on the grounds that it comes to. -/
theorem runOp (conducts : accord.Conducts calls others) {op : Op}
    (steps : accord.Steps program one other op) (fine : accord.fine writer) :
    accord.Runs accord.Ended (runOp calls program one writer op)
      (Render.runOp others program other writer op) := by
  cases op with
  | write text => exact accord.ok (accord.write text fine)
  | reference identifier chain =>
      exact accord.ok (conducts.renderReference steps.1 steps.2 fine chain)
  | condition kind identifier rebased exprs entries =>
      cases kind with
      | each => exact conducts.renderSection steps fine
      | present =>
          obtain ⟨same, named⟩ := steps
          simp only [Render.runOp, renderPresence, same]
          exact conducts.renderNamed named fine
      | absent =>
          obtain ⟨same, named⟩ := steps
          simp only [Render.runOp, renderPresence, same]
          exact conducts.renderNamed named fine
  | block name rebased exprs entries =>
      exact accord.bind (conducts.blockName steps.1) fun text isText _ =>
        conducts.renderBlock (steps.2 text isText) fine
  | helper name rebased exprs entries => exact conducts.renderHelper steps fine
  | inclusion name rebased exprs => exact accord.ok (conducts.includes steps fine)

/-- The steps of a body are in accord, one behind the other. -/
theorem runOps (conducts : accord.Conducts calls others) {ops : List Op}
    (steps : ∀ op ∈ ops, accord.Steps program one other op) (fine : accord.fine writer) :
    accord.Runs accord.Ended (runOps calls program one ops writer)
      (Render.runOps others program other ops writer) := by
  induction ops generalizing writer with
  | nil => exact accord.pure fine
  | cons op rest inductionHypothesis =>
      refine accord.bind (conducts.runOp (steps op List.mem_cons_self) fine)
        fun ended ofEnded _ => ?_
      cases ended with
      | error error => exact accord.pure ofEnded
      | ok next =>
          exact inductionHypothesis (fun op later => steps op (List.mem_cons_of_mem _ later))
            ofEnded

end Accord.Conducts

end BraceTemplate.Render
