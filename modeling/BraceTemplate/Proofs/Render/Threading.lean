import BraceTemplate.Proofs.Render.Delivering

/-!
# Rendering goes on from where it has forked

Every step of a render takes a handle and leaves the one it goes on with; the segment of the one it
took is then ended or that of the other. While a parameter is gathered the handle stays where it is.
-/

namespace BraceTemplate

namespace Render

open Output

variable {refuses : HostFunction Value → Bool} {scene : Scene} {writer : Writer} {context : Context}

def Goes (refuses : HostFunction Value → Bool) (scene : Scene) :
    Except RenderError Writer → Store Continuation Observer State → Prop
  | .ok next => Sound refuses (scene.use next)
  | .error _ => fun _ => False

def Stays (refuses : HostFunction Value → Bool) (scene : Scene) (writer : Writer)
    (result : Except RenderError Writer) (store : Store Continuation Observer State) : Prop :=
  result = .ok writer ∧ Sound refuses (scene.use writer) store

def Returns (refuses : HostFunction Value → Bool) (scene : Scene) (writer : Writer) :
    Except RenderError Returned → Store Continuation Observer State → Prop
  | .ok (.handle next) => Sound refuses (scene.use next)
  | .ok (.value value) =>
      fun store => value.Settles refuses ∧ Sound refuses (scene.use writer) store
  | .error _ => Sound refuses (scene.use writer)

def Recovers (refuses : HostFunction Value → Bool) (scene : Scene) (writer : Writer) :
    Except RenderError Writer → Store Continuation Observer State → Prop
  | .ok next => Sound refuses (scene.use next)
  | .error _ => Sound refuses (scene.use writer)

def gathers (writer : Writer) : Bool :=
  writer.taps.any fun
    | .change _ => false
    | .collect _ => true

/-- Rendering that goes on from where it has forked, and does not fork while a parameter is
gathered. -/
structure Calls.Thread (calls : Calls) (refuses : HostFunction Value → Bool) : Prop where
  settling : Settling refuses calls.handlers
  renderBody : ∀ (scene : Scene) program body writer context, program.Quotes →
    context.Settles refuses →
    Ensures (Sound refuses (scene.use writer)) (calls.renderBody program body writer context)
      (Goes refuses scene)
  call : ∀ (scene : Scene) called writer context bodies params, called.Settles refuses →
    context.Settles refuses → bodies.program.Quotes → params.Settle refuses →
    Ensures (Sound refuses (scene.use writer)) (calls.call called writer context bodies params)
      (Returns refuses scene writer)
  gathered : ∀ (scene : Scene) called writer context, called.Settles refuses →
    context.Settles refuses → gathers writer = true →
    Ensures (Sound refuses (scene.use writer)) (calls.call called writer context Bodies.none [])
      fun result store => (∀ next, result = .ok (.handle next) → next = writer) ∧
        Sound refuses (scene.use writer) store
  plainBody : ∀ (scene : Scene) program body writer context, program.Quotes → program.IsPlain body →
    context.Settles refuses → gathers writer = true →
    Ensures (Sound refuses (scene.use writer)) (calls.renderBody program body writer context)
      (Stays refuses scene writer)

section Results

variable {Next : Type} {before : Store Continuation Observer State → Prop}
variable {run : Action (Except RenderError Writer)}
variable {next : Except RenderError Writer → Action Next}
variable {after : Next → Store Continuation Observer State → Prop}

/-- Where rendering goes on from some handle, it does not matter from which. -/
theorem bind_goes (goes : Ensures before run (Goes refuses scene))
    (ofNext : ∀ last, Ensures (Sound refuses (scene.use last)) (next (.ok last)) after) :
    Ensures before (run >>= next) after := by
  refine Ensures.bind goes fun ended => ?_
  cases ended with
  | ok last => exact ofNext last
  | error error => exact fun _ _ _ absurd => absurd.elim

theorem bind_stays (stays : Ensures before run (Stays refuses scene writer))
    (ofNext : Ensures (Sound refuses (scene.use writer)) (next (.ok writer)) after) :
    Ensures before (run >>= next) after := by
  refine Ensures.bind stays fun ended => ?_
  rintro store result later ⟨rfl, sound⟩ ran
  exact ofNext store result later sound ran

end Results

section Engine

variable {Result Next : Type} {last : Next → Store Continuation Observer State → Prop}

/-- The engine is looked at, and known from then on. -/
theorem engine_known {next : Engine → Action Next}
    (ofNext : ∀ found : Engine, found.Settles refuses →
      Ensures (fun store => store.client.engine = found ∧ Sound refuses scene store) (next found)
        last) :
    Ensures (Sound refuses scene) (engine >>= next) last := by
  intro store result later sound ran
  exact ofNext store.client.engine sound.engine store result later ⟨rfl, sound⟩ ran

theorem engine_sound {next : Engine → Action Next}
    (ofNext : ∀ found : Engine, found.Settles refuses →
      Ensures (Sound refuses scene) (next found) last) :
    Ensures (Sound refuses scene) (engine >>= next) last :=
  engine_known fun found settles => (ofNext found settles).weaken fun _ held => held.2

/-- Handles are handed to an engine that is known, or taken from it. -/
theorem modifyEngine_sound {engine : Engine} {change : Engine → Engine} {inUse : List Writer}
    (settles : (change engine).Settles refuses)
    (same : ∀ writer, writer ∈ inUse ++ (change engine).keeps ↔
      writer ∈ scene.inUse ++ engine.keeps) :
    Ensures (fun store => store.client.engine = engine ∧ Sound refuses scene store)
      (modifyEngine change) fun _ => Sound refuses { scene with inUse } := by
  rintro store result later ⟨rfl, sound⟩ ran
  cases ran
  exact sound.exchange settles same

theorem isSettled_sound {next : Bool → Action Next}
    (ofNext : ∀ found, Ensures (Sound refuses scene) (next found) last) :
    Ensures (Sound refuses scene) (isSettled >>= next) last := by
  intro store result later sound ran
  exact ofNext store.client.settled store result later sound ran

theorem setSettled_sound (settled : Bool) :
    Ensures (Sound refuses scene) (setSettled settled) fun _ => Sound refuses scene :=
  Ensures.modifyClient fun _ sound => sound.pass rfl rfl sound.engine fun _ => Iff.rfl

theorem goes_setSettled {result : Except RenderError Writer} (settled : Bool) :
    Ensures (Goes refuses scene result) (setSettled settled)
      fun _ => Goes refuses scene result := by
  cases result with
  | ok next => exact setSettled_sound settled
  | error error => exact fun _ _ _ absurd => absurd.elim

theorem withFreshSelect_goes {before : Scene} {action : Action (Except RenderError Writer)}
    (goes : Ensures (Sound refuses before) action (Goes refuses scene)) :
    Ensures (Sound refuses before) (withFreshSelect action) (Goes refuses scene) :=
  isSettled_sound fun _ => (setSettled_sound false).bind fun _ => goes.bind fun _ =>
    (goes_setSettled _).bind fun _ => .pure fun _ held => held

theorem openPot_sound :
    Ensures (Sound refuses scene) (openPot : Action Nat) fun _ => Sound refuses scene := by
  intro store pot later sound ran
  cases ran
  exact sound.pass rfl rfl sound.engine fun _ => Iff.rfl

theorem result?_sound (id : OutletId) :
    Ensures (Sound refuses scene) (result? id : Action (Option (Except RenderError String)))
      fun _ => Sound refuses scene := by
  refine Ensures.outlet? fun found => ?_
  cases found with
  | none => exact .pure fun _ held => held.1
  | some outlet =>
      simp only
      split <;> exact .pure fun _ held => held.1

theorem potText_sound (pot : Nat) :
    Ensures (Sound refuses scene) (potText pot : Action String) fun _ => Sound refuses scene := by
  intro store text later sound ran
  cases ran
  exact sound

end Engine

/-- Taps do not matter. -/
theorem Sound.retap {store : Store Continuation Observer State} {other : Writer}
    (sound : Sound refuses (scene.use writer) store) (same : other.stand = writer.stand) :
    Sound refuses (scene.use other) store := by
  refine sound.pass rfl rfl sound.engine fun stand => ?_
  simp only [stands, Scene.use, List.cons_append, List.map_cons, same]

theorem use_of_same {next : Writer} {store : Store Continuation Observer State}
    (same : next = writer ∧ Sound refuses (scene.use writer) store) :
    Sound refuses (scene.use next) store :=
  same.1 ▸ same.2

theorem stays_of_same {before : Store Continuation Observer State → Prop} {run : Action Writer}
    (same : Ensures before run
      fun next store => next = writer ∧ Sound refuses (scene.use writer) store) :
    Ensures before (do pure (.ok (← run)) : Action (Except RenderError Writer))
      (Stays refuses scene writer) :=
  same.bind fun _ => .pure fun _ held => ⟨congrArg Except.ok held.1, held.2⟩

theorem write_goes (writer : Writer) (text : String) :
    Ensures (Sound refuses (scene.use writer))
      (do pure (.ok (← writer.write text)) : Action (Except RenderError Writer))
      (Stays refuses scene writer) :=
  stays_of_same (write_sound writer text)

theorem Stays.goes {result : Except RenderError Writer}
    {store : Store Continuation Observer State} (stays : Stays refuses scene writer result store) :
    Goes refuses scene result store := by
  obtain ⟨rfl, sound⟩ := stays
  exact sound

section Handles

variable {handlers : Handlers Continuation Observer State}

theorem capture_sound (settling : Settling refuses handlers) (writer : Writer) {next : Capture}
    (settles : next.Settles refuses) {render : Writer → Action (Except RenderError Writer)}
    (rendering : ∀ (scene : Scene) inner, Ensures (Sound refuses (scene.use inner)) (render inner)
      (Goes refuses scene)) :
    Ensures (Sound refuses (scene.use writer))
      (writer.capture handlers render fun branch => .capture branch next)
      fun last => Sound refuses (scene.use last) := by
  refine (fork_sound writer).bind fun forked => ?_
  obtain ⟨branch, following⟩ := forked
  have opening : Ensures (Sound refuses ((scene.use following).use branch))
      (openOutlet (.collect "" none (some (.capture branch next))) : Action OutletId)
      fun id => Sound refuses ((scene.use following).use (Writer.onOutlet id)) := by
    refine openOutlet_sound _ (following :: scene.inUse) ?_ (fun other member => ?_)
      fun other member => List.mem_cons_of_mem _ member
    · rintro other continuing same
      cases same
      exact ⟨List.mem_cons_self, settles⟩
    · rcases List.mem_cons.mp member with rfl | still
      · exact .inr ⟨next, rfl⟩
      · exact .inl still
  exact opening.bind fun id => bind_goes (rendering _ _) fun last =>
    (finish_sound settling last).bind fun _ => .pure fun _ sound => sound

theorem settle_sound (settling : Settling refuses handlers) (branch : Writer)
    (result : Except RenderError String)
    {continue? : String → Action (Except RenderError Writer)}
    (continuing : ∀ text, Ensures (Sound refuses (scene.use branch)) (continue? text)
      (Goes refuses scene)) :
    Ensures (Sound refuses (scene.use branch)) (branch.settle handlers result continue?)
      fun _ => Sound refuses scene := by
  cases result with
  | error error =>
      exact ((fail_drop settling branch error).strengthen fun _ _ failed => failed.2).discard
  | ok text => exact bind_goes (continuing text) fun last => finish_sound settling last

/-- A branch is ended with a text. -/
theorem finishWith_sound (settling : Settling refuses handlers) (branch : Writer) (text : String) :
    Ensures (Sound refuses (scene.use branch)) (branch.finishWith handlers text)
      fun _ => Sound refuses scene :=
  (write_sound branch text).bind fun last =>
    (finish_sound settling last).weaken fun _ => use_of_same

theorem fail_goes (settling : Settling refuses handlers) (writer : Writer) (error : RenderError) :
    Ensures (Sound refuses (scene.use writer))
      (do pure (.ok (← writer.fail handlers error)) : Action (Except RenderError Writer))
      (Stays refuses scene writer) :=
  stays_of_same (fail_sound settling writer error)

end Handles

section Parameters

variable {calls : Calls} {params : Value.Params}

theorem params_settle {program : Program} {exprs : ParamExprs} (settles : context.Settles refuses)
    (quotes : program.Quotes) (plain : ∀ id ∈ exprs.quoted, program.IsPlain id) :
    (Render.params program context exprs).Settle refuses :=
  holds_params settles fun id quoted _ => .inline quotes (plain id quoted)

/-- A parameter is gathered while the handle stays where it is. -/
theorem Calls.Thread.resolveValue (thread : calls.Thread refuses) {value : Value}
    (settles : value.Settles refuses) (ofContext : context.Settles refuses) :
    Ensures (Sound refuses (scene.use writer)) (resolveValue calls value writer context)
      fun _ => Sound refuses (scene.use writer) := by
  cases settles with
  | function called =>
      refine openPot_sound.bind fun pot => ?_
      refine Ensures.weaken ((thread.gathered scene _ (writer.tap (.collect pot)) context called
        ofContext rfl).bind fun returned => ?_) fun store sound => Sound.retap sound rfl
      have back : ∀ store, Sound refuses (scene.use (writer.tap (.collect pot))) store →
          Sound refuses (scene.use writer) store := fun store sound => Sound.retap sound rfl
      cases returned with
      | error error => exact .pure fun store held => back store held.2
      | ok returned =>
          cases returned with
          | value value => exact .pure fun store held => back store held.2
          | handle next =>
              exact ((potText_sound pot).weaken fun store held => back store held.2).bind
                fun _ => .pure fun _ sound => sound
  | _ => exact .pure fun _ sound => sound

theorem Calls.Thread.resolveParam? (thread : calls.Thread refuses) (settles : params.Settle refuses)
    (ofContext : context.Settles refuses) (key : String) :
    Ensures (Sound refuses (scene.use writer)) (resolveParam? calls params key writer context)
      fun _ => Sound refuses (scene.use writer) := by
  unfold Render.resolveParam?
  cases found : params.find? key with
  | none => exact .pure fun _ sound => sound
  | some value =>
      exact (thread.resolveValue (settles.find? found) ofContext).bind
        fun _ => .pure fun _ sound => sound

end Parameters

theorem quotes_none : Bodies.none.program.Quotes := by
  decide

theorem settle_nil : Value.Params.Settle refuses [] :=
  fun _ member => absurd member List.not_mem_nil

namespace Calls.Thread

variable {calls : Calls} {bodies : Bodies} {params : Value.Params}

theorem renderNamed (thread : calls.Thread refuses) (quotes : bodies.program.Quotes)
    (settles : context.Settles refuses) (name : String) :
    Ensures (Sound refuses (scene.use writer)) (calls.renderNamed bodies name writer context)
      (Goes refuses scene) := by
  unfold Calls.renderNamed
  cases bodies.find? name with
  | none => exact .pure fun _ sound => sound
  | some body => exact thread.renderBody _ _ _ _ _ quotes settles

theorem writeValue (chain : FilterChain) (writer : Writer) (value : Value) :
    Ensures (Sound refuses (scene.use writer)) (writeValue chain writer value)
      fun next store => next = writer ∧ Sound refuses (scene.use writer) store := by
  unfold Render.writeValue
  split
  · exact .pure fun _ sound => ⟨rfl, sound⟩
  · exact engine_sound fun _ _ => write_sound writer _

/-- The value of a reference is written, or a function goes on from where it has forked. -/
theorem renderReference (thread : calls.Thread refuses) (settles : context.Settles refuses)
    (identifier : Identifier) (chain : FilterChain) :
    Ensures (Sound refuses (scene.use writer))
      (renderReference calls writer context identifier chain)
      fun next => Sound refuses (scene.use next) := by
  have writing : ∀ value, Ensures (Sound refuses (scene.use writer))
      (Render.writeValue chain writer value) fun next => Sound refuses (scene.use next) :=
    fun value => (writeValue chain writer value).strengthen fun _ _ => use_of_same
  unfold Render.renderReference
  cases found : context.resolve? identifier with
  | none => exact .pure fun _ sound => sound
  | some value =>
      cases settles.resolve? found with
      | function called =>
          refine (thread.call _ _ _ _ _ _ called settles quotes_none settle_nil).bind
            fun returned => ?_
          cases returned with
          | error error => exact .pure fun _ sound => sound
          | ok returned =>
              cases returned with
              | handle next => exact .pure fun _ sound => sound
              | value value => exact (writing value).weaken fun _ held => held.2
      | _ => exact writing _

theorem renderElements (thread : calls.Thread refuses) {program : Program}
    (quotes : program.Quotes) (settles : context.Settles refuses) (body : BodyId)
    (length index : Nat) {items : List Value} (each : ∀ item ∈ items, item.Settles refuses)
    (writer : Writer) :
    Ensures (Sound refuses (scene.use writer))
      (renderElements calls program body context length index items writer)
      (Goes refuses scene) := by
  induction items generalizing index writer with
  | nil => exact .pure fun _ sound => sound
  | cons item rest inductionHypothesis =>
      refine bind_goes (thread.renderBody _ _ _ _ _ quotes
        (settles.pushIndexed (each item (by simp)))) fun next => ?_
      exact inductionHypothesis _ (fun item member => each item (by simp [member])) next

theorem renderEach (thread : calls.Thread refuses) (quotes : bodies.program.Quotes)
    (settles : context.Settles refuses) {value? : Option Value}
    (ofValue : ∀ value, value? = some value → value.Settles refuses) :
    Ensures (Sound refuses (scene.use writer)) (renderEach calls writer context value? bodies)
      (Goes refuses scene) := by
  unfold Render.renderEach
  split
  · rename_i items
    have each : ∀ item ∈ items, item.Settles refuses := by
      cases ofValue _ rfl with
      | array each => exact each
    split
    · exact .pure fun _ sound => sound
    · split
      · exact thread.renderNamed quotes settles _
      · exact thread.renderElements quotes settles _ _ _ each _
  · exact thread.renderNamed quotes settles _
  · rename_i value _ _
    split
    · exact thread.renderNamed quotes (settles.push (ofValue value rfl)) _
    · exact thread.renderNamed quotes settles _
  · exact thread.renderNamed quotes settles _

/-- A section on a function goes on from where the function has forked. -/
theorem renderSection (thread : calls.Thread refuses) (quotes : bodies.program.Quotes)
    (settles : context.Settles refuses) (ofParams : params.Settle refuses) {value? : Option Value}
    (ofValue : ∀ value, value? = some value → value.Settles refuses) :
    Ensures (Sound refuses (scene.use writer))
      (renderSection calls writer context value? bodies params) (Goes refuses scene) := by
  have inner :
      (if params.isEmpty then context else context.push (.object params)).Settles refuses := by
    split
    · exact settles
    · exact settles.push (.object ofParams)
  unfold Render.renderSection
  simp only
  split
  · cases ofValue _ rfl with
    | function called =>
        refine (thread.call _ _ _ _ _ _ called settles quotes ofParams).bind fun returned => ?_
        cases returned with
        | error error => exact .pure fun _ sound => sound
        | ok returned =>
            cases returned with
            | handle next => exact .pure fun _ sound => sound
            | value value =>
                intro store result later held ran
                refine thread.renderEach quotes inner (fun other same => ?_) _ _ _ held.2 ran
                cases same
                exact held.1
  · exact thread.renderEach quotes inner ofValue

/-- Where the text of a name forks, the name has no text yet; its outlet is finished later. -/
theorem bodyText (thread : calls.Thread refuses) {program : Program} (quotes : program.Quotes)
    (settles : context.Settles refuses) (body : BodyId) :
    Ensures (Sound refuses scene) (bodyText calls program body context)
      fun _ => Sound refuses scene := by
  have opening : Ensures (Sound refuses scene)
      (openOutlet (.collect "" none none) : Action OutletId)
      fun id => Sound refuses (scene.use (Writer.onOutlet id)) :=
    openOutlet_sound none scene.inUse (by simp) (fun _ member => .inl member) fun _ member => member
  refine opening.bind fun id => bind_goes (thread.renderBody _ _ _ _ _ quotes settles) fun last =>
    (finish_sound thread.settling last).bind fun _ => (result?_sound id).bind fun found => ?_
  split <;> exact .pure fun _ sound => sound

theorem renderBlock (thread : calls.Thread refuses) (quotes : bodies.program.Quotes)
    (settles : context.Settles refuses) (name : String) :
    Ensures (Sound refuses (scene.use writer)) (renderBlock calls writer context name bodies)
      (Goes refuses scene) := by
  refine engine_sound fun engine _ => ?_
  cases found : context.block? name with
  | none => exact thread.renderNamed quotes settles _
  | some override =>
      simp only
      split
      · exact (fail_goes thread.settling writer _).strengthen fun _ _ => Stays.goes
      · exact thread.renderBody _ _ _ _ _ (settles.block? found) settles.forBlock

theorem renderSelect (thread : calls.Thread refuses) (quotes : bodies.program.Quotes)
    (settles : context.Settles refuses) (key : Value) :
    Ensures (Sound refuses (scene.use writer)) (renderSelect calls key writer context bodies)
      (Goes refuses scene) :=
  withFreshSelect_goes (thread.renderNamed quotes (settles.pushSelect key) _)

theorem runSelect (thread : calls.Thread refuses) (quotes : bodies.program.Quotes)
    (settles : context.Settles refuses) (ofParams : params.Settle refuses) :
    Ensures (Sound refuses (scene.use writer)) (runSelect calls writer context bodies params)
      (Goes refuses scene) := by
  refine (thread.resolveParam? ofParams settles _).bind fun key? => ?_
  cases key? with
  | none => exact .pure fun _ sound => sound
  | some key => exact thread.renderSelect quotes settles key

theorem comparisonKey? (thread : calls.Thread refuses) (settles : context.Settles refuses)
    (ofParams : params.Settle refuses) :
    Ensures (Sound refuses (scene.use writer)) (comparisonKey? calls writer context params)
      fun _ => Sound refuses (scene.use writer) := by
  refine (thread.resolveParam? ofParams settles _).bind fun key? => ?_
  cases key? with
  | some key => exact .pure fun _ sound => sound
  | none =>
      simp only
      split
      · exact isSettled_sound fun _ => .pure fun _ sound => sound
      · exact .pure fun _ sound => sound

theorem runComparison (thread : calls.Thread refuses) (quotes : bodies.program.Quotes)
    (settles : context.Settles refuses) (ofParams : params.Settle refuses)
    (comparison : Comparison) :
    Ensures (Sound refuses (scene.use writer))
      (runComparison calls comparison writer context bodies params) (Goes refuses scene) := by
  refine (thread.comparisonKey? settles ofParams).bind fun key? => ?_
  cases key? with
  | none => exact .pure fun _ sound => sound
  | some found =>
      refine (thread.resolveParam? ofParams settles _).bind fun expected? => ?_
      simp only
      split
      · split
        · exact (setSettled_sound true).bind fun _ => thread.renderNamed quotes settles mainBody
        · exact thread.renderNamed quotes settles mainBody
      · exact thread.renderNamed quotes settles elseBody

theorem runMath (thread : calls.Thread refuses) (quotes : bodies.program.Quotes)
    (settles : context.Settles refuses) (ofParams : params.Settle refuses) :
    Ensures (Sound refuses (scene.use writer)) (runMath calls writer context bodies params)
      (Goes refuses scene) := by
  refine (thread.resolveParam? ofParams settles _).bind fun key? =>
    (thread.resolveParam? ofParams settles _).bind fun method? => ?_
  split
  · refine (thread.resolveParam? ofParams settles _).bind fun operand? => ?_
    simp only
    split
    · exact .pure fun _ sound => sound
    · split
      · exact thread.renderSelect quotes settles _
      · exact (write_goes writer _).strengthen fun _ _ => Stays.goes
  · exact .pure fun _ sound => sound

theorem runBuiltin (thread : calls.Thread refuses) (quotes : bodies.program.Quotes)
    (settles : context.Settles refuses) (ofParams : params.Settle refuses)
    (helper : BuiltinHelper) :
    Ensures (Sound refuses (scene.use writer))
      (runBuiltin calls helper writer context bodies params) (Goes refuses scene) := by
  have writing : ∀ text, Ensures (Sound refuses (scene.use writer))
      (do pure (.ok (← writer.write text)) : Action (Except RenderError Writer))
      (Goes refuses scene) :=
    fun text => (write_goes writer text).strengthen fun _ _ => Stays.goes
  cases helper with
  | separator =>
      unfold Render.runBuiltin runSeparator
      simp only
      split
      · exact .pure fun _ sound => sound
      · exact thread.renderNamed quotes settles _
  | place =>
      refine thread.renderNamed quotes (settles.push ?_) _
      cases context.index? with
      | none => exact .null
      | some index => exact Value.holds_ofNat index
  | select => exact thread.runSelect quotes settles ofParams
  | compare comparison => exact thread.runComparison quotes settles ofParams comparison
  | math => exact thread.runMath quotes settles ofParams
  | size => exact (thread.resolveParam? ofParams settles _).bind fun _ => writing _
  | contextDump =>
      refine (thread.resolveParam? ofParams settles _).bind fun key? =>
        (thread.resolveParam? ofParams settles _).bind fun to? => ?_
      simp only
      split
      · exact .pure fun _ sound => sound
      · exact writing _

end Calls.Thread

end Render

end BraceTemplate
