import BraceTemplate.Proofs.Output.Keeping

/-!
# What runs keep of the state of the client

Writing, forking, ending, failing and delivering leave the state of whoever writes to the outlets
alone; only reactions may change it. So what reactions keep of it is kept by everything.
-/

namespace BraceTemplate.Output

variable {Continuation Listener Client Result : Type}

abbrev KeepsClient (holds : Client → Prop) (run : Run Continuation Listener Client Result) : Prop :=
  Keeps (fun store => holds store.client) run

abbrev Handlers.KeepClient (handlers : Handlers Continuation Listener Client)
    (holds : Client → Prop) : Prop :=
  handlers.Keep fun store => holds store.client

namespace KeepsClient

variable {holds : Client → Prop} {id : OutletId} {writer : Writer}
variable {handlers : Handlers Continuation Listener Client}

/-- What leaves the state of the client alone. -/
theorem ofSame {run : Run Continuation Listener Client Result}
    (same : ∀ store yielded later, run store = some (yielded, later) →
      later.client = store.client) : KeepsClient holds run := by
  intro store yielded later held ran
  rw [same store yielded later ran]
  exact held

theorem modifyClient {change : Client → Client}
    (keeps : ∀ client, holds client → holds (change client)) :
    KeepsClient holds (Output.modifyClient change : Run Continuation Listener Client Unit) := by
  intro store yielded later held ran
  cases ran
  exact keeps _ held

theorem emit (event : Event) :
    KeepsClient holds (Output.emit event : Run Continuation Listener Client Unit) :=
  ofSame fun _ _ _ ran => by cases ran; rfl

theorem openPot : KeepsClient holds (Output.openPot : Run Continuation Listener Client Nat) :=
  ofSame fun _ _ _ ran => by cases ran; rfl

theorem fillPot (pot : Nat) (text : String) :
    KeepsClient holds (Output.fillPot pot text : Run Continuation Listener Client Unit) :=
  ofSame fun _ _ _ ran => by cases ran; rfl

theorem openOutlet (sink : Sink Continuation Listener) :
    KeepsClient holds (Output.openOutlet sink : Run Continuation Listener Client OutletId) :=
  ofSame fun _ _ _ ran => by cases ran; rfl

theorem modifyOutlet (change : Outlet Continuation Listener → Outlet Continuation Listener) :
    KeepsClient holds (Output.modifyOutlet id change : Run Continuation Listener Client Unit) :=
  ofSame fun _ _ _ ran => by cases ran; rfl

theorem listeners? :
    KeepsClient holds (Output.listeners? id : Run Continuation Listener Client _) := by
  refine (Keeps.outlet? id).bind fun found => ?_
  cases found with
  | none => exact .pure _
  | some outlet =>
      simp only
      split <;> exact .pure _

theorem result? : KeepsClient holds (Output.result? id : Run Continuation Listener Client _) := by
  refine (Keeps.outlet? id).bind fun found => ?_
  cases found with
  | none => exact .pure _
  | some outlet =>
      simp only
      split <;> exact .pure _

theorem tell (keep : handlers.KeepClient holds) (occasion : Occasion) :
    KeepsClient holds (Output.tell handlers id occasion) := by
  refine listeners?.bind fun found => ?_
  cases found with
  | none => exact .pure _
  | some listeners =>
      exact (modifyOutlet _).bind fun _ =>
        (Keeps.mapM (fun listener => keep.hear listener occasion) _).bind fun _ => modifyOutlet _

theorem conclude (keep : handlers.KeepClient holds) (final : Except RenderError String)
    (onResult : Option Continuation) :
    KeepsClient holds (Output.conclude handlers id final onResult) := by
  refine (modifyOutlet _).bind fun _ => ?_
  cases onResult with
  | none => exact .pure _
  | some continuation => exact keep.resume continuation final

theorem deliver (keep : handlers.KeepClient holds) (pieces : List String) (outcome : Outcome) :
    KeepsClient holds (Output.deliver handlers id pieces outcome) := by
  refine (Keeps.outlet? id).bind fun found => ?_
  cases found with
  | none => exact .pure _
  | some outlet =>
      simp only
      split
      · cases outcome with
        | pending => exact modifyOutlet _
        | finished => exact conclude keep _ _
        | failed error => exact conclude keep _ _
      · have telling : KeepsClient holds
            (forIn pieces PUnit.unit fun piece _ => do
              Output.tell handlers id (.data piece)
              Pure.pure (ForInStep.yield PUnit.unit) : Run Continuation Listener Client PUnit) := by
          induction pieces with
          | nil => exact .pure _
          | cons piece rest inductionHypothesis =>
              rw [List.forIn_cons]
              exact ((tell keep _).bind fun _ => .pure _).bind fun step => by
                cases step with
                | done _ => exact .pure _
                | yield _ => exact inductionHypothesis
        refine telling.bind fun _ => ?_
        cases outcome with
        | pending => exact .pure _
        | finished => exact tell keep _
        | failed error => exact tell keep _

theorem flushRounds (keep : handlers.KeepClient holds) (rounds : Nat) :
    KeepsClient holds (Output.flushRounds handlers id rounds) := by
  have round : KeepsClient holds (flushRound handlers id) := by
    refine (modifyOutlet _).bind fun _ => (Keeps.outlet? id).bind fun found => ?_
    cases found with
    | none => exact .pure _
    | some outlet =>
        refine (modifyOutlet _).bind fun _ => (deliver keep _ _).bind fun _ =>
          (Keeps.outlet? id).bind fun later => ?_
        cases later <;> exact .pure _
  induction rounds with
  | zero => exact .outOfSteps
  | succ rounds inductionHypothesis =>
      refine round.bind fun again => ?_
      cases again with
      | true => exact inductionHypothesis
      | false => exact .pure _

theorem flush (keep : handlers.KeepClient holds) :
    KeepsClient holds (Output.flush handlers id) := by
  refine (Keeps.outlet? id).bind fun found => ?_
  cases found with
  | none => exact .pure _
  | some outlet =>
      simp only
      split
      · exact modifyOutlet _
      · exact (modifyOutlet _).bind fun _ => (flushRounds keep _).bind fun _ => modifyOutlet _

theorem passTaps (taps : List Tap) (text : String) :
    KeepsClient holds (Writer.passTaps taps text : Run Continuation Listener Client String) := by
  induction taps generalizing text with
  | nil => exact .pure _
  | cons newest older inductionHypothesis =>
      cases newest with
      | change transform => exact inductionHypothesis _
      | collect pot => exact (fillPot pot text).bind fun _ => inductionHypothesis _

theorem write (text : String) :
    KeepsClient holds (writer.write text : Run Continuation Listener Client Writer) := by
  refine (passTaps _ _).bind fun passed => ?_
  split
  · exact .pure _
  · exact (modifyOutlet _).bind fun _ => .pure _

theorem finish (keep : handlers.KeepClient holds) :
    KeepsClient holds (writer.finish handlers) :=
  (modifyOutlet _).bind fun _ => flush keep

theorem fail (keep : handlers.KeepClient holds) (error : RenderError) :
    KeepsClient holds (writer.fail handlers error) :=
  (modifyOutlet _).bind fun _ => (flush keep).bind fun _ => .pure _

theorem fork :
    KeepsClient holds (writer.fork : Run Continuation Listener Client (Writer × Writer)) := by
  refine (Keeps.outlet? _).bind fun found => ?_
  cases found with
  | none => exact .pure _
  | some outlet => exact (modifyOutlet _).bind fun _ => .pure _

theorem capture (keep : handlers.KeepClient holds)
    {render : Writer → Run Continuation Listener Client (Except RenderError Writer)}
    {onResult : Writer → Continuation}
    (rendering : ∀ inner, KeepsClient holds (render inner)) :
    KeepsClient holds (writer.capture handlers render onResult) := by
  refine fork.bind fun handles => (openOutlet _).bind fun inner =>
    (rendering _).bind fun ended => ?_
  cases ended with
  | ok last => exact (finish keep).bind fun _ => .pure _
  | error error => exact (fail keep error).discard.bind fun _ => .pure _

theorem settle (keep : handlers.KeepClient holds) {final : Except RenderError String}
    {continue? : String → Run Continuation Listener Client (Except RenderError Writer)}
    (continuing : ∀ text, KeepsClient holds (continue? text)) :
    KeepsClient holds (writer.settle handlers final continue?) := by
  cases final with
  | error error => exact (fail keep error).discard
  | ok text =>
      refine (continuing text).bind fun ended => ?_
      cases ended with
      | ok last => exact finish keep
      | error error => exact (fail keep error).discard

end KeepsClient

end BraceTemplate.Output
