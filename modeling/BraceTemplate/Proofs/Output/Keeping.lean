import BraceTemplate.Proofs.Output.Runs

/-!
# What runs keep

A run keeps a property of stores if it leads from a store with the property only to stores with it.
The result of a collecting outlet is kept by everything: once there is one, no handle, delivery or
reaction changes it.
-/

namespace BraceTemplate.Output

variable {Continuation Listener Client Result Next : Type}

def Keeps (holds : Store Continuation Listener Client → Prop)
    (run : Run Continuation Listener Client Result) : Prop :=
  ∀ store result later, holds store → run store = some (result, later) → holds later

namespace Keeps

variable {holds : Store Continuation Listener Client → Prop}

theorem pure (result : Result) :
    Keeps holds (Pure.pure result : Run Continuation Listener Client Result) := by
  intro store yielded later before equality
  cases equality
  exact before

theorem outOfSteps : Keeps holds (Output.outOfSteps : Run _ _ _ Result) := by
  intro store yielded later before equality
  cases equality

theorem bind {first : Run Continuation Listener Client Result}
    {next : Result → Run Continuation Listener Client Next}
    (ofFirst : Keeps holds first) (ofNext : ∀ result, Keeps holds (next result)) :
    Keeps holds (first >>= next) := by
  intro store yielded later before equality
  obtain ⟨found, middle, firstEquality, nextEquality⟩ := bind_eq_some.mp equality
  exact ofNext found middle yielded later (ofFirst store found middle before firstEquality)
    nextEquality

theorem discard {run : Run Continuation Listener Client Result} (keeps : Keeps holds run) :
    Keeps holds (Functor.discard run) := by
  intro store yielded later before equality
  rw [run_discard] at equality
  obtain ⟨⟨result, reached⟩, ran, same⟩ := Option.map_eq_some_iff.mp equality
  cases same
  exact keeps store result reached before ran

theorem mapM {Item : Type} {step : Item → Run Continuation Listener Client Result}
    (each : ∀ item, Keeps holds (step item)) (items : List Item) :
    Keeps holds (items.mapM step) := by
  induction items with
  | nil => exact pure []
  | cons item rest inductionHypothesis =>
      rw [List.mapM_cons]
      exact (each item).bind fun first => inductionHypothesis.bind fun others => pure _

theorem forM {Item : Type} {step : Item → Run Continuation Listener Client PUnit}
    (each : ∀ item, Keeps holds (step item)) (items : List Item) :
    Keeps holds (items.forM step) := by
  induction items with
  | nil => exact pure _
  | cons item rest inductionHypothesis =>
      exact (each item).bind fun _ => inductionHypothesis

theorem client : Keeps holds (Output.client : Run Continuation Listener Client Client) := by
  intro store yielded later before equality
  cases equality
  exact before

theorem outlet? (id : OutletId) :
    Keeps holds (Output.outlet? id : Run Continuation Listener Client _) := by
  intro store yielded later before equality
  cases equality
  exact before

theorem potText (pot : Nat) :
    Keeps holds (Output.potText pot : Run Continuation Listener Client String) := by
  intro store yielded later before equality
  cases equality
  exact before

end Keeps

def Outlet.HasResult (result : Except RenderError String) (outlet : Outlet Continuation Listener) :
    Prop :=
  outlet.finished = true ∧
    ∃ text onResult, outlet.sink = .collect text (some result) onResult

def Store.HasResult (id : OutletId) (result : Except RenderError String)
    (store : Store Continuation Listener Client) : Prop :=
  ∃ outlet, store.outlets[id]? = some outlet ∧ outlet.HasResult result

theorem Store.HasResult.run_result? {id : OutletId} {result : Except RenderError String}
    {store : Store Continuation Listener Client} (hasResult : store.HasResult id result) :
    result? id store = some (some result, store) := by
  obtain ⟨outlet, there, _, text, onResult, sink⟩ := hasResult
  simp only [result?, run_bind, run_outlet?, there, Option.bind_some, sink]
  rfl

/-- Reactions that keep a property. -/
structure Handlers.Keep (handlers : Handlers Continuation Listener Client)
    (holds : Store Continuation Listener Client → Prop) : Prop where
  resume : ∀ continuation result, Keeps holds (handlers.resume continuation result)
  hear : ∀ listener occasion, Keeps holds (handlers.hear listener occasion)

namespace Keeps

variable {id other : OutletId} {result : Except RenderError String}
variable {handlers : Handlers Continuation Listener Client} {writer : Writer}

theorem hasResult_of_outlets {run : Run Continuation Listener Client Result}
    (same : ∀ store yielded later, run store = some (yielded, later) →
      later.outlets[id]? = store.outlets[id]?) :
    Keeps (Store.HasResult id result) run := by
  rintro store yielded later ⟨outlet, there, hasResult⟩ equality
  exact ⟨outlet, by rw [same store yielded later equality, there], hasResult⟩

theorem modifyClient (change : Client → Client) :
    Keeps (Store.HasResult id result)
      (Output.modifyClient change : Run Continuation Listener Client Unit) := by
  apply hasResult_of_outlets
  intro store yielded later equality
  cases equality
  rfl

theorem emit (event : Event) :
    Keeps (Store.HasResult id result)
      (Output.emit event : Run Continuation Listener Client Unit) := by
  apply hasResult_of_outlets
  intro store yielded later equality
  cases equality
  rfl

theorem openPot :
    Keeps (Store.HasResult id result) (Output.openPot : Run Continuation Listener Client Nat) := by
  apply hasResult_of_outlets
  intro store yielded later equality
  cases equality
  rfl

theorem fillPot (pot : Nat) (text : String) :
    Keeps (Store.HasResult id result)
      (Output.fillPot pot text : Run Continuation Listener Client Unit) := by
  apply hasResult_of_outlets
  intro store yielded later equality
  cases equality
  rfl

theorem openOutlet (sink : Sink Continuation Listener) :
    Keeps (Store.HasResult id result)
      (Output.openOutlet sink : Run Continuation Listener Client OutletId) := by
  rintro store yielded later ⟨outlet, there, hasResult⟩ equality
  cases equality
  have bound := Store.lt_size_of_outlet there
  refine ⟨outlet, ?_, hasResult⟩
  rw [Array.getElem?_push_lt bound]
  exact (Array.getElem?_eq_getElem bound).symm.trans there

theorem modifyOutlet {change : Outlet Continuation Listener → Outlet Continuation Listener}
    (keeps : other = id →
      ∀ outlet, Outlet.HasResult result outlet → Outlet.HasResult result (change outlet)) :
    Keeps (Store.HasResult id result)
      (Output.modifyOutlet other change : Run Continuation Listener Client Unit) := by
  rintro store yielded later ⟨outlet, there, hasResult⟩ equality
  by_cases same : other = id
  · subst same
    rw [run_modifyOutlet there] at equality
    cases equality
    exact ⟨change outlet, Store.put_outlets_self _ _ (Store.lt_size_of_outlet there),
      keeps rfl outlet hasResult⟩
  · cases equality
    refine ⟨outlet, ?_, hasResult⟩
    simpa [Array.getElem?_modify, same] using there

/-- What is seen of an outlet with a result has the result. -/
theorem outlet?_bind {next : Option (Outlet Continuation Listener) → Run _ _ Client Next}
    (ofNext : ∀ found,
      (other = id → ∃ outlet, found = some outlet ∧ Outlet.HasResult result outlet) →
        Keeps (Store.HasResult id result) (next found)) :
    Keeps (Store.HasResult id result) (Output.outlet? other >>= next) := by
  rintro store yielded later hasResult equality
  refine ofNext store.outlets[other]? ?_ store yielded later hasResult equality
  rintro rfl
  exact hasResult

theorem modifyListeners (change : Listeners Listener → Listeners Listener) :
    Keeps (Store.HasResult id result)
      (Output.modifyListeners other change : Run Continuation Listener Client Unit) := by
  refine modifyOutlet fun _ outlet hasResult => ?_
  obtain ⟨finished, text, onResult, sink⟩ := hasResult
  simp only [sink]
  exact ⟨finished, text, onResult, sink⟩

theorem listeners? :
    Keeps (Store.HasResult id result)
      (Output.listeners? other : Run Continuation Listener Client _) := by
  refine (outlet? other).bind fun found => ?_
  cases found with
  | none => exact pure _
  | some outlet =>
      simp only
      split <;> exact pure _

theorem result? :
    Keeps (Store.HasResult id result)
      (Output.result? other : Run Continuation Listener Client _) := by
  refine (outlet? other).bind fun found => ?_
  cases found with
  | none => exact pure _
  | some outlet =>
      simp only
      split <;> exact pure _

theorem tell (keep : handlers.Keep (Store.HasResult id result)) (occasion : Occasion) :
    Keeps (Store.HasResult id result) (Output.tell handlers other occasion) := by
  refine listeners?.bind fun found => ?_
  cases found with
  | none => exact pure _
  | some listeners =>
      exact (modifyListeners _).bind fun _ =>
        (mapM (fun listener => keep.hear listener occasion) _).bind fun heard => modifyListeners _

theorem conclude (keep : handlers.Keep (Store.HasResult id result)) (different : other ≠ id)
    (final : Except RenderError String) (onResult : Option Continuation) :
    Keeps (Store.HasResult id result) (Output.conclude handlers other final onResult) := by
  refine (modifyOutlet fun same => absurd same different).bind fun _ => ?_
  cases onResult with
  | none => exact pure _
  | some continuation => exact keep.resume continuation final

/-- A delivery keeps the result of an outlet, as one with a result has nothing to deliver. -/
theorem deliver (keep : handlers.Keep (Store.HasResult id result)) (pieces : List String)
    {outcome : Outcome} (nothing : other = id → outcome = .pending) :
    Keeps (Store.HasResult id result) (Output.deliver handlers other pieces outcome) := by
  refine outlet?_bind fun found seen => ?_
  cases found with
  | none => exact pure _
  | some outlet =>
      simp only
      split
      · rename_i text held onResult sink
        cases outcome with
        | pending =>
            refine modifyOutlet fun same later hasResult => ?_
            obtain ⟨found, equality, _, _, _, there⟩ := seen same
            cases equality
            rw [sink] at there
            cases there
            exact ⟨hasResult.1, _, _, rfl⟩
        | finished => exact conclude keep (fun same => by cases nothing same) _ _
        | failed error => exact conclude keep (fun same => by cases nothing same) _ _
      · have telling : Keeps (Store.HasResult id result)
            (forIn pieces PUnit.unit fun piece _ => do
              Output.tell handlers other (.data piece)
              Pure.pure (ForInStep.yield PUnit.unit) : Run Continuation Listener Client PUnit) := by
          induction pieces with
          | nil => exact pure _
          | cons piece rest inductionHypothesis =>
              rw [List.forIn_cons]
              exact ((tell keep _).bind fun _ => pure _).bind fun step => by
                cases step with
                | done _ => exact pure _
                | yield _ => exact inductionHypothesis
        refine telling.bind fun _ => ?_
        cases outcome with
        | pending => exact pure _
        | finished => exact tell keep _
        | failed error => exact tell keep _

theorem flushRound (keep : handlers.Keep (Store.HasResult id result)) :
    Keeps (Store.HasResult id result) (Output.flushRound handlers other) := by
  refine bind (modifyOutlet ?_) fun _ => outlet?_bind fun found seen => ?_
  · exact fun _ _ hasResult => hasResult
  cases found with
  | none => exact pure _
  | some outlet =>
      simp only
      rcases equality : outlet.drain with ⟨pieces, outcome, left⟩
      have drained : other = id → outcome = .pending ∧ left.HasResult result := by
        intro same
        obtain ⟨found, here, hasResult⟩ := seen same
        cases here
        rw [Outlet.drain, if_pos hasResult.1] at equality
        cases equality
        exact ⟨rfl, hasResult⟩
      refine bind (modifyOutlet fun same _ _ => (drained same).2) fun _ =>
        (deliver keep pieces fun same => (drained same).1).bind fun _ =>
          (outlet? other).bind fun later => ?_
      cases later <;> exact pure _

theorem flushRounds (keep : handlers.Keep (Store.HasResult id result)) (rounds : Nat) :
    Keeps (Store.HasResult id result) (Output.flushRounds handlers other rounds) := by
  induction rounds with
  | zero => exact outOfSteps
  | succ rounds inductionHypothesis =>
      refine (flushRound keep).bind fun again => ?_
      cases again with
      | true => exact inductionHypothesis
      | false => exact pure _

theorem flush (keep : handlers.Keep (Store.HasResult id result)) :
    Keeps (Store.HasResult id result) (Output.flush handlers other) := by
  refine (outlet? other).bind fun found => ?_
  cases found with
  | none => exact pure _
  | some outlet =>
      simp only
      split
      · refine modifyOutlet ?_
        exact fun _ _ hasResult => hasResult
      · refine bind (modifyOutlet ?_) fun _ =>
          (flushRounds keep _).bind fun _ => modifyOutlet ?_
        · exact fun _ _ hasResult => hasResult
        · exact fun _ _ hasResult => hasResult

theorem change (number : Nat) (change : Segment → Segment) :
    Keeps (Store.HasResult id result)
      (Output.modifyOutlet other fun outlet => outlet.change number change :
        Run Continuation Listener Client Unit) :=
  modifyOutlet fun _ _ hasResult => hasResult

theorem passTaps (taps : List Tap) (text : String) :
    Keeps (Store.HasResult id result)
      (Writer.passTaps taps text : Run Continuation Listener Client String) := by
  induction taps generalizing text with
  | nil => exact pure _
  | cons newest older inductionHypothesis =>
      cases newest with
      | change transform => exact inductionHypothesis _
      | collect pot => exact (fillPot pot text).bind fun _ => inductionHypothesis _

theorem write (text : String) :
    Keeps (Store.HasResult id result)
      (writer.write text : Run Continuation Listener Client Writer) := by
  refine (passTaps _ _).bind fun passed => ?_
  split
  · exact pure _
  · exact (change _ _).bind fun _ => pure _

theorem finish (keep : handlers.Keep (Store.HasResult id result)) :
    Keeps (Store.HasResult id result) (writer.finish handlers) :=
  (change _ _).bind fun _ => flush keep

theorem fail (keep : handlers.Keep (Store.HasResult id result)) (error : RenderError) :
    Keeps (Store.HasResult id result) (writer.fail handlers error) :=
  (change _ _).bind fun _ => (flush keep).bind fun _ => pure _

theorem fork :
    Keeps (Store.HasResult id result)
      (writer.fork : Run Continuation Listener Client (Writer × Writer)) := by
  refine (outlet? _).bind fun found => ?_
  cases found with
  | none => exact pure _
  | some outlet =>
      refine bind (modifyOutlet ?_) fun _ => pure _
      exact fun _ _ hasResult => hasResult

theorem capture (keep : handlers.Keep (Store.HasResult id result))
    {render : Writer → Run Continuation Listener Client (Except RenderError Writer)}
    {onResult : Writer → Continuation}
    (rendering : ∀ inner, Keeps (Store.HasResult id result) (render inner)) :
    Keeps (Store.HasResult id result) (writer.capture handlers render onResult) := by
  refine fork.bind fun handles => (openOutlet _).bind fun inner =>
    (rendering _).bind fun ended => ?_
  cases ended with
  | ok last => exact (finish keep).bind fun _ => pure _
  | error error => exact (fail keep error).discard.bind fun _ => pure _

theorem settle (keep : handlers.Keep (Store.HasResult id result))
    {final : Except RenderError String}
    {continue? : String → Run Continuation Listener Client (Except RenderError Writer)}
    (continuing : ∀ text, Keeps (Store.HasResult id result) (continue? text)) :
    Keeps (Store.HasResult id result) (writer.settle handlers final continue?) := by
  cases final with
  | error error => exact (fail keep error).discard
  | ok text =>
      refine (continuing text).bind fun ended => ?_
      cases ended with
      | ok last => exact finish keep
      | error error => exact (fail keep error).discard

end Keeps

end BraceTemplate.Output
