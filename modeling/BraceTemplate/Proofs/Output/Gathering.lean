import BraceTemplate.Proofs.Output.Runs
import BraceTemplate.Proofs.Output.Segments

/-!
# Outlets that gather

An outlet that gathers text and has no result yet. A flush moves the text of the ended segments at
its front into what it has gathered; once no segment is open, the whole text is the result and is
handed on.
-/

namespace BraceTemplate.Output

deriving instance DecidableEq for Occasion

namespace Outcome

def isOver : Outcome → Bool
  | pending => false
  | _ => true

/-- The last occasion of an outlet that has come to an end. -/
def occasions : Outcome → List Occasion
  | pending => []
  | finished => [.finished]
  | failed error => [.failed error]

/-- The result of an outlet that has come to an end with some text. -/
def result? (text : String) : Outcome → Option (Except RenderError String)
  | pending => none
  | finished => some (.ok text)
  | failed error => some (.error error)

end Outcome

/-- An outlet that gathers, outside of any delivery. -/
structure Gathering (Continuation : Type) where
  passed : List Nat
  waiting : List Segment
  nextNumber : Nat
  again : Bool
  text : String
  onResult : Option Continuation

def handOn {Continuation Listener Client : Type}
    (handlers : Handlers Continuation Listener Client) (onResult : Option Continuation)
    (result : Except RenderError String) : Run Continuation Listener Client Unit :=
  match onResult with
  | none => pure ()
  | some continuation => handlers.resume continuation result

section Delivering

variable {Continuation Listener Client : Type} {store : Store Continuation Listener Client}
variable {handlers : Handlers Continuation Listener Client} {id : OutletId}
variable {outlet : Outlet Continuation Listener} {text : String}
variable {result : Option (Except RenderError String)} {onResult : Option Continuation}

theorem conclude_eq (there : store.outlets[id]? = some outlet)
    (final : Except RenderError String) :
    conclude handlers id final onResult store =
      handOn handlers onResult final
        (store.put id { outlet with sink := .collect "" (some final) none }) := by
  unfold conclude
  rw [run_bind, run_setSink there]
  cases onResult with
  | none => rfl
  | some continuation => rfl

theorem deliver_pending (there : store.outlets[id]? = some outlet)
    (gathers : outlet.sink = .collect text result onResult) (pieces : List String) :
    deliver handlers id pieces .pending store =
      some ((), store.put id
        { outlet with sink := .collect (text ++ String.join pieces) result onResult }) := by
  unfold deliver
  simp only [run_bind, run_outlet?, there, Option.bind_some, gathers]
  exact run_setSink there _

theorem deliver_finished (there : store.outlets[id]? = some outlet)
    (gathers : outlet.sink = .collect text result onResult) (pieces : List String) :
    deliver handlers id pieces .finished store =
      handOn handlers onResult (.ok (text ++ String.join pieces))
        (store.put id
          { outlet with
            sink := .collect "" (some (.ok (text ++ String.join pieces))) none }) := by
  unfold deliver
  simp only [run_bind, run_outlet?, there, Option.bind_some, gathers]
  exact conclude_eq there _

theorem deliver_failed (there : store.outlets[id]? = some outlet)
    (gathers : outlet.sink = .collect text result onResult) (pieces : List String)
    (error : RenderError) :
    deliver handlers id pieces (.failed error) store =
      handOn handlers onResult (.error error)
        (store.put id { outlet with sink := .collect "" (some (.error error)) none }) := by
  unfold deliver
  simp only [run_bind, run_outlet?, there, Option.bind_some, gathers]
  exact conclude_eq there _

theorem listeners?_eq {listeners : Listeners Listener} (there : store.outlets[id]? = some outlet)
    (streams : outlet.sink = .stream listeners) :
    listeners? id store = some (some listeners, store) := by
  unfold listeners?
  rw [run_bind, run_outlet?, Option.bind_some]
  simp only [there, streams]
  rfl

theorem modifyListeners_eq {listeners : Listeners Listener}
    (there : store.outlets[id]? = some outlet) (streams : outlet.sink = .stream listeners)
    (change : Listeners Listener → Listeners Listener) :
    modifyListeners id change store =
      some ((), store.put id { outlet with sink := .stream (change listeners) }) := by
  rw [modifyListeners, run_modifyOutlet there]
  simp only [streams]

/-- A stream tells the pieces, and then the end or the failure. -/
theorem deliver_stream {listeners : Listeners Listener} (there : store.outlets[id]? = some outlet)
    (streams : outlet.sink = .stream listeners) (pieces : List String) (outcome : Outcome) :
    deliver handlers id pieces outcome store =
      (pieces.map Occasion.data ++ outcome.occasions).forM (tell handlers id) store := by
  have telling : (forIn pieces PUnit.unit fun piece _ => do
        tell handlers id (.data piece)
        pure (ForInStep.yield PUnit.unit) : Run Continuation Listener Client PUnit) =
      (pieces.map Occasion.data).forM (tell handlers id) := by
    induction pieces with
    | nil => rfl
    | cons piece rest inductionHypothesis =>
        rw [List.forIn_cons, bind_assoc]
        simp only [pure_bind, inductionHypothesis]
        rfl
  unfold deliver
  rw [run_bind, run_outlet?, there, Option.bind_some]
  simp only [streams]
  rw [telling]
  simp only [List.forM_eq_forM, List.forM_append]
  cases outcome with
  | pending => rfl
  | finished => simp [Outcome.occasions]
  | failed error => simp [Outcome.occasions]

/-- A round of a flush lets leave what can, delivers it, and looks whether to go on. -/
theorem flushRound_eq (there : store.outlets[id]? = some outlet) :
    flushRound handlers id store =
      (do
        deliver handlers id ({ outlet with again := false } : Outlet _ _).drain.1
          ({ outlet with again := false } : Outlet _ _).drain.2.1
        match ← outlet? id with
        | none => pure false
        | some later => pure later.again : Run Continuation Listener Client Bool)
      (store.put id ({ outlet with again := false } : Outlet _ _).drain.2.2) := by
  have bound := Store.lt_size_of_outlet there
  unfold flushRound
  rw [run_bind, run_modifyOutlet there, Option.bind_some, run_bind, run_outlet?]
  simp only [Store.put_outlets_self _ _ bound, Option.bind_some]
  rewrite [run_bind, run_modifyOutlet (Store.put_outlets_self _ _ bound), Option.bind_some,
    Store.put_put]
  rfl

/-- Whether another round follows is up to the outlet after the delivery. -/
theorem flushRound_delivered {later : Store Continuation Listener Client}
    {left laterOutlet : Outlet Continuation Listener} {pieces : List String} {next : Outcome}
    (there : store.outlets[id]? = some outlet)
    (drained : ({ outlet with again := false } : Outlet _ _).drain = (pieces, next, left))
    (delivered : deliver handlers id pieces next (store.put id left) = some ((), later))
    (thereLater : later.outlets[id]? = some laterOutlet) :
    flushRound handlers id store = some (laterOutlet.again, later) := by
  rw [flushRound_eq there, drained, run_bind, delivered, Option.bind_some, run_bind, run_outlet?,
    thereLater]
  rfl

end Delivering

namespace Gathering

variable {Continuation Listener Client : Type}

def outlet (gathering : Gathering Continuation) : Outlet Continuation Listener :=
  ⟨gathering.passed, gathering.waiting, gathering.nextNumber, false, false, gathering.again,
    .collect gathering.text none gathering.onResult⟩

def drained (gathering : Gathering Continuation) : Gathering Continuation :=
  let left := Outlet.drainWaiting gathering.waiting
  { gathering with
    passed := gathering.passed ++ left.passed
    waiting := left.waiting
    again := false
    text := gathering.text ++ String.join left.pieces }

def telling (gathering : Gathering Continuation) (result : Except RenderError String) :
    Outlet Continuation Listener :=
  ⟨gathering.drained.passed, gathering.drained.waiting, gathering.nextNumber, true, true, false,
    .collect "" (some result) none⟩

def told (gathering : Gathering Continuation) (result : Except RenderError String) :
    Outlet Continuation Listener :=
  { gathering.telling result with flushing := false }

def total (gathering : Gathering Continuation) (coming : Coming) : String :=
  gathering.text ++ Segment.totals coming gathering.waiting

variable {gathering : Gathering Continuation} {store : Store Continuation Listener Client}
variable {handlers : Handlers Continuation Listener Client} {id : OutletId}

/-- Leaving changes nothing about the text in the end. -/
theorem total_drained
    (noError : ∀ segment ∈ gathering.waiting, segment.error = none) (coming : Coming) :
    gathering.drained.total coming = gathering.total coming := by
  obtain ⟨left, equality, -, text⟩ := Outlet.drainWaiting_split noError
  have whole :
      Segment.totals coming gathering.waiting =
        Segment.totals coming left ++
          Segment.totals coming (Outlet.drainWaiting gathering.waiting).waiting := by
    rw [← Segment.totals_append, ← equality]
  simp [total, drained, whole, text coming, String.append_assoc]

theorem openNumbers_drained
    (noError : ∀ segment ∈ gathering.waiting, segment.error = none) :
    Segment.openNumbers gathering.drained.waiting = Segment.openNumbers gathering.waiting := by
  obtain ⟨left, equality, allEnded, -⟩ := Outlet.drainWaiting_split noError
  have leftClosed : Segment.openNumbers left = [] :=
    Segment.openNumbers_eq_nil_iff.mpr allEnded
  calc
    Segment.openNumbers gathering.drained.waiting =
        Segment.openNumbers (left ++ (Outlet.drainWaiting gathering.waiting).waiting) := by
      rw [Segment.openNumbers_append, leftClosed, List.nil_append]
      rfl
    _ = Segment.openNumbers gathering.waiting := by rw [← equality]

theorem orderly_drained
    (orderly : Segment.Orderly gathering.waiting gathering.nextNumber) :
    Segment.Orderly gathering.drained.waiting gathering.drained.nextNumber := by
  obtain ⟨left, equality, -, -⟩ := Outlet.drainWaiting_split orderly.noError
  rw [equality] at orderly
  exact orderly.dropFront

theorem text_drained_of_noneOpen
    (noError : ∀ segment ∈ gathering.waiting, segment.error = none)
    (noneOpen : Segment.openNumbers gathering.waiting = []) (coming : Coming) :
    gathering.drained.text = gathering.total coming := by
  obtain ⟨left, equality, allEnded, text⟩ := Outlet.drainWaiting_split noError
  have stillNone := (openNumbers_drained noError).trans noneOpen
  rw [← total_drained noError coming, total]
  cases rest : gathering.drained.waiting with
  | nil => simp
  | cons segment others =>
      have outcome := Outlet.drainWaiting_front noError rest
      rw [rest, Segment.openNumbers_cons_of_open outcome] at stillNone
      exact absurd stillNone (by simp)

def flushing (gathering : Gathering Continuation) : Outlet Continuation Listener :=
  { (gathering.outlet : Outlet Continuation Listener) with flushing := true }

theorem drain_of_open
    (noError : ∀ segment ∈ gathering.waiting, segment.error = none)
    (someOpen : Segment.openNumbers gathering.waiting ≠ []) :
    ({ (gathering.flushing : Outlet Continuation Listener) with again := false } :
        Outlet Continuation Listener).drain =
      ((Outlet.drainWaiting gathering.waiting).pieces, .pending,
        { (gathering.drained.flushing : Outlet Continuation Listener) with
          sink := .collect gathering.text none gathering.onResult }) := by
  have outcome := Outlet.drainWaiting_outcome noError
  rw [if_neg someOpen] at outcome
  simp [Outlet.drain, flushing, outlet, drained, outcome]

theorem drain_of_noneOpen
    (noError : ∀ segment ∈ gathering.waiting, segment.error = none)
    (noneOpen : Segment.openNumbers gathering.waiting = []) :
    ({ (gathering.flushing : Outlet Continuation Listener) with again := false } :
        Outlet Continuation Listener).drain =
      ((Outlet.drainWaiting gathering.waiting).pieces, .finished,
        { (gathering.drained.flushing : Outlet Continuation Listener) with
          finished := true
          sink := .collect gathering.text none gathering.onResult }) := by
  have outcome := Outlet.drainWaiting_outcome noError
  rw [if_pos noneOpen] at outcome
  simp [Outlet.drain, flushing, outlet, drained, outcome]

theorem flushRound_pending
    (there : store.outlets[id]? = some gathering.flushing)
    (noError : ∀ segment ∈ gathering.waiting, segment.error = none)
    (someOpen : Segment.openNumbers gathering.waiting ≠ []) :
    flushRound handlers id store =
      some (false, store.put id gathering.drained.flushing) := by
  have bound := Store.lt_size_of_outlet there
  rw [flushRound_eq there, drain_of_open noError someOpen, run_bind,
    deliver_pending (Store.put_outlets_self _ _ bound) rfl]
  simp only [Option.bind_some, run_bind, run_outlet?, Store.put_put,
    Store.put_outlets_self _ _ bound]
  rfl

theorem flush_eq (there : store.outlets[id]? = some gathering.outlet) :
    flush handlers id store =
      (flushRounds handlers id handlers.rounds (store.put id gathering.flushing)).bind
        fun found => modifyOutlet id (fun outlet => { outlet with flushing := false }) found.2 := by
  unfold flush
  simp only [run_bind, run_outlet?, there, Option.bind_some]
  rw [if_neg (by simp [outlet])]
  simp only [run_bind, run_modifyOutlet there, Option.bind_some]
  rfl

/-- What a flush does when some segment is open: the outlet goes on gathering. -/
theorem flush_pending
    (there : store.outlets[id]? = some gathering.outlet)
    (noError : ∀ segment ∈ gathering.waiting, segment.error = none)
    (someOpen : Segment.openNumbers gathering.waiting ≠ [])
    (rounds : 0 < handlers.rounds) :
    flush handlers id store = some ((), store.put id gathering.drained.outlet) := by
  have bound := Store.lt_size_of_outlet there
  obtain ⟨fewer, count⟩ := Nat.exists_eq_add_of_lt rounds
  have oneRound :
      flushRounds handlers id handlers.rounds (store.put id gathering.flushing) =
        some ((), store.put id gathering.drained.flushing) := by
    rw [count, Nat.zero_add, flushRounds, run_bind,
      flushRound_pending (Store.put_outlets_self _ _ bound) noError someOpen]
    simp [run_pure]
  rw [flush_eq there, oneRound, Option.bind_some,
    run_modifyOutlet (Store.put_outlets_self _ _ bound), Store.put_put]
  rfl

theorem flushRound_finished
    (there : store.outlets[id]? = some gathering.flushing)
    (noError : ∀ segment ∈ gathering.waiting, segment.error = none)
    (noneOpen : Segment.openNumbers gathering.waiting = []) :
    flushRound handlers id store =
      (handOn handlers gathering.onResult (.ok gathering.drained.text)
        (store.put id (gathering.telling (.ok gathering.drained.text)))).bind fun found =>
          some ((found.2.outlets[id]?.map Outlet.again).getD false, found.2) := by
  have bound := Store.lt_size_of_outlet there
  rw [flushRound_eq there, drain_of_noneOpen noError noneOpen, run_bind,
    deliver_finished (Store.put_outlets_self _ _ bound) rfl, Store.put_put]
  simp only [run_bind, run_outlet?, Option.bind_some]
  change (handOn handlers gathering.onResult (.ok gathering.drained.text)
    (store.put id (gathering.telling (.ok gathering.drained.text)))).bind _ = _
  congr 1
  funext found
  cases found.2.outlets[id]? with
  | none => rfl
  | some later => rfl

/-- What a flush does when no segment is open: the whole text is the result and is handed on. -/
theorem flush_finished {later : Store Continuation Listener Client}
    (there : store.outlets[id]? = some gathering.outlet)
    (noError : ∀ segment ∈ gathering.waiting, segment.error = none)
    (noneOpen : Segment.openNumbers gathering.waiting = [])
    (rounds : 0 < handlers.rounds)
    (handedOn :
      handOn handlers gathering.onResult (.ok gathering.drained.text)
        (store.put id (gathering.telling (.ok gathering.drained.text))) = some ((), later))
    (untouched :
      later.outlets[id]? = some (gathering.telling (.ok gathering.drained.text))) :
    flush handlers id store =
      some ((), later.put id (gathering.told (.ok gathering.drained.text))) := by
  have bound := Store.lt_size_of_outlet there
  obtain ⟨fewer, count⟩ := Nat.exists_eq_add_of_lt rounds
  have oneRound :
      flushRounds handlers id handlers.rounds (store.put id gathering.flushing) =
        some ((), later) := by
    rw [count, Nat.zero_add, flushRounds, run_bind,
      flushRound_finished (Store.put_outlets_self _ _ bound) noError noneOpen, Store.put_put,
      handedOn]
    simp [untouched, telling, run_pure]
  rw [flush_eq there, oneRound, Option.bind_some, run_modifyOutlet untouched]
  rfl

/-- A flush that has a result to hand on is out of steps where handing it on is. -/
theorem flush_eq_none
    (there : store.outlets[id]? = some gathering.outlet)
    (noError : ∀ segment ∈ gathering.waiting, segment.error = none)
    (noneOpen : Segment.openNumbers gathering.waiting = [])
    (handedOn :
      handOn handlers gathering.onResult (.ok gathering.drained.text)
        (store.put id (gathering.telling (.ok gathering.drained.text))) = none) :
    flush handlers id store = none := by
  have bound := Store.lt_size_of_outlet there
  have noRounds :
      flushRounds handlers id handlers.rounds (store.put id gathering.flushing) = none := by
    cases handlers.rounds with
    | zero => rfl
    | succ fewer =>
        rw [flushRounds, run_bind,
          flushRound_finished (Store.put_outlets_self _ _ bound) noError noneOpen,
          Store.put_put, handedOn]
        rfl
  rw [flush_eq there, noRounds]
  rfl

end Gathering

end BraceTemplate.Output
