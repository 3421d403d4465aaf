import BraceTemplate.Proofs.Output.Ledgers

/-!
# Deliveries keep their accounts

A delivery puts what is due to a sink down, and pays it off: to a sink that gathers at once, to the
listeners of a stream one after the other, while they operate on handles. None of this needs to know
what they do, only that they keep such accounts themselves.
-/

namespace BraceTemplate.Output

theorem gathered_pieces (occasions : List Occasion) (pieces : List String) :
    gathered (occasions ++ pieces.map Occasion.data) =
      ((gathered occasions).1 ++ String.join pieces, (gathered occasions).2) := by
  induction pieces generalizing occasions with
  | nil => simp [String.join]
  | cons piece rest inductionHypothesis =>
      have later := inductionHypothesis (occasions ++ [.data piece])
      rw [List.append_assoc] at later
      rw [List.map_cons, ← List.singleton_append, later]
      simp [gathered, List.foldl_append, Occasion.gather, String.append_assoc]

theorem gathered_append_singleton (occasions : List Occasion) (occasion : Occasion) :
    gathered (occasions ++ [occasion]) = Occasion.gather (gathered occasions) occasion := by
  simp [gathered, List.foldl_append]

namespace Outlet.ComesOf

variable {outlet : Outlet Pending Unit} {audience : Channel → Nat} {heard due : List Occasion}
variable {changes : List Change}

theorem sizeAfterAll (comes : outlet.ComesOf audience heard due changes) :
    Change.sizeAfterAll 1 changes = outlet.nextNumber := by
  have same := congrArg Outlet.nextNumber comes.became
  rw [Outlet.nextNumber_after] at same
  exact same.symm

theorem one_more (comes : outlet.ComesOf audience heard due changes)
    (change : Change) (within : ∀ number ∈ change.number?, number < outlet.nextNumber) :
    Change.AllWithin 1 (changes ++ [change]) ∧
      (outlet.take change).bare = Outlet.blank.after (changes ++ [change]) := by
  constructor
  · rw [Change.allWithin_append, Change.allWithin_singleton, comes.sizeAfterAll]
    exact ⟨comes.within, within⟩
  · rw [Outlet.bare_take, comes.became, Outlet.after_append]
    rfl

/-- A change to a segment is told to nobody. -/
theorem take (comes : outlet.ComesOf audience heard due changes) {change : Change}
    (within : ∀ number ∈ change.number?, number < outlet.nextNumber)
    (changed : change.number?.isSome = true) :
    (outlet.take change).ComesOf audience heard due (changes ++ [change]) := by
  obtain ⟨allWithin, became⟩ := comes.one_more change within
  refine ⟨allWithin, became, ?_⟩
  rw [(outlet.sink_take change).1, Outlet.told_append, Outlet.told_changed changed,
    List.append_nil]
  exact comes.knows

/-- What a drain lets leave is due to the sink. -/
theorem drain (comes : outlet.ComesOf audience heard [] changes) :
    (outlet.take .drain).ComesOf audience heard (outlet.sink.owed audience
      (outlet.drain.1.map Occasion.data ++ outlet.drain.2.1.occasions)) (changes ++ [.drain]) := by
  obtain ⟨allWithin, became⟩ := comes.one_more .drain fun _ none => by cases none
  refine ⟨allWithin, became, ?_⟩
  have told : (Outlet.blank.after changes).told [.drain] =
      outlet.drain.1.map Occasion.data ++ outlet.drain.2.1.occasions := by
    rw [← comes.became]
    simp [Outlet.told, Outlet.drain_bare]
  have knows := comes.knows
  rw [(outlet.sink_take .drain).1, Outlet.told_append, told]
  cases sink : outlet.sink with
  | collect text result onResult =>
      rw [sink] at knows
      obtain ⟨had, same, gathers⟩ := knows
      rw [List.append_nil] at same
      exact ⟨had, by rw [same]; rfl, gathers⟩
  | stream listeners =>
      rw [sink] at knows
      simp only [Sink.Knows, Sink.owed, toldAll, List.flatMap_append, List.append_nil] at knows ⊢
      rw [knows]

end Outlet.ComesOf

namespace Ledger

variable {ledger later : Ledger} {id : OutletId} {store : Store Pending Unit Desk}
variable {outlet : Outlet Pending Unit} {handlers : Handlers Pending Unit Desk} {writer : Writer}

/-- Nothing changes for a stream but its listeners. -/
theorem Upright.stream (upright : ledger.Upright store) (there : store.outlets[id]? = some outlet)
    (ears : later.ears = ledger.ears) :
    ∀ listeners, outlet.sink = .stream listeners →
      ∀ channel, (listeners.on channel).length = later.ears channel := by
  intro listeners streams
  rw [ears]
  exact ((upright.covers _ _ there).stream listeners streams).2.2

/-- A change to a segment that is there. Something may leave the outlet then. -/
theorem Upright.take (upright : ledger.Upright store)
    (there : store.outlets[writer.outlet]? = some outlet) (lends : ledger.Lends store writer)
    (change : Change) (changed : change.number? = some writer.segment) :
    (ledger.alarming writer.outlet).Upright (store.put writer.outlet (outlet.take change)) := by
  have isSome : change.number?.isSome = true := by rw [changed]; rfl
  obtain ⟨sink, flushing, -⟩ := outlet.sink_take change
  obtain ⟨found, present, within⟩ := lends.holds
  rw [there] at present
  cases present
  refine upright.put there (beside_alarming _ _)
    { alike := sink ▸ alike_refl _
      goesOn := fun changes comes => ⟨[change], ?_⟩
      busy := flushing.trans (upright.covers _ _ there).busy
      settled := .inl (alarm_alarming _ _)
      finished := fun isDone => (Outlet.finished_changed isSome).trans isDone
      numbers := ?_
      stream := sink ▸ upright.stream there rfl
      rests := upright.rests _
      opens := fun watch member awaits same isOpen => isOpen.take ?_ }
  · refine Outlet.ComesOf.take comes (fun number here => ?_) isSome
    rw [changed] at here
    cases here
    exact within
  · rw [Outlet.nextNumber_take]
    exact Change.size_le_sizeAfter _ _
  · rw [changed]
    exact fun branch => lends.spares watch member awaits same (Option.some.inj branch)

theorem ensures_take (member : writer ∈ ledger.held) (change : Change)
    (changed : change.number? = some writer.segment) :
    Ensures ledger.Upright (modifyOutlet writer.outlet fun outlet => outlet.take change)
      fun _ => (ledger.alarming writer.outlet).Upright := by
  intro store result later upright ran
  have lends := upright.held writer member
  obtain ⟨outlet, there, within⟩ := lends.holds
  rw [run_modifyOutlet there] at ran
  cases ran
  exact upright.take there lends change changed

/-- What is written or forked lets nothing leave. -/
theorem keeps_take (member : writer ∈ ledger.held) (change : Change)
    (changed : change.number? = some writer.segment) (quiet : change.quiet = true) :
    Keeps ledger.Upright (modifyOutlet writer.outlet fun outlet => outlet.take change) := by
  intro store result later upright ran
  have lends := upright.held writer member
  obtain ⟨outlet, there, within⟩ := lends.holds
  rw [run_modifyOutlet there] at ran
  cases ran
  refine (upright.take there lends change changed).calm fun found present => ?_
  rw [Store.put_outlets_self _ _ (Store.lt_size_of_outlet there)] at present
  cases present
  obtain ⟨-, flushing, again⟩ := outlet.sink_take change
  rw [flushing, again]
  exact (upright.covers _ _ there).settled.imp_right fun rest =>
    rest.imp_right fun settled => settled.take quiet

/-- Reactions that keep accounts: continuations, on the handle they are given, and listeners, who
pay off one occasion. A continuation that fails sets its error on its branch. -/
structure Safe (handlers : Handlers Pending Unit Desk) : Prop where
  resume : ∀ (ledger : Ledger) pending result,
    Ensures ((ledger.handing (pending.takes result)).holding pending.writers).Upright
      (handlers.resume pending result) fun _ => ledger.Upright
  blames : ∀ (ledger : Ledger) pending result,
    Ensures (fun store =>
        ((ledger.handing (pending.takes result)).holding pending.writers).Upright store ∧
          ∀ branch ∈ pending.writers, store.Leaves branch)
      (handlers.resume pending result) fun _ => ledger.Blamed pending result
  hear : ∀ (ledger : Ledger) occasion rest, ledger.streams = true → ledger.busy 0 = true →
    ledger.due 0 = occasion :: rest →
      Ensures ledger.Upright (handlers.hear () occasion) fun _ => (ledger.owing 0 rest).Upright

/-- An outlet that is being delivered is there. -/
theorem Upright.exists_busy (upright : ledger.Upright store) (busy : ledger.busy id = true) :
    ∃ outlet, store.outlets[id]? = some outlet := by
  by_cases bound : id < store.outlets.size
  · exact ⟨_, Array.getElem?_eq_getElem bound⟩
  · have idle := (upright.beyond id (Nat.le_of_not_lt bound)).2
    rw [busy] at idle
    cases idle

theorem Upright.exists_stream (upright : ledger.Upright store) (streams : ledger.streams = true)
    (busy : ledger.busy 0 = true) :
    ∃ outlet listeners, store.outlets[0]? = some outlet ∧ outlet.sink = .stream listeners ∧
      ∀ channel, (listeners.on channel).length = ledger.ears channel := by
  obtain ⟨outlet, there⟩ := upright.exists_busy busy
  have covers := upright.covers _ _ there
  cases sink : outlet.sink with
  | collect text result onResult => exact absurd ⟨rfl, streams⟩ (covers.collect _ _ _ sink)
  | stream listeners => exact ⟨outlet, listeners, there, sink, (covers.stream _ sink).2.2⟩

/-- During a delivery a sink may be replaced by one like it that knows as much. -/
theorem Upright.withSink (upright : ledger.Upright store)
    (there : store.outlets[id]? = some outlet) (sink : Sink Pending Unit)
    (alike : outlet.sink.Alike sink) (beside : ledger.Beside later id)
    (busy : ledger.busy id = true) (sameBusy : later.busy id = ledger.busy id)
    (sameAlarm : later.alarm id = ledger.alarm id)
    (knows : ∀ told, outlet.sink.Knows ledger.audience store.client.occasions (ledger.due id) told →
      sink.Knows later.audience store.client.occasions (later.due id) told)
    (stream : ∀ listeners, sink = .stream listeners →
      ∀ channel, (listeners.on channel).length = later.ears channel) :
    later.Upright (store.put id { outlet with sink := sink }) := by
  obtain ⟨-, flushing, settled, -⟩ := upright.covers _ _ there
  refine upright.put there beside
    { alike := alike
      goesOn := fun changes comes => ⟨[], ?_⟩
      busy := flushing.trans sameBusy.symm
      settled := sameAlarm ▸ settled
      finished := fun isDone => isDone
      numbers := Nat.le_refl _
      stream := stream
      rests := rests_of_busy (sameBusy.trans busy)
      opens := fun _ _ _ _ isOpen => isOpen }
  rw [List.append_nil]
  exact ⟨comes.within, comes.became, knows _ comes.knows⟩

variable {occasion : Occasion} {rest : List Occasion}

/-- Listeners that are told one after the other pay off as many occasions. -/
theorem Safe.hearAll (safe : Safe handlers) (ledger : Ledger) (listeners : List Unit)
    (streams : ledger.streams = true) (busy : ledger.busy 0 = true)
    (due : ledger.due 0 = List.replicate listeners.length occasion ++ rest) :
    Ensures ledger.Upright (listeners.mapM fun listener => handlers.hear listener occasion)
      fun heard store => heard.length = listeners.length ∧ (ledger.owing 0 rest).Upright store := by
  induction listeners generalizing ledger with
  | nil =>
      rw [List.mapM_nil]
      refine Ensures.pure fun store upright => ⟨rfl, ?_⟩
      rwa [owing_self (show ledger.due 0 = rest from due)]
  | cons listener others inductionHypothesis =>
      rw [List.mapM_cons]
      refine (safe.hear ledger occasion _ streams busy due).bind fun first => ?_
      have others := @inductionHypothesis
        (ledger.owing 0 (List.replicate others.length occasion ++ rest)) streams busy
        (due_owing ..)
      refine others.bind fun later => Ensures.pure fun store found => ?_
      rw [owing_owing] at found
      exact ⟨congrArg (· + 1) found.1, found.2⟩

/-- Telling an occasion pays it off to every listener of its channel. -/
theorem Safe.tell (safe : Safe handlers) (streams : ledger.streams = true)
    (busy : ledger.busy 0 = true) (eager : ledger.ears = ledger.audience)
    (due : ledger.due 0 =
      List.replicate (ledger.audience occasion.channel) occasion ++ rest) :
    Ensures ledger.Upright (tell handlers 0 occasion) fun _ => (ledger.owing 0 rest).Upright := by
  intro store result later upright ran
  obtain ⟨outlet, listeners, there, sink, ears⟩ := upright.exists_stream streams busy
  have full : (listeners.on occasion.channel).length = ledger.audience occasion.channel := by
    rw [ears, eager]
  rw [Output.tell, run_bind, listeners?_eq there sink, Option.bind_some] at ran
  simp only [run_bind, modifyListeners_eq there sink, Option.bind_some] at ran
  have hushed : (ledger.hushing occasion.channel).Upright
      (store.put 0 { outlet with
        sink := .stream (listeners.withChannel occasion.channel []) }) := by
    refine upright.withSink there _ (sink ▸ trivial) (beside_hushing _ _) busy rfl rfl
      (fun told knows => ?_) fun others same channel => ?_
    · rw [sink] at knows
      exact knows
    · cases same
      rw [Listeners.on_withChannel]
      by_cases here : channel = occasion.channel
      · simp [hushing, here]
      · simp [hushing, here, ears]
  obtain ⟨⟨heard, middle⟩, heardAll, finished⟩ := Option.bind_eq_some_iff.mp ran
  have everyone : (ledger.hushing occasion.channel).due 0 =
      List.replicate (listeners.on occasion.channel).length occasion ++ rest := by
    rw [full]
    exact due
  obtain ⟨length, paid⟩ := safe.hearAll (ledger.hushing occasion.channel) _ streams busy everyone
    _ _ _ hushed heardAll
  obtain ⟨last, current, thereLast, sinkLast, earsLast⟩ := paid.exists_stream streams busy
  simp only [modifyListeners_eq thereLast sinkLast] at finished
  cases finished
  refine paid.withSink thereLast _ (sinkLast ▸ trivial)
    (beside_hushing (ledger.owing 0 rest) occasion.channel).symm busy rfl rfl
    (fun told knows => ?_) fun others same channel => ?_
  · rw [sinkLast] at knows
    exact knows
  · cases same
    rw [Listeners.on_withChannel]
    by_cases here : channel = occasion.channel
    · subst here
      have nobody : (current.on occasion.channel).length = 0 := by
        rw [earsLast]
        exact Function.update_self ..
      have everybody : heard.length = ledger.ears occasion.channel := by rw [length, full, eager]
      simp [nobody, everybody, owing]
    · rw [if_neg here, earsLast]
      exact Function.update_of_ne here _ _

theorem Safe.tellAll (safe : Safe handlers) (occasions : List Occasion)
    (streams : ledger.streams = true) (busy : ledger.busy 0 = true)
    (eager : ledger.ears = ledger.audience)
    (due : ledger.due 0 = toldAll ledger.audience occasions) :
    Ensures ledger.Upright (occasions.forM (Output.tell handlers 0))
      fun _ => (ledger.owing 0 []).Upright := by
  induction occasions generalizing ledger with
  | nil =>
      refine Ensures.pure fun store upright => ?_
      rwa [owing_self (show ledger.due 0 = [] from due)]
  | cons occasion others inductionHypothesis =>
      refine (safe.tell streams busy eager due).bind fun _ => ?_
      have later := @inductionHypothesis (ledger.owing 0 (toldAll ledger.audience others)) streams
        busy eager (due_owing ..)
      rwa [owing_owing] at later

variable {pieces : List String} {outcome : Outcome} {result : Except RenderError String}

/-- What goes on with a result goes on in a store where it is noted. -/
theorem Safe.handOn (safe : Safe handlers) {onResult : Option Pending}
    (upright : (((ledger.yielding id result).handing
        ((onResult.map fun pending => pending.takes result).getD [])).holding
      ((onResult.map Pending.writers).getD [])).Upright store)
    (watched : ∀ watch ∈ ledger.watch, watch.stub = id → ledger.acting = none ∧
      onResult = some watch.pending ∧ store.Leaves watch.branch)
    {found : Unit} {afterwards : Store Pending Unit Desk}
    (ran : Output.handOn handlers onResult result store = some (found, afterwards)) :
    ledger.Upright afterwards := by
  cases onResult with
  | none =>
      cases ran
      refine Upright.acted upright fun watch member same => ?_
      obtain ⟨-, none, -⟩ := watched watch member same
      cases none
  | some pending =>
      have resumed := safe.resume _ pending result _ _ _ upright ran
      refine Upright.acted resumed fun watch member same => ?_
      obtain ⟨idle, some, leaves⟩ := watched watch member same
      cases some
      have blamed : (ledger.yielding id result).Blamed watch.pending result afterwards :=
        safe.blames _ _ _ _ _ _
          ⟨upright, fun branch here => List.mem_singleton.mp here ▸ leaves⟩ ran
      exact ⟨idle, blamed⟩

/-- What is told while there is no result is told to a sink without one. -/
theorem Upright.none_of_going (upright : ledger.Upright store)
    (there : store.outlets[id]? = some outlet) (going : outlet.finished = false) {text : String}
    {had : Option (Except RenderError String)} {onResult : Option Pending}
    (sink : outlet.sink = .collect text had onResult) : had = none := by
  cases had with
  | none => rfl
  | some result =>
      exact nomatch going.symm.trans ((upright.covers _ _ there).resolved _ _ _ sink)

/-- The capture waits where its sink has no result. -/
theorem Upright.waits (upright : ledger.Upright store) {watch : Watch}
    (member : watch ∈ ledger.watch) (there : store.outlets[watch.stub]? = some outlet)
    {text : String} {onResult : Option Pending} (sink : outlet.sink = .collect text none onResult) :
    ledger.acting = none ∧ onResult = some watch.pending ∧ store.Leaves watch.branch := by
  rcases (upright.watched watch member).state with ⟨⟨found, _, present, waits⟩, idle, leaves⟩ |
    ⟨result, ⟨found, _, present, come⟩, -⟩
  · rw [there] at present
    cases present
    rw [sink] at waits
    cases waits
    exact ⟨idle, rfl, leaves⟩
  · rw [there] at present
    cases present
    rw [sink] at come
    cases come

/-- A delivery pays off what is due to the sink. -/
theorem Safe.deliver (safe : Safe handlers) (nothing : ledger.due id = [])
    (busy : ledger.busy id = true) (eager : id = 0 → ledger.ears = ledger.audience)
    (there : store.outlets[id]? = some outlet)
    (atEnd : outcome.isOver = true → outlet.finished = true ∧
      ∀ text had onResult, outlet.sink = .collect text had onResult → had = none)
    (upright : (ledger.owing id (outlet.sink.owed ledger.audience
      (pieces.map Occasion.data ++ outcome.occasions))).Upright store) {found : Unit}
    {afterwards : Store Pending Unit Desk}
    (ran : Output.deliver handlers id pieces outcome store = some (found, afterwards)) :
    ledger.Upright afterwards := by
  cases sink : outlet.sink with
  | collect text had onResult =>
      rw [sink] at upright
      -- The continuation goes on from a store in which the sink has its result.
      have concluding : ∀ final : Except RenderError String, outcome.isOver = true →
          (∀ told, gathered told = (text, none) →
            gathered (told ++ (pieces.map Occasion.data ++ outcome.occasions)) =
              ("", some final)) →
          Output.handOn handlers onResult final
              (store.put id { outlet with sink := .collect "" (some final) none }) =
            some (found, afterwards) → ledger.Upright afterwards := by
        intro final isOver gathers handedOn
        obtain ⟨isDone, noResult⟩ := atEnd isOver
        cases noResult _ _ _ sink
        refine safe.handOn (upright.conclude there sink isDone nothing busy gathers)
          (fun watch member same => ?_) handedOn
        subst same
        obtain ⟨idle, some, leaves⟩ := upright.waits member there sink
        exact ⟨idle, some, leaves_put there (fun _ isOpen => isOpen) leaves⟩
      cases outcome with
      | pending =>
          rw [deliver_pending there sink] at ran
          cases ran
          refine upright.withSink there _ (sink ▸ ⟨rfl, rfl⟩) (beside_owing ledger id _).symm busy
            rfl rfl (fun told knows => ?_) fun _ same => by cases same
          rw [sink, due_owing] at knows
          obtain ⟨had, rfl, before⟩ := knows
          refine ⟨had ++ pieces.map Occasion.data, ?_, ?_⟩
          · rw [nothing, List.append_nil]
            exact congrArg (had ++ ·) (List.append_nil _)
          · rw [gathered_pieces, before]
      | finished =>
          rw [deliver_finished there sink] at ran
          refine concluding _ rfl (fun told before => ?_) ran
          rw [Outcome.occasions, ← List.append_assoc, gathered_append_singleton, gathered_pieces,
            before]
          rfl
      | failed error =>
          rw [deliver_failed there sink] at ran
          refine concluding _ rfl (fun told before => ?_) ran
          rw [Outcome.occasions, ← List.append_assoc, gathered_append_singleton]
          rfl
  | stream listeners =>
      rw [sink] at upright
      obtain ⟨rfl, streams, -⟩ := (upright.covers _ _ there).stream _ sink
      rw [deliver_stream there sink] at ran
      have paid := safe.tellAll _ streams busy (eager rfl) (due_owing ..) _ _ _ upright ran
      rwa [owing_owing, owing_self nothing] at paid

theorem drain_over (isOver : outlet.drain.2.1.isOver = true) :
    outlet.finished = false ∧ outlet.drain.2.2.finished = true := by
  cases going : outlet.finished with
  | true =>
      rw [Outlet.drain_finished going] at isOver
      cases isOver
  | false =>
      rw [Outlet.drain_eq going] at isOver ⊢
      exact ⟨rfl, isOver⟩

/-- A round lets leave what can. If it asks for no other, nothing has asked for one since. -/
theorem Safe.flushRound (safe : Safe handlers) (nothing : ledger.due id = [])
    (busy : ledger.busy id = true) (eager : id = 0 → ledger.ears = ledger.audience) :
    Ensures (ledger.alarming id).Upright (flushRound handlers id) fun again store =>
      ledger.Upright store ∧
        ∀ outlet, store.outlets[id]? = some outlet → outlet.again = again := by
  intro store result later upright ran
  obtain ⟨outlet, there⟩ := upright.exists_busy busy
  have bound := Store.lt_size_of_outlet there
  have covers := upright.covers _ _ there
  let asked : Outlet Pending Unit := { outlet with again := false }
  obtain ⟨sink, flushing, -⟩ := asked.sink_take .drain
  have drained : (ledger.owing id (asked.sink.owed ledger.audience
      (asked.drain.1.map Occasion.data ++ asked.drain.2.1.occasions))).Upright
        (store.put id (asked.take .drain)) := by
    refine upright.put there ((beside_alarming ledger id).symm.trans (beside_owing _ _ _))
      { alike := sink ▸ alike_refl _
        goesOn := fun changes comes => ⟨[.drain], ?_⟩
        busy := flushing.trans covers.busy
        settled := .inr (.inr (Outlet.settled_drained asked))
        finished := fun isDone => ?_
        numbers := ?_
        stream := fun listeners same => upright.stream there rfl listeners (sink ▸ same)
        rests := rests_of_busy busy
        opens := fun watch member awaits same isOpen => ?_ }
    · rw [due_owing]
      have comesOf : asked.ComesOf ledger.audience store.client.occasions [] changes :=
        nothing ▸ ⟨comes.within, comes.became, comes.knows⟩
      exact comesOf.drain
    · have isDone : asked.finished = true := isDone
      rw [Outlet.take, Outlet.drain_finished isDone, isDone]
    · have numbers : (asked.take .drain).nextNumber = asked.nextNumber := Outlet.nextNumber_take _
      exact Nat.le_of_eq numbers.symm
    · have isOpen : asked.Open watch.branch.segment := isOpen
      exact isOpen.take fun branch => by cases branch
  rw [flushRound_eq there] at ran
  obtain ⟨_, middle, delivered, finished⟩ := bind_eq_some.mp ran
  rw [← sink] at drained
  have paid := safe.deliver nothing busy eager (Store.put_outlets_self _ _ bound) (fun isOver => ?_)
    drained delivered
  · obtain ⟨found, reached, looked, yielded⟩ := bind_eq_some.mp finished
    cases looked
    obtain ⟨last, present⟩ := paid.exists_busy busy
    rw [present] at yielded
    cases yielded
    exact ⟨paid, fun other same => by rw [present] at same; cases same; rfl⟩
  · obtain ⟨going, isDone⟩ := drain_over isOver
    refine ⟨isDone, fun text had onResult gathers => ?_⟩
    exact upright.none_of_going there going (gathers ▸ sink.symm)

theorem Safe.flushRounds (safe : Safe handlers) (ledger : Ledger) (nothing : ledger.due id = [])
    (busy : ledger.busy id = true) (eager : id = 0 → ledger.ears = ledger.audience)
    (rounds : Nat) :
    Ensures (ledger.alarming id).Upright (flushRounds handlers id rounds) fun _ store =>
      ledger.Upright store ∧
        ∀ outlet, store.outlets[id]? = some outlet → outlet.again = false := by
  induction rounds with
  | zero => exact Ensures.outOfSteps
  | succ rounds inductionHypothesis =>
      refine (safe.flushRound nothing busy eager).bind fun again => ?_
      cases again with
      | true => exact inductionHypothesis.weaken fun _ both => both.1.alarming id
      | false => exact Ensures.pure fun _ both => both

/-- What an outlet notes about its delivery is kept with it. -/
theorem Upright.noting (upright : ledger.Upright store) (there : store.outlets[id]? = some outlet)
    {flushing again : Bool} (beside : ledger.Beside later id) (due : later.due id = ledger.due id)
    (ears : later.ears = ledger.ears) (busy : flushing = later.busy id)
    (settled : later.alarm id = true ∨ (flushing = true ∧ again = true) ∨ outlet.Settled)
    (rests : later.RestsAt id) :
    later.Upright (store.put id { outlet with flushing := flushing, again := again }) := by
  refine upright.put there beside
    { alike := alike_refl _
      goesOn := fun changes comes => ⟨[], ?_⟩
      busy := busy
      settled := settled
      finished := fun isDone => isDone
      numbers := Nat.le_refl _
      stream := fun listeners same => upright.stream there ears listeners same
      rests := rests
      opens := fun _ _ _ _ isOpen => isOpen }
  rw [List.append_nil, beside.audience, due]
  exact ⟨comes.within, comes.became, comes.knows⟩

/-- A flush is a delivery, or it is left to the one that goes on. -/
theorem Safe.flush (safe : Safe handlers) (id : OutletId) :
    Ensures (ledger.alarming id).Upright (flush handlers id) fun _ => ledger.Upright := by
  intro store result later upright ran
  obtain ⟨found, middle, looked, flushed⟩ := bind_eq_some.mp ran
  cases looked
  cases there : store.outlets[id]? with
  | none =>
      rw [there] at flushed
      cases flushed
      exact upright.calm fun outlet present => nomatch there.symm.trans present
  | some outlet =>
      have flushing : outlet.flushing = ledger.busy id := (upright.covers _ _ there).busy
      rw [there] at flushed
      simp only at flushed
      split at flushed
      · rename_i busy
        rw [run_modifyOutlet there] at flushed
        cases flushed
        exact upright.noting there (beside_alarming ledger id).symm rfl rfl flushing
          (.inr (.inl ⟨busy, rfl⟩)) (upright.rests id)
      · rename_i idle
        rw [Bool.not_eq_true] at idle
        rw [flushing] at idle
        obtain ⟨nothing, eager⟩ := upright.rests id idle
        have started : ((ledger.entering id).alarming id).Upright
            (store.put id { outlet with flushing := true }) :=
          upright.noting there (beside_entering (ledger.alarming id) id) rfl rfl
            (busy_entering ledger id).symm (.inl (alarm_alarming ledger id))
            (rests_of_busy (busy_entering ledger id))
        obtain ⟨_, busyStore, begun, rounds⟩ := bind_eq_some.mp flushed
        rw [run_modifyOutlet there] at begun
        cases begun
        obtain ⟨_, last, delivered, finished⟩ := bind_eq_some.mp rounds
        obtain ⟨done, calm⟩ := safe.flushRounds (ledger.entering id) nothing
          (busy_entering ledger id) eager _ _ _ _ started delivered
        obtain ⟨current, thereLast⟩ := done.exists_busy (busy_entering ledger id)
        rw [run_modifyOutlet thereLast] at finished
        cases finished
        refine done.noting thereLast (beside_entering ledger id).symm rfl rfl idle.symm ?_
          (upright.rests id)
        rcases (done.covers _ _ thereLast).settled with alarm | ⟨-, again⟩ | settled
        · exact .inl alarm
        · exact nomatch (calm _ thereLast).symm.trans again
        · exact .inr (.inr settled)

end Ledger

end BraceTemplate.Output
