import BraceTemplate.Proofs.Output.Accounts

/-!
# Uses of handles

Handles are used in any order, after their segments have ended, forked, failed or left as well as
before. Whatever is done with one is a change to its segment, perhaps with a delivery, or it leads
to new segments behind it.
-/

namespace BraceTemplate.Output

namespace Ledger

variable {ledger : Ledger} {store : Store Pending Unit Desk} {writer last : Writer}
variable {handlers : Handlers Pending Unit Desk} {writers : List Writer}

theorem Upright.withPots (upright : ledger.Upright store) (pots : Array String) :
    ledger.Upright { store with pots := pots } :=
  ⟨upright.covers, upright.rests, upright.beyond,
    fun entry member => (upright.handles entry member).of_outlets rfl rfl,
    upright.sinks,
    fun writer member => (upright.held writer member).of_outlets rfl rfl,
    upright.taken,
    fun watch member =>
      ⟨(upright.watched watch member).apart, (upright.watched watch member).state⟩⟩

theorem keeps_passTaps (taps : List Tap) (text : String) :
    Keeps ledger.Upright (Writer.passTaps taps text) := by
  intro store result later upright ran
  obtain ⟨pots, equality⟩ := Writer.passTaps_eq taps text store
  rw [equality] at ran
  cases ran
  exact upright.withPots pots

theorem ensures_write (member : writer ∈ ledger.held) (text : String) :
    Ensures ledger.Upright (writer.write text) fun last => (ledger.holding [last]).Upright := by
  refine Ensures.bind (keeps_passTaps writer.taps text) fun passed => ?_
  have returning : Ensures ledger.Upright (pure writer) fun last =>
      (ledger.holding [last]).Upright :=
    Ensures.pure fun _ upright => upright.holds member rfl rfl
  split
  · exact returning
  · exact Ensures.bind (keeps_take member (.write writer.segment passed) rfl rfl)
      fun _ => returning

theorem Safe.finish (safe : Safe handlers) (member : writer ∈ ledger.held) :
    Keeps ledger.Upright (writer.finish handlers) :=
  (ensures_take member (.finish writer.segment) rfl).bind fun _ => safe.flush _

theorem mem_holding (writer : Writer) : writer ∈ (ledger.holding [writer]).held :=
  List.mem_cons_self

theorem Safe.finish_held (safe : Safe handlers) (writer : Writer) :
    Ensures (ledger.holding [writer]).Upright (writer.finish handlers) fun _ => ledger.Upright :=
  Ensures.strengthen (safe.finish (mem_holding writer)) fun _ _ upright => upright.drop

theorem Safe.finishWith (safe : Safe handlers) (member : writer ∈ ledger.held) (text : String) :
    Keeps ledger.Upright (writer.finishWith handlers text) :=
  Ensures.bind (ensures_write member text) fun last =>
    safe.finish_held last

theorem Safe.fail (safe : Safe handlers) (member : writer ∈ ledger.held) (error : RenderError) :
    Ensures ledger.Upright (writer.fail handlers error)
      fun last => (ledger.holding [last]).Upright :=
  (ensures_take member (.fail writer.segment error) rfl).bind fun _ =>
    (safe.flush _).bind fun _ =>
      Ensures.pure fun _ upright => upright.holds member rfl rfl

theorem Safe.fail_held (safe : Safe handlers) (writer : Writer) (error : RenderError) :
    Ensures (ledger.holding [writer]).Upright (discard (writer.fail handlers error))
      fun _ => ledger.Upright :=
  ((safe.fail (mem_holding writer) error).strengthen fun _ _ upright =>
    upright.drop.drop).discard

/-- A segment that waits has not left. -/
theorem notMem_passed {outlet : Outlet Pending Unit} {audience : Channel → Nat}
    {heard due : List Occasion} {changes : List Change} {number : Nat}
    (comes : outlet.ComesOf audience heard due changes) (isOpen : outlet.Open number) :
    number ∉ outlet.passed := by
  obtain ⟨segment, waiting, rfl, -⟩ := isOpen
  have counted := Outlet.counted_blank.after comes.within
  rw [← comes.became] at counted
  exact fun left => (List.nodup_append.mp counted.nodup).2.2 _ left _
    (List.mem_map_of_mem waiting) rfl

/-- An error that is set stays set. Where the segment waits that keeps it from leaving. -/
theorem Safe.fail_blames (safe : Safe handlers) {error : RenderError} (whole : Prop) :
    Ensures (fun store => (ledger.holding [writer]).Upright store ∧ (whole → store.Leaves writer))
      (discard (writer.fail handlers error)) fun _ store => ∃ outlet changes,
        store.outlets[writer.outlet]? = some outlet ∧
        outlet.ComesOf ledger.audience store.client.occasions (ledger.due writer.outlet) changes ∧
        .fail writer.segment error ∈ changes ∧ (whole → writer.segment ∉ outlet.passed) := by
  refine Ensures.discard ?_
  rintro store last later ⟨upright, leaves⟩ ran
  have lends := upright.held writer (mem_holding writer)
  obtain ⟨outlet, there, within⟩ := lends.holds
  obtain ⟨_, erring, modified, rest⟩ := bind_eq_some.mp ran
  rw [run_modifyOutlet there] at modified
  cases modified
  obtain ⟨_, flushed, delivered, yielded⟩ := bind_eq_some.mp rest
  cases yielded
  let new : Outlet Pending Unit := outlet.take (.fail writer.segment error)
  have present : (store.put writer.outlet new).outlets[writer.outlet]? = some new :=
    Store.put_outlets_self _ _ (Store.lt_size_of_outlet there)
  obtain ⟨⟨more, comes⟩, -⟩ := upright.covers _ _ there
  have changed := upright.take there lends (.fail writer.segment error) rfl
  -- What has become of the outlet is remembered while it is flushed.
  have comesNow : new.ComesOf ledger.audience store.client.occasions (ledger.due writer.outlet)
      (ledger.past writer.outlet ++ more ++ [.fail writer.segment error]) :=
    comes.take (fun number same => by cases same; exact within) rfl
  let remembering : Ledger := { ledger.holding [writer] with
    past := Function.update ledger.past writer.outlet
      (ledger.past writer.outlet ++ more ++ [.fail writer.segment error]) }
  have known : (remembering.alarming writer.outlet).Upright (store.put writer.outlet new) :=
    changed.remembering present comesNow
  have remembered : remembering.Upright later := safe.flush _ _ _ _ known delivered
  obtain ⟨final, thereFinal, -⟩ := (remembered.held writer (mem_holding writer)).holds
  obtain ⟨⟨further, comesFinal⟩, -⟩ := remembered.covers _ _ thereFinal
  simp only [remembering, Function.update_self] at comesFinal
  have failed : Change.fail writer.segment error ∈
      ledger.past writer.outlet ++ more ++ [.fail writer.segment error] :=
    List.mem_append_right _ (List.mem_singleton_self _)
  refine ⟨final, _, thereFinal, comesFinal, List.mem_append_left _ failed, fun waits => ?_⟩
  have stays : writer.segment ∉ outlet.passed := by
    obtain ⟨found, same, isOpen⟩ := leaves waits
    rw [there] at same
    cases same
    exact notMem_passed comes isOpen
  have staysNow : writer.segment ∉ new.passed := stays
  rw [comesFinal.passed]
  exact Outlet.stays_after comesFinal.within failed (comesNow.passed ▸ staysNow)

/-- The branch of a capture that has no result is one of the segments that there are. -/
theorem Upright.branch_within (upright : ledger.Upright store) {watch : Watch}
    (member : watch ∈ ledger.watch) (awaits : watch.Awaits store) :
    ∃ outlet, store.outlets[watch.branch.outlet]? = some outlet ∧
      watch.branch.segment < outlet.nextNumber := by
  obtain ⟨found, text, present, sink⟩ := awaits
  obtain ⟨-, -, outlet, there, segment, waiting, same, -⟩ := upright.waits member present sink
  obtain ⟨⟨more, comes⟩, -⟩ := upright.covers _ _ there
  have counted := Outlet.counted_blank.after comes.within
  rw [← comes.became] at counted
  refine ⟨outlet, there, (counted.mem _).mp (List.mem_append_right _ ?_)⟩
  exact same ▸ List.mem_map_of_mem waiting

theorem run_fork {outlet : Outlet Pending Unit}
    (there : store.outlets[writer.outlet]? = some outlet) :
    writer.fork store =
      some (({ writer with segment := outlet.nextNumber },
        { writer with segment := outlet.nextNumber + 1 }),
        store.put writer.outlet (outlet.fork writer.segment)) := by
  unfold Writer.fork
  rw [run_bind, run_outlet?, Option.bind_some, there]
  simp only
  rw [run_bind, run_modifyOutlet there]
  rfl

/-- A fork yields handles onto the segments that it puts behind the other. -/
theorem ensures_fork (member : writer ∈ ledger.held) :
    Ensures ledger.Upright writer.fork
      fun handles => (ledger.holding [handles.1, handles.2]).Upright := by
  intro store result later upright ran
  obtain ⟨outlet, there, -⟩ := (upright.held writer member).holds
  have forked := keeps_take member (.fork writer.segment) rfl rfl store () _ upright
    (run_modifyOutlet there _)
  rw [run_fork there] at ran
  cases ran
  have here := Store.put_outlets_self store (outlet.fork writer.segment)
    (Store.lt_size_of_outlet there)
  have new : ∀ number, outlet.nextNumber ≤ number → number < outlet.nextNumber + 2 →
      ledger.Lends (store.put writer.outlet (outlet.fork writer.segment))
        { writer with segment := number } := by
    intro number beyond within
    refine ⟨⟨_, here, within⟩, fun watch member awaits branch same => ?_⟩
    have alike : outlet.sink.Alike (outlet.fork writer.segment).sink := alike_refl _
    obtain ⟨found, present, bound⟩ := upright.branch_within member
      ((awaits_put there alike).mp awaits)
    rw [← show writer.outlet = watch.branch.outlet from branch, there] at present
    cases present
    exact absurd bound (Nat.not_lt.mpr (same ▸ beyond))
  refine upright_holding.mpr ⟨forked, fun handle listed => ?_⟩
  rcases List.mem_pair.mp listed with rfl | rfl
  · exact new _ (Nat.le_refl _) (Nat.lt_add_of_pos_right Nat.two_pos)
  · exact new _ (Nat.le_succ _) (Nat.lt_succ_self _)

theorem holds_open (outlet : Outlet Pending Unit) (holds : store.Holds writer) :
    (store.open outlet).Holds writer := by
  obtain ⟨found, there, within⟩ := holds
  exact ⟨found, Store.open_outlets_of_some there, within⟩

/-- An outlet of a store in which one was opened. -/
theorem open_split {new found : Outlet Pending Unit} {id : OutletId}
    (present : (store.open new).outlets[id]? = some found) :
    id = store.outlets.size ∧ found = new ∨ store.outlets[id]? = some found := by
  rw [Store.open, Array.getElem?_push] at present
  split at present
  · cases present
    exact .inl ⟨‹_›, rfl⟩
  · exact .inr present

theorem captures_open {new : Outlet Pending Unit} (none : new.sink.complete? = none) :
    (store.open new).captures = store.captures := by
  have old : ∀ id ∈ List.range store.outlets.size,
      (store.open new).captured? id = store.captured? id := by
    intro id member
    have bound := List.mem_range.mp member
    unfold Store.captured?
    rw [Store.open, Array.getElem?_push_lt bound, Array.getElem?_eq_getElem bound]
  have last : (store.open new).captured? store.outlets.size = Option.none := by
    unfold Store.captured?
    rw [Store.open_outlets_self]
    split
    · rfl
    · exact none
  have size : (store.open new).outlets.size = store.outlets.size + 1 := by simp [Store.open]
  rw [Store.captures, size, List.range_succ, List.filterMap_append, List.filterMap_congr old,
    Store.captures]
  simp [last]

section

variable {watch : Watch}

theorem Watched.awaits_of_open (watched : ledger.Watched watch store)
    {new : Outlet Pending Unit} (awaits : watch.Awaits (store.open new)) : watch.Awaits store := by
  obtain ⟨found, text, present, waits⟩ := awaits
  rcases watched.state with ⟨before, -⟩ | ⟨_, ⟨old, _, there, come⟩, -⟩
  · exact before
  · rw [Store.open_outlets_of_some there] at present
    cases present
    exact nomatch waits.symm.trans come

/-- A capture goes on as it did when another outlet is opened. -/
theorem Watched.open (watched : ledger.Watched watch store) (new : Outlet Pending Unit) :
    ledger.Watched watch (store.open new) := by
  refine ⟨watched.apart, ?_⟩
  rcases watched.state with ⟨⟨found, text, present, waits⟩, idle, outlet, there, isOpen⟩ |
    ⟨result, ⟨found, text, present, come⟩, last, blamed⟩
  · exact .inl ⟨⟨found, text, Store.open_outlets_of_some present, waits⟩, idle, outlet,
      Store.open_outlets_of_some there, isOpen⟩
  · refine .inr ⟨result, ⟨found, text, Store.open_outlets_of_some present, come⟩, last,
      fun idle => (blamed idle).goOn fun branch _ outlet there =>
        ⟨outlet, Store.open_outlets_of_some there, fun changes comes => ⟨[], ?_⟩⟩⟩
    rwa [List.append_nil]

end

/-- A new outlet has seen no changes. -/
theorem Upright.opening (upright : ledger.Upright store) (sink : Sink Pending Unit)
    (knows : sink.Knows ledger.audience store.client.occasions [] [])
    (stream : ∀ listeners, sink = .stream listeners → store.outlets.size = 0 ∧
      ledger.streams = true ∧ ∀ channel, (listeners.on channel).length = ledger.ears channel)
    (collect : ∀ text result onResult, sink = .collect text result onResult →
      ¬ (store.outlets.size = 0 ∧ ledger.streams = true))
    (awaited : ∀ text onResult, sink = .collect text none onResult →
      if store.outlets.size = 0 then onResult = none ∨ onResult = some .answer
      else ∃ branch name following followed,
        onResult = some (.capture branch name following followed))
    (unresolved : ∀ text result onResult, sink ≠ .collect text (some result) onResult)
    (writers : ∀ writer ∈ sink.writers, ledger.Lends store writer) :
    (ledger.holding [Writer.onOutlet store.outlets.size]).Upright
      (store.open (Outlet.opened sink)) := by
  obtain ⟨past, idle⟩ := upright.beyond _ (Nat.le_refl store.outlets.size)
  obtain ⟨nothing, -⟩ := upright.rests _ idle
  have still : ∀ {writer}, store.Holds writer → (store.open (Outlet.opened sink)).Holds writer :=
    holds_open _
  have awaits : ∀ watch ∈ ledger.watch, watch.Awaits (store.open (Outlet.opened sink)) →
      watch.Awaits store :=
    fun watch member => (upright.watched watch member).awaits_of_open
  have lends : ∀ {writer}, ledger.Lends store writer →
      ledger.Lends (store.open (Outlet.opened sink)) writer :=
    fun lends => lends.goOn still rfl awaits
  have none : sink.complete? = none := by
    rcases sink with ⟨text, _ | result, onResult⟩ | listeners
    · rfl
    · exact absurd rfl (unresolved text result onResult)
    · rfl
  refine upright_holding.mpr ⟨⟨fun id outlet there => ?_, upright.rests, fun id far => ?_,
    fun entry member => lends (upright.handles entry member), fun id outlet there => ?_,
    fun writer member => lends (upright.held writer member), ?_, fun watch member => ?_⟩,
    fun writer member => ?_⟩
  · rcases open_split there with ⟨rfl, rfl⟩ | old
    · refine ⟨⟨[], ?_⟩, idle.symm, .inr (.inr Outlet.settled_blank), stream, collect, awaited,
        fun text result onResult same => absurd same (unresolved text result onResult)⟩
      rw [past]
      exact ⟨trivial, rfl, by rw [nothing]; exact knows⟩
    · exact upright.covers id outlet old
  · rw [Store.open, Array.size_push] at far
    exact upright.beyond id (Nat.le_of_succ_le far)
  · intro writer member
    rcases open_split there with ⟨rfl, rfl⟩ | old
    · have lent := lends (writers writer member)
      exact ⟨lent.holds, fun watch here _ => lent.spares watch here⟩
    · obtain ⟨holds, spares⟩ := upright.sinks id outlet old writer member
      exact ⟨still holds, fun watch here elsewhere waits =>
        spares watch here elsewhere (awaits watch here waits)⟩
  · rw [captures_open none]
    exact upright.taken
  · have watched := (upright.watched watch member).open (Outlet.opened sink)
    exact ⟨watched.apart, watched.state⟩
  · rw [List.mem_singleton.mp member]
    refine ⟨⟨Outlet.opened sink, Store.open_outlets_self .., Nat.one_pos⟩,
      fun watch here waits branch => ?_⟩
    obtain ⟨outlet, there, -⟩ := upright.branch_within here (awaits watch here waits)
    have bound := Store.lt_size_of_outlet there
    exact absurd bound (branch ▸ Nat.lt_irrefl _)

/-- An outlet that gathers is opened for a continuation with a handle in use. -/
theorem ensures_openOutlet {branch : Writer} {name : String} {following : List Operation}
    {followed : Except RenderError String} (member : branch ∈ ledger.held) :
    Ensures ledger.Upright
      (openOutlet (.collect "" none (some (.capture branch name following followed))))
      fun id => (ledger.holding [Writer.onOutlet id]).Upright := by
  intro store id later upright ran
  rw [run_openOutlet] at ran
  cases ran
  have lends := upright.held branch member
  obtain ⟨outlet, there, -⟩ := lends.holds
  have some : store.outlets.size ≠ 0 := fun zero =>
    Nat.not_lt_zero _ (zero ▸ Store.lt_size_of_outlet there)
  refine upright.opening _ ⟨[], rfl, rfl⟩ (fun _ same => nomatch same)
    (fun _ _ _ _ first => some first.1) (fun _ _ same => ?_) (fun _ _ _ same => nomatch same)
    fun writer same => List.mem_singleton.mp same ▸ lends
  cases same
  rw [if_neg some]
  exact ⟨_, _, _, _, rfl⟩

def Yields (ledger : Ledger) : Except RenderError Writer → Store Pending Unit Desk → Prop
  | .ok last => (ledger.holding [last]).Upright
  | .error _ => ledger.Upright

theorem Safe.capture (safe : Safe handlers) (member : writer ∈ ledger.held)
    {render : Writer → Desk.Work (Except RenderError Writer)} {name : String}
    {following : List Operation} {followed : Except RenderError String}
    (rendering : ∀ (ledger : Ledger) first,
      Ensures (ledger.holding [first]).Upright (render first) ledger.Yields) :
    Ensures ledger.Upright
      (writer.capture handlers render fun branch => .capture branch name following followed)
      fun next => (ledger.holding [next]).Upright := by
  refine (ensures_fork member).bind fun handles => ?_
  let forked := ledger.holding [handles.1, handles.2]
  have opened : Ensures forked.Upright
      (openOutlet (.collect "" none (some (.capture handles.1 name following followed))))
      fun id => (forked.holding [Writer.onOutlet id]).Upright :=
    ensures_openOutlet List.mem_cons_self
  refine opened.bind fun id => ?_
  let inner := forked.holding [Writer.onOutlet id]
  have rendered : Ensures inner.Upright (render (Writer.onOutlet id)) inner.Yields :=
    (rendering inner (Writer.onOutlet id)).weaken fun _ upright =>
      upright.holds (mem_holding _) rfl rfl
  have ending : Ensures forked.Upright (pure handles.2) fun next =>
      (ledger.holding [next]).Upright :=
    Ensures.pure fun _ upright => upright.swap (by simp)
  refine rendered.bind fun result => ?_
  cases result with
  | ok last =>
      exact (safe.finish_held last).bind fun _ => ending.weaken fun _ upright => upright.drop
  | error error => exact (safe.fail_held (Writer.onOutlet id) error).bind fun _ => ending

end Ledger

end BraceTemplate.Output
