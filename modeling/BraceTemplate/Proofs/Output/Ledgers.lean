import BraceTemplate.Proofs.Output.Reacting

/-!
# What is known of a run

A store changes by one outlet at a time. What is known of the others stays known, and so does what
is known of a capture: the branch is as open as before while it is sealed, and an error that was set
on it stays set.
-/

namespace BraceTemplate.Output

theorem Outlet.ComesOf.passed {audience : Channel → Nat} {heard due : List Occasion}
    {changes : List Change} {outlet : Outlet Pending Unit}
    (comes : outlet.ComesOf audience heard due changes) :
    outlet.passed = (Outlet.blank.after changes).passed :=
  congrArg Outlet.passed comes.became

namespace Ledger

variable {ledger later : Ledger} {id other : OutletId} {store after : Store Pending Unit Desk}
variable {outlet new : Outlet Pending Unit} {heard : List Occasion} {writers : List Writer}
variable {writer : Writer} {watch : Watch} {pending : Pending}
variable {result : Except RenderError String}

/-! ## Ledgers -/

/-- What is kept is the same, except about one outlet. -/
structure Beside (ledger later : Ledger) (id : OutletId) : Prop where
  past : later.past = ledger.past
  held : later.held = ledger.held
  streams : later.streams = ledger.streams
  audience : later.audience = ledger.audience
  unheard : later.unheard = ledger.unheard
  watch : later.watch = ledger.watch
  acting : later.acting = ledger.acting
  busy : ∀ other, other ≠ id → later.busy other = ledger.busy other
  alarm : ∀ other, other ≠ id → later.alarm other = ledger.alarm other
  due : ∀ other, other ≠ id → later.due other = ledger.due other
  ears : id ≠ 0 → later.ears = ledger.ears

theorem Beside.symm (beside : ledger.Beside later id) : later.Beside ledger id :=
  ⟨beside.past.symm, beside.held.symm, beside.streams.symm, beside.audience.symm,
    beside.unheard.symm, beside.watch.symm, beside.acting.symm,
    fun other different => (beside.busy other different).symm,
    fun other different => (beside.alarm other different).symm,
    fun other different => (beside.due other different).symm,
    fun first => (beside.ears first).symm⟩

theorem Beside.trans {last : Ledger} (beside : ledger.Beside later id)
    (further : later.Beside last id) : ledger.Beside last id :=
  ⟨further.past.trans beside.past, further.held.trans beside.held,
    further.streams.trans beside.streams, further.audience.trans beside.audience,
    further.unheard.trans beside.unheard, further.watch.trans beside.watch,
    further.acting.trans beside.acting,
    fun other different => (further.busy other different).trans (beside.busy other different),
    fun other different => (further.alarm other different).trans (beside.alarm other different),
    fun other different => (further.due other different).trans (beside.due other different),
    fun first => (further.ears first).trans (beside.ears first)⟩

theorem beside_entering (ledger : Ledger) (id : OutletId) :
    ledger.Beside (ledger.entering id) id :=
  ⟨rfl, rfl, rfl, rfl, rfl, rfl, rfl, fun _ different => Function.update_of_ne different _ _,
    fun _ _ => rfl, fun _ _ => rfl, fun _ => rfl⟩

theorem beside_alarming (ledger : Ledger) (id : OutletId) :
    ledger.Beside (ledger.alarming id) id :=
  ⟨rfl, rfl, rfl, rfl, rfl, rfl, rfl, fun _ _ => rfl,
    fun _ different => Function.update_of_ne different _ _, fun _ _ => rfl, fun _ => rfl⟩

theorem beside_owing (ledger : Ledger) (id : OutletId) (due : List Occasion) :
    ledger.Beside (ledger.owing id due) id :=
  ⟨rfl, rfl, rfl, rfl, rfl, rfl, rfl, fun _ _ => rfl, fun _ _ => rfl,
    fun _ different => Function.update_of_ne different _ _, fun _ => rfl⟩

theorem beside_hushing (ledger : Ledger) (channel : Channel) :
    ledger.Beside (ledger.hushing channel) 0 :=
  ⟨rfl, rfl, rfl, rfl, rfl, rfl, rfl, fun _ _ => rfl, fun _ _ => rfl, fun _ _ => rfl,
    fun first => absurd rfl first⟩

theorem due_owing (ledger : Ledger) (id : OutletId) (due : List Occasion) :
    (ledger.owing id due).due id = due :=
  Function.update_self ..

theorem busy_entering (ledger : Ledger) (id : OutletId) : (ledger.entering id).busy id = true :=
  Function.update_self ..

theorem alarm_alarming (ledger : Ledger) (id : OutletId) :
    (ledger.alarming id).alarm id = true :=
  Function.update_self ..

@[simp]
theorem owing_owing (ledger : Ledger) (id : OutletId) (first second : List Occasion) :
    (ledger.owing id first).owing id second = ledger.owing id second := by
  simp [owing]

theorem owing_self (nothing : ledger.due id = heard) : ledger.owing id heard = ledger := by
  simp [owing, ← nothing]

theorem rests_of_busy (busy : ledger.busy id = true) : ledger.RestsAt id :=
  fun idle => nomatch busy.symm.trans idle

/-! ## Other outlets -/

theorem Covers.beside (covers : ledger.Covers heard other outlet) (different : other ≠ id)
    (beside : ledger.Beside later id) : later.Covers heard other outlet := by
  obtain ⟨course, busy, settled, stream, collect, awaited, resolved⟩ := covers
  refine ⟨?_, ?_, ?_, fun listeners streams => ?_, ?_, awaited, resolved⟩
  · rwa [beside.past, beside.audience, beside.due other different]
  · rwa [beside.busy other different]
  · rwa [beside.alarm other different]
  · obtain ⟨first, streaming, ears⟩ := stream listeners streams
    rw [beside.streams, beside.ears fun same => different (first.trans same.symm)]
    exact ⟨first, streaming, ears⟩
  · rwa [beside.streams]

theorem RestsAt.beside (rests : ledger.RestsAt other) (different : other ≠ id)
    (beside : ledger.Beside later id) : later.RestsAt other := by
  intro idle
  rw [beside.busy other different] at idle
  obtain ⟨nothing, eager⟩ := rests idle
  refine ⟨(beside.due other different).trans nothing, fun first => ?_⟩
  rw [beside.ears fun zero => different (first.trans zero.symm), beside.audience]
  exact eager first

/-- Segments that are there stay there. -/
theorem holds_put {writer : Writer} (there : store.outlets[id]? = some outlet)
    (numbers : outlet.nextNumber ≤ new.nextNumber) (holds : store.Holds writer) :
    (store.put id new).Holds writer := by
  obtain ⟨found, present, within⟩ := holds
  by_cases same : writer.outlet = id
  · subst same
    rw [there] at present
    cases present
    exact ⟨new, Store.put_outlets_self _ _ (Store.lt_size_of_outlet there),
      Nat.lt_of_lt_of_le within numbers⟩
  · exact ⟨found, (Store.put_outlets_of_ne _ _ (Ne.symm same)).trans present, within⟩

/-- An outlet of a store in which one was replaced. -/
theorem put_split (there : store.outlets[id]? = some outlet) {found : Outlet Pending Unit}
    (present : (store.put id new).outlets[other]? = some found) :
    other = id ∧ found = new ∨ other ≠ id ∧ store.outlets[other]? = some found := by
  by_cases same : other = id
  · subst same
    rw [Store.put_outlets_self _ _ (Store.lt_size_of_outlet there)] at present
    cases present
    exact .inl ⟨rfl, rfl⟩
  · rw [Store.put_outlets_of_ne _ _ (Ne.symm same)] at present
    exact .inr ⟨same, present⟩

/-! ## One outlet that changes -/

/-- An outlet goes on from what it was: all that led to it leads, with more, to the new one. -/
def GoesOn (ledger later : Ledger) (heard : List Occasion) (id : OutletId)
    (outlet new : Outlet Pending Unit) : Prop :=
  ∀ changes, outlet.ComesOf ledger.audience heard (ledger.due id) changes →
    ∃ more, new.ComesOf later.audience heard (later.due id) (changes ++ more)

theorem GoesOn.elsewhere (beside : ledger.Beside later id) (different : other ≠ id) :
    ledger.GoesOn later heard other outlet outlet := by
  intro changes comes
  refine ⟨[], ?_⟩
  rwa [List.append_nil, beside.audience, beside.due other different]

/-- All that is known of the course of an outlet is known of what it goes on to. -/
theorem Covers.course_goOn (covers : ledger.Covers heard id outlet)
    (past : later.past = ledger.past) (goesOn : ledger.GoesOn later heard id outlet new) :
    ∃ more, new.ComesOf later.audience heard (later.due id) (later.past id ++ more) := by
  obtain ⟨more, comes⟩ := covers.course
  obtain ⟨further, comesLater⟩ := goesOn _ comes
  refine ⟨more ++ further, ?_⟩
  rwa [past, ← List.append_assoc]

/-- What is known of all outlets is known of them when one is replaced. -/
theorem covers_put (there : store.outlets[id]? = some outlet) (beside : ledger.Beside later id)
    (covers : ∀ other found, store.outlets[other]? = some found → ledger.Covers heard other found)
    (here : later.Covers heard id new) {found : Outlet Pending Unit}
    (present : (store.put id new).outlets[other]? = some found) :
    later.Covers heard other found := by
  rcases put_split there present with ⟨rfl, rfl⟩ | ⟨different, old⟩
  · exact here
  · exact (covers other found old).beside different beside

theorem rests_beside (beside : ledger.Beside later id) (rests : ∀ other, ledger.RestsAt other)
    (here : later.RestsAt id) (other : OutletId) : later.RestsAt other := by
  by_cases same : other = id
  · exact same ▸ here
  · exact (rests other).beside same beside

/-- An outlet may take the place of another. -/
structure Becomes (ledger later : Ledger) (store : Store Pending Unit Desk) (id : OutletId)
    (outlet new : Outlet Pending Unit) : Prop where
  alike : outlet.sink.Alike new.sink
  goesOn : ledger.GoesOn later store.client.occasions id outlet new
  busy : new.flushing = later.busy id
  settled : later.alarm id = true ∨ (new.flushing = true ∧ new.again = true) ∨ new.Settled
  finished : outlet.finished = true → new.finished = true
  numbers : outlet.nextNumber ≤ new.nextNumber
  stream : ∀ listeners, new.sink = .stream listeners →
    ∀ channel, (listeners.on channel).length = later.ears channel
  rests : later.RestsAt id
  opens : ∀ watch ∈ ledger.watch, watch.Awaits store → id = watch.branch.outlet →
    outlet.Open watch.branch.segment → new.Open watch.branch.segment

theorem alike_refl (sink : Sink Pending Unit) : sink.Alike sink := by
  cases sink with
  | collect text result onResult => exact ⟨rfl, rfl⟩
  | stream listeners => trivial

section

variable {sink last : Sink Pending Unit} {text : String}
  {had : Option (Except RenderError String)} {onResult : Option Pending}

theorem alike_collect_left (alike : sink.Alike last) (here : sink = .collect text had onResult) :
    ∃ text, last = .collect text had onResult := by
  subst here
  cases last with
  | collect other result onOther =>
      obtain ⟨rfl, rfl⟩ := alike
      exact ⟨other, rfl⟩
  | stream listeners => exact alike.elim

theorem alike_collect_right (alike : sink.Alike last) (here : last = .collect text had onResult) :
    ∃ text, sink = .collect text had onResult := by
  subst here
  cases sink with
  | collect other result onOther =>
      obtain ⟨rfl, rfl⟩ := alike
      exact ⟨other, rfl⟩
  | stream listeners => exact alike.elim

theorem alike_stream {listeners : Listeners Unit} (alike : sink.Alike last)
    (here : last = .stream listeners) : ∃ listeners, sink = .stream listeners := by
  subst here
  cases sink with
  | collect other result onOther => exact alike.elim
  | stream listeners => exact ⟨listeners, rfl⟩

theorem writers_of_alike (alike : sink.Alike last) : last.writers = sink.writers := by
  cases sink with
  | collect text result onResult =>
      obtain ⟨text, rfl⟩ := alike_collect_left alike rfl
      rfl
  | stream listeners =>
      cases last with
      | collect text result onResult => exact alike.elim
      | stream others => rfl

theorem complete_of_alike (alike : sink.Alike last) : last.complete? = sink.complete? := by
  cases sink with
  | collect text result onResult =>
      obtain ⟨other, rfl⟩ := alike_collect_left alike rfl
      rcases result with _ | _ | _ <;> rfl
  | stream listeners =>
      cases last with
      | collect text result onResult => exact alike.elim
      | stream others => rfl

end

/-- What is known of an outlet is known of one that takes its place. -/
theorem Covers.becomes (covers : ledger.Covers store.client.occasions id outlet)
    (beside : ledger.Beside later id) (becomes : ledger.Becomes later store id outlet new) :
    later.Covers store.client.occasions id new := by
  refine ⟨covers.course_goOn beside.past becomes.goesOn, becomes.busy, becomes.settled,
    fun listeners same => ?_, fun text result onResult same => ?_, fun text onResult same => ?_,
    fun text result onResult same => ?_⟩
  · obtain ⟨others, before⟩ := alike_stream becomes.alike same
    obtain ⟨first, streaming, -⟩ := covers.stream others before
    exact ⟨first, beside.streams.trans streaming, becomes.stream listeners same⟩
  · obtain ⟨other, before⟩ := alike_collect_right becomes.alike same
    rw [beside.streams]
    exact covers.collect other result onResult before
  · obtain ⟨other, before⟩ := alike_collect_right becomes.alike same
    exact covers.awaited other onResult before
  · obtain ⟨other, before⟩ := alike_collect_right becomes.alike same
    exact becomes.finished (covers.resolved other result onResult before)

theorem awaits_put (there : store.outlets[id]? = some outlet)
    (alike : outlet.sink.Alike new.sink) :
    watch.Awaits (store.put id new) ↔ watch.Awaits store := by
  constructor
  · rintro ⟨found, text, present, sink⟩
    rcases put_split there present with ⟨same, rfl⟩ | ⟨-, old⟩
    · obtain ⟨other, before⟩ := alike_collect_right alike sink
      exact ⟨outlet, other, same ▸ there, before⟩
    · exact ⟨found, text, old, sink⟩
  · rintro ⟨found, text, present, sink⟩
    by_cases same : watch.stub = id
    · subst same
      rw [there] at present
      cases present
      obtain ⟨other, now⟩ := alike_collect_left alike sink
      exact ⟨new, other, Store.put_outlets_self _ _ (Store.lt_size_of_outlet there), now⟩
    · exact ⟨found, text, (Store.put_outlets_of_ne _ _ (Ne.symm same)).trans present, sink⟩

/-- A handle that is used may still be used where segments are there as before, and captures have no
result that had none. -/
theorem Lends.goOn (lends : ledger.Lends store writer)
    (holds : store.Holds writer → after.Holds writer) (watch : later.watch = ledger.watch)
    (awaits : ∀ watch ∈ ledger.watch, watch.Awaits after → watch.Awaits store) :
    later.Lends after writer :=
  ⟨holds lends.holds, fun found member waits =>
    lends.spares found (watch ▸ member) (awaits found (watch ▸ member) waits)⟩

theorem Lends.of_outlets (lends : ledger.Lends store writer)
    (outlets : after.outlets = store.outlets) (watch : later.watch = ledger.watch) :
    later.Lends after writer := by
  refine lends.goOn (fun holds => ?_) watch fun found _ waits => ?_
  · unfold Store.Holds at holds ⊢
    rwa [outlets]
  · unfold Watch.Awaits at waits ⊢
    rwa [outlets] at waits

/-- An error that was set stays set while its outlet goes on. -/
theorem Blamed.goOn (blamed : ledger.Blamed pending result store)
    (goesOn : ∀ branch ∈ pending.writers, ∀ outlet, store.outlets[branch.outlet]? = some outlet →
      ∃ new, after.outlets[branch.outlet]? = some new ∧
        ∀ changes, outlet.ComesOf ledger.audience store.client.occasions
          (ledger.due branch.outlet) changes → ∃ more, new.ComesOf later.audience
            after.client.occasions (later.due branch.outlet) (changes ++ more)) :
    later.Blamed pending result after := by
  intro branch member error here
  obtain ⟨outlet, changes, there, comes, failed, stays⟩ := blamed branch member error here
  obtain ⟨new, present, goes⟩ := goesOn branch member outlet there
  obtain ⟨more, comesLater⟩ := goes changes comes
  refine ⟨new, changes ++ more, present, comesLater, List.mem_append_left _ failed, fun same => ?_⟩
  rw [comesLater.passed]
  exact Outlet.stays_after comesLater.within failed (comes.passed ▸ stays same)

theorem Blamed.put (blamed : ledger.Blamed pending result store)
    (there : store.outlets[id]? = some outlet) (beside : ledger.Beside later id)
    (goesOn : ledger.GoesOn later store.client.occasions id outlet new) :
    later.Blamed pending result (store.put id new) := by
  refine blamed.goOn fun branch _ found present => ?_
  by_cases same : branch.outlet = id
  · subst same
    rw [there] at present
    cases present
    exact ⟨new, Store.put_outlets_self _ _ (Store.lt_size_of_outlet there), goesOn⟩
  · exact ⟨found, (Store.put_outlets_of_ne _ _ (Ne.symm same)).trans present,
      GoesOn.elsewhere beside same⟩

theorem leaves_put (there : store.outlets[id]? = some outlet)
    (opens : id = writer.outlet → outlet.Open writer.segment → new.Open writer.segment)
    (leaves : store.Leaves writer) : (store.put id new).Leaves writer := by
  obtain ⟨found, present, isOpen⟩ := leaves
  by_cases same : writer.outlet = id
  · subst same
    rw [there] at present
    cases present
    exact ⟨new, Store.put_outlets_self _ _ (Store.lt_size_of_outlet there), opens rfl isOpen⟩
  · exact ⟨found, (Store.put_outlets_of_ne _ _ (Ne.symm same)).trans present, isOpen⟩

theorem Watched.put (watched : ledger.Watched watch store) (member : watch ∈ ledger.watch)
    (there : store.outlets[id]? = some outlet) (beside : ledger.Beside later id)
    (becomes : ledger.Becomes later store id outlet new) :
    later.Watched watch (store.put id new) := by
  refine ⟨watched.apart, ?_⟩
  rcases watched.state with ⟨awaits, idle, leaves⟩ |
    ⟨result, ⟨found, text, present, sink⟩, same, blamed⟩
  · refine .inl ⟨(awaits_put there becomes.alike).mpr awaits, beside.acting.trans idle, ?_⟩
    exact leaves_put there (becomes.opens watch member awaits) leaves
  · refine .inr ⟨result, ?_, ?_, fun idle => ?_⟩
    · by_cases here : watch.stub = id
      · subst here
        rw [there] at present
        cases present
        obtain ⟨other, now⟩ := alike_collect_left becomes.alike sink
        exact ⟨new, other, Store.put_outlets_self _ _ (Store.lt_size_of_outlet there), now⟩
      · exact ⟨found, text, (Store.put_outlets_of_ne _ _ (Ne.symm here)).trans present, sink⟩
    · rwa [beside.acting]
    · exact (blamed (beside.acting ▸ idle)).put there beside becomes.goesOn

theorem captures_congr (size : after.outlets.size = store.outlets.size)
    (same : ∀ id, after.captured? id = store.captured? id) : after.captures = store.captures := by
  rw [Store.captures, Store.captures, size, show after.captured? = store.captured? from funext same]

/-- A text that an outlet has come to is one more. -/
theorem captures_put (there : store.outlets[id]? = some outlet)
    (none : outlet.sink.complete? = none) :
    (store.put id new).captures.Perm
      ((if id = 0 then [] else new.sink.complete?.toList) ++ store.captures) := by
  have bound := Store.lt_size_of_outlet there
  have elsewhere : ∀ other, other ≠ id →
      (store.put id new).captured? other = store.captured? other := fun other different => by
    unfold Store.captured?
    rw [Store.put_outlets_of_ne _ _ (Ne.symm different)]
  have here : (store.put id new).captured? id =
      if id = 0 then Option.none else new.sink.complete? := by
    unfold Store.captured?
    rw [Store.put_outlets_self _ _ bound]
    rfl
  have before : store.captured? id = Option.none := by
    unfold Store.captured?
    rw [there]
    split
    · rfl
    · exact none
  obtain ⟨first, rest, split⟩ := List.append_of_mem (List.mem_range.mpr bound)
  have once : (first ++ id :: rest).Nodup := split ▸ List.nodup_range
  have notFirst : ∀ other ∈ first, other ≠ id := fun other member same =>
    (List.nodup_append.mp once).2.2 other member id List.mem_cons_self same
  have notRest : ∀ other ∈ rest, other ≠ id := fun other member same =>
    (List.nodup_cons.mp (List.nodup_append.mp once).2.1).1 (same ▸ member)
  have sameFirst : first.filterMap (store.put id new).captured? = first.filterMap store.captured? :=
    List.filterMap_congr fun other member => elsewhere other (notFirst other member)
  have sameRest : rest.filterMap (store.put id new).captured? = rest.filterMap store.captured? :=
    List.filterMap_congr fun other member => elsewhere other (notRest other member)
  rw [Store.captures, Store.captures, Store.put_outlets_size, split, List.filterMap_append,
    List.filterMap_append, List.filterMap_cons, List.filterMap_cons, sameFirst, sameRest, here,
    before]
  by_cases zero : id = 0
  · simp [zero]
  · cases text : new.sink.complete? with
    | none => simp [zero]
    | some text => simp [zero]

/-! ## Stores -/

/-- An outlet is replaced by one that may take its place. -/
theorem Upright.put (upright : ledger.Upright store) (there : store.outlets[id]? = some outlet)
    (beside : ledger.Beside later id) (becomes : ledger.Becomes later store id outlet new) :
    later.Upright (store.put id new) := by
  have bound := Store.lt_size_of_outlet there
  have still : ∀ {writer}, store.Holds writer → (store.put id new).Holds writer :=
    holds_put there becomes.numbers
  have awaits : ∀ {watch : Watch}, watch.Awaits (store.put id new) → watch.Awaits store :=
    (awaits_put there becomes.alike).mp
  have lends : ∀ {writer}, ledger.Lends store writer → later.Lends (store.put id new) writer :=
    fun lends => lends.goOn still beside.watch fun _ _ => awaits
  refine ⟨fun other found present => ?_, rests_beside beside upright.rests becomes.rests,
    fun other far => ?_, fun entry member => lends (upright.handles entry member),
    fun other found present writer member => ?_,
    fun writer member => lends (upright.held writer (beside.held ▸ member)), ?_,
    fun watch member => ?_⟩
  · have here := (upright.covers _ _ there).becomes beside becomes
    exact covers_put there beside upright.covers here present
  · rw [Store.put_outlets_size] at far
    have different : other ≠ id := fun same => absurd (same ▸ bound) (Nat.not_lt.mpr far)
    rw [beside.past, beside.busy other different]
    exact upright.beyond other far
  · have before : ∃ last, store.outlets[other]? = some last ∧ writer ∈ last.sink.writers := by
      rcases put_split there present with ⟨rfl, rfl⟩ | ⟨-, old⟩
      · exact ⟨outlet, there, writers_of_alike becomes.alike ▸ member⟩
      · exact ⟨found, old, member⟩
    obtain ⟨last, old, writes⟩ := before
    obtain ⟨holds, spares⟩ := upright.sinks other last old writer writes
    exact ⟨still holds, fun watch member elsewhere waits =>
      spares watch (beside.watch ▸ member) elsewhere (awaits waits)⟩
  · rw [beside.unheard, captures_congr (Store.put_outlets_size ..) fun other => ?_]
    · exact upright.taken
    · unfold Store.captured?
      by_cases same : other = id
      · subst same
        rw [Store.put_outlets_self _ _ bound, there, Option.bind_some, Option.bind_some,
          complete_of_alike becomes.alike]
      · rw [Store.put_outlets_of_ne _ _ (Ne.symm same)]
  · rw [beside.watch] at member
    exact (upright.watched watch member).put member there beside becomes

theorem Upright.using (upright : ledger.Upright store) {held : List Writer}
    (lends : ∀ writer ∈ held, ledger.Lends store writer) :
    ({ ledger with held := held } : Ledger).Upright store :=
  ⟨fun id outlet there =>
      have covers := upright.covers id outlet there
      ⟨covers.course, covers.busy, covers.settled, covers.stream, covers.collect, covers.awaited,
        covers.resolved⟩,
    upright.rests, upright.beyond,
    fun entry member => (upright.handles entry member).of_outlets rfl rfl,
    upright.sinks, fun writer member => (lends writer member).of_outlets rfl rfl,
    upright.taken, fun watch member =>
      ⟨(upright.watched watch member).apart, (upright.watched watch member).state⟩⟩

theorem upright_holding :
    (ledger.holding writers).Upright store ↔
      ledger.Upright store ∧ ∀ writer ∈ writers, ledger.Lends store writer := by
  constructor
  · intro upright
    have lends : ∀ writer ∈ writers ++ ledger.held, ledger.Lends store writer :=
      fun writer member => (upright.held writer member).of_outlets rfl rfl
    have dropped : ({ ledger.holding writers with held := ledger.held } : Ledger).Upright store :=
      upright.using fun writer member => upright.held writer (List.mem_append_right _ member)
    exact ⟨dropped, fun writer member => lends writer (List.mem_append_left _ member)⟩
  · rintro ⟨upright, lends⟩
    refine upright.using fun writer member => ?_
    exact (List.mem_append.mp member).elim (lends writer) (upright.held writer)

theorem Upright.drop (upright : (ledger.holding writers).Upright store) : ledger.Upright store :=
  (upright_holding.mp upright).1

/-- A handle onto the same segment as another. -/
theorem Lends.of_same {last : Writer} (lends : ledger.Lends store writer)
    (segment : last.segment = writer.segment) (outlet : last.outlet = writer.outlet) :
    ledger.Lends store last := by
  obtain ⟨holds, spares⟩ := lends
  unfold Store.Holds Watch.Spares at *
  rw [← segment, ← outlet] at holds
  simp only [← segment, ← outlet] at spares
  exact ⟨holds, spares⟩

theorem Upright.holds {last : Writer} (upright : ledger.Upright store)
    (member : writer ∈ ledger.held) (segment : last.segment = writer.segment)
    (outlet : last.outlet = writer.outlet) : (ledger.holding [last]).Upright store := by
  refine upright_holding.mpr ⟨upright, fun other present => ?_⟩
  rw [List.mem_singleton.mp present]
  exact (upright.held writer member).of_same segment outlet

/-- A handle that was kept back is in use again. -/
theorem Upright.swap (upright : (ledger.holding writers).Upright store) {others : List Writer}
    (among : ∀ writer ∈ others, writer ∈ writers ++ ledger.held) :
    (ledger.holding others).Upright store :=
  upright_holding.mpr ⟨upright.drop, fun writer member =>
    have lends := upright.held writer (among writer member)
    lends.of_outlets rfl rfl⟩

/-- Something else may be kept about outlets and about the capture. -/
theorem Upright.revised (upright : ledger.Upright store) {past : OutletId → List Change}
    {alarm : OutletId → Bool} {acting : Option (Except RenderError String)}
    (course : ∀ (id : OutletId) (outlet : Outlet Pending Unit), store.outlets[id]? = some outlet →
      ∃ more, outlet.ComesOf ledger.audience store.client.occasions (ledger.due id)
        (past id ++ more))
    (settled : ∀ (id : OutletId) (outlet : Outlet Pending Unit), store.outlets[id]? = some outlet →
      alarm id = true ∨ (outlet.flushing = true ∧ outlet.again = true) ∨ outlet.Settled)
    (beyond : ∀ id, store.outlets.size ≤ id → past id = [])
    (watched : ∀ watch ∈ ledger.watch,
      ({ ledger with acting := acting } : Ledger).Watched watch store) :
    ({ ledger with past := past, alarm := alarm, acting := acting } : Ledger).Upright store :=
  ⟨fun id outlet there =>
      have covers := upright.covers id outlet there
      ⟨course id outlet there, covers.busy, settled id outlet there, covers.stream, covers.collect,
        covers.awaited, covers.resolved⟩,
    upright.rests, fun id far => ⟨beyond id far, (upright.beyond id far).2⟩,
    fun entry member => (upright.handles entry member).of_outlets rfl rfl,
    upright.sinks,
    fun writer member => (upright.held writer member).of_outlets rfl rfl,
    upright.taken, fun watch member =>
      ⟨(watched watch member).apart, (watched watch member).state⟩⟩

/-- What has become of an outlet is remembered. -/
theorem Upright.remembering (upright : ledger.Upright store) {changes : List Change}
    (there : store.outlets[id]? = some outlet)
    (comes : outlet.ComesOf ledger.audience store.client.occasions (ledger.due id) changes) :
    ({ ledger with past := Function.update ledger.past id changes } : Ledger).Upright store := by
  refine upright.revised (fun other found present => ?_)
    (fun other found present => (upright.covers other found present).settled)
    (fun other far => ?_) upright.watched
  · by_cases same : other = id
    · subst same
      rw [there] at present
      cases present
      rw [Function.update_self]
      exact ⟨[], by rwa [List.append_nil]⟩
    · rw [Function.update_of_ne same]
      exact (upright.covers other found present).course
  · have different : other ≠ id := fun same =>
      absurd (Store.lt_size_of_outlet there) (Nat.not_lt.mpr (same ▸ far))
    rw [Function.update_of_ne different]
    exact (upright.beyond other far).1

/-- Something may leave an outlet, for all that is kept. -/
theorem Upright.alarming (upright : ledger.Upright store) (id : OutletId) :
    (ledger.alarming id).Upright store := by
  refine upright.revised (fun other found present => (upright.covers other found present).course)
    (fun other found present => ?_) (fun other far => (upright.beyond other far).1) upright.watched
  by_cases same : other = id
  · rw [same]
    exact .inl (Function.update_self ..)
  · rw [Function.update_of_ne same]
    exact (upright.covers other found present).settled

/-- Nothing may leave an outlet after all. -/
theorem Upright.calm (upright : (ledger.alarming id).Upright store)
    (settled : ∀ outlet, store.outlets[id]? = some outlet → ledger.alarm id = true ∨
      (outlet.flushing = true ∧ outlet.again = true) ∨ outlet.Settled) : ledger.Upright store := by
  refine upright.revised (fun other found present => (upright.covers other found present).course)
    (fun other found present => ?_) (fun other far => (upright.beyond other far).1) upright.watched
  by_cases same : other = id
  · subst same
    exact settled found present
  · have before := (upright.covers other found present).settled
    rwa [show (ledger.alarming id).alarm other = ledger.alarm other from
      Function.update_of_ne same _ _] at before

theorem acting_yielding (member : watch ∈ ledger.watch) (same : watch.stub = id) :
    (ledger.yielding id result).acting = some result := by
  simp [yielding, Option.mem_def.mp member, same]

theorem acting_yielding_of_ne (member : watch ∈ ledger.watch) (different : watch.stub ≠ id) :
    (ledger.yielding id result).acting = ledger.acting := by
  simp [yielding, Option.mem_def.mp member, different]

section

variable {text : String} {due : List Occasion} {onResult : Option Pending}

/-- With what is due, an outlet that gathers has been told all of its result. -/
theorem goesOn_result (sink : outlet.sink = .collect text none onResult)
    (nothing : ledger.due id = [])
    (gathers : ∀ told, gathered told = (text, none) →
      gathered (told ++ due) = ("", some result)) :
    (ledger.owing id due).GoesOn ledger heard id outlet
      { outlet with sink := .collect "" (some result) none } := by
  rintro changes ⟨within, became, knows⟩
  rw [sink, due_owing] at knows
  obtain ⟨told, same, before⟩ := knows
  refine ⟨[], ?_⟩
  rw [List.append_nil]
  exact ⟨within, became, told ++ due, by rw [same, nothing, List.append_nil], gathers told before⟩

theorem Covers.conclude (covers : (ledger.owing id due).Covers heard id outlet)
    (sink : outlet.sink = .collect text none onResult) (isDone : outlet.finished = true)
    (goesOn : (ledger.owing id due).GoesOn ledger heard id outlet
      { outlet with sink := .collect "" (some result) none }) :
    ledger.Covers heard id { outlet with sink := .collect "" (some result) none } := by
  refine ⟨covers.course_goOn rfl goesOn, covers.busy, covers.settled, fun _ same => ?_,
    fun _ _ _ _ => covers.collect _ _ _ sink, fun _ _ same => ?_, fun _ _ _ _ => isDone⟩
  · cases same
  · cases same

/-- What a pending text takes is what its outlet has come to, if it is that of a capture. -/
theorem Covers.takes (covers : ledger.Covers heard id outlet)
    (sink : outlet.sink = .collect text none onResult) :
    (onResult.map fun pending => pending.takes result).getD [] =
      if id = 0 then [] else
        (Sink.collect "" (some result) none : Sink Pending Unit).complete?.toList := by
  have awaited := covers.awaited _ _ sink
  split at awaited
  · rename_i first
    rw [if_pos first]
    rcases awaited with rfl | rfl <;> rfl
  · rename_i first
    obtain ⟨branch, name, following, followed, rfl⟩ := awaited
    rw [if_neg first]
    cases result <;> rfl

/-- A capture that still has no result is another one. -/
theorem awaits_result (there : store.outlets[id]? = some outlet)
    (now : new.sink = .collect text (some result) onResult)
    (waits : watch.Awaits (store.put id new)) :
    id ≠ watch.stub ∧ watch.Awaits store := by
  obtain ⟨found, text, present, sink⟩ := waits
  rcases put_split there present with ⟨-, rfl⟩ | ⟨different, old⟩
  · exact nomatch now.symm.trans sink
  · exact ⟨Ne.symm different, found, text, old, sink⟩

/-- The capture acts on its result as soon as its outlet has come to it. -/
theorem Watched.conclude (watched : ledger.Watched watch store) (member : watch ∈ later.watch)
    (there : store.outlets[id]? = some outlet) (beside : ledger.Beside later id)
    (now : new.sink = .collect text (some result) none)
    (opens : outlet.Open watch.branch.segment → new.Open watch.branch.segment)
    (goesOn : ledger.GoesOn later store.client.occasions id outlet new) :
    (later.yielding id result).Watched watch (store.put id new) := by
  refine ⟨watched.apart, ?_⟩
  by_cases same : watch.stub = id
  · have acting : (later.yielding id result).acting = some result := acting_yielding member same
    have present : (store.put id new).outlets[watch.stub]? = some new := by
      rw [same]
      exact Store.put_outlets_self _ _ (Store.lt_size_of_outlet there)
    exact .inr ⟨result, ⟨new, text, present, now⟩,
      fun last here => Option.some.inj (here.symm.trans acting),
      fun idle => nomatch acting.symm.trans idle⟩
  · have acting : (later.yielding id result).acting = ledger.acting :=
      (acting_yielding_of_ne member same).trans beside.acting
    have elsewhere : (store.put id new).outlets[watch.stub]? = store.outlets[watch.stub]? :=
      Store.put_outlets_of_ne _ _ (Ne.symm same)
    rcases watched.state with ⟨⟨found, text, present, waits⟩, idle, leaves⟩ |
      ⟨final, ⟨found, text, present, come⟩, last, blamed⟩
    · exact .inl ⟨⟨found, text, elsewhere.trans present, waits⟩, acting.trans idle,
        leaves_put there (fun _ => opens) leaves⟩
    · refine .inr ⟨final, ⟨found, text, elsewhere.trans present, come⟩,
        fun other here => last other (acting ▸ here), fun idle => ?_⟩
      have kept : later.Blamed watch.pending final (store.put id new) :=
        (blamed (acting ▸ idle)).put there beside goesOn
      exact kept

/-- An outlet that gathers has come to a result. The handle that goes on is in use, and the text is
there to be taken. -/
theorem Upright.conclude
    (upright : (ledger.owing id due).Upright store) (there : store.outlets[id]? = some outlet)
    (sink : outlet.sink = .collect text none onResult) (isDone : outlet.finished = true)
    (nothing : ledger.due id = []) (busy : ledger.busy id = true)
    (gathers : ∀ told, gathered told = (text, none) →
      gathered (told ++ due) = ("", some result)) :
    (((ledger.yielding id result).handing
        ((onResult.map fun pending => pending.takes result).getD [])).holding
      ((onResult.map Pending.writers).getD [])).Upright
        (store.put id { outlet with sink := .collect "" (some result) none }) := by
  have covers := upright.covers _ _ there
  have beside := (beside_owing ledger id due).symm
  let new : Outlet Pending Unit := { outlet with sink := .collect "" (some result) none }
  have goesOn : (ledger.owing id due).GoesOn ledger store.client.occasions id outlet new :=
    goesOn_result sink nothing gathers
  have still : ∀ {writer}, store.Holds writer → (store.put id new).Holds writer :=
    holds_put there (Nat.le_refl _)
  have awaits : ∀ {watch : Watch}, watch.Awaits (store.put id new) →
      id ≠ watch.stub ∧ watch.Awaits store := awaits_result there rfl
  have lends : ∀ {writer}, (ledger.owing id due).Lends store writer →
      ledger.Lends (store.put id new) writer :=
    fun lends => lends.goOn still rfl fun _ _ waits => (awaits waits).2
  refine upright_holding.mpr ⟨⟨fun other found present => ?_, fun other => ?_, fun other far => ?_,
    fun entry member => (lends (upright.handles entry member)).of_outlets rfl rfl,
    fun other found present writer member => ?_,
    fun writer member => (lends (upright.held writer member)).of_outlets rfl rfl, ?_,
    fun watch member => ?_⟩, fun writer member => ?_⟩
  · have known : ledger.Covers store.client.occasions other found :=
      covers_put there beside upright.covers (covers.conclude sink isDone goesOn) present
    exact ⟨known.course, known.busy, known.settled, known.stream, known.collect, known.awaited,
      known.resolved⟩
  · have rests : ledger.RestsAt other :=
      rests_beside beside upright.rests (rests_of_busy busy) other
    exact rests
  · rw [Store.put_outlets_size] at far
    exact upright.beyond other far
  · rcases put_split there present with ⟨-, rfl⟩ | ⟨-, old⟩
    · cases member
    · obtain ⟨holds, spares⟩ := upright.sinks other found old writer member
      exact ⟨still holds, fun watch member elsewhere waits =>
        spares watch member elsewhere (awaits waits).2⟩
  · have none : outlet.sink.complete? = none := by rw [sink]; rfl
    have taken : (store.client.captured ++ ledger.unheard).Perm store.captures := upright.taken
    rw [handing, covers.takes sink]
    refine List.Perm.trans ?_ (captures_put there none).symm
    exact List.perm_append_comm_assoc _ _ _ |>.trans (taken.append_left _)
  · have watched : (ledger.yielding id result).Watched watch (store.put id new) :=
      (upright.watched watch member).conclude member there beside rfl (fun isOpen => isOpen) goesOn
    exact ⟨watched.apart, watched.state⟩
  · obtain ⟨holds, spares⟩ := upright.sinks id outlet there writer (by rw [sink]; exact member)
    exact ⟨still holds, fun watch member waits =>
      spares watch member (awaits waits).1 (awaits waits).2⟩

end

/-- The capture has acted on its result. -/
theorem Upright.acted (upright : (ledger.yielding id result).Upright store)
    (blamed : ∀ watch ∈ ledger.watch, watch.stub = id →
      ledger.acting = none ∧ ledger.Blamed watch.pending result store) : ledger.Upright store := by
  refine upright.revised (fun other found present => (upright.covers other found present).course)
    (fun other found present => (upright.covers other found present).settled)
    (fun other far => (upright.beyond other far).1) fun watch member => ?_
  obtain ⟨apart, state⟩ := upright.watched watch member
  refine ⟨apart, ?_⟩
  by_cases same : watch.stub = id
  · obtain ⟨idle, done⟩ := blamed watch member same
    have acting : (ledger.yielding id result).acting = some result := acting_yielding member same
    rcases state with ⟨-, none, -⟩ | ⟨final, there, last, -⟩
    · exact nomatch acting.symm.trans none
    · have here : result = final := last result acting
      exact .inr ⟨final, there, fun other some => (nomatch idle.symm.trans some),
        fun _ => here ▸ done⟩
  · have acting : (ledger.yielding id result).acting = ledger.acting :=
      acting_yielding_of_ne member same
    rcases state with ⟨waits, idle, leaves⟩ | ⟨final, there, last, done⟩
    · exact .inl ⟨waits, acting ▸ idle, leaves⟩
    · refine .inr ⟨final, there, fun other here => last other (acting ▸ here), fun idle => ?_⟩
      exact done (acting.trans idle)

end Ledger

end BraceTemplate.Output
