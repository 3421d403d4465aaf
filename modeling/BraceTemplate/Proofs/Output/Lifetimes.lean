import BraceTemplate.Proofs.Output.Uses

/-!
# Outlets in the course of a run

Handles are used by whoever operates and by whoever is told of something. All that becomes of an
outlet are changes to its segments: they stay strung on their links, its head moves along these to
the end, and every segment leaves once.
-/

namespace BraceTemplate.Output

namespace Ledger

variable {ledger : Ledger} {store : Store Pending Unit Desk} {writer last : Writer}
variable {handlers : Handlers Pending Unit Desk} {writers : List Writer}

/-- Whoever operates has handles, and knows what has been told and captured. -/
theorem Upright.withClient (upright : ledger.Upright store) {desk : Desk}
    (occasions : desk.occasions = store.client.occasions)
    (captured : desk.captured = store.client.captured)
    (handles : ∀ entry ∈ desk.handles, ledger.Lends store entry.2) :
    ledger.Upright { store with client := desk } := by
  obtain ⟨covers, rests, beyond, -, sinks, held, taken, watched⟩ := upright
  refine ⟨?_, rests, beyond, fun entry member => (handles entry member).of_outlets rfl rfl, sinks,
    fun writer member => (held writer member).of_outlets rfl rfl, ?_,
    fun watch member => ⟨(watched watch member).apart, ?_⟩⟩
  · simpa only [occasions] using covers
  · rw [show ({ store with client := desk } : Store Pending Unit Desk).client.captured =
      store.client.captured from captured]
    exact taken
  · rcases (watched watch member).state with waits | ⟨result, there, last, blamed⟩
    · exact .inl waits
    · refine .inr ⟨result, there, last, fun idle => (blamed idle).goOn fun branch _ outlet found =>
        ⟨outlet, found, fun changes comes => ⟨[], ?_⟩⟩⟩
      rw [List.append_nil]
      exact ⟨comes.within, comes.became, occasions ▸ comes.knows⟩

/-- A handle onto a segment of one in use is kept. -/
theorem keeps_keep (name : String) (member : writer ∈ ledger.held)
    (segment : last.segment = writer.segment) (outlet : last.outlet = writer.outlet) :
    Keeps ledger.Upright (Desk.keep name last) :=
  Ensures.modifyClient fun _ upright =>
    upright.withClient rfl rfl (Members.forall_mem_insert upright.handles
      ((upright.held writer member).of_same segment outlet))

theorem ensures_keep (name : String) (writer : Writer) :
    Ensures (ledger.holding [writer]).Upright (Desk.keep name writer)
      fun _ => ledger.Upright :=
  Ensures.strengthen (keeps_keep name (mem_holding writer) rfl rfl) fun _ _ upright => upright.drop

theorem ensures_withHandle (name : String) {work : Writer → Desk.Work Unit}
    (working : ∀ writer, Ensures (ledger.holding [writer]).Upright (work writer)
      fun _ => ledger.Upright) :
    Keeps ledger.Upright (Desk.withHandle name work) := by
  intro store result later upright ran
  obtain ⟨desk, reached, looked, found⟩ := bind_eq_some.mp ran
  cases looked
  cases there : store.client.handles.find? name with
  | none =>
      rw [there] at found
      cases found
      exact upright
  | some writer =>
      rw [there] at found
      refine working writer store result later (upright_holding.mpr ⟨upright, ?_⟩) found
      intro other member
      rw [List.mem_singleton.mp member]
      exact upright.handles _ (Members.mem_of_find? there)

theorem ensures_yielded (writer : Writer) (result : Except RenderError String) :
    Ensures (ledger.holding [writer]).Upright (Desk.yielded writer result) ledger.Yields := by
  intro store yielded later upright ran
  cases result with
  | error error =>
      cases ran
      exact upright.drop
  | ok name =>
      obtain ⟨desk, reached, looked, found⟩ := bind_eq_some.mp ran
      cases looked
      cases found
      refine upright_holding.mpr ⟨upright.drop, fun other member => ?_⟩
      rw [List.mem_singleton.mp member]
      cases there : store.client.handles.find? name with
      | none => exact (upright_holding.mp upright).2 writer List.mem_cons_self
      | some kept => exact upright.drop.handles _ (Members.mem_of_find? there)

mutual

theorem Safe.operate (safe : Safe handlers) (ledger : Ledger) (operation : Operation) :
    Keeps ledger.Upright (Desk.operate handlers operation) := by
  cases operation with
  | write handle target text =>
      refine ensures_withHandle handle fun writer => Ensures.bind Keeps.client fun desk => ?_
      exact (ensures_write (mem_holding writer) _).bind fun last =>
        (ensures_keep target last).strengthen fun _ _ upright => upright.drop
  | tap handle target newest =>
      exact ensures_withHandle handle fun writer =>
        Ensures.strengthen (keeps_keep target (mem_holding writer) rfl rfl) fun _ _ upright =>
          upright.drop
  | untap handle target =>
      exact ensures_withHandle handle fun writer =>
        Ensures.strengthen (keeps_keep target (mem_holding writer) rfl rfl) fun _ _ upright =>
          upright.drop
  | finish handle =>
      exact ensures_withHandle handle fun writer => safe.finish_held writer
  | finishWith handle text =>
      refine ensures_withHandle handle fun writer => Ensures.bind Keeps.client fun desk => ?_
      exact Ensures.strengthen (safe.finishWith (mem_holding writer) _) fun _ _ upright =>
        upright.drop
  | fail handle target error =>
      refine ensures_withHandle handle fun writer => ?_
      exact (safe.fail (mem_holding writer) error).bind fun last =>
        (ensures_keep target last).strengthen fun _ _ upright => upright.drop
  | fork handle target branch =>
      refine ensures_withHandle handle fun writer => ?_
      refine (ensures_fork (mem_holding writer)).bind fun handles => ?_
      exact Ensures.bind (keeps_keep branch (by simp [holding]) rfl rfl) fun _ =>
        Ensures.strengthen (keeps_keep target (by simp [holding]) rfl rfl) fun _ _ upright =>
          upright.drop.drop
  | capture handle target inner rendering rendered branch following followed =>
      refine ensures_withHandle handle fun writer => ?_
      refine Ensures.bind (safe.capture (mem_holding writer) fun within first => ?_) fun next =>
        (ensures_keep target next).strengthen fun _ _ upright => upright.drop
      exact Ensures.bind (keeps_keep inner (mem_holding first) rfl rfl) fun _ =>
        Ensures.bind (safe.operateAll (within.holding [first]) rendering) fun _ =>
          ensures_yielded first rendered

theorem Safe.operateAll (safe : Safe handlers) (ledger : Ledger) (operations : List Operation) :
    Keeps ledger.Upright (Desk.operateAll handlers operations) := by
  cases operations with
  | nil => exact Keeps.pure _
  | cons operation rest =>
      exact (safe.operate ledger operation).bind fun _ => safe.operateAll ledger rest

end

/-- The text of a capture is taken. -/
theorem ensures_taking (text : String) :
    Ensures (ledger.handing [text]).Upright
      (modifyClient fun desk => { desk with captured := text :: desk.captured })
      fun _ => ledger.Upright := by
  refine Ensures.modifyClient fun store upright => ?_
  obtain ⟨covers, rests, beyond, handles, sinks, held, taken, watched⟩ := upright
  exact ⟨fun id outlet there =>
      have known := covers id outlet there
      ⟨known.course, known.busy, known.settled, known.stream, known.collect, known.awaited,
        known.resolved⟩,
    rests, beyond, fun entry member => (handles entry member).of_outlets rfl rfl,
    sinks, fun writer member => (held writer member).of_outlets rfl rfl,
    List.perm_middle.symm.trans taken,
    fun watch member => ⟨(watched watch member).apart, (watched watch member).state⟩⟩

/-- What a continuation does with the text before it yields a handle or fails. -/
theorem Safe.following (safe : Safe handlers) (branch : Writer) (name text : String)
    (following : List Operation) {Result : Type} {next : Desk.Work Result}
    {after : Result → Store Pending Unit Desk → Prop}
    (goesOn : Ensures (ledger.holding [branch]).Upright next after) :
    Ensures ((ledger.handing [text]).holding [branch]).Upright
      (do modifyClient fun desk => { desk with captured := text :: desk.captured }
          Desk.keep name branch
          Desk.operateAll handlers following
          next) after :=
  have taking : Ensures ((ledger.holding [branch]).handing [text]).Upright _
      fun _ => (ledger.holding [branch]).Upright := ensures_taking text
  taking.bind fun _ => Ensures.bind (keeps_keep name (mem_holding branch) rfl rfl) fun _ =>
    Ensures.bind (safe.operateAll _ following) fun _ => goesOn

/-- Continuations keep accounts if those do that they lead to. -/
theorem Safe.resumes (safe : Safe handlers) (ledger : Ledger) (pending : Pending)
    (result : Except RenderError String) :
    Ensures ((ledger.handing (pending.takes result)).holding pending.writers).Upright
      (Desk.resume handlers pending result) fun _ => ledger.Upright := by
  cases pending with
  | answer =>
      have noted : Ensures (ledger.holding []).Upright
          (modifyClient fun desk => { desk with answers := desk.answers ++ [result] })
          fun _ => ledger.Upright :=
        Ensures.modifyClient fun _ upright => upright.drop.withClient rfl rfl upright.drop.handles
      exact noted
  | capture branch name following followed =>
      cases result with
      | error error => exact safe.fail_held branch error
      | ok text =>
          refine Ensures.bind (safe.following branch name text following
            ((ensures_yielded branch followed).weaken fun _ upright =>
              upright.holds (mem_holding branch) rfl rfl)) fun yielded => ?_
          cases yielded with
          | ok last => exact (safe.finish_held last).strengthen fun _ _ upright => upright.drop
          | error error => exact safe.fail_held branch error

/-- A continuation that fails, or is told of a failure, sets the error on its branch. -/
theorem Safe.resumes_blames (safe : Safe handlers) (ledger : Ledger) (pending : Pending)
    (result : Except RenderError String) :
    Ensures (fun store =>
        ((ledger.handing (pending.takes result)).holding pending.writers).Upright store ∧
          ∀ branch ∈ pending.writers, store.Leaves branch)
      (Desk.resume handlers pending result) fun _ => ledger.Blamed pending result := by
  cases pending with
  | answer => exact fun _ _ _ _ _ _ member => nomatch member
  | capture branch name following followed =>
      cases result with
      | error error =>
          refine ((safe.fail_blames True).weaken fun store both =>
            ⟨both.1, fun _ => both.2 branch (List.mem_singleton_self _)⟩).strengthen
              fun _ store found => ?_
          obtain ⟨outlet, changes, there, comes, failed, stays⟩ := found
          intro other member cause same
          cases List.mem_singleton.mp member
          cases same
          exact ⟨outlet, changes, there, comes, failed, fun _ => stays trivial⟩
      | ok text =>
          cases followed with
          | ok last => exact fun _ _ _ _ _ _ _ _ none => nomatch none
          | error error =>
              let pending : Pending := .capture branch name following (.error error)
              have failing : Ensures (ledger.holding [branch]).Upright
                  (discard (branch.fail handlers error))
                  fun _ => ledger.Blamed pending (.ok text) := by
                refine ((safe.fail_blames False).weaken fun store upright =>
                  ⟨upright, False.elim⟩).strengthen fun _ store found => ?_
                obtain ⟨outlet, changes, there, comes, failed, -⟩ := found
                intro other member cause same
                cases List.mem_singleton.mp member
                cases same
                exact ⟨outlet, changes, there, comes, failed, fun same => nomatch same⟩
              have yielding : Ensures (ledger.holding [branch]).Upright
                  (Desk.yielded branch (.error error)) fun yielded store =>
                    yielded = .error error ∧ (ledger.holding [branch]).Upright store :=
                Ensures.pure fun _ upright => ⟨rfl, upright⟩
              refine Ensures.bind ((safe.following branch name text following yielding).weaken
                fun _ both => both.1) fun yielded => ?_
              rintro store last later ⟨rfl, upright⟩ ran
              exact failing store last later upright ran

/-- A listener that notes what it is told has been told it. -/
theorem ensures_hear {occasion : Occasion} {rest : List Occasion} (streams : ledger.streams = true)
    (busy : ledger.busy 0 = true) (due : ledger.due 0 = occasion :: rest) :
    Ensures ledger.Upright (Desk.hear () occasion) fun _ => (ledger.owing 0 rest).Upright := by
  refine Ensures.modifyClient fun store upright => ?_
  have goesOn : ∀ (id : OutletId) (outlet : Outlet Pending Unit),
      store.outlets[id]? = some outlet → ∀ changes,
      outlet.ComesOf ledger.audience store.client.occasions (ledger.due id) changes →
        outlet.ComesOf ledger.audience (store.client.occasions ++ [occasion])
          ((ledger.owing 0 rest).due id) changes := by
    rintro id outlet there changes ⟨within, became, knows⟩
    obtain ⟨-, -, -, stream, collect, -, -⟩ := upright.covers id outlet there
    refine ⟨within, became, ?_⟩
    cases sink : outlet.sink with
    | collect text result onResult =>
        have elsewhere : id ≠ 0 := fun first => collect text result onResult sink ⟨first, streams⟩
        rw [sink] at knows
        rw [show (ledger.owing 0 rest).due id = ledger.due id from
          Function.update_of_ne elsewhere _ _]
        exact knows
    | stream listeners =>
        obtain ⟨rfl, -, -⟩ := stream listeners sink
        rw [sink] at knows
        rw [due_owing]
        change toldAll ledger.audience _ = store.client.occasions ++ [occasion] ++ rest
        rw [List.append_assoc, List.singleton_append, ← due]
        exact knows
  obtain ⟨covers, rests, beyond, handles, sinks, held, taken, watched⟩ := upright
  refine ⟨fun id outlet there => ?_, fun id => ?_, beyond,
    fun entry member => (handles entry member).of_outlets rfl rfl, sinks,
    fun writer member => (held writer member).of_outlets rfl rfl, taken,
    fun watch member => ⟨(watched watch member).apart, ?_⟩⟩
  · obtain ⟨⟨more, comes⟩, flushing, settled, stream, collect, awaited, resolved⟩ :=
      covers id outlet there
    exact ⟨⟨more, goesOn id outlet there _ comes⟩, flushing, settled, stream, collect, awaited,
      resolved⟩
  · by_cases first : id = 0
    · exact rests_of_busy (first ▸ busy)
    · intro idle
      rw [show (ledger.owing 0 rest).due id = ledger.due id from Function.update_of_ne first _ _]
      exact rests id idle
  · rcases (watched watch member).state with waits | ⟨result, there, last, blamed⟩
    · exact .inl waits
    · refine .inr ⟨result, there, last, fun idle => (blamed idle).goOn fun branch _ outlet found =>
        ⟨outlet, found, fun changes comes => ⟨[], ?_⟩⟩⟩
      rw [List.append_nil]
      exact goesOn _ outlet found changes comes

theorem Safe.answering (safe : Safe handlers) (reaction : Desk.Reacting) (ledger : Ledger)
    (pending : Pending) (result : Except RenderError String) :
    Ensures ((ledger.handing (pending.takes result)).holding pending.writers).Upright
      (Desk.answering reaction handlers pending result) fun _ => ledger.Upright := by
  refine (safe.resumes ledger pending result).bind fun _ => ?_
  cases pending with
  | answer => exact Ensures.bind Keeps.client fun desk => safe.operateAll _ _
  | capture branch name following followed => exact Ensures.pure fun _ upright => upright

theorem Safe.answering_blames (safe : Safe handlers) (reaction : Desk.Reacting) (ledger : Ledger)
    (pending : Pending) (result : Except RenderError String) :
    Ensures (fun store =>
        ((ledger.handing (pending.takes result)).holding pending.writers).Upright store ∧
          ∀ branch ∈ pending.writers, store.Leaves branch)
      (Desk.answering reaction handlers pending result) fun _ => ledger.Blamed pending result := by
  cases pending with
  | answer => exact fun _ _ _ _ _ _ member => nomatch member
  | capture branch name following followed =>
      exact (safe.resumes_blames ledger _ result).bind fun _ => Ensures.pure fun _ blamed => blamed

theorem safe_reactingWithin (reaction : Desk.Reacting) (depth : Nat) :
    Safe (Desk.reactingWithin reaction depth) := by
  induction depth with
  | zero =>
      exact ⟨fun _ _ _ => Ensures.outOfSteps, fun _ _ _ => Ensures.outOfSteps,
        fun _ _ _ _ _ _ => Ensures.outOfSteps⟩
  | succ depth inductionHypothesis =>
      refine ⟨inductionHypothesis.answering reaction, inductionHypothesis.answering_blames reaction,
        fun ledger occasion rest streams busy due => ?_⟩
      refine (ensures_hear streams busy due).bind fun _ => Ensures.bind Keeps.client fun desk => ?_
      exact inductionHypothesis.operateAll _ _

end Ledger

namespace Sink

/-- A new outlet may have this sink. -/
def Fresh : Sink Pending Unit → Prop
  | .collect text result onResult =>
    text = "" ∧ result = none ∧ (onResult = none ∨ onResult = some .answer)
  | .stream _ => True

def streams : Sink Pending Unit → Bool
  | .collect _ _ _ => false
  | .stream _ => true

/-- How many listeners hear an occasion. -/
def audience : Sink Pending Unit → Channel → Nat
  | .collect _ _ _, _ => 0
  | .stream listeners, channel => (listeners.on channel).length

end Sink

namespace Desk

variable {reaction : Reacting} {depth : Nat} {sink : Sink Pending Unit} {head : String}
variable {operations first rest : List Operation} {earlier later : Store Pending Unit Desk}
variable {id : OutletId} {before : Outlet Pending Unit}

def ledger (sink : Sink Pending Unit) : Ledger :=
  ⟨fun _ => [], [], fun _ => false, fun _ => false, sink.streams, sink.audience, sink.audience,
    fun _ => [], [], none, none⟩

theorem upright_runReacting (fresh : sink.Fresh) (ran : runReacting reaction depth sink head
      operations (Store.initial blank) = some ((), later)) :
    (ledger sink).Upright later := by
  have start : (ledger sink).Upright (Store.initial blank) :=
    ⟨fun _ _ there => by simp [Store.initial] at there, fun _ _ => ⟨rfl, fun _ => rfl⟩,
      fun _ _ => ⟨rfl, rfl⟩, fun _ member => by simp [Store.initial, blank] at member,
      fun _ _ there => by simp [Store.initial] at there, (fun _ member => nomatch member), .refl _,
      (fun _ none => nomatch none)⟩
  obtain ⟨id, opened, opening, operated⟩ := bind_eq_some.mp ran
  rw [run_openOutlet] at opening
  cases opening
  have begun : ((ledger sink).holding [Writer.onOutlet 0]).Upright
      ((Store.initial blank).open (Outlet.opened sink)) := by
    refine start.opening sink ?_ (fun listeners same => ?_) (fun _ _ _ same => ?_)
      (fun text onResult same => ?_) (fun text result onResult same => ?_) fun writer member => ?_
    · cases sink with
      | collect text result onResult =>
          obtain ⟨rfl, rfl, -⟩ := fresh
          exact ⟨[], rfl, rfl⟩
      | stream listeners => rfl
    · subst same
      exact ⟨rfl, rfl, fun _ => rfl⟩
    · subst same
      exact fun streaming => by cases streaming.2
    · subst same
      exact fresh.2.2
    · subst same
      exact nomatch fresh.2.1
    · cases sink with
      | collect text result onResult =>
          obtain ⟨-, -, rfl | rfl⟩ := fresh <;> cases member
      | stream listeners => cases member
  have operating : Ensures ((ledger sink).holding [Writer.onOutlet 0]).Upright
      (do keep head (Writer.onOutlet 0)
          operateAll (reactingWithin reaction depth) operations) fun _ => (ledger sink).Upright :=
    (Ledger.ensures_keep head _).bind fun _ =>
      (Ledger.safe_reactingWithin reaction depth).operateAll _ operations
  exact operating _ _ _ begun operated

/-- Between any two moments of a run an outlet is only changed. Its segments stay strung on their
links, and its head moves along them. -/
theorem runReacting_chained (fresh : sink.Fresh)
    (ran : runReacting reaction depth sink head first (Store.initial blank) = some ((), earlier))
    (wentOn : operateAll (reactingWithin reaction depth) rest earlier = some ((), later))
    (there : earlier.outlets[id]? = some before) :
    ∃ after changes more, later.outlets[id]? = some after ∧
      before.ComesOf sink.audience earlier.client.occasions [] changes ∧
      after.ComesOf sink.audience later.client.occasions [] (changes ++ more) ∧
      Outlet.Chained (changes ++ more) ∧
      after.Strung (Arena.blank.after (changes ++ more)).links ∧
      (Arena.blank.after (changes ++ more)).links.Leads before.head? after.head? := by
  have upright := upright_runReacting fresh ran
  obtain ⟨⟨changes, found⟩, -⟩ := upright.covers id before there
  have comes : before.ComesOf sink.audience earlier.client.occasions [] changes := found
  have first : (Writer.onOutlet id).segment < before.nextNumber := by
    rw [← comes.sizeAfterAll]
    exact Change.size_le_sizeAfterAll 1 changes
  have remembered := Ledger.upright_holding.mpr ⟨upright.remembering there comes,
    fun writer (member : writer ∈ [Writer.onOutlet id]) =>
      List.mem_singleton.mp member ▸ ⟨⟨before, there, first⟩, fun _ none => nomatch none⟩⟩
  have kept := (Ledger.safe_reactingWithin reaction depth).operateAll _ rest _ _ _ remembered wentOn
  obtain ⟨after, still, -⟩ := (kept.held _ (Ledger.mem_holding (Writer.onOutlet id))).holds
  obtain ⟨⟨more, foundLater⟩, -⟩ := kept.covers id after still
  simp only [Ledger.holding, Function.update_self] at foundLater
  have goesOn : after.ComesOf sink.audience later.client.occasions [] (changes ++ more) :=
    foundLater
  have chained := Outlet.chained_of_allWithin goesOn.within
  have strung := chained.strung (changes ++ more) [] (List.append_nil _).symm
  have forward := chained.forward changes more [] (by rw [List.append_nil])
  rw [← goesOn.became] at strung forward
  rw [← comes.became] at forward
  exact ⟨after, changes, more, still, comes, goesOn, chained,
    ⟨strung.order, strung.every, strung.head, strung.ends, strung.isDone⟩, forward⟩

/-- The first piece makes whoever hears it fork at the first segment, which has left by then. -/
def forkingBack : Reacting := fun desk =>
  if desk.occasions.length = 1 then [.fork "c" "e" "f", .write "f" "f" fun _ => "late"] else []

theorem runReacting_chained_forkingBack :
    let sink : Sink Pending Unit := .stream ⟨[()], [()], [()]⟩
    ∃ earlier later before after changes more,
      runReacting forkingBack 3 sink "c"
          [.write "c" "c" fun _ => "x", .fork "c" "d" "b", .finish "b", .write "c" "c" fun _ => "y"]
          (Store.initial blank) = some ((), earlier) ∧
      operateAll (reactingWithin forkingBack 3) [.finish "b", .fork "b" "g" "h", .finish "d"]
          earlier = some ((), later) ∧
      earlier.outlets[0]? = some before ∧ later.outlets[0]? = some after ∧
      before.ComesOf sink.audience earlier.client.occasions [] changes ∧
      after.ComesOf sink.audience later.client.occasions [] (changes ++ more) ∧
      Outlet.Chained (changes ++ more) ∧
      after.Strung (Arena.blank.after (changes ++ more)).links ∧
      (Arena.blank.after (changes ++ more)).links.Leads before.head? after.head? ∧
      before.head? = some 2 ∧ after.head? = none ∧ after.passed = [0, 3, 4, 1, 5, 6, 2] ∧
      later.client.occasions = [.data "x", .finished] := by
  intro sink
  let first : List Operation :=
    [.write "c" "c" fun _ => "x", .fork "c" "d" "b", .finish "b", .write "c" "c" fun _ => "y"]
  let rest : List Operation := [.finish "b", .fork "b" "g" "h", .finish "d"]
  have evaluated :
      ((runReacting forkingBack 3 sink "c" first (Store.initial blank)).bind fun earlier =>
        (operateAll (reactingWithin forkingBack 3) rest earlier.2).bind fun later =>
          earlier.2.outlets[0]?.bind fun before => later.2.outlets[0]?.map fun after =>
            (before.head?, after.head?, after.passed, later.2.client.occasions)) =
        some (some 2, none, [0, 3, 4, 1, 5, 6, 2], [.data "x", .finished]) := by
    decide +kernel
  obtain ⟨⟨⟨⟩, earlier⟩, ran, evaluated⟩ := Option.bind_eq_some_iff.mp evaluated
  obtain ⟨⟨⟨⟩, later⟩, wentOn, evaluated⟩ := Option.bind_eq_some_iff.mp evaluated
  obtain ⟨before, there, evaluated⟩ := Option.bind_eq_some_iff.mp evaluated
  obtain ⟨found, present, evaluated⟩ := Option.map_eq_some_iff.mp evaluated
  have fresh : sink.Fresh := trivial
  obtain ⟨after, changes, more, still, comes, goesOn, chained, strung, leads⟩ :=
    runReacting_chained fresh ran wentOn there
  rw [present] at still
  cases still
  simp only [Prod.mk.injEq] at evaluated
  exact ⟨earlier, later, before, found, changes, more, ran, wentOn, there, present, comes, goesOn,
    chained, strung, leads, evaluated⟩

end Desk

end BraceTemplate.Output
