import BraceTemplate.Proofs.Output.Lifetimes

/-!
# Captures report errors

A capture writes into an outlet of its own, and goes on with the text on a branch at its place.
Where either fails, so does the outer outlet, once everything in front of the branch has left;
otherwise the continuation takes the text once. An error that is set on a segment that has left is
lost: whoever forks the handle that is theirs, and ends the branch before they fail, is not heard.
-/

namespace BraceTemplate.Output

/-- All segments come behind the first one. -/
theorem Outlet.head?_eq_zero {outlet : Outlet Pending Unit} {audience : Channel → Nat}
    {heard due : List Occasion} {changes : List Change}
    (comes : outlet.ComesOf audience heard due changes) (stays : 0 ∉ outlet.passed) :
    outlet.head? = some 0 := by
  have linked := Outlet.linked_blank.after comes.within
  rw [← comes.became] at linked
  have visits := linked.visits
  have bare : outlet.bare.numbers = outlet.passed ++ outlet.waiting.map Segment.number := rfl
  rw [bare] at visits
  cases passed : outlet.passed with
  | nil =>
      rw [passed, List.nil_append] at visits
      unfold Outlet.head?
      cases waiting : outlet.waiting.map Segment.number with
      | nil => rw [waiting] at visits; cases visits
      | cons first rest =>
          rw [waiting] at visits
          exact visits.1.symm
  | cons first rest =>
      rw [passed] at visits
      have zero : some 0 = some first := visits.1
      rw [passed, ← Option.some.inj zero] at stays
      exact absurd List.mem_cons_self stays

namespace Ledger

variable {ledger : Ledger} {store : Store Pending Unit Desk} {writer : Writer}
variable {handlers : Handlers Pending Unit Desk} {watch : Watch}

/-- A capture is watched from when its outlet is opened. -/
theorem Upright.watching (upright : ledger.Upright store) (idle : ledger.acting = none)
    (apart : watch.branch.outlet ≠ watch.stub) (awaits : watch.Awaits store)
    (leaves : store.Leaves watch.branch)
    (handles : ∀ entry ∈ store.client.handles, watch.Spares entry.2)
    (held : ∀ writer ∈ ledger.held, watch.Spares writer)
    (sinks : ∀ (id : OutletId) (outlet : Outlet Pending Unit), store.outlets[id]? = some outlet →
      id ≠ watch.stub → ∀ writer ∈ outlet.sink.writers, watch.Spares writer) :
    ({ ledger with watch := some watch } : Ledger).Upright store := by
  refine ⟨fun id outlet there => ?_, upright.rests, upright.beyond,
    fun entry member => ⟨(upright.handles entry member).holds, fun other same _ => ?_⟩,
    fun id outlet there writer member =>
      ⟨(upright.sinks id outlet there writer member).1, fun other same elsewhere _ => ?_⟩,
    fun writer member => ⟨(upright.held writer member).holds, fun other same _ => ?_⟩,
    upright.taken, fun other same => ?_⟩
  · have known := upright.covers id outlet there
    exact ⟨known.course, known.busy, known.settled, known.stream, known.collect, known.awaited,
      known.resolved⟩
  · cases same
    exact handles entry member
  · cases same
    exact sinks id outlet there elsewhere writer member
  · cases same
    exact held writer member
  · cases same
    exact ⟨apart, .inl ⟨awaits, idle, leaves⟩⟩

/-- A handle onto a segment that was there before does not lead to a new one. -/
theorem spares_of_holds {before : Outlet Pending Unit} {name : String}
    {following : List Operation} {followed : Except RenderError String} {stub : OutletId}
    {last : Writer} (there : store.outlets[writer.outlet]? = some before)
    (holds : store.Holds last) :
    (Watch.mk stub { writer with segment := before.nextNumber } name following followed).Spares
      last := by
  obtain ⟨found, present, within⟩ := holds
  intro same new
  have same : last.outlet = writer.outlet := same
  have new : last.segment = before.nextNumber := new
  rw [same, there] at present
  cases present
  exact absurd within (new ▸ Nat.lt_irrefl _)

/-- A capture has forked, and opened its outlet. What the outer outlet has become is remembered. -/
theorem Upright.capturing {before : Outlet Pending Unit} {changes : List Change}
    (upright : ledger.Upright store) (name : String) (following : List Operation)
    (followed : Except RenderError String) (idle : ledger.acting = none)
    (there : store.outlets[writer.outlet]? = some before) (lends : ledger.Lends store writer)
    (stays : writer.segment ∉ before.passed)
    (comes : before.ComesOf ledger.audience store.client.occasions (ledger.due writer.outlet)
      changes) :
    let branch : Writer := { writer with segment := before.nextNumber }
    let next : Writer := { writer with segment := before.nextNumber + 1 }
    let stub := store.outlets.size
    let pending : Pending := .capture branch name following followed
    (({ ledger with
        past := Function.update ledger.past writer.outlet (changes ++ [.fork writer.segment])
        watch := some ⟨stub, branch, name, following, followed⟩ } : Ledger).holding
      [Writer.onOutlet stub, next]).Upright
        ((store.put writer.outlet (before.fork writer.segment)).open
          (Outlet.opened (.collect "" none (some pending)))) := by
  intro branch next stub pending
  let forked := store.put writer.outlet (before.fork writer.segment)
  let opened := forked.open (Outlet.opened (.collect "" none (some pending)))
  have bound := Store.lt_size_of_outlet there
  have size : forked.outlets.size = stub := Store.put_outlets_size ..
  have inUse : (ledger.holding [writer]).Upright store :=
    upright_holding.mpr ⟨upright, fun last member => List.mem_singleton.mp member ▸ lends⟩
  have both : ((ledger.holding [writer]).holding [branch, next]).Upright forked :=
    ensures_fork (mem_holding writer) _ _ _ inUse (run_fork there)
  have all : (((ledger.holding [writer]).holding [branch, next]).holding
      [Writer.onOutlet stub]).Upright opened := by
    have ran := run_openOutlet (.collect "" none (some pending)) forked
    rw [size] at ran
    exact ensures_openOutlet List.mem_cons_self _ _ _ both ran
  have kept : (ledger.holding [Writer.onOutlet stub, next]).Upright opened := by
    refine upright_holding.mpr ⟨all.drop.drop.drop, fun last member => ?_⟩
    have lent := all.held last (by
      rcases List.mem_pair.mp member with rfl | rfl <;> simp [holding])
    exact ⟨lent.holds, lent.spares⟩
  have outer : opened.outlets[writer.outlet]? = some (before.fork writer.segment) :=
    Store.open_outlets_of_some (Store.put_outlets_self _ _ bound)
  obtain ⟨found, present, within⟩ := lends.holds
  rw [there] at present
  cases present
  have comesNow : (before.take (.fork writer.segment)).ComesOf ledger.audience
      store.client.occasions (ledger.due writer.outlet) (changes ++ [.fork writer.segment]) :=
    comes.take (fun _ same => by cases same; exact within) rfl
  have remembered := kept.remembering outer comesNow
  have counted := Outlet.counted_blank.after comes.within
  rw [← comes.became] at counted
  have waits : writer.segment ∈ before.waiting.map Segment.number :=
    (List.mem_append.mp ((counted.mem _).mpr within)).resolve_left stays
  have apart : writer.outlet ≠ stub := Nat.ne_of_lt bound
  refine remembered.watching idle apart ⟨_, "", size ▸ Store.open_outlets_self _, rfl⟩
    ⟨_, outer, Segment.fresh before.nextNumber,
      Outlet.mem_insertBehind_added List.mem_cons_self waits, rfl, rfl, rfl⟩
    (fun entry member => spares_of_holds there (upright.handles entry member).holds)
    (fun last member => ?_) (fun id outlet present elsewhere last member => ?_)
  · rcases List.mem_append.mp member with new | old
    · rcases List.mem_pair.mp new with rfl | rfl
      · exact fun same => absurd same.symm apart
      · exact fun _ same => absurd same (Nat.succ_ne_self _)
    · exact spares_of_holds there (upright.held last old).holds
  · refine spares_of_holds there ?_
    rcases open_split present with ⟨same, -⟩ | old
    · exact absurd (same.trans size) elsewhere
    · rcases put_split there old with ⟨rfl, rfl⟩ | ⟨-, older⟩
      · exact (upright.sinks _ before there last member).1
      · exact (upright.sinks _ outlet older last member).1

def ending (handlers : Handlers Pending Unit Desk) (stub : OutletId) :
    Except RenderError Writer → Desk.Work Unit
  | .ok last => last.finish handlers
  | .error error => discard ((Writer.onOutlet stub).fail handlers error)

/-- The closure of a capture has operated, and its outlet has ended or failed. -/
theorem Safe.rendering (safe : Safe handlers) (upright : ledger.Upright store) {stub : OutletId}
    (member : Writer.onOutlet stub ∈ ledger.held) {inner : String} {operations : List Operation}
    {rendered : Except RenderError String} {result : Except RenderError Writer}
    {rendering later : Store Pending Unit Desk}
    (operated : (do
      Desk.keep inner (Writer.onOutlet stub)
      Desk.operateAll handlers operations
      Desk.yielded (Writer.onOutlet stub) rendered : Desk.Work _) store = some (result, rendering))
    (ended : ending handlers stub result rendering = some ((), later)) :
    ∃ changes,
      ({ ledger with past := Function.update ledger.past stub changes } : Ledger).Upright later ∧
        ∀ error, rendered = .error error → .fail 0 error ∈ changes := by
  obtain ⟨_, first, keeping, operated⟩ := bind_eq_some.mp operated
  obtain ⟨_, last, operated, yielding⟩ := bind_eq_some.mp operated
  have kept := keeps_keep inner member rfl rfl _ _ _ upright keeping
  have held : (ledger.holding [Writer.onOutlet stub]).Upright last :=
    (safe.operateAll ledger operations _ _ _ kept operated).holds member rfl rfl
  cases rendered with
  | error error =>
      cases yielding
      have failed := safe.fail_held _ error _ _ _ held ended
      obtain ⟨outlet, changes, there, comes, set, -⟩ :=
        safe.fail_blames False _ _ _ ⟨held, False.elim⟩ ended
      exact ⟨changes, failed.remembering there comes, fun other same => by cases same; exact set⟩
  | ok name =>
      have yields := ensures_yielded _ _ _ _ _ held yielding
      refine ⟨ledger.past stub, ?_, fun _ same => nomatch same⟩
      rw [Function.update_eq_self]
      cases result with
      | ok writer => exact safe.finish_held writer _ _ _ yields ended
      | error error => exact safe.fail_held _ error _ _ _ (yields.holds member rfl rfl) ended

end Ledger

namespace Desk

/-- What a capture at a handle leads to: the branch with the number that was next, and an outlet of
its own. -/
structure Captured (writer : Writer) (rendered followed : Except RenderError String)
    (before outer stub : Outlet Pending Unit) (changes own : List Change) : Prop where
  /-- The branch, and what comes behind it, stand right behind the handle. -/
  place : (Outlet.insertPassed writer.segment [before.nextNumber, before.nextNumber + 1]
    before.numbers).Sublist outer.numbers
  /-- What is delivered is what was written, in order. -/
  output : Outlet.Timely changes → String.join (Outlet.pieces (Outlet.blank.told changes)) =
    String.join (outer.passed.map (Change.written · changes))
  /-- The closure has failed before its first segment left. -/
  renderFails : ∀ error, rendered = .error error → 0 ∉ stub.passed →
    .fail 0 error ∈ own ∧ ∃ (texts : List String) (last : RenderError),
      .fail 0 last ∈ own ∧ Outlet.blank.told own = texts.map Occasion.data ++ [.failed last] ∧
        outer.Fails changes before.nextNumber last
  /-- The continuation has failed before the branch left. -/
  followFails : ∀ error text, followed = .error error → stub.sink.complete? = some text →
    before.nextNumber ∉ outer.passed → outer.Fails changes before.nextNumber error
  /-- Nothing has failed, and all has ended. -/
  succeeds : (∀ segment ∈ stub.waiting, segment.ended = true) →
    (∀ number error, .fail number error ∉ own) →
      ∃ text, stub.sink.complete? = some text ∧ (Outlet.Timely own →
        text = String.join (stub.numbers.map (Change.written · own)))

/-- The result of a sink that has been told all. -/
theorem result_of_told {stub : Outlet Pending Unit} {audience : Channel → Nat}
    {heard : List Occasion} {own : List Change} {texts : List String} {ending : Occasion}
    (comes : stub.ComesOf audience heard [] own) {text : String}
    {result : Option (Except RenderError String)} {onResult : Option Pending}
    (sink : stub.sink = .collect text result onResult)
    (told : Outlet.blank.told own = texts.map Occasion.data ++ [ending]) :
    (text, result) = Occasion.gather (String.join texts, none) ending := by
  have knows := comes.knows
  rw [sink] at knows
  obtain ⟨had, same, before⟩ := knows
  rw [List.append_nil, told] at same
  rw [← before, ← same, gathered_append_singleton]
  have pieces := gathered_pieces [] texts
  rw [List.nil_append] at pieces
  rw [pieces]
  simp [gathered]

variable {reaction : Reacting} {depth : Nat} {sink : Sink Pending Unit} {writer : Writer}
variable {head handle target inner name : String} {first rest rendering following : List Operation}
variable {rendered followed : Except RenderError String} {earlier later : Store Pending Unit Desk}
variable {before : Outlet Pending Unit}

def watching (earlier : Store Pending Unit Desk) (writer : Writer) (before : Outlet Pending Unit)
    (name : String) (following : List Operation) (followed : Except RenderError String) : Watch :=
  ⟨earlier.outlets.size, { writer with segment := before.nextNumber }, name, following, followed⟩

/-- What is known when a run has captured and gone on. -/
theorem upright_captured (fresh : sink.Fresh)
    (ran : runReacting reaction depth sink head first (Store.initial blank) = some ((), earlier))
    (kept : earlier.client.handles.find? handle = some writer)
    (there : earlier.outlets[writer.outlet]? = some before)
    (stays : writer.segment ∉ before.passed)
    (wentOn : operateAll (reactingWithin reaction depth)
      (.capture handle target inner rendering rendered name following followed :: rest) earlier =
        some ((), later)) {changes : List Change}
    (comes : before.ComesOf sink.audience earlier.client.occasions [] changes) :
    ∃ own, (({ ledger sink with
        past := Function.update (Function.update (fun _ => []) writer.outlet
          (changes ++ [.fork writer.segment])) earlier.outlets.size own
        watch := some (watching earlier writer before name following followed) } : Ledger).holding
      [Writer.onOutlet earlier.outlets.size,
        { writer with segment := before.nextNumber + 1 }]).Upright later ∧
      ∀ error, rendered = .error error → .fail 0 error ∈ own := by
  have safe := Ledger.safe_reactingWithin reaction depth
  have upright := upright_runReacting fresh ran
  have lends := upright.handles _ (Members.mem_of_find? kept)
  have size : (earlier.put writer.outlet (before.fork writer.segment)).outlets.size =
      earlier.outlets.size := Store.put_outlets_size ..
  obtain ⟨_, middle, operated, others⟩ := bind_eq_some.mp wentOn
  obtain ⟨desk, reached, looked, found⟩ := bind_eq_some.mp operated
  cases looked
  rw [kept] at found
  obtain ⟨next, captured, capturing, keeping⟩ := bind_eq_some.mp found
  obtain ⟨handles, forked, forking, opening⟩ := bind_eq_some.mp capturing
  rw [Ledger.run_fork there] at forking
  cases forking
  obtain ⟨stub, opened, opening, ending⟩ := bind_eq_some.mp opening
  rw [run_openOutlet, size] at opening
  cases opening
  obtain ⟨result, operatedOn, operating, ending⟩ := bind_eq_some.mp ending
  have ended : Ledger.ending (reactingWithin reaction depth) earlier.outlets.size result
        operatedOn = some ((), captured) ∧
      next = { writer with segment := before.nextNumber + 1 } := by
    cases result with
    | ok last =>
        obtain ⟨_, _, finished, yielded⟩ := bind_eq_some.mp ending
        cases yielded
        exact ⟨finished, rfl⟩
    | error error =>
        obtain ⟨_, _, failed, yielded⟩ := bind_eq_some.mp ending
        cases yielded
        exact ⟨failed, rfl⟩
  obtain ⟨ended, rfl⟩ := ended
  have begun := upright.capturing name following followed rfl there lends stays comes
  obtain ⟨own, known, set⟩ := safe.rendering begun List.mem_cons_self operating ended
  have member : { writer with segment := before.nextNumber + 1 } ∈
      [Writer.onOutlet earlier.outlets.size, { writer with segment := before.nextNumber + 1 }] :=
    List.mem_cons_of_mem _ (List.mem_singleton_self _)
  have keptNext := Ledger.keeps_keep target (List.mem_append_left _ member) rfl rfl _ _ _ known
    keeping
  exact ⟨own, safe.operateAll _ rest _ _ _ keptNext others, set⟩

/-- An outlet that is at rest has let leave all that may, and its sink knows. -/
theorem rest_of_upright {known : Ledger} (upright : known.Upright later) {id : OutletId}
    {outlet : Outlet Pending Unit} (there : later.outlets[id]? = some outlet)
    (idle : known.busy id = false) (calm : known.alarm id = false) :
    outlet.Settled ∧
      ∃ more, outlet.ComesOf known.audience later.client.occasions [] (known.past id ++ more) := by
  obtain ⟨⟨more, comes⟩, flushing, settled, -⟩ := upright.covers id outlet there
  rw [(upright.rests id idle).1] at comes
  refine ⟨?_, more, comes⟩
  rcases settled with alarm | ⟨busy, -⟩ | settled
  · exact nomatch calm.symm.trans alarm
  · rw [flushing, idle] at busy
    cases busy
  · exact settled

/-- The branch stays right behind the handle. -/
theorem place_kept {audience : Channel → Nat} {occasions heard : List Occasion}
    {changes more : List Change} {outer : Outlet Pending Unit}
    (comes : before.ComesOf audience occasions [] changes)
    (within : writer.segment < before.nextNumber)
    (wentOn : outer.ComesOf audience heard [] (changes ++ [.fork writer.segment] ++ more)) :
    (Outlet.insertPassed writer.segment [before.nextNumber, before.nextNumber + 1]
      before.numbers).Sublist outer.numbers := by
  have forked : (before.take (.fork writer.segment)).ComesOf audience occasions []
      (changes ++ [.fork writer.segment]) :=
    comes.take (fun _ same => by cases same; exact within) rfl
  have counted := Outlet.counted_blank.after comes.within
  have countedForked := Outlet.counted_blank.after forked.within
  rw [← comes.became] at counted
  rw [← forked.became] at countedForked
  have numbers : (before.take (.fork writer.segment)).bare.numbers = Outlet.insertPassed
      writer.segment [before.nextNumber, before.nextNumber + 1] before.numbers :=
    Outlet.numbers_take counted.nodup (.fork writer.segment)
  have became := wentOn.became
  rw [Outlet.after_append, ← forked.became] at became
  have within : Change.AllWithin (before.take (.fork writer.segment)).bare.nextNumber more := by
    have both := (Change.allWithin_append.mp wentOn.within).2
    rwa [forked.sizeAfterAll] at both
  have kept := Outlet.sublist_after countedForked within
  rw [numbers, ← became] at kept
  exact kept

/-- A capture reports errors: that of the closure, and that of the continuation, unless it is set on
a segment that has left; and it hands the whole text on where there are none. Every text that a
capture has come to has been taken once. -/
theorem runReacting_captures (fresh : sink.Fresh)
    (ran : runReacting reaction depth sink head first (Store.initial blank) = some ((), earlier))
    (kept : earlier.client.handles.find? handle = some writer)
    (there : earlier.outlets[writer.outlet]? = some before)
    (stays : writer.segment ∉ before.passed)
    (wentOn : operateAll (reactingWithin reaction depth)
      (.capture handle target inner rendering rendered name following followed :: rest) earlier =
        some ((), later)) :
    ∃ outer stub changes own,
      later.outlets[writer.outlet]? = some outer ∧
      later.outlets[earlier.outlets.size]? = some stub ∧
      outer.ComesOf sink.audience later.client.occasions [] changes ∧
      stub.ComesOf sink.audience later.client.occasions [] own ∧
      Captured writer rendered followed before outer stub changes own ∧
      later.client.captured.Perm later.captures := by
  have upright := upright_runReacting fresh ran
  have apart : writer.outlet ≠ earlier.outlets.size := Nat.ne_of_lt (Store.lt_size_of_outlet there)
  obtain ⟨-, history, found⟩ := rest_of_upright upright there rfl rfl
  have comes : before.ComesOf sink.audience earlier.client.occasions [] history := found
  have within : writer.segment < before.nextNumber := by
    obtain ⟨found, present, bound⟩ := (upright.handles _ (Members.mem_of_find? kept)).holds
    rw [there] at present
    cases present
    exact bound
  obtain ⟨past, known, set⟩ := upright_captured fresh ran kept there stays wentOn comes
  have member : ∀ last ∈ [Writer.onOutlet earlier.outlets.size,
      { writer with segment := before.nextNumber + 1 }], ∃ outlet,
        later.outlets[last.outlet]? = some outlet := fun last listed =>
    have ⟨outlet, present, _⟩ := (known.held last (List.mem_append_left _ listed)).holds
    ⟨outlet, present⟩
  obtain ⟨stub, stubThere⟩ := member _ List.mem_cons_self
  obtain ⟨outer, outerThere⟩ := member _ (List.mem_cons_of_mem _ (List.mem_singleton_self _))
  obtain ⟨stubSettled, own, stubCourse⟩ := rest_of_upright known stubThere rfl rfl
  obtain ⟨outerSettled, further, outerCourse⟩ := rest_of_upright known outerThere rfl rfl
  have stubComes : stub.ComesOf sink.audience later.client.occasions [] (past ++ own) := by
    simp only [Ledger.holding, Writer.onOutlet, Function.update_self] at stubCourse
    exact stubCourse
  have outerComes : outer.ComesOf sink.audience later.client.occasions []
      (history ++ [.fork writer.segment] ++ further) := by
    simp only [Ledger.holding, Function.update_of_ne apart, Function.update_self] at outerCourse
    exact outerCourse
  have notFirst : earlier.outlets.size ≠ 0 := fun zero =>
    Nat.not_lt_zero _ (zero ▸ Store.lt_size_of_outlet there)
  obtain ⟨text, result, onResult, gathers⟩ : ∃ text result onResult,
      stub.sink = .collect text result onResult := by
    cases gathers : stub.sink with
    | collect text result onResult => exact ⟨text, result, onResult, rfl⟩
    | stream listeners => exact absurd ((known.covers _ _ stubThere).stream _ gathers).1 notFirst
  -- Where an error was set on the branch, that is the history to tell.
  let pending := (watching earlier writer before name following followed).pending
  obtain ⟨changes, changesComes, blames⟩ : ∃ changes,
      outer.ComesOf sink.audience later.client.occasions [] changes ∧
        ∀ final ∈ result, ∀ error ∈ pending.error? final,
          .fail before.nextNumber error ∈ changes ∧
            (final = .error error → before.nextNumber ∉ outer.passed) := by
    rcases (known.watched _ rfl).state with ⟨⟨found, _, present, waits⟩, -⟩ |
      ⟨final, ⟨found, _, present, come⟩, -, blamed⟩
    · have same : some stub = some found := stubThere.symm.trans present
      cases same
      rw [gathers] at waits
      cases waits
      exact ⟨_, outerComes, fun _ none => by cases none⟩
    · have same : some stub = some found := stubThere.symm.trans present
      cases same
      rw [gathers] at come
      cases come
      cases cause : pending.error? final with
      | none =>
          exact ⟨_, outerComes, fun _ same _ some => by cases same; rw [cause] at some; cases some⟩
      | some error =>
          obtain ⟨found, changes, present, comesAlso, failed, waits⟩ :=
            blamed rfl _ (List.mem_singleton_self _) error cause
          have same : some outer = some found := outerThere.symm.trans present
          cases same
          refine ⟨changes, comesAlso, fun _ same other some => ?_⟩
          cases same
          rw [cause] at some
          cases some
          exact ⟨failed, waits⟩
  refine ⟨outer, stub, changes, _, outerThere, stubThere, changesComes, stubComes,
    ⟨place_kept comes within outerComes, fun timely => ?_, fun error failed waits => ?_,
      fun error text failed complete waits => ?_, fun ended sound => ?_⟩, ?_⟩
  · rw [Outlet.join_told changesComes.within timely, changesComes.passed]
  · have setError := List.mem_append_left own (set error failed)
    have fails := Outlet.fails_of_stays stubComes.within stubComes.became stubSettled setError waits
    obtain ⟨texts, last, setLast, told⟩ := fails.first (Outlet.head?_eq_zero stubComes waits)
    have come := result_of_told stubComes gathers told
    cases come
    obtain ⟨setOuter, waitsOuter⟩ := blames (.error last) rfl last rfl
    exact ⟨setError, texts, last, setLast, told, Outlet.fails_of_stays changesComes.within
      changesComes.became outerSettled setOuter (waitsOuter rfl)⟩
  · rw [gathers] at complete
    rcases result with _ | _ | last
    · cases complete
    · cases complete
    · subst failed
      obtain ⟨setOuter, -⟩ := blames (.ok last) rfl error rfl
      exact Outlet.fails_of_stays changesComes.within changesComes.became outerSettled setOuter
        waits
  · obtain ⟨passed, texts, told⟩ := Outlet.completes stubComes.within stubComes.became stubSettled
      ended sound
    have come := result_of_told stubComes gathers told
    cases come
    refine ⟨String.join texts, by rw [gathers]; rfl, fun timely => ?_⟩
    have joined := Outlet.join_told stubComes.within timely
    rw [told, ← stubComes.passed, passed] at joined
    rw [← joined]
    simp [Outlet.pieces, List.filterMap_map]
  · have taken := known.taken
    rwa [show (Ledger.holding _ _).unheard = [] from rfl, List.append_nil] at taken

/-- A closure writes and fails. What was written in front of the capture is told, and the error. -/
theorem runReacting_captures_failing :
    let sink : Sink Pending Unit := .stream ⟨[()], [()], [()]⟩
    ∃ earlier later writer before outer stub changes own,
      runReacting (fun _ => []) 3 sink "c" [.write "c" "c" fun _ => "a"] (Store.initial blank) =
        some ((), earlier) ∧
      earlier.client.handles.find? "c" = some writer ∧
      earlier.outlets[writer.outlet]? = some before ∧ writer.segment ∉ before.passed ∧
      operateAll (reactingWithin (fun _ => []) 3)
          [.capture "c" "d" "s" [.write "s" "s" fun _ => "x"] (.error (.function "m")) "b" []
            (.ok "b"), .finish "d"] earlier = some ((), later) ∧
      later.outlets[writer.outlet]? = some outer ∧
      later.outlets[earlier.outlets.size]? = some stub ∧
      outer.ComesOf sink.audience later.client.occasions [] changes ∧
      stub.ComesOf sink.audience later.client.occasions [] own ∧
      Captured writer (.error (.function "m")) (.ok "b") before outer stub changes own ∧
      later.client.captured.Perm later.captures ∧
      0 ∉ stub.passed ∧ outer.head? = some before.nextNumber ∧
      later.client.occasions = [.data "a", .failed (.function "m")] := by
  intro sink
  let first : List Operation := [.write "c" "c" fun _ => "a"]
  let rest : List Operation := [.capture "c" "d" "s" [.write "s" "s" fun _ => "x"]
    (.error (.function "m")) "b" [] (.ok "b"), .finish "d"]
  have evaluated :
      ((runReacting (fun _ => []) 3 sink "c" first (Store.initial blank)).bind fun earlier =>
        (earlier.2.client.handles.find? "c").bind fun writer =>
          earlier.2.outlets[writer.outlet]?.bind fun before =>
            (operateAll (reactingWithin (fun _ => []) 3) rest earlier.2).bind fun later =>
              later.2.outlets[writer.outlet]?.bind fun outer =>
                later.2.outlets[earlier.2.outlets.size]?.map fun stub =>
                  (writer.segment, before.passed, stub.passed,
                    outer.head? == some before.nextNumber, later.2.client.occasions)) =
        some (0, [], [], true, [.data "a", .failed (.function "m")]) := by
    decide +kernel
  obtain ⟨⟨⟨⟩, earlier⟩, ran, evaluated⟩ := Option.bind_eq_some_iff.mp evaluated
  obtain ⟨writer, kept, evaluated⟩ := Option.bind_eq_some_iff.mp evaluated
  obtain ⟨before, there, evaluated⟩ := Option.bind_eq_some_iff.mp evaluated
  obtain ⟨⟨⟨⟩, later⟩, wentOn, evaluated⟩ := Option.bind_eq_some_iff.mp evaluated
  obtain ⟨outer, present, evaluated⟩ := Option.bind_eq_some_iff.mp evaluated
  obtain ⟨stub, opened, evaluated⟩ := Option.map_eq_some_iff.mp evaluated
  simp only [Prod.mk.injEq, beq_iff_eq] at evaluated
  obtain ⟨-, passed, waits, leads, occasions⟩ := evaluated
  have stays : writer.segment ∉ before.passed := by simp [passed]
  have fresh : sink.Fresh := trivial
  obtain ⟨found, own, changes, ownChanges, same, sameStub, comes, ownComes, captured, taken⟩ :=
    runReacting_captures fresh ran kept there stays wentOn
  rw [present] at same
  rw [opened] at sameStub
  cases same
  cases sameStub
  exact ⟨earlier, later, writer, before, outer, stub, changes, ownChanges, ran, kept, there, stays,
    wentOn, present, opened, comes, ownComes, captured, taken, by simp [waits], leads, occasions⟩

/-- A closure forks, ends the branch and fails. The segment on which the error is set has left, all
in front of the capture has been delivered, and nobody is told. -/
theorem capture_unheard :
    ∃ earlier later before outer,
      runReacting (fun _ => []) 3 (.collect "" none (some .answer)) "c" [] (Store.initial blank) =
        some ((), earlier) ∧
      earlier.outlets[0]? = some before ∧
      operateAll (reactingWithin (fun _ => []) 3)
          [.capture "c" "d" "s" [.fork "s" "t" "f", .finish "f"] (.error (.function "m")) "b" []
            (.ok "b"), .finish "d"] earlier = some ((), later) ∧
      later.outlets[0]? = some outer ∧ outer.head? = some before.nextNumber ∧
      outer.finished = false ∧ later.client.answers = [] := by
  let rest : List Operation := [.capture "c" "d" "s" [.fork "s" "t" "f", .finish "f"]
    (.error (.function "m")) "b" [] (.ok "b"), .finish "d"]
  have evaluated :
      ((runReacting (fun _ => []) 3 (.collect "" none (some .answer)) "c" []
          (Store.initial blank)).bind fun earlier =>
        earlier.2.outlets[0]?.bind fun before =>
          (operateAll (reactingWithin (fun _ => []) 3) rest earlier.2).bind fun later =>
            later.2.outlets[0]?.map fun outer =>
              (outer.head? == some before.nextNumber, outer.finished, later.2.client.answers)) =
        some (true, false, []) := by
    decide +kernel
  obtain ⟨⟨⟨⟩, earlier⟩, ran, evaluated⟩ := Option.bind_eq_some_iff.mp evaluated
  obtain ⟨before, there, evaluated⟩ := Option.bind_eq_some_iff.mp evaluated
  obtain ⟨⟨⟨⟩, later⟩, wentOn, evaluated⟩ := Option.bind_eq_some_iff.mp evaluated
  obtain ⟨outer, present, evaluated⟩ := Option.map_eq_some_iff.mp evaluated
  simp only [Prod.mk.injEq, beq_iff_eq] at evaluated
  exact ⟨earlier, later, before, outer, ran, there, wentOn, present, evaluated⟩

end Desk

end BraceTemplate.Output
