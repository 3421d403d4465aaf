import BraceTemplate.Proofs.Output.Rounds

/-!
# Listeners that take part

A stream whose listeners may themselves go on with handles and attach further listeners when they
are told of something. Occasions are told one after the other, each to the listeners there were when
its telling began, in the order in which they were attached. The occasions are the texts of the
places in order, and then at most one end or failure.
-/

namespace BraceTemplate.Output

variable {Label : Type}

def attachedTo (channel : Channel) (notes : List (Note Label)) : List Label :=
  notes.filterMap fun
    | .attached label other => if other = channel then some label else none
    | _ => none

/-- What listeners have been told, in order. -/
def hearings (notes : List (Note Label)) : List (Label × Occasion) :=
  notes.filterMap fun
    | .heard label occasion => some (label, occasion)
    | _ => none

/-- Occasions that have been told one after the other. Each was told, once, to every listener that
was attached to its channel when the first of them heard of it, in the order of attachment, and to
nobody else. -/
inductive Told : List (Note Label) → List Occasion → Prop
  | nothing : Told [] []
  | aside {notes : List (Note Label)} {occasions : List Occasion} (told : Told notes occasions)
      (others : List (Note Label)) (quiet : hearings others = []) : Told (notes ++ others) occasions
  | telling {notes : List (Note Label)} {occasions : List Occasion} (told : Told notes occasions)
      (occasion : Occasion) (during : List (Note Label))
      (heard : hearings during =
        (attachedTo occasion.channel notes).map fun label => (label, occasion))
      (begins : ∀ note ∈ during.head?, hearings [note] ≠ []) :
      Told (notes ++ during) (occasions ++ [occasion])

def Tells (occasions : List Occasion) : Requirement Label := fun notes sink =>
  ∃ listeners, sink = .stream listeners ∧
    (∀ channel, attachedTo channel notes = listeners.on channel) ∧ Told notes occasions

/-- The outlet is a stream that is telling an occasion, which some listeners have heard and others
have yet to hear. -/
def Telling (occasions : List Occasion) (occasion : Occasion) (hearers others : List Label) :
    Requirement Label := fun notes sink =>
  ∃ listeners earlier during, sink = .stream listeners ∧ notes = earlier ++ during ∧
    Told earlier occasions ∧ attachedTo occasion.channel earlier = hearers ++ others ∧
    hearings during = (hearers.map fun label => (label, occasion)) ∧
    (∀ note ∈ during.head?, hearings [note] ≠ []) ∧
    ∀ channel, attachedTo channel notes =
      (if channel = occasion.channel then hearers ++ others else []) ++ listeners.on channel

theorem Listeners.on_withChannel (listeners : Listeners Label) (channel other : Channel)
    (held : List Label) :
    (listeners.withChannel channel held).on other =
      if other = channel then held else listeners.on other := by
  cases channel <;> cases other <;> rfl

theorem attachedTo_append (channel : Channel) (first second : List (Note Label)) :
    attachedTo channel (first ++ second) = attachedTo channel first ++ attachedTo channel second :=
  List.filterMap_append ..

theorem hearings_append (first second : List (Note Label)) :
    hearings (first ++ second) = hearings first ++ hearings second :=
  List.filterMap_append ..

theorem Course.hearings_notes (course : Course) (writer : Writer) :
    hearings (course.notes writer : List (Note Label)) = [] := by
  cases course <;> rfl

theorem Course.attachedTo_notes (course : Course) (writer : Writer) (channel : Channel) :
    attachedTo channel (course.notes writer : List (Note Label)) = [] := by
  cases course <;> rfl

section Lasting

variable {occasions : List Occasion} {occasion : Occasion} {hearers others : List Label}

theorem tells_lasts : (Tells occasions : Requirement Label).Lasts := by
  constructor
  · rintro notes sink course writer ⟨listeners, rfl, attached, told⟩
    refine ⟨listeners, rfl, fun channel => ?_, told.aside _ (course.hearings_notes writer)⟩
    rw [attachedTo_append, course.attachedTo_notes, List.append_nil, attached]
  · rintro notes sink channel label ⟨listeners, rfl, attached, told⟩
    refine ⟨_, rfl, fun other => ?_, told.aside _ rfl⟩
    rw [attachedTo_append, Listeners.on_withChannel, attached]
    by_cases same : other = channel
    · simp [same, attachedTo]
    · simp [same, attachedTo, Ne.symm same]

theorem begins_append {during more : List (Note Label)}
    (heard : hearings during = hearers.map fun label => (label, occasion))
    (some : hearers ≠ []) (begins : ∀ note ∈ during.head?, hearings [note] ≠ []) :
    ∀ note ∈ (during ++ more).head?, hearings [note] ≠ [] := by
  cases during with
  | nil => exact absurd (List.map_eq_nil_iff.mp heard.symm) some
  | cons first rest => exact begins

/-- Once somebody has heard of an occasion, steps and attachments belong to its telling. -/
theorem telling_lasts (some : hearers ≠ []) :
    (Telling occasions occasion hearers others : Requirement Label).Lasts := by
  constructor
  · rintro notes sink course writer
      ⟨listeners, earlier, during, rfl, rfl, told, attached, heard, begins, all⟩
    refine ⟨listeners, earlier, during ++ course.notes writer, rfl, List.append_assoc .., told,
      attached, ?_, begins_append heard some begins, fun channel => ?_⟩
    · rw [hearings_append, course.hearings_notes, List.append_nil, heard]
    · rw [attachedTo_append, course.attachedTo_notes, List.append_nil, all]
  · rintro notes sink channel label
      ⟨listeners, earlier, during, rfl, rfl, told, attached, heard, begins, all⟩
    refine ⟨_, earlier, during ++ [.attached label channel], rfl, List.append_assoc .., told,
      attached, ?_, begins_append heard some begins, fun other => ?_⟩
    · rw [hearings_append, heard]
      exact List.append_nil _
    · rw [attachedTo_append, Listeners.on_withChannel, all]
      by_cases same : other = channel
      · simp [same, attachedTo]
      · simp [same, attachedTo, Ne.symm same]

end Lasting

section Telling

variable {reaction : Reaction Label} {depth : Nat} {id : OutletId} {target left : List Place}
variable {held : List (Writer × Course)} {outcome : Outcome} {bound : Nat}
variable {outlet : Outlet Unit Label} {store : Store Unit Label (Company Label)}
variable {occasions : List Occasion} {occasion : Occasion} {hearers others : List Label}

/-- A listener that is told of an occasion makes its moves. -/
theorem hearWithin_leads (label : Label) :
    Leads (hearWithin reaction id (depth + 1) label occasion)
      (fun store => ∃ outlet, Busy (Telling occasions occasion hearers (label :: others)) target id
        held left outcome bound outlet store)
      (fun result store => result = label ∧ ∃ outlet,
        Busy (Telling occasions occasion (hearers ++ [label]) others) target id held left outcome
          bound outlet store) := by
  rintro store ⟨outlet, busy⟩
  have noted : Busy (Telling occasions occasion (hearers ++ [label]) others) target id held left
      outcome bound outlet { store with client := store.client.note (.heard label occasion) } := by
    refine busy.note (.heard label occasion) (by simp) ?_
    obtain ⟨listeners, earlier, during, sink, notes, told, attached, heard, begins, all⟩ :=
      busy.required
    refine ⟨listeners, earlier, during ++ [.heard label occasion], sink, ?_, told, ?_, ?_, ?_,
      fun channel => ?_⟩
    · rw [notes, List.append_assoc]
    · rw [attached, List.append_assoc]
      rfl
    · rw [hearings_append, heard, List.map_append]
      rfl
    · cases during with
      | nil => simp [hearings]
      | cons first rest => exact begins
    · rw [attachedTo_append, all, List.append_assoc hearers]
      simp [attachedTo]
  obtain ⟨_, later, ran, laterOutlet, after⟩ := Busy.performs (telling_lasts (by simp))
    ⟨depth, reportNoting, hearWithin reaction id depth⟩
    (reaction label occasion (store.client.note (.heard label occasion))) _ ⟨outlet, noted⟩
  refine ⟨label, later, ?_, rfl, laterOutlet, after⟩
  rw [hearWithin, run_bind, run_modifyClient, Option.bind_some, run_bind, run_client,
    Option.bind_some, run_bind, ran]
  rfl

theorem hearAll_leads (reaction : Reaction Label) (depth : Nat) (others : List Label) :
    Leads (others.mapM fun label => hearWithin reaction id (depth + 1) label occasion)
      (fun store => ∃ outlet, Busy (Telling occasions occasion hearers others) target id held left
        outcome bound outlet store)
      (fun result store => result = others ∧ ∃ outlet,
        Busy (Telling occasions occasion (hearers ++ others) []) target id held left outcome bound
          outlet store) := by
  induction others generalizing hearers with
  | nil =>
      rintro store before
      exact ⟨[], store, rfl, rfl, by simpa using before⟩
  | cons label rest inductionHypothesis =>
      rintro store before
      obtain ⟨_, middle, first, rfl, between⟩ := hearWithin_leads label store before
      obtain ⟨_, later, ran, rfl, after⟩ := inductionHypothesis middle between
      refine ⟨_, later, ?_, rfl, by simpa using after⟩
      rw [List.mapM_cons, run_bind, first, Option.bind_some, run_bind, ran]
      rfl

/-- An occasion is told to the listeners there are at its beginning, and all of them stay. -/
theorem tell_leads (occasion : Occasion) :
    Leads (tell (reacting reaction id (depth + 1)) id occasion)
      (fun store => ∃ outlet,
        Busy (Tells occasions) target id held left outcome bound outlet store)
      (fun _ store => ∃ outlet,
        Busy (Tells (occasions ++ [occasion])) target id held left outcome bound outlet store) := by
  rintro store ⟨outlet, busy⟩
  obtain ⟨listeners, sink, attached, told⟩ := busy.required
  have taken : Busy (Telling occasions occasion [] (listeners.on occasion.channel)) target id held
      left outcome bound
      { outlet with sink := .stream (listeners.withChannel occasion.channel []) }
      (store.put id
        { outlet with sink := .stream (listeners.withChannel occasion.channel []) }) := by
    refine busy.withSink _ _ ⟨_, store.client.notes, [], rfl, (List.append_nil _).symm, told,
      attached _, rfl, by simp, fun channel => ?_⟩
    rw [Listeners.on_withChannel, attached]
    by_cases same : channel = occasion.channel
    · simp [same]
    · simp [same]
  obtain ⟨_, later, ran, rfl, laterOutlet, after⟩ :=
    hearAll_leads reaction depth _ _ ⟨_, taken⟩
  obtain ⟨last, earlier, during, lastSink, notes, lastTold, lastAttached, heard, begins, all⟩ :=
    after.required
  refine ⟨(), _, ?_, _, after.withSink _ (.stream (last.withChannel occasion.channel
    (listeners.on occasion.channel ++ last.on occasion.channel))) ⟨_, rfl, fun channel => ?_, ?_⟩⟩
  · rw [tell, run_bind, listeners?_eq busy.there sink, Option.bind_some]
    simp only
    rw [run_bind, modifyListeners_eq busy.there sink, Option.bind_some, run_bind]
    simp only [reacting, ran, Option.bind_some]
    exact modifyListeners_eq after.there lastSink _
  · rw [Listeners.on_withChannel, all]
    by_cases same : channel = occasion.channel
    · simp [same]
    · simp [same]
  · rw [notes]
    refine lastTold.telling occasion during ?_ begins
    rw [heard, lastAttached, List.append_nil]

/-- Occasions are told one after the other. -/
theorem tellAll_leads (reaction : Reaction Label) (depth : Nat) (told : List Occasion) :
    Leads (told.forM (tell (reacting reaction id (depth + 1)) id))
      (fun store => ∃ outlet,
        Busy (Tells occasions) target id held left outcome bound outlet store)
      (fun _ store => ∃ outlet,
        Busy (Tells (occasions ++ told)) target id held left outcome bound outlet store) := by
  induction told generalizing occasions with
  | nil =>
      rintro store ⟨outlet, busy⟩
      exact ⟨(), store, rfl, outlet, by simpa using busy⟩
  | cons occasion rest inductionHypothesis =>
      rw [← List.singleton_append, ← List.append_assoc, List.singleton_append]
      exact (tell_leads occasion).bind fun _ => inductionHypothesis

/-- What an outlet has told when some places have left: their texts, and its end or failure. -/
def occasionsOf (left : List Place) (outcome : Outcome) : List Occasion :=
  (Place.pieces left).map .data ++ outcome.occasions

theorem tells_delivers :
    Delivers (reacting reaction id (depth + 1)) id target fun left outcome =>
      Tells (occasionsOf left outcome) := by
  constructor
  · rintro held left more outcome bound store ⟨outlet, busy⟩
    obtain ⟨listeners, sink, -⟩ := busy.required
    have told := tellAll_leads reaction depth
      ((Place.pieces more).map .data ++ outcome.occasions) store ⟨outlet, busy⟩
    have whole : occasionsOf left .pending ++ ((Place.pieces more).map .data ++ outcome.occasions) =
        occasionsOf (left ++ more) outcome := by
      simp [occasionsOf, Outcome.occasions, Place.pieces]
    rw [deliver_stream busy.there sink]
    rwa [whole] at told
  · rintro held left outcome bound store ⟨outlet, busy⟩
    obtain ⟨listeners, sink, -⟩ := busy.required
    exact ⟨(), store, deliver_stream busy.there sink [] .pending, outlet, busy⟩

end Telling

/-- What has ended and has not left stands behind a segment that is open or has failed, or has
failed itself, and then nothing more is to be told. -/
theorem Idle.undelivered {requires : Requirement Label} {target left : List Place} {id : OutletId}
    {outcome : Outcome} {bound : Nat} {outlet : Outlet Unit Label}
    {store : Store Unit Label (Company Label)} {before behind : List Segment} {segment : Segment}
    (idle : Idle requires target id [] left outcome bound outlet store)
    (waiting : outlet.waiting = before ++ segment :: behind)
    (ended : .ended segment.number ∈ store.client.notes) :
    (∃ earlier ∈ before, earlier.ended = false) ∨
      (∃ failed ∈ before, ∃ error, .failed failed.number error ∈ store.client.notes) ∨
        (outcome ≠ .pending ∧ ∃ error, .failed segment.number error ∈ store.client.notes) := by
  rcases idle.calm with finished | ⟨forked, front, rest, split, gone, unended, -⟩
  · have concluded : outcome ≠ .pending := by
      intro pending
      have unfinished := (idle.carries.going pending).1
      rw [finished] at unfinished
      cases unfinished
    obtain ⟨-, empty | ⟨first, rest, error, split, noted⟩⟩ := idle.carries.closing concluded
    · rw [waiting] at empty
      simp at empty
    · rw [waiting] at split
      cases before with
      | nil =>
          obtain ⟨rfl, -⟩ := List.cons.inj split
          exact .inr (.inr ⟨concluded, error, noted⟩)
      | cons head tail =>
          obtain ⟨rfl, -⟩ := List.cons.inj split
          exact .inr (.inl ⟨head, List.mem_cons_self, error, noted⟩)
  · have notForked : segment ∉ forked := fun member => (gone segment member).2.2 ended
    have notFront : segment ≠ front := by
      rintro rfl
      refine (idle.carries.ended _ ended).2 ?_
      rw [split, Segment.openNumbers_append, Segment.openNumbers_cons_of_open unended]
      simp
    refine .inl ⟨front, ?_, unended⟩
    rw [waiting] at split
    rcases List.append_eq_append_iff.mp split with ⟨more, forkedSplit, restSplit⟩ |
      ⟨more, beforeSplit, restSplit⟩
    · cases more with
      | nil => exact absurd (List.cons.inj restSplit).1 notFront
      | cons head tail =>
          obtain ⟨rfl, -⟩ := List.cons.inj restSplit
          exact absurd (by simp [forkedSplit]) notForked
    · cases more with
      | nil => exact absurd (List.cons.inj restSplit).1.symm notFront
      | cons head tail =>
          obtain ⟨rfl, -⟩ := List.cons.inj restSplit
          simp [beforeSplit]

/-- Works on a new stream. -/
def runListening (reaction : Reaction Label) (depth : Nat) (course : Course)
    (moves : List (Move Label)) : CompanyRun Label Unit :=
  runCompany reaction depth (.stream ⟨[], [], []⟩) course moves

/-- Whatever listeners do when they are told of something, and whatever is done in between: every
move ends. What has been told are the texts of the places that have left, without the empty ones,
and then at most one end or failure. Each of these was told to every listener that was attached to
its channel before, once, in the order of attachment. Between moves, what has ended and has not left
stands behind a segment that is open or has failed, or has failed itself, and then the end or the
failure has been told. -/
theorem runListening_tells (reaction : Reaction Label) (course : Course)
    (moves : List (Move Label)) (depth : Nat) (enough : course.steps < depth) :
    ∃ later outlet left outcome,
      runListening reaction depth course moves (Store.initial ⟨[], []⟩) = some ((), later) ∧
        later.outlets[0]? = some outlet ∧
        Told later.client.notes (occasionsOf left outcome) ∧
        Place.Reach (course.places [] .blank) left outcome ∧
        ∀ before segment behind, outlet.waiting = before ++ segment :: behind →
          .ended segment.number ∈ later.client.notes →
            (∃ earlier ∈ before, earlier.ended = false) ∨
              (∃ failed ∈ before, ∃ error, .failed failed.number error ∈ later.client.notes) ∨
                (outcome ≠ .pending ∧ ∃ error,
                  .failed segment.number error ∈ later.client.notes) := by
  obtain ⟨fewer, rfl⟩ := Nat.exists_eq_add_of_lt enough
  obtain ⟨later, outlet, left, outcome, ran, idle⟩ :=
    runCompany_leads (fun left outcome => Tells (occasionsOf left outcome))
      ⟨⟨[], [], []⟩, rfl, fun channel => by cases channel <;> rfl, .nothing⟩
      (fun _ _ => tells_lasts) enough
      tells_delivers moves
  obtain ⟨listeners, -, -, told⟩ := idle.required
  exact ⟨later, outlet, left, outcome, ran, idle.there, told, idle.carries.reach,
    fun before segment behind waiting ended => idle.undelivered waiting ended⟩

/-- At the first piece a listener brings in another one and goes on with the branch to its end. -/
def joining : Reaction String
  | "first", .data "a", _ => [.attach .data "second", .take 0, .take 0]
  | _, _, _ => []

theorem runListening_tells_joining :
    ∃ later outlet left outcome,
      runListening joining 7
          (.write "a" (.fork (.write "b" .finish) (.write "c" .finish)))
          [.attach .data "first", .take 0, .take 0, .take 1, .take 0] (Store.initial ⟨[], []⟩) =
        some ((), later) ∧
      later.outlets[0]? = some outlet ∧ Told later.client.notes (occasionsOf left outcome) ∧
      hearings later.client.notes =
        [("first", .data "a"), ("first", .data "b"), ("second", .data "b"), ("first", .data "c"),
          ("second", .data "c")] := by
  let course : Course := .write "a" (.fork (.write "b" .finish) (.write "c" .finish))
  let moves : List (Move String) := [.attach .data "first", .take 0, .take 0, .take 1, .take 0]
  obtain ⟨later, outlet, left, outcome, ran, there, told, -, -⟩ :=
    runListening_tells joining course moves 7 (by decide)
  have evaluated :
      (runListening joining 7 course moves (Store.initial ⟨[], []⟩)).map
          (fun found => hearings found.2.client.notes) =
        some [("first", .data "a"), ("first", .data "b"), ("second", .data "b"),
          ("first", .data "c"), ("second", .data "c")] := by
    decide +kernel
  rw [ran] at evaluated
  exact ⟨later, outlet, left, outcome, ran, there, told, Option.some.inj evaluated⟩

end BraceTemplate.Output
