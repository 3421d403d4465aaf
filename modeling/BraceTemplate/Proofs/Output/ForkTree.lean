import Mathlib.Tactic.Tauto
import BraceTemplate.Proofs.Output.Debts

/-!
# Fork trees

What is done through the handles of one outlet, when every handle is used in order and ended once.
A tree says what one handle does; where it forks, the branch has a tree of its own. The steps of
different handles may be taken in any order. Whatever the order, the outlet yields the text of the
tree in order: once, with the step that ends the last handle.
-/

namespace BraceTemplate.Output

/-- What is done through a handle. -/
inductive ForkTree where
  | finish
  | write (text : String) (next : ForkTree)
  | tap (newest : Tap) (next : ForkTree)
  | untap (next : ForkTree)
  /-- Another handle goes on with the branch. -/
  | fork (branch next : ForkTree)

namespace ForkTree

/-- The text that a handle with some taps, and the handles forked off it, write, in order. -/
def text : ForkTree → List Tap → String
  | finish, _ => ""
  | write text next, taps => Tap.passedAll taps text ++ next.text taps
  | tap newest next, taps => next.text (newest :: taps)
  | untap next, taps => next.text taps.tail
  | fork branch next, taps => branch.text taps ++ next.text taps

/-- The number of steps of a handle and of the handles forked off it. -/
def steps : ForkTree → Nat
  | finish => 1
  | write _ next => next.steps + 1
  | tap _ next => next.steps + 1
  | untap next => next.steps + 1
  | fork branch next => branch.steps + next.steps + 1

section Play

variable {Continuation Listener Client : Type}

/-- Takes the first step; yields the handles that go on, with what is left for them to do. -/
def step (handlers : Handlers Continuation Listener Client) (writer : Writer) :
    ForkTree → Run Continuation Listener Client (List (Writer × ForkTree))
  | finish => do
    writer.finish handlers
    pure []
  | write text next => do
    let writer ← writer.write text
    pure [(writer, next)]
  | tap newest next => pure [(writer.tap newest, next)]
  | untap next => pure [(writer.untap, next)]
  | fork branch next => do
    let (inner, later) ← writer.fork
    pure [(inner, branch), (later, next)]

end Play

end ForkTree

/-- The handles that are in use, each with what is left for it to do, and the store they work on. -/
structure Play (Continuation Listener Client : Type) where
  live : List (Writer × ForkTree)
  store : Store Continuation Listener Client

namespace Play

variable {Continuation Listener Client : Type}

/-- A tree is about to be played on a new collecting outlet. -/
def opening (tree : ForkTree) (callback : Continuation)
    (store : Store Continuation Listener Client) : Play Continuation Listener Client :=
  ⟨[(Writer.onOutlet store.outlets.size, tree)],
    { store with
      outlets := store.outlets.push (Outlet.opened (.collect "" none (some callback))) }⟩

/-- A number of steps lead from one play to another: each is the next step of any handle. -/
inductive Reaches (handlers : Handlers Continuation Listener Client)
    (first : Play Continuation Listener Client) :
    Nat → Play Continuation Listener Client → Prop
  | start : Reaches handlers first 0 first
  | step {count : Nat} (before behind : List (Writer × ForkTree))
      {going : List (Writer × ForkTree)} {writer : Writer} {tree : ForkTree}
      {store later : Store Continuation Listener Client}
      (earlier : Reaches handlers first count ⟨before ++ (writer, tree) :: behind, store⟩)
      (taken : tree.step handlers writer store = some (going, later)) :
      Reaches handlers first (count + 1) ⟨before ++ going ++ behind, later⟩

end Play

/-- Reactions that note every result that is handed on, and nothing else. -/
def noting {Continuation Listener : Type} (moreRounds : Nat) :
    Handlers Continuation Listener (List (Continuation × Except RenderError String)) :=
  ⟨moreRounds + 1,
    fun continuation result => modifyClient fun noted => noted ++ [(continuation, result)],
    fun listener _ => pure listener⟩

theorem handOn_noting {Continuation Listener : Type} (moreRounds : Nat)
    (callback : Continuation) (result : Except RenderError String)
    (store : Store Continuation Listener (List (Continuation × Except RenderError String))) :
    handOn (noting moreRounds) (some callback) result store =
      some ((), { store with client := store.client ++ [(callback, result)] }) :=
  rfl

namespace Play

variable {Continuation Listener : Type}

def debts (live : List (Writer × ForkTree)) : Debts :=
  live.map fun entry => (entry.1.segment, entry.2.text entry.1.taps)

/-- A play that gathers towards a text: its outlet waits for what the handles in use still write.
-/
structure Towards (text : String) (callback : Continuation) (id : OutletId)
    (noted : List (Continuation × Except RenderError String))
    (play : Play Continuation Listener (List (Continuation × Except RenderError String))) :
    Prop where
  onOutlet : ∀ entry ∈ play.live, entry.1.outlet = id
  unnoted : play.store.client = noted
  gathers : ∃ gathering : Gathering Continuation,
    play.store.outlets[id]? = some gathering.outlet ∧ gathering.onResult = some callback ∧
      gathering.Awaits (debts play.live) text

/-- The same, seen from the spot of one handle, which still writes a text. -/
structure TowardsAt (text : String) (callback : Continuation) (others : List (Writer × ForkTree))
    (writer : Writer) (left : String) (spot : Spot Continuation)
    (store : Store Continuation Listener (List (Continuation × Except RenderError String))) :
    Prop where
  standing : writer.StandsAt spot store
  callback : spot.onResult = some callback
  awaits : spot.Awaits (debts others) left text

variable {text : String} {callback : Continuation} {id : OutletId}
variable {noted : List (Continuation × Except RenderError String)}
variable {before behind : List (Writer × ForkTree)} {writer : Writer} {tree : ForkTree}
variable {store : Store Continuation Listener (List (Continuation × Except RenderError String))}

theorem debts_split (tree : ForkTree) :
    (debts (before ++ (writer, tree) :: behind)).Perm
      ((writer.segment, tree.text writer.taps) :: debts (before ++ behind)) := by
  simp [debts]

theorem Towards.exists_spot
    (towards : Towards text callback id noted ⟨before ++ (writer, tree) :: behind, store⟩) :
    ∃ spot, TowardsAt text callback (before ++ behind) writer (tree.text writer.taps) spot
      store := by
  obtain ⟨gathering, there, onResult, awaits⟩ := towards.gathers
  have sameOutlet : writer.outlet = id := towards.onOutlet (writer, tree) (by simp)
  obtain ⟨spot, same, sameNumber, unended, here⟩ :=
    (awaits.of_perm (debts_split tree)).exists_spot
  subst same
  exact ⟨spot, ⟨sameOutlet ▸ there, sameNumber, unended, awaits.orderly⟩, onResult, here⟩

/-- A handle that goes on at its spot keeps the play going towards its text. -/
theorem TowardsAt.going {spot : Spot Continuation}
    (towards : TowardsAt text callback (before ++ behind) writer (tree.text writer.taps) spot store)
    (onOutlet : ∀ entry ∈ before ++ (writer, tree) :: behind, entry.1.outlet = writer.outlet)
    (unnoted : store.client = noted) :
    Towards text callback writer.outlet noted ⟨before ++ (writer, tree) :: behind, store⟩ := by
  have standing := towards.standing
  have awaits := towards.awaits.gathering_awaits standing.unended standing.orderly
  rw [standing.sameNumber] at awaits
  exact ⟨onOutlet, unnoted, spot.gathering, standing.there, towards.callback,
    awaits.of_perm (debts_split tree).symm⟩

/-- A fork at a spot puts two handles in the place of one. -/
theorem TowardsAt.forking {spot : Spot Continuation} {branch next : ForkTree}
    (towards : TowardsAt text callback (before ++ behind) writer
      (branch.text writer.taps ++ next.text writer.taps) spot store)
    (onOutlet : ∀ entry ∈ before ++ behind, entry.1.outlet = writer.outlet)
    (unnoted : store.client = noted) :
    Towards text callback writer.outlet noted
      ⟨before ++ ({ writer with segment := spot.nextNumber }, branch) ::
          ({ writer with segment := spot.nextNumber + 1 }, next) :: behind,
        store.put writer.outlet spot.onBranch.gathering.outlet⟩ := by
  have branching := towards.standing.branch_standsAt
  refine ⟨?_, unnoted, spot.onBranch.gathering, branching.there, towards.callback, ?_⟩
  · intro entry member
    have parts :
        entry = ({ writer with segment := spot.nextNumber }, branch) ∨
          entry = ({ writer with segment := spot.nextNumber + 1 }, next) ∨
            entry ∈ before ++ behind := by
      simp only [List.mem_append, List.mem_cons] at member ⊢
      tauto
    rcases parts with rfl | rfl | other
    · rfl
    · rfl
    · exact onOutlet entry other
  · refine (towards.awaits.onBranch_awaits branching.orderly).of_perm ?_
    simp only [debts, List.map_append, List.map_cons]
    exact ((List.perm_middle.trans (List.perm_middle.cons _)).symm)

/-- Ending a handle while others are in use leaves the play going towards its text. -/
theorem TowardsAt.finishing {spot : Spot Continuation} (moreRounds : Nat)
    (towards : TowardsAt text callback (before ++ behind) writer "" spot store)
    (onOutlet : ∀ entry ∈ before ++ behind, entry.1.outlet = writer.outlet)
    (unnoted : store.client = noted) (others : before ++ behind ≠ []) :
    ∃ later,
      writer.finish (noting moreRounds) store = some ((), later) ∧
        Towards text callback writer.outlet noted ⟨before ++ behind, later⟩ := by
  have bound := Store.lt_size_of_outlet towards.standing.there
  have someOpen :
      Segment.openNumbers spot.before ++ Segment.openNumbers spot.behind ≠ [] := by
    intro noneOpen
    have opens := towards.awaits.opens
    rw [noneOpen] at opens
    exact others (by simpa [debts] using opens.nil_eq.symm)
  exact ⟨_, towards.standing.finish_pending someOpen (Nat.succ_pos moreRounds), onOutlet,
    unnoted, spot.closed.gathering.drained, Store.put_outlets_self _ _ bound, towards.callback,
    towards.awaits.closed towards.standing.closed_orderly⟩

theorem TowardsAt.finishingLast {spot : Spot Continuation} (moreRounds : Nat)
    (towards : TowardsAt text callback [] writer "" spot store)
    (unnoted : store.client = noted) :
    ∃ later,
      writer.finish (noting moreRounds) store = some ((), later) ∧
        later.client = noted ++ [(callback, .ok text)] := by
  have bound := Store.lt_size_of_outlet towards.standing.there
  have noneOpen :
      Segment.openNumbers spot.before ++ Segment.openNumbers spot.behind = [] :=
    List.Perm.eq_nil towards.awaits.opens
  have gathered : spot.closed.gathering.drained.text = text :=
    towards.awaits.text_drained towards.standing.closed_orderly
  have handedOn := handOn_noting moreRounds callback (.ok text)
    (store.put writer.outlet (spot.closed.gathering.telling (.ok text)))
  refine ⟨_, towards.standing.finish_finished noneOpen (Nat.succ_pos moreRounds)
    (by rw [towards.callback, gathered]; exact handedOn)
    (by rw [gathered]; exact Store.put_outlets_self _ _ bound), ?_⟩
  simp [unnoted]

theorem TowardsAt.writing {spot : Spot Continuation} {others : List (Writer × ForkTree)}
    {written left : String}
    (towards : TowardsAt text callback others writer
      (Tap.passedAll writer.taps written ++ left) spot store) :
    ∃ spot later,
      writer.write written store = some (writer, later) ∧ later.client = store.client ∧
        TowardsAt text callback others writer left spot later := by
  obtain ⟨pots, equality⟩ := towards.standing.write_eq written
  refine ⟨spot.written (Tap.passedAll writer.taps written), _, equality, rfl,
    ⟨?_, towards.standing.sameNumber, towards.standing.unended, ?_⟩, towards.callback,
    towards.awaits.written⟩
  · exact Store.put_outlets_self _ _ (Store.lt_size_of_outlet towards.standing.there)
  · exact towards.standing.orderly.write _

theorem TowardsAt.retapped {spot : Spot Continuation} {others : List (Writer × ForkTree)}
    {left : String} (towards : TowardsAt text callback others writer left spot store)
    (taps : List Tap) :
    TowardsAt text callback others { writer with taps := taps } left spot store :=
  ⟨⟨towards.standing.there, towards.standing.sameNumber, towards.standing.unended,
    towards.standing.orderly⟩, towards.callback, towards.awaits⟩

/-- Where the handles in use are about to end a play, or have ended it. -/
structure Kept (text : String) (callback : Continuation) (id : OutletId)
    (noted : List (Continuation × Except RenderError String))
    (play : Play Continuation Listener (List (Continuation × Except RenderError String))) :
    Prop where
  going : play.live ≠ [] → Towards text callback id noted play
  done : play.live = [] → play.store.client = noted ++ [(callback, .ok text)]

theorem Towards.kept
    {play : Play Continuation Listener (List (Continuation × Except RenderError String))}
    (towards : Towards text callback id noted play) (live : play.live ≠ []) :
    Kept text callback id noted play :=
  ⟨fun _ => towards, fun none => absurd none live⟩

/-- Every handle in use can take its next step, and the step keeps what holds of the play. -/
theorem Towards.step (moreRounds : Nat)
    (towards : Towards text callback id noted ⟨before ++ (writer, tree) :: behind, store⟩) :
    ∃ going later,
      tree.step (noting moreRounds) writer store = some (going, later) ∧
        Kept text callback id noted ⟨before ++ going ++ behind, later⟩ := by
  obtain ⟨spot, here⟩ := towards.exists_spot
  have sameOutlet : writer.outlet = id := towards.onOutlet (writer, tree) (by simp)
  have onOutlet : ∀ entry ∈ before ++ behind, entry.1.outlet = writer.outlet := by
    intro entry member
    rw [sameOutlet]
    apply towards.onOutlet entry
    simp only [List.mem_append, List.mem_cons] at member ⊢
    tauto
  have onOutletWith :
      ∀ (next : ForkTree) (taps : List Tap),
        ∀ entry ∈ before ++ ({ writer with taps := taps }, next) :: behind,
          entry.1.outlet = writer.outlet := by
    intro next taps entry member
    have parts : entry = ({ writer with taps := taps }, next) ∨ entry ∈ before ++ behind := by
      simp only [List.mem_append, List.mem_cons] at member ⊢
      tauto
    rcases parts with rfl | other
    · rfl
    · exact onOutlet entry other
  subst sameOutlet
  cases tree with
  | finish =>
      by_cases others : before ++ behind = []
      · rw [others] at here
        obtain ⟨later, finished, client⟩ :=
          here.finishingLast moreRounds towards.unnoted
        refine ⟨[], later, ?_, ?_, ?_⟩
        · simp [ForkTree.step, run_bind, finished, run_pure]
        · exact fun some => absurd (by simpa using others) some
        · exact fun _ => client
      · obtain ⟨later, finished, going⟩ :=
          here.finishing moreRounds onOutlet towards.unnoted others
        refine ⟨[], later, ?_, ?_⟩
        · simp [ForkTree.step, run_bind, finished, run_pure]
        · simpa using going.kept others
  | write text next =>
      obtain ⟨spot, later, written, sameClient, there⟩ := here.writing
      refine ⟨[(writer, next)], later, ?_, ?_⟩
      · simp [ForkTree.step, run_bind, written, run_pure]
      · have going := there.going (onOutletWith next writer.taps)
          (sameClient.trans towards.unnoted)
        simpa using going.kept (by simp)
  | tap newest next =>
      have there := here.retapped (newest :: writer.taps)
      have going := there.going (onOutletWith next (newest :: writer.taps)) towards.unnoted
      refine ⟨[(writer.tap newest, next)], store, rfl, ?_⟩
      simpa [Writer.tap] using going.kept (by simp)
  | untap next =>
      have there := here.retapped writer.taps.tail
      have going := there.going (onOutletWith next writer.taps.tail) towards.unnoted
      refine ⟨[(writer.untap, next)], store, rfl, ?_⟩
      simpa [Writer.untap] using going.kept (by simp)
  | fork branch next =>
      refine ⟨[({ writer with segment := spot.nextNumber }, branch),
          ({ writer with segment := spot.nextNumber + 1 }, next)],
        store.put writer.outlet spot.onBranch.gathering.outlet, ?_, ?_⟩
      · rw [ForkTree.step, run_bind, here.standing.fork_eq]
        rfl
      · have going := here.forking onOutlet towards.unnoted
        simpa using going.kept (by simp)

theorem opening_towards (tree : ForkTree) (callback : Continuation)
    (store : Store Continuation Listener (List (Continuation × Except RenderError String))) :
    Towards (tree.text []) callback store.outlets.size store.client
      (opening tree callback store) := by
  have standing := standsAt_opening store (some callback)
  have awaits : (Spot.opening (some callback)).Awaits [] (tree.text []) (tree.text []) :=
    ⟨.refl _, fun coming _ => by simp [Spot.sofar, Spot.opening, Segment.fresh]⟩
  exact ⟨by simp [opening, Writer.onOutlet], rfl, (Spot.opening (some callback)).gathering,
    standing.there, rfl, awaits.gathering_awaits rfl standing.orderly⟩

theorem Reaches.kept {moreRounds count : Nat}
    {play : Play Continuation Listener (List (Continuation × Except RenderError String))}
    (reached : Reaches (noting moreRounds) (opening tree callback store) count play) :
    Kept (tree.text []) callback store.outlets.size store.client play := by
  induction reached with
  | start => exact (opening_towards tree callback store).kept (by simp [opening])
  | step before behind earlier taken inductionHypothesis =>
      obtain ⟨going, later, equality, kept⟩ :=
        (inductionHypothesis.going (by simp)).step moreRounds
      rw [equality] at taken
      cases taken
      exact kept

end Play

namespace ForkTree

variable {Continuation Listener Client : Type}

theorem steps_pos (tree : ForkTree) : 0 < tree.steps := by
  cases tree <;> simp [steps]

def stepsLeft : List (Writer × ForkTree) → Nat
  | [] => 0
  | entry :: others => entry.2.steps + stepsLeft others

@[simp]
theorem stepsLeft_append (first second : List (Writer × ForkTree)) :
    stepsLeft (first ++ second) = stepsLeft first + stepsLeft second := by
  induction first with
  | nil => simp [stepsLeft]
  | cons entry others inductionHypothesis =>
      simp only [List.cons_append, stepsLeft, inductionHypothesis]
      omega

theorem stepsLeft_eq_zero {live : List (Writer × ForkTree)} :
    stepsLeft live = 0 ↔ live = [] := by
  constructor
  · intro noneLeft
    cases live with
    | nil => rfl
    | cons entry others =>
        have positive := entry.2.steps_pos
        simp only [stepsLeft] at noneLeft
        omega
  · rintro rfl
    rfl

/-- A step is one of those that were left. -/
theorem stepsLeft_of_step {handlers : Handlers Continuation Listener Client} {writer : Writer}
    {tree : ForkTree} {store later : Store Continuation Listener Client}
    {going : List (Writer × ForkTree)}
    (taken : tree.step handlers writer store = some (going, later)) :
    tree.steps = stepsLeft going + 1 := by
  cases tree with
  | finish =>
      obtain ⟨_, _, _, yielded⟩ := bind_eq_some.mp taken
      cases yielded
      rfl
  | write text next =>
      obtain ⟨_, _, _, yielded⟩ := bind_eq_some.mp taken
      cases yielded
      simp [steps, stepsLeft]
  | tap newest next =>
      cases taken
      simp [steps, stepsLeft]
  | untap next =>
      cases taken
      simp [steps, stepsLeft]
  | fork branch next =>
      obtain ⟨_, _, _, yielded⟩ := bind_eq_some.mp taken
      cases yielded
      simp [steps, stepsLeft]

end ForkTree

namespace Play

variable {Continuation Listener Client : Type}

theorem Reaches.count_add_stepsLeft {handlers : Handlers Continuation Listener Client}
    {tree : ForkTree} {callback : Continuation} {store : Store Continuation Listener Client}
    {count : Nat} {play : Play Continuation Listener Client}
    (reached : Reaches handlers (opening tree callback store) count play) :
    count + ForkTree.stepsLeft play.live = tree.steps := by
  induction reached with
  | start => simp [opening, ForkTree.stepsLeft]
  | step before behind earlier taken inductionHypothesis =>
      have spent := ForkTree.stepsLeft_of_step taken
      simp only [ForkTree.stepsLeft_append, ForkTree.stepsLeft] at inductionHypothesis ⊢
      omega

/-- Whatever the order of the steps of different handles: no step gets stuck, nothing is handed on
while a handle is in use, and the step that ends the last one, which is as many steps after the
opening as the tree has, hands on the text of the tree, once. -/
theorem Reaches.handsOnTextOnce {tree : ForkTree} {callback : Continuation}
    {store : Store Continuation Listener (List (Continuation × Except RenderError String))}
    {moreRounds count : Nat}
    {play : Play Continuation Listener (List (Continuation × Except RenderError String))}
    (reached : Reaches (noting moreRounds) (opening tree callback store) count play) :
    (∀ before writer left behind, play.live = before ++ (writer, left) :: behind →
      ∃ going later, left.step (noting moreRounds) writer play.store = some (going, later)) ∧
    (play.live ≠ [] → play.store.client = store.client) ∧
    (play.live = [] → play.store.client = store.client ++ [(callback, .ok (tree.text []))]) ∧
    (play.live = [] ↔ count = tree.steps) := by
  have kept := reached.kept
  have counted := reached.count_add_stepsLeft
  refine ⟨?_, fun live => (kept.going live).unnoted, kept.done, ?_⟩
  · intro before writer left behind split
    obtain ⟨live, middle⟩ := play
    simp only at split
    subst split
    obtain ⟨going, later, equality, -⟩ := (kept.going (by simp)).step moreRounds
    exact ⟨going, later, equality⟩
  · rw [← ForkTree.stepsLeft_eq_zero]
    omega

/-- The branch of a fork ends after what follows it has. -/
theorem Reaches.handsOnTextOnce_branchLast :
    ∃ play : Play Unit Unit (List (Unit × Except RenderError String)),
      Reaches (noting 0)
        (opening (.write "a" (.fork (.tap (.change (· ++ "!")) (.write "b" .finish))
          (.write "c" .finish))) () (Store.initial [])) 7 play ∧
      play.live = [] ∧ play.store.client = [((), .ok "ab!c")] := by
  let first : Play Unit Unit (List (Unit × Except RenderError String)) :=
    opening (.write "a" (.fork (.tap (.change (· ++ "!")) (.write "b" .finish))
      (.write "c" .finish))) () (Store.initial [])
  have opened : Reaches (noting 0) first 0 first := .start
  have written := opened.step [] [] rfl
  have forked := written.step [] [] rfl
  have writtenBehind := forked.step [_] [] rfl
  have endedBehind := writtenBehind.step [_] [] rfl
  have tapped := endedBehind.step [] [] rfl
  have writtenBranch := tapped.step [] [] rfl
  have reached := writtenBranch.step [] [] rfl
  exact ⟨_, reached, rfl, (handsOnTextOnce reached).2.2.1 rfl⟩

end Play

end BraceTemplate.Output
