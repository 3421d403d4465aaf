import BraceTemplate.Proofs.Output.Taps
import BraceTemplate.Proofs.Render.Likeness
import BraceTemplate.Proofs.Render.Telling

/-!
# Handles onto outlets that are alike

Writing, forking, ending, failing and delivering go on alike for outlets that differ in what becomes
of their results alone; only where a result is handed on does it matter what goes on with it.
-/

namespace BraceTemplate.Render

open Output

namespace Likeness

variable {likeness : Likeness} {id : OutletId} {outlet shadow : Outlet Continuation Observer}
variable {one other : Store Continuation Observer State}

/-- What is done to an outlet whatever becomes of its result. -/
theorem Outlets.changed (outlets : likeness.Outlets outlet shadow)
    {change : Outlet Continuation Observer → Outlet Continuation Observer}
    (blind : ∀ outlet sink, change { outlet with sink := sink } =
      { change outlet with sink := sink }) :
    likeness.Outlets (change outlet) (change shadow) := by
  cases outlets with
  | @intro outlet sink also sinks =>
      rw [blind outlet sink, blind outlet also]
      exact .intro (change outlet) sinks

theorem Sinks.takeUp {sink also : Sink Continuation Observer} (sinks : likeness.Sinks sink also)
    (outlet : Outlet Continuation Observer) (pieces : List String) (outcome : Outcome) :
    likeness.Outlets (takeUp { outlet with sink := sink } pieces outcome).outlet
        (takeUp { outlet with sink := also } pieces outcome).outlet ∧
      (takeUp { outlet with sink := also } pieces outcome).events =
        (takeUp { outlet with sink := sink } pieces outcome).events ∧
      likeness.HandsOn (takeUp { outlet with sink := sink } pieces outcome).handedOn
        (takeUp { outlet with sink := also } pieces outcome).handedOn := by
  cases sinks with
  | stream listeners => exact ⟨.intro outlet (.stream listeners), rfl, .none⟩
  | collect text result onwards =>
      simp only [Render.takeUp]
      cases outcome.result? (text ++ String.join pieces) with
      | none => exact ⟨.intro outlet (.collect _ result onwards), rfl, .none⟩
      | some final =>
          refine ⟨.intro outlet (.collect "" (some final) .none), rfl, ?_⟩
          cases onwards with
          | none => exact .none
          | some continues => exact .some ⟨continues, rfl⟩

theorem Outlets.round (outlets : likeness.Outlets outlet shadow) :
    likeness.Outlets (round outlet).outlet (round shadow).outlet ∧
      (Render.round shadow).events = (Render.round outlet).events ∧
        likeness.HandsOn (Render.round outlet).handedOn (Render.round shadow).handedOn := by
  obtain ⟨outlet, sinks⟩ := outlets
  rw [round_withSink, round_withSink]
  exact sinks.takeUp _ _ _

theorem Mirrors.again (mirrors : likeness.Mirrors one other) (id : OutletId) :
    other.outlets[id]?.map Outlet.again = one.outlets[id]?.map Outlet.again := by
  cases seen : one.outlets[id]? with
  | none => rw [mirrors.nowhere seen]
  | some outlet =>
      obtain ⟨shadow, found, outlets⟩ := mirrors.there seen
      obtain ⟨outlet, -⟩ := outlets
      rw [found]
      rfl

theorem Mirrors.noting (mirrors : likeness.Mirrors one other) (events : List Event) :
    likeness.Mirrors (one.noting events) (other.noting events) :=
  { mirrors with events := by rw [Store.noting, Store.noting, mirrors.events] }

namespace Follows

variable {Result : Type} {first second : Action Result}

/-- An action that looks at an outlet first. -/
theorem withOutlet {next also : Option (Outlet Continuation Observer) → Action Result}
    (nowhere : likeness.Follows (next none) (also none))
    (there : ∀ outlet shadow, likeness.Outlets outlet shadow →
      likeness.Follows (next (some outlet)) (also (some shadow))) :
    likeness.Follows (outlet? id >>= next) (outlet? id >>= also) := by
  intro one other result later mirrors ran
  rw [run_bind, run_outlet?, Option.bind_some] at ran ⊢
  cases seen : one.outlets[id]? with
  | none =>
      rw [seen] at ran
      rw [mirrors.nowhere seen]
      exact nowhere one other result later mirrors ran
  | some outlet =>
      obtain ⟨shadow, found, outlets⟩ := mirrors.there seen
      rw [seen] at ran
      rw [found]
      exact there outlet shadow outlets one other result later mirrors ran

theorem modifyOutlet (id : OutletId)
    {change : Outlet Continuation Observer → Outlet Continuation Observer}
    (blind : ∀ outlet sink, change { outlet with sink := sink } =
      { change outlet with sink := sink }) :
    likeness.Follows (modifyOutlet id change) (Output.modifyOutlet id change) := by
  intro one other result later mirrors ran
  cases seen : one.outlets[id]? with
  | none =>
      rw [run_modifyOutlet_none seen] at ran
      cases ran
      exact ⟨other, run_modifyOutlet_none (mirrors.nowhere seen) _, mirrors⟩
  | some outlet =>
      obtain ⟨shadow, found, outlets⟩ := mirrors.there seen
      rw [run_modifyOutlet seen] at ran
      cases ran
      exact ⟨_, run_modifyOutlet found _, mirrors.put id (outlets.changed blind)⟩

theorem openOutlet {sink also : Sink Continuation Observer} (sinks : likeness.Sinks sink also) :
    likeness.Follows (openOutlet sink) (Output.openOutlet also) := by
  intro one other result later mirrors ran
  rw [run_openOutlet] at ran
  cases ran
  refine ⟨{ other with outlets := other.outlets.push (Outlet.opened also) }, ?_,
    { mirrors with outlets := fun id => ?_ }⟩
  · rw [run_openOutlet, mirrors.size]
  · rw [Array.getElem?_push, Array.getElem?_push, mirrors.size]
    by_cases new : id = one.outlets.size
    · rw [if_pos new, if_pos new]
      exact .some (.intro (Outlet.opened sink) sinks)
    · rw [if_neg new, if_neg new]
      exact mirrors.outlets id

theorem result? (id : OutletId) :
    likeness.Follows (result? id) (Output.result? id) := by
  refine withOutlet (.pure none) fun outlet shadow outlets => ?_
  obtain ⟨outlet, sinks⟩ := outlets
  cases sinks with
  | collect text result onwards => exact .pure result
  | stream listeners => exact .pure none

end Follows

/-- Reactions that go on alike with what is handed on, the others within a bound that is no smaller.
-/
structure Reacts (likeness : Likeness) (handlers also : Handlers Continuation Observer State) :
    Prop where
  rounds : handlers.rounds ≤ also.rounds
  hears : handlers.hear = hear
  hearsAlso : also.hear = hear
  resume : ∀ continuation another result, likeness.Continues continuation another →
    likeness.Follows (handlers.resume continuation result) (also.resume another result)

namespace Follows

variable {handlers also : Handlers Continuation Observer State}

theorem handOver (reacts : likeness.Reacts handlers also)
    {handedOn another : Option (Continuation × Except RenderError String)}
    (handsOn : likeness.HandsOn handedOn another) :
    likeness.Follows (handOver handlers handedOn) (Render.handOver also another) := by
  cases handsOn with
  | none => exact .pure ()
  | @some handed otherHanded continues =>
      obtain ⟨continuation, result⟩ := handed
      obtain ⟨anotherContinuation, anotherResult⟩ := otherHanded
      obtain ⟨alike, same⟩ := continues
      simp only at same alike
      subst same
      exact reacts.resume _ _ _ alike

theorem flushRound (reacts : likeness.Reacts handlers also) (id : OutletId) :
    likeness.Follows (flushRound handlers id) (Output.flushRound also id) := by
  intro one other again later mirrors ran
  cases seen : one.outlets[id]? with
  | none =>
      rw [run_flushRound_none seen] at ran
      cases ran
      exact ⟨other, run_flushRound_none (mirrors.nowhere seen), mirrors⟩
  | some outlet =>
      obtain ⟨shadow, found, outlets⟩ := mirrors.there seen
      obtain ⟨became, sameEvents, handsOn⟩ := outlets.round
      rw [flushRound_eq_round seen reacts.hears] at ran
      obtain ⟨⟨nothing, reached⟩, handed, same⟩ := Option.bind_eq_some_iff.mp ran
      cases same
      have mirrorsThen := (mirrors.put id became).noting (round outlet).events
      obtain ⟨after, handedAlso, mirrorsLast⟩ :=
        handOver reacts handsOn _ _ _ _ mirrorsThen handed
      refine ⟨after, ?_, mirrorsLast⟩
      rw [flushRound_eq_round found reacts.hearsAlso, sameEvents, handedAlso, Option.bind_some,
        mirrorsLast.again id]

theorem flushRounds (reacts : likeness.Reacts handlers also) (id : OutletId) {rounds more : Nat}
    (enough : rounds ≤ more) :
    likeness.Follows (flushRounds handlers id rounds) (Output.flushRounds also id more) := by
  induction rounds generalizing more with
  | zero => exact .outOfSteps _
  | succ rounds inductionHypothesis =>
      obtain ⟨more, rfl⟩ := Nat.exists_eq_add_one.mpr (Nat.zero_lt_of_lt enough)
      refine (flushRound reacts id).bind fun again => ?_
      cases again with
      | true => exact inductionHypothesis (Nat.le_of_succ_le_succ enough)
      | false => exact .pure ()

theorem flush (reacts : likeness.Reacts handlers also) (id : OutletId) :
    likeness.Follows (flush handlers id) (Output.flush also id) := by
  refine withOutlet (.pure ()) fun outlet shadow outlets => ?_
  obtain ⟨outlet, sinks⟩ := outlets
  by_cases flushing : outlet.flushing = true
  · simp only [flushing, if_true]
    exact modifyOutlet id fun _ _ => rfl
  · simp only [flushing]
    refine (modifyOutlet id fun _ _ => rfl).bind fun _ => ?_
    exact (flushRounds reacts id reacts.rounds).bind fun _ => modifyOutlet id fun _ _ => rfl

theorem passTaps (taps : List Tap) (text : String) :
    likeness.Follows (Writer.passTaps taps text) (Writer.passTaps taps text) := by
  induction taps generalizing text with
  | nil => exact .pure text
  | cons newest older inductionHypothesis =>
      cases newest with
      | change transform => exact inductionHypothesis (transform text)
      | collect pot => exact (fillPot pot text).bind fun _ => inductionHypothesis ""

theorem write (writer : Writer) (text : String) :
    likeness.Follows (writer.write text) (writer.write text) := by
  refine (passTaps writer.taps text).bind fun passed => ?_
  by_cases silent : passed.isEmpty = true
  · simp only [silent, if_true]
    exact .pure writer
  · simp only [silent]
    exact (modifyOutlet writer.outlet fun _ _ => rfl).bind fun _ => .pure writer

theorem finish (reacts : likeness.Reacts handlers also) (writer : Writer) :
    likeness.Follows (writer.finish handlers) (writer.finish also) :=
  (modifyOutlet writer.outlet fun _ _ => rfl).bind fun _ => flush reacts writer.outlet

theorem fail (reacts : likeness.Reacts handlers also) (writer : Writer) (error : RenderError) :
    likeness.Follows (writer.fail handlers error) (writer.fail also error) :=
  (modifyOutlet writer.outlet fun _ _ => rfl).bind fun _ =>
    (flush reacts writer.outlet).bind fun _ => .pure writer

theorem fork (writer : Writer) : likeness.Follows writer.fork writer.fork := by
  refine withOutlet (.pure (writer, writer)) fun outlet shadow outlets => ?_
  obtain ⟨outlet, sinks⟩ := outlets
  exact (modifyOutlet writer.outlet fun _ _ => rfl).bind fun _ => .pure _

/-- A body is captured alike; what goes on with its text may differ in contexts. -/
theorem capture (reacts : likeness.Reacts handlers also) (writer : Writer)
    {render another : Writer → Action (Except RenderError Writer)}
    {onResult onResultAlso : Writer → Continuation}
    (renders : ∀ inner, likeness.Follows (render inner) (another inner))
    (continues : ∀ branch, likeness.Continues (onResult branch) (onResultAlso branch)) :
    likeness.Follows (writer.capture handlers render onResult)
      (writer.capture also another onResultAlso) := by
  refine (fork writer).bind fun handles => ?_
  have sinks := Sinks.collect "" none (.some (continues handles.1))
  refine (openOutlet sinks).bind fun id => (renders (Writer.onOutlet id)).bind fun ended => ?_
  cases ended with
  | ok last => exact (finish reacts last).bind fun _ => .pure handles.2
  | error error => exact (fail reacts (Writer.onOutlet id) error).discard.bind fun _ => .pure _

/-- A branch goes on after a capture. -/
theorem settle (reacts : likeness.Reacts handlers also) (branch : Writer)
    (result : Except RenderError String)
    {continue? another? : String → Action (Except RenderError Writer)}
    (continues : ∀ text, likeness.Follows (continue? text) (another? text)) :
    likeness.Follows (branch.settle handlers result continue?)
      (branch.settle also result another?) := by
  cases result with
  | error error => exact (fail reacts branch error).discard
  | ok text =>
      refine (continues text).bind fun ended => ?_
      cases ended with
      | ok last => exact finish reacts last
      | error error => exact (fail reacts branch error).discard

end Follows

end Likeness

end BraceTemplate.Render
