import BraceTemplate.Proofs.Output.Twins

/-!
# A collecting outlet and a stream agree

Any operations, on any handles, whatever was done with them before: what a stream tells are pieces
that are not empty, and then at most one end or failure. A collecting outlet reports, once, the
pieces together where the stream ended and the failure where it failed, and nothing otherwise.
-/

namespace BraceTemplate.Output

open Desk

namespace Agree

variable {budget owed : Nat} {handlers : Handlers Pending Unit Desk}

theorem client_bind {Result : Type} {rest : Nat} {first second : Desk → Work Result}
    (alike : ∀ desk other : Desk, desk.handles = other.handles → desk.captured = other.captured →
      Agree budget rest (first desk) (second other)) :
    Agree budget rest (client >>= first) (client >>= second) := by
  rintro gathering streaming ⟨pieces, outcome, twins⟩ bound
  simp only [run_bind, run_client, Option.bind_some]
  exact alike _ _ twins.handles twins.captured gathering streaming ⟨pieces, outcome, twins⟩ bound

theorem keep (name : String) (writer : Writer) :
    Agree budget budget (Desk.keep name writer) (Desk.keep name writer) :=
  modifyHandles fun handles => handles.insert name writer

theorem noteCaptured (text : String) :
    Agree budget budget
      (modifyClient fun desk : Desk => { desk with captured := text :: desk.captured })
      (modifyClient fun desk : Desk => { desk with captured := text :: desk.captured }) := by
  rintro gathering streaming ⟨pieces, outcome, twins⟩ owed
  refine ⟨(), _, _, rfl, rfl, ⟨pieces, outcome, ?_⟩, owed⟩
  exact { twins with captured := congrArg (text :: ·) twins.captured }

theorem withHandle (name : String) {rest : Nat} (more : budget ≤ rest)
    {work : Writer → Work Unit} (agree : ∀ writer, Agree budget rest (work writer) (work writer)) :
    Agree budget rest (Desk.withHandle name work) (Desk.withHandle name work) := by
  refine client_bind fun desk other handles captured => ?_
  rw [handles]
  cases other.handles.find? name with
  | none => exact (pure ()).mono (Nat.le_refl _) more
  | some writer => exact agree writer

theorem yielded (writer : Writer) (result : Except RenderError String) :
    Agree budget budget (Desk.yielded writer result) (Desk.yielded writer result) := by
  cases result with
  | error error => exact pure _
  | ok name =>
      refine client_bind fun desk other handles captured => ?_
      rw [handles]
      exact pure _

theorem finish (settles : Settles handlers budget) (within : owed ≤ budget) (writer : Writer) :
    Agree owed owed (writer.finish handlers) (writer.finish handlers) :=
  (changeSegment writer.outlet writer.segment _).bind fun _ =>
    flush_agree settles within writer.outlet

theorem finishWith (settles : Settles handlers budget) (within : owed ≤ budget) (writer : Writer)
    (text : String) :
    Agree owed owed (writer.finishWith handlers text) (writer.finishWith handlers text) :=
  (write writer text).bind fun writer => finish settles within writer

theorem fail (settles : Settles handlers budget) (within : owed ≤ budget) (writer : Writer)
    (error : RenderError) :
    Agree owed owed (writer.fail handlers error) (writer.fail handlers error) :=
  (changeSegment writer.outlet writer.segment _).bind fun _ =>
    (flush_agree settles within writer.outlet).bind fun _ => pure writer

/-- A new outlet for a capture has one more capture to come. -/
theorem openOutlet (branch : Writer) (name : String) (following : List Operation)
    (followed : Except RenderError String) :
    Agree owed (owed + (capturesIn following + 1))
      (Output.openOutlet (.collect "" none (some (.capture branch name following followed))))
      (Output.openOutlet (.collect "" none (some (.capture branch name following followed)))) := by
  rintro gathering streaming ⟨pieces, outcome, twins⟩ bound
  refine ⟨gathering.outlets.size, _, _, rfl, ?_,
    ⟨pieces, outcome, twins.push ⟨"", none, _, rfl, by simp⟩⟩, ?_⟩
  · rw [run_openOutlet, twins.size]
  · rw [Store.owed_push]
    exact Nat.add_le_add_right bound _

theorem capture (settles : Settles handlers budget) (writer : Writer)
    {render : Writer → Work (Except RenderError Writer)} {name : String}
    {following : List Operation} {followed : Except RenderError String} {rest : Nat}
    (within : rest ≤ budget)
    (agree : ∀ first,
      Agree (owed + (capturesIn following + 1)) rest (render first) (render first)) :
    Agree owed rest
      (writer.capture handlers render fun branch => .capture branch name following followed)
      (writer.capture handlers render fun branch => .capture branch name following followed) := by
  refine (fork writer).bind fun forked => ?_
  obtain ⟨branch, next⟩ := forked
  refine (openOutlet branch name following followed).bind fun id => ?_
  refine (agree _).bind fun result => ?_
  cases result with
  | ok last => exact (finish settles within last).bind fun _ => pure next
  | error error => exact ((fail settles within _ error).discard).bind fun _ => pure next

theorem settle (settles : Settles handlers budget) (branch : Writer) {rest : Nat}
    (within : rest ≤ budget) (more : owed ≤ rest) (result : Except RenderError String)
    {continue? : String → Work (Except RenderError Writer)}
    (agree : ∀ text, Agree owed rest (continue? text) (continue? text)) :
    Agree owed rest (branch.settle handlers result continue?)
      (branch.settle handlers result continue?) := by
  cases result with
  | error error =>
      exact ((fail settles (Nat.le_trans more within) branch error).discard).mono (Nat.le_refl _)
        more
  | ok text =>
      refine (agree text).bind fun result => ?_
      cases result with
      | ok last => exact finish settles within last
      | error error => exact (fail settles within branch error).discard

end Agree

section Operating

variable {budget : Nat} {handlers : Handlers Pending Unit Desk}

mutual

/-- An operation does the same in both stores. -/
theorem operate_agree (settles : Settles handlers budget) (operation : Operation) {owed : Nat}
    (within : owed + operation.captures ≤ budget) :
    Agree owed (owed + operation.captures) (operate handlers operation)
      (operate handlers operation) := by
  cases operation with
  | write handle target text =>
      refine Agree.withHandle handle (Nat.le_refl _) fun writer =>
        Agree.client_bind fun desk other handles captured => ?_
      rw [captured]
      exact (Agree.write writer _).bind fun writer => Agree.keep target writer
  | tap handle target newest =>
      exact Agree.withHandle handle (Nat.le_refl _) fun writer => Agree.keep target _
  | untap handle target =>
      exact Agree.withHandle handle (Nat.le_refl _) fun writer => Agree.keep target _
  | finish handle =>
      exact Agree.withHandle handle (Nat.le_refl _) fun writer => Agree.finish settles within writer
  | finishWith handle text =>
      refine Agree.withHandle handle (Nat.le_refl _) fun writer =>
        Agree.client_bind fun desk other handles captured => ?_
      rw [captured]
      exact Agree.finishWith settles within writer _
  | fail handle target error =>
      exact Agree.withHandle handle (Nat.le_refl _) fun writer =>
        (Agree.fail settles within writer error).bind fun writer => Agree.keep target writer
  | fork handle target branch =>
      exact Agree.withHandle handle (Nat.le_refl _) fun writer =>
        (Agree.fork writer).bind fun forked =>
          (Agree.keep branch forked.1).bind fun _ => Agree.keep target forked.2
  | capture handle target inner rendering rendered branch following followed =>
      refine Agree.withHandle handle (Nat.le_add_right ..) fun writer => ?_
      simp only [Operation.captures] at within ⊢
      refine (Agree.capture settles writer within fun first => ?_).bind fun next =>
        Agree.keep target next
      have rendersWithin : owed + (capturesIn following + 1) + capturesIn rendering ≤ budget := by
        omega
      have renders := operateAll_agree settles rendering rendersWithin
      exact (Agree.keep inner first).bind fun _ =>
        (renders.mono (Nat.le_refl _) (by omega)).bind fun _ => Agree.yielded first rendered

theorem operateAll_agree (settles : Settles handlers budget) (operations : List Operation)
    {owed : Nat} (within : owed + capturesIn operations ≤ budget) :
    Agree owed (owed + capturesIn operations) (operateAll handlers operations)
      (operateAll handlers operations) := by
  cases operations with
  | nil => exact Agree.pure ()
  | cons operation rest =>
      simp only [capturesIn] at within ⊢
      have first : Agree owed (owed + operation.captures) (operate handlers operation)
          (operate handlers operation) :=
        operate_agree settles operation (by omega)
      have others : Agree (owed + operation.captures)
          (owed + operation.captures + capturesIn rest) (operateAll handlers rest)
          (operateAll handlers rest) :=
        operateAll_agree settles rest (by omega)
      rw [← Nat.add_assoc]
      exact first.bind fun _ => others

end

/-- Each capture takes one level of reactions, and so do those that it goes on with. -/
theorem settles_within (depth : Nat) (within : budget < depth) :
    Settles (handlersWithin depth) budget := by
  induction depth generalizing budget with
  | zero => exact absurd within (Nat.not_lt_zero _)
  | succ fewer inductionHypothesis =>
      refine ⟨within, fun result => rfl, rfl, ?_⟩
      intro owed branch name following followed result bound
      have settles : Settles (handlersWithin fewer) (owed + capturesIn following) :=
        inductionHypothesis (by omega)
      refine Agree.settle settles branch (Nat.le_refl _) (Nat.le_add_right ..) result fun text => ?_
      exact (Agree.noteCaptured text).bind fun _ => (Agree.keep name branch).bind fun _ =>
        (operateAll_agree settles following (Nat.le_refl _)).bind fun _ =>
          Agree.yielded branch followed

end Operating

theorem twins_opened (head : String) :
    Twins [] .pending
      ({ outlets := #[.opened (.collect "" none (some .answer))], pots := #[], events := #[],
         client := { Desk.blank with handles := [(head, Writer.onOutlet 0)] } } : Store _ _ _)
      { outlets := #[.opened listened], pots := #[], events := #[],
        client := { Desk.blank with handles := [(head, Writer.onOutlet 0)] } } := by
  refine ⟨rfl, rfl, rfl, rfl, ?_, ?_, ⟨.opened listened, rfl, rfl, rfl⟩, rfl, rfl, by simp⟩
  · intro id different
    simp [different]
  · intro id outlet different there
    simp [different] at there

/-- Any operations on any handles: with one more level of reactions than there are captures, both a
collecting outlet and a stream come to an end of them. What the stream has told are pieces that are
not empty, and then at most one end or failure. The collecting outlet has reported nothing while
there was none of these, the pieces together where it was the end, and the failure where it was one,
once. -/
theorem run_reportsWhatIsTold (head : String) (operations : List Operation) (depth : Nat)
    (enough : capturesIn operations < depth) :
    ∃ (gathering streaming : Store Pending Unit Desk) (pieces : List String) (outcome : Outcome),
      run depth (.collect "" none (some .answer)) head operations (Store.initial blank) =
          some ((), gathering) ∧
        run depth listened head operations (Store.initial blank) = some ((), streaming) ∧
        (∀ piece ∈ pieces, piece ≠ "") ∧
        streaming.client.occasions = pieces.map Occasion.data ++ outcome.occasions ∧
        gathering.client.answers = (outcome.result? (String.join pieces)).toList := by
  have within : 0 + capturesIn operations ≤ capturesIn operations := by omega
  obtain ⟨_, gathering, streaming, ranFirst, ranSecond, ⟨pieces, outcome, twins⟩, -⟩ :=
    operateAll_agree (settles_within depth enough) operations within _ _
      ⟨[], .pending, twins_opened head⟩ (by simp [Store.owed, Outlet.owed, Outlet.opened])
  exact ⟨gathering, streaming, pieces, outcome, ranFirst, ranSecond, twins.nonempty,
    twins.occasions, twins.answers⟩

/-- A capture, and a handle that is used again after its end. -/
theorem run_reportsWhatIsTold_captured :
    ∃ gathering streaming : Store Pending Unit Desk,
      run 2 (.collect "" none (some .answer)) "c"
          [.capture "c" "c" "s" [.write "s" "s" fun _ => "x"] (.ok "s")
            "b" [.write "b" "b" fun captured => captured.headD "" ++ "!"] (.ok "b"),
            .finishWith "c" fun _ => "y", .fail "c" "c" (.function "late")]
          (Store.initial blank) = some ((), gathering) ∧
        run 2 listened "c"
          [.capture "c" "c" "s" [.write "s" "s" fun _ => "x"] (.ok "s")
            "b" [.write "b" "b" fun captured => captured.headD "" ++ "!"] (.ok "b"),
            .finishWith "c" fun _ => "y", .fail "c" "c" (.function "late")]
          (Store.initial blank) = some ((), streaming) ∧
        streaming.client.occasions = [.data "x!", .data "y", .finished] ∧
        gathering.client.answers = [.ok "x!y"] := by
  let operations : List Operation :=
    [.capture "c" "c" "s" [.write "s" "s" fun _ => "x"] (.ok "s")
      "b" [.write "b" "b" fun captured => captured.headD "" ++ "!"] (.ok "b"),
      .finishWith "c" fun _ => "y", .fail "c" "c" (.function "late")]
  obtain ⟨gathering, streaming, -, -, ran, ranAlso, -⟩ :=
    run_reportsWhatIsTold "c" operations 2 (by decide)
  have evaluated :
      (run 2 (.collect "" none (some .answer)) "c" operations (Store.initial blank)).map
          (fun found => found.2.client.answers) = some [.ok "x!y"] := by
    decide +kernel
  have evaluatedAlso :
      (run 2 listened "c" operations (Store.initial blank)).map
          (fun found => found.2.client.occasions) =
        some [.data "x!", .data "y", .finished] := by
    decide +kernel
  rw [ran] at evaluated
  rw [ranAlso] at evaluatedAlso
  exact ⟨gathering, streaming, ran, ranAlso, Option.some.inj evaluatedAlso,
    Option.some.inj evaluated⟩

end BraceTemplate.Output
