import BraceTemplate.Proofs.Render.Coinciding

/-!
# Comparisons with a key of their own

A comparison whose own key refers to something does not look at the key of the select it stands in,
and neither does anything in its block, which is rendered when a branch has matched. So its tag does
the same in selects on any two keys, unless what it renders where it does not hold asks for the key.
-/

namespace BraceTemplate.Render

open Output

/-- A comparison whose key refers to something does the same in selects on any two keys, where what
it renders if it does not hold does not ask for the key of the select. -/
theorem runOp_pushSelect_eq (depth : Nat) {store : Store Continuation Observer State}
    {program : Program} {context : Context} {writer : Writer} {first second : Value}
    {name : String} {comparison : Comparison} {rebased : Option Identifier} {exprs : ParamExprs}
    {entries : NamedBodies} {body : BodyId}
    (found : store.client.engine.helpers.find? name = some (.builtin (.compare comparison)))
    (quotes : program.Quotes) (isQuoted : IsQuoted context)
    (member : Op.helper name rebased exprs entries ∈ program.body body)
    (gives : rebased = none → exprs.gives (context.pushSelect first).resolve? "key" = true)
    (unasking : ∀ id, rebased = none → Bodies.find? ⟨program, entries⟩ elseBody = some id →
      program.Unasking ((context.pushSelect first).sight store.client.engine.helpers) id) :
    runOp (callsWithin depth) program (context.pushSelect second) writer
        (.helper name rebased exprs entries) store =
      runOp (callsWithin depth) program (context.pushSelect first) writer
        (.helper name rebased exprs entries) store := by
  have unasked : (Op.helper name rebased exprs entries).Unasking
      ((context.pushSelect first).sight store.client.engine.helpers) program := by
    refine ⟨quotes, fun id quoted => quotes.isPlain member quoted, ?_,
      fun inner id renders opened => ?_, fun _ _ yields => by cases yields⟩
    · cases rebased with
      | some identifier => rfl
      | none =>
          simp only [Op.asksSelect, Context.sight, found, Bool.not_eq_false']
          exact gives rfl
    · cases rebased with
      | some identifier => cases renders
      | none =>
          simp only [Op.rendersInFrame, Context.sight, found] at renders
          obtain rfl : inner = elseBody := eq_of_beq renders
          exact unasking id rfl opened
  have coincides : Coincides store.client.engine.helpers false
      (runOp (callsWithin depth) program (context.pushSelect first) writer
        (.helper name rebased exprs entries))
      (runOp (callsWithin depth) program (context.pushSelect second) writer
        (.helper name rebased exprs entries)) :=
    (callsWithin_coincide _ depth).runOp ((Context.SameButKeys.refl context).pushSelect _ _)
      (.unasked ⟨isQuoted.pushSelect first, unasked⟩)
  exact (coincides.same store ⟨rfl, fun never => by cases never⟩).symm

/-- A comparison of "x" with a text. -/
def comparesWith (text : String) (entries : NamedBodies) : Op :=
  .helper "eq" none [("key", .identifier (.key "x")), ("value", .literal (.string text))] entries

/-- In the block of the first comparison stands one with the key of the select; what the first one
renders where it does not hold compares "x" once more. -/
def comparing : Program :=
  ⟨none, 0,
    [[comparesWith "y" [(mainBody, 1), (elseBody, 2)]],
      [.write "Y", .helper "eq" none [("value", .literal (.string "a"))] [(elseBody, 4)]],
      [comparesWith "z" [(mainBody, 3), (elseBody, 4)]],
      [.write "h"], [.write "n"]], []⟩

/-- The data that it is rendered against. -/
def compared : Context :=
  .ofValue (.ofJson (.object [("x", .string "y")]))

/-- In selects on "a" and on "b" the block is rendered, and in it what stands for the other case. -/
theorem runOp_pushSelect_eq_block :
    ∃ outcome,
      runOp (callsWithin 2) comparing (compared.pushSelect (.string "a")) (.onOutlet 0)
        (comparesWith "y" [(mainBody, 1), (elseBody, 2)]) selecting = some outcome ∧
      runOp (callsWithin 2) comparing (compared.pushSelect (.string "b")) (.onOutlet 0)
        (comparesWith "y" [(mainBody, 1), (elseBody, 2)]) selecting = some outcome ∧
      outcome.2.outlets[0]?.map (fun outlet => outlet.waiting.map Segment.text) = some ["Yn"] := by
  have quotes : comparing.Quotes := by decide
  have isQuoted : IsQuoted compared := .ofValue (Value.holds_ofJson _)
  have otherwise : comparing.Unasking
      ((compared.pushSelect (.string "a")).sight selecting.client.engine.helpers) 2 := by
    have started : 2 ∈ [2, 4] := List.mem_cons_self
    have steps : ∀ inner ∈ [2, 4], ∀ op ∈ comparing.body inner,
        op = comparesWith "z" [(mainBody, 3), (elseBody, 4)] ∨ op = .write "n" := by
      simp [Program.body, comparing]
    refine .ofClosed quotes (by decide +kernel) ?_ ?_ started
    · intro inner known op here name opened renders found
      rcases steps inner known op here with rfl | rfl
      · obtain rfl : name = elseBody := eq_of_beq renders
        cases found
        decide
      · cases found
    · intro inner known op here name
      rcases steps inner known op here with rfl | rfl <;> rfl
  have same : runOp (callsWithin 2) comparing (compared.pushSelect (.string "b")) (.onOutlet 0)
      (comparesWith "y" [(mainBody, 1), (elseBody, 2)]) selecting =
      runOp (callsWithin 2) comparing (compared.pushSelect (.string "a")) (.onOutlet 0)
        (comparesWith "y" [(mainBody, 1), (elseBody, 2)]) selecting := by
    have member : comparesWith "y" [(mainBody, 1), (elseBody, 2)] ∈ comparing.body 0 :=
      List.mem_cons_self
    refine runOp_pushSelect_eq 2 rfl quotes isQuoted member (fun _ => by decide +kernel)
      fun id _ found => ?_
    cases found
    exact otherwise
  have ran : ∃ outcome,
      runOp (callsWithin 2) comparing (compared.pushSelect (.string "a")) (.onOutlet 0)
        (comparesWith "y" [(mainBody, 1), (elseBody, 2)]) selecting = some outcome ∧
      outcome.2.outlets[0]?.map (fun outlet => outlet.waiting.map Segment.text) = some ["Yn"] :=
    ⟨_, rfl, by decide +kernel⟩
  obtain ⟨outcome, first, text⟩ := ran
  exact ⟨outcome, first, same.trans first, text⟩

/-- A comparison with a key that refers to nothing goes by the key of the select, and one without a
key in what another renders where it does not hold goes by it too. -/
theorem textAlone_ofSelectKey :
    let missing := "\x7b@select key=k\x7d\x7b@eq key=missing value=\"a\"\x7dY\x7b/eq\x7d" ++
      "\x7b/select\x7d"
    let otherwise := "\x7b@select key=k\x7d\x7b@eq key=x value=\"y\"\x7dY\x7b:else\x7d" ++
      "\x7b@eq value=\"a\"\x7dA\x7b/eq\x7d\x7b/eq\x7d\x7b/select\x7d"
    textAlone? missing (.object [("k", .string "a")]) = some "Y" ∧
      textAlone? missing (.object [("k", .string "b")]) = some "" ∧
      textAlone? otherwise (.object [("k", .string "a"), ("x", .string "x")]) = some "A" ∧
      textAlone? otherwise (.object [("k", .string "b"), ("x", .string "x")]) = some "" := by
  decide +kernel

end BraceTemplate.Render
