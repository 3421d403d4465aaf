import Mathlib.Tactic.Tauto
import BraceTemplate.Proofs.Program.Quoting

/-!
# Laying out quoted bodies

Compiling gives every body the next free number. The numbers of the bodies that parameters and names
open are followed through the layout: each is that of a body that only writes and refers.
-/

namespace BraceTemplate

/-- Of bodies that were laid out from a number on, a number is that of one that only writes and
refers. -/
def PlainAmong (next : Nat) (bodies : List (List Op)) (id : Nat) : Prop :=
  next ≤ id ∧ ∃ ops, bodies[id - next]? = some ops ∧ ∀ op ∈ ops, op.isPlain = true

namespace PlainAmong

variable {next id : Nat} {first second : List (List Op)}

theorem append_left (plain : PlainAmong next first id) :
    PlainAmong next (first ++ second) id := by
  obtain ⟨least, ops, found, isPlain⟩ := plain
  obtain ⟨bound, _⟩ := List.getElem?_eq_some_iff.mp found
  exact ⟨least, ops, by rw [List.getElem?_append_left bound, found], isPlain⟩

theorem append_right (plain : PlainAmong (next + first.length) second id) :
    PlainAmong next (first ++ second) id := by
  obtain ⟨least, ops, found, isPlain⟩ := plain
  have reached : first.length ≤ id - next := by omega
  have shifted : id - next - first.length = id - (next + first.length) := by omega
  exact ⟨by omega, ops, by rw [List.getElem?_append_right reached, shifted, found], isPlain⟩

theorem cons {ops : List Op} (plain : PlainAmong (next + 1) second id) :
    PlainAmong next (ops :: second) id :=
  (show PlainAmong (next + [ops].length) second id from plain).append_right

end PlainAmong

/-- What is laid out quotes: the numbers among its result are given ones or those of plain bodies
that were laid out, and so are those among its bodies. -/
structure Laid.Quotes {Result : Type} (laid : Laid Result) (next : BodyId) (given : List BodyId)
    (quoted : Result → List BodyId) : Prop where
  result : ∀ id ∈ quoted laid.result, id ∈ given ∨ PlainAmong next laid.bodies id
  bodies : ∀ ops ∈ laid.bodies, ∀ op ∈ ops, ∀ id ∈ op.quoted,
    id ∈ given ∨ PlainAmong next laid.bodies id

/-- Compiling that quotes, from every number on. -/
def Compile.Quotes {Result : Type} (compile : Compile Result) (given : List BodyId)
    (quoted : Result → List BodyId) : Prop :=
  ∀ next, (compile next).Quotes next given quoted

def Op.allQuoted (ops : List Op) : List BodyId :=
  ops.flatMap quoted

namespace Compile.Quotes

variable {Result Next : Type} {given : List BodyId} {quoted : Result → List BodyId}
variable {quotedNext : Next → List BodyId}

theorem pure {result : Result} (known : ∀ id ∈ quoted result, id ∈ given) :
    Compile.Quotes (Pure.pure result : Compile Result) given quoted :=
  fun _ => ⟨fun id member => .inl (known id member), fun _ member => by cases member⟩

theorem bind {first : Compile Result} {second : Result → Compile Next}
    (ofFirst : first.Quotes given quoted)
    (ofSecond : ∀ result, (second result).Quotes (quoted result ++ given) quotedNext) :
    Compile.Quotes (first >>= second) given quotedNext := by
  intro next
  have earlier := ofFirst next
  have later := ofSecond (first next).result (next + (first next).bodies.length)
  have settle : ∀ id,
      id ∈ quoted (first next).result ++ given ∨
          PlainAmong (next + (first next).bodies.length)
            (second (first next).result (next + (first next).bodies.length)).bodies id →
        id ∈ given ∨ PlainAmong next ((first >>= second) next).bodies id := by
    rintro id (known | plain)
    · rcases List.mem_append.mp known with fromFirst | fromGiven
      · rcases earlier.result id fromFirst with known | plain
        · exact .inl known
        · exact .inr plain.append_left
      · exact .inl fromGiven
    · exact .inr plain.append_right
  refine ⟨fun id member => settle id (later.result id member), ?_⟩
  intro ops member op inside id quoting
  rcases List.mem_append.mp member with here | there
  · rcases earlier.bodies ops here op inside id quoting with known | plain
    · exact .inl known
    · exact .inr plain.append_left
  · exact settle id (later.bodies ops there op inside id quoting)

theorem mono {compile : Compile Result} {other : List BodyId}
    (quotes : compile.Quotes given quoted) (known : ∀ id ∈ given, id ∈ other) :
    compile.Quotes other quoted := by
  intro next
  refine ⟨fun id member => ((quotes next).result id member).imp_left (known id), ?_⟩
  intro ops member op inside id quoting
  exact ((quotes next).bodies ops member op inside id quoting).imp_left (known id)

theorem define {name : String} {id : BodyId} :
    (Compile.define name id).Quotes given fun _ => [] :=
  fun _ => ⟨fun _ member => absurd member List.not_mem_nil,
    fun _ member => absurd member List.not_mem_nil⟩

/-- The number of an opened body need not be that of a plain one where nothing quotes it. -/
theorem openBody {contents : Compile (List Op)} (quotes : contents.Quotes [] Op.allQuoted) :
    (Compile.openBody contents).Quotes given fun _ => [] := by
  intro next
  have inner := quotes (next + 1)
  have shift : ∀ id,
      id ∈ ([] : List BodyId) ∨ PlainAmong (next + 1) (contents (next + 1)).bodies id →
        id ∈ given ∨
          PlainAmong next ((contents (next + 1)).result :: (contents (next + 1)).bodies) id := by
    rintro id (known | plain)
    · cases known
    · right
      exact plain.cons
  refine ⟨fun id member => absurd member (List.not_mem_nil), ?_⟩
  intro ops member op inside id quoting
  rcases List.mem_cons.mp member with rfl | other
  · exact shift id (inner.result id (List.mem_flatMap.mpr ⟨op, inside, quoting⟩))
  · exact shift id (inner.bodies ops other op inside id quoting)

end Compile.Quotes

namespace Node

theorem steps_plain (auto : Option String) {node : Node} (isPlain : node.isPlain = true)
    (next : BodyId) :
    (node.steps auto next).bodies = [] ∧ ∀ op ∈ (node.steps auto next).result, op.isPlain := by
  have writing : ∀ text, ∀ op ∈ Op.writing text, op.isPlain = true := by
    intro text op member
    unfold Op.writing at member
    split at member
    · cases member
    · rw [List.mem_singleton.mp member]
      rfl
  cases node with
  | body parts position => cases isPlain
  | sectionTag kind identifier context params bodies position => cases isPlain
  | inclusion kind target context params position => cases isPlain
  | text content position => exact ⟨rfl, writing _⟩
  | lineBreak newline blanks position => exact ⟨rfl, writing _⟩
  | raw content position => exact ⟨rfl, writing _⟩
  | comment content position => exact ⟨rfl, fun op member => by cases member⟩
  | special key position => exact ⟨rfl, writing _⟩
  | reference identifier filters position =>
      refine ⟨rfl, fun op member => ?_⟩
      rw [List.mem_singleton.mp member]
      rfl

theorem stepsOfParts_plain (auto : Option String) {parts : List Node}
    (each : ∀ part ∈ parts, part.isPlain = true) (next : BodyId) :
    (stepsOfParts auto parts next).bodies = [] ∧
      ∀ op ∈ (stepsOfParts auto parts next).result, op.isPlain := by
  induction parts generalizing next with
  | nil => exact ⟨rfl, fun op member => by cases member⟩
  | cons part rest inductionHypothesis =>
      obtain ⟨noBody, isPlain⟩ := steps_plain auto (each part (by simp)) next
      have later := inductionHypothesis (fun part member => each part (by simp [member]))
      have laid :
          stepsOfParts auto (part :: rest) next =
            ⟨(part.steps auto next).result ++ (stepsOfParts auto rest next).result,
              (stepsOfParts auto rest next).bodies ++ [],
              (part.steps auto next).blocks ++ ((stepsOfParts auto rest next).blocks ++ [])⟩ := by
        simp only [stepsOfParts, bind, Compile.andThen, noBody, List.length_nil, Nat.add_zero,
          List.nil_append]
        rfl
      rw [laid]
      obtain ⟨noneLater, plainLater⟩ := later next
      refine ⟨by simp [noneLater], fun op member => ?_⟩
      rcases List.mem_append.mp member with here | there
      · exact isPlain op here
      · exact plainLater op there

theorem openQuotation_quotes {auto : Option String} {inner : Node}
    (isQuotation : inner.isQuotation = true) {given : List BodyId} :
    (Compile.openBody (inner.steps auto)).Quotes given fun id => [id] := by
  cases inner with
  | body parts position =>
      intro next
      have each : ∀ part ∈ parts, part.isPlain = true := by
        simpa [Node.isQuotation] using isQuotation
      obtain ⟨noBody, isPlain⟩ := stepsOfParts_plain auto each (next + 1)
      refine ⟨?_, ?_⟩
      · intro id member
        rw [List.mem_singleton.mp member]
        refine .inr ⟨Nat.le_refl _, (stepsOfParts auto parts (next + 1)).result, ?_, isPlain⟩
        simp [Compile.openBody, steps]
      · intro ops member op inside id quoting
        have only : ops = (stepsOfParts auto parts (next + 1)).result := by
          simpa [Compile.openBody, steps, noBody] using member
        subst only
        have plain := isPlain op inside
        cases op <;> first | cases quoting | cases plain
  | _ => cases isQuotation

theorem paramExprs_quotes {auto : Option String} {params : List (Param Node)}
    (each : ∀ param ∈ params, param.Quotes) {given : List BodyId} :
    (paramExprs auto params).Quotes given ParamExprs.quoted := by
  induction params generalizing given with
  | nil => exact .pure fun id member => by cases member
  | cons param rest inductionHypothesis =>
      have later : ∀ {given : List BodyId},
          (paramExprs auto rest).Quotes given ParamExprs.quoted :=
        inductionHypothesis fun param member => each param (by simp [member])
      have here := each param (by simp)
      obtain ⟨key, value⟩ := param
      cases value with
      | literal value =>
          exact .bind later fun others =>
            .pure fun id member => List.mem_append_left _ member
      | identifier name =>
          exact .bind later fun others =>
            .pure fun id member => List.mem_append_left _ member
      | inline inner =>
          refine .bind (openQuotation_quotes (here inner rfl)) fun opened =>
            .bind later fun others => .pure fun id member => ?_
          rcases List.mem_cons.mp member with rfl | other
          · simp
          · exact List.mem_append_left _ other

theorem targetName_quotes {auto : Option String} {target : Target Node}
    (quotes : target.Quotes) {given : List BodyId} :
    (targetName auto target).Quotes given Name.quoted := by
  cases target with
  | name text => exact .pure fun id member => by cases member
  | inline inner =>
      exact .bind (openQuotation_quotes (quotes inner rfl)) fun opened =>
        .pure fun id member => List.mem_append_left _ member

theorem stepsOfParts_quotes {auto : Option String} {parts : List Node}
    (each : ∀ part ∈ parts, ∀ auto, (part.steps auto).Quotes [] Op.allQuoted) :
    (stepsOfParts auto parts).Quotes [] Op.allQuoted := by
  induction parts with
  | nil => exact .pure fun id member => by cases member
  | cons part rest inductionHypothesis =>
      have later := inductionHypothesis fun part member => each part (by simp [member])
      refine .bind (each part (by simp) auto) fun first =>
        .bind (later.mono fun id member => by cases member) fun others => .pure fun id member => ?_
      simp only [Op.allQuoted, List.flatMap_append, List.mem_append] at member ⊢
      tauto

theorem openBodies_quotes {auto : Option String} {bodies : List (String × Node)}
    (each : ∀ entry ∈ bodies, ∀ auto, (entry.2.steps auto).Quotes [] Op.allQuoted)
    {given : List BodyId} : (openBodies auto bodies).Quotes given fun _ => [] := by
  induction bodies generalizing given with
  | nil => exact .pure fun id member => by cases member
  | cons entry rest inductionHypothesis =>
      have later : ∀ {given : List BodyId}, (openBodies auto rest).Quotes given fun _ => [] :=
        inductionHypothesis fun entry member => each entry (by simp [member])
      exact .bind (.openBody (each entry (by simp) auto)) fun opened =>
        .bind later fun others => .pure fun id member => by cases member

theorem openMain_quotes {auto : Option String} {bodies : List (String × Node)}
    (each : ∀ entry ∈ bodies, ∀ auto, (entry.2.steps auto).Quotes [] Op.allQuoted)
    {given : List BodyId} : (openMain auto bodies).Quotes given fun _ => [] := by
  induction bodies with
  | nil => exact .pure fun id member => by cases member
  | cons entry rest inductionHypothesis =>
      obtain ⟨name, inner⟩ := entry
      unfold openMain
      split
      · exact .bind (.openBody (each (name, inner) (by simp) auto)) fun opened =>
          .pure fun id member => by cases member
      · exact inductionHypothesis fun entry member => each entry (by simp [member])

theorem stepsOfMain_quotes {auto : Option String} {bodies : List (String × Node)}
    (each : ∀ entry ∈ bodies, ∀ auto, (entry.2.steps auto).Quotes [] Op.allQuoted) :
    (stepsOfMain auto bodies).Quotes [] Op.allQuoted := by
  induction bodies with
  | nil => exact .pure fun id member => by cases member
  | cons entry rest inductionHypothesis =>
      obtain ⟨name, inner⟩ := entry
      unfold stepsOfMain
      split
      · exact each (name, inner) (by simp) auto
      · exact inductionHypothesis fun entry member => each entry (by simp [member])

/-- A tag with bodies and parameters: only the numbers of its parameters are quoted. -/
theorem taggedSteps_quotes {auto : Option String} {bodies : List (String × Node)}
    {params : List (Param Node)}
    (each : ∀ entry ∈ bodies, ∀ auto, (entry.2.steps auto).Quotes [] Op.allQuoted)
    (ofParams : ∀ param ∈ params, param.Quotes) {tag : NamedBodies → ParamExprs → Op}
    (quoted : ∀ bodies params, (tag bodies params).quoted = ParamExprs.quoted params) :
    Compile.Quotes (do
      let bodies ← openBodies auto bodies
      let params ← paramExprs auto params
      pure [tag bodies params]) [] Op.allQuoted :=
  .bind (openBodies_quotes each) fun bodies =>
    .bind (paramExprs_quotes ofParams) fun params =>
      .pure fun id member => by simpa [Op.allQuoted, quoted] using member

/-- Compiling a tree whose quotations are plain lays out plain bodies for them. -/
theorem steps_quotes {node : Node} (quotes : node.Quotes) :
    ∀ auto, (node.steps auto).Quotes [] Op.allQuoted := by
  induction quotes with
  | body inside inductionHypothesis => exact fun auto => stepsOfParts_quotes inductionHypothesis
  | plain isPlain =>
      intro auto next
      obtain ⟨noBody, plain⟩ := steps_plain auto isPlain next
      refine ⟨fun id member => ?_, fun ops member => ?_⟩
      · obtain ⟨op, inside, quoting⟩ := List.mem_flatMap.mp member
        have plainOp := plain op inside
        cases op <;> first | cases quoting | cases plainOp
      · rw [noBody] at member
        cases member
  | @sectionTag kind identifier context params bodies position ofParams inside
      inductionHypothesis =>
      intro auto
      cases kind with
      | each => exact taggedSteps_quotes inductionHypothesis ofParams fun _ _ => rfl
      | present => exact taggedSteps_quotes inductionHypothesis ofParams fun _ _ => rfl
      | absent => exact taggedSteps_quotes inductionHypothesis ofParams fun _ _ => rfl
      | yield => exact taggedSteps_quotes inductionHypothesis ofParams fun _ _ => rfl
      | helper => exact taggedSteps_quotes inductionHypothesis ofParams fun _ _ => rfl
      | define =>
          refine .bind (openMain_quotes inductionHypothesis) fun opened => ?_
          cases opened with
          | none => exact .pure fun id member => by cases member
          | some id =>
              exact .bind .define fun _ => .pure fun id member => by cases member
      | pragma =>
          unfold steps
          simp only
          split
          · exact stepsOfMain_quotes inductionHypothesis
          · exact .pure fun id member => by cases member
  | @inclusion kind target context params position ofTarget ofParams =>
      intro auto
      refine .bind (targetName_quotes ofTarget) fun name =>
        .bind (paramExprs_quotes ofParams) fun params => ?_
      cases kind with
      | template =>
          refine .pure fun id member => ?_
          simp only [Op.allQuoted, List.flatMap_cons, List.flatMap_nil, Op.quoted,
            List.mem_append] at member ⊢
          tauto
      | block =>
          refine .pure fun id member => ?_
          simp only [Op.allQuoted, List.flatMap_cons, List.flatMap_nil, Op.quoted,
            List.mem_append] at member ⊢
          tauto

end Node

namespace Program

theorem ofNode_quotes {name : Option String} {auto : Option String} {node : Node}
    (quotes : node.Quotes) : (ofNode name auto node).Quotes := by
  have laid : (Compile.openBody (node.steps auto)).Quotes [] fun _ => [] :=
    .openBody (node.steps_quotes quotes auto)
  intro ops member op inside id quoting
  rcases (laid 0).bodies ops member op inside id quoting with known | ⟨_, body, found, isPlain⟩
  · cases known
  · intro op member
    have same : (ofNode name auto node).body id = body := by
      rw [Nat.sub_zero] at found
      change List.getD _ id [] = body
      rw [List.getD_eq_getElem?_getD, ofNode, found]
      rfl
    rw [same] at member
    exact isPlain op member

/-- In the program of a source, the bodies of parameters and names only write and refer. -/
theorem ofSource_quotes {config : Config} {name : Option String} {source : String}
    {program : Program} (compiled : ofSource config name source = .ok program) :
    program.Quotes := by
  obtain ⟨node, parsed, rfl⟩ := ofSource_eq_ok_iff.mp compiled
  exact ofNode_quotes (Node.tidy_quotes (Reading.parse_quotes parsed))

end Program

end BraceTemplate
