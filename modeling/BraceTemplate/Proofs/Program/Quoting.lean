import BraceTemplate.Program.Compile
import BraceTemplate.Proofs.Reading.Cases

/-!
# Quoted bodies

Parameters and names may be texts with tags in them. In a program that was compiled from a source,
the bodies of such texts hold nothing but writes and references: they include no template, open no
section and call no helper.
-/

namespace BraceTemplate

def Op.isPlain : Op → Bool
  | write _ => true
  | reference _ _ => true
  | condition _ _ _ _ _ => false
  | block _ _ _ _ => false
  | helper _ _ _ _ => false
  | inclusion _ _ _ => false

/-- The body of a name with tags in it. -/
def Name.quoted : Name → List BodyId
  | literal _ => []
  | body id => [id]

/-- The bodies of parameters that are texts with tags in them. -/
def ParamExprs.quoted : ParamExprs → List BodyId
  | [] => []
  | (_, .body id) :: rest => id :: ParamExprs.quoted rest
  | (_, _) :: rest => ParamExprs.quoted rest

/-- The bodies of the parameters and of the name of a step. -/
def Op.quoted : Op → List BodyId
  | write _ => []
  | reference _ _ => []
  | condition _ _ _ params _ => params.quoted
  | block name _ params _ => name.quoted ++ params.quoted
  | helper _ _ params _ => params.quoted
  | inclusion name _ params => name.quoted ++ params.quoted

namespace Program

/-- A body that only writes and refers. -/
def IsPlain (program : Program) (id : BodyId) : Prop :=
  ∀ op ∈ program.body id, op.isPlain = true

instance (program : Program) (id : BodyId) : Decidable (program.IsPlain id) :=
  inferInstanceAs (Decidable (∀ op ∈ program.body id, op.isPlain = true))

/-- The bodies of all parameters and names only write and refer. -/
def Quotes (program : Program) : Prop :=
  ∀ ops ∈ program.bodies, ∀ op ∈ ops, ∀ id ∈ op.quoted, program.IsPlain id

instance (program : Program) : Decidable program.Quotes :=
  inferInstanceAs
    (Decidable (∀ ops ∈ program.bodies, ∀ op ∈ ops, ∀ id ∈ op.quoted, program.IsPlain id))

/-- A step of a body stands in the list of all bodies. -/
theorem exists_of_mem_body {program : Program} {id : BodyId} {op : Op}
    (member : op ∈ program.body id) : ∃ ops, program.bodies[id]? = some ops ∧ op ∈ ops := by
  unfold Program.body at member
  rw [List.getD_eq_getElem?_getD] at member
  cases found : program.bodies[id]? with
  | none => simp [found] at member
  | some ops =>
      rw [found] at member
      exact ⟨ops, rfl, member⟩

theorem Quotes.isPlain {program : Program} (quotes : program.Quotes) {body : BodyId} {op : Op}
    (member : op ∈ program.body body) {id : BodyId} (quoted : id ∈ op.quoted) :
    program.IsPlain id := by
  obtain ⟨ops, found, inOps⟩ := exists_of_mem_body member
  exact quotes ops (List.mem_of_getElem? found) op inOps id quoted

end Program

namespace Node

def isPlain : Node → Bool
  | body _ _ => false
  | text _ _ => true
  | lineBreak _ _ _ => true
  | raw _ _ => true
  | comment _ _ => true
  | special _ _ => true
  | reference _ _ _ => true
  | sectionTag _ _ _ _ _ _ => false
  | inclusion _ _ _ _ _ => false

def isQuotation : Node → Bool
  | body parts _ => parts.all isPlain
  | _ => false

end Node

/-- A parameter whose text with tags in it could stand between quotes. -/
def Param.Quotes (param : Param Node) : Prop :=
  ∀ inner, param.value = .inline inner → inner.isQuotation = true

/-- A name whose tags could stand between quotes. -/
def Target.Quotes (target : Target Node) : Prop :=
  ∀ inner, target = .inline inner → inner.isQuotation = true

namespace Node

/-- A tree whose parameters and names could stand between quotes. -/
inductive Quotes : Node → Prop
  | body {parts : List Node} {position : Position} (inside : ∀ part ∈ parts, Quotes part) :
      Quotes (body parts position)
  | plain {part : Node} (isPlain : part.isPlain = true) : Quotes part
  | sectionTag {kind : SectionKind} {identifier : Identifier} {context : Option Identifier}
      {params : List (Param Node)} {bodies : List (String × Node)} {position : Position}
      (ofParams : ∀ param ∈ params, param.Quotes) (inside : ∀ entry ∈ bodies, Quotes entry.2) :
      Quotes (sectionTag kind identifier context params bodies position)
  | inclusion {kind : InclusionKind} {target : Target Node} {context : Option Identifier}
      {params : List (Param Node)} {position : Position}
      (ofTarget : target.Quotes) (ofParams : ∀ param ∈ params, param.Quotes) :
      Quotes (inclusion kind target context params position)

end Node

namespace Source.Cursor

/-- What holds of every result of a rule holds of all results of applying it repeatedly. -/
theorem forall_mem_many {Result : Type} {holds : Result → Prop}
    {rule : Cursor → Option (Result × Cursor)}
    (each : ∀ cursor result after, rule cursor = some (result, after) → holds result)
    (cursor : Cursor) : ∀ result ∈ (cursor.many rule).1, holds result := by
  unfold many
  generalize cursor.rest.length = fuel
  induction fuel generalizing cursor with
  | zero => simp [manyWithin]
  | succ fuel inductionHypothesis =>
      cases matched : rule cursor with
      | none => simp [manyWithin, matched]
      | some found =>
          obtain ⟨first, after⟩ := found
          intro result member
          simp only [manyWithin, matched, List.mem_cons] at member
          rcases member with rfl | later
          · exact each cursor result after matched
          · exact inductionHypothesis after result later

end Source.Cursor

namespace Reading

open Source

theorem special?_isPlain {cursor after : Cursor} {node : Node}
    (matched : special? cursor = some (node, after)) : node.isPlain = true := by
  simp only [special?, Option.bind_eq_bind, Option.bind_eq_some_iff] at matched
  obtain ⟨_, _, _, _, _, _, yielded⟩ := matched
  cases yielded
  rfl

theorem reference?_isPlain {cursor after : Cursor} {node : Node}
    (matched : reference? cursor = some (node, after)) : node.isPlain = true := by
  simp only [reference?, Option.bind_eq_bind, Option.bind_eq_some_iff] at matched
  obtain ⟨_, _, _, _, _, _, yielded⟩ := matched
  cases yielded
  rfl

theorem quotedPart?_isPlain {cursor after : Cursor} {node : Node}
    (matched : quotedPart? cursor = some (node, after)) : node.isPlain = true := by
  rcases quotedPart?_cases matched with special | reference | ⟨_, rfl⟩
  · exact special?_isPlain special
  · exact reference?_isPlain reference
  · rfl

theorem quotation?_isPlain {cursor after : Cursor} {parts : List Node} {position : Position}
    (matched : quotation? cursor = some (.mixed parts position, after)) :
    ∀ part ∈ parts, part.isPlain = true := by
  obtain ⟨_, inside, _, rfl⟩ := quotation?_mixed matched
  exact Cursor.forall_mem_many (fun _ _ _ => quotedPart?_isPlain) inside

theorem param?_quotes {cursor after : Cursor} {param : Param Node}
    (matched : param? cursor = some (param, after)) : param.Quotes := by
  simp only [param?, Option.bind_eq_bind, Option.bind_eq_some_iff] at matched
  obtain ⟨_, _, _, _, _, _, ⟨value, afterValue⟩, ofValue, yielded⟩ := matched
  cases yielded
  intro inner same
  simp only at same
  subst same
  obtain ⟨parts, position, rfl, read⟩ := paramValue?_inline ofValue
  simpa [Node.isQuotation] using quotation?_isPlain read

theorem target?_quotes {cursor after : Cursor} {target : Target Node}
    (matched : target? cursor = some (target, after)) : target.Quotes := by
  intro inner same
  subst same
  obtain ⟨parts, position, rfl, read⟩ := target?_inline matched
  simpa [Node.isQuotation] using quotation?_isPlain read

theorem many_param?_quotes (cursor : Cursor) :
    ∀ param ∈ (cursor.many param?).1, param.Quotes :=
  Cursor.forall_mem_many (fun _ _ _ => param?_quotes) cursor

theorem opening?_quotes {cursor after : Cursor} {opening : Opening}
    (matched : opening? cursor = some (opening, after)) :
    ∀ param ∈ opening.params, param.Quotes := by
  simp only [opening?, Option.bind_eq_bind, Option.bind_eq_some_iff] at matched
  obtain ⟨_, _, _, _, _, _, yielded⟩ := matched
  cases yielded
  exact many_param?_quotes _

theorem inclusion?_quotes {cursor after : Cursor} {node : Node}
    (matched : inclusion? cursor = some (node, after)) : node.Quotes := by
  simp only [inclusion?, Option.bind_eq_bind, Option.bind_eq_some_iff] at matched
  obtain ⟨_, _, _, _, ⟨target, afterTarget⟩, ofTarget, _, _, yielded⟩ := matched
  cases yielded
  exact .inclusion (target?_quotes ofTarget) (many_param?_quotes _)

theorem earlyPart?_isPlain {cursor after : Cursor} {node : Node}
    (matched : earlyPart? cursor = some (node, after)) : node.isPlain = true := by
  rcases earlyPart?_cases matched with raw | comment
  · obtain ⟨_, _, yielded⟩ := Option.map_eq_some_iff.mp raw
    cases yielded
    rfl
  · obtain ⟨_, _, yielded⟩ := Option.map_eq_some_iff.mp comment
    cases yielded
    rfl

theorem text?_isPlain {cursor after : Cursor} {node : Node}
    (matched : text? cursor = some (node, after)) : node.isPlain = true := by
  unfold text? at matched
  split at matched
  · cases matched
    rfl
  · split at matched
    · cases matched
    · cases matched
      rfl

theorem latePart?_quotes {cursor after : Cursor} {node : Node}
    (matched : latePart? cursor = some (node, after)) : node.Quotes := by
  rcases latePart?_cases matched with inclusion | special | reference | text
  · exact inclusion?_quotes inclusion
  · exact .plain (special?_isPlain special)
  · exact .plain (reference?_isPlain reference)
  · exact .plain (text?_isPlain text)

/-- A rule whose parts all quote. -/
def BodyRule.Quotes (readParts : BodyRule) : Prop :=
  ∀ cursor nodes after, readParts cursor = .ok (nodes, after) → ∀ node ∈ nodes, node.Quotes

theorem branchesWithin_quotes {readParts : BodyRule} (quotes : readParts.Quotes) {fuel : Nat}
    {cursor after : Cursor} {branches : List (String × Node)}
    (matched : branchesWithin readParts fuel cursor = .ok (branches, after)) :
    ∀ entry ∈ branches, entry.2.Quotes := by
  induction fuel generalizing cursor branches with
  | zero =>
      cases matched
      simp
  | succ fuel inductionHypothesis =>
      rcases branchesWithin_succ_cases matched with rfl |
        ⟨name, inside, parts, afterBody, others, _, read, following, rfl⟩
      · simp
      · intro entry member
        rcases List.mem_cons.mp member with rfl | later
        · exact .body (quotes _ parts afterBody read)
        · exact inductionHypothesis following entry later

theorem section?_quotes {readParts : BodyRule} (quotes : readParts.Quotes)
    {cursor after : Cursor} {node : Node}
    (matched : section? readParts cursor = .ok (some (node, after))) : node.Quotes := by
  obtain ⟨opening, afterOpening, bodies, opened, rfl, ofBodies⟩ := section?_cases matched
  refine .sectionTag (opening?_quotes opened) ?_
  rcases ofBodies with ⟨rfl, _⟩ | ⟨inside, atEnd, _, read⟩
  · simp
  · obtain ⟨parts, afterBody, branches, main, ofBranches, rfl⟩ := sectionBodies_cases read
    intro entry member
    rcases List.mem_append.mp member with branch | isMain
    · exact branchesWithin_quotes quotes ofBranches entry branch
    · rw [List.mem_singleton.mp isMain]
      exact .body (quotes _ parts afterBody main)

theorem partsWithin_quotes (fuel : Nat) : (partsWithin fuel).Quotes := by
  induction fuel with
  | zero =>
      intro cursor nodes after read
      cases read
      simp
  | succ fuel inductionHypothesis =>
      intro cursor nodes after read
      unfold partsWithin at read
      split at read
      · cases read
      · cases read
        simp
      · rename_i first afterPart readFirst
        split at read
        · cases read
        · rename_i others last readOthers
          cases read
          intro node member
          rcases List.mem_cons.mp member with rfl | later
          · rcases part?_cases readFirst with early | ⟨_, enclosed | late⟩
            · exact .plain (earlyPart?_isPlain early)
            · exact section?_quotes inductionHypothesis enclosed
            · exact latePart?_quotes late
          · exact inductionHypothesis afterPart others after readOthers node later

theorem parse_quotes {source : String} {node : Node} (parsed : Node.parse source = .ok node) :
    node.Quotes := by
  unfold Node.parse at parsed
  simp only at parsed
  split at parsed
  · cases parsed
  · rename_i nodes last read
    split at parsed
    · cases parsed
      exact .body (partsWithin_quotes _ _ nodes last read)
    · cases parsed

end Reading

namespace Node

theorem forall_mem_joinTexts {holds : Node → Prop}
    (texts : ∀ content position, holds (text content position)) {nodes : List Node}
    (each : ∀ node ∈ nodes, holds node) : ∀ node ∈ joinTexts nodes, holds node := by
  induction nodes with
  | nil => simp [joinTexts]
  | cons first rest inductionHypothesis =>
      have later := inductionHypothesis fun node member => each node (by simp [member])
      intro node member
      change node ∈ joinFront first (joinTexts rest) at member
      unfold joinFront at member
      split at member
      · rename_i split
        rcases List.mem_cons.mp member with rfl | other
        · exact texts _ _
        · exact later node (by simp [split, other])
      · rcases List.mem_cons.mp member with rfl | other
        · exact each _ (by simp)
        · exact later node other

theorem tidy?_isPlain {whitespace : Whitespace} {node tidied : Node}
    (isPlain : node.isPlain = true) (stays : tidy? whitespace node = some tidied) :
    tidied.isPlain = true := by
  cases node with
  | lineBreak newline blanks position =>
      cases whitespace with
      | strip => cases stays
      | preserve =>
          cases stays
          rfl
  | body parts position => cases isPlain
  | sectionTag kind identifier context params bodies position => cases isPlain
  | inclusion kind target context params position => cases isPlain
  | comment content position => cases stays
  | text content position =>
      cases stays
      rfl
  | raw content position =>
      cases stays
      rfl
  | special key position =>
      cases stays
      rfl
  | reference identifier filters position =>
      cases stays
      rfl

theorem forall_mem_tidyParts {before holds : Node → Prop} {whitespace : Whitespace}
    (stays : ∀ node tidied, before node → tidy? whitespace node = some tidied → holds tidied)
    {parts : List Node} (each : ∀ part ∈ parts, before part) :
    ∀ node ∈ tidyParts whitespace parts, holds node := by
  induction parts with
  | nil => simp [tidyParts]
  | cons first rest inductionHypothesis =>
      intro node member
      rcases List.mem_append.mp member with here | later
      · exact stays first node (each first (by simp)) (Option.mem_toList.mp here)
      · exact inductionHypothesis (fun part inside => each part (by simp [inside])) node later

theorem isQuotation_tidy {whitespace : Whitespace} {inner : Node}
    (isQuotation : inner.isQuotation = true) :
    (orEmptyBody (tidy? whitespace inner) inner.position).isQuotation = true := by
  cases inner with
  | body parts position =>
      have each : ∀ part ∈ parts, part.isPlain = true := by
        simpa [Node.isQuotation] using isQuotation
      have tidied : ∀ node ∈ tidyParts whitespace parts, node.isPlain = true :=
        forall_mem_tidyParts (fun _ _ isPlain stays => tidy?_isPlain isPlain stays) each
      have joined : ∀ node ∈ joinTexts (tidyParts whitespace parts), node.isPlain = true :=
        forall_mem_joinTexts (fun _ _ => rfl) tidied
      simpa [tidy?, orEmptyBody, Node.isQuotation] using joined
  | _ => cases isQuotation

theorem forall_mem_tidyParams {whitespace : Whitespace} {params : List (Param Node)}
    (each : ∀ param ∈ params, param.Quotes) :
    ∀ param ∈ tidyParams whitespace params, param.Quotes := by
  induction params with
  | nil => simp [tidyParams]
  | cons first rest inductionHypothesis =>
      have later := inductionHypothesis fun param member => each param (by simp [member])
      have here := each first (by simp)
      obtain ⟨key, value⟩ := first
      intro param member
      cases value with
      | literal value =>
          rcases List.mem_cons.mp member with rfl | other
          · exact fun inner same => by cases same
          · exact later param other
      | identifier name =>
          rcases List.mem_cons.mp member with rfl | other
          · exact fun inner same => by cases same
          · exact later param other
      | inline inner =>
          rcases List.mem_cons.mp member with rfl | other
          · intro tidied same
            cases same
            exact isQuotation_tidy (here inner rfl)
          · exact later param other

theorem forall_mem_tidyBodies {whitespace : Whitespace} {bodies : List (String × Node)}
    (each : ∀ entry ∈ bodies, ∀ tidied, tidy? whitespace entry.2 = some tidied → tidied.Quotes) :
    ∀ entry ∈ tidyBodies whitespace bodies, entry.2.Quotes := by
  induction bodies with
  | nil => simp [tidyBodies]
  | cons first rest inductionHypothesis =>
      obtain ⟨name, inner⟩ := first
      intro entry member
      rcases List.mem_cons.mp member with rfl | other
      · have here := each (name, inner) (by simp)
        cases tidied : tidy? whitespace inner with
        | none => exact .body (by simp)
        | some stays => exact here stays tidied
      · exact inductionHypothesis (fun entry inside => each entry (by simp [inside])) entry other

theorem tidy?_quotes {whitespace : Whitespace} {node : Node} (quotes : node.Quotes) :
    ∀ tidied, tidy? whitespace node = some tidied → tidied.Quotes := by
  induction quotes with
  | body inside inductionHypothesis =>
      intro tidied stays
      cases stays
      have parts := forall_mem_tidyParts (fun part tidied before => before tidied)
        inductionHypothesis
      exact .body (forall_mem_joinTexts (fun _ _ => .plain rfl) parts)
  | plain isPlain => exact fun tidied stays => .plain (tidy?_isPlain isPlain stays)
  | sectionTag ofParams inside inductionHypothesis =>
      intro tidied stays
      cases stays
      exact .sectionTag (forall_mem_tidyParams ofParams)
        (forall_mem_tidyBodies inductionHypothesis)
  | @inclusion kind target context params position ofTarget ofParams =>
      intro tidied stays
      cases target with
      | name text =>
          cases stays
          exact .inclusion (fun inner same => by cases same) (forall_mem_tidyParams ofParams)
      | inline inner =>
          cases stays
          refine .inclusion ?_ (forall_mem_tidyParams ofParams)
          intro tidied same
          cases same
          exact isQuotation_tidy (ofTarget inner rfl)

theorem tidy_quotes {whitespace : Whitespace} {node : Node} (quotes : node.Quotes) :
    (node.tidy whitespace).Quotes := by
  unfold tidy orEmptyBody
  cases tidied : tidy? whitespace node with
  | none => exact .body (by simp)
  | some stays => exact tidy?_quotes quotes stays tidied

end Node

end BraceTemplate
