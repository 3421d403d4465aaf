import BraceTemplate.Program.Compile

/-!
# The automatic filters of references

An escape pragma chooses the automatic filter of the references in its main body, however deep they
stand in it: in the bodies of other tags, in the texts of parameters and names, in definitions of
blocks. An escape pragma inside chooses anew for its own main body. Main statement: body by body,
the references of a program are those of its tree, each with its own filters in order and with the
automatic one of the innermost escape pragma. What stands elsewhere in a pragma is left out.
-/

namespace BraceTemplate

/-- Where something stands in a tag: in its main body, which is the first one that is named so, in
another body, or in the text of a parameter. -/
inductive Slot where
  | main
  | branch
  | param
deriving Repr, DecidableEq

/-- A tag that something stands in, and where. -/
inductive Enclosure where
  | sectionTag (kind : SectionKind) (identifier : Identifier) (context : Option Identifier)
      (slot : Slot)
  /-- In the text of the name or of a parameter. -/
  | inclusion

namespace Enclosure

/-- The automatic filter that is chosen for the main body of an escape pragma: the one that its
context names, none for `s`, and `h` without a context. -/
def filter? : Enclosure → Option (Option String)
  | sectionTag .pragma identifier context .main =>
    if identifier.text = "esc" then
      match context.map Identifier.text with
      | none => some (some "h")
      | some text => if text = "s" then some none else some (some text)
    else none
  | _ => none

/-- Whether what stands here is compiled: of definitions and of escape pragmas only the main body
is, and nothing of other pragmas. -/
def isCompiled : Enclosure → Bool
  | sectionTag .define _ _ slot => slot = .main
  | sectionTag .pragma identifier _ slot => identifier.text = "esc" && slot = .main
  | _ => true

end Enclosure

/-- A reference in a tree, with the tags that it stands in, from the innermost one outwards. -/
structure Site where
  identifier : Identifier
  filters : List String
  enclosing : List Enclosure

/-- The automatic filter that is chosen by the innermost escape pragma in whose main body something
stands, else the one that is configured. -/
def automatic (configured : Option String) (enclosing : List Enclosure) : Option String :=
  (enclosing.findSome? Enclosure.filter?).getD configured

/-- What is due for a reference: its identifier, its filters in order, and the automatic one. -/
def Site.due (configured : Option String) (site : Site) : Identifier × FilterChain :=
  (site.identifier, ⟨site.filters, automatic configured site.enclosing⟩)

/-- The references that a piece of a tree is compiled with: those in the body that it stands in, and
those in each of the bodies that it opens, in order. -/
structure Survey where
  here : List Site
  opened : List (List Site)

namespace Survey

def nothing : Survey :=
  ⟨[], []⟩

def append (first second : Survey) : Survey :=
  ⟨first.here ++ second.here, first.opened ++ second.opened⟩

/-- What stands in a tag opens a body, unless it is left out. The main body of an escape pragma
belongs to the body around it. -/
def within (enclosure : Enclosure) (inner : Survey) : Survey :=
  if enclosure.filter?.isSome then inner
  else if enclosure.isCompiled then ⟨[], inner.here :: inner.opened⟩
  else nothing

@[simp] theorem append_nothing (survey : Survey) : survey.append nothing = survey := by
  simp [append, nothing]

@[simp] theorem nothing_append (survey : Survey) : nothing.append survey = survey := by
  simp [append, nothing]

end Survey

namespace Node

mutual

def survey (enclosing : List Enclosure) : Node → Survey
  | body parts _ => surveyParts enclosing parts
  | reference identifier filters _ => ⟨[⟨identifier, filters, enclosing⟩], []⟩
  | sectionTag kind identifier context params bodies _ =>
    (surveyBodies (.sectionTag kind identifier context) false enclosing bodies).append
      (surveyParams (.sectionTag kind identifier context .param) enclosing params)
  | inclusion _ target _ params _ =>
    (surveyTarget enclosing target).append (surveyParams .inclusion enclosing params)
  | _ => .nothing

def surveyParts (enclosing : List Enclosure) : List Node → Survey
  | [] => .nothing
  | part :: rest => (survey enclosing part).append (surveyParts enclosing rest)

def surveyBodies (tag : Slot → Enclosure) (hadMain : Bool) (enclosing : List Enclosure) :
    List (String × Node) → Survey
  | [] => .nothing
  | (name, inner) :: rest =>
    if name = mainBody && !hadMain then
      (Survey.within (tag .main) (survey (tag .main :: enclosing) inner)).append
        (surveyBodies tag true enclosing rest)
    else
      (Survey.within (tag .branch) (survey (tag .branch :: enclosing) inner)).append
        (surveyBodies tag hadMain enclosing rest)

def surveyParams (enclosure : Enclosure) (enclosing : List Enclosure) :
    List (Param Node) → Survey
  | [] => .nothing
  | ⟨_, .literal _⟩ :: rest => surveyParams enclosure enclosing rest
  | ⟨_, .identifier _⟩ :: rest => surveyParams enclosure enclosing rest
  | ⟨_, .inline inner⟩ :: rest =>
    (Survey.within enclosure (survey (enclosure :: enclosing) inner)).append
      (surveyParams enclosure enclosing rest)

def surveyTarget (enclosing : List Enclosure) : Target Node → Survey
  | .name _ => .nothing
  | .inline inner => Survey.within .inclusion (survey (.inclusion :: enclosing) inner)

end

/-- The references of a tree by the bodies that they are compiled into: those in its own body, and
then those in the bodies that are opened in it, in order. -/
def sites (node : Node) : List (List Site) :=
  (node.survey []).here :: (node.survey []).opened

end Node

def Op.reference? : Op → Option (Identifier × FilterChain)
  | reference identifier chain => some (identifier, chain)
  | _ => none

def Op.references (ops : List Op) : List (Identifier × FilterChain) :=
  ops.filterMap reference?

/-- Compiling lays out the references of a survey: in its result given ones and then those of its
own body, and in each body those of that. -/
def Compile.Refers {Result : Type} (configured : Option String)
    (given : List (Identifier × FilterChain))
    (ofResult : Result → List (Identifier × FilterChain)) (compile : Compile Result)
    (survey : Survey) : Prop :=
  ∀ next, ofResult (compile next).result = given ++ survey.here.map (Site.due configured) ∧
    (compile next).bodies.map Op.references = survey.opened.map (List.map (Site.due configured))

namespace Compile.Refers

variable {Result Next : Type} {configured : Option String}
variable {given : List (Identifier × FilterChain)} {survey first second : Survey}
variable {ofResult : Result → List (Identifier × FilterChain)}
variable {ofNext : Next → List (Identifier × FilterChain)}

theorem pure {result : Result} (same : ofResult result = given) :
    Compile.Refers configured given ofResult (Pure.pure result) .nothing :=
  fun _ => ⟨same.trans (List.append_nil given).symm, rfl⟩

theorem bind {compile : Compile Result} {following : Result → Compile Next}
    (ofFirst : compile.Refers configured [] ofResult first)
    (ofSecond : ∀ result,
      (following result).Refers configured (given ++ ofResult result) ofNext second) :
    (compile >>= following).Refers configured given ofNext (first.append second) := by
  intro next
  obtain ⟨here, opened⟩ := ofFirst next
  obtain ⟨hereToo, openedToo⟩ :=
    ofSecond (compile next).result (next + (compile next).bodies.length)
  constructor
  · change ofNext (following _ _).result = _
    rw [hereToo, here]
    simp [Survey.append]
  · change ((compile next).bodies ++ (following _ _).bodies).map Op.references = _
    rw [List.map_append, opened, openedToo, Survey.append, List.map_append]

/-- What comes behind may refer to nothing else. -/
theorem followedBy {compile : Compile Result} {following : Result → Compile Next}
    (ofCompile : compile.Refers configured [] ofResult survey)
    (ofSecond : ∀ result,
      (following result).Refers configured (given ++ ofResult result) ofNext .nothing) :
    (compile >>= following).Refers configured given ofNext survey := by
  have whole := ofCompile.bind ofSecond
  rwa [Survey.append_nothing] at whole

/-- An opened body has the references of its contents, and the body around it gets none. -/
theorem openBody {contents : Compile (List Op)} {enclosure : Enclosure}
    (ofContents : contents.Refers configured [] Op.references survey)
    (noFilter : enclosure.filter? = none) (compiled : enclosure.isCompiled = true) :
    (Compile.openBody contents).Refers configured [] (fun _ => []) (.within enclosure survey) := by
  intro next
  obtain ⟨here, opened⟩ := ofContents (next + 1)
  have within : Survey.within enclosure survey = ⟨[], survey.here :: survey.opened⟩ := by
    simp [Survey.within, noFilter, compiled]
  rw [within]
  refine ⟨rfl, ?_⟩
  change Op.references (contents (next + 1)).result ::
    (contents (next + 1)).bodies.map Op.references = _
  rw [here, opened]
  rfl

end Compile.Refers

section Enclosures

variable {configured : Option String} {enclosing : List Enclosure} {enclosure : Enclosure}
variable {identifier : Identifier} {context : Option Identifier}

theorem automatic_cons_of_none (noFilter : enclosure.filter? = none) :
    automatic configured (enclosure :: enclosing) = automatic configured enclosing := by
  simp [automatic, noFilter]

theorem Enclosure.filter?_escape (isEscape : identifier.text = escapePragma) :
    (Enclosure.sectionTag .pragma identifier context .main).filter? =
      some (pragmaFilter context) := by
  simp only [Enclosure.filter?, show identifier.text = "esc" from isEscape, if_true]
  cases context with
  | none => rfl
  | some named =>
      simp only [Option.map_some, pragmaFilter]
      split <;> rfl

theorem automatic_escape (isEscape : identifier.text = escapePragma) :
    automatic configured (.sectionTag .pragma identifier context .main :: enclosing) =
      pragmaFilter context := by
  simp [automatic, Enclosure.filter?_escape isEscape]

theorem Survey.within_of_not_compiled (leftOut : enclosure.isCompiled = false) (inner : Survey) :
    Survey.within enclosure inner = .nothing := by
  have noFilter : enclosure.filter? = none := by
    unfold Enclosure.filter?
    split
    · split
      · rename_i isEscape
        simp [Enclosure.isCompiled, isEscape] at leftOut
      · rfl
    · rfl
  simp [within, noFilter, leftOut]

end Enclosures

namespace Node

variable {configured : Option String}

section LeftOut

variable {enclosing : List Enclosure}

theorem surveyParams_of_not_compiled {enclosure : Enclosure}
    (leftOut : enclosure.isCompiled = false) (params : List (Param Node)) :
    surveyParams enclosure enclosing params = .nothing := by
  induction params with
  | nil => rfl
  | cons param rest inductionHypothesis =>
      obtain ⟨key, value⟩ := param
      cases value with
      | inline inner =>
          rw [surveyParams, inductionHypothesis, Survey.within_of_not_compiled leftOut,
            Survey.append_nothing]
      | _ => exact inductionHypothesis

/-- Where no more main body comes, branches that are left out leave nothing. -/
theorem surveyBodies_of_not_compiled {tag : Slot → Enclosure} {hadMain : Bool}
    (branch : (tag .branch).isCompiled = false)
    (main : hadMain = true ∨ (tag .main).isCompiled = false) (bodies : List (String × Node)) :
    surveyBodies tag hadMain enclosing bodies = .nothing := by
  induction bodies generalizing hadMain with
  | nil => rfl
  | cons entry rest inductionHypothesis =>
      obtain ⟨name, inner⟩ := entry
      unfold surveyBodies
      split
      · rename_i isMain
        have leftOut : (tag .main).isCompiled = false := by
          rcases main with had | leftOut
          · simp [had] at isMain
          · exact leftOut
        rw [Survey.within_of_not_compiled leftOut, inductionHypothesis (.inl rfl),
          Survey.append_nothing]
      · rw [Survey.within_of_not_compiled branch, inductionHypothesis main, Survey.append_nothing]

end LeftOut

theorem writing_refers (text : String) :
    Compile.Refers configured [] Op.references (Pure.pure (Op.writing text)) .nothing := by
  refine .pure ?_
  unfold Op.writing
  split <;> rfl

mutual

/-- Compiling a part lays out the references of its survey. -/
theorem steps_refers : ∀ (node : Node) (enclosing : List Enclosure),
    (node.steps (automatic configured enclosing)).Refers configured [] Op.references
      (node.survey enclosing)
  | body parts _, enclosing => stepsOfParts_refers parts enclosing
  | text _ _, _ => writing_refers _
  | lineBreak _ _ _, _ => writing_refers _
  | raw _ _, _ => writing_refers _
  | comment _ _, _ => .pure rfl
  | special _ _, _ => writing_refers _
  | reference _ _ _, _ => fun _ => ⟨rfl, rfl⟩
  | sectionTag kind identifier context params bodies _, enclosing => by
    have tagged : ∀ tag : NamedBodies → ParamExprs → Op,
        (∀ entries exprs, (tag entries exprs).reference? = none) →
        (∀ slot, (Enclosure.sectionTag kind identifier context slot).filter? = none) →
        (∀ slot, (Enclosure.sectionTag kind identifier context slot).isCompiled = true) →
        Compile.Refers configured [] Op.references (do
            let bodies ← openBodies (automatic configured enclosing) bodies
            let params ← paramExprs (automatic configured enclosing) params
            pure [tag bodies params])
          ((surveyBodies (.sectionTag kind identifier context) false enclosing bodies).append
            (surveyParams (.sectionTag kind identifier context .param) enclosing params)) :=
      fun tag noReference noFilter compiled =>
        (openBodies_refers bodies _ noFilter compiled false enclosing).bind fun entries =>
          (paramExprs_refers params _ (noFilter .param) (compiled .param) enclosing).followedBy
            fun exprs => .pure (by simp [Op.references, noReference])
    have bodiesOnly : (Enclosure.sectionTag kind identifier context .param).isCompiled = false →
        (surveyBodies (.sectionTag kind identifier context) false enclosing bodies).append
            (surveyParams (.sectionTag kind identifier context .param) enclosing params) =
          surveyBodies (.sectionTag kind identifier context) false enclosing bodies := by
      intro leftOut
      rw [surveyParams_of_not_compiled leftOut, Survey.append_nothing]
    cases kind with
    | each => exact tagged _ (fun _ _ => rfl) (fun _ => rfl) fun _ => rfl
    | present => exact tagged _ (fun _ _ => rfl) (fun _ => rfl) fun _ => rfl
    | absent => exact tagged _ (fun _ _ => rfl) (fun _ => rfl) fun _ => rfl
    | yield => exact tagged _ (fun _ _ => rfl) (fun _ => rfl) fun _ => rfl
    | helper => exact tagged _ (fun _ _ => rfl) (fun _ => rfl) fun _ => rfl
    | define =>
        rw [survey, bodiesOnly rfl]
        refine (openMain_refers bodies identifier context enclosing).followedBy fun opened => ?_
        cases opened with
        | none => exact .pure rfl
        | some id => exact fun _ => ⟨rfl, rfl⟩
    | pragma =>
        rw [survey, bodiesOnly (by simp [Enclosure.isCompiled])]
        simp only [steps]
        split
        · rename_i isEscape
          exact stepsOfMain_refers bodies context isEscape enclosing
        · rename_i isOther
          have leftOut : ∀ slot,
              (Enclosure.sectionTag .pragma identifier context slot).isCompiled = false :=
            fun slot => by
              simp [Enclosure.isCompiled, show identifier.text ≠ "esc" from isOther]
          rw [surveyBodies_of_not_compiled (leftOut .branch) (.inr (leftOut .main))]
          exact .pure rfl
  | inclusion kind target context params _, enclosing =>
    (targetName_refers target enclosing).bind fun _ =>
      (paramExprs_refers params .inclusion rfl rfl enclosing).followedBy fun _ => by
        cases kind <;> exact .pure rfl

theorem stepsOfParts_refers : ∀ (parts : List Node) (enclosing : List Enclosure),
    (stepsOfParts (automatic configured enclosing) parts).Refers configured [] Op.references
      (surveyParts enclosing parts)
  | [], _ => .pure rfl
  | part :: rest, enclosing =>
    (steps_refers part enclosing).bind fun _ =>
      (stepsOfParts_refers rest enclosing).followedBy fun _ => .pure (by simp [Op.references])

/-- The main body of an escape pragma is compiled in place, with the filter that it chooses. -/
theorem stepsOfMain_refers {identifier : Identifier} : ∀ (bodies : List (String × Node))
    (context : Option Identifier) (_ : identifier.text = escapePragma)
    (enclosing : List Enclosure),
    (stepsOfMain (pragmaFilter context) bodies).Refers configured [] Op.references
      (surveyBodies (.sectionTag .pragma identifier context) false enclosing bodies)
  | [], _, _, _ => .pure rfl
  | (name, inner) :: rest, context, isEscape, enclosing => by
    have chosen : (Enclosure.sectionTag .pragma identifier context .main).filter? =
        some (pragmaFilter context) :=
      Enclosure.filter?_escape isEscape
    have branch : (Enclosure.sectionTag .pragma identifier context .branch).isCompiled = false := by
      simp [Enclosure.isCompiled]
    unfold stepsOfMain surveyBodies
    by_cases isMain : name = mainBody
    · have here := steps_refers inner (.sectionTag .pragma identifier context .main :: enclosing)
      rw [automatic_escape isEscape] at here
      rw [surveyBodies_of_not_compiled branch (.inl rfl)]
      simpa [isMain, Survey.within, chosen] using here
    · have later := stepsOfMain_refers rest context isEscape enclosing
      simpa [isMain, Survey.within_of_not_compiled branch] using later

theorem openMain_refers : ∀ (bodies : List (String × Node)) (identifier : Identifier)
    (context : Option Identifier) (enclosing : List Enclosure),
    (openMain (automatic configured enclosing) bodies).Refers configured [] (fun _ => [])
      (surveyBodies (.sectionTag .define identifier context) false enclosing bodies)
  | [], _, _, _ => .pure rfl
  | (name, inner) :: rest, identifier, context, enclosing => by
    have branch : (Enclosure.sectionTag .define identifier context .branch).isCompiled = false :=
      rfl
    unfold openMain surveyBodies
    by_cases isMain : name = mainBody
    · have here := steps_refers inner (.sectionTag .define identifier context .main :: enclosing)
      rw [automatic_cons_of_none rfl] at here
      have opened : Compile.Refers configured [] (fun _ => []) (do
            let id ← Compile.openBody (steps (automatic configured enclosing) inner)
            pure (some id))
          (.within (.sectionTag .define identifier context .main)
            (inner.survey (.sectionTag .define identifier context .main :: enclosing))) :=
        (here.openBody rfl rfl).followedBy fun _ => .pure rfl
      rw [surveyBodies_of_not_compiled branch (.inl rfl)]
      simpa [isMain] using opened
    · have later := openMain_refers rest identifier context enclosing
      simpa [isMain, Survey.within_of_not_compiled branch] using later

theorem openBodies_refers : ∀ (bodies : List (String × Node)) (tag : Slot → Enclosure)
    (_ : ∀ slot, (tag slot).filter? = none) (_ : ∀ slot, (tag slot).isCompiled = true)
    (hadMain : Bool) (enclosing : List Enclosure),
    (openBodies (automatic configured enclosing) bodies).Refers configured [] (fun _ => [])
      (surveyBodies tag hadMain enclosing bodies)
  | [], _, _, _, _, _ => .pure rfl
  | (name, inner) :: rest, tag, noFilter, compiled, hadMain, enclosing => by
    have here : ∀ slot, (Compile.openBody (inner.steps (automatic configured enclosing))).Refers
        configured [] (fun _ => [])
        (.within (tag slot) (inner.survey (tag slot :: enclosing))) := by
      intro slot
      have inside := steps_refers inner (tag slot :: enclosing)
      rw [automatic_cons_of_none (noFilter slot)] at inside
      exact inside.openBody (noFilter slot) (compiled slot)
    have whole : ∀ slot had, (openBodies (automatic configured enclosing)
        ((name, inner) :: rest)).Refers configured [] (fun _ => [])
          ((Survey.within (tag slot) (inner.survey (tag slot :: enclosing))).append
            (surveyBodies tag had enclosing rest)) := fun slot had =>
      (here slot).bind fun _ =>
        (openBodies_refers rest tag noFilter compiled had enclosing).followedBy fun _ => .pure rfl
    unfold surveyBodies
    split
    · exact whole .main true
    · exact whole .branch hadMain

theorem paramExprs_refers : ∀ (params : List (Param Node)) (enclosure : Enclosure)
    (_ : enclosure.filter? = none) (_ : enclosure.isCompiled = true)
    (enclosing : List Enclosure),
    (paramExprs (automatic configured enclosing) params).Refers configured [] (fun _ => [])
      (surveyParams enclosure enclosing params)
  | [], _, _, _, _ => .pure rfl
  | ⟨_, .literal _⟩ :: rest, enclosure, noFilter, compiled, enclosing =>
    (paramExprs_refers rest enclosure noFilter compiled enclosing).followedBy fun _ => .pure rfl
  | ⟨_, .identifier _⟩ :: rest, enclosure, noFilter, compiled, enclosing =>
    (paramExprs_refers rest enclosure noFilter compiled enclosing).followedBy fun _ => .pure rfl
  | ⟨_, .inline inner⟩ :: rest, enclosure, noFilter, compiled, enclosing => by
    have inside := steps_refers inner (enclosure :: enclosing)
    rw [automatic_cons_of_none noFilter] at inside
    exact (inside.openBody noFilter compiled).bind fun _ =>
      (paramExprs_refers rest enclosure noFilter compiled enclosing).followedBy fun _ => .pure rfl

theorem targetName_refers : ∀ (target : Target Node) (enclosing : List Enclosure),
    (targetName (automatic configured enclosing) target).Refers configured [] (fun _ => [])
      (surveyTarget enclosing target)
  | .name _, _ => .pure rfl
  | .inline inner, enclosing =>
    ((steps_refers inner (.inclusion :: enclosing)).openBody rfl rfl).followedBy fun _ => .pure rfl

end

end Node

/-- Body by body, the references of a program are those that its tree has there, in order, each with
its own filters and with the automatic one that is chosen where it stands. -/
theorem Program.ofNode_references (name configured : Option String) (node : Node) :
    (ofNode name configured node).bodies.map Op.references =
      node.sites.map (List.map (Site.due configured)) := by
  have refers : (node.steps configured).Refers configured [] Op.references (node.survey []) :=
    node.steps_refers []
  obtain ⟨here, opened⟩ := refers 1
  have laid : (ofNode name configured node).bodies.map Op.references =
      Op.references (node.steps configured 1).result ::
        (node.steps configured 1).bodies.map Op.references :=
    rfl
  rw [laid, here, opened]
  rfl

/-- The section inside the pragma gets its filter, and so does the reference behind the inner
pragma. -/
example :
    let tag := fun kind name context parts =>
      Node.sectionTag kind (.key name) context [] [(mainBody, .body parts default)] default
    let mention := fun name => Node.reference (.key name) [] default
    let due := fun name auto => (Identifier.key name, FilterChain.mk [] auto)
    (Program.ofNode none (some "h") (.body [
        tag .pragma "esc" (some (.key "j")) [
          tag .each "a" none [mention "b"],
          tag .pragma "esc" (some (.key "s")) [mention "c"],
          mention "d"],
        mention "e"] default)).bodies.map Op.references =
      [[due "c" none, due "d" (some "j"), due "e" (some "h")], [due "b" (some "j")]] :=
  rfl

end BraceTemplate
