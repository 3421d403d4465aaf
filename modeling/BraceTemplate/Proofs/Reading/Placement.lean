import BraceTemplate.Proofs.Grammar.Naturality
import BraceTemplate.Proofs.Reading.Documents

/-!
# Templates read the same in every place

Where the same characters are left, every rule builds the same, up to the positions in its trees,
and so does the reader of parts.
-/

namespace BraceTemplate

mutual

/-- The tree with every position forgotten. -/
def Node.bare : Node → Node
  | .body parts _ => .body (Node.bareParts parts) default
  | .text content _ => .text content default
  | .lineBreak newline blanks _ => .lineBreak newline blanks default
  | .raw content _ => .raw content default
  | .comment content _ => .comment content default
  | .special key _ => .special key default
  | .reference identifier filters _ => .reference identifier filters default
  | .sectionTag kind identifier context params bodies _ =>
    .sectionTag kind identifier context (Node.bareParams params) (Node.bareBodies bodies) default
  | .inclusion kind (.name name) context params _ =>
    .inclusion kind (.name name) context (Node.bareParams params) default
  | .inclusion kind (.inline inner) context params _ =>
    .inclusion kind (.inline inner.bare) context (Node.bareParams params) default

def Node.bareParts : List Node → List Node
  | [] => []
  | part :: rest => part.bare :: Node.bareParts rest

def Node.bareBodies : List (String × Node) → List (String × Node)
  | [] => []
  | (name, inner) :: rest => (name, inner.bare) :: Node.bareBodies rest

def Node.bareParams : List (Param Node) → List (Param Node)
  | [] => []
  | ⟨key, .literal value⟩ :: rest => ⟨key, .literal value⟩ :: Node.bareParams rest
  | ⟨key, .identifier name⟩ :: rest => ⟨key, .identifier name⟩ :: Node.bareParams rest
  | ⟨key, .inline inner⟩ :: rest => ⟨key, .inline inner.bare⟩ :: Node.bareParams rest

end

/-- Two trees are the same up to positions. -/
def Node.Alike (first second : Node) : Prop :=
  first.bare = second.bare

theorem Node.bareParts_eq {parts others : List Node}
    (alike : List.Forall₂ Node.Alike parts others) :
    Node.bareParts parts = Node.bareParts others := by
  induction alike with
  | nil => rfl
  | cons same _ inductionHypothesis =>
      simp only [Node.bareParts, inductionHypothesis]
      rw [same]

theorem Node.Alike.body {parts others : List Node} (alike : List.Forall₂ Node.Alike parts others)
    (position other : Position) : (Node.body parts position).Alike (.body others other) := by
  simp only [Node.Alike, Node.bare, Node.bareParts_eq alike]

/-- Two values of parameters are the same up to positions. -/
inductive ParamValue.Alike : ParamValue Node → ParamValue Node → Prop
  | refl (value : ParamValue Node) : ParamValue.Alike value value
  | inline {inner other : Node} :
      inner.Alike other → ParamValue.Alike (.inline inner) (.inline other)

def Param.Alike (first second : Param Node) : Prop :=
  first.key = second.key ∧ first.value.Alike second.value

inductive Target.Alike : Target Node → Target Node → Prop
  | refl (target : Target Node) : Target.Alike target target
  | inline {inner other : Node} : inner.Alike other → Target.Alike (.inline inner) (.inline other)

theorem Node.bareParams_eq {params others : List (Param Node)}
    (alike : List.Forall₂ Param.Alike params others) :
    Node.bareParams params = Node.bareParams others := by
  induction alike with
  | nil => rfl
  | @cons first second _ _ same _ inductionHypothesis =>
      obtain ⟨key, value⟩ := first
      obtain ⟨otherKey, otherValue⟩ := second
      obtain ⟨sameKey, sameValue⟩ := same
      dsimp only at sameKey sameValue
      subst sameKey
      cases sameValue with
      | refl => cases value <;> simp only [Node.bareParams, inductionHypothesis]
      | inline innerAlike =>
          simp only [Node.bareParams, inductionHypothesis]
          rw [innerAlike]

theorem Node.Alike.inclusion (kind : InclusionKind) {target other : Target Node}
    {context otherContext : Option Identifier} {params others : List (Param Node)}
    (sameTarget : target.Alike other) (sameContext : context = otherContext)
    (sameParams : List.Forall₂ Param.Alike params others) (here there : Position) :
    (Node.inclusion kind target context params here).Alike
      (.inclusion kind other otherContext others there) := by
  subst sameContext
  cases sameTarget with
  | refl =>
      cases target <;> simp only [Node.Alike, Node.bare, Node.bareParams_eq sameParams]
  | inline innerAlike =>
      simp only [Node.Alike, Node.bare, Node.bareParams_eq sameParams]
      rw [innerAlike]

def NamedAlike (first second : String × Node) : Prop :=
  first.1 = second.1 ∧ first.2.Alike second.2

theorem Node.bareBodies_eq {bodies others : List (String × Node)}
    (alike : List.Forall₂ NamedAlike bodies others) :
    Node.bareBodies bodies = Node.bareBodies others := by
  induction alike with
  | nil => rfl
  | @cons first second _ _ same _ inductionHypothesis =>
      obtain ⟨name, inner⟩ := first
      obtain ⟨otherName, other⟩ := second
      obtain ⟨sameName, innerAlike⟩ := same
      dsimp only at sameName innerAlike
      subst sameName
      simp only [Node.bareBodies, inductionHypothesis]
      rw [innerAlike]

/-- Two quotations are the same up to positions. -/
inductive Reading.Quotation.Alike : Quotation → Quotation → Prop
  | plain (text : String) : Quotation.Alike (.plain text) (.plain text)
  | mixed {parts others : List Node} (position other : Position) :
      List.Forall₂ Node.Alike parts others →
      Quotation.Alike (.mixed parts position) (.mixed others other)

/-- Two opening tags are the same up to positions. -/
structure Reading.Opening.Alike (first second : Opening) : Prop where
  kind : first.kind = second.kind
  identifier : first.identifier = second.identifier
  context : first.context = second.context
  params : List.Forall₂ Param.Alike first.params second.params

namespace Grammar

open Reading Source

def sameBuilt : (Result : Type) → Rule Result → Result → Result → Prop
  | _, .body => Node.Alike
  | _, .part => Node.Alike
  | _, .sectionTag => Node.Alike
  | _, .opening => Opening.Alike
  | _, .params => List.Forall₂ Param.Alike
  | _, .bodies => List.Forall₂ NamedAlike
  | _, .reference => Node.Alike
  | _, .inclusion => Node.Alike
  | _, .special => Node.Alike
  | _, .inline => Quotation.Alike
  | _, .inlinePart => Node.Alike
  | _, .buffer => Node.Alike
  | _, .raw => Node.Alike
  | _, .comment => Node.Alike
  | _, _ => Eq

def holdsNoTree : (Result : Type) → Rule Result → Prop
  | _, .endTag => True
  | _, .context => True
  | _, .filters => True
  | _, .identifier => True
  | _, .number => True
  | _, .float => True
  | _, .integer => True
  | _, .path => True
  | _, .key => True
  | _, .array => True
  | _, .arrayPart => True
  | _, .escape => True
  | _, .lineEnd => True
  | _, .gap => True
  | _, _ => False

theorem sameBuilt_eq (Result : Type) (name : Rule Result) (noTree : holdsNoTree Result name) :
    sameBuilt Result name = Eq := by
  cases name <;> first | rfl | exact noTree.elim

open Expression

section Plain

variable {First Second Result : Type} {plain : (Result : Type) → Rule Result → Prop}

theorem plain_text (chars : List Char) : (text chars).Plain plain := by
  induction chars with
  | nil => exact fun _ _ => rfl
  | cons wanted more inductionHypothesis => exact ⟨trivial, inductionHypothesis⟩

end Plain

theorem plain_consistent (Result : Type) (name : Rule Result) (noTree : holdsNoTree Result name) :
    (grammar Result name).Plain holdsNoTree := by
  cases name <;> first
    | exact noTree.elim
    | simp [grammar, Plain, Expression.optional, gaps, many, atLeastOne, digits, oneOf, done,
        plain_text, dotted, bracketed, index, steps, mark, Functor.map, Seq.seq, SeqLeft.seqLeft,
        SeqRight.seqRight, HOrElse.hOrElse, OrElse.orElse, holdsNoTree]

namespace Expression.Keeps

variable {First Second Result : Type} {same : Result → Result → Prop}
variable {sameFirst : First → First → Prop} {sameSecond : Second → Second → Prop}

theorem plain {expression : Expression Rule Result} (isPlain : expression.Plain holdsNoTree) :
    expression.Keeps sameBuilt Eq :=
  isPlain.keeps sameBuilt sameBuilt_eq

theorem text (chars : List Char) : (Expression.text chars).Keeps sameBuilt Eq :=
  plain (plain_text chars)

theorem position : Expression.position.Keeps sameBuilt fun _ _ => True :=
  fun _ _ => trivial

theorem rule (name : Rule Result) :
    (Expression.rule name).Keeps sameBuilt (sameBuilt Result name) :=
  fun _ _ sameResult => sameResult

theorem map {item : Expression Rule First} {change : First → Result}
    (keeps : item.Keeps sameBuilt sameFirst)
    (changed : ∀ one other, sameFirst one other → same (change one) (change other)) :
    (change <$> item).Keeps sameBuilt same :=
  ⟨sameFirst, keeps, fun one other sameOne => .some (changed one other sameOne)⟩

theorem seq {first : Expression Rule (Second → Result)} {second : Expression Rule Second}
    (firstKeeps : first.Keeps sameBuilt fun change otherChange =>
      ∀ one other, sameSecond one other → same (change one) (otherChange other))
    (secondKeeps : second.Keeps sameBuilt sameSecond) :
    (first <*> second).Keeps sameBuilt same :=
  ⟨_, sameSecond, firstKeeps, secondKeeps, fun _ _ changes => changes⟩

theorem seqLeft {first : Expression Rule Result} {second : Expression Rule Second}
    (firstKeeps : first.Keeps sameBuilt same) (secondKeeps : second.Keeps sameBuilt sameSecond) :
    (first <* second).Keeps sameBuilt same :=
  ⟨same, sameSecond, firstKeeps, secondKeeps, fun _ _ sameResult _ _ _ => sameResult⟩

theorem seqRight {first : Expression Rule First} {second : Expression Rule Result}
    (firstKeeps : first.Keeps sameBuilt sameFirst) (secondKeeps : second.Keeps sameBuilt same) :
    (first *> second).Keeps sameBuilt same :=
  ⟨sameFirst, same, firstKeeps, secondKeeps, fun _ _ _ _ _ sameResult => sameResult⟩

theorem choice {first second : Expression Rule Result} (firstKeeps : first.Keeps sameBuilt same)
    (secondKeeps : second.Keeps sameBuilt same) : (first <|> second).Keeps sameBuilt same :=
  ⟨firstKeeps, secondKeeps⟩

theorem many {item : Expression Rule Result} (keeps : item.Keeps sameBuilt same) :
    (Expression.many item).Keeps sameBuilt (List.Forall₂ same) :=
  ⟨same, keeps, fun _ _ sameItems => sameItems⟩

theorem atLeastOne {item : Expression Rule Result} (keeps : item.Keeps sameBuilt same) :
    (Expression.atLeastOne item).Keeps sameBuilt (List.Forall₂ same) :=
  (keeps.map fun _ _ sameFirst _ _ sameMore => .cons sameFirst sameMore).seq keeps.many

theorem optional {item : Expression Rule Result} (keeps : item.Keeps sameBuilt same) :
    (Expression.optional item).Keeps sameBuilt (Option.Rel same) :=
  (keeps.map fun _ _ sameItem => .some sameItem).choice fun _ _ => .none

theorem butNot {item : Expression Rule Result} (keeps : item.Keeps sameBuilt same) :
    (Expression.butNot item).Keeps sameBuilt Eq :=
  ⟨⟨same, keeps⟩, rfl⟩

theorem gaps : Grammar.gaps.Keeps sameBuilt Eq :=
  plain trivial

theorem oneOf (accepts : Char → Bool) : (Expression.oneOf accepts).Keeps sameBuilt Eq :=
  plain trivial

end Expression.Keeps

theorem ofList_eq {chars others : List Char} (same : List.Forall₂ Eq chars others) :
    String.ofList chars = String.ofList others := by
  rw [List.forall₂_eq_eq_eq] at same
  rw [same]

theorem keeps_delimited (build : String → Position → Node)
    (built : ∀ content position other, (build content position).Alike (build content other))
    (opening closing : List Char) :
    (delimited build opening closing).Keeps sameBuilt Node.Alike := by
  have content : (upTo (text closing)).Keeps sameBuilt (List.Forall₂ Eq) :=
    ((Keeps.text closing).butNot.seqRight (.oneOf _)).many
  refine ((Keeps.position.map ?_).seq ((Keeps.text opening).seqRight content)).seqLeft
    (.text closing)
  intro here there _ chars others sameChars
  dsimp only
  rw [ofList_eq sameChars]
  exact built _ _ _

theorem keeps_body : (grammar Node .body).Keeps sameBuilt Node.Alike :=
  (Keeps.position.map fun here there _ _ _ same => Node.Alike.body same here there).seq
    (Keeps.rule .part).many

theorem keeps_part : (grammar Node .part).Keeps sameBuilt Node.Alike :=
  (Keeps.rule .raw).choice <| (Keeps.rule .comment).choice <| (Keeps.rule .sectionTag).choice <|
    (Keeps.rule .inclusion).choice <| (Keeps.rule .special).choice <|
      (Keeps.rule .reference).choice (Keeps.rule .buffer)

theorem keeps_opening : (grammar Opening .opening).Keeps sameBuilt Opening.Alike := by
  have mark : (text ['{'] *> char SectionKind.ofMark?).Keeps sameBuilt Eq :=
    .plain ⟨plain_text _, trivial⟩
  refine ((((mark.map ?_).seqLeft .gaps).seq (.rule .identifier)).seq (.rule .context)).seq
    (.rule .params)
  intro _ _ sameKind _ _ sameIdentifier _ _ sameContext _ _ sameParams
  exact ⟨sameKind, sameIdentifier, sameContext, sameParams⟩

theorem keeps_quoted {Result : Type} {same : Result → Result → Prop}
    {onText : String → Result} {onBody : Node → Result}
    (texts : ∀ text, same (onText text) (onText text))
    (bodies : ∀ inner other, inner.Alike other → same (onBody inner) (onBody other)) :
    (Quotation.fold onText onBody <$> Expression.rule .inline).Keeps sameBuilt same := by
  apply (Keeps.rule .inline).map
  intro quotation other sameQuotation
  cases sameQuotation with
  | plain text => exact texts text
  | mixed here there parts => exact bodies _ _ (.body parts here there)

theorem keeps_param : param.Keeps sameBuilt Param.Alike := by
  have key : (atLeastOne (Expression.rule .gap) *> Expression.rule .key).Keeps sameBuilt Eq :=
    .plain (by simp [Plain, Expression.atLeastOne, Functor.map, Seq.seq, SeqRight.seqRight,
      Expression.many, holdsNoTree])
  have number : (ParamValue.literal <$> Expression.rule .number).Keeps sameBuilt
      ParamValue.Alike := by
    apply (Keeps.rule .number).map
    rintro literal _ rfl
    exact .refl _
  have identifier : (ParamValue.identifier <$> Expression.rule .identifier).Keeps sameBuilt
      ParamValue.Alike := by
    apply (Keeps.rule .identifier).map
    rintro identifier _ rfl
    exact .refl _
  have quoted : (Quotation.fold (fun content => .literal (.string content)) .inline <$>
      Expression.rule .inline).Keeps sameBuilt ParamValue.Alike :=
    keeps_quoted (fun _ => .refl _) fun _ _ => .inline
  refine ((key.map ?_).seqLeft (.text ['='])).seq (number.choice (identifier.choice quoted))
  exact fun _ _ sameKey _ _ sameValue => ⟨sameKey, sameValue⟩

theorem keeps_branch : branch.Keeps sameBuilt NamedAlike := by
  have tag : (text ['{', ':'] *> Expression.rule .key <* text ['}']).Keeps sameBuilt Eq :=
    ((Keeps.text _).seqRight (.rule .key)).seqLeft (.text _)
  refine (tag.map ?_).seq (.rule .body)
  exact fun _ _ sameName _ _ innerAlike => ⟨sameName, innerAlike⟩

theorem keeps_reference : (grammar Node .reference).Keeps sameBuilt Node.Alike := by
  refine (((Keeps.position.map ?_).seq ((Keeps.text _).seqRight (.rule .identifier))).seq
    (.rule .filters)).seqLeft (.text _)
  rintro here there _ identifier _ rfl filters _ rfl
  rfl

theorem keeps_special : (grammar Node .special).Keeps sameBuilt Node.Alike := by
  refine ((Keeps.position.map ?_).seq ((Keeps.text _).seqRight (.rule .key))).seqLeft (.text _)
  rintro here there _ key _ rfl
  rfl

theorem keeps_inclusion : (grammar Node .inclusion).Keeps sameBuilt Node.Alike := by
  have mark : (text ['{'] *> char inclusionKind?).Keeps sameBuilt Eq :=
    .plain ⟨plain_text _, trivial⟩
  have name : (Target.name <$> Expression.rule .key).Keeps sameBuilt Target.Alike := by
    apply (Keeps.rule .key).map
    rintro name _ rfl
    exact .refl _
  have quoted : (Quotation.fold Target.name .inline <$> Expression.rule .inline).Keeps sameBuilt
      Target.Alike :=
    keeps_quoted (fun _ => .refl _) fun _ _ => .inline
  refine (((((((Keeps.position.map ?_).seq mark).seqLeft .gaps).seq (name.choice quoted)).seq
    (.rule .context)).seq (.rule .params)).seqLeft .gaps).seqLeft (.text _)
  rintro here there _ kind _ rfl _ _ sameTarget _ _ sameContext _ _ sameParams
  exact .inclusion kind sameTarget sameContext sameParams here there

theorem alike_sectionOf {opening other : Opening} {bodies others : List (String × Node)}
    (sameOpening : opening.Alike other) (sameBodies : List.Forall₂ NamedAlike bodies others)
    (here there : Position) :
    (sectionOf here opening bodies).Alike (sectionOf there other others) := by
  simp only [Node.Alike, sectionOf, Node.bare, sameOpening.kind, sameOpening.identifier,
    sameOpening.context, Node.bareParams_eq sameOpening.params, Node.bareBodies_eq sameBodies]

/-- Two sections are the same up to positions as far as they are read. -/
structure Enclosed.Alike (first second : Enclosed) : Prop where
  opening : first.opening.Alike second.opening
  main : first.main.Alike second.main
  branches : List.Forall₂ NamedAlike first.branches second.branches
  closing : first.closing = second.closing

theorem Enclosed.Alike.node {first second : Enclosed} (alike : first.Alike second) :
    Option.Rel Node.Alike first.node? second.node? := by
  have main : NamedAlike (mainBody, first.main) (mainBody, second.main) := ⟨rfl, alike.main⟩
  unfold Enclosed.node?
  rw [alike.closing, alike.opening.identifier]
  split
  · exact .some (alike_sectionOf alike.opening
      (List.rel_append alike.branches (.cons main .nil)) _ _)
  · exact .none

theorem keeps_sectionTag : (grammar Node .sectionTag).Keeps sameBuilt Node.Alike := by
  have enclosed : (Enclosed.mk <$> Expression.position <*> Expression.rule .opening <* Grammar.gaps
      <* text ['}'] <*> Expression.rule .body <*> Expression.rule .bodies <*>
        Expression.optional (.rule .endTag)).Keeps sameBuilt Enclosed.Alike := by
    refine ((((((Keeps.position.map ?_).seq (.rule .opening)).seqLeft .gaps).seqLeft
      (.text ['}'])).seq (.rule .body)).seq (.rule .bodies)).seq (Keeps.rule .endTag).optional
    intro _ _ _ _ _ sameOpening _ _ sameMain _ _ sameBranches _ _ sameClosing
    refine ⟨sameOpening, sameMain, sameBranches, ?_⟩
    cases sameClosing with
    | none => rfl
    | some same => exact congrArg some same
  have selfClosing := (((Keeps.position.map fun here there _ _ _ sameOpening =>
    alike_sectionOf sameOpening .nil here there).seq (.rule .opening)).seqLeft .gaps).seqLeft
      (.text ['/', '}'])
  exact ⟨⟨Enclosed.Alike, enclosed, fun _ _ alike => alike.node⟩, selfClosing⟩

theorem keeps_text {Item : Type} {sameItem : Item → Item → Prop} (content : Item → String)
    (equal : ∀ one other, sameItem one other → content one = content other)
    {item : Expression Rule Item} (keeps : item.Keeps sameBuilt sameItem) :
    ((fun position one => Node.text (content one) position) <$> Expression.position
      <*> item).Keeps sameBuilt Node.Alike := by
  refine (Keeps.position.map ?_).seq keeps
  intro here there _ one other same
  dsimp only
  rw [equal one other same]
  rfl

theorem keeps_buffer : (grammar Node .buffer).Keeps sameBuilt Node.Alike := by
  have ends := (((Keeps.rule .tag).butNot.seqRight (Keeps.rule .raw).butNot).seqRight
    (Keeps.rule .comment).butNot).seqRight (Keeps.rule .lineEnd).butNot
  have content := ends.seqRight (Keeps.oneOf fun _ => true)
  refine .choice (((Keeps.position.map ?_).seq (.rule .lineEnd)).seq .gaps)
    (keeps_text String.ofList (fun _ _ => ofList_eq) content.atLeastOne)
  rintro here there _ newline _ rfl blanks _ rfl
  rfl

theorem keeps_inlinePart : (grammar Node .inlinePart).Keeps sameBuilt Node.Alike :=
  (Keeps.rule .special).choice <| (Keeps.rule .reference).choice <|
    keeps_text id (fun _ _ same => same) (Keeps.rule .literal)

theorem keeps_inline : (grammar Quotation .inline).Keeps sameBuilt Quotation.Alike := by
  have nothing : ((fun _ => Quotation.plain "") <$> text ['"', '"']).Keeps sameBuilt
      Quotation.Alike :=
    (Keeps.text _).map fun _ _ _ => .plain ""
  have plain : (Quotation.plain <$> (text ['"'] *> Expression.rule .literal)).Keeps sameBuilt
      Quotation.Alike := by
    apply ((Keeps.text _).seqRight (.rule .literal)).map
    rintro content _ rfl
    exact .plain content
  have mixed := (Keeps.position.map fun here there _ _ _ sameParts =>
    Quotation.Alike.mixed here there sameParts).seq
      ((Keeps.text ['"']).seqRight (Keeps.rule .inlinePart).atLeastOne)
  exact nothing.choice ((plain.seqLeft (.text _)).choice (mixed.seqLeft (.text _)))

theorem keeps_literal : (grammar String .literal).Keeps sameBuilt Eq := by
  have char := ((Keeps.rule .tag).butNot.seqRight (Keeps.rule .lineEnd).butNot).seqRight
    ((Keeps.rule .escape).choice (Keeps.oneOf fun char => char != '"'))
  exact char.atLeastOne.map fun _ _ => ofList_eq

theorem keeps_tag : (grammar Unit .tag).Keeps sameBuilt Eq := by
  have content : tagContent.Keeps sameBuilt (List.Forall₂ Eq) :=
    (((Keeps.text _).butNot.seqRight (Keeps.rule .lineEnd).butNot).seqRight
      (.oneOf _)).atLeastOne
  have opened := ((Keeps.text ['{']).seqRight .gaps).seqRight (Keeps.oneOf isTagMark)
  have shape := (((opened.seqRight .gaps).seqRight content).seqRight .gaps).seqRight
    (Keeps.text ['}'])
  have reference : ((fun _ => ()) <$> Expression.rule .reference).Keeps sameBuilt Eq :=
    (Keeps.rule .reference).map fun _ _ _ => rfl
  exact shape.choice reference

/-- Every rule builds the same where the rules it uses do. -/
theorem keeps_grammar (Result : Type) (name : Rule Result) :
    (grammar Result name).Keeps sameBuilt (sameBuilt Result name) := by
  by_cases noTree : holdsNoTree Result name
  · rw [sameBuilt_eq Result name noTree]
    exact .plain (plain_consistent Result name noTree)
  · cases name with
    | body => exact keeps_body
    | part => exact keeps_part
    | sectionTag => exact keeps_sectionTag
    | opening => exact keeps_opening
    | params => exact keeps_param.many
    | bodies => exact keeps_branch.many
    | reference => exact keeps_reference
    | inclusion => exact keeps_inclusion
    | special => exact keeps_special
    | inline => exact keeps_inline
    | inlinePart => exact keeps_inlinePart
    | literal => exact keeps_literal
    | buffer => exact keeps_buffer
    | raw => exact keeps_delimited .raw (fun _ _ _ => rfl) _ _
    | comment => exact keeps_delimited .comment (fun _ _ _ => rfl) _ _
    | tag => exact keeps_tag
    | _ => exact (noTree trivial).elim

section Readers

variable {here there : Cursor}

/-- What a rule reads is the same wherever the same characters are left. -/
theorem Reads.alike {Result : Type} {name : Rule Result} {found other : Option (Result × Cursor)}
    (reads : Reads (.rule name) here found) (readsThere : Reads (.rule name) there other)
    (alike : here.Alike there) :
    Option.Rel (fun first second => sameBuilt Result name first.1 second.1 ∧
      first.2.Alike second.2) found other := by
  obtain ⟨outcome, derived, outcomeAlike⟩ :=
    Derives.alike keeps_grammar reads (Keeps.rule name) alike
  obtain rfl := readsThere.functional derived
  cases found with
  | none =>
      cases other with
      | none => exact .none
      | some pair => cases outcomeAlike
  | some pair =>
      cases other with
      | none => cases outcomeAlike
      | some pair =>
          cases outcomeAlike with
          | matched sameResult afterAlike => exact .some ⟨sameResult, afterAlike⟩

theorem isSome_alike {Result : Type} {name : Rule Result}
    {found other : Option (Result × Cursor)} (reads : Reads (.rule name) here found)
    (readsThere : Reads (.rule name) there other) (alike : here.Alike there) :
    found.isSome = other.isSome := by
  cases reads.alike readsThere alike <;> rfl

theorem looksLikeTag_alike (alike : here.Alike there) :
    looksLikeTag here = looksLikeTag there := by
  rw [← isSome_tag?, ← isSome_tag?]
  exact isSome_alike (reads_tag here) (reads_tag there) alike

theorem endsText_alike (alike : here.Alike there) : endsText here = endsText there := by
  have raw := isSome_alike (reads_raw here) (reads_raw there) alike
  have comment := isSome_alike (reads_comment here) (reads_comment there) alike
  unfold endsText Cursor.startsWith
  rw [looksLikeTag_alike alike, raw, comment, alike]

theorem takeUntil_alike {stops : Cursor → Bool}
    (stopsAlike : ∀ {here there : Cursor}, here.Alike there → stops here = stops there)
    (alike : here.Alike there) :
    (here.takeUntil stops).1 = (there.takeUntil stops).1 ∧
      (here.takeUntil stops).2.Alike (there.takeUntil stops).2 := by
  obtain ⟨place, rest⟩ := here
  obtain ⟨otherPlace, _⟩ := there
  cases alike
  simp only [Cursor.takeUntil]
  induction rest generalizing place otherPlace with
  | nil => exact ⟨rfl, rfl⟩
  | cons char rest inductionHypothesis =>
      have sameStop : stops ⟨place, char :: rest⟩ = stops ⟨otherPlace, char :: rest⟩ :=
        stopsAlike rfl
      simp only [Cursor.takeUntilFrom, sameStop]
      split
      · exact ⟨rfl, rfl⟩
      · obtain ⟨sameTaken, sameAfter⟩ :=
          inductionHypothesis (place.advance char) (otherPlace.advance char)
        exact ⟨congrArg (char :: ·) sameTaken, sameAfter⟩

/-- The parts that are left depend on the characters alone, up to positions, whatever the bounds
are as long as they suffice. -/
theorem parts_alike {fuel more : Nat} (enough : here.rest.length < fuel)
    (enoughThere : there.rest.length < more) (alike : here.Alike there) {nodes : List Node}
    {last : Cursor} (read : partsWithin fuel here = .ok (nodes, last)) :
    ∃ others otherLast, partsWithin more there = .ok (others, otherLast) ∧
      List.Forall₂ Node.Alike nodes others ∧ last.Alike otherLast := by
  have readHere := derives_parts fuel here enough
  have readThere := derives_parts more there enoughThere
  obtain ⟨outcome, derived, outcomeAlike⟩ :=
    Derives.alike keeps_grammar readHere (Keeps.rule .part).many alike
  obtain rfl := readThere.functional derived
  rw [read] at outcomeAlike
  cases readAgain : partsWithin more there with
  | error error =>
      rw [readAgain] at outcomeAlike
      cases outcomeAlike
  | ok pair =>
      obtain ⟨others, otherLast⟩ := pair
      rw [readAgain] at outcomeAlike
      cases outcomeAlike with
      | matched sameParts lastAlike => exact ⟨others, otherLast, rfl, sameParts, lastAlike⟩

end Readers

end Grammar

end BraceTemplate
