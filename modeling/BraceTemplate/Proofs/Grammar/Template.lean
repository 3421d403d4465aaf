import BraceTemplate.Proofs.Grammar.Expression
import BraceTemplate.Reading.Tag

/-!
The grammar of templates as a table of parsing expressions, one entry for every rule. The end tag
of a section is a demand: it has to name what the opening tag names.
-/

namespace BraceTemplate.Grammar

open Reading Source

namespace Expression

variable {Rule : Type → Type} {First Second Result : Type}

instance : Functor (Expression Rule) where
  map change item := check (fun result => some (change result)) item

instance : Seq (Expression Rule) where
  seq first second := both (fun change result => change result) first (second ())

instance : SeqLeft (Expression Rule) where
  seqLeft first second := both (fun result _ => result) first (second ())

instance : SeqRight (Expression Rule) where
  seqRight first second := both (fun _ result => result) first (second ())

instance : OrElse (Expression Rule Result) where
  orElse first second := choice first (second ())

/-- Takes nothing and tells the position. -/
def position : Expression Rule Position :=
  here id

def done (result : Result) : Expression Rule Result :=
  here fun _ => result

def text : List Char → Expression Rule Unit
  | [] => done ()
  | wanted :: more => char (fun char => if wanted = char then some () else none) *> text more

def oneOf (accepts : Char → Bool) : Expression Rule Char :=
  char fun char => if accepts char then some char else none

def many (item : Expression Rule Result) : Expression Rule (List Result) :=
  star id item

def atLeastOne (item : Expression Rule Result) : Expression Rule (List Result) :=
  List.cons <$> item <*> many item

def optional (item : Expression Rule Result) : Expression Rule (Option Result) :=
  some <$> item <|> done none

def butNot (item : Expression Rule Result) : Expression Rule Unit :=
  absent () item

def upTo (item : Expression Rule Result) : Expression Rule (List Char) :=
  many (butNot item *> oneOf fun _ => true)

def digits : Expression Rule (List Char) :=
  atLeastOne (oneOf Char.isDigit)

end Expression

/-- The rules of the grammar, with what a match of each builds. -/
inductive Rule : Type → Type where
  | body : Rule Node
  | part : Rule Node
  | sectionTag : Rule Node
  | opening : Rule Opening
  | endTag : Rule Identifier
  | context : Rule (Option Identifier)
  | params : Rule (List (Param Node))
  | bodies : Rule (List (String × Node))
  | reference : Rule Node
  | inclusion : Rule Node
  | filters : Rule (List String)
  | special : Rule Node
  | identifier : Rule Identifier
  | number : Rule Literal
  | float : Rule Literal
  | integer : Rule Literal
  | path : Rule Identifier
  | key : Rule String
  | array : Rule (List PathSegment)
  | arrayPart : Rule (List PathSegment)
  | inline : Rule Quotation
  | inlinePart : Rule Node
  | literal : Rule String
  | escape : Rule Char
  | buffer : Rule Node
  | raw : Rule Node
  | comment : Rule Node
  | tag : Rule Unit
  | lineEnd : Rule (List Char)
  | gap : Rule (List Char)

open Expression

def gaps : Expression Rule (List Char) :=
  List.flatten <$> many (rule .gap)

def dotted : Expression Rule String :=
  text ['.'] *> rule .key

/-- Digits or an identifier. -/
def index : Expression Rule PathSegment :=
  (fun digits => .index (String.ofList digits)) <$> digits <|>
    PathSegment.lookup <$> rule .identifier

def bracketed : Expression Rule PathSegment :=
  text ['['] *> index <* text [']']

/-- Steps of a path, a run of them at a time. -/
def steps : Expression Rule (List PathSegment) :=
  rule .arrayPart <|> rule .array

def pathOf : Option String → List (List PathSegment) → Identifier
  | some name, segments => .path false (.key name :: segments.flatten)
  | none, segments => .path true segments.flatten

def floatOf (whole fraction : List Char) : Literal :=
  .float (Numeral.nearest (Numeral.natOfDigits (whole ++ fraction)) (-(fraction.length : Int)))

def integerOf? (digits : List Char) : Option Literal :=
  if Numeral.natOfDigits digits < Nat.pow 2 63 then some (.integer (Numeral.natOfDigits digits))
  else none

def param : Expression Rule (Param Node) :=
  Param.mk <$> (atLeastOne (rule .gap) *> rule .key) <* text ['='] <*>
    (ParamValue.literal <$> rule .number <|> ParamValue.identifier <$> rule .identifier <|>
      Quotation.fold (fun content => .literal (.string content)) .inline <$> rule .inline)

/-- A branch of a section: its tag and its body. -/
def branch : Expression Rule (String × Node) :=
  Prod.mk <$> (text ['{', ':'] *> rule .key <* text ['}']) <*> rule .body

def tagContent : Expression Rule (List Char) :=
  atLeastOne (butNot (text ['}']) *> butNot (rule .lineEnd) *> oneOf fun _ => true)

def sectionOf (position : Position) (opening : Opening) (bodies : List (String × Node)) : Node :=
  .sectionTag opening.kind opening.identifier opening.context opening.params bodies position

/-- A section that is read up to its end tag. -/
structure Enclosed where
  position : Position
  opening : Opening
  main : Node
  branches : List (String × Node)
  closing : Option Identifier

/-- The section with its branches in order and its main body last, where the end tag names what the
opening tag names. -/
def Enclosed.node? (enclosed : Enclosed) : Option Node :=
  if enclosed.closing.map Identifier.text = some enclosed.opening.identifier.text then
    some (sectionOf enclosed.position enclosed.opening
      (enclosed.branches ++ [(mainBody, enclosed.main)]))
  else none

def delimited (build : String → Position → Node) (opening closing : List Char) :
    Expression Rule Node :=
  (fun position content => build (String.ofList content) position) <$> position <*>
    (text opening *> upTo (text closing)) <* text closing

def mark (chars : List Char) : Expression Rule (List Char) :=
  (fun _ => chars) <$> text chars

def grammar : Table Rule
  | _, .body => (fun position parts => Node.body parts position) <$> position <*> many (rule .part)
  | _, .part =>
    rule .raw <|> rule .comment <|> rule .sectionTag <|> rule .inclusion <|> rule .special <|>
      rule .reference <|> rule .buffer
  | _, .sectionTag =>
    demand Enclosed.node?
        (Enclosed.mk <$> position <*> rule .opening <* gaps <* text ['}'] <*> rule .body <*>
          rule .bodies <*> optional (rule .endTag)) <|>
      (fun position opening => sectionOf position opening []) <$> position <*> rule .opening <*
        gaps <* text ['/', '}']
  | _, .opening =>
    Opening.mk <$> (text ['{'] *> char SectionKind.ofMark?) <* gaps <*> rule .identifier <*>
      rule .context <*> rule .params
  | _, .endTag => text ['{', '/'] *> gaps *> rule .identifier <* gaps <* text ['}']
  | _, .context => optional (text [':'] *> rule .identifier)
  | _, .params => many param
  | _, .bodies => many branch
  | _, .reference =>
    (fun position identifier filters => Node.reference identifier filters position) <$> position <*>
      (text ['{'] *> rule .identifier) <*> rule .filters <* text ['}']
  | _, .inclusion =>
    (fun position kind target context params =>
        Node.inclusion kind target context params position) <$> position <*>
      (text ['{'] *> char inclusionKind?) <* gaps <*>
      (Target.name <$> rule .key <|> Quotation.fold Target.name .inline <$> rule .inline) <*>
      rule .context <*> rule .params <* gaps <* text ['/', '}']
  | _, .filters => many (text ['|'] *> rule .key)
  | _, .special =>
    (fun position key => Node.special key position) <$> position <*>
      (text ['{', '~'] *> rule .key) <* text ['}']
  | _, .identifier => rule .path <|> Identifier.key <$> rule .key
  | _, .number => rule .float <|> rule .integer
  | _, .float => floatOf <$> digits <* text ['.'] <*> digits
  | _, .integer => check integerOf? digits
  | _, .path =>
    pathOf <$> optional (rule .key) <*> atLeastOne steps <|>
      pathOf none <$> (text ['.'] *> many steps)
  | _, .key =>
    (fun first more => String.ofList (first :: more)) <$> oneOf isKeyStart <*>
      many (oneOf isKeyChar)
  | _, .array =>
    (fun index more => index :: more.getD []) <$> bracketed <*> optional (rule .arrayPart)
  | _, .arrayPart =>
    (fun keys more => keys.map PathSegment.key ++ more.getD []) <$>
      atLeastOne dotted <*> optional (rule .array)
  | _, .inline =>
    (fun _ => .plain "") <$> text ['"', '"'] <|>
      Quotation.plain <$> (text ['"'] *> rule .literal) <* text ['"'] <|>
      (fun position parts => .mixed parts position) <$> position <*>
        (text ['"'] *> atLeastOne (rule .inlinePart)) <* text ['"']
  | _, .inlinePart =>
    rule .special <|> rule .reference <|>
      (fun position content => Node.text content position) <$> position <*> rule .literal
  | _, .literal =>
    String.ofList <$> atLeastOne (butNot (rule .tag) *> butNot (rule .lineEnd) *>
      (rule .escape <|> oneOf fun char => char != '"'))
  | _, .escape => (fun _ => '"') <$> text ['\\', '"']
  | _, .buffer =>
    (fun position newline blanks =>
        Node.lineBreak (String.ofList newline) (String.ofList blanks) position) <$> position <*>
      rule .lineEnd <*> gaps <|>
    (fun position content => Node.text (String.ofList content) position) <$> position <*>
      atLeastOne (butNot (rule .tag) *> butNot (rule .raw) *> butNot (rule .comment) *>
        butNot (rule .lineEnd) *> oneOf fun _ => true)
  | _, .raw => delimited Node.raw ['{', '\x60'] ['\x60', '}']
  | _, .comment => delimited Node.comment ['{', '!'] ['!', '}']
  | _, .tag =>
    text ['{'] *> gaps *> oneOf isTagMark *> gaps *> tagContent *> gaps *> text ['}'] <|>
      (fun _ => ()) <$> rule .reference
  | _, .lineEnd =>
    mark ['\n'] <|> mark ['\r', '\n'] <|> mark ['\r'] <|> mark ['\u2028'] <|> mark ['\u2029']
  | _, .gap => (fun char => [char]) <$> oneOf isBlank <|> rule .lineEnd

def takesChar : (Result : Type) → Rule Result → Bool
  | _, .body => false
  | _, .context => false
  | _, .params => false
  | _, .bodies => false
  | _, .filters => false
  | _, _ => true

theorem takesChar_consistent (Result : Type) (name : Rule Result)
    (takes : takesChar Result name = true) :
    (grammar Result name).takesChar takesChar = true := by
  cases name <;> first | rfl | cases takes

end BraceTemplate.Grammar
