import BraceTemplate.Proofs.Grammar.Template
import BraceTemplate.Proofs.Scanning.Routine
import BraceTemplate.Text.Visible

/-!
The routines of the rules of templates: in which order they try what, what they put back, and what
they call what they miss. Behind every routine is the expression that is left without all this
(`Routine.expression`).
-/

namespace BraceTemplate.Scanning

open Grammar Reading Source

/-- Characters between double quotes, as messages show them. -/
def quoted (chars : List Char) : String :=
  let shown := chars.map fun char =>
    if char = '"' then "\\\"" else if char = '\'' then "'" else Text.escapeQuoted char
  "\"" ++ String.join shown ++ "\""

namespace Routine

variable {Rule : Type → Type} {First Second Result : Type}

instance : Functor (Routine Rule) where
  map change item := map change item

instance : Seq (Routine Rule) where
  seq first second := both (fun change result => change result) first (second ())

instance : SeqLeft (Routine Rule) where
  seqLeft first second := both (fun result _ => result) first (second ())

instance : SeqRight (Routine Rule) where
  seqRight first second := both (fun _ result => result) first (second ())

instance : OrElse (Routine Rule Result) where
  orElse first second := choice first (second ())

/-- Takes nothing and tells the position. -/
def position : Routine Rule Position :=
  here id

def done (result : Result) : Routine Rule Result :=
  here fun _ => result

/-- Texts one after the other, each of them called by itself. -/
def texts (all : List (List Char)) : Routine Rule Unit :=
  pieces () (all.map fun chars => ⟨chars, some (quoted chars)⟩)

def text (chars : List Char) : Routine Rule Unit :=
  texts [chars]

/-- Characters that nothing is said about where they are missed. -/
def sight (chars : List Char) : Routine Rule Unit :=
  pieces () [⟨chars, none⟩]

def oneOf (accepts : Char → Bool) (called : String) : Routine Rule Char :=
  char (fun char => if accepts char then some char else none) called

def anyChar : Routine Rule Char :=
  oneOf (fun _ => true) "any character"

def many (item : Routine Rule Result) : Routine Rule (List Result) :=
  star id item

def atLeastOne (item : Routine Rule Result) : Routine Rule (List Result) :=
  List.cons <$> item <*> many item

def optional (item : Routine Rule Result) : Routine Rule (Option Result) :=
  some <$> item <|> done none

def butNot (item : Routine Rule Result) : Routine Rule Unit :=
  absent () item

def digits : Routine Rule (List Char) :=
  atLeastOne (oneOf Char.isDigit "[0-9]")

end Routine

open Routine

def gaps : Routine Rule (List Char) :=
  List.flatten <$> many (rule .gap)

def dotted : Routine Rule String :=
  attempt (text ['.'] *> rule .key)

def index : Routine Rule PathSegment :=
  (fun digits => .index (String.ofList digits)) <$> digits <|>
    PathSegment.lookup <$> rule .identifier

def bracketed : Routine Rule PathSegment :=
  text ['['] *> index <* text [']']

def steps : Routine Rule (List PathSegment) :=
  rule .arrayPart <|> rule .array

def param : Routine Rule (Param Node) :=
  attempt (Param.mk <$> (atLeastOne (rule .gap) *> rule .key) <* text ['='] <*>
    (ParamValue.literal <$> rule .number <|> ParamValue.identifier <$> rule .identifier <|>
      Quotation.fold (fun content => .literal (.string content)) .inline <$> rule .inline))

def branchTag : Routine Rule String :=
  attempt (texts [['{'], [':']] *> rule .key <* text ['}'])

/-- A branch of a section. It is none where there is a fault in its body. -/
def branch : Routine Rule (String × Node) :=
  Prod.mk <$> branchTag <*> unlessFault (rule .body)

def enclosedFault (enclosed : Enclosed) : ParseFault :=
  .missingEndTag enclosed.opening.identifier.text (enclosed.closing.map Identifier.text)

def enclosedStart :
    Routine Rule (Node → List (String × Node) → Option Identifier → Enclosed) :=
  Enclosed.mk <$> position <*> rule .opening <* gaps <* text ['}']

def enclosed : Routine Rule Enclosed :=
  enclosedStart <*> unlessFault (rule .body) <*> unlessFault (rule .bodies) <*>
    optional (rule .endTag)

def selfClosing : Routine Rule Node :=
  (fun position opening => sectionOf position opening []) <$> position <*> rule .opening <* gaps <*
    texts [['/'], ['}']]

def latePart : Routine Rule Node :=
  rule .inclusion <|> rule .special <|> rule .reference <|> rule .buffer

def delimited (build : String → Position → Node) (opening closing : List Char) :
    Routine Rule Node :=
  (fun position content => build (String.ofList content) position) <$> position <*>
    (text opening *> during id (butNot (sight closing)) anyChar) <* text closing

def tagContent : Routine Rule (List Char) :=
  check (fun chars => if chars.isEmpty then none else some chars)
    (during id (butNot (text ['}']) *> butNot (rule .lineEnd)) anyChar)

def tagLike : Routine Rule Unit :=
  attempt (text ['{'] *> gaps *> oneOf isTagMark "[#?^><+%:@/~%]" *> gaps *> tagContent *> gaps *>
    text ['}'])

def lineMark (chars : List Char) (called : Option String) : Routine Rule (List Char) :=
  (fun _ => chars) <$> pieces () [⟨chars, called⟩]

def routines : RoutineTable Rule
  | _, .body => (fun position parts => Node.body parts position) <$> position <*> many (rule .part)
  | _, .part =>
    beforeFault (rule .raw <|> rule .comment <|> rule .sectionTag <|> beforeFault latePart)
  | _, .sectionTag =>
    named "section" (attempt (demand Enclosed.node? enclosedFault enclosed) <|>
      beforeFault selfClosing)
  | _, .opening =>
    attempt (Opening.mk <$> (text ['{'] *> char SectionKind.ofMark? "[#?^<+@%]") <* gaps <*>
      rule .identifier <*> rule .context <*> rule .params)
  | _, .endTag =>
    named "end tag" (texts [['{'], ['/']] *> gaps *> rule .identifier <* gaps <* text ['}'])
  | _, .context => optional (attempt (text [':'] *> rule .identifier))
  | _, .params => named "params" (many param)
  | _, .bodies => named "bodies" (many branch)
  | _, .reference =>
    named "reference" ((fun position identifier filters =>
        Node.reference identifier filters position) <$> position <*>
      (text ['{'] *> rule .identifier) <*> rule .filters <* text ['}'])
  | _, .inclusion =>
    named "partial" ((fun position kind target context params =>
        Node.inclusion kind target context params position) <$> position <*>
      (text ['{'] *> char inclusionKind? "[>+]") <* gaps <*>
      (Target.name <$> rule .key <|> Quotation.fold Target.name .inline <$> rule .inline) <*>
      rule .context <*> rule .params <* gaps <* texts [['/'], ['}']])
  | _, .filters => named "filters" (many (attempt (text ['|'] *> rule .key)))
  | _, .special =>
    named "special" ((fun position key => Node.special key position) <$> position <*>
      (texts [['{'], ['~']] *> rule .key) <* text ['}'])
  | _, .identifier => named "identifier" (rule .path <|> Identifier.key <$> rule .key)
  | _, .number => named "number" (rule .float <|> rule .integer)
  | _, .float => named "float" (floatOf <$> digits <* text ['.'] <*> digits)
  | _, .integer => named "integer" (check integerOf? digits)
  | _, .path =>
    named "path" (attempt (pathOf <$> optional (rule .key) <*> atLeastOne steps) <|>
      pathOf none <$> (text ['.'] *> many steps))
  | _, .key =>
    named "key" ((fun first more => String.ofList (first :: more)) <$>
      oneOf isKeyStart "[a-zA-Z_$]" <*> many (oneOf isKeyChar "[0-9a-zA-Z_$-]"))
  | _, .array =>
    named "array" ((fun index more => index :: more.getD []) <$> bracketed <*>
      optional (rule .arrayPart))
  | _, .arrayPart =>
    named "array_part" ((fun keys more => keys.map PathSegment.key ++ more.getD []) <$>
      atLeastOne dotted <*> optional (rule .array))
  | _, .inline =>
    named "inline" (attempt ((fun _ => .plain "") <$> texts [['"'], ['"']]) <|>
      attempt (Quotation.plain <$> (text ['"'] *> rule .literal) <* text ['"']) <|>
      (fun position parts => .mixed parts position) <$> position <*>
        (text ['"'] *> atLeastOne (rule .inlinePart)) <* text ['"'])
  | _, .inlinePart =>
    rule .special <|> rule .reference <|>
      (fun position content => Node.text content position) <$> position <*> rule .literal
  | _, .literal =>
    named "literal" (String.ofList <$> atLeastOne (butNot (rule .tag) *> butNot (rule .lineEnd) *>
      (rule .escape <|> oneOf (fun char => char != '"') "[^\"]")))
  | _, .escape => (fun _ => '"') <$> sight ['\\', '"']
  | _, .buffer =>
    named "buffer" ((fun position newline blanks =>
        Node.lineBreak (String.ofList newline) (String.ofList blanks) position) <$> position <*>
      rule .lineEnd <*> gaps <|>
    (fun position content => Node.text (String.ofList content) position) <$> position <*>
      atLeastOne (butNot (rule .tag) *> butNot (rule .raw) *> butNot (rule .comment) *>
        butNot (rule .lineEnd) *> anyChar))
  | _, .raw => named "raw" (delimited Node.raw ['{', '\x60'] ['\x60', '}'])
  | _, .comment => named "comment" (delimited Node.comment ['{', '!'] ['!', '}'])
  | _, .tag => tagLike <|> (fun _ => ()) <$> rule .reference
  | _, .lineEnd =>
    lineMark ['\n'] none <|> lineMark ['\r', '\n'] none <|> lineMark ['\r'] none <|>
      lineMark ['\u2028'] none <|> lineMark ['\u2029'] (some "end of line")
  | _, .gap => (fun char => [char]) <$> oneOf isBlank "whitespace" <|> rule .lineEnd

def spelled {Rule : Type → Type} {Result : Type} (result : Result) :
    List Char → Expression Rule Result
  | [] => .done result
  | wanted :: more =>
    .char (fun char => if wanted = char then some () else none) *> spelled result more

def Routine.expression {Rule : Type → Type} {Result : Type} :
    Routine Rule Result → Expression Rule Result
  | here result => .here result
  | char kindOf _ => .char kindOf
  | pieces result all => spelled result (all.flatMap Piece.chars)
  | rule name => .rule name
  | map change item => change <$> item.expression
  | both join first second => .both join first.expression second.expression
  | choice first second => .choice first.expression second.expression
  | star collect item => .star collect item.expression
  | during collect guard item =>
    .both (fun results _ => collect results)
      (.star id (.both (fun _ result => result) guard.expression item.expression))
      (.absent () guard.expression)
  | absent result item => .absent result item.expression
  | check test item => .check test item.expression
  | demand test _ item => .demand test item.expression
  | named _ item => item.expression
  | attempt item => item.expression
  | beforeFault item => item.expression
  | unlessFault item => item.expression

end BraceTemplate.Scanning
