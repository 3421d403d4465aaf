import BraceTemplate.Template.Node

/-!
Tidying a tree before it is compiled: comments go, specials become text, line breaks go or become
text, and neighbouring texts are joined.
-/

namespace BraceTemplate

/-- What happens to line breaks and the blanks behind them. -/
inductive Whitespace where
  | strip
  | preserve
deriving Repr, DecidableEq

/-- The text a special stands for, none for a name that is not known. -/
def specialText (key : String) : String :=
  if key = "s" then " "
  else if key = "n" then "\n"
  else if key = "r" then "\r"
  else if key = "lb" then "\x7b"
  else if key = "rb" then "\x7d"
  else ""

namespace Node

/-- Puts a part in front of others; a text in front of a text becomes one text. -/
def joinFront (node : Node) (rest : List Node) : List Node :=
  match node, rest with
  | text first position, text second _ :: others => text (first ++ second) position :: others
  | other, others => other :: others

def joinTexts (nodes : List Node) : List Node :=
  nodes.foldr joinFront []

def orEmptyBody (tidied : Option Node) (position : Position) : Node :=
  tidied.getD (body [] position)

mutual

/-- Tidies a part; none if nothing of it stays. -/
def tidy? (whitespace : Whitespace) : Node → Option Node
  | body parts position => some (body (joinTexts (tidyParts whitespace parts)) position)
  | text content position => some (text content position)
  | lineBreak newline blanks position =>
    match whitespace with
    | .strip => none
    | .preserve => some (text (newline ++ blanks) position)
  | raw content position => some (raw content position)
  | comment _ _ => none
  | special key position => some (text (specialText key) position)
  | reference identifier filters position => some (reference identifier filters position)
  | sectionTag kind identifier context params bodies position =>
    some (sectionTag kind identifier context (tidyParams whitespace params)
      (tidyBodies whitespace bodies) position)
  | inclusion kind (.name name) context params position =>
    some (inclusion kind (.name name) context (tidyParams whitespace params) position)
  | inclusion kind (.inline inner) context params position =>
    some (inclusion kind (.inline (orEmptyBody (tidy? whitespace inner) inner.position)) context
      (tidyParams whitespace params) position)

def tidyParts (whitespace : Whitespace) : List Node → List Node
  | [] => []
  | part :: rest => (tidy? whitespace part).toList ++ tidyParts whitespace rest

/-- Tidies the bodies of a section. -/
def tidyBodies (whitespace : Whitespace) : List (String × Node) → List (String × Node)
  | [] => []
  | (name, inner) :: rest =>
    (name, orEmptyBody (tidy? whitespace inner) inner.position) :: tidyBodies whitespace rest

/-- Tidies the texts with tags among parameters. -/
def tidyParams (whitespace : Whitespace) : List (Param Node) → List (Param Node)
  | [] => []
  | ⟨key, .literal value⟩ :: rest => ⟨key, .literal value⟩ :: tidyParams whitespace rest
  | ⟨key, .identifier name⟩ :: rest => ⟨key, .identifier name⟩ :: tidyParams whitespace rest
  | ⟨key, .inline inner⟩ :: rest =>
    ⟨key, .inline (orEmptyBody (tidy? whitespace inner) inner.position)⟩ ::
      tidyParams whitespace rest

end

def tidy (whitespace : Whitespace) (node : Node) : Node :=
  orEmptyBody (tidy? whitespace node) node.position

end Node

end BraceTemplate
