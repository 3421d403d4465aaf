import BraceTemplate.Source.Place

/-!
The tree of a template, and the names by which a template refers to data.
-/

namespace BraceTemplate

/-! ## Names

A name is a bare key, or a path of keys and bracketed indexes.
-/

mutual

/-- A reference to data. A path is relative where it only searches the innermost frame. -/
inductive Identifier where
  | key (name : String)
  | path (relative : Bool) (segments : List PathSegment)

/-- One step of a path: a key, a position written in digits, or a name whose text is the step. -/
inductive PathSegment where
  | key (name : String)
  | index (digits : String)
  | lookup (inner : Identifier)

end

instance : Inhabited Identifier := ⟨.key ""⟩

mutual

def Identifier.decEq : (first second : Identifier) → Decidable (first = second)
  | .key first, .key second => decidable_of_iff (first = second) (by simp)
  | .path first firsts, .path second seconds =>
    have := PathSegment.decEqAll firsts seconds
    decidable_of_iff (first = second ∧ firsts = seconds) (by simp)
  | .key _, .path _ _ | .path _ _, .key _ => isFalse nofun

def PathSegment.decEq : (first second : PathSegment) → Decidable (first = second)
  | .key first, .key second => decidable_of_iff (first = second) (by simp)
  | .index first, .index second => decidable_of_iff (first = second) (by simp)
  | .lookup first, .lookup second =>
    have := Identifier.decEq first second
    decidable_of_iff (first = second) (by simp)
  | .key _, .index _ | .key _, .lookup _ | .index _, .key _ | .index _, .lookup _
  | .lookup _, .key _ | .lookup _, .index _ => isFalse nofun

def PathSegment.decEqAll : (first second : List PathSegment) → Decidable (first = second)
  | [], [] => isTrue rfl
  | first :: firsts, second :: seconds =>
    have := PathSegment.decEq first second
    have := PathSegment.decEqAll firsts seconds
    decidable_of_iff (first = second ∧ firsts = seconds) (by simp)
  | [], _ :: _ | _ :: _, [] => isFalse nofun

end

instance : DecidableEq Identifier := Identifier.decEq

mutual

def Identifier.text : Identifier → String
  | .key name => name
  | .path relative segments =>
    (if relative then "." else "") ++ PathSegment.textOfFirst segments

/-- How a path is written: its first key has no dot of its own. -/
def PathSegment.textOfFirst : List PathSegment → String
  | [] => ""
  | .key name :: rest => name ++ PathSegment.textOfRest rest
  | .index digits :: rest => "[" ++ digits ++ "]" ++ PathSegment.textOfRest rest
  | .lookup inner :: rest => "[" ++ inner.text ++ "]" ++ PathSegment.textOfRest rest

/-- How the later steps of a path are written. -/
def PathSegment.textOfRest : List PathSegment → String
  | [] => ""
  | .key name :: rest => "." ++ name ++ PathSegment.textOfRest rest
  | .index digits :: rest => "[" ++ digits ++ "]" ++ PathSegment.textOfRest rest
  | .lookup inner :: rest => "[" ++ inner.text ++ "]" ++ PathSegment.textOfRest rest

end

/-! ## Parts

Every part knows where it starts.
-/

/-- What the mark of a section tag asks for. -/
inductive SectionKind where
  /-- Once for each element of an array, or once for a value that is present. -/
  | each
  /-- Where a value is not empty. -/
  | present
  /-- Where a value is empty. -/
  | absent
  /-- Defines a block that other templates yield to. -/
  | define
  /-- Yields to a block, or renders its own body. -/
  | yield
  /-- Calls a helper. -/
  | helper
  /-- Instructs the compiler. -/
  | pragma
deriving Repr, DecidableEq

/-- The kind a mark stands for. -/
def SectionKind.ofMark? (mark : Char) : Option SectionKind :=
  if mark = '#' then some each
  else if mark = '?' then some present
  else if mark = '^' then some absent
  else if mark = '<' then some define
  else if mark = '+' then some yield
  else if mark = '@' then some helper
  else if mark = '%' then some pragma
  else none

/-- What an inclusion tag inserts: a template, or a block by name. -/
inductive InclusionKind where
  | template
  | block
deriving Repr, DecidableEq

/-- A value written in a template. -/
inductive Literal where
  | string (text : String)
  | integer (value : Int)
  | float (value : Float)
deriving DecidableEq

/-- The value of a parameter: written out, referred to, or a text with tags in it. -/
inductive ParamValue (Inner : Type) where
  | literal (value : Literal)
  | identifier (name : Identifier)
  | inline (inner : Inner)
deriving DecidableEq

/-- A parameter of a tag. -/
structure Param (Inner : Type) where
  key : String
  value : ParamValue Inner
deriving DecidableEq

/-- What an inclusion names: a plain name, or a text with tags in it. -/
inductive Target (Inner : Type) where
  | name (text : String)
  | inline (inner : Inner)

/-- A part of a template. -/
inductive Node where
  /-- A sequence of parts. -/
  | body (parts : List Node) (position : Position)
  | text (content : String) (position : Position)
  /-- A line break and the blanks that follow it. -/
  | lineBreak (newline blanks : String) (position : Position)
  /-- Text that holds no tags. -/
  | raw (content : String) (position : Position)
  | comment (content : String) (position : Position)
  /-- A character by name. -/
  | special (key : String) (position : Position)
  | reference (identifier : Identifier) (filters : List String) (position : Position)
  /-- A section tag; its branches come first, its main body is the last entry and named `block`. -/
  | sectionTag (kind : SectionKind) (identifier : Identifier) (context : Option Identifier)
      (params : List (Param Node)) (bodies : List (String × Node)) (position : Position)
  | inclusion (kind : InclusionKind) (target : Target Node) (context : Option Identifier)
      (params : List (Param Node)) (position : Position)

instance : Inhabited Node := ⟨.body [] default⟩

mutual

def Node.decEq : (first second : Node) → Decidable (first = second)
  | .body parts place, second => match second with
    | .body others there =>
      have := Node.decEqParts parts others
      decidable_of_iff (parts = others ∧ place = there) (by simp)
    | .text .. | .lineBreak .. | .raw .. | .comment .. | .special .. | .reference ..
    | .sectionTag .. | .inclusion .. => isFalse nofun
  | .text content place, second => match second with
    | .text other there => decidable_of_iff (content = other ∧ place = there) (by simp)
    | .body .. | .lineBreak .. | .raw .. | .comment .. | .special .. | .reference ..
    | .sectionTag .. | .inclusion .. => isFalse nofun
  | .lineBreak newline blanks place, second => match second with
    | .lineBreak other more there =>
      decidable_of_iff (newline = other ∧ blanks = more ∧ place = there) (by simp)
    | .body .. | .text .. | .raw .. | .comment .. | .special .. | .reference ..
    | .sectionTag .. | .inclusion .. => isFalse nofun
  | .raw content place, second => match second with
    | .raw other there => decidable_of_iff (content = other ∧ place = there) (by simp)
    | .body .. | .text .. | .lineBreak .. | .comment .. | .special .. | .reference ..
    | .sectionTag .. | .inclusion .. => isFalse nofun
  | .comment content place, second => match second with
    | .comment other there => decidable_of_iff (content = other ∧ place = there) (by simp)
    | .body .. | .text .. | .lineBreak .. | .raw .. | .special .. | .reference ..
    | .sectionTag .. | .inclusion .. => isFalse nofun
  | .special key place, second => match second with
    | .special other there => decidable_of_iff (key = other ∧ place = there) (by simp)
    | .body .. | .text .. | .lineBreak .. | .raw .. | .comment .. | .reference ..
    | .sectionTag .. | .inclusion .. => isFalse nofun
  | .reference name filters place, second => match second with
    | .reference other others there =>
      decidable_of_iff (name = other ∧ filters = others ∧ place = there) (by simp)
    | .body .. | .text .. | .lineBreak .. | .raw .. | .comment .. | .special ..
    | .sectionTag .. | .inclusion .. => isFalse nofun
  | .sectionTag kind name context params bodies place, second => match second with
    | .sectionTag other called within given named there =>
      have := Node.decEqParams params given
      have := Node.decEqBodies bodies named
      decidable_of_iff (kind = other ∧ name = called ∧ context = within ∧ params = given ∧
        bodies = named ∧ place = there) (by simp)
    | .body .. | .text .. | .lineBreak .. | .raw .. | .comment .. | .special .. | .reference ..
    | .inclusion .. => isFalse nofun
  | .inclusion kind target context params place, second => match second with
    | .inclusion other aim within given there =>
      have := Node.decEqTarget target aim
      have := Node.decEqParams params given
      decidable_of_iff
        (kind = other ∧ target = aim ∧ context = within ∧ params = given ∧ place = there) (by simp)
    | .body .. | .text .. | .lineBreak .. | .raw .. | .comment .. | .special .. | .reference ..
    | .sectionTag .. => isFalse nofun

def Node.decEqTarget : (first second : Target Node) → Decidable (first = second)
  | .name first, .name second => decidable_of_iff (first = second) (by simp)
  | .inline first, .inline second =>
    have := Node.decEq first second
    decidable_of_iff (first = second) (by simp)
  | .name _, .inline _ | .inline _, .name _ => isFalse nofun

def Node.decEqValue : (first second : ParamValue Node) → Decidable (first = second)
  | .literal first, .literal second => decidable_of_iff (first = second) (by simp)
  | .identifier first, .identifier second => decidable_of_iff (first = second) (by simp)
  | .inline first, .inline second =>
    have := Node.decEq first second
    decidable_of_iff (first = second) (by simp)
  | .literal _, .identifier _ | .literal _, .inline _ | .identifier _, .literal _
  | .identifier _, .inline _ | .inline _, .literal _ | .inline _, .identifier _ => isFalse nofun

def Node.decEqParams : (firsts seconds : List (Param Node)) → Decidable (firsts = seconds)
  | [], [] => isTrue rfl
  | ⟨key, first⟩ :: firsts, ⟨other, second⟩ :: seconds =>
    have := Node.decEqValue first second
    have := Node.decEqParams firsts seconds
    decidable_of_iff ((key = other ∧ first = second) ∧ firsts = seconds) (by simp)
  | [], _ :: _ | _ :: _, [] => isFalse nofun

def Node.decEqBodies : (firsts seconds : List (String × Node)) → Decidable (firsts = seconds)
  | [], [] => isTrue rfl
  | (name, first) :: firsts, (other, second) :: seconds =>
    have := Node.decEq first second
    have := Node.decEqBodies firsts seconds
    decidable_of_iff ((name = other ∧ first = second) ∧ firsts = seconds) (by simp)
  | [], _ :: _ | _ :: _, [] => isFalse nofun

def Node.decEqParts : (firsts seconds : List Node) → Decidable (firsts = seconds)
  | [], [] => isTrue rfl
  | first :: firsts, second :: seconds =>
    have := Node.decEq first second
    have := Node.decEqParts firsts seconds
    decidable_of_iff (first = second ∧ firsts = seconds) (by simp)
  | [], _ :: _ | _ :: _, [] => isFalse nofun

end

instance : DecidableEq Node := Node.decEq

def Node.position : Node → Position
  | body _ position => position
  | text _ position => position
  | lineBreak _ _ position => position
  | raw _ position => position
  | comment _ position => position
  | special _ position => position
  | reference _ _ position => position
  | sectionTag _ _ _ _ _ position => position
  | inclusion _ _ _ _ position => position

/-- The name that the main body of a section goes by. -/
def mainBody : String := "block"

/-- The name of the branch for values that are missing. -/
def elseBody : String := "else"

end BraceTemplate
