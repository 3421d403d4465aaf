import BraceTemplate.Reading.Quoted

/-!
Tags with a context, parameters and names: the opening and closing tags of sections, and inclusions.
-/

namespace BraceTemplate.Reading

open BraceTemplate.Source

def float? (cursor : Cursor) : Option (Literal × Cursor) := do
  let (whole, afterWhole) ← digits? cursor
  let afterPoint ← afterWhole.literal? ['.']
  let (fraction, after) ← digits? afterPoint
  let coefficient := Numeral.natOfDigits (whole ++ fraction)
  pure (.float (Numeral.nearest coefficient (-(fraction.length : Int))), after)

def integer? (cursor : Cursor) : Option (Literal × Cursor) := do
  let (digits, after) ← digits? cursor
  let value := Numeral.natOfDigits digits
  if value < Nat.pow 2 63 then pure (.integer value, after) else none

def number? (cursor : Cursor) : Option (Literal × Cursor) :=
  match float? cursor with
  | some found => some found
  | none => integer? cursor

/-- The value of a parameter: a number, an identifier or a quoted text, tried in this order. -/
def paramValue? (cursor : Cursor) : Option (ParamValue Node × Cursor) :=
  match number? cursor with
  | some (literal, after) => some (.literal literal, after)
  | none =>
    match identifier? cursor with
    | some (identifier, after) => some (.identifier identifier, after)
    | none =>
      (quotation? cursor).map fun (quotation, after) =>
        (quotation.fold (fun text => .literal (.string text)) .inline, after)

/-- A gap, a key, an equals sign and a value. -/
def param? (cursor : Cursor) : Option (Param Node × Cursor) := do
  let (_, afterGap) ← cursor.char? isGap
  let (key, afterKey) ← key? afterGap.skipGaps
  let afterSign ← afterKey.literal? ['=']
  let (value, after) ← paramValue? afterSign
  pure (⟨key, value⟩, after)

/-- The identifier behind a colon, where there is one. -/
def context (cursor : Cursor) : Option Identifier × Cursor :=
  match (cursor.literal? [':']).bind identifier? with
  | some (identifier, after) => (some identifier, after)
  | none => (none, cursor)

/-- What the opening tag of a section says. -/
structure Opening where
  kind : SectionKind
  identifier : Identifier
  context : Option Identifier
  params : List (Param Node)
deriving DecidableEq

/-- The opening tag of a section up to what closes it. -/
def opening? (cursor : Cursor) : Option (Opening × Cursor) := do
  let inside ← cursor.literal? ['{']
  let (kind, afterMark) ← inside.classify? SectionKind.ofMark?
  let (identifier, afterName) ← identifier? afterMark.skipGaps
  let (context, afterContext) := context afterName
  let (params, after) := afterContext.many param?
  pure (⟨kind, identifier, context, params⟩, after)

/-- The end tag of a section. -/
def endTag? (cursor : Cursor) : Option (Identifier × Cursor) := do
  let inside ← cursor.literal? ['{', '/']
  let (identifier, afterName) ← identifier? inside.skipGaps
  let after ← afterName.skipGaps.literal? ['}']
  pure (identifier, after)

/-- The tag that begins a branch of a section. -/
def branchTag? (cursor : Cursor) : Option (String × Cursor) := do
  let inside ← cursor.literal? ['{', ':']
  let (name, afterName) ← key? inside
  let after ← afterName.literal? ['}']
  pure (name, after)

/-- What the mark of an inclusion asks for. -/
def inclusionKind? (mark : Char) : Option InclusionKind :=
  if mark = '>' then some .template
  else if mark = '+' then some .block
  else none

/-- The name of an inclusion: a key or a quoted text. -/
def target? (cursor : Cursor) : Option (Target Node × Cursor) :=
  match key? cursor with
  | some (name, after) => some (.name name, after)
  | none => (quotation? cursor).map fun (quotation, after) => (quotation.fold .name .inline, after)

def inclusion? (cursor : Cursor) : Option (Node × Cursor) := do
  let inside ← cursor.literal? ['{']
  let (kind, afterMark) ← inside.classify? inclusionKind?
  let (target, afterTarget) ← target? afterMark.skipGaps
  let (context, afterContext) := context afterTarget
  let (params, afterParams) := afterContext.many param?
  let after ← afterParams.skipGaps.literal? ['/', '}']
  pure (.inclusion kind target context params cursor.position, after)

end BraceTemplate.Reading
