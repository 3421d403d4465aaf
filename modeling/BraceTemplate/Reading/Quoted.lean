import BraceTemplate.Reading.Reference

/-!
Quoted texts of parameters and names: plain, or with references and specials in them.
-/

namespace BraceTemplate.Reading

open BraceTemplate.Source

/-- What a quoted text holds. -/
inductive Quotation where
  | plain (text : String)
  | mixed (parts : List Node) (position : Position)

/-- The quotation as a body, and otherwise its text. -/
def Quotation.fold {Result : Type} (onText : String → Result) (onBody : Node → Result) :
    Quotation → Result
  | plain text => onText text
  | mixed parts position => onBody (.body parts position)

/-- The characters of a quoted text from a place on: up to a tag, a line break or a quote that no
backslash precedes. -/
def quotedRunFrom (place : Place) : List Char → List Char × Cursor
  | [] => ([], ⟨place, []⟩)
  | char :: rest =>
    if looksLikeTag ⟨place, char :: rest⟩ || isLineBreak char || char = '"' then
      ([], ⟨place, char :: rest⟩)
    else
      match char, rest with
      | '\\', '"' :: more =>
        let (taken, after) := quotedRunFrom ((place.advance '\\').advance '"') more
        ('"' :: taken, after)
      | char, rest =>
        let (taken, after) := quotedRunFrom (place.advance char) rest
        (char :: taken, after)

/-- The text at the cursor, at least one character. -/
def quotedText? (cursor : Cursor) : Option (String × Cursor) :=
  match quotedRunFrom cursor.place cursor.rest with
  | ([], _) => none
  | (char :: more, after) => some (String.ofList (char :: more), after)

/-- A special, a reference or a text inside quotes. -/
def quotedPart? (cursor : Cursor) : Option (Node × Cursor) :=
  match special? cursor with
  | some found => some found
  | none =>
    match reference? cursor with
    | some found => some found
    | none => (quotedText? cursor).map fun (text, after) => (.text text cursor.position, after)

def quotedNothing? (cursor : Cursor) : Option (Quotation × Cursor) := do
  let after ← cursor.literal? ['"', '"']
  pure (.plain "", after)

def quotedPlain? (cursor : Cursor) : Option (Quotation × Cursor) := do
  let inside ← cursor.literal? ['"']
  let (text, afterText) ← quotedText? inside
  let after ← afterText.literal? ['"']
  pure (.plain text, after)

/-- Text and tags between two quotes. -/
def quotedMixed? (cursor : Cursor) : Option (Quotation × Cursor) := do
  let inside ← cursor.literal? ['"']
  match inside.many quotedPart? with
  | ([], _) => none
  | (parts, afterParts) => do
    let after ← afterParts.literal? ['"']
    pure (.mixed parts cursor.position, after)

def quotation? (cursor : Cursor) : Option (Quotation × Cursor) :=
  match quotedNothing? cursor with
  | some found => some found
  | none =>
    match quotedPlain? cursor with
    | some found => some found
    | none => quotedMixed? cursor

end BraceTemplate.Reading
