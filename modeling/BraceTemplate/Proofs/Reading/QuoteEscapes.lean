import BraceTemplate.Proofs.Reading.Seams
import BraceTemplate.Proofs.Reading.Verbatim

/-!
# How texts are quoted

A quote within a quoted text is written with a backslash in front of it, and nothing else is
escaped: a backslash stands for itself wherever no quote follows it. Reading a text that was written
so gives the text back, whatever backslashes, braces and quotes it holds, as long as nothing in it
looks like a tag. Two kinds of texts cannot be written so: those with a line break, and those whose
last character is a backslash, for it would escape the closing quote.
-/

namespace BraceTemplate.Reading

open Source Grammar

/-- The characters of a text as they are written between quotes. -/
def escapeQuotes (chars : List Char) : List Char :=
  chars.flatMap fun char => if char = '"' then ['\\', '"'] else [char]

/-- A text between quotes. -/
def quoted (text : String) : List Char :=
  '"' :: (escapeQuotes text.toList ++ ['"'])

theorem escapeQuotes_quote (chars : List Char) :
    escapeQuotes ('"' :: chars) = '\\' :: '"' :: escapeQuotes chars :=
  rfl

theorem escapeQuotes_cons {char : Char} (noQuote : char ≠ '"') (chars : List Char) :
    escapeQuotes (char :: chars) = char :: escapeQuotes chars := by
  simp [escapeQuotes, noQuote]

/-- No text begins with a quote once it is escaped. -/
theorem exists_escapeQuotes_cons (char : Char) (chars : List Char) :
    ∃ first others, escapeQuotes (char :: chars) = first :: others ∧ first ≠ '"' := by
  by_cases quote : char = '"'
  · subst quote
    exact ⟨'\\', '"' :: escapeQuotes chars, rfl, by decide⟩
  · exact ⟨char, escapeQuotes chars, escapeQuotes_cons quote chars, quote⟩

/-- Nothing looks like a tag where these characters stand, in front of others. -/
def LooksLikeText (place : Place) (chars rest : List Char) : Prop :=
  ∀ before after, chars = before ++ after →
    looksLikeTag ⟨place.advanceAll before, after ++ rest⟩ = false

theorem LooksLikeText.drop {place : Place} (first : List Char) {chars rest : List Char}
    (looksLikeText : LooksLikeText place (first ++ chars) rest) :
    LooksLikeText (place.advanceAll first) chars rest := by
  rintro before after rfl
  rw [← Place.advanceAll_append]
  exact looksLikeText (first ++ before) after (List.append_assoc ..).symm

/-- A backslash stands for itself unless it is the last character. -/
theorem notEscape_of_last {char : Char} {chars rest : List Char}
    (noSlash : (char :: chars).getLast? ≠ some '\\') (more : List Char) (slash : char = '\\')
    (quote : escapeQuotes chars ++ rest = '"' :: more) : False := by
  cases chars with
  | nil => exact noSlash (slash ▸ rfl)
  | cons next chars =>
      obtain ⟨first, others, written, noQuote⟩ := exists_escapeQuotes_cons next chars
      rw [written] at quote
      cases quote
      exact noQuote rfl

/-- The characters of an escaped text are read one after the other. -/
theorem run_escapeQuotes {chars rest : List Char} {place : Place}
    (sameLine : ∀ char ∈ chars, isLineBreak char = false) (noSlash : chars.getLast? ≠ some '\\')
    (looksLikeText : LooksLikeText place (escapeQuotes chars) ('"' :: rest)) :
    Run quotedChar? ⟨place, escapeQuotes chars ++ '"' :: rest⟩ chars
      ⟨place.advanceAll (escapeQuotes chars), '"' :: rest⟩ := by
  induction chars generalizing place with
  | nil => exact .nil _
  | cons char chars inductionHypothesis =>
      have noTag : looksLikeTag ⟨place, escapeQuotes (char :: chars) ++ '"' :: rest⟩ = false :=
        looksLikeText [] _ rfl
      have laterLines := fun other member => sameLine other (List.mem_cons_of_mem char member)
      have laterSlash : chars.getLast? ≠ some '\\' := by
        intro last
        rw [List.getLast?_cons, last] at noSlash
        exact noSlash rfl
      by_cases quote : char = '"'
      · subst quote
        rw [escapeQuotes_quote] at looksLikeText noTag ⊢
        have later := inductionHypothesis laterLines laterSlash
          (looksLikeText.drop ['\\', '"'])
        -- The pair is read at once, so that its quote is not taken for the closing one.
        refine .cons (quotedChar?_escape ?_) later
        rw [Bool.or_eq_false_iff]
        exact ⟨noTag, rfl⟩
      · rw [escapeQuotes_cons quote] at looksLikeText noTag ⊢
        have later := inductionHypothesis laterLines laterSlash
          (looksLikeText.drop [char])
        refine .cons (quotedChar?_plain (notEscape_of_last noSlash) ?_) later
        rw [Bool.not_eq_true, Bool.or_eq_false_iff, Bool.or_eq_false_iff]
        exact ⟨⟨noTag, sameLine char List.mem_cons_self⟩, decide_eq_false quote⟩

theorem quotedRunFrom_escapeQuotes {chars rest : List Char} {place : Place}
    (sameLine : ∀ char ∈ chars, isLineBreak char = false) (noSlash : chars.getLast? ≠ some '\\')
    (looksLikeText : LooksLikeText place (escapeQuotes chars) ('"' :: rest)) :
    quotedRunFrom place (escapeQuotes chars ++ '"' :: rest) =
      (chars, ⟨place.advanceAll (escapeQuotes chars), '"' :: rest⟩) := by
  have run := run_escapeQuotes sameLine noSlash looksLikeText
  have closes := many_quotedChar? (place.advanceAll (escapeQuotes chars)) ('"' :: rest)
  unfold quotedRunFrom at closes
  rw [if_pos (by simp)] at closes
  rw [← many_quotedChar?, run.many_eq (fun later _ => reads_quotedChar later) rfl, closes,
    List.append_nil]

section Quoted

variable {text : String} {place : Place} {rest : List Char}

/-- A text between quotes is read as it is where nothing in it looks like a tag. -/
theorem quotation?_eq_plain (sameLine : ∀ char ∈ text.toList, isLineBreak char = false)
    (noSlash : text.toList.getLast? ≠ some '\\')
    (looksLikeText :
      LooksLikeText (place.advance '"') (escapeQuotes text.toList) ('"' :: rest)) :
    quotation? ⟨place, quoted text ++ rest⟩ =
      some (.plain text, ⟨place.advanceAll (quoted text), rest⟩) := by
  have run := quotedRunFrom_escapeQuotes sameLine noSlash looksLikeText
  have behind : place.advanceAll (quoted text) =
      ((place.advance '"').advanceAll (escapeQuotes text.toList)).advance '"' :=
    Place.advanceAll_append (place.advance '"') _ ['"']
  have written : quoted text ++ rest = '"' :: (escapeQuotes text.toList ++ '"' :: rest) := by
    simp [quoted]
  rw [written, behind]
  cases letters : text.toList with
  | nil =>
      rw [String.toList_eq_nil_iff.1 letters]
      rfl
  | cons char more =>
      rw [letters] at run
      obtain ⟨first, others, escaped, noQuote⟩ := exists_escapeQuotes_cons char more
      have nothing : quotedNothing? ⟨place, '"' :: (escapeQuotes (char :: more) ++ '"' :: rest)⟩ =
          none := by
        simp [quotedNothing?, Cursor.literal?, escaped, noQuote.symm]
      have plain : quotedPlain? ⟨place, '"' :: (escapeQuotes (char :: more) ++ '"' :: rest)⟩ =
          some (.plain text, ⟨((place.advance '"').advanceAll
            (escapeQuotes (char :: more))).advance '"', rest⟩) := by
        have content : String.ofList (char :: more) = text := by
          rw [← letters, String.ofList_toList]
        simp only [quotedPlain?, quotedText?, Cursor.literal?, if_true, Option.bind_eq_bind,
          Option.bind_some, run, content]
        rfl
      simp only [quotation?, nothing, plain]

/-- A text without line breaks that does not end with a backslash is read back from between its
quotes, and just that is taken, where nothing in it looks like a tag. So it is as the value of a
parameter and as the name of an inclusion. -/
theorem quotation?_readBack (sameLine : ∀ char ∈ text.toList, isLineBreak char = false)
    (noSlash : text.toList.getLast? ≠ some '\\')
    (looksLikeText :
      LooksLikeText (place.advance '"') (escapeQuotes text.toList) ('"' :: rest)) :
    quotation? ⟨place, quoted text ++ rest⟩ =
        some (.plain text, ⟨place.advanceAll (quoted text), rest⟩) ∧
      paramValue? ⟨place, quoted text ++ rest⟩ =
        some (.literal (.string text), ⟨place.advanceAll (quoted text), rest⟩) ∧
      target? ⟨place, quoted text ++ rest⟩ =
        some (.name text, ⟨place.advanceAll (quoted text), rest⟩) := by
  have read := quotation?_eq_plain sameLine noSlash looksLikeText
  have noNumber : number? ⟨place, quoted text ++ rest⟩ = none := rfl
  have noIdentifier : identifier? ⟨place, quoted text ++ rest⟩ = none := rfl
  have noKey : key? ⟨place, quoted text ++ rest⟩ = none := rfl
  refine ⟨read, ?_, ?_⟩
  · simp only [paramValue?, noNumber, noIdentifier, read, Option.map_some, Quotation.fold]
  · simp only [target?, noKey, read, Option.map_some, Quotation.fold]

/-- A backslash in front of a quote, braces, and a brace in front of the closing quote. -/
theorem quotation?_readBack_braces :
    quoted "a\\\"\x7b\x7d\x7b" = "\"a\\\\\"\x7b\x7d\x7b\"".toList ∧
      quotation? ⟨Place.start, quoted "a\\\"\x7b\x7d\x7b" ++ "/\x7d".toList⟩ =
        some (.plain "a\\\"\x7b\x7d\x7b", ⟨⟨9, 1, 10, false⟩, "/\x7d".toList⟩) := by
  have looksLikeText : LooksLikeText (Place.start.advance '"')
      (escapeQuotes "a\\\"\x7b\x7d\x7b".toList) ('"' :: "/\x7d".toList) :=
    (forall_split_iff _).1 (by decide +kernel)
  have read := quotation?_readBack (by simp [isLineBreak]) (by decide) looksLikeText
  exact ⟨rfl, read.1⟩

end Quoted

end BraceTemplate.Reading
