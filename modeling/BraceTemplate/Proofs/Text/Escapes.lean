import BraceTemplate.Json.Parser
import BraceTemplate.Text.Escaping

/-!
# Percent encoding loses nothing

An encoded text holds nothing but the characters that are kept and escapes of one byte each. Whoever
takes escapes for their bytes and every other character for its own reads the bytes of the text that
was encoded: a percent sign of the text is itself written as an escape, so that no other one is
taken for the beginning of an escape. The two encodings differ in the delimiters of addresses alone.
-/

namespace BraceTemplate.Text

/-- A character of a class is none of those that are not in the class. -/
theorem not_mem_of_apart (holds : Char → Bool) {char : Char} (held : holds char = true)
    {others : List Char} (apart : others.any holds = false) : char ∉ others :=
  fun member => List.any_eq_false.mp apart char member held

namespace Percent

def isHexDigit (char : Char) : Bool :=
  char.isDigit || ('A' ≤ char && char ≤ 'F')

/-- Texts of kept characters and of escapes, which are a percent sign and two digits. -/
inductive Encoded (keep : Char → Bool) : List Char → Prop
  | nil : Encoded keep []
  | kept {char : Char} {rest : List Char} (isKept : keep char = true)
      (later : Encoded keep rest) : Encoded keep (char :: rest)
  | escape {high low : Char} {rest : List Char} (isHigh : isHexDigit high = true)
      (isLow : isHexDigit low = true) (later : Encoded keep rest) :
      Encoded keep ('%' :: high :: low :: rest)

/-- The bytes that a text stands for: an escape stands for one byte and any other character for its
own. A percent sign without two digits behind it stands for nothing. -/
def readBytes? : List Char → Option (List UInt8)
  | [] => some []
  | '%' :: high :: low :: rest => do
    let high ← Json.hexValue? high
    let low ← Json.hexValue? low
    let bytes ← readBytes? rest
    pure (UInt8.ofNat (high * 16 + low) :: bytes)
  | char :: rest =>
    if char = '%' then none else (readBytes? rest).map (String.utf8EncodeChar char ++ ·)

/-- The text whose bytes a text stands for. -/
def decode? (text : String) : Option String :=
  (readBytes? text.toList).bind fun bytes => String.fromUTF8? bytes.toByteArray

/-- What the encoding of whole addresses keeps. -/
def isAddressChar (char : Char) : Bool :=
  isUnreserved char || isDelimiter char

theorem isHexDigit_hexDigit {value : Nat} (small : value < 16) :
    isHexDigit (hexDigit value) = true := by
  have each : ∀ value < 16, isHexDigit (hexDigit value) = true := by decide
  exact each value small

theorem hexValue?_hexDigit {value : Nat} (small : value < 16) :
    Json.hexValue? (hexDigit value) = some value := by
  have each : ∀ value < 16, Json.hexValue? (hexDigit value) = some value := by decide
  exact each value small

theorem high_lt (byte : UInt8) : byte.toNat / 16 < 16 := by
  have small := byte.toNat_lt_size
  have size : UInt8.size = 256 := rfl
  omega

theorem low_lt (byte : UInt8) : byte.toNat % 16 < 16 :=
  Nat.mod_lt _ (by decide)

section Writing

variable {keep : Char → Bool}

theorem encodeChars_cons (first : Char) (rest : List Char) :
    encodeChars keep (first :: rest) = encodeChar keep first ++ encodeChars keep rest := by
  rw [encodeChars, List.flatMap_cons, ← encodeChars]

theorem encodeChar_of_kept {char : Char} (isKept : keep char = true) :
    encodeChar keep char = [char] := by
  rw [encodeChar, if_pos isKept]

theorem encodeChar_of_not_kept {char : Char} (notKept : keep char = false) :
    encodeChar keep char = (String.utf8EncodeChar char).flatMap encodeByte := by
  rw [encodeChar, notKept, if_neg Bool.false_ne_true]

theorem encodeChars_of_kept {chars : List Char} (allKept : ∀ char ∈ chars, keep char = true) :
    encodeChars keep chars = chars := by
  induction chars with
  | nil => rfl
  | cons first rest inductionHypothesis =>
      rw [encodeChars_cons, encodeChar_of_kept (allKept first List.mem_cons_self),
        inductionHypothesis fun char member => allKept char (List.mem_cons_of_mem _ member)]
      rfl

theorem Encoded.append {first second : List Char} (one : Encoded keep first)
    (other : Encoded keep second) : Encoded keep (first ++ second) := by
  induction one with
  | nil => exact other
  | kept isKept _ inductionHypothesis => exact .kept isKept inductionHypothesis
  | escape isHigh isLow _ inductionHypothesis => exact .escape isHigh isLow inductionHypothesis

theorem encoded_encodeBytes (bytes : List UInt8) : Encoded keep (bytes.flatMap encodeByte) := by
  induction bytes with
  | nil => exact .nil
  | cons first rest inductionHypothesis =>
      exact .escape (isHexDigit_hexDigit (high_lt first)) (isHexDigit_hexDigit (low_lt first))
        inductionHypothesis

theorem encoded_encodeChars (chars : List Char) : Encoded keep (encodeChars keep chars) := by
  induction chars with
  | nil => exact .nil
  | cons first rest inductionHypothesis =>
      rw [encodeChars_cons]
      refine Encoded.append ?_ inductionHypothesis
      cases isKept : keep first with
      | true =>
          rw [encodeChar_of_kept isKept]
          exact .kept isKept .nil
      | false =>
          rw [encodeChar_of_not_kept isKept]
          exact encoded_encodeBytes _

/-- What holds of the percent sign, of digits and of all that is kept holds of every character of an
encoded text. -/
theorem Encoded.forall_mem {holds : Char → Prop} (ofKept : ∀ char, keep char = true → holds char)
    (ofPercent : holds '%') (ofDigit : ∀ char, isHexDigit char = true → holds char)
    {chars : List Char} (encoded : Encoded keep chars) : ∀ char ∈ chars, holds char := by
  induction encoded with
  | nil => simp
  | kept isKept _ inductionHypothesis =>
      exact List.forall_mem_cons.mpr ⟨ofKept _ isKept, inductionHypothesis⟩
  | escape isHigh isLow _ inductionHypothesis =>
      exact List.forall_mem_cons.mpr ⟨ofPercent, List.forall_mem_cons.mpr ⟨ofDigit _ isHigh,
        List.forall_mem_cons.mpr ⟨ofDigit _ isLow, inductionHypothesis⟩⟩⟩

end Writing

section Reading

variable {keep : Char → Bool}

theorem readBytes?_encodeByte (byte : UInt8) (rest : List Char) :
    readBytes? (encodeByte byte ++ rest) = (readBytes? rest).map (byte :: ·) := by
  have whole : UInt8.ofNat (byte.toNat / 16 * 16 + byte.toNat % 16) = byte := by
    rw [Nat.div_add_mod', UInt8.ofNat_toNat]
  have split : encodeByte byte ++ rest =
      '%' :: hexDigit (byte.toNat / 16) :: hexDigit (byte.toNat % 16) :: rest := rfl
  rw [split, readBytes?, hexValue?_hexDigit (high_lt byte), hexValue?_hexDigit (low_lt byte)]
  simp only [Option.bind_eq_bind, Option.bind_some, whole]
  cases readBytes? rest <;> rfl

theorem readBytes?_encodeBytes (bytes : List UInt8) (rest : List Char) :
    readBytes? (bytes.flatMap encodeByte ++ rest) = (readBytes? rest).map (bytes ++ ·) := by
  induction bytes with
  | nil => simp
  | cons first others inductionHypothesis =>
      rw [List.flatMap_cons, List.append_assoc, readBytes?_encodeByte, inductionHypothesis,
        Option.map_map]
      rfl

theorem readBytes?_cons_of_ne {char : Char} (plain : char ≠ '%') (rest : List Char) :
    readBytes? (char :: rest) = (readBytes? rest).map (String.utf8EncodeChar char ++ ·) := by
  rw [readBytes?, if_neg plain]
  intro high low others same
  exact absurd same plain

/-- Whether a character is kept or not, what is written for it is read as its bytes, as long as the
percent sign is not kept. -/
theorem readBytes?_encodeChar (percent : keep '%' = false) (char : Char) (rest : List Char) :
    readBytes? (encodeChar keep char ++ rest) =
      (readBytes? rest).map (String.utf8EncodeChar char ++ ·) := by
  cases isKept : keep char with
  | true =>
      rw [encodeChar_of_kept isKept, List.singleton_append]
      refine readBytes?_cons_of_ne ?_ rest
      rintro rfl
      rw [percent] at isKept
      cases isKept
  | false => rw [encodeChar_of_not_kept isKept, readBytes?_encodeBytes]

theorem readBytes?_encodeChars (percent : keep '%' = false) (chars : List Char) :
    readBytes? (encodeChars keep chars) = some (chars.flatMap String.utf8EncodeChar) := by
  induction chars with
  | nil => rfl
  | cons first rest inductionHypothesis =>
      rw [encodeChars_cons, readBytes?_encodeChar percent, inductionHypothesis]
      rfl

theorem fromUTF8?_utf8Encode (chars : List Char) :
    String.fromUTF8? (chars.flatMap String.utf8EncodeChar).toByteArray =
      some (String.ofList chars) := by
  have valid : (chars.flatMap String.utf8EncodeChar).toByteArray.IsValidUTF8 := .intro chars rfl
  rw [String.fromUTF8?, dif_pos valid]
  rfl

theorem decode?_encodeChars (percent : keep '%' = false) (text : String) :
    decode? (String.ofList (encodeChars keep text.toList)) = some text := by
  rw [decode?, String.toList_ofList, readBytes?_encodeChars percent, Option.bind_some,
    fromUTF8?_utf8Encode, String.ofList_toList]

end Reading

theorem toNat_lt_of_isHexDigit {char : Char} (digit : isHexDigit char = true) :
    char.toNat < 128 := by
  simp only [isHexDigit, Char.isDigit, Char.le_def, UInt32.le_iff_toNat_le, Bool.or_eq_true,
    Bool.and_eq_true, decide_eq_true_eq, ge_iff_le] at digit
  change (48 ≤ char.toNat ∧ char.toNat ≤ 57) ∨ (65 ≤ char.toNat ∧ char.toNat ≤ 70) at digit
  omega

theorem toNat_lt_of_isAlphanum {char : Char} (alphanumeric : char.isAlphanum = true) :
    char.toNat < 128 := by
  have classes : (char.isUpper || char.isLower || char.isDigit) = true := alphanumeric
  rw [Bool.or_eq_true, Bool.or_eq_true] at classes
  have largest : char.val ≤ 'z'.val := by
    rcases classes with (upper | lower) | digit
    · exact UInt32.le_trans (of_decide_eq_true upper : _ ∧ _).2 (by decide)
    · exact of_decide_eq_true (Bool.and_eq_true_iff.mp lower).2
    · exact UInt32.le_trans (of_decide_eq_true (Bool.and_eq_true_iff.mp digit).2) (by decide)
  exact Nat.lt_of_le_of_lt (UInt32.le_iff_toNat_le.mp largest) (by decide)

/-- What the encoding of whole addresses keeps is plain. -/
theorem toNat_lt_of_isAddressChar {char : Char} (isChar : isAddressChar char = true) :
    char.toNat < 128 := by
  simp only [isAddressChar, isUnreserved, isDelimiter, Bool.or_eq_true,
    List.contains_iff_mem] at isChar
  rw [← Nat.not_le]
  intro large
  have beyond : decide (128 ≤ char.toNat) = true := decide_eq_true large
  rcases isChar with (alphanumeric | mark) | delimiter
  · exact Nat.not_le.mpr (toNat_lt_of_isAlphanum alphanumeric) large
  · exact not_mem_of_apart (128 ≤ Char.toNat ·) beyond (by decide) mark
  · exact not_mem_of_apart (128 ≤ Char.toNat ·) beyond (by decide) delimiter

/-- A class that has none of the delimiters holds of no delimiter. -/
theorem isDelimiter_eq_false {holds : Char → Bool}
    (apart : [';', ',', '/', '?', ':', '@', '&', '=', '+', '$', '#'].any holds = false)
    {char : Char} (held : holds char = true) : isDelimiter char = false := by
  rw [← Bool.not_eq_true]
  exact fun delimits => not_mem_of_apart holds held apart (List.contains_iff_mem.mp delimits)

/-- Escapes have no delimiters. -/
theorem isDelimiter_eq_false_of_mem_encodeBytes (bytes : List UInt8) :
    ∀ char ∈ bytes.flatMap encodeByte, isDelimiter char = false := by
  have encoded : Encoded (fun _ => false) (bytes.flatMap encodeByte) := encoded_encodeBytes bytes
  refine encoded.forall_mem (fun char isKept => ?_) (by decide) fun char digit => ?_
  · cases isKept
  · exact isDelimiter_eq_false (by decide) digit

/-- What is written for a character in a part of an address is what is written for it in a whole
address, with the delimiters encoded. -/
theorem encodeChar_isUnreserved (char : Char) :
    encodeChar isUnreserved char =
      encodeChars (fun char => !isDelimiter char) (encodeChar isAddressChar char) := by
  cases unreserved : isUnreserved char with
  | true =>
      have inAddress : isAddressChar char = true := by rw [isAddressChar, unreserved, Bool.true_or]
      have plain : ∀ other ∈ [char], (!isDelimiter other) = true := by
        simpa using isDelimiter_eq_false (by decide) unreserved
      rw [encodeChar_of_kept unreserved, encodeChar_of_kept inAddress, encodeChars_of_kept plain]
  | false =>
      rw [encodeChar_of_not_kept unreserved]
      cases delimits : isDelimiter char with
      | true =>
          have inAddress : isAddressChar char = true := by
            rw [isAddressChar, delimits, Bool.or_true]
          have notKept : (!isDelimiter char) = false := by rw [delimits, Bool.not_true]
          rw [encodeChar_of_kept inAddress, encodeChars_cons, encodeChar_of_not_kept notKept]
          exact (List.append_nil _).symm
      | false =>
          have notInAddress : isAddressChar char = false := by
            rw [isAddressChar, unreserved, delimits, Bool.or_false]
          rw [encodeChar_of_not_kept notInAddress, encodeChars_of_kept]
          intro other member
          rw [isDelimiter_eq_false_of_mem_encodeBytes _ other member, Bool.not_false]

theorem encodeChars_isUnreserved (chars : List Char) :
    encodeChars isUnreserved chars =
      encodeChars (fun char => !isDelimiter char) (encodeChars isAddressChar chars) := by
  induction chars with
  | nil => rfl
  | cons first rest inductionHypothesis =>
      rw [encodeChars_cons, encodeChars_cons, encodeChars_append, encodeChar_isUnreserved,
        inductionHypothesis]

/-- Percent encoding loses nothing. The encoding of a whole address and that of a part of one are
plain, and hold nothing but what they keep and escapes. Both are read back as the text that was
encoded, and a text in two parts is encoded part by part. The encoding of a part is that of a whole
address with the delimiters encoded, and nothing else. -/
theorem encode_lossless (first second : String) :
    (∀ char ∈ (encodeAddress first).toList, char.toNat < 128) ∧
      (∀ char ∈ (encodeComponent first).toList, char.toNat < 128) ∧
      Encoded isAddressChar (encodeAddress first).toList ∧
      Encoded isUnreserved (encodeComponent first).toList ∧
      decode? (encodeAddress first) = some first ∧
      decode? (encodeComponent first) = some first ∧
      encodeAddress (first ++ second) = encodeAddress first ++ encodeAddress second ∧
      encodeComponent (first ++ second) = encodeComponent first ++ encodeComponent second ∧
      (encodeComponent first).toList =
        encodeChars (fun char => !isDelimiter char) (encodeAddress first).toList := by
  have address : (encodeAddress first).toList = encodeChars isAddressChar first.toList :=
    String.toList_ofList
  have component : (encodeComponent first).toList = encodeChars isUnreserved first.toList :=
    String.toList_ofList
  have inAddress : ∀ char, isUnreserved char = true → isAddressChar char = true := by
    intro char unreserved
    rw [isAddressChar, unreserved, Bool.true_or]
  rw [address, component]
  refine ⟨?_, ?_, encoded_encodeChars _, encoded_encodeChars _, decode?_encodeChars rfl first,
    decode?_encodeChars rfl first, ?_, ?_, encodeChars_isUnreserved _⟩
  · exact (encoded_encodeChars _).forall_mem (fun _ => toNat_lt_of_isAddressChar) (by decide)
      fun _ => toNat_lt_of_isHexDigit
  · exact (encoded_encodeChars _).forall_mem
      (fun char unreserved => toNat_lt_of_isAddressChar (inAddress char unreserved)) (by decide)
      fun _ => toNat_lt_of_isHexDigit
  · rw [encodeAddress, String.toList_append, encodeChars_append, String.ofList_append]
    rfl
  · rw [encodeComponent, String.toList_append, encodeChars_append, String.ofList_append]
    rfl

/-- What looks like an escape is encoded as the text that it is; an escape of half a character
stands for no text. -/
example : encodeAddress "%41/é" = "%2541/%C3%A9" ∧ encodeComponent "%41/é" = "%2541%2F%C3%A9" ∧
    decode? "%2541/%C3%A9" = some "%41/é" ∧ decode? "%C3" = none := by
  decide +kernel

end Percent

end BraceTemplate.Text
