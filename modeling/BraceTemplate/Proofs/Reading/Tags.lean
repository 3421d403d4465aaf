import BraceTemplate.Proofs.Reading.Quotations

/-!
Numbers, parameters and the tags that are made of them.
-/

namespace BraceTemplate.Grammar

open Reading Source
open Expression hiding char

theorem Reads.beforeGaps {Result : Type} {item : Expression Rule Result} {cursor : Cursor}
    {found : Option (Result × Cursor)} (reads : Reads item cursor found) :
    Reads (item <* gaps) cursor (found.map fun (result, middle) => (result, middle.skipGaps)) := by
  apply (reads.both (fun result _ => result) fun _ middle _ => reads_gaps middle).congr
  cases found <;> rfl

theorem reads_float (cursor : Cursor) : Reads (.rule .float) cursor (float? cursor) := by
  have whole := ((reads_digits cursor).map floatOf).beforeText ['.']
  apply Derives.rule
  apply (whole.seq reads_digits).congr
  unfold float?
  cases digits? cursor with
  | none => rfl
  | some pair =>
      obtain ⟨whole, afterWhole⟩ := pair
      simp only [Option.bind_eq_bind, Option.bind_some, Option.map_some]
      cases afterWhole.literal? ['.'] with
      | none => rfl
      | some afterPoint =>
          simp only [Option.bind_some, Option.map_some]
          cases digits? afterPoint <;> rfl

theorem reads_integer (cursor : Cursor) : Reads (.rule .integer) cursor (integer? cursor) := by
  apply Derives.rule
  apply ((reads_digits cursor).check integerOf?).congr
  unfold integer?
  cases digits? cursor with
  | none => rfl
  | some pair =>
      obtain ⟨digits, after⟩ := pair
      simp only [Option.bind_eq_bind, Option.bind_some, integerOf?]
      by_cases fits : Numeral.natOfDigits digits < Nat.pow 2 63
      · simp only [fits, if_true]
        rfl
      · simp only [fits, if_false]
        rfl

theorem reads_number (cursor : Cursor) : Reads (.rule .number) cursor (number? cursor) := by
  apply Derives.rule
  apply ((reads_float cursor).choice (reads_integer cursor)).congr
  unfold number?
  cases float? cursor <;> rfl

theorem reads_paramValue (cursor : Cursor) :
    Reads (ParamValue.literal <$> .rule .number <|>
      ParamValue.identifier <$> .rule .identifier <|>
      Quotation.fold (fun content => .literal (.string content)) .inline <$> .rule .inline) cursor
      (paramValue? cursor) := by
  have number := (reads_number cursor).map (ParamValue.literal : Literal → ParamValue Node)
  have identifier := (reads_identifier cursor).map
    (ParamValue.identifier : Identifier → ParamValue Node)
  have quotation := (reads_quotation cursor).map
    (Quotation.fold (fun content => ParamValue.literal (.string content)) ParamValue.inline)
  apply (number.choice (identifier.choice quotation)).congr
  unfold paramValue?
  cases number? cursor with
  | some found => rfl
  | none => cases identifier? cursor <;> rfl

theorem reads_param (cursor : Cursor) : Reads param cursor (param? cursor) := by
  obtain ⟨found, gap, afterGap⟩ := reads_atLeastOneGap cursor
  have named := (gap.seqRight reads_key).map (Param.mk : String → ParamValue Node → Param Node)
  apply ((named.beforeText ['=']).seq reads_paramValue).congr
  unfold param?
  cases gapFound : cursor.char? isGap with
  | none =>
      have notFound : found = none := by simpa [gapFound] using afterGap
      rw [notFound]
      rfl
  | some pair =>
      obtain ⟨chars, later⟩ := pair
      obtain ⟨⟨gapChars, middle⟩, rfl, rfl⟩ : ∃ first, found = some first ∧
          first.2 = later.skipGaps := by
        simpa [gapFound] using afterGap
      simp only [Option.bind_eq_bind, Option.bind_some]
      cases key? later.skipGaps with
      | none => rfl
      | some pair =>
          obtain ⟨key, afterKey⟩ := pair
          simp only [Option.bind_some, Option.map_some]
          cases afterKey.literal? ['='] with
          | none => rfl
          | some afterSign =>
              simp only [Option.bind_some, Option.map_some]
              cases paramValue? afterSign <;> rfl

theorem reads_params (cursor : Cursor) :
    Reads (.rule .params) cursor (some (cursor.many param?)) := by
  apply Derives.rule
  exact Reads.many cursor (fun later _ => reads_param later) rfl

theorem reads_context (cursor : Cursor) :
    Reads (.rule .context) cursor (some (context cursor)) := by
  apply Derives.rule
  apply (Reads.afterText [':'] cursor reads_identifier).optional.congr
  unfold context
  cases (cursor.literal? [':']).bind identifier? <;> rfl

theorem reads_opening (cursor : Cursor) : Reads (.rule .opening) cursor (opening? cursor) := by
  have marked := Reads.afterText ['{'] cursor (Reads.char SectionKind.ofMark?)
  have named := (marked.map Opening.mk).beforeGaps.seq reads_identifier
  have whole := (named.seq reads_context).seq reads_params
  apply Derives.rule
  apply whole.congr
  unfold opening?
  cases cursor.literal? ['{'] with
  | none => rfl
  | some inside =>
      simp only [Option.bind_eq_bind, Option.bind_some]
      cases inside.classify? SectionKind.ofMark? with
      | none => rfl
      | some pair =>
          obtain ⟨kind, afterMark⟩ := pair
          simp only [Option.bind_some, Option.map_some]
          cases identifier? afterMark.skipGaps <;> rfl

theorem reads_endTag (cursor : Cursor) : Reads (.rule .endTag) cursor (endTag? cursor) := by
  have named := (Reads.afterText ['{', '/'] cursor reads_gaps).seqRight reads_identifier
  apply Derives.rule
  apply (named.beforeGaps.beforeText ['}']).congr
  unfold endTag?
  cases cursor.literal? ['{', '/'] with
  | none => rfl
  | some inside =>
      simp only [Option.bind_eq_bind, Option.bind_some, Cursor.skipGaps]
      cases identifier? (inside.takeWhile isGap).2 with
      | none => rfl
      | some pair =>
          obtain ⟨identifier, afterName⟩ := pair
          simp only [Option.bind_some, Option.map_some]
          cases (afterName.takeWhile isGap).2.literal? ['}'] <;> rfl

theorem reads_branchTag (cursor : Cursor) :
    Reads (text ['{', ':'] *> .rule .key <* text ['}']) cursor (branchTag? cursor) := by
  apply ((Reads.afterText ['{', ':'] cursor reads_key).beforeText ['}']).congr
  unfold branchTag?
  cases cursor.literal? ['{', ':'] with
  | none => rfl
  | some inside =>
      simp only [Option.bind_eq_bind, Option.bind_some]
      cases key? inside with
      | none => rfl
      | some pair =>
          obtain ⟨name, afterName⟩ := pair
          simp only [Option.bind_some]
          cases afterName.literal? ['}'] <;> rfl

theorem reads_target (cursor : Cursor) :
    Reads (Target.name <$> .rule .key <|> Quotation.fold Target.name .inline <$> .rule .inline)
      cursor (target? cursor) := by
  have name := (reads_key cursor).map (Target.name : String → Target Node)
  have quotation := (reads_quotation cursor).map (Quotation.fold Target.name Target.inline)
  apply (name.choice quotation).congr
  unfold target?
  cases key? cursor <;> rfl

theorem reads_inclusion (cursor : Cursor) :
    Reads (.rule .inclusion) cursor (inclusion? cursor) := by
  have build := (Reads.position cursor).map fun position kind target context params =>
    Node.inclusion kind target context params position
  have marked := build.behind (fun change result => change result)
    (Reads.afterText ['{'] cursor (Reads.char inclusionKind?))
  have named := marked.beforeGaps.seq reads_target
  have whole := ((named.seq reads_context).seq reads_params).beforeGaps.beforeText ['/', '}']
  apply Derives.rule
  apply whole.congr
  unfold inclusion?
  cases cursor.literal? ['{'] with
  | none => rfl
  | some inside =>
      simp only [Option.bind_eq_bind, Option.bind_some]
      cases inside.classify? inclusionKind? with
      | none => rfl
      | some pair =>
          obtain ⟨kind, afterMark⟩ := pair
          simp only [Option.bind_some, Option.map_some]
          cases target? afterMark.skipGaps with
          | none => rfl
          | some pair =>
              obtain ⟨target, afterTarget⟩ := pair
              simp only [Option.bind_some, Option.map_some]
              cases ((context afterTarget).2.many param?).2.skipGaps.literal? ['/', '}'] <;> rfl

end BraceTemplate.Grammar
