import BraceTemplate.Source.Cursor

/-!
Parsing expressions and what they derive. A choice is ordered, a repetition is greedy, a lookahead
takes nothing, and a demand that is not met ends everything, whatever could be tried afterwards.
Main statements: an expression derives at most one outcome at a cursor (`Derives.functional`), and a
match never reaches back (`Derives.takes`).
-/

namespace BraceTemplate.Grammar

open Source

/-- What an expression makes of the source from a cursor on. -/
inductive Outcome (Result : Type) where
  | matched (result : Result) (after : Cursor)
  | failed
  /-- A demand was not met. -/
  | aborted

namespace Outcome

variable {First Second : Type}

def map (change : First → Second) : Outcome First → Outcome Second
  | matched result after => matched (change result) after
  | failed => failed
  | aborted => aborted

def check (test : First → Option Second) : Outcome First → Outcome Second
  | matched result after =>
    match test result with
    | some changed => matched changed after
    | none => failed
  | failed => failed
  | aborted => aborted

def demand (test : First → Option Second) : Outcome First → Outcome Second
  | matched result after =>
    match test result with
    | some changed => matched changed after
    | none => aborted
  | failed => failed
  | aborted => aborted

/-- What a lookahead at a cursor makes of the outcome that must not be a match. -/
def absent (result : Second) (cursor : Cursor) : Outcome First → Outcome Second
  | matched _ _ => failed
  | failed => matched result cursor
  | aborted => aborted

end Outcome

/-- Parsing expressions over named rules, with the results they build. -/
inductive Expression (Rule : Type → Type) : Type → Type 1 where
  /-- Takes nothing. -/
  | here {Result : Type} (result : Position → Result) : Expression Rule Result
  | char {Result : Type} (classify : Char → Option Result) : Expression Rule Result
  | rule {Result : Type} (name : Rule Result) : Expression Rule Result
  | both {First Second Result : Type} (join : First → Second → Result)
      (first : Expression Rule First) (second : Expression Rule Second) : Expression Rule Result
  | choice {Result : Type} (first second : Expression Rule Result) : Expression Rule Result
  | star {Item Result : Type} (collect : List Item → Result) (item : Expression Rule Item) :
      Expression Rule Result
  | absent {Item Result : Type} (result : Result) (item : Expression Rule Item) :
      Expression Rule Result
  | check {First Result : Type} (test : First → Option Result) (item : Expression Rule First) :
      Expression Rule Result
  | demand {First Result : Type} (test : First → Option Result) (item : Expression Rule First) :
      Expression Rule Result

abbrev Table (Rule : Type → Type) : Type 1 :=
  (Result : Type) → Rule Result → Expression Rule Result

/-- What an expression derives at a cursor. -/
inductive Derives {Rule : Type → Type} (table : Table Rule) :
    {Result : Type} → Expression Rule Result → Cursor → Outcome Result → Prop
  | here {Result : Type} (result : Position → Result) (cursor : Cursor) :
      Derives table (.here result) cursor (.matched (result cursor.position) cursor)
  | char {Result : Type} (classify : Char → Option Result) (cursor : Cursor) {result : Result}
      {after : Cursor} :
      cursor.classify? classify = some (result, after) →
      Derives table (.char classify) cursor (.matched result after)
  | noChar {Result : Type} (classify : Char → Option Result) (cursor : Cursor) :
      cursor.classify? classify = none →
      Derives table (.char classify) cursor .failed
  | rule {Result : Type} {name : Rule Result} {cursor : Cursor} {outcome : Outcome Result} :
      Derives table (table Result name) cursor outcome →
      Derives table (.rule name) cursor outcome
  | both {First Second Result : Type} (join : First → Second → Result)
      {first : Expression Rule First} {second : Expression Rule Second} {cursor middle : Cursor}
      {value : First} {outcome : Outcome Second} :
      Derives table first cursor (.matched value middle) →
      Derives table second middle outcome →
      Derives table (.both join first second) cursor (outcome.map (join value))
  | bothFailed {First Second Result : Type} (join : First → Second → Result)
      {first : Expression Rule First} {second : Expression Rule Second} {cursor : Cursor} :
      Derives table first cursor .failed →
      Derives table (.both join first second) cursor .failed
  | bothAborted {First Second Result : Type} (join : First → Second → Result)
      {first : Expression Rule First} {second : Expression Rule Second} {cursor : Cursor} :
      Derives table first cursor .aborted →
      Derives table (.both join first second) cursor .aborted
  | firstChoice {Result : Type} {first second : Expression Rule Result} {cursor : Cursor}
      {outcome : Outcome Result} :
      outcome ≠ .failed →
      Derives table first cursor outcome →
      Derives table (.choice first second) cursor outcome
  | secondChoice {Result : Type} {first second : Expression Rule Result} {cursor : Cursor}
      {outcome : Outcome Result} :
      Derives table first cursor .failed →
      Derives table second cursor outcome →
      Derives table (.choice first second) cursor outcome
  /-- A repetition is its item and the repetition, or else nothing. -/
  | star {Item Result : Type} (collect : List Item → Result) {item : Expression Rule Item}
      {cursor : Cursor} {outcome : Outcome (List Item)} :
      Derives table (.choice (.both List.cons item (.star id item)) (.here fun _ => [])) cursor
        outcome →
      Derives table (.star collect item) cursor (outcome.map collect)
  | absent {Item Result : Type} (result : Result) {item : Expression Rule Item} {cursor : Cursor}
      {outcome : Outcome Item} :
      Derives table item cursor outcome →
      Derives table (.absent result item) cursor (outcome.absent result cursor)
  | check {First Result : Type} (test : First → Option Result)
      {item : Expression Rule First} {cursor : Cursor} {outcome : Outcome First} :
      Derives table item cursor outcome →
      Derives table (.check test item) cursor (outcome.check test)
  | demand {First Result : Type} (test : First → Option Result)
      {item : Expression Rule First} {cursor : Cursor} {outcome : Outcome First} :
      Derives table item cursor outcome →
      Derives table (.demand test item) cursor (outcome.demand test)

namespace Derives

variable {Rule : Type → Type} {table : Table Rule} {Result : Type}

/-- An expression derives at most one outcome at a cursor. -/
theorem functional {expression : Expression Rule Result} {cursor : Cursor}
    {first second : Outcome Result} (firstDerivation : Derives table expression cursor first)
    (secondDerivation : Derives table expression cursor second) :
    first = second := by
  induction firstDerivation with
  | here result cursor =>
      cases secondDerivation
      rfl
  | char classify cursor found =>
      cases secondDerivation with
      | char _ _ foundAgain =>
          rw [found] at foundAgain
          cases foundAgain
          rfl
      | noChar _ _ notFound =>
          rw [found] at notFound
          cases notFound
  | noChar classify cursor notFound =>
      cases secondDerivation with
      | char _ _ found =>
          rw [notFound] at found
          cases found
      | noChar _ _ _ => rfl
  | rule _ inductionHypothesis =>
      cases secondDerivation with
      | rule body => exact inductionHypothesis body
  | both join _ _ firstHypothesis secondHypothesis =>
      cases secondDerivation with
      | both _ firstAgain secondAgain =>
          cases firstHypothesis firstAgain
          rw [secondHypothesis secondAgain]
      | bothFailed _ firstAgain => cases firstHypothesis firstAgain
      | bothAborted _ firstAgain => cases firstHypothesis firstAgain
  | bothFailed join _ firstHypothesis =>
      cases secondDerivation with
      | both _ firstAgain _ => cases firstHypothesis firstAgain
      | bothFailed _ _ => rfl
      | bothAborted _ firstAgain => cases firstHypothesis firstAgain
  | bothAborted join _ firstHypothesis =>
      cases secondDerivation with
      | both _ firstAgain _ => cases firstHypothesis firstAgain
      | bothFailed _ firstAgain => cases firstHypothesis firstAgain
      | bothAborted _ _ => rfl
  | firstChoice notFailed _ firstHypothesis =>
      cases secondDerivation with
      | firstChoice _ firstAgain => exact firstHypothesis firstAgain
      | secondChoice firstFails _ => exact absurd (firstHypothesis firstFails) notFailed
  | secondChoice _ _ firstHypothesis secondHypothesis =>
      cases secondDerivation with
      | firstChoice notFailed firstAgain =>
          exact absurd (firstHypothesis firstAgain).symm notFailed
      | secondChoice _ secondAgain => exact secondHypothesis secondAgain
  | star collect _ inductionHypothesis =>
      cases secondDerivation with
      | star _ unfolded => rw [inductionHypothesis unfolded]
  | absent result _ inductionHypothesis =>
      cases secondDerivation with
      | absent _ item => rw [inductionHypothesis item]
  | check test _ inductionHypothesis =>
      cases secondDerivation with
      | check _ item => rw [inductionHypothesis item]
  | demand test _ inductionHypothesis =>
      cases secondDerivation with
      | demand _ item => rw [inductionHypothesis item]

theorem starEnd {Item : Type} {item : Expression Rule Item} {cursor : Cursor}
    (fails : Derives table item cursor .failed) :
    Derives table (.star id item) cursor (.matched [] cursor) := by
  have ends : Derives table (.both List.cons item (.star id item)) cursor .failed :=
    .bothFailed _ fails
  exact .star id (.secondChoice ends (.here _ cursor))

theorem starMore {Item : Type} {item : Expression Rule Item} {cursor middle : Cursor}
    {result : Item} {outcome : Outcome (List Item)}
    (itemMatches : Derives table item cursor (.matched result middle))
    (goesOn : Derives table (.star id item) middle outcome) (notFailed : outcome ≠ .failed) :
    Derives table (.star id item) cursor (outcome.map (List.cons result)) := by
  have more := Derives.both List.cons itemMatches goesOn
  have moreNotFailed : outcome.map (List.cons result) ≠ .failed := by
    cases outcome with
    | matched results after => nofun
    | failed => exact absurd rfl notFailed
    | aborted => nofun
  have unfolded := Derives.star id (Derives.firstChoice moreNotFailed more)
  cases outcome <;> exact unfolded

theorem starAborted {Item : Type} {item : Expression Rule Item} {cursor : Cursor}
    (aborts : Derives table item cursor .aborted) :
    Derives table (.star id item) cursor .aborted := by
  have unfolded : Derives table
      (.choice (.both List.cons item (.star id item)) (.here fun _ => [])) cursor .aborted :=
    .firstChoice nofun (.bothAborted _ aborts)
  exact .star id unfolded

end Derives

namespace Expression

def takesChar {Rule : Type → Type} (rules : (Result : Type) → Rule Result → Bool)
    {Result : Type} : Expression Rule Result → Bool
  | here _ => false
  | char _ => true
  | rule name => rules Result name
  | both _ first second => first.takesChar rules || second.takesChar rules
  | choice first second => first.takesChar rules && second.takesChar rules
  | star _ _ => false
  | absent _ _ => false
  | check _ item => item.takesChar rules
  | demand _ item => item.takesChar rules

end Expression

namespace Outcome

variable {Result First Second : Type}

/-- A match takes at least a number of the characters there are. -/
def Takes (least available : Nat) : Outcome Result → Prop
  | matched _ after => after.rest.length + least ≤ available
  | failed => True
  | aborted => True

variable {least available : Nat}

theorem Takes.map (change : First → Second) {outcome : Outcome First}
    (takes : outcome.Takes least available) : (outcome.map change).Takes least available := by
  cases outcome <;> exact takes

theorem Takes.check (test : First → Option Second) {outcome : Outcome First}
    (takes : outcome.Takes least available) : (outcome.check test).Takes least available := by
  cases outcome with
  | matched result after =>
      cases accepted : test result with
      | some changed =>
          simp only [Outcome.check, accepted]
          exact takes
      | none => simp only [Outcome.check, accepted, Takes]
  | failed => trivial
  | aborted => trivial

theorem Takes.demand (test : First → Option Second) {outcome : Outcome First}
    (takes : outcome.Takes least available) : (outcome.demand test).Takes least available := by
  cases outcome with
  | matched result after =>
      cases accepted : test result with
      | some changed =>
          simp only [Outcome.demand, accepted]
          exact takes
      | none => simp only [Outcome.demand, accepted, Takes]
  | failed => trivial
  | aborted => trivial

theorem Takes.weaken {fewer : Nat} {outcome : Outcome Result}
    (takes : outcome.Takes least available) (fewerLeLeast : fewer ≤ least) :
    outcome.Takes fewer available := by
  cases outcome with
  | matched result after => exact Nat.le_trans (Nat.add_le_add_left fewerLeLeast _) takes
  | failed => trivial
  | aborted => trivial

theorem Takes.after {middle : Nat} {outcome : Outcome Result} (first : Nat)
    (takes : outcome.Takes least middle) (middleLe : middle + first ≤ available) :
    outcome.Takes (first + least) available := by
  cases outcome with
  | matched result after =>
      simp only [Takes] at takes ⊢
      omega
  | failed => trivial
  | aborted => trivial

end Outcome

theorem length_classify? {Kind : Type} {kindOf : Char → Option Kind} {cursor after : Cursor}
    {kind : Kind} (found : cursor.classify? kindOf = some (kind, after)) :
    after.rest.length + 1 = cursor.rest.length := by
  obtain ⟨place, rest⟩ := cursor
  cases rest with
  | nil => cases found
  | cons char rest =>
      simp only [Cursor.classify?, Option.map_eq_some_iff] at found
      obtain ⟨_, _, equality⟩ := found
      cases equality
      rfl

/-- A match never reaches back, and takes a character where its expression does so. -/
theorem Derives.takes {Rule : Type → Type} {table : Table Rule} {Result : Type}
    {rules : (Result : Type) → Rule Result → Bool}
    (consistent : ∀ (Result : Type) (name : Rule Result),
      rules Result name = true → (table Result name).takesChar rules = true)
    {expression : Expression Rule Result} {cursor : Cursor} {outcome : Outcome Result}
    (derivation : Derives table expression cursor outcome) :
    outcome.Takes (expression.takesChar rules).toNat cursor.rest.length := by
  induction derivation with
  | here result cursor => exact Nat.le_refl _
  | char classify cursor found => exact Nat.le_of_eq (length_classify? found)
  | noChar => trivial
  | @rule _ name _ _ _ inductionHypothesis =>
      apply inductionHypothesis.weaken
      simp only [Expression.takesChar]
      cases takes : rules _ name with
      | false => exact Nat.zero_le _
      | true => simp only [consistent _ name takes, Nat.le_refl]
  | @both _ _ _ join first second _ _ _ _ _ _ firstHypothesis secondHypothesis =>
      apply Outcome.Takes.map
      apply (secondHypothesis.after _ firstHypothesis).weaken
      simp only [Expression.takesChar]
      cases first.takesChar rules <;> cases second.takesChar rules <;> decide
  | bothFailed => trivial
  | bothAborted => trivial
  | @firstChoice _ first second _ _ _ _ inductionHypothesis =>
      apply inductionHypothesis.weaken
      simp only [Expression.takesChar]
      cases first.takesChar rules <;> cases second.takesChar rules <;> decide
  | @secondChoice _ first second _ _ _ _ _ inductionHypothesis =>
      apply inductionHypothesis.weaken
      simp only [Expression.takesChar]
      cases first.takesChar rules <;> cases second.takesChar rules <;> decide
  | star collect _ inductionHypothesis =>
      exact (inductionHypothesis.map collect).weaken (Nat.zero_le _)
  | @absent _ _ _ _ _ outcome _ _ =>
      cases outcome with
      | matched => trivial
      | failed => exact Nat.le_refl _
      | aborted => trivial
  | check test _ inductionHypothesis => exact inductionHypothesis.check test
  | demand test _ inductionHypothesis => exact inductionHypothesis.demand test

def Outcome.Advances {Result : Type} (cursor : Cursor) : Outcome Result → Prop
  | matched _ after => ∃ taken, cursor.rest = taken ++ after.rest ∧
      after.place = cursor.place.advanceAll taken
  | failed => True
  | aborted => True

theorem advances_classify? {Kind : Type} {kindOf : Char → Option Kind} {cursor after : Cursor}
    {kind : Kind} (found : cursor.classify? kindOf = some (kind, after)) :
    ∃ taken, cursor.rest = taken ++ after.rest ∧ after.place = cursor.place.advanceAll taken := by
  obtain ⟨place, rest⟩ := cursor
  cases rest with
  | nil => cases found
  | cons char rest =>
      simp only [Cursor.classify?, Option.map_eq_some_iff] at found
      obtain ⟨_, _, equality⟩ := found
      cases equality
      exact ⟨[char], rfl, rfl⟩

/-- A match takes characters one after the other. -/
theorem Derives.advances {Rule : Type → Type} {table : Table Rule} {Result : Type}
    {expression : Expression Rule Result} {cursor : Cursor} {outcome : Outcome Result}
    (derivation : Derives table expression cursor outcome) : outcome.Advances cursor := by
  induction derivation with
  | here result cursor => exact ⟨[], rfl, rfl⟩
  | char classify cursor found => exact advances_classify? found
  | noChar => trivial
  | rule _ inductionHypothesis => exact inductionHypothesis
  | @both _ _ _ _ _ _ _ _ _ outcome _ _ firstHypothesis secondHypothesis =>
      cases outcome with
      | matched =>
          obtain ⟨taken, rest, place⟩ := firstHypothesis
          obtain ⟨more, moreRest, morePlace⟩ := secondHypothesis
          refine ⟨taken ++ more, ?_, ?_⟩
          · rw [rest, moreRest, List.append_assoc]
          · rw [morePlace, place, Place.advanceAll_append]
      | failed => trivial
      | aborted => trivial
  | bothFailed => trivial
  | bothAborted => trivial
  | firstChoice _ _ inductionHypothesis => exact inductionHypothesis
  | secondChoice _ _ _ inductionHypothesis => exact inductionHypothesis
  | @star _ _ _ _ _ outcome _ inductionHypothesis =>
      cases outcome <;> exact inductionHypothesis
  | @absent _ _ _ _ _ outcome _ _ =>
      cases outcome with
      | matched => trivial
      | failed => exact ⟨[], rfl, rfl⟩
      | aborted => trivial
  | @check _ _ test _ _ outcome _ inductionHypothesis =>
      cases outcome with
      | matched result after =>
          cases accepted : test result with
          | some changed =>
              simp only [Outcome.check, accepted]
              exact inductionHypothesis
          | none => simp only [Outcome.check, accepted, Outcome.Advances]
      | failed => trivial
      | aborted => trivial
  | @demand _ _ test _ _ outcome _ inductionHypothesis =>
      cases outcome with
      | matched result after =>
          cases accepted : test result with
          | some changed =>
              simp only [Outcome.demand, accepted]
              exact inductionHypothesis
          | none => simp only [Outcome.demand, accepted, Outcome.Advances]
      | failed => trivial
      | aborted => trivial

/-- What a match leaves is an end of what was left before it. -/
theorem Derives.leavesEnd {Rule : Type → Type} {table : Table Rule} {Result : Type}
    {expression : Expression Rule Result} {cursor after : Cursor} {result : Result}
    (derivation : Derives table expression cursor (.matched result after)) :
    after.rest <:+ cursor.rest := by
  obtain ⟨taken, rest, -⟩ := derivation.advances
  exact ⟨taken, rest.symm⟩

end BraceTemplate.Grammar
