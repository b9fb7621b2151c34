import GuardedRecords.Proofs.RuleGrammar

namespace GuardedRecords

/-- The fault that is reported on some tokens, if any, is placed where a rest of them begins. -/
def FaultsWithin {α : Type} (finish : Nat) (ts : List Token)
    (outcome : Except SyntaxError α) : Prop :=
  ∀ fault, outcome = .error fault → ∃ rest, rest <:+ ts ∧ fault.position = nextPosition finish rest

section Outcomes

variable {α β : Type} {finish : Nat} {ts us : List Token}

theorem faultsWithin_ok (a : α) : FaultsWithin finish ts (.ok a) := nofun

/-- A fault placed at the next token of a rest of the tokens, or at the end of the text when no
token is left. -/
theorem faultsWithin_error {fault : SyntaxError} (behind : us <:+ ts)
    (placed : fault.position = nextPosition finish us) :
    FaultsWithin finish ts (.error fault : Except SyntaxError α) := by
  rintro _ ⟨⟩
  exact ⟨us, behind, placed⟩

/-- A rest of a rest is a rest, so what is reported on fewer tokens is placed within more of
them. -/
theorem FaultsWithin.mono {outcome : Except SyntaxError α} (faults : FaultsWithin finish us outcome)
    (behind : us <:+ ts) : FaultsWithin finish ts outcome := by
  intro fault failed
  obtain ⟨rest, within, placed⟩ := faults fault failed
  exact ⟨rest, within.trans behind, placed⟩

/-- A fault of two steps in a row is one of the first, or of the second on what the first has
left. -/
theorem FaultsWithin.bind {run : Except SyntaxError α} {next : α → Except SyntaxError β}
    (first : FaultsWithin finish ts run)
    (second : ∀ a, run = .ok a → FaultsWithin finish ts (next a)) :
    FaultsWithin finish ts (run >>= next) := by
  intro fault failed
  rcases bind_eq_error_iff.mp failed with failed | ⟨a, found, failed⟩
  · exact first fault failed
  · exact second a found fault failed

theorem Phrase.Before.suffix {phrase : Phrase} {rest : List Token} (found : phrase.Before ts rest) :
    rest <:+ ts := by
  obtain ⟨front, same, -⟩ := found
  exact ⟨front, same.symm⟩

end Outcomes

/-- What each function reports on the tokens is placed within them. -/
structure ReportsWithin (finish : Nat) (ts : List Token) : Prop where
  expression : FaultsWithin finish ts (parseRuleExpr finish ts)
  conjunct : FaultsWithin finish ts (parseConjunction finish ts)
  negation : FaultsWithin finish ts (parseNegation finish ts)
  operand : FaultsWithin finish ts (parseOperand finish ts)
  moreOr (left : Expr) : FaultsWithin finish ts (parseMoreOr finish left ts)
  moreAnd (left : Expr) : FaultsWithin finish ts (parseMoreAnd finish left ts)
  items (closing : Lexeme) : FaultsWithin finish ts (parseItems finish closing ts)
  moreItems (closing : Lexeme) : FaultsWithin finish ts (parseMoreItems finish closing ts)

section Places

variable {finish : Nat} {ts : List Token}

/-- Each function is treated once, under the assumption that all of them report within any shorter
list of tokens. This carries the mutual recursion without a joint induction over nine functions. -/
theorem parseMoreOr_within (shorter : ∀ us, us.length < ts.length → ReportsWithin finish us)
    (left : Expr) : FaultsWithin finish ts (parseMoreOr finish left ts) := by
  rw [parseMoreOr.eq_def]
  split
  · next p operand =>
    have behind : operand <:+ ⟨.or, p⟩ :: operand := List.suffix_cons _ _
    refine ((shorter operand (by simp)).conjunct.mono behind).bind ?_
    rintro ⟨right, more, fewer⟩ found
    have rest := ((readsPhrases finish operand).conjunct found).suffix.trans behind
    exact (((shorter more (by simp; omega)).moreOr _).mono rest).bind fun _ _ => faultsWithin_ok _
  · exact faultsWithin_ok _

theorem parseMoreAnd_within (shorter : ∀ us, us.length < ts.length → ReportsWithin finish us)
    (left : Expr) : FaultsWithin finish ts (parseMoreAnd finish left ts) := by
  rw [parseMoreAnd.eq_def]
  split
  · next p operand =>
    have behind : operand <:+ ⟨.and, p⟩ :: operand := List.suffix_cons _ _
    refine ((shorter operand (by simp)).negation.mono behind).bind ?_
    rintro ⟨right, more, fewer⟩ found
    have rest := ((readsPhrases finish operand).negation found).suffix.trans behind
    exact (((shorter more (by simp; omega)).moreAnd _).mono rest).bind fun _ _ => faultsWithin_ok _
  · exact faultsWithin_ok _

theorem parseMoreItems_within (shorter : ∀ us, us.length < ts.length → ReportsWithin finish us)
    (closing : Lexeme) : FaultsWithin finish ts (parseMoreItems finish closing ts) := by
  rw [parseMoreItems.eq_def]
  split
  · next t tail =>
    split
    · exact faultsWithin_ok _
    · split
      · have behind : tail <:+ t :: tail := List.suffix_cons _ _
        refine ((shorter tail (by simp)).expression.mono behind).bind ?_
        rintro ⟨next, more, fewer⟩ found
        have rest := ((readsPhrases finish tail).expression found).suffix.trans behind
        exact (((shorter more (by simp; omega)).moreItems _).mono rest).bind
          fun _ _ => faultsWithin_ok _
      · exact faultsWithin_error List.suffix_rfl rfl
  · exact faultsWithin_error List.suffix_rfl rfl

/-- Operands are where most faults arise: a missing operand is reported at the token found in its
place, a missing bracket where the bracket should stand. -/
theorem parseOperand_within (shorter : ∀ us, us.length < ts.length → ReportsWithin finish us) :
    FaultsWithin finish ts (parseOperand finish ts) := by
  rw [parseOperand.eq_def]
  split
  · next p inside =>
    have behind : inside <:+ ⟨.openParen, p⟩ :: inside := List.suffix_cons _ _
    refine ((shorter inside (by simp)).expression.mono behind).bind ?_
    rintro ⟨inner, more, fewer⟩ found
    dsimp only
    split
    · exact faultsWithin_ok _
    · exact faultsWithin_error
        (((readsPhrases finish inside).expression found).suffix.trans behind) rfl
  · next p inside =>
    exact (((shorter inside (by simp)).items _).mono (List.suffix_cons _ _)).bind
      fun _ _ => faultsWithin_ok _
  · next function p q inside =>
    have behind : inside <:+ ⟨.name function, p⟩ :: ⟨.openParen, q⟩ :: inside :=
      (List.suffix_cons _ _).trans (List.suffix_cons _ _)
    exact (((shorter inside (by simp only [List.length_cons]; omega)).items _).mono behind).bind
      fun _ _ => faultsWithin_ok _
  · exact faultsWithin_ok _
  · split
    · exact faultsWithin_ok _
    · exact faultsWithin_error List.suffix_rfl rfl
  · exact faultsWithin_error List.suffix_rfl rfl

theorem parseComparison_within (shorter : ∀ us, us.length < ts.length → ReportsWithin finish us) :
    FaultsWithin finish ts (parseComparison finish ts) := by
  rw [parseComparison]
  refine (parseOperand_within shorter).bind ?_
  rintro ⟨left, more, fewer⟩ found
  dsimp only
  split
  · next sign p operand fewer =>
    have rest := ((readsPhrases finish ts).operand found).suffix
    have behind : operand <:+ ts := (List.suffix_cons _ _).trans rest
    exact ((shorter operand (Nat.lt_of_succ_lt fewer)).operand.mono behind).bind
      fun _ _ => faultsWithin_ok _
  · exact faultsWithin_ok _

theorem parseNegation_within (shorter : ∀ us, us.length < ts.length → ReportsWithin finish us) :
    FaultsWithin finish ts (parseNegation finish ts) := by
  rw [parseNegation.eq_def]
  split
  · next p operand =>
    exact ((shorter operand (by simp)).negation.mono (List.suffix_cons _ _)).bind
      fun _ _ => faultsWithin_ok _
  · exact parseComparison_within shorter

theorem parseConjunction_within (shorter : ∀ us, us.length < ts.length → ReportsWithin finish us) :
    FaultsWithin finish ts (parseConjunction finish ts) := by
  rw [parseConjunction]
  refine (parseNegation_within shorter).bind ?_
  rintro ⟨first, more, fewer⟩ found
  have rest := ((readsPhrases finish ts).negation found).suffix
  exact (((shorter more fewer).moreAnd _).mono rest).bind fun _ _ => faultsWithin_ok _

/-- The outermost function adds no fault of its own; what it reports comes from the conjunctions. -/
theorem parseRuleExpr_within (shorter : ∀ us, us.length < ts.length → ReportsWithin finish us) :
    FaultsWithin finish ts (parseRuleExpr finish ts) := by
  rw [parseRuleExpr]
  refine (parseConjunction_within shorter).bind ?_
  rintro ⟨first, more, fewer⟩ found
  have rest := ((readsPhrases finish ts).conjunct found).suffix
  exact (((shorter more fewer).moreOr _).mono rest).bind fun _ _ => faultsWithin_ok _

theorem parseItems_within (shorter : ∀ us, us.length < ts.length → ReportsWithin finish us)
    (closing : Lexeme) : FaultsWithin finish ts (parseItems finish closing ts) := by
  rw [parseItems.eq_def]
  split
  · next t tail =>
    split
    · exact faultsWithin_ok _
    · refine (parseRuleExpr_within shorter).bind ?_
      rintro ⟨first, more, fewer⟩ found
      have rest := ((readsPhrases finish (t :: tail)).expression found).suffix
      exact (((shorter more fewer).moreItems _).mono rest).bind fun _ _ => faultsWithin_ok _
  · exact faultsWithin_error List.suffix_rfl rfl

end Places

/-- All functions of the parser report faults within the tokens that they were given. As in
`readsPhrases`, by induction on the number of the tokens. -/
theorem reportsWithin (finish : Nat) (ts : List Token) : ReportsWithin finish ts := by
  induction ts using (measure List.length).wf.induction with
  | _ ts shorter =>
    exact {
      expression := parseRuleExpr_within shorter
      conjunct := parseConjunction_within shorter
      negation := parseNegation_within shorter
      operand := parseOperand_within shorter
      moreOr := parseMoreOr_within shorter
      moreAnd := parseMoreAnd_within shorter
      items := parseItems_within shorter
      moreItems := parseMoreItems_within shorter }

/-- Tokens that make up no rule are refused at the beginning of one of them or at the end of the
text. -/
theorem parseTokens_within (finish : Nat) (ts : List Token) :
    FaultsWithin finish ts (parseTokens finish ts) := by
  rw [parseTokens.eq_def]
  split
  · exact faultsWithin_error List.suffix_rfl rfl
  · refine (reportsWithin finish ts).expression.bind ?_
    rintro ⟨e, rest, fewer⟩ found
    dsimp only
    split
    · exact faultsWithin_ok _
    · exact faultsWithin_error ((readsPhrases finish ts).expression found).suffix rfl

theorem nextPosition_le {finish : Nat} {ts rest : List Token}
    (placed : ∀ t ∈ ts, t.position ≤ finish) (behind : rest <:+ ts) :
    nextPosition finish rest ≤ finish := by
  cases rest with
  | nil => exact Nat.le_refl finish
  | cons t rest => exact placed t (behind.subset List.mem_cons_self)

end GuardedRecords
