import GuardedRecords.Proofs.RuleGrammar

namespace GuardedRecords

/-- How tightly a sign binds what stands before it; none binds a whole expression. -/
def Lexeme.strength : Lexeme → Nat
  | .or => 1
  | .and => 2
  | .comparison _ => 3
  | .openParen => 4
  | _ => 0

/-- Whether the next token, if there is one, binds less tightly than given. -/
def Stops (strength : Nat) (rest : List Token) : Prop :=
  ∀ t ∈ rest.head?, t.lexeme.strength < strength

theorem Stops.mono {low high : Nat} {rest : List Token} (stops : Stops low rest)
    (atMost : low ≤ high) : Stops high rest :=
  fun t first => Nat.lt_of_lt_of_le (stops t first) atMost

theorem stops_nil (strength : Nat) : Stops strength [] := by
  intro t first
  cases first

theorem stops_cons {strength : Nat} {t : Token} {rest : List Token} :
    Stops strength (t :: rest) ↔ t.lexeme.strength < strength := by
  simp [Stops]

/-- What follows a phrase in a sequence is the separator or what follows the sequence, and neither
of them carries the phrase on. -/
theorem Derives.stops {separator : Separator} {es : List Expr} {s rest : List Token}
    (derives : Derives (.more separator es) s)
    (stops : Stops (separator.lexeme.strength + 1) rest) :
    Stops (separator.lexeme.strength + 1) (s ++ rest) := by
  cases derives with
  | noMore => exact stops
  | more one two => exact stops_cons.mpr (Nat.lt_succ_self _)

/-- A run that succeeds with the given result and rest. -/
def Leaves {α : Type} {fits : List Token → Prop}
    (run : Except SyntaxError (α × { rest : List Token // fits rest })) (a : α)
    (rest : List Token) : Prop :=
  ∃ shorter, run = .ok (a, ⟨rest, shorter⟩)

/-- The signs that end a list. -/
def Lexeme.Closes (closing : Lexeme) : Prop := closing = .closeParen ∨ closing = .closeBracket

theorem Lexeme.Closes.stops {closing : Lexeme} (closes : closing.Closes) (p : Nat)
    (rest : List Token) : Stops 1 (⟨closing, p⟩ :: rest) := by
  rw [stops_cons]
  rcases closes with rfl | rfl <;> exact Nat.one_pos

/-- What it means for a phrase to be read off the front of its tokens, whatever follows that does
not carry it on. -/
def Phrase.Accepted (finish : Nat) (ts : List Token) : Phrase → Prop
  | .expression e => ∀ rest, Stops 1 rest → Leaves (parseRuleExpr finish (ts ++ rest)) e rest
  | .conjunct e => ∀ rest, Stops 2 rest → Leaves (parseConjunction finish (ts ++ rest)) e rest
  | .negation e => ∀ rest, Stops 3 rest → Leaves (parseNegation finish (ts ++ rest)) e rest
  | .comparison e => ∀ rest, Stops 3 rest → Leaves (parseComparison finish (ts ++ rest)) e rest
  | .operand e => ∀ rest, Stops 4 rest → Leaves (parseOperand finish (ts ++ rest)) e rest
  | .items es => ∀ closing p rest, closing.Closes →
    Leaves (parseItems finish closing (ts ++ ⟨closing, p⟩ :: rest)) es rest
  | .more .or es => ∀ left rest, Stops 1 rest →
    Leaves (parseMoreOr finish left (ts ++ rest)) (groupLeft .or left es) rest
  | .more .and es => ∀ left rest, Stops 2 rest →
    Leaves (parseMoreAnd finish left (ts ++ rest)) (groupLeft .and left es) rest
  | .more .comma es => ∀ closing p rest, closing.Closes →
    Leaves (parseMoreItems finish closing (ts ++ ⟨closing, p⟩ :: rest)) es rest

section Completeness

variable {finish : Nat} {ts us rest : List Token}

theorem leaves_parseRuleExpr {first e : Expr}
    (one : Leaves (parseConjunction finish ts) first us)
    (two : Leaves (parseMoreOr finish first us) e rest) : Leaves (parseRuleExpr finish ts) e rest := by
  obtain ⟨fewer, firstRun⟩ := one
  obtain ⟨atMost, moreRun⟩ := two
  refine ⟨Nat.lt_of_le_of_lt atMost fewer, ?_⟩
  rw [parseRuleExpr, firstRun, ok_bind]
  dsimp only
  rw [moreRun, ok_bind]

theorem leaves_parseConjunction {first e : Expr}
    (one : Leaves (parseNegation finish ts) first us)
    (two : Leaves (parseMoreAnd finish first us) e rest) :
    Leaves (parseConjunction finish ts) e rest := by
  obtain ⟨fewer, firstRun⟩ := one
  obtain ⟨atMost, moreRun⟩ := two
  refine ⟨Nat.lt_of_le_of_lt atMost fewer, ?_⟩
  rw [parseConjunction, firstRun, ok_bind]
  dsimp only
  rw [moreRun, ok_bind]

theorem leaves_parseMoreOr {left right e : Expr} {p : Nat}
    (one : Leaves (parseConjunction finish ts) right us)
    (two : Leaves (parseMoreOr finish (.binary left .or right) us) e rest) :
    Leaves (parseMoreOr finish left (⟨.or, p⟩ :: ts)) e rest := by
  obtain ⟨fewer, rightRun⟩ := one
  obtain ⟨atMost, moreRun⟩ := two
  refine ⟨by simp only [List.length_cons]; omega, ?_⟩
  rw [parseMoreOr, rightRun, ok_bind]
  dsimp only
  rw [moreRun, ok_bind]

theorem leaves_parseMoreOr_of_stops (left : Expr) (stops : Stops 1 rest) :
    Leaves (parseMoreOr finish left rest) left rest := by
  refine ⟨Nat.le_refl _, ?_⟩
  rw [parseMoreOr.eq_def]
  split
  · exact absurd (stops_cons.mp stops) (by simp [Lexeme.strength])
  · rfl

theorem leaves_parseMoreAnd {left right e : Expr} {p : Nat}
    (one : Leaves (parseNegation finish ts) right us)
    (two : Leaves (parseMoreAnd finish (.binary left .and right) us) e rest) :
    Leaves (parseMoreAnd finish left (⟨.and, p⟩ :: ts)) e rest := by
  obtain ⟨fewer, rightRun⟩ := one
  obtain ⟨atMost, moreRun⟩ := two
  refine ⟨by simp only [List.length_cons]; omega, ?_⟩
  rw [parseMoreAnd, rightRun, ok_bind]
  dsimp only
  rw [moreRun, ok_bind]

theorem leaves_parseMoreAnd_of_stops (left : Expr) (stops : Stops 2 rest) :
    Leaves (parseMoreAnd finish left rest) left rest := by
  refine ⟨Nat.le_refl _, ?_⟩
  rw [parseMoreAnd.eq_def]
  split
  · exact absurd (stops_cons.mp stops) (by simp [Lexeme.strength])
  · rfl

theorem leaves_parseNegation_not {e : Expr} {p : Nat}
    (inner : Leaves (parseNegation finish ts) e rest) :
    Leaves (parseNegation finish (⟨.not, p⟩ :: ts)) (.unary .not e) rest := by
  obtain ⟨fewer, innerRun⟩ := inner
  refine ⟨Nat.lt_succ_of_lt fewer, ?_⟩
  rw [parseNegation, innerRun, ok_bind]

/-- No operand begins with a negation or with a sign that ends a list. -/
theorem parseOperand_unexpected {word : Lexeme} {p : Nat} (sign : word = .not ∨ word.Closes)
    (ts : List Token) :
    parseOperand finish (⟨word, p⟩ :: ts) = .error ⟨.unexpected word.kind, p⟩ := by
  have noLiteral : word.literal? = none := by rcases sign with rfl | rfl | rfl <;> rfl
  rw [parseOperand.eq_def]
  rcases sign with rfl | rfl | rfl <;> simp only [noLiteral]

theorem parseComparison_of_error {error : SyntaxError}
    (failed : parseOperand finish ts = .error error) :
    parseComparison finish ts = .error error := by
  rw [parseComparison, failed, error_bind]

/-- No expression begins with a closing bracket, which is how an empty list is told from one with
items. -/
theorem parseRuleExpr_closing {closing : Lexeme} {p : Nat} (closes : closing.Closes)
    (ts : List Token) :
    parseRuleExpr finish (⟨closing, p⟩ :: ts) = .error ⟨.unexpected closing.kind, p⟩ := by
  rw [parseRuleExpr, parseConjunction, parseNegation,
    parseComparison_of_error (parseOperand_unexpected (.inr closes) ts), error_bind, error_bind]
  rintro _ _ same
  rcases closes with rfl | rfl <;> cases same

/-- A comparison never begins with a negation, so that the parser takes the other way where it does
not see one. -/
theorem leaves_parseNegation {e : Expr} (plain : Leaves (parseComparison finish ts) e rest) :
    Leaves (parseNegation finish ts) e rest := by
  obtain ⟨fewer, run⟩ := plain
  refine ⟨fewer, ?_⟩
  rw [parseNegation.eq_def]
  split
  · rw [parseComparison_of_error (parseOperand_unexpected (.inl rfl) _)] at run
    cases run
  · exact run

theorem leaves_parseComparison_single {e : Expr} (stops : Stops 3 rest)
    (only : Leaves (parseOperand finish ts) e rest) :
    Leaves (parseComparison finish ts) e rest := by
  obtain ⟨fewer, run⟩ := only
  refine ⟨fewer, ?_⟩
  rw [parseComparison, run, ok_bind]
  dsimp only
  split
  · exact absurd (stops_cons.mp stops) (by simp [Lexeme.strength])
  · rfl

theorem leaves_parseComparison {left right : Expr} {sign : Comparison} {p : Nat}
    (one : Leaves (parseOperand finish ts) left (⟨.comparison sign, p⟩ :: us))
    (two : Leaves (parseOperand finish us) right rest) :
    Leaves (parseComparison finish ts) (.binary left (.comparison sign) right) rest := by
  obtain ⟨fewer, leftRun⟩ := one
  obtain ⟨fewerStill, rightRun⟩ := two
  refine ⟨Nat.lt_trans fewerStill (Nat.lt_of_succ_lt fewer), ?_⟩
  rw [parseComparison, leftRun, ok_bind]
  dsimp only
  rw [rightRun, ok_bind]

theorem leaves_parseOperand_literal {word : Lexeme} {value : Value} {p : Nat}
    (literal : LiteralWord word value) :
    Leaves (parseOperand finish (⟨word, p⟩ :: rest)) (.literal value) rest := by
  refine ⟨Nat.lt_succ_self _, ?_⟩
  cases literal <;> simp only [parseOperand, Lexeme.literal?]

theorem leaves_parseOperand_name {path : String} {p : Nat} (stops : Stops 4 rest) :
    Leaves (parseOperand finish (⟨.name path, p⟩ :: rest)) (.path path) rest := by
  refine ⟨Nat.lt_succ_self _, ?_⟩
  rw [parseOperand]
  rintro q inside rfl
  exact absurd (stops_cons.mp stops) (by simp [Lexeme.strength])

theorem leaves_parseOperand_list {es : List Expr} {p : Nat}
    (items : Leaves (parseItems finish .closeBracket ts) es rest) :
    Leaves (parseOperand finish (⟨.openBracket, p⟩ :: ts)) (.list es) rest := by
  obtain ⟨fewer, run⟩ := items
  refine ⟨Nat.lt_succ_of_lt fewer, ?_⟩
  rw [parseOperand, run, ok_bind]

theorem leaves_parseOperand_call {function : String} {es : List Expr} {p q : Nat}
    (items : Leaves (parseItems finish .closeParen ts) es rest) :
    Leaves (parseOperand finish (⟨.name function, p⟩ :: ⟨.openParen, q⟩ :: ts))
      (.call function es) rest := by
  obtain ⟨fewer, run⟩ := items
  refine ⟨Nat.lt_succ_of_lt (Nat.lt_succ_of_lt fewer), ?_⟩
  rw [parseOperand, run, ok_bind]

theorem leaves_parseOperand_group {e : Expr} {p q : Nat}
    (inner : Leaves (parseRuleExpr finish ts) e (⟨.closeParen, q⟩ :: rest)) :
    Leaves (parseOperand finish (⟨.openParen, p⟩ :: ts)) e rest := by
  obtain ⟨fewer, run⟩ := inner
  refine ⟨Nat.lt_succ_of_lt (Nat.lt_of_succ_lt fewer), ?_⟩
  rw [parseOperand, run, ok_bind]

theorem leaves_parseItems_nil {closing : Lexeme} {p : Nat} :
    Leaves (parseItems finish closing (⟨closing, p⟩ :: rest)) [] rest := by
  refine ⟨Nat.lt_succ_self _, ?_⟩
  rw [parseItems, if_pos rfl]

/-- No expression begins with a sign that ends a list. -/
theorem leaves_parseItems {closing : Lexeme} {first : Expr} {others : List Expr}
    (closes : closing.Closes) (one : Leaves (parseRuleExpr finish ts) first us)
    (two : Leaves (parseMoreItems finish closing us) others rest) :
    Leaves (parseItems finish closing ts) (first :: others) rest := by
  obtain ⟨fewer, firstRun⟩ := one
  obtain ⟨fewerStill, moreRun⟩ := two
  refine ⟨Nat.lt_trans fewerStill fewer, ?_⟩
  rw [parseItems.eq_def]
  split
  · next word tail =>
    obtain ⟨word, p⟩ := word
    have goesOn : word ≠ closing := by
      rintro rfl
      rw [parseRuleExpr_closing closes] at firstRun
      cases firstRun
    rw [if_neg goesOn, firstRun, ok_bind]
    dsimp only
    rw [moreRun, ok_bind]
  · cases fewer

theorem leaves_parseMoreItems_nil {closing : Lexeme} {p : Nat} :
    Leaves (parseMoreItems finish closing (⟨closing, p⟩ :: rest)) [] rest := by
  refine ⟨Nat.lt_succ_self _, ?_⟩
  rw [parseMoreItems, if_pos rfl]

theorem leaves_parseMoreItems {closing : Lexeme} {next : Expr} {others : List Expr} {p : Nat}
    (closes : closing.Closes) (one : Leaves (parseRuleExpr finish ts) next us)
    (two : Leaves (parseMoreItems finish closing us) others rest) :
    Leaves (parseMoreItems finish closing (⟨.comma, p⟩ :: ts)) (next :: others) rest := by
  obtain ⟨fewer, nextRun⟩ := one
  obtain ⟨fewerStill, moreRun⟩ := two
  refine ⟨Nat.lt_succ_of_lt (Nat.lt_trans fewerStill fewer), ?_⟩
  have goesOn : Lexeme.comma ≠ closing := by rcases closes with rfl | rfl <;> decide
  rw [parseMoreItems, if_neg goesOn, if_pos rfl, nextRun, ok_bind]
  dsimp only
  rw [moreRun, ok_bind]

end Completeness

/-- Whatever derives from the grammar is read as the tree of its derivation, up to what follows it.
The induction is on the derivation. -/
theorem Derives.accepted (finish : Nat) {phrase : Phrase} {ts : List Token}
    (derives : Derives phrase ts) : phrase.Accepted finish ts := by
  -- What follows a phrase must not carry it on. Each case hands that on to its parts, which bind
  -- more tightly.
  induction derives with
  | expression one two acceptedOne acceptedTwo =>
    intro rest stops
    rw [List.append_assoc]
    have carried := two.stops (stops.mono (Nat.le_succ 1))
    exact leaves_parseRuleExpr (acceptedOne _ carried) (acceptedTwo _ _ stops)
  | conjunct one two acceptedOne acceptedTwo =>
    intro rest stops
    rw [List.append_assoc]
    have carried := two.stops (stops.mono (Nat.le_succ 2))
    exact leaves_parseConjunction (acceptedOne _ carried) (acceptedTwo _ _ stops)
  | not inner accepted =>
    intro rest stops
    exact leaves_parseNegation_not (accepted rest stops)
  | plain comparison accepted =>
    intro rest stops
    exact leaves_parseNegation (accepted rest stops)
  | single operand accepted =>
    intro rest stops
    exact leaves_parseComparison_single stops (accepted rest (stops.mono (Nat.le_succ 3)))
  | compare left right acceptedLeft acceptedRight =>
    intro rest stops
    rw [List.append_assoc]
    exact leaves_parseComparison (acceptedLeft _ (stops_cons.mpr (Nat.lt_succ_self 3)))
      (acceptedRight rest (stops.mono (Nat.le_succ 3)))
  | literal word => exact fun rest _ => leaves_parseOperand_literal word
  | list items accepted =>
    intro rest stops
    rw [List.append_assoc]
    exact leaves_parseOperand_list (accepted _ _ rest (.inr rfl))
  | name => exact fun rest stops => leaves_parseOperand_name stops
  | call items accepted =>
    intro rest stops
    rw [List.append_assoc]
    exact leaves_parseOperand_call (accepted _ _ rest (.inl rfl))
  | group inner accepted =>
    intro rest stops
    rw [List.append_assoc]
    exact leaves_parseOperand_group (accepted _ (stops_cons.mpr Nat.one_pos))
  | noItems => exact fun closing p rest closes => leaves_parseItems_nil
  | items one two acceptedOne acceptedTwo =>
    intro closing p rest closes
    rw [List.append_assoc]
    have carried := two.stops (closes.stops p rest)
    exact leaves_parseItems closes (acceptedOne _ carried) (acceptedTwo _ _ rest closes)
  | @noMore separator =>
    cases separator with
    | or => exact fun left rest stops => leaves_parseMoreOr_of_stops left stops
    | and => exact fun left rest stops => leaves_parseMoreAnd_of_stops left stops
    | comma => exact fun closing p rest closes => leaves_parseMoreItems_nil
  | @more separator next others p s t one two acceptedOne acceptedTwo =>
    cases separator with
    | or =>
      intro left rest stops
      rw [List.append_assoc]
      have carried := two.stops (stops.mono (Nat.le_succ 1))
      exact leaves_parseMoreOr (acceptedOne _ carried) (acceptedTwo _ rest stops)
    | and =>
      intro left rest stops
      rw [List.append_assoc]
      have carried := two.stops (stops.mono (Nat.le_succ 2))
      exact leaves_parseMoreAnd (acceptedOne _ carried) (acceptedTwo _ rest stops)
    | comma =>
      intro closing p rest closes
      rw [List.append_assoc]
      have carried := two.stops (closes.stops p rest)
      exact leaves_parseMoreItems closes (acceptedOne _ carried) (acceptedTwo _ _ rest closes)

/-- The parser accepts exactly what the grammar derives, with the tree that the grammar gives to
it. -/
theorem parseTokens_eq_ok_iff {finish : Nat} {ts : List Token} {e : Expr} :
    parseTokens finish ts = .ok e ↔ Derives (.expression e) ts := by
  constructor
  · intro run
    rw [parseTokens.eq_def] at run
    split at run
    · cases run
    · obtain ⟨⟨whole, rest, shorter⟩, wholeRun, ending⟩ := bind_eq_ok_iff.mp run
      dsimp only at ending
      split at ending
      · cases ending
        obtain ⟨front, same, derives⟩ := (readsPhrases finish ts).expression wholeRun
        rw [List.append_nil] at same
        exact same ▸ derives
      · cases ending
  · intro derives
    have leaves : Leaves (parseRuleExpr finish (ts ++ [])) e [] :=
      derives.accepted finish [] (stops_nil 1)
    rw [List.append_nil] at leaves
    obtain ⟨shorter, run⟩ := leaves
    rw [parseTokens.eq_def]
    split
    · cases shorter
    · rw [run, ok_bind]

/-- A sequence of tokens is read exactly when it derives from the grammar, and as the tree of its
derivation, of which there is only one; every other sequence is refused. -/
theorem parseTokens_follows_grammar (finish : Nat) (ts : List Token) :
    (∀ e, parseTokens finish ts = .ok e ↔ Derives (.expression e) ts) ∧
      (∀ e other, Derives (.expression e) ts → Derives (.expression other) ts → e = other) ∧
      ((¬∃ e, Derives (.expression e) ts) → ∃ error, parseTokens finish ts = .error error) := by
  refine ⟨fun e => parseTokens_eq_ok_iff, ?_, ?_⟩
  · intro e other derives derivesOther
    have run : parseTokens finish ts = .ok e := parseTokens_eq_ok_iff.mpr derives
    rw [parseTokens_eq_ok_iff.mpr derivesOther] at run
    cases run
    rfl
  · intro underivable
    cases run : parseTokens finish ts with
    | error error => exact ⟨error, rfl⟩
    | ok e => exact absurd ⟨e, parseTokens_eq_ok_iff.mp run⟩ underivable

/-- Comparisons do not chain. -/
example : parseTokens 6 [⟨.name "a", 0⟩, ⟨.comparison .lt, 1⟩, ⟨.name "b", 2⟩,
    ⟨.comparison .lt, 3⟩, ⟨.name "c", 4⟩] = .error ⟨.trailing, 3⟩ := by
  cbv

end GuardedRecords
