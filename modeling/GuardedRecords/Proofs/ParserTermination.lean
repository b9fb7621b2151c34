import GuardedRecords.Proofs.ParserProgress

namespace GuardedRecords

open IndexReader

/-- What the functions that read by index do on the tokens that are left, with fuel for all of these.
For each token there is enough for all functions that may call one another before it is taken. -/
structure ReadsAlike (finish : Nat) (ts us : List Token) : Prop where
  expression {start : Nat} (left : LeftAt ts start us) :
    Follows ts (8 * us.length + 6) (logical finish ts 0) start (parseRuleExpr finish us)
  conjunct {start : Nat} (left : LeftAt ts start us) :
    Follows ts (8 * us.length + 5) (logical finish ts 1) start (parseConjunction finish us)
  lastLevel {start : Nat} (left : LeftAt ts start us) :
    Follows ts (8 * us.length + 4) (logical finish ts 2) start (parseNegation finish us)
  negation {start : Nat} (left : LeftAt ts start us) :
    Follows ts (8 * us.length + 3) (negation finish ts) start (parseNegation finish us)
  operand {start : Nat} (left : LeftAt ts start us) :
    Follows ts (8 * us.length + 1) (operand finish ts) start (parseOperand finish us)
  moreOr {start : Nat} (left : LeftAt ts start us) (e : Expr) :
    Follows ts (8 * us.length + 1) (moreLogical finish ts 0 .or .or e) start (parseMoreOr finish e us)
  moreAnd {start : Nat} (left : LeftAt ts start us) (e : Expr) :
    Follows ts (8 * us.length + 1) (moreLogical finish ts 1 .and .and e) start (parseMoreAnd finish e us)
  items {start : Nat} (left : LeftAt ts start us) (closing : Lexeme)
    (single : closing.kind.lexeme? = some closing) :
    Follows ts (8 * us.length + 8) (items finish ts closing.kind) start (parseItems finish closing us)
  moreItems {start : Nat} (left : LeftAt ts start us) (closing : Lexeme)
    (single : closing.kind.lexeme? = some closing) (es : List Expr) (some : es ≠ []) :
    Follows ts (8 * us.length + 1) (moreItems finish ts closing.kind es) start
      (parseMoreItems finish closing us >>= fun r => .ok (es ++ r.1, r.2))

section Routines

variable {finish start : Nat} {ts us : List Token}

/-- The loop of a logical level, for a parser of lists that joins its operands in the same way. Each turn
takes the word and the operand behind it. -/
theorem moreLogical_follows {level : Nat} {word : Lexeme} {sign : Connective}
    {next : (vs : List Token) → Except SyntaxError (Expr × After vs)}
    {more : Expr → (vs : List Token) → Except SyntaxError (Expr × From vs)}
    (single : word.kind.lexeme? = some word)
    (stops : ∀ e vs, (∀ p rest, vs = ⟨word, p⟩ :: rest → False) → more e vs = .ok (e, ⟨vs, Nat.le_refl _⟩))
    (goesOn : ∀ e p vs, more e (⟨word, p⟩ :: vs) =
      (next vs >>= fun r => .ok (.binary e sign r.1,
        (⟨r.2.1, Nat.lt_succ_of_lt r.2.2⟩ : After (⟨word, p⟩ :: vs)))) >>= fun w =>
      more w.1 w.2.1 >>= fun r => .ok (r.1, ⟨r.2.1, Nat.le_trans r.2.2 (Nat.le_of_lt w.2.2)⟩))
    (left : LeftAt ts start us)
    (operand : ∀ vs index, vs.length < us.length → LeftAt ts index vs →
      Follows ts (8 * vs.length + 5) (logical finish ts (level + 1)) index (next vs))
    (loop : ∀ e vs index, vs.length < us.length → LeftAt ts index vs →
      Follows ts (8 * vs.length + 1) (moreLogical finish ts level word.kind sign e) index (more e vs))
    (e : Expr) :
    Follows ts (8 * us.length + 1) (moreLogical finish ts level word.kind sign e) start (more e us) := by
  refine .spend (moreLogical.eq_2 finish ts level word.kind sign e) (.after_look left ?_)
  by_cases next : entryKind us.head? = word.kind
  · obtain ⟨p, tail, rfl⟩ := exists_of_entryKind word single next
    simp only [next, if_true]
    rw [goesOn]
    have right := (operand tail (start + 1) (Nat.lt_succ_self _) left.tail).mono
      (show 8 * tail.length + 5 ≤ 8 * (tail.length + 1) by omega)
    refine .bind (.turn left (.after_advance left (right.bind ?_))) ?_
    · exact fun e rest fewer index behind => follows_pure behind _
    · intro whole rest fewer index behind
      have others := (loop whole rest index fewer behind).widen fun _ atMost =>
        Nat.le_trans atMost (Nat.le_of_lt fewer)
      exact others.mono (by omega)
  · simp only [next, if_false]
    rw [stops e us (by rintro p rest rfl; exact next rfl)]
    exact follows_pure left _

/-- The loop over `or` does the same by index as on the list. Each turn takes a token, so what comes
after it is about a shorter list. -/
theorem moreOr_follows (left : LeftAt ts start us)
    (shorter : ∀ vs, vs.length < us.length → ReadsAlike finish ts vs) (e : Expr) :
    Follows ts (8 * us.length + 1) (moreLogical finish ts 0 .or .or e) start (parseMoreOr finish e us) := by
  refine moreLogical_follows rfl (parseMoreOr.eq_2 finish) ?_ left
    (fun vs index fewer behind => (shorter vs fewer).conjunct behind)
    (fun e vs index fewer behind => (shorter vs fewer).moreOr behind e) e
  intro e p vs
  rw [parseMoreOr]
  cases parseConjunction finish vs <;> rfl

theorem moreAnd_follows (left : LeftAt ts start us)
    (shorter : ∀ vs, vs.length < us.length → ReadsAlike finish ts vs) (e : Expr) :
    Follows ts (8 * us.length + 1) (moreLogical finish ts 1 .and .and e) start (parseMoreAnd finish e us) := by
  refine moreLogical_follows rfl (parseMoreAnd.eq_2 finish) ?_ left
    (fun vs index fewer behind => ((shorter vs fewer).lastLevel behind).mono (Nat.le_succ _))
    (fun e vs index fewer behind => (shorter vs fewer).moreAnd behind e) e
  intro e p vs
  rw [parseMoreAnd]
  cases parseNegation finish vs <;> rfl

/-- Any number of negations before a comparison. Each takes a token, and without one the comparison
follows on the same tokens. -/
theorem negation_follows (left : LeftAt ts start us)
    (shorter : ∀ vs, vs.length < us.length → ReadsAlike finish ts vs)
    (plain : Follows ts (8 * us.length + 2) (comparison finish ts) start (parseComparison finish us)) :
    Follows ts (8 * us.length + 3) (negation finish ts) start (parseNegation finish us) := by
  refine .call left (negation.eq_2 finish ts) (.after_look left ?_)
  by_cases next : entryKind us.head? = .not
  · obtain ⟨p, operand, rfl⟩ := exists_of_entryKind .not rfl next
    simp only [next, if_true]
    rw [parseNegation]
    refine .after_advance left ?_
    have inner := (shorter operand (by simp)).negation left.tail
    refine (inner.mono (by simp only [List.length_cons]; omega)).bind fun e rest fewer index behind => ?_
    exact follows_pure behind _
  · simp only [next, if_false]
    rw [parseNegation.eq_2 finish us (by rintro p operand rfl; exact next rfl)]
    exact plain

/-- A logical level is its first operand and the loop behind it. The levels differ in their word and
in what stands on both sides of it. -/
theorem logical_follows {n level : Nat} {word : TokenKind} {sign : Connective}
    {first : Except SyntaxError (Expr × After us)} {more : Expr → (vs : List Token) → Except SyntaxError (Expr × From vs)}
    (left : LeftAt ts start us) (known : logicalLevels[level]? = some (word, sign))
    (operand : Follows ts n (logical finish ts (level + 1)) start first)
    (loop : ∀ e vs index, vs.length < us.length → LeftAt ts index vs →
      Follows ts n (moreLogical finish ts level word sign e) index (more e vs)) :
    Follows ts (n + 1) (logical finish ts level) start (first >>= fun r => more r.1 r.2.1 >>= fun w =>
      .ok (w.1, (⟨w.2.1, Nat.lt_of_le_of_lt w.2.2 r.2.2⟩ : After us))) := by
  refine .call left (logical.eq_2 finish ts level) ?_
  simp only [known]
  refine operand.bind fun e rest fewer index behind => ?_
  exact (loop e rest index fewer behind).widen fun _ atMost => Nat.lt_of_le_of_lt atMost fewer

/-- One operand and at most one comparison. The second operand is behind a token that was taken. -/
theorem comparison_follows (left : LeftAt ts start us)
    (shorter : ∀ vs, vs.length < us.length → ReadsAlike finish ts vs)
    (first : Follows ts (8 * us.length + 1) (operand finish ts) start (parseOperand finish us)) :
    Follows ts (8 * us.length + 2) (comparison finish ts) start (parseComparison finish us) := by
  refine .call left (comparison.eq_2 finish ts) ?_
  rw [parseComparison]
  refine first.bind fun e rest fewer index behind => .after_look behind ?_
  dsimp only
  split
  · next c next =>
    obtain ⟨p, operand, rfl⟩ := exists_of_entryKind (.comparison c) rfl next
    refine .after_advance behind ?_
    have second := (shorter operand (Nat.lt_of_succ_lt fewer)).operand behind.tail
    have enough : 8 * operand.length + 1 ≤ 8 * us.length + 1 := by
      rw [List.length_cons] at fewer
      omega
    exact (second.mono enough).bind fun right last fewest index behind => follows_pure behind _
  · next other =>
    split
    · exact absurd rfl (other _)
    · exact follows_pure behind _

/-- All kinds of operands. Those that have expressions within them are in brackets, of which the
first one is taken before the expressions are read. -/
theorem operand_follows (left : LeftAt ts start us)
    (shorter : ∀ vs, vs.length < us.length → ReadsAlike finish ts vs) :
    Follows ts (8 * us.length + 1) (operand finish ts) start (parseOperand finish us) := by
  refine .call left (operand.eq_2 finish ts) (.after_look left ?_)
  split
  · -- an expression in parentheses
    next p first =>
    obtain ⟨inside, rfl⟩ := List.head?_eq_some_iff.mp first
    rw [parseOperand.eq_1]
    refine .after_advance left ?_
    have inner := (shorter inside (by simp)).expression left.tail
    refine (inner.mono (by simp only [List.length_cons]; omega)).bind fun e rest fewer index behind => ?_
    dsimp only
    split
    · next q rest fewer => exact .after_expect behind (follows_pure behind.tail _)
    · next other =>
      refine follows_expect_of_ne behind fun next => ?_
      rw [← entryKind_head?] at next
      obtain ⟨q, tail, rfl⟩ := exists_of_entryKind .closeParen rfl next
      exact other q tail fewer rfl HEq.rfl
  · -- a list
    next p first =>
    obtain ⟨inside, rfl⟩ := List.head?_eq_some_iff.mp first
    rw [parseOperand.eq_2]
    refine .after_advance left ?_
    have inner := (shorter inside (by simp)).items left.tail .closeBracket rfl
    exact inner.bind fun es rest fewer index behind => follows_pure behind _
  · -- a name, with or without arguments
    next name p first =>
    obtain ⟨tail, rfl⟩ := List.head?_eq_some_iff.mp first
    refine .after_advance left (.after_look left.tail ?_)
    by_cases next : entryKind tail.head? = .openParen
    · obtain ⟨q, inside, rfl⟩ := exists_of_entryKind .openParen rfl next
      simp only [next, if_true]
      rw [parseOperand.eq_3]
      refine .after_advance left.tail ?_
      have inner := (shorter inside (by simp only [List.length_cons]; omega)).items left.tail.tail .closeParen rfl
      refine (inner.mono (by simp only [List.length_cons]; omega)).bind ?_
      exact fun es rest fewer index behind => follows_pure behind _
    · simp only [next, if_false]
      rw [parseOperand.eq_4 finish name p tail (by rintro q inside rfl; exact next rfl)]
      exact follows_pure left.tail _
  · -- a literal, or nothing that begins an operand
    next noParen noBracket noName =>
    cases us with
    | nil =>
      rw [parseOperand.eq_6]
      exact follows_fail left (.unexpected .finish)
    | cons t rest =>
      obtain ⟨lexeme, p⟩ := t
      rw [parseOperand.eq_5 finish lexeme p rest (by rintro rfl; exact noParen p rfl)
        (by rintro rfl; exact noBracket p rfl) (by rintro name q inside - rfl; exact noName name p rfl)
        (by rintro name rfl; exact noName name p rfl)]
      rw [List.head?_cons, Option.bind_some]
      cases lexeme.literal? with
      | some value => exact .after_advance left (follows_pure left.tail _)
      | none => exact follows_fail left (.unexpected lexeme.kind)

/-- A turn of the loop over items takes the comma and the item behind it. -/
theorem itemTurn_follows {rest : List Token} {n p : Nat} (closing : TokenKind)
    {run : Except SyntaxError (Expr × After rest)} (left : LeftAt ts start (⟨.comma, p⟩ :: rest))
    (item : Follows ts n (logical finish ts 0) (start + 1) run) :
    Follows ts n (fun fuel => noted (.turn (.items closing)) (do
        expect finish ts .comma
        logical finish ts 0 fuel)) start
      (run >>= fun r => .ok (r.1, (⟨r.2.1, Nat.lt_succ_of_lt r.2.2⟩ : After (⟨.comma, p⟩ :: rest)))) :=
  .turn left (.after_expect left (item.widen fun _ fewer => Nat.lt_succ_of_lt fewer))

theorem parseMoreItems_turn {closing : Lexeme} (apart : Lexeme.comma ≠ closing) (finish : Nat) (es : List Expr)
    (p : Nat) (rest : List Token) :
    (parseMoreItems finish closing (⟨.comma, p⟩ :: rest) >>= fun r => .ok (es ++ r.1, r.2)) =
      (parseRuleExpr finish rest >>= fun r => .ok (r.1,
        (⟨r.2.1, Nat.lt_succ_of_lt r.2.2⟩ : After (⟨.comma, p⟩ :: rest)))) >>= fun w =>
      (parseMoreItems finish closing w.2.1 >>= fun r => .ok (es ++ [w.1] ++ r.1, r.2)) >>= fun r =>
      .ok (r.1, ⟨r.2.1, Nat.lt_trans r.2.2 w.2.2⟩) := by
  rw [parseMoreItems.eq_1, if_neg apart, if_pos rfl]
  cases parseRuleExpr finish rest with
  | error fault => rfl
  | ok one =>
    obtain ⟨e, more, fewer⟩ := one
    simp only [ok_bind, List.append_assoc, List.singleton_append]
    cases parseMoreItems finish closing more <;> rfl

/-- Behind an item only a comma and the closing bracket can stand, and anything else is reported as
a missing comma. -/
theorem parseMoreItems_eq_error {closing : Lexeme} (finish : Nat) (apart : nextKind us ≠ closing.kind)
    (other : nextKind us ≠ .comma) : parseMoreItems finish closing us =
      .error ⟨.expected .comma (nextKind us), nextPosition finish us⟩ := by
  cases us with
  | nil => exact parseMoreItems.eq_2 finish closing
  | cons t rest =>
    have notClosing : t.lexeme ≠ closing := fun same => apart (congrArg Lexeme.kind same)
    have notComma : t.lexeme ≠ .comma := fun same => other (congrArg Lexeme.kind same)
    rw [parseMoreItems.eq_1, if_neg notClosing, if_neg notComma]
    rfl

/-- The loop over further items up to the closing bracket. There is one item at least before it, as
what was read so far shows. -/
theorem moreItems_follows (left : LeftAt ts start us)
    (shorter : ∀ vs, vs.length < us.length → ReadsAlike finish ts vs) (closing : Lexeme)
    (single : closing.kind.lexeme? = some closing) (es : List Expr) (some : es ≠ []) :
    Follows ts (8 * us.length + 1) (moreItems finish ts closing.kind es) start
      (parseMoreItems finish closing us >>= fun r => .ok (es ++ r.1, r.2)) := by
  refine .spend (moreItems.eq_2 finish ts closing.kind es) (.after_look left ?_)
  by_cases next : entryKind us.head? = closing.kind
  · obtain ⟨p, rest, rfl⟩ := exists_of_entryKind closing single next
    simp only [next, if_true]
    rw [parseMoreItems.eq_1, if_pos rfl, ok_bind, List.append_nil]
    exact .after_expect left (follows_pure left.tail _)
  · have begun : es.isEmpty = false := by simpa using some
    simp only [next, if_false, begun, Bool.false_eq_true]
    by_cases comma : nextKind us = .comma
    · obtain ⟨p, rest, rfl⟩ := exists_of_entryKind .comma rfl ((entryKind_head? us).trans comma)
      rw [parseMoreItems_turn (by rintro rfl; exact next rfl)]
      have turn := itemTurn_follows closing.kind left ((shorter rest (by simp)).expression left.tail)
      refine (turn.mono (by simp only [List.length_cons]; omega)).bind fun e more fewer index behind => ?_
      have others := (shorter more fewer).moreItems behind closing single (es ++ [e]) (by simp)
      exact (others.widen fun _ fewest => Nat.lt_trans fewest fewer).mono (by omega)
    · rw [entryKind_head?] at next
      rw [parseMoreItems_eq_error finish next comma, error_bind]
      exact .stop (.turn left (follows_expect_of_ne left comma))

theorem parseRuleExpr_nil (finish : Nat) :
    parseRuleExpr finish [] = .error ⟨.unexpected .finish, finish⟩ := by
  rw [parseRuleExpr, parseConjunction, parseNegation.eq_2 finish [] (by intro _ _ same; cases same),
    parseComparison, parseOperand.eq_6]
  rfl

theorem parseItems_turn {closing : Lexeme} (finish : Nat) (apart : nextKind us ≠ closing.kind) :
    parseItems finish closing us = parseRuleExpr finish us >>= fun w =>
      (parseMoreItems finish closing w.2.1 >>= fun r => .ok ([w.1] ++ r.1, r.2)) >>= fun r =>
      .ok (r.1, ⟨r.2.1, Nat.lt_trans r.2.2 w.2.2⟩) := by
  cases us with
  | nil =>
    rw [parseItems.eq_2, parseRuleExpr_nil]
    rfl
  | cons t rest =>
    have other : t.lexeme ≠ closing := fun same => apart (congrArg Lexeme.kind same)
    rw [parseItems.eq_1, if_neg other]
    cases parseRuleExpr finish (t :: rest) with
    | error fault => rfl
    | ok one =>
      obtain ⟨e, more, fewer⟩ := one
      simp only [ok_bind]
      cases parseMoreItems finish closing more <;> rfl

/-- The items within brackets: none if they are closed at once, and otherwise one expression and the
loop over the others. -/
theorem items_follows (left : LeftAt ts start us)
    (shorter : ∀ vs, vs.length < us.length → ReadsAlike finish ts vs) (closing : Lexeme)
    (single : closing.kind.lexeme? = some closing)
    (first : Follows ts (8 * us.length + 6) (logical finish ts 0) start (parseRuleExpr finish us)) :
    Follows ts (8 * us.length + 8) (items finish ts closing.kind) start (parseItems finish closing us) := by
  refine .call left (items.eq_2 finish ts closing.kind) ?_
  refine .spend (moreItems.eq_2 finish ts closing.kind []) (.after_look left ?_)
  by_cases next : entryKind us.head? = closing.kind
  · obtain ⟨p, rest, rfl⟩ := exists_of_entryKind closing single next
    simp only [next, if_true]
    rw [parseItems.eq_1, if_pos rfl]
    exact .after_expect left (follows_pure left.tail _)
  · simp only [next, if_false, List.isEmpty_nil, if_true]
    rw [entryKind_head?] at next
    rw [parseItems_turn finish next]
    refine (first.turn left).bind fun e more fewer index behind => ?_
    have others := (shorter more fewer).moreItems behind closing single [e] (List.cons_ne_nil e [])
    exact (others.widen fun _ fewest => Nat.lt_trans fewest fewer).mono (by omega)

theorem conjunct_follows (left : LeftAt ts start us)
    (shorter : ∀ vs, vs.length < us.length → ReadsAlike finish ts vs)
    (lastLevel : Follows ts (8 * us.length + 4) (logical finish ts 2) start (parseNegation finish us)) :
    Follows ts (8 * us.length + 5) (logical finish ts 1) start (parseConjunction finish us) := by
  rw [parseConjunction]
  refine logical_follows left rfl lastLevel fun e vs index fewer behind => ?_
  exact ((shorter vs fewer).moreAnd behind e).mono (by omega)

/-- The first level of binding: a first conjunct and the loop over `or`. With this the round of
functions is closed. -/
theorem expression_follows (left : LeftAt ts start us)
    (shorter : ∀ vs, vs.length < us.length → ReadsAlike finish ts vs)
    (conjunct : Follows ts (8 * us.length + 5) (logical finish ts 1) start (parseConjunction finish us)) :
    Follows ts (8 * us.length + 6) (logical finish ts 0) start (parseRuleExpr finish us) := by
  rw [parseRuleExpr]
  refine logical_follows left rfl conjunct fun e vs index fewer behind => ?_
  exact ((shorter vs fewer).moreOr behind e).mono (by omega)

end Routines

/-- By induction on the number of the tokens that are left; within one step from the innermost function
to the outermost one, none of which takes a token before it calls the next. -/
theorem readsAlike (finish : Nat) (ts us : List Token) : ReadsAlike finish ts us := by
  induction us using (measure List.length).wf.induction with
  | _ us shorter =>
    have comparison {start : Nat} (left : LeftAt ts start us) :=
      comparison_follows left shorter (operand_follows left shorter)
    have negation {start : Nat} (left : LeftAt ts start us) :=
      negation_follows left shorter (comparison left)
    have lastLevel {start : Nat} (left : LeftAt ts start us) :
        Follows ts (8 * us.length + 4) (logical finish ts 2) start (parseNegation finish us) :=
      .call left (logical.eq_2 finish ts 2) (negation left)
    have conjunct {start : Nat} (left : LeftAt ts start us) :=
      conjunct_follows left shorter (lastLevel left)
    have expression {start : Nat} (left : LeftAt ts start us) :=
      expression_follows left shorter (conjunct left)
    exact {
      expression
      conjunct
      lastLevel
      negation
      operand := fun left => operand_follows left shorter
      moreOr := fun left => moreOr_follows left shorter
      moreAnd := fun left => moreAnd_follows left shorter
      items := fun left closing single => items_follows left shorter closing single (expression left)
      moreItems := fun left => moreItems_follows left shorter }

section Rules

variable {finish : Nat} {ts : List Token}

theorem entryKind_some_ne (t : Token) : entryKind (some t) ≠ .finish := by
  obtain ⟨lexeme, p⟩ := t
  cases lexeme <;> exact nofun

theorem parseTokens_cons (finish : Nat) (t : Token) (ts : List Token) :
    (parseTokens finish (t :: ts)).map (fun e => (e, (⟨[], rfl⟩ : { rest : List Token // rest = [] }))) =
      parseRuleExpr finish (t :: ts) >>= fun r =>
        match r.2.1 with
        | [] => .ok (r.1, ⟨[], rfl⟩)
        | u :: _ => .error ⟨.trailing, u.position⟩ := by
  rw [parseTokens.eq_2 finish (t :: ts) (List.cons_ne_nil t ts)]
  cases parseRuleExpr finish (t :: ts) with
  | error fault => rfl
  | ok found =>
    obtain ⟨e, rest, fewer⟩ := found
    cases rest <;> rfl

/-- A whole rule, read by index from its first token, does what the reading of the list does, and it
needs fuel in proportion to the number of tokens only. -/
theorem rule_follows (finish : Nat) (ts : List Token) : Follows ts (8 * ts.length + 6) (rule finish ts) 0
    ((parseTokens finish ts).map fun e => (e, (⟨[], rfl⟩ : { rest : List Token // rest = [] }))) := by
  have left : LeftAt ts 0 ts := ⟨[], rfl, rfl⟩
  refine .after_look left ?_
  cases ts with
  | nil => exact follows_fail left .emptyRule
  | cons t ts =>
    rw [parseTokens_cons]
    simp only [List.head?_cons, entryKind_some_ne, if_false]
    refine ((readsAlike finish _ _).expression left).bind fun e rest fewer index behind => .after_look behind ?_
    cases rest with
    | nil =>
      have ended : entryKind (List.head? []) = .finish := rfl
      simp only [ended, if_true]
      exact follows_pure (p := fun rest => rest = []) behind rfl
    | cons u rest =>
      simp only [List.head?_cons, entryKind_some_ne, if_false]
      exact follows_fail behind .trailing

end Rules

/-- Reading a rule comes to an end, whatever the tokens are. With any fuel from some amount on, which
grows with the number of the tokens, the same is seen of it: no token is looked at and the index is
not moved beyond the end of the rule, each call and each turn of a loop takes a token or finds a fault,
and what comes out is what the parser of lists finds, with all tokens taken if it is a tree. -/
theorem IndexReader.rule_stays_within (finish : Nat) (ts : List Token) :
    ∃ events result,
      (∀ fuel, 8 * ts.length + 6 ≤ fuel → IndexReader.rule finish ts fuel 0 = (events, result)) ∧
      (∀ event ∈ events, event.Within ts.length) ∧
      result = ((parseTokens finish ts).map fun e => (e, ts.length)).mapError Halt.fault := by
  obtain ⟨events, result, run, within, same⟩ := rule_follows finish ts
  refine ⟨events, result, run, within, ?_⟩
  cases parsed : parseTokens finish ts with
  | error fault =>
    rw [parsed] at same
    cases same
    rfl
  | ok e =>
    rw [parsed] at same
    cases same with
    | @ok _ index _ _ left =>
      have whole := left.length
      rw [List.length_nil, Nat.add_zero] at whole
      rw [whole]
      rfl

/-- A list that nothing closes is refused at the end of the text. -/
example : (IndexReader.rule 2 [⟨.openBracket, 0⟩, ⟨.name "a", 1⟩] 22 0).2.map Prod.snd =
    .error (.fault ⟨.expected .comma .finish, 2⟩) := by
  rfl

end GuardedRecords
