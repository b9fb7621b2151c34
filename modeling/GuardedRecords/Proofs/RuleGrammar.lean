import GuardedRecords.Proofs.Outcomes
import GuardedRecords.Rule.Parser

namespace GuardedRecords

/-- What stands between the phrases of a sequence. -/
inductive Separator
  | or | and | comma
  deriving DecidableEq

def Separator.lexeme : Separator → Lexeme
  | .or => .or
  | .and => .and
  | .comma => .comma

/-- The phrases of a rule with the trees that they stand for. `more` is what may follow the first
phrase of a sequence: any number of further ones, each behind the separator. -/
inductive Phrase
  | expression (e : Expr)
  | conjunct (e : Expr)
  | negation (e : Expr)
  | comparison (e : Expr)
  | operand (e : Expr)
  | items (es : List Expr)
  | more (separator : Separator) (es : List Expr)

/-- The phrases that a separator stands between. -/
def Separator.phrase : Separator → Expr → Phrase
  | .or => .conjunct
  | .and => .negation
  | .comma => .expression

/-- A tree with further ones joined to it, grouped from the left. -/
def groupLeft (op : Connective) (first : Expr) (others : List Expr) : Expr :=
  others.foldl (fun left right => .binary left op right) first

/-- The words that are values. -/
inductive LiteralWord : Lexeme → Value → Prop
  | integer (n : Nat) : LiteralWord (.integer n) (.int n)
  | decimal (x : Binary64) : LiteralWord (.decimal x) (.double x)
  | text (s : String) : LiteralWord (.text s) (.text s)
  | truth (b : Bool) : LiteralWord (.truth b) (.bool b)
  | null : LiteralWord .null .null

/-- The grammar of rules, loosest binding first:

    expression := conjunct ("or" conjunct)*
    conjunct   := negation ("and" negation)*
    negation   := "not" negation | comparison
    comparison := operand (sign operand)?
    operand    := literal | "[" items "]" | name | name "(" items ")" | "(" expression ")"
    items      := (expression ("," expression)*)?

Where a token stands does not matter. -/
inductive Derives : Phrase → List Token → Prop
  | expression {first : Expr} {others : List Expr} {s t : List Token} :
      Derives (.conjunct first) s → Derives (.more .or others) t →
      Derives (.expression (groupLeft .or first others)) (s ++ t)
  | conjunct {first : Expr} {others : List Expr} {s t : List Token} :
      Derives (.negation first) s → Derives (.more .and others) t →
      Derives (.conjunct (groupLeft .and first others)) (s ++ t)
  | not {e : Expr} {p : Nat} {s : List Token} :
      Derives (.negation e) s → Derives (.negation (.unary .not e)) (⟨.not, p⟩ :: s)
  | plain {e : Expr} {s : List Token} : Derives (.comparison e) s → Derives (.negation e) s
  | single {e : Expr} {s : List Token} : Derives (.operand e) s → Derives (.comparison e) s
  | compare {left right : Expr} {sign : Comparison} {p : Nat} {s t : List Token} :
      Derives (.operand left) s → Derives (.operand right) t →
      Derives (.comparison (.binary left (.comparison sign) right))
        (s ++ ⟨.comparison sign, p⟩ :: t)
  | literal {word : Lexeme} {value : Value} {p : Nat} :
      LiteralWord word value → Derives (.operand (.literal value)) [⟨word, p⟩]
  | list {es : List Expr} {p q : Nat} {s : List Token} : Derives (.items es) s →
      Derives (.operand (.list es)) (⟨.openBracket, p⟩ :: s ++ [⟨.closeBracket, q⟩])
  | name {path : String} {p : Nat} : Derives (.operand (.path path)) [⟨.name path, p⟩]
  | call {function : String} {es : List Expr} {p q r : Nat} {s : List Token} :
      Derives (.items es) s →
      Derives (.operand (.call function es))
        (⟨.name function, p⟩ :: ⟨.openParen, q⟩ :: s ++ [⟨.closeParen, r⟩])
  | group {e : Expr} {p q : Nat} {s : List Token} : Derives (.expression e) s →
      Derives (.operand e) (⟨.openParen, p⟩ :: s ++ [⟨.closeParen, q⟩])
  | noItems : Derives (.items []) []
  | items {first : Expr} {others : List Expr} {s t : List Token} :
      Derives (.expression first) s → Derives (.more .comma others) t →
      Derives (.items (first :: others)) (s ++ t)
  | noMore {separator : Separator} : Derives (.more separator []) []
  | more {separator : Separator} {next : Expr} {others : List Expr} {p : Nat}
      {s t : List Token} :
      Derives (separator.phrase next) s → Derives (.more separator others) t →
      Derives (.more separator (next :: others)) (⟨separator.lexeme, p⟩ :: s ++ t)

/-- A phrase at the front of some tokens, up to the rest of them. -/
def Phrase.Before (phrase : Phrase) (ts rest : List Token) : Prop :=
  ∃ front, ts = front ++ rest ∧ Derives phrase front

theorem Phrase.Before.followed {first second whole : Phrase} {ts us rest : List Token}
    (one : first.Before ts us) (two : second.Before us rest)
    (joined : ∀ {s t}, Derives first s → Derives second t → Derives whole (s ++ t)) :
    whole.Before ts rest := by
  obtain ⟨s, rfl, derivesOne⟩ := one
  obtain ⟨t, rfl, derivesTwo⟩ := two
  exact ⟨s ++ t, (List.append_assoc ..).symm, joined derivesOne derivesTwo⟩

/-- A phrase between opening tokens and a closing one makes another phrase, if the grammar has it
so. -/
theorem Phrase.Before.enclosed {inner whole : Phrase} {closing : Token} {ts rest : List Token}
    (opening : List Token) (inside : inner.Before ts (closing :: rest))
    (closed : ∀ {s}, Derives inner s → Derives whole (opening ++ s ++ [closing])) :
    whole.Before (opening ++ ts) rest := by
  obtain ⟨s, rfl, derives⟩ := inside
  exact ⟨opening ++ s ++ [closing], by simp, closed derives⟩

theorem Phrase.Before.wider {inner whole : Phrase} {ts rest : List Token}
    (found : inner.Before ts rest) (wider : ∀ {s}, Derives inner s → Derives whole s) :
    whole.Before ts rest := by
  obtain ⟨s, same, derives⟩ := found
  exact ⟨s, same, wider derives⟩

theorem Phrase.Before.behind (separator : Separator) {next : Expr} {others : List Expr} {p : Nat}
    {ts us rest : List Token} (one : (separator.phrase next).Before ts us)
    (two : (Phrase.more separator others).Before us rest) :
    (Phrase.more separator (next :: others)).Before (⟨separator.lexeme, p⟩ :: ts) rest := by
  obtain ⟨s, rfl, derivesOne⟩ := one
  obtain ⟨t, rfl, derivesTwo⟩ := two
  exact ⟨⟨separator.lexeme, p⟩ :: s ++ t, by simp, .more derivesOne derivesTwo⟩

theorem Phrase.Before.compared {left right : Expr} {sign : Comparison} {p : Nat}
    {ts us rest : List Token}
    (one : (Phrase.operand left).Before ts (⟨.comparison sign, p⟩ :: us))
    (two : (Phrase.operand right).Before us rest) :
    (Phrase.comparison (.binary left (.comparison sign) right)).Before ts rest := by
  obtain ⟨s, rfl, derivesOne⟩ := one
  obtain ⟨t, rfl, derivesTwo⟩ := two
  exact ⟨s ++ ⟨.comparison sign, p⟩ :: t, by simp, .compare derivesOne derivesTwo⟩

theorem Lexeme.literalWord_of_literal? {word : Lexeme} {value : Value}
    (found : word.literal? = some value) : LiteralWord word value := by
  cases word <;> simp only [Lexeme.literal?, Option.some.injEq, reduceCtorEq] at found
  all_goals subst found; constructor

/-- What each function reads off the front of the tokens is a phrase of its kind. -/
structure ReadsPhrases (finish : Nat) (ts : List Token) : Prop where
  expression {e : Expr} {rest : After ts} : parseRuleExpr finish ts = .ok (e, rest) →
    (Phrase.expression e).Before ts rest
  conjunct {e : Expr} {rest : After ts} : parseConjunction finish ts = .ok (e, rest) →
    (Phrase.conjunct e).Before ts rest
  negation {e : Expr} {rest : After ts} : parseNegation finish ts = .ok (e, rest) →
    (Phrase.negation e).Before ts rest
  operand {e : Expr} {rest : After ts} : parseOperand finish ts = .ok (e, rest) →
    (Phrase.operand e).Before ts rest
  moreOr {left e : Expr} {rest : From ts} : parseMoreOr finish left ts = .ok (e, rest) →
    ∃ others, e = groupLeft .or left others ∧ (Phrase.more .or others).Before ts rest
  moreAnd {left e : Expr} {rest : From ts} : parseMoreAnd finish left ts = .ok (e, rest) →
    ∃ others, e = groupLeft .and left others ∧ (Phrase.more .and others).Before ts rest
  items {closing : Lexeme} {es : List Expr} {rest : After ts} :
    parseItems finish closing ts = .ok (es, rest) →
    ∃ p, (Phrase.items es).Before ts (⟨closing, p⟩ :: rest)
  moreItems {closing : Lexeme} {es : List Expr} {rest : After ts} :
    parseMoreItems finish closing ts = .ok (es, rest) →
    ∃ p, (Phrase.more .comma es).Before ts (⟨closing, p⟩ :: rest)

section Soundness

variable {finish : Nat} {ts : List Token}

/-- What the loop over `or` reads is a sequence of conjuncts, each behind the word, and the tree is
grouped from the left. -/
theorem parseMoreOr_before (shorter : ∀ us, us.length < ts.length → ReadsPhrases finish us)
    {left e : Expr} {rest : From ts} (run : parseMoreOr finish left ts = .ok (e, rest)) :
    ∃ others, e = groupLeft .or left others ∧ (Phrase.more .or others).Before ts rest := by
  rw [parseMoreOr.eq_def] at run
  split at run
  · next p operand =>
    obtain ⟨⟨right, more, fewer⟩, rightRun, run⟩ := bind_eq_ok_iff.mp run
    obtain ⟨⟨whole, tail, atMost⟩, moreRun, same⟩ := bind_eq_ok_iff.mp run
    cases same
    have one := (shorter operand (by simp)).conjunct rightRun
    obtain ⟨others, rfl, two⟩ := (shorter more (by simp; omega)).moreOr moreRun
    exact ⟨right :: others, rfl, Phrase.Before.behind .or one two⟩
  · cases run
    exact ⟨[], rfl, [], rfl, .noMore⟩

theorem parseMoreAnd_before (shorter : ∀ us, us.length < ts.length → ReadsPhrases finish us)
    {left e : Expr} {rest : From ts} (run : parseMoreAnd finish left ts = .ok (e, rest)) :
    ∃ others, e = groupLeft .and left others ∧ (Phrase.more .and others).Before ts rest := by
  rw [parseMoreAnd.eq_def] at run
  split at run
  · next p operand =>
    obtain ⟨⟨right, more, fewer⟩, rightRun, run⟩ := bind_eq_ok_iff.mp run
    obtain ⟨⟨whole, tail, atMost⟩, moreRun, same⟩ := bind_eq_ok_iff.mp run
    cases same
    have one := (shorter operand (by simp)).negation rightRun
    obtain ⟨others, rfl, two⟩ := (shorter more (by simp; omega)).moreAnd moreRun
    exact ⟨right :: others, rfl, Phrase.Before.behind .and one two⟩
  · cases run
    exact ⟨[], rfl, [], rfl, .noMore⟩

/-- What is read of further items is a sequence of expressions, each behind a comma, up to the
closing bracket. -/
theorem parseMoreItems_before (shorter : ∀ us, us.length < ts.length → ReadsPhrases finish us)
    {closing : Lexeme} {es : List Expr} {rest : After ts}
    (run : parseMoreItems finish closing ts = .ok (es, rest)) :
    ∃ p, (Phrase.more .comma es).Before ts (⟨closing, p⟩ :: rest) := by
  rw [parseMoreItems.eq_def] at run
  split at run
  · next word tail =>
    obtain ⟨word, q⟩ := word
    split at run
    · next closed =>
      cases run
      exact ⟨q, [], by rw [← closed]; rfl, .noMore⟩
    · split at run
      · next comma =>
        obtain rfl : word = .comma := comma
        obtain ⟨⟨next, more, fewer⟩, nextRun, run⟩ := bind_eq_ok_iff.mp run
        obtain ⟨⟨others, tail, fewerStill⟩, moreRun, same⟩ := bind_eq_ok_iff.mp run
        cases same
        have one := (shorter _ (by simp)).expression nextRun
        obtain ⟨p, two⟩ := (shorter more (by simp; omega)).moreItems moreRun
        exact ⟨p, Phrase.Before.behind .comma one two⟩
      · cases run
  · cases run

theorem parseOperand_before (shorter : ∀ us, us.length < ts.length → ReadsPhrases finish us)
    {e : Expr} {rest : After ts} (run : parseOperand finish ts = .ok (e, rest)) :
    (Phrase.operand e).Before ts rest := by
  rw [parseOperand.eq_def] at run
  split at run
  · next p inside =>
    obtain ⟨⟨inner, more, fewer⟩, innerRun, run⟩ := bind_eq_ok_iff.mp run
    have one := (shorter inside (by simp)).expression innerRun
    dsimp only at run
    split at run
    · next q tail _ =>
      cases run
      exact Phrase.Before.enclosed [⟨.openParen, p⟩] one .group
    · cases run
  · next p inside =>
    obtain ⟨⟨items, tail, fewer⟩, itemsRun, same⟩ := bind_eq_ok_iff.mp run
    cases same
    obtain ⟨q, one⟩ := (shorter inside (by simp)).items itemsRun
    exact Phrase.Before.enclosed [⟨.openBracket, p⟩] one .list
  · next function p q inside =>
    obtain ⟨⟨arguments, tail, fewer⟩, itemsRun, same⟩ := bind_eq_ok_iff.mp run
    cases same
    obtain ⟨r, one⟩ := (shorter inside (by simp only [List.length_cons]; omega)).items itemsRun
    exact Phrase.Before.enclosed [⟨.name function, p⟩, ⟨.openParen, q⟩] one .call
  · next path p tail _ =>
    cases run
    exact ⟨[⟨.name path, p⟩], rfl, .name⟩
  · next word p tail _ _ _ _ =>
    split at run
    · next value found =>
      cases run
      exact ⟨[⟨word, p⟩], rfl, .literal (Lexeme.literalWord_of_literal? found)⟩
    · cases run
  · cases run

/-- A comparison that is read has one operand, or two with a sign between them. A third one would be
left over. -/
theorem parseComparison_before (shorter : ∀ us, us.length < ts.length → ReadsPhrases finish us)
    {e : Expr} {rest : After ts} (run : parseComparison finish ts = .ok (e, rest)) :
    (Phrase.comparison e).Before ts rest := by
  rw [parseComparison] at run
  obtain ⟨⟨left, more, fewer⟩, leftRun, run⟩ := bind_eq_ok_iff.mp run
  have one := parseOperand_before shorter leftRun
  dsimp only at run
  split at run
  · next sign p operand fewer =>
    obtain ⟨⟨right, tail, fewerStill⟩, rightRun, same⟩ := bind_eq_ok_iff.mp run
    cases same
    have two := (shorter operand (Nat.lt_of_succ_lt fewer)).operand rightRun
    exact one.compared two
  · cases run
    exact one.wider .single

theorem parseNegation_before (shorter : ∀ us, us.length < ts.length → ReadsPhrases finish us)
    {e : Expr} {rest : After ts} (run : parseNegation finish ts = .ok (e, rest)) :
    (Phrase.negation e).Before ts rest := by
  rw [parseNegation.eq_def] at run
  split at run
  · next p operand =>
    obtain ⟨⟨inner, tail, fewer⟩, innerRun, same⟩ := bind_eq_ok_iff.mp run
    cases same
    obtain ⟨s, consumed, derives⟩ := (shorter operand (by simp)).negation innerRun
    exact ⟨⟨.not, p⟩ :: s, congrArg _ consumed, .not derives⟩
  · exact (parseComparison_before shorter run).wider .plain

theorem parseConjunction_before (shorter : ∀ us, us.length < ts.length → ReadsPhrases finish us)
    {e : Expr} {rest : After ts} (run : parseConjunction finish ts = .ok (e, rest)) :
    (Phrase.conjunct e).Before ts rest := by
  rw [parseConjunction] at run
  obtain ⟨⟨first, more, fewer⟩, firstRun, run⟩ := bind_eq_ok_iff.mp run
  obtain ⟨⟨whole, tail, atMost⟩, moreRun, same⟩ := bind_eq_ok_iff.mp run
  cases same
  have one := parseNegation_before shorter firstRun
  obtain ⟨others, rfl, two⟩ := (shorter more fewer).moreAnd moreRun
  exact one.followed two .conjunct

theorem parseRuleExpr_before (shorter : ∀ us, us.length < ts.length → ReadsPhrases finish us)
    {e : Expr} {rest : After ts} (run : parseRuleExpr finish ts = .ok (e, rest)) :
    (Phrase.expression e).Before ts rest := by
  rw [parseRuleExpr] at run
  obtain ⟨⟨first, more, fewer⟩, firstRun, run⟩ := bind_eq_ok_iff.mp run
  obtain ⟨⟨whole, tail, atMost⟩, moreRun, same⟩ := bind_eq_ok_iff.mp run
  cases same
  have one := parseConjunction_before shorter firstRun
  obtain ⟨others, rfl, two⟩ := (shorter more fewer).moreOr moreRun
  exact one.followed two .expression

theorem parseItems_before (shorter : ∀ us, us.length < ts.length → ReadsPhrases finish us)
    {closing : Lexeme} {es : List Expr} {rest : After ts}
    (run : parseItems finish closing ts = .ok (es, rest)) :
    ∃ p, (Phrase.items es).Before ts (⟨closing, p⟩ :: rest) := by
  rw [parseItems.eq_def] at run
  split at run
  · next word tail =>
    split at run
    · next closed =>
      cases run
      exact ⟨word.position, [], by rw [← closed]; rfl, .noItems⟩
    · obtain ⟨⟨first, more, fewer⟩, firstRun, run⟩ := bind_eq_ok_iff.mp run
      obtain ⟨⟨others, tail, fewerStill⟩, moreRun, same⟩ := bind_eq_ok_iff.mp run
      cases same
      have one := parseRuleExpr_before shorter firstRun
      obtain ⟨p, two⟩ := (shorter more fewer).moreItems moreRun
      exact ⟨p, one.followed two .items⟩
  · cases run

end Soundness

/-- Whatever the parser reads is a phrase of the grammar. The functions call each other on shorter
sequences, or on the same one at a tighter level. -/
theorem readsPhrases (finish : Nat) (ts : List Token) : ReadsPhrases finish ts := by
  induction ts using (measure List.length).wf.induction with
  | _ ts shorter =>
    exact {
      expression := parseRuleExpr_before shorter
      conjunct := parseConjunction_before shorter
      negation := parseNegation_before shorter
      operand := parseOperand_before shorter
      moreOr := parseMoreOr_before shorter
      moreAnd := parseMoreAnd_before shorter
      items := parseItems_before shorter
      moreItems := parseMoreItems_before shorter }

end GuardedRecords
