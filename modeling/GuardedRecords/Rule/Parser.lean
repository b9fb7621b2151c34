import GuardedRecords.Rule.Lexer
import GuardedRecords.Rule.Expr

namespace GuardedRecords

/-- The tokens after a phrase at the front of `ts`, which takes at least one of them. -/
abbrev After (ts : List Token) := { rest : List Token // rest.length < ts.length }

/-- The tokens after the rest of a phrase, which may take none of `ts`. -/
abbrev From (ts : List Token) := { rest : List Token // rest.length ≤ ts.length }

/-- The kind of the next token; after the last one comes the end of the rule. -/
def nextKind : List Token → TokenKind
  | [] => .finish
  | t :: _ => t.lexeme.kind

/-- Where the next token begins; `finish` is where the text of the rule ends. -/
def nextPosition (finish : Nat) : List Token → Nat
  | [] => finish
  | t :: _ => t.position

def failAt {α : Type} (finish : Nat) (ts : List Token) (fault : SyntaxFault) : Except SyntaxError α :=
  .error ⟨fault, nextPosition finish ts⟩

/-- The literal that a lexeme stands for on its own. -/
def Lexeme.literal? : Lexeme → Option Value
  | .integer n => some (.int n)
  | .decimal x => some (.double x)
  | .text s => some (.text s)
  | .truth b => some (.bool b)
  | .null => some .null
  | _ => none

mutual

/-- Conjunctions with `or` between them, grouped from the left. -/
def parseRuleExpr (finish : Nat) (ts : List Token) : Except SyntaxError (Expr × After ts) := do
  let (first, ⟨more, shorter⟩) ← parseConjunction finish ts
  let (whole, ⟨rest, atMost⟩) ← parseMoreOr finish first more
  .ok (whole, ⟨rest, Nat.lt_of_le_of_lt atMost shorter⟩)
termination_by (ts.length, 4)

def parseMoreOr (finish : Nat) (left : Expr) (ts : List Token) : Except SyntaxError (Expr × From ts) :=
  match ts with
  | ⟨.or, _⟩ :: operand => do
    let (right, ⟨more, shorter⟩) ← parseConjunction finish operand
    let (whole, ⟨rest, atMost⟩) ← parseMoreOr finish (.binary left .or right) more
    .ok (whole, ⟨rest, by simp only [List.length_cons]; omega⟩)
  | ts => .ok (left, ⟨ts, Nat.le_refl _⟩)
termination_by (ts.length, 0)

/-- Negations with `and` between them, grouped from the left. -/
def parseConjunction (finish : Nat) (ts : List Token) : Except SyntaxError (Expr × After ts) := do
  let (first, ⟨more, shorter⟩) ← parseNegation finish ts
  let (whole, ⟨rest, atMost⟩) ← parseMoreAnd finish first more
  .ok (whole, ⟨rest, Nat.lt_of_le_of_lt atMost shorter⟩)
termination_by (ts.length, 3)

def parseMoreAnd (finish : Nat) (left : Expr) (ts : List Token) : Except SyntaxError (Expr × From ts) :=
  match ts with
  | ⟨.and, _⟩ :: operand => do
    let (right, ⟨more, shorter⟩) ← parseNegation finish operand
    let (whole, ⟨rest, atMost⟩) ← parseMoreAnd finish (.binary left .and right) more
    .ok (whole, ⟨rest, by simp only [List.length_cons]; omega⟩)
  | ts => .ok (left, ⟨ts, Nat.le_refl _⟩)
termination_by (ts.length, 0)

/-- Any number of `not` before a comparison. -/
def parseNegation (finish : Nat) (ts : List Token) : Except SyntaxError (Expr × After ts) :=
  match ts with
  | ⟨.not, _⟩ :: operand => do
    let (inner, ⟨rest, shorter⟩) ← parseNegation finish operand
    .ok (.unary .not inner, ⟨rest, by simp only [List.length_cons]; omega⟩)
  | ts => parseComparison finish ts
termination_by (ts.length, 2)

/-- One operand, or two with a single comparison between them. -/
def parseComparison (finish : Nat) (ts : List Token) : Except SyntaxError (Expr × After ts) := do
  let (left, ⟨more, shorter⟩) ← parseOperand finish ts
  match more, shorter with
  | ⟨.comparison c, _⟩ :: operand, shorter =>
    have fewer : operand.length < ts.length := Nat.lt_of_succ_lt shorter
    let (right, ⟨rest, fewerStill⟩) ← parseOperand finish operand
    .ok (.binary left (.comparison c) right, ⟨rest, Nat.lt_trans fewerStill fewer⟩)
  | more, shorter => .ok (left, ⟨more, shorter⟩)
termination_by (ts.length, 1)

/-- A literal, a list, a name, a call, or an expression in parentheses. -/
def parseOperand (finish : Nat) (ts : List Token) : Except SyntaxError (Expr × After ts) :=
  match ts with
  | ⟨.openParen, _⟩ :: inside => do
    let (inner, ⟨more, shorter⟩) ← parseRuleExpr finish inside
    match more, shorter with
    | ⟨.closeParen, _⟩ :: rest, shorter =>
      .ok (inner, ⟨rest, by simp only [List.length_cons] at shorter ⊢; omega⟩)
    | more, _ => failAt finish more (.expected .closeParen (nextKind more))
  | ⟨.openBracket, _⟩ :: inside => do
    let (items, ⟨rest, shorter⟩) ← parseItems finish .closeBracket inside
    .ok (.list items, ⟨rest, by simp only [List.length_cons]; omega⟩)
  | ⟨.name function, _⟩ :: ⟨.openParen, _⟩ :: inside => do
    let (arguments, ⟨rest, shorter⟩) ← parseItems finish .closeParen inside
    .ok (.call function arguments, ⟨rest, by simp only [List.length_cons]; omega⟩)
  | ⟨.name path, _⟩ :: rest => .ok (.path path, ⟨rest, by simp⟩)
  | ⟨lexeme, position⟩ :: rest =>
    match lexeme.literal? with
    | some value => .ok (.literal value, ⟨rest, by simp⟩)
    | none => .error ⟨.unexpected lexeme.kind, position⟩
  | [] => .error ⟨.unexpected .finish, finish⟩
termination_by (ts.length, 0)

/-- Expressions with commas between them, up to the closing sign. -/
def parseItems (finish : Nat) (closing : Lexeme) (ts : List Token) : Except SyntaxError (List Expr × After ts) :=
  match ts with
  | t :: rest =>
    if t.lexeme = closing then .ok ([], ⟨rest, by simp⟩)
    else do
      let (first, ⟨more, shorter⟩) ← parseRuleExpr finish (t :: rest)
      let (others, ⟨rest, shorterStill⟩) ← parseMoreItems finish closing more
      .ok (first :: others, ⟨rest, Nat.lt_trans shorterStill shorter⟩)
  | [] => .error ⟨.unexpected .finish, finish⟩
termination_by (ts.length, 5)

/-- What follows the first item. -/
def parseMoreItems (finish : Nat) (closing : Lexeme) (ts : List Token) : Except SyntaxError (List Expr × After ts) :=
  match ts with
  | t :: rest =>
    if t.lexeme = closing then .ok ([], ⟨rest, by simp⟩)
    else if t.lexeme = .comma then do
      let (next, ⟨more, shorter⟩) ← parseRuleExpr finish rest
      let (others, ⟨rest, shorterStill⟩) ← parseMoreItems finish closing more
      .ok (next :: others, ⟨rest, by simp only [List.length_cons]; omega⟩)
    else .error ⟨.expected .comma t.lexeme.kind, t.position⟩
  | [] => .error ⟨.expected .comma .finish, finish⟩
termination_by (ts.length, 0)

end

/-- The tree of a whole sequence of tokens. -/
def parseTokens (finish : Nat) (ts : List Token) : Except SyntaxError Expr :=
  match ts with
  | [] => .error ⟨.emptyRule, finish⟩
  | _ => do
    let (e, ⟨rest, _⟩) ← parseRuleExpr finish ts
    match rest with
    | [] => .ok e
    | t :: _ => .error ⟨.trailing, t.position⟩

/-- Reads the text of a rule. A part that is no token is reported before any fault in the order
of the tokens. -/
def Expr.parse (text : String) : Except RuleFault Expr :=
  let lexing := lex text.toList
  match lexing.ending with
  | .error fault => .error fault
  | .ok finish => (parseTokens finish lexing.tokens).mapError .form

end GuardedRecords
