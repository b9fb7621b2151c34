import GuardedRecords.Rule.Parser

namespace GuardedRecords

/-- The functions that read a part of a rule. The logical levels are counted from the loosest one. -/
inductive Routine
  | logical (level : Nat)
  | negation
  | comparison
  | operand
  | items (closing : TokenKind)

/-- Why reading stops: the rule is at fault, or there is no token at the index, or the fuel is spent. -/
inductive Halt
  | fault (error : SyntaxError)
  | pastEnd
  | outOfFuel

/-- What can be seen of reading: at which index a token was looked at and to which one the index was
moved; and of each call, and of each turn of a loop, where it began and how it ended. -/
inductive ReadEvent
  | look (index : Nat)
  | move (index : Nat)
  | call (routine : Routine) (start : Nat) (ending : Except Halt Nat)
  | turn (routine : Routine) (start : Nat) (ending : Except Halt Nat)

/-- Reading from an index on: what is seen of it, and the value with the index behind it. -/
def IndexReader (α : Type) : Type := Nat → List ReadEvent × Except Halt (α × Nat)

/-- The kind of an entry of the tokens, the last of which is none and ends the rule. -/
def entryKind : Option Token → TokenKind
  | some t => t.lexeme.kind
  | none => .finish

/-- The words between the operands of the logical levels, loosest first. -/
def logicalLevels : List (TokenKind × Connective) := [(.or, .or), (.and, .and)]

namespace IndexReader

variable {α β : Type}

/-- What was seen is kept when reading stops. -/
def bind (first : IndexReader α) (next : α → IndexReader β) : IndexReader β := fun start =>
  match first start with
  | (events, .ok (a, index)) => (events ++ (next a index).1, (next a index).2)
  | (events, .error halt) => (events, .error halt)

instance : Monad IndexReader where
  pure a := fun index => ([], .ok (a, index))
  bind := bind

def halt (why : Halt) : IndexReader α := fun _ => ([], .error why)

/-- Notes how a call or a turn of a loop ended. -/
def noted (mark : Nat → Except Halt Nat → ReadEvent) (body : IndexReader α) : IndexReader α := fun start =>
  ((body start).1 ++ [mark start ((body start).2.map Prod.snd)], (body start).2)

def moveOn : IndexReader Unit := fun index => ([.move (index + 1)], .ok ((), index + 1))

variable (finish : Nat) (ts : List Token)

/-- The entry at the index. -/
def look : IndexReader (Option Token) := fun index =>
  match (ts.map some ++ [none])[index]? with
  | some entry => ([.look index], .ok (entry, index))
  | none => ([.look index], .error .pastEnd)

/-- Behind the last token there is nothing to move on to. -/
def advance : IndexReader Unit := do
  let entry ← look ts
  if entry.isSome then moveOn else pure ()

def fail (fault : SyntaxFault) : IndexReader α := do
  let entry ← look ts
  halt (.fault ⟨fault, entry.elim finish Token.position⟩)

def expect (kind : TokenKind) : IndexReader Unit := do
  let entry ← look ts
  if entryKind entry = kind then advance ts
  else fail finish ts (.expected kind (entryKind entry))

mutual

/-- Phrases of the next level with the word of this level between them; those behind the last level
are negations. -/
def logical (level : Nat) : Nat → IndexReader Expr
  | 0 => halt .outOfFuel
  | fuel + 1 => noted (.call (.logical level)) <|
    match logicalLevels[level]? with
    | none => negation fuel
    | some (word, sign) => do
      let first ← logical (level + 1) fuel
      moreLogical level word sign first fuel
termination_by structural fuel => fuel

/-- The loop of a logical level. -/
def moreLogical (level : Nat) (word : TokenKind) (sign : Connective) (left : Expr) : Nat → IndexReader Expr
  | 0 => halt .outOfFuel
  | fuel + 1 => do
    let entry ← look ts
    if entryKind entry = word then do
      let whole ← noted (.turn (.logical level)) do
        advance ts
        let right ← logical (level + 1) fuel
        pure (.binary left sign right)
      moreLogical level word sign whole fuel
    else pure left
termination_by structural fuel => fuel

def negation : Nat → IndexReader Expr
  | 0 => halt .outOfFuel
  | fuel + 1 => noted (.call .negation) do
    let entry ← look ts
    if entryKind entry = .not then do
      advance ts
      let inner ← negation fuel
      pure (.unary .not inner)
    else comparison fuel
termination_by structural fuel => fuel

def comparison : Nat → IndexReader Expr
  | 0 => halt .outOfFuel
  | fuel + 1 => noted (.call .comparison) do
    let left ← operand fuel
    let entry ← look ts
    match entryKind entry with
    | .comparison c => do
      advance ts
      let right ← operand fuel
      pure (.binary left (.comparison c) right)
    | _ => pure left
termination_by structural fuel => fuel

def operand : Nat → IndexReader Expr
  | 0 => halt .outOfFuel
  | fuel + 1 => noted (.call .operand) do
    let entry ← look ts
    match entry with
    | some ⟨.openParen, _⟩ => do
      advance ts
      let inner ← logical 0 fuel
      expect finish ts .closeParen
      pure inner
    | some ⟨.openBracket, _⟩ => do
      advance ts
      let es ← items .closeBracket fuel
      pure (.list es)
    | some ⟨.name name, _⟩ => do
      advance ts
      let behind ← look ts
      if entryKind behind = .openParen then do
        advance ts
        let arguments ← items .closeParen fuel
        pure (.call name arguments)
      else pure (.path name)
    | entry =>
      match entry.bind fun t => t.lexeme.literal? with
      | some value => do
        advance ts
        pure (.literal value)
      | none => fail finish ts (.unexpected (entryKind entry))
termination_by structural fuel => fuel

def items (closing : TokenKind) : Nat → IndexReader (List Expr)
  | 0 => halt .outOfFuel
  | fuel + 1 => noted (.call (.items closing)) (moreItems closing [] fuel)
termination_by structural fuel => fuel

/-- The loop over the items, behind those that have been read. -/
def moreItems (closing : TokenKind) (es : List Expr) : Nat → IndexReader (List Expr)
  | 0 => halt .outOfFuel
  | fuel + 1 => do
    let entry ← look ts
    if entryKind entry = closing then do
      expect finish ts closing
      pure es
    else do
      let e ← noted (.turn (.items closing)) <|
        if es.isEmpty then logical 0 fuel
        else do
          expect finish ts .comma
          logical 0 fuel
      moreItems closing (es ++ [e]) fuel
termination_by structural fuel => fuel

end

/-- Reads all tokens of a rule. -/
def rule (fuel : Nat) : IndexReader Expr := do
  let entry ← look ts
  if entryKind entry = .finish then fail finish ts .emptyRule
  else do
    let e ← logical finish ts 0 fuel
    let behind ← look ts
    if entryKind behind = .finish then pure e else fail finish ts .trailing

end IndexReader

end GuardedRecords
