import GuardedRecords.Proofs.RuleLexemes
import GuardedRecords.Proofs.RuleParsing

namespace GuardedRecords

def Blanks (cs : List Char) : Prop := ∀ c ∈ cs, isBlank c = true

theorem blanks_nil : Blanks [] := List.forall_mem_nil _

/-- What a part of the text of a rule stands for: a tree, or the items of a list or a call. -/
inductive RulePart
  | tree (e : Expr)
  | items (es : List Expr)

/-- The lexeme of a sign between operands, if the sign has a meaning. -/
def Connective.lexeme? : Connective → Option Lexeme
  | .and => some .and
  | .or => some .or
  | .comparison c => some (.comparison c)
  | .unknown _ => none

/-- The texts of a part that have every operand of a sign in parentheses, and no others. Each word
may be spelled in any way there is for it, and blanks may stand between the words. -/
inductive RuleText : RulePart → List Char → Prop
  | literal {word : Lexeme} {value : Value} {cs : List Char} (stands : LiteralWord word value)
      (text : LexemeText word cs) : RuleText (.tree (.literal value)) cs
  | path {name : String} {cs : List Char} (text : LexemeText (.name name) cs) :
      RuleText (.tree (.path name)) cs
  | list {es : List Expr} {cs : List Char} (inner : RuleText (.items es) cs) :
      RuleText (.tree (.list es)) ('[' :: cs ++ [']'])
  | call {function : String} {es : List Expr} {name gap cs : List Char}
      (text : LexemeText (.name function) name) (blank : Blanks gap)
      (inner : RuleText (.items es) cs) :
      RuleText (.tree (.call function es)) (name ++ gap ++ '(' :: cs ++ [')'])
  | not {e : Expr} {sign gap cs : List Char} (text : LexemeText .not sign) (blank : Blanks gap)
      (inner : RuleText (.tree e) cs) :
      RuleText (.tree (.unary .not e)) (sign ++ gap ++ '(' :: cs ++ [')'])
  | binary {left right : Expr} {op : Connective} {word : Lexeme}
      {cs before sign after ds : List Char} (known : op.lexeme? = some word)
      (text : LexemeText word sign) (blankBefore : Blanks before) (blankAfter : Blanks after)
      (one : RuleText (.tree left) cs) (two : RuleText (.tree right) ds) :
      RuleText (.tree (.binary left op right))
        ('(' :: cs ++ ')' :: before ++ sign ++ after ++ '(' :: ds ++ [')'])
  | noItems : RuleText (.items []) []
  | lastItem {e : Expr} {cs : List Char} (only : RuleText (.tree e) cs) : RuleText (.items [e]) cs
  | item {e next : Expr} {rest : List Expr} {cs more : List Char} (first : RuleText (.tree e) cs)
      (others : RuleText (.items (next :: rest)) more) :
      RuleText (.items (e :: next :: rest)) (cs ++ ',' :: more)
  | spaced {part : RulePart} {before cs after : List Char} (left : Blanks before)
      (inner : RuleText part cs) (right : Blanks after) : RuleText part (before ++ cs ++ after)

/-- A part of a text of which the tokens make up a phrase, whatever follows that ends a lexeme. -/
def LexesTo (phrase : Phrase) (cs : List Char) : Prop :=
  ∀ total rest, EndsLexeme rest → ∃ front, Derives phrase front ∧
    lexRest total (cs ++ rest) = (lexRest total rest).behind front

def RulePart.phrase : RulePart → Phrase
  | .tree e => .expression e
  | .items es => .items es

theorem Derives.conjunct_of_negation {e : Expr} {s : List Token} (inner : Derives (.negation e) s) :
    Derives (.conjunct e) s := by
  have whole : Derives (.conjunct e) (s ++ []) := .conjunct inner .noMore
  rwa [List.append_nil] at whole

theorem Derives.expression_of_conjunct {e : Expr} {s : List Token} (inner : Derives (.conjunct e) s) :
    Derives (.expression e) s := by
  have whole : Derives (.expression e) (s ++ []) := .expression inner .noMore
  rwa [List.append_nil] at whole

theorem Derives.expression_of_negation {e : Expr} {s : List Token} (inner : Derives (.negation e) s) :
    Derives (.expression e) s := inner.conjunct_of_negation.expression_of_conjunct

theorem Derives.expression_of_operand {e : Expr} {s : List Token} (inner : Derives (.operand e) s) :
    Derives (.expression e) s := Derives.expression_of_negation (.plain (.single inner))

theorem Derives.expression_of_binary {left right : Expr} {op : Connective} {word : Lexeme} {p : Nat}
    {s t : List Token} (known : op.lexeme? = some word) (one : Derives (.operand left) s)
    (two : Derives (.operand right) t) :
    Derives (.expression (.binary left op right)) (s ++ ⟨word, p⟩ :: t) := by
  have first : Derives (.negation left) s := .plain (.single one)
  have second : Derives (.negation right) t := .plain (.single two)
  cases op with
  | and =>
    cases known
    have more : Derives (.more .and [right]) (⟨.and, p⟩ :: t ++ []) := .more second .noMore
    rw [List.append_nil] at more
    exact (Derives.conjunct first more).expression_of_conjunct
  | or =>
    cases known
    have more : Derives (.more .or [right]) (⟨.or, p⟩ :: t ++ []) :=
      .more second.conjunct_of_negation .noMore
    rw [List.append_nil] at more
    exact .expression first.conjunct_of_negation more
  | comparison sign =>
    cases known
    exact Derives.expression_of_negation (.plain (.compare one two))
  | unknown _ => cases known

theorem Derives.items_cons {e next : Expr} {rest : List Expr} {p : Nat} {s t : List Token}
    (one : Derives (.expression e) s) (two : Derives (.items (next :: rest)) t) :
    Derives (.items (e :: next :: rest)) (s ++ ⟨.comma, p⟩ :: t) := by
  cases two with
  | items first others => exact .items one (.more first others)

/-- A phrase in brackets, or between a bracket and another one. -/
theorem LexesTo.enclosed {inner : Phrase} {cs : List Char} (inside : LexesTo inner cs)
    (opening closing : Lexeme) {c d : Char} (left : opening.mark? = some c)
    (right : closing.mark? = some d) (total : Nat) (rest : List Char) :
    ∃ p q front, Derives inner front ∧
      lexRest total (c :: cs ++ d :: rest) =
        (lexRest total rest).behind (⟨opening, p⟩ :: front ++ [⟨closing, q⟩]) := by
  obtain ⟨p, opened⟩ := lexRest_mark opening left (cs ++ d :: rest) total
  obtain ⟨front, derives, lexed⟩ := inside total (d :: rest) (endsLexeme_mark closing right rest)
  obtain ⟨q, closed⟩ := lexRest_mark closing right rest total
  refine ⟨p, q, front, derives, ?_⟩
  rw [List.cons_append, opened, lexed, closed, Lexing.behind_behind, Lexing.behind_behind]
  rfl

/-- Where the text of an expression is lexed as one, the same text in parentheses is lexed as an
operand. A parenthesis ends whatever stands before it. -/
theorem LexesTo.group {e : Expr} {cs : List Char} (inside : LexesTo (.expression e) cs)
    (total : Nat) (rest : List Char) :
    ∃ front, Derives (.operand e) front ∧
      lexRest total ('(' :: cs ++ ')' :: rest) = (lexRest total rest).behind front := by
  obtain ⟨p, q, front, derives, lexed⟩ :=
    inside.enclosed .openParen .closeParen rfl rfl total rest
  exact ⟨_, .group derives, lexed⟩

theorem LexemeText.lexRest_spaced {word : Lexeme} {before cs after rest : List Char}
    (text : LexemeText word cs) (left : Blanks before) (right : Blanks after)
    (ends : EndsLexeme rest) (total : Nat) :
    ∃ p, lexRest total (before ++ cs ++ after ++ rest) =
      (lexRest total rest).behind [⟨word, p⟩] := by
  obtain ⟨p, lexed⟩ := text.lexRest_append (ends.after_blanks right) total
  refine ⟨p, ?_⟩
  rw [List.append_assoc, List.append_assoc, lexRest_blanks total left, lexed,
    lexRest_blanks total right]

theorem LexesTo.after_word {inner : Phrase} {word : Lexeme} {name gap cs : List Char}
    (inside : LexesTo inner cs) (text : LexemeText word name) (blank : Blanks gap) (total : Nat)
    (rest : List Char) :
    ∃ p q r front, Derives inner front ∧
      lexRest total (name ++ gap ++ '(' :: cs ++ [')'] ++ rest) =
        (lexRest total rest).behind
          (⟨word, p⟩ :: ⟨.openParen, q⟩ :: front ++ [⟨.closeParen, r⟩]) := by
  obtain ⟨q, r, front, derives, lexed⟩ :=
    inside.enclosed .openParen .closeParen rfl rfl total rest
  obtain ⟨p, named⟩ := text.lexRest_spaced blanks_nil blank
    (endsLexeme_mark .openParen rfl (cs ++ ')' :: rest)) total
  refine ⟨p, q, r, front, derives, ?_⟩
  have whole : name ++ gap ++ '(' :: cs ++ [')'] ++ rest =
      [] ++ name ++ gap ++ '(' :: (cs ++ ')' :: rest) := by simp
  rw [whole, named, ← List.cons_append, lexed, Lexing.behind_behind]
  rfl

/-- The texts of a part are lexed to the tokens of a phrase that stands for it. With the parser,
which accepts all phrases, the tree is read back. -/
theorem RuleText.lexesTo {part : RulePart} {cs : List Char} (text : RuleText part cs) :
    LexesTo part.phrase cs := by
  induction text with
  | literal stands text =>
    intro total rest ends
    obtain ⟨p, lexed⟩ := text.lexRest_append ends total
    exact ⟨_, (Derives.literal stands).expression_of_operand, lexed⟩
  | path text =>
    intro total rest ends
    obtain ⟨p, lexed⟩ := text.lexRest_append ends total
    exact ⟨_, Derives.name.expression_of_operand, lexed⟩
  | list inner ih =>
    intro total rest _
    obtain ⟨p, q, front, derives, lexed⟩ :=
      LexesTo.enclosed ih .openBracket .closeBracket rfl rfl total rest
    refine ⟨_, (Derives.list (p := p) (q := q) derives).expression_of_operand, ?_⟩
    rw [List.append_assoc]
    exact lexed
  | call text blank inner ih =>
    intro total rest _
    obtain ⟨p, q, r, front, derives, lexed⟩ := LexesTo.after_word ih text blank total rest
    exact ⟨_, (Derives.call derives).expression_of_operand, lexed⟩
  | not text blank inner ih =>
    intro total rest _
    obtain ⟨p, q, r, front, derives, lexed⟩ := LexesTo.after_word ih text blank total rest
    have operand := Derives.group (p := q) (q := r) derives
    exact ⟨_, Derives.expression_of_negation (.not (.plain (.single operand))), lexed⟩
  | @binary left right op word cs before sign after ds known text blankBefore blankAfter one two
      ihOne ihTwo =>
    intro total rest _
    obtain ⟨t, derivesRight, lexedRight⟩ := LexesTo.group ihTwo total rest
    obtain ⟨p, signed⟩ := text.lexRest_spaced blankBefore blankAfter
      (endsLexeme_mark .openParen rfl (ds ++ ')' :: rest)) total
    obtain ⟨s, derivesLeft, lexedLeft⟩ :=
      LexesTo.group ihOne total (before ++ sign ++ after ++ '(' :: (ds ++ ')' :: rest))
    refine ⟨_, Derives.expression_of_binary (p := p) known derivesLeft derivesRight, ?_⟩
    -- The left operand ends at its own parenthesis, and the sign at a blank or at the next one, so
    -- the three are lexed one by one.
    have whole : '(' :: cs ++ ')' :: before ++ sign ++ after ++ '(' :: ds ++ [')'] ++ rest =
        '(' :: cs ++ ')' :: (before ++ sign ++ after ++ '(' :: (ds ++ ')' :: rest)) := by simp
    rw [whole, lexedLeft, signed, ← List.cons_append, lexedRight, Lexing.behind_behind,
      Lexing.behind_behind, List.append_assoc, List.singleton_append]
  | noItems => exact fun total rest _ => ⟨[], .noItems, rfl⟩
  | lastItem only ih =>
    intro total rest ends
    obtain ⟨front, derives, lexed⟩ := ih total rest ends
    have items := Derives.items derives .noMore
    rw [List.append_nil] at items
    exact ⟨front, items, lexed⟩
  | @item e next others cs more first _ ihFirst ihOthers =>
    intro total rest ends
    obtain ⟨t, derivesOthers, lexedOthers⟩ := ihOthers total rest ends
    obtain ⟨p, comma⟩ := lexRest_mark .comma rfl (more ++ rest) total
    obtain ⟨s, derivesFirst, lexedFirst⟩ :=
      ihFirst total (',' :: (more ++ rest)) (endsLexeme_mark .comma rfl (more ++ rest))
    refine ⟨_, Derives.items_cons (p := p) derivesFirst derivesOthers, ?_⟩
    rw [List.append_assoc, List.cons_append, lexedFirst, comma, lexedOthers, Lexing.behind_behind,
      Lexing.behind_behind, List.append_assoc, List.singleton_append]
  | spaced left inner right ih =>
    intro total rest ends
    obtain ⟨front, derives, lexed⟩ := ih total _ (ends.after_blanks right)
    refine ⟨front, derives, ?_⟩
    rw [List.append_assoc, List.append_assoc, lexRest_blanks total left, lexed,
      lexRest_blanks total right]

/-- From every text of a tree the tree is read back. -/
theorem RuleText.parse_eq {e : Expr} {text : String} (written : RuleText (.tree e) text.toList) :
    Expr.parse text = .ok e := by
  obtain ⟨front, derives, lexed⟩ := written.lexesTo text.toList.length [] endsLexeme_nil
  have ended : lexRest text.toList.length [] = ⟨[], .ok text.toList.length⟩ := by
    rw [lexRest_eq]
    rfl
  rw [List.append_nil, ended] at lexed
  have read : parseTokens text.toList.length front = .ok e := parseTokens_eq_ok_iff.mpr derives
  simp only [Expr.parse, lex, lexed, Lexing.behind, List.append_nil, read, ok_mapError]

/-- The values that can be written as literals of a rule. -/
inductive RuleLiteral : Value → Prop
  | null : RuleLiteral .null
  | truth (b : Bool) : RuleLiteral (.bool b)
  | integer {n : Nat} : (Nat.toDigits 10 n).length ≤ 4300 → RuleLiteral (.int n)
  | text (s : String) : RuleLiteral (.text s)

/-- A word that is free to be a name. -/
def IsName (s : String) : Prop := IsWord s ∧ keyword? s = none

mutual

/-- Whether a tree is made of literals, names, lists, calls and signs that have a meaning. -/
def Expr.Plain : Expr → Prop
  | .literal value => RuleLiteral value
  | .path name => IsName name
  | .unary op operand => op = .not ∧ operand.Plain
  | .binary left op right => op.lexeme? ≠ none ∧ left.Plain ∧ right.Plain
  | .call function arguments => IsName function ∧ allPlain arguments
  | .list items => allPlain items
termination_by structural e => e

def allPlain : List Expr → Prop
  | [] => True
  | e :: rest => e.Plain ∧ allPlain rest
termination_by structural es => es

end

/-- How the signs are spelled that have two spellings. -/
inductive Spelling
  | words | signs

def Spelling.not : Spelling → String
  | .words => "not"
  | .signs => "!"

def Spelling.connective : Spelling → Connective → String
  | .signs, .and => "&&"
  | .signs, .or => "||"
  | _, op => op.sign

/-- A text between single quotes, with a backslash before each quote and each backslash. -/
def singleQuoted (s : String) : List Char :=
  '\'' :: (s.toList.flatMap fun c => if c = '\'' ∨ c = '\\' then ['\\', c] else [c]) ++ ['\'']

/-- A literal as it is written in a rule. -/
def Value.writeInRule : Value → List Char
  | .null => "null".toList
  | .bool true => "true".toList
  | .bool false => "false".toList
  | .int n => Nat.toDigits 10 n.toNat
  | .text s => singleQuoted s
  | other => other.display.toList

mutual

/-- A tree written with every operand of a sign in parentheses. -/
def Expr.write (spelling : Spelling) : Expr → List Char
  | .literal value => value.writeInRule
  | .path name => name.toList
  | .unary op operand =>
    (match op with
      | .not => spelling.not.toList
      | .unknown sign => sign.toList) ++ '(' :: operand.write spelling ++ [')']
  | .binary left op right =>
    '(' :: left.write spelling ++ ')' :: [' '] ++ (spelling.connective op).toList ++ [' '] ++
      '(' :: right.write spelling ++ [')']
  | .call function arguments => function.toList ++ '(' :: writeItems spelling arguments ++ [')']
  | .list items => '[' :: writeItems spelling items ++ [']']
termination_by structural e => e

/-- The items of a list with a comma and a blank between them. -/
def writeItems (spelling : Spelling) : List Expr → List Char
  | [] => []
  | [e] => e.write spelling
  | e :: next :: rest => e.write spelling ++ ',' :: ' ' :: writeItems spelling (next :: rest)
termination_by structural es => es

end

/-- A text is written between single quotes so that it is read back: the quote and the backslash get
a backslash, and all else stays as it is. -/
theorem quotedBody_singleQuoted (cs : List Char) :
    QuotedBody '\'' cs (cs.flatMap fun c => if c = '\'' ∨ c = '\\' then ['\\', c] else [c]) := by
  induction cs with
  | nil => exact .nil
  | cons c rest ih =>
    rw [List.flatMap_cons]
    split
    · exact .escaped ih
    · next bare =>
      rw [not_or] at bare
      exact .plain bare.1 bare.2 ih

theorem RuleLiteral.ruleText {value : Value} (literal : RuleLiteral value) :
    RuleText (.tree (.literal value)) value.writeInRule := by
  cases literal with
  | null => exact .literal .null (.keyword (s := "null") rfl)
  | truth b =>
    cases b with
    | true => exact .literal (.truth true) (.keyword (s := "true") rfl)
    | false => exact .literal (.truth false) (.keyword (s := "false") rfl)
  | integer short => exact .literal (.integer _) (.integer short)
  | text s => exact .literal (.text s) (.text (.inl rfl) (quotedBody_singleQuoted s.toList))

theorem Spelling.lexemeText_not (spelling : Spelling) : LexemeText .not spelling.not.toList := by
  cases spelling with
  | words => exact .keyword rfl
  | signs => exact .sign (by decide)

theorem Spelling.lexemeText_connective (spelling : Spelling) {op : Connective} {word : Lexeme}
    (known : op.lexeme? = some word) : LexemeText word (spelling.connective op).toList := by
  cases op with
  | and =>
    cases known
    cases spelling with
    | words => exact .keyword rfl
    | signs => exact .sign (by decide)
  | or =>
    cases known
    cases spelling with
    | words => exact .keyword rfl
    | signs => exact .sign (by decide)
  | comparison c =>
    cases known
    have symbol : spelling.connective (.comparison c) = c.symbol := by cases spelling <;> rfl
    rw [symbol]
    cases c with
    | mem => exact .keyword rfl
    | _ => exact .sign (by decide)
  | unknown _ => cases known

mutual

/-- What is written for a plain tree is a text of it, in words or in signs. Every operand is in
parentheses, so that nothing binds otherwise. -/
theorem Expr.Plain.ruleText_write {e : Expr} (plain : e.Plain) (spelling : Spelling) :
    RuleText (.tree e) (e.write spelling) := by
  match e with
  | .literal value =>
    rw [Expr.Plain] at plain
    rw [Expr.write]
    exact plain.ruleText
  | .path name =>
    rw [Expr.Plain] at plain
    rw [Expr.write]
    exact .path (.name plain.1 plain.2)
  | .unary op operand =>
    rw [Expr.Plain] at plain
    obtain ⟨rfl, inner⟩ := plain
    have text := RuleText.not spelling.lexemeText_not blanks_nil (inner.ruleText_write spelling)
    rw [Expr.write]
    simpa using text
  | .binary left op right =>
    rw [Expr.Plain] at plain
    obtain ⟨known, one, two⟩ := plain
    obtain ⟨word, known⟩ := Option.ne_none_iff_exists'.mp known
    have blank : Blanks [' '] := forall_mem_of_decide (by decide)
    rw [Expr.write]
    exact .binary known (spelling.lexemeText_connective known) blank blank
      (one.ruleText_write spelling) (two.ruleText_write spelling)
  | .call function arguments =>
    rw [Expr.Plain] at plain
    have text := RuleText.call (.name plain.1.1 plain.1.2) blanks_nil
      (ruleText_writeItems plain.2 spelling)
    rw [Expr.write]
    simpa using text
  | .list items =>
    rw [Expr.Plain] at plain
    rw [Expr.write]
    exact .list (ruleText_writeItems plain spelling)
termination_by structural e

theorem ruleText_writeItems {es : List Expr} (plain : allPlain es) (spelling : Spelling) :
    RuleText (.items es) (writeItems spelling es) := by
  match es with
  | [] =>
    rw [writeItems]
    exact .noItems
  | [e] =>
    rw [allPlain] at plain
    rw [writeItems]
    exact .lastItem (plain.1.ruleText_write spelling)
  | e :: next :: rest =>
    rw [allPlain] at plain
    have blank : Blanks [' '] := forall_mem_of_decide (by decide)
    have others := RuleText.spaced blank (ruleText_writeItems plain.2 spelling) blanks_nil
    rw [List.append_nil] at others
    rw [writeItems]
    exact .item (plain.1.ruleText_write spelling) others
termination_by structural es

end

/-- However a plain tree is written, with words or with signs for `and`, `or` and `not`, it is read
back. The same holds of every text that has the operands of its signs in parentheses, whatever
blanks stand in it and however its words are spelled. -/
theorem Expr.parse_write {e : Expr} (plain : e.Plain) :
    (∀ spelling : Spelling, Expr.parse (String.ofList (e.write spelling)) = .ok e) ∧
      ∀ text : String, RuleText (.tree e) text.toList → Expr.parse text = .ok e := by
  refine ⟨fun spelling => RuleText.parse_eq ?_, fun text written => written.parse_eq⟩
  rw [String.toList_ofList]
  exact plain.ruleText_write spelling

/-- A call with a text full of quotes, and a negated comparison. -/
def quotedCall : Expr :=
  .binary (.call "größe" [.literal (.text "it's \\\" "), .list [], .literal (.bool true)]) .and
    (.unary .not (.binary (.path "user._id") (.comparison .mem)
      (.list [.literal (.int 70), .literal .null])))

theorem Expr.parse_write_quotedCall :
    quotedCall.Plain ∧
      String.ofList (quotedCall.write .signs) =
        "(größe('it\\'s \\\\\" ', [], true)) && (!((user._id) in ([70, null])))" ∧
      Expr.parse "(größe('it\\'s \\\\\" ', [], true)) && (!((user._id) in ([70, null])))" =
        .ok quotedCall ∧
      Expr.parse "(größe('it\\'s \\\\\" ', [], true)) and (not((user._id) in ([70, null])))" =
        .ok quotedCall := by
  have function : IsName "größe" :=
    ⟨isWord_ofList (c := 'g') (by decide +kernel) (by decide +kernel), rfl⟩
  have path : IsName "user._id" :=
    ⟨isWord_ofList (c := 'u') (by decide +kernel) (by decide +kernel), rfl⟩
  have number : RuleLiteral (.int 70) := .integer (n := 70) (by decide)
  have plain : quotedCall.Plain := by
    simp only [quotedCall, Expr.Plain, allPlain, and_true]
    exact ⟨nofun, ⟨function, .text _, trivial, .truth _⟩, trivial, nofun, path, number, .null⟩
  have signs : String.ofList (quotedCall.write .signs) =
    "(größe('it\\'s \\\\\" ', [], true)) && (!((user._id) in ([70, null])))" := by decide +kernel
  have words : String.ofList (quotedCall.write .words) =
    "(größe('it\\'s \\\\\" ', [], true)) and (not((user._id) in ([70, null])))" := by
    decide +kernel
  have parsed := (Expr.parse_write plain).1
  exact ⟨plain, signs, signs ▸ parsed .signs, words ▸ parsed .words⟩

end GuardedRecords
