import GuardedRecords.Proofs.BlankEnds
import GuardedRecords.Proofs.CharacterClasses
import GuardedRecords.Proofs.JsonReading

namespace GuardedRecords

/-- What may stand between quotes for a text: each character as it is, if it is neither the quote
nor a backslash, or behind a backslash. -/
inductive QuotedBody (quote : Char) : List Char → List Char → Prop
  | nil : QuotedBody quote [] []
  | plain {c : Char} {text body : List Char} : c ≠ quote → c ≠ '\\' → QuotedBody quote text body →
      QuotedBody quote (c :: text) (c :: body)
  | escaped {c : Char} {text body : List Char} : QuotedBody quote text body →
      QuotedBody quote (c :: text) ('\\' :: c :: body)

/-- A text that is read as one word: a letter or an underscore, then letters, numerals, underscores
and points. -/
def IsWord (word : String) : Prop :=
  ∃ c rest, word.toList = c :: rest ∧ (isLetter c = true ∨ c = '_') ∧
    ∀ d ∈ rest, isNameChar d = true

/-- The signs that are no brackets, with the lexemes that they stand for. -/
def signTexts : List (List Char × Lexeme) :=
  [(['=', '='], .comparison .eq), (['!', '='], .comparison .ne), (['<', '='], .comparison .le),
    (['>', '='], .comparison .ge), (['<'], .comparison .lt), (['>'], .comparison .gt),
    (['&', '&'], .and), (['|', '|'], .or), (['!'], .not)]

/-- The texts of a lexeme, brackets and commas apart. -/
inductive LexemeText : Lexeme → List Char → Prop
  | integer {n : Nat} : (Nat.toDigits 10 n).length ≤ integerDigitLimit →
      LexemeText (.integer n) (Nat.toDigits 10 n)
  | text {quote : Char} {s : String} {body : List Char} : quote = '\'' ∨ quote = '"' →
      QuotedBody quote s.toList body → LexemeText (.text s) (quote :: body ++ [quote])
  | name {s : String} : IsWord s → keyword? s = none → LexemeText (.name s) s.toList
  | keyword {s : String} {word : Lexeme} : keyword? s = some word → LexemeText word s.toList
  | sign {cs : List Char} {word : Lexeme} : (cs, word) ∈ signTexts → LexemeText word cs

/-- The characters that stand for a lexeme wherever they are found. -/
def Lexeme.mark? : Lexeme → Option Char
  | .openParen => some '('
  | .closeParen => some ')'
  | .openBracket => some '['
  | .closeBracket => some ']'
  | .comma => some ','
  | _ => none

/-- Whatever comes before does not go on here: the text ends, or there is a blank, a bracket or a
comma. -/
def EndsLexeme (rest : List Char) : Prop :=
  ∀ c ∈ rest.head?, isBlank c = true ∨ ∃ word : Lexeme, word.mark? = some c

theorem endsLexeme_nil : EndsLexeme [] := nofun

theorem endsLexeme_mark (word : Lexeme) {c : Char} (mark : word.mark? = some c)
    (rest : List Char) : EndsLexeme (c :: rest) := by
  rintro d ⟨⟩
  exact .inr ⟨word, mark⟩

theorem EndsLexeme.after_blanks {blanks rest : List Char} (ends : EndsLexeme rest)
    (blank : ∀ c ∈ blanks, isBlank c = true) : EndsLexeme (blanks ++ rest) := by
  cases blanks with
  | nil => exact ends
  | cons b blanks =>
    rintro c ⟨⟩
    exact .inl (blank b List.mem_cons_self)

theorem mem_marks_of_mark? {word : Lexeme} {c : Char} (mark : word.mark? = some c) :
    c ∈ ['(', ')', '[', ']', ','] := by
  cases word <;> cases mark <;> decide

/-- What ends a lexeme is no numeral, no character of a name and no equals sign, so it goes on with
none of the lexemes. -/
theorem EndsLexeme.head_apart {rest : List Char} (ends : EndsLexeme rest) :
    ∀ c ∈ rest.head?, isDigit c = false ∧ isNameChar c = false ∧ c ≠ '=' := by
  intro c first
  rcases ends c first with blank | ⟨word, mark⟩
  · refine ⟨isDigit_eq_false_of_isBlank blank, isNameChar_eq_false_of_isBlank blank, ?_⟩
    rintro rfl
    revert blank
    decide +kernel
  · have table : ∀ c ∈ ['(', ')', '[', ']', ','],
        isDigit c = false ∧ isNameChar c = false ∧ c ≠ '=' := forall_mem_of_decide (by decide +kernel)
    exact table c (mem_marks_of_mark? mark)

theorem EndsLexeme.not_digit {rest : List Char} (ends : EndsLexeme rest) :
    ∀ c ∈ rest.head?, isDigit c = false :=
  fun c first => (ends.head_apart c first).1

theorem EndsLexeme.not_nameChar {rest : List Char} (ends : EndsLexeme rest) :
    ∀ c ∈ rest.head?, isNameChar c = false :=
  fun c first => (ends.head_apart c first).2.1

theorem takeWhile_append_of_head {p : Char → Bool} {run rest : List Char}
    (within : ∀ c ∈ run, p c = true) (stops : ∀ c ∈ rest.head?, p c = false) :
    (run ++ rest).takeWhile p = run := by
  rw [List.takeWhile_append_of_pos within]
  cases rest with
  | nil => simp
  | cons c rest => simp [stops c rfl]

theorem dropWhile_append_of_head {p : Char → Bool} {run rest : List Char}
    (within : ∀ c ∈ run, p c = true) (stops : ∀ c ∈ rest.head?, p c = false) :
    (run ++ rest).dropWhile p = rest := by
  rw [List.dropWhile_append_of_pos within]
  cases rest with
  | nil => rfl
  | cons c rest => simp [stops c rfl]

/-- A text that is read off the front of the characters, whatever follows that ends a lexeme. The
first character is not blank. -/
def ReadAs (cs : List Char) (word : Lexeme) : Prop :=
  ∃ c more, cs = c :: more ∧ isBlank c = false ∧
    ∀ rest, EndsLexeme rest → readLexeme c (more ++ rest) = .ok (word, rest)

theorem asciiDigit_facts {c : Char} (digit : c ∈ decimalDigits) :
    isBlank c = false ∧ isDigit c = true ∧ isDecimal c = true ∧
      decimalValue? c = some (c.toNat - '0'.toNat) := by
  have table : ∀ c ∈ decimalDigits, isBlank c = false ∧ isDigit c = true ∧ isDecimal c = true ∧
      decimalValue? c = some (c.toNat - '0'.toNat) := forall_mem_of_decide (by decide +kernel)
  exact table c digit

theorem decimalDigits?_of_ascii {digits : List Char} (ascii : ∀ c ∈ digits, c ∈ decimalDigits) :
    decimalDigits? digits = some (decimalNumber digits) := by
  have step (n : Nat) : digits.foldl (fun acc c =>
      acc.bind fun n => (decimalValue? c).map fun d => 10 * n + d) (some n) =
      some (digits.foldl (fun n c => 10 * n + (c.toNat - '0'.toNat)) n) := by
    induction digits generalizing n with
    | nil => rfl
    | cons c rest ih =>
      obtain ⟨-, -, -, value⟩ := asciiDigit_facts (ascii c List.mem_cons_self)
      rw [List.foldl_cons, List.foldl_cons, Option.bind_some, value, Option.map_some,
        ih fun d member => ascii d (List.mem_cons_of_mem _ member)]
  exact step 0

theorem readInteger_toDigits {n : Nat} (short : (Nat.toDigits 10 n).length ≤ integerDigitLimit) :
    readInteger (Nat.toDigits 10 n) = .ok n := by
  have ascii : ∀ c ∈ Nat.toDigits 10 n, c ∈ decimalDigits :=
    fun c => mem_decimalDigits_of_mem_toDigits
  have decimal : (Nat.toDigits 10 n).takeWhile isDecimal = Nat.toDigits 10 n := by
    have all : (Nat.toDigits 10 n ++ []).takeWhile isDecimal = Nat.toDigits 10 n :=
      takeWhile_append_of_head (fun c member => (asciiDigit_facts (ascii c member)).2.2.1) nofun
    rwa [List.append_nil] at all
  simp only [readInteger, decimal, if_neg (Nat.not_lt.mpr short), decimalDigits?_of_ascii ascii,
    decimalNumber_toDigits]

theorem readAs_integer {n : Nat} (short : (Nat.toDigits 10 n).length ≤ integerDigitLimit) :
    ReadAs (Nat.toDigits 10 n) (.integer n) := by
  obtain ⟨c, more, written, first⟩ := exists_toDigits_eq_cons n
  obtain ⟨bare, digit, -⟩ := asciiDigit_facts first
  refine ⟨c, more, written, bare, fun rest ends => ?_⟩
  have digits : ∀ d ∈ more, isDigit d = true := fun d member =>
    have inside : d ∈ Nat.toDigits 10 n := written ▸ List.mem_cons_of_mem c member
    (asciiDigit_facts (mem_decimalDigits_of_mem_toDigits inside)).2.1
  have noFraction : fractionOf rest = [] := by
    unfold fractionOf
    split
    · have inside : isNameChar '.' = true := by simp [isNameChar]
      exact absurd (ends.not_nameChar '.' rfl) (by rw [inside]; decide)
    · rfl
  have number : readInteger (c :: more) = .ok n := written ▸ readInteger_toDigits short
  simp only [readLexeme, digit, if_true, takeWhile_append_of_head digits ends.not_digit,
    dropWhile_append_of_head digits ends.not_digit, noFraction, List.isEmpty_nil, number]

/-- The body of a quoted text is scanned to its closing quote, with what stands behind backslashes
taken as it is. -/
theorem scanQuoted_body {quote : Char} (notEscape : quote ≠ '\\') {text body : List Char}
    (written : QuotedBody quote text body) (rest : List Char) :
    scanQuoted quote (body ++ quote :: rest) = some (text, rest) := by
  induction written with
  | nil =>
    rw [List.nil_append, scanQuoted, if_pos rfl]
    exact fun _ _ same => absurd same notEscape
  | plain notQuote bare _ ih =>
    rw [List.cons_append, scanQuoted, if_neg notQuote, ih, Option.map_some]
    exact fun _ _ same => absurd same bare
  | escaped _ ih => rw [List.cons_append, List.cons_append, scanQuoted, ih, Option.map_some]

theorem readAs_text {quote : Char} (quotes : quote = '\'' ∨ quote = '"') {s : String}
    {body : List Char} (written : QuotedBody quote s.toList body) :
    ReadAs (quote :: body ++ [quote]) (.text s) := by
  have facts : isBlank quote = false ∧ isDigit quote = false ∧ quote ≠ '\\' := by
    rcases quotes with rfl | rfl <;> decide +kernel
  obtain ⟨bare, noDigit, notEscape⟩ := facts
  refine ⟨quote, body ++ [quote], rfl, bare, fun rest _ => ?_⟩
  have scanned : scanQuoted quote (body ++ [quote] ++ rest) = some (s.toList, rest) := by
    rw [List.append_assoc]
    exact scanQuoted_body notEscape written rest
  simp only [readLexeme, noDigit, Bool.false_eq_true, if_false, quotes, if_true, scanned,
    String.ofList_toList]

theorem wordOpening_apart {c : Char} (opens : isLetter c = true ∨ c = '_') :
    isBlank c = false ∧ isDigit c = false ∧ ¬(c = '\'' ∨ c = '"') := by
  rcases opens with letter | rfl
  · refine ⟨isBlank_eq_false_of_isLetter letter, isDigit_eq_false_of_isLetter letter, ?_⟩
    rintro (rfl | rfl) <;> revert letter <;> decide +kernel
  · decide +kernel

theorem readAs_word {s : String} (word : IsWord s) :
    ReadAs s.toList ((keyword? s).getD (.name s)) := by
  obtain ⟨c, more, spelled, opens, within⟩ := word
  obtain ⟨bare, noDigit, noQuote⟩ := wordOpening_apart opens
  refine ⟨c, more, spelled, bare, fun rest ends => ?_⟩
  simp only [readLexeme, noDigit, Bool.false_eq_true, if_false, noQuote, opens, if_true,
    takeWhile_append_of_head within ends.not_nameChar,
    dropWhile_append_of_head within ends.not_nameChar, ← spelled, String.ofList_toList]

theorem isWord_ofList {c : Char} {rest : List Char} (opens : isLetter c = true)
    (within : rest.all isNameChar = true) : IsWord (String.ofList (c :: rest)) :=
  ⟨c, rest, String.toList_ofList, .inl opens, List.all_eq_true.mp within⟩

theorem isWord_of_keyword? {s : String} {word : Lexeme} (known : keyword? s = some word) :
    IsWord s := by
  have table : ∀ entry ∈ [("true", Lexeme.truth true), ("false", .truth false), ("null", .null),
      ("and", .and), ("or", .or), ("not", .not), ("in", .comparison .mem)],
      IsWord entry.1 := by
    simp only [List.forall_mem_cons, List.not_mem_nil, false_imp_iff, implies_true, and_true]
    exact ⟨isWord_ofList (c := 't') (by decide +kernel) (by decide +kernel),
      isWord_ofList (c := 'f') (by decide +kernel) (by decide +kernel),
      isWord_ofList (c := 'n') (by decide +kernel) (by decide +kernel),
      isWord_ofList (c := 'a') (by decide +kernel) (by decide +kernel),
      isWord_ofList (c := 'o') (by decide +kernel) (by decide +kernel),
      isWord_ofList (c := 'n') (by decide +kernel) (by decide +kernel),
      isWord_ofList (c := 'i') (by decide +kernel) (by decide +kernel)⟩
  exact table _ (Table.mem_of_lookup? known)

/-- A sign is found where it stands before something that ends it. The longer signs are tried first,
and what follows cannot make one out of a shorter one. -/
theorem sign?_of_mem_signTexts {cs : List Char} {word : Lexeme} (sign : (cs, word) ∈ signTexts)
    {rest : List Char} (ends : EndsLexeme rest) : sign? (cs ++ rest) = some (word, rest) := by
  have apart (more : List Char) (same : rest = '=' :: more) : False := by
    subst same
    exact (ends.head_apart '=' rfl).2.2 rfl
  simp only [signTexts, List.mem_cons, Prod.mk.injEq, List.not_mem_nil, or_false] at sign
  rcases sign with ⟨rfl, rfl⟩ | ⟨rfl, rfl⟩ | ⟨rfl, rfl⟩ | ⟨rfl, rfl⟩ | ⟨rfl, rfl⟩ | ⟨rfl, rfl⟩ |
    ⟨rfl, rfl⟩ | ⟨rfl, rfl⟩ | ⟨rfl, rfl⟩
  · rfl
  · rfl
  · rfl
  · rfl
  · rw [List.cons_append, List.nil_append, sign?]
    exact apart
  · rw [List.cons_append, List.nil_append, sign?]
    exact apart
  · rfl
  · rfl
  · rw [List.cons_append, List.nil_append, sign?]
    exact apart

/-- The characters that begin a sign, brackets and the comma included. -/
def signOpenings : List Char := ['=', '!', '<', '>', '&', '|', '(', ')', '[', ']', ',']

theorem readLexeme_of_sign? {c : Char} (opens : c ∈ signOpenings) {s after : List Char}
    {word : Lexeme} (found : sign? (c :: s) = some (word, after)) :
    isBlank c = false ∧ readLexeme c s = .ok (word, after) := by
  have table : ∀ c ∈ signOpenings, isBlank c = false ∧ isDigit c = false ∧
      ¬(c = '\'' ∨ c = '"') ∧ ¬(isLetter c = true ∨ c = '_') :=
    forall_mem_of_decide (by decide +kernel)
  obtain ⟨bare, noDigit, noQuote, noWord⟩ := table c opens
  refine ⟨bare, ?_⟩
  simp only [readLexeme, noDigit, Bool.false_eq_true, if_false, noQuote, noWord, found]

theorem readAs_sign {cs : List Char} {word : Lexeme} (sign : (cs, word) ∈ signTexts) :
    ReadAs cs word := by
  have openings : ∀ entry ∈ signTexts, ∃ c more, entry.1 = c :: more ∧ c ∈ signOpenings := by
    simp [signTexts, signOpenings]
  obtain ⟨c, more, rfl, opens⟩ := openings _ sign
  have read {rest : List Char} (ends : EndsLexeme rest) :=
    readLexeme_of_sign? opens (sign?_of_mem_signTexts sign ends)
  exact ⟨c, more, rfl, (read endsLexeme_nil).1, fun rest ends => (read ends).2⟩

/-- A text of a lexeme is read as that lexeme. -/
theorem LexemeText.readAs {word : Lexeme} {cs : List Char} (text : LexemeText word cs) :
    ReadAs cs word := by
  cases text with
  | integer short => exact readAs_integer short
  | text quotes written => exact readAs_text quotes written
  | name word unknown =>
    have read := readAs_word word
    rwa [unknown] at read
  | keyword known =>
    have read := readAs_word (isWord_of_keyword? known)
    rwa [known] at read
  | sign sign => exact readAs_sign sign

theorem readLexeme_mark {word : Lexeme} {c : Char} (mark : word.mark? = some c)
    (rest : List Char) : isBlank c = false ∧ readLexeme c rest = .ok (word, rest) := by
  have table : ∀ c ∈ ['(', ')', '[', ']', ','], c ∈ signOpenings :=
    forall_mem_of_decide (by decide +kernel)
  have found : sign? (c :: rest) = some (word, rest) := by cases word <;> cases mark <;> rfl
  exact readLexeme_of_sign? (table c (mem_marks_of_mark? mark)) found

/-- What is lexed with some tokens in front. -/
def Lexing.behind (front : List Token) (lexing : Lexing) : Lexing :=
  ⟨front ++ lexing.tokens, lexing.ending⟩

theorem Lexing.behind_behind (front more : List Token) (lexing : Lexing) :
    (lexing.behind more).behind front = lexing.behind (front ++ more) := by
  simp only [Lexing.behind, List.append_assoc]

/-- What is lexed of a text: nothing but its end if only blanks are left, and otherwise one lexeme
and what is lexed behind it, or the fault of what is no lexeme. -/
theorem lexRest_eq (total : Nat) (s : List Char) :
    lexRest total s =
      match trimLeft s with
      | [] => ⟨[], .ok total⟩
      | c :: rest =>
        match readLexeme c rest with
        | .error (.form fault) => ⟨[], .error (.form ⟨fault, total - (rest.length + 1)⟩)⟩
        | .error (.numeral fault) => ⟨[], .error (.numeral fault)⟩
        | .ok (word, after) => (lexRest total after).behind [⟨word, total - (rest.length + 1)⟩] := by
  rw [lexRest.eq_def]
  split
  · next empty => simp only [empty]
  · next c rest found =>
    split
    · next run => simp only [found, run]
    · next run => simp only [found, run]
    · next run =>
      simp only [found, run]
      rfl

theorem lexRest_of_read {total : Nat} {s rest after : List Char} {c : Char} {word : Lexeme}
    (trimmed : trimLeft s = c :: rest) (run : readLexeme c rest = .ok (word, after)) :
    lexRest total s =
      (lexRest total after).behind [⟨word, total - (rest.length + 1)⟩] := by
  rw [lexRest_eq, trimmed]
  simp only [run]

theorem lexRest_blanks (total : Nat) {blanks : List Char}
    (blank : ∀ c ∈ blanks, isBlank c = true) (rest : List Char) :
    lexRest total (blanks ++ rest) = lexRest total rest := by
  have skipped : trimLeft (blanks ++ rest) = trimLeft rest := by
    rw [trimLeft, trimLeft, List.dropWhile_append_of_pos blank]
  rw [lexRest_eq, skipped, ← lexRest_eq]

/-- The text of a lexeme before something that ends it gives that lexeme and what is lexed of the
rest. The offset is not needed where trees are concerned. -/
theorem LexemeText.lexRest_append {word : Lexeme} {cs rest : List Char}
    (text : LexemeText word cs) (ends : EndsLexeme rest) (total : Nat) :
    ∃ p, lexRest total (cs ++ rest) = (lexRest total rest).behind [⟨word, p⟩] := by
  obtain ⟨c, more, rfl, bare, read⟩ := text.readAs
  exact ⟨_, lexRest_of_read (trimLeft_cons bare (more ++ rest)) (read rest ends)⟩

theorem lexRest_mark (word : Lexeme) {c : Char} (mark : word.mark? = some c) (rest : List Char)
    (total : Nat) : ∃ p, lexRest total (c :: rest) = (lexRest total rest).behind [⟨word, p⟩] := by
  obtain ⟨bare, read⟩ := readLexeme_mark mark rest
  exact ⟨_, lexRest_of_read (trimLeft_cons bare rest) read⟩

end GuardedRecords
