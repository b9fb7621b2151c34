import GuardedRecords.Rule.Fault
import GuardedRecords.Text.Split

namespace GuardedRecords

/-- The words with a meaning of their own. -/
def keyword? (word : String) : Option Lexeme :=
  List.lookup word [("true", .truth true), ("false", .truth false), ("null", .null),
    ("and", .and), ("or", .or), ("not", .not), ("in", .comparison .mem)]

/-- The sign at the front of a text, the longer one where two begin alike, and the rest. -/
def sign? : List Char → Option (Lexeme × List Char)
  | '=' :: '=' :: rest => some (.comparison .eq, rest)
  | '!' :: '=' :: rest => some (.comparison .ne, rest)
  | '<' :: '=' :: rest => some (.comparison .le, rest)
  | '>' :: '=' :: rest => some (.comparison .ge, rest)
  | '&' :: '&' :: rest => some (.and, rest)
  | '|' :: '|' :: rest => some (.or, rest)
  | '<' :: rest => some (.comparison .lt, rest)
  | '>' :: rest => some (.comparison .gt, rest)
  | '!' :: rest => some (.not, rest)
  | '(' :: rest => some (.openParen, rest)
  | ')' :: rest => some (.closeParen, rest)
  | '[' :: rest => some (.openBracket, rest)
  | ']' :: rest => some (.closeBracket, rest)
  | ',' :: rest => some (.comma, rest)
  | _ => none

/-- The number that decimal digits of any scripts spell, if all of them are such digits. -/
def decimalDigits? (digits : List Char) : Option Nat :=
  digits.foldl (fun acc c => acc.bind fun n => (decimalValue? c).map fun d => 10 * n + d) (some 0)

def readInteger (digits : List Char) : Except NumeralFault Nat :=
  let leading := (digits.takeWhile isDecimal).length
  if integerDigitLimit < leading then .error (.overlong leading)
  else match decimalDigits? digits with
    | some n => .ok n
    | none => .error (.integer (String.ofList digits))

def readDecimal (whole fraction : List Char) : Except NumeralFault Binary64 :=
  match decimalDigits? (whole ++ fraction) with
  | some n => .ok (.ofDecimal false n (-(fraction.length : Int)))
  | none => .error (.decimal (String.ofList (whole ++ '.' :: fraction)))

/-- The digits after a point that a digit follows. -/
def fractionOf : List Char → List Char
  | '.' :: rest => rest.takeWhile isDigit
  | _ => []

/-- Reads on to the closing quote. A backslash lets the next character stand for itself. -/
def scanQuoted (quote : Char) : List Char → Option (List Char × List Char)
  | [] => none
  | '\\' :: c :: rest => (scanQuoted quote rest).map fun r => (c :: r.1, r.2)
  | c :: rest =>
    if c = quote then some ([], rest) else (scanQuoted quote rest).map fun r => (c :: r.1, r.2)

def isNameChar (c : Char) : Bool := isLetterOrNumeral c || c = '_' || c = '.'

/-- Why no lexeme can be read at some place. -/
inductive LexFault
  | form (fault : SyntaxFault)
  | numeral (fault : NumeralFault)

/-- The lexeme that begins with the character `c`, which is no blank, and what follows it. -/
def readLexeme (c : Char) (rest : List Char) : Except LexFault (Lexeme × List Char) :=
  if isDigit c then
    let whole := c :: rest.takeWhile isDigit
    let afterWhole := rest.dropWhile isDigit
    let fraction := fractionOf afterWhole
    if fraction.isEmpty then
      match readInteger whole with
      | .ok n => .ok (.integer n, afterWhole)
      | .error fault => .error (.numeral fault)
    else
      match readDecimal whole fraction with
      | .ok x => .ok (.decimal x, afterWhole.drop (fraction.length + 1))
      | .error fault => .error (.numeral fault)
  else if c = '\'' ∨ c = '"' then
    match scanQuoted c rest with
    | some (s, after) => .ok (.text (String.ofList s), after)
    | none => .error (.form .unterminatedText)
  else if isLetter c ∨ c = '_' then
    let word := String.ofList (c :: rest.takeWhile isNameChar)
    .ok ((keyword? word).getD (.name word), rest.dropWhile isNameChar)
  else
    match sign? (c :: rest) with
    | some found => .ok found
    | none => .error (.form (if c = '=' then .loneEqual else .invalidCharacter c))

theorem scanQuoted_length {quote : Char} {s out after : List Char}
    (h : scanQuoted quote s = some (out, after)) : after.length < s.length := by
  fun_induction scanQuoted quote s generalizing out after with
  | case1 => simp at h
  | case2 c rest ih =>
    obtain ⟨⟨out', after'⟩, run, same⟩ := Option.map_eq_some_iff.1 h
    cases same
    have := ih run
    simp only [List.length_cons]; omega
  | case3 rest => cases h; simp
  | case4 c rest _ _ ih =>
    obtain ⟨⟨out', after'⟩, run, same⟩ := Option.map_eq_some_iff.1 h
    cases same
    have := ih run
    simp only [List.length_cons]; omega

theorem sign?_length {s after : List Char} {l : Lexeme} (h : sign? s = some (l, after)) :
    after.length < s.length := by
  unfold sign? at h
  split at h <;> cases h <;> simp only [List.length_cons] <;> omega

/-- A lexeme takes at least its first character. -/
theorem readLexeme_length {c : Char} {rest after : List Char} {l : Lexeme}
    (h : readLexeme c rest = .ok (l, after)) : after.length ≤ rest.length := by
  unfold readLexeme at h
  have digits := (List.dropWhile_suffix (l := rest) isDigit).length_le
  have names := (List.dropWhile_suffix (l := rest) isNameChar).length_le
  split at h
  · dsimp only at h
    split at h <;> split at h <;> cases h
    · exact digits
    · rw [List.length_drop]; omega
  · split at h
    · split at h
      · next run => cases h; exact Nat.le_of_lt (scanQuoted_length run)
      · cases h
    · split at h
      · cases h; exact names
      · split at h
        · next found => cases h; exact Nat.le_of_lt_succ (sign?_length found)
        · cases h

theorem readLexeme_shorter {s rest after : List Char} {c : Char} {l : Lexeme}
    (trimmed : trimLeft s = c :: rest) (run : readLexeme c rest = .ok (l, after)) :
    after.length < s.length := by
  have atMost := (List.dropWhile_suffix (l := s) isBlank).length_le
  rw [trimLeft] at trimmed
  rw [trimmed, List.length_cons] at atMost
  exact Nat.lt_of_lt_of_le (Nat.lt_succ_of_le (readLexeme_length run)) atMost

/-- The tokens of a text up to its end or up to the first place where none can be read. -/
structure Lexing where
  tokens : List Token
  ending : Except RuleFault Nat

/-- The tokens of `s`, the last part of a text of `total` characters. -/
def lexRest (total : Nat) (s : List Char) : Lexing :=
  match trimmed : trimLeft s with
  | [] => ⟨[], .ok total⟩
  | c :: rest =>
    let position := total - (rest.length + 1)
    match run : readLexeme c rest with
    | .error (.form fault) => ⟨[], .error (.form ⟨fault, position⟩)⟩
    | .error (.numeral fault) => ⟨[], .error (.numeral fault)⟩
    | .ok (lexeme, after) =>
      have := readLexeme_shorter trimmed run
      let more := lexRest total after
      ⟨⟨lexeme, position⟩ :: more.tokens, more.ending⟩
termination_by s.length

def lex (s : List Char) : Lexing := lexRest s.length s

end GuardedRecords
