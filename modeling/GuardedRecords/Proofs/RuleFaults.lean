import GuardedRecords.Proofs.FaultPlaces
import GuardedRecords.Proofs.LexemeLayout

namespace GuardedRecords

/-- Why a numeral has no value: one of its digits has none, or it is an integer of too many digits. -/
def Numeral.Valueless : Numeral → Prop
  | .integer digits => (∃ c ∈ digits, isDecimal c = false) ∨ integerDigitLimit < digits.length
  | .decimal whole fraction => ∃ c ∈ whole ++ fraction, isDecimal c = false

section Numerals

variable {digits whole fraction : List Char}

/-- A character has a value as a digit exactly if it is a decimal one. Other numerals, such as a
raised two, have none. -/
theorem decimalValue?_eq_none_iff {c : Char} : decimalValue? c = none ↔ isDecimal c = false := by
  rw [decimalValue?, Option.map_eq_none_iff, List.find?_eq_none, isDecimal, inRanges,
    List.any_eq_false]

theorem decimalDigits?_eq_none_iff :
    decimalDigits? digits = none ↔ ∃ c ∈ digits, isDecimal c = false := by
  have stuck (cs : List Char) : cs.foldl (fun acc c => acc.bind fun n : Nat =>
      (decimalValue? c).map fun d => 10 * n + d) none = none := by
    induction cs with
    | nil => rfl
    | cons c rest ih => exact ih
  have run (n : Nat) : digits.foldl (fun acc c => acc.bind fun n =>
      (decimalValue? c).map fun d => 10 * n + d) (some n) = none ↔
      ∃ c ∈ digits, isDecimal c = false := by
    induction digits generalizing n with
    | nil => simp
    | cons c rest ih =>
      rw [List.foldl_cons, Option.bind_some, List.exists_mem_cons_iff]
      cases value : decimalValue? c with
      | none =>
        rw [Option.map_none, stuck]
        exact ⟨fun _ => .inl (decimalValue?_eq_none_iff.mp value), fun _ => rfl⟩
      | some d =>
        have known : ¬isDecimal c = false := by simp [← decimalValue?_eq_none_iff, value]
        rw [Option.map_some, ih, or_iff_right known]
  exact run 0

/-- An integer has no value if one of its numerals is no decimal digit, or if there are too many of
them. -/
theorem readInteger_error_iff : (∃ fault, readInteger digits = .error fault) ↔
    (∃ c ∈ digits, isDecimal c = false) ∨ integerDigitLimit < digits.length := by
  rw [← decimalDigits?_eq_none_iff, readInteger]
  split
  · next overlong =>
    have longer := Nat.lt_of_lt_of_le overlong (List.takeWhile_prefix isDecimal).length_le
    exact ⟨fun _ => .inr longer, fun _ => ⟨_, rfl⟩⟩
  · next short =>
    split
    · next n value =>
      have decimal : ∀ c ∈ digits, isDecimal c = true := by
        intro c member
        by_contra other
        have unread := decimalDigits?_eq_none_iff.mpr ⟨c, member, Bool.eq_false_iff.mpr other⟩
        rw [value] at unread
        cases unread
      -- The limit is on the decimal digits in front, which are all of them here.
      rw [List.takeWhile_eq_self_iff.mpr decimal] at short
      simp [value, short]
    · next unread => exact ⟨fun _ => .inl unread, fun _ => ⟨_, rfl⟩⟩

/-- A decimal number has no value only if one of its numerals is no decimal digit; no number of
digits is too large for it. -/
theorem readDecimal_error_iff : (∃ fault, readDecimal whole fraction = .error fault) ↔
    ∃ c ∈ whole ++ fraction, isDecimal c = false := by
  rw [← decimalDigits?_eq_none_iff, readDecimal]
  split
  · next n value => simp [value]
  · next unread => exact ⟨fun _ => unread, fun _ => ⟨_, rfl⟩⟩

theorem Numeral.value_error_iff {numeral : Numeral} :
    (∃ fault, numeral.value = .error fault) ↔ numeral.Valueless := by
  cases numeral with
  | integer digits =>
    simp only [Numeral.value, map_eq_error_iff]
    exact readInteger_error_iff
  | decimal whole fraction =>
    simp only [Numeral.value, map_eq_error_iff]
    exact readDecimal_error_iff

end Numerals

/-- The part of a text from the first place on at which there is something that is no lexeme, when
the lexemes before it are read one behind the other. -/
inductive FirstUnread : List Char → List Char → Prop
  | here {gap rest : List Char} {c : Char} {fault : LexFault} : Blanks gap → isBlank c = false →
      readLexeme c rest = .error fault → FirstUnread (gap ++ c :: rest) (c :: rest)
  | later {gap rest after bad : List Char} {c : Char} {word : Lexeme} : Blanks gap →
      isBlank c = false → readLexeme c rest = .ok (word, after) → FirstUnread after bad →
      FirstUnread (gap ++ c :: rest) bad

/-- The fault of a rule whose lexemes can be read up to some offset. -/
def LexFault.placed (position : Nat) : LexFault → RuleFault
  | .form fault => .form ⟨fault, position⟩
  | .numeral fault => .numeral fault

section Lexemes

variable {s bad : List Char}

/-- Only a numeral is refused for its value. -/
theorem readLexeme_numeral_error {c : Char} {rest : List Char} {fault : NumeralFault}
    (failed : readLexeme c rest = .error (.numeral fault)) :
    ∃ (numeral : Numeral) (after : List Char), numeral.Stands after ∧ numeral.Valueless ∧
      c :: rest = numeral.spelling ++ after := by
  by_cases digit : isDigit c = true
  · obtain ⟨numeral, more, after, stands, spelled, rfl⟩ := exists_numeral digit rest
    rw [stands.readLexeme_eq spelled, map_eq_error_iff] at failed
    obtain ⟨cause, unvalued, -⟩ := mapError_eq_error_iff.mp failed
    exact ⟨numeral, after, stands, Numeral.value_error_iff.mp ⟨cause, unvalued⟩, by rw [spelled]; rfl⟩
  · rw [readLexeme, if_neg digit] at failed
    split at failed
    · split at failed <;> cases failed
    · split at failed
      · cases failed
      · split at failed <;> cases failed

theorem Numeral.Stands.readLexeme_error {numeral : Numeral} {c : Char} {rest after : List Char}
    (stands : numeral.Stands after) (valueless : numeral.Valueless)
    (spelled : numeral.spelling ++ after = c :: rest) :
    ∃ fault, readLexeme c rest = .error (.numeral fault) := by
  obtain ⟨fault, unvalued⟩ := Numeral.value_error_iff.mpr valueless
  obtain ⟨more, opening⟩ : ∃ more, numeral.spelling = c :: more := by
    cases stands <;> exact ⟨_, by rw [← (List.cons.inj spelled).1]; rfl⟩
  obtain rfl : more ++ after = rest := by
    rw [opening] at spelled
    exact (List.cons.inj spelled).2
  exact ⟨fault, by rw [stands.readLexeme_eq opening, unvalued]; rfl⟩

/-- What is lexed before the first place that cannot be read ends with the fault of that place, and
with its offset unless a numeral is at fault. -/
theorem FirstUnread.ending (unread : FirstUnread s bad) (total : Nat) :
    ∃ c rest fault, bad = c :: rest ∧ readLexeme c rest = .error fault ∧
      (lexRest total s).ending = .error (fault.placed (total - bad.length)) := by
  induction unread with
  | @here gap rest c fault blank bare failed =>
    refine ⟨c, rest, fault, rfl, failed, ?_⟩
    rw [lexRest_blanks total blank, lexRest_eq, trimLeft_cons bare]
    simp only [failed]
    cases fault <;> rfl
  | later blank bare run _ ih =>
    obtain ⟨c, rest, fault, rfl, failed, ending⟩ := ih
    refine ⟨c, rest, fault, rfl, failed, ?_⟩
    rw [lexRest_blanks total blank, lexRest_of_read (trimLeft_cons bare _) run]
    exact ending

/-- If a text is not lexed to its end, something in it is unread. The induction is on the length of
the text. -/
theorem exists_firstUnread {total : Nat} {fault : RuleFault}
    (lexed : (lexRest total s).ending = .error fault) : ∃ bad, FirstUnread s bad := by
  induction length : s.length using Nat.strong_induction_on generalizing s with
  | _ count ih =>
    obtain ⟨gap, split, blank⟩ := exists_trimLeft s
    cases trimmed : trimLeft s with
    | nil =>
      rw [lexRest_eq, trimmed] at lexed
      cases lexed
    | cons c rest =>
      have bare := bare_of_trimLeft trimmed
      cases run : readLexeme c rest with
      | error cause =>
        rw [split, trimmed]
        exact ⟨_, .here blank bare run⟩
      | ok found =>
        obtain ⟨word, after⟩ := found
        rw [lexRest_of_read trimmed run] at lexed
        obtain ⟨bad, unread⟩ := ih _ (length ▸ readLexeme_shorter trimmed run) lexed rfl
        rw [split, trimmed]
        exact ⟨bad, .later blank bare run unread⟩

theorem lexRest_position_le {total : Nat} :
    ∀ t ∈ (lexRest total s).tokens, t.position ≤ total := by
  induction length : s.length using Nat.strong_induction_on generalizing s with
  | _ count ih =>
    intro t member
    rw [lexRest_eq] at member
    split at member
    · cases member
    · next c rest trimmed =>
      split at member
      · cases member
      · cases member
      · next word after run =>
        rcases List.mem_cons.mp member with rfl | later
        · exact Nat.sub_le _ _
        · exact ih _ (length ▸ readLexeme_shorter trimmed run) rfl t later

end Lexemes

section Rules

variable {text : String}

/-- What is no lexeme is reported, whatever the order of the lexemes before it: a text is lexed as a
whole before it is parsed. -/
theorem Expr.parse_of_firstUnread {bad : List Char} (unread : FirstUnread text.toList bad) :
    ∃ c rest fault, bad = c :: rest ∧ readLexeme c rest = .error fault ∧
      Expr.parse text = .error (fault.placed (text.length - bad.length)) := by
  obtain ⟨c, rest, fault, rfl, failed, ending⟩ := unread.ending text.length
  refine ⟨c, rest, fault, rfl, failed, ?_⟩
  rw [Expr.parse, lex, String.length_toList, ending]

/-- Either some place of a text cannot be read as a lexeme, or the text is parsed by its tokens. The
first case comes before every fault of syntax. -/
theorem Expr.firstUnread_or_parse_eq (text : String) :
    (∃ bad, FirstUnread text.toList bad) ∨
      Expr.parse text = (parseTokens text.length (lex text.toList).tokens).mapError .form := by
  rw [Expr.parse, lex, String.length_toList]
  cases ending : (lexRest text.length text.toList).ending with
  | error fault => exact .inl (exists_firstUnread ending)
  | ok finish =>
    obtain ⟨rfl, -⟩ := exists_readInPlace ending
    exact .inr rfl

/-- A fault of form is placed within the text or at its end. -/
theorem Expr.parse_form_position_le {error : SyntaxError}
    (refused : Expr.parse text = .error (.form error)) : error.position ≤ text.length := by
  rcases Expr.firstUnread_or_parse_eq text with ⟨bad, unread⟩ | parsed
  · obtain ⟨c, rest, fault, -, -, stopped⟩ := Expr.parse_of_firstUnread unread
    rw [refused] at stopped
    cases fault with
    | form fault =>
      cases stopped
      exact Nat.sub_le _ _
    | numeral fault => cases stopped
  · rw [refused] at parsed
    obtain ⟨cause, failed, same⟩ := mapError_eq_error_iff.mp parsed.symm
    cases same
    obtain ⟨rest, behind, placed⟩ := parseTokens_within _ _ error failed
    exact placed ▸ nextPosition_le lexRest_position_le behind

/-- A rule fails for a numeral exactly if the first place that cannot be read is a numeral without a
value. -/
theorem Expr.parse_numeral_error_iff : (∃ fault, Expr.parse text = .error (.numeral fault)) ↔
    ∃ (numeral : Numeral) (after : List Char), numeral.Stands after ∧ numeral.Valueless ∧
      FirstUnread text.toList (numeral.spelling ++ after) := by
  constructor
  · rintro ⟨fault, refused⟩
    rcases Expr.firstUnread_or_parse_eq text with ⟨bad, unread⟩ | parsed
    · obtain ⟨c, rest, cause, rfl, failed, stopped⟩ := Expr.parse_of_firstUnread unread
      rw [refused] at stopped
      cases cause with
      | form fault => cases stopped
      | numeral fault =>
        obtain ⟨numeral, after, stands, valueless, spelled⟩ := readLexeme_numeral_error failed
        exact ⟨numeral, after, stands, valueless, spelled ▸ unread⟩
    · rw [refused] at parsed
      obtain ⟨cause, -, same⟩ := mapError_eq_error_iff.mp parsed.symm
      cases same
  · rintro ⟨numeral, after, stands, valueless, unread⟩
    obtain ⟨c, rest, fault, spelled, failed, stopped⟩ := Expr.parse_of_firstUnread unread
    obtain ⟨cause, unvalued⟩ := stands.readLexeme_error valueless spelled
    cases failed.symm.trans unvalued
    exact ⟨cause, stopped⟩

end Rules

/-- A text is read as a rule, or refused for its form at an offset that is no greater than its
length, or refused for a number. The last is so just when the first part that is no lexeme is a
numeral without a value. Whatever the first such part is, it is what the text is refused for; the
order of the lexemes matters only if there is none. -/
theorem Expr.parse_outcomes (text : String) :
    ((∃ e, Expr.parse text = .ok e) ∨
      (∃ error, Expr.parse text = .error (.form error) ∧ error.position ≤ text.length) ∨
      ∃ fault, Expr.parse text = .error (.numeral fault)) ∧
    ((∃ fault, Expr.parse text = .error (.numeral fault)) ↔
      ∃ (numeral : Numeral) (after : List Char), numeral.Stands after ∧ numeral.Valueless ∧
        FirstUnread text.toList (numeral.spelling ++ after)) ∧
    (∀ bad, FirstUnread text.toList bad → ∃ c rest fault, bad = c :: rest ∧
      readLexeme c rest = .error fault ∧
      Expr.parse text = .error (fault.placed (text.length - bad.length))) ∧
    ((¬∃ bad, FirstUnread text.toList bad) →
      Expr.parse text = (parseTokens text.length (lex text.toList).tokens).mapError .form) := by
  refine ⟨?_, Expr.parse_numeral_error_iff, fun bad => Expr.parse_of_firstUnread,
    (Expr.firstUnread_or_parse_eq text).resolve_left⟩
  cases outcome : Expr.parse text with
  | ok e => exact .inl ⟨e, rfl⟩
  | error fault =>
    cases fault with
    | form error => exact .inr (.inl ⟨error, rfl, Expr.parse_form_position_le outcome⟩)
    | numeral fault => exact .inr (.inr ⟨fault, rfl⟩)

end GuardedRecords
