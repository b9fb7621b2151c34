import GuardedRecords.Proofs.JsonNumbers

namespace GuardedRecords

section Scalars

/-- The values that are written as words. -/
def scalarWords : List (List Char × Value) :=
  [("null".toList, .null), ("true".toList, .bool true), ("false".toList, .bool false),
    ("NaN".toList, .double (.nan 0)), ("Infinity".toList, .double (.infinite false)),
    ("-Infinity".toList, .double (.infinite true))]

/-- A scalar is one of the known words, or else a number. This is the reader with its branches put
into a table of the words. -/
theorem readScalar_eq (s : List Char) :
    readScalar s =
      match scalarWords.find? fun entry => entry.1.isPrefixOf s with
      | some (word, v) => .ok (v, s.drop word.length)
      | none =>
        match readNumber? s with
        | some (.ok v, rest) => .ok (v, rest)
        | some (.error fault, rest) => .error ⟨fault, rest⟩
        | none => .error ⟨.expectedValue, s⟩ := by
  rw [readScalar, scalarWords]
  simp only [List.find?_cons, List.find?_nil]
  cases "null".toList.isPrefixOf s
  case true => rfl
  cases "true".toList.isPrefixOf s
  case true => rfl
  cases "false".toList.isPrefixOf s
  case true => rfl
  cases "NaN".toList.isPrefixOf s
  case true => rfl
  cases "Infinity".toList.isPrefixOf s
  case true => rfl
  cases "-Infinity".toList.isPrefixOf s
  case true => rfl
  rfl

/-- A known word is read as its value whatever follows it: no other word begins with it, and none
begins like a number. -/
theorem readScalar_word {word : List Char} {v : Value} (known : (word, v) ∈ scalarWords)
    (rest : List Char) : readScalar (word ++ rest) = .ok (v, rest) := by
  simp only [scalarWords, List.mem_cons, Prod.mk.injEq, List.not_mem_nil, or_false] at known
  rcases known with ⟨rfl, rfl⟩ | ⟨rfl, rfl⟩ | ⟨rfl, rfl⟩ | ⟨rfl, rfl⟩ | ⟨rfl, rfl⟩ | ⟨rfl, rfl⟩ <;> rfl

/-- What the reading of a number comes to, up to its end. -/
def numberRead (result : Except ReadFault Value) (rest : List Char) :
    Except ReadStop (Value × List Char) :=
  match result with
  | .ok v => .ok (v, rest)
  | .error fault => .error ⟨fault, rest⟩

variable {n : NumberParts} {rest : List Char}

/-- No known word stands where a number does. The word with a minus sign is told apart from a number
by the letter behind the sign. -/
theorem NumberParts.WellFormed.noWord (form : n.WellFormed) :
    (scalarWords.find? fun entry => entry.1.isPrefixOf (n.text ++ rest)) = none := by
  obtain ⟨d, others, front⟩ := List.exists_cons_of_ne_nil form.filled
  have digit : isAsciiDigit d = true := form.whole d (front ▸ List.mem_cons_self)
  rw [List.find?_eq_none, NumberParts.text, front]
  intro entry known
  simp only [scalarWords, List.mem_cons, List.not_mem_nil, or_false] at known
  -- A word that begins like a number goes on with a letter where the number has a digit.
  cases n.negative <;> rcases known with rfl | rfl | rfl | rfl | rfl | rfl <;> simp
  all_goals
    rintro rfl
    exact absurd digit (by decide)

/-- A well-formed number is read to its end as the value of its digits, or fails for having too many
of them. -/
theorem readScalar_number (form : n.WellFormed) (stops : StopsNumber rest) :
    readScalar (n.text ++ rest) = numberRead n.result rest := by
  rw [readScalar_eq, form.noWord, form.read stops]
  cases n.result <;> rfl

theorem exponentPart?_eq_none {exponent : List Char}
    (form : exponent = [] ∨ ExponentText exponent) (none : exponentPart? exponent = none) :
    exponent = [] := by
  rcases form with rfl | form
  · rfl
  · obtain ⟨power, read⟩ := form.read
    have alone := read [] nofun
    rw [List.append_nil, none] at alone
    cases alone

/-- Only an integer of too many digits is a number that is not read. -/
theorem NumberParts.WellFormed.result_eq_error_iff (form : n.WellFormed) {fault : ReadFault} :
    n.result = .error fault ↔
      n.fraction = [] ∧ n.exponent = [] ∧ integerDigitLimit < n.whole.length ∧
        fault = .overlongInteger n.whole.length := by
  rw [NumberParts.result]
  cases present : exponentPart? n.exponent with
  | some read =>
    have filled : n.exponent ≠ [] := by
      intro none
      rw [none] at present
      cases present
    simp [numberOf, filled]
  | none =>
    have noExponent := exponentPart?_eq_none form.exponent present
    by_cases point : n.fraction = []
    · by_cases long : integerDigitLimit < n.whole.length <;>
        simp [numberOf, point, noExponent, long, @eq_comm _ fault]
    · simp [numberOf, point]

/-- What is read off the front of a text as a value other than a text or brackets: a known word, a
number, or nothing. -/
theorem readScalar_cases (s : List Char) :
    (∃ word v rest, (word, v) ∈ scalarWords ∧ s = word ++ rest) ∨
      (∃ n rest, NumberParts.WellFormed n ∧ s = n.text ++ rest ∧
        readScalar s = numberRead n.result rest ∧
        (n.fraction = [] → n.exponent = [] → n.whole ≠ ['0'] → StopsNumber rest)) ∨
      readScalar s = .error ⟨.expectedValue, s⟩ := by
  cases found : scalarWords.find? fun entry => entry.1.isPrefixOf s with
  | some entry =>
    obtain ⟨word, v⟩ := entry
    have start : word <+: s := by simpa using List.find?_some found
    obtain ⟨rest, rfl⟩ := start
    exact .inl ⟨word, v, rest, List.mem_of_find?_eq_some found, rfl⟩
  | none =>
    refine .inr ?_
    rw [readScalar_eq, found]
    cases read : readNumber? s with
    | none => exact .inr rfl
    | some number =>
      obtain ⟨result, rest⟩ := number
      obtain ⟨n, form, rfl, text, stops⟩ := exists_numberParts read
      refine .inl ⟨n, rest, form, text, ?_, stops⟩
      cases n.result <;> rfl

theorem NumberParts.WellFormed.text_ne_nil (form : n.WellFormed) : n.text ≠ [] := by
  rw [NumberParts.text]
  simp [form.filled]

theorem scalarWords_ne_nil {word : List Char} {v : Value} (known : (word, v) ∈ scalarWords) :
    word ≠ [] := by
  have table : ∀ entry ∈ scalarWords.map Prod.fst, entry ≠ [] := by decide
  exact table word (List.mem_map_of_mem known)

/-- A scalar is read in the same way whatever follows that does not go on with a number. The known
words are read alike before anything. -/
theorem readScalar_local {s rest : List Char} {v : Value} (read : readScalar s = .ok (v, rest)) :
    ∃ front, front ≠ [] ∧ s = front ++ rest ∧
      ∀ more, EndsNumber more → readScalar (front ++ more) = .ok (v, more) := by
  rcases readScalar_cases s with ⟨word, known, rest', member, rfl⟩ | ⟨n, rest', form, rfl, same, -⟩ |
    refused
  · rw [readScalar_word member] at read
    cases read
    exact ⟨word, scalarWords_ne_nil member, rfl, fun more _ => readScalar_word member more⟩
  · rw [same] at read
    cases number : n.result with
    | error fault =>
      rw [number] at read
      cases read
    | ok v =>
      rw [number] at read
      cases read
      refine ⟨n.text, form.text_ne_nil, rfl, fun more ends => ?_⟩
      rw [readScalar_number form ends.stopsNumber, number]
      rfl
  · rw [refused] at read
    cases read

/-- An integer as it is written, with more digits than one may have; they are counted. -/
inductive OverlongInteger : List Char → Nat → Prop
  | written {sign digits : List Char} (signed : sign = [] ∨ sign = ['-'])
      (decimal : ∀ c ∈ digits, isAsciiDigit c = true) (leading : digits.head? ≠ some '0')
      (long : integerDigitLimit < digits.length) : OverlongInteger (sign ++ digits) digits.length

/-- An integer with too many digits is refused where it ends, and the digits are counted without
leading zeros, which it cannot have. -/
theorem readScalar_overlong {number rest : List Char} {size : Nat}
    (overlong : OverlongInteger number size) (stops : StopsNumber rest) :
    readScalar (number ++ rest) = .error ⟨.overlongInteger size, rest⟩ := by
  obtain @⟨sign, digits, signed, decimal, leading, long⟩ := overlong
  obtain ⟨negative, rfl⟩ : ∃ negative : Bool, sign = if negative then ['-'] else [] := by
    rcases signed with rfl | rfl
    · exact ⟨false, rfl⟩
    · exact ⟨true, rfl⟩
  have form : NumberParts.WellFormed ⟨negative, digits, [], []⟩ := {
    filled := List.ne_nil_of_length_pos (Nat.zero_lt_of_lt long)
    whole := decimal
    leading := fun zero => absurd zero leading
    fraction := nofun
    exponent := .inl rfl }
  have text : NumberParts.text ⟨negative, digits, [], []⟩ =
      (if negative then ['-'] else []) ++ digits := by
    simp [NumberParts.text, NumberParts.tail, pointed]
  rw [← text, readScalar_number form stops, form.result_eq_error_iff.mpr ⟨rfl, rfl, long, rfl⟩]
  rfl

/-- A scalar fails in only two ways: no value begins here, or an integer of too many digits does. -/
theorem exists_overlongInteger {s : List Char} {stop : ReadStop} (read : readScalar s = .error stop) :
    stop = ⟨.expectedValue, s⟩ ∨
      ∃ number size rest, OverlongInteger number size ∧ StopsNumber rest ∧ s = number ++ rest ∧
        stop = ⟨.overlongInteger size, rest⟩ := by
  rcases readScalar_cases s with ⟨word, known, rest, member, rfl⟩ | ⟨n, rest, form, rfl, same, ends⟩ |
    refused
  · rw [readScalar_word member] at read
    cases read
  · rw [same] at read
    cases number : n.result with
    | ok v =>
      rw [number] at read
      cases read
    | error fault =>
      rw [number] at read
      cases read
      obtain ⟨noFraction, noExponent, long, rfl⟩ := form.result_eq_error_iff.mp number
      have notZero : n.whole ≠ ['0'] := by
        intro zero
        rw [zero] at long
        exact absurd long (by decide)
      have text : n.text = (if n.negative then ['-'] else []) ++ n.whole := by
        simp [NumberParts.text, NumberParts.tail, pointed, noFraction, noExponent]
      refine .inr ⟨n.text, _, rest, ?_, ends noFraction noExponent notZero, rfl, rfl⟩
      rw [text]
      refine .written ?_ form.whole (fun zero => notZero (form.leading zero)) long
      cases n.negative
      · exact .inl rfl
      · exact .inr rfl
  · rw [refused] at read
    cases read
    exact .inl rfl

end Scalars

section Texts

/-- What stands for a unit of a text, when something follows it. -/
def WritesUnit (front : List Char) (unit : TextUnit) : Prop :=
  ∀ opening rest, rest ≠ [] →
    scanText opening (front ++ rest) = (scanText opening rest).map fun r => (unit :: r.1, r.2)

/-- Whether a fault is one of a quoted text. -/
def ReadFault.ofText : ReadFault → Bool
  | .unterminatedText | .controlCharacter | .badEscape | .badCodeEscape => true
  | _ => false

/-- How a text goes on: with its closing quote, or with what stands for a unit, or wrongly. -/
def TextGoesOn (s : List Char) : Prop :=
  (∃ rest, s = '"' :: rest) ∨
    (∃ front unit rest, front ≠ [] ∧ rest ≠ [] ∧ WritesUnit front unit ∧ s = front ++ rest) ∨
    ∀ opening, ∃ stop : ReadStop, scanText opening s = .error stop ∧ stop.fault.ofText = true

/-- A text goes on with whatever is scanned as one unit in front of it. Where nothing is left behind
the unit, the closing quote is missing and the text is wrong. -/
theorem textGoesOn_of_unit (front : List Char) (unit : TextUnit) (filled : front ≠ [])
    (writes : ∀ opening rest, scanText opening (front ++ rest) =
      (scanText opening rest).map fun r => (unit :: r.1, r.2)) (rest : List Char) :
    TextGoesOn (front ++ rest) := by
  by_cases some : rest = []
  · subst some
    exact .inr (.inr fun opening => ⟨⟨.unterminatedText, opening⟩, writes opening [], rfl⟩)
  · exact .inr (.inl ⟨front, unit, rest, filled, some, fun opening rest _ => writes opening rest, rfl⟩)

/-- A text goes on in one of three ways at every place; the cases are those of the scanner, with all
faults together. -/
theorem textGoesOn (s : List Char) : TextGoesOn s := by
  fun_cases scanText [] s
  case case1 => exact .inr (.inr fun opening => ⟨⟨.unterminatedText, opening⟩, rfl, rfl⟩)
  case case2 rest => exact .inl ⟨rest, rfl⟩
  case case3 => exact .inr (.inr fun opening => ⟨⟨.unterminatedText, opening⟩, rfl, rfl⟩)
  case case4 a b c d rest n read goesOn =>
    refine .inr (.inl ⟨['\\', 'u', a, b, c, d], .code n, rest, by simp, by simpa using goesOn, ?_, rfl⟩)
    intro opening rest more
    have goesOn : rest.isEmpty = false := List.isEmpty_eq_false_iff.mpr more
    simp only [List.cons_append, List.nil_append]
    rw [scanText, goesOn, read]
  case case5 a b c d rest wrong =>
    refine .inr (.inr fun opening => ⟨⟨.badCodeEscape, 'u' :: a :: b :: c :: d :: rest⟩, ?_, rfl⟩)
    rw [scanText]
    split
    · next ended read => exact (wrong _ ended read).elim
    · rfl
  case case6 rest short =>
    refine .inr (.inr fun opening => ⟨⟨.badCodeEscape, 'u' :: rest⟩, ?_, rfl⟩)
    rw [scanText]
    exact short
  case case7 c rest notCode notEscape e known =>
    refine textGoesOn_of_unit ['\\', c] (.char e) (by simp) ?_ rest
    intro opening rest
    simp only [List.cons_append, List.nil_append]
    rw [scanText, known]
    · exact fun _ _ _ _ _ same => (notEscape same).elim
    · exact notEscape
  case case8 c rest notCode notEscape unknown =>
    refine .inr (.inr fun opening => ⟨⟨.badEscape, '\\' :: c :: rest⟩, ?_, rfl⟩)
    rw [scanText, unknown]
    · exact notCode
    · exact notEscape
  case case9 c rest notQuote _ _ _ notEscape control =>
    refine .inr (.inr fun opening => ⟨⟨.controlCharacter, c :: rest⟩, ?_, rfl⟩)
    rw [scanText, if_pos control]
    all_goals assumption
  case case10 c rest notQuote alone _ _ notEscape visible =>
    have notEscape : c ≠ '\\' := by
      intro same
      cases rest with
      | nil => exact alone same rfl
      | cons d rest => exact notEscape d rest same rfl
    refine textGoesOn_of_unit [c] (.char c) (by simp) ?_ rest
    intro opening rest
    rw [List.singleton_append, scanText, if_neg visible]
    · exact notQuote
    all_goals simp [notEscape]

variable {opening s rest : List Char} {units : List TextUnit}

/-- A text is scanned in the same way whatever follows its closing quote, since the first quote that
is not escaped ends it. -/
theorem scanText_local (scan : scanText opening s = .ok (units, rest)) :
    ∃ front, front ≠ [] ∧ s = front ++ rest ∧
      ∀ opening more, scanText opening (front ++ more) = .ok (units, more) := by
  induction h : s.length using Nat.strongRecOn generalizing s units with
  | ind n ih =>
    subst h
    rcases textGoesOn s with ⟨more, rfl⟩ | ⟨front, unit, more, filled, some, writes, rfl⟩ | faulty
    · cases scan
      exact ⟨['"'], by simp, rfl, fun opening more => rfl⟩
    · rw [writes opening more some] at scan
      obtain ⟨⟨others, left⟩, read, same⟩ := map_eq_ok_iff.mp scan
      cases same
      have shorter : more.length < (front ++ more).length := by
        rw [List.length_append]
        have := List.length_pos_iff.mpr filled
        omega
      obtain ⟨behind, filled, rfl, again⟩ := ih more.length shorter read rfl
      refine ⟨front ++ behind, by simp [filled], by rw [List.append_assoc], fun opening more => ?_⟩
      rw [List.append_assoc, writes opening (behind ++ more) (by simp [filled]), again]
      rfl
    · obtain ⟨stop, refused, -⟩ := faulty opening
      rw [refused] at scan
      cases scan

theorem ofText_of_scanText {stop : ReadStop} (scan : scanText opening s = .error stop) :
    stop.fault.ofText = true := by
  induction h : s.length using Nat.strongRecOn generalizing s with
  | ind n ih =>
    subst h
    rcases textGoesOn s with ⟨more, rfl⟩ | ⟨front, unit, more, filled, some, writes, rfl⟩ | faulty
    · cases scan
    · rw [writes opening more some] at scan
      have shorter : more.length < (front ++ more).length := by
        rw [List.length_append]
        have := List.length_pos_iff.mpr filled
        omega
      cases read : scanText opening more with
      | ok r =>
        rw [read] at scan
        cases scan
      | error fault =>
        rw [read] at scan
        cases scan
        exact ih more.length shorter read rfl
    · obtain ⟨other, refused, fault⟩ := faulty opening
      rw [refused] at scan
      cases scan
      exact fault

end Texts

end GuardedRecords
