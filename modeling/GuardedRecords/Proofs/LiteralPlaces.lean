import GuardedRecords.Proofs.FilterSplitting
import GuardedRecords.Proofs.JsonSpans
import GuardedRecords.Proofs.OperatorSpelling

namespace GuardedRecords

/-- The marks that no literal has outside quotes. -/
def strayMarks : List Char := ['\\', '<', '>', '=']

/-- Where one is outside quotes: perhaps behind a blank, and there behind letters of `in`. -/
inductive BarePlace
  | token
  | blank
  | letter
  | word
  deriving DecidableEq

/-- Where one gets outside quotes. No literal goes on there with one of the marks, with a letter k,
or with a blank behind the word `in`; all operators would. -/
def BarePlace.next? (place : BarePlace) (c : Char) : Option BarePlace :=
  if c ∈ strayMarks ∨ isCaseOf 'k' c then none
  else if isBlank c then (if place = .word then none else some .blank)
  else if place = .blank ∧ isCaseOf 'i' c then some .letter
  else if place = .letter ∧ isCaseOf 'n' c then some .word
  else some .token

/-- Where one is in a literal: outside quotes, or inside, and there perhaps behind a backslash. -/
inductive LiteralPlace
  | bare (place : BarePlace)
  | quoted
  | escaped
  deriving DecidableEq

namespace LiteralPlace

def next? : LiteralPlace → Char → Option LiteralPlace
  | .bare place, c => if c = '"' then some .quoted else (place.next? c).map .bare
  | .quoted, c => some (if c = '"' then .bare .token else if c = '\\' then .escaped else .quoted)
  | .escaped, c => if c = 'u' ∨ (shortEscape? c).isSome then some .quoted else none

def run? (place : LiteralPlace) (cs : List Char) : Option LiteralPlace := cs.foldlM next? place

theorem run?_cons (place : LiteralPlace) (c : Char) (cs : List Char) :
    place.run? (c :: cs) = (place.next? c).bind fun after => after.run? cs := List.foldlM_cons

theorem run?_append (place : LiteralPlace) (front back : List Char) :
    place.run? (front ++ back) = (place.run? front).bind fun after => after.run? back :=
  List.foldlM_append

/-- A text in two parts is passed if the first part is and the second one is from where the first
one ends. -/
theorem run?_append_eq_some_iff {place after : LiteralPlace} {front back : List Char} :
    place.run? (front ++ back) = some after ↔
      ∃ between, place.run? front = some between ∧ between.run? back = some after := by
  rw [run?_append, Option.bind_eq_some_iff]

theorem run?_quoted {cs : List Char} (plain : ∀ c ∈ cs, c ≠ '"' ∧ c ≠ '\\') :
    LiteralPlace.quoted.run? cs = some .quoted := by
  induction cs with
  | nil => rfl
  | cons c rest ih =>
    obtain ⟨notQuote, notEscape⟩ := plain c List.mem_cons_self
    rw [run?_cons, next?, if_neg notQuote, if_neg notEscape, Option.bind_some]
    exact ih fun d member => plain d (List.mem_cons_of_mem c member)

/-- Of two readers of one text, one is inside quotes and the other one is outside. -/
inductive Opposed : LiteralPlace → LiteralPlace → Prop
  | left (place : BarePlace) : Opposed (.bare place) .quoted
  | right (place : BarePlace) : Opposed .quoted (.bare place)

theorem Opposed.symm {p q : LiteralPlace} (opposed : Opposed p q) : Opposed q p := by
  cases opposed with
  | left place => exact .right place
  | right place => exact .left place

/-- Two readers, one outside quotes and one inside, stay opposed over each character that the one
outside can pass: a quote exchanges them, and a backslash stops the one outside. -/
theorem opposed_next {place : BarePlace} {c : Char} {p q : LiteralPlace}
    (first : (LiteralPlace.bare place).next? c = some p)
    (second : LiteralPlace.quoted.next? c = some q) : Opposed p q := by
  simp only [next?] at first second
  by_cases quote : c = '"'
  · rw [if_pos quote] at first second
    cases first
    cases second
    exact .right .token
  · rw [if_neg quote] at first second
    obtain ⟨after, step, rfl⟩ := Option.map_eq_some_iff.mp first
    rw [BarePlace.next?] at step
    split at step
    · cases step
    · next allowed =>
      have notEscape : c ≠ '\\' := fun same => allowed (.inl (same ▸ List.mem_cons_self))
      rw [if_neg notEscape] at second
      cases second
      exact .left after

/-- Every quote takes both readers across, and a backslash stops the one that is outside. -/
theorem Opposed.run {p q p' q' : LiteralPlace} (opposed : Opposed p q) {cs : List Char}
    (first : p.run? cs = some p') (second : q.run? cs = some q') : Opposed p' q' := by
  induction cs generalizing p q with
  | nil =>
    cases first
    cases second
    exact opposed
  | cons c rest ih =>
    rw [run?_cons, Option.bind_eq_some_iff] at first second
    obtain ⟨p₁, firstStep, first⟩ := first
    obtain ⟨q₁, secondStep, second⟩ := second
    refine ih ?_ first second
    cases opposed with
    | left place => exact opposed_next firstStep secondStep
    | right place => exact (opposed_next secondStep firstStep).symm

end LiteralPlace

theorem isBlank_eq_false_of_isCaseOf {letter c : Char} (known : letter ∈ operatorLetters)
    (case : isCaseOf letter c = true) : isBlank c = false := by
  have table : ∀ c ∈ operatorLetters.flatMap casesOf, isBlank c = false :=
    forall_mem_of_decide (by decide)
  exact table c (List.mem_flatMap.mpr ⟨letter, known, mem_casesOf_of_isCaseOf known case⟩)

theorem plain_of_isBlank {c : Char} (blank : isBlank c = true) : c ≠ '"' ∧ c ≠ '\\' :=
  ⟨ne_of_isBlank blank (by decide), ne_of_isBlank blank (by decide)⟩

/-- A blank is passed everywhere outside quotes but behind the word `in`, which would be an operator
with it. -/
theorem LiteralPlace.next?_blank {c : Char} (blank : isBlank c = true) (place : BarePlace) :
    (LiteralPlace.bare place).next? c = if place = .word then none else some (.bare .blank) := by
  have allowed : ¬(c ∈ strayMarks ∨ isCaseOf 'k' c = true) := by
    rintro (mark | case)
    · have table : ∀ d ∈ strayMarks, isBlank d = false := forall_mem_of_decide (by decide)
      exact ne_of_isBlank blank (table c mark) rfl
    · exact ne_of_isBlank blank (isBlank_eq_false_of_isCaseOf (by decide) case) rfl
  rw [LiteralPlace.next?, if_neg (plain_of_isBlank blank).1, BarePlace.next?, if_neg allowed,
    if_pos blank]
  split <;> rfl

/-- Where a token may begin. -/
def openPlaces : List BarePlace := [.token, .blank]

/-- A text that leads from where a token may begin to another such place. -/
def Level (cs : List Char) : Prop :=
  ∀ place ∈ openPlaces, ∃ after ∈ openPlaces, (LiteralPlace.bare place).run? cs = some (.bare after)

section Levels

theorem level_nil : Level [] := fun place start => ⟨place, start, rfl⟩

theorem Level.append {cs more : List Char} (front : Level cs) (back : Level more) :
    Level (cs ++ more) := by
  intro place start
  obtain ⟨between, middle, first⟩ := front place start
  obtain ⟨after, last, second⟩ := back between middle
  exact ⟨after, last, by rw [LiteralPlace.run?_append, first, Option.bind_some, second]⟩

theorem level_of_forall {cs : List Char} (each : ∀ c ∈ cs, Level [c]) : Level cs := by
  induction cs with
  | nil => exact level_nil
  | cons c rest ih =>
    have others := ih fun d member => each d (List.mem_cons_of_mem c member)
    exact (each c List.mem_cons_self).append others

instance (cs : List Char) : Decidable (Level cs) :=
  inferInstanceAs (Decidable (∀ _ ∈ _, ∃ _ ∈ _, _))

theorem level_blank {c : Char} (blank : isBlank c = true) : Level [c] := by
  intro place start
  have notWord : place ≠ .word := by
    rintro rfl
    exact absurd start (by decide)
  refine ⟨.blank, by decide, ?_⟩
  rw [LiteralPlace.run?_cons, LiteralPlace.next?_blank blank, if_neg notWord]
  rfl

theorem level_blanks {blanks : List Char} (blank : ∀ c ∈ blanks, isBlank c = true) :
    Level blanks :=
  level_of_forall fun c member => level_blank (blank c member)

theorem JsonBlanks.level {blanks : List Char} (blank : JsonBlanks blanks) : Level blanks :=
  level_blanks fun c member => isBlank_of_isJsonBlank (blank c member)

/-- The characters of numbers besides digits, and the marks of literals. -/
def tokenMarks : List Char := ['+', '.', 'e', 'E'] ++ literalMarks

theorem level_mark {c : Char} (mark : c ∈ tokenMarks) : Level [c] := by
  have table : ∀ c ∈ tokenMarks, Level [c] := forall_mem_of_decide (by decide)
  exact table c mark

theorem level_digit {c : Char} (digit : isAsciiDigit c = true) : Level [c] := by
  have table : ∀ n < 58, 48 ≤ n → Level [Char.ofNat n] := by decide
  simp only [isAsciiDigit, Bool.and_eq_true, decide_eq_true_iff] at digit
  have level := table c.toNat (Nat.lt_succ_of_le digit.2) digit.1
  rwa [Char.ofNat_toNat] at level

/-- The known words are level. In none of them is `in` followed by a blank, and no letter k
occurs. -/
theorem level_scalarWord {word : List Char} {v : Value} (known : (word, v) ∈ scalarWords) :
    Level word := by
  have table : ∀ word ∈ scalarWords.map Prod.fst, Level word := by decide
  exact table word (List.mem_map_of_mem known)

theorem level_digits {cs : List Char} (decimal : ∀ c ∈ cs, isAsciiDigit c = true) : Level cs :=
  level_of_forall fun c member => level_digit (decimal c member)

theorem ExponentText.level {exponent : List Char} (form : ExponentText exponent) :
    Level exponent := by
  obtain @⟨mark, sign, digits, letter, signed, -, decimal⟩ := form
  have first : Level [mark] := by
    rcases letter with rfl | rfl <;> exact level_mark (by decide)
  have second : Level sign := by
    rcases signed with rfl | rfl | rfl
    · exact level_nil
    · exact level_mark (by decide)
    · exact level_mark (by decide)
  exact first.append (second.append (level_digits decimal))

theorem NumberParts.WellFormed.level {n : NumberParts} (form : n.WellFormed) : Level n.text := by
  have sign : Level (if n.negative then ['-'] else []) := by
    split
    · exact level_mark (by decide)
    · exact level_nil
  have fraction : Level (pointed n.fraction) := by
    rw [pointed]
    split
    · exact level_nil
    · have point : Level ['.'] := level_mark (by decide)
      exact point.append (level_digits form.fraction)
  have exponent : Level n.exponent := by
    rcases form.exponent with none | some
    · rw [none]
      exact level_nil
    · exact some.level
  exact sign.append ((level_digits form.whole).append (fraction.append exponent))

end Levels

section Reading

/-- What is left when a reading has passed over a level text. -/
def Passes (s rest : List Char) : Prop := ∃ front, Level front ∧ s = front ++ rest

theorem Passes.trans {s middle rest : List Char} (first : Passes s middle)
    (second : Passes middle rest) : Passes s rest := by
  obtain ⟨front, level, rfl⟩ := first
  obtain ⟨back, others, rfl⟩ := second
  exact ⟨front ++ back, level.append others, (List.append_assoc ..).symm⟩

theorem passes_refl (s : List Char) : Passes s s := ⟨[], level_nil, rfl⟩

theorem passes_mark {c : Char} (mark : c ∈ tokenMarks) (rest : List Char) :
    Passes (c :: rest) rest := ⟨[c], level_mark mark, rfl⟩

theorem passes_blanks (s : List Char) : Passes s (skipJsonBlanks s) := by
  obtain ⟨blanks, blank, split⟩ := exists_jsonBlanks s
  exact ⟨blanks, blank.level, split⟩

theorem readScalar_passes {s rest : List Char} {v : Value} (read : readScalar s = .ok (v, rest)) :
    Passes s rest := by
  rcases readScalar_cases s with ⟨word, known, behind, member, rfl⟩ |
    ⟨n, behind, form, rfl, same, -⟩ | refused
  · rw [readScalar_word member] at read
    cases read
    exact ⟨word, level_scalarWord member, rfl⟩
  · rw [same] at read
    cases number : n.result with
    | error fault =>
      rw [number] at read
      cases read
    | ok v =>
      rw [number] at read
      cases read
      exact ⟨n.text, form.level, rfl⟩
  · rw [refused] at read
    cases read

theorem hexValue?_of_hexNumber? {digits : List Char} {n : Nat}
    (read : hexNumber? digits = some n) : ∀ c ∈ digits, (hexValue? c).isSome = true := by
  have fold (digits : List Char) (acc : Option Nat) (result : Nat)
      (run : (digits.foldl (fun acc c => acc.bind fun n =>
        (hexValue? c).map fun d => 16 * n + d) acc) = some result) :
      acc.isSome = true ∧ ∀ c ∈ digits, (hexValue? c).isSome = true := by
    induction digits generalizing acc with
    | nil => exact ⟨by rw [show acc = some result from run]; rfl, List.forall_mem_nil _⟩
    | cons c rest ih =>
      obtain ⟨some, others⟩ := ih _ run
      obtain ⟨m, step⟩ := Option.isSome_iff_exists.mp some
      obtain ⟨k, before, value⟩ := Option.bind_eq_some_iff.mp step
      obtain ⟨d, digit, -⟩ := Option.map_eq_some_iff.mp value
      exact ⟨before ▸ rfl, List.forall_mem_cons.mpr ⟨digit ▸ rfl, others⟩⟩
  exact (fold digits (some 0) n read).2

/-- A quoted text leads outside its quotes again. The scanner and the places go over its characters
in step, and an escape takes both over its characters. -/
theorem run?_of_scanText {opening s rest : List Char} {units : List TextUnit}
    (scan : scanText opening s = .ok (units, rest)) :
    ∃ quoted, s = quoted ++ rest ∧ LiteralPlace.quoted.run? quoted = some (.bare .token) := by
  fun_induction scanText opening s generalizing units with
  | case1 => cases scan
  | case2 behind =>
    cases scan
    exact ⟨['"'], rfl, rfl⟩
  | case3 => cases scan
  | case4 a b c d behind n read goesOn ih =>
    obtain ⟨⟨others, left⟩, more, same⟩ := map_eq_ok_iff.mp scan
    cases same
    obtain ⟨quoted, rfl, run⟩ := ih more
    -- The four digits of an escape are neither quotes nor backslashes.
    have digits := hexValue?_of_hexNumber? read
    have plain : ∀ digit ∈ [a, b, c, d], digit ≠ '"' ∧ digit ≠ '\\' := by
      intro digit member
      constructor <;> rintro rfl <;> exact absurd (digits _ member) (by decide)
    have inside := LiteralPlace.run?_quoted plain
    refine ⟨'\\' :: 'u' :: ([a, b, c, d] ++ quoted), rfl, ?_⟩
    have escape : LiteralPlace.quoted.run? ('\\' :: 'u' :: ([a, b, c, d] ++ quoted)) =
        LiteralPlace.quoted.run? ([a, b, c, d] ++ quoted) := rfl
    rw [escape, LiteralPlace.run?_append, inside]
    exact run
  | case5 => cases scan
  | case6 => cases scan
  | case7 c behind _ _ e known ih =>
    obtain ⟨⟨others, left⟩, more, same⟩ := map_eq_ok_iff.mp scan
    cases same
    obtain ⟨quoted, rfl, run⟩ := ih more
    refine ⟨'\\' :: c :: quoted, rfl, ?_⟩
    have escape : LiteralPlace.escaped.next? c = some .quoted := if_pos (.inr (known ▸ rfl))
    have start : LiteralPlace.quoted.next? '\\' = some .escaped := rfl
    rw [LiteralPlace.run?_cons, start, Option.bind_some, LiteralPlace.run?_cons, escape]
    exact run
  | case8 => cases scan
  | case9 => cases scan
  | case10 c behind notQuote alone _ _ notEscape visible ih =>
    obtain ⟨⟨others, left⟩, more, same⟩ := map_eq_ok_iff.mp scan
    cases same
    have plain : c ≠ '\\' := by
      intro escape
      cases behind with
      | nil => exact alone escape rfl
      | cons d behind => exact notEscape d behind escape rfl
    obtain ⟨quoted, rfl, run⟩ := ih more
    refine ⟨c :: quoted, rfl, ?_⟩
    rw [LiteralPlace.run?_cons, LiteralPlace.next?, if_neg notQuote, if_neg plain]
    exact run

/-- What is read as a quoted text is passed over from its opening to its closing quote. The scanner
and the places agree about which quotes are behind a backslash. -/
theorem afterText_passes {opening s rest : List Char} (scan : afterText opening s = .ok rest) :
    Passes ('"' :: s) rest := by
  obtain ⟨⟨units, left⟩, read, rfl⟩ := map_eq_ok_iff.mp scan
  obtain ⟨quoted, rfl, run⟩ := run?_of_scanText read
  refine ⟨'"' :: quoted, fun place _ => ⟨.token, by decide, ?_⟩, rfl⟩
  rw [LiteralPlace.run?_cons]
  exact run

theorem afterLabel_passes {bracket : Bracket} {s rest : List Char}
    (read : afterLabel bracket s = .ok rest) : Passes s rest := by
  cases bracket with
  | square =>
    cases read
    exact passes_refl s
  | curly =>
    rw [afterLabel.eq_def] at read
    dsimp only at read
    split at read
    · obtain ⟨behind, scan, colon⟩ := bind_eq_ok_iff.mp read
      obtain ⟨more, marked, rfl⟩ := afterColon_eq_ok_iff.mp colon
      refine (afterText_passes scan).trans ((passes_blanks behind).trans ?_)
      rw [marked]
      exact (passes_mark (by decide) more).trans (passes_blanks more)
    · cases read

theorem Bracket.closing_mem_tokenMarks (bracket : Bracket) : bracket.closing ∈ tokenMarks := by
  cases bracket <;> decide

theorem Bracket.opening_mem_tokenMarks (bracket : Bracket) : bracket.opening ∈ tokenMarks := by
  cases bracket <;> decide

/-- Whatever is read as a value or as entries is level: by induction on the fuel, as all of it is
made of level parts. -/
theorem after_passes (fuel : Nat) :
    (∀ s rest, afterValue fuel s = .ok rest → Passes s rest) ∧
      ∀ bracket s rest, afterEntries bracket fuel s = .ok rest → Passes s rest := by
  induction fuel with
  | zero => exact ⟨nofun, nofun⟩
  | succ fuel ih =>
    obtain ⟨value, entries⟩ := ih
    constructor
    · intro s rest read
      rcases openings s with rfl | ⟨behind, rfl⟩ | ⟨bracket, behind, rfl⟩ |
        ⟨c, behind, scalar, rfl⟩
      · cases read
      · exact afterText_passes read
      · rw [afterValue_brackets] at read
        refine (passes_mark bracket.opening_mem_tokenMarks behind).trans
          ((passes_blanks behind).trans ?_)
        by_cases closed : ∃ more, skipJsonBlanks behind = bracket.closing :: more
        · obtain ⟨more, closed⟩ := closed
          rw [closed, afterOpening, if_pos rfl] at read
          cases read
          rw [closed]
          exact passes_mark bracket.closing_mem_tokenMarks rest
        · rw [afterOpening_of_ne fun more same => closed ⟨more, same⟩] at read
          exact entries bracket _ _ read
      · rw [afterValue_scalar _ _ scalar] at read
        obtain ⟨⟨v, left⟩, scan, rfl⟩ := map_eq_ok_iff.mp read
        exact readScalar_passes scan
    · intro bracket s rest read
      rw [afterEntries] at read
      obtain ⟨entry, labelled, read⟩ := bind_eq_ok_iff.mp read
      obtain ⟨behind, first, ending⟩ := bind_eq_ok_iff.mp read
      refine (afterLabel_passes labelled).trans ((value _ _ first).trans
        ((passes_blanks behind).trans ?_))
      rcases afterEntry_cases bracket (afterEntries bracket fuel) (skipJsonBlanks behind) with
        ⟨more, closed⟩ | ⟨more, comma⟩ | refused
      · rw [closed, afterEntry_closing] at ending
        cases ending
        rw [closed]
        exact passes_mark bracket.closing_mem_tokenMarks rest
      · rw [comma, afterEntry_comma] at ending
        rw [comma]
        exact (passes_mark (by decide) more).trans
          ((passes_blanks more).trans (entries bracket _ _ ending))
      · rw [refused] at ending
        cases ending

/-- A text that is read as JSON is level: blanks, one value and blanks. This is what keeps operators
out of literals. -/
theorem level_of_read {cs : List Char} {v : Value} (read : Value.read (String.ofList cs) = .ok v) :
    Level cs := by
  obtain ⟨behind, value, none⟩ := readChars_eq_ok_iff.mp (Value.read_eq_ok_iff.mp read)
  have passed : afterValue (2 * cs.length + 2) (skipJsonBlanks cs) = .ok behind := by
    rw [← (read_rest _).1, value]
    rfl
  have whole := (passes_blanks cs).trans
    (((after_passes _).1 _ _ passed).trans (passes_blanks behind))
  rw [none] at whole
  obtain ⟨front, level, same⟩ := whole
  rw [same, List.append_nil]
  exact level

end Reading

end GuardedRecords
