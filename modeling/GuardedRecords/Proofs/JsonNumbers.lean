import GuardedRecords.Proofs.JsonReading
import GuardedRecords.Proofs.RuleLexemes

namespace GuardedRecords

theorem isAsciiDigit_of_mem_takeWhile {s : List Char} {c : Char}
    (member : c ∈ s.takeWhile isAsciiDigit) : isAsciiDigit c = true :=
  List.all_eq_true.mp List.all_takeWhile c member

theorem drop_length_takeWhile {α : Type} (p : α → Bool) (l : List α) :
    l.drop (l.takeWhile p).length = l.dropWhile p :=
  (congrArg (List.drop _) List.takeWhile_append_dropWhile.symm).trans List.drop_left

theorem head?_dropWhile {α : Type} (p : α → Bool) (l : List α) :
    ∀ a ∈ (l.dropWhile p).head?, p a = false := by
  intro a first
  have stops := List.head?_dropWhile_not p l
  rw [first] at stops
  exact stops

section Exponents

/-- The exponent of a number as it is written: the letter, perhaps a sign, and digits. -/
inductive ExponentText : List Char → Prop
  | written {mark : Char} {sign digits : List Char} (letter : mark = 'e' ∨ mark = 'E')
      (signed : sign = [] ∨ sign = ['-'] ∨ sign = ['+']) (filled : digits ≠ [])
      (decimal : ∀ c ∈ digits, isAsciiDigit c = true) : ExponentText (mark :: (sign ++ digits))

/-- A written exponent is read as a power and to its last digit, whatever follows that is not a
digit. The power itself depends on nothing behind it. -/
theorem ExponentText.read {exponent : List Char} (form : ExponentText exponent) :
    ∃ power, ∀ rest : List Char, (∀ c ∈ rest.head?, isAsciiDigit c = false) →
      exponentPart? (exponent ++ rest) = some (power, exponent.length) := by
  obtain @⟨mark, sign, digits, letter, signed, filled, decimal⟩ := form
  refine ⟨if sign = ['-'] then -(decimalNumber digits : Int) else decimalNumber digits,
    fun rest ends => ?_⟩
  have run : (digits ++ rest).takeWhile isAsciiDigit = digits :=
    takeWhile_append_of_head decimal ends
  rcases signed with rfl | rfl | rfl
  · obtain ⟨d, more, rfl⟩ := List.exists_cons_of_ne_nil filled
    have digit := decimal d List.mem_cons_self
    have bare : d ≠ '-' ∧ d ≠ '+' := by
      constructor <;> rintro rfl <;> exact absurd digit (by decide)
    simp only [List.nil_append, List.cons_append] at run ⊢
    simp [exponentPart?, letter, run, bare]
    omega
  · simp [exponentPart?, letter, run, filled]
    omega
  · simp [exponentPart?, letter, run, filled]
    omega

/-- The inverse for one letter and one sign: if an exponent is read behind them, then the text
spells it. The two signs and no sign are the same argument. -/
theorem exists_exponentText_of_sign {mark : Char} (sign : List Char) {unsigned : List Char}
    {power given : Int} {size : Nat} (letter : mark = 'e' ∨ mark = 'E')
    (signed : sign = [] ∨ sign = ['-'] ∨ sign = ['+'])
    (read : (if (unsigned.takeWhile isAsciiDigit).isEmpty = true then none
      else some (given, 1 + sign.length + (unsigned.takeWhile isAsciiDigit).length)) =
        some (power, size)) :
    ∃ exponent rest, ExponentText exponent ∧ mark :: (sign ++ unsigned) = exponent ++ rest ∧
      exponent.length = size ∧ ∀ c ∈ rest.head?, isAsciiDigit c = false := by
  split at read
  · cases read
  · next filled =>
    have some : unsigned.takeWhile isAsciiDigit ≠ [] := by simpa using filled
    obtain ⟨-, rfl⟩ := Prod.mk.inj (Option.some.inj read)
    refine ⟨_, unsigned.dropWhile isAsciiDigit,
      .written letter signed some fun c => isAsciiDigit_of_mem_takeWhile, ?_, ?_,
      head?_dropWhile isAsciiDigit unsigned⟩
    · simp
    · simp
      omega

/-- Whatever is read as an exponent is the spelling of one, and the digits end where the reader
stops. -/
theorem exists_exponentText {s : List Char} {power : Int} {size : Nat}
    (read : exponentPart? s = some (power, size)) :
    ∃ exponent rest, ExponentText exponent ∧ s = exponent ++ rest ∧ exponent.length = size ∧
      ∀ c ∈ rest.head?, isAsciiDigit c = false := by
  cases s with
  | nil => cases read
  | cons mark rest =>
    rw [exponentPart?.eq_def] at read
    dsimp only at read
    split at read
    · next letter =>
      split at read
      · exact exists_exponentText_of_sign ['-'] letter (.inr (.inl rfl)) read
      · exact exists_exponentText_of_sign ['+'] letter (.inr (.inr rfl)) read
      · exact exists_exponentText_of_sign [] letter (.inl rfl) read
    · cases read

theorem exponent_split (s : List Char) :
    ∃ exponent rest, (exponent = [] ∨ ExponentText exponent) ∧ s = exponent ++ rest ∧
      (exponentPart? s).map Prod.fst = (exponentPart? exponent).map Prod.fst ∧
      s.drop (((exponentPart? s).map Prod.snd).getD 0) = rest ∧
      (exponent = [] → exponentPart? rest = none) := by
  cases present : exponentPart? s with
  | none => exact ⟨[], s, .inl rfl, rfl, rfl, rfl, fun _ => present⟩
  | some read =>
    obtain ⟨power, size⟩ := read
    obtain ⟨exponent, rest, form, rfl, rfl, ends⟩ := exists_exponentText present
    obtain ⟨given, same⟩ := form.read
    have alone := same [] nofun
    rw [List.append_nil] at alone
    rw [same rest ends] at present
    obtain ⟨rfl, -⟩ := Prod.mk.inj (Option.some.inj present)
    refine ⟨exponent, rest, .inr form, rfl, by rw [alone], List.drop_left, ?_⟩
    rintro rfl
    cases form

end Exponents

section Numbers

/-- The number with these digits and this power of ten. -/
def numberOf (negative : Bool) (whole fraction : List Char) (power : Option Int) :
    Except ReadFault Value :=
  match power with
  | some power =>
    .ok (.double (.ofDecimal negative (decimalNumber (whole ++ fraction))
      (power - fraction.length)))
  | none =>
    if !fraction.isEmpty then
      .ok (.double (.ofDecimal negative (decimalNumber (whole ++ fraction))
        (-(fraction.length : Int))))
    else if integerDigitLimit < whole.length then .error (.overlongInteger whole.length)
    else
      let size : Int := decimalNumber whole
      .ok (.int (if negative then -size else size))

/-- What is left behind the fraction of a number. -/
def afterFraction (s : List Char) : List Char :=
  if (fractionDigits s).isEmpty then s else s.drop ((fractionDigits s).length + 1)

/-- Reads a number whose sign is already read. -/
def readUnsigned? (negative : Bool) (s : List Char) :
    Option (Except ReadFault Value × List Char) :=
  let whole := wholeDigits s
  let fraction := fractionDigits (s.drop whole.length)
  let behind := afterFraction (s.drop whole.length)
  let exponent := exponentPart? behind
  if whole.isEmpty then none
  else
    some (numberOf negative whole fraction (exponent.map Prod.fst),
      behind.drop ((exponent.map Prod.snd).getD 0))

/-- Whether a text is that of a signed number up to its sign and the rest. -/
inductive SignSplit : List Char → Bool → List Char → Prop
  | minus (more : List Char) : SignSplit ('-' :: more) true more
  | unsigned {s : List Char} (bare : s.head? ≠ some '-') : SignSplit s false s

theorem exists_signSplit (s : List Char) : ∃ negative unsigned, SignSplit s negative unsigned := by
  by_cases minus : s.head? = some '-'
  · obtain ⟨more, rfl⟩ := List.head?_eq_some_iff.mp minus
    exact ⟨true, more, .minus more⟩
  · exact ⟨false, s, .unsigned minus⟩

theorem SignSplit.readNumber?_eq {s unsigned : List Char} {negative : Bool}
    (sign : SignSplit s negative unsigned) : readNumber? s = readUnsigned? negative unsigned := by
  unfold readNumber?
  split
  next first more same =>
  obtain ⟨rfl, rfl⟩ : first = negative ∧ more = unsigned := by
    cases sign with
    | minus =>
      cases same
      exact ⟨rfl, rfl⟩
    | unsigned bare =>
      split at same
      · exact absurd rfl bare
      · cases same
        exact ⟨rfl, rfl⟩
  rw [readUnsigned?, afterFraction]
  dsimp only
  split
  · rfl
  · cases present : exponentPart? _ with
    | some exponent =>
      obtain ⟨power, size⟩ := exponent
      rfl
    | none =>
      cases fraction : (fractionDigits (more.drop (wholeDigits more).length)).isEmpty with
      | false => simp [numberOf, fraction]
      | true =>
        simp only [numberOf, fraction, Bool.not_true, Bool.false_eq_true, if_false, if_true,
          Option.map_none, Option.getD_none, List.drop_zero]
        split <;> rfl

/-- The digits of a fraction with the point before them, if there are any. -/
def pointed (fraction : List Char) : List Char :=
  if fraction.isEmpty then [] else '.' :: fraction

/-- The parts of a number as it is written. The digits of the fraction stand behind a point. -/
structure NumberParts where
  negative : Bool
  whole : List Char
  fraction : List Char
  exponent : List Char

namespace NumberParts

/-- Only a number of one whole digit begins with zero. -/
structure WellFormed (n : NumberParts) : Prop where
  filled : n.whole ≠ []
  whole : ∀ c ∈ n.whole, isAsciiDigit c = true
  leading : n.whole.head? = some '0' → n.whole = ['0']
  fraction : ∀ c ∈ n.fraction, isAsciiDigit c = true
  exponent : n.exponent = [] ∨ ExponentText n.exponent

def tail (n : NumberParts) : List Char := pointed n.fraction ++ n.exponent

def text (n : NumberParts) : List Char :=
  (if n.negative then ['-'] else []) ++ (n.whole ++ n.tail)

/-- What a number written like this is read as. -/
def result (n : NumberParts) : Except ReadFault Value :=
  numberOf n.negative n.whole n.fraction ((exponentPart? n.exponent).map Prod.fst)

end NumberParts

/-- What does not go on with the digits, the fraction or the exponent of a number. -/
structure StopsNumber (rest : List Char) : Prop where
  digits : ∀ c ∈ rest.head?, isAsciiDigit c = false
  fraction : fractionDigits rest = []
  exponent : exponentPart? rest = none

theorem EndsNumber.stopsNumber {rest : List Char} (ends : EndsNumber rest) : StopsNumber rest where
  digits c first := (ends c first).1
  fraction := fractionDigits_of_endsNumber ends
  exponent := exponentPart?_of_endsNumber ends

variable {rest : List Char} (stops : StopsNumber rest)

/-- The whole digits of a number end where the digits end, but a number that begins with zero has no
further ones: what follows is then read as the next thing. -/
theorem wholeDigits_append {whole : List Char} (filled : whole ≠ [])
    (decimal : ∀ c ∈ whole, isAsciiDigit c = true)
    (leading : whole.head? = some '0' → whole = ['0'])
    (ends : ∀ c ∈ rest.head?, isAsciiDigit c = false) : wholeDigits (whole ++ rest) = whole := by
  unfold wholeDigits
  split
  · next more zero =>
    obtain ⟨d, others, rfl⟩ := List.exists_cons_of_ne_nil filled
    obtain ⟨rfl, -⟩ := List.cons.inj zero
    exact (leading rfl).symm
  · exact takeWhile_append_of_head decimal ends

section Exponent

variable {exponent : List Char} (form : exponent = [] ∨ ExponentText exponent)

include form stops

theorem noDigit_exponent_append : ∀ c ∈ (exponent ++ rest).head?, isAsciiDigit c = false := by
  rcases form with rfl | ⟨letter, -, -, -⟩
  · exact stops.digits
  · rintro c ⟨⟩
    rcases letter with rfl | rfl <;> rfl

theorem fractionDigits_exponent_append : fractionDigits (exponent ++ rest) = [] := by
  rcases form with rfl | ⟨letter, -, -, -⟩
  · exact stops.fraction
  · rcases letter with rfl | rfl <;> rfl

theorem exponentPart?_append :
    (exponent = [] ∧ exponentPart? (exponent ++ rest) = none) ∨
      ∃ power, exponentPart? exponent = some (power, exponent.length) ∧
        exponentPart? (exponent ++ rest) = some (power, exponent.length) := by
  rcases form with rfl | form
  · exact .inl ⟨rfl, stops.exponent⟩
  · obtain ⟨power, read⟩ := form.read
    have alone := read [] nofun
    rw [List.append_nil] at alone
    exact .inr ⟨power, alone, read rest stops.digits⟩

end Exponent


namespace NumberParts.WellFormed

variable {n : NumberParts} (form : n.WellFormed)

include form stops

/-- The fraction of a written number is read back, and what is left behind it is the exponent with
what follows. -/
theorem fraction_read :
    fractionDigits (n.tail ++ rest) = n.fraction ∧
      afterFraction (n.tail ++ rest) = n.exponent ++ rest := by
  have digits : fractionDigits (n.tail ++ rest) = n.fraction := by
    rw [tail, pointed]
    split
    · next none =>
      rw [List.isEmpty_iff.mp none, List.nil_append]
      exact fractionDigits_exponent_append stops form.exponent
    · rw [List.cons_append, List.cons_append, List.append_assoc]
      exact takeWhile_append_of_head form.fraction (noDigit_exponent_append stops form.exponent)
  refine ⟨digits, ?_⟩
  rw [afterFraction, digits, tail, pointed]
  split
  · rfl
  · rw [List.cons_append, List.cons_append, List.append_assoc, List.drop_succ_cons, List.drop_left]

theorem noDigit_tail_append : ∀ c ∈ (n.tail ++ rest).head?, isAsciiDigit c = false := by
  rw [tail, pointed]
  split
  · exact noDigit_exponent_append stops form.exponent
  · rintro c ⟨⟩
    rfl

omit stops in
theorem signSplit : SignSplit (n.text ++ rest) n.negative (n.whole ++ (n.tail ++ rest)) := by
  obtain ⟨d, others, front⟩ := List.exists_cons_of_ne_nil form.filled
  have digit : isAsciiDigit d = true := form.whole d (front ▸ List.mem_cons_self)
  rw [text, List.append_assoc, List.append_assoc]
  cases n.negative with
  | true => exact .minus _
  | false =>
    refine .unsigned fun minus => ?_
    rw [front] at minus
    obtain rfl : d = '-' := Option.some.inj minus
    exact absurd digit (by decide)

/-- A written number is read up to its end, and as the number that its parts stand for. -/
theorem read : readNumber? (n.text ++ rest) = some (n.result, rest) := by
  obtain ⟨fraction, behind⟩ := form.fraction_read stops
  have whole := wholeDigits_append form.filled form.whole form.leading
    (form.noDigit_tail_append stops)
  have filled : n.whole.isEmpty = false := List.isEmpty_eq_false_iff.mpr form.filled
  rw [form.signSplit.readNumber?_eq, readUnsigned?]
  simp only [whole, List.drop_left, fraction, behind, filled, Bool.false_eq_true, if_false, result]
  rcases exponentPart?_append stops form.exponent with ⟨none, absent⟩ | ⟨power, alone, present⟩
  · rw [absent, none]
    rfl
  · rw [present, alone]
    simp

end NumberParts.WellFormed

theorem wholeDigits_cases (s : List Char) :
    (∃ more, s = '0' :: more ∧ wholeDigits s = ['0']) ∨
      (s.head? ≠ some '0' ∧ wholeDigits s = s.takeWhile isAsciiDigit) := by
  unfold wholeDigits
  split
  · next more => exact .inl ⟨more, rfl, rfl⟩
  · next other =>
    refine .inr ⟨fun zero => ?_, rfl⟩
    obtain ⟨more, rfl⟩ := List.head?_eq_some_iff.mp zero
    exact other more rfl

theorem wholeDigits_decimal (s : List Char) : ∀ c ∈ wholeDigits s, isAsciiDigit c = true := by
  intro c member
  rcases wholeDigits_cases s with ⟨more, -, zero⟩ | ⟨-, run⟩
  · rw [zero] at member
    rw [List.mem_singleton.mp member]
    rfl
  · rw [run] at member
    exact isAsciiDigit_of_mem_takeWhile member

theorem wholeDigits_leading {s : List Char} (zero : (wholeDigits s).head? = some '0') :
    wholeDigits s = ['0'] := by
  rcases wholeDigits_cases s with ⟨more, -, same⟩ | ⟨other, run⟩
  · exact same
  · rw [run] at zero
    obtain ⟨more, front⟩ := List.head?_eq_some_iff.mp zero
    obtain ⟨rest, same⟩ := List.takeWhile_prefix isAsciiDigit (l := s)
    rw [front] at same
    exact absurd (congrArg List.head? same).symm other

theorem wholeDigits_append_drop (s : List Char) :
    wholeDigits s ++ s.drop (wholeDigits s).length = s := by
  rcases wholeDigits_cases s with ⟨more, rfl, zero⟩ | ⟨-, run⟩
  · rw [zero]
    rfl
  · rw [run, drop_length_takeWhile, List.takeWhile_append_dropWhile]

theorem noDigit_drop_wholeDigits {s : List Char} (notZero : wholeDigits s ≠ ['0']) :
    ∀ c ∈ (s.drop (wholeDigits s).length).head?, isAsciiDigit c = false := by
  rcases wholeDigits_cases s with ⟨more, -, zero⟩ | ⟨-, run⟩
  · exact absurd zero notZero
  · rw [run, drop_length_takeWhile]
    exact head?_dropWhile isAsciiDigit s

theorem fractionDigits_decimal (s : List Char) : ∀ c ∈ fractionDigits s, isAsciiDigit c = true := by
  unfold fractionDigits
  split
  · exact fun c => isAsciiDigit_of_mem_takeWhile
  · exact nofun

/-- A text is its fraction, with the point, and what is left. If the point is followed by no digit,
it belongs to what is left. -/
theorem pointed_append_afterFraction (s : List Char) :
    pointed (fractionDigits s) ++ afterFraction s = s := by
  rw [pointed, afterFraction]
  split
  · rfl
  · next filled =>
    unfold fractionDigits at filled ⊢
    split at filled
    · rw [List.cons_append, List.drop_succ_cons, drop_length_takeWhile,
        List.takeWhile_append_dropWhile]
    · exact absurd rfl filled

theorem SignSplit.text_eq {s unsigned : List Char} {negative : Bool}
    (sign : SignSplit s negative unsigned) :
    s = (if negative then ['-'] else []) ++ unsigned := by
  cases sign <;> rfl

/-- What is read as a number is the text of one, and its parts are those that the reader has found.
An integer other than zero is followed by nothing that could go on with it. -/
theorem exists_numberParts {s rest : List Char} {result : Except ReadFault Value}
    (read : readNumber? s = some (result, rest)) :
    ∃ n : NumberParts, n.WellFormed ∧ n.result = result ∧ s = n.text ++ rest ∧
      (n.fraction = [] → n.exponent = [] → n.whole ≠ ['0'] → StopsNumber rest) := by
  obtain ⟨negative, unsigned, sign⟩ := exists_signSplit s
  rw [sign.readNumber?_eq, readUnsigned?] at read
  have whole := wholeDigits_append_drop unsigned
  have noDigit := @noDigit_drop_wholeDigits unsigned
  generalize unsigned.drop (wholeDigits unsigned).length = behind at read whole noDigit
  split at read
  · cases read
  next some =>
  -- Without whole digits nothing is read; now the parts can be named.
  have filled : wholeDigits unsigned ≠ [] := by simpa using some
  obtain ⟨rfl, rfl⟩ := Prod.mk.inj (Option.some.inj read)
  obtain ⟨exponent, rest, form, text, power, left, none⟩ := exponent_split (afterFraction behind)
  rw [power, left]
  refine ⟨⟨negative, wholeDigits unsigned, fractionDigits behind, exponent⟩, ?_, rfl, ?_, ?_⟩
  · exact {
      filled
      whole := wholeDigits_decimal unsigned
      leading := wholeDigits_leading
      fraction := fractionDigits_decimal behind
      exponent := form }
  · calc
      s = _ ++ (wholeDigits unsigned ++ behind) := by rw [whole, ← sign.text_eq]
      _ = _ ++ (wholeDigits unsigned ++ (pointed (fractionDigits behind) ++ (exponent ++ rest))) := by
        rw [← text, pointed_append_afterFraction]
      _ = _ := by rw [NumberParts.text, NumberParts.tail, List.append_assoc, List.append_assoc,
          List.append_assoc]
  · intro noFraction noExponent notZero
    obtain rfl : exponent = [] := noExponent
    obtain rfl : behind = rest := by
      rw [← pointed_append_afterFraction behind, text, show fractionDigits behind = [] from noFraction]
      rfl
    exact ⟨noDigit notZero, noFraction, none rfl⟩

end Numbers

end GuardedRecords
