import GuardedRecords.Proofs.JsonText
import GuardedRecords.Proofs.Outcomes
import GuardedRecords.Proofs.TableUpdates

namespace GuardedRecords

theorem skipJsonBlanks_append {blanks : List Char} (blank : JsonBlanks blanks) {c : Char}
    (bare : isJsonBlank c = false) (rest : List Char) :
    skipJsonBlanks (blanks ++ c :: rest) = c :: rest := by
  rw [skipJsonBlanks, List.dropWhile_append_of_pos blank, List.dropWhile_cons_of_neg]
  simp [bare]

/-- What may follow a number without being read as a part of it. -/
def EndsNumber (rest : List Char) : Prop :=
  ∀ c ∈ rest.head?, isAsciiDigit c = false ∧ c ≠ '.' ∧ c ≠ 'e' ∧ c ≠ 'E'

theorem isAsciiDigit_of_mem_decimalDigits {c : Char} (digit : c ∈ decimalDigits) :
    isAsciiDigit c = true := by
  have table : ∀ c ∈ decimalDigits, isAsciiDigit c = true := forall_mem_of_decide (by decide)
  exact table c digit

theorem eq_zero_of_toDigits {n : Nat} {rest : List Char}
    (written : Nat.toDigits 10 n = '0' :: rest) : n = 0 := by
  induction n using Nat.strongRecOn generalizing rest with
  | ind n ih =>
    by_cases small : n < 10
    · have single : ∀ n < 10, n.digitChar = '0' → n = 0 := by decide
      rw [Nat.toDigits_of_lt_base small] at written
      exact single n small (List.cons.inj written).1
    · rw [Nat.toDigits_of_base_le (by decide) (by omega)] at written
      obtain ⟨c, more, front, -⟩ := exists_toDigits_eq_cons (n / 10)
      rw [front] at written
      obtain ⟨rfl, -⟩ := List.cons.inj written
      have zero : n / 10 = 0 := ih (n / 10) (by omega) front
      omega

/-- The decimal digits of a natural number are read to their end. A leading zero is only written for
zero itself, so the rule for zeros takes nothing away. -/
theorem wholeDigits_toDigits (n : Nat) {rest : List Char} (ends : EndsNumber rest) :
    wholeDigits (Nat.toDigits 10 n ++ rest) = Nat.toDigits 10 n := by
  by_cases zero : n = 0
  · subst zero
    rfl
  · have run : (Nat.toDigits 10 n ++ rest).takeWhile isAsciiDigit = Nat.toDigits 10 n := by
      rw [List.takeWhile_append_of_pos fun c member =>
        isAsciiDigit_of_mem_decimalDigits (mem_decimalDigits_of_mem_toDigits member)]
      cases rest with
      | nil => simp
      | cons c rest => simp [(ends c rfl).1]
    unfold wholeDigits
    split
    · next same =>
      obtain ⟨c, more, front, -⟩ := exists_toDigits_eq_cons n
      rw [front] at same
      obtain ⟨rfl, -⟩ := List.cons.inj same
      exact absurd (eq_zero_of_toDigits front) zero
    · exact run

theorem fractionDigits_of_endsNumber {rest : List Char} (ends : EndsNumber rest) :
    fractionDigits rest = [] := by
  unfold fractionDigits
  split
  · exact absurd rfl (ends '.' rfl).2.1
  · rfl

theorem exponentPart?_of_endsNumber {rest : List Char} (ends : EndsNumber rest) :
    exponentPart? rest = none := by
  cases rest with
  | nil => rfl
  | cons c rest =>
    obtain ⟨-, -, small, large⟩ := ends c rfl
    simp [exponentPart?, small, large]

theorem decimalNumber_toDigits (n : Nat) : decimalNumber (Nat.toDigits 10 n) = n :=
  Nat.ofDigitChars_toDigits (by decide) (by decide)

/-- A natural number of at most as many digits as the reader allows is read back as the integer. -/
theorem readNumber?_toDigits {n : Nat} (short : (Nat.toDigits 10 n).length ≤ integerDigitLimit)
    {rest : List Char} (ends : EndsNumber rest) :
    readNumber? (Nat.toDigits 10 n ++ rest) = some (.ok (.int n), rest) := by
  obtain ⟨c, more, front, digit⟩ := exists_toDigits_eq_cons n
  have unsigned : c ≠ '-' := by
    rintro rfl
    exact absurd digit (by decide)
  have bare : ∀ more, Nat.toDigits 10 n ++ rest ≠ '-' :: more := by
    intro more same
    rw [front] at same
    exact unsigned (List.cons.inj same).1
  unfold readNumber?
  split
  next negative s same =>
  split at same
  · next more split => exact absurd split (bare more)
  obtain ⟨rfl, rfl⟩ := Prod.mk.inj same
  simp [wholeDigits_toDigits n ends, fractionDigits_of_endsNumber ends,
    exponentPart?_of_endsNumber ends, decimalNumber_toDigits, Nat.not_lt.mpr short]

/-- A negative integer of at most as many digits as the reader allows is read back. Zero is
included, although no writer puts a sign before it. -/
theorem readNumber?_negative {n : Nat} (short : (Nat.toDigits 10 n).length ≤ integerDigitLimit)
    {rest : List Char} (ends : EndsNumber rest) :
    readNumber? ('-' :: Nat.toDigits 10 n ++ rest) = some (.ok (.int (-n)), rest) := by
  simp [readNumber?, wholeDigits_toDigits n ends, fractionDigits_of_endsNumber ends,
    exponentPart?_of_endsNumber ends, decimalNumber_toDigits, Nat.not_lt.mpr short]

theorem ascii_of_toLower {c : Char} (ascii : c.toLower.toNat < 128) : c.toNat < 128 := by
  rcases Nat.lt_or_ge c.toNat 128 with small | wide
  · exact small
  · have noCapital : ¬(c.val ≥ 'A'.val ∧ c.val ≤ 'Z'.val) := by
      rintro ⟨-, bound⟩
      have letter : c.toNat ≤ 90 := bound
      omega
    have kept : c.toLower = c := dif_neg noCapital
    rwa [kept] at ascii

theorem hexValue?_of_toLower {c : Char} {k : Nat} (digit : k < 16)
    (same : c.toLower = Nat.digitChar k) : hexValue? c = some k := by
  have ascii : ∀ k < 16, (Nat.digitChar k).toNat < 128 := by decide
  have table : ∀ n < 128, ∀ k < 16, (Char.ofNat n).toLower = Nat.digitChar k →
      hexValue? (Char.ofNat n) = some k := by decide +kernel
  have read := table c.toNat (ascii_of_toLower (same ▸ ascii k digit)) k digit
  rw [Char.ofNat_toNat] at read
  exact read same

/-- The digits of a code are four, and they are read as it. -/
theorem SpellsCode.digits {n : Nat} {digits : List Char} (spelled : SpellsCode n digits)
    (narrow : n < 0x10000) :
    ∃ a b c d, digits = [a, b, c, d] ∧ hexNumber? [a, b, c, d] = some n := by
  have four : digits.length = 4 := by
    have lengths := congrArg List.length spelled
    simpa [hexDigits] using lengths
  match digits, four with
  | [a, b, c, d], _ =>
    have each : a.toLower = Nat.digitChar (n / 4096 % 16) ∧
        b.toLower = Nat.digitChar (n / 256 % 16) ∧
        c.toLower = Nat.digitChar (n / 16 % 16) ∧ d.toLower = Nat.digitChar (n / 1 % 16) := by
      simpa [SpellsCode, hexDigits, List.range, List.range.loop] using spelled
    obtain ⟨first, second, third, last⟩ := each
    refine ⟨a, b, c, d, rfl, ?_⟩
    have value : 16 * (16 * (16 * (16 * 0 + n / 4096 % 16) + n / 256 % 16) + n / 16 % 16) +
        n / 1 % 16 = n := by omega
    simp only [hexNumber?, List.foldl_cons, List.foldl_nil, Option.bind_some, Option.map_some,
      hexValue?_of_toLower (Nat.mod_lt _ (by decide)) first,
      hexValue?_of_toLower (Nat.mod_lt _ (by decide)) second,
      hexValue?_of_toLower (Nat.mod_lt _ (by decide)) third,
      hexValue?_of_toLower (Nat.mod_lt _ (by decide)) last, value]

theorem joinUnits_code {n : Nat} (single : n < 0xD800 ∨ 0xE000 ≤ n) (more : List TextUnit) :
    joinUnits (.code n :: more) = Char.ofNat n :: joinUnits more := by
  have outside : ¬(0xD800 ≤ n ∧ n < 0xE000) := by omega
  match more with
  | [] => simp [joinUnits, outside]
  | .char c :: more => simp [joinUnits, outside]
  | .code m :: more =>
    rw [joinUnits, if_neg (by omega), if_neg outside]

/-- One escape with four hexadecimal digits is scanned as one unit, and the text goes on behind
it. -/
theorem scanText_code {n : Nat} {digits : List Char} (spelled : SpellsCode n digits)
    (narrow : n < 0x10000) (opening : List Char) {rest : List Char} (more : rest ≠ []) :
    scanText opening ('\\' :: 'u' :: digits ++ rest) =
      (scanText opening rest).map fun r => (.code n :: r.1, r.2) := by
  obtain ⟨a, b, c, d, rfl, read⟩ := spelled.digits narrow
  have goesOn : rest.isEmpty = false := List.isEmpty_eq_false_iff.mpr more
  simp only [List.cons_append, List.nil_append]
  rw [scanText, goesOn, read]

/-- A written character is scanned as one or two units whatever follows before the closing quote,
and these units join to the character. -/
theorem WrittenChar.scanned {c : Char} {written : List Char} (form : WrittenChar c written) :
    ∃ units : List TextUnit, (∀ more, joinUnits (units ++ more) = c :: joinUnits more) ∧
      ∀ (opening : List Char) {rest : List Char}, rest ≠ [] →
        scanText opening (written ++ rest) =
          (scanText opening rest).map fun r => (units ++ r.1, r.2) := by
  cases form with
  | plain notQuote notEscape visible =>
    refine ⟨[.char c], fun more => rfl, fun opening rest _ => ?_⟩
    rw [List.singleton_append, scanText]
    · rw [if_neg (by omega)]
      rfl
    all_goals simp [notQuote, notEscape]
  | @short letter _ known =>
    have table : ∀ pair ∈ escapeLetters,
        shortEscape? pair.1 = some pair.2 ∧ pair.1 ≠ 'u' := by decide
    obtain ⟨read, notCode⟩ := table _ known
    refine ⟨[.char c], fun more => rfl, fun opening rest _ => ?_⟩
    simp only [List.cons_append, List.nil_append]
    rw [scanText]
    · rw [read]
    all_goals simp [notCode]
  | code narrow spelled =>
    refine ⟨[.code c.toNat], fun more => ?_, fun opening rest more => ?_⟩
    · have single : c.toNat < 0xD800 ∨ 0xE000 ≤ c.toNat := c.valid.imp_right fun bound => bound.1
      rw [List.singleton_append, joinUnits_code single, Char.ofNat_toNat]
    · exact scanText_code spelled narrow opening more
  | @surrogates _ high low wide first second =>
    have bound : c.toNat < 0xD800 ∨ 0xE000 ≤ c.toNat ∧ c.toNat < 0x110000 := c.valid
    refine ⟨[.code (0xD800 + (c.toNat - 0x10000) / 0x400),
      .code (0xDC00 + (c.toNat - 0x10000) % 0x400)], fun more => ?_, fun opening rest more => ?_⟩
    · have point : 0x10000 + (0xD800 + (c.toNat - 0x10000) / 0x400 - 0xD800) * 0x400 +
          (0xDC00 + (c.toNat - 0x10000) % 0x400 - 0xDC00) = c.toNat := by omega
      rw [List.cons_append, List.singleton_append, joinUnits, if_pos (by omega), point,
        Char.ofNat_toNat]
    · rw [List.append_assoc, scanText_code first (by omega) opening (by simp),
        scanText_code second (by omega) opening more]
      cases scanText opening rest <;> rfl

/-- A written text is scanned to its closing quote as units that make up the text. How the
characters are spelled, plainly or by escapes, cannot be told from the text afterwards. -/
theorem WrittenText.scanned {text body : List Char} (form : WrittenText text body) :
    ∃ units : List TextUnit, joinUnits units = text ∧
      ∀ opening rest, scanText opening (body ++ '"' :: rest) = .ok (units, rest) := by
  induction form with
  | nil => exact ⟨[], rfl, fun opening rest => rfl⟩
  | cons first _ ih =>
    obtain ⟨front, joinFront, scanFront⟩ := first.scanned
    obtain ⟨units, joined, scan⟩ := ih
    refine ⟨front ++ units, by rw [joinFront, joined], fun opening rest => ?_⟩
    rw [List.append_assoc, scanFront opening (by simp), scan]
    rfl

/-- A written text is read back, up to its closing quote. A character beyond four digits may come as
two surrogates, which are joined again. -/
theorem WrittenText.readText_eq {s : String} {body : List Char} (form : WrittenText s.toList body)
    (opening rest : List Char) : readText opening (body ++ '"' :: rest) = .ok (s, rest) := by
  obtain ⟨units, joined, scan⟩ := form.scanned
  rw [readText, scan]
  simp only [Except.map, joined, String.ofList_toList]

theorem isPrefixOf_toDigits {w : Char} (letter : isAsciiDigit w = false) (word : List Char)
    (n : Nat) (rest : List Char) : (w :: word).isPrefixOf (Nat.toDigits 10 n ++ rest) = false := by
  obtain ⟨c, more, front, digit⟩ := exists_toDigits_eq_cons n
  have different : w ≠ c := by
    rintro rfl
    exact absurd (isAsciiDigit_of_mem_decimalDigits digit) (Bool.eq_false_iff.mp letter)
  rw [front, List.cons_append, List.isPrefixOf_cons_cons, beq_false_of_ne different, Bool.false_and]

theorem readScalar_toDigits {n : Nat} (short : (Nat.toDigits 10 n).length ≤ integerDigitLimit)
    {rest : List Char} (ends : EndsNumber rest) :
    readScalar (Nat.toDigits 10 n ++ rest) = .ok (.int n, rest) := by
  have noWord (w : Char) (word : List Char) (letter : isAsciiDigit w = false) :=
    isPrefixOf_toDigits letter word n rest
  rw [readScalar, if_neg, if_neg, if_neg, if_neg, if_neg, if_neg, readNumber?_toDigits short ends]
  all_goals exact Bool.eq_false_iff.mp (noWord _ _ (by decide))

theorem readScalar_negative {n : Nat} (short : (Nat.toDigits 10 n).length ≤ integerDigitLimit)
    {rest : List Char} (ends : EndsNumber rest) :
    readScalar ('-' :: Nat.toDigits 10 n ++ rest) = .ok (.int (-n), rest) := by
  have notInfinite : "-Infinity".toList.isPrefixOf ('-' :: Nat.toDigits 10 n ++ rest) = false :=
    isPrefixOf_toDigits (w := 'I') (by decide) "nfinity".toList n rest
  rw [readScalar, if_neg, if_neg, if_neg, if_neg, if_neg, if_neg, readNumber?_negative short ends]
  · exact Bool.eq_false_iff.mp notInfinite
  all_goals exact Bool.false_ne_true

theorem readValue_scalar {c : Char} (bare : c ∉ ['"', '{', '[']) (fuel : Nat) (rest : List Char) :
    readValue (fuel + 1) (c :: rest) = readScalar (c :: rest) := by
  rw [readValue]
  all_goals
    intro more same
    obtain ⟨rfl, -⟩ := List.cons.inj same
    exact bare (by decide)

/-- Members with distinct names make the object as they stand. With a repeated name the last value
would win. -/
theorem Table.ofPairs_of_nodup {α : Type} {pairs : List (String × α)}
    (distinct : (Table.names pairs).Nodup) : Table.ofPairs pairs = pairs := by
  have grown (table more : Table α) (apart : (Table.names (table ++ more)).Nodup) :
      table.putAll more = table ++ more := by
    induction more generalizing table with
    | nil => exact (List.append_nil table).symm
    | cons pair more ih =>
      have rearranged : table ++ pair :: more = (table ++ [pair]) ++ more := by simp
      have new : pair.1 ∉ table.names := by
        rw [Table.names_append, List.nodup_append] at apart
        exact fun before => apart.2.2 pair.1 before pair.1 List.mem_cons_self rfl
      rw [Table.putAll_cons, Table.put_of_not_mem new, rearranged]
      exact ih (table ++ [pair]) (rearranged ▸ apart)
  exact grown [] pairs distinct

theorem endsNumber_append {blanks : List Char} (blank : JsonBlanks blanks) {c : Char}
    (mark : c ∈ [',', ':', ']', '}']) (rest : List Char) : EndsNumber (blanks ++ c :: rest) := by
  have marks : ∀ c ∈ [',', ':', ']', '}'],
      isAsciiDigit c = false ∧ c ≠ '.' ∧ c ≠ 'e' ∧ c ≠ 'E' := forall_mem_of_decide (by decide)
  intro d first
  cases blanks with
  | nil =>
    obtain rfl : c = d := Option.some.inj first
    exact marks c mark
  | cons b blanks =>
    obtain rfl : b = d := Option.some.inj first
    have kinds : b = ' ' ∨ b = '\t' ∨ b = '\n' ∨ b = '\r' := by
      simpa [isJsonBlank, or_assoc] using blank b List.mem_cons_self
    rcases kinds with rfl | rfl | rfl | rfl <;> decide

theorem bare_of_mem_jsonOpenings {c : Char} (opens : c ∈ jsonOpenings) :
    isJsonBlank c = false ∧ c ≠ ']' ∧ c ≠ '}' ∧ c ≠ '\uFEFF' := by
  have table : ∀ c ∈ jsonOpenings, isJsonBlank c = false ∧ c ≠ ']' ∧ c ≠ '}' ∧ c ≠ '\uFEFF' := by
    exact forall_mem_of_decide (by decide)
  exact table c opens

theorem readValue_emptyArray {blanks : List Char} (blank : JsonBlanks blanks) (fuel : Nat)
    (rest : List Char) :
    readValue (fuel + 1) ('[' :: blanks ++ ']' :: rest) = .ok (.array [], rest) := by
  simp only [List.cons_append, readValue, skipJsonBlanks_append blank (c := ']') (by decide)]

theorem readValue_emptyObject {blanks : List Char} (blank : JsonBlanks blanks) (fuel : Nat)
    (rest : List Char) :
    readValue (fuel + 1) ('{' :: blanks ++ '}' :: rest) = .ok (.object [], rest) := by
  simp only [List.cons_append, readValue, skipJsonBlanks_append blank (c := '}') (by decide)]

theorem readValue_array {blanks : List Char} (blank : JsonBlanks blanks) {c : Char}
    (opens : c ∈ jsonOpenings) (fuel : Nat) (rest : List Char) :
    readValue (fuel + 1) ('[' :: blanks ++ c :: rest) =
      (readItems fuel (c :: rest)).map fun r => (.array r.1, r.2) := by
  simp only [List.cons_append, readValue,
    skipJsonBlanks_append blank (bare_of_mem_jsonOpenings opens).1]
  split
  · next same => exact absurd (List.cons.inj same).1 (bare_of_mem_jsonOpenings opens).2.1
  · rfl

theorem readValue_object {blanks : List Char} (blank : JsonBlanks blanks) {c : Char}
    (opens : c ∈ jsonOpenings) (fuel : Nat) (rest : List Char) :
    readValue (fuel + 1) ('{' :: blanks ++ c :: rest) =
      (readMembers fuel (c :: rest)).map fun r => (.object (Table.ofPairs r.1), r.2) := by
  simp only [List.cons_append, readValue,
    skipJsonBlanks_append blank (bare_of_mem_jsonOpenings opens).1]
  split
  · next same => exact absurd (List.cons.inj same).1 (bare_of_mem_jsonOpenings opens).2.2.1
  · rfl

theorem readItems_last {fuel : Nat} {s blanks rest : List Char} {v : Value}
    (blank : JsonBlanks blanks) (first : readValue fuel s = .ok (v, blanks ++ ']' :: rest)) :
    readItems (fuel + 1) s = .ok ([v], rest) := by
  simp only [readItems, first, ok_bind, skipJsonBlanks_append blank (c := ']') (by decide)]

/-- One item and the comma behind it, when others follow. Blanks may stand on both sides of the
comma. -/
theorem readItems_item {fuel : Nat} {s before after more rest : List Char} {v : Value}
    {vs : List Value} {c : Char} (left : JsonBlanks before) (right : JsonBlanks after)
    (opens : c ∈ jsonOpenings)
    (first : readValue fuel s = .ok (v, before ++ ',' :: (after ++ c :: more)))
    (others : readItems fuel (c :: more) = .ok (vs, rest)) :
    readItems (fuel + 1) s = .ok (v :: vs, rest) := by
  simp only [readItems, first, ok_bind, skipJsonBlanks_append left (c := ',') (by decide),
    skipJsonBlanks_append right (bare_of_mem_jsonOpenings opens).1, others]

/-- The name of a member is read, with its colon and the blanks on both sides, and the value behind
it decides how the members go on. -/
theorem readMembers_named {fuel : Nat} {name : String} {key before after more : List Char}
    {c : Char} (written : WrittenText name.toList key) (left : JsonBlanks before)
    (right : JsonBlanks after) (opens : c ∈ jsonOpenings) {v : Value} {rest : List Char}
    (entry : readValue fuel (c :: more) = .ok (v, rest)) :
    readMembers (fuel + 1) ('"' :: key ++ '"' :: before ++ ':' :: after ++ c :: more) =
      match skipJsonBlanks rest with
      | '}' :: more => .ok ([(name, v)], more)
      | ',' :: more =>
        (readMembers fuel (skipJsonBlanks more)).map fun r => ((name, v) :: r.1, r.2)
      | more => .error ⟨.expectedComma, more⟩ := by
  simp only [List.cons_append, List.append_assoc, readMembers, written.readText_eq, ok_bind,
    skipJsonBlanks_append left (c := ':') (by decide),
    skipJsonBlanks_append right (bare_of_mem_jsonOpenings opens).1, entry]
  rfl

/-- Whether the text of a part is read as that part, up to where it ends, with fuel enough for its
length. What follows a value must not go on with its digits. -/
def JsonPart.ReadFrom (cs : List Char) : JsonPart → Prop
  | .value v => ∀ fuel rest, 2 * cs.length ≤ fuel + 1 → EndsNumber rest →
      readValue (fuel + 1) (cs ++ rest) = .ok (v, rest)
  | .items vs => ∀ fuel blanks rest, 2 * cs.length ≤ fuel → JsonBlanks blanks →
      readItems (fuel + 1) (cs ++ blanks ++ ']' :: rest) = .ok (vs, rest)
  | .member name v => ∀ fuel rest, 2 * cs.length ≤ fuel → EndsNumber rest →
      readMembers (fuel + 1) (cs ++ rest) =
        match skipJsonBlanks rest with
        | '}' :: more => .ok ([(name, v)], more)
        | ',' :: more =>
          (readMembers fuel (skipJsonBlanks more)).map fun r => ((name, v) :: r.1, r.2)
        | more => .error ⟨.expectedComma, more⟩
  | .members ms => ∀ fuel blanks rest, 2 * cs.length ≤ fuel → JsonBlanks blanks →
      readMembers (fuel + 1) (cs ++ blanks ++ '}' :: rest) = .ok (ms, rest)

def JsonPart.Plain : JsonPart → Prop
  | .value v => v.Plain
  | .items vs => itemsPlain vs
  | .member _ v => v.Plain
  | .members ms => membersPlain ms

/-- What holds for parts of a text, said for a whole value: with fuel of twice its length the value
is read, and nothing of what follows is. -/
theorem JsonPart.ReadFrom.readValue_eq {cs : List Char} {v : Value}
    (reads : (JsonPart.value v).ReadFrom cs) (text : JsonText (.value v) cs) (fuel : Nat)
    {rest : List Char} (enough : 2 * cs.length ≤ fuel) (ends : EndsNumber rest) :
    readValue fuel (cs ++ rest) = .ok (v, rest) := by
  obtain ⟨c, more, rfl, -⟩ := text.opens
  rw [List.length_cons] at enough
  obtain ⟨less, rfl⟩ : ∃ less, fuel = less + 1 := ⟨fuel - 1, by omega⟩
  exact reads less rest enough ends

/-- Every text of plain values is read back, up to where it ends. Nothing that follows a value
matters to it, but a number must not go on. -/
theorem JsonText.readFrom {part : JsonPart} {cs : List Char} (text : JsonText part cs)
    (plain : part.Plain) : part.ReadFrom cs := by
  -- The induction is on the text. Each bracket and each comma takes one unit of fuel, and twice the
  -- length leaves enough for what is inside and behind it.
  induction text with
  | null => exact fun fuel rest _ _ => readValue_scalar (by decide) fuel _
  | yes => exact fun fuel rest _ _ => readValue_scalar (by decide) fuel _
  | no => exact fun fuel rest _ _ => readValue_scalar (by decide) fuel _
  | nat n =>
    intro fuel rest _ ends
    have short : (Nat.toDigits 10 n).length ≤ integerDigitLimit := plain
    have table : ∀ c ∈ decimalDigits, c ∉ ['"', '{', '['] := forall_mem_of_decide (by decide)
    obtain ⟨c, more, front, digit⟩ := exists_toDigits_eq_cons n
    have scalar := readScalar_toDigits short ends
    rw [front] at scalar ⊢
    exact (readValue_scalar (table c digit) fuel _).trans scalar
  | negative n =>
    intro fuel rest _ ends
    have short : (Nat.toDigits 10 n).length ≤ 4300 := by
      simpa [JsonPart.Plain, Value.Plain] using plain
    exact (readValue_scalar (by decide) fuel _).trans (readScalar_negative short ends)
  | text written =>
    intro fuel rest _ _
    simp only [List.cons_append, List.append_assoc, List.nil_append, readValue,
      written.readText_eq]
    rfl
  | emptyArray blank =>
    intro fuel rest _ _
    rw [List.append_assoc]
    exact readValue_emptyArray blank fuel rest
  | @array vs before cs after left inner right ih =>
    intro fuel rest enough _
    simp only [List.length_append, List.length_cons] at enough
    obtain ⟨fuel, rfl⟩ : ∃ less, fuel = less + 1 := ⟨fuel - 1, by omega⟩
    have items := ih plain fuel after rest (by omega) right
    obtain ⟨c, more, rfl, opens⟩ := inner.opens
    have shape : '[' :: before ++ (c :: more) ++ after ++ [']'] ++ rest =
        '[' :: before ++ c :: (more ++ after ++ ']' :: rest) := by simp
    rw [shape, readValue_array left opens]
    exact congrArg (Except.map _) items
  | emptyObject blank =>
    intro fuel rest _ _
    rw [List.append_assoc]
    exact readValue_emptyObject blank fuel rest
  | @object ms before cs after left inner right ih =>
    intro fuel rest enough _
    simp only [List.length_append, List.length_cons] at enough
    obtain ⟨fuel, rfl⟩ : ∃ less, fuel = less + 1 := ⟨fuel - 1, by omega⟩
    obtain ⟨distinct, inside⟩ : (Table.names ms).Nodup ∧ membersPlain ms := by
      simpa [JsonPart.Plain, Value.Plain] using plain
    have members := ih inside fuel after rest (by omega) right
    obtain ⟨c, more, rfl, opens⟩ := inner.opens
    have shape : '{' :: before ++ (c :: more) ++ after ++ ['}'] ++ rest =
        '{' :: before ++ c :: (more ++ after ++ '}' :: rest) := by simp
    have table : Table.ofPairs ms = ms := Table.ofPairs_of_nodup distinct
    rw [shape, readValue_object left opens]
    have answer := congrArg (Except.map fun r => (Value.object (Table.ofPairs r.1), r.2)) members
    rw [Except.map, table] at answer
    exact answer
  | @lastItem v cs only ih =>
    intro fuel blanks rest enough blank
    rw [List.append_assoc]
    have ends := endsNumber_append blank (c := ']') (by decide) rest
    exact readItems_last blank ((ih plain.1).readValue_eq only fuel enough ends)
  | @item v vs cs before after more first left right others ihFirst ihOthers =>
    intro fuel blanks rest enough blank
    simp only [List.length_append, List.length_cons] at enough
    obtain ⟨fuel, rfl⟩ : ∃ less, fuel = less + 1 := ⟨fuel - 1, by omega⟩
    have items := ihOthers plain.2 fuel blanks rest (by omega) blank
    obtain ⟨c, tail, rfl, opens⟩ := others.opens
    have shape : cs ++ before ++ ',' :: after ++ (c :: tail) ++ blanks ++ ']' :: rest =
        cs ++ (before ++ ',' :: (after ++ c :: (tail ++ blanks ++ ']' :: rest))) := by simp
    have ends := endsNumber_append left (c := ',') (by decide)
      (after ++ c :: (tail ++ blanks ++ ']' :: rest))
    have value := (ihFirst plain.1).readValue_eq first (fuel + 1) (by omega) ends
    rw [shape]
    exact readItems_item left right opens value items
  | @named name v key before after cs written left right entry ih =>
    intro fuel rest enough ends
    simp only [List.length_append, List.length_cons] at enough
    have value := (ih plain).readValue_eq entry fuel (by omega) ends
    obtain ⟨c, more, rfl, opens⟩ := entry.opens
    rw [List.append_assoc]
    exact readMembers_named written left right opens value
  | @lastMember name v cs only ih =>
    intro fuel blanks rest enough blank
    have ends := endsNumber_append blank (c := '}') (by decide) rest
    rw [List.append_assoc, ih plain.1 fuel _ enough ends,
      skipJsonBlanks_append blank (c := '}') (by decide)]
    rfl
  | @nextMember name v ms cs before after more first left right others ihFirst ihOthers =>
    intro fuel blanks rest enough blank
    simp only [List.length_append, List.length_cons] at enough
    obtain ⟨fuel, rfl⟩ : ∃ less, fuel = less + 1 := ⟨fuel - 1, by omega⟩
    have members := ihOthers plain.2 fuel blanks rest (by omega) blank
    obtain ⟨c, tail, rfl, opens⟩ := others.opens
    have shape : cs ++ before ++ ',' :: after ++ (c :: tail) ++ blanks ++ '}' :: rest =
        cs ++ (before ++ ',' :: (after ++ c :: (tail ++ blanks ++ '}' :: rest))) := by simp
    have ends := endsNumber_append left (c := ',') (by decide)
      (after ++ c :: (tail ++ blanks ++ '}' :: rest))
    rw [shape, ihFirst plain.1 (fuel + 1) _ (by omega) ends,
      skipJsonBlanks_append left (c := ',') (by decide)]
    simp only [skipJsonBlanks_append right (bare_of_mem_jsonOpenings opens).1]
    exact congrArg (Except.map _) members

section Whole

variable {s cs : List Char} {v : Value}

/-- A document is one value with blanks around it. The fuel is more than any text of this length
needs. -/
theorem readChars_eq_ok_iff :
    readChars s = .ok v ↔ ∃ rest, readValue (2 * s.length + 2) (skipJsonBlanks s) = .ok (v, rest) ∧
      skipJsonBlanks rest = [] := by
  rw [readChars, bind_eq_ok_iff]
  constructor
  · rintro ⟨⟨w, rest⟩, value, ending⟩
    dsimp only at ending
    split at ending
    · next none =>
      cases ending
      exact ⟨rest, value, none⟩
    · cases ending
  · rintro ⟨rest, value, none⟩
    refine ⟨_, value, ?_⟩
    dsimp only
    rw [none]

theorem readChars_byteOrderMark (s : List Char) :
    readChars ('\uFEFF' :: s) = .error ⟨.expectedValue, '\uFEFF' :: s⟩ := by
  rfl

/-- A text is read as its characters are: they do not begin with a byte order mark. -/
theorem Value.read_eq_ok_iff : Value.read (String.ofList cs) = .ok v ↔ readChars cs = .ok v := by
  unfold Value.read
  rw [String.toList_ofList]
  dsimp only
  split
  · next more =>
    rw [readChars_byteOrderMark]
    exact ⟨nofun, nofun⟩
  · exact mapError_eq_ok_iff

/-- The reader gives back every plain value from every text of it, however the text is spelled and
wherever it has blanks between its tokens. -/
theorem JsonText.read_eq (text : JsonText (.value v) cs) (plain : v.Plain) :
    Value.read (String.ofList cs) = .ok v := by
  have done : EndsNumber [] := fun c first => nomatch first
  have value := (text.readFrom plain).readValue_eq text (2 * cs.length + 2) (by omega) done
  obtain ⟨c, rest, rfl, opens⟩ := text.opens
  have bare : skipJsonBlanks (c :: rest) = c :: rest :=
    skipJsonBlanks_append jsonBlanks_nil (bare_of_mem_jsonOpenings opens).1 rest
  rw [List.append_nil] at value
  exact Value.read_eq_ok_iff.mpr (readChars_eq_ok_iff.mpr ⟨[], bare.symm ▸ value, rfl⟩)

end Whole

end GuardedRecords
