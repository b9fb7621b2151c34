import GuardedRecords.Proofs.Outcomes
import GuardedRecords.Text.Utf8

namespace GuardedRecords

theorem mapM_id_cons_eq_ok_iff {ε α : Type} {x : Except ε α} {rest : List (Except ε α)}
    {all : List α} :
    (x :: rest).mapM id = .ok all ↔
      ∃ a others, x = .ok a ∧ rest.mapM id = .ok others ∧ all = a :: others := by
  rw [List.mapM_cons, id, bind_eq_ok_iff]
  constructor
  · rintro ⟨a, rfl, run⟩
    obtain ⟨others, read, same⟩ := bind_eq_ok_iff.mp run
    cases same
    exact ⟨a, others, rfl, read, rfl⟩
  · rintro ⟨a, others, rfl, read, rfl⟩
    exact ⟨a, rfl, by rw [read]; rfl⟩

section Scan

variable {offset : Nat} {begun : BegunChar} {b : UInt8} {rest : Bytes}

/-- A byte within its bounds goes on with a character of which more than this byte is missing. Only
the first byte behind the lead has narrower bounds. -/
theorem utf8Scan_continued (within : begun.low ≤ b.toNat ∧ b.toNat ≤ begun.high)
    (missing : 1 < begun.missing) :
    utf8Scan offset (some begun) (b :: rest) =
      utf8Scan (offset + 1) (some {
        bytes := begun.bytes ++ [b]
        code := begun.code * 64 + (b.toNat - 0x80)
        missing := begun.missing - 1 }) rest := by
  simp only [utf8Scan, utf8Next, if_pos within, if_neg (Nat.not_le.mpr missing), List.nil_append]

theorem utf8Scan_completed (within : begun.low ≤ b.toNat ∧ b.toNat ≤ begun.high)
    (last : begun.missing ≤ 1) :
    utf8Scan offset (some begun) (b :: rest) =
      .ok (Char.ofNat (begun.code * 64 + (b.toNat - 0x80))) :: utf8Scan (offset + 1) none rest := by
  simp only [utf8Scan, utf8Next, if_pos within, if_pos last, List.singleton_append]

/-- A character that has begun goes on with a byte of its range where all bytes make characters; at
the end of the bytes, or with another byte, there is a fault. -/
theorem next_of_begun {bytes : Bytes} {chars : List Char}
    (run : (utf8Scan offset (some begun) bytes).mapM id = .ok chars) :
    ∃ b rest, bytes = b :: rest ∧ begun.low ≤ b.toNat ∧ b.toNat ≤ begun.high := by
  cases bytes with
  | nil => cases run
  | cons b rest =>
    refine ⟨b, rest, rfl, Decidable.byContradiction fun outside => ?_⟩
    simp only [utf8Scan, utf8Next, if_neg outside, List.cons_append] at run
    obtain ⟨_, _, fault, _⟩ := mapM_id_cons_eq_ok_iff.mp run
    cases fault

end Scan

/-- The bytes that make a character. No character has two encodings, surrogates have none, and there
are none past the last code point. -/
inductive Utf8Char : Bytes → Char → Prop
  | one {a : UInt8} (first : a.toNat < 0x80) : Utf8Char [a] (Char.ofNat a.toNat)
  | two {a b : UInt8} (first : 0xC2 ≤ a.toNat ∧ a.toNat < 0xE0)
      (second : 0x80 ≤ b.toNat ∧ b.toNat ≤ 0xBF) :
      Utf8Char [a, b] (Char.ofNat ((a.toNat - 0xC0) * 64 + (b.toNat - 0x80)))
  | three {a b c : UInt8} (first : 0xE0 ≤ a.toNat ∧ a.toNat < 0xF0)
      (second : 0x80 ≤ b.toNat ∧ b.toNat ≤ 0xBF) (shortest : a.toNat = 0xE0 → 0xA0 ≤ b.toNat)
      (noSurrogate : a.toNat = 0xED → b.toNat ≤ 0x9F)
      (third : 0x80 ≤ c.toNat ∧ c.toNat ≤ 0xBF) :
      Utf8Char [a, b, c]
        (Char.ofNat (((a.toNat - 0xE0) * 64 + (b.toNat - 0x80)) * 64 + (c.toNat - 0x80)))
  | four {a b c d : UInt8} (first : 0xF0 ≤ a.toNat ∧ a.toNat < 0xF5)
      (second : 0x80 ≤ b.toNat ∧ b.toNat ≤ 0xBF) (shortest : a.toNat = 0xF0 → 0x90 ≤ b.toNat)
      (inRange : a.toNat = 0xF4 → b.toNat ≤ 0x8F)
      (third : 0x80 ≤ c.toNat ∧ c.toNat ≤ 0xBF) (fourth : 0x80 ≤ d.toNat ∧ d.toNat ≤ 0xBF) :
      Utf8Char [a, b, c, d]
        (Char.ofNat ((((a.toNat - 0xF0) * 64 + (b.toNat - 0x80)) * 64 + (c.toNat - 0x80)) * 64 +
          (d.toNat - 0x80)))

theorem toNat_val_ofNat {n : Nat} (valid : n < 0xD800 ∨ 0xDFFF < n ∧ n < 0x110000) :
    (Char.ofNat n).val.toNat = n := by
  rw [Char.ofNat, dif_pos valid]
  rfl

theorem uint8_ofNat_eq {b : UInt8} {n : Nat} (same : b.toNat = n) : UInt8.ofNat n = b := by
  rw [← same, UInt8.ofNat_toNat]

theorem Utf8Char.encode_eq {bytes : Bytes} {char : Char} (made : Utf8Char bytes char) :
    String.utf8EncodeChar char = bytes := by
  cases made with
  | one first =>
    rw [String.utf8EncodeChar, toNat_val_ofNat (by omega), if_pos (by omega), UInt8.ofNat_toNat]
  | @two a b first second =>
    rw [String.utf8EncodeChar, toNat_val_ofNat (by omega), if_neg (by omega), if_pos (by omega),
      uint8_ofNat_eq (b := a) (by omega), uint8_ofNat_eq (b := b) (by omega)]
  | @three a b c first second shortest noSurrogate third =>
    rw [String.utf8EncodeChar, toNat_val_ofNat (by omega),
      if_neg (by omega), if_neg (by omega),
      if_pos (by omega), uint8_ofNat_eq (b := a) (by omega), uint8_ofNat_eq (b := b) (by omega),
      uint8_ofNat_eq (b := c) (by omega)]
  | @four a b c d first second shortest inRange third fourth =>
    rw [String.utf8EncodeChar, toNat_val_ofNat (by omega),
      if_neg (by omega), if_neg (by omega),
      if_neg (by omega), uint8_ofNat_eq (b := a) (by omega),
      uint8_ofNat_eq (b := b) (by omega), uint8_ofNat_eq (b := c) (by omega),
      uint8_ofNat_eq (b := d) (by omega)]

theorem exists_utf8Char (char : Char) : ∃ bytes, Utf8Char bytes char := by
  obtain ⟨n, code⟩ : ∃ n, char.toNat = n := ⟨_, rfl⟩
  have valid : n < 0xD800 ∨ 0xDFFF < n ∧ n < 0x110000 := code ▸ char.valid
  have same {m : Nat} (spelled : m = n) : Char.ofNat m = char := by
    rw [spelled, ← code, Char.ofNat_toNat]
  have byte {m : Nat} (small : m < 256) : (UInt8.ofNat m).toNat = m :=
    UInt8.toNat_ofNat_of_lt' small
  rcases Nat.lt_or_ge n 0x80 with one | wide
  · have a := byte (m := n) (by omega)
    have made := Utf8Char.one (a := .ofNat n) (by omega)
    rw [same (by omega)] at made
    exact ⟨_, made⟩
  rcases Nat.lt_or_ge n 0x800 with two | wider
  · have a := byte (m := 0xC0 + n / 64) (by omega)
    have b := byte (m := 0x80 + n % 64) (by omega)
    have made := Utf8Char.two (a := .ofNat (0xC0 + n / 64)) (b := .ofNat (0x80 + n % 64))
      (by omega) (by omega)
    rw [same (by omega)] at made
    exact ⟨_, made⟩
  rcases Nat.lt_or_ge n 0x10000 with three | widest
  · have a := byte (m := 0xE0 + n / 4096) (by omega)
    have b := byte (m := 0x80 + n / 64 % 64) (by omega)
    have c := byte (m := 0x80 + n % 64) (by omega)
    have made := Utf8Char.three (a := .ofNat (0xE0 + n / 4096)) (b := .ofNat (0x80 + n / 64 % 64))
      (c := .ofNat (0x80 + n % 64)) (by omega) (by omega) (by omega) (by omega) (by omega)
    rw [same (by omega)] at made
    exact ⟨_, made⟩
  · have a := byte (m := 0xF0 + n / 262144) (by omega)
    have b := byte (m := 0x80 + n / 4096 % 64) (by omega)
    have c := byte (m := 0x80 + n / 64 % 64) (by omega)
    have d := byte (m := 0x80 + n % 64) (by omega)
    have made := Utf8Char.four (a := .ofNat (0xF0 + n / 262144))
      (b := .ofNat (0x80 + n / 4096 % 64)) (c := .ofNat (0x80 + n / 64 % 64))
      (d := .ofNat (0x80 + n % 64)) (by omega) (by omega) (by omega) (by omega) (by omega) (by omega)
    rw [same (by omega)] at made
    exact ⟨_, made⟩

/-- The encoding of a character makes that character. With its converse the decoding is settled one
character at a time. -/
theorem utf8Char_encode (char : Char) : Utf8Char (String.utf8EncodeChar char) char := by
  obtain ⟨bytes, made⟩ := exists_utf8Char char
  rwa [made.encode_eq]

section FirstByte

variable {offset : Nat} {a : UInt8} {rest : Bytes}

theorem utf8Scan_one (first : a.toNat < 0x80) :
    utf8Scan offset none (a :: rest) =
      .ok (Char.ofNat a.toNat) :: utf8Scan (offset + 1) none rest := by
  simp only [utf8Scan, utf8Next, utf8First, if_pos first, List.singleton_append]

theorem utf8Scan_two (first : 0xC2 ≤ a.toNat ∧ a.toNat < 0xE0) :
    utf8Scan offset none (a :: rest) =
      utf8Scan (offset + 1)
        (some { bytes := [a], code := a.toNat - 0xC0, missing := 1 }) rest := by
  have wide : ¬a.toNat < 0x80 := by omega
  have begins : ¬a.toNat < 0xC2 := by omega
  simp only [utf8Scan, utf8Next, utf8First, if_neg wide, if_neg begins, if_pos first.2,
    List.nil_append]

/-- A lead byte of three. The bounds of the next byte leave out code points that have a shorter
form, and surrogates. -/
theorem utf8Scan_three (first : 0xE0 ≤ a.toNat ∧ a.toNat < 0xF0) :
    utf8Scan offset none (a :: rest) =
      utf8Scan (offset + 1) (some ⟨[a], a.toNat - 0xE0, 2, if a.toNat = 0xE0 then 0xA0 else 0x80,
        if a.toNat = 0xED then 0x9F else 0xBF⟩) rest := by
  have wide : ¬a.toNat < 0x80 := by omega
  have begins : ¬a.toNat < 0xC2 := by omega
  have wider : ¬a.toNat < 0xE0 := by omega
  simp only [utf8Scan, utf8Next, utf8First, if_neg wide, if_neg begins, if_neg wider,
    if_pos first.2, List.nil_append]

/-- A lead byte of four. The bounds leave out shorter forms and what is past the last code point. -/
theorem utf8Scan_four (first : 0xF0 ≤ a.toNat ∧ a.toNat < 0xF5) :
    utf8Scan offset none (a :: rest) =
      utf8Scan (offset + 1) (some ⟨[a], a.toNat - 0xF0, 3, if a.toNat = 0xF0 then 0x90 else 0x80,
        if a.toNat = 0xF4 then 0x8F else 0xBF⟩) rest := by
  have wide : ¬a.toNat < 0x80 := by omega
  have begins : ¬a.toNat < 0xC2 := by omega
  have wider : ¬a.toNat < 0xE0 := by omega
  have widest : ¬a.toNat < 0xF0 := by omega
  simp only [utf8Scan, utf8Next, utf8First, if_neg wide, if_neg begins, if_neg wider,
    if_neg widest, if_pos first.2, List.nil_append]

theorem utf8Scan_bad (outside : 0x80 ≤ a.toNat ∧ a.toNat < 0xC2 ∨ 0xF5 ≤ a.toNat) :
    utf8Scan offset none (a :: rest) =
      .error ⟨.badStart, offset, [a]⟩ :: utf8Scan (offset + 1) none rest := by
  have wide : ¬a.toNat < 0x80 := by omega
  simp only [utf8Scan, utf8Next, utf8First, if_neg wide]
  split
  · rfl
  · next begins =>
    have wider : ¬a.toNat < 0xE0 := by omega
    have widest : ¬a.toNat < 0xF0 := by omega
    have beyond : ¬a.toNat < 0xF5 := by omega
    simp only [if_neg wider, if_neg widest, if_neg beyond, List.singleton_append]

end FirstByte

/-- The bytes of a character are scanned as that character. -/
theorem Utf8Char.scan_eq {bytes : Bytes} {char : Char} (made : Utf8Char bytes char) (offset : Nat)
    (rest : Bytes) :
    utf8Scan offset none (bytes ++ rest) =
      .ok char :: utf8Scan (offset + bytes.length) none rest := by
  have two : 1 < 2 := by decide
  have three : 1 < 3 := by decide
  cases made with
  | one first => exact utf8Scan_one first
  | two first second =>
    simp only [List.cons_append, List.nil_append]
    rw [utf8Scan_two first, utf8Scan_completed second (Nat.le_refl 1)]
    rfl
  | @three a b c first second shortest noSurrogate third =>
    have within : (if a.toNat = 0xE0 then 0xA0 else 0x80) ≤ b.toNat ∧
        b.toNat ≤ if a.toNat = 0xED then 0x9F else 0xBF := by
      split <;> split <;> omega
    simp only [List.cons_append, List.nil_append]
    rw [utf8Scan_three first, utf8Scan_continued within two,
      utf8Scan_completed third (Nat.le_refl 1)]
    rfl
  | @four a b c d first second shortest inRange third fourth =>
    have within : (if a.toNat = 0xF0 then 0x90 else 0x80) ≤ b.toNat ∧
        b.toNat ≤ if a.toNat = 0xF4 then 0x8F else 0xBF := by
      split <;> split <;> omega
    simp only [List.cons_append, List.nil_append]
    rw [utf8Scan_four first, utf8Scan_continued within three, utf8Scan_continued third two,
      utf8Scan_completed fourth (Nat.le_refl 1)]
    rfl

/-- Where all bytes make characters, the first of them make the first. -/
theorem utf8Char_of_scan {offset : Nat} {bytes : Bytes} {chars : List Char} (filled : bytes ≠ [])
    (run : (utf8Scan offset none bytes).mapM id = .ok chars) :
    ∃ first rest char, bytes = first ++ rest ∧ Utf8Char first char := by
  have two : 1 < 2 := by decide
  have three : 1 < 3 := by decide
  cases bytes with
  | nil => exact absurd rfl filled
  | cons a rest =>
    -- The first byte tells how many follow; each of them is within bounds or a fault.
    rcases Nat.lt_or_ge a.toNat 0x80 with single | wide
    · exact ⟨[a], rest, _, rfl, .one single⟩
    by_cases bad : a.toNat < 0xC2 ∨ 0xF5 ≤ a.toNat
    · rw [utf8Scan_bad (by omega)] at run
      obtain ⟨_, _, fault, _⟩ := mapM_id_cons_eq_ok_iff.mp run
      cases fault
    rcases Nat.lt_or_ge a.toNat 0xE0 with narrow | wider
    · rw [utf8Scan_two (by omega)] at run
      obtain ⟨b, rest, rfl, second⟩ := next_of_begun run
      exact ⟨[a, b], rest, _, rfl, .two (by omega) second⟩
    rcases Nat.lt_or_ge a.toNat 0xF0 with middle | widest
    · rw [utf8Scan_three (by omega)] at run
      obtain ⟨b, rest, rfl, second⟩ := next_of_begun run
      rw [utf8Scan_continued second two] at run
      obtain ⟨c, rest, rfl, third⟩ := next_of_begun run
      dsimp only at second
      refine ⟨[a, b, c], rest, _, rfl, .three (by omega) ?_ ?_ ?_ third⟩
      all_goals split at second <;> split at second <;> omega
    · rw [utf8Scan_four (by omega)] at run
      obtain ⟨b, rest, rfl, second⟩ := next_of_begun run
      rw [utf8Scan_continued second three] at run
      obtain ⟨c, rest, rfl, third⟩ := next_of_begun run
      rw [utf8Scan_continued third two] at run
      obtain ⟨d, rest, rfl, fourth⟩ := next_of_begun run
      dsimp only at second
      refine ⟨[a, b, c, d], rest, _, rfl, .four (by omega) ?_ ?_ ?_ third fourth⟩
      all_goals split at second <;> split at second <;> omega

/-- Bytes are decoded without a fault exactly if they are the encoding of the characters that come
out. There is no second encoding and no faulty one. -/
theorem utf8Scan_eq_ok_iff {offset : Nat} {bytes : Bytes} {chars : List Char} :
    (utf8Scan offset none bytes).mapM id = .ok chars ↔
      bytes = chars.flatMap String.utf8EncodeChar := by
  constructor
  · intro run
    induction chars generalizing offset bytes with
    | nil =>
      by_cases filled : bytes = []
      · exact filled
      obtain ⟨first, rest, char, rfl, made⟩ := utf8Char_of_scan filled run
      rw [made.scan_eq] at run
      obtain ⟨_, _, _, _, none⟩ := mapM_id_cons_eq_ok_iff.mp run
      cases none
    | cons char chars ih =>
      have filled : bytes ≠ [] := by
        rintro rfl
        cases run
      obtain ⟨first, rest, found, rfl, made⟩ := utf8Char_of_scan filled run
      rw [made.scan_eq] at run
      obtain ⟨_, _, same, later, split⟩ := mapM_id_cons_eq_ok_iff.mp run
      cases same
      cases split
      rw [List.flatMap_cons, made.encode_eq, ← ih later]
  · rintro rfl
    induction chars generalizing offset with
    | nil => rfl
    | cons char chars ih =>
      rw [List.flatMap_cons, (utf8Char_encode char).scan_eq]
      exact mapM_id_cons_eq_ok_iff.mpr ⟨char, chars, rfl, ih, rfl⟩

/-- Bytes are decoded exactly where they are those of characters, one character after the other. -/
theorem decodeUtf8_eq_ok_iff {bytes : Bytes} {chars : List Char} :
    decodeUtf8 bytes = .ok chars ↔ bytes = chars.flatMap String.utf8EncodeChar :=
  utf8Scan_eq_ok_iff

end GuardedRecords
