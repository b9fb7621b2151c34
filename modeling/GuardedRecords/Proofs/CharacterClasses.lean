import GuardedRecords.Rule.Lexer

namespace GuardedRecords

/-- Whether every range of the one list lies before or behind every range of the other. -/
def rangesApart (first second : List (Nat × Nat)) : Bool :=
  first.all fun r => second.all fun s => r.2.blt s.1 || s.2.blt r.1

/-- That two lists of ranges have nothing in common is computed once from the lists, and then holds
of every character. -/
theorem inRanges_eq_false_of_apart {first second : List (Nat × Nat)} {c : Char}
    (apart : rangesApart first second = true) (found : inRanges first c = true) :
    inRanges second c = false := by
  rw [rangesApart] at apart
  simp only [inRanges, List.any_eq_true, List.any_eq_false, List.all_eq_true, Bool.and_eq_true,
    Bool.or_eq_true, decide_eq_true_iff, Nat.blt_eq] at apart found ⊢
  obtain ⟨r, known, low, high⟩ := found
  intro s other within
  have := apart r known s other
  omega

/-- The classes are given by tables that come from a character database. They are apart from each
other, which is what lets one character tell the kind of a lexeme. -/
theorem isDigit_eq_false_of_isLetter {c : Char} (letter : isLetter c = true) :
    isDigit c = false := by
  have decimals : rangesApart letterRanges decimalRanges = true := by decide +kernel
  have ornaments : rangesApart letterRanges ornamentalDigitRanges = true := by decide +kernel
  rw [isDigit, isDecimal, inRanges_eq_false_of_apart decimals letter,
    inRanges_eq_false_of_apart ornaments letter, Bool.or_false]

theorem isBlank_eq_false_of_isLetter {c : Char} (letter : isLetter c = true) :
    isBlank c = false :=
  inRanges_eq_false_of_apart (by decide +kernel) letter

theorem isDigit_eq_false_of_isBlank {c : Char} (blank : isBlank c = true) : isDigit c = false := by
  rw [isDigit, isDecimal, inRanges_eq_false_of_apart (by decide +kernel) blank,
    inRanges_eq_false_of_apart (by decide +kernel) blank, Bool.or_false]

theorem isNameChar_eq_false_of_isBlank {c : Char} (blank : isBlank c = true) :
    isNameChar c = false := by
  have letter : isLetter c = false := inRanges_eq_false_of_apart (by decide +kernel) blank
  have numeral : inRanges numeralRanges c = false :=
    inRanges_eq_false_of_apart (by decide +kernel) blank
  have mark : c ≠ '_' ∧ c ≠ '.' := by
    constructor <;> rintro rfl <;> revert blank <;> decide +kernel
  simp only [isNameChar, isLetterOrNumeral, letter, numeral, mark, Bool.or_self, decide_false]

theorem isBlank_eq_false_of_isDigit {c : Char} (digit : isDigit c = true) : isBlank c = false := by
  rw [← Bool.not_eq_true]
  intro blank
  rw [isDigit_eq_false_of_isBlank blank] at digit
  cases digit

theorem isBlank_eq_false_of_isNameChar {c : Char} (inside : isNameChar c = true) :
    isBlank c = false := by
  rw [← Bool.not_eq_true]
  intro blank
  rw [isNameChar_eq_false_of_isBlank blank] at inside
  cases inside

end GuardedRecords
