import GuardedRecords.Text.Split

namespace GuardedRecords

theorem ne_of_isBlank {c d : Char} (blank : isBlank c = true) (bare : isBlank d = false) : c ≠ d := by
  rintro rfl
  rw [blank] at bare
  cases bare

theorem trimLeft_eq_nil_iff {cs : List Char} : trimLeft cs = [] ↔ ∀ c ∈ cs, isBlank c = true := by
  rw [trimLeft]
  induction cs with
  | nil => simp
  | cons c rest ih => by_cases blank : isBlank c <;> simp [blank, ih]

theorem trim_eq_nil_iff {cs : List Char} : trim cs = [] ↔ ∀ c ∈ cs, isBlank c = true := by
  rw [trim, trimRight, List.reverse_eq_nil_iff, trimLeft_eq_nil_iff]
  constructor
  · intro rest c member
    rw [← List.takeWhile_append_dropWhile (p := isBlank) (l := cs), List.mem_append] at member
    rcases member with skipped | left
    · exact List.all_eq_true.mp List.all_takeWhile c skipped
    · exact rest c (List.mem_reverse.mpr left)
  · intro all c member
    exact all c ((List.dropWhile_suffix isBlank).subset (List.mem_reverse.mp member))

theorem trim_ne_nil {c : Char} {cs : List Char} (member : c ∈ cs) (bare : isBlank c = false) :
    trim cs ≠ [] := by
  intro none
  rw [trim_eq_nil_iff.mp none c member] at bare
  cases bare

/-- Whether a text begins and ends with characters that are not blank. -/
structure BareEnds (cs : List Char) : Prop where
  first : ∃ c rest, cs = c :: rest ∧ isBlank c = false
  last : ∃ front c, cs = front ++ [c] ∧ isBlank c = false

/-- Two texts with bare ends still have bare ends when anything stands between them; only the outer
ends are looked at. -/
theorem BareEnds.append {cs more : List Char} (front : BareEnds cs) (back : BareEnds more)
    (between : List Char) : BareEnds (cs ++ between ++ more) := by
  obtain ⟨c, rest, rfl, first⟩ := front.first
  obtain ⟨before, d, rfl, last⟩ := back.last
  exact ⟨⟨c, _, rfl, first⟩, ⟨c :: rest ++ between ++ before, d, by simp, last⟩⟩

theorem bareEnds_singleton {c : Char} (bare : isBlank c = false) : BareEnds [c] :=
  ⟨⟨c, [], rfl, bare⟩, ⟨[], c, rfl, bare⟩⟩

theorem bareEnds_of_forall {cs : List Char} (nonempty : cs ≠ [])
    (bare : ∀ c ∈ cs, isBlank c = false) : BareEnds cs := by
  constructor
  · obtain ⟨c, rest, rfl⟩ := List.exists_cons_of_ne_nil nonempty
    exact ⟨c, rest, rfl, bare c List.mem_cons_self⟩
  · refine ⟨cs.dropLast, cs.getLast nonempty, (List.dropLast_concat_getLast nonempty).symm, ?_⟩
    exact bare _ (List.getLast_mem nonempty)

theorem trimLeft_cons {c : Char} (bare : isBlank c = false) (rest : List Char) :
    trimLeft (c :: rest) = c :: rest := by
  rw [trimLeft, List.dropWhile_cons_of_neg]
  simp [bare]

theorem trimLeft_append {blanks : List Char} (blank : ∀ c ∈ blanks, isBlank c = true) {c : Char}
    (bare : isBlank c = false) (rest : List Char) : trimLeft (blanks ++ c :: rest) = c :: rest := by
  rw [trimLeft, List.dropWhile_append_of_pos blank]
  exact trimLeft_cons bare rest

theorem trimLeft_blanks {blanks : List Char} (blank : ∀ c ∈ blanks, isBlank c = true)
    (rest : List Char) : trimLeft (blanks ++ rest) = trimLeft rest := by
  rw [trimLeft, List.dropWhile_append_of_pos blank, trimLeft]

/-- Blanks around a text are cut off, and nothing else is. -/
theorem trim_append {before cs after : List Char} (left : ∀ c ∈ before, isBlank c = true)
    (bare : BareEnds cs) (right : ∀ c ∈ after, isBlank c = true) :
    trim (before ++ cs ++ after) = cs := by
  have front : trimLeft (before ++ cs ++ after) = cs ++ after := by
    obtain ⟨c, rest, rfl, first⟩ := bare.first
    rw [List.append_assoc]
    exact trimLeft_append left first (rest ++ after)
  have back : trimRight (cs ++ after) = cs := by
    obtain ⟨body, c, rfl, last⟩ := bare.last
    have reversed : (body ++ [c] ++ after).reverse = after.reverse ++ c :: body.reverse := by simp
    rw [trimRight, reversed, trimLeft_append (by simpa using right) last]
    simp
  rw [trim, front, back]

theorem trim_of_bareEnds {cs : List Char} (bare : BareEnds cs) : trim cs = cs := by
  have whole := trim_append (List.forall_mem_nil _) bare (List.forall_mem_nil _)
  rwa [List.nil_append, List.append_nil] at whole

/-- What is dropped at the front is blank throughout, and what is left is the rest of the text. -/
theorem exists_trimLeft (cs : List Char) :
    ∃ blanks, cs = blanks ++ trimLeft cs ∧ ∀ c ∈ blanks, isBlank c = true :=
  ⟨cs.takeWhile isBlank, List.takeWhile_append_dropWhile.symm, fun c member =>
    List.all_eq_true.mp List.all_takeWhile c member⟩

theorem exists_trimRight (cs : List Char) :
    ∃ blanks, cs = trimRight cs ++ blanks ∧ ∀ c ∈ blanks, isBlank c = true := by
  obtain ⟨blanks, split, blank⟩ := exists_trimLeft cs.reverse
  refine ⟨blanks.reverse, ?_, fun c member => blank c (List.mem_reverse.mp member)⟩
  rw [trimRight, ← List.reverse_append, ← split, List.reverse_reverse]

/-- A text is what is left of it without the blanks at its ends, between blanks. What is known of
the trimmed text is carried back to the whole one by this. -/
theorem exists_trim (cs : List Char) :
    ∃ before after, cs = before ++ trim cs ++ after ∧ (∀ c ∈ before, isBlank c = true) ∧
      ∀ c ∈ after, isBlank c = true := by
  obtain ⟨before, left, beforeBlank⟩ := exists_trimLeft cs
  obtain ⟨after, right, afterBlank⟩ := exists_trimRight (trimLeft cs)
  refine ⟨before, after, ?_, beforeBlank, afterBlank⟩
  rw [List.append_assoc, trim, ← right, ← left]

theorem length_trim_le (cs : List Char) : (trim cs).length ≤ cs.length := by
  obtain ⟨before, after, split, -⟩ := exists_trim cs
  conv => rhs; rw [split]
  simp only [List.length_append]
  omega

theorem bare_of_trimLeft {c : Char} {cs rest : List Char} (left : trimLeft cs = c :: rest) :
    isBlank c = false := by
  have stops := List.head?_dropWhile_not isBlank cs
  rw [show cs.dropWhile isBlank = c :: rest from left] at stops
  exact stops

theorem bareEnds_trim {cs : List Char} (some : trim cs ≠ []) : BareEnds (trim cs) where
  first := by
    obtain ⟨after, right, -⟩ := exists_trimRight (trimLeft cs)
    obtain ⟨c, rest, front⟩ := List.exists_cons_of_ne_nil some
    rw [trim] at front
    rw [front] at right
    exact ⟨c, rest, front, bare_of_trimLeft right⟩
  last := by
    cases back : trimLeft (trimLeft cs).reverse with
    | nil => exact absurd (by rw [trim, trimRight, back]; rfl) some
    | cons c rest => exact ⟨rest.reverse, c, by simp [trim, trimRight, back], bare_of_trimLeft back⟩

theorem blanks_eq_nil {c : Char} {blanks cs rest : List Char} (bare : isBlank c = false)
    (front : blanks ++ cs = c :: rest) (blank : ∀ b ∈ blanks, isBlank b = true) : blanks = [] := by
  cases blanks with
  | nil => rfl
  | cons b more =>
    obtain ⟨rfl, -⟩ := List.cons.inj front
    rw [blank b List.mem_cons_self] at bare
    cases bare

/-- A text with bare ends does not begin with blanks, so a part of it in front that is blank is
empty. -/
theorem BareEnds.left_nil {blanks cs : List Char} (bare : BareEnds (blanks ++ cs))
    (blank : ∀ c ∈ blanks, isBlank c = true) : blanks = [] := by
  obtain ⟨c, rest, front, first⟩ := bare.first
  exact blanks_eq_nil first front blank

/-- A text that begins with no blank still begins with the same character when it is trimmed, so
only blanks at its end are dropped. -/
theorem exists_trim_cons {c : Char} (bare : isBlank c = false) (cs : List Char) :
    ∃ more blanks, trim (c :: cs) = c :: more ∧ cs = more ++ blanks ∧
      ∀ b ∈ blanks, isBlank b = true := by
  obtain ⟨before, after, split, left, right⟩ := exists_trim (c :: cs)
  rw [List.append_assoc] at split
  obtain rfl := blanks_eq_nil bare split.symm left
  have some : trim (c :: cs) ≠ [] := trim_ne_nil List.mem_cons_self bare
  obtain ⟨d, more, front⟩ := List.exists_cons_of_ne_nil some
  rw [front] at split
  obtain ⟨rfl, rest⟩ := List.cons.inj split
  exact ⟨more, after, front, rest, right⟩

theorem BareEnds.right_nil {cs blanks : List Char} (bare : BareEnds (cs ++ blanks))
    (blank : ∀ c ∈ blanks, isBlank c = true) : blanks = [] := by
  rcases List.eq_nil_or_concat blanks with none | ⟨more, b, rfl⟩
  · exact none
  · obtain ⟨front, c, back, last⟩ := bare.last
    rw [List.concat_eq_append, ← List.append_assoc] at back
    obtain rfl := List.singleton_inj.mp (List.append_inj_right' back rfl)
    rw [blank b (by simp)] at last
    cases last

/-- A part at the front of a text with bare ends is not blank throughout, since it holds the first
character. -/
theorem BareEnds.trim_left_ne_nil {cs back : List Char} (bare : BareEnds (cs ++ back))
    (some : cs ≠ []) : trim cs ≠ [] := by
  obtain ⟨c, rest, rfl⟩ := List.exists_cons_of_ne_nil some
  obtain ⟨d, more, front, first⟩ := bare.first
  obtain ⟨rfl, -⟩ := List.cons.inj front
  exact trim_ne_nil List.mem_cons_self first

theorem BareEnds.trim_right_ne_nil {front cs : List Char} (bare : BareEnds (front ++ cs))
    (some : cs ≠ []) : trim cs ≠ [] := by
  obtain ⟨body, c, rfl⟩ := (List.eq_nil_or_concat cs).resolve_left some
  obtain ⟨more, d, back, last⟩ := bare.last
  rw [List.concat_eq_append] at back ⊢
  rw [← List.append_assoc] at back
  obtain rfl := List.singleton_inj.mp (List.append_inj_right' back rfl)
  exact trim_ne_nil (List.mem_append_right _ List.mem_cons_self) last

end GuardedRecords
