import GuardedRecords.Proofs.JsonSpans

namespace GuardedRecords

section Stops

variable {bracket : Bracket}

/-- An integer too long to be read, and what does not go on with it. -/
def RefusedInteger (v : List Char) (stop : ReadStop) : Prop :=
  ∃ number size rest, OverlongInteger number size ∧ StopsNumber rest ∧ v = number ++ rest ∧
    stop = ⟨.overlongInteger size, rest⟩

theorem RefusedInteger.readScalar_eq {v : List Char} {stop : ReadStop}
    (refused : RefusedInteger v stop) : readScalar v = .error stop := by
  obtain ⟨number, size, rest, overlong, ends, rfl, rfl⟩ := refused
  exact readScalar_overlong overlong ends

theorem RefusedInteger.exists_cons {v : List Char} {stop : ReadStop}
    (refused : RefusedInteger v stop) :
    ∃ c more, v = c :: more ∧ ∀ d, isAsciiDigit d = false → d ≠ '-' → c ≠ d := by
  obtain ⟨-, -, rest, @⟨sign, digits, signed, decimal, -, long⟩, -, rfl, rfl⟩ := refused
  rcases signed with rfl | rfl
  · have filled : digits ≠ [] := List.ne_nil_of_length_pos (Nat.zero_lt_of_lt long)
    obtain ⟨c, others, rfl⟩ := List.exists_cons_of_ne_nil filled
    refine ⟨c, others ++ rest, rfl, fun d noDigit _ => ?_⟩
    rintro rfl
    exact absurd (decimal c List.mem_cons_self) (Bool.eq_false_iff.mp noDigit)
  · exact ⟨'-', digits ++ rest, rfl, fun d _ noSign => noSign.symm⟩

theorem RefusedInteger.startsBare {v : List Char} {stop : ReadStop}
    (refused : RefusedInteger v stop) : StartsBare v := by
  obtain ⟨c, more, rfl, apart⟩ := refused.exists_cons
  rintro d ⟨⟩
  refine Bool.eq_false_iff.mpr fun blank => ?_
  have kinds : c = ' ' ∨ c = '\t' ∨ c = '\n' ∨ c = '\r' := by
    simpa [isJsonBlank, or_assoc] using blank
  rcases kinds with same | same | same | same
  all_goals exact apart _ (by decide) (by decide) same

theorem RefusedInteger.ne_closing {v : List Char} {stop : ReadStop}
    (refused : RefusedInteger v stop) (bracket : Bracket) : v.head? ≠ some bracket.closing := by
  obtain ⟨c, more, rfl, apart⟩ := refused.exists_cons
  intro same
  cases bracket
  all_goals exact apart _ (by decide) (by decide) (Option.some.inj same)

/-- An integer that is too long is refused wherever a value is read, with the fault that counts its
digits. -/
theorem RefusedInteger.afterValue_eq {v : List Char} {stop : ReadStop}
    (refused : RefusedInteger v stop) (fuel : Nat) : afterValue (fuel + 1) v = .error stop := by
  obtain ⟨c, more, rfl, apart⟩ := refused.exists_cons
  have scalar : c ∉ ['"', '{', '['] := by
    simp only [List.mem_cons, List.not_mem_nil, or_false, not_or]
    exact ⟨apart _ (by decide) (by decide), apart _ (by decide) (by decide),
      apart _ (by decide) (by decide)⟩
  rw [afterValue_scalar _ _ scalar, refused.readScalar_eq]
  rfl

/-- A text that breaks off where a value is expected, so that an integer can stand there, and is
refused there when it is too long. -/
structure AwaitsValue (before : List Char) : Prop where
  bare : StartsBare before
  breaks : ∀ fuel, 2 * before.length + 1 ≤ fuel →
    afterValue fuel before = .error ⟨.expectedValue, []⟩
  refuses : ∀ fuel v stop, RefusedInteger v stop → 2 * (before ++ v).length + 1 ≤ fuel →
    afterValue fuel (before ++ v) = .error stop

/-- The same within brackets. -/
structure AwaitsEntry (bracket : Bracket) (before : List Char) : Prop where
  bare : StartsBare before
  breaks : ∀ fuel, 2 * before.length + 2 ≤ fuel →
    afterEntries bracket fuel before = .error ⟨.expectedValue, []⟩
  refuses : ∀ fuel v stop, RefusedInteger v stop → 2 * (before ++ v).length + 2 ≤ fuel →
    afterEntries bracket fuel (before ++ v) = .error stop

theorem awaitsValue_nil : AwaitsValue [] where
  bare := nofun
  breaks fuel enough := by
    obtain ⟨less, rfl⟩ := Nat.exists_eq_add_one_of_ne_zero (show fuel ≠ 0 by omega)
    rfl
  refuses fuel v stop refused enough := by
    obtain ⟨less, rfl⟩ := Nat.exists_eq_add_one_of_ne_zero (show fuel ≠ 0 by omega)
    exact refused.afterValue_eq less

theorem ne_cons_of_head? {c : Char} {s : List Char} (other : s.head? ≠ some c) (more : List Char) :
    s ≠ c :: more := by
  rintro rfl
  exact other rfl

theorem AwaitsEntry.value {before blanks : List Char} (awaits : AwaitsEntry bracket before)
    (blank : JsonBlanks blanks) (inside : before.head? ≠ some bracket.closing) :
    AwaitsValue (bracket.opening :: (blanks ++ before)) where
  bare := by
    rintro c ⟨⟩
    cases bracket <;> rfl
  breaks fuel enough := by
    obtain ⟨less, rfl⟩ := Nat.exists_eq_add_one_of_ne_zero (show fuel ≠ 0 by omega)
    rw [afterValue_brackets, skipJsonBlanks_of_bare blank awaits.bare,
      afterOpening_of_ne (ne_cons_of_head? inside)]
    refine awaits.breaks less ?_
    simp only [List.length_cons, List.length_append] at enough
    omega
  refuses fuel v stop refused enough := by
    obtain ⟨less, rfl⟩ := Nat.exists_eq_add_one_of_ne_zero (show fuel ≠ 0 by omega)
    have within : (before ++ v).head? ≠ some bracket.closing := by
      cases before with
      | nil => exact refused.ne_closing bracket
      | cons c more => exact inside
    rw [List.cons_append, List.append_assoc, afterValue_brackets,
      skipJsonBlanks_of_bare blank (awaits.bare.append fun _ => refused.startsBare),
      afterOpening_of_ne (ne_cons_of_head? within)]
    refine awaits.refuses less v stop refused ?_
    simp only [List.length_cons, List.length_append] at enough ⊢
    omega

theorem AwaitsValue.entry {before label : List Char} (awaits : AwaitsValue before)
    (named : ReadAsLabel bracket label) : AwaitsEntry bracket (label ++ before) where
  bare := named.bare.append fun _ => awaits.bare
  breaks fuel enough := by
    obtain ⟨less, rfl⟩ := Nat.exists_eq_add_one_of_ne_zero (show fuel ≠ 0 by omega)
    rw [List.length_append] at enough
    rw [afterEntries, named.read before awaits.bare, ok_bind, awaits.breaks less (by omega)]
    rfl
  refuses fuel v stop refused enough := by
    obtain ⟨less, rfl⟩ := Nat.exists_eq_add_one_of_ne_zero (show fuel ≠ 0 by omega)
    rw [List.append_assoc] at enough ⊢
    rw [List.length_append] at enough
    rw [afterEntries, named.read _ (awaits.bare.append fun _ => refused.startsBare), ok_bind,
      awaits.refuses less v stop refused (by omega)]
    rfl

theorem AwaitsEntry.more {before label value left right : List Char}
    (awaits : AwaitsEntry bracket before) (named : ReadAsLabel bracket label)
    (entry : ReadAsValue value) (leftBlank : JsonBlanks left) (rightBlank : JsonBlanks right) :
    AwaitsEntry bracket (label ++ (value ++ (left ++ ',' :: (right ++ before)))) where
  bare := named.entry_bare entry _
  breaks fuel enough := by
    obtain ⟨less, rfl⟩ := Nat.exists_eq_add_one_of_ne_zero (show fuel ≠ 0 by omega)
    simp only [List.length_cons, List.length_append] at enough
    rw [named.afterEntries_eq entry leftBlank (by decide), afterEntry_comma,
      skipJsonBlanks_of_bare rightBlank awaits.bare, awaits.breaks less (by omega)]
    simp only [List.length_cons, List.length_append]
    omega
  refuses fuel v stop refused enough := by
    obtain ⟨less, rfl⟩ := Nat.exists_eq_add_one_of_ne_zero (show fuel ≠ 0 by omega)
    simp only [List.append_assoc, List.cons_append] at enough ⊢
    simp only [List.length_cons, List.length_append] at enough
    rw [named.afterEntries_eq entry leftBlank (by decide), afterEntry_comma,
      skipJsonBlanks_of_bare rightBlank (awaits.bare.append fun _ => refused.startsBare),
      awaits.refuses less v stop refused (by rw [List.length_append]; omega)]
    simp only [List.length_cons, List.length_append]
    omega

/-- Why the reading of a text stops: it breaks off where a value is expected, it has an integer
that is too long where one is expected, or something else is wrong. -/
inductive StopKind (awaits : List Char → Prop) : List Char → ReadStop → Prop
  | breaks {s : List Char} (broken : awaits s) : StopKind awaits s ⟨.expectedValue, []⟩
  | refuses {before v : List Char} {stop : ReadStop} (broken : awaits before)
      (refused : RefusedInteger v stop) : StopKind awaits (before ++ v) stop
  | other {s : List Char} {stop : ReadStop} (inside : stop ≠ ⟨.expectedValue, []⟩)
      (short : ∀ size rest, stop ≠ ⟨.overlongInteger size, rest⟩) : StopKind awaits s stop

/-- A reading that stops behind a text that was read stops in the same way, with that text in front
of what awaits a value. -/
theorem StopKind.behind {awaits awaitsBehind : List Char → Prop} {s : List Char} {stop : ReadStop}
    (kind : StopKind awaits s stop) (front : List Char)
    (longer : ∀ before, before <+: s → awaits before → awaitsBehind (front ++ before)) :
    StopKind awaitsBehind (front ++ s) stop := by
  cases kind with
  | breaks broken => exact .breaks (longer s (List.prefix_refl s) broken)
  | refuses broken refused =>
    rw [← List.append_assoc]
    exact .refuses (longer _ (List.prefix_append _ _) broken) refused
  | other inside short => exact .other inside short

/-- Whether a fault is neither the want of a value nor an integer that is too long. -/
def ReadFault.isOther : ReadFault → Bool
  | .expectedValue | .overlongInteger _ => false
  | _ => true

theorem ReadFault.isOther_of_text {fault : ReadFault} (text : fault.ofText = true) :
    fault.isOther = true := by
  cases fault
  all_goals first | rfl | cases text

theorem StopKind.of_fault {awaits : List Char → Prop} {s : List Char} {stop : ReadStop}
    (fault : stop.fault.isOther = true) : StopKind awaits s stop := by
  refine .other ?_ fun size rest => ?_
  all_goals
    rintro rfl
    cases fault

theorem StopKind.of_text {awaits : List Char → Prop} {opening s quoted : List Char}
    {stop : ReadStop} (scan : afterText opening quoted = .error stop) : StopKind awaits s stop :=
  .of_fault (ReadFault.isOther_of_text (ofText_of_scanText (map_eq_error_iff.mp scan)))

/-- A text does not break off where something stands in the place of a value. -/
theorem StopKind.of_rest {awaits : List Char → Prop} {s : List Char} (c : Char)
    (more : List Char) : StopKind awaits s ⟨.expectedValue, c :: more⟩ := by
  refine .other ?_ fun size rest => ?_
  all_goals rintro ⟨⟩

theorem stopKind_of_label {awaits : List Char → Prop} {s : List Char} {stop : ReadStop}
    (read : afterLabel bracket s = .error stop) : StopKind awaits s stop := by
  cases bracket with
  | square => cases read
  | curly =>
    rw [afterLabel.eq_def] at read
    dsimp only at read
    split at read
    · rcases bind_eq_error_iff.mp read with scan | ⟨rest, scan, colon⟩
      · exact .of_text scan
      · by_cases marked : ∃ more, skipJsonBlanks rest = ':' :: more
        · obtain ⟨more, marked⟩ := marked
          rw [marked] at colon
          cases colon
        · rw [afterColon_of_ne fun more same => marked ⟨more, same⟩] at colon
          cases colon
          exact .of_fault rfl
    · cases read
      exact .of_fault rfl

/-- Why the reading of entries stops: in the first one, or behind it, or in one that follows. With
less fuel the same is known for values and for entries. -/
theorem stopKind_of_entries {fuel : Nat}
    (value : ∀ {s stop}, StartsBare s → afterValue fuel s = .error stop →
      StopKind AwaitsValue s stop)
    (entries : ∀ {s stop}, StartsBare s → afterEntries bracket fuel s = .error stop →
      StopKind (AwaitsEntry bracket) s stop)
    {s : List Char} {stop : ReadStop} (bare : StartsBare s)
    (read : afterEntries bracket (fuel + 1) s = .error stop) :
    StopKind (AwaitsEntry bracket) s stop := by
  rw [afterEntries] at read
  rcases bind_eq_error_iff.mp read with unnamed | ⟨entry, labelled, labelRead⟩
  · exact stopKind_of_label unnamed
  obtain ⟨label, named, rfl, entryBare⟩ := exists_readAsLabel bare labelled
  rcases bind_eq_error_iff.mp labelRead with broken | ⟨behind, first, ending⟩
  · exact (value entryBare broken).behind label fun before _ awaits => awaits.entry named
  obtain ⟨front, readFront, rfl⟩ := (exists_readAs fuel).1 entryBare first
  obtain ⟨left, leftBlank, split⟩ := exists_jsonBlanks behind
  rcases afterEntry_cases bracket (afterEntries bracket fuel) (skipJsonBlanks behind) with
    ⟨more, closed⟩ | ⟨more, comma⟩ | refused
  · rw [closed, afterEntry_closing] at ending
    cases ending
  · rw [comma, afterEntry_comma] at ending
    obtain ⟨right, rightBlank, splitRight⟩ := exists_jsonBlanks more
    have kind : StopKind (AwaitsEntry bracket) _ stop :=
      (entries (startsBare_skipJsonBlanks more) ending).behind
        (label ++ (front ++ (left ++ ',' :: right)))
        fun before _ awaits => by simpa using awaits.more named readFront leftBlank rightBlank
    rw [split, comma, splitRight]
    simpa using kind
  · rw [refused] at ending
    cases ending
    exact .of_fault rfl

theorem stopKind_of_value {fuel : Nat}
    (entries : ∀ {bracket s stop}, StartsBare s → afterEntries bracket fuel s = .error stop →
      StopKind (AwaitsEntry bracket) s stop)
    {s : List Char} {stop : ReadStop} (read : afterValue (fuel + 1) s = .error stop) :
    StopKind AwaitsValue s stop := by
  rcases openings s with rfl | ⟨behind, rfl⟩ | ⟨bracket, behind, rfl⟩ | ⟨c, behind, scalar, rfl⟩
  · cases read
    exact .breaks awaitsValue_nil
  · exact .of_text read
  · rw [afterValue_brackets] at read
    obtain ⟨blanks, blank, split⟩ := exists_jsonBlanks behind
    by_cases closed : ∃ more, skipJsonBlanks behind = bracket.closing :: more
    · obtain ⟨more, closed⟩ := closed
      rw [closed, afterOpening, if_pos rfl] at read
      cases read
    · rw [afterOpening_of_ne fun more same => closed ⟨more, same⟩] at read
      have kind : StopKind AwaitsValue _ stop :=
        (entries (startsBare_skipJsonBlanks behind) read).behind
        (bracket.opening :: blanks) fun before start awaits => by
          refine awaits.value blank fun first => ?_
          obtain ⟨more, rfl⟩ := List.head?_eq_some_iff.mp first
          obtain ⟨rest, same⟩ := start
          exact closed ⟨more ++ rest, same.symm⟩
      rw [split]
      exact kind
  · rw [afterValue_scalar _ _ scalar] at read
    rcases exists_overlongInteger (map_eq_error_iff.mp read) with
      rfl | ⟨number, size, rest, overlong, ends, text, same⟩
    · exact .of_rest c behind
    · exact .refuses awaitsValue_nil ⟨number, size, rest, overlong, ends, text, same⟩

/-- What makes the reading of a text stop, for values and for entries at once. By induction on the
fuel, as an entry holds a value with less of it. -/
theorem stopKinds (fuel : Nat) :
    (∀ {s stop}, StartsBare s → afterValue fuel s = .error stop → StopKind AwaitsValue s stop) ∧
      ∀ {bracket s stop}, StartsBare s → afterEntries bracket fuel s = .error stop →
        StopKind (AwaitsEntry bracket) s stop := by
  induction fuel with
  | zero =>
    refine ⟨fun {s stop} _ read => ?_, fun {bracket s stop} _ read => ?_⟩
    · cases read
      cases s with
      | nil => exact .breaks awaitsValue_nil
      | cons c more => exact .of_rest c more
    · cases read
      cases bracket with
      | curly => exact .of_fault rfl
      | square =>
        cases s with
        | nil => exact .breaks (awaitsValue_nil.entry readAsLabel_nil)
        | cons c more => exact .of_rest c more
  | succ fuel ih =>
    obtain ⟨value, entries⟩ := ih
    exact ⟨fun _ => stopKind_of_value entries, stopKind_of_entries value entries⟩

end Stops

section Whole

/-- The reader and the one that passes over stop at the same place with the same fault, so why it
stops is settled on the simpler one. -/
theorem readValue_eq_error_iff {fuel : Nat} {s : List Char} {stop : ReadStop} :
    readValue fuel s = .error stop ↔ afterValue fuel s = .error stop := by
  rw [← (read_rest fuel).1 s, map_eq_error_iff]

theorem length_skipJsonBlanks_le (s : List Char) : (skipJsonBlanks s).length ≤ s.length :=
  (List.dropWhile_suffix isJsonBlank).length_le

/-- A document is refused for what is wrong in its value, or for what follows it; here is the first
of these. -/
theorem readChars_eq_error_iff {s : List Char} {stop : ReadStop} (inside : stop.fault ≠ .extraData) :
    readChars s = .error stop ↔ afterValue (2 * s.length + 2) (skipJsonBlanks s) = .error stop := by
  rw [← readValue_eq_error_iff, readChars, bind_eq_error_iff]
  constructor
  · rintro (read | ⟨⟨v, rest⟩, -, ending⟩)
    · exact read
    · dsimp only at ending
      split at ending
      · cases ending
      · cases ending
        exact absurd rfl inside
  · exact .inl

/-- A whole text breaks off where a value is expected when it does so behind its first blanks. What
follows a value cannot break off in this way. -/
theorem readChars_breaks_iff {before : List Char} :
    readChars before = .error ⟨.expectedValue, []⟩ ↔ AwaitsValue (skipJsonBlanks before) := by
  rw [readChars_eq_error_iff (by rintro ⟨⟩)]
  constructor
  · intro read
    have bare := startsBare_skipJsonBlanks before
    generalize skipJsonBlanks before = core at read bare ⊢
    generalize same : (⟨.expectedValue, []⟩ : ReadStop) = stop at read
    cases (stopKinds _).1 bare read with
    | breaks broken => exact broken
    | refuses broken refused =>
      obtain ⟨number, size, rest, -, -, -, rfl⟩ := refused
      cases same
    | other inside short => exact absurd same.symm inside
  · intro awaits
    have shorter := length_skipJsonBlanks_le before
    exact awaits.breaks _ (by omega)

/-- A text is refused for an integer that is too long exactly when it has one where the text before
it breaks off for want of a value. -/
theorem readChars_overlongInteger_iff {s rest : List Char} {size : Nat} :
    readChars s = .error ⟨.overlongInteger size, rest⟩ ↔
      ∃ before number, readChars before = .error ⟨.expectedValue, []⟩ ∧
        OverlongInteger number size ∧ StopsNumber rest ∧ s = before ++ (number ++ rest) := by
  rw [readChars_eq_error_iff (by rintro ⟨⟩)]
  obtain ⟨blanks, blank, split⟩ := exists_jsonBlanks s
  constructor
  · intro read
    have bare := startsBare_skipJsonBlanks s
    generalize skipJsonBlanks s = core at read bare split
    generalize same : (⟨.overlongInteger size, rest⟩ : ReadStop) = stop at read
    cases (stopKinds _).1 bare read with
    | breaks broken => cases same
    | @refuses before v _ broken refused =>
      obtain ⟨number, found, behind, overlong, ends, rfl, rfl⟩ := refused
      cases same
      refine ⟨blanks ++ before, number, ?_, overlong, ends, by rw [split, List.append_assoc]⟩
      rw [readChars_breaks_iff, skipJsonBlanks_of_bare blank broken.bare]
      exact broken
    | other inside short => exact absurd same.symm (short size rest)
  · rintro ⟨before, number, broken, overlong, ends, rfl⟩
    have awaits := readChars_breaks_iff.mp broken
    have refused : RefusedInteger (number ++ rest) ⟨.overlongInteger size, rest⟩ :=
      ⟨number, size, rest, overlong, ends, rfl, rfl⟩
    obtain ⟨first, firstBlank, front⟩ := exists_jsonBlanks before
    -- Blanks in front are skipped the same way with the integer behind.
    have behind : skipJsonBlanks (before ++ (number ++ rest)) =
        skipJsonBlanks before ++ (number ++ rest) := calc
      _ = skipJsonBlanks (first ++ (skipJsonBlanks before ++ (number ++ rest))) := by
        rw [← List.append_assoc first, ← front]
      _ = _ :=
        skipJsonBlanks_of_bare firstBlank (awaits.bare.append fun _ => refused.startsBare)
    have shorter := length_skipJsonBlanks_le before
    rw [behind]
    refine awaits.refuses _ _ _ refused ?_
    simp only [List.length_append]
    omega

end Whole

end GuardedRecords
