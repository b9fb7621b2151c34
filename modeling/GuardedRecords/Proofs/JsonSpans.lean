import GuardedRecords.Proofs.JsonTokens

namespace GuardedRecords

/-- The brackets around the items of an array and the members of an object. -/
inductive Bracket
  | square
  | curly

def Bracket.opening : Bracket → Char
  | .square => '['
  | .curly => '{'

def Bracket.closing : Bracket → Char
  | .square => ']'
  | .curly => '}'

/-- What is missing where nothing is left within brackets. -/
def Bracket.expected : Bracket → ReadFault
  | .square => .expectedValue
  | .curly => .expectedName

/-- What a text leaves behind its closing quote. -/
def afterText (opening s : List Char) : Except ReadStop (List Char) :=
  (scanText opening s).map Prod.snd

/-- What is left behind the colon that follows a name. -/
def afterColon : List Char → Except ReadStop (List Char)
  | c :: more => if c = ':' then .ok (skipJsonBlanks more) else .error ⟨.expectedColon, c :: more⟩
  | [] => .error ⟨.expectedColon, []⟩

/-- What is left behind the name of a member, where one belongs. -/
def afterLabel : Bracket → List Char → Except ReadStop (List Char)
  | .square, s => .ok s
  | .curly, s =>
    match s with
    | '"' :: quotedRest => do
      let rest ← afterText s quotedRest
      afterColon (skipJsonBlanks rest)
    | _ => .error ⟨.expectedName, s⟩

/-- What is left behind brackets that are open already, by what is left behind their content. -/
def afterOpening (bracket : Bracket) (content : List Char → Except ReadStop (List Char)) :
    List Char → Except ReadStop (List Char)
  | c :: more => if c = bracket.closing then .ok more else content (c :: more)
  | [] => content []

/-- What is left of the content of brackets behind one entry, by what is left behind others. -/
def afterEntry (bracket : Bracket) (others : List Char → Except ReadStop (List Char)) :
    List Char → Except ReadStop (List Char)
  | c :: more =>
    if c = bracket.closing then .ok more
    else if c = ',' then others (skipJsonBlanks more)
    else .error ⟨.expectedComma, c :: more⟩
  | [] => .error ⟨.expectedComma, []⟩

mutual

/-- What is left of a text behind the value that it begins with. This is the reader with what it
reads forgotten, and with items and members under one name. -/
def afterValue : Nat → List Char → Except ReadStop (List Char)
  | 0, s => .error ⟨.expectedValue, s⟩
  | fuel + 1, s =>
    match s with
    | '"' :: rest => afterText s rest
    | '{' :: rest => afterOpening .curly (afterEntries .curly fuel) (skipJsonBlanks rest)
    | '[' :: rest => afterOpening .square (afterEntries .square fuel) (skipJsonBlanks rest)
    | _ => (readScalar s).map Prod.snd
termination_by structural fuel => fuel

/-- What is left behind the items or members within brackets; at least one is expected. -/
def afterEntries (bracket : Bracket) : Nat → List Char → Except ReadStop (List Char)
  | 0, s => .error ⟨bracket.expected, s⟩
  | fuel + 1, s => do
    let entry ← afterLabel bracket s
    let rest ← afterValue fuel entry
    afterEntry bracket (afterEntries bracket fuel) (skipJsonBlanks rest)
termination_by structural fuel => fuel

end

section Brackets

variable {bracket : Bracket} {s : List Char}

theorem afterOpening_of_ne {content : List Char → Except ReadStop (List Char)}
    (inside : ∀ more, s ≠ bracket.closing :: more) :
    afterOpening bracket content s = content s := by
  cases s with
  | nil => rfl
  | cons c more => exact if_neg fun closes => inside more (by rw [closes])

variable {others : List Char → Except ReadStop (List Char)} {more : List Char}

theorem afterEntry_closing : afterEntry bracket others (bracket.closing :: more) = .ok more :=
  if_pos rfl

theorem afterEntry_comma :
    afterEntry bracket others (',' :: more) = others (skipJsonBlanks more) := by
  have apart : ',' ≠ bracket.closing := by cases bracket <;> decide
  rw [afterEntry, if_neg apart, if_pos rfl]

/-- Behind an entry only the closing bracket and a comma are understood; anything else is a missing
comma. -/
theorem afterEntry_of_ne (inside : ∀ more, s ≠ bracket.closing :: more)
    (single : ∀ more, s ≠ ',' :: more) :
    afterEntry bracket others s = .error ⟨.expectedComma, s⟩ := by
  cases s with
  | nil => rfl
  | cons c more =>
    rw [afterEntry, if_neg fun closes => inside more (by rw [closes]),
      if_neg fun comma => single more (by rw [comma])]

end Brackets

theorem afterColon_of_ne {s : List Char} (unmarked : ∀ more, s ≠ ':' :: more) :
    afterColon s = .error ⟨.expectedColon, s⟩ := by
  cases s with
  | nil => rfl
  | cons c more => exact if_neg fun colon => unmarked more (by rw [colon])

/-- What a text leaves behind is what the scanner leaves, so it does not matter how the units are
joined to characters. -/
theorem readText_rest (opening s : List Char) :
    (readText opening s).map Prod.snd = afterText opening s := by
  rw [readText, afterText]
  cases scanText opening s <;> rfl

section Openings

variable (fuel : Nat) (rest : List Char)

theorem afterValue_quote : afterValue (fuel + 1) ('"' :: rest) = afterText ('"' :: rest) rest := rfl

/-- Behind an opening bracket, entries are read unless it is closed at once. Arrays and objects are
one case here. -/
theorem afterValue_brackets (bracket : Bracket) :
    afterValue (fuel + 1) (bracket.opening :: rest) =
      afterOpening bracket (afterEntries bracket fuel) (skipJsonBlanks rest) := by
  cases bracket <;> rfl

theorem afterValue_scalar {c : Char} (bare : c ∉ ['"', '{', '[']) :
    afterValue (fuel + 1) (c :: rest) = (readScalar (c :: rest)).map Prod.snd := by
  rw [afterValue]
  all_goals
    intro more same
    obtain ⟨rfl, -⟩ := List.cons.inj same
    exact bare (by decide)

theorem openings (s : List Char) :
    s = [] ∨ (∃ rest, s = '"' :: rest) ∨ (∃ bracket rest, s = Bracket.opening bracket :: rest) ∨
      ∃ c rest, c ∉ ['"', '{', '['] ∧ s = c :: rest := by
  match s with
  | [] => exact .inl rfl
  | c :: rest =>
    by_cases bare : c ∈ ['"', '{', '[']
    · simp only [List.mem_cons, List.not_mem_nil, or_false] at bare
      rcases bare with rfl | rfl | rfl
      · exact .inr (.inl ⟨rest, rfl⟩)
      · exact .inr (.inr (.inl ⟨.curly, rest, rfl⟩))
      · exact .inr (.inr (.inl ⟨.square, rest, rfl⟩))
    · exact .inr (.inr (.inr ⟨c, rest, bare, rfl⟩))

end Openings

theorem map_snd_ok {ε α β : Type} {a : α} {b : β} :
    (Except.ok (a, b) : Except ε (α × β)).map Prod.snd = .ok b := rfl

section Reader

variable {fuel : Nat}

theorem readValue_rest (items : ∀ s, (readItems fuel s).map Prod.snd = afterEntries .square fuel s)
    (members : ∀ s, (readMembers fuel s).map Prod.snd = afterEntries .curly fuel s)
    (s : List Char) : (readValue (fuel + 1) s).map Prod.snd = afterValue (fuel + 1) s := by
  rcases openings s with rfl | ⟨rest, rfl⟩ | ⟨bracket, rest, rfl⟩ | ⟨c, rest, bare, rfl⟩
  · rfl
  · rw [afterValue_quote, ← readText_rest, readValue]
    cases readText ('"' :: rest) rest <;> rfl
  · rw [afterValue_brackets]
    cases bracket with
    | square =>
      rw [Bracket.opening, readValue]
      split
      · next closed =>
        rw [closed]
        rfl
      · next inside =>
        rw [afterOpening_of_ne inside, ← items]
        cases readItems fuel (skipJsonBlanks rest) <;> rfl
    | curly =>
      rw [Bracket.opening, readValue]
      split
      · next closed =>
        rw [closed]
        rfl
      · next inside =>
        rw [afterOpening_of_ne inside, ← members]
        cases readMembers fuel (skipJsonBlanks rest) <;> rfl
  · rw [readValue_scalar bare, afterValue_scalar _ _ bare]

/-- Items leave the same behind whether they are read or passed over. The induction on fuel takes
this step for all three readers at once. -/
theorem readItems_rest (value : ∀ s, (readValue fuel s).map Prod.snd = afterValue fuel s)
    (items : ∀ s, (readItems fuel s).map Prod.snd = afterEntries .square fuel s) (s : List Char) :
    (readItems (fuel + 1) s).map Prod.snd = afterEntries .square (fuel + 1) s := by
  rw [readItems, afterEntries, afterLabel, ok_bind, ← value]
  cases readValue fuel s with
  | error stop => rfl
  | ok read =>
    obtain ⟨item, rest⟩ := read
    rw [ok_bind, map_snd_ok, ok_bind]
    dsimp only
    split
    · next more closed =>
      rw [closed]
      rfl
    · next more comma =>
      rw [comma, afterEntry_comma, ← items]
      cases readItems fuel (skipJsonBlanks more) <;> rfl
    · next inside single =>
      rw [afterEntry_of_ne inside single]
      rfl

theorem readMembers_rest (value : ∀ s, (readValue fuel s).map Prod.snd = afterValue fuel s)
    (members : ∀ s, (readMembers fuel s).map Prod.snd = afterEntries .curly fuel s)
    (s : List Char) :
    (readMembers (fuel + 1) s).map Prod.snd = afterEntries .curly (fuel + 1) s := by
  rw [readMembers.eq_def, afterEntries]
  dsimp only
  split
  · next quoted =>
    rw [afterLabel, ← readText_rest]
    cases readText ('"' :: quoted) quoted with
    | error stop => rfl
    | ok read =>
      obtain ⟨name, rest⟩ := read
      rw [ok_bind, map_snd_ok, ok_bind]
      dsimp only
      split
      · next label colon =>
        have named : afterColon (skipJsonBlanks rest) = .ok (skipJsonBlanks label) := by
          rw [colon]
          rfl
        rw [named, ok_bind, ← value]
        cases readValue fuel (skipJsonBlanks label) with
        | error stop => rfl
        | ok read =>
          obtain ⟨entry, rest⟩ := read
          rw [ok_bind, map_snd_ok, ok_bind]
          dsimp only
          split
          · next more closed =>
            rw [closed]
            rfl
          · next more comma =>
            rw [comma, afterEntry_comma, ← members]
            cases readMembers fuel (skipJsonBlanks more) <;> rfl
          · next inside single =>
            rw [afterEntry_of_ne inside single]
            rfl
      · next unmarked =>
        rw [afterColon_of_ne unmarked]
        rfl
  · next unnamed =>
    rw [afterLabel]
    · rfl
    · exact unnamed

/-- What is left behind the values that are read does not depend on them. The three readers are done
together by induction on the fuel. -/
theorem read_rest (fuel : Nat) :
    (∀ s, (readValue fuel s).map Prod.snd = afterValue fuel s) ∧
      (∀ s, (readItems fuel s).map Prod.snd = afterEntries .square fuel s) ∧
      ∀ s, (readMembers fuel s).map Prod.snd = afterEntries .curly fuel s := by
  induction fuel with
  | zero => exact ⟨fun _ => rfl, fun _ => rfl, fun _ => rfl⟩
  | succ fuel ih =>
    obtain ⟨value, items, members⟩ := ih
    exact ⟨readValue_rest items members, readItems_rest value items, readMembers_rest value members⟩

end Reader

section Blanks

/-- Whether a text does not begin with a blank. -/
def StartsBare (s : List Char) : Prop := ∀ c ∈ s.head?, isJsonBlank c = false

theorem startsBare_skipJsonBlanks (s : List Char) : StartsBare (skipJsonBlanks s) :=
  head?_dropWhile isJsonBlank s

theorem exists_jsonBlanks (s : List Char) :
    ∃ blanks, JsonBlanks blanks ∧ s = blanks ++ skipJsonBlanks s :=
  ⟨s.takeWhile isJsonBlank, fun c member => List.all_eq_true.mp List.all_takeWhile c member,
    List.takeWhile_append_dropWhile.symm⟩

theorem skipJsonBlanks_of_bare {blanks s : List Char} (blank : JsonBlanks blanks)
    (bare : StartsBare s) : skipJsonBlanks (blanks ++ s) = s :=
  dropWhile_append_of_head blank bare

theorem StartsBare.append {front rest : List Char} (bare : StartsBare front)
    (behind : front = [] → StartsBare rest) : StartsBare (front ++ rest) := by
  cases front with
  | nil => exact behind rfl
  | cons c more => exact bare

theorem Bracket.startsBare_closing (bracket : Bracket) (more : List Char) :
    StartsBare (bracket.closing :: more) := by
  rintro c ⟨⟩
  cases bracket <;> rfl

end Blanks

section Spans

variable {bracket : Bracket}

/-- A text that is read as the name of a member and its colon, whatever value follows, or nothing
where no name belongs. -/
structure ReadAsLabel (bracket : Bracket) (label : List Char) : Prop where
  bare : StartsBare label
  read : ∀ more, StartsBare more → afterLabel bracket (label ++ more) = .ok more

/-- A text that is read as one value, whatever follows that does not go on with a number. -/
structure ReadAsValue (front : List Char) : Prop where
  filled : front ≠ []
  bare : StartsBare front
  read : ∀ fuel more, EndsNumber more → 2 * (front ++ more).length + 1 ≤ fuel →
    afterValue fuel (front ++ more) = .ok more

/-- A text that is read as entries up to the closing bracket, whatever follows. -/
structure ReadAsEntries (bracket : Bracket) (front : List Char) : Prop where
  filled : front ≠ []
  bare : StartsBare front
  read : ∀ fuel more, 2 * (front ++ more).length + 2 ≤ fuel →
    afterEntries bracket fuel (front ++ more) = .ok more

theorem afterColon_eq_ok_iff {s rest : List Char} :
    afterColon s = .ok rest ↔ ∃ more, s = ':' :: more ∧ skipJsonBlanks more = rest := by
  constructor
  · intro read
    cases s with
    | nil => cases read
    | cons c more =>
      rw [afterColon] at read
      split at read
      · next colon => exact ⟨more, by rw [colon], Except.ok.inj read⟩
      · cases read
  · rintro ⟨more, rfl, rfl⟩
    rfl

/-- What is read up to a closing quote is read alike before any other text: where a text ends is
decided within it. -/
theorem afterText_local {opening s rest : List Char} (scan : afterText opening s = .ok rest) :
    ∃ quoted, s = quoted ++ rest ∧ ∀ opening more, afterText opening (quoted ++ more) = .ok more := by
  obtain ⟨⟨units, left⟩, read, rfl⟩ := map_eq_ok_iff.mp scan
  obtain ⟨quoted, -, rfl, again⟩ := scanText_local read
  exact ⟨quoted, rfl, fun opening more => map_eq_ok_iff.mpr ⟨_, again opening more, rfl⟩⟩

theorem readAsLabel_nil : ReadAsLabel .square [] := ⟨nofun, fun _ _ => rfl⟩

/-- If the name of a member and its colon are read, then the part that was read is a label, and the
value begins without a blank. -/
theorem exists_readAsLabel {s entry : List Char} (bare : StartsBare s)
    (read : afterLabel bracket s = .ok entry) :
    ∃ label, ReadAsLabel bracket label ∧ s = label ++ entry ∧ StartsBare entry := by
  cases bracket with
  | square =>
    cases read
    exact ⟨[], readAsLabel_nil, rfl, bare⟩
  | curly =>
    rw [afterLabel.eq_def] at read
    dsimp only at read
    split at read
    · obtain ⟨rest, scan, colon⟩ := bind_eq_ok_iff.mp read
      obtain ⟨quoted, rfl, again⟩ := afterText_local scan
      obtain ⟨more, marked, rfl⟩ := afterColon_eq_ok_iff.mp colon
      obtain ⟨left, leftBlank, split⟩ := exists_jsonBlanks rest
      obtain ⟨right, rightBlank, behind⟩ := exists_jsonBlanks more
      refine ⟨'"' :: (quoted ++ (left ++ ':' :: right)), ⟨?_, fun entry entryBare => ?_⟩, ?_,
        startsBare_skipJsonBlanks more⟩
      · rintro c ⟨⟩
        rfl
      · simp only [List.cons_append, List.append_assoc, afterLabel, again, ok_bind]
        rw [skipJsonBlanks_append leftBlank (by rfl)]
        exact congrArg Except.ok (skipJsonBlanks_of_bare rightBlank entryBare)
      · simp only [List.cons_append, List.append_assoc]
        rw [← behind, ← marked, ← split]
    · cases read

theorem readAsValue_text {quoted : List Char}
    (scan : ∀ opening more, afterText opening (quoted ++ more) = .ok more) :
    ReadAsValue ('"' :: quoted) where
  filled := List.cons_ne_nil _ _
  bare := by
    rintro c ⟨⟩
    rfl
  read fuel more _ enough := by
    obtain ⟨less, rfl⟩ := Nat.exists_eq_add_one_of_ne_zero (show fuel ≠ 0 by omega)
    exact scan _ more

theorem readAsValue_empty {blanks : List Char} (blank : JsonBlanks blanks) :
    ReadAsValue (bracket.opening :: (blanks ++ [bracket.closing])) where
  filled := List.cons_ne_nil _ _
  bare := by
    rintro c ⟨⟩
    cases bracket <;> rfl
  read fuel more _ enough := by
    obtain ⟨less, rfl⟩ := Nat.exists_eq_add_one_of_ne_zero (show fuel ≠ 0 by omega)
    rw [List.cons_append, List.append_assoc, List.singleton_append, afterValue_brackets,
      skipJsonBlanks_of_bare blank (bracket.startsBare_closing more)]
    exact if_pos rfl

theorem readAsValue_brackets {blanks entries : List Char} (blank : JsonBlanks blanks)
    (inside : entries.head? ≠ some bracket.closing) (read : ReadAsEntries bracket entries) :
    ReadAsValue (bracket.opening :: (blanks ++ entries)) where
  filled := List.cons_ne_nil _ _
  bare := by
    rintro c ⟨⟩
    cases bracket <;> rfl
  read fuel more _ enough := by
    obtain ⟨less, rfl⟩ := Nat.exists_eq_add_one_of_ne_zero (show fuel ≠ 0 by omega)
    rw [List.cons_append, List.append_assoc, afterValue_brackets,
      skipJsonBlanks_of_bare blank (read.bare.append fun none => absurd none read.filled),
      afterOpening_of_ne]
    · refine read.read less more ?_
      simp only [List.length_cons, List.length_append] at enough ⊢
      omega
    · intro others same
      obtain ⟨c, front, rfl⟩ := List.exists_cons_of_ne_nil read.filled
      obtain ⟨rfl, -⟩ := List.cons.inj same
      exact inside rfl

theorem ReadAsLabel.entry_bare {label value : List Char} (named : ReadAsLabel bracket label)
    (entry : ReadAsValue value) (more : List Char) : StartsBare (label ++ (value ++ more)) :=
  named.bare.append fun _ => entry.bare.append fun none => absurd none entry.filled

/-- Up to its end, an entry is read the same whatever ends it. -/
theorem ReadAsLabel.afterEntries_eq {label value : List Char} (named : ReadAsLabel bracket label)
    (entry : ReadAsValue value) {blanks : List Char} (blank : JsonBlanks blanks) {mark : Char}
    (marked : mark ∈ [',', ':', ']', '}']) {fuel : Nat} {more : List Char}
    (enough : 2 * (value ++ (blanks ++ mark :: more)).length + 1 ≤ fuel) :
    afterEntries bracket (fuel + 1) (label ++ (value ++ (blanks ++ mark :: more))) =
      afterEntry bracket (afterEntries bracket fuel) (mark :: more) := by
  have bare : isJsonBlank mark = false := by
    have table : ∀ c ∈ [',', ':', ']', '}'], isJsonBlank c = false :=
      forall_mem_of_decide (by decide)
    exact table mark marked
  rw [afterEntries, named.read _ (entry.bare.append fun none => absurd none entry.filled), ok_bind,
    entry.read fuel _ (endsNumber_append blank marked more) enough, ok_bind,
    skipJsonBlanks_append blank bare]

theorem Bracket.closing_mem (bracket : Bracket) : bracket.closing ∈ [',', ':', ']', '}'] := by
  cases bracket <;> decide

theorem readAsEntries_last {label value blanks : List Char} (named : ReadAsLabel bracket label)
    (entry : ReadAsValue value) (blank : JsonBlanks blanks) :
    ReadAsEntries bracket (label ++ (value ++ (blanks ++ [bracket.closing]))) where
  filled := by simp
  bare := named.entry_bare entry _
  read fuel more enough := by
    obtain ⟨less, rfl⟩ := Nat.exists_eq_add_one_of_ne_zero (show fuel ≠ 0 by omega)
    simp only [List.append_assoc, List.singleton_append] at enough ⊢
    rw [named.afterEntries_eq entry blank bracket.closing_mem, afterEntry_closing]
    rw [List.length_append] at enough
    omega

/-- An entry before others, with its comma. Blanks may stand on both sides of the comma, as in what
a writer breaks into lines. -/
theorem readAsEntries_more {label value left right others : List Char}
    (named : ReadAsLabel bracket label) (entry : ReadAsValue value) (before : JsonBlanks left)
    (after : JsonBlanks right) (behind : ReadAsEntries bracket others) :
    ReadAsEntries bracket (label ++ (value ++ (left ++ ',' :: (right ++ others)))) where
  filled := by simp
  bare := named.entry_bare entry _
  read fuel more enough := by
    obtain ⟨less, rfl⟩ := Nat.exists_eq_add_one_of_ne_zero (show fuel ≠ 0 by omega)
    simp only [List.append_assoc, List.cons_append] at enough ⊢
    have shorter : 2 * (others ++ more).length + 2 ≤ less := by
      simp only [List.length_append, List.length_cons] at enough ⊢
      omega
    rw [named.afterEntries_eq entry before (by decide), afterEntry_comma,
      skipJsonBlanks_of_bare after (behind.bare.append fun none => absurd none behind.filled),
      behind.read less more shorter]
    rw [List.length_append] at enough
    omega

/-- A scalar is a value of its own if it is read alike before everything that cannot go on with a
number. -/
theorem readAsValue_scalar {c : Char} (scalar : c ∉ ['"', '{', '[']) {others : List Char}
    (bare : StartsBare (c :: others)) {v : Value}
    (scan : ∀ more, EndsNumber more → readScalar (c :: others ++ more) = .ok (v, more)) :
    ReadAsValue (c :: others) where
  filled := List.cons_ne_nil _ _
  bare := bare
  read fuel more ends enough := by
    obtain ⟨less, rfl⟩ := Nat.exists_eq_add_one_of_ne_zero (show fuel ≠ 0 by omega)
    rw [List.cons_append, afterValue_scalar _ _ scalar]
    exact map_eq_ok_iff.mpr ⟨_, scan more ends, rfl⟩

theorem afterEntry_cases (bracket : Bracket) (others : List Char → Except ReadStop (List Char))
    (s : List Char) :
    (∃ more, s = bracket.closing :: more) ∨ (∃ more, s = ',' :: more) ∨
      afterEntry bracket others s = .error ⟨.expectedComma, s⟩ := by
  by_cases closed : ∃ more, s = bracket.closing :: more
  · exact .inl closed
  by_cases comma : ∃ more, s = ',' :: more
  · exact .inr (.inl comma)
  exact .inr (.inr (afterEntry_of_ne (fun more same => closed ⟨more, same⟩)
    fun more same => comma ⟨more, same⟩))

/-- What is passed over as entries is a text that reads as entries. The fuel goes down with every
entry, so values and entries are done together. -/
theorem exists_readAsEntries {fuel : Nat}
    (value : ∀ {s rest}, StartsBare s → afterValue fuel s = .ok rest →
      ∃ front, ReadAsValue front ∧ s = front ++ rest)
    (entries : ∀ {s rest}, StartsBare s → afterEntries bracket fuel s = .ok rest →
      ∃ front, ReadAsEntries bracket front ∧ s = front ++ rest)
    {s rest : List Char} (bare : StartsBare s)
    (read : afterEntries bracket (fuel + 1) s = .ok rest) :
    ∃ front, ReadAsEntries bracket front ∧ s = front ++ rest := by
  rw [afterEntries] at read
  obtain ⟨entry, labelled, labelRead⟩ := bind_eq_ok_iff.mp read
  obtain ⟨behind, first, ending⟩ := bind_eq_ok_iff.mp labelRead
  obtain ⟨label, named, rfl, entryBare⟩ := exists_readAsLabel bare labelled
  obtain ⟨front, readFront, rfl⟩ := value entryBare first
  obtain ⟨left, leftBlank, split⟩ := exists_jsonBlanks behind
  rcases afterEntry_cases bracket (afterEntries bracket fuel) (skipJsonBlanks behind) with
    ⟨more, closed⟩ | ⟨more, comma⟩ | refused
  · rw [closed, afterEntry_closing] at ending
    cases ending
    refine ⟨_, readAsEntries_last named readFront leftBlank, ?_⟩
    rw [split, closed]
    simp
  · rw [comma, afterEntry_comma] at ending
    obtain ⟨right, rightBlank, splitRight⟩ := exists_jsonBlanks more
    obtain ⟨others, readOthers, same⟩ := entries (startsBare_skipJsonBlanks more) ending
    refine ⟨_, readAsEntries_more named readFront leftBlank rightBlank readOthers, ?_⟩
    rw [split, comma, splitRight, same]
    simp
  · rw [refused] at ending
    cases ending

/-- What is passed over as a value is a text that reads as one value, wherever it stands. This is
the direction from what the reader accepts to what is written. -/
theorem exists_readAsValue {fuel : Nat}
    (entries : ∀ {bracket s rest}, StartsBare s → afterEntries bracket fuel s = .ok rest →
      ∃ front, ReadAsEntries bracket front ∧ s = front ++ rest)
    {s rest : List Char} (bare : StartsBare s) (read : afterValue (fuel + 1) s = .ok rest) :
    ∃ front, ReadAsValue front ∧ s = front ++ rest := by
  rcases openings s with rfl | ⟨behind, rfl⟩ | ⟨bracket, behind, rfl⟩ | ⟨c, behind, scalar, rfl⟩
  · cases read
  · rw [afterValue_quote] at read
    obtain ⟨quoted, rfl, scan⟩ := afterText_local read
    exact ⟨_, readAsValue_text scan, rfl⟩
  · rw [afterValue_brackets] at read
    obtain ⟨blanks, blank, split⟩ := exists_jsonBlanks behind
    by_cases closed : ∃ more, skipJsonBlanks behind = bracket.closing :: more
    · obtain ⟨more, closed⟩ := closed
      have empty : rest = more := by
        rw [closed, afterOpening, if_pos rfl] at read
        exact (Except.ok.inj read).symm
      refine ⟨bracket.opening :: (blanks ++ [bracket.closing]), readAsValue_empty blank, ?_⟩
      rw [split, closed, empty]
      simp
    · rw [afterOpening_of_ne fun more same => closed ⟨more, same⟩] at read
      obtain ⟨front, readFront, same⟩ := entries (startsBare_skipJsonBlanks behind) read
      refine ⟨_, readAsValue_brackets blank (fun first => ?_) readFront, ?_⟩
      · obtain ⟨more, rfl⟩ := List.head?_eq_some_iff.mp first
        exact closed ⟨more ++ rest, same⟩
      · rw [split, same]
        simp
  · rw [afterValue_scalar _ _ scalar] at read
    obtain ⟨⟨v, left⟩, scan, rfl⟩ := map_eq_ok_iff.mp read
    obtain ⟨front, filled, split, again⟩ := readScalar_local scan
    obtain ⟨d, others, rfl⟩ := List.exists_cons_of_ne_nil filled
    obtain ⟨rfl, -⟩ := List.cons.inj split
    have others_bare : StartsBare (c :: others) := bare
    exact ⟨_, readAsValue_scalar scalar others_bare again, split⟩

/-- What is left out of a reading that succeeds has no part in it: the part that was read is a
value, or entries, that are read alike wherever they stand. -/
theorem exists_readAs (fuel : Nat) :
    (∀ {s rest}, StartsBare s → afterValue fuel s = .ok rest →
        ∃ front, ReadAsValue front ∧ s = front ++ rest) ∧
      ∀ {bracket s rest}, StartsBare s → afterEntries bracket fuel s = .ok rest →
        ∃ front, ReadAsEntries bracket front ∧ s = front ++ rest := by
  induction fuel with
  | zero => exact ⟨nofun, nofun⟩
  | succ fuel ih =>
    obtain ⟨value, entries⟩ := ih
    exact ⟨exists_readAsValue entries, exists_readAsEntries value entries⟩

end Spans

end GuardedRecords
