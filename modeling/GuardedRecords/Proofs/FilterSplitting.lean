import GuardedRecords.Filter.Where
import GuardedRecords.Proofs.BlankEnds
import GuardedRecords.Proofs.JsonText

namespace GuardedRecords

/-- A splitting whose first clause has more text in front. -/
def Splitting.after (s : Splitting) (front : List Char) : Splitting := ⟨front ++ s.first, s.more⟩

theorem Splitting.after_append (s : Splitting) (front more : List Char) :
    s.after (front ++ more) = (s.after more).after front := by
  simp only [Splitting.after, List.append_assoc]

theorem splitClauses_nil (quote : Option Char) : splitClauses quote [] = ⟨[], []⟩ := by
  rw [splitClauses]

theorem splitClauses_escape (q d : Char) (rest : List Char) :
    splitClauses (some q) ('\\' :: d :: rest) =
      (splitClauses (some q) rest).after ['\\', d] := by
  rw [splitClauses]
  rfl

theorem splitClauses_inside {q c : Char} (notEscape : c ≠ '\\') (notQuote : c ≠ q)
    (rest : List Char) :
    splitClauses (some q) (c :: rest) = (splitClauses (some q) rest).after [c] := by
  rw [splitClauses, if_neg notQuote]
  · rfl
  · simp [notEscape]

theorem splitClauses_close {q : Char} (notEscape : q ≠ '\\') (rest : List Char) :
    splitClauses (some q) (q :: rest) = (splitClauses none rest).after [q] := by
  rw [splitClauses, if_pos rfl]
  · rfl
  · simp [notEscape]

theorem splitClauses_open {q : Char} (quote : q = '\'' ∨ q = '"') (rest : List Char) :
    splitClauses none (q :: rest) = (splitClauses (some q) rest).after [q] := by
  rw [splitClauses, if_pos quote]
  rfl

theorem splitClauses_outside {c : Char} (notQuote : c ≠ '\'' ∧ c ≠ '"') {rest : List Char}
    (apart : junction? (c :: rest) = none) :
    splitClauses none (c :: rest) = (splitClauses none rest).after [c] := by
  rw [splitClauses, if_neg (by simp [notQuote])]
  split
  · next found => rw [apart] at found; cases found
  · rfl

/-- A separator ends the clause, and what is behind it is split afresh with its blanks already
gone. -/
theorem splitClauses_junction {c : Char} (notQuote : c ≠ '\'' ∧ c ≠ '"') {rest after : List Char}
    {j : Junction} (joined : junction? (c :: rest) = some (j, after)) :
    splitClauses none (c :: rest) =
      ⟨[], (j, (splitClauses none after).first) :: (splitClauses none after).more⟩ := by
  rw [splitClauses, if_neg (by simp [notQuote])]
  split
  · next found =>
    rw [joined] at found
    cases found
    rfl
  · next found => rw [joined] at found; cases found

/-- Whether no clause ends within a text, whatever comes after it. -/
def Unsplit (cs : List Char) : Prop :=
  ∀ rest, splitClauses none (cs ++ rest) = (splitClauses none rest).after cs

/-- Texts in which no clause ends can be put behind each other, because the condition holds whatever
comes next. -/
theorem Unsplit.append {cs more : List Char} (front : Unsplit cs) (back : Unsplit more) :
    Unsplit (cs ++ more) := by
  intro rest
  rw [List.append_assoc, front, back, Splitting.after_append]

theorem unsplit_singleton {c : Char} (notBlank : isBlank c = false)
    (notQuote : c ≠ '\'' ∧ c ≠ '"') : Unsplit [c] := by
  intro rest
  have apart : junction? (c :: rest) = none := by simp [junction?, notBlank]
  exact splitClauses_outside notQuote apart

theorem unsplit_of_bare {cs : List Char}
    (bare : ∀ c ∈ cs, isBlank c = false ∧ c ≠ '\'' ∧ c ≠ '"') : Unsplit cs := by
  induction cs with
  | nil => exact fun rest => rfl
  | cons c cs ih =>
    obtain ⟨notBlank, notQuote⟩ := bare c List.mem_cons_self
    have others := ih fun d member => bare d (List.mem_cons_of_mem c member)
    exact (unsplit_singleton notBlank notQuote).append others

/-- A word is not found where its first letter is not, in either case. The letters i and k have
cases outside ASCII and are left out here. -/
theorem afterWord?_of_ne {letter c : Char} (different : c.toLower ≠ letter)
    (plain : letter ≠ 'i' ∧ letter ≠ 'k') (word rest : List Char) :
    afterWord? (letter :: word) (c :: rest) = none := by
  simp [afterWord?, isCaseOf, different, plain]

/-- Blanks before what begins with neither junction belong to the clause they stand in. -/
theorem Unsplit.after_blanks {blanks : List Char} (blank : ∀ b ∈ blanks, isBlank b = true)
    {c : Char} {cs : List Char} (bare : isBlank c = false) (apart : c.toLower ≠ 'a' ∧ c.toLower ≠ 'o')
    (whole : Unsplit (c :: cs)) : Unsplit (blanks ++ c :: cs) := by
  induction blanks with
  | nil => exact whole
  | cons b blanks ih =>
    have others := ih fun d member => blank d (List.mem_cons_of_mem b member)
    have first : isBlank b = true := blank b List.mem_cons_self
    have notQuote : b ≠ '\'' ∧ b ≠ '"' := by
      constructor <;> rintro rfl <;> exact absurd first (by decide)
    intro rest
    have shape : b :: blanks ++ c :: cs ++ rest = b :: (blanks ++ c :: cs ++ rest) := rfl
    have skipped : trimLeft (b :: (blanks ++ c :: cs ++ rest)) = c :: (cs ++ rest) := by
      rw [List.append_assoc, ← List.cons_append]
      exact trimLeft_append blank bare (cs ++ rest)
    have notAnd : afterWord? "and".toList (c :: (cs ++ rest)) = none :=
      afterWord?_of_ne apart.1 (by decide) _ _
    have notOr : afterWord? "or".toList (c :: (cs ++ rest)) = none :=
      afterWord?_of_ne apart.2 (by decide) _ _
    have unjoined : junction? (b :: (blanks ++ c :: cs ++ rest)) = none := by
      simp only [junction?, first, if_true, skipped, notAnd, notOr, Option.map_none]
    rw [shape, splitClauses_outside notQuote unjoined, others, ← Splitting.after_append]
    rfl

theorem splitClauses_run {q : Char} {cs : List Char} (plain : ∀ c ∈ cs, c ≠ '\\' ∧ c ≠ q)
    (rest : List Char) :
    splitClauses (some q) (cs ++ rest) = (splitClauses (some q) rest).after cs := by
  induction cs with
  | nil => rfl
  | cons c cs ih =>
    obtain ⟨notEscape, notQuote⟩ := plain c List.mem_cons_self
    rw [List.cons_append, splitClauses_inside notEscape notQuote,
      ih fun d member => plain d (List.mem_cons_of_mem c member), ← Splitting.after_append]
    rfl

theorem SpellsCode.plain {n : Nat} {digits : List Char} (spelled : SpellsCode n digits) :
    ∀ c ∈ digits, c ≠ '\\' ∧ c ≠ '"' := by
  intro c member
  have lower : c.toLower ∈ hexDigits 4 n := spelled ▸ List.mem_map_of_mem member
  obtain ⟨i, -, same⟩ := List.mem_map.mp lower
  have table : ∀ k < 16, Nat.digitChar k ≠ '\\' ∧ Nat.digitChar k ≠ '"' := by decide
  have digit := table (n / Nat.pow 16 i % 16) (Nat.mod_lt _ (by decide))
  rw [same] at digit
  constructor
  · rintro rfl
    exact digit.1 (by decide)
  · rintro rfl
    exact digit.2 (by decide)

theorem SpellsCode.splitClauses_inside {n : Nat} {digits : List Char}
    (spelled : SpellsCode n digits) (rest : List Char) :
    splitClauses (some '"') ('\\' :: 'u' :: digits ++ rest) =
      (splitClauses (some '"') rest).after ('\\' :: 'u' :: digits) := by
  rw [List.cons_append, List.cons_append, splitClauses_escape, splitClauses_run spelled.plain,
    ← Splitting.after_append]
  rfl

/-- No form of a character ends the quotes it stands in. -/
theorem WrittenChar.splitClauses_inside {c : Char} {written : List Char}
    (form : WrittenChar c written) (rest : List Char) :
    splitClauses (some '"') (written ++ rest) = (splitClauses (some '"') rest).after written := by
  cases form with
  | plain notQuote notEscape _ => exact GuardedRecords.splitClauses_inside notEscape notQuote rest
  | short _ => exact splitClauses_escape '"' _ rest
  | code _ spelled => exact spelled.splitClauses_inside rest
  | surrogates _ first second =>
    rw [List.append_assoc, first.splitClauses_inside, second.splitClauses_inside,
      ← Splitting.after_append]

/-- However a text is written as JSON, the splitter passes over it as a whole: a quote in it is
always behind a backslash. -/
theorem WrittenText.splitClauses_inside {text body : List Char} (form : WrittenText text body)
    (rest : List Char) :
    splitClauses (some '"') (body ++ rest) = (splitClauses (some '"') rest).after body := by
  induction form generalizing rest with
  | nil => rfl
  | cons first _ ih => rw [List.append_assoc, first.splitClauses_inside, ih, Splitting.after_append]

/-- A quoted text never ends a clause, even when it is full of words that look like separators: an
escape keeps its quotes from being taken for the closing one. -/
theorem WrittenText.unsplit {text body : List Char} (form : WrittenText text body) :
    Unsplit ('"' :: body ++ ['"']) := by
  intro rest
  have shape : '"' :: body ++ ['"'] ++ rest = '"' :: (body ++ '"' :: rest) := by simp
  rw [shape, splitClauses_open (.inr rfl), form.splitClauses_inside, splitClauses_close (by decide),
    ← Splitting.after_append, ← Splitting.after_append]
  rfl

theorem apart_of_mem_jsonOpenings {c : Char} (opens : c ∈ jsonOpenings) :
    isBlank c = false ∧ c.toLower ≠ 'a' ∧ c.toLower ≠ 'o' := by
  have table : ∀ c ∈ jsonOpenings, isBlank c = false ∧ c.toLower ≠ 'a' ∧ c.toLower ≠ 'o' := by
    exact forall_mem_of_decide (by decide)
  exact table c opens

theorem isBlank_of_isJsonBlank {c : Char} (blank : isJsonBlank c = true) : isBlank c = true := by
  have kinds : c = ' ' ∨ c = '\t' ∨ c = '\n' ∨ c = '\r' := by
    simpa [isJsonBlank, or_assoc] using blank
  rcases kinds with rfl | rfl | rfl | rfl <;> decide

theorem unsplit_toDigits (n : Nat) : Unsplit (Nat.toDigits 10 n) := by
  have table : ∀ c ∈ decimalDigits, isBlank c = false ∧ c ≠ '\'' ∧ c ≠ '"' := forall_mem_of_decide (by decide)
  exact unsplit_of_bare fun c member => table c (mem_decimalDigits_of_mem_toDigits member)

/-- Blanks can begin a separator only if a junction follows them, and what follows here begins with
another letter. -/
theorem JsonBlanks.unsplit {blanks : List Char} (blank : JsonBlanks blanks) {c : Char}
    {cs : List Char} (bare : isBlank c = false) (apart : c.toLower ≠ 'a' ∧ c.toLower ≠ 'o')
    (whole : Unsplit (c :: cs)) : Unsplit (blanks ++ c :: cs) :=
  whole.after_blanks (fun b member => isBlank_of_isJsonBlank (blank b member)) bare apart

/-- The marks that stand in literals outside quotes. -/
def literalMarks : List Char := ['(', ')', '[', ']', '{', '}', ',', ':', '-']

theorem bare_of_mem_literalMarks {c : Char} (mark : c ∈ literalMarks) :
    isBlank c = false ∧ c ≠ '\'' ∧ c ≠ '"' ∧ c.toLower ≠ 'a' ∧ c.toLower ≠ 'o' := by
  have table : ∀ c ∈ literalMarks,
      isBlank c = false ∧ c ≠ '\'' ∧ c ≠ '"' ∧ c.toLower ≠ 'a' ∧ c.toLower ≠ 'o' := forall_mem_of_decide (by decide)
  exact table c mark

theorem unsplit_mark {c : Char} (mark : c ∈ literalMarks) : Unsplit [c] := by
  obtain ⟨notBlank, notSingle, notDouble, -⟩ := bare_of_mem_literalMarks mark
  exact unsplit_singleton notBlank ⟨notSingle, notDouble⟩

theorem JsonBlanks.unsplit_mark {blanks : List Char} (blank : JsonBlanks blanks) {c : Char}
    (mark : c ∈ literalMarks) : Unsplit (blanks ++ [c]) := by
  obtain ⟨notBlank, -, -, apart⟩ := bare_of_mem_literalMarks mark
  exact blank.unsplit notBlank apart (GuardedRecords.unsplit_mark mark)

/-- A mark with blanks around it, and the text of a part behind it. -/
theorem JsonText.unsplit_behind {part : JsonPart} {cs : List Char} (text : JsonText part cs)
    (whole : Unsplit cs) {before after : List Char} (left : JsonBlanks before)
    (right : JsonBlanks after) {c : Char} (mark : c ∈ literalMarks) :
    Unsplit (before ++ c :: after ++ cs) := by
  obtain ⟨d, more, rfl, opens⟩ := text.opens
  obtain ⟨notBlank, apart⟩ := apart_of_mem_jsonOpenings opens
  have behind : Unsplit (after ++ d :: more) := right.unsplit notBlank apart whole
  have shape : before ++ c :: after ++ d :: more = before ++ [c] ++ (after ++ d :: more) := by simp
  rw [shape]
  exact (left.unsplit_mark mark).append behind

/-- No text of JSON values ends a clause, whatever its texts contain. By induction on the text;
outside quotes there are only marks, digits and words that separate nothing. -/
theorem JsonText.unsplit {part : JsonPart} {cs : List Char} (text : JsonText part cs) :
    Unsplit cs := by
  induction text with
  | null => exact unsplit_of_bare (forall_mem_of_decide (by decide))
  | yes => exact unsplit_of_bare (forall_mem_of_decide (by decide))
  | no => exact unsplit_of_bare (forall_mem_of_decide (by decide))
  | nat n => exact unsplit_toDigits n
  | negative n => exact (unsplit_mark (by decide)).append (unsplit_toDigits n)
  | text written => exact written.unsplit
  | emptyArray blank => exact (unsplit_mark (by decide)).append (blank.unsplit_mark (by decide))
  | emptyObject blank => exact (unsplit_mark (by decide)).append (blank.unsplit_mark (by decide))
  | array left inner right ih =>
    rw [List.append_assoc]
    exact (inner.unsplit_behind ih jsonBlanks_nil left (by decide)).append
      (right.unsplit_mark (by decide))
  | object left inner right ih =>
    rw [List.append_assoc]
    exact (inner.unsplit_behind ih jsonBlanks_nil left (by decide)).append
      (right.unsplit_mark (by decide))
  | lastItem _ ih => exact ih
  | @item v vs cs before after more first left right others ihFirst ihOthers =>
    have shape : cs ++ before ++ ',' :: after ++ more = cs ++ (before ++ ',' :: after ++ more) := by
      simp
    rw [shape]
    exact ihFirst.append (others.unsplit_behind ihOthers left right (by decide))
  | @named name v key before after cs written left right entry ih =>
    have shape : '"' :: key ++ '"' :: before ++ ':' :: after ++ cs =
        '"' :: key ++ ['"'] ++ (before ++ ':' :: after ++ cs) := by simp
    rw [shape]
    exact written.unsplit.append (entry.unsplit_behind ih left right (by decide))
  | lastMember _ ih => exact ih
  | @nextMember name v ms cs before after more first left right others ihFirst ihOthers =>
    have shape : cs ++ before ++ ',' :: after ++ more = cs ++ (before ++ ',' :: after ++ more) := by
      simp
    rw [shape]
    exact ihFirst.append (others.unsplit_behind ihOthers left right (by decide))

/-- The signs of which the operators are made that are no words. -/
def comparisonSigns : List Char := ['<', '>', '=']

theorem operator?_of_bare {c : Char} (bare : isBlank c = false) (unsigned : c ∉ comparisonSigns)
    (rest : List Char) : operator? (c :: rest) = none := by
  have noWord (word : List Char) : wordOperator? word (c :: rest) = none := by
    simp [wordOperator?, bare]
  have sign {d : Char} (listed : d ∈ comparisonSigns) : c ≠ d := by
    rintro rfl
    exact unsigned listed
  rw [operator?]
  · rw [noWord, noWord]
    rfl
  all_goals
    intro _ _ same
    exact sign (by decide) (List.cons.inj same).1

/-- An operator is looked for behind characters with which none begins, so a name without blanks and
signs is passed as a whole. -/
theorem findOperator?_append {word : List Char}
    (bare : ∀ c ∈ word, isBlank c = false ∧ c ∉ comparisonSigns) (rest : List Char) :
    findOperator? (word ++ rest) = (findOperator? rest).map fun r => (word ++ r.1, r.2) := by
  induction word with
  | nil => simp
  | cons c word ih =>
    obtain ⟨first, unsigned⟩ := bare c List.mem_cons_self
    have others := ih fun d member => bare d (List.mem_cons_of_mem c member)
    rw [List.cons_append, findOperator?, operator?_of_bare first unsigned]
    simp only [others, Option.map_map]
    rfl

end GuardedRecords
