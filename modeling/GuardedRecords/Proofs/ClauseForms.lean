import Mathlib
import GuardedRecords.Proofs.LiteralPlaces

namespace GuardedRecords

def signOperators : List FilterOperator := [.le, .lt, .ge, .gt, .eq]

/-- The ways to write an operator: as it is, or as a word in any case. What a word stands for goes
by its small letters. -/
inductive SpelledAs : FilterOperator → List Char → Prop
  | sign {op : FilterOperator} (known : op ∈ signOperators) : SpelledAs op op.name.toList
  | word {word spelled : List Char} (known : word ∈ operatorWords)
      (spelling : CaseSpelled word spelled) :
      SpelledAs (.ofWord (lower (String.ofList spelled))) spelled

section Spellings

variable {op : FilterOperator} {spelled : List Char}

theorem FilterOperator.name_ofWord (word : String) : (FilterOperator.ofWord word).name = word := by
  rw [FilterOperator.ofWord]
  split
  · next like => exact like.symm
  · split
    · next mem => exact mem.symm
    · rfl

/-- Whatever the case it is written in, the operator is found under the small letters of its
name. -/
theorem SpelledAs.lower_eq (spelling : SpelledAs op spelled) :
    lower (String.ofList spelled) = op.name := by
  cases spelling with
  | sign known =>
    have table : ∀ op ∈ signOperators, lower (String.ofList op.name.toList) = op.name := by
      decide +kernel
    exact table op known
  | word => exact (FilterOperator.name_ofWord _).symm

theorem mem_operatorLetters {word : List Char} (known : word ∈ operatorWords) :
    ∀ letter ∈ word, letter ∈ operatorLetters := by
  have table : ∀ letter ∈ operatorWords.flatten, letter ∈ operatorLetters :=
    forall_mem_of_decide (by decide)
  exact fun letter member => table letter (List.mem_flatten.mpr ⟨word, known, member⟩)

/-- The spellings of a word in all cases are finitely many, so what holds of each of them can be
computed. -/
theorem CaseSpelled.mem_spellings_of_word {word : List Char} (known : word ∈ operatorWords)
    (spelling : CaseSpelled word spelled) : spelled ∈ spellings word :=
  spelling.mem_spellings (mem_operatorLetters known)

/-- The operator is none of the seven just when it is spelled with an odd letter i: only these are
taken for a letter of an operator and have other small letters. -/
theorem SpelledAs.unknown_iff (spelling : SpelledAs op spelled) :
    (∃ name, op = .unknown name) ↔ HasOddI spelled := by
  cases spelling with
  | sign known =>
    have table : ∀ op ∈ signOperators, ¬HasOddI op.name.toList := by decide
    refine ⟨?_, fun odd => absurd odd (table op known)⟩
    rintro ⟨name, rfl⟩
    simp [signOperators] at known
  | @word word _ known spelling =>
    refine ⟨fun ⟨name, unknown⟩ => hasOddI_of_unknown known spelling unknown, fun odd => ?_⟩
    have table : ∀ word ∈ operatorWords, ∀ spelled ∈ spellings word, HasOddI spelled →
        FilterOperator.ofWord (lower (String.ofList spelled)) =
          .unknown (lower (String.ofList spelled)) := by
      decide +kernel
    exact ⟨_, table word known spelled (spelling.mem_spellings_of_word known) odd⟩

/-- Neither quotes nor blanks nor signs are among the letters of a word. -/
theorem CaseSpelled.plain {word : List Char} (known : word ∈ operatorWords)
    (spelling : CaseSpelled word spelled) :
    ∀ c ∈ spelled, (c ≠ '"' ∧ c ≠ '\\') ∧ isBlank c = false ∧ c ∉ comparisonSigns := by
  have table : ∀ word ∈ operatorWords, ∀ spelled ∈ spellings word, spelled.all (fun c =>
      decide ((c ≠ '"' ∧ c ≠ '\\') ∧ isBlank c = false ∧ c ∉ comparisonSigns)) = true := by
    decide +kernel
  exact forall_mem_of_decide (table word known spelled (spelling.mem_spellings_of_word known))

end Spellings

/-- An operator at the front of a text, and what is behind it. A word stands between blanks. -/
inductive OperatorAt : List Char → FilterOperator → List Char → Prop
  | sign {op : FilterOperator} {after : List Char} (known : op ∈ signOperators)
      (more : after ≠ []) : OperatorAt (op.name.toList ++ after) op after
  | word {before word spelled behind after : List Char} (known : word ∈ operatorWords)
      (spelling : CaseSpelled word spelled) (left : before ≠ [])
      (leftBlank : ∀ c ∈ before, isBlank c = true) (right : behind ≠ [])
      (rightBlank : ∀ c ∈ behind, isBlank c = true) (more : after ≠ []) :
      OperatorAt (before ++ (spelled ++ (behind ++ after)))
        (.ofWord (lower (String.ofList spelled))) after

theorem exists_name_eq_cons {op : FilterOperator} (known : op ∈ signOperators) :
    ∃ c rest, op.name.toList = c :: rest ∧ c ∈ comparisonSigns := by
  cases op <;> first | exact ⟨_, _, rfl, by decide⟩ | simp [signOperators] at known

theorem OperatorAt.begins {s after : List Char} {op : FilterOperator}
    (operator : OperatorAt s op after) :
    ∃ c rest, s = c :: rest ∧ (c ∈ comparisonSigns ∨ isBlank c = true) := by
  cases operator with
  | sign known =>
    obtain ⟨c, rest, name, sign⟩ := exists_name_eq_cons known
    exact ⟨c, rest ++ after, by rw [name]; rfl, .inl sign⟩
  | word _ _ left leftBlank =>
    obtain ⟨c, rest, rfl⟩ := List.exists_cons_of_ne_nil left
    exact ⟨c, _, rfl, .inr (leftBlank c List.mem_cons_self)⟩

section Finding

variable {s after : List Char} {op : FilterOperator}

theorem operatorAt_of_wordOperator? {word : List Char} (known : word ∈ operatorWords)
    (found : wordOperator? word s = some (op, after)) (more : after ≠ []) :
    OperatorAt s op after := by
  unfold wordOperator? at found
  split at found
  · next c rest =>
    split at found
    · next blank =>
      split at found
      · next spelled d tail run =>
        split at found
        · next behindBlank =>
          cases found
          obtain ⟨spelling, split⟩ := afterWord?_eq_some run
          obtain ⟨before, left, leftBlank⟩ := exists_trimLeft (c :: rest)
          obtain ⟨behind, right, rightBlank⟩ := exists_trimLeft tail
          have some : before ≠ [] := by
            rintro rfl
            have bare := bare_of_trimLeft left.symm
            rw [blank] at bare
            cases bare
          rw [left, split]
          have whole : spelled ++ d :: tail = spelled ++ (d :: behind ++ trimLeft tail) := by
            rw [List.cons_append, ← right]
          rw [whole]
          exact .word known spelling some leftBlank (List.cons_ne_nil d behind)
            (List.forall_mem_cons.mpr ⟨behindBlank, rightBlank⟩) more
        · cases found
      · cases found
    · cases found
  · cases found

/-- What the search takes for an operator is one: a sign, or a word with blanks on both sides. -/
theorem operatorAt_of_operator? (found : operator? s = some (op, after)) : OperatorAt s op after := by
  unfold operator? at found
  split at found
  · cases found
    exact @OperatorAt.sign .le _ (by decide) (List.cons_ne_nil _ _)
  · cases found
    exact @OperatorAt.sign .lt _ (by decide) (List.cons_ne_nil _ _)
  · cases found
    exact @OperatorAt.sign .ge _ (by decide) (List.cons_ne_nil _ _)
  · cases found
    exact @OperatorAt.sign .gt _ (by decide) (List.cons_ne_nil _ _)
  · cases found
    exact @OperatorAt.sign .eq _ (by decide) (List.cons_ne_nil _ _)
  · split at found
    · next op c tail run =>
      cases found
      have some : c :: tail ≠ [] := List.cons_ne_nil c tail
      cases like : wordOperator? "like".toList s with
      | some word =>
        rw [like] at run
        cases run
        exact operatorAt_of_wordOperator? (by decide) like some
      | none =>
        rw [like] at run
        exact operatorAt_of_wordOperator? (by decide) run some
    · cases found

theorem operator?_sign {c : Char} (sign : c ∈ comparisonSigns) (more : after ≠ []) :
    operator? (c :: after) ≠ none := by
  obtain ⟨d, rest, rfl⟩ := List.exists_cons_of_ne_nil more
  intro none
  simp only [comparisonSigns, List.mem_cons, List.not_mem_nil, or_false] at sign
  rcases sign with rfl | rfl | rfl
  all_goals
    unfold operator? at none
    split at none
    iterate 5 cases none
    next _ lt _ gt eq =>
      first | exact lt d rest rfl | exact gt d rest rfl | exact eq d rest rfl

/-- The operator that is found stands behind a part without signs. The search takes the first sign
that it meets, and a word only with blanks on both sides. -/
theorem findOperator?_eq_some {before : List Char}
    (found : findOperator? s = some (before, op, after)) :
    ∃ rest, s = before ++ rest ∧ OperatorAt rest op after ∧ ∀ c ∈ before, c ∉ comparisonSigns := by
  induction s generalizing before with
  | nil => cases found
  | cons c rest ih =>
    rw [findOperator?] at found
    split at found
    · next run =>
      cases found
      exact ⟨c :: rest, rfl, operatorAt_of_operator? run, List.forall_mem_nil _⟩
    · next none =>
      obtain ⟨⟨front, _, _⟩, run, same⟩ := Option.map_eq_some_iff.mp found
      cases same
      obtain ⟨behind, rfl, operator, unsigned⟩ := ih run
      have some : front ++ behind ≠ [] := by
        obtain ⟨d, more, rfl, -⟩ := operator.begins
        simp
      refine ⟨behind, rfl, operator, List.forall_mem_cons.mpr ⟨fun sign => ?_, unsigned⟩⟩
      exact operator?_sign sign some none

end Finding

section Places

variable {s after : List Char} {op : FilterOperator}

theorem run?_bare_blanks {b : Char} {blanks : List Char}
    (blank : ∀ c ∈ b :: blanks, isBlank c = true) (place : BarePlace) :
    (LiteralPlace.bare place).run? (b :: blanks) =
      if place = .word then none else some (.bare .blank) := by
  induction blanks generalizing b place with
  | nil =>
    rw [LiteralPlace.run?_cons, LiteralPlace.next?_blank (blank b List.mem_cons_self)]
    split <;> rfl
  | cons c rest ih =>
    rw [LiteralPlace.run?_cons, LiteralPlace.next?_blank (blank b List.mem_cons_self)]
    split
    · rfl
    · exact ih (fun d member => blank d (List.mem_cons_of_mem b member)) .blank

/-- No literal has an operator outside quotes: a sign is none of its marks, and the letters of
`like` and of `in` with their blanks occur in none of its words. -/
theorem OperatorAt.run?_bare (operator : OperatorAt s op after) (place : BarePlace) :
    (LiteralPlace.bare place).run? s = none := by
  cases operator with
  | sign known =>
    obtain ⟨c, rest, name, sign⟩ := exists_name_eq_cons known
    have table : ∀ c ∈ comparisonSigns, c ≠ '"' ∧ c ∈ strayMarks :=
      forall_mem_of_decide (by decide)
    obtain ⟨notQuote, stray⟩ := table c sign
    rw [name, List.cons_append, LiteralPlace.run?_cons, LiteralPlace.next?, if_neg notQuote,
      BarePlace.next?, if_pos (.inl stray)]
    rfl
  | @word before word spelled behind _ known spelling left leftBlank right rightBlank =>
    have table : ∀ word ∈ operatorWords, ∀ spelled ∈ spellings word,
        (LiteralPlace.bare .blank).run? spelled = none ∨
          (LiteralPlace.bare .blank).run? spelled = some (.bare .word) := by
      decide +kernel
    obtain ⟨b, blanks, rfl⟩ := List.exists_cons_of_ne_nil left
    obtain ⟨d, more, rfl⟩ := List.exists_cons_of_ne_nil right
    rw [LiteralPlace.run?_append, run?_bare_blanks leftBlank]
    split
    · rfl
    · rw [Option.bind_some, LiteralPlace.run?_append]
      rcases table word known spelled (spelling.mem_spellings_of_word known) with stuck | reached
      · rw [stuck]
        rfl
      · rw [reached, Option.bind_some, LiteralPlace.run?_append, run?_bare_blanks rightBlank,
          if_pos rfl]
        rfl

theorem OperatorAt.run?_escaped (operator : OperatorAt s op after) :
    LiteralPlace.escaped.run? s = none := by
  obtain ⟨c, rest, rfl, begins⟩ := operator.begins
  have known : ¬(c = 'u' ∨ (shortEscape? c).isSome = true) := by
    intro escape
    have unfit : c ∉ comparisonSigns ∧ isBlank c = false := by
      rcases escape with rfl | short
      · decide
      · rw [shortEscape?.eq_def] at short
        split at short
        iterate 8 decide
        cases short
    rcases begins with sign | blank
    · exact unfit.1 sign
    · rw [unfit.2] at blank
      cases blank
  rw [LiteralPlace.run?_cons, LiteralPlace.next?, if_neg known]
  rfl

/-- Inside quotes an operator leads nowhere else. -/
theorem OperatorAt.run?_quoted (operator : OperatorAt s op after) :
    LiteralPlace.quoted.run? s = LiteralPlace.quoted.run? after := by
  have passing {front : List Char} (plain : ∀ c ∈ front, c ≠ '"' ∧ c ≠ '\\') (rest : List Char) :
      LiteralPlace.quoted.run? (front ++ rest) = LiteralPlace.quoted.run? rest := by
    rw [LiteralPlace.run?_append, LiteralPlace.run?_quoted plain, Option.bind_some]
  cases operator with
  | sign known =>
    have table : ∀ c ∈ signOperators.flatMap (·.name.toList), c ≠ '"' ∧ c ≠ '\\' :=
      forall_mem_of_decide (by decide)
    exact passing (fun c member => table c (List.mem_flatMap.mpr ⟨op, known, member⟩)) after
  | word known spelling _ leftBlank _ rightBlank =>
    rw [passing fun c member => plain_of_isBlank (leftBlank c member),
      passing fun c member => (spelling.plain known c member).1,
      passing fun c member => plain_of_isBlank (rightBlank c member)]

end Places

/-- A text that is read as the literal behind an operator: for `in` a list in parentheses, of which
the body in brackets is a JSON array, and for all others a JSON value. -/
inductive ReadsLiteral : FilterOperator → List Char → Value → Prop
  | list {body : List Char} {items : List Value}
      (read : Value.read (String.ofList ('[' :: body ++ [']'])) = .ok (.array items)) :
      ReadsLiteral .mem ('(' :: body ++ [')']) (.array items)
  | plain {op : FilterOperator} {literal : List Char} {value : Value} (other : op ≠ .mem)
      (read : Value.read (String.ofList literal) = .ok value) : ReadsLiteral op literal value

section Literals

variable {op : FilterOperator} {literal : List Char} {value : Value}

theorem exists_items_of_read {body : List Char}
    (read : Value.read (String.ofList ('[' :: body)) = .ok value) :
    ∃ items, value = .array items := by
  obtain ⟨rest, whole, -⟩ := readChars_eq_ok_iff.mp (Value.read_eq_ok_iff.mp read)
  have opens : skipJsonBlanks ('[' :: body) = '[' :: body := rfl
  rw [opens, readValue] at whole
  split at whole
  · cases whole
    exact ⟨[], rfl⟩
  · obtain ⟨r, -, same⟩ := map_eq_ok_iff.mp whole
    cases same
    exact ⟨_, rfl⟩

theorem listBody?_eq_some_iff {s body : List Char} :
    listBody? s = some body ↔ s = '(' :: body ++ [')'] := by
  constructor
  · intro found
    rw [listBody?.eq_def] at found
    split at found
    · split at found
      · next last =>
        obtain ⟨front, rfl⟩ := List.getLast?_eq_some_iff.mp last
        cases found
        rw [List.dropLast_concat, List.cons_append]
      · cases found
    · cases found
  · rintro rfl
    simp [listBody?]

/-- The reader of literals, as a relation: lists in parentheses for `in`, and JSON for all
others. -/
theorem readLiteral?_eq_some_iff :
    readLiteral? op literal = some value ↔ ReadsLiteral op literal value := by
  by_cases list : op = .mem
  · subst list
    simp only [readLiteral?, Option.bind_eq_some_iff, Option.map_eq_some_iff, listBody?_eq_some_iff,
      toOption_eq_some_iff]
    constructor
    · rintro ⟨_, ⟨body, rfl, rfl⟩, read⟩
      obtain ⟨items, rfl⟩ := exists_items_of_read read
      exact .list read
    · intro reads
      cases reads with
      | list read => exact ⟨_, ⟨_, rfl, rfl⟩, read⟩
      | plain other _ => exact absurd rfl other
  · have source : readLiteral? op literal = (Value.read (String.ofList literal)).toOption := by
      cases op <;> first | rfl | exact absurd rfl list
    rw [source, toOption_eq_some_iff]
    constructor
    · exact .plain list
    · intro reads
      cases reads with
      | list => exact absurd rfl list
      | plain _ read => exact read

/-- Parentheses around a list are as good as its brackets. -/
theorem Level.parentheses {body : List Char} (level : Level ('[' :: body ++ [']'])) :
    Level ('(' :: body ++ [')']) := by
  intro place start
  obtain ⟨after, -, run⟩ := level .token (by decide)
  have opening : (LiteralPlace.bare place).next? '(' = some (.bare .token) := by
    have table : ∀ place ∈ openPlaces,
        (LiteralPlace.bare place).next? '(' = some (.bare .token) := by decide
    exact table place start
  rw [List.cons_append, LiteralPlace.run?_cons] at run ⊢
  obtain ⟨between, inside, closed⟩ := LiteralPlace.run?_append_eq_some_iff.mp run
  refine ⟨.token, by decide, ?_⟩
  rw [opening, Option.bind_some, LiteralPlace.run?_append, inside, Option.bind_some]
  cases between with
  | bare place => cases place <;> rfl
  | quoted => cases closed
  | escaped => cases closed

/-- A literal that can be read is level: its quotes are closed and no operator stands outside of
them. -/
theorem ReadsLiteral.level (reads : ReadsLiteral op literal value) : Level literal := by
  cases reads with
  | list read => exact (level_of_read read).parentheses
  | plain _ read => exact level_of_read read

theorem ReadsLiteral.ne_nil (reads : ReadsLiteral op literal value) : literal ≠ [] := by
  cases reads with
  | list => exact List.cons_ne_nil _ _
  | plain _ read =>
    rintro rfl
    cases read

/-- Behind an operator that is found within a literal no literal is left: the operator is inside
quotes, and so what follows is outside where it should be inside, and inside where it should end. -/
theorem unreadable_behind_operator {s before after : List Char} (level : Level s)
    (found : findOperator? s = some (before, op, after)) (value : Value) :
    ¬ReadsLiteral op (trim after) value := by
  intro reads
  obtain ⟨rest, rfl, operator, -⟩ := findOperator?_eq_some found
  obtain ⟨ending, -, run⟩ := level .token (by decide)
  obtain ⟨place, -, run⟩ := LiteralPlace.run?_append_eq_some_iff.mp run
  cases place with
  | bare place =>
    rw [operator.run?_bare] at run
    cases run
  | escaped =>
    rw [operator.run?_escaped] at run
    cases run
  | quoted =>
    obtain ⟨left, right, split, leftBlank, rightBlank⟩ := exists_trim after
    rw [operator.run?_quoted, split, List.append_assoc, LiteralPlace.run?_append,
      LiteralPlace.run?_quoted fun c member => plain_of_isBlank (leftBlank c member),
      Option.bind_some] at run
    obtain ⟨reached, inside, run⟩ := LiteralPlace.run?_append_eq_some_iff.mp run
    obtain ⟨last, -, outside⟩ := reads.level .token (by decide)
    have opposed := (LiteralPlace.Opposed.left .token).run outside inside
    cases opposed
    rw [LiteralPlace.run?_quoted fun c member => plain_of_isBlank (rightBlank c member)] at run
    cases run

end Literals

/-- A text that is a clause in form, with nothing but blanks between its parts. -/
structure Clause.Form (s property spelling : List Char) (operator : FilterOperator) (value : Value) :
    Prop where
  spelled : SpelledAs operator spelling
  written : ∃ before after literal,
    trim s = property ++ (before ++ (spelling ++ (after ++ literal))) ∧
      (∀ c ∈ before, isBlank c = true) ∧ (∀ c ∈ after, isBlank c = true) ∧ BareEnds literal ∧
      ReadsLiteral operator literal value

section Parsing

variable {s : List Char}

theorem OperatorAt.split {rest after : List Char} {op : FilterOperator}
    (operator : OperatorAt rest op after) :
    ∃ before spelling behind, rest = before ++ (spelling ++ (behind ++ after)) ∧
      SpelledAs op spelling ∧ (∀ c ∈ before, isBlank c = true) ∧
      ∀ c ∈ behind, isBlank c = true := by
  cases operator with
  | sign known =>
    exact ⟨[], _, [], rfl, .sign known, List.forall_mem_nil _, List.forall_mem_nil _⟩
  | word known spelling _ leftBlank _ rightBlank =>
    exact ⟨_, _, _, rfl, .word known spelling, leftBlank, rightBlank⟩

/-- Success of the parser as one statement: the first operator behind the first character cuts the
text, and the part behind it can be read as a literal. -/
theorem Clause.parse_eq_ok_iff {clause : Clause} :
    Clause.parse s = .ok clause ↔
      ∃ c rest before after, trim s = c :: rest ∧
        findOperator? rest = some (before, clause.operator, after) ∧
        ReadsLiteral clause.operator (trim after) clause.value ∧
        clause.property = String.ofList (trim (c :: before)) := by
  constructor
  · intro run
    unfold Clause.parse at run
    split at run
    · cases run
    · next c rest trimmed =>
      split at run
      · cases run
      · next before op after found =>
        split at run
        · next value read =>
          cases run
          exact ⟨c, rest, before, after, trimmed, found, readLiteral?_eq_some_iff.mp read, rfl⟩
        · cases run
  · rintro ⟨c, rest, before, after, trimmed, found, reads, named⟩
    obtain ⟨property, op, value⟩ := clause
    obtain rfl : property = _ := named
    simp only [Clause.parse, trimmed, found, readLiteral?_eq_some_iff.mpr reads]

/-- Where no operator has a literal behind it the clause is refused; there is only one kind of
fault. -/
theorem Clause.parse_eq_error {c : Char} {rest : List Char} (trimmed : trim s = c :: rest)
    (unread : ∀ before op after value, findOperator? rest = some (before, op, after) →
      ¬ReadsLiteral op (trim after) value) : Clause.parse s = .error .unreadable := by
  unfold Clause.parse
  rw [trimmed]
  dsimp only
  split
  · rfl
  · next before op after found =>
    split
    · next value read => exact absurd (readLiteral?_eq_some_iff.mp read) (unread _ _ _ value found)
    · rfl

/-- What becomes of an operator and a literal without a name: of the operators with two signs the
first one is taken for the name. -/
def Clause.withoutName (value : Value) : FilterOperator → Except FilterFault Clause
  | .le => .ok ⟨"<", .eq, value⟩
  | .ge => .ok ⟨">", .eq, value⟩
  | _ => .error .unreadable

/-- What becomes of a text as a clause. Every text that is accepted has the form of one; only where
it begins with a comparison sign has its property one, and only where it has an odd letter i is its
operator none of the seven. Without a name it is accepted just where its operator has two signs. -/
structure Clause.Parsing (s : List Char) : Prop where
  accepted : ∀ clause, Clause.parse s = .ok clause →
    BareEnds clause.property.toList ∧
      ∃ spelling, Clause.Form s clause.property.toList spelling clause.operator clause.value ∧
        lower (String.ofList spelling) = clause.operator.name ∧
        ((∃ name, clause.operator = .unknown name) ↔ HasOddI spelling)
  signs : ∀ clause, Clause.parse s = .ok clause →
    ((∃ c ∈ clause.property.toList, c ∈ comparisonSigns) ↔
      ∃ c ∈ (trim s).head?, c ∈ comparisonSigns)
  nameless : ∀ spelling operator value, Clause.Form s [] spelling operator value →
    Clause.parse s = Clause.withoutName value operator

/-- Behind its first character, whatever that is, a property goes on up to the first operator. This
is how a sign can be the first character of a name. -/
theorem Clause.parts_of_parse {clause : Clause} (run : Clause.parse s = .ok clause) :
    ∃ c more blanks rest after, trim s = c :: (more ++ (blanks ++ rest)) ∧
      clause.property.toList = c :: more ∧ BareEnds (c :: more) ∧
      (∀ d ∈ more, d ∉ comparisonSigns) ∧ (∀ b ∈ blanks, isBlank b = true) ∧
      OperatorAt rest clause.operator after ∧
      ReadsLiteral clause.operator (trim after) clause.value := by
  obtain ⟨c, rest, before, after, trimmed, found, reads, named⟩ := Clause.parse_eq_ok_iff.mp run
  obtain ⟨behind, rfl, operator, unsigned⟩ := findOperator?_eq_some found
  have bare : BareEnds (trim s) := bareEnds_trim (by rw [trimmed]; exact List.cons_ne_nil _ _)
  obtain ⟨d, others, front, first⟩ := bare.first
  rw [trimmed] at front
  obtain ⟨rfl, -⟩ := List.cons.inj front
  obtain ⟨more, blanks, property, rfl, blank⟩ := exists_trim_cons first before
  have ends : BareEnds (trim (c :: (more ++ blanks))) :=
    bareEnds_trim (by rw [property]; exact List.cons_ne_nil c more)
  rw [property] at named ends
  refine ⟨c, more, blanks, behind, after, ?_, ?_, ends, ?_, blank, operator, reads⟩
  · rw [trimmed, List.append_assoc]
  · rw [named, String.toList_ofList]
  · exact fun e member => unsigned e (List.mem_append_left blanks member)

/-- Every clause that is accepted has the form of one, with a property that has no blanks at its
ends. -/
theorem Clause.form_of_parse {clause : Clause} (run : Clause.parse s = .ok clause) :
    BareEnds clause.property.toList ∧
      ∃ spelling, Clause.Form s clause.property.toList spelling clause.operator clause.value := by
  obtain ⟨c, more, skipped, rest, after, trimmed, named, ends, -, skippedBlank, operator, reads⟩ :=
    Clause.parts_of_parse run
  obtain ⟨left, spelling, right, rfl, spelled, leftBlank, rightBlank⟩ := operator.split
  obtain ⟨front, back, literal, frontBlank, backBlank⟩ := exists_trim after
  have whole : trim s = c :: more ++ (skipped ++ left ++ (spelling ++ (right ++ front ++
      trim after))) ++ back := by
    rw [trimmed]
    conv => lhs; rw [literal]
    simp only [List.append_assoc, List.cons_append]
  have bare : BareEnds (trim s) := bareEnds_trim (by rw [trimmed]; exact List.cons_ne_nil _ _)
  obtain rfl := (whole ▸ bare).right_nil backBlank
  rw [named]
  refine ⟨ends, spelling, spelled, skipped ++ left, right ++ front, trim after, ?_, ?_, ?_,
    bareEnds_trim reads.ne_nil, reads⟩
  · rw [whole, List.append_nil]
  · exact List.forall_mem_append.mpr ⟨skippedBlank, leftBlank⟩
  · exact List.forall_mem_append.mpr ⟨rightBlank, frontBlank⟩

/-- A comparison sign in the name of the property comes from the first character and from nowhere
else, since the search begins behind it. -/
theorem Clause.signs_of_parse {clause : Clause} (run : Clause.parse s = .ok clause) :
    (∃ c ∈ clause.property.toList, c ∈ comparisonSigns) ↔
      ∃ c ∈ (trim s).head?, c ∈ comparisonSigns := by
  obtain ⟨c, more, _, _, _, trimmed, named, -, unsigned, -⟩ := Clause.parts_of_parse run
  rw [named, trimmed]
  constructor
  · rintro ⟨d, member, sign⟩
    rcases List.mem_cons.mp member with rfl | later
    · exact ⟨d, rfl, sign⟩
    · exact absurd sign (unsigned d later)
  · rintro ⟨d, ⟨⟩, sign⟩
    exact ⟨c, List.mem_cons_self, sign⟩

section Nameless

variable {c : Char} {blanks literal : List Char} {value : Value}

/-- Before the sign `=` any one character makes up a name, also one that would be a sign
elsewhere. -/
theorem Clause.parse_of_name (bare : isBlank c = false) {op : FilterOperator}
    (trimmed : trim s = c :: '=' :: (blanks ++ literal))
    (blank : ∀ b ∈ blanks, isBlank b = true) (ends : BareEnds literal) (other : op ≠ .mem)
    (reads : ReadsLiteral op literal value) :
    Clause.parse s = .ok ⟨String.ofList [c], .eq, value⟩ := by
  have found : findOperator? ('=' :: (blanks ++ literal)) = some ([], .eq, blanks ++ literal) := by
    obtain ⟨d, rest, filled⟩ := List.exists_cons_of_ne_nil
      (show blanks ++ literal ≠ [] by simp [reads.ne_nil])
    rw [filled]
    rfl
  have left : trim (blanks ++ literal) = literal := by
    simpa using trim_append blank ends (List.forall_mem_nil _)
  have read : ReadsLiteral .eq literal value := by
    cases reads with
    | list => exact absurd rfl other
    | plain _ read => exact .plain (by decide) read
  refine Clause.parse_eq_ok_iff.mpr ⟨c, _, [], _, trimmed, found, left.symm ▸ read, ?_⟩
  rw [trim_of_bareEnds (bareEnds_singleton bare)]

/-- Between characters with which no operator begins and a literal there is no operator before which
a name could stand. -/
theorem Clause.parse_of_level {front : List Char} (trimmed : trim s = c :: (front ++ literal))
    (plain : ∀ d ∈ front, isBlank d = false ∧ d ∉ comparisonSigns) (level : Level literal) :
    Clause.parse s = .error .unreadable := by
  refine Clause.parse_eq_error trimmed fun before op after value found => ?_
  rw [findOperator?_append plain] at found
  obtain ⟨⟨_, _, _⟩, inside, same⟩ := Option.map_eq_some_iff.mp found
  cases same
  exact unreadable_behind_operator level inside value

theorem Clause.withoutName_ofWord (word : String) :
    Clause.withoutName value (.ofWord word) = .error .unreadable := by
  rw [FilterOperator.ofWord]
  split
  · rfl
  · split <;> rfl

/-- Where the name is missing the first sign is taken for it. Of the operators with two signs the
second one is left then, and the clause is accepted. -/
theorem Clause.parse_nameless {spelling : List Char} {operator : FilterOperator}
    (form : Clause.Form s [] spelling operator value) :
    Clause.parse s = Clause.withoutName value operator := by
  obtain ⟨spelled, before, after, literal, trimmed, beforeBlank, afterBlank, ends, reads⟩ := form
  have bare : BareEnds (trim s) := bareEnds_trim (by rw [trimmed]; simp [reads.ne_nil])
  rw [trimmed, List.nil_append] at bare
  obtain rfl := bare.left_nil beforeBlank
  rw [List.nil_append, List.nil_append] at trimmed
  have level : Level (after ++ literal) := (level_blanks afterBlank).append reads.level
  have single {c : Char} (one : trim s = c :: ([] ++ (after ++ literal))) :
      Clause.parse s = .error .unreadable :=
    Clause.parse_of_level one (List.forall_mem_nil _) level
  have double {c : Char} (bare : isBlank c = false) (two : trim s = c :: '=' :: (after ++ literal))
      (other : operator ≠ .mem) : Clause.parse s = .ok ⟨String.ofList [c], .eq, value⟩ :=
    Clause.parse_of_name bare two afterBlank ends other reads
  cases spelled with
  | sign known =>
    simp only [signOperators, List.mem_cons, List.not_mem_nil, or_false] at known
    rcases known with rfl | rfl | rfl | rfl | rfl
    · exact double (by decide) trimmed (by decide)
    · exact single trimmed
    · exact double (by decide) trimmed (by decide)
    · exact single trimmed
    · exact single trimmed
  | word known spelling =>
    rw [Clause.withoutName_ofWord]
    have plain := spelling.plain known
    cases spelling with
    | nil => exact absurd known (by decide)
    | cons =>
      exact Clause.parse_of_level trimmed
        (fun d member => (plain d (List.mem_cons_of_mem _ member)).2) level

end Nameless

/-- Both directions together: accepted texts have the form of a clause, and texts of that form are
accepted except where the name is missing or does not end where it should. -/
theorem Clause.parse_form (s : List Char) : Clause.Parsing s where
  accepted := fun clause run => by
    obtain ⟨bare, spelling, form⟩ := Clause.form_of_parse run
    exact ⟨bare, spelling, form, form.spelled.lower_eq, form.spelled.unknown_iff⟩
  signs := fun _ run => Clause.signs_of_parse run
  nameless := fun _ _ _ form => Clause.parse_nameless form

/-- An operator and a literal are accepted without a name, and what is taken for the name is a sign;
and with a dotted capital letter i an operator is accepted that is none of the seven. -/
theorem Clause.parse_signAsName :
    Clause.Form "<=3".toList [] "<=".toList .le (.int 3) ∧
      Clause.parse "<=3".toList = .ok ⟨"<", .eq, .int 3⟩ ∧ '<' ∈ "<".toList ∧
      Clause.parse "a l\u0130ke \"x\"".toList = .ok ⟨"a", .unknown "li\u0307ke", .text "x"⟩ ∧
      "li\u0307ke" ∉ ["<=", "<", ">=", ">", "=", "like", "in"] := by
  have three : Value.read (String.ofList ['3']) = .ok (.int 3) :=
    (JsonText.nat 3).read_eq (show (Nat.toDigits 10 3).length ≤ 4300 by decide)
  have form : Clause.Form "<=3".toList [] "<=".toList .le (.int 3) :=
    ⟨.sign (by decide), [], [], ['3'], by decide, List.forall_mem_nil _, List.forall_mem_nil _,
      bareEnds_singleton (by decide), .plain (by decide) three⟩
  exact ⟨form, Clause.parse_nameless form, by decide, by cbv, by decide⟩

end Parsing

end GuardedRecords
