import GuardedRecords.Proofs.FilterSplitting
import GuardedRecords.Proofs.JsonReading

namespace GuardedRecords

/-- Whether a clause compares a property of one word, without quotes and comparison signs, in a
known way with a plain value, which for `in` is an array. -/
structure Clause.Plain (clause : Clause) : Prop where
  named : clause.property.toList ≠ []
  word : ∀ c ∈ clause.property.toList, isBlank c = false ∧ c ∉ ['\'', '"', '<', '>', '=']
  known : ∀ name, clause.operator ≠ .unknown name
  value : clause.value.Plain
  list : clause.operator = .mem → ∃ items, clause.value = .array items

/-- The texts of a clause's literal: those of its value, and for `in` the items in parentheses. -/
def Clause.LiteralText (clause : Clause) (cs : List Char) : Prop :=
  match clause.operator with
  | .mem =>
    ∃ body, cs = '(' :: body ++ [')'] ∧ JsonText (.value clause.value) ('[' :: body ++ [']'])
  | _ => JsonText (.value clause.value) cs

/-- The texts of a clause, with one space on each side of the operator. -/
def Clause.Text (clause : Clause) (cs : List Char) : Prop :=
  ∃ literal, clause.LiteralText literal ∧
    cs = clause.property.toList ++ ' ' :: clause.operator.name.toList ++ ' ' :: literal

/-- The texts of clauses joined by one junction, whose name may be in any case each time. -/
inductive FilterText (j : Junction) : List Clause → List Char → Prop
  | last {clause : Clause} {cs : List Char} (text : clause.Text cs) : FilterText j [clause] cs
  | joined {clause : Clause} {clauses : List Clause} {cs word more : List Char}
      (text : clause.Text cs) (spelled : word.map Char.toLower = j.name.toList)
      (others : FilterText j clauses more) :
      FilterText j (clause :: clauses) (cs ++ ' ' :: word ++ ' ' :: more)

/-- For `in` the list stands in parentheses, but what is between them is what stands between the
brackets of a JSON array. -/
theorem Clause.literalText_mem {clause : Clause} (operator : clause.operator = .mem)
    {cs : List Char} : clause.LiteralText cs ↔
      ∃ body, cs = '(' :: body ++ [')'] ∧
        JsonText (.value clause.value) ('[' :: body ++ [']']) := by
  rw [Clause.LiteralText, operator]

theorem Clause.literalText_of_ne {clause : Clause} (operator : clause.operator ≠ .mem)
    {cs : List Char} : clause.LiteralText cs ↔ JsonText (.value clause.value) cs := by
  rw [Clause.LiteralText]
  split
  · next same => exact absurd same operator
  · rfl

theorem JsonText.bareEnds {part : JsonPart} {cs : List Char} (text : JsonText part cs) :
    BareEnds cs := by
  have enclosed {c d : Char} (opening : isBlank c = false) (closing : isBlank d = false)
      (body : List Char) : BareEnds (c :: body ++ [d]) :=
    (bareEnds_singleton opening).append (bareEnds_singleton closing) body
  have digits (n : Nat) : BareEnds (Nat.toDigits 10 n) := by
    have table : ∀ c ∈ decimalDigits, isBlank c = false := forall_mem_of_decide (by decide)
    exact bareEnds_of_forall Nat.toDigits_ne_nil fun c member =>
      table c (mem_decimalDigits_of_mem_toDigits member)
  induction text with
  | null => exact enclosed (c := 'n') (d := 'l') (by decide) (by decide) ['u', 'l']
  | yes => exact enclosed (c := 't') (d := 'e') (by decide) (by decide) ['r', 'u']
  | no => exact enclosed (c := 'f') (d := 'e') (by decide) (by decide) ['a', 'l', 's']
  | nat n => exact digits n
  | negative n => exact (bareEnds_singleton (by decide)).append (digits n) []
  | text => exact enclosed (by decide) (by decide) _
  | emptyArray => exact enclosed (by decide) (by decide) _
  | array => exact enclosed (by decide) (by decide) _
  | emptyObject => exact enclosed (by decide) (by decide) _
  | object => exact enclosed (by decide) (by decide) _
  | lastItem _ ih => exact ih
  | @item v vs cs before after more _ _ _ _ ihFirst ihOthers =>
    rw [List.append_assoc cs]
    exact ihFirst.append ihOthers (before ++ ',' :: after)
  | @named name v key before after cs _ _ _ _ ih =>
    exact (bareEnds_singleton (c := '"') (by decide)).append ih
      (key ++ '"' :: before ++ ':' :: after)
  | lastMember _ ih => exact ih
  | @nextMember name v ms cs before after more _ _ _ _ ihFirst ihOthers =>
    rw [List.append_assoc cs]
    exact ihFirst.append ihOthers (before ++ ',' :: after)

theorem Clause.Plain.bareEnds_property {clause : Clause} (plain : clause.Plain) :
    BareEnds clause.property.toList :=
  bareEnds_of_forall plain.named fun c member => (plain.word c member).1

theorem Clause.LiteralText.bareEnds {clause : Clause} {cs : List Char}
    (text : clause.LiteralText cs) : BareEnds cs := by
  by_cases operator : clause.operator = .mem
  · obtain ⟨body, rfl, -⟩ := (Clause.literalText_mem operator).mp text
    exact (bareEnds_singleton (by decide)).append (bareEnds_singleton (by decide)) body
  · exact ((Clause.literalText_of_ne operator).mp text).bareEnds

theorem Clause.Text.bareEnds {clause : Clause} {cs : List Char} (text : clause.Text cs)
    (plain : clause.Plain) : BareEnds cs := by
  obtain ⟨literal, written, rfl⟩ := text
  have shape : clause.property.toList ++ ' ' :: clause.operator.name.toList ++ ' ' :: literal =
      clause.property.toList ++ (' ' :: clause.operator.name.toList ++ [' ']) ++ literal := by simp
  rw [shape]
  exact plain.bareEnds_property.append written.bareEnds _

theorem FilterText.bareEnds {j : Junction} {clauses : List Clause} {cs : List Char}
    (text : FilterText j clauses cs) (plain : ∀ clause ∈ clauses, clause.Plain) : BareEnds cs := by
  induction text with
  | last text => exact text.bareEnds (plain _ List.mem_cons_self)
  | @joined clause clauses cs word more text _ _ ih =>
    have first := text.bareEnds (plain clause List.mem_cons_self)
    have others := ih fun other member => plain other (List.mem_cons_of_mem clause member)
    have shape : cs ++ ' ' :: word ++ ' ' :: more = cs ++ (' ' :: word ++ [' ']) ++ more := by simp
    rw [shape]
    exact first.append others _

/-- The literal of a clause is read as its value. -/
theorem Clause.LiteralText.readLiteral?_eq {clause : Clause} {cs : List Char}
    (text : clause.LiteralText cs) (plain : clause.Plain) :
    readLiteral? clause.operator cs = some clause.value := by
  by_cases operator : clause.operator = .mem
  · obtain ⟨body, rfl, list⟩ := (Clause.literalText_mem operator).mp text
    have inside : listBody? ('(' :: body ++ [')']) = some body := by simp [listBody?]
    have read := list.read_eq plain.value
    rw [operator]
    simp only [readLiteral?, inside, Option.map_some, Option.bind_some, read]
    rfl
  · have read := ((Clause.literalText_of_ne operator).mp text).read_eq plain.value
    rw [readLiteral?]
    · rw [Option.bind_some, read]
      rfl
    · exact operator

/-- An operator that is a word is found with a blank before and behind it; the one behind is dropped
with the others. -/
theorem operator?_like {c : Char} (bare : isBlank c = false) (rest : List Char) :
    operator? (' ' :: 'l' :: 'i' :: 'k' :: 'e' :: ' ' :: c :: rest) = some (.like, c :: rest) := by
  have spelled : FilterOperator.ofWord (lower (String.ofList ['l', 'i', 'k', 'e'])) = .like := by
    decide
  have word : wordOperator? "like".toList (' ' :: 'l' :: 'i' :: 'k' :: 'e' :: ' ' :: c :: rest) =
      some (.ofWord (lower (String.ofList ['l', 'i', 'k', 'e'])), trimLeft (c :: rest)) := rfl
  rw [spelled, trimLeft_cons bare] at word
  rw [operator?, word]
  · rfl
  all_goals simp

theorem operator?_in {c : Char} (bare : isBlank c = false) (rest : List Char) :
    operator? (' ' :: 'i' :: 'n' :: ' ' :: c :: rest) = some (.mem, c :: rest) := by
  have spelled : FilterOperator.ofWord (lower (String.ofList ['i', 'n'])) = .mem := by decide
  have otherWord : wordOperator? "like".toList (' ' :: 'i' :: 'n' :: ' ' :: c :: rest) = none := rfl
  have word : wordOperator? "in".toList (' ' :: 'i' :: 'n' :: ' ' :: c :: rest) =
      some (.ofWord (lower (String.ofList ['i', 'n'])), trimLeft (c :: rest)) := rfl
  rw [spelled, trimLeft_cons bare] at word
  rw [operator?, otherWord, word]
  · rfl
  all_goals simp

/-- Between spaces an operator is found, and the literal behind it. The space before a word belongs
to it and the one before a sign to the property, where it is trimmed. -/
theorem FilterOperator.findOperator?_eq {operator : FilterOperator}
    (known : ∀ name, operator ≠ .unknown name) {literal : List Char} (bare : BareEnds literal) :
    ∃ before after, findOperator? (' ' :: operator.name.toList ++ ' ' :: literal) =
        some (before, operator, after) ∧
      (∀ c ∈ before, isBlank c = true) ∧ trim after = literal := by
  have space : ∀ c ∈ [' '], isBlank c = true := forall_mem_of_decide (by decide)
  have spaced : trim (' ' :: literal) = literal := by
    have whole := trim_append space bare (List.forall_mem_nil _)
    rwa [List.append_nil] at whole
  have whole : trim literal = literal := trim_of_bareEnds bare
  cases operator with
  | le => exact ⟨[' '], ' ' :: literal, rfl, space, spaced⟩
  | lt => exact ⟨[' '], ' ' :: literal, rfl, space, spaced⟩
  | ge => exact ⟨[' '], ' ' :: literal, rfl, space, spaced⟩
  | gt => exact ⟨[' '], ' ' :: literal, rfl, space, spaced⟩
  | eq => exact ⟨[' '], ' ' :: literal, rfl, space, spaced⟩
  | like =>
    obtain ⟨c, rest, rfl, first⟩ := bare.first
    refine ⟨[], c :: rest, ?_, List.forall_mem_nil _, whole⟩
    show findOperator? (' ' :: 'l' :: 'i' :: 'k' :: 'e' :: ' ' :: c :: rest) = _
    rw [findOperator?, operator?_like first]
  | mem =>
    obtain ⟨c, rest, rfl, first⟩ := bare.first
    refine ⟨[], c :: rest, ?_, List.forall_mem_nil _, whole⟩
    show findOperator? (' ' :: 'i' :: 'n' :: ' ' :: c :: rest) = _
    rw [findOperator?, operator?_in first]
  | unknown name => exact absurd rfl (known name)

/-- A text of a clause is read as that clause: the property up to the operator, and the value from
any of the texts of its literal. -/
theorem Clause.Text.parse_eq {clause : Clause} {cs : List Char} (text : clause.Text cs)
    (plain : clause.Plain) : Clause.parse cs = .ok clause := by
  have whole : trim cs = cs := trim_of_bareEnds (text.bareEnds plain)
  obtain ⟨literal, written, rfl⟩ := text
  obtain ⟨before, after, found, blank, trimmed⟩ :=
    FilterOperator.findOperator?_eq plain.known written.bareEnds
  have read := written.readLiteral?_eq plain
  have property : trim (clause.property.toList ++ before) = clause.property.toList :=
    trim_append (List.forall_mem_nil _) plain.bareEnds_property blank
  rw [List.append_assoc] at whole ⊢
  generalize ' ' :: clause.operator.name.toList ++ ' ' :: literal = tail at found whole ⊢
  obtain ⟨c, rest, front⟩ := List.exists_cons_of_ne_nil plain.named
  have reached : findOperator? (rest ++ tail) = some (rest ++ before, clause.operator, after) := by
    have word : ∀ d ∈ rest, isBlank d = false ∧ d ∉ comparisonSigns := fun d member =>
      (plain.word d (front ▸ List.mem_cons_of_mem c member)).imp_right fun apart sign =>
        apart (List.mem_cons_of_mem _ (List.mem_cons_of_mem _ sign))
    rw [findOperator?_append word, found]
    rfl
  have name : String.ofList (c :: rest) = clause.property := by rw [← front, String.ofList_toList]
  rw [front, List.cons_append] at whole property
  rw [front, List.cons_append, Clause.parse, whole]
  simp only [reached, trimmed, read, property, name]

theorem JsonText.array_body {items : List Value} {body : List Char}
    (text : JsonText (.value (.array items)) ('[' :: body ++ [']'])) :
    JsonBlanks body ∨ ∃ before cs after, JsonBlanks before ∧ JsonText (.items items) cs ∧
      JsonBlanks after ∧ body = before ++ cs ++ after := by
  generalize whole : '[' :: body ++ [']'] = written at text
  cases text with
  | @emptyArray blanks blank =>
    have same : '[' :: body = '[' :: blanks := List.append_cancel_right whole
    obtain rfl : body = blanks := (List.cons.inj same).2
    exact .inl blank
  | @array _ before cs after left inner right =>
    have same : '[' :: body = '[' :: (before ++ cs ++ after) := List.append_cancel_right whole
    obtain rfl : body = before ++ cs ++ after := (List.cons.inj same).2
    exact .inr ⟨before, cs, after, left, inner, right, rfl⟩

theorem Clause.LiteralText.opens {clause : Clause} {cs : List Char}
    (text : clause.LiteralText cs) : ∃ c rest, cs = c :: rest ∧
      isBlank c = false ∧ c.toLower ≠ 'a' ∧ c.toLower ≠ 'o' := by
  by_cases operator : clause.operator = .mem
  · obtain ⟨body, rfl, -⟩ := (Clause.literalText_mem operator).mp text
    exact ⟨'(', _, rfl, by decide⟩
  · obtain ⟨c, rest, rfl, opens⟩ := ((Clause.literalText_of_ne operator).mp text).opens
    exact ⟨c, rest, rfl, apart_of_mem_jsonOpenings opens⟩

/-- Within a literal no clause ends: blanks and separators in it are inside quotes or apart from any
junction. -/
theorem Clause.LiteralText.unsplit {clause : Clause} {cs : List Char}
    (text : clause.LiteralText cs) (plain : clause.Plain) : Unsplit cs := by
  by_cases operator : clause.operator = .mem
  · obtain ⟨body, rfl, list⟩ := (Clause.literalText_mem operator).mp text
    obtain ⟨items, array⟩ := plain.list operator
    rw [array] at list
    rcases list.array_body with blank | ⟨before, cs, after, left, inner, right, rfl⟩
    · exact (unsplit_mark (by decide)).append (blank.unsplit_mark (by decide))
    · have shape : '(' :: (before ++ cs ++ after) ++ [')'] =
          [] ++ '(' :: before ++ cs ++ (after ++ [')']) := by simp
      rw [shape]
      exact (inner.unsplit_behind inner.unsplit jsonBlanks_nil left (by decide)).append
        (right.unsplit_mark (by decide))
  · exact ((Clause.literalText_of_ne operator).mp text).unsplit

theorem FilterOperator.unsplit_name {operator : FilterOperator}
    (known : ∀ name, operator ≠ .unknown name) : Unsplit (' ' :: operator.name.toList) := by
  have spaced {c : Char} {cs : List Char}
      (bare : ∀ d ∈ c :: cs, isBlank d = false ∧ d ≠ '\'' ∧ d ≠ '"')
      (apart : c.toLower ≠ 'a' ∧ c.toLower ≠ 'o') : Unsplit ([' '] ++ c :: cs) :=
    (unsplit_of_bare bare).after_blanks (forall_mem_of_decide (by decide)) (bare c List.mem_cons_self).1 apart
  cases operator with
  | le => exact spaced (c := '<') (forall_mem_of_decide (by decide)) (by decide)
  | lt => exact spaced (c := '<') (forall_mem_of_decide (by decide)) (by decide)
  | ge => exact spaced (c := '>') (forall_mem_of_decide (by decide)) (by decide)
  | gt => exact spaced (c := '>') (forall_mem_of_decide (by decide)) (by decide)
  | eq => exact spaced (c := '=') (forall_mem_of_decide (by decide)) (by decide)
  | like => exact spaced (c := 'l') (forall_mem_of_decide (by decide)) (by decide)
  | mem => exact spaced (c := 'i') (forall_mem_of_decide (by decide)) (by decide)
  | unknown name => exact absurd rfl (known name)

/-- No part of a clause ends it early, so that the splitter gives back the clauses that were
joined. -/
theorem Clause.Text.unsplit {clause : Clause} {cs : List Char} (text : clause.Text cs)
    (plain : clause.Plain) : Unsplit cs := by
  obtain ⟨literal, written, rfl⟩ := text
  obtain ⟨c, rest, rfl, bare, apart⟩ := written.opens
  have space : ∀ b ∈ [' '], isBlank b = true := forall_mem_of_decide (by decide)
  have property : Unsplit clause.property.toList := by
    refine unsplit_of_bare fun c member => ?_
    obtain ⟨notBlank, notSign⟩ := plain.word c member
    simp only [List.mem_cons, not_or] at notSign
    exact ⟨notBlank, notSign.1, notSign.2.1⟩
  have literal : Unsplit (' ' :: c :: rest) := (written.unsplit plain).after_blanks space bare apart
  exact (property.append (FilterOperator.unsplit_name plain.known)).append literal

theorem afterWord?_append {letters word : List Char} (spelled : word.map Char.toLower = letters)
    (rest : List Char) : afterWord? letters (word ++ rest) = some (word, rest) := by
  induction word generalizing letters with
  | nil => subst spelled; rfl
  | cons c word ih =>
    subst spelled
    simp [afterWord?, isCaseOf, ih]

/-- A junction between spaces, in any case, is taken with both of them. -/
theorem junction?_spelled {j : Junction} {word : List Char}
    (spelled : word.map Char.toLower = j.name.toList) {c : Char} (bare : isBlank c = false)
    (rest : List Char) : junction? (' ' :: (word ++ ' ' :: c :: rest)) = some (j, c :: rest) := by
  have table : ∀ n < 128, (Char.ofNat n).toLower = 'a' ∨ (Char.ofNat n).toLower = 'o' →
      isBlank (Char.ofNat n) = false := by decide +kernel
  have letter {w : Char} (lower : w.toLower = 'a' ∨ w.toLower = 'o') : isBlank w = false := by
    have ascii : w.toLower.toNat < 128 := by rcases lower with same | same <;> rw [same] <;> decide
    have bare := table w.toNat (ascii_of_toLower ascii)
    rw [Char.ofNat_toNat] at bare
    exact bare lower
  have initial : ∃ l more, j.name.toList = l :: more ∧ (l = 'a' ∨ l = 'o') := by
    cases j with
    | and => exact ⟨'a', ['n', 'd'], rfl, .inl rfl⟩
    | or => exact ⟨'o', ['r'], rfl, .inr rfl⟩
  obtain ⟨l, more, name, initial⟩ := initial
  obtain ⟨w, word, rfl, rfl, -⟩ := List.map_eq_cons_iff.mp (spelled.trans name)
  have space : ∀ b ∈ [' '], isBlank b = true := forall_mem_of_decide (by decide)
  have blank : isBlank ' ' = true := by decide
  have skipped : trimLeft (' ' :: w :: (word ++ ' ' :: c :: rest)) = w :: (word ++ ' ' :: c :: rest) :=
    trimLeft_append space (letter initial) (word ++ ' ' :: c :: rest)
  have trimmed : trimLeft (c :: rest) = c :: rest := trimLeft_cons bare rest
  have taken : afterWord? j.name.toList (w :: (word ++ ' ' :: c :: rest)) =
      some (w :: word, ' ' :: c :: rest) := afterWord?_append spelled _
  rw [List.cons_append]
  cases j with
  | and =>
    rw [Junction.name] at taken
    simp only [junction?, blank, if_true, skipped, taken, trimmed]
  | or =>
    rw [Junction.name] at taken name
    have different : w.toLower ≠ 'a' := by
      rw [← (List.cons.inj name).1]
      decide
    have notAnd : afterWord? "and".toList (w :: (word ++ ' ' :: c :: rest)) = none :=
      afterWord?_of_ne different (by decide) _ _
    simp only [junction?, blank, if_true, skipped, notAnd, taken, trimmed, Option.map_some]

theorem FilterText.ne_nil {j : Junction} {clauses : List Clause} {cs : List Char}
    (text : FilterText j clauses cs) : clauses ≠ [] := by
  cases text <;> exact List.cons_ne_nil _ _

/-- Joined clauses are split where they are joined, and each piece is read as its clause. No clause
has a junction of its own outside quotes. -/
theorem FilterText.split {j : Junction} {clauses : List Clause} {cs : List Char}
    (text : FilterText j clauses cs) (plain : ∀ clause ∈ clauses, clause.Plain) :
    (splitClauses none cs).more.map Prod.fst = List.replicate (clauses.length - 1) j ∧
      ((splitClauses none cs).first :: (splitClauses none cs).more.map Prod.snd).mapM Clause.parse =
        .ok clauses := by
  induction text with
  | @last clause cs text =>
    have first := plain clause List.mem_cons_self
    have whole : splitClauses none cs = ⟨cs, []⟩ := by
      have split := text.unsplit first []
      rwa [List.append_nil, splitClauses_nil, Splitting.after, List.append_nil] at split
    rw [whole]
    refine ⟨rfl, ?_⟩
    simp only [List.map_nil, List.mapM_cons, List.mapM_nil, text.parse_eq first]
    rfl
  | @joined clause clauses cs word more text spelled others ih =>
    have first := plain clause List.mem_cons_self
    have later : ∀ other ∈ clauses, other.Plain := fun other member =>
      plain other (List.mem_cons_of_mem clause member)
    obtain ⟨junctions, read⟩ := ih later
    have whole : splitClauses none (cs ++ ' ' :: word ++ ' ' :: more) =
        ⟨cs, (j, (splitClauses none more).first) :: (splitClauses none more).more⟩ := by
      obtain ⟨c, rest, rfl, bare⟩ := (others.bareEnds later).first
      rw [List.append_assoc, text.unsplit first, List.cons_append,
        splitClauses_junction (by decide) (junction?_spelled spelled bare rest), Splitting.after,
        List.append_nil]
    have count : (clause :: clauses).length - 1 = clauses.length - 1 + 1 := by
      have positive := List.length_pos_iff.mpr others.ne_nil
      rw [List.length_cons]
      omega
    rw [whole]
    constructor
    · rw [List.map_cons, junctions, count, List.replicate_succ]
    · simp only [List.map_cons, List.mapM_cons, text.parse_eq first, ok_bind]
      rw [← List.mapM_cons, read]
      rfl

theorem Clause.Plain.exists_text {clause : Clause} (plain : clause.Plain) :
    ∃ cs, clause.Text cs := by
  have written := plain.value.jsonText_write
  suffices literal : ∃ literal, clause.LiteralText literal by
    obtain ⟨literal, text⟩ := literal
    exact ⟨_, literal, text, rfl⟩
  by_cases operator : clause.operator = .mem
  · obtain ⟨items, array⟩ := plain.list operator
    have enclosed : ∃ body, clause.value.write = '[' :: body ++ [']'] := by
      rw [array]
      cases items with
      | nil => exact ⟨[], rfl⟩
      | cons v rest => exact ⟨v.write ++ writeMoreItems .compact rest, rfl⟩
    obtain ⟨body, shape⟩ := enclosed
    exact ⟨_, (Clause.literalText_mem operator).mpr ⟨body, rfl, shape ▸ written⟩⟩
  · exact ⟨_, (Clause.literalText_of_ne operator).mpr written⟩

/-- Every list of plain clauses can be written, so the theorem on reading them back is about all of
them. -/
theorem exists_filterText (j : Junction) {clauses : List Clause} (nonempty : clauses ≠ [])
    (plain : ∀ clause ∈ clauses, clause.Plain) : ∃ cs, FilterText j clauses cs := by
  have spelled : j.name.toList.map Char.toLower = j.name.toList := by cases j <;> decide
  induction clauses with
  | nil => exact absurd rfl nonempty
  | cons clause clauses ih =>
    obtain ⟨cs, text⟩ := (plain clause List.mem_cons_self).exists_text
    cases clauses with
    | nil => exact ⟨cs, .last text⟩
    | cons next rest =>
      obtain ⟨more, others⟩ := ih (List.cons_ne_nil next rest) fun other member =>
        plain other (List.mem_cons_of_mem clause member)
      exact ⟨_, .joined text spelled others⟩

/-- Clauses that are joined in writing have texts, and from every one of these they are read back,
in their order and with their junction, whatever their values contain. -/
theorem Filter.parse_text (j : Junction) {clauses : List Clause} (nonempty : clauses ≠ [])
    (plain : ∀ clause ∈ clauses, clause.Plain) :
    (∃ text : String, FilterText j clauses text.toList) ∧
      ∀ text : String, FilterText j clauses text.toList →
        Filter.parse text = .ok ⟨clauses, if clauses.length = 1 then .and else j⟩ := by
  constructor
  · obtain ⟨cs, written⟩ := exists_filterText j nonempty plain
    exact ⟨String.ofList cs, by rwa [String.toList_ofList]⟩
  · intro text written
    have bare := written.bareEnds plain
    have whole : trim text.toList = text.toList := trim_of_bareEnds bare
    obtain ⟨junctions, read⟩ := written.split plain
    obtain ⟨c, rest, front, -⟩ := bare.first
    have unmixed (n : Nat) : ((List.replicate n j).contains .and &&
        (List.replicate n j).contains .or) = false := by
      cases j <;> simp
    have junction : (List.replicate (clauses.length - 1) j).headD .and =
        if clauses.length = 1 then .and else j := by
      match clauses, nonempty with
      | [clause], _ => rfl
      | clause :: next :: rest, _ => rfl
    rw [Filter.parse, whole]
    rw [front] at junctions read ⊢
    simp only [junctions, unmixed, read, junction, ok_bind]
    rfl

/-- Two clauses whose texts are full of what looks like the syntax of a filter. -/
def spicedClauses : List Clause :=
  [⟨"title", .eq, .text "salt AND \"pepper\" or 'x'"⟩,
    ⟨"tags", .mem, .array [.int (-7), .array [], .text "😀)"]⟩]

def spicedText : String :=
  "title = \"salt AND \\\"pepper\\\" or 'x'\" oR tags in (-7, [ ], \"\\uD83D\\ude00)\")"

/-- Quotes, junctions and brackets inside of texts, an escape by two surrogates, and a junction in
mixed case are all read for what they are. -/
theorem Filter.parse_text_spiced :
    (∀ clause ∈ spicedClauses, clause.Plain) ∧ FilterText .or spicedClauses spicedText.toList ∧
      Filter.parse spicedText = .ok ⟨spicedClauses, .or⟩ := by
  have plain : ∀ clause ∈ spicedClauses, clause.Plain := by
    have short : (Nat.toDigits 10 7).length ≤ 4300 := by decide
    have list : Value.Plain (.array [.int (-7), .array [], .text "😀)"]) := by
      simpa [Value.Plain, itemsPlain] using short
    simp only [spicedClauses, List.forall_mem_cons, List.not_mem_nil, false_implies, implies_true,
      and_true]
    constructor
    · exact ⟨by decide, forall_mem_of_decide (by decide), by simp, by simp [Value.Plain], by simp⟩
    · exact ⟨by decide, forall_mem_of_decide (by decide), by simp, list, fun _ => ⟨_, rfl⟩⟩
  have title : Clause.Text ⟨"title", .eq, .text "salt AND \"pepper\" or 'x'"⟩
      "title = \"salt AND \\\"pepper\\\" or 'x'\"".toList :=
    ⟨_, .text (WrittenText.of_writeChar _), rfl⟩
  have high : SpellsCode (0xD800 + ('😀'.toNat - 0x10000) / 0x400) ['D', '8', '3', 'D'] := by
    unfold SpellsCode
    decide
  have low : SpellsCode (0xDC00 + ('😀'.toNat - 0x10000) % 0x400) ['d', 'e', '0', '0'] := by
    unfold SpellsCode
    decide
  have smile : WrittenChar '😀'
      ('\\' :: 'u' :: ['D', '8', '3', 'D'] ++ '\\' :: 'u' :: ['d', 'e', '0', '0']) :=
    .surrogates (by decide) high low
  have mark : WrittenChar ')' [')'] := .plain (by decide) (by decide) (by decide)
  have face : WrittenText "😀)".toList "\\uD83D\\ude00)".toList := .cons smile (.cons mark .nil)
  have blank : JsonBlanks [' '] := by simp [JsonBlanks, isJsonBlank]
  have items : JsonText (.items [.int (-7), .array [], .text "😀)"])
      "-7, [ ], \"\\uD83D\\ude00)\"".toList :=
    .item (.negative 7) jsonBlanks_nil blank
      (.item (.emptyArray blank) jsonBlanks_nil blank (.lastItem (.text face)))
  have tags : Clause.Text ⟨"tags", .mem, .array [.int (-7), .array [], .text "😀)"]⟩
      "tags in (-7, [ ], \"\\uD83D\\ude00)\")".toList :=
    ⟨_, ⟨_, rfl, .array jsonBlanks_nil items jsonBlanks_nil⟩, rfl⟩
  have either : ['o', 'R'].map Char.toLower = Junction.or.name.toList := by decide
  have joined := FilterText.joined title either (.last tags)
  have written : FilterText .or spicedClauses spicedText.toList := joined
  exact ⟨plain, written, (Filter.parse_text .or (List.cons_ne_nil _ _) plain).2 _ written⟩

end GuardedRecords
