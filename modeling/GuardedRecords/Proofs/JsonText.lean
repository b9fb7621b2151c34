import GuardedRecords.Json.Reader
import GuardedRecords.Json.Writer

namespace GuardedRecords

/-- What stands for a character when it is written as one letter behind a backslash. -/
def escapeLetters : List (Char × Char) :=
  [('"', '"'), ('\\', '\\'), ('/', '/'), ('b', '\x08'), ('f', '\x0c'), ('n', '\n'), ('r', '\r'),
    ('t', '\t')]

/-- Four hexadecimal digits, in letters of either case, that give a number. -/
def SpellsCode (n : Nat) (digits : List Char) : Prop := digits.map Char.toLower = hexDigits 4 n

/-- The ways to write one character inside double quotes: as it is, with a letter behind a
backslash, by its code point, or by two surrogates where the code point has more than four
digits. -/
inductive WrittenChar : Char → List Char → Prop
  | plain {c : Char} (notQuote : c ≠ '"') (notEscape : c ≠ '\\') (visible : 0x20 ≤ c.toNat) :
      WrittenChar c [c]
  | short {letter c : Char} (known : (letter, c) ∈ escapeLetters) : WrittenChar c ['\\', letter]
  | code {c : Char} {digits : List Char} (narrow : c.toNat < 0x10000)
      (spelled : SpellsCode c.toNat digits) : WrittenChar c ('\\' :: 'u' :: digits)
  | surrogates {c : Char} {high low : List Char} (wide : 0x10000 ≤ c.toNat)
      (first : SpellsCode (0xD800 + (c.toNat - 0x10000) / 0x400) high)
      (second : SpellsCode (0xDC00 + (c.toNat - 0x10000) % 0x400) low) :
      WrittenChar c ('\\' :: 'u' :: high ++ '\\' :: 'u' :: low)

/-- What may stand between double quotes for a text. -/
inductive WrittenText : List Char → List Char → Prop
  | nil : WrittenText [] []
  | cons {c : Char} {written text more : List Char} (first : WrittenChar c written)
      (others : WrittenText text more) : WrittenText (c :: text) (written ++ more)

def JsonBlanks (cs : List Char) : Prop := ∀ c ∈ cs, isJsonBlank c = true

/-- What a part of a JSON text stands for: a value, the items of an array, one member of an object
or all of them. -/
inductive JsonPart
  | value (v : Value)
  | items (vs : List Value)
  | member (name : String) (v : Value)
  | members (ms : List (String × Value))

/-- The JSON texts of a part, with any blanks between their tokens but none around them. The items
and the members are those of a container that is not empty; binary64 numbers are left out. -/
inductive JsonText : JsonPart → List Char → Prop
  | null : JsonText (.value .null) "null".toList
  | yes : JsonText (.value (.bool true)) "true".toList
  | no : JsonText (.value (.bool false)) "false".toList
  | nat (n : Nat) : JsonText (.value (.int n)) (Nat.toDigits 10 n)
  | negative (n : Nat) : JsonText (.value (.int (-n))) ('-' :: Nat.toDigits 10 n)
  | text {s : String} {body : List Char} (written : WrittenText s.toList body) :
      JsonText (.value (.text s)) ('"' :: body ++ ['"'])
  | emptyArray {blanks : List Char} (between : JsonBlanks blanks) :
      JsonText (.value (.array [])) ('[' :: blanks ++ [']'])
  | array {vs : List Value} {before cs after : List Char} (left : JsonBlanks before)
      (inner : JsonText (.items vs) cs) (right : JsonBlanks after) :
      JsonText (.value (.array vs)) ('[' :: before ++ cs ++ after ++ [']'])
  | emptyObject {blanks : List Char} (between : JsonBlanks blanks) :
      JsonText (.value (.object [])) ('{' :: blanks ++ ['}'])
  | object {ms : List (String × Value)} {before cs after : List Char} (left : JsonBlanks before)
      (inner : JsonText (.members ms) cs) (right : JsonBlanks after) :
      JsonText (.value (.object ms)) ('{' :: before ++ cs ++ after ++ ['}'])
  | lastItem {v : Value} {cs : List Char} (only : JsonText (.value v) cs) :
      JsonText (.items [v]) cs
  | item {v : Value} {vs : List Value} {cs before after more : List Char}
      (first : JsonText (.value v) cs) (left : JsonBlanks before) (right : JsonBlanks after)
      (others : JsonText (.items vs) more) :
      JsonText (.items (v :: vs)) (cs ++ before ++ ',' :: after ++ more)
  | named {name : String} {v : Value} {key before after cs : List Char}
      (written : WrittenText name.toList key) (left : JsonBlanks before) (right : JsonBlanks after)
      (entry : JsonText (.value v) cs) :
      JsonText (.member name v) ('"' :: key ++ '"' :: before ++ ':' :: after ++ cs)
  | lastMember {name : String} {v : Value} {cs : List Char} (only : JsonText (.member name v) cs) :
      JsonText (.members [(name, v)]) cs
  | nextMember {name : String} {v : Value} {ms : List (String × Value)}
      {cs before after more : List Char} (first : JsonText (.member name v) cs)
      (left : JsonBlanks before) (right : JsonBlanks after) (others : JsonText (.members ms) more) :
      JsonText (.members ((name, v) :: ms)) (cs ++ before ++ ',' :: after ++ more)

mutual

/-- Whether a value is made of nulls, truth values, integers of at most 4300 digits, texts, arrays,
and objects without repeated names. -/
def Value.Plain : Value → Prop
  | .int n => (Nat.toDigits 10 n.natAbs).length ≤ 4300
  | .double _ => False
  | .array items => itemsPlain items
  | .object members => (Table.names members).Nodup ∧ membersPlain members
  | _ => True
termination_by structural v => v

def itemsPlain : List Value → Prop
  | [] => True
  | v :: rest => v.Plain ∧ itemsPlain rest
termination_by structural vs => vs

def membersPlain : List (String × Value) → Prop
  | [] => True
  | (_, v) :: rest => v.Plain ∧ membersPlain rest
termination_by structural ms => ms

end

theorem itemsPlain_iff {vs : List Value} : itemsPlain vs ↔ ∀ v ∈ vs, v.Plain := by
  induction vs with
  | nil => simp [itemsPlain]
  | cons v rest ih => simp [itemsPlain, ih]

theorem membersPlain_iff {ms : List (String × Value)} :
    membersPlain ms ↔ ∀ member ∈ ms, member.2.Plain := by
  induction ms with
  | nil => simp [membersPlain]
  | cons member rest ih => simp [membersPlain, ih]

/-- Decides a property of the characters of a list one by one. To decide the quantifier itself may
mean to go through all characters. -/
theorem forall_mem_of_decide {p : Char → Prop} [DecidablePred p] {cs : List Char}
    (each : (cs.all fun c => decide (p c)) = true) : ∀ c ∈ cs, p c := by
  intro c member
  exact of_decide_eq_true (List.all_eq_true.mp each c member)

def decimalDigits : List Char := ['0', '1', '2', '3', '4', '5', '6', '7', '8', '9']

/-- The digits of a natural number are among the ten digits, so its text consists of characters that
the reader takes for digits. -/
theorem mem_decimalDigits_of_mem_toDigits {n : Nat} {c : Char} (member : c ∈ Nat.toDigits 10 n) :
    c ∈ decimalDigits := by
  have digit : c.isDigit = true := Nat.isDigit_of_mem_toDigits (by decide) (by decide) member
  have table : ∀ n < 58, 48 ≤ n → Char.ofNat n ∈ decimalDigits := by decide
  obtain ⟨low, high⟩ : 48 ≤ c.toNat ∧ c.toNat ≤ 57 := Char.isDigit_iff_toNat.mp digit
  have listed := table c.toNat (by omega) low
  rwa [Char.ofNat_toNat] at listed

theorem exists_toDigits_eq_cons (n : Nat) :
    ∃ c rest, Nat.toDigits 10 n = c :: rest ∧ c ∈ decimalDigits := by
  have nonempty : Nat.toDigits 10 n ≠ [] := Nat.toDigits_ne_nil
  obtain ⟨c, rest, front⟩ := List.exists_cons_of_ne_nil nonempty
  have member : c ∈ Nat.toDigits 10 n := front ▸ List.mem_cons_self
  exact ⟨c, rest, front, mem_decimalDigits_of_mem_toDigits member⟩

/-- The characters that the text of a value, or of a member, may begin with. -/
def jsonOpenings : List Char := ['"', '[', '{', '-', 'n', 't', 'f'] ++ decimalDigits

/-- The text of a part is never empty, and it begins with a character that opens a value or a name.
A reader can therefore tell a first entry from a closing bracket. -/
theorem JsonText.opens {part : JsonPart} {cs : List Char} (text : JsonText part cs) :
    ∃ c rest, cs = c :: rest ∧ c ∈ jsonOpenings := by
  induction text with
  | null => exact ⟨_, _, rfl, by decide⟩
  | yes => exact ⟨_, _, rfl, by decide⟩
  | no => exact ⟨_, _, rfl, by decide⟩
  | nat n =>
    obtain ⟨c, rest, front, digit⟩ := exists_toDigits_eq_cons n
    exact ⟨c, rest, front, List.mem_append_right _ digit⟩
  | negative => exact ⟨_, _, rfl, by decide⟩
  | text => exact ⟨_, _, rfl, by decide⟩
  | emptyArray => exact ⟨_, _, rfl, by decide⟩
  | array => exact ⟨_, _, rfl, by decide⟩
  | emptyObject => exact ⟨_, _, rfl, by decide⟩
  | object => exact ⟨_, _, rfl, by decide⟩
  | named => exact ⟨_, _, rfl, by decide⟩
  | lastItem _ ih => exact ih
  | lastMember _ ih => exact ih
  | item _ _ _ _ ih =>
    obtain ⟨c, rest, rfl, opens⟩ := ih
    exact ⟨c, _, rfl, opens⟩
  | nextMember _ _ _ _ ih =>
    obtain ⟨c, rest, rfl, opens⟩ := ih
    exact ⟨c, _, rfl, opens⟩

theorem jsonBlanks_nil : JsonBlanks [] := List.forall_mem_nil _

/-- A character as it is written here is one of the ways to write it, which all readers of the
format understand. -/
theorem WrittenChar.of_writeChar (c : Char) : WrittenChar c (writeChar c) := by
  unfold writeChar
  split
  · next same => subst same; exact .short (by decide)
  split
  · next same => subst same; exact .short (by decide)
  split
  · next same => subst same; exact .short (by decide)
  split
  · next same => subst same; exact .short (by decide)
  split
  · next same => subst same; exact .short (by decide)
  split
  · next control =>
    have small : ∀ n < 0x20, (hexDigits 4 n).map Char.toLower = hexDigits 4 n := by decide
    exact .code (by omega) (small _ control)
  · next notQuote notEscape _ _ _ visible => exact .plain notQuote notEscape (by omega)

/-- The decimal text of an integer is a text of that integer, with its sign in front where it is
negative. -/
theorem JsonText.of_int (n : Int) : JsonText (.value (.int n)) (toString n).toList := by
  cases n with
  | ofNat n =>
    have written : (toString (Int.ofNat n)).toList = Nat.toDigits 10 n := Nat.toList_repr
    rw [written]
    exact .nat n
  | negSucc n =>
    have written : (toString (Int.negSucc n)).toList = '-' :: Nat.toDigits 10 (n + 1) := by
      rw [← Nat.toList_repr]
      exact String.toList_append
    rw [written]
    exact .negative (n + 1)

/-- A style that writes every character in one of the ways to write it, and nothing but blanks
between tokens. -/
structure JsonStyle.Faithful (style : JsonStyle) : Prop where
  char : ∀ c, WrittenChar c (style.char c)
  gap : JsonBlanks style.gap

theorem JsonStyle.faithful_compact : JsonStyle.compact.Faithful :=
  ⟨WrittenChar.of_writeChar, jsonBlanks_nil⟩

section Styles

variable {style : JsonStyle} (faithful : style.Faithful)

include faithful

/-- A text is written character by character in a faithful style, so what stands between the quotes
is one of its spellings. -/
theorem JsonStyle.Faithful.writtenText (cs : List Char) :
    WrittenText cs (cs.flatMap style.char) := by
  induction cs with
  | nil => exact .nil
  | cons c rest ih => exact .cons (faithful.char c) ih

theorem JsonText.of_writeText (name : String) {v : Value} {cs : List Char}
    (entry : JsonText (.value v) cs) :
    JsonText (.member name v) (writeText style name ++ ':' :: style.gap ++ cs) := by
  have text := JsonText.named (faithful.writtenText name.toList) jsonBlanks_nil faithful.gap entry
  simpa [writeText] using text

mutual

/-- What is written for a plain value in a faithful style is a text of it. -/
theorem Value.Plain.jsonText_writeIn {v : Value} (plain : v.Plain) :
    JsonText (.value v) (v.writeIn style) := by
  match v with
  | .null => rw [Value.writeIn]; exact .null
  | .bool true => rw [Value.writeIn]; exact .yes
  | .bool false => rw [Value.writeIn]; exact .no
  | .int n => rw [Value.writeIn]; exact .of_int n
  | .text s => rw [Value.writeIn]; exact .text (faithful.writtenText s.toList)
  | .array [] => rw [Value.writeIn]; exact .emptyArray jsonBlanks_nil
  | .array (v :: rest) =>
    rw [Value.Plain, itemsPlain] at plain
    have inner := jsonText_writeMoreItems plain.2 plain.1.jsonText_writeIn
    rw [Value.writeIn]
    simpa using JsonText.array jsonBlanks_nil inner jsonBlanks_nil
  | .object [] => rw [Value.writeIn]; exact .emptyObject jsonBlanks_nil
  | .object ((name, v) :: rest) =>
    rw [Value.Plain, membersPlain] at plain
    have first := JsonText.of_writeText faithful name plain.2.1.jsonText_writeIn
    have inner := jsonText_writeMoreMembers plain.2.2 first
    rw [Value.writeIn]
    simpa using JsonText.object jsonBlanks_nil inner jsonBlanks_nil
termination_by structural v

/-- What is written behind a first item completes the text of all of them. The first one is taken
apart because it has no comma before it. -/
theorem jsonText_writeMoreItems {rest : List Value} (plain : itemsPlain rest) {v : Value}
    {cs : List Char} (first : JsonText (.value v) cs) :
    JsonText (.items (v :: rest)) (cs ++ writeMoreItems style rest) := by
  match rest with
  | [] =>
    rw [writeMoreItems, List.append_nil]
    exact .lastItem first
  | next :: rest =>
    rw [itemsPlain] at plain
    have others := jsonText_writeMoreItems plain.2 plain.1.jsonText_writeIn
    rw [writeMoreItems]
    simpa using JsonText.item first jsonBlanks_nil faithful.gap others
termination_by structural rest

/-- What is written behind a first member completes the text of all of them, with a comma before
each. -/
theorem jsonText_writeMoreMembers {rest : List (String × Value)} (plain : membersPlain rest)
    {name : String} {v : Value} {cs : List Char} (first : JsonText (.member name v) cs) :
    JsonText (.members ((name, v) :: rest)) (cs ++ writeMoreMembers style rest) := by
  match rest with
  | [] =>
    rw [writeMoreMembers, List.append_nil]
    exact .lastMember first
  | (nextName, next) :: rest =>
    rw [membersPlain] at plain
    have second := JsonText.of_writeText faithful nextName plain.1.jsonText_writeIn
    have others := jsonText_writeMoreMembers plain.2 second
    rw [writeMoreMembers]
    simpa using JsonText.nextMember first jsonBlanks_nil faithful.gap others
termination_by structural rest

end

end Styles

theorem WrittenText.of_writeChar (cs : List Char) : WrittenText cs (cs.flatMap writeChar) :=
  JsonStyle.faithful_compact.writtenText cs

/-- What the writer writes for a plain value is a text of it. -/
theorem Value.Plain.jsonText_write {v : Value} (plain : v.Plain) : JsonText (.value v) v.write :=
  plain.jsonText_writeIn JsonStyle.faithful_compact

end GuardedRecords
