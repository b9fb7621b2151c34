import Mathlib.Data.List.TakeWhile
import GuardedRecords.Proofs.JsonNumbers
import GuardedRecords.Proofs.RuleText

namespace GuardedRecords

/-- What follows a lexeme ends it, or goes on with the same character as what followed it before,
if that is no point. -/
def FollowsAlike (after rest : List Char) : Prop :=
  EndsLexeme rest ∨ rest.head? = after.head? ∧ rest.head? ≠ some '.'

section Follows

variable {after rest : List Char}

/-- A property of the next character is kept when other things follow in the same way, if it also
holds of all that ends a lexeme. -/
theorem FollowsAlike.head {p : Char → Prop} (alike : FollowsAlike after rest)
    (stops : ∀ c ∈ after.head?, p c) (ends : EndsLexeme rest → ∀ c ∈ rest.head?, p c) :
    ∀ c ∈ rest.head?, p c := by
  rcases alike with apart | ⟨same, -⟩
  · exact ends apart
  · rw [same]
    exact stops

theorem FollowsAlike.no_point (alike : FollowsAlike after rest) : rest.head? ≠ some '.' := by
  rcases alike with apart | ⟨-, noPoint⟩
  · intro point
    have inside : isNameChar '.' = true := by simp [isNameChar]
    rw [apart.not_nameChar '.' point] at inside
    cases inside
  · exact noPoint

theorem fractionOf_of_no_point (noPoint : rest.head? ≠ some '.') : fractionOf rest = [] := by
  unfold fractionOf
  split
  · exact absurd rfl noPoint
  · rfl

end Follows

/-- The digits of a number, with the point that is between them if there is one. -/
inductive Numeral
  | integer (digits : List Char)
  | decimal (whole fraction : List Char)

def Numeral.spelling : Numeral → List Char
  | .integer digits => digits
  | .decimal whole fraction => whole ++ '.' :: fraction

def Numeral.value : Numeral → Except NumeralFault Lexeme
  | .integer digits => (readInteger digits).map .integer
  | .decimal whole fraction => (readDecimal whole fraction).map .decimal

/-- A numeral is all that the digits in front of `after` make up. -/
inductive Numeral.Stands : Numeral → List Char → Prop
  | integer {c : Char} {digits after : List Char} : isDigit c = true →
      (∀ d ∈ digits, isDigit d = true) → (∀ d ∈ after.head?, isDigit d = false) →
      fractionOf after = [] → Stands (.integer (c :: digits)) after
  | decimal {c : Char} {digits fraction after : List Char} : isDigit c = true →
      (∀ d ∈ digits, isDigit d = true) → fraction ≠ [] → (∀ d ∈ fraction, isDigit d = true) →
      (∀ d ∈ after.head?, isDigit d = false) → Stands (.decimal (c :: digits) fraction) after

section Numerals

variable {numeral : Numeral} {c : Char} {s after rest : List Char}

theorem point_facts : isBlank '.' = false ∧ isDigit '.' = false := by decide +kernel

/-- A numeral stays one when other things follow it in the same way. A point is excluded there,
since it could make a decimal of an integer. -/
theorem Numeral.Stands.follows (stands : numeral.Stands after) (alike : FollowsAlike after rest) :
    numeral.Stands rest := by
  cases stands with
  | integer digit within stops _ =>
    exact .integer digit within (alike.head stops EndsLexeme.not_digit)
      (fractionOf_of_no_point alike.no_point)
  | decimal digit within some behind stops =>
    exact .decimal digit within some behind (alike.head stops EndsLexeme.not_digit)

/-- A numeral is read as its value with everything behind it left over, or fails for what its digits
are. -/
theorem Numeral.Stands.readLexeme_eq (stands : numeral.Stands after)
    (spelled : numeral.spelling = c :: s) :
    readLexeme c (s ++ after) = (numeral.value.mapError .numeral).map fun word => (word, after) := by
  cases stands with
  | integer digit within stops noFraction =>
    cases spelled
    simp only [readLexeme, digit, if_true, takeWhile_append_of_head within stops,
      dropWhile_append_of_head within stops, noFraction, List.isEmpty_nil, Numeral.value]
    cases readInteger (c :: s) <;> rfl
  | @decimal _ digits fraction _ digit within some behind stops =>
    obtain ⟨rfl, rfl⟩ : _ = c ∧ digits ++ '.' :: fraction = s := List.cons.inj spelled
    have pointed : ∀ d ∈ ('.' :: (fraction ++ after)).head?, isDigit d = false := by
      rintro d ⟨⟩
      exact point_facts.2
    have nonempty : fraction.isEmpty = false := by simpa using some
    simp only [List.append_assoc, List.cons_append, readLexeme, digit, if_true,
      takeWhile_append_of_head within pointed, dropWhile_append_of_head within pointed, fractionOf,
      takeWhile_append_of_head behind stops, nonempty, Bool.false_eq_true, if_false,
      List.drop_succ_cons, List.drop_left, Numeral.value]
    cases readDecimal _ fraction <;> rfl

/-- Where there is a digit there is a numeral, of all the digits that follow, and with a fraction
only if there are digits behind the point. -/
theorem exists_numeral (digit : isDigit c = true) (s : List Char) :
    ∃ (numeral : Numeral) (more after : List Char), numeral.Stands after ∧
      numeral.spelling = c :: more ∧ s = more ++ after := by
  have split : s = s.takeWhile isDigit ++ s.dropWhile isDigit := List.takeWhile_append_dropWhile.symm
  have digits : ∀ d ∈ s.takeWhile isDigit, isDigit d = true := fun _ => List.mem_takeWhile_imp
  by_cases none : fractionOf (s.dropWhile isDigit) = []
  · exact ⟨.integer (c :: s.takeWhile isDigit), _, s.dropWhile isDigit,
      .integer digit digits (head?_dropWhile isDigit s) none, rfl, split⟩
  · obtain ⟨tail, pointed⟩ : ∃ tail, s.dropWhile isDigit = '.' :: tail := by
      unfold fractionOf at none
      split at none
      · next tail pointed => exact ⟨tail, pointed⟩
      · exact absurd rfl none
    rw [pointed, fractionOf] at none
    refine ⟨.decimal (c :: s.takeWhile isDigit) (tail.takeWhile isDigit),
      s.takeWhile isDigit ++ '.' :: tail.takeWhile isDigit, tail.dropWhile isDigit,
      .decimal digit digits none (fun _ => List.mem_takeWhile_imp) (head?_dropWhile isDigit tail),
      rfl, ?_⟩
    rw [List.append_assoc, List.cons_append, List.takeWhile_append_dropWhile, ← pointed, ← split]

end Numerals

/-- A spelling off which a lexeme is read, now that something follows it and whatever else may
follow it in the same way. -/
structure ReadOff (spelling : List Char) (word : Lexeme) (after : List Char) : Prop where
  bare : BareEnds spelling
  read : ∃ c more, spelling = c :: more ∧
    ∀ rest, FollowsAlike after rest → readLexeme c (more ++ rest) = .ok (word, rest)

section Lexemes

variable {c : Char} {s after : List Char} {word : Lexeme}

theorem Numeral.Stands.bareEnds {numeral : Numeral} (stands : numeral.Stands after) :
    BareEnds numeral.spelling := by
  cases stands with
  | integer digit within _ _ =>
    exact bareEnds_of_forall (List.cons_ne_nil _ _) (List.forall_mem_cons.mpr
      ⟨isBlank_eq_false_of_isDigit digit, fun d member => isBlank_eq_false_of_isDigit (within d member)⟩)
  | decimal digit within _ behind _ =>
    refine bareEnds_of_forall (List.cons_ne_nil _ _) ?_
    rw [Numeral.spelling, List.forall_mem_append, List.forall_mem_cons, List.forall_mem_cons]
    exact ⟨⟨isBlank_eq_false_of_isDigit digit,
      fun d member => isBlank_eq_false_of_isDigit (within d member)⟩, point_facts.1,
      fun d member => isBlank_eq_false_of_isDigit (behind d member)⟩

theorem readOff_numeral {numeral : Numeral} (stands : numeral.Stands after)
    (value : numeral.value = .ok word) : ReadOff numeral.spelling word after where
  bare := stands.bareEnds
  read := by
    obtain ⟨c, more, spelled⟩ : ∃ c more, numeral.spelling = c :: more := by
      cases stands <;> exact ⟨_, _, rfl⟩
    refine ⟨c, more, spelled, fun rest alike => ?_⟩
    rw [(stands.follows alike).readLexeme_eq spelled, value]
    rfl

theorem exists_quotedBody {quote : Char} {text : List Char}
    (scanned : scanQuoted quote s = some (text, after)) :
    ∃ body, s = body ++ quote :: after ∧ QuotedBody quote text body := by
  fun_induction scanQuoted quote s generalizing text after with
  | case1 => cases scanned
  | case2 d rest ih =>
    obtain ⟨⟨inner, tail⟩, run, same⟩ := Option.map_eq_some_iff.mp scanned
    cases same
    obtain ⟨body, rfl, written⟩ := ih run
    exact ⟨'\\' :: d :: body, rfl, .escaped written⟩
  | case3 rest =>
    cases scanned
    exact ⟨[], rfl, .nil⟩
  | case4 d rest noEscape other ih =>
    obtain ⟨⟨inner, tail⟩, run, same⟩ := Option.map_eq_some_iff.mp scanned
    cases same
    obtain ⟨body, rfl, written⟩ := ih run
    refine ⟨d :: body, rfl, .plain other ?_ written⟩
    rintro rfl
    cases body with
    | nil => exact noEscape quote tail rfl rfl
    | cons b body => exact noEscape b (body ++ quote :: tail) rfl rfl

/-- A quoted text is read off its quotes and its body. What follows the closing quote has no
influence at all. -/
theorem readOff_text {text : List Char} (quotes : c = '\'' ∨ c = '"')
    (scanned : scanQuoted c s = some (text, after)) :
    ∃ more, s = more ++ after ∧ ReadOff (c :: more) (.text (String.ofList text)) after := by
  have facts : isBlank c = false ∧ isDigit c = false ∧ c ≠ '\\' := by
    rcases quotes with rfl | rfl <;> decide +kernel
  obtain ⟨bare, noDigit, notEscape⟩ := facts
  obtain ⟨body, rfl, written⟩ := exists_quotedBody scanned
  refine ⟨body ++ [c], by simp, ⟨⟨c, _, rfl, bare⟩, ⟨c :: body, c, rfl, bare⟩⟩, c, _, rfl, ?_⟩
  intro rest _
  have again : scanQuoted c (body ++ [c] ++ rest) = some (text, rest) := by
    rw [List.append_assoc]
    exact scanQuoted_body notEscape written rest
  simp only [readLexeme, noDigit, Bool.false_eq_true, if_false, quotes, if_true, again]

/-- A name is read off its characters, as the keyword if it is one. It ends where the characters of
names end. -/
theorem readOff_word (opens : isLetter c = true ∨ c = '_') {within : List Char}
    (inside : ∀ d ∈ within, isNameChar d = true) (stops : ∀ d ∈ after.head?, isNameChar d = false) :
    ReadOff (c :: within) ((keyword? (String.ofList (c :: within))).getD
      (.name (String.ofList (c :: within)))) after := by
  obtain ⟨bare, noDigit, noQuote⟩ := wordOpening_apart opens
  constructor
  · exact bareEnds_of_forall (List.cons_ne_nil _ _) (List.forall_mem_cons.mpr
      ⟨bare, fun d member => isBlank_eq_false_of_isNameChar (inside d member)⟩)
  · refine ⟨c, within, rfl, fun rest alike => ?_⟩
    have ends : ∀ d ∈ rest.head?, isNameChar d = false := alike.head stops EndsLexeme.not_nameChar
    simp only [readLexeme, noDigit, Bool.false_eq_true, if_false, noQuote, opens, if_true,
      takeWhile_append_of_head inside ends, dropWhile_append_of_head inside ends]

theorem sign?_alone {rest : List Char}
    (sign : (c, word) ∈ [('<', .comparison .lt), ('>', .comparison .gt), ('!', Lexeme.not)])
    (apart : ∀ d ∈ rest.head?, d ≠ '=') : sign? (c :: rest) = some (word, rest) := by
  have noEqual (more : List Char) (same : rest = '=' :: more) : False := by
    subst same
    exact apart '=' rfl rfl
  simp only [List.mem_cons, Prod.mk.injEq, List.not_mem_nil, or_false] at sign
  rcases sign with ⟨rfl, rfl⟩ | ⟨rfl, rfl⟩ | ⟨rfl, rfl⟩
  all_goals
    rw [sign?]
    exact noEqual

/-- A sign is read off its characters if it is found in the same way before everything that follows
alike. -/
theorem readOff_of_sign? {more : List Char} (opens : c ∈ signOpenings)
    (within : ∀ d ∈ more, d ∈ signOpenings)
    (read : ∀ rest, FollowsAlike after rest → sign? (c :: (more ++ rest)) = some (word, rest)) :
    ReadOff (c :: more) word after where
  bare := by
    have table : ∀ d ∈ signOpenings, isBlank d = false := forall_mem_of_decide (by decide +kernel)
    exact bareEnds_of_forall (List.cons_ne_nil _ _) (List.forall_mem_cons.mpr
      ⟨table c opens, fun d member => table d (within d member)⟩)
  read := ⟨c, more, rfl, fun rest alike => (readLexeme_of_sign? opens (read rest alike)).2⟩

/-- Each sign that is found is read off its characters. A sign of one character needs that the next
one does not make a longer sign. -/
theorem readOff_sign (found : sign? (c :: s) = some (word, after)) :
    ∃ more, s = more ++ after ∧ ReadOff (c :: more) word after := by
  unfold sign? at found
  split at found
  case h_15 => cases found
  all_goals
    obtain ⟨rfl, rfl⟩ := List.cons.inj ‹_›
    cases found
  -- Signs of two characters, those that a second character would change, and all others.
  case h_1 | h_2 | h_3 | h_4 | h_5 | h_6 =>
    exact ⟨[_], rfl, readOff_of_sign? (by decide) (forall_mem_of_decide (by decide)) fun _ _ => rfl⟩
  case h_7 | h_8 | h_9 =>
    rename_i apart _
    have stops : ∀ d ∈ s.head?, d ≠ '=' := by
      rintro d first rfl
      obtain ⟨more, rfl⟩ := List.head?_eq_some_iff.mp first
      exact apart more rfl
    refine ⟨[], rfl, readOff_of_sign? (by decide) nofun fun rest alike => ?_⟩
    exact sign?_alone (by decide) (alike.head stops fun apart d first => (apart.head_apart d first).2.2)
  all_goals exact ⟨[], rfl, readOff_of_sign? (by decide) nofun fun _ _ => rfl⟩

/-- How far a lexeme reaches is settled by its own characters and by the next one. The cases are
those of the lexer: numerals, quoted texts, words and signs. -/
theorem exists_readOff (run : readLexeme c s = .ok (word, after)) :
    ∃ more, s = more ++ after ∧ ReadOff (c :: more) word after := by
  by_cases digit : isDigit c = true
  · obtain ⟨numeral, more, rest, stands, spelled, rfl⟩ := exists_numeral digit s
    rw [stands.readLexeme_eq spelled] at run
    obtain ⟨value, read, same⟩ := map_eq_ok_iff.mp run
    cases same
    exact ⟨more, rfl, spelled ▸ readOff_numeral stands (mapError_eq_ok_iff.mp read)⟩
  · rw [readLexeme, if_neg digit] at run
    split at run
    · next quotes =>
      split at run
      · next scanned =>
        cases run
        exact readOff_text quotes scanned
      · cases run
    · split at run
      · next opens =>
        cases run
        exact ⟨_, List.takeWhile_append_dropWhile.symm,
          readOff_word opens (fun _ => List.mem_takeWhile_imp) (head?_dropWhile isNameChar s)⟩
      · split at run
        · next found =>
          cases run
          exact readOff_sign found
        · cases run

end Lexemes

end GuardedRecords
