import Mathlib.Data.List.Forall2
import GuardedRecords.Proofs.LexemeExtents

namespace GuardedRecords

/-- A text without blanks at its ends that is one lexeme when it is read by itself. -/
structure SpellsLexeme (spelling : List Char) (word : Lexeme) : Prop where
  bare : BareEnds spelling
  alone : lex spelling = ⟨[⟨word, 0⟩], .ok spelling.length⟩

/-- What is read off in a text is one lexeme when it stands alone: the end of a text is one of the
things that may follow it. -/
theorem ReadOff.spellsLexeme {spelling after : List Char} {word : Lexeme}
    (off : ReadOff spelling word after) : SpellsLexeme spelling word where
  bare := off.bare
  alone := by
    obtain ⟨c, more, rfl, read⟩ := off.read
    obtain ⟨d, rest, same, bare⟩ := off.bare.first
    cases same
    have run := read [] (.inl endsLexeme_nil)
    rw [List.append_nil] at run
    rw [lex, lexRest_of_read (trimLeft_cons bare more) run, lexRest_eq]
    simp [Lexing.behind, trimLeft]

theorem ReadAs.spellsLexeme {cs : List Char} {word : Lexeme} (read : ReadAs cs word) :
    SpellsLexeme cs word := by
  obtain ⟨c, more, rfl, -, run⟩ := read
  obtain ⟨spelled, same, off⟩ := exists_readOff (run [] endsLexeme_nil)
  rw [List.append_left_inj] at same
  exact same ▸ off.spellsLexeme

theorem readLexeme_point (s : List Char) :
    readLexeme '.' s = .error (.form (.invalidCharacter '.')) := by
  have noDigit : isDigit '.' = false := by decide +kernel
  have noLetter : isLetter '.' = false := by decide +kernel
  simp [readLexeme, noDigit, noLetter, sign?]

theorem SpellsLexeme.no_point {spelling : List Char} {word : Lexeme}
    (spells : SpellsLexeme spelling word) : spelling.head? ≠ some '.' := by
  intro point
  obtain ⟨more, rfl⟩ := List.head?_eq_some_iff.mp point
  have run := spells.alone
  rw [lex, lexRest_eq, trimLeft_cons (by decide +kernel)] at run
  simp [readLexeme_point] at run

theorem SpellsLexeme.unique {spelling : List Char} {word other : Lexeme}
    (spells : SpellsLexeme spelling word) (again : SpellsLexeme spelling other) : word = other := by
  have same := spells.alone.symm.trans again.alone
  simpa using same

/-- A lexeme in a text as it is spelled there, with the blanks before it. -/
@[ext] structure Piece where
  gap : List Char
  spelling : List Char
  word : Lexeme
  blank : Blanks gap
  spelled : SpellsLexeme spelling word

/-- The text of some pieces with the blanks behind the last one. -/
def layOut (ending : List Char) : List Piece → List Char
  | [] => ending
  | piece :: rest => piece.gap ++ piece.spelling ++ layOut ending rest

/-- The tokens of some pieces of which the first one begins at an offset. -/
def tokensFrom (start : Nat) : List Piece → List Token
  | [] => []
  | piece :: rest =>
    ⟨piece.word, start + piece.gap.length⟩ ::
      tokensFrom (start + (piece.gap ++ piece.spelling).length) rest

/-- Whether pieces differ in nothing but their blanks. Other blanks may stand where some stood, and
new ones anywhere. -/
def Respaced : List Piece → List Piece → Prop :=
  List.Forall₂ fun piece other =>
    other.spelling = piece.spelling ∧ (other.gap = [] → piece.gap = [])

/-- Whether each piece is read where it stands, up to the next one or to the ending. -/
def ReadInPlace (ending : List Char) : List Piece → Prop
  | [] => True
  | piece :: rest =>
    ReadOff piece.spelling piece.word (layOut ending rest) ∧ ReadInPlace ending rest

theorem EndsLexeme.of_head {rest other : List Char} (ends : EndsLexeme rest)
    (same : other.head? = rest.head?) : EndsLexeme other := by
  unfold EndsLexeme
  rw [same]
  exact ends

/-- What follows may be replaced twice. If the first replacement ends the lexeme, then so does the
second one, which begins with the same character or ends it as well. -/
theorem FollowsAlike.trans {after rest other : List Char} (first : FollowsAlike after rest)
    (second : FollowsAlike rest other) : FollowsAlike after other := by
  rcases second with apart | ⟨same, noPoint⟩
  · exact .inl apart
  · rcases first with apart | ⟨before, -⟩
    · exact .inl (apart.of_head same)
    · exact .inr ⟨same.trans before, noPoint⟩

theorem ReadOff.follows {spelling after rest : List Char} {word : Lexeme}
    (off : ReadOff spelling word after) (alike : FollowsAlike after rest) :
    ReadOff spelling word rest where
  bare := off.bare
  read := by
    obtain ⟨c, more, same, read⟩ := off.read
    exact ⟨c, more, same, fun other further => read other (alike.trans further)⟩

section Respacing

variable {pieces others : List Piece} {ending blanks : List Char}

theorem endsLexeme_of_blanks (blank : Blanks blanks) : EndsLexeme blanks := by
  rw [← List.append_nil blanks]
  exact endsLexeme_nil.after_blanks blank

theorem Respaced.refl (pieces : List Piece) : Respaced pieces pieces :=
  List.forall₂_same.mpr fun _ _ => ⟨rfl, id⟩

/-- Blanks end what comes before them. Where none are put in, the next lexeme goes on as it did. -/
theorem Respaced.followsAlike (spaced : Respaced pieces others) (blank : Blanks blanks) :
    FollowsAlike (layOut ending pieces) (layOut blanks others) := by
  cases spaced with
  | nil => exact .inl (endsLexeme_of_blanks blank)
  | @cons piece other pieces others same later =>
    obtain ⟨spelling, kept⟩ := same
    cases gap : other.gap with
    | cons b more =>
      refine .inl fun c first => .inl (other.blank c ?_)
      rw [layOut, gap] at first
      cases first
      rw [gap]
      exact List.mem_cons_self
    | nil =>
      obtain ⟨c, rest, begins, -⟩ := piece.spelled.bare.first
      have noPoint := piece.spelled.no_point
      rw [begins] at noPoint
      rw [layOut, layOut, gap, kept gap, spelling, begins]
      exact .inr ⟨rfl, noPoint⟩

/-- Pieces that are read in their places are so with other blanks. Where a blank stood there still
is one, and where none stood a new one ends the lexeme before it just as well. -/
theorem ReadInPlace.respaced (reads : ReadInPlace ending pieces) (spaced : Respaced pieces others)
    (blank : Blanks blanks) : ReadInPlace blanks others := by
  induction spaced with
  | nil => exact trivial
  | @cons piece other pieces others same later ih =>
    obtain ⟨here, behind⟩ := reads
    have word : piece.word = other.word := piece.spelled.unique (same.1 ▸ other.spelled)
    refine ⟨?_, ih behind⟩
    rw [same.1, ← word]
    exact here.follows (Respaced.followsAlike later blank)

/-- Pieces that are read where they stand are what the text is lexed to, each at its own offset. By
induction on the pieces. -/
theorem ReadInPlace.lexRest_eq (reads : ReadInPlace ending pieces) (blank : Blanks ending)
    {total : Nat} (fits : (layOut ending pieces).length ≤ total) :
    lexRest total (layOut ending pieces) =
      ⟨tokensFrom (total - (layOut ending pieces).length) pieces, .ok total⟩ := by
  induction pieces with
  | nil =>
    have blanks := lexRest_blanks total blank []
    rw [List.append_nil] at blanks
    rw [layOut, blanks, GuardedRecords.lexRest_eq]
    rfl
  | cons piece rest ih =>
    obtain ⟨here, behind⟩ := reads
    obtain ⟨c, more, spelled, read⟩ := here.read
    obtain ⟨d, tail, begins, bare⟩ := here.bare.first
    cases spelled.symm.trans begins
    have run := read _ ((Respaced.refl rest).followsAlike blank)
    simp only [layOut, spelled, List.length_append, List.length_cons] at fits ⊢
    rw [List.append_assoc, lexRest_blanks total piece.blank, List.cons_append,
      lexRest_of_read (trimLeft_cons bare _) run, ih behind (by omega)]
    simp only [Lexing.behind, tokensFrom, spelled, List.length_append, List.length_cons,
      List.singleton_append, Lexing.mk.injEq, List.cons.injEq, Token.mk.injEq, true_and, and_true]
    exact ⟨by omega, by congr 1; omega⟩

end Respacing

/-- A text that is lexed to its end is made of pieces that are read where they stand. The induction
is on the length of the text. -/
theorem exists_readInPlace {total finish : Nat} {s : List Char}
    (lexed : (lexRest total s).ending = .ok finish) :
    finish = total ∧ ∃ pieces ending, Blanks ending ∧ s = layOut ending pieces ∧
      ReadInPlace ending pieces := by
  induction length : s.length using Nat.strong_induction_on generalizing s with
  | _ count ih =>
    obtain ⟨gap, split, blank⟩ := exists_trimLeft s
    cases trimmed : trimLeft s with
    | nil =>
      rw [lexRest_eq, trimmed] at lexed
      cases lexed
      exact ⟨rfl, [], s, trimLeft_eq_nil_iff.mp trimmed, rfl, trivial⟩
    | cons c rest =>
      rw [lexRest_eq, trimmed] at lexed
      dsimp only at lexed
      split at lexed
      · cases lexed
      · cases lexed
      · next word after run =>
        have shorter := length ▸ readLexeme_shorter trimmed run
        obtain ⟨same, pieces, ending, blanks, laidOut, reads⟩ := ih _ shorter lexed rfl
        obtain ⟨more, rfl, off⟩ := exists_readOff run
        refine ⟨same, ⟨gap, c :: more, word, blank, off.spellsLexeme⟩ :: pieces, ending, blanks, ?_⟩
        subst laidOut
        refine ⟨?_, off, reads⟩
        rw [layOut, List.append_assoc, List.cons_append, ← trimmed, ← split]

/-- Two ways to divide a text into a part without blanks at its ends and blanks are one. -/
theorem bareEnds_append_inj {cs ds gap other : List Char} (bare : BareEnds cs) (too : BareEnds ds)
    (blank : Blanks gap) (blanks : Blanks other) (same : cs ++ gap = ds ++ other) :
    cs = ds ∧ gap = other := by
  have one := trim_append (List.forall_mem_nil _) bare blank
  have two := trim_append (List.forall_mem_nil _) too blanks
  rw [List.nil_append] at one two
  rw [same, two] at one
  subst one
  exact ⟨rfl, List.append_cancel_left same⟩

/-- Where the next lexeme begins tells how far a spelling reaches. -/
theorem spelling_unique {spelling other : List Char} {pieces others : List Piece}
    {ending blanks : List Char} (bare : BareEnds spelling) (too : BareEnds other)
    (blank : Blanks ending) (blanksToo : Blanks blanks) (start : Nat)
    (text : spelling ++ layOut ending pieces = other ++ layOut blanks others)
    (tokens : tokensFrom (start + spelling.length) pieces =
      tokensFrom (start + other.length) others) : spelling = other := by
  cases pieces with
  | nil =>
    cases others with
    | nil => exact (bareEnds_append_inj bare too blank blanksToo text).1
    | cons => cases tokens
  | cons next rest =>
    cases others with
    | nil => cases tokens
    | cons following more =>
      simp only [tokensFrom, List.cons.injEq, Token.mk.injEq] at tokens
      simp only [layOut, List.append_assoc] at text
      rw [← List.append_assoc, ← List.append_assoc other] at text
      have sameLength : (spelling ++ next.gap).length = (other ++ following.gap).length := by
        simp only [List.length_append]
        omega
      have front := (List.append_inj text sameLength).1
      exact (bareEnds_append_inj bare too next.blank following.blank front).1

/-- A text with its tokens can be laid out in one way only: the offsets tell where each lexeme
begins, and it ends where the blanks before the next one do. -/
theorem layOut_unique {pieces others : List Piece} {ending blanks : List Char}
    (blank : Blanks ending) (blanksToo : Blanks blanks) (start : Nat)
    (text : layOut ending pieces = layOut blanks others)
    (tokens : tokensFrom start pieces = tokensFrom start others) :
    pieces = others ∧ ending = blanks := by
  induction pieces generalizing start others with
  | nil =>
    cases others with
    | nil => exact ⟨rfl, text⟩
    | cons => cases tokens
  | cons piece rest ih =>
    cases others with
    | nil => cases tokens
    | cons other more =>
      simp only [tokensFrom, List.cons.injEq, Token.mk.injEq] at tokens
      obtain ⟨⟨word, position⟩, later⟩ := tokens
      simp only [layOut, List.append_assoc] at text
      obtain ⟨gap, text⟩ := List.append_inj text (Nat.add_left_cancel position)
      simp only [List.length_append, ← Nat.add_assoc, ← gap] at later
      have spelling := spelling_unique piece.spelled.bare other.spelled.bare blank blanksToo _ text
        later
      rw [spelling] at text later
      obtain ⟨rfl, same⟩ := ih _ (List.append_cancel_left text) later
      exact ⟨congrArg (· :: rest) (Piece.ext gap spelling word), same⟩

/-- The tokens of a text begin one behind the other, and the last one before its end, as no spelling
is empty. -/
theorem tokensFrom_increasing (ending : List Char) (start : Nat) (pieces : List Piece) :
    ((tokensFrom start pieces).map Token.position ++
        [start + (layOut ending pieces).length]).Pairwise (· < ·) ∧
      ∀ p ∈ (tokensFrom start pieces).map Token.position, start ≤ p := by
  induction pieces generalizing start with
  | nil => exact ⟨List.pairwise_singleton _ _, nofun⟩
  | cons piece rest ih =>
    obtain ⟨increasing, behind⟩ := ih (start + (piece.gap ++ piece.spelling).length)
    obtain ⟨c, more, begins, -⟩ := piece.spelled.bare.first
    simp only [layOut, tokensFrom, List.map_cons, List.cons_append, List.pairwise_cons, begins,
      List.length_append, List.length_cons, List.mem_append, List.mem_cons, List.not_mem_nil,
      or_false, ← Nat.add_assoc] at increasing behind ⊢
    refine ⟨⟨?_, increasing⟩, ?_⟩
    · rintro p (later | rfl)
      · have := behind p later
        omega
      · omega
    · rintro p (rfl | later)
      · omega
      · have := behind p later
        omega

/-- A text laid out in lexemes and blanks. -/
@[ext] structure Layout where
  pieces : List Piece
  ending : List Char
  blank : Blanks ending

def Layout.text (layout : Layout) : List Char := layOut layout.ending layout.pieces

def Layout.tokens (layout : Layout) : List Token := tokensFrom 0 layout.pieces

/-- Whether layouts differ in nothing but their blanks. Other blanks may stand where some stood, and
new ones anywhere. -/
def Layout.Respaced (layout other : Layout) : Prop :=
  GuardedRecords.Respaced layout.pieces other.pieces ∧ (other.ending = [] → layout.ending = [])

/-- The lexemes of the tokens are the words of the pieces; only the offsets depend on where the text
begins. -/
theorem tokensFrom_lexemes (start : Nat) (pieces : List Piece) :
    (tokensFrom start pieces).map Token.lexeme = pieces.map Piece.word := by
  induction pieces generalizing start with
  | nil => rfl
  | cons piece rest ih => rw [tokensFrom, List.map_cons, ih, List.map_cons]

theorem Respaced.words {pieces others : List Piece} (spaced : Respaced pieces others) :
    others.map Piece.word = pieces.map Piece.word := by
  induction spaced with
  | nil => rfl
  | @cons piece other pieces others same later ih =>
    have word : other.word = piece.word := other.spelled.unique (same.1 ▸ piece.spelled)
    rw [List.map_cons, List.map_cons, ih, word]

/-- Lexing loses nothing: a text that is lexed to its end is made up, in one way, of blanks and of
the lexemes that begin where its tokens do, one behind the other. And blanks tell nothing: with
other blanks in the place of some, and new ones before, behind or between the lexemes, the text is
lexed to the same lexemes. -/
theorem lex_layout {s : List Char} {finish : Nat} (lexed : (lex s).ending = .ok finish) :
    finish = s.length ∧
      ((lex s).tokens.map Token.position ++ [finish]).Pairwise (· < ·) ∧
      ∃ layout : Layout,
        (∀ other : Layout, other.text = s ∧ other.tokens = (lex s).tokens ↔ other = layout) ∧
        ∀ other : Layout, layout.Respaced other →
          (lex other.text).ending = .ok other.text.length ∧
            (lex other.text).tokens = other.tokens ∧
            other.tokens.map Token.lexeme = (lex s).tokens.map Token.lexeme := by
  obtain ⟨same, pieces, ending, blank, rfl, reads⟩ := exists_readInPlace lexed
  have whole {pieces : List Piece} {ending : List Char} (reads : ReadInPlace ending pieces)
      (blank : Blanks ending) :
      lex (layOut ending pieces) = ⟨tokensFrom 0 pieces, .ok (layOut ending pieces).length⟩ := by
    have lexed := reads.lexRest_eq blank (Nat.le_refl _)
    rwa [Nat.sub_self] at lexed
  have increasing := (tokensFrom_increasing ending 0 pieces).1
  rw [Nat.zero_add] at increasing
  rw [whole reads blank]
  refine ⟨same, same ▸ increasing, ⟨pieces, ending, blank⟩, fun other => ⟨?_, ?_⟩, ?_⟩
  · rintro ⟨text, tokens⟩
    obtain ⟨samePieces, sameEnding⟩ := layOut_unique other.blank blank 0 text tokens
    exact Layout.ext samePieces sameEnding
  · rintro rfl
    exact ⟨rfl, rfl⟩
  · rintro other ⟨spaced, -⟩
    have lexed := whole (reads.respaced spaced other.blank) other.blank
    rw [Layout.text, Layout.tokens, lexed, tokensFrom_lexemes, tokensFrom_lexemes, spaced.words]
    exact ⟨rfl, rfl, rfl⟩

/-- Five lexemes without a blank between them, one of them with a blank in it, and the same five with
blanks. -/
theorem lex_layout_crowded :
    (lex "n<=1.5&&'a b'\t".toList).ending = .ok 14 ∧
      (lex "\n n <=1.5 && 'a b' ".toList).ending = .ok 19 ∧
      (lex "\n n <=1.5 && 'a b' ".toList).tokens.map Token.lexeme =
        (lex "n<=1.5&&'a b'\t".toList).tokens.map Token.lexeme ∧
      (lex "\n n <=1.5 && 'a b' ".toList).tokens.map Token.position = [2, 4, 6, 10, 13] := by
  have lexed : (lex "n<=1.5&&'a b'\t".toList).ending = .ok 14 := by decide +kernel
  have word : IsWord "n" := ⟨'n', [], rfl, .inl (by decide +kernel), List.forall_mem_nil _⟩
  have name : SpellsLexeme "n".toList (.name "n") := (LexemeText.name word rfl).readAs.spellsLexeme
  have atMost : SpellsLexeme ['<', '='] (.comparison .le) :=
    (LexemeText.sign (by decide)).readAs.spellsLexeme
  have value : readDecimal ['1'] ['5'] = .ok (.finite false 6755399441055744 (-52)) := by
    decide +kernel
  have stands : (Numeral.decimal ['1'] ['5']).Stands [] :=
    .decimal (by decide +kernel) (List.forall_mem_nil _) (List.cons_ne_nil _ _)
      (forall_mem_of_decide (by decide +kernel)) (by simp)
  have number : SpellsLexeme ['1', '.', '5'] (.decimal (.finite false 6755399441055744 (-52))) :=
    (readOff_numeral stands (by rw [Numeral.value, value]; rfl)).spellsLexeme
  have both : SpellsLexeme ['&', '&'] .and := (LexemeText.sign (by decide)).readAs.spellsLexeme
  have text : SpellsLexeme ['\'', 'a', ' ', 'b', '\''] (.text "a b") :=
    (LexemeText.text (s := "a b") (.inl rfl)
      (quotedBody_singleQuoted ['a', ' ', 'b'])).readAs.spellsLexeme
  obtain ⟨-, -, layout, only, respaced⟩ := lex_layout lexed
  let crowded : Layout := ⟨[⟨[], _, _, blanks_nil, name⟩, ⟨[], _, _, blanks_nil, atMost⟩,
    ⟨[], _, _, blanks_nil, number⟩, ⟨[], _, _, blanks_nil, both⟩, ⟨[], _, _, blanks_nil, text⟩],
    ['\t'], forall_mem_of_decide (by decide +kernel)⟩
  have blank : Blanks [' '] := forall_mem_of_decide (by decide +kernel)
  let spaced : Layout := ⟨[⟨['\n', ' '], _, _, forall_mem_of_decide (by decide +kernel), name⟩,
    ⟨[' '], _, _, blank, atMost⟩, ⟨[], _, _, blanks_nil, number⟩, ⟨[' '], _, _, blank, both⟩,
    ⟨[' '], _, _, blank, text⟩], [' '], blank⟩
  have tokens : (lex "n<=1.5&&'a b'\t".toList).tokens = [⟨.name "n", 0⟩, ⟨.comparison .le, 1⟩,
      ⟨.decimal (.finite false 6755399441055744 (-52)), 3⟩, ⟨.and, 6⟩, ⟨.text "a b", 8⟩] := by
    decide +kernel
  have same : crowded = layout := (only crowded).mp ⟨rfl, tokens.symm⟩
  have fits : layout.Respaced spaced := by
    have gap (piece other : Piece) (spelling : other.spelling = piece.spelling)
        (none : piece.gap = []) :
        other.spelling = piece.spelling ∧ (other.gap = [] → piece.gap = []) :=
      ⟨spelling, fun _ => none⟩
    rw [← same]
    exact ⟨.cons (gap _ _ rfl rfl) (.cons (gap _ _ rfl rfl) (.cons (gap _ _ rfl rfl)
      (.cons (gap _ _ rfl rfl) (.cons (gap _ _ rfl rfl) .nil)))),
      fun none => absurd none (List.cons_ne_nil _ _)⟩
  obtain ⟨ending, placed, lexemes⟩ := respaced spaced fits
  refine ⟨lexed, ending, ?_, ?_⟩
  · exact (congrArg (List.map Token.lexeme) placed).trans lexemes
  · exact congrArg (List.map Token.position) placed

end GuardedRecords
