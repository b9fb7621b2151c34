import GuardedRecords.Proofs.FilterText
import GuardedRecords.Proofs.OperatorSpelling

namespace GuardedRecords

/-- Where one is in a text: outside quotes, inside those that a mark has opened, or there behind a
backslash. -/
inductive QuotePlace
  | outside
  | inside (quote : Char)
  | escaped (quote : Char)
  deriving DecidableEq

/-- Outside quotes either mark opens a region, and only the same mark closes it. A region that
nothing closes reaches to the end. -/
def QuotePlace.next : QuotePlace → Char → QuotePlace
  | .outside, c => if c = '\'' ∨ c = '"' then .inside c else .outside
  | .inside q, c => if c = '\\' then .escaped q else if c = q then .outside else .inside q
  | .escaped q, _ => .inside q

/-- The place behind a text that begins outside quotes. -/
def placeBehind (cs : List Char) : QuotePlace := cs.foldl QuotePlace.next .outside

/-- What stands between two clauses: a junction in any case, with blanks on both sides. -/
inductive JunctionText (j : Junction) : List Char → Prop
  | mk {left word right : List Char} (before : left ≠ []) (leftBlank : ∀ c ∈ left, isBlank c = true)
      (spelled : word.map Char.toLower = j.name.toList) (behind : right ≠ [])
      (rightBlank : ∀ c ∈ right, isBlank c = true) : JunctionText j (left ++ (word ++ right))

/-- Whether a text stands at the front of what begins with a separator. -/
def JoinedAt (s : List Char) : Prop := ∃ j separator rest, s = separator ++ rest ∧ JunctionText j separator

/-- No separator begins outside quotes in the first part of a text, wherever it ends. -/
def Unjoined (cs behind : List Char) : Prop :=
  ∀ before after, cs = before ++ after → after ≠ [] → placeBehind before = .outside →
    ¬JoinedAt (after ++ behind)

/-- The cuts of a text behind `front`: at each separator outside quotes, from the left, with all of
its blanks. -/
inductive Splitting.Cuts : List Char → List Char → Splitting → Prop
  | last {front clause : List Char} (whole : Unjoined clause []) : Cuts front clause ⟨clause, []⟩
  | joined {front clause separator rest : List Char} {j : Junction} {others : Splitting}
      (whole : Unjoined clause (separator ++ rest)) (outside : placeBehind (front ++ clause) = .outside)
      (spelled : JunctionText j separator) (trimmed : ∀ c ∈ rest.head?, isBlank c = false)
      (cuts : Cuts (front ++ clause ++ separator) rest others) :
      Cuts front (clause ++ (separator ++ rest)) ⟨clause, (j, others.first) :: others.more⟩

section Places

/-- The place is a state that is carried along the text, so a text behind another goes on from the
place where that one has ended. -/
theorem placeBehind_append (cs more : List Char) :
    placeBehind (cs ++ more) = more.foldl QuotePlace.next (placeBehind cs) := by
  rw [placeBehind, List.foldl_append, placeBehind]

theorem placeBehind_concat (cs : List Char) (c : Char) :
    placeBehind (cs ++ [c]) = (placeBehind cs).next c := placeBehind_append cs [c]

theorem placeBehind_append_of_outside {cs : List Char} (outside : placeBehind cs = .outside)
    (more : List Char) : placeBehind (cs ++ more) = placeBehind more := by
  rw [placeBehind_append, outside, placeBehind]

theorem placeBehind_of_unquoted {cs : List Char} (unquoted : ∀ c ∈ cs, c ≠ '\'' ∧ c ≠ '"') :
    placeBehind cs = .outside := by
  induction cs with
  | nil => rfl
  | cons c cs ih =>
    obtain ⟨first, others⟩ := List.forall_mem_cons.mp unquoted
    have step : placeBehind [c] = .outside := if_neg (by simp [first])
    have shape : placeBehind ([c] ++ cs) = placeBehind cs := placeBehind_append_of_outside step cs
    exact shape.trans (ih others)

end Places

section Separators

variable {j : Junction} {separator s rest word : List Char}

/-- Words without the letters i and k have no cases outside ASCII, so their cases are those of lower
and upper letters only. -/
theorem CaseSpelled.map_toLower {letters : List Char} (spelling : CaseSpelled letters word)
    (plain : ∀ letter ∈ letters, letter ≠ 'i' ∧ letter ≠ 'k') : word.map Char.toLower = letters := by
  induction spelling with
  | nil => rfl
  | @cons letter c _ _ case _ ih =>
    obtain ⟨first, others⟩ := List.forall_mem_cons.mp plain
    have same : c.toLower = letter := by simpa [isCaseOf, first] using case
    rw [List.map_cons, same, ih others]

theorem Junction.name_plain (j : Junction) :
    ∀ letter ∈ j.name.toList, letter ≠ 'i' ∧ letter ≠ 'k' := by
  cases j <;> exact forall_mem_of_decide (by decide)

theorem Junction.bare_of_spelled (spelled : word.map Char.toLower = j.name.toList) :
    ∀ c ∈ word, isBlank c = false ∧ c ≠ '\'' ∧ c ≠ '"' := by
  have table : ∀ n < 128, (Char.ofNat n).toLower ∈ ['a', 'n', 'd', 'o', 'r'] →
      isBlank (Char.ofNat n) = false ∧ Char.ofNat n ≠ '\'' ∧ Char.ofNat n ≠ '"' := by
    decide +kernel
  have letters : ∀ letter ∈ j.name.toList, letter.toNat < 128 ∧ letter ∈ ['a', 'n', 'd', 'o', 'r'] := by
    cases j <;> exact forall_mem_of_decide (by decide)
  intro c member
  obtain ⟨ascii, letter⟩ := letters c.toLower (spelled ▸ List.mem_map_of_mem member)
  have bare := table c.toNat (ascii_of_toLower ascii)
  rw [Char.ofNat_toNat] at bare
  exact bare letter

theorem Junction.exists_cons_of_spelled (spelled : word.map Char.toLower = j.name.toList) :
    ∃ c more, word = c :: more ∧ isBlank c = false := by
  obtain ⟨c, more, rfl⟩ : ∃ c more, word = c :: more := by
    cases word with
    | nil => cases j <;> cases spelled
    | cons c more => exact ⟨c, more, rfl⟩
  exact ⟨c, more, rfl, (Junction.bare_of_spelled spelled c List.mem_cons_self).1⟩

theorem JunctionText.begins (separates : JunctionText j separator) :
    ∃ c more, separator = c :: more ∧ isBlank c = true := by
  obtain ⟨before, leftBlank, _, _, _⟩ := separates
  obtain ⟨c, more, rfl⟩ := List.exists_cons_of_ne_nil before
  exact ⟨c, _, rfl, leftBlank c List.mem_cons_self⟩

theorem JunctionText.unquoted (separates : JunctionText j separator) :
    ∀ c ∈ separator, c ≠ '\'' ∧ c ≠ '"' := by
  have blank {c : Char} (blank : isBlank c = true) : c ≠ '\'' ∧ c ≠ '"' :=
    ⟨ne_of_isBlank blank (by decide), ne_of_isBlank blank (by decide)⟩
  obtain ⟨_, leftBlank, spelled, _, rightBlank⟩ := separates
  refine List.forall_mem_append.mpr ⟨fun c member => blank (leftBlank c member), ?_⟩
  exact List.forall_mem_append.mpr ⟨fun c member => (Junction.bare_of_spelled spelled c member).2,
    fun c member => blank (rightBlank c member)⟩

theorem JoinedAt.begins (joined : JoinedAt s) : ∃ c more, s = c :: more ∧ isBlank c = true := by
  obtain ⟨j, separator, rest, rfl, separates⟩ := joined
  obtain ⟨c, more, rfl, blank⟩ := separates.begins
  exact ⟨c, _, rfl, blank⟩

theorem trimLeft_of_trimmed (trimmed : ∀ c ∈ s.head?, isBlank c = false) : trimLeft s = s := by
  cases s with
  | nil => rfl
  | cons c rest => exact trimLeft_cons (trimmed c rfl) rest

/-- A separator at the front of a text is found, if it has all of its blanks. A blank behind it
would belong to it as well, so what follows must not begin with one. -/
theorem JunctionText.junction?_eq (separates : JunctionText j separator)
    (trimmed : ∀ c ∈ rest.head?, isBlank c = false) :
    junction? (separator ++ rest) = some (j, rest) := by
  cases separates with | @mk left word right before leftBlank spelled behind rightBlank
  obtain ⟨b, blanks, rfl⟩ := List.exists_cons_of_ne_nil before
  obtain ⟨d, more, rfl⟩ := List.exists_cons_of_ne_nil behind
  obtain ⟨w, letters, front, bare⟩ := Junction.exists_cons_of_spelled spelled
  have skipped : trimLeft (b :: blanks ++ (word ++ (d :: more ++ rest))) = word ++ (d :: more ++ rest) := by
    rw [front]
    exact trimLeft_append leftBlank bare _
  have taken : afterWord? j.name.toList (word ++ (d :: more ++ rest)) = some (word, d :: (more ++ rest)) :=
    afterWord?_append spelled _
  have last : trimLeft (more ++ rest) = rest := by
    rw [trimLeft, List.dropWhile_append_of_pos fun c member =>
      rightBlank c (List.mem_cons_of_mem d member)]
    exact trimLeft_of_trimmed trimmed
  have first : isBlank b = true := leftBlank b List.mem_cons_self
  have second : isBlank d = true := rightBlank d List.mem_cons_self
  have shape : b :: blanks ++ (word ++ d :: more) ++ rest =
      b :: (blanks ++ (word ++ (d :: more ++ rest))) := by simp
  rw [List.cons_append] at skipped
  rw [shape]
  cases j with
  | and =>
    rw [Junction.name] at taken
    simp only [junction?, first, if_true, skipped, taken, second, last]
  | or =>
    rw [Junction.name] at taken spelled
    have notAnd : afterWord? "and".toList (word ++ (d :: more ++ rest)) = none := by
      subst front
      refine afterWord?_of_ne ?_ (by decide) _ _
      rw [(List.cons.inj spelled).1]
      decide
    simp only [junction?, first, if_true, skipped, notAnd, taken, second, last, Option.map_some]

theorem trimmed_trimLeft (cs : List Char) : ∀ c ∈ (trimLeft cs).head?, isBlank c = false := by
  intro c first
  obtain ⟨more, front⟩ := List.head?_eq_some_iff.mp first
  exact bare_of_trimLeft front

/-- A word behind blanks, with a blank behind it, is found with all blanks on both sides. -/
theorem separator_of_afterWord? {c : Char} {cs : List Char} (first : isBlank c = true)
    (found : (match afterWord? j.name.toList (trimLeft (c :: cs)) with
      | some (_, d :: tail) => if isBlank d then some (trimLeft tail) else none
      | _ => none) = some rest) :
    ∃ separator, c :: cs = separator ++ rest ∧ JunctionText j separator ∧
      ∀ c ∈ rest.head?, isBlank c = false := by
  split at found
  · next spelled d tail run =>
    split at found
    · next second =>
      cases found
      obtain ⟨spelling, split⟩ := afterWord?_eq_some run
      obtain ⟨left, front, leftBlank⟩ := exists_trimLeft (c :: cs)
      obtain ⟨right, back, rightBlank⟩ := exists_trimLeft tail
      have some : left ≠ [] := by
        rintro rfl
        have bare := bare_of_trimLeft front.symm
        rw [first] at bare
        cases bare
      have whole : c :: cs = left ++ (spelled ++ d :: right) ++ trimLeft tail := by
        rw [front, split]
        conv => lhs; rw [back]
        simp
      exact ⟨_, whole, .mk some leftBlank (spelling.map_toLower j.name_plain)
        (List.cons_ne_nil d right) (List.forall_mem_cons.mpr ⟨second, rightBlank⟩),
        trimmed_trimLeft tail⟩
    · cases found
  · cases found

/-- What is found at the front of a text is a separator with all of its blanks. Together with the
converse this is what the splitter looks for, said without it. -/
theorem separator_of_junction? (found : junction? s = some (j, rest)) :
    ∃ separator, s = separator ++ rest ∧ JunctionText j separator ∧
      ∀ c ∈ rest.head?, isBlank c = false := by
  unfold junction? at found
  split at found
  · split at found
    · next first =>
      dsimp only at found
      split at found
      · next run =>
        cases found
        exact separator_of_afterWord? (j := .and) first run
      · obtain ⟨tail, run, same⟩ := Option.map_eq_some_iff.mp found
        cases same
        exact separator_of_afterWord? (j := .or) first run
    · cases found
  · cases found

theorem JoinedAt.append (joined : JoinedAt s) (more : List Char) : JoinedAt (s ++ more) := by
  obtain ⟨j, separator, rest, rfl, separates⟩ := joined
  exact ⟨j, separator, rest ++ more, List.append_assoc _ _ _, separates⟩

theorem JunctionText.append_blanks (separates : JunctionText j separator) {blanks : List Char}
    (blank : ∀ c ∈ blanks, isBlank c = true) : JunctionText j (separator ++ blanks) := by
  cases separates with | @mk left word right before leftBlank spelled behind rightBlank
  rw [List.append_assoc, List.append_assoc]
  exact .mk before leftBlank spelled (by simp [behind])
    (List.forall_mem_append.mpr ⟨rightBlank, blank⟩)

/-- The search for a separator finds one exactly where one stands; which blanks it takes is another
question. -/
theorem joinedAt_iff : JoinedAt s ↔ junction? s ≠ none := by
  constructor
  · rintro ⟨j, separator, rest, rfl, separates⟩ none
    obtain ⟨blanks, split, blank⟩ := exists_trimLeft rest
    have found := (separates.append_blanks blank).junction?_eq (trimmed_trimLeft rest)
    rw [List.append_assoc, ← split, none] at found
    cases found
  · intro some
    obtain ⟨⟨j, rest⟩, found⟩ := Option.ne_none_iff_exists'.mp some
    obtain ⟨separator, split, separates, -⟩ := separator_of_junction? found
    exact ⟨j, separator, rest, split, separates⟩

end Separators

section Cutting

variable {front passed : List Char}

/-- One more character does not begin a separator inside quotes, nor where none is found. The
splitter goes on in steps of this kind. -/
theorem Unjoined.concat {cs behind : List Char} {c : Char} (unjoined : Unjoined cs (c :: behind))
    (apart : placeBehind cs = .outside → ¬JoinedAt (c :: behind)) :
    Unjoined (cs ++ [c]) behind := by
  intro before after split some outside
  rcases List.eq_nil_or_concat after with rfl | ⟨more, d, rfl⟩
  · exact absurd rfl some
  · rw [List.concat_eq_append, ← List.append_assoc] at split
    obtain ⟨rfl, same⟩ := List.append_inj' split rfl
    obtain rfl := List.singleton_inj.mp same
    rw [List.concat_eq_append, List.append_assoc, List.singleton_append]
    cases more with
    | nil =>
      rw [List.append_nil] at apart
      exact apart outside
    | cons e more => exact unjoined before (e :: more) rfl (List.cons_ne_nil e more) outside

/-- Two parts without separators make one without, as long as quotes are closed between them and
what follows is the same. -/
theorem Unjoined.append {cs more behind : List Char} (unjoined : Unjoined cs (more ++ behind)) (outside : placeBehind cs = .outside)
    (others : Unjoined more behind) : Unjoined (cs ++ more) behind := by
  intro before after split some reached
  rcases List.append_eq_append_iff.mp split with ⟨passed, rfl, same⟩ | ⟨left, rfl, rfl⟩
  · rw [placeBehind_append_of_outside outside] at reached
    exact others passed after same some reached
  · cases left with
    | nil => exact others [] more rfl (by simpa using some) rfl
    | cons c left =>
      rw [List.append_assoc]
      exact unjoined before (c :: left) rfl (List.cons_ne_nil c left) reached

theorem unjoined_nil (behind : List Char) : Unjoined [] behind := by
  intro before after split some
  exact absurd (List.append_eq_nil_iff.mp split.symm).2 some

/-- What has been passed of a clause goes in front of the rest of it. The induction follows the
splitter, with the place behind what has been passed as its invariant. -/
theorem Splitting.Cuts.passing (quote : Option Char) (s : List Char)
    (outside : placeBehind front = .outside)
    (begun : placeBehind passed = quote.elim .outside .inside) (unjoined : Unjoined passed s) :
    ((splitClauses quote s).after passed).Cuts front (passed ++ s) := by
  fun_induction splitClauses quote s generalizing front passed with
  | case1 quote =>
    rw [Splitting.after, List.append_nil]
    exact .last unjoined
  | case2 d rest q ih =>
    -- A backslash with the character behind it, which stays inside whatever it is.
    have escape : placeBehind (passed ++ ['\\']) = .escaped q := by
      rw [placeBehind_concat, begun]
      rfl
    have behind : placeBehind (passed ++ ['\\'] ++ [d]) = .inside q := by
      rw [placeBehind_concat, escape]
      rfl
    have first := unjoined.concat (fun off => by rw [begun] at off; cases off)
    have second := first.concat (fun off => by rw [escape] at off; cases off)
    have cuts := ih outside behind second
    simpa [Splitting.after, Splitting.prepend] using cuts
  | case3 c rest q whole ih =>
    -- Any other character inside; only the quote itself leads out.
    have unjoined := unjoined.concat (fun off => by rw [begun] at off; cases off)
    by_cases escape : c = '\\'
    · cases rest with
      | nil =>
        rw [splitClauses_nil]
        exact .last unjoined
      | cons d more => exact (whole d more escape rfl).elim
    · have behind : placeBehind (passed ++ [c]) =
          (if c = q then none else some q).elim .outside .inside := by
        rw [placeBehind_concat, begun]
        show (if c = '\\' then _ else if c = q then _ else _) = _
        rw [if_neg escape]
        split <;> rfl
      have cuts := ih outside behind unjoined
      simpa [Splitting.after, Splitting.prepend] using cuts
  | case4 c rest quote ih =>
    -- An opening quote, at which no separator begins.
    have behind : placeBehind (passed ++ [c]) = .inside c := by
      rw [placeBehind_concat, begun]
      exact if_pos quote
    have unjoined := unjoined.concat fun _ joined => by
      obtain ⟨b, more, same, blank⟩ := joined.begins
      obtain ⟨rfl, -⟩ := List.cons.inj same
      rcases quote with rfl | rfl <;> exact absurd blank (by decide)
    have cuts := ih outside behind unjoined
    simpa [Splitting.after, Splitting.prepend] using cuts
  | case5 c rest plain j behind found shorter tail =>
    -- A separator outside: the clause ends before it, and the next one begins with nothing passed.
    rename_i ih
    obtain ⟨separator, split, separates, trimmed⟩ := separator_of_junction? found
    rw [split] at unjoined ⊢
    have before : placeBehind (front ++ passed) = .outside :=
      (placeBehind_append_of_outside outside passed).trans begun
    have reached : placeBehind (front ++ passed ++ separator) = .outside :=
      (placeBehind_append_of_outside before separator).trans
        (placeBehind_of_unquoted separates.unquoted)
    have cuts := ih reached rfl (unjoined_nil behind)
    rw [Splitting.after, List.append_nil]
    exact .joined unjoined before separates trimmed cuts
  | case6 c rest plain apart ih =>
    have behind : placeBehind (passed ++ [c]) = .outside := by
      rw [placeBehind_concat, begun]
      exact if_neg plain
    have unjoined := unjoined.concat fun _ joined => joinedAt_iff.mp joined apart
    have cuts := ih outside behind unjoined
    simpa [Splitting.after, Splitting.prepend] using cuts

/-- Only inside quotes can such a part have a separator. -/
theorem Unjoined.place_ne_outside {before separator after behind : List Char} {j : Junction}
    (unjoined : Unjoined (before ++ (separator ++ after)) behind)
    (separates : JunctionText j separator) : placeBehind before ≠ .outside := by
  intro outside
  obtain ⟨c, more, shape, -⟩ := separates.begins
  have some : separator ++ after ≠ [] := by simp [shape]
  exact unjoined before _ rfl some outside ⟨j, separator, after ++ behind, by simp, separates⟩

theorem Unjoined.isPrefix {clause separator rest whole behind : List Char} {j : Junction}
    (unjoined : Unjoined whole behind) (split : whole ++ behind = clause ++ (separator ++ rest))
    (separates : JunctionText j separator) (outside : placeBehind clause = .outside) :
    whole <+: clause := by
  rcases List.append_eq_append_iff.mp split with ⟨more, same, -⟩ | ⟨more, rfl, same⟩
  · exact ⟨more, same.symm⟩
  · cases more with
    | nil => exact ⟨[], by simp⟩
    | cons c more =>
      exact absurd ⟨j, separator, rest, same.symm, separates⟩
        (unjoined clause (c :: more) rfl (List.cons_ne_nil c more) outside)

/-- The cuts of a text are determined by it. Two clauses at the front end at the same place, since
within neither of them is a separator outside quotes. -/
theorem Splitting.Cuts.unique {s t : List Char} {one other : Splitting} (cuts : one.Cuts front s)
    (otherCuts : other.Cuts front t) (outside : placeBehind front = .outside) (same : s = t) :
    one = other := by
  have within {front clause : List Char} (outside : placeBehind front = .outside)
      (behind : placeBehind (front ++ clause) = .outside) : placeBehind clause = .outside :=
    (placeBehind_append_of_outside outside clause).symm.trans behind
  induction cuts generalizing other t with
  | last whole =>
    cases otherCuts with
    | last => rw [same]
    | joined _ before separates =>
      subst same
      exact absurd (within outside before) (whole.place_ne_outside separates)
  | joined whole before separates trimmed cuts ih =>
    cases otherCuts with
    | last otherWhole =>
      subst same
      exact absurd (within outside before) (otherWhole.place_ne_outside separates)
    | joined otherWhole otherBefore otherSeparates otherTrimmed otherCuts =>
      have shorter := whole.isPrefix same otherSeparates (within outside otherBefore)
      have longer := otherWhole.isPrefix same.symm separates (within outside before)
      obtain rfl := shorter.eq_of_length_le longer.length_le
      have found := separates.junction?_eq trimmed
      rw [List.append_cancel_left same, otherSeparates.junction?_eq otherTrimmed] at found
      cases found
      obtain rfl := List.append_cancel_right (List.append_cancel_left same)
      have reached := (placeBehind_append_of_outside before _).trans
        (placeBehind_of_unquoted separates.unquoted)
      rw [ih otherCuts reached rfl]

theorem Splitting.Cuts.unjoined {s : List Char} {sp : Splitting} (cuts : sp.Cuts front s) :
    ∀ clause ∈ sp.first :: sp.more.map Prod.snd, ∃ behind, Unjoined clause behind := by
  induction cuts with
  | last whole => exact List.forall_mem_singleton.mpr ⟨_, whole⟩
  | joined whole _ _ _ _ ih => exact List.forall_mem_cons.mpr ⟨⟨_, whole⟩, ih⟩

/-- The splitter cuts where the relation says. The induction is on the text, with what has been
passed over since the last cut in front. -/
theorem splitClauses_cuts (s : List Char) : (splitClauses none s).Cuts [] s :=
  Splitting.Cuts.passing none s rfl rfl (unjoined_nil s)

theorem Splitting.Cuts.unjoined_of_single {cs : List Char} {sp : Splitting}
    (cuts : sp.Cuts front cs) (single : sp.more = []) : Unjoined cs [] := by
  cases cuts with
  | last whole => exact whole
  | joined => cases single

theorem splitClauses_eq_self_iff {cs : List Char} : splitClauses none cs = ⟨cs, []⟩ ↔ Unjoined cs [] :=
  ⟨fun whole => (splitClauses_cuts cs).unjoined_of_single (by rw [whole]),
    fun unjoined => (splitClauses_cuts cs).unique (.last unjoined) rfl rfl⟩

theorem Unsplit.unjoined {cs : List Char} (unsplit : Unsplit cs) : Unjoined cs [] := by
  have whole := unsplit []
  rw [List.append_nil, splitClauses_nil, Splitting.after, List.append_nil] at whole
  exact splitClauses_eq_self_iff.mp whole

/-- The clauses of a text and the junctions between them are those of its cuts, which are the only
ones; and no clause has a separator outside quotes. -/
theorem splitClauses_exact (s : List Char) :
    (∀ sp, splitClauses none s = sp ↔ sp.Cuts [] s) ∧
      ∀ clause ∈ (splitClauses none s).first :: (splitClauses none s).more.map Prod.snd,
        ∀ before j separator after, clause = before ++ (separator ++ after) →
          JunctionText j separator → placeBehind before ≠ .outside := by
  refine ⟨fun sp => ⟨?_, fun cuts => (splitClauses_cuts s).unique cuts rfl rfl⟩, ?_⟩
  · rintro rfl
    exact splitClauses_cuts s
  · rintro clause member before j separator after rfl separates
    obtain ⟨behind, unjoined⟩ := (splitClauses_cuts s).unjoined _ member
    exact unjoined.place_ne_outside separates

/-- A junction inside quotes and one that has a blank on one side only are parts of their clauses. -/
example : splitClauses none "a='x and y'  OR and b".toList =
    ⟨"a='x and y'".toList, [(.or, "and b".toList)]⟩ := by
  cbv

end Cutting

end GuardedRecords
