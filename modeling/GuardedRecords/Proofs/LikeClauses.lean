import GuardedRecords.Proofs.OperatorPlaces

namespace GuardedRecords

/-- The filter that asks whether a text is part of a property, whatever the case. -/
def likeFilter (property part : String) : Filter := ⟨[⟨property, .like, .text part⟩], .and⟩

/-- The texts of this filter, the literal being any JSON text of the part. -/
def LikeText (property part text : String) : Prop :=
  Clause.Text ⟨property, .like, .text part⟩ text.toList

/-- What stands in the text of the filter between the property and the part. -/
def likeSign : List Char := " like \"".toList

/-- A text that is read as a name before `like`: without blanks at its ends, with its quotes closed,
and with neither a junction nor, behind its first character, an operator that would be taken
before. -/
structure PropertyName (cs : List Char) : Prop where
  ends : BareEnds cs
  closed : placeBehind cs = .outside
  unjoined : Unjoined cs likeSign
  noOperator : ∀ front back, cs = front ++ back → front ≠ [] → back ≠ [] →
    ∀ op after, ¬OperatorAt (back ++ likeSign) op after

section Reading

variable {property part text : String} {cs more behind : List Char}

/-- Where no junction is found before an opening quote, none is found with another literal behind
that quote: nothing inside quotes counts. -/
theorem Unjoined.behind_quote {x others : List Char} (unjoined : Unjoined cs (x ++ '"' :: more)) :
    Unjoined cs (x ++ '"' :: others) := by
  intro before after split some outside joined
  rw [← List.append_assoc] at joined
  have whole := joined.before_quote.append ('"' :: more)
  rw [List.append_assoc] at whole
  exact unjoined before after split some outside whole

theorem likeSign_eq : likeSign = ' ' :: FilterOperator.like.name.toList ++ [' '] ++ ['"'] := by
  decide

theorem append_likeSign (front body : List Char) : front ++ (likeSign ++ body) =
    front ++ (' ' :: FilterOperator.like.name.toList ++ [' ']) ++ '"' :: body := by
  rw [likeSign_eq]
  simp

theorem likeSign_append (body : List Char) : likeSign ++ (body ++ ['"']) =
    ' ' :: FilterOperator.like.name.toList ++ ' ' :: ('"' :: body ++ ['"']) := by
  rw [likeSign_eq]
  simp

theorem bareEnds_quoted (body : List Char) : BareEnds ('"' :: body ++ ['"']) :=
  (bareEnds_singleton (by decide)).append (bareEnds_singleton (by decide)) body

/-- The text of the filter is the property, ` like "` and what the literal goes on with. -/
theorem likeText_iff : LikeText property part text ↔
    ∃ body, WrittenText part.toList body ∧
      text.toList = property.toList ++ (likeSign ++ (body ++ ['"'])) := by
  have other : FilterOperator.like ≠ .mem := by decide
  have shape (body : List Char) : property.toList ++ (likeSign ++ (body ++ ['"'])) =
      property.toList ++ ' ' :: FilterOperator.like.name.toList ++ ' ' :: ('"' :: body ++ ['"']) := by
    rw [likeSign_append, List.append_assoc]
  constructor
  · rintro ⟨literal, written, whole⟩
    cases (Clause.literalText_of_ne other).mp written with
    | @text _ body form => exact ⟨body, form, whole.trans (shape body).symm⟩
  · rintro ⟨body, form, whole⟩
    exact ⟨_, (Clause.literalText_of_ne other).mpr (.text form), whole.trans (shape body)⟩

/-- A filter without a junction is one clause, and the parser of filters has nothing to add to that
of clauses. -/
theorem Filter.parse_of_unjoined (trimmed : trim text.toList = cs) (some : cs ≠ [])
    (unjoined : Unjoined cs []) :
    Filter.parse text = (Clause.parse cs).map fun clause => ⟨[clause], .and⟩ := by
  obtain ⟨c, rest, rfl⟩ := List.exists_cons_of_ne_nil some
  rw [Filter.parse, trimmed]
  simp only [splitClauses_eq_self_iff.mpr unjoined]
  rw [List.mapM_cons]
  cases Clause.parse (c :: rest) <;> rfl

/-- What stands behind the property has no separator outside quotes. -/
theorem unjoined_likeSign {body : List Char} (written : WrittenText part.toList body) :
    Unjoined (likeSign ++ (body ++ ['"'])) [] := by
  have space : ∀ c ∈ [' '], isBlank c = true := forall_mem_of_decide (by decide)
  have word : Unsplit (' ' :: FilterOperator.like.name.toList) := FilterOperator.unsplit_name nofun
  have literal : Unsplit (' ' :: ('"' :: body ++ ['"'])) :=
    written.unsplit.after_blanks space (by decide) (by decide)
  rw [likeSign_append]
  exact (word.append literal).unjoined

/-- Behind its first character no operator is seen in a property name. -/
theorem PropertyName.operator?_eq_none (name : PropertyName cs) {front back : List Char}
    (split : cs = front ++ back) (some : front ≠ []) (more : back ≠ []) (body : List Char) :
    operator? (back ++ (likeSign ++ body)) = none := by
  cases seen : operator? (back ++ (likeSign ++ body)) with
  | none => rfl
  | some found =>
    have operator := operatorAt_of_operator? seen
    rw [append_likeSign] at operator
    obtain ⟨after, stands, -⟩ := operator.before_quote []
    rw [← append_likeSign, List.append_nil] at stands
    exact absurd stands (name.noOperator front back split some more _ _)

/-- The text of such a filter has no blanks at its ends, since it begins with the property and ends
with a quote. -/
theorem trim_likeText (ends : BareEnds property.toList) (read : LikeText property part text) :
    trim text.toList = text.toList := by
  obtain ⟨body, -, shape⟩ := likeText_iff.mp read
  refine trim_of_bareEnds ?_
  rw [shape, append_likeSign]
  exact ends.append (bareEnds_quoted body) (' ' :: FilterOperator.like.name.toList ++ [' '])

/-- No junction stands in the text of such a filter. In the property there is none by its
definition, and the rest is quoted. -/
theorem PropertyName.unjoined_text (name : PropertyName property.toList)
    (read : LikeText property part text) : Unjoined text.toList [] := by
  obtain ⟨body, written, shape⟩ := likeText_iff.mp read
  have front : Unjoined property.toList (likeSign ++ (body ++ ['"']) ++ []) := by
    have whole := name.unjoined
    rw [likeSign_eq] at whole
    have longer := append_likeSign [] (body ++ ['"'])
    rw [List.nil_append] at longer
    rw [List.append_nil, longer]
    exact whole.behind_quote
  rw [shape]
  exact front.append name.closed (unjoined_likeSign written)

/-- The first operator behind the first character of such a name is the one that follows the name. -/
theorem PropertyName.findOperator?_eq {c : Char} {rest : List Char} (name : PropertyName (c :: rest))
    (body : List Char) : ∃ blanks after,
      findOperator? (rest ++ (likeSign ++ (body ++ ['"']))) = some (rest ++ blanks, .like, after) ∧
        (∀ b ∈ blanks, isBlank b = true) ∧ trim after = '"' :: body ++ ['"'] := by
  obtain ⟨blanks, after, seen, blank, literal⟩ := FilterOperator.findOperator?_eq
    (show ∀ name, FilterOperator.like ≠ .unknown name from nofun) (bareEnds_quoted body)
  have unseen : ∀ before behind, rest = before ++ behind → behind ≠ [] →
      operator? (behind ++ (likeSign ++ (body ++ ['"']))) = none := by
    rintro before behind rfl more
    exact name.operator?_eq_none rfl (List.cons_ne_nil c before) more _
  refine ⟨blanks, after, ?_, blank, literal⟩
  rw [findOperator?_behind unseen, likeSign_append, seen]
  rfl

/-- Before ` like "` such a name is read as the property, whatever the literal is. The conditions of
a name keep the filter from being split and from another operator. -/
theorem PropertyName.parse_eq (name : PropertyName property.toList) (read : LikeText property part text) :
    Filter.parse text = .ok (likeFilter property part) := by
  obtain ⟨body, written, shape⟩ := likeText_iff.mp read
  obtain ⟨c, rest, first, -⟩ := name.ends.first
  obtain ⟨blanks, after, found, blank, literal⟩ := (first ▸ name : PropertyName (c :: rest)).findOperator?_eq body
  have trimmed := trim_likeText name.ends read
  have begins : text.toList = c :: (rest ++ (likeSign ++ (body ++ ['"']))) := by
    rw [shape, first]
    rfl
  have reads : ReadsLiteral .like (trim after) (.text part) := by
    rw [literal]
    exact .plain (by decide) ((JsonText.text written).read_eq (by simp [Value.Plain]))
  have named : property = String.ofList (trim (c :: (rest ++ blanks))) := by
    have whole := trim_append (List.forall_mem_nil _) name.ends blank
    rw [List.nil_append, first, List.cons_append] at whole
    rw [whole, ← first, String.ofList_toList]
  have clause : Clause.parse text.toList = .ok ⟨property, .like, .text part⟩ :=
    Clause.parse_eq_ok_iff.mpr ⟨c, _, _, after, trimmed.trans begins, found, reads, named⟩
  rw [Filter.parse_of_unjoined trimmed (by simp [begins]) (name.unjoined_text read), clause]
  rfl

/-- A filter of one clause is read from a text that is not split. -/
theorem Filter.single_of_parse {clause : Clause} {j : Junction}
    (run : Filter.parse text = .ok ⟨[clause], j⟩) :
    Unjoined (trim text.toList) [] ∧ Clause.parse (trim text.toList) = .ok clause := by
  rw [Filter.parse.eq_def] at run
  split at run
  · cases run
  · dsimp only at run
    split at run
    · cases run
    · obtain ⟨clauses, read, same⟩ := bind_eq_ok_iff.mp run
      cases same
      rw [List.mapM_cons] at read
      obtain ⟨first, firstRun, read⟩ := bind_eq_ok_iff.mp read
      obtain ⟨others, othersRun, same⟩ := bind_eq_ok_iff.mp read
      cases same
      have single := List.map_eq_nil_iff.mp (eq_nil_of_mapM othersRun)
      have unjoined := (splitClauses_cuts _).unjoined_of_single single
      rw [splitClauses_eq_self_iff.mpr unjoined] at firstRun
      exact ⟨unjoined, firstRun⟩

/-- Behind a text one is outside quotes, or inside one of the two kinds, and there perhaps behind a
backslash. -/
theorem placeBehind_cases (cs : List Char) : placeBehind cs = .outside ∨
    ∃ q, (q = '\'' ∨ q = '"') ∧ (placeBehind cs = .inside q ∨ placeBehind cs = .escaped q) := by
  induction cs using List.reverseRecOn with
  | nil => exact .inl rfl
  | append_singleton cs c ih =>
    rw [placeBehind_concat]
    rcases ih with outside | ⟨q, mark, inside | escaped⟩
    · rw [outside, QuotePlace.next]
      split
      · next mark => exact .inr ⟨c, mark, .inl rfl⟩
      · exact .inl rfl
    · rw [inside, QuotePlace.next]
      split
      · exact .inr ⟨q, mark, .inr rfl⟩
      · split
        · exact .inl rfl
        · exact .inr ⟨q, mark, .inl rfl⟩
    · rw [escaped]
      exact .inr ⟨q, mark, .inl rfl⟩

/-- The literal of this part ends quotes that the property has left open, of either kind, before one
of its junctions. -/
theorem closed_of_unjoined (unjoined : Unjoined (property.toList ++ (likeSign ++
    ("a and ' and b".toList ++ ['"']))) []) : placeBehind property.toList = .outside := by
  have places (back : List Char) : placeBehind (property.toList ++ back) =
      back.foldl QuotePlace.next (placeBehind property.toList) := placeBehind_append _ _
  have spaced : JunctionText .and ([' '] ++ (['a', 'n', 'd'] ++ [' '])) :=
    .mk (by decide) (forall_mem_of_decide (by decide)) (by decide) (by decide)
      (forall_mem_of_decide (by decide))
  have early : placeBehind (property.toList ++ (likeSign ++ ['a'])) ≠ .outside := by
    have whole : Unjoined (property.toList ++ (likeSign ++ ['a']) ++
        ([' '] ++ (['a', 'n', 'd'] ++ [' ']) ++ "' and b\"".toList)) [] := by
      rw [List.append_assoc]
      exact unjoined
    exact whole.place_ne_outside spaced
  have late : placeBehind (property.toList ++ (likeSign ++ "a and '".toList)) ≠ .outside := by
    have whole : Unjoined (property.toList ++ (likeSign ++ "a and '".toList) ++
        ([' '] ++ (['a', 'n', 'd'] ++ [' ']) ++ "b\"".toList)) [] := by
      rw [List.append_assoc]
      exact unjoined
    exact whole.place_ne_outside spaced
  rcases placeBehind_cases property.toList with outside | ⟨q, rfl | rfl, inside⟩
  · exact outside
  · rw [places] at late
    rcases inside with same | same <;> rw [same] at late <;> exact absurd (by decide) late
  · rw [places] at early
    rcases inside with same | same <;> rw [same] at early <;> exact absurd (by decide) early

/-- Where a property is read before ` like "`, no operator stands in it behind its first character,
for the first one would have been taken. -/
theorem not_operatorAt_of_parse {body front back : List Char} {after : List Char} {op : FilterOperator}
    {value : Value} (parsed : Clause.parse cs = .ok ⟨property, .like, value⟩)
    (trimmed : trim cs = front ++ back ++ (likeSign ++ body)) (whole : property.toList = front ++ back)
    (some : front ≠ []) (more : back ≠ []) : ¬OperatorAt (back ++ likeSign) op after := by
  intro operator
  obtain ⟨c, rest, before, tail, first, found, -, named⟩ := Clause.parse_eq_ok_iff.mp parsed
  obtain ⟨d, others, rfl⟩ := List.exists_cons_of_ne_nil some
  rw [trimmed, List.cons_append, List.cons_append] at first
  obtain ⟨rfl, rfl⟩ := List.cons.inj first
  have seen : operator? (back ++ (likeSign ++ body)) ≠ none := by
    rw [← List.append_nil likeSign, append_likeSign] at operator
    obtain ⟨behind, stands, mark⟩ := operator.before_quote body
    rw [append_likeSign]
    refine stands.operator?_ne_none fun blank => ?_
    have none := trimLeft_eq_nil_iff.mp blank '"' mark
    exact absurd none (by decide)
  rw [List.append_assoc] at found
  have early := length_le_of_findOperator? seen found
  have short := length_trim_le (d :: before)
  have same : property.toList.length = (trim (d :: before)).length := by
    rw [show property = String.ofList (trim (d :: before)) from named, String.toList_ofList]
  have positive := List.length_pos_iff.mpr more
  rw [whole, List.length_append, List.length_cons] at same
  rw [List.length_cons] at short
  omega

/-- Only such names are read before ` like "` whatever the literal is. Where one of the conditions
of a name is not met, some filter is split or has another operator. -/
theorem propertyName_of_parse (reads : ∀ part text, LikeText property part text →
    Filter.parse text = .ok (likeFilter property part)) : PropertyName property.toList := by
  have plain : "a and ' and b".toList.flatMap writeChar = "a and ' and b".toList := by decide
  have read : LikeText property "a and ' and b" (String.ofList (property.toList ++
      (likeSign ++ ("a and ' and b".toList ++ ['"'])))) :=
    likeText_iff.mpr ⟨_, plain ▸ WrittenText.of_writeChar _, String.toList_ofList⟩
  obtain ⟨unjoined, parsed⟩ := Filter.single_of_parse (reads _ _ read)
  have ends : BareEnds property.toList := by
    obtain ⟨_, _, _, _, _, _, named, ends, _⟩ := Clause.parts_of_parse parsed
    rwa [named]
  have trimmed := trim_likeText ends read
  rw [trimmed] at parsed
  rw [trimmed, String.toList_ofList] at unjoined
  rw [String.toList_ofList] at trimmed
  refine ⟨ends, closed_of_unjoined unjoined, ?_, ?_⟩
  · rintro before after split some outside joined
    refine unjoined before (after ++ (likeSign ++ ("a and ' and b".toList ++ ['"']))) ?_ ?_ outside ?_
    · rw [split, List.append_assoc]
    · simp [some]
    · have longer := joined.append ("a and ' and b".toList ++ ['"'])
      rwa [List.append_nil, ← List.append_assoc]
  · intro front back whole some more op after
    rw [String.toList_ofList] at parsed
    exact not_operatorAt_of_parse parsed (by rw [trimmed, whole]) whole some more

/-- A word without quotes and signs is such a name. -/
theorem propertyName_of_word (some : cs ≠ []) (word : ∀ c ∈ cs, isBlank c = false ∧
    (c ≠ '\'' ∧ c ≠ '"') ∧ c ∉ comparisonSigns) : PropertyName cs where
  ends := bareEnds_of_forall some fun c member => (word c member).1
  closed := placeBehind_of_unquoted fun c member => (word c member).2.1
  unjoined := by
    rintro before after rfl some - joined
    obtain ⟨c, more, rfl⟩ := List.exists_cons_of_ne_nil some
    obtain ⟨b, rest, same, blank⟩ := joined.begins
    obtain ⟨rfl, -⟩ := List.cons.inj same
    rw [(word c (by simp)).1] at blank
    cases blank
  noOperator := by
    rintro front back rfl - some op after operator
    obtain ⟨c, more, rfl⟩ := List.exists_cons_of_ne_nil some
    obtain ⟨b, rest, same, begins⟩ := operator.begins
    obtain ⟨rfl, -⟩ := List.cons.inj same
    obtain ⟨bare, -, unsigned⟩ := word c (by simp)
    rcases begins with sign | blank
    · exact unsigned sign
    · rw [bare] at blank
      cases blank

end Reading

end GuardedRecords
