import GuardedRecords.Proofs.ClauseCuts
import GuardedRecords.Proofs.ClauseForms

namespace GuardedRecords

section Operators

variable {op : FilterOperator} {s after word spelled : List Char}

theorem CaseSpelled.afterWord?_eq (spelling : CaseSpelled word spelled) (rest : List Char) :
    afterWord? word (spelled ++ rest) = some (spelled, rest) := by
  induction spelling with
  | nil => rfl
  | cons case _ ih => rw [List.cons_append, afterWord?, if_pos case, ih, Option.map_some]

theorem CaseSpelled.begins (known : word ∈ operatorWords) (spelling : CaseSpelled word spelled) :
    ∃ c more, spelled = c :: more ∧ isBlank c = false := by
  have plain := spelling.plain known
  cases spelling with
  | nil => exact absurd known (by decide)
  | @cons _ c _ more => exact ⟨c, more, rfl, (plain c List.mem_cons_self).2.1⟩

/-- No spelling of one operator word begins like another word. -/
theorem CaseSpelled.afterWord?_like (spelling : CaseSpelled "in".toList spelled) (rest : List Char) :
    afterWord? "like".toList (spelled ++ rest) = none := by
  have apart : ∀ c ∈ casesOf 'i', isCaseOf 'l' c = false := forall_mem_of_decide (by decide)
  cases spelling with
  | @cons _ c _ more case =>
    have first := apart c (mem_casesOf_of_isCaseOf (by decide) case)
    rw [List.cons_append]
    show (if isCaseOf 'l' c = true then _ else none) = none
    rw [first]
    rfl

theorem operator?_of_blank {b : Char} (blank : isBlank b = true) (rest : List Char) :
    operator? (b :: rest) =
      match (wordOperator? "like".toList (b :: rest)).orElse fun _ =>
        wordOperator? "in".toList (b :: rest) with
      | some (op, c :: rest) => some (op, c :: rest)
      | _ => none := by
  have unsigned {c : Char} (sign : c ∈ comparisonSigns) : b ≠ c := by
    have table : ∀ c ∈ comparisonSigns, isBlank c = false := forall_mem_of_decide (by decide)
    exact ne_of_isBlank blank (table c sign)
  refine operator?.eq_6 (b :: rest) ?_ ?_ ?_ ?_ ?_
  all_goals
    intro _ _ same
    exact unsigned (by decide) (List.cons.inj same).1

/-- An operator with more than blanks behind it is seen where it stands. -/
theorem OperatorAt.operator?_ne_none (operator : OperatorAt s op after) (more : trimLeft after ≠ []) :
    operator? s ≠ none := by
  cases operator with
  | sign known some =>
    obtain ⟨c, rest, name, sign⟩ := exists_name_eq_cons known
    rw [name]
    exact operator?_sign sign (by simp [some])
  | @word left word spelled right _ known spelling before leftBlank behind rightBlank =>
    obtain ⟨b, blanks, rfl⟩ := List.exists_cons_of_ne_nil before
    obtain ⟨d, others, rfl⟩ := List.exists_cons_of_ne_nil behind
    obtain ⟨c, rest, left⟩ := List.exists_cons_of_ne_nil more
    obtain ⟨first, blanksBlank⟩ := List.forall_mem_cons.mp leftBlank
    obtain ⟨second, othersBlank⟩ := List.forall_mem_cons.mp rightBlank
    have skipped : trimLeft (b :: (blanks ++ (spelled ++ (d :: others ++ after)))) =
        spelled ++ d :: (others ++ after) := by
      obtain ⟨c, more, rfl, bare⟩ := spelling.begins known
      exact trimLeft_append leftBlank bare _
    have seen : wordOperator? word (b :: (blanks ++ (spelled ++ (d :: others ++ after)))) =
        some (.ofWord (lower (String.ofList spelled)), c :: rest) := by
      simp only [wordOperator?, first, if_true, skipped, spelling.afterWord?_eq, second,
        trimLeft_blanks othersBlank, left]
    rw [List.cons_append, operator?_of_blank first]
    rcases List.mem_cons.mp known with rfl | other
    · rw [seen]
      exact Option.some_ne_none _
    · obtain rfl := List.mem_singleton.mp other
      have unlike : wordOperator? "like".toList (b :: (blanks ++ (spelled ++ (d :: others ++ after)))) =
          none := by
        simp only [wordOperator?, first, if_true, skipped, spelling.afterWord?_like]
      rw [unlike, Option.orElse_none, seen]
      exact Option.some_ne_none _

/-- Up to a text at which an operator is seen there is nothing to find only if none is seen
before. -/
theorem findOperator?_behind {front tail : List Char}
    (unseen : ∀ before behind, front = before ++ behind → behind ≠ [] →
      operator? (behind ++ tail) = none) :
    findOperator? (front ++ tail) = (findOperator? tail).map fun r => (front ++ r.1, r.2) := by
  induction front with
  | nil => simp
  | cons c front ih =>
    have others := ih fun before behind split => unseen (c :: before) behind (by rw [split]; rfl)
    have first : operator? (c :: (front ++ tail)) = none :=
      unseen [] (c :: front) rfl (List.cons_ne_nil c front)
    rw [List.cons_append, findOperator?, first]
    simp only [others, Option.map_map]
    rfl

/-- The operator that is found is no further behind than any that is seen: the text is searched from
the front. -/
theorem length_le_of_findOperator? {front before : List Char} (seen : operator? s ≠ none)
    (found : findOperator? (front ++ s) = some (before, op, after)) :
    before.length ≤ front.length := by
  induction front generalizing before with
  | nil =>
    cases s with
    | nil => exact absurd rfl seen
    | cons c rest =>
      rw [List.nil_append, findOperator?] at found
      split at found
      · cases found
        exact Nat.le_refl _
      · next none => exact absurd none seen
  | cons c front ih =>
    rw [List.cons_append, findOperator?] at found
    split at found
    · cases found
      exact Nat.zero_le _
    · obtain ⟨⟨others, _, _⟩, run, same⟩ := Option.map_eq_some_iff.mp found
      cases same
      exact Nat.succ_le_succ (ih run)

end Operators

section Marks

variable {x s more rest after : List Char} {op : FilterOperator}

/-- Text without quotes at the front of another ends before the first quote there. -/
theorem exists_of_unquoted {front : List Char} (unquoted : ∀ c ∈ front, c ≠ '"')
    (split : x ++ '"' :: more = front ++ rest) :
    ∃ behind, x = front ++ behind ∧ rest = behind ++ '"' :: more := by
  rcases List.append_eq_append_iff.mp split with ⟨others, rfl, quoted⟩ | ⟨behind, rfl, same⟩
  · cases others with
    | nil => exact ⟨[], by simp, by simpa using quoted.symm⟩
    | cons c others =>
      obtain ⟨rfl, -⟩ := List.cons.inj quoted
      exact absurd rfl (unquoted '"' (by simp))
  · exact ⟨behind, rfl, same⟩

theorem JoinedAt.before_quote (joined : JoinedAt (x ++ '"' :: more)) : JoinedAt x := by
  obtain ⟨j, separator, rest, split, separates⟩ := joined
  obtain ⟨behind, rfl, -⟩ := exists_of_unquoted (fun c member => (separates.unquoted c member).2) split
  exact ⟨j, separator, behind, rfl, separates⟩

/-- An operator stands in front of any text as it stands in front of one. It has no quotes in it,
and nothing but its own characters and one behind decide. -/
theorem OperatorAt.exists_sign (operator : OperatorAt s op after) :
    ∃ sign, s = sign ++ after ∧ (∀ c ∈ sign, c ≠ '"') ∧
      ∀ other, other ≠ [] → OperatorAt (sign ++ other) op other := by
  cases operator with
  | sign known =>
    have table : ∀ c ∈ signOperators.flatMap (·.name.toList), c ≠ '"' :=
      forall_mem_of_decide (by decide)
    exact ⟨_, rfl, fun c member => table c (List.mem_flatMap.mpr ⟨op, known, member⟩),
      fun other some => .sign known some⟩
  | @word left word spelled right _ known spelling before leftBlank behind rightBlank =>
    have unquoted {c : Char} (blank : isBlank c = true) : c ≠ '"' := (plain_of_isBlank blank).1
    refine ⟨left ++ (spelled ++ right), by simp, ?_, fun other some => ?_⟩
    · exact List.forall_mem_append.mpr ⟨fun c member => unquoted (leftBlank c member),
        List.forall_mem_append.mpr ⟨fun c member => (spelling.plain known c member).1.1,
          fun c member => unquoted (rightBlank c member)⟩⟩
    · rw [List.append_assoc, List.append_assoc]
      exact .word known spelling before leftBlank behind rightBlank some

/-- An operator before an opening quote stays the same with another literal behind it. No operator
reaches into quotes. -/
theorem OperatorAt.before_quote (operator : OperatorAt (x ++ '"' :: more) op after)
    (others : List Char) : ∃ behind, OperatorAt (x ++ '"' :: others) op behind ∧ '"' ∈ behind := by
  obtain ⟨sign, split, unquoted, stands⟩ := operator.exists_sign
  obtain ⟨behind, rfl, -⟩ := exists_of_unquoted unquoted split
  refine ⟨behind ++ '"' :: others, ?_, by simp⟩
  rw [List.append_assoc]
  exact stands _ (by simp)

end Marks

end GuardedRecords
