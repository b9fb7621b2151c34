import Mathlib.Data.List.Infix
import Mathlib.Data.List.TakeWhile
import GuardedRecords.Text.Case
import GuardedRecords.Text.Split

namespace GuardedRecords

theorem occursIn_iff {part cs : List Char} : occursIn part cs = true ↔ part <:+: cs := by
  induction cs with
  | nil => simp [occursIn]
  | cons c rest ih =>
    rw [occursIn, Bool.or_eq_true, List.isPrefixOf_iff_prefix, ih, List.infix_cons_iff]

/-- The small form of a capital sigma between two texts, the first of which is read backwards. -/
def smallSigma (before after : List Char) : Char :=
  if meetsCased before && !meetsCased after then 'ς' else 'σ'

/-- Lower case of a text that stands between two others, the first of which is read backwards. -/
def lowerBetween (before after : List Char) : List Char → List Char
  | [] => []
  | c :: rest =>
    (if c = 'Σ' then [smallSigma before (rest ++ after)] else lowerChar c) ++
      lowerBetween (c :: before) after rest

/-- Whether the capital sigmas of a text have the small forms between two others that they have on
their own. -/
def SigmasAlike (before after cs : List Char) : Prop :=
  ∀ front back, cs = front ++ 'Σ' :: back →
    smallSigma (front.reverse ++ before) (back ++ after) = smallSigma front.reverse back

/-- Whether a text has a capital sigma whose small form is not settled by the text: with a cased
letter before it and none but ignorable characters behind it, or with none but these before it and
no cased letter behind it. -/
def LooseSigma (cs : List Char) : Prop :=
  ∃ front back, cs = front ++ 'Σ' :: back ∧
    (meetsCased front.reverse = true ∧ (∀ c ∈ back, isCaseIgnorable c = true) ∨
      (∀ c ∈ front, isCaseIgnorable c = true) ∧ meetsCased back = false)

section Context

variable {before after cs more : List Char}

/-- Lower case of a text in two parts. The first part is done with the second behind it and the
second with the first before it, since a sigma looks both ways. -/
theorem lowerAfter_append (before cs more : List Char) :
    lowerAfter before (cs ++ more) =
      lowerBetween before more cs ++ lowerAfter (cs.reverse ++ before) more := by
  induction cs generalizing before with
  | nil => rfl
  | cons c cs ih =>
    rw [List.cons_append, lowerAfter, lowerBetween, ih, List.append_assoc, List.reverse_cons,
      List.append_assoc]
    rfl

theorem lowerAfter_eq (before cs : List Char) : lowerAfter before cs = lowerBetween before [] cs := by
  have whole := lowerAfter_append before cs []
  rwa [List.append_nil, lowerAfter, List.append_nil] at whole

theorem lowerBetween_append (before after cs more : List Char) :
    lowerBetween before after (cs ++ more) =
      lowerBetween before (more ++ after) cs ++ lowerBetween (cs.reverse ++ before) after more := by
  induction cs generalizing before with
  | nil => rfl
  | cons c cs ih =>
    rw [List.cons_append, lowerBetween, lowerBetween, ih, List.append_assoc, List.reverse_cons,
      List.append_assoc, List.append_assoc]
    rfl

/-- A text within another is lowered between what stands before and behind it. -/
theorem lowerChars_infix (left cs right : List Char) :
    lowerBetween left.reverse right cs <:+: lowerChars (left ++ cs ++ right) := by
  refine ⟨lowerBetween [] (cs ++ right) left, lowerAfter (cs.reverse ++ left.reverse) right, ?_⟩
  rw [lowerChars, List.append_assoc left, lowerAfter_append, List.append_nil, lowerAfter_append,
    List.append_assoc]

/-- What stands around a text matters to its capital sigmas only, so lower case is the same where
each of these gets the same small form. -/
theorem lowerBetween_congr {before' after' : List Char}
    (alike : ∀ front back, cs = front ++ 'Σ' :: back →
      smallSigma (front.reverse ++ before) (back ++ after) =
        smallSigma (front.reverse ++ before') (back ++ after')) :
    lowerBetween before after cs = lowerBetween before' after' cs := by
  induction cs generalizing before before' with
  | nil => rfl
  | cons c cs ih =>
    have others : lowerBetween (c :: before) after cs = lowerBetween (c :: before') after' cs := by
      refine ih fun front back split => ?_
      have whole := alike (c :: front) back (by rw [split]; rfl)
      simpa using whole
    rw [lowerBetween, lowerBetween, others]
    split
    · next sigma =>
      have first : smallSigma before (cs ++ after) = smallSigma before' (cs ++ after') :=
        alike [] cs (by rw [sigma]; rfl)
      rw [first]
    · rfl

theorem SigmasAlike.lowerBetween_eq (alike : SigmasAlike before after cs) :
    lowerBetween before after cs = lowerChars cs := by
  rw [lowerChars, lowerAfter_eq]
  exact lowerBetween_congr fun front back split => by simpa using alike front back split

end Context

section Cased

variable {cs more : List Char}

theorem meetsCased_append_of_ignorable (ignorable : ∀ c ∈ cs, isCaseIgnorable c = true) :
    meetsCased (cs ++ more) = meetsCased more := by
  rw [meetsCased, List.dropWhile_append_of_pos ignorable, meetsCased]

theorem meetsCased_of_ignorable (ignorable : ∀ c ∈ cs, isCaseIgnorable c = true) :
    meetsCased cs = false := by
  have whole : meetsCased (cs ++ []) = meetsCased [] := meetsCased_append_of_ignorable ignorable
  rwa [List.append_nil] at whole

theorem meetsCased_append_of_counts (counts : ¬∀ c ∈ cs, isCaseIgnorable c = true) :
    meetsCased (cs ++ more) = meetsCased cs := by
  have some : cs.dropWhile isCaseIgnorable ≠ [] := fun none =>
    counts (List.dropWhile_eq_nil_iff.mp none)
  obtain ⟨c, rest, left⟩ := List.exists_cons_of_ne_nil some
  rw [meetsCased, List.dropWhile_append, left, meetsCased, left]
  rfl

theorem meetsCased_append (cased : meetsCased cs = true) : meetsCased (cs ++ more) = true := by
  rw [meetsCased_append_of_counts, cased]
  intro ignorable
  rw [meetsCased_of_ignorable ignorable] at cased
  cases cased

theorem meetsCased_of_append (uncased : meetsCased (cs ++ more) = false) : meetsCased cs = false := by
  by_contra cased
  rw [meetsCased_append (eq_true_of_ne_false cased)] at uncased
  cases uncased

end Cased

section Sigmas

variable {before after cs : List Char}

/-- A sigma is a final one exactly if a cased letter comes before it and none follows, the ignored
characters set aside. -/
theorem smallSigma_eq_final : smallSigma before after = 'ς' ↔
    meetsCased before = true ∧ meetsCased after = false := by
  rw [smallSigma]
  cases meetsCased before <;> cases meetsCased after <;> decide

theorem smallSigma_eq_inner : smallSigma before after = 'σ' ↔
    (meetsCased before = true → meetsCased after = true) := by
  rw [smallSigma]
  cases meetsCased before <;> cases meetsCased after <;> decide

/-- A text without such a sigma is lowered in the same way everywhere: each of its sigmas has what
settles it within the text. -/
theorem sigmasAlike_of_not_looseSigma (settled : ¬LooseSigma cs) (before after : List Char) :
    SigmasAlike before after cs := by
  intro front back split
  rw [LooseSigma] at settled
  push Not at settled
  obtain ⟨behind, ahead⟩ := settled front back split
  by_cases marks : ∀ c ∈ front, isCaseIgnorable c = true
  · have cased : meetsCased back = true := eq_true_of_ne_false (ahead marks)
    rw [smallSigma_eq_inner.mpr fun _ => meetsCased_append cased, smallSigma_eq_inner.mpr fun _ => cased]
  · have counts : ¬∀ c ∈ front.reverse, isCaseIgnorable c = true := by simpa using marks
    rw [smallSigma, smallSigma, meetsCased_append_of_counts counts]
    cases cased : meetsCased front.reverse with
    | false => rfl
    | true =>
      obtain ⟨c, member, counts⟩ := behind cased
      rw [meetsCased_append_of_counts fun ignorable => counts (ignorable c member)]

/-- Between texts that change no sigma into a given small form there are no more of that form than
between others. -/
theorem count_lowerBetween_le {before' after' : List Char} {small : Char}
    (kept : ∀ front back, cs = front ++ 'Σ' :: back →
      smallSigma (front.reverse ++ before) (back ++ after) = small →
      smallSigma (front.reverse ++ before') (back ++ after') = small) :
    (lowerBetween before after cs).count small ≤ (lowerBetween before' after' cs).count small := by
  induction cs generalizing before before' with
  | nil => exact Nat.le_refl _
  | cons c cs ih =>
    have others : (lowerBetween (c :: before) after cs).count small ≤
        (lowerBetween (c :: before') after' cs).count small := by
      refine ih fun front back split => ?_
      have whole := kept (c :: front) back (by rw [split]; rfl)
      simpa using whole
    rw [lowerBetween, lowerBetween, List.count_append, List.count_append]
    refine Nat.add_le_add ?_ others
    split
    · next sigma =>
      have first : smallSigma before (cs ++ after) = small → smallSigma before' (cs ++ after') = small :=
        kept [] cs (by rw [sigma]; rfl)
      by_cases same : smallSigma before (cs ++ after) = small
      · simp [same, first same]
      · simp [List.count_singleton, same]
    · exact Nat.le_refl _

/-- If a change of surroundings keeps all sigmas of one small form and turns another one into it,
then there are more of them afterwards. This tells the two results apart. -/
theorem count_lowerBetween_lt {before' after' front back : List Char} {small : Char}
    (kept : ∀ front back, cs = front ++ 'Σ' :: back →
      smallSigma (front.reverse ++ before) (back ++ after) = small →
      smallSigma (front.reverse ++ before') (back ++ after') = small)
    (split : cs = front ++ 'Σ' :: back)
    (lost : smallSigma (front.reverse ++ before) (back ++ after) ≠ small)
    (had : smallSigma (front.reverse ++ before') (back ++ after') = small) :
    (lowerBetween before after cs).count small < (lowerBetween before' after' cs).count small := by
  subst split
  have ahead : (lowerBetween before ('Σ' :: back ++ after) front).count small ≤
      (lowerBetween before' ('Σ' :: back ++ after') front).count small := by
    refine count_lowerBetween_le fun first second split => ?_
    have whole := kept first (second ++ 'Σ' :: back) (by simp [split])
    simpa using whole
  have behind : (lowerBetween ('Σ' :: (front.reverse ++ before)) after back).count small ≤
      (lowerBetween ('Σ' :: (front.reverse ++ before')) after' back).count small := by
    refine count_lowerBetween_le fun first second split => ?_
    have whole := kept (front ++ 'Σ' :: first) second (by simp [split])
    simpa using whole
  have unchanged : [smallSigma (front.reverse ++ before) (back ++ after)].count small = 0 :=
    List.count_eq_zero.mpr (by simpa using Ne.symm lost)
  have changed : [smallSigma (front.reverse ++ before') (back ++ after')].count small = 1 := by
    rw [had]
    exact List.count_singleton_self
  rw [lowerBetween_append, lowerBetween_append, lowerBetween, lowerBetween, if_pos rfl, if_pos rfl]
  simp only [List.count_append]
  omega

/-- Between suitable texts a text with such a sigma is not lowered to what it is on its own, nor is
that anywhere else in the whole. -/
theorem LooseSigma.exists_not_infix (loose : LooseSigma cs) :
    ∃ left right, ¬lowerChars cs <:+: lowerChars (left ++ cs ++ right) := by
  have capital : meetsCased ['A'] = true := by decide +kernel
  obtain ⟨front, back, split, ⟨cased, marks⟩ | ⟨marks, uncased⟩⟩ := loose
  · -- A letter behind the text makes its final sigmas inner ones, and none of the others final.
    refine ⟨[], ['A'], fun within => ?_⟩
    have fewer : (lowerBetween [] ['A'] cs).count 'ς' < (lowerBetween [] [] cs).count 'ς' := by
      refine count_lowerBetween_lt ?_ split ?_ ?_
      · intro first second _ final
        obtain ⟨before, after⟩ := smallSigma_eq_final.mp final
        rw [List.append_nil] at before ⊢
        exact smallSigma_eq_final.mpr ⟨before, by rw [List.append_nil]; exact meetsCased_of_append after⟩
      · intro final
        have after := (smallSigma_eq_final.mp final).2
        rw [meetsCased_append_of_ignorable marks, capital] at after
        cases after
      · rw [List.append_nil, List.append_nil]
        exact smallSigma_eq_final.mpr ⟨cased, meetsCased_of_ignorable marks⟩
    have whole : lowerChars ([] ++ cs ++ ['A']) = lowerBetween [] ['A'] cs ++ ['a'] := by
      rw [List.nil_append, lowerChars, lowerAfter_append]
      rfl
    have most := within.sublist.count_le 'ς'
    rw [whole, lowerChars, lowerAfter_eq, List.count_append] at most
    have none : ['a'].count 'ς' = 0 := by decide
    omega
  · -- A letter before the text makes inner sigmas final ones, and none of the others inner.
    refine ⟨['A'], [], fun within => ?_⟩
    have fewer : (lowerBetween ['A'] [] cs).count 'σ' < (lowerBetween [] [] cs).count 'σ' := by
      refine count_lowerBetween_lt ?_ split ?_ ?_
      · intro first second _ inner
        rw [List.append_nil] at inner ⊢
        rw [List.append_nil]
        exact smallSigma_eq_inner.mpr fun cased => smallSigma_eq_inner.mp inner (meetsCased_append cased)
      · intro inner
        have after := smallSigma_eq_inner.mp inner
        rw [meetsCased_append_of_ignorable (by simpa using marks), List.append_nil, uncased] at after
        cases after capital
      · rw [List.append_nil, List.append_nil]
        refine smallSigma_eq_inner.mpr fun cased => ?_
        rw [meetsCased_of_ignorable (by simpa using marks)] at cased
        cases cased
    have whole : lowerChars (['A'] ++ cs ++ []) = 'a' :: lowerBetween ['A'] [] cs := by
      rw [List.append_nil, lowerChars, List.singleton_append, lowerAfter, lowerAfter_eq]
      rfl
    have most := within.sublist.count_le 'σ'
    rw [whole, lowerChars, lowerAfter_eq, List.count_cons_of_ne (by decide)] at most
    omega

end Sigmas

end GuardedRecords
