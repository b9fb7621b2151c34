namespace GuardedRecords

/-- The items in order, where those that the order does not tell apart are as they were before. -/
structure StablySorted {α : Type} (order : α → α → Ordering) (items sorted : List α) : Prop where
  perm : sorted.Perm items
  ordered : sorted.Pairwise fun a b => (order a b).isLE
  stable : ∀ tied : List α, tied.Sublist items → tied.Pairwise (fun a b => order a b = .eq) →
    tied.Sublist sorted

section Ties

variable {α : Type} {order : α → α → Ordering} {items sorted : List α}

/-- The items that the order does not tell from a given one. -/
def tiedWith (order : α → α → Ordering) (a : α) (items : List α) : List α :=
  items.filter fun b => order a b == .eq

theorem mem_tiedWith {a b : α} : b ∈ tiedWith order a items ↔ b ∈ items ∧ order a b = .eq := by
  rw [tiedWith, List.mem_filter, beq_iff_eq]

/-- An item that is tied with a given one comes first among the tied ones where it comes first. -/
theorem tiedWith_cons_of_tie {a b : α} (tie : order a b = .eq) (rest : List α) :
    tiedWith order a (b :: rest) = b :: tiedWith order a rest :=
  List.filter_cons_of_pos (by rw [tie, beq_self_eq_true])

variable [Std.TransCmp order]

theorem pairwise_tiedWith (a : α) : (tiedWith order a items).Pairwise fun b c => order b c = .eq := by
  rw [tiedWith, List.pairwise_filter]
  refine List.pairwise_of_forall fun b c first second => ?_
  exact Std.TransCmp.eq_trans (Std.OrientedCmp.eq_symm (eq_of_beq first)) (eq_of_beq second)

/-- The items that tie with a given one stay in their order, and no other item comes among them. -/
theorem StablySorted.tiedWith_eq (arranged : StablySorted order items sorted) (a : α) :
    tiedWith order a sorted = tiedWith order a items := by
  have kept : (tiedWith order a items).Sublist sorted :=
    arranged.stable _ List.filter_sublist (pairwise_tiedWith a)
  have within : (tiedWith order a items).Sublist (tiedWith order a sorted) := by
    have again := kept.filter fun b => order a b == .eq
    simpa only [tiedWith, List.filter_filter, Bool.and_self] using again
  exact (within.eq_of_length (arranged.perm.filter _).length_eq.symm).symm

/-- What ties in the sorted list was in the same order before. -/
theorem StablySorted.sublist_of_tied (arranged : StablySorted order items sorted) {tied : List α}
    (part : tied.Sublist sorted) (ties : tied.Pairwise fun a b => order a b = .eq) :
    tied.Sublist items := by
  cases tied with
  | nil => exact List.nil_sublist items
  | cons a rest =>
    have whole : tiedWith order a (a :: rest) = a :: rest := by
      refine List.filter_eq_self.mpr fun b member => beq_iff_eq.mpr ?_
      rcases List.mem_cons.mp member with rfl | later
      · exact Std.ReflCmp.compare_self
      · exact List.rel_of_pairwise_cons ties later
    have inClass : (tiedWith order a (a :: rest)).Sublist (tiedWith order a sorted) :=
      part.filter fun b => order a b == .eq
    rw [whole, arranged.tiedWith_eq] at inClass
    exact inClass.trans List.filter_sublist

/-- If two lists have the same items tied with each one, then they have the same items, as each is
tied with itself. -/
theorem mem_of_tiedWith_eq {first second : List α}
    (same : ∀ a, tiedWith order a first = tiedWith order a second) {a : α} (member : a ∈ first) :
    a ∈ second := by
  have inClass : a ∈ tiedWith order a first :=
    mem_tiedWith.mpr ⟨member, Std.ReflCmp.compare_self⟩
  rw [same] at inClass
  exact (mem_tiedWith.mp inClass).1

theorem isLE_of_mem_cons {a b : α} {rest : List α}
    (ordered : (a :: rest).Pairwise fun a b => (order a b).isLE) (member : b ∈ a :: rest) :
    (order a b).isLE := by
  rcases List.mem_cons.mp member with rfl | later
  · exact Std.ReflCmp.isLE_rfl
  · exact List.rel_of_pairwise_cons ordered later

/-- An ordered list is known from its classes of items that tie. By induction; the first item has
nothing before it, so it is the first of its class in both lists. -/
theorem eq_of_tiedWith_eq {first second : List α}
    (ordered : first.Pairwise fun a b => (order a b).isLE)
    (other : second.Pairwise fun a b => (order a b).isLE)
    (same : ∀ a, tiedWith order a first = tiedWith order a second) : first = second := by
  have back : ∀ a, tiedWith order a second = tiedWith order a first := fun a => (same a).symm
  induction first generalizing second with
  | nil =>
    cases second with
    | nil => rfl
    | cons b more => exact absurd (mem_of_tiedWith_eq back List.mem_cons_self) List.not_mem_nil
  | cons a rest ih =>
    cases second with
    | nil => exact absurd (mem_of_tiedWith_eq same List.mem_cons_self) List.not_mem_nil
    | cons b more =>
      -- Each of the two first items comes before the other, so they lead one and the same class.
      have tie : order a b = .eq := Std.OrientedCmp.isLE_antisymm
        (isLE_of_mem_cons ordered (mem_of_tiedWith_eq back List.mem_cons_self))
        (isLE_of_mem_cons other (mem_of_tiedWith_eq same List.mem_cons_self))
      have classes := same a
      rw [tiedWith_cons_of_tie Std.ReflCmp.compare_self, tiedWith_cons_of_tie tie] at classes
      obtain ⟨rfl, _⟩ := List.cons_eq_cons.mp classes
      have rests (c : α) : tiedWith order c rest = tiedWith order c more := by
        have whole := same c
        rw [tiedWith, tiedWith, List.filter_cons, List.filter_cons] at whole
        split at whole
        · exact (List.cons_eq_cons.mp whole).2
        · exact whole
      rw [ih ordered.of_cons other.of_cons rests fun c => (rests c).symm]

/-- There is one stable way to put items in order. Each class of items that tie is known from the
start, and the order puts the classes one behind the other. -/
theorem StablySorted.unique {other : List α} (arranged : StablySorted order items sorted)
    (again : StablySorted order items other) : other = sorted :=
  eq_of_tiedWith_eq again.ordered arranged.ordered fun a =>
    (again.tiedWith_eq a).trans (arranged.tiedWith_eq a).symm

/-- Sorting by merging is stable, and with the uniqueness of stable sorts this is all there is to
say of it. -/
theorem stablySorted_mergeSort (items : List α) :
    StablySorted order items (items.mergeSort fun a b => (order a b).isLE) := by
  have total (a b : α) : ((order a b).isLE || (order b a).isLE) = true := by
    have swapped : order b a = (order a b).swap := Std.OrientedCmp.eq_swap
    rw [swapped]
    cases order a b <;> rfl
  have trans (a b c : α) : (order a b).isLE = true → (order b c).isLE = true →
      (order a c).isLE = true := Std.TransCmp.isLE_trans
  exact {
    perm := List.mergeSort_perm items _
    ordered := List.pairwise_mergeSort trans total items
    stable := fun tied part ties =>
      List.sublist_mergeSort trans total (ties.imp Ordering.isLE_of_eq_eq) part }

/-- Items that are sorted stably by a less significant order, and then by a more significant one,
are sorted stably by both together. -/
theorem StablySorted.lexicographic {later : α → α → Ordering} {middle : List α}
    (arranged : StablySorted later items middle) (again : StablySorted order middle sorted) :
    StablySorted (compareLex order later) items sorted where
  perm := again.perm.trans arranged.perm
  ordered := by
    refine List.pairwise_iff_forall_sublist.mpr fun {a b} pair => ?_
    have forth := List.pairwise_iff_forall_sublist.mp again.ordered pair
    rw [compareLex]
    cases first : order a b with
    | lt => rfl
    | gt => rw [first] at forth; cases forth
    | eq =>
      have before := again.sublist_of_tied pair (List.pairwise_pair.mpr first)
      exact List.pairwise_iff_forall_sublist.mp arranged.ordered before
  stable tied part ties := by
    have both : tied.Pairwise fun a b => order a b = .eq ∧ later a b = .eq :=
      ties.imp fun tie => Ordering.then_eq_eq.mp tie
    exact again.stable tied (arranged.stable tied part (both.imp fun tie => tie.2))
      (both.imp fun tie => tie.1)

end Ties

end GuardedRecords
