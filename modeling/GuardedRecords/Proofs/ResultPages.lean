import GuardedRecords.Proofs.QuerySorting

namespace GuardedRecords

/-- A query with a page in the place of the whole answer. -/
def QuerySpec.paged (spec : QuerySpec) (offset : Nat) (size : Option Int) : QuerySpec :=
  { spec with offset := offset, pageSize := size }

/-- A query for the number of records only. -/
def QuerySpec.counted (spec : QuerySpec) : QuerySpec := { spec with count := true }

/-- A query that asks for all records it picks: for no page of them, none left out as alike, and
not for their number. -/
structure QuerySpec.Whole (spec : QuerySpec) : Prop where
  offset : spec.offset = 0
  pageSize : spec.pageSize = none
  distinct : spec.distinct = []
  count : spec.count = false

/-- The records on the pages of one size from an offset on, up to the first page that is empty. -/
inductive PagesFrom (page : Nat → Except Failure Shaped) (size : Nat) : Nat → List Record → Prop
  | last {offset : Nat} : page offset = .ok (.records []) → PagesFrom page size offset []
  | next {offset : Nat} {first rest : List Record} : page offset = .ok (.records first) →
      first ≠ [] → PagesFrom page size (offset + size) rest →
      PagesFrom page size offset (first ++ rest)

/-- Pages can be joined in one way only, since each page is what it is and the first empty one ends
them. -/
theorem PagesFrom.unique {page : Nat → Except Failure Shaped} {size offset : Nat}
    {joined other : List Record} (one : PagesFrom page size offset joined)
    (two : PagesFrom page size offset other) : joined = other := by
  induction one generalizing other with
  | last empty =>
    cases two with
    | last _ => rfl
    | next read some _ =>
      cases empty.symm.trans read
      exact absurd rfl some
  | next read some _ ih =>
    cases two with
    | last empty =>
      cases read.symm.trans empty
      exact absurd rfl some
    | next again _ later =>
      cases read.symm.trans again
      rw [ih later]

/-- Windows of one size, one behind the other, make up a list. The induction is on what is left of
it behind the offset. -/
theorem pagesFrom_windows {page : Nat → Except Failure Shaped} {size : Nat} {all : List Record}
    (positive : 0 < size)
    (windows : ∀ offset, page offset = .ok (.records ((all.drop offset).take size)))
    (offset : Nat) : PagesFrom page size offset (all.drop offset) := by
  induction left : (all.drop offset).length using Nat.strong_induction_on generalizing offset with
  | _ count ih =>
    by_cases done : all.drop offset = []
    · rw [done]
      refine .last ?_
      rw [windows, done, List.take_nil]
    · have some : 0 < (all.drop offset).length := List.length_pos_iff.mpr done
      have shorter : (all.drop (offset + size)).length < count := by
        rw [List.length_drop] at some left ⊢
        omega
      have rest := ih _ shorter (offset + size) rfl
      have nonempty : (all.drop offset).take size ≠ [] := by
        rw [Ne, List.take_eq_nil_iff, not_or]
        exact ⟨positive.ne', done⟩
      have joined := PagesFrom.next (windows offset) nonempty rest
      rwa [← List.drop_drop, List.take_append_drop] at joined

/-- The records that meet the condition of a query in the order of its keys. -/
def QuerySpec.arranged (spec : QuerySpec) (records : List Record) : Except Failure (List Record) :=
  spec.met records >>= fun met => (sortRecords spec.sortKeys met).mapError .refused

/-- A page of a list, the whole rest of it if there is no size. -/
def pageOf {α : Type} (offset : Nat) (size : Option Int) (items : List α) : List α :=
  match size with
  | some size => takePage size (items.drop offset)
  | none => items.drop offset

theorem pageOf_natCast {α : Type} (offset size : Nat) (items : List α) :
    pageOf offset (some size) items = (items.drop offset).take size := by
  simp only [pageOf, takePage, if_pos (Int.natCast_nonneg size), Int.toNat_natCast]

/-- Where no records are left out as alike, a query takes its page of the records in order, and a
number is the number of the records on that page. -/
theorem QuerySpec.shape_of_arranged {spec : QuerySpec} (plain : spec.distinct = [])
    (related : Option RelatedSource) (records : List Record) :
    spec.shape related records = (spec.arranged records).map fun sorted =>
      let page := pageOf spec.offset spec.pageSize sorted
      if spec.count then .count page.length else .records (page.map (spec.project related)) := by
  obtain ⟨condition, sortKeys, offset, size, distinct, select, joins, count⟩ := spec
  obtain rfl : distinct = [] := plain
  rw [QuerySpec.shape, QuerySpec.pick_eq, QuerySpec.arranged]
  cases QuerySpec.met _ records with
  | error fault => rfl
  | ok met =>
    simp only [ok_bind]
    cases (sortRecords sortKeys met).mapError Failure.refused with
    | error fault => rfl
    | ok sorted => cases size <;> rfl

/-- The pages of a query, of whatever size, put one behind the other up to the first empty one make
up its whole answer, and the number of the records on a page can be asked for by itself. If the
whole answer, a page or a number is refused, then all of them are, for one and the same reason. -/
theorem QuerySpec.shape_pages {spec : QuerySpec} (whole : spec.Whole)
    (related : Option RelatedSource) (records : List Record) :
    (∃ fault, spec.shape related records = .error fault ∧ ∀ offset size,
      (spec.paged offset size).shape related records = .error fault ∧
        (spec.paged offset size).counted.shape related records = .error fault) ∨
    ∃ all, spec.shape related records = .ok (.records all) ∧
      (∀ size : Nat, 0 < size → ∀ joined,
        PagesFrom (fun offset => (spec.paged offset (some size)).shape related records) size 0
          joined ↔ joined = all) ∧
      ∀ offset size, ∃ page,
        (spec.paged offset size).shape related records = .ok (.records page) ∧
          (spec.paged offset size).counted.shape related records = .ok (.count page.length) := by
  have answer := QuerySpec.shape_of_arranged whole.distinct related records
  have paged (offset : Nat) (size : Option Int) :
      (spec.paged offset size).shape related records = (spec.arranged records).map fun sorted =>
        .records ((pageOf offset size sorted).map (spec.project related)) := by
    have plain : (spec.paged offset size).distinct = [] := whole.distinct
    rw [QuerySpec.shape_of_arranged plain]
    simp only [QuerySpec.paged, whole.count]
    rfl
  have counted (offset : Nat) (size : Option Int) :
      (spec.paged offset size).counted.shape related records =
        (spec.arranged records).map fun sorted => .count (pageOf offset size sorted).length := by
    have plain : (spec.paged offset size).counted.distinct = [] := whole.distinct
    rw [QuerySpec.shape_of_arranged plain]
    rfl
  simp only [whole.count, whole.offset, whole.pageSize] at answer
  cases arranged : spec.arranged records with
  | error fault =>
    rw [arranged] at answer paged counted
    exact .inl ⟨fault, answer, fun offset size => ⟨paged offset size, counted offset size⟩⟩
  | ok sorted =>
    rw [arranged] at answer paged counted
    refine .inr ⟨sorted.map (spec.project related), answer, fun size positive joined => ?_, ?_⟩
    · have windows (offset : Nat) : (spec.paged offset (some size)).shape related records =
          .ok (.records (((sorted.map (spec.project related)).drop offset).take size)) := by
        simp only [paged, Except.map, pageOf_natCast, List.map_take, List.map_drop]
      have all := pagesFrom_windows positive windows 0
      exact ⟨fun found => found.unique all, fun same => same ▸ all⟩
    · intro offset size
      refine ⟨(pageOf offset size sorted).map (spec.project related), paged offset size, ?_⟩
      rw [List.length_map]
      exact counted offset size

/-- The ranks of the open tasks in the order in which they are due, with the credit for that time. -/
def creditedTasks : QuerySpec where
  condition := some ⟨[⟨"state", .eq, .text "open"⟩], .and⟩
  sortKeys := [⟨"due", false⟩]
  select := ["rank", "due"]
  joins := [⟨"credit", "due", "credits"⟩]

/-- Two of the three tasks are due at one time and come on different pages of one record each, with
the credit that is found for them. The last page of two records has one only. -/
theorem QuerySpec.shape_pages_creditedTasks :
    let related : RelatedSource := fun _ id =>
      if id.equals (.int 7) then some [("amount", .int 3), ("hashedPassword", .text "x")] else none
    let found : Value := .object [("amount", .int 3)]
    let first : Record := [("rank", .double (.finite false 1 1)), ("due", .int 5)]
    let second : Record := [("rank", .int 2), ("due", .int 7), ("credit", found)]
    let third : Record := [("rank", .int 10), ("due", .int 7), ("credit", found)]
    let page (size offset : Nat) :=
      (creditedTasks.paged offset (some size)).shape (some related) openTasks
    creditedTasks.Whole ∧ PagesFrom (page 1) 1 0 [first, second, third] ∧
      PagesFrom (page 2) 2 0 [first, second, third] ∧
      (creditedTasks.paged 2 (some 2)).counted.shape (some related) openTasks = .ok (.count 1) := by
  intro related found first second third page
  have whole : creditedTasks.Whole := ⟨rfl, rfl, rfl, rfl⟩
  have answer : creditedTasks.shape (some related) openTasks =
      .ok (.records [first, second, third]) := by
    cbv
  have last : (creditedTasks.paged 2 (some 2)).shape (some related) openTasks =
      .ok (.records [third]) := by
    cbv
  rcases QuerySpec.shape_pages whole (some related) openTasks with
    ⟨fault, refused, _⟩ | ⟨all, shaped, pages, numbers⟩
  · cases answer.symm.trans refused
  · cases answer.symm.trans shaped
    obtain ⟨rest, read, number⟩ := numbers 2 (some 2)
    cases last.symm.trans read
    exact ⟨whole, (pages 1 (by decide) _).mpr rfl, (pages 2 (by decide) _).mpr rfl, number⟩

end GuardedRecords
