import Mathlib
import GuardedRecords.Proofs.ExactNumbers
import GuardedRecords.Proofs.Outcomes
import GuardedRecords.Proofs.SortedRuns
import GuardedRecords.Proofs.StableSorting
import GuardedRecords.Query.Shape

namespace GuardedRecords

/-- The exact number that a value is; below all of them for what is no number. -/
def Value.amount (value : Value) : WithBot (WithTop ℚ) := (value.extent?.map Extent.amount).getD ⊥

/-- The text that a value is, the empty one for what is no text. -/
def Value.wording : Value → String
  | .text s => s
  | _ => ""

/-- The order of two values that are both numbers or both texts: by exact number; of texts without
regard to case, and those that agree so by themselves. -/
def Value.sortOrder : Value → Value → Ordering :=
  compareLex (compareOn Value.amount)
    (compareLex (compareOn fun value => fold value.wording) (compareOn Value.wording))

instance : Std.TransCmp Value.sortOrder := by
  unfold Value.sortOrder
  infer_instance

/-- The order of two records by one key. -/
def SortKey.order (key : SortKey) (a b : Record) : Ordering :=
  if key.descending then (b.field key.property).sortOrder (a.field key.property)
  else (a.field key.property).sortOrder (b.field key.property)

/-- The order of two records by several keys, of which the first is the most significant. -/
def keysOrder : List SortKey → Record → Record → Ordering
  | [] => fun _ _ => .eq
  | key :: later => compareLex key.order (keysOrder later)

instance (key : SortKey) : Std.TransCmp key.order where
  eq_swap {a b} := by
    unfold SortKey.order
    split <;> exact Std.OrientedCmp.eq_swap
  isLE_trans {a b c} first second := by
    unfold SortKey.order at *
    split at first
    · next falling =>
      rw [if_pos falling] at second ⊢
      exact Std.TransCmp.isLE_trans second first
    · next rising =>
      rw [if_neg rising] at second ⊢
      exact Std.TransCmp.isLE_trans first second

instance (keys : List SortKey) : Std.TransCmp (keysOrder keys) := by
  induction keys with
  | nil => exact { eq_swap := rfl, isLE_trans := fun _ _ => rfl }
  | cons key later ih =>
    unfold keysOrder
    infer_instance

/-- All records have a number under the key. -/
def SortKey.Numeric (key : SortKey) (records : List Record) : Prop :=
  ∀ record ∈ records, (record.field key.property).isNumber = true

/-- All records have a text under the key. -/
def SortKey.Textual (key : SortKey) (records : List Record) : Prop :=
  ∀ record ∈ records, (record.field key.property).isText = true

/-- Any two values of the key can be compared: they are numbers, none of them a not-a-number, or they
are texts. -/
def SortKey.Comparable (key : SortKey) (records : List Record) : Prop :=
  key.Numeric records ∧ (∀ record ∈ records, (record.field key.property).isNaN = false) ∨
    key.Textual records

/-- A number that is not a not-a-number has a place among the exact numbers and the two
infinities. -/
theorem Value.exists_extent {value : Value} (number : value.isNumber = true)
    (exact : value.isNaN = false) : ∃ x, value.extent? = some x := by
  cases value with
  | int n => exact ⟨_, rfl⟩
  | double x =>
    cases x with
    | nan origin => cases exact
    | _ => exact ⟨_, rfl⟩
  | _ => cases number

theorem Value.wording_of_isNumber {value : Value} (number : value.isNumber = true) :
    value.wording = "" := by
  cases value with
  | int n => rfl
  | double x => rfl
  | _ => cases number

/-- Two numbers are compared by their exact values, also where one is an integer and the other is
not. A not-a-number is excluded here. -/
theorem Value.keyOrder_of_numbers {a b : Value} (number : a.isNumber = true)
    (other : b.isNumber = true) (exact : a.isNaN = false) (same : b.isNaN = false) :
    a.keyOrder b = a.sortOrder b := by
  obtain ⟨x, here⟩ := Value.exists_extent number exact
  obtain ⟨y, there⟩ := Value.exists_extent other same
  have compared : a.keyOrder b = x.compare y := by
    unfold Value.keyOrder
    split
    · cases number
    · rw [here, there]
  have amounts : a.sortOrder b = compare x.amount y.amount := by
    simp only [Value.sortOrder, compareLex, compareOn, Value.wording_of_isNumber number,
      Value.wording_of_isNumber other, Std.ReflCmp.compare_self, Ordering.then_eq, Value.amount,
      here, there, Option.map_some, Option.getD_some]
  rw [compared, amounts, Extent.compare_eq]

theorem Value.keyOrder_of_texts {a b : Value} (text : a.isText = true) (other : b.isText = true) :
    a.keyOrder b = a.sortOrder b := by
  cases a with
  | text s =>
    cases b with
    | text t =>
      simp only [Value.sortOrder, compareLex, compareOn, Value.amount, Value.extent?,
        Std.ReflCmp.compare_self, Ordering.eq_then]
      rfl
    | _ => cases other
  | _ => cases text

theorem SortKey.Comparable.keyOrder {key : SortKey} {records : List Record}
    (comparable : key.Comparable records) {a b : Record} (here : a ∈ records) (there : b ∈ records) :
    (a.field key.property).keyOrder (b.field key.property) =
      (a.field key.property).sortOrder (b.field key.property) := by
  rcases comparable with ⟨numeric, exact⟩ | textual
  · exact Value.keyOrder_of_numbers (numeric a here) (numeric b there) (exact a here) (exact b there)
  · exact Value.keyOrder_of_texts (textual a here) (textual b there)

theorem mergeSort_congr {α : Type} {before other : α → α → Bool} {items : List α}
    (same : ∀ a ∈ items, ∀ b ∈ items, before a b = other a b) :
    items.mergeSort before = items.mergeSort other := by
  have mapped := List.map_mergeSort (f := id) same
  rwa [List.map_id, List.map_id] at mapped

theorem SortKey.all_isNumber_iff {key : SortKey} {records : List Record} :
    (records.map fun r => r.field key.property).all Value.isNumber = true ↔ key.Numeric records := by
  rw [List.all_map, List.all_eq_true]
  rfl

theorem SortKey.all_isText_iff {key : SortKey} {records : List Record} :
    (records.map fun r => r.field key.property).all Value.isText = true ↔ key.Textual records := by
  rw [List.all_map, List.all_eq_true]
  rfl

theorem SortKey.kinds_iff {key : SortKey} {records : List Record} :
    ((records.map fun r => r.field key.property).all Value.isNumber ||
      (records.map fun r => r.field key.property).all Value.isText) = true ↔
        key.Numeric records ∨ key.Textual records := by
  rw [Bool.or_eq_true, SortKey.all_isNumber_iff, SortKey.all_isText_iff]

/-- Among comparable records no not-a-number stands in the way, so the merge of ascending runs is
not needed. -/
theorem SortKey.Comparable.no_runs {key : SortKey} {records : List Record}
    (comparable : key.Comparable records) :
    ¬((records.map fun r => r.field key.property).all Value.isNumber &&
      (records.map fun r => r.field key.property).any Value.isNaN) = true := by
  rw [Bool.and_eq_true, SortKey.all_isNumber_iff, List.any_map, List.any_eq_true]
  rintro ⟨numeric, record, member, undefined⟩
  rw [Function.comp_apply] at undefined
  rcases comparable with ⟨_, exact⟩ | textual
  · rw [exact record member] at undefined
    cases undefined
  · have text := textual record member
    cases value : record.field key.property with
    | text s => rw [value] at undefined; cases undefined
    | _ => rw [value] at text; cases text

/-- Sorting by one key is a stable sort by its order. A descending key has the order turned round,
and not the result, so ties stay as they were. -/
theorem SortKey.Comparable.sort_eq {key : SortKey} {records : List Record}
    (comparable : key.Comparable records) :
    key.sort records = .ok (records.mergeSort fun a b => (key.order a b).isLE) := by
  have isLE (order : Ordering) : (order != .gt) = order.isLE := by cases order <;> rfl
  have order (a : Record) (here : a ∈ records) (b : Record) (there : b ∈ records) :
      (if key.descending then (b.field key.property).keyOrder (a.field key.property) != .gt
        else (a.field key.property).keyOrder (b.field key.property) != .gt) =
        (key.order a b).isLE := by
    rw [SortKey.order, comparable.keyOrder here there, comparable.keyOrder there here]
    split <;> exact isLE _
  have oneKind : key.Numeric records ∨ key.Textual records := comparable.imp_left And.left
  rw [SortKey.sort]
  dsimp only
  rw [if_neg comparable.no_runs, if_pos (SortKey.kinds_iff.mpr oneKind), mergeSort_congr order]

theorem SortKey.sort_ok {key : SortKey} {records : List Record}
    (oneKind : key.Numeric records ∨ key.Textual records) :
    ∃ sorted, key.sort records = .ok sorted ∧ sorted.Perm records := by
  rw [SortKey.sort]
  dsimp only
  split
  · refine ⟨_, rfl, ?_⟩
    split
    · exact (List.reverse_perm _).trans ((sortByRuns_perm _ _).trans (List.reverse_perm _))
    · exact sortByRuns_perm _ _
  · rw [if_pos (SortKey.kinds_iff.mpr oneKind)]
    exact ⟨_, rfl, List.mergeSort_perm _ _⟩

/-- A key with values of different kinds is refused by name, whatever the records are besides. -/
theorem SortKey.sort_error {key : SortKey} {records : List Record}
    (mixed : ¬(key.Numeric records ∨ key.Textual records)) :
    key.sort records = .error (.request (.unsortable key.property)) := by
  rw [SortKey.sort]
  dsimp only
  rw [if_neg, if_neg fun same => mixed (SortKey.kinds_iff.mp same)]
  rw [Bool.and_eq_true, SortKey.all_isNumber_iff]
  exact fun runs => mixed (.inl runs.1)

/-- The last key is sorted by first. Since each sort is stable, the first key ends up the most
significant one. -/
theorem sortRecords_cons (key : SortKey) (keys : List SortKey) (records : List Record) :
    sortRecords (key :: keys) records = (sortRecords keys records).bind key.sort := rfl

theorem SortKey.oneKind_perm {key : SortKey} {records others : List Record}
    (perm : others.Perm records) :
    key.Numeric others ∨ key.Textual others ↔ key.Numeric records ∨ key.Textual records := by
  simp only [SortKey.Numeric, SortKey.Textual, perm.mem_iff]

/-- Whether records can be compared does not depend on their order, so it is the same before each of
the sorts. -/
theorem SortKey.Comparable.of_perm {key : SortKey} {records others : List Record}
    (comparable : key.Comparable records) (perm : others.Perm records) : key.Comparable others := by
  simpa only [SortKey.Comparable, SortKey.Numeric, SortKey.Textual, perm.mem_iff] using comparable

/-- Records whose values are of one kind under each key are put in some order. -/
theorem sortRecords_ok {keys : List SortKey} {records : List Record}
    (oneKind : ∀ key ∈ keys, key.Numeric records ∨ key.Textual records) :
    ∃ sorted, sortRecords keys records = .ok sorted ∧ sorted.Perm records := by
  induction keys with
  | nil => exact ⟨records, rfl, .refl records⟩
  | cons key keys ih =>
    obtain ⟨middle, later, perm⟩ := ih fun other member => oneKind other (List.mem_cons_of_mem key member)
    have here := (SortKey.oneKind_perm perm).mpr (oneKind key List.mem_cons_self)
    obtain ⟨sorted, run, again⟩ := SortKey.sort_ok here
    rw [sortRecords_cons, later]
    exact ⟨sorted, run, again.trans perm⟩

/-- Sorting key by key, the most significant one last, is one stable sort by all keys. By induction
on the keys: what a later sort does not tell apart stays in the order before. -/
theorem sortRecords_stablySorted {keys : List SortKey} {records : List Record}
    (comparable : ∀ key ∈ keys, key.Comparable records) :
    ∃ sorted, sortRecords keys records = .ok sorted ∧
      StablySorted (keysOrder keys) records sorted := by
  induction keys with
  | nil => exact ⟨records, rfl, .refl records, List.pairwise_of_forall fun _ _ => rfl, fun _ part _ => part⟩
  | cons key keys ih =>
    obtain ⟨middle, later, arranged⟩ :=
      ih fun other member => comparable other (List.mem_cons_of_mem key member)
    have here := (comparable key List.mem_cons_self).of_perm arranged.perm
    rw [sortRecords_cons, later]
    exact ⟨_, here.sort_eq, arranged.lexicographic (stablySorted_mergeSort middle)⟩

/-- The last key whose values are not of one kind is reported, since the keys are sorted by from the
last one on. -/
theorem sortRecords_error {keys : List SortKey} {records : List Record}
    (mixed : ∃ key ∈ keys, ¬(key.Numeric records ∨ key.Textual records)) :
    ∃ front key back, keys = front ++ key :: back ∧ ¬(key.Numeric records ∨ key.Textual records) ∧
      (∀ later ∈ back, later.Numeric records ∨ later.Textual records) ∧
      sortRecords keys records = .error (.request (.unsortable key.property)) := by
  induction keys with
  | nil =>
    obtain ⟨_, member, _⟩ := mixed
    cases member
  | cons first keys ih =>
    by_cases later : ∃ key ∈ keys, ¬(key.Numeric records ∨ key.Textual records)
    · obtain ⟨front, key, back, rfl, failing, others, run⟩ := ih later
      refine ⟨first :: front, key, back, rfl, failing, others, ?_⟩
      rw [sortRecords_cons, run]
      rfl
    · have oneKind (other : SortKey) (member : other ∈ keys) :
          other.Numeric records ∨ other.Textual records :=
        Classical.not_not.mp fun failing => later ⟨other, member, failing⟩
      obtain ⟨key, member, failing⟩ := mixed
      rcases List.mem_cons.mp member with rfl | behind
      · obtain ⟨middle, run, perm⟩ := sortRecords_ok oneKind
        refine ⟨[], key, keys, rfl, failing, oneKind, ?_⟩
        rw [sortRecords_cons, run]
        exact SortKey.sort_error fun same => failing ((SortKey.oneKind_perm perm).mp same)
      · exact absurd ⟨key, behind, failing⟩ later

/-- The records that meet the condition of a query, all if it has none. -/
def QuerySpec.met (spec : QuerySpec) (records : List Record) : Except Failure (List Record) :=
  match spec.condition with
  | some condition => (filterRecords condition records).mapError .unknownOperator
  | none => .ok records

/-- What a query asks for besides its condition and its sort keys. -/
def QuerySpec.afterSorting (spec : QuerySpec) : QuerySpec :=
  { spec with condition := none, sortKeys := [] }

/-- Picking is filtering, then sorting, then everything else, and the first step that fails
decides. -/
theorem QuerySpec.pick_eq (spec : QuerySpec) (records : List Record) :
    spec.pick records =
      (spec.met records >>= fun met =>
        (sortRecords spec.sortKeys met).mapError Failure.refused >>= spec.afterSorting.pick) := by
  unfold QuerySpec.pick QuerySpec.met
  cases spec.condition <;> rfl

theorem QuerySpec.shape_eq (spec : QuerySpec) (related : Option RelatedSource)
    (records : List Record) :
    spec.shape related records =
      (spec.met records >>= fun met =>
        (sortRecords spec.sortKeys met).mapError Failure.refused >>=
          spec.afterSorting.shape related) := by
  rw [QuerySpec.shape, QuerySpec.pick_eq]
  simp only [bind_assoc]
  rfl

/-- Where all values of each key can be compared, a query sorts the records that meet its condition
in the one way that is stable and goes by the first key, among equals by the second, and so on; the
rest of the query is about the sorted records. Where the values of some key are neither all numbers
nor all texts the query is refused. -/
theorem QuerySpec.shape_sorts {spec : QuerySpec} {records met : List Record}
    (filtered : spec.met records = .ok met) (related : Option RelatedSource) :
    ((∀ key ∈ spec.sortKeys, key.Comparable met) →
      ∃ sorted, sortRecords spec.sortKeys met = .ok sorted ∧
        spec.shape related records = spec.afterSorting.shape related sorted ∧
        ∀ other, StablySorted (keysOrder spec.sortKeys) met other ↔ other = sorted) ∧
    ((∃ key ∈ spec.sortKeys, ¬(key.Numeric met ∨ key.Textual met)) →
      ∃ front key back, spec.sortKeys = front ++ key :: back ∧
        ¬(key.Numeric met ∨ key.Textual met) ∧
        (∀ later ∈ back, later.Numeric met ∨ later.Textual met) ∧
        spec.shape related records = .error (.refused (.request (.unsortable key.property)))) := by
  rw [QuerySpec.shape_eq, filtered, ok_bind]
  constructor
  · intro comparable
    obtain ⟨sorted, run, arranged⟩ := sortRecords_stablySorted comparable
    refine ⟨sorted, run, ?_, fun other => ⟨fun again => arranged.unique again, ?_⟩⟩
    · rw [run, ok_mapError, ok_bind]
    · rintro rfl
      exact arranged
  · intro mixed
    obtain ⟨front, key, back, split, failing, others, run⟩ := sortRecords_error mixed
    refine ⟨front, key, back, split, failing, others, ?_⟩
    rw [run, error_mapError, error_bind]

/-- An open task; its rank may be an integer or not. -/
def openTask (rank : Value) (due : Int) : Record :=
  [("state", .text "open"), ("rank", rank), ("due", .int due)]

def openTasks : List Record :=
  [openTask (.int 2) 7, openTask (.double (.finite false 1 1)) 5, openTask (.int 10) 7]

/-- The open tasks that have the given keys, sorted by them. -/
def openTasksBy (keys : List SortKey) : QuerySpec where
  condition := some ⟨[⟨"state", .eq, .text "open"⟩], .and⟩
  sortKeys := keys

/-- The integer 2 and the binary64 number 2 are one rank, so that these two tasks go by the time
they are due. By a title, which no task has, they are not sorted. -/
theorem QuerySpec.shape_sorts_openTasks :
    let byRank : SortKey := ⟨"rank", true⟩
    let byDue : SortKey := ⟨"due", false⟩
    let byTitle : SortKey := ⟨"title", false⟩
    let tasks : List Record := [("state", .text "done")] :: openTasks
    (openTasksBy [byRank, byDue]).met tasks = .ok openTasks ∧
      (∀ key ∈ [byRank, byDue], key.Comparable openTasks) ∧
      (∀ other, StablySorted (keysOrder [byRank, byDue]) openTasks other ↔
        other =
          [openTask (.int 10) 7, openTask (.double (.finite false 1 1)) 5, openTask (.int 2) 7]) ∧
      ¬(byTitle.Numeric openTasks ∨ byTitle.Textual openTasks) ∧
      (openTasksBy [byRank, byTitle]).shape none tasks =
        .error (.refused (.request (.unsortable "title"))) := by
  intro byRank byDue byTitle tasks
  have filtered (keys : List SortKey) : (openTasksBy keys).met tasks = .ok openTasks := rfl
  have comparable : ∀ key ∈ [byRank, byDue], key.Comparable openTasks := by
    intro key member
    left
    unfold SortKey.Numeric
    revert key member
    decide
  have untitled : ¬(byTitle.Numeric openTasks ∨ byTitle.Textual openTasks) := by
    unfold SortKey.Numeric SortKey.Textual
    decide
  obtain ⟨sorted, run, _, only⟩ := (QuerySpec.shape_sorts (filtered [byRank, byDue]) none).1 comparable
  have order : sortRecords [byRank, byDue] openTasks = .ok
      [openTask (.int 10) 7, openTask (.double (.finite false 1 1)) 5, openTask (.int 2) 7] := by
    cbv
  cases order.symm.trans run
  obtain ⟨front, key, back, split, failing, _, refused⟩ :=
    (QuerySpec.shape_sorts (filtered [byRank, byTitle]) none).2
      ⟨byTitle, List.mem_cons_of_mem byRank List.mem_cons_self, untitled⟩
  have member : key ∈ [byRank, byTitle] := by
    rw [show [byRank, byTitle] = front ++ key :: back from split]
    exact List.mem_append_right front List.mem_cons_self
  rcases List.mem_cons.mp member with rfl | last
  · exact absurd ((comparable byRank List.mem_cons_self).imp_left And.left) failing
  · cases List.mem_singleton.mp last
    exact ⟨filtered _, comparable, only, untitled, refused⟩

end GuardedRecords
