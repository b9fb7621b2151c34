import Mathlib.Data.List.Perm.Subperm
import GuardedRecords.Json.SortedText
import GuardedRecords.Proofs.JsonReading

namespace GuardedRecords

mutual

/-- Whether two values are one JSON value: of the same kind, so that 1, "1" and `true` differ,
arrays with the same items in their order, objects with the same members in any order. Binary64
numbers are left out. -/
def Value.same : Value → Value → Bool
  | .null, .null => true
  | .bool a, .bool b => a == b
  | .int m, .int n => m == n
  | .text s, .text t => s == t
  | .array xs, .array ys => itemsSame xs ys
  | .object fs, .object gs => fs.length == gs.length && membersSame fs gs
  | _, _ => false
termination_by structural v => v

def itemsSame : List Value → List Value → Bool
  | [], [] => true
  | x :: xs, y :: ys => x.same y && itemsSame xs ys
  | _, _ => false
termination_by structural xs => xs

/-- Whether every member of the first object is among those of the second. -/
def membersSame : List (String × Value) → List (String × Value) → Bool
  | [], _ => true
  | (name, x) :: rest, gs =>
    (match Table.lookup? gs name with
      | some y => x.same y
      | none => false) && membersSame rest gs
termination_by structural fs => fs

end

section Order

theorem membersInNameOrder_eq_map (ms : Table Value) :
    membersInNameOrder ms = ms.map fun member => (member.1, member.2.inNameOrder) := by
  induction ms with
  | nil => rfl
  | cons member rest ih => rw [membersInNameOrder, ih, List.map_cons]

theorem names_membersInNameOrder (ms : Table Value) :
    Table.names (membersInNameOrder ms) = ms.names := by
  rw [membersInNameOrder_eq_map, Table.names, Table.names, List.map_map]
  rfl

theorem length_membersInNameOrder (ms : Table Value) :
    (membersInNameOrder ms).length = ms.length := by
  rw [membersInNameOrder_eq_map, List.length_map]

/-- With distinct names a member in name order is the one under that name, put in order itself. -/
theorem mem_membersInNameOrder {ms : Table Value} (distinct : ms.names.Nodup) {name : String}
    {v : Value} :
    (name, v) ∈ membersInNameOrder ms ↔ ∃ x, ms.lookup? name = some x ∧ x.inNameOrder = v := by
  rw [membersInNameOrder_eq_map, List.mem_map]
  constructor
  · rintro ⟨⟨_, x⟩, member, same⟩
    cases same
    exact ⟨x, Table.lookup?_of_mem distinct member, rfl⟩
  · rintro ⟨x, found, rfl⟩
    exact ⟨(name, x), Table.mem_of_lookup? found, rfl⟩

theorem Table.sorted_perm {α : Type} (table : Table α) : table.sorted.Perm table :=
  List.mergeSort_perm ..

theorem Table.pairwise_sorted {α : Type} (table : Table α) :
    table.sorted.Pairwise fun a b => a.1 ≤ b.1 := by
  have trans (a b c : String × α) :
      decide (a.1 ≤ b.1) = true → decide (b.1 ≤ c.1) = true → decide (a.1 ≤ c.1) = true := by
    simpa only [decide_eq_true_iff] using String.le_trans
  have total (a b : String × α) : (decide (a.1 ≤ b.1) || decide (b.1 ≤ a.1)) = true := by
    simpa only [Bool.or_eq_true, decide_eq_true_iff] using String.le_total a.1 b.1
  rw [Table.sorted]
  simpa only [decide_eq_true_iff] using List.pairwise_mergeSort trans total table

/-- Entries with distinct names can be put in the order of their names in one way only, so sorting
by names forgets nothing but the order. -/
theorem Table.sorted_eq_iff_perm {α : Type} {table other : Table α}
    (distinct : table.names.Nodup) : table.sorted = other.sorted ↔ table.Perm other := by
  constructor
  · intro same
    exact table.sorted_perm.symm.trans (same ▸ other.sorted_perm)
  · intro perm
    have sorted := table.sorted_perm.trans (perm.trans other.sorted_perm.symm)
    refine sorted.eq_of_pairwise (fun a b left right first second => ?_) table.pairwise_sorted
      other.pairwise_sorted
    have inside : a ∈ table := table.sorted_perm.mem_iff.mp left
    have within : b ∈ table := perm.mem_iff.mpr (other.sorted_perm.mem_iff.mp right)
    exact Table.eq_of_mem distinct inside within (String.le_antisymm first second)

/-- With distinct names, two tables of members have the same ones in some order if the numbers agree
and the first are among the second. -/
theorem membersInNameOrder_perm_iff {fs gs : Table Value} (distinct : fs.names.Nodup) :
    (membersInNameOrder fs).Perm (membersInNameOrder gs) ↔
      fs.length = gs.length ∧ membersInNameOrder fs ⊆ membersInNameOrder gs := by
  have once : (membersInNameOrder fs).Nodup := by
    rw [← names_membersInNameOrder, Table.names] at distinct
    exact List.Pairwise.of_map Prod.fst (fun a b different same => different (same ▸ rfl)) distinct
  rw [← length_membersInNameOrder fs, ← length_membersInNameOrder gs]
  constructor
  · exact fun perm => ⟨perm.length_eq, perm.subset⟩
  · rintro ⟨size, within⟩
    exact (once.subperm within).perm_of_length_le (Nat.le_of_eq size.symm)

mutual

/-- Two values with distinct names become equal in the order of their names just when they are the
same. The induction is on the first value. -/
theorem Value.Plain.inNameOrder_eq_iff {v w : Value} (plain : v.Plain) (other : w.Plain) :
    v.inNameOrder = w.inNameOrder ↔ v.same w = true := by
  match v with
  | .null | .bool _ | .int _ | .text _ => cases w <;> simp [Value.inNameOrder, Value.same]
  | .double _ => exact plain.elim
  | .array xs =>
    cases w with
    | array ys =>
      rw [Value.Plain] at plain other
      simpa [Value.inNameOrder, Value.same] using itemsInNameOrder_eq_iff plain other
    | _ => simp [Value.inNameOrder, Value.same]
  | .object fs =>
    cases w with
    | object gs =>
      rw [Value.Plain] at plain other
      have names : (Table.names (membersInNameOrder fs)).Nodup := by
        rw [names_membersInNameOrder]
        exact plain.1
      rw [Value.inNameOrder, Value.inNameOrder, Value.same, Value.object.injEq,
        Table.sorted_eq_iff_perm names, membersInNameOrder_perm_iff plain.1,
        membersInNameOrder_subset_iff plain.2 other.1 other.2]
      simp
    | _ => simp [Value.inNameOrder, Value.same]
termination_by structural v

/-- Two arrays are the same in name order exactly if their items are the same one by one. The order
of items counts. -/
theorem itemsInNameOrder_eq_iff {xs ys : List Value} (plain : itemsPlain xs)
    (other : itemsPlain ys) :
    itemsInNameOrder xs = itemsInNameOrder ys ↔ itemsSame xs ys = true := by
  match xs with
  | [] => cases ys <;> simp [itemsInNameOrder, itemsSame]
  | x :: xs =>
    cases ys with
    | nil => simp [itemsInNameOrder, itemsSame]
    | cons y ys =>
      rw [itemsPlain] at plain other
      rw [itemsInNameOrder, itemsInNameOrder, itemsSame, List.cons.injEq,
        plain.1.inNameOrder_eq_iff other.1, itemsInNameOrder_eq_iff plain.2 other.2,
        Bool.and_eq_true]
termination_by structural xs

/-- The members of one object are among those of another one in name order exactly if each of them
is the same there. -/
theorem membersInNameOrder_subset_iff {fs gs : Table Value} (plain : membersPlain fs)
    (distinct : gs.names.Nodup) (other : membersPlain gs) :
    membersInNameOrder fs ⊆ membersInNameOrder gs ↔ membersSame fs gs = true := by
  match fs with
  | [] => simp [membersInNameOrder, membersSame]
  | (name, x) :: rest =>
    rw [membersPlain] at plain
    rw [membersInNameOrder, List.cons_subset, mem_membersInNameOrder distinct, membersSame,
      Bool.and_eq_true, membersInNameOrder_subset_iff plain.2 distinct other]
    refine and_congr_left fun _ => ?_
    cases found : Table.lookup? gs name with
    | none => simp
    | some y =>
      have kept : y.Plain := membersPlain_iff.mp other _ (Table.mem_of_lookup? found)
      rw [← plain.1.inNameOrder_eq_iff kept]
      simp [eq_comm]
termination_by structural fs

end

mutual

theorem Value.Plain.inNameOrder {v : Value} (plain : v.Plain) : v.inNameOrder.Plain := by
  match v with
  | .null | .bool _ | .int _ | .text _ => exact plain
  | .double _ => exact plain.elim
  | .array vs =>
    rw [Value.Plain] at plain
    rw [Value.inNameOrder, Value.Plain]
    exact itemsPlain_inNameOrder plain
  | .object ms =>
    rw [Value.Plain] at plain
    have perm := Table.sorted_perm (membersInNameOrder ms)
    have names : (Table.names (membersInNameOrder ms)).Nodup := by
      rw [names_membersInNameOrder]
      exact plain.1
    rw [Value.inNameOrder, Value.Plain, membersPlain_iff]
    refine ⟨(perm.map Prod.fst).nodup_iff.mpr names, fun member inside => ?_⟩
    exact membersPlain_iff.mp (membersPlain_inNameOrder plain.2) member (perm.mem_iff.mp inside)
termination_by structural v

theorem itemsPlain_inNameOrder {vs : List Value} (plain : itemsPlain vs) :
    itemsPlain (itemsInNameOrder vs) := by
  match vs with
  | [] => exact plain
  | v :: rest =>
    rw [itemsPlain] at plain
    rw [itemsInNameOrder, itemsPlain]
    exact ⟨plain.1.inNameOrder, itemsPlain_inNameOrder plain.2⟩
termination_by structural vs

theorem membersPlain_inNameOrder {ms : List (String × Value)} (plain : membersPlain ms) :
    membersPlain (membersInNameOrder ms) := by
  match ms with
  | [] => exact plain
  | (name, v) :: rest =>
    rw [membersPlain] at plain
    rw [membersInNameOrder, membersPlain]
    exact ⟨plain.1.inNameOrder, membersPlain_inNameOrder plain.2⟩
termination_by structural ms

end

end Order

section Text

theorem spellsCode_hexDigits (n : Nat) : SpellsCode n (hexDigits 4 n) := by
  have table : ∀ digit < 16, (Nat.digitChar digit).toLower = Nat.digitChar digit := by decide
  rw [SpellsCode, hexDigits, List.map_map]
  exact List.map_congr_left fun i _ => table _ (Nat.mod_lt _ (by decide))

/-- A character that is written in ASCII is written in one of the ways that every reader
understands: as it is, or by one escape, or by two for a large code point. -/
theorem WrittenChar.of_writeAsciiChar (c : Char) : WrittenChar c (writeAsciiChar c) := by
  unfold writeAsciiChar
  split
  · next same => subst same; exact .short (by decide)
  split
  · next same => subst same; exact .short (by decide)
  split
  · next same => subst same; exact .short (by decide)
  split
  · next same => subst same; exact .short (by decide)
  split
  · next same => subst same; exact .short (by decide)
  split
  · next same => subst same; exact .short (by decide)
  split
  · next same => subst same; exact .short (by decide)
  split
  · next notQuote notEscape _ _ _ _ _ visible => exact .plain notQuote notEscape visible.1
  split
  · next narrow => exact .code narrow (spellsCode_hexDigits _)
  · next wide => exact .surrogates (by omega) (spellsCode_hexDigits _) (spellsCode_hexDigits _)

theorem jsonBlanks_space : JsonBlanks [' '] := by simp [JsonBlanks, isJsonBlank]

/-- The style of markers can be read back, so two values with one marker are the same in name
order. -/
theorem JsonStyle.faithful_ascii : JsonStyle.ascii.Faithful :=
  ⟨WrittenChar.of_writeAsciiChar, jsonBlanks_space⟩

/-- Plain values are written differently if they are different: the reader gives each of them
back. -/
theorem Value.Plain.writeIn_inj {style : JsonStyle} (faithful : style.Faithful) {v w : Value}
    (plain : v.Plain) (other : w.Plain) : v.writeIn style = w.writeIn style ↔ v = w := by
  refine ⟨fun same => ?_, fun same => congrArg (Value.writeIn style) same⟩
  have first := (plain.jsonText_writeIn faithful).read_eq plain
  have second := (other.jsonText_writeIn faithful).read_eq other
  rw [same, second] at first
  exact (Except.ok.inj first).symm

mutual

theorem Value.Plain.not_hasOverlongInteger {v : Value} (plain : v.Plain) :
    v.hasOverlongInteger = false := by
  match v with
  | .null | .bool _ | .text _ => rfl
  | .double _ => exact plain.elim
  | .int n =>
    rw [Value.Plain] at plain
    exact decide_eq_false (Nat.not_lt.mpr plain)
  | .array vs =>
    rw [Value.Plain] at plain
    exact not_itemsHaveOverlongInteger plain
  | .object ms =>
    rw [Value.Plain] at plain
    exact not_membersHaveOverlongInteger plain.2
termination_by structural v

theorem not_itemsHaveOverlongInteger {vs : List Value} (plain : itemsPlain vs) :
    itemsHaveOverlongInteger vs = false := by
  match vs with
  | [] => rfl
  | v :: rest =>
    rw [itemsPlain] at plain
    rw [itemsHaveOverlongInteger, plain.1.not_hasOverlongInteger,
      not_itemsHaveOverlongInteger plain.2, Bool.or_self]
termination_by structural vs

theorem not_membersHaveOverlongInteger {ms : List (String × Value)} (plain : membersPlain ms) :
    membersHaveOverlongInteger ms = false := by
  match ms with
  | [] => rfl
  | (name, v) :: rest =>
    rw [membersPlain] at plain
    rw [membersHaveOverlongInteger, plain.1.not_hasOverlongInteger,
      not_membersHaveOverlongInteger plain.2, Bool.or_self]
termination_by structural ms

end

theorem Value.Plain.sortedText?_eq {v : Value} (plain : v.Plain) :
    v.sortedText? = some (v.inNameOrder.writeIn .ascii) := by
  rw [Value.sortedText?, plain.not_hasOverlongInteger]
  exact if_neg Bool.false_ne_true

/-- Two plain values have one text just when they are the same. The text is read back as the value
in name order, which is known up to the order of members. -/
theorem Value.Plain.sortedText?_eq_iff {v w : Value} (plain : v.Plain) (other : w.Plain) :
    v.sortedText? = w.sortedText? ↔ v.same w = true := by
  rw [plain.sortedText?_eq, other.sortedText?_eq, Option.some.injEq,
    Value.Plain.writeIn_inj JsonStyle.faithful_ascii plain.inNameOrder other.inNameOrder,
    plain.inNameOrder_eq_iff other]

end Text

end GuardedRecords
