import GuardedRecords.Table

namespace GuardedRecords

variable {α : Type}

theorem Table.lookup?_cons_self (name : String) (entry : α) (rest : Table α) :
    Table.lookup? ((name, entry) :: rest) name = some entry := by
  simp only [Table.lookup?, List.lookup_cons, beq_self_eq_true]

theorem Table.lookup?_cons_of_ne {other name : String} (different : name ≠ other) (entry : α)
    (rest : Table α) : Table.lookup? ((other, entry) :: rest) name = rest.lookup? name := by
  simp only [Table.lookup?, List.lookup_cons, beq_false_of_ne different]

theorem Table.lookup?_eq_none_iff {table : Table α} {name : String} :
    table.lookup? name = none ↔ name ∉ table.names := by
  rw [Table.lookup?, List.lookup_eq_none_iff, Table.names, List.mem_map]
  constructor
  · rintro absent ⟨pair, member, rfl⟩
    exact bne_iff_ne.mp (absent pair member) rfl
  · intro absent pair member
    exact bne_iff_ne.mpr fun same => absent ⟨pair, member, same.symm⟩

theorem Table.has_eq_true_iff {table : Table α} {name : String} :
    table.has name = true ↔ name ∈ table.names := by
  rw [Table.has, Option.isSome_iff_ne_none, ne_eq, Table.lookup?_eq_none_iff,
    Classical.not_not]

theorem Table.has_eq_false_iff {table : Table α} {name : String} :
    table.has name = false ↔ name ∉ table.names := by
  rw [← Table.has_eq_true_iff, Bool.not_eq_true]

/-- An entry that can be looked up is the first one of its name. -/
theorem Table.lookup?_eq_some_iff {table : Table α} {name : String} {entry : α} :
    table.lookup? name = some entry ↔
      ∃ front back, table = front ++ (name, entry) :: back ∧ name ∉ Table.names front := by
  rw [Table.lookup?, List.lookup_eq_some_iff]
  refine exists_congr fun front => exists_congr fun back => and_congr_right fun _ => ?_
  rw [← List.lookup_eq_none_iff, ← Table.lookup?_eq_none_iff, Table.lookup?]

/-- An entry is found among changed ones as the change of what was found before, when the names
stay. -/
theorem Table.lookup?_map {β : Type} (table : Table α) (change : String → α → β) (name : String) :
    Table.lookup? (table.map fun pair => (pair.1, change pair.1 pair.2)) name =
      (table.lookup? name).map (change name) := by
  induction table with
  | nil => rfl
  | cons pair rest ih =>
    obtain ⟨other, entry⟩ := pair
    rw [List.map_cons]
    by_cases same : name = other
    · subst same
      rw [Table.lookup?_cons_self, Table.lookup?_cons_self, Option.map_some]
    · rw [Table.lookup?_cons_of_ne same, Table.lookup?_cons_of_ne same, ih]

theorem Table.mem_of_lookup? {table : Table α} {name : String} {entry : α}
    (found : table.lookup? name = some entry) : (name, entry) ∈ table := by
  obtain ⟨front, back, rfl, _⟩ := Table.lookup?_eq_some_iff.mp found
  exact List.mem_append_right front List.mem_cons_self

/-- What is found in the first part of a table is found in the whole, as the search goes from the
front. -/
theorem Table.lookup?_append_of_some {table : Table α} {name : String} {entry : α}
    (found : table.lookup? name = some entry) (more : Table α) :
    Table.lookup? (table ++ more) name = some entry := by
  rw [Table.lookup?] at found ⊢
  rw [List.lookup_append, found, Option.some_or]

theorem Table.put_of_not_mem {table : Table α} {name : String} (absent : name ∉ table.names)
    (entry : α) : table.put name entry = table ++ [(name, entry)] := by
  induction table with
  | nil => rfl
  | cons pair rest ih =>
    obtain ⟨other, old⟩ := pair
    simp only [Table.names, List.map_cons, List.mem_cons, not_or] at absent
    rw [Table.put, if_neg (Ne.symm absent.1), ih absent.2, List.cons_append]

/-- A value entered under a name that is there takes the place of the old one. -/
theorem Table.put_append {front : Table α} {name : String} (first : name ∉ front.names)
    (old entry : α) (back : Table α) :
    Table.put (front ++ (name, old) :: back) name entry = front ++ (name, entry) :: back := by
  induction front with
  | nil => simp only [List.nil_append, Table.put, if_true]
  | cons pair front ih =>
    obtain ⟨other, value⟩ := pair
    simp only [Table.names, List.map_cons, List.mem_cons, not_or] at first
    rw [List.cons_append, Table.put, if_neg (Ne.symm first.1), ih first.2, List.cons_append]

theorem Table.put_lookup? {table : Table α} {name : String} {entry : α}
    (found : table.lookup? name = some entry) : table.put name entry = table := by
  obtain ⟨front, back, rfl, first⟩ := Table.lookup?_eq_some_iff.mp found
  exact Table.put_append first entry entry back

theorem Table.lookup?_put_self (table : Table α) (name : String) (entry : α) :
    (table.put name entry).lookup? name = some entry := by
  induction table with
  | nil => exact Table.lookup?_cons_self ..
  | cons pair rest ih =>
    obtain ⟨other, old⟩ := pair
    rw [Table.put]
    split
    · exact Table.lookup?_cons_self ..
    · next different => rw [Table.lookup?_cons_of_ne (Ne.symm different), ih]

theorem Table.lookup?_put_of_ne {name other : String} (different : other ≠ name) (table : Table α)
    (entry : α) : (table.put name entry).lookup? other = table.lookup? other := by
  induction table with
  | nil => exact Table.lookup?_cons_of_ne different ..
  | cons pair rest ih =>
    obtain ⟨present, old⟩ := pair
    rw [Table.put]
    split
    · next same =>
      subst same
      rw [Table.lookup?_cons_of_ne different, Table.lookup?_cons_of_ne different]
    · by_cases found : other = present
      · subst found
        rw [Table.lookup?_cons_self, Table.lookup?_cons_self]
      · rw [Table.lookup?_cons_of_ne found, Table.lookup?_cons_of_ne found, ih]

theorem Table.put_put (table : Table α) (name : String) (first second : α) :
    (table.put name first).put name second = table.put name second := by
  by_cases present : name ∈ table.names
  · obtain ⟨old, found⟩ := Option.ne_none_iff_exists'.mp
      (fun absent => Table.lookup?_eq_none_iff.mp absent present)
    obtain ⟨front, back, rfl, before⟩ := Table.lookup?_eq_some_iff.mp found
    rw [Table.put_append before, Table.put_append before, Table.put_append before]
  · rw [Table.put_of_not_mem present, Table.put_of_not_mem present, Table.put_append present]

theorem Table.remove_cons (pair : String × α) (rest : Table α) (name : String) :
    Table.remove (pair :: rest) name =
      if pair.1 = name then rest.remove name else pair :: rest.remove name := by
  by_cases same : pair.1 = name <;> simp [Table.remove, same]

theorem Table.lookup?_remove_self (table : Table α) (name : String) :
    (table.remove name).lookup? name = none := by
  rw [Table.lookup?_eq_none_iff]
  simp [Table.names, Table.remove]

theorem Table.lookup?_remove_of_ne {name other : String} (different : other ≠ name)
    (table : Table α) : (table.remove name).lookup? other = table.lookup? other := by
  induction table with
  | nil => rfl
  | cons pair rest ih =>
    obtain ⟨present, entry⟩ := pair
    rw [Table.remove_cons]
    by_cases found : other = present
    · subst found
      rw [if_neg different, Table.lookup?_cons_self, Table.lookup?_cons_self]
    · rw [Table.lookup?_cons_of_ne found]
      split
      · exact ih
      · rw [Table.lookup?_cons_of_ne found, ih]

theorem Table.has_remove_of_ne {name other : String} (different : other ≠ name) (table : Table α) :
    (table.remove name).has other = table.has other := by
  rw [Table.has, Table.has, Table.lookup?_remove_of_ne different]

theorem Table.remove_of_not_mem {table : Table α} {name : String} (absent : name ∉ table.names) :
    table.remove name = table := by
  rw [Table.remove, List.filter_eq_self]
  intro pair member
  have different : pair.1 ≠ name := fun same => absent (same ▸ List.mem_map_of_mem member)
  exact decide_eq_true different

theorem Table.remove_remove_self (table : Table α) (name : String) :
    (table.remove name).remove name = table.remove name :=
  Table.remove_of_not_mem (Table.lookup?_eq_none_iff.mp (table.lookup?_remove_self name))

theorem Table.remove_comm (table : Table α) (first second : String) :
    (table.remove first).remove second = (table.remove second).remove first := by
  simp only [Table.remove, List.filter_filter, Bool.and_comm]

theorem Table.remove_put_of_ne {name other : String} (different : name ≠ other) (table : Table α)
    (entry : α) : (table.put name entry).remove other = (table.remove other).put name entry := by
  induction table with
  | nil => rw [Table.put, Table.remove_cons, if_neg different]; rfl
  | cons pair rest ih =>
    obtain ⟨present, old⟩ := pair
    rw [Table.put]
    split
    · next same =>
      subst same
      rw [Table.remove_cons, if_neg different, Table.remove_cons, if_neg different, Table.put,
        if_pos rfl]
    · next kept =>
      rw [Table.remove_cons, Table.remove_cons, ih]
      split
      · rfl
      · rw [Table.put, if_neg kept]

end GuardedRecords
