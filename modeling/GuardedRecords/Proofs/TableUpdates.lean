import GuardedRecords.Proofs.TableEntries

namespace GuardedRecords

variable {α β : Type}

theorem Table.mem_names_of_lookup? {table : Table α} {name : String} {entry : α}
    (found : table.lookup? name = some entry) : name ∈ table.names :=
  List.mem_map_of_mem (Table.mem_of_lookup? found)

theorem Table.names_append (table more : Table α) :
    Table.names (table ++ more) = table.names ++ more.names := List.map_append ..

theorem Table.mem_names_put {table : Table α} {name other : String} {entry : α} :
    other ∈ (table.put name entry).names ↔ other = name ∨ other ∈ table.names := by
  rw [← Table.has_eq_true_iff, ← Table.has_eq_true_iff, Table.has, Table.has]
  by_cases same : other = name
  · subst same
    simp [Table.lookup?_put_self]
  · simp [Table.lookup?_put_of_ne same, same]

theorem Table.names_put_of_mem {table : Table α} {name : String} (present : name ∈ table.names)
    (entry : α) : (table.put name entry).names = table.names := by
  obtain ⟨old, found⟩ := Option.ne_none_iff_exists'.mp
    (fun absent => Table.lookup?_eq_none_iff.mp absent present)
  obtain ⟨front, back, rfl, first⟩ := Table.lookup?_eq_some_iff.mp found
  simp only [Table.put_append first, Table.names, List.map_append, List.map_cons]

theorem Table.names_put_of_not_mem {table : Table α} {name : String} (absent : name ∉ table.names)
    (entry : α) : (table.put name entry).names = table.names ++ [name] := by
  rw [Table.put_of_not_mem absent, Table.names_append]
  rfl

theorem Table.nodup_names_put {table : Table α} (distinct : table.names.Nodup) (name : String)
    (entry : α) : (table.put name entry).names.Nodup := by
  by_cases present : name ∈ table.names
  · rwa [Table.names_put_of_mem present]
  · rw [Table.names_put_of_not_mem present, List.nodup_append]
    refine ⟨distinct, List.pairwise_singleton _ name, ?_⟩
    rintro other member _ last rfl
    exact present (List.mem_singleton.mp last ▸ member)

theorem Table.names_remove (table : Table α) (name : String) :
    (table.remove name).names = table.names.filter fun other => other ≠ name := by
  rw [Table.names, Table.names, Table.remove, List.filter_map]
  rfl

theorem Table.not_mem_names_remove (table : Table α) (name : String) :
    name ∉ (table.remove name).names :=
  Table.lookup?_eq_none_iff.mp (table.lookup?_remove_self name)

theorem Table.nodup_names_remove {table : Table α} (distinct : table.names.Nodup) (name : String) :
    (table.remove name).names.Nodup := by
  rw [Table.names_remove]
  exact distinct.filter _

/-- In a table without repeated names every entry is the one that is looked up. -/
theorem Table.lookup?_of_mem {table : Table α} (distinct : table.names.Nodup) {name : String}
    {entry : α} (member : (name, entry) ∈ table) : table.lookup? name = some entry := by
  obtain ⟨front, back, rfl⟩ := List.append_of_mem member
  rw [Table.names_append, List.nodup_append] at distinct
  refine Table.lookup?_eq_some_iff.mpr ⟨front, back, rfl, fun before => ?_⟩
  exact distinct.2.2 name before name List.mem_cons_self rfl

theorem Table.eq_of_mem {table : Table α} (distinct : table.names.Nodup) {first second : String × α}
    (member : first ∈ table) (another : second ∈ table) (same : first.1 = second.1) :
    first = second := by
  have found := Table.lookup?_of_mem distinct member
  rw [same, Table.lookup?_of_mem distinct another] at found
  exact Prod.ext same (Option.some.inj found).symm

theorem Table.mem_remove {table : Table α} {name : String} {pair : String × α} :
    pair ∈ table.remove name ↔ pair ∈ table ∧ pair.1 ≠ name := by
  rw [Table.remove, List.mem_filter, decide_eq_true_iff]

/-- What a choice among names leaves of a table is looked up as before. -/
theorem Table.lookup?_filter (keep : String → Bool) (table : Table α) (name : String) :
    Table.lookup? (table.filter fun pair => keep pair.1) name =
      if keep name then table.lookup? name else none := by
  induction table with
  | nil => rw [List.filter_nil]; split <;> rfl
  | cons pair rest ih =>
    obtain ⟨other, entry⟩ := pair
    rw [List.filter_cons]
    by_cases same : name = other
    · subst same
      cases kept : keep name with
      | true => simp only [if_true, Table.lookup?_cons_self]
      | false => simp only [ih, kept, Bool.false_eq_true, if_false]
    · cases kept : keep other with
      | true => simp only [if_true, Table.lookup?_cons_of_ne same, ih]
      | false => simp only [Bool.false_eq_true, if_false, Table.lookup?_cons_of_ne same, ih]

theorem Table.filter_put_of_kept (keep : String → Bool) {name : String} (kept : keep name = true)
    (table : Table α) (entry : α) :
    (table.put name entry).filter (fun pair => keep pair.1) =
      Table.put (table.filter fun pair => keep pair.1) name entry := by
  induction table with
  | nil => simp [Table.put, kept]
  | cons pair rest ih =>
    obtain ⟨other, old⟩ := pair
    rw [Table.put]
    by_cases same : other = name
    · subst same
      simp [Table.put, kept]
    · rw [if_neg same, List.filter_cons, List.filter_cons, ih]
      split
      · rw [Table.put, if_neg same]
      · rfl

theorem Table.filter_put_of_left_out (keep : String → Bool) {name : String}
    (leftOut : keep name = false) (table : Table α) (entry : α) :
    (table.put name entry).filter (fun pair => keep pair.1) =
      table.filter fun pair => keep pair.1 := by
  induction table with
  | nil => simp [Table.put, leftOut]
  | cons pair rest ih =>
    obtain ⟨other, old⟩ := pair
    rw [Table.put]
    by_cases same : other = name
    · subst same
      simp [leftOut]
    · rw [if_neg same, List.filter_cons, List.filter_cons, ih]

theorem Table.remove_put_self (table : Table α) (name : String) (entry : α) :
    (table.put name entry).remove name = table.remove name :=
  Table.filter_put_of_left_out (fun other => other ≠ name) (by simp) table entry

theorem Table.putAll_cons (table : Table α) (pair : String × α) (more : Table α) :
    table.putAll (pair :: more) = (table.put pair.1 pair.2).putAll more := rfl

/-- Filtering by names goes through putting many entries: only those whose names are kept matter, on
both sides. -/
theorem Table.filter_putAll (keep : String → Bool) (table more : Table α) :
    (table.putAll more).filter (fun pair => keep pair.1) =
      Table.putAll (table.filter fun pair => keep pair.1) (more.filter fun pair => keep pair.1) := by
  induction more generalizing table with
  | nil => rfl
  | cons pair more ih =>
    obtain ⟨name, entry⟩ := pair
    rw [Table.putAll_cons, ih, List.filter_cons]
    cases kept : keep name with
    | true => rw [Table.filter_put_of_kept keep kept, if_pos rfl, Table.putAll_cons]
    | false => rw [Table.filter_put_of_left_out keep kept, if_neg Bool.false_ne_true]

theorem Table.remove_putAll (table more : Table α) (name : String) :
    (table.putAll more).remove name = (table.remove name).putAll (more.remove name) :=
  Table.filter_putAll (fun other => other ≠ name) table more

theorem Table.lookup?_putAll_of_not_mem {more : Table α} {name : String}
    (absent : name ∉ more.names) (table : Table α) :
    (table.putAll more).lookup? name = table.lookup? name := by
  induction more generalizing table with
  | nil => rfl
  | cons pair more ih =>
    simp only [Table.names, List.map_cons, List.mem_cons, not_or] at absent
    rw [Table.putAll_cons, ih absent.2, Table.lookup?_put_of_ne absent.1]

theorem Table.mem_names_putAll {table more : Table α} {name : String}
    (present : name ∈ table.names) : name ∈ (table.putAll more).names := by
  induction more generalizing table with
  | nil => exact present
  | cons pair more ih =>
    rw [Table.putAll_cons]
    exact ih (Table.mem_names_put.mpr (.inr present))

theorem Table.nodup_names_putAll {table : Table α} (distinct : table.names.Nodup)
    (more : Table α) : (table.putAll more).names.Nodup := by
  induction more generalizing table with
  | nil => exact distinct
  | cons pair more ih => exact ih (Table.nodup_names_put distinct pair.1 pair.2)

theorem Table.nodup_names_ofPairs (pairs : List (String × α)) :
    (Table.ofPairs pairs).names.Nodup := by
  have empty : (Table.names ([] : Table α)).Nodup := List.nodup_nil
  exact Table.nodup_names_putAll empty pairs

theorem Table.eq_or_mem_of_mem_put {table : Table α} {name : String} {entry : α}
    {pair : String × α} (member : pair ∈ table.put name entry) :
    pair = (name, entry) ∨ pair ∈ table := by
  induction table with
  | nil => exact .inl (List.mem_singleton.mp member)
  | cons first rest ih =>
    rw [Table.put] at member
    split at member
    · exact (List.mem_cons.mp member).imp_right (List.mem_cons_of_mem _)
    · rcases List.mem_cons.mp member with rfl | later
      · exact .inr List.mem_cons_self
      · exact (ih later).imp_right (List.mem_cons_of_mem _)

theorem Table.mem_or_mem_of_mem_putAll {table more : Table α} {pair : String × α}
    (member : pair ∈ table.putAll more) : pair ∈ table ∨ pair ∈ more := by
  induction more generalizing table with
  | nil => exact .inl member
  | cons first more ih =>
    rw [Table.putAll_cons] at member
    rcases ih member with early | late
    · rcases Table.eq_or_mem_of_mem_put early with rfl | before
      · exact .inr List.mem_cons_self
      · exact .inl before
    · exact .inr (List.mem_cons_of_mem _ late)

/-- A table that is made of pairs has no entries but those; of two pairs with one name it has
one. -/
theorem Table.mem_of_mem_ofPairs {pairs : List (String × α)} {pair : String × α}
    (member : pair ∈ Table.ofPairs pairs) : pair ∈ pairs :=
  (Table.mem_or_mem_of_mem_putAll member).resolve_left List.not_mem_nil

theorem Table.putAll_map (change : α → β) (table more : Table α) :
    Table.putAll (table.map fun pair => (pair.1, change pair.2))
        (more.map fun pair => (pair.1, change pair.2)) =
      (table.putAll more).map fun pair => (pair.1, change pair.2) := by
  have put_map (table : Table α) (name : String) (entry : α) :
      Table.put (table.map fun pair => (pair.1, change pair.2)) name (change entry) =
        (table.put name entry).map fun pair => (pair.1, change pair.2) := by
    induction table with
    | nil => rfl
    | cons pair rest ih =>
      rw [Table.put, List.map_cons, Table.put]
      split
      · rfl
      · rw [ih, List.map_cons]
  induction more generalizing table with
  | nil => rfl
  | cons pair more ih => rw [List.map_cons, Table.putAll_cons, Table.putAll_cons, put_map, ih]

theorem Table.ofPairs_map (change : α → β) (pairs : List (String × α)) :
    Table.ofPairs (pairs.map fun pair => (pair.1, change pair.2)) =
      (Table.ofPairs pairs).map fun pair => (pair.1, change pair.2) :=
  Table.putAll_map change [] pairs

/-- An entry under a name that is there may be changed before or after one under another name. -/
theorem Table.put_comm {table : Table α} {name other : String} (present : name ∈ table.names)
    (different : name ≠ other) (entry more : α) :
    (table.put name entry).put other more = (table.put other more).put name entry := by
  induction table with
  | nil => cases present
  | cons pair rest ih =>
    obtain ⟨first, old⟩ := pair
    by_cases here : first = name
    · subst here
      simp only [Table.put, if_true, if_neg different]
    · have later : name ∈ Table.names rest := by simpa [Table.names, Ne.symm here] using present
      by_cases there : first = other
      · subst there
        simp only [Table.put, if_true, if_neg here]
      · simp only [Table.put, if_neg here, if_neg there, ih later]

/-- A change that is overwritten later leaves no trace. -/
theorem Table.putAll_put_of_mem {table more : Table α} {name : String}
    (present : name ∈ table.names) (later : name ∈ more.names) (entry : α) :
    (table.put name entry).putAll more = table.putAll more := by
  induction more generalizing table with
  | nil => cases later
  | cons pair more ih =>
    obtain ⟨other, value⟩ := pair
    rw [Table.putAll_cons, Table.putAll_cons]
    by_cases same : name = other
    · subst same
      rw [Table.put_put]
    · have last : name ∈ Table.names more := by simpa [Table.names, same] using later
      rw [Table.put_comm present same, ih (Table.mem_names_put.mpr (.inr present)) last]

theorem Table.putAll_putAll_self (table more : Table α) :
    (table.putAll more).putAll more = table.putAll more := by
  induction more generalizing table with
  | nil => rfl
  | cons pair more ih =>
    obtain ⟨name, entry⟩ := pair
    rw [Table.putAll_cons, Table.putAll_cons]
    have present : name ∈ ((table.put name entry).putAll more).names :=
      Table.mem_names_putAll (Table.mem_names_put.mpr (.inl rfl))
    by_cases later : name ∈ Table.names more
    · rw [Table.putAll_put_of_mem present later, ih]
    · have found : ((table.put name entry).putAll more).lookup? name = some entry := by
        rw [Table.lookup?_putAll_of_not_mem later, Table.lookup?_put_self]
      rw [Table.put_lookup? found, ih]

end GuardedRecords
