import GuardedRecords.Proofs.StoreRuns

namespace GuardedRecords

section Places

variable {content : Table (Table Record)} {name id : String}

/-- A change of a collection at one id changes nothing elsewhere, neither in that collection nor in
the others. -/
theorem lookup?_put_of_kept {changed : Table Record}
    (kept : ∀ key, key ≠ id → changed.lookup? key = (recordsUnder content name).lookup? key)
    (place key : String) :
    (recordsUnder (content.put name changed) place).lookup? key =
      if (name, id) = (place, key) then changed.lookup? id
      else (recordsUnder content place).lookup? key := by
  by_cases same : place = name
  · subst same
    rw [recordsUnder_put_self]
    by_cases here : key = id
    · rw [here, if_pos rfl]
    · rw [kept key here, if_neg fun both => here (Prod.mk.inj both).2.symm]
  · rw [recordsUnder_put_of_ne same, if_neg fun both => same (Prod.mk.inj both).1.symm]

/-- When a record is put under an id of a collection, every other record is found as before, in this
collection and in others. -/
theorem lookup?_put_record (place key : String) (record : Record) :
    (recordsUnder (content.put name ((recordsUnder content name).put id record)) place).lookup? key =
      if (name, id) = (place, key) then some record else (recordsUnder content place).lookup? key := by
  rw [lookup?_put_of_kept fun key other => Table.lookup?_put_of_ne other .., Table.lookup?_put_self]

theorem lookup?_remove_record (place key : String) :
    (recordsUnder (content.put name ((recordsUnder content name).remove id)) place).lookup? key =
      if (name, id) = (place, key) then none else (recordsUnder content place).lookup? key := by
  rw [lookup?_put_of_kept fun key other => Table.lookup?_remove_of_ne other _,
    Table.lookup?_remove_self]

end Places

section Outcomes

variable {store : Store} {name id : String}

/-- A change of a record that is stored stores the changed one with its time under the same id. The
clock is read once. -/
theorem Store.modify_of_lookup? {old : Record}
    (found : (recordsUnder store.collections name).lookup? id = some old)
    (change : Record → Record) :
    store.modify name id change =
      (.ok ((old.changedAt change store.clock.next.1).tagged id),
        { store with
          collections := store.collections.put name ((recordsUnder store.collections name).put id
            (old.changedAt change store.clock.next.1))
          clock := store.clock.next.2 }) := by
  have existing := Store.existing_eq_ok_iff_recordsUnder.mpr found
  rcases store.modify_cases name id change with ⟨records, same, present, again, run⟩ | ⟨error, run⟩
  · rw [← recordsUnder_of_lookup? present] at again run
    cases found.symm.trans again
    exact run
  · have changed := (Store.modify_of_existing existing change).1
    rw [run] at changed
    cases changed

/-- A change of what is not stored fails and leaves the whole store as it was, its clock
included. -/
theorem Store.modify_of_missing (missing : (recordsUnder store.collections name).lookup? id = none)
    (change : Record → Record) :
    ∃ error, store.modify name id change = (.error (.refused error), store) := by
  rcases store.modify_cases name id change with ⟨records, old, present, found, _⟩ | failed
  · rw [← recordsUnder_of_lookup? present, missing] at found
    cases found
  · exact failed

theorem Store.delete_of_lookup? {old : Record}
    (found : (recordsUnder store.collections name).lookup? id = some old) :
    store.delete name id =
      (.ok [(deletedField, .int store.clock.next.1)],
        { store with
          collections := store.collections.put name
            ((recordsUnder store.collections name).remove id)
          clock := store.clock.next.2 }) := by
  have existing := Store.existing_eq_ok_iff_recordsUnder.mpr found
  obtain ⟨records, present, _⟩ := Store.existing_eq_ok_iff.mp existing
  rw [Store.delete, Store.collection_eq_ok_iff.mpr present, existing, recordsUnder_of_lookup? present]
  rfl

theorem Store.delete_of_missing
    (missing : (recordsUnder store.collections name).lookup? id = none) :
    ∃ error, store.delete name id = (.error (.refused error), store) := by
  rcases store.delete_cases name id with ⟨records, old, present, found, _⟩ | failed
  · rw [← recordsUnder_of_lookup? present, missing] at found
    cases found
  · exact failed

end Outcomes

/-- A changed record shows the stamp that follows the one it had: the reading of the clock, or one
more than the old stamp where the clock has not passed that. -/
theorem Record.lookup?_changedAt_updated (old : Record) (change : Record → Record) (now : Int) :
    (old.changedAt change now).lookup? updatedField =
      some (.int (stampAfter (old.field updatedField) now)) :=
  Table.lookup?_put_self ..

/-- What an operation may do to a store, with the write that it is. Each write reads the clock
once. -/
inductive Store.Does (store : Store) : Option Write → Store → Prop
  | nothing (ids : Supply String) : store.Does none { store with ids := ids }
  | create {name id : String} (payload : Record) (owner : Value) (ids : Supply String) :
      id ∉ (recordsUnder store.collections name).names →
      store.Does (some (.created name id ((newRecord payload owner store.clock.next.1).tagged id)))
        { store with
          collections := store.collections.put name ((recordsUnder store.collections name).put id
            (newRecord payload owner store.clock.next.1))
          ids := ids
          clock := store.clock.next.2 }
  | change {name id : String} {old : Record} (change : Record → Record) :
      (recordsUnder store.collections name).lookup? id = some old →
      store.Does (some (.changed name id ((old.changedAt change store.clock.next.1).tagged id)))
        { store with
          collections := store.collections.put name ((recordsUnder store.collections name).put id
            (old.changedAt change store.clock.next.1))
          clock := store.clock.next.2 }
  | remove (name id : String) :
      store.Does (some (.removed name id))
        { store with
          collections := store.collections.put name
            ((recordsUnder store.collections name).remove id)
          clock := store.clock.next.2 }

/-- A change does one write to a stored record, or nothing. Replacing and merging differ only in
what they make of the record. -/
theorem Store.does_modify {store : Store} {operation : StoreOperation} {name id : String}
    {change : Record → Record}
    (writes : ∀ record, operation.write? (.ok (.record record)) = some (.changed name id record))
    (fails : ∀ failure, operation.write? (.error failure) = none) :
    store.Does (operation.write? ((store.modify name id change).1.map .record))
      (store.modify name id change).2 := by
  cases found : (recordsUnder store.collections name).lookup? id with
  | none =>
    obtain ⟨error, run⟩ := Store.modify_of_missing found change
    rw [run]
    exact fails _ ▸ .nothing store.ids
  | some old =>
    rw [Store.modify_of_lookup? found]
    exact writes _ ▸ .change change found

/-- Every operation does what its answer tells: a write for some answers, and nothing for all the
others. The history of a store is built on this one step. -/
theorem Store.does_perform (store : Store) (operation : StoreOperation) :
    store.Does (operation.write? (store.perform operation).1) (store.perform operation).2 := by
  cases operation with
  | add name payload owner =>
    simp only [Store.perform]
    rcases store.add_cases name payload owner with ⟨id, ids, _, unused, run⟩ | ⟨ids, _, run⟩
    · rw [run, ← Table.put_of_not_mem unused]
      simp only [Except.map, StoreOperation.write?, Record.field_tagged_self]
      exact .create payload owner ids unused
    · rw [run]
      exact .nothing ids
  | set name id payload => exact Store.does_modify (fun _ => rfl) fun _ => rfl
  | merge name id payload => exact Store.does_modify (fun _ => rfl) fun _ => rfl
  | delete name id =>
    simp only [Store.perform]
    cases found : (recordsUnder store.collections name).lookup? id with
    | none =>
      obtain ⟨error, run⟩ := Store.delete_of_missing found
      rw [run]
      exact .nothing store.ids
    | some old =>
      rw [Store.delete_of_lookup? found]
      exact .remove name id
  | _ => exact .nothing store.ids

end GuardedRecords
