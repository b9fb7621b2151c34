import GuardedRecords.Proofs.Mediation

namespace GuardedRecords

/-- What a failure leaves of a store: the store as it was or, where a create has met no id that is
free, the store with those ids used up. That can only happen in a collection that is there. -/
inductive Store.AfterFailure (store : Store) : Failure → Store → Prop
  | untouched {failure : Failure} : AfterFailure store failure store
  | exhausted {name : String} {ids : Supply String} : store.hasCollection name = true →
      freshId (store.recordsIn name).has store.attempts store.ids = (none, ids) →
      AfterFailure store (.idsExhausted name store.attempts) { store with ids := ids }

/-- In either case the records are those from before: ids that are used up are the only trace a
failure may leave. -/
theorem Store.AfterFailure.collections {store after : Store} {failure : Failure}
    (left : store.AfterFailure failure after) : after.collections = store.collections := by
  cases left with
  | untouched => rfl
  | exhausted present run => rfl

/-- In a collection without records the first id is free, so one that a create has just opened is
never left behind. -/
theorem Store.hasCollection_of_exhausted {store : Store} {name : String} {ids : Supply String}
    (run : freshId (store.recordsIn name).has store.attempts store.ids = (none, ids)) :
    store.hasCollection name = true := by
  have used := freshId_exhausted run 0 store.attempts_pos
  rw [Store.hasCollection, Table.has, Option.isSome_iff_ne_none]
  intro absent
  have empty : store.recordsIn name = [] := by rw [Store.recordsIn, absent, Option.getD_none]
  rw [empty] at used
  cases used

/-- A create fails only when ids run out. In a collection that is not there the first id is free
already, so no empty collection is left behind. -/
theorem Store.add_afterFailure {store : Store} {name : String} {payload : Record} {owner : Value}
    {failure : Failure} (failed : (store.add name payload owner).1 = .error failure) :
    store.AfterFailure failure (store.add name payload owner).2 := by
  rcases store.add_cases name payload owner with ⟨id, ids, _, _, run⟩ | ⟨ids, exhausted, run⟩
  · rw [run] at failed
    cases failed
  · rw [run] at failed ⊢
    cases failed
    exact .exhausted (Store.hasCollection_of_exhausted exhausted) exhausted

/-- A change fails for a missing record, which is found out before anything is written or the clock
is read. -/
theorem Store.modify_afterFailure {store : Store} {name id : String} {change : Record → Record}
    {failure : Failure} (failed : (store.modify name id change).1 = .error failure) :
    store.AfterFailure failure (store.modify name id change).2 := by
  rcases store.modify_cases name id change with ⟨records, old, _, _, run⟩ | ⟨error, run⟩
  · rw [run] at failed
    cases failed
  · rw [run]
    exact .untouched

theorem Store.delete_afterFailure {store : Store} {name id : String} {failure : Failure}
    (failed : (store.delete name id).1 = .error failure) :
    store.AfterFailure failure (store.delete name id).2 := by
  rcases store.delete_cases name id with ⟨records, old, _, _, run⟩ | ⟨error, run⟩
  · rw [run] at failed
    cases failed
  · rw [run]
    exact .untouched

/-- A write that fails its checks does not reach the store, so only what a failed change leaves
counts. -/
theorem Database.write_afterFailure {α : Type} {db : Database} {checks : Except Failure α}
    {change : α → Except Failure Record × Store} {failure : Failure}
    (changes : ∀ passed, (change passed).1 = .error failure →
      db.store.AfterFailure failure (change passed).2)
    (failed : (db.write checks change).1.map Reading.record = .error failure) :
    ∃ store, (db.write checks change).2 = { db with store := store } ∧
      db.store.AfterFailure failure store := by
  cases checks with
  | error refused => exact ⟨db.store, rfl, .untouched⟩
  | ok passed =>
    refine ⟨(change passed).2, rfl, changes passed ?_⟩
    cases outcome : (change passed).1 with
    | error reported =>
      simp only [Database.write, outcome] at failed
      cases failed
      rfl
    | ok answer =>
      simp only [Database.write, outcome] at failed
      cases failed

/-- An operation that fails, for whatever reason, leaves what is stored as it was, down to the
list of collections. All that it may cost is ids that were in use. -/
theorem Database.perform_leaves_no_trace {db : Database} {caller : Caller}
    {operation : RecordOperation} {failure : Failure}
    (failed : (db.perform caller operation).1 = .error failure) :
    ∃ store, (db.perform caller operation).2 = { db with store := store } ∧
      db.store.AfterFailure failure store ∧ store.collections = db.store.collections := by
  have left : ∃ store, (db.perform caller operation).2 = { db with store := store } ∧
      db.store.AfterFailure failure store := by
    cases operation with
    | read collection id spec => exact ⟨db.store, rfl, .untouched⟩
    | create name id payload =>
      exact Database.write_afterFailure (fun _ => Store.add_afterFailure) failed
    | replace name id payload =>
      exact Database.write_afterFailure (fun _ => Store.modify_afterFailure) failed
    | merge name id payload =>
      exact Database.write_afterFailure (fun _ => Store.modify_afterFailure) failed
    | delete name id =>
      exact Database.write_afterFailure (fun _ => Store.delete_afterFailure) failed
  obtain ⟨store, same, after⟩ := left
  exact ⟨store, same, after, after.collections⟩

/-- Every id that is tried for a second note is the one of the first. -/
theorem Database.perform_leaves_no_trace_exhausted :
    let db : Database := ⟨.holding [("notes", [("n1", [])])] (fun _ => "n1") 2, none, {}⟩
    let caller : Caller := { user := some [("_id", .text "u1")] }
    let second : RecordOperation := .create "notes" none (.object [("title", .text "second")])
    (db.perform caller second).1 = .error (.idsExhausted "notes" 3) ∧
      ∃ store, (db.perform caller second).2 = { db with store := store } ∧
        db.store.AfterFailure (.idsExhausted "notes" 3) store ∧
        store.collections = db.store.collections := by
  intro db caller second
  have failed : (db.perform caller second).1 = .error (.idsExhausted "notes" 3) := rfl
  exact ⟨failed, Database.perform_leaves_no_trace failed⟩

end GuardedRecords
