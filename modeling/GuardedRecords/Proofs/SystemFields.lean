import GuardedRecords.Proofs.StoreRuns

namespace GuardedRecords

/-- The collection that an operation is about. -/
def StoreOperation.collection? : StoreOperation → Option String
  | .names => none
  | .has name | .get name _ | .all name | .fetch name _ | .query name _ | .add name _ _
  | .set name _ _ | .merge name _ _ | .delete name _ => some name

theorem Store.get_of_entry {store : Store} (orderly : Orderly store.collections) {name : String}
    {entry : String × Record} (member : entry ∈ recordsUnder store.collections name) :
    store.get name entry.1 = .ok (entry.2.tagged entry.1) :=
  Store.get_eq_ok_iff_recordsUnder.mpr
    ⟨entry.2, Table.lookup?_of_mem (orderly.ids name) member, rfl⟩

theorem Store.field_of_get {store : Store} {name id : String} {record : Record}
    (got : store.get name id = .ok record) : record.field idField = .text id := by
  obtain ⟨stored, _, rfl⟩ := Store.get_eq_ok_iff.mp got
  exact Record.field_tagged_self stored id

/-- Every record that is given out is stored then, in the collection that was asked for. This is so
after each kind of operation, reading or writing. -/
theorem Store.get_of_given {store : Store} (orderly : Orderly store.collections)
    {operation : StoreOperation} {answer : StoreAnswer}
    (run : (store.perform operation).1 = .ok answer) {record : Record}
    (given : record ∈ answer.given) :
    ∃ name id, operation.collection? = some name ∧
      (store.perform operation).2.get name id = .ok record := by
  cases operation with
  | names => cases run; cases given
  | has name => cases run; cases given
  | get name id =>
    obtain ⟨found, got, rfl⟩ := map_eq_ok_iff.mp run
    cases List.mem_singleton.mp given
    exact ⟨name, id, rfl, mapError_eq_ok_iff.mp got⟩
  | all name =>
    obtain ⟨records, got, rfl⟩ := map_eq_ok_iff.mp run
    rw [mapError_eq_ok_iff, Store.all_eq] at got
    split at got
    · cases got
      obtain ⟨entry, member, rfl⟩ := List.mem_map.mp given
      exact ⟨name, entry.1, rfl, Store.get_of_entry orderly member⟩
    · cases got
  | fetch name id =>
    cases run
    cases id with
    | text key =>
      have got : (store.get name key).toOption = some record := Option.mem_toList.mp given
      cases fetched : store.get name key with
      | error failure => rw [fetched] at got; cases got
      | ok same =>
        rw [fetched] at got
        cases got
        exact ⟨name, key, rfl, fetched⟩
    | _ => cases given
  | query name wanted =>
    obtain ⟨records, got, rfl⟩ := map_eq_ok_iff.mp run
    obtain ⟨found, collection, rfl⟩ := map_eq_ok_iff.mp (mapError_eq_ok_iff.mp got)
    obtain ⟨entry, member, rfl⟩ := List.mem_map.mp given
    rw [Store.collection_eq_ok_iff] at collection
    rw [← recordsUnder_of_lookup? collection] at member
    exact ⟨name, entry.1, rfl, Store.get_of_entry orderly (List.mem_filter.mp member).1⟩
  | add name payload owner =>
    obtain ⟨new, added, rfl⟩ := map_eq_ok_iff.mp run
    cases List.mem_singleton.mp given
    obtain ⟨id, rfl, _, got⟩ := Store.get_of_add added
    exact ⟨name, id, rfl, got⟩
  | set name id payload =>
    obtain ⟨new, changed, rfl⟩ := map_eq_ok_iff.mp run
    cases List.mem_singleton.mp given
    obtain ⟨old, _, rfl, got⟩ := Store.get_of_modify changed
    exact ⟨name, id, rfl, got⟩
  | merge name id payload =>
    obtain ⟨new, changed, rfl⟩ := map_eq_ok_iff.mp run
    cases List.mem_singleton.mp given
    obtain ⟨old, _, rfl, got⟩ := Store.get_of_modify changed
    exact ⟨name, id, rfl, got⟩
  | delete name id =>
    obtain ⟨marker, _, rfl⟩ := map_eq_ok_iff.mp run
    cases given

/-- As long as a record is not deleted it keeps the fields that say who made it and when. The run
may change it as often as it likes. -/
theorem Store.run_keeps_origin {store : Store} {name id : String} {before : Record}
    (existing : store.existing name id = .ok before) {steps : List StoreOperation}
    (undeleted : .removed name id ∉ (store.run steps).1) :
    ∃ after, (store.run steps).2.existing name id = .ok after ∧ before.SameOrigin after := by
  have kept := Store.run_keeps
    (fun history content => .removed name id ∈ history ∨
      ∃ after, (recordsUnder content name).lookup? id = some after ∧ before.SameOrigin after)
    (fun history _ write _ earlier step => by
      rcases earlier with removed | ⟨now, found, origin⟩
      · exact .inl (List.mem_append_left _ removed)
      · rcases step.removed_or_kept found with rfl | ⟨new, stored, same⟩
        · exact .inl (List.mem_append_right history (List.mem_singleton.mpr rfl))
        · exact .inr ⟨new, stored, origin.trans same⟩)
    (.inr ⟨before, Store.existing_eq_ok_iff_recordsUnder.mp existing, .refl before⟩) steps
  obtain ⟨after, found, origin⟩ := kept.resolve_left undeleted
  exact ⟨after, Store.existing_eq_ok_iff_recordsUnder.mpr found, origin⟩

/-- The store alone has the say over the fields that are its own. -/
structure Store.GuardsSystemFields (store : Store) : Prop where
  untagged : ∀ {name records id stored}, (name, records) ∈ store.collections →
    (id, stored) ∈ records → stored.lookup? idField = none
  given : ∀ {operation answer}, (store.perform operation).1 = .ok answer →
    ∀ record ∈ answer.given, ∃ name id, operation.collection? = some name ∧
      record.field idField = .text id ∧ (store.perform operation).2.get name id = .ok record
  kept : ∀ {name id before steps}, store.existing name id = .ok before →
    .removed name id ∉ (store.run steps).1 →
    ∃ after, (store.run steps).2.existing name id = .ok after ∧
      after.lookup? createdField = before.lookup? createdField ∧
      after.lookup? ownerField = before.lookup? ownerField
  added : ∀ {name payload owner record}, (store.add name payload owner).1 = .ok record →
    record.lookup? createdField = some (.int store.clock.next.1) ∧
      (store.add name payload owner).2.clock = store.clock.next.2 ∧
      record.lookup? ownerField = if owner.isNull then none else some owner

/-- In a store without repeated names the fields of the store are in its own hands: what a payload
says of them is dropped at every write. -/
theorem Store.guardsSystemFields_of_orderly {store : Store} (orderly : Orderly store.collections) :
    store.GuardsSystemFields where
  untagged {name records id stored} collection member := by
    have found := Table.lookup?_of_mem orderly.collections collection
    rw [← recordsUnder_of_lookup? found] at member
    exact orderly.untagged name id stored (Table.lookup?_of_mem (orderly.ids name) member)
  given run record member := by
    obtain ⟨name, id, collection, got⟩ := Store.get_of_given orderly run member
    exact ⟨name, id, collection, Store.field_of_get got, got⟩
  kept existing undeleted := by
    obtain ⟨after, found, origin⟩ := Store.run_keeps_origin existing undeleted
    exact ⟨after, found, origin createdField (by decide), origin ownerField (by decide)⟩
  added {name payload owner record} run := by
    obtain ⟨id, rfl, clock, _⟩ := Store.get_of_add run
    refine ⟨?_, clock, ?_⟩
    · rw [Record.tagged, Table.lookup?_put_of_ne (by decide), lookup?_newRecord_created]
    · rw [Record.tagged, Table.lookup?_put_of_ne (by decide), lookup?_newRecord_owner]

/-- Whatever payloads and seeds carry: at every point of a run records are stored without an id
and given out with the one they are stored under, and from its creation or seeding to its deletion
a record keeps the time of its creation and its owner. -/
theorem Store.run_guards_system_fields {seed : Table (Table Record)} {ids : Supply String}
    {clock : Supply Int} {attempts : Int} {store : Store}
    (start : Store.ofSeed seed ids clock attempts = .ok store) (steps : List StoreOperation) :
    (store.run steps).2.GuardsSystemFields ∧
      ∀ name id record, seedRecord? seed name id = some record →
        .removed name id ∉ (store.run steps).1 →
        ∃ after, (store.run steps).2.existing name id = .ok after ∧
          after.lookup? createdField = record.lookup? createdField ∧
          after.lookup? ownerField = record.lookup? ownerField := by
  have orderly := Store.orderly_ofSeed start
  refine ⟨Store.guardsSystemFields_of_orderly (Store.orderly_run orderly steps), ?_⟩
  intro name id record seeded undeleted
  have existing : store.existing name id = .ok (record.remove idField) := by
    rw [Store.existing_eq_ok_iff_recordsUnder, Store.collections_ofSeed start, lookup?_storedForm,
      seeded, Option.map_some]
  obtain ⟨after, found, origin⟩ := Store.run_keeps_origin existing undeleted
  refine ⟨after, found, ?_, ?_⟩
  · rw [origin createdField (by decide), Table.lookup?_remove_of_ne (by decide)]
  · rw [origin ownerField (by decide), Table.lookup?_remove_of_ne (by decide)]

/-- A note with an id of its own that nobody owns. -/
def ownerlessNotes : Table (Table Record) :=
  [("notes", [("n1", [("_id", .text "n9"), ("_createdOn", .int 3), ("title", .text "first")])])]

/-- Payloads that carry fields of the store, where a record has them and where it has not. -/
def forgingSteps : List StoreOperation :=
  [.merge "notes" "n1" [("_ownerId", .text "u2"), ("_createdOn", .int 9), ("_id", .text "n8")],
    .add "notes" [("_ownerId", .text "u2"), ("_updatedOn", .int 9)] (.text "u1"),
    .set "notes" "n1" [("_ownerId", .text "u2")],
    .delete "notes" "n2"]

def ownerlessStore : Store :=
  .holding (storedForm ownerlessNotes) (fun place => if place = 0 then "n1" else "n2") 1

theorem Store.run_guards_system_fields_ownerless :
    Store.ofSeed ownerlessNotes ownerlessStore.ids ownerlessStore.clock 2 = .ok ownerlessStore ∧
      (ownerlessStore.run forgingSteps).2.GuardsSystemFields ∧
      .removed "notes" "n1" ∉ (ownerlessStore.run forgingSteps).1 ∧
      ∃ after, (ownerlessStore.run forgingSteps).2.existing "notes" "n1" = .ok after ∧
        after.lookup? createdField = some (.int 3) ∧ after.lookup? ownerField = none := by
  have start : Store.ofSeed ownerlessNotes ownerlessStore.ids ownerlessStore.clock 2 =
      .ok ownerlessStore := rfl
  have undeleted : .removed "notes" "n1" ∉ (ownerlessStore.run forgingSteps).1 := by
    have writes : (ownerlessStore.run forgingSteps).1 =
        [.changed "notes" "n1" _, .created "notes" "n2" _, .changed "notes" "n1" _,
          .removed "notes" "n2"] := rfl
    rw [writes]
    simp
  obtain ⟨guards, kept⟩ := Store.run_guards_system_fields start forgingSteps
  exact ⟨start, guards, undeleted, kept "notes" "n1" _ rfl undeleted⟩

end GuardedRecords
