import GuardedRecords.Proofs.Outcomes
import GuardedRecords.Proofs.TableEntries
import GuardedRecords.Store

namespace GuardedRecords

/-- A store of some content. Its clock counts its readings, and where an id is in use so many more
are tried. -/
def Store.holding (content : Table (Table Record)) (ids : Nat → String) (retries : Nat) : Store where
  collections := content
  ids := { item := ids }
  clock := { item := fun place => place }
  attempts := retries + 1
  attempts_pos := Nat.succ_pos retries

/-- The content of a store before and after the records of one collection have changed. The
collection keeps its place; a new one comes last. All other collections are as before. -/
inductive CollectionChange (name : String) (records changed : Table Record) :
    Table (Table Record) → Table (Table Record) → Prop
  | inPlace (front back : Table (Table Record)) : name ∉ front.names →
      CollectionChange name records changed (front ++ (name, records) :: back)
        (front ++ (name, changed) :: back)
  | opened (content : Table (Table Record)) : name ∉ content.names → records = [] →
      CollectionChange name records changed content (content ++ [(name, changed)])

/-- The records of a collection, none if there is no such collection. -/
def Store.recordsIn (store : Store) (name : String) : Table Record :=
  (store.collections.lookup? name).getD []

theorem Store.recordsIn_of_lookup? {store : Store} {name : String} {records : Table Record}
    (found : store.collections.lookup? name = some records) : store.recordsIn name = records := by
  rw [Store.recordsIn, found, Option.getD_some]

/-- To put records under the name of a collection is a change of that one collection. It keeps its
place, or comes last when it is new. -/
theorem Store.collectionChange_put (store : Store) (name : String) (changed : Table Record) :
    CollectionChange name (store.recordsIn name) changed store.collections
      (store.collections.put name changed) := by
  cases found : store.collections.lookup? name with
  | none =>
    have absent := Table.lookup?_eq_none_iff.mp found
    rw [Table.put_of_not_mem absent]
    exact .opened _ absent (by rw [Store.recordsIn, found, Option.getD_none])
  | some records =>
    rw [Store.recordsIn_of_lookup? found]
    obtain ⟨front, back, split, first⟩ := Table.lookup?_eq_some_iff.mp found
    rw [split, Table.put_append first]
    exact .inPlace front back first

theorem CollectionChange.lookup?_of_ne {name other : String} {records changed : Table Record}
    {before after : Table (Table Record)}
    (change : CollectionChange name records changed before after) (different : other ≠ name) :
    after.lookup? other = before.lookup? other := by
  have put_before : ∀ content : Table (Table Record), after = content.put name changed →
      content.lookup? other = before.lookup? other → after.lookup? other = before.lookup? other := by
    intro content same kept
    rw [same, Table.lookup?_put_of_ne different, kept]
  cases change with
  | inPlace front back first =>
    exact put_before _ (Table.put_append first records changed back).symm rfl
  | opened content absent empty =>
    exact put_before _ (Table.put_of_not_mem absent changed).symm rfl

theorem CollectionChange.lookup?_self {name : String} {records changed : Table Record}
    {before after : Table (Table Record)}
    (change : CollectionChange name records changed before after) :
    (before.lookup? name).getD [] = records ∧ after.lookup? name = some changed := by
  cases change with
  | inPlace front back first =>
    have found : Table.lookup? (front ++ (name, records) :: back) name = some records :=
      Table.lookup?_eq_some_iff.mpr ⟨front, back, rfl, first⟩
    exact ⟨by rw [found, Option.getD_some], Table.lookup?_eq_some_iff.mpr ⟨front, back, rfl, first⟩⟩
  | opened content absent empty =>
    refine ⟨?_, Table.lookup?_eq_some_iff.mpr ⟨before, [], rfl, absent⟩⟩
    rw [Table.lookup?_eq_none_iff.mpr absent, Option.getD_none, empty]

theorem freshId_unused {inUse : String → Bool} {attempts : Nat} {ids rest : Supply String}
    {id : String} (found : freshId inUse attempts ids = (some id, rest)) : inUse id = false := by
  induction attempts generalizing ids with
  | zero => cases found
  | succ attempts ih =>
    simp only [freshId] at found
    split at found
    · exact ih found
    · next unused =>
      cases found
      exact Bool.eq_false_iff.mpr unused

/-- Attempts run out only where every id that is tried is in use, and as many are tried as the store
allows. -/
theorem freshId_exhausted {inUse : String → Bool} {attempts : Nat} {ids rest : Supply String}
    (exhausted : freshId inUse attempts ids = (none, rest)) :
    ∀ place < attempts, inUse (ids.item (ids.taken + place)) = true := by
  induction attempts generalizing ids with
  | zero => exact fun place bound => absurd bound (Nat.not_lt_zero place)
  | succ attempts ih =>
    simp only [freshId] at exhausted
    split at exhausted
    · next used =>
      intro place bound
      cases place with
      | zero => exact used
      | succ place =>
        rw [Nat.add_comm place, ← Nat.add_assoc]
        exact ih exhausted place (Nat.lt_of_succ_lt_succ bound)
    · cases exhausted

/-- A new record is stored at the end of its collection under an id that was not in use; without
such an id nothing is stored, not even an empty collection. -/
theorem Store.add_cases (store : Store) (name : String) (payload : Record) (owner : Value) :
    (∃ id ids, freshId (store.recordsIn name).has store.attempts store.ids = (some id, ids) ∧
      id ∉ (store.recordsIn name).names ∧
      store.add name payload owner =
        (.ok ((newRecord payload owner store.clock.next.1).tagged id),
          { store with
            collections := store.collections.put name
              (store.recordsIn name ++ [(id, newRecord payload owner store.clock.next.1)])
            ids := ids
            clock := store.clock.next.2 })) ∨
    ∃ ids, freshId (store.recordsIn name).has store.attempts store.ids = (none, ids) ∧
      store.add name payload owner =
        (.error (.idsExhausted name store.attempts), { store with ids := ids }) := by
  rcases run : freshId (store.recordsIn name).has store.attempts store.ids with ⟨_ | id, ids⟩
  · right
    refine ⟨ids, rfl, ?_⟩
    have used := freshId_exhausted run 0 store.attempts_pos
    have present : store.collections.lookup? name = some (store.recordsIn name) := by
      cases lookup : store.collections.lookup? name with
      | none =>
        rw [Store.recordsIn, lookup] at used
        cases used
      | some records => rw [Store.recordsIn_of_lookup? lookup]
    have same := Table.put_lookup? present
    simp only [Store.recordsIn] at run same
    simp only [Store.add, run, Store.withCollection, same]
  · left
    have unused := Table.has_eq_false_iff.mp (freshId_unused run)
    refine ⟨id, ids, rfl, unused, ?_⟩
    rw [← Table.put_of_not_mem unused]
    simp only [Store.recordsIn] at run ⊢
    simp only [Store.add, run, Store.withCollection, Table.put_put]

theorem Store.collection_eq_ok_iff {store : Store} {name : String} {records : Table Record} :
    store.collection name = .ok records ↔ store.collections.lookup? name = some records := by
  unfold Store.collection
  split <;> simp_all

theorem Store.existing_eq_ok_iff {store : Store} {name id : String} {record : Record} :
    store.existing name id = .ok record ↔
      ∃ records, store.collections.lookup? name = some records ∧
        records.lookup? id = some record := by
  unfold Store.existing
  simp only [bind_eq_ok_iff, Store.collection_eq_ok_iff]
  refine exists_congr fun records => and_congr_right fun _ => ?_
  split <;> simp_all

theorem Store.get_eq_ok_iff {store : Store} {name id : String} {record : Record} :
    store.get name id = .ok record ↔
      ∃ stored, store.existing name id = .ok stored ∧ stored.tagged id = record :=
  map_eq_ok_iff

theorem Store.lookup?_of_existing {store : Store} {name id : String} {records : Table Record}
    {record : Record} (collection : store.collection name = .ok records)
    (existing : store.existing name id = .ok record) :
    store.collections.lookup? name = some records ∧ records.lookup? id = some record := by
  have present := Store.collection_eq_ok_iff.mp collection
  obtain ⟨same, again, found⟩ := Store.existing_eq_ok_iff.mp existing
  cases Option.some.inj (present.symm.trans again)
  exact ⟨present, found⟩

/-- A changed record with the time of its change. -/
def Record.changedAt (old : Record) (change : Record → Record) (now : Int) : Record :=
  (change old).put updatedField (.int (stampAfter (old.field updatedField) now))

/-- A change of a record that is stored puts the changed record in its place; of any other one it
fails and leaves the store as it is. -/
theorem Store.modify_cases (store : Store) (name id : String) (change : Record → Record) :
    (∃ records old, store.collections.lookup? name = some records ∧
      records.lookup? id = some old ∧
      store.modify name id change =
        (.ok ((old.changedAt change store.clock.next.1).tagged id),
          { store with
            collections := store.collections.put name
              (records.put id (old.changedAt change store.clock.next.1))
            clock := store.clock.next.2 })) ∨
    ∃ error, store.modify name id change = (.error (.refused error), store) := by
  unfold Store.modify
  split
  · next records old collection existing =>
    obtain ⟨present, found⟩ := Store.lookup?_of_existing collection existing
    exact .inl ⟨records, old, present, found, rfl⟩
  · exact .inr ⟨_, rfl⟩
  · exact .inr ⟨_, rfl⟩

/-- A change of a record that is stored succeeds, and the changed record is stored then. -/
theorem Store.modify_of_existing {store : Store} {name id : String} {old : Record}
    (existing : store.existing name id = .ok old) (change : Record → Record) :
    (store.modify name id change).1 = .ok ((old.changedAt change store.clock.next.1).tagged id) ∧
      (store.modify name id change).2.existing name id =
        .ok (old.changedAt change store.clock.next.1) := by
  obtain ⟨records, present, found⟩ := Store.existing_eq_ok_iff.mp existing
  have run : store.modify name id change =
      (.ok ((old.changedAt change store.clock.next.1).tagged id),
        { store with
          collections := store.collections.put name
            (records.put id (old.changedAt change store.clock.next.1))
          clock := store.clock.next.2 }) := by
    rw [Store.modify, Store.collection_eq_ok_iff.mpr present, existing]
    rfl
  rw [run]
  exact ⟨rfl, Store.existing_eq_ok_iff.mpr
    ⟨_, Table.lookup?_put_self .., Table.lookup?_put_self ..⟩⟩

/-- A deletion finds the record and takes it away, with the time as its answer, or it fails and
changes nothing. -/
theorem Store.delete_cases (store : Store) (name id : String) :
    (∃ records old, store.collections.lookup? name = some records ∧
      records.lookup? id = some old ∧
      store.delete name id =
        (.ok [(deletedField, .int store.clock.next.1)],
          { store with
            collections := store.collections.put name (records.remove id)
            clock := store.clock.next.2 })) ∨
    ∃ error, store.delete name id = (.error (.refused error), store) := by
  unfold Store.delete
  split
  · next records old collection existing =>
    obtain ⟨present, found⟩ := Store.lookup?_of_existing collection existing
    exact .inl ⟨records, old, present, found, rfl⟩
  · exact .inr ⟨_, rfl⟩
  · exact .inr ⟨_, rfl⟩

end GuardedRecords
