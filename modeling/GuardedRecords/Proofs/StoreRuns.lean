import GuardedRecords.Proofs.RecordFields

namespace GuardedRecords

/-- The records of a collection, none if there is no such collection. -/
def recordsUnder (content : Table (Table Record)) (name : String) : Table Record :=
  (content.lookup? name).getD []

theorem recordsUnder_of_lookup? {content : Table (Table Record)} {name : String}
    {records : Table Record} (found : content.lookup? name = some records) :
    recordsUnder content name = records := by
  rw [recordsUnder, found, Option.getD_some]

theorem recordsUnder_put_self (content : Table (Table Record)) (name : String)
    (records : Table Record) : recordsUnder (content.put name records) name = records := by
  rw [recordsUnder, Table.lookup?_put_self, Option.getD_some]

theorem recordsUnder_put_of_ne {name other : String} (different : other ≠ name)
    (content : Table (Table Record)) (records : Table Record) :
    recordsUnder (content.put name records) other = recordsUnder content other := by
  rw [recordsUnder, Table.lookup?_put_of_ne different, recordsUnder]

/-- A record is found exactly if it is among the records under the name. A collection that is
missing is as good as an empty one here. -/
theorem Store.existing_eq_ok_iff_recordsUnder {store : Store} {name id : String} {record : Record} :
    store.existing name id = .ok record ↔
      (recordsUnder store.collections name).lookup? id = some record := by
  rw [Store.existing_eq_ok_iff]
  constructor
  · rintro ⟨records, present, found⟩
    rwa [recordsUnder_of_lookup? present]
  · intro found
    cases present : store.collections.lookup? name with
    | none =>
      rw [recordsUnder, present] at found
      cases found
    | some records => exact ⟨records, rfl, recordsUnder_of_lookup? present ▸ found⟩

/-- The answer to a request for one record tells whether the collection or the record is missing. -/
theorem Store.get_eq (store : Store) (name id : String) :
    store.get name id =
      match (recordsUnder store.collections name).lookup? id with
      | some record => .ok (record.tagged id)
      | none => .error (if name ∈ store.names then .noEntry id else .noCollection name) := by
  rw [Store.get, Store.existing, Store.collection, recordsUnder]
  cases found : store.collections.lookup? name with
  | none =>
    have absent : name ∉ store.names := Table.lookup?_eq_none_iff.mp found
    simp only [error_bind, Option.getD_none, Table.lookup?, List.lookup_nil, if_neg absent]
    rfl
  | some records =>
    have present : name ∈ store.names := Table.mem_names_of_lookup? found
    simp only [ok_bind, Option.getD_some, if_pos present]
    cases records.lookup? id <;> rfl

theorem Store.get_eq_ok_iff_recordsUnder {store : Store} {name id : String} {record : Record} :
    store.get name id = .ok record ↔
      ∃ stored, (recordsUnder store.collections name).lookup? id = some stored ∧
        stored.tagged id = record := by
  simp only [Store.get_eq_ok_iff, Store.existing_eq_ok_iff_recordsUnder]

/-- A record is fetched for a rule like any other one, with its id, and nothing is fetched where
there is none. -/
theorem Store.fetch_text (store : Store) (name id : String) :
    store.fetch name (.text id) =
      ((recordsUnder store.collections name).lookup? id).map (·.tagged id) := by
  rw [Store.fetch, Store.get_eq]
  cases (recordsUnder store.collections name).lookup? id <;> rfl

/-- The records of a collection are listed with their ids in the order in which they are stored; a
collection that is missing is an error. -/
theorem Store.all_eq (store : Store) (name : String) :
    store.all name =
      if name ∈ store.names then
        .ok ((recordsUnder store.collections name).map fun entry => entry.2.tagged entry.1)
      else .error (.noCollection name) := by
  rw [Store.all, Store.collection, recordsUnder]
  cases found : store.collections.lookup? name with
  | none =>
    have absent : name ∉ store.names := Table.lookup?_eq_none_iff.mp found
    rw [if_neg absent]
    rfl
  | some records =>
    have present : name ∈ store.names := Table.mem_names_of_lookup? found
    rw [if_pos present]
    rfl

/-- The record that a seed has for a place. A seed is the table of its pairs, and so is each of its
collections. -/
def seedRecord? (seed : Table (Table Record)) (name id : String) : Option Record :=
  (Table.ofPairs (recordsUnder (Table.ofPairs seed) name)).lookup? id

theorem storedForm_eq_map (seed : Table (Table Record)) :
    storedForm seed = (Table.ofPairs seed).map fun entry =>
      (entry.1, (Table.ofPairs entry.2).map fun pair => (pair.1, pair.2.remove idField)) := by
  simp only [storedForm, Table.ofPairs_map fun record : Record => record.remove idField]
  exact Table.ofPairs_map (fun records : Table Record =>
    (Table.ofPairs records).map fun pair => (pair.1, pair.2.remove idField)) seed

theorem names_storedForm (seed : Table (Table Record)) :
    (storedForm seed).names = (Table.ofPairs seed).names := by
  rw [storedForm_eq_map, Table.names, Table.names, List.map_map]
  rfl

/-- The records of a collection that is seeded are those of the seed without ids of their own. -/
theorem recordsUnder_storedForm (seed : Table (Table Record)) (name : String) :
    recordsUnder (storedForm seed) name =
      (Table.ofPairs (recordsUnder (Table.ofPairs seed) name)).map fun pair =>
        (pair.1, pair.2.remove idField) := by
  rw [storedForm_eq_map, recordsUnder, Table.lookup?_map _ fun _ (records : Table Record) =>
    (Table.ofPairs records).map fun pair => (pair.1, pair.2.remove idField), recordsUnder]
  cases (Table.ofPairs seed).lookup? name <;> rfl

theorem lookup?_storedForm (seed : Table (Table Record)) (name id : String) :
    (recordsUnder (storedForm seed) name).lookup? id =
      (seedRecord? seed name id).map (·.remove idField) := by
  rw [recordsUnder_storedForm, Table.lookup?_map _ fun _ (record : Record) => record.remove idField,
    seedRecord?]

/-- A store that is made from a seed holds what the seed says, in the form in which records are
stored. -/
theorem Store.collections_ofSeed {seed : Table (Table Record)} {ids : Supply String}
    {clock : Supply Int} {attempts : Int} {store : Store}
    (start : Store.ofSeed seed ids clock attempts = .ok store) :
    store.collections = storedForm seed := by
  unfold Store.ofSeed at start
  split at start
  · cases start
    rfl
  · cases start

/-- What a store can be asked to do. -/
inductive StoreOperation
  | names
  | has (name : String)
  | get (name id : String)
  | all (name : String)
  | fetch (name : String) (id : Value)
  | query (name : String) (wanted : Record)
  | add (name : String) (payload : Record) (owner : Value)
  | set (name id : String) (payload : Record)
  | merge (name id : String) (payload : Record)
  | delete (name id : String)

/-- What a store answers when it does not refuse. A deletion is answered by no record. -/
inductive StoreAnswer
  | names (collections : List String)
  | known (present : Bool)
  | record (r : Record)
  | records (rs : List Record)
  | found (r : Option Record)
  | removed (marker : Record)

/-- The records that an answer gives out. -/
def StoreAnswer.given : StoreAnswer → List Record
  | .record r => [r]
  | .records rs => rs
  | .found r => r.toList
  | _ => []

def Store.perform (store : Store) : StoreOperation → Except Failure StoreAnswer × Store
  | .names => (.ok (.names store.names), store)
  | .has name => (.ok (.known (store.hasCollection name)), store)
  | .get name id => (((store.get name id).mapError .refused).map .record, store)
  | .all name => (((store.all name).mapError .refused).map .records, store)
  | .fetch name id => (.ok (.found (store.fetch name id)), store)
  | .query name wanted => (((store.query name wanted).mapError .refused).map .records, store)
  | .add name payload owner =>
    let (outcome, after) := store.add name payload owner
    (outcome.map .record, after)
  | .set name id payload =>
    let (outcome, after) := store.set name id payload
    (outcome.map .record, after)
  | .merge name id payload =>
    let (outcome, after) := store.merge name id payload
    (outcome.map .record, after)
  | .delete name id =>
    let (outcome, after) := store.delete name id
    (outcome.map .removed, after)

/-- A write that has succeeded: where, and the record that was answered. -/
inductive Write
  | created (name id : String) (record : Record)
  | changed (name id : String) (record : Record)
  | removed (name id : String)

def Write.place : Write → String × String
  | .created name id _ | .changed name id _ | .removed name id => (name, id)

/-- The record that is there after the write, if one is. -/
def Write.outcome : Write → Option Record
  | .created _ _ record | .changed _ _ record => some record
  | .removed _ _ => none

/-- The write that an operation turns out to be by its answer. -/
def StoreOperation.write? : StoreOperation → Except Failure StoreAnswer → Option Write
  | .add name _ _, .ok (.record record) =>
    match record.field idField with
    | .text id => some (.created name id record)
    | _ => none
  | .set name id _, .ok (.record record) | .merge name id _, .ok (.record record) =>
    some (.changed name id record)
  | .delete name id, .ok _ => some (.removed name id)
  | _, _ => none

/-- The writes among a sequence of operations, oldest first, and the store after it. A failing
operation does not end the sequence. -/
def Store.run (store : Store) : List StoreOperation → List Write × Store
  | [] => ([], store)
  | operation :: rest =>
    let (answer, after) := store.perform operation
    let (later, final) := after.run rest
    ((operation.write? answer).toList ++ later, final)

/-- The record is the old one as far as it says who made it and when. -/
def Record.SameOrigin (old new : Record) : Prop :=
  ∀ name ∈ [idField, createdField, ownerField], new.lookup? name = old.lookup? name

/-- A change that takes all system fields from the old record keeps the origin, since its own stamp
is not a part of that. -/
theorem Record.sameOrigin_changedAt {old : Record} {change : Record → Record}
    (kept : ∀ name ∈ systemFields, (change old).lookup? name = old.lookup? name) (now : Int) :
    old.SameOrigin (old.changedAt change now) := by
  intro name origin
  have system : name ∈ systemFields ∧ name ≠ updatedField := by
    simp only [List.mem_cons, List.not_mem_nil, or_false] at origin
    rcases origin with rfl | rfl | rfl <;> decide
  rw [Record.lookup?_changedAt_of_ne system.2, kept name system.1]

theorem Record.sameOrigin_replaceFields (old payload : Record) (now : Int) :
    old.SameOrigin (old.changedAt (replaceFields payload) now) :=
  Record.sameOrigin_changedAt
    (fun name system => by rw [lookup?_replaceFields, if_pos system]) now

theorem Record.sameOrigin_mergeFields (old payload : Record) (now : Int) :
    old.SameOrigin (old.changedAt (mergeFields payload) now) :=
  Record.sameOrigin_changedAt
    (fun _ system => lookup?_mergeFields_of_absent (.inl system) old) now

theorem Record.SameOrigin.refl (record : Record) : record.SameOrigin record := fun _ _ => rfl

theorem Record.SameOrigin.trans {first second third : Record} (early : first.SameOrigin second)
    (late : second.SameOrigin third) : first.SameOrigin third :=
  fun name origin => (late name origin).trans (early name origin)

/-- The content of a store before and after an operation, with the write that the operation is. A
new record comes last in its collection and a changed one keeps its place. -/
inductive StoreStep : Table (Table Record) → Option Write → Table (Table Record) → Prop
  | idle (content : Table (Table Record)) : StoreStep content none content
  | created {content : Table (Table Record)} {name id : String} {stored : Record} :
      id ∉ (recordsUnder content name).names → stored.lookup? idField = none →
      StoreStep content (some (.created name id (stored.tagged id)))
        (content.put name (recordsUnder content name ++ [(id, stored)]))
  | changed {content : Table (Table Record)} {name id : String} {old stored : Record} :
      name ∈ content.names → (recordsUnder content name).lookup? id = some old →
      old.SameOrigin stored →
      StoreStep content (some (.changed name id (stored.tagged id)))
        (content.put name ((recordsUnder content name).put id stored))
  | removed {content : Table (Table Record)} {name id : String} :
      name ∈ content.names → id ∈ (recordsUnder content name).names →
      StoreStep content (some (.removed name id))
        (content.put name ((recordsUnder content name).remove id))

theorem StoreStep.lookup?_place {before after : Table (Table Record)} {write : Write}
    {name id : String} (step : StoreStep before (some write) after)
    (here : write.place = (name, id)) :
    ((recordsUnder after name).lookup? id).map (·.tagged id) = write.outcome := by
  cases step with
  | created unused untagged =>
    cases here
    rw [recordsUnder_put_self, ← Table.put_of_not_mem unused, Table.lookup?_put_self]
    rfl
  | changed present found origin =>
    cases here
    rw [recordsUnder_put_self, Table.lookup?_put_self]
    rfl
  | removed present found =>
    cases here
    rw [recordsUnder_put_self, Table.lookup?_remove_self]
    rfl

/-- At other places everything is as before a step, and in particular after a step that is no
write. -/
theorem StoreStep.lookup?_of_ne {before after : Table (Table Record)} {write : Option Write}
    {name id : String} (step : StoreStep before write after)
    (elsewhere : ∀ w ∈ write, w.place ≠ (name, id)) :
    (recordsUnder after name).lookup? id = (recordsUnder before name).lookup? id := by
  have inCollection : ∀ {place key : String} {changed : Table Record}, (place, key) ≠ (name, id) →
      (id ≠ key → changed.lookup? id = (recordsUnder before place).lookup? id) →
      (recordsUnder (before.put place changed) name).lookup? id =
        (recordsUnder before name).lookup? id := by
    intro place key changed other kept
    by_cases same : name = place
    · subst same
      rw [recordsUnder_put_self, kept fun same => other (same ▸ rfl)]
    · rw [recordsUnder_put_of_ne same]
  cases step with
  | idle => rfl
  | created unused untagged =>
    refine inCollection (elsewhere _ rfl) fun different => ?_
    rw [← Table.put_of_not_mem unused, Table.lookup?_put_of_ne different]
  | changed present found origin =>
    exact inCollection (elsewhere _ rfl) fun different => Table.lookup?_put_of_ne different _ _
  | removed present found =>
    exact inCollection (elsewhere _ rfl) fun different => Table.lookup?_remove_of_ne different _

/-- One step removes a record or keeps its origin. This is what is preserved along a run for as long
as the record is there. -/
theorem StoreStep.removed_or_kept {before after : Table (Table Record)} {write : Option Write}
    {name id : String} {old : Record} (step : StoreStep before write after)
    (found : (recordsUnder before name).lookup? id = some old) :
    write = some (.removed name id) ∨
      ∃ new, (recordsUnder after name).lookup? id = some new ∧ old.SameOrigin new := by
  by_cases about : ∃ w ∈ write, w.place = (name, id)
  · obtain ⟨w, rfl, here⟩ := about
    cases step with
    | created unused untagged =>
      cases here
      exact absurd (Table.mem_names_of_lookup? found) unused
    | changed present stored origin =>
      cases here
      cases found.symm.trans stored
      exact .inr ⟨_, by rw [recordsUnder_put_self, Table.lookup?_put_self], origin⟩
    | removed present stored =>
      cases here
      exact .inl rfl
  · have same := step.lookup?_of_ne fun w member here => about ⟨w, member, here⟩
    exact .inr ⟨old, by rw [same, found], .refl old⟩

/-- No name is taken twice, and no record is stored with its id. -/
structure Orderly (content : Table (Table Record)) : Prop where
  collections : content.names.Nodup
  ids : ∀ name, (recordsUnder content name).names.Nodup
  untagged : ∀ name id stored, (recordsUnder content name).lookup? id = some stored →
    stored.lookup? idField = none

theorem orderly_storedForm (seed : Table (Table Record)) : Orderly (storedForm seed) where
  collections := by
    rw [names_storedForm]
    exact Table.nodup_names_ofPairs seed
  ids name := by
    rw [recordsUnder_storedForm, Table.names, List.map_map]
    exact Table.nodup_names_ofPairs _
  untagged name id stored found := by
    rw [lookup?_storedForm, Option.map_eq_some_iff] at found
    obtain ⟨record, _, rfl⟩ := found
    exact Table.lookup?_remove_self record idField

theorem StoreStep.orderly {before after : Table (Table Record)} {write : Option Write}
    (step : StoreStep before write after) (orderly : Orderly before) : Orderly after := by
  have put {name : String} {changed : Table Record} (distinct : changed.names.Nodup)
      (untagged : ∀ id stored, changed.lookup? id = some stored → stored.lookup? idField = none) :
      Orderly (before.put name changed) := by
    refine ⟨Table.nodup_names_put orderly.collections name changed, fun other => ?_,
      fun other => ?_⟩
    · by_cases same : other = name
      · rwa [same, recordsUnder_put_self]
      · rw [recordsUnder_put_of_ne same]
        exact orderly.ids other
    · by_cases same : other = name
      · rwa [same, recordsUnder_put_self]
      · rw [recordsUnder_put_of_ne same]
        exact orderly.untagged other
  have put_untagged {name id : String} {new : Record} (untagged : new.lookup? idField = none)
      (key : String) (stored : Record)
      (found : ((recordsUnder before name).put id new).lookup? key = some stored) :
      stored.lookup? idField = none := by
    by_cases same : key = id
    · rw [same, Table.lookup?_put_self, Option.some.injEq] at found
      rwa [← found]
    · rw [Table.lookup?_put_of_ne same] at found
      exact orderly.untagged name key stored found
  -- All writes put back one collection, so it is enough to look at its records.
  cases step with
  | idle => exact orderly
  | @created name id new unused untagged =>
    rw [← Table.put_of_not_mem unused]
    exact put (Table.nodup_names_put (orderly.ids name) id new) (put_untagged untagged)
  | @changed name id old new present found origin =>
    have untagged := (origin idField List.mem_cons_self).trans (orderly.untagged name id old found)
    exact put (Table.nodup_names_put (orderly.ids name) id new) (put_untagged untagged)
  | @removed name id present found =>
    refine put (Table.nodup_names_remove (orderly.ids name) id) fun key stored left => ?_
    by_cases same : key = id
    · rw [same, Table.lookup?_remove_self] at left
      cases left
    · rw [Table.lookup?_remove_of_ne same] at left
      exact orderly.untagged name key stored left

/-- A change of a stored record is a step, if it keeps the origin. This is used for replacing and
for merging. -/
theorem Store.modify_step {operation : StoreOperation} {name id : String}
    {change : Record → Record}
    (writes : ∀ record, operation.write? (.ok (.record record)) = some (.changed name id record))
    (fails : ∀ failure, operation.write? (.error failure) = none)
    (origin : ∀ (old : Record) now, old.SameOrigin (old.changedAt change now)) (store : Store) :
    StoreStep store.collections
      (operation.write? ((store.modify name id change).1.map .record))
      (store.modify name id change).2.collections := by
  rcases store.modify_cases name id change with ⟨records, old, present, found, run⟩ | ⟨error, run⟩
  · rw [run]
    have inPlace := recordsUnder_of_lookup? present
    rw [← inPlace] at found ⊢
    exact writes _ ▸ .changed (Table.mem_names_of_lookup? present) found (origin old _)
  · rw [run]
    exact fails _ ▸ .idle _

/-- Every operation is a step with the write that its answer tells, or an idle one. All invariants
of a store are proved for steps only. -/
theorem Store.perform_step (store : Store) (operation : StoreOperation) :
    StoreStep store.collections (operation.write? (store.perform operation).1)
      (store.perform operation).2.collections := by
  cases operation with
  | names => exact .idle _
  | has name => exact .idle _
  | get name id => exact .idle _
  | all name => exact .idle _
  | fetch name id => exact .idle _
  | query name wanted => exact .idle _
  | add name payload owner =>
    simp only [Store.perform]
    rcases store.add_cases name payload owner with ⟨id, ids, _, unused, run⟩ | ⟨ids, _, run⟩
    · rw [run]
      simp only [Except.map, StoreOperation.write?, Record.field_tagged_self]
      exact .created unused (lookup?_newRecord_id payload owner _)
    · rw [run]
      exact .idle _
  | set name id payload =>
    exact store.modify_step (fun _ => rfl) (fun _ => rfl)
      fun old now => old.sameOrigin_replaceFields payload now
  | merge name id payload =>
    exact store.modify_step (fun _ => rfl) (fun _ => rfl)
      fun old now => old.sameOrigin_mergeFields payload now
  | delete name id =>
    simp only [Store.perform]
    rcases store.delete_cases name id with ⟨records, old, present, found, run⟩ | ⟨error, run⟩
    · rw [run]
      have inPlace := recordsUnder_of_lookup? present
      rw [← inPlace] at found ⊢
      exact .removed (Table.mem_names_of_lookup? present) (Table.mem_names_of_lookup? found)
    · rw [run]
      exact .idle _

/-- A record that has been added is found at once as it was answered, with the reading of the clock
in it. -/
theorem Store.get_of_add {store : Store} {name : String} {payload record : Record} {owner : Value}
    (run : (store.add name payload owner).1 = .ok record) :
    ∃ id, record = (newRecord payload owner store.clock.next.1).tagged id ∧
      (store.add name payload owner).2.clock = store.clock.next.2 ∧
      (store.add name payload owner).2.get name id = .ok record := by
  rcases store.add_cases name payload owner with ⟨id, ids, _, unused, added⟩ | ⟨ids, _, failed⟩
  · rw [added] at run ⊢
    cases run
    refine ⟨id, rfl, rfl, Store.get_eq_ok_iff_recordsUnder.mpr ⟨_, ?_, rfl⟩⟩
    rw [recordsUnder_put_self, ← Table.put_of_not_mem unused, Table.lookup?_put_self]
  · rw [failed] at run
    cases run

theorem Store.get_of_modify {store : Store} {name id : String} {change : Record → Record}
    {record : Record} (run : (store.modify name id change).1 = .ok record) :
    ∃ old, store.existing name id = .ok old ∧
      record = (old.changedAt change store.clock.next.1).tagged id ∧
      (store.modify name id change).2.get name id = .ok record := by
  rcases store.modify_cases name id change with ⟨records, old, present, found, done⟩ | ⟨error, failed⟩
  · have existing := Store.existing_eq_ok_iff.mpr ⟨records, present, found⟩
    obtain ⟨answer, stored⟩ := Store.modify_of_existing existing change
    cases answer.symm.trans run
    exact ⟨old, existing, rfl, Store.get_eq_ok_iff.mpr ⟨_, stored, rfl⟩⟩
  · rw [failed] at run
    cases run

/-- What every operation keeps, of a store and the writes so far, is kept by every sequence of
operations. -/
theorem Store.run_maintains (invariant : List Write → Store → Prop)
    (kept : ∀ history store operation, invariant history store →
      invariant (history ++ (operation.write? (store.perform operation).1).toList)
        (store.perform operation).2)
    {store : Store} (start : invariant [] store) (steps : List StoreOperation) :
    invariant (store.run steps).1 (store.run steps).2 := by
  -- The induction is over a run that comes after some writes.
  have general (history : List Write) (earlier : invariant history store) :
      invariant (history ++ (store.run steps).1) (store.run steps).2 := by
    clear start
    induction steps generalizing store history with
    | nil => rwa [Store.run, List.append_nil]
    | cons operation rest ih =>
      have later := ih _ (kept history store operation earlier)
      rwa [List.append_assoc] at later
  exact general [] start

/-- What every step keeps is kept by every sequence of steps. The invariant may speak of the writes
so far and of the content that they have left. -/
theorem Store.run_keeps (invariant : List Write → Table (Table Record) → Prop)
    (kept : ∀ history before write after, invariant history before →
      StoreStep before write after → invariant (history ++ write.toList) after)
    {store : Store} (start : invariant [] store.collections) (steps : List StoreOperation) :
    invariant (store.run steps).1 (store.run steps).2.collections :=
  Store.run_maintains (fun history store => invariant history store.collections)
    (fun history store operation earlier =>
      kept history _ _ _ earlier (store.perform_step operation)) start steps

theorem Store.orderly_run {store : Store} (orderly : Orderly store.collections)
    (steps : List StoreOperation) : Orderly (store.run steps).2.collections :=
  Store.run_keeps (fun _ content => Orderly content)
    (fun _ _ _ _ orderly step => step.orderly orderly) orderly steps

theorem Store.orderly_ofSeed {seed : Table (Table Record)} {ids : Supply String}
    {clock : Supply Int} {attempts : Int} {store : Store}
    (start : Store.ofSeed seed ids clock attempts = .ok store) : Orderly store.collections :=
  Store.collections_ofSeed start ▸ orderly_storedForm seed

/-- Writes to other places leave a stored record as it is. -/
theorem Store.existing_of_run_elsewhere {store : Store} {name id : String}
    {steps : List StoreOperation}
    (elsewhere : ∀ write ∈ (store.run steps).1, write.place ≠ (name, id)) {record : Record}
    (existing : store.existing name id = .ok record) :
    (store.run steps).2.existing name id = .ok record := by
  have kept := Store.run_keeps
    (fun history content => (∀ write ∈ history, write.place ≠ (name, id)) →
      (recordsUnder content name).lookup? id = some record)
    (fun history _ write _ earlier step others => by
      rw [step.lookup?_of_ne fun w member => others w (List.mem_append_right history
        (Option.mem_toList.mpr member))]
      exact earlier fun w member => others w (List.mem_append_left _ member))
    (fun _ => Store.existing_eq_ok_iff_recordsUnder.mp existing) steps
  exact Store.existing_eq_ok_iff_recordsUnder.mpr (kept elsewhere)

end GuardedRecords
