import GuardedRecords.Proofs.StoreRuns

namespace GuardedRecords

/-- The record at a place as the last write to it has left it. Where there was none it is that of
the seed. -/
def lastRecord (seed : Table (Table Record)) (history : List Write) (name id : String) :
    Option Record :=
  match (history.filter fun write => write.place = (name, id)).getLast? with
  | some write => write.outcome
  | none => (seedRecord? seed name id).map fun record => Record.tagged (record.remove idField) id

def Write.removes (name id : String) : Write → Bool
  | .removed place key => place == name && key == id
  | _ => false

/-- The ids that are created in a collection and not removed later, in the order of creation. -/
def createdIds (name : String) : List Write → List String
  | [] => []
  | .created place id _ :: later =>
    if place = name ∧ later.all fun write => !write.removes name id then
      id :: createdIds name later
    else createdIds name later
  | _ :: later => createdIds name later

/-- The ids of a collection that are in use after some writes: those of the seed come first. -/
def liveIds (seed : Table (Table Record)) (history : List Write) (name : String) : List String :=
  ((Table.ofPairs (recordsUnder (Table.ofPairs seed) name)).names.filter fun id =>
    history.all fun write => !write.removes name id) ++ createdIds name history

def Write.opened? : Write → Option String
  | .created name _ _ => some name
  | _ => none

/-- The collections in the order of their first records, those of the seed before them. -/
def openedCollections (seed : Table (Table Record)) (history : List Write) : List String :=
  ((Table.ofPairs seed).names ++ history.filterMap Write.opened?).eraseDups

theorem eraseDups_of_nodup {names : List String} (distinct : names.Nodup) :
    names.eraseDups = names := by
  induction names with
  | nil => rfl
  | cons name names ih =>
    obtain ⟨new, distinct⟩ := List.nodup_cons.mp distinct
    have others : names.filter (fun other => !other == name) = names := by
      refine List.filter_eq_self.mpr fun other member => ?_
      have different : other ≠ name := fun same => new (same ▸ member)
      rw [beq_false_of_ne different, Bool.not_false]
    rw [List.eraseDups_cons, others, ih distinct]

theorem eraseDups_concat_of_mem {names : List String} {name : String} (again : name ∈ names) :
    (names ++ [name]).eraseDups = names.eraseDups := by
  rw [List.eraseDups_append]
  simp [List.removeAll, again]

theorem eraseDups_concat_of_not_mem {names : List String} {name : String} (new : name ∉ names) :
    (names ++ [name]).eraseDups = names.eraseDups ++ [name] := by
  rw [List.eraseDups_append]
  simp [List.removeAll, new, List.eraseDups_cons]

/-- One more write decides about its own place and no other one. The induction over a history adds
its writes at the end for this reason. -/
theorem lastRecord_concat (seed : Table (Table Record)) (history : List Write) (write : Write)
    (name id : String) :
    lastRecord seed (history ++ [write]) name id =
      if write.place = (name, id) then write.outcome else lastRecord seed history name id := by
  rw [lastRecord, List.filter_append]
  by_cases here : write.place = (name, id)
  · simp [here]
  · simp [here, lastRecord]

/-- One more write takes away the id that it removes, and adds the one that it creates behind the
others. -/
theorem createdIds_concat (name : String) (history : List Write) (write : Write) :
    createdIds name (history ++ [write]) =
      (createdIds name history).filter (fun id => !write.removes name id) ++
        createdIds name [write] := by
  induction history with
  | nil => rfl
  | cons first history ih =>
    cases first with
    | created place id record =>
      rw [List.cons_append, createdIds, createdIds, List.all_append, ih]
      by_cases live : place = name ∧ history.all fun write => !write.removes name id
      · cases removed : write.removes name id <;> simp [live, removed]
      · rw [if_neg live, if_neg fun both => live ⟨both.1, (Bool.and_eq_true_iff.mp both.2).1⟩]
    | changed place id record => exact ih
    | removed place id => exact ih

/-- One more write changes the ids in use like those that are created, the ids of the seed included.
An id that is removed and created again goes to the end. -/
theorem liveIds_concat (seed : Table (Table Record)) (history : List Write) (write : Write)
    (name : String) :
    liveIds seed (history ++ [write]) name =
      (liveIds seed history name).filter (fun id => !write.removes name id) ++
        createdIds name [write] := by
  rw [liveIds, createdIds_concat, liveIds, List.filter_append, List.filter_filter,
    List.append_assoc]
  simp [Bool.and_comm]

/-- The names with one more at the end, unless it is there already. -/
def enlist (names : List String) : Option String → List String
  | some name => if name ∈ names then names else names ++ [name]
  | none => names

theorem openedCollections_concat (seed : Table (Table Record)) (history : List Write)
    (write : Write) :
    openedCollections seed (history ++ [write]) =
      enlist (openedCollections seed history) write.opened? := by
  rw [openedCollections, List.filterMap_append, ← List.append_assoc]
  cases opened : write.opened? with
  | none => simp [opened, enlist, openedCollections]
  | some name =>
    simp only [List.filterMap_cons, opened, List.filterMap_nil, enlist, openedCollections,
      List.mem_eraseDups]
    split
    · next again => exact eraseDups_concat_of_mem again
    · next new => exact eraseDups_concat_of_not_mem new

/-- The content of a store is what its seed and the writes to it say. -/
structure Reflects (seed : Table (Table Record)) (history : List Write)
    (content : Table (Table Record)) : Prop where
  names : content.names = openedCollections seed history
  ids : ∀ name, (recordsUnder content name).names = liveIds seed history name
  records : ∀ name id, ((recordsUnder content name).lookup? id).map (·.tagged id) =
    lastRecord seed history name id

theorem reflects_storedForm (seed : Table (Table Record)) : Reflects seed [] (storedForm seed) where
  names := by
    rw [names_storedForm, openedCollections, List.filterMap_nil, List.append_nil,
      eraseDups_of_nodup (Table.nodup_names_ofPairs seed)]
  ids name := by
    simp only [recordsUnder_storedForm, Table.names, List.map_map, liveIds, List.all_nil,
      createdIds, List.append_nil]
    exact (List.filter_eq_self.mpr fun _ _ => rfl).symm
  records name id := by
    rw [lookup?_storedForm, lastRecord, Option.map_map]
    rfl

/-- After a write the collections are those before it, with the one that it opens at the end. No
write ever takes a collection away, also when its last record goes. -/
theorem StoreStep.names {before after : Table (Table Record)} {write : Write}
    (step : StoreStep before (some write) after) :
    after.names = enlist before.names write.opened? := by
  cases step with
  | @created name id stored unused untagged =>
    simp only [Write.opened?, enlist]
    split
    · next present => exact Table.names_put_of_mem present _
    · next new => exact Table.names_put_of_not_mem new _
  | changed present found origin => exact Table.names_put_of_mem present _
  | removed present found => exact Table.names_put_of_mem present _

/-- After a write the ids of each collection are those before it without the one that is removed,
and the one that is created comes last. -/
theorem StoreStep.ids {before after : Table (Table Record)} {write : Write}
    (step : StoreStep before (some write) after) (name : String) :
    (recordsUnder after name).names =
      (recordsUnder before name).names.filter (fun id => !write.removes name id) ++
        createdIds name [write] := by
  have filter_kept {write : Write} (ids : List String) (kept : ∀ id, write.removes name id = false) :
      ids.filter (fun id => !write.removes name id) = ids :=
    List.filter_eq_self.mpr fun id _ => by rw [kept, Bool.not_false]
  -- Only the collection of the write changes; the others have the same ids and gain none.
  cases step with
  | @created place id stored unused untagged =>
    rw [filter_kept _ fun _ => rfl]
    by_cases same : place = name
    · subst same
      rw [recordsUnder_put_self, Table.names_append]
      simp [createdIds, Table.names]
    · rw [recordsUnder_put_of_ne (Ne.symm same)]
      simp [createdIds, same]
  | @changed place id old stored present found origin =>
    have noneCreated : createdIds name [.changed place id (stored.tagged id)] = [] := rfl
    rw [filter_kept _ fun _ => rfl, noneCreated, List.append_nil]
    by_cases same : place = name
    · subst same
      rw [recordsUnder_put_self, Table.names_put_of_mem (Table.mem_names_of_lookup? found)]
    · rw [recordsUnder_put_of_ne (Ne.symm same)]
  | @removed place id present found =>
    have noneCreated : createdIds name [.removed place id] = [] := rfl
    rw [noneCreated, List.append_nil]
    by_cases same : place = name
    · subst same
      rw [recordsUnder_put_self, Table.names_remove]
      refine List.filter_congr fun other _ => ?_
      by_cases here : other = id
      · simp [Write.removes, here]
      · simp [Write.removes, here, Ne.symm here]
    · rw [recordsUnder_put_of_ne (Ne.symm same), filter_kept]
      intro other
      rw [Write.removes, beq_false_of_ne same, Bool.false_and]

/-- One step keeps the content what the seed and the history say, with the write of that step
added. -/
theorem StoreStep.reflects {seed : Table (Table Record)} {history : List Write}
    {before after : Table (Table Record)} {write : Option Write}
    (step : StoreStep before write after) (reflects : Reflects seed history before) :
    Reflects seed (history ++ write.toList) after := by
  cases write with
  | none =>
    cases step
    rwa [Option.toList_none, List.append_nil]
  | some write =>
    rw [Option.toList_some]
    refine ⟨?_, fun name => ?_, fun name id => ?_⟩
    · rw [step.names, reflects.names, openedCollections_concat]
    · rw [step.ids, reflects.ids, liveIds_concat]
    · rw [lastRecord_concat]
      split
      · next here => exact step.lookup?_place here
      · next elsewhere =>
        rw [step.lookup?_of_ne (by rintro _ ⟨⟩; exact elsewhere), reflects.records]

/-- Changing a record a second time in the same way, after anything that is not about that record,
leaves everything but its time as the first change did. -/
theorem Store.modify_again {store : Store} {name id : String} {change : Record → Record}
    (settled : ∀ (old : Record) now,
      Table.remove (change (old.changedAt change now)) updatedField =
        Table.remove (change old) updatedField)
    {record : Record} (run : (store.modify name id change).1 = .ok record)
    {between : List StoreOperation}
    (elsewhere : ∀ write ∈ ((store.modify name id change).2.run between).1,
      write.place ≠ (name, id)) :
    ∃ again, (((store.modify name id change).2.run between).2.modify name id change).1 = .ok again ∧
      Table.remove again updatedField = Table.remove record updatedField := by
  obtain ⟨old, existing, rfl, _⟩ := Store.get_of_modify run
  have changed := (Store.modify_of_existing existing change).2
  have later := Store.existing_of_run_elsewhere elsewhere changed
  refine ⟨_, (Store.modify_of_existing later change).1, ?_⟩
  simp only [Record.tagged]
  rw [Table.remove_put_of_ne (by decide), Table.remove_put_of_ne (by decide),
    Record.remove_updated_changedAt, Record.remove_updated_changedAt, settled]

/-- Every request for records is answered by what the seed and the writes say: a record as the last
write to it has left it, a collection by its records in the order of their creation, and the
collections in the order in which they were opened. -/
structure Store.FollowsHistory (store : Store) (seed : Table (Table Record))
    (history : List Write) : Prop where
  get : ∀ name id, store.get name id =
    match lastRecord seed history name id with
    | some record => .ok record
    | none => .error (if name ∈ store.names then .noEntry id else .noCollection name)
  all : ∀ name ∈ store.names, ∃ records, store.all name = .ok records ∧
    records.map some = (liveIds seed history name).map (lastRecord seed history name)
  names : store.names = openedCollections seed history

/-- Content that reflects a history answers all requests by it. Single names and ids are what the
answers need besides. -/
theorem Reflects.followsHistory {store : Store} {seed : Table (Table Record)}
    {history : List Write} (reflects : Reflects seed history store.collections)
    (orderly : Orderly store.collections) : store.FollowsHistory seed history where
  get name id := by
    rw [Store.get_eq, ← reflects.records]
    cases (recordsUnder store.collections name).lookup? id <;> rfl
  all name present := by
    refine ⟨_, by rw [Store.all_eq, if_pos present], ?_⟩
    rw [← reflects.ids, Table.names, List.map_map, List.map_map]
    refine List.map_congr_left fun entry member => ?_
    have found := Table.lookup?_of_mem (orderly.ids name) member
    simp only [Function.comp_apply, ← reflects.records, found, Option.map_some]
  names := reflects.names

/-- The fields of a record that are not the store's own are those of the payloads. -/
structure Store.TakesPayloads (store : Store) : Prop where
  added : ∀ {name payload owner record}, (store.add name payload owner).1 = .ok record →
    record.withoutSystemFields = payload.withoutSystemFields
  replaced : ∀ {name id payload record}, (store.set name id payload).1 = .ok record →
    record.withoutSystemFields = payload.withoutSystemFields
  merged : ∀ {name id payload record}, (store.merge name id payload).1 = .ok record →
    ∃ previous, store.get name id = .ok previous ∧ record.withoutSystemFields =
      Table.putAll previous.withoutSystemFields payload.withoutSystemFields
  replacedAgain : ∀ {name id payload record between},
    (store.set name id payload).1 = .ok record →
    (∀ write ∈ ((store.set name id payload).2.run between).1, write.place ≠ (name, id)) →
    ∃ again, (((store.set name id payload).2.run between).2.set name id payload).1 = .ok again ∧
      Table.remove again updatedField = Table.remove record updatedField
  mergedAgain : ∀ {name id payload record between},
    (store.merge name id payload).1 = .ok record →
    (∀ write ∈ ((store.merge name id payload).2.run between).1, write.place ≠ (name, id)) →
    ∃ again, (((store.merge name id payload).2.run between).2.merge name id payload).1 = .ok again ∧
      Table.remove again updatedField = Table.remove record updatedField

/-- Whatever the store answers to a write, the fields that are not its own are those of the payload,
and of the old record where one is merged into. -/
theorem Store.takesPayloads (store : Store) : store.TakesPayloads where
  added run := by
    obtain ⟨id, rfl, _⟩ := Store.get_of_add run
    rw [Record.withoutSystemFields_tagged, withoutSystemFields_newRecord]
  replaced run := by
    obtain ⟨old, _, rfl, _⟩ := Store.get_of_modify run
    rw [Record.withoutSystemFields_tagged, Record.withoutSystemFields_changedAt,
      withoutSystemFields_replaceFields]
  merged run := by
    obtain ⟨old, existing, rfl, _⟩ := Store.get_of_modify run
    refine ⟨_, Store.get_eq_ok_iff.mpr ⟨old, existing, rfl⟩, ?_⟩
    rw [Record.withoutSystemFields_tagged, Record.withoutSystemFields_changedAt,
      withoutSystemFields_mergeFields, Record.withoutSystemFields_tagged]
  replacedAgain run elsewhere := Store.modify_again (replaceFields_again _) run elsewhere
  mergedAgain run elsewhere := Store.modify_again (mergeFields_again _) run elsewhere

/-- At every point of a run the store answers by its seed and the writes so far. By induction over
the steps, each of which adds at most one write. -/
theorem Store.run_follows_history {seed : Table (Table Record)} {ids : Supply String}
    {clock : Supply Int} {attempts : Int} {store : Store}
    (start : Store.ofSeed seed ids clock attempts = .ok store) (steps : List StoreOperation) :
    (store.run steps).2.FollowsHistory seed (store.run steps).1 ∧
      (store.run steps).2.TakesPayloads := by
  have seeded : Reflects seed [] store.collections :=
    Store.collections_ofSeed start ▸ reflects_storedForm seed
  have reflects := Store.run_keeps (Reflects seed)
    (fun _ _ _ _ reflects step => step.reflects reflects) seeded steps
  have orderly := Store.orderly_run (Store.orderly_ofSeed start) steps
  exact ⟨reflects.followsHistory orderly, (store.run steps).2.takesPayloads⟩

def twoNotes : Table (Table Record) :=
  [("notes", [("n1", [("title", .text "first")]), ("n2", [("title", .text "second")])])]

/-- The first note is deleted and its id taken again, and all tasks are deleted. -/
def reusingSteps : List StoreOperation :=
  [.delete "notes" "n1", .set "notes" "n1" [], .add "notes" [("title", .text "third")] .null,
    .merge "notes" "n2" [("done", .bool true)], .add "tasks" [] .null, .delete "tasks" "t1"]

def twoNotesStore : Store :=
  .holding (storedForm twoNotes) (fun place => if place = 0 then "n1" else "t1") 0

theorem Store.run_follows_history_of_reused_id :
    Store.ofSeed twoNotes twoNotesStore.ids twoNotesStore.clock 1 = .ok twoNotesStore ∧
      ((twoNotesStore.run reusingSteps).2.FollowsHistory twoNotes
        (twoNotesStore.run reusingSteps).1 ∧ (twoNotesStore.run reusingSteps).2.TakesPayloads) ∧
      liveIds twoNotes (twoNotesStore.run reusingSteps).1 "notes" = ["n2", "n1"] ∧
      openedCollections twoNotes (twoNotesStore.run reusingSteps).1 = ["notes", "tasks"] := by
  have start : Store.ofSeed twoNotes twoNotesStore.ids twoNotesStore.clock 1 =
      .ok twoNotesStore := rfl
  exact ⟨start, Store.run_follows_history start reusingSteps, rfl, rfl⟩

end GuardedRecords
