import GuardedRecords.Proofs.Authorization
import GuardedRecords.Proofs.StoreChanges

namespace GuardedRecords

/-- What a write does to the records of its collection: it adds one at the end under an unused id,
puts one in the place of the record that it addresses, or takes that one away. -/
inductive RecordOperation.Changes : RecordOperation → String → Table Record → Table Record → Prop
  | create {name id : String} {payload : Value} {records : Table Record} {new : Record} :
      id ∉ records.names →
      Changes (.create name none payload) name records (records ++ [(id, new)])
  | replace {name id : String} {payload : Value} {front back : Table Record} {old new : Record} :
      id ∉ front.names →
      Changes (.replace name (some id) payload) name (front ++ (id, old) :: back)
        (front ++ (id, new) :: back)
  | merge {name id : String} {payload : Value} {front back : Table Record} {old new : Record} :
      id ∉ front.names →
      Changes (.merge name (some id) payload) name (front ++ (id, old) :: back)
        (front ++ (id, new) :: back)
  | delete {name id : String} {records : Table Record} : id ∈ records.names →
      Changes (.delete name (some id)) name records (records.filter fun entry => entry.1 ≠ id)

/-- The content of a store before and after a write: one collection has changed, and in it what the
write is about. -/
def RecordOperation.Affects (operation : RecordOperation) (before after : Table (Table Record)) :
    Prop :=
  ∃ name records changed, operation.Changes name records changed ∧
    CollectionChange name records changed before after

/-- Whether the policy lets a caller write: with the record as it is stored before the write, and
with the payload as it is sent. -/
def Database.Permits (db : Database) (caller : Caller) : RecordOperation → Prop
  | .read _ _ _ => False
  | .create name id payload =>
    id = none ∧ ∃ sent, payload = .object sent ∧
      db.guard.Passes caller .create (some name) none none (some sent)
  | .replace name id payload | .merge name id payload =>
    ∃ key record sent, id = some key ∧ db.store.get name key = .ok record ∧ payload = .object sent ∧
      db.guard.Passes caller .update (some name) (some key) (some record) (some sent)
  | .delete name id =>
    ∃ key record, id = some key ∧ db.store.get name key = .ok record ∧
      db.guard.Passes caller .delete (some name) (some key) (some record) none

theorem payloadOf_eq_ok_iff {payload : Value} {sent : Record} :
    payloadOf payload = .ok sent ↔ payload = .object sent := by
  cases payload <;> simp [payloadOf]

theorem addressed_eq_ok_iff {id : Option String} {key : String} :
    addressed id = .ok key ↔ id = some key := by
  cases id <;> simp [addressed]

/-- A creation that passes all checks is permitted with the payload as it was sent, although what is
left of it to store may be less. -/
theorem Database.permits_of_checkCreate {db : Database} {caller : Caller} {name : String}
    {id : Option String} {payload : Value} {left : Record}
    (passed : db.checkCreate caller name id payload = .ok left) :
    db.Permits caller (.create name id payload) := by
  unfold Database.checkCreate at passed
  split at passed
  · cases passed
  · next unnamed =>
    obtain ⟨sent, carried, rest⟩ := bind_eq_ok_iff.mp passed
    obtain ⟨verdict, enforced, _⟩ := bind_eq_ok_iff.mp rest
    exact ⟨by simpa using unnamed, sent, payloadOf_eq_ok_iff.mp carried,
      Guard.passes_of_enforce_new enforced⟩

/-- An update that passes all checks addresses a record and is permitted with the record as it is
stored. -/
theorem Database.permits_of_checkUpdate {db : Database} {caller : Caller} {name key : String}
    {id : Option String} {payload : Value} {left : Record}
    (passed : db.checkUpdate caller name id payload = .ok (key, left)) :
    id = some key ∧ db.Permits caller (.replace name id payload) := by
  obtain ⟨_, given, rest⟩ := bind_eq_ok_iff.mp passed
  obtain ⟨sent, carried, rest⟩ := bind_eq_ok_iff.mp rest
  obtain ⟨record, found, rest⟩ := bind_eq_ok_iff.mp rest
  obtain ⟨verdict, enforced, same⟩ := bind_eq_ok_iff.mp rest
  cases same
  rw [mapError_eq_ok_iff] at found
  obtain ⟨stored, _, rfl⟩ := Store.get_eq_ok_iff.mp found
  rw [addressed_eq_ok_iff] at given
  exact ⟨given, key, _, sent, given, found, payloadOf_eq_ok_iff.mp carried,
    Guard.passes_of_enforce_stored enforced⟩

theorem Database.permits_of_checkDelete {db : Database} {caller : Caller} {name key : String}
    {id : Option String} (passed : db.checkDelete caller name id = .ok key) :
    id = some key ∧ db.Permits caller (.delete name id) := by
  obtain ⟨_, given, rest⟩ := bind_eq_ok_iff.mp passed
  obtain ⟨record, found, rest⟩ := bind_eq_ok_iff.mp rest
  obtain ⟨verdict, enforced, same⟩ := bind_eq_ok_iff.mp rest
  cases same
  rw [mapError_eq_ok_iff] at found
  obtain ⟨stored, _, rfl⟩ := Store.get_eq_ok_iff.mp found
  rw [addressed_eq_ok_iff] at given
  exact ⟨given, key, _, given, found, Guard.passes_of_enforce_stored enforced⟩

/-- What is true of a run of a write on a store: either the content stays as it is, or the write
succeeds and affects what it is about. -/
def RecordOperation.Confines (operation : RecordOperation) (store : Store)
    (run : Except Failure Record × Store) : Prop :=
  run.2.collections = store.collections ∨
    (∃ answer, run.1 = .ok answer) ∧ operation.Affects store.collections run.2.collections

/-- Adding a record changes one collection at its end, or nothing that is stored when no id is left.
It may make the collection. -/
theorem Store.add_confined (store : Store) (name : String) (payload : Record) (owner sent : Value) :
    (RecordOperation.create name none sent).Confines store (store.add name payload owner) := by
  rcases store.add_cases name payload owner with ⟨id, ids, _, unused, run⟩ | ⟨ids, _, run⟩
  · rw [run]
    exact .inr ⟨⟨_, rfl⟩, name, _, _, .create unused, store.collectionChange_put name _⟩
  · rw [run]
    exact .inl rfl

/-- A change in place touches one record of one collection, and fails where there is no such
record. -/
theorem Store.modify_confined {operation : RecordOperation} {name id : String}
    (inPlace : ∀ {front back : Table Record} {old new : Record}, id ∉ front.names →
      operation.Changes name (front ++ (id, old) :: back) (front ++ (id, new) :: back))
    (store : Store) (change : Record → Record) :
    operation.Confines store (store.modify name id change) := by
  rcases store.modify_cases name id change with ⟨records, old, collection, found, run⟩ | ⟨error, run⟩
  · rw [run]
    obtain ⟨front, back, rfl, first⟩ := Table.lookup?_eq_some_iff.mp found
    have changed := store.collectionChange_put name
      (front ++ (id, old.changedAt change store.clock.next.1) :: back)
    rw [Store.recordsIn_of_lookup? collection] at changed
    rw [Table.put_append first]
    exact .inr ⟨⟨_, rfl⟩, name, _, _, inPlace first, changed⟩
  · rw [run]
    exact .inl rfl

theorem Store.delete_confined (store : Store) (name id : String) :
    (RecordOperation.delete name (some id)).Confines store (store.delete name id) := by
  rcases store.delete_cases name id with ⟨records, old, collection, found, run⟩ | ⟨error, run⟩
  · rw [run]
    have present : id ∈ records.names := by
      rw [← Table.has_eq_true_iff, Table.has, found, Option.isSome_some]
    have changed := store.collectionChange_put name (records.remove id)
    rw [Store.recordsIn_of_lookup? collection] at changed
    exact .inr ⟨⟨_, rfl⟩, name, _, _, .delete present, changed⟩
  · rw [run]
    exact .inl rfl

/-- A write leaves the content as it is, or it succeeds, its caller is permitted to write, and it
affects what it is about and nothing else. -/
theorem Database.write_cases {α : Type} {db : Database} {caller : Caller}
    {operation : RecordOperation} {checks : Except Failure α}
    {change : α → Except Failure Record × Store}
    (checked : ∀ passed, checks = .ok passed →
      db.Permits caller operation ∧ operation.Confines db.store (change passed)) :
    (db.write checks change).2.store.collections = db.store.collections ∨
      (∃ answer, (db.write checks change).1.map Reading.record = .ok answer) ∧
        db.Permits caller operation ∧
        operation.Affects db.store.collections (db.write checks change).2.store.collections := by
  cases checks with
  | error failure => exact .inl rfl
  | ok passed =>
    obtain ⟨permitted, confined⟩ := checked passed rfl
    refine confined.imp_right fun ⟨⟨answer, succeeded⟩, affected⟩ => ⟨?_, permitted, affected⟩
    exact ⟨.record answer, map_eq_ok_iff.mpr ⟨answer, succeeded, rfl⟩⟩

/-- A write either leaves the content as it is, or it succeeds, is permitted, and affects what it is
about. All kinds of writes are here, so nothing further needs their cases. -/
theorem Database.perform_cases (db : Database) (caller : Caller) (operation : RecordOperation) :
    (db.perform caller operation).2.store.collections = db.store.collections ∨
      (∃ answer, (db.perform caller operation).1 = .ok answer) ∧ db.Permits caller operation ∧
        operation.Affects db.store.collections
          (db.perform caller operation).2.store.collections := by
  cases operation with
  | read collection id spec => exact .inl rfl
  | create name id payload =>
    refine Database.write_cases fun left passed => ?_
    have permitted := Database.permits_of_checkCreate passed
    obtain rfl : id = none := permitted.1
    exact ⟨permitted, db.store.add_confined name left caller.userId payload⟩
  | replace name id payload =>
    refine Database.write_cases fun (key, left) passed => ?_
    obtain ⟨rfl, permitted⟩ := Database.permits_of_checkUpdate passed
    exact ⟨permitted, db.store.modify_confined .replace (replaceFields left)⟩
  | merge name id payload =>
    refine Database.write_cases fun (key, left) passed => ?_
    obtain ⟨rfl, permitted⟩ := Database.permits_of_checkUpdate passed
    exact ⟨permitted, db.store.modify_confined .merge (mergeFields left)⟩
  | delete name id =>
    refine Database.write_cases fun key passed => ?_
    obtain ⟨rfl, permitted⟩ := Database.permits_of_checkDelete passed
    exact ⟨permitted, db.store.delete_confined name key⟩

/-- Whenever an operation changes what is stored, it is a create, an update or a delete that
succeeds, the policy permits it on the record as it was stored and the payload as it was sent, and
nothing but its target changes. -/
theorem Database.perform_mediated {db : Database} {caller : Caller} {operation : RecordOperation}
    (changed : (db.perform caller operation).2.store.collections ≠ db.store.collections) :
    (∃ answer, (db.perform caller operation).1 = .ok answer) ∧ db.Permits caller operation ∧
      operation.Affects db.store.collections
        (db.perform caller operation).2.store.collections :=
  (db.perform_cases caller operation).resolve_left changed

/-- A store with one note. The first of the ids that are left is in use. -/
def noteStore : Store where
  collections := [("notes", [("n1", [("title", .text "first"), ("_ownerId", .text "u1")])])]
  ids := { item := fun place => if place = 0 then "n1" else "n2" }
  clock := { item := fun place => place }
  attempts := 2
  attempts_pos := by decide

/-- Notes may be changed by drafts, and no change may touch the status of a note. -/
def draftRules : RuleSet where
  collections := [("notes", {
    actions := { update := some (.expression "payload.status == 'draft'"
      (.binary (.path "payload.status") (.comparison .eq) (.literal (.text "draft")))) }
    wildcard := { properties :=
      [("status", { update := some (.expression "false" (.literal (.bool false))) })] } })]

/-- The draft passes by the status that is sent with it, although the status itself is dropped: the
rule for the action sees the payload as it was sent. -/
theorem Database.perform_mediated_draft :
    let db : Database := ⟨noteStore, none, draftRules⟩
    let draft : RecordOperation :=
      .merge "notes" (some "n1") (.object [("title", .text "second"), ("status", .text "draft")])
    (db.perform {} draft).2.store.collections ≠ db.store.collections ∧
      (∃ answer, (db.perform {} draft).1 = .ok answer) ∧ db.Permits {} draft ∧
        draft.Affects db.store.collections (db.perform {} draft).2.store.collections := by
  intro db draft
  have after : (db.perform {} draft).2.store.collections =
      [("notes", [("n1", [("title", .text "second"), ("_ownerId", .text "u1"),
        ("_updatedOn", .int 0)])])] := rfl
  have changed : (db.perform {} draft).2.store.collections ≠ db.store.collections := by
    rw [after]
    simp [db, noteStore]
  exact ⟨changed, Database.perform_mediated changed⟩

end GuardedRecords
