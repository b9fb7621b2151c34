import GuardedRecords.Proofs.Mediation

namespace GuardedRecords

/-- The answers to a sequence of operations, each by its caller, and the database after it. A
failing operation does not end the sequence. -/
def Database.run (db : Database) :
    List (Caller × RecordOperation) → List (Except Failure Reading) × Database
  | [] => ([], db)
  | (caller, operation) :: rest =>
    let (outcome, after) := db.perform caller operation
    let (outcomes, final) := after.run rest
    (outcome :: outcomes, final)

theorem Database.write_policy {α : Type} (db : Database) (checks : Except Failure α)
    (change : α → Except Failure Record × Store) : (db.write checks change).2.policy = db.policy := by
  cases checks <;> rfl

/-- No operation changes the policy, so rules that hold before a run hold at each of its steps. -/
theorem Database.perform_policy (db : Database) (caller : Caller) (operation : RecordOperation) :
    (db.perform caller operation).2.policy = db.policy := by
  cases operation with
  | read collection id spec => rfl
  | create name id payload => exact db.write_policy _ _
  | replace name id payload => exact db.write_policy _ _
  | merge name id payload => exact db.write_policy _ _
  | delete name id => exact db.write_policy _ _

/-- What each step keeps is kept by every sequence of steps. The steps are known beforehand, so that
the invariant may depend on who takes them. -/
theorem Database.run_keeps {invariant : Database → Prop} {steps : List (Caller × RecordOperation)}
    (kept : ∀ step ∈ steps, ∀ db, invariant db → invariant (db.perform step.1 step.2).2)
    {db : Database} (start : invariant db) : invariant (db.run steps).2 := by
  induction steps generalizing db with
  | nil => exact start
  | cons step rest ih =>
    have next := kept step List.mem_cons_self db start
    exact ih (fun later member => kept later (List.mem_cons_of_mem step member)) next

/-- The record that an operation is to change, if it is one that changes a record. -/
def RecordOperation.target : RecordOperation → Option (String × String)
  | .replace name (some id) _ | .merge name (some id) _ | .delete name (some id) => some (name, id)
  | _ => none

theorem RecordOperation.Changes.lookup?_of_ne_target {operation : RecordOperation}
    {name id : String} {records changed : Table Record} {record : Record}
    (changes : operation.Changes name records changed) (found : records.lookup? id = some record)
    (other : operation.target ≠ some (name, id)) : changed.lookup? id = some record := by
  have different {key : String} (target : operation.target = some (name, key)) : id ≠ key := by
    rintro rfl
    exact other target
  cases changes with
  | create unused => exact Table.lookup?_append_of_some found _
  | @replace _ _ _ _ _ old new first =>
    rw [← Table.put_append first old new, Table.lookup?_put_of_ne (different rfl), found]
  | @merge _ _ _ _ _ old new first =>
    rw [← Table.put_append first old new, Table.lookup?_put_of_ne (different rfl), found]
  | delete stored => rw [← found]; exact Table.lookup?_remove_of_ne (different rfl) records

/-- A write that is not about a record leaves it as it is stored. -/
theorem RecordOperation.Affects.lookup?_of_ne_target {operation : RecordOperation}
    {before after : Table (Table Record)} {name id : String} {records : Table Record}
    {record : Record} (affected : operation.Affects before after)
    (collection : before.lookup? name = some records) (found : records.lookup? id = some record)
    (other : operation.target ≠ some (name, id)) :
    ∃ kept, after.lookup? name = some kept ∧ kept.lookup? id = some record := by
  obtain ⟨place, old, new, changes, change⟩ := affected
  by_cases same : name = place
  · subst same
    obtain ⟨previous, current⟩ := change.lookup?_self
    rw [collection, Option.getD_some] at previous
    subst previous
    exact ⟨new, current, changes.lookup?_of_ne_target found other⟩
  · exact ⟨records, by rw [change.lookup?_of_ne same, collection], found⟩

/-- Whoever is permitted to change a record passes the rule for updates or that for deletions. -/
theorem Database.Permits.passes {db : Database} {caller : Caller} {operation : RecordOperation}
    {name id : String} (permitted : db.Permits caller operation)
    (target : operation.target = some (name, id)) :
    ∃ action record payload, (action = .update ∨ action = .delete) ∧
      db.store.get name id = .ok record ∧
      db.guard.Passes caller action (some name) (some id) (some record) payload := by
  cases operation with
  | read collection key spec => cases target
  | create place key payload => cases target
  | replace place key payload =>
    obtain ⟨key, record, sent, rfl, found, _, passes⟩ := permitted
    cases target
    exact ⟨.update, record, some sent, .inl rfl, found, passes⟩
  | merge place key payload =>
    obtain ⟨key, record, sent, rfl, found, _, passes⟩ := permitted
    cases target
    exact ⟨.update, record, some sent, .inl rfl, found, passes⟩
  | delete place key =>
    obtain ⟨key, record, rfl, found, passes⟩ := permitted
    cases target
    exact ⟨.delete, record, none, .inr rfl, found, passes⟩

/-- A list of roles that names owners and nobody else. -/
def Rule.OwnerOnly : Rule → Prop
  | .roles any => ∀ role, role ∈ any ↔ role = .owner
  | .expression _ _ => False

/-- Whoever satisfies a rule for the owner alone owns the record, whatever is loaded or sent with
it. Administrators are let through elsewhere. -/
theorem Rule.OwnerOnly.owns {rule : Rule} {source : Option RecordSource} {caller : Caller}
    {record : Record} {payload : Option Record} (ownerOnly : rule.OwnerOnly)
    (satisfied : rule.Satisfied source caller (some record) payload) : caller.Owns record := by
  cases rule with
  | expression text e => exact ownerOnly.elim
  | roles any =>
    rcases satisfied with guest | ⟨_, user | ⟨_, candidate, same, owns⟩⟩
    · cases (ownerOnly _).mp guest
    · cases (ownerOnly _).mp user
    · cases same
      exact owns

theorem Caller.owns_tagged_iff {caller : Caller} {record : Record} {id : String} :
    caller.Owns (record.tagged id) ↔ caller.Owns record := by
  rw [Caller.Owns, Record.field_tagged_of_ne (by decide), Caller.Owns]

/-- Neither the rule for updates of a record nor that for deletions lets anybody but its owner
pass. -/
structure RuleSet.ProtectsOwner (rules : RuleSet) (name id : String) : Prop where
  update : (rules.resolve .update (some name) (some id)).rule.OwnerOnly
  delete : (rules.resolve .delete (some name) (some id)).rule.OwnerOnly

/-- One step of a run: an operation of somebody who neither is an administrator nor owns the record
leaves a record that is protected for its owner where it is, with all its fields. -/
theorem Database.perform_keeps_owned {db : Database} {caller : Caller}
    {operation : RecordOperation} {name id : String} {record : Record}
    (stored : db.store.existing name id = .ok record)
    (owners : db.policy.ProtectsOwner name id)
    (noAdmin : caller.isAdmin = false) (stranger : ¬caller.Owns record) :
    (db.perform caller operation).2.store.existing name id = .ok record := by
  obtain ⟨records, collection, found⟩ := Store.existing_eq_ok_iff.mp stored
  rw [Store.existing_eq_ok_iff]
  rcases db.perform_cases caller operation with same | ⟨_, permitted, affected⟩
  · exact ⟨records, by rw [same, collection], found⟩
  · refine affected.lookup?_of_ne_target collection found fun target => stranger ?_
    obtain ⟨action, candidate, payload, which, fetched, passes⟩ := permitted.passes target
    obtain ⟨again, existing, rfl⟩ := Store.get_eq_ok_iff.mp fetched
    cases stored.symm.trans existing
    have ownerOnly : (db.policy.resolve action (some name) (some id)).rule.OwnerOnly := by
      rcases which with rfl | rfl
      · exact owners.update
      · exact owners.delete
    rcases passes with admin | satisfied
    · rw [noAdmin] at admin
      cases admin
    · exact Caller.owns_tagged_iff.mp (ownerOnly.owns satisfied)

/-- A record that only its owner may update or delete is stored as it was after any operations of
others: it is there under its id with all its properties, those of the store included. -/
theorem Database.run_keeps_owned_record {db : Database} {name id : String} {record : Record}
    (stored : db.store.existing name id = .ok record)
    (owners : db.policy.ProtectsOwner name id) {steps : List (Caller × RecordOperation)}
    (strangers : ∀ step ∈ steps, step.1.isAdmin = false ∧ ¬step.1.Owns record) :
    (db.run steps).2.store.existing name id = .ok record := by
  have kept : ∀ step ∈ steps, ∀ db : Database,
      db.store.existing name id = .ok record ∧ db.policy.ProtectsOwner name id →
        (db.perform step.1 step.2).2.store.existing name id = .ok record ∧
          (db.perform step.1 step.2).2.policy.ProtectsOwner name id := by
    intro step member db ⟨stored, owners⟩
    obtain ⟨noAdmin, stranger⟩ := strangers step member
    exact ⟨db.perform_keeps_owned stored owners noAdmin stranger, by rwa [db.perform_policy]⟩
  exact (Database.run_keeps kept ⟨stored, owners⟩).1

/-- Others read the note, forge its owner, create one more and try to delete the one there is. After
all of that it is as it was. -/
theorem Database.run_keeps_owned_note :
    let db : Database := ⟨noteStore, none, {}⟩
    let note : Record := [("title", .text "first"), ("_ownerId", .text "u1")]
    let stranger : Caller := { user := some [("_id", .text "u2")] }
    let steps : List (Caller × RecordOperation) :=
      [({}, .read (some "notes") (some "n1") {}),
        (stranger, .merge "notes" (some "n1") (.object [("_ownerId", .text "u2")])),
        (stranger, .create "notes" none (.object [("title", .text "other")])),
        (stranger, .replace "notes" (some "n2") (.object [("title", .text "another")])),
        ({}, .delete "notes" (some "n1"))]
    db.store.existing "notes" "n1" = .ok note ∧ db.policy.ProtectsOwner "notes" "n1" ∧
      (∀ step ∈ steps, step.1.isAdmin = false ∧ ¬step.1.Owns note) ∧
        (db.run steps).2.store.existing "notes" "n1" = .ok note := by
  intro db note stranger steps
  have stored : db.store.existing "notes" "n1" = .ok note := rfl
  have owners : db.policy.ProtectsOwner "notes" "n1" :=
    ⟨fun _ => List.mem_singleton, fun _ => List.mem_singleton⟩
  have strangers : ∀ step ∈ steps, step.1.isAdmin = false ∧ ¬step.1.Owns note := by decide
  exact ⟨stored, owners, strangers, Database.run_keeps_owned_record stored owners strangers⟩

end GuardedRecords
