import GuardedRecords.Proofs.Authorization
import GuardedRecords.Proofs.StoreChanges

namespace GuardedRecords

/-- A record that is read, after one property rule. -/
def Guard.withhold (guard : Guard) (caller : Caller) (record : Record) (rule : PropertyRule) :
    Record :=
  if record.has rule.property && !guard.permits caller (some record) none rule.rule then
    record.remove rule.property
  else record

/-- A stored record as the caller may read it. -/
def Guard.visible (guard : Guard) (caller : Caller) (name id : String) (stored : Record) : Record :=
  (guard.rules.resolve .read (some name) (some id)).propertyRules.foldl (guard.withhold caller)
    (stored.tagged id)

/-- When a record is read, the property rules are applied to the record alone, one after the
other. -/
theorem Guard.applyPropertyRules_read (guard : Guard) (caller : Caller)
    (rules : List PropertyRule) (record : Record) :
    guard.applyPropertyRules caller .read rules { record := some record } =
      { record := some (rules.foldl (guard.withhold caller) record) } := by
  induction rules generalizing record with
  | nil => rfl
  | cons rule rest ih =>
    have step : guard.applyPropertyRule caller .read { record := some record } rule =
        { record := some (guard.withhold caller record rule) } := by
      simp only [Guard.applyPropertyRule, Subject.target, Guard.withhold, Subject.withTarget]
      split <;> rfl
    rw [Guard.applyPropertyRules, List.foldl_cons, step, List.foldl_cons]
    exact ih _

/-- The rules for a stored record are those of its own id, which is taken from the record as it is
tagged. -/
theorem Guard.resolveFor_stored (guard : Guard) (action : Action) (name id : String)
    (stored : Record) :
    guard.rules.resolveFor action (some name) (candidateId (some (stored.tagged id))) =
      .ok (guard.rules.resolve action (some name) (some id)) := by
  rw [candidateId, Record.field_tagged_self, RuleSet.resolveFor_text]

/-- A stored record is shown as the caller may see it. A record whose id is no text would be an
error here, but a tagged one never is. -/
theorem Guard.redact_stored (guard : Guard) (caller : Caller) (name id : String)
    (stored : Record) :
    guard.redact caller name (stored.tagged id) = .ok (guard.visible caller name id stored) := by
  have resolved := guard.resolveFor_stored .read name id stored
  rw [candidateId, idField] at resolved
  rw [Guard.redact, resolved, ok_bind, Guard.applyPropertyRules_read]
  rfl

theorem Database.readRecord_of_error {db : Database} {name id : String} {fault : ServiceError}
    (missing : db.store.existing name id = .error fault) (caller : Caller) (spec : QuerySpec) :
    db.readRecord caller name id spec = .error (.refused fault) := by
  rw [Database.readRecord, Store.get, missing]
  rfl

/-- A single read shows the record that is stored as far as the caller may see it, shaped by the
query like a list of one record. -/
theorem Database.readRecord_of_existing {db : Database} {name id : String} {stored : Record}
    (existing : db.store.existing name id = .ok stored) (caller : Caller) (spec : QuerySpec) :
    db.readRecord caller name id spec =
      (db.guard.authorize caller .read (some name) (some (stored.tagged id)) none).map fun _ =>
        spec.project (some db.related) (db.guard.visible caller name id stored) := by
  have fetched : (db.store.get name id).mapError Failure.refused = .ok (stored.tagged id) := by
    rw [mapError_eq_ok_iff, Store.get_eq_ok_iff]
    exact ⟨stored, existing, rfl⟩
  rw [Database.readRecord, fetched, ok_bind]
  cases verdict : db.guard.authorize caller .read (some name) (some (stored.tagged id)) none with
  | error failure =>
    rw [Guard.enforce, verdict]
    rfl
  | ok passed =>
    obtain ⟨decision, allowed⟩ := passed
    have resolved := db.guard.resolveFor_stored .read name id stored
    rw [Guard.enforce, verdict, ok_bind, Guard.decision_of_authorize resolved verdict]
    simp only [ok_bind, Guard.applyPropertyRules_read]
    rfl

/-- All records of a collection are shown as the caller may see each of them, in their order, and
none of them stops the others. -/
theorem mapM_redact_stored (guard : Guard) (caller : Caller) (name : String)
    (records : Table Record) :
    (records.map fun entry => entry.2.tagged entry.1).mapM (guard.redact caller name) =
      .ok (records.map fun entry => guard.visible caller name entry.1 entry.2) := by
  induction records with
  | nil => rfl
  | cons entry rest ih =>
    rw [List.map_cons, List.mapM_cons, guard.redact_stored, ok_bind, ih]
    rfl

theorem Database.readCollection_of_error {db : Database} {name : String} {fault : ServiceError}
    (missing : db.store.collection name = .error fault) (caller : Caller) (spec : QuerySpec) :
    db.readCollection caller name spec = .error (.refused fault) := by
  rw [Database.readCollection, Store.all, missing]
  rfl

/-- A list read shapes the records of a collection as far as the caller may see them. -/
theorem Database.readCollection_of_lookup? {db : Database} {name : String}
    {records : Table Record} (found : db.store.collections.lookup? name = some records)
    (caller : Caller) (spec : QuerySpec) :
    db.readCollection caller name spec =
      (db.guard.authorize caller .read (some name) none none >>= fun _ =>
        spec.shape (some db.related)
          (records.map fun entry => db.guard.visible caller name entry.1 entry.2)) := by
  have fetched : (db.store.all name).mapError Failure.refused =
      .ok (records.map fun entry => entry.2.tagged entry.1) := by
    rw [mapError_eq_ok_iff, Store.all, map_eq_ok_iff]
    exact ⟨records, Store.collection_eq_ok_iff.mpr found, rfl⟩
  rw [Database.readCollection, fetched, ok_bind]
  simp only [mapM_redact_stored, ok_bind]

end GuardedRecords
