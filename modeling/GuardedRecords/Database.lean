import GuardedRecords.Policy.Decision
import GuardedRecords.Query.Shape
import GuardedRecords.Store

namespace GuardedRecords

/-- The collection in which users are looked up. -/
def usersCollection : String := "users"

/-- The public store with the policy that guards it. Users are looked up in the store of
identities where there is one. -/
structure Database where
  store : Store
  identities : Option Store
  policy : RuleSet

/-- The record that a join or a rule looks up, without its credential. -/
def Database.related (db : Database) (collection : String) (id : Value) : Option Record :=
  let source := if collection = usersCollection then db.identities.getD db.store else db.store
  (source.fetch collection id).map fun record => record.remove credentialField

def Database.guard (db : Database) : Guard :=
  ⟨db.policy, some fun collection id => db.related collection (.text id)⟩

/-- The members of the object that a request carries. -/
def payloadOf : Value → Except Failure Record
  | .object members => .ok members
  | _ => .error (.refused (.request .notAnObject))

/-- The id of the record that a request addresses. -/
def addressed : Option String → Except Failure String
  | some id => .ok id
  | none => .error (.refused (.request .idMissing))

/-- Goes on with the store where all checks are passed; else the database stays as it is. -/
def Database.write {α : Type} (db : Database) (checks : Except Failure α)
    (change : α → Except Failure Record × Store) : Except Failure Record × Database :=
  match checks with
  | .error failure => (.error failure, db)
  | .ok passed =>
    let (outcome, store) := change passed
    (outcome, { db with store := store })

/-- What is left of the payload of a new record once the policy has let it pass. -/
def Database.checkCreate (db : Database) (caller : Caller) (collection : String)
    (id : Option String) (payload : Value) : Except Failure Record := do
  if id.isSome then .error (.refused (.request .idGiven)) else
  let data ← payloadOf payload
  let (_, _, left) ← db.guard.enforce caller .create (some collection) ⟨none, some data⟩
  .ok (left.payload.getD data)

/-- Stores a new record that belongs to the caller. -/
def Database.create (db : Database) (caller : Caller) (collection : String) (id : Option String)
    (payload : Value) : Except Failure Record × Database :=
  db.write (db.checkCreate caller collection id payload) fun data =>
    db.store.add collection data caller.userId

/-- The id of the record to change and what is left of the payload once the policy has let it
pass. -/
def Database.checkUpdate (db : Database) (caller : Caller) (collection : String)
    (id : Option String) (payload : Value) : Except Failure (String × Record) := do
  let id ← addressed id
  let data ← payloadOf payload
  let record ← (db.store.get collection id).mapError .refused
  let (_, _, left) ← db.guard.enforce caller .update (some collection) ⟨some record, some data⟩
  .ok (id, left.payload.getD data)

/-- Puts the payload in the place of a record. -/
def Database.replace (db : Database) (caller : Caller) (collection : String) (id : Option String)
    (payload : Value) : Except Failure Record × Database :=
  db.write (db.checkUpdate caller collection id payload) fun passed =>
    db.store.set collection passed.1 passed.2

/-- Lays the payload over a record. -/
def Database.merge (db : Database) (caller : Caller) (collection : String) (id : Option String)
    (payload : Value) : Except Failure Record × Database :=
  db.write (db.checkUpdate caller collection id payload) fun passed =>
    db.store.merge collection passed.1 passed.2

/-- The id of the record to remove once the policy allows it. -/
def Database.checkDelete (db : Database) (caller : Caller) (collection : String)
    (id : Option String) : Except Failure String := do
  let id ← addressed id
  let record ← (db.store.get collection id).mapError .refused
  let _ ← db.guard.enforce caller .delete (some collection) ⟨some record, none⟩
  .ok id

/-- Removes a record; the answer tells the time of the removal. -/
def Database.delete (db : Database) (caller : Caller) (collection : String) (id : Option String) :
    Except Failure Record × Database :=
  db.write (db.checkDelete caller collection id) fun id => db.store.delete collection id

/-- What a read answers. -/
inductive Reading
  | names (collections : List String)
  | record (r : Record)
  | shaped (result : Shaped)

/-- One record as the caller may see it. -/
def Database.readRecord (db : Database) (caller : Caller) (collection id : String)
    (spec : QuerySpec) : Except Failure Record := do
  let record ← (db.store.get collection id).mapError .refused
  let (_, _, left) ← db.guard.enforce caller .read (some collection) ⟨some record, none⟩
  .ok (spec.project (some db.related) (left.record.getD record))

/-- The records of a collection as the caller may see them, then shaped by the query. -/
def Database.readCollection (db : Database) (caller : Caller) (collection : String)
    (spec : QuerySpec) : Except Failure Shaped := do
  let records ← (db.store.all collection).mapError .refused
  let _ ← db.guard.authorize caller .read (some collection) none none
  let visible ← records.mapM (db.guard.redact caller collection)
  spec.shape (some db.related) visible

/-- Reads the names of the collections, a collection, or one record. A filter turns the reading
of a record into one of its collection. -/
def Database.read (db : Database) (caller : Caller) (collection : Option String)
    (id : Option String) (spec : QuerySpec) : Except Failure Reading :=
  match collection with
  | none => .ok (.names db.store.names)
  | some name =>
    match id, spec.condition with
    | some id, none => (db.readRecord caller name id spec).map .record
    | _, _ => (db.readCollection caller name spec).map .shaped

/-- An operation on records as a caller asks for it. -/
inductive RecordOperation
  | create (collection : String) (id : Option String) (payload : Value)
  | read (collection : Option String) (id : Option String) (spec : QuerySpec)
  | replace (collection : String) (id : Option String) (payload : Value)
  | merge (collection : String) (id : Option String) (payload : Value)
  | delete (collection : String) (id : Option String)

/-- Carries out an operation; a failing one may leave its mark on the supplies of the store. -/
def Database.perform (db : Database) (caller : Caller) :
    RecordOperation → Except Failure Reading × Database
  | .create collection id payload =>
    let (outcome, after) := db.create caller collection id payload
    (outcome.map .record, after)
  | .read collection id spec => (db.read caller collection id spec, db)
  | .replace collection id payload =>
    let (outcome, after) := db.replace caller collection id payload
    (outcome.map .record, after)
  | .merge collection id payload =>
    let (outcome, after) := db.merge caller collection id payload
    (outcome.map .record, after)
  | .delete collection id =>
    let (outcome, after) := db.delete caller collection id
    (outcome.map .record, after)

end GuardedRecords
