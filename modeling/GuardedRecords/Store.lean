import GuardedRecords.ServiceError
import GuardedRecords.Supply
import GuardedRecords.Text.Case

namespace GuardedRecords

def idField : String := "_id"
def createdField : String := "_createdOn"
def updatedField : String := "_updatedOn"
def ownerField : String := "_ownerId"
def deletedField : String := "_deletedOn"

/-- The properties that only the store itself writes. -/
def systemFields : List String := [idField, createdField, updatedField, ownerField]

/-- A record without the properties that belong to the store. -/
def Record.withoutSystemFields (record : Record) : Record :=
  record.filter fun pair => !systemFields.contains pair.1

/-- A record as it is given out: with the id it is stored under. -/
def Record.tagged (record : Record) (id : String) : Record := record.put idField (.text id)

/-- Collections of records by id, in the order of their creation, with the supplies of ids and
of clock readings. A record is stored without its id. -/
structure Store where
  collections : Table (Table Record)
  ids : Supply String
  clock : Supply Int
  attempts : Nat
  attempts_pos : 0 < attempts

/-- Collections as they are stored. -/
def storedForm (seed : Table (Table Record)) : Table (Table Record) :=
  let stored (records : Table Record) : Table Record :=
    Table.ofPairs (records.map fun entry => (entry.1, entry.2.remove idField))
  Table.ofPairs (seed.map fun entry => (entry.1, stored entry.2))

/-- A store that holds the given collections. At least one attempt to find an unused id is
needed. -/
def Store.ofSeed (seed : Table (Table Record)) (ids : Supply String) (clock : Supply Int)
    (attempts : Int) : Except Failure Store :=
  if positive : 0 < attempts then
    .ok ⟨storedForm seed, ids, clock, attempts.toNat, by omega⟩
  else .error .noAttempts

def Store.names (store : Store) : List String := store.collections.names

def Store.hasCollection (store : Store) (name : String) : Bool := store.collections.has name

/-- The records of a collection by id. -/
def Store.collection (store : Store) (name : String) : Except ServiceError (Table Record) :=
  match store.collections.lookup? name with
  | some records => .ok records
  | none => .error (.noCollection name)

/-- A record as it is stored. -/
def Store.existing (store : Store) (name id : String) : Except ServiceError Record := do
  let records ← store.collection name
  match records.lookup? id with
  | some record => .ok record
  | none => .error (.noEntry id)

def Store.get (store : Store) (name id : String) : Except ServiceError Record :=
  (store.existing name id).map (·.tagged id)

/-- All records of a collection, oldest first. -/
def Store.all (store : Store) (name : String) : Except ServiceError (List Record) :=
  (store.collection name).map fun records => records.map fun entry => entry.2.tagged entry.1

/-- `get` for a value in the place of the id, without a reason when there is no record. -/
def Store.fetch (store : Store) (name : String) (id : Value) : Option Record :=
  match id with
  | .text key => (store.get name key).toOption
  | _ => none

/-- Equality of a stored and a wanted value: between texts case does not matter. -/
def fieldMatches : Value → Value → Bool
  | .text s, .text wanted => lower s == lower wanted
  | actual, wanted => actual.equals wanted

/-- The records whose properties match all the wanted ones; a missing property is `null`. -/
def Store.query (store : Store) (name : String) (wanted : Record) :
    Except ServiceError (List Record) :=
  (store.collection name).map fun records =>
    (records.filter fun entry => wanted.all fun w => fieldMatches (entry.2.field w.1) w.2).map
      fun entry => entry.2.tagged entry.1

/-- The first of the next ids that is not in use, with the supply after it. -/
def freshId (inUse : String → Bool) : Nat → Supply String → Option String × Supply String
  | 0, ids => (none, ids)
  | attempts + 1, ids =>
    let (id, rest) := ids.next
    if inUse id then freshId inUse attempts rest else (some id, rest)

/-- The time of a change: the clock reading, or the successor of the time before if the clock
has not passed that. -/
def stampAfter (previous : Value) (now : Int) : Int :=
  let after (time : Int) : Int := if now ≤ time then time + 1 else now
  match previous with
  | .int time => after time
  | .bool b => after (if b then 1 else 0)
  | _ => now

/-- The collections with the records of one of them changed. -/
def Store.withCollection (store : Store) (name : String) (records : Table Record) : Store :=
  { store with collections := store.collections.put name records }

/-- A new record as it is stored. The properties of the store come from the store alone. -/
def newRecord (payload : Record) (owner : Value) (now : Int) : Record :=
  let plain := payload.withoutSystemFields
  let owned := if owner.isNull then plain else plain.put ownerField owner
  owned.put createdField (.int now)

/-- Stores a new record, in a new collection if there is none of that name. When all attempts
meet ids in use nothing is stored. -/
def Store.add (store : Store) (name : String) (payload : Record) (owner : Value) :
    Except Failure Record × Store :=
  let records := (store.collections.lookup? name).getD []
  let (found, ids) := freshId records.has store.attempts store.ids
  let store := { store.withCollection name records with ids := ids }
  match found with
  | none => (.error (.idsExhausted name store.attempts), store)
  | some id =>
    let (now, clock) := store.clock.next
    let record : Record := newRecord payload owner now
    (.ok (record.tagged id), { store.withCollection name (records.put id record) with clock := clock })

/-- Changes a stored record and marks the time of the change. -/
def Store.modify (store : Store) (name id : String) (change : Record → Record) :
    Except Failure Record × Store :=
  match store.collection name, store.existing name id with
  | .ok records, .ok old =>
    let (now, clock) := store.clock.next
    let stamp := stampAfter (old.field updatedField) now
    let record : Record := (change old).put updatedField (.int stamp)
    (.ok (record.tagged id), { store.withCollection name (records.put id record) with clock := clock })
  | .error e, _ | _, .error e => (.error (.refused e), store)

/-- The payload in the place of a record, with the properties of the store carried over. -/
def replaceFields (payload old : Record) : Record :=
  systemFields.foldl
    (fun record name =>
      match old.lookup? name with
      | some value => record.put name value
      | none => record)
    payload.withoutSystemFields

/-- The payload laid over a record; the properties of the store stay. -/
def mergeFields (payload old : Record) : Record := Table.putAll old payload.withoutSystemFields

def Store.set (store : Store) (name id : String) (payload : Record) : Except Failure Record × Store :=
  store.modify name id (replaceFields payload)

def Store.merge (store : Store) (name id : String) (payload : Record) :
    Except Failure Record × Store :=
  store.modify name id (mergeFields payload)

/-- Removes a record; the answer tells the time of the removal. The collection stays. -/
def Store.delete (store : Store) (name id : String) : Except Failure Record × Store :=
  match store.collection name, store.existing name id with
  | .ok records, .ok _ =>
    let (now, clock) := store.clock.next
    (.ok [(deletedField, .int now)],
      { store.withCollection name (records.remove id) with clock := clock })
  | .error e, _ | _, .error e => (.error (.refused e), store)

/-- Everything that is stored, as it is given out. -/
def Store.dump (store : Store) : Table (List Record) :=
  store.collections.map fun entry => (entry.1, entry.2.map fun r => r.2.tagged r.1)

end GuardedRecords
