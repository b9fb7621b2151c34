import Mathlib.Data.List.Basic
import GuardedRecords.Proofs.AdminFlag
import GuardedRecords.Proofs.JoinedRecords

namespace GuardedRecords

/-- A query that selects properties and attaches joins, and asks for nothing else. -/
def QuerySpec.showing (names : List String) (joins : List Join) : QuerySpec :=
  { select := names, joins := joins }

/-- Such a query shows every record, in the order given. -/
theorem QuerySpec.shape_showing (names : List String) (joins : List Join)
    (related : Option RelatedSource) (records : List Record) :
    (QuerySpec.showing names joins).shape related records =
      .ok (.records (records.map ((QuerySpec.showing names joins).project related))) := rfl

theorem Table.getElem?_idxOf_of_lookup? {α : Type} {table : Table α} {name : String} {entry : α}
    (found : table.lookup? name = some entry) :
    table[table.names.idxOf name]? = some (name, entry) := by
  obtain ⟨front, back, rfl, first⟩ := Table.lookup?_eq_some_iff.mp found
  have place : (Table.names (front ++ (name, entry) :: back)).idxOf name = front.length := by
    rw [Table.names_append, List.idxOf_append_of_notMem first]
    simp [Table.names]
  rw [place, List.getElem?_append_right (Nat.le_refl _), Nat.sub_self]
  rfl

theorem Guard.visible_admin (guard : Guard) (caller : Caller) (name id : String)
    (stored : Record) :
    guard.visible (caller.flagged true) name id stored = guard.visible caller name id stored := by
  obtain ⟨user, session, isAdmin⟩ := caller
  cases isAdmin with
  | true => rfl
  | false => exact guard.visible_flagged ⟨user, session, false⟩ name id stored

section Reads

variable {db : Database} {caller : Caller} {name id : String} {spec : QuerySpec}

/-- An admin who reads a record is shown what any other caller with the same user is shown who may
read it. -/
theorem Database.readRecord_admin {stored : Record}
    (existing : db.store.existing name id = .ok stored) (caller : Caller) (spec : QuerySpec) :
    db.readRecord (caller.flagged true) name id spec =
      .ok (spec.project (some db.related) (db.guard.visible caller name id stored)) := by
  have resolved := db.guard.resolveFor_stored .read name id stored
  have passes : db.guard.Passes (caller.flagged true) .read (some name) (some id)
      (some (stored.tagged id)) none := .inl rfl
  obtain ⟨verdict, passed⟩ := (Guard.authorize_isOk_iff resolved).mpr passes
  rw [Database.readRecord_of_existing existing, passed, Guard.visible_admin]
  rfl

theorem Database.read_record (condition : spec.condition = none) (caller : Caller) :
    db.read caller (some name) (some id) spec =
      (db.readRecord caller name id spec).map Reading.record := by
  simp only [Database.read, condition]

/-- A list read shows every record of the collection as far as the caller may see it, in the order
in which they are stored. -/
theorem Database.listed_of_read {names : List String} {joins : List Join} {reading : Reading}
    (run : db.read caller (some name) none (.showing names joins) = .ok reading) :
    ∃ records, db.store.collection name = .ok records ∧
      reading = .shaped (.records (records.map fun entry =>
        (QuerySpec.showing names joins).project (some db.related)
          (db.guard.visible caller name entry.1 entry.2))) := by
  obtain ⟨shaped, whole, rfl⟩ := map_eq_ok_iff.mp run
  cases collection : db.store.collection name with
  | error fault =>
    rw [Database.readCollection_of_error collection] at whole
    cases whole
  | ok records =>
    rw [Database.readCollection_of_lookup? (Store.collection_eq_ok_iff.mp collection),
      bind_eq_ok_iff] at whole
    obtain ⟨_, _, shape⟩ := whole
    rw [QuerySpec.shape_showing, List.map_map] at shape
    cases shape
    exact ⟨records, rfl, rfl⟩

end Reads

/-- A list read shows every record of the collection once and in the order in which they are stored:
at the place of each stands what the caller is shown who reads that record alone, if need be as an
admin. -/
theorem Database.read_record_as_listed {db : Database} {caller : Caller} {name : String}
    {names : List String} {joins : List Join} {reading : Reading}
    (run : db.read caller (some name) none (.showing names joins) = .ok reading) :
    ∃ records shown, db.store.collection name = .ok records ∧
      reading = .shaped (.records shown) ∧ shown.length = records.length ∧
      (∀ id ∈ records.names, ∃ r, shown[records.names.idxOf id]? = some r ∧
        db.read (caller.flagged true) (some name) (some id) (.showing names joins) =
          .ok (.record r)) ∧
      ∀ id one, db.read caller (some name) (some id) (.showing names joins) = .ok one →
        ∃ r, shown[records.names.idxOf id]? = some r ∧ one = .record r := by
  obtain ⟨records, collection, rfl⟩ := Database.listed_of_read run
  have present := Store.collection_eq_ok_iff.mp collection
  refine ⟨records, _, collection, rfl, List.length_map .., fun id member => ?_,
    fun id one single => ?_⟩
  · obtain ⟨stored, found⟩ := Option.ne_none_iff_exists'.mp
      fun absent => Table.lookup?_eq_none_iff.mp absent member
    have existing := Store.existing_eq_ok_iff.mpr ⟨records, present, found⟩
    refine ⟨_, by rw [List.getElem?_map, Table.getElem?_idxOf_of_lookup? found]; rfl, ?_⟩
    rw [Database.read_record rfl, Database.readRecord_admin existing]
    rfl
  · rw [Database.read_record rfl, map_eq_ok_iff] at single
    obtain ⟨r, shown, rfl⟩ := single
    obtain ⟨stored, existing, rfl⟩ := Database.picks_of_readRecord shown
    obtain ⟨_, found⟩ := Store.lookup?_of_existing collection existing
    exact ⟨_, by rw [List.getElem?_map, Table.getElem?_idxOf_of_lookup? found]; rfl, rfl⟩

/-- Nobody is shown whose the memos are, which only their owners may read in full; the second memo
does not even show its id, and links to the first. -/
def veiledMemos : Database where
  store := .holding [("memos", [
    ("m1", [("title", .text "first"), ("_ownerId", .text "u1"), ("secret", .int 1)]),
    ("m2", [("title", .text "second"), ("_ownerId", .text "u1"), ("secret", .int 2),
      ("next", .text "m1")])])] (fun _ => "m3") 0
  identities := none
  policy := { collections := [("memos", {
    wildcard := { properties := [("secret", { read := some (.roles [.owner]) }),
      ("_ownerId", { read := some (.expression "false" (.literal (.bool false))) })] }
    records := [("m2", { properties :=
      [("_id", { read := some (.expression "false" (.literal (.bool false))) })] })] })] }

theorem Database.read_record_as_listed_veiled :
    let owner : Caller := { user := some [("_id", .text "u1")] }
    let spec : QuerySpec :=
      .showing ["_id", "_ownerId", "secret", "next"] [⟨"linked", "next", "memos"⟩]
    ∃ reading, veiledMemos.read owner (some "memos") none spec = .ok reading ∧
      ∃ records shown, veiledMemos.store.collection "memos" = .ok records ∧
        reading = .shaped (.records shown) ∧
        ∃ r, shown[records.names.idxOf "m2"]? = some r ∧
          veiledMemos.read owner (some "memos") (some "m2") spec = .ok (.record r) := by
  intro owner spec
  have run : veiledMemos.read owner (some "memos") none spec = .ok (.shaped (.records [
      [("_id", .text "m1"), ("secret", .int 1)],
      [("secret", .int 2), ("next", .text "m1"), ("linked", .object [("title", .text "first"),
        ("_ownerId", .text "u1"), ("secret", .int 1), ("_id", .text "m1")])]])) := rfl
  have single : veiledMemos.read owner (some "memos") (some "m2") spec = .ok (.record
      [("secret", .int 2), ("next", .text "m1"), ("linked", .object [("title", .text "first"),
        ("_ownerId", .text "u1"), ("secret", .int 1), ("_id", .text "m1")])]) := rfl
  obtain ⟨records, shown, collection, same, _, _, alone⟩ := Database.read_record_as_listed run
  obtain ⟨r, place, one⟩ := alone "m2" _ single
  exact ⟨_, run, records, shown, collection, same, r, place, one ▸ single⟩

end GuardedRecords
