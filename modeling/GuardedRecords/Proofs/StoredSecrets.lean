import GuardedRecords.Identity
import GuardedRecords.Proofs.OwnerProtection
import GuardedRecords.Proofs.StoreRuns

namespace GuardedRecords

/-- Two stores have the same users, but for their credentials: under every id neither has a user, or
both have one with the same properties apart from the credential. -/
def Store.SameUsers (first second : Store) : Prop :=
  ∀ id,
    ((recordsUnder first.collections usersCollection).lookup? id).map Record.withoutCredential =
      ((recordsUnder second.collections usersCollection).lookup? id).map Record.withoutCredential

theorem Record.withoutCredential_tagged (record : Record) (id : String) :
    (record.tagged id).withoutCredential = Record.tagged record.withoutCredential id :=
  Table.remove_put_of_ne (by decide) record _

/-- Only texts are looked up, and users are given out without their credentials, so that stores with
the same users give out the same. -/
theorem Store.SameUsers.fetch {first second : Store} (same : first.SameUsers second) (id : Value) :
    (first.fetch usersCollection id).map Record.withoutCredential =
      (second.fetch usersCollection id).map Record.withoutCredential := by
  have tagged (key : String) (found : Option Record) :
      (found.map (·.tagged key)).map Record.withoutCredential =
        (found.map Record.withoutCredential).map (·.tagged key) := by
    cases found with
    | none => rfl
    | some record => exact congrArg some (record.withoutCredential_tagged key)
  cases id with
  | text key => rw [Store.fetch_text, Store.fetch_text, tagged, tagged, same key]
  | _ => rfl

/-- Databases that differ at most in the stores of identities behind them, and there in nothing but
credentials and what is not a user. -/
structure Database.Alike (db other : Database) : Prop where
  store : other.store = db.store
  policy : other.policy = db.policy
  users : ∃ first second, db.identities = some first ∧ other.identities = some second ∧
    first.SameUsers second

section Operations

variable {db other : Database}

/-- What joins and rules look up is the same: records come from the one store, and users come
without their credentials. -/
theorem Database.Alike.related (alike : db.Alike other) : other.related = db.related := by
  obtain ⟨first, second, here, there, same⟩ := alike.users
  funext collection id
  rw [Database.related, Database.related, alike.store, here, there]
  by_cases users : collection = usersCollection
  · subst users
    rw [if_pos rfl, if_pos rfl]
    exact (same.fetch id).symm
  · rw [if_neg users, if_neg users]

theorem Database.Alike.guard (alike : db.Alike other) : other.guard = db.guard := by
  rw [Database.guard, Database.guard, alike.policy, alike.related]

/-- A write is answered by the same checks and the same change where the stores are the same, and
leaves the same store behind. -/
theorem Database.write_congr {α : Type} (same : other.store = db.store) (checks : Except Failure α)
    (change : α → Except Failure Record × Store) :
    (other.write checks change).1 = (db.write checks change).1 ∧
      (other.write checks change).2.store = (db.write checks change).2.store := by
  cases checks with
  | error failure => exact ⟨rfl, same⟩
  | ok passed => exact ⟨rfl, rfl⟩

/-- Databases that differ in credentials only answer every read alike, also where users are joined
to other records. -/
theorem Database.Alike.read (alike : db.Alike other) (caller : Caller)
    (collection id : Option String) (spec : QuerySpec) :
    other.read caller collection id spec = db.read caller collection id spec := by
  simp only [Database.read, Database.readRecord, Database.readCollection, alike.store, alike.guard,
    alike.related]

theorem Database.Alike.checkCreate (alike : db.Alike other) (caller : Caller) (name : String)
    (id : Option String) (payload : Value) :
    other.checkCreate caller name id payload = db.checkCreate caller name id payload := by
  simp only [Database.checkCreate, alike.guard]

theorem Database.Alike.checkUpdate (alike : db.Alike other) (caller : Caller) (name : String)
    (id : Option String) (payload : Value) :
    other.checkUpdate caller name id payload = db.checkUpdate caller name id payload := by
  simp only [Database.checkUpdate, alike.store, alike.guard]

theorem Database.Alike.checkDelete (alike : db.Alike other) (caller : Caller) (name : String)
    (id : Option String) : other.checkDelete caller name id = db.checkDelete caller name id := by
  simp only [Database.checkDelete, alike.store, alike.guard]

/-- Databases that differ in credentials only answer every operation alike and leave the same store
behind, whatever the operation is. -/
theorem Database.Alike.answer (alike : db.Alike other) (caller : Caller)
    (operation : RecordOperation) :
    (other.perform caller operation).1 = (db.perform caller operation).1 ∧
      (other.perform caller operation).2.store = (db.perform caller operation).2.store := by
  have written {α : Type} (checks : Except Failure α) (change : α → Except Failure Record × Store) :
      (other.write checks change).1.map Reading.record =
          (db.write checks change).1.map Reading.record ∧
        (other.write checks change).2.store = (db.write checks change).2.store := by
    obtain ⟨outcome, store⟩ := Database.write_congr alike.store checks change
    exact ⟨congrArg _ outcome, store⟩
  cases operation with
  | read collection id spec => exact ⟨alike.read caller collection id spec, alike.store⟩
  | create name id payload =>
    simp only [Database.perform, Database.create, alike.checkCreate, alike.store]
    exact written _ _
  | replace name id payload =>
    simp only [Database.perform, Database.replace, alike.checkUpdate, alike.store]
    exact written _ _
  | merge name id payload =>
    simp only [Database.perform, Database.merge, alike.checkUpdate, alike.store]
    exact written _ _
  | delete name id =>
    simp only [Database.perform, Database.delete, alike.checkDelete, alike.store]
    exact written _ _

end Operations

theorem Database.write_identities {α : Type} (db : Database) (checks : Except Failure α)
    (change : α → Except Failure Record × Store) :
    (db.write checks change).2.identities = db.identities := by
  cases checks <;> rfl

theorem Database.perform_identities (db : Database) (caller : Caller)
    (operation : RecordOperation) :
    (db.perform caller operation).2.identities = db.identities := by
  cases operation with
  | read collection id spec => rfl
  | create name id payload => exact db.write_identities _ _
  | replace name id payload => exact db.write_identities _ _
  | merge name id payload => exact db.write_identities _ _
  | delete name id => exact db.write_identities _ _

/-- An operation gives databases that are alike the same answer, and they are alike after it. Its
own policy and the store of records are the same in both. -/
theorem Database.Alike.perform {db other : Database} (alike : db.Alike other) (caller : Caller)
    (operation : RecordOperation) :
    (other.perform caller operation).1 = (db.perform caller operation).1 ∧
      (db.perform caller operation).2.Alike (other.perform caller operation).2 := by
  obtain ⟨answer, store⟩ := alike.answer caller operation
  refine ⟨answer, store, ?policy, ?users⟩
  case policy => rw [Database.perform_policy, Database.perform_policy, alike.policy]
  case users =>
    rw [Database.perform_identities, Database.perform_identities]
    exact alike.users

/-- Databases that differ in credentials only go on so, and all their answers are the same along any
run, by induction on its steps. -/
theorem Database.Alike.run {db other : Database} (alike : db.Alike other)
    (steps : List (Caller × RecordOperation)) :
    (other.run steps).1 = (db.run steps).1 ∧ (db.run steps).2.Alike (other.run steps).2 := by
  induction steps generalizing db other with
  | nil => exact ⟨rfl, alike⟩
  | cons step rest ih =>
    obtain ⟨answer, next⟩ := alike.perform step.1 step.2
    obtain ⟨answers, final⟩ := ih next
    exact ⟨List.cons_eq_cons.mpr ⟨answer, answers⟩, final⟩

/-- What is done with records does not depend on the credentials of users, nor on anything else in
the store of identities but the users themselves: whatever the policy looks up and whatever joins
load, all answers, errors among them, and the store in the end are the same. -/
theorem Database.run_ignores_secrets {first second : Store} (same : first.SameUsers second)
    (store : Store) (policy : RuleSet) (steps : List (Caller × RecordOperation)) :
    (Database.run ⟨store, some first, policy⟩ steps).1 =
        (Database.run ⟨store, some second, policy⟩ steps).1 ∧
      (Database.run ⟨store, some first, policy⟩ steps).2.store =
        (Database.run ⟨store, some second, policy⟩ steps).2.store := by
  have alike : Database.Alike ⟨store, some first, policy⟩ ⟨store, some second, policy⟩ :=
    ⟨rfl, rfl, first, second, rfl, rfl, same⟩
  obtain ⟨answers, final⟩ := alike.run steps
  exact ⟨answers.symm, final.store.symm⟩

/-- Neither a rule that asks for the credential of the owner nor joins with the user and with a
session tell the two stores of identities apart. -/
theorem Database.run_ignores_secrets_joined :
    let first : Store := .holding [
      ("users", [("u1", [("name", .text "Ann"), ("hashedPassword", .text "h1")])]),
      ("sessions", [("s1", [("userId", .text "u1")])])] (fun _ => "u2") 0
    let second : Store := .holding [
      ("users", [("u1", [("hashedPassword", .text "h2"), ("name", .text "Ann")])])]
      (fun _ => "u3") 1
    let rules : RuleSet := { collections := [("notes", {
      actions := { update := some (.expression
        "contains(get('users', record._ownerId), 'hashedPassword')"
        (.call "contains" [.call "get" [.literal (.text "users"), .path "record._ownerId"],
          .literal (.text "hashedPassword")])) } })] }
    let notes : Store := .holding [("notes",
      [("n1", [("_ownerId", .text "u1"), ("session", .text "s1")])])] (fun _ => "n2") 0
    let steps : List (Caller × RecordOperation) :=
      [({}, .merge "notes" (some "n1") (.object [])),
        ({}, .read (some "notes") none
          { joins := [⟨"author", "_ownerId", "users"⟩, ⟨"opened", "session", "sessions"⟩] })]
    first.SameUsers second ∧
      (Database.run ⟨notes, some first, rules⟩ steps).1 =
        (Database.run ⟨notes, some second, rules⟩ steps).1 ∧
      (Database.run ⟨notes, some first, rules⟩ steps).2.store =
        (Database.run ⟨notes, some second, rules⟩ steps).2.store := by
  intro first second rules notes steps
  have same : first.SameUsers second := by
    intro id
    by_cases known : id = "u1"
    · subst known
      rfl
    · have absent (user : Record) : Table.lookup? [("u1", user)] id = none :=
        Table.lookup?_cons_of_ne known user []
      have here : recordsUnder first.collections usersCollection =
          [("u1", [("name", .text "Ann"), ("hashedPassword", .text "h1")])] := rfl
      have there : recordsUnder second.collections usersCollection =
          [("u1", [("hashedPassword", .text "h2"), ("name", .text "Ann")])] := rfl
      rw [here, there, absent, absent]
  exact ⟨same, Database.run_ignores_secrets same notes rules steps⟩

end GuardedRecords
