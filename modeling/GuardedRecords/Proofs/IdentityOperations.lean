import GuardedRecords.Identity
import GuardedRecords.Proofs.StoreRuns

namespace GuardedRecords

theorem Value.equals_text_iff {value : Value} {text : String} :
    value.equals (.text text) = true ↔ value = .text text := by
  have noNumber : (Value.text text).extent? = none := rfl
  cases value with
  | double x =>
    cases number : (Value.double x).extent? <;>
      simp [Value.equals, Value.agrees, Value.scalarsAgree, noNumber, number]
  | _ =>
    simp [Value.equals, Value.isNaN, Value.agrees, Value.scalarsAgree, Value.extent?]

/-- The records that match a wanted record, tagged with their ids. The test reads the record as it
is stored, so a property that only the tag adds cannot be searched for. -/
theorem Store.matching_eq (store : Store) (name : String) (wanted : Record) :
    store.matching name wanted =
      ((recordsUnder store.collections name).filter fun entry =>
        wanted.all fun w => fieldMatches (entry.2.field w.1) w.2).map
        fun entry => entry.2.tagged entry.1 := by
  rw [Store.matching, Store.query, Store.collection, recordsUnder]
  cases store.collections.lookup? name <;> rfl

def Identities.users (ids : Identities) : Table Record :=
  recordsUnder ids.store.collections usersCollection

def Identities.sessions (ids : Identities) : Table Record :=
  recordsUnder ids.store.collections sessionsCollection

/-- A name or a password counts as given if the body carries it as a text that is not empty.
Numbers, lists and the empty text are as good as nothing. -/
theorem filledText?_eq_some_iff {body : Record} {name text : String} :
    filledText? body name = some text ↔ body.field name = .text text ∧ text ≠ "" := by
  unfold filledText?
  split
  · next s found =>
    rw [found, Value.text.injEq, Option.ite_none_left_eq_some, Option.some.injEq,
      String.isEmpty_iff]
    constructor
    · rintro ⟨filled, rfl⟩
      exact ⟨rfl, filled⟩
    · rintro ⟨rfl, filled⟩
      exact ⟨filled, rfl⟩
  · next other =>
    refine iff_of_false nofun ?_
    rintro ⟨found, _⟩
    exact other text found

/-- What a body must be in order to register or to log in: an object that gives both a name and a
password. Other members are allowed, and are stored with a new user. -/
theorem Identities.registration?_eq_some_iff {ids : Identities} {body : Value} {members : Record}
    {name password : String} :
    ids.registration? body = some (members, name, password) ↔
      body = .object members ∧ filledText? members ids.nameField = some name ∧
        filledText? members passwordField = some password := by
  unfold Identities.registration?
  split
  · next body =>
    split
    · next filled secret =>
      simp only [Option.some.injEq, Prod.mk.injEq, Value.object.injEq]
      constructor
      · rintro ⟨rfl, rfl, rfl⟩
        exact ⟨rfl, filled, secret⟩
      · rintro ⟨rfl, named, given⟩
        exact ⟨rfl, Option.some.inj (filled.symm.trans named),
          Option.some.inj (secret.symm.trans given)⟩
    · next incomplete =>
      refine iff_of_false nofun ?_
      rintro ⟨same, named, given⟩
      cases same
      exact incomplete _ _ named given
  · next other =>
    refine iff_of_false nofun ?_
    rintro ⟨same, _⟩
    exact other members same

/-- The users of a name, as they are stored. -/
def Identities.entriesNamed (ids : Identities) (name : String) : Table Record :=
  ids.users.filter fun entry => fieldMatches (entry.2.field ids.nameField) (.text name)

/-- The users of a name are the stored entries of that name, with the tags that a search adds.
Statements about stored users are carried over to what a search gives by this equation. -/
theorem Identities.usersNamed_eq (ids : Identities) (name : String) :
    ids.usersNamed name = (ids.entriesNamed name).map fun entry => entry.2.tagged entry.1 := by
  simp only [Identities.usersNamed, Store.matching_eq, List.all_cons, List.all_nil, Bool.and_true]
  rfl

theorem Identities.usersNamed_eq_nil_iff {ids : Identities} {name : String} :
    ids.usersNamed name = [] ↔ ids.entriesNamed name = [] := by
  rw [Identities.usersNamed_eq, List.map_eq_nil_iff]

theorem Record.field_id_withToken (user : Record) (token : Value) :
    Record.field (user.withoutCredential.put tokenField token) idField = user.field idField := by
  rw [Record.field, Table.lookup?_put_of_ne (by decide), Record.withoutCredential,
    Table.lookup?_remove_of_ne (by decide), Record.field]

/-- A new session is stored under an id that no session has, with the user's id and the next token.
Without such an id nothing is stored, and the token is used up all the same. -/
theorem Identities.openSession_cases (ids : Identities) (user : Record) :
    (∃ id session store, id ∉ ids.sessions.names ∧
      session.field tokenField = .text ids.tokens.next.1 ∧
      session.field sessionUserField = user.field idField ∧
      store.collections =
        ids.store.collections.put sessionsCollection (ids.sessions ++ [(id, session)]) ∧
      ids.openSession user =
        (.ok (user.withoutCredential.put tokenField (.text ids.tokens.next.1)),
          { ids with store := store, tokens := ids.tokens.next.2 })) ∨
    ∃ rest, freshId ids.sessions.has ids.store.attempts ids.store.ids = (none, rest) ∧
      ids.openSession user =
        (.error (.idsExhausted sessionsCollection ids.store.attempts),
          { ids with store := { ids.store with ids := rest }, tokens := ids.tokens.next.2 }) := by
  let payload : Record :=
    [(sessionUserField, user.field idField), (tokenField, .text ids.tokens.next.1)]
  have opened : ids.openSession user =
      ((ids.store.add sessionsCollection payload .null).1.map fun _ =>
          user.withoutCredential.put tokenField (.text ids.tokens.next.1),
        { ids with
          store := (ids.store.add sessionsCollection payload .null).2
          tokens := ids.tokens.next.2 }) := rfl
  rcases ids.store.add_cases sessionsCollection payload .null with
    ⟨id, rest, _, unused, added⟩ | ⟨rest, exhausted, failed⟩
  · left
    rw [added] at opened
    refine ⟨id, newRecord payload .null ids.store.clock.next.1, _, unused, ?_, ?_, rfl, opened⟩
    · rw [Record.field, lookup?_newRecord_of_not_mem (by decide)]
      rfl
    · rw [Record.field, lookup?_newRecord_of_not_mem (by decide)]
      rfl
  · right
    rw [failed] at opened
    exact ⟨rest, exhausted, opened⟩

/-- Whoever proves to be a user is given out as that user is stored, with the id and, up to this
point, still with the credential. -/
theorem Identities.authenticate_tagged {ids : Identities} {body : Value} {user : Record}
    (run : ids.authenticate body = .ok user) :
    ∃ entry ∈ ids.users, user = entry.2.tagged entry.1 := by
  have alone (name : String) (only : ids.usersNamed name = [user]) :
      ∃ entry ∈ ids.users, user = entry.2.tagged entry.1 := by
    rw [Identities.usersNamed, Store.matching_eq] at only
    obtain ⟨entry, member, same⟩ := List.mem_map.mp (only ▸ List.mem_singleton_self user)
    exact ⟨entry, (List.mem_filter.mp member).1, same.symm⟩
  unfold Identities.authenticate at run
  split at run
  · split at run
    · next name password _ _ =>
      split at run
      · next same only =>
        obtain ⟨verified, _, rest⟩ := bind_eq_ok_iff.mp run
        split at rest
        · cases rest
          exact alone name only
        · cases rest
      · cases run
    · cases run
  · cases run

/-- The only user of a name is stored under the user's id. -/
theorem Identities.authenticate_stored {ids : Identities} {body : Value} {user : Record}
    (run : ids.authenticate body = .ok user) :
    ∃ id ∈ ids.users.names, user.field idField = .text id := by
  obtain ⟨entry, member, rfl⟩ := Identities.authenticate_tagged run
  exact ⟨entry.1, List.mem_map_of_mem member, Record.field_tagged_self ..⟩

/-- A body makes a new user: it carries a password and a name that no user has, and the user is
stored under an id that no user has. -/
inductive Identities.Enrols (ids : Identities) : Value → String → Record → Prop
  | user {members : Record} {name password id : String} {now : Int} :
      filledText? members ids.nameField = some name →
      filledText? members passwordField = some password →
      ids.usersNamed name = [] → id ∉ ids.users.names →
      Enrols ids (.object members) id (newRecord (ids.newUser members password) .null now)

/-- A registration is refused for what the body lacks or for a name that is taken, it finds no id
for the new user, or it stores the new user and goes on to open a session. -/
theorem Identities.register_cases (ids : Identities) (body : Value) :
    (ids.registration? body = none ∧
      ids.register body = (.error (.refused (.request .missingFields)), ids)) ∨
    (∃ members name password, ids.registration? body = some (members, name, password) ∧
      ids.usersNamed name ≠ [] ∧
      ids.register body = (.error (.refused (.identityTaken ids.nameField)), ids)) ∨
    (∃ members name password rest, ids.registration? body = some (members, name, password) ∧
      ids.usersNamed name = [] ∧
      ids.register body =
        (.error (.idsExhausted usersCollection ids.store.attempts),
          { ids with store := { ids.store with ids := rest } })) ∨
    ∃ id user store, ids.Enrols body id user ∧ store.attempts = ids.store.attempts ∧
      store.collections =
        ids.store.collections.put usersCollection (ids.users ++ [(id, user)]) ∧
      ids.register body = { ids with store := store }.openSession (user.tagged id) := by
  unfold Identities.register
  split
  · next incomplete => exact .inl ⟨incomplete, rfl⟩
  · next members name password complete =>
    right
    split
    · next taken =>
      rw [Bool.not_eq_true', List.isEmpty_eq_false_iff] at taken
      exact .inl ⟨members, name, password, complete, taken, rfl⟩
    · next free =>
      right
      have unknown : ids.usersNamed name = [] := by
        rwa [Bool.not_eq_true', Bool.not_eq_false, List.isEmpty_iff] at free
      rcases ids.store.add_cases usersCollection (ids.newUser members password) .null with
        ⟨id, rest, _, unused, added⟩ | ⟨rest, _, failed⟩
      · obtain ⟨rfl, named, secret⟩ := Identities.registration?_eq_some_iff.mp complete
        rw [added]
        refine .inr ⟨id, _, _, .user named secret unknown unused, ?_, ?_, rfl⟩
        · rfl
        · rfl
      · rw [failed]
        exact .inl ⟨members, name, password, rest, complete, unknown, rfl⟩

theorem Store.deleteAt_cases (store : Store) (name : String) (id : Value) :
    (∃ key marker after, store.deleteAt name id = (.ok marker, after) ∧
      after.collections =
        store.collections.put name ((recordsUnder store.collections name).remove key)) ∨
    ∃ failure, store.deleteAt name id = (.error failure, store) := by
  cases id with
  | text key =>
    rcases store.delete_cases name key with ⟨records, old, present, _, removed⟩ | ⟨error, failed⟩
    · refine .inl ⟨key, _, _, removed, ?_⟩
      rw [recordsUnder_of_lookup? present]
    · exact .inr ⟨_, failed⟩
  | _ =>
    right
    simp only [Store.deleteAt]
    cases store.collection name <;> exact ⟨_, rfl⟩

end GuardedRecords
