import GuardedRecords.Documents
import GuardedRecords.Proofs.RegisteredUsers

namespace GuardedRecords

/-- A user has a text that is a password hash in the place of the credential. -/
def Record.CarriesHash (user : Record) (hash : String) : Prop :=
  user.field credentialField = .text hash ∧ isHash hash = true

/-- What becomes of a user whose password may stand in the open: the password goes, a hash that is
there already stays, and else a filled password leaves a hash that verifies it and no other one. All
the other properties, in their order, are as they were given. -/
structure SealedUser (hasher : Hasher) (given stored : Record) : Prop where
  password : passwordField ∉ stored.names
  others : stored.remove credentialField = (given.remove passwordField).remove credentialField
  kept : ∀ hash, given.CarriesHash hash → stored.CarriesHash hash
  hashed : ∀ password, given.field passwordField = .text password → password ≠ "" →
    (∀ hash, ¬given.CarriesHash hash) →
      ∃ hash, stored.CarriesHash hash ∧
        ∀ guess, hasher.check (.text hash) guess = .ok (password == guess)
  bare : (∀ password, given.field passwordField = .text password → password = "") →
    stored.lookup? credentialField = given.lookup? credentialField

theorem Record.field_credential_remove (user : Record) :
    Record.field (user.remove passwordField) credentialField = user.field credentialField := by
  rw [Record.field, Table.lookup?_remove_of_ne (by decide), Record.field]

theorem sealUser_of_carriesHash (hasher : Hasher) {user : Record} {hash : String}
    (carries : user.CarriesHash hash) : sealUser hasher user = user.remove passwordField := by
  obtain ⟨stored, marked⟩ := carries
  simp only [sealUser, Record.field_credential_remove, stored, marked, if_true]

/-- A user without a hash gets one of the password if it is filled, in the place of what stood
there, and loses the password in any case. -/
theorem sealUser_of_no_hash (hasher : Hasher) {user : Record}
    (unknown : ∀ hash, ¬user.CarriesHash hash) :
    sealUser hasher user =
      match filledText? user passwordField with
      | some password => (user.remove passwordField).put credentialField (.text (hasher.hash password))
      | none => user.remove passwordField := by
  simp only [sealUser, Record.field_credential_remove]
  split
  · next hash stored =>
    exact if_neg fun marked => unknown hash ⟨stored, marked⟩
  · rfl

/-- Loading a user takes the password away. It puts a hash in its place only if there is none yet
and the password is filled. -/
theorem sealUser_cases (hasher : Hasher) (user : Record) :
    ((∃ hash, user.CarriesHash hash) ∧ sealUser hasher user = user.remove passwordField) ∨
    ((∀ hash, ¬user.CarriesHash hash) ∧
      ∃ password, filledText? user passwordField = some password ∧
        sealUser hasher user =
          (user.remove passwordField).put credentialField (.text (hasher.hash password))) ∨
    ((∀ hash, ¬user.CarriesHash hash) ∧ filledText? user passwordField = none ∧
      sealUser hasher user = user.remove passwordField) := by
  by_cases known : ∃ hash, user.CarriesHash hash
  · obtain ⟨hash, carries⟩ := known
    exact .inl ⟨⟨hash, carries⟩, sealUser_of_carriesHash hasher carries⟩
  · have unknown : ∀ hash, ¬user.CarriesHash hash := fun hash carries => known ⟨hash, carries⟩
    have result := sealUser_of_no_hash hasher unknown
    cases filled : filledText? user passwordField with
    | some password =>
      rw [filled] at result
      exact .inr (.inl ⟨unknown, password, rfl, result⟩)
    | none =>
      rw [filled] at result
      exact .inr (.inr ⟨unknown, rfl, result⟩)

theorem sealedUser_sealUser (hasher : Hasher) (user : Record) :
    SealedUser hasher user (sealUser hasher user) := by
  have absent : passwordField ∉ (user.remove passwordField).names :=
    Table.not_mem_names_remove user passwordField
  have sameHash {hash : String} (carries : user.CarriesHash hash) :
      Record.CarriesHash (user.remove passwordField) hash :=
    ⟨user.field_credential_remove.trans carries.1, carries.2⟩
  have same : (user.remove passwordField).lookup? credentialField = user.lookup? credentialField :=
    Table.lookup?_remove_of_ne (by decide) user
  rcases sealUser_cases hasher user with ⟨known, result⟩ | ⟨unknown, password, filled, result⟩ |
    ⟨unknown, unfilled, result⟩
  · rw [result]
    refine ⟨absent, rfl, fun _ => sameHash, fun _ _ _ none => ?_, fun _ => same⟩
    obtain ⟨hash, carries⟩ := known
    exact absurd carries (none hash)
  · rw [result]
    obtain ⟨given, nonempty⟩ := filledText?_eq_some_iff.mp filled
    refine ⟨?password, Table.remove_put_self .., ?kept, ?hashed, ?bare⟩
    case password =>
      rw [Table.mem_names_put, not_or]
      exact ⟨by decide, absent⟩
    case kept => exact fun hash carries => absurd carries (unknown hash)
    case hashed =>
      intro other again _ _
      cases given.symm.trans again
      refine ⟨hasher.hash password, ⟨?_, hasher.isHash_hash password⟩, hasher.check_hash password⟩
      rw [Record.field, Table.lookup?_put_self, Option.getD_some]
    case bare => exact fun empty => absurd (empty password given) nonempty
  · rw [result]
    refine ⟨absent, rfl, fun _ => sameHash, fun password given filled _ => ?_, fun _ => same⟩
    rw [filledText?_eq_some_iff.mpr ⟨given, filled⟩] at unfilled
    cases unfilled

/-- A user who has no password in the open is loaded as is, whatever hashes are made of passwords. -/
theorem sealUser_of_no_password {user : Record} (sealed : passwordField ∉ user.names)
    (hasher : Hasher) : sealUser hasher user = user := by
  have same := Table.remove_of_not_mem sealed
  have unfilled : filledText? user passwordField = none := by
    have absent := Table.lookup?_eq_none_iff.mpr sealed
    simp only [filledText?, Record.field, absent, Option.getD_none]
  rcases sealUser_cases hasher user with ⟨_, result⟩ | ⟨_, password, filled, _⟩ | ⟨_, _, result⟩
  · rw [result, same]
  · cases unfilled.symm.trans filled
  · rw [result, same]

/-- What becomes of the collections of a document of identities: users and sessions are added after
the others if they are missing, and of the rest only users are changed, each in its place. -/
structure SealedIdentities (hasher : Hasher) (given loaded : Table (Table Record)) : Prop where
  names : loaded.names =
    given.names ++ [usersCollection, sessionsCollection].filter fun name => name ∉ given.names
  others : ∀ name, name ≠ usersCollection → recordsUnder loaded name = recordsUnder given name
  ids : (recordsUnder loaded usersCollection).names = (recordsUnder given usersCollection).names
  users : ∀ id user, (recordsUnder given usersCollection).lookup? id = some user →
    ∃ stored, (recordsUnder loaded usersCollection).lookup? id = some stored ∧
      SealedUser hasher user stored

theorem withCollectionNamed_of_mem {name : String} {collections : Table (Table Record)}
    (present : name ∈ collections.names) : withCollectionNamed name collections = collections := by
  rw [withCollectionNamed, if_pos (Table.has_eq_true_iff.mpr present)]

theorem withCollectionNamed_of_not_mem {name : String} {collections : Table (Table Record)}
    (absent : name ∉ collections.names) :
    withCollectionNamed name collections = collections ++ [(name, [])] := by
  rw [withCollectionNamed, Table.has_eq_false_iff.mpr absent]
  rfl

theorem names_withCollectionNamed (name : String) (collections : Table (Table Record)) :
    (withCollectionNamed name collections).names =
      collections.names ++ [name].filter fun name => name ∉ collections.names := by
  by_cases present : name ∈ collections.names
  · rw [withCollectionNamed_of_mem present]
    simp [present]
  · rw [withCollectionNamed_of_not_mem present, Table.names_append]
    simp only [present, not_false_eq_true, decide_true, List.filter_cons, if_true, List.filter_nil]
    rfl

theorem recordsUnder_withCollectionNamed (name : String) (collections : Table (Table Record))
    (other : String) :
    recordsUnder (withCollectionNamed name collections) other = recordsUnder collections other := by
  by_cases present : name ∈ collections.names
  · rw [withCollectionNamed_of_mem present]
  · rw [withCollectionNamed_of_not_mem present, ← Table.put_of_not_mem present]
    by_cases same : other = name
    · rw [same, recordsUnder_put_self, recordsUnder, Table.lookup?_eq_none_iff.mpr present,
        Option.getD_none]
    · exact recordsUnder_put_of_ne same collections []

/-- The records of a collection as they are loaded. -/
def sealRecords (hasher : Hasher) (name : String) (records : Table Record) : Table Record :=
  if name = usersCollection then records.map fun user => (user.1, sealUser hasher user.2)
  else records

/-- The collections are completed first and sealed after that, one by one and each in its place. -/
theorem sealIdentities_eq_map (hasher : Hasher) (collections : Table (Table Record)) :
    sealIdentities hasher collections =
      (withCollectionNamed sessionsCollection
        (withCollectionNamed usersCollection collections)).map
          fun entry => (entry.1, sealRecords hasher entry.1 entry.2) := by
  rw [sealIdentities]
  refine congrArg (fun change => List.map change _) (funext fun entry => ?_)
  rw [sealRecords]
  split <;> rfl

/-- The records under a name are the given ones as they are loaded, also where the collection was
missing and is empty now. -/
theorem recordsUnder_sealIdentities (hasher : Hasher) (collections : Table (Table Record))
    (name : String) :
    recordsUnder (sealIdentities hasher collections) name =
      sealRecords hasher name (recordsUnder collections name) := by
  have empty : sealRecords hasher name [] = [] := by
    rw [sealRecords]
    split <;> rfl
  rw [sealIdentities_eq_map, recordsUnder, Table.lookup?_map, ← recordsUnder_withCollectionNamed
    usersCollection collections, ← recordsUnder_withCollectionNamed sessionsCollection, recordsUnder]
  cases Table.lookup? _ name with
  | none => exact empty.symm
  | some records => rfl

theorem names_sealIdentities (hasher : Hasher) (collections : Table (Table Record)) :
    (sealIdentities hasher collections).names = collections.names ++
      [usersCollection, sessionsCollection].filter fun name => name ∉ collections.names := by
  have apart : sessionsCollection ≠ usersCollection := by decide
  rw [sealIdentities_eq_map, Table.names, List.map_map]
  refine (names_withCollectionNamed sessionsCollection _).trans ?_
  rw [names_withCollectionNamed]
  by_cases users : usersCollection ∈ collections.names <;>
    by_cases sessions : sessionsCollection ∈ collections.names <;> simp [users, sessions, apart]

theorem sealedIdentities_sealIdentities (hasher : Hasher) (given : Table (Table Record)) :
    SealedIdentities hasher given (sealIdentities hasher given) := by
  have users : recordsUnder (sealIdentities hasher given) usersCollection =
      (recordsUnder given usersCollection).map fun user => (user.1, sealUser hasher user.2) := by
    rw [recordsUnder_sealIdentities, sealRecords, if_pos rfl]
  refine ⟨names_sealIdentities hasher given, fun name other => ?_, ?_, fun id user found => ?_⟩
  · rw [recordsUnder_sealIdentities, sealRecords, if_neg other]
  · rw [users, Table.names, Table.names, List.map_map]
    rfl
  · refine ⟨sealUser hasher user, ?_, sealedUser_sealUser hasher user⟩
    rw [users, Table.lookup?_map _ fun _ record => sealUser hasher record, found, Option.map_some]

/-- No password stands in the open in what is loaded, in no collection of users there is, whatever
the document says. -/
theorem no_password_of_sealIdentities {hasher : Hasher} {given : Table (Table Record)}
    {records : Table Record} (loaded : (usersCollection, records) ∈ sealIdentities hasher given)
    {user : String × Record} (member : user ∈ records) : passwordField ∉ user.2.names := by
  rw [sealIdentities_eq_map] at loaded
  obtain ⟨⟨name, before⟩, _, same⟩ := List.mem_map.mp loaded
  cases same
  have users : sealRecords hasher usersCollection before =
      before.map fun user => (user.1, sealUser hasher user.2) := if_pos rfl
  obtain ⟨entry, _, rfl⟩ := List.mem_map.mp (users ▸ member)
  exact (sealedUser_sealUser hasher entry.2).password

/-- What has been loaded is loaded as is, also by another hasher: nobody has a password left that
could be hashed again. -/
theorem sealIdentities_sealIdentities (other hasher : Hasher) (given : Table (Table Record)) :
    sealIdentities other (sealIdentities hasher given) = sealIdentities hasher given := by
  have names := names_sealIdentities hasher given
  have present {name : String} (needed : name ∈ [usersCollection, sessionsCollection]) :
      name ∈ (sealIdentities hasher given).names := by
    rw [names, List.mem_append, List.mem_filter]
    by_cases known : name ∈ given.names <;> simp [known, needed]
  rw [sealIdentities_eq_map, withCollectionNamed_of_mem (present List.mem_cons_self),
    withCollectionNamed_of_mem (present (List.mem_cons_of_mem _ List.mem_cons_self))]
  have unchanged : ∀ entry ∈ sealIdentities hasher given,
      (entry.1, sealRecords other entry.1 entry.2) = entry := by
    rintro ⟨name, records⟩ loaded
    rw [sealRecords]
    split
    · next users =>
      subst users
      refine congrArg _ ((List.map_congr_left fun user member => ?_).trans (List.map_id _))
      exact congrArg _ (sealUser_of_no_password (no_password_of_sealIdentities loaded member) other)
    · rfl
  exact (List.map_congr_left unchanged).trans (List.map_id _)

/-- A document is accepted when its text is an object of collections of records. -/
theorem Document.identities_of_read {document : Document} {bytes : Bytes} {chars : List Char}
    {members : Record} {given : Table (Table Record)} (content : document.content = .ok bytes)
    (decoded : decodeUtf8 bytes = .ok chars)
    (read : Value.read (String.ofList (unifyLineEnds chars)) = .ok (.object members))
    (records : collectionsOf document.name members = .ok given) (hasher : Hasher) :
    document.identities hasher = .ok (sealIdentities hasher given) := by
  have shown : document.members = .ok members := by
    simp only [Document.members, content, ok_mapError, ok_bind, decoded, membersOfText, read]
  rw [Document.identities, Document.collections, shown, ok_bind, records, Except.map]

end GuardedRecords
