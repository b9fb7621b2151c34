import GuardedRecords.Proofs.IdentityRequests

namespace GuardedRecords

/-- One of the ids that will be tried for a new record is not in use. -/
def Store.CanAdd (store : Store) (name : String) : Prop :=
  ∃ place < store.attempts,
    store.ids.item (store.ids.taken + place) ∉ (store.recordsIn name).names

/-- If the very next id is not in use, then a record can be added. This is how a witness shows
it. -/
theorem Store.canAdd_of_next_unused {store : Store} {name : String}
    (unused : store.ids.next.1 ∉ (store.recordsIn name).names) : store.CanAdd name :=
  ⟨0, store.attempts_pos, unused⟩

/-- Where a name is given, in whatever case it is spelled, the password lets in as the user, and
any other one is refused. The name stands in a field of what is given, next to the password. -/
structure Identities.AdmitsOnly (ids : Identities) (field name password user : String) : Prop where
  admitted : ∀ {members : Record} {spelled : String},
    members.field field = .text spelled → spelled ≠ "" → lower spelled = lower name →
    members.field passwordField = .text password → ids.store.CanAdd sessionsCollection →
      ∃ answer, (ids.login (.object members)).1 = .ok answer ∧ answer.field idField = .text user
  refused : ∀ {members : Record} {spelled guess : String},
    members.field field = .text spelled → spelled ≠ "" → lower spelled = lower name →
    members.field passwordField = .text guess → guess ≠ password →
      (ids.login (.object members)).1 = .error (.refused .loginMismatch)

/-- A stored name matches one that is given if both are texts with the same letters in lower
case. -/
theorem fieldMatches_text_iff {value : Value} {name : String} :
    fieldMatches value (.text name) = true ↔
      ∃ spelled, value = .text spelled ∧ lower spelled = lower name := by
  unfold fieldMatches
  split
  · next spelled wanted same =>
    cases same
    rw [beq_iff_eq]
    constructor
    · intro agree
      exact ⟨spelled, rfl, agree⟩
    · rintro ⟨other, same, agree⟩
      cases same
      exact agree
  · next apart =>
    rw [Value.equals_text_iff]
    refine iff_of_false (fun same => apart _ _ same rfl) ?_
    rintro ⟨spelled, same, _⟩
    exact apart _ _ same rfl

theorem Identities.entriesNamed_congr {name spelled : String} (same : lower spelled = lower name)
    (ids : Identities) : ids.entriesNamed spelled = ids.entriesNamed name := by
  rw [Identities.entriesNamed, Identities.entriesNamed]
  refine congrArg (fun keep => List.filter keep _) (funext fun entry => ?_)
  rw [Bool.eq_iff_iff, fieldMatches_text_iff, fieldMatches_text_iff, same]

theorem Identities.entriesNamed_concat {before after : Identities} {id : String} {user : Record}
    (grown : after.users = before.users ++ [(id, user)])
    (field : after.nameField = before.nameField) (name : String) :
    after.entriesNamed name = before.entriesNamed name ++
      if fieldMatches (user.field before.nameField) (.text name) then [(id, user)] else [] := by
  rw [Identities.entriesNamed, grown, field, List.filter_append, Identities.entriesNamed,
    List.filter_cons, List.filter_nil]

theorem Hasher.check_hash (hasher : Hasher) (password guess : String) :
    hasher.check (.text (hasher.hash password)) guess = .ok (password == guess) := by
  have filled : (Value.text (hasher.hash password)).truthy = true := by
    rw [Value.truthy, Bool.not_eq_true', String.isEmpty_eq_false_iff]
    intro empty
    have marked := hasher.isHash_hash password
    rw [empty] at marked
    exact absurd marked (by decide)
  simp only [Hasher.check, filled, Bool.not_true, if_false, hasher.isAsciiText_hash, if_true,
    hasher.verifies_hash, Bool.false_eq_true]

theorem Identities.openSession_of_canAdd {ids : Identities}
    (possible : ids.store.CanAdd sessionsCollection) (user : Record) :
    (ids.openSession user).1 =
      .ok (user.withoutCredential.put tokenField (.text ids.tokens.next.1)) := by
  rcases ids.openSession_cases user with ⟨_, _, _, _, _, _, _, opened⟩ | ⟨rest, exhausted, _⟩
  · rw [opened]
  · obtain ⟨place, early, unused⟩ := possible
    have used := freshId_exhausted exhausted place early
    exact absurd (Table.has_eq_true_iff.mp used) unused

/-- Exactly one user has the name, and what is stored for that user is a hash of the password. -/
structure Identities.Holds (ids : Identities) (field name password user : String) : Prop where
  nameField : ids.nameField = field
  only : ∃ record, ids.entriesNamed name = [(user, record)] ∧
    record.field credentialField = .text (ids.hasher.hash password)

/-- The answer to a body that carries the name: it depends on the password alone, as there is
exactly one user to compare it with. -/
theorem Identities.Holds.authenticate_eq {ids : Identities} {field name password user : String}
    (holds : ids.Holds field name password user) {members : Record} {spelled guess : String}
    (given : members.field field = .text spelled) (filled : spelled ≠ "")
    (same : lower spelled = lower name) (secret : members.field passwordField = .text guess) :
    ∃ record : Record, record.field idField = .text user ∧
      ids.authenticate (.object members) =
        if password = guess then .ok record else .error (.refused .loginMismatch) := by
  obtain ⟨rfl, record, only, credential⟩ := holds
  have named : filledText? members ids.nameField = some spelled :=
    filledText?_eq_some_iff.mpr ⟨given, filled⟩
  have alone : ids.usersNamed spelled = [record.tagged user] := by
    rw [Identities.usersNamed_eq, Identities.entriesNamed_congr same, only, List.map_cons,
      List.map_nil]
  have stored : (record.tagged user).field credentialField =
      .text (ids.hasher.hash password) := by
    rw [Record.field_tagged_of_ne (by decide), credential]
  refine ⟨record.tagged user, Record.field_tagged_self .., ?_⟩
  simp only [Identities.authenticate, named, secret, alone, stored, Hasher.check_hash, ok_bind,
    beq_iff_eq]

/-- The only user of a name lets in with the password whose hash is stored, and with no other one.
Hashes are taken to tell passwords apart. -/
theorem Identities.Holds.admitsOnly {ids : Identities} {field name password user : String}
    (holds : ids.Holds field name password user) : ids.AdmitsOnly field name password user where
  admitted {members spelled} given filled same secret possible := by
    obtain ⟨record, tagged, run⟩ := holds.authenticate_eq given filled same secret
    rw [if_pos rfl] at run
    refine ⟨record.withoutCredential.put tokenField (.text ids.tokens.next.1), ?_, ?_⟩
    · simp only [Identities.login, run]
      exact Identities.openSession_of_canAdd possible record
    · rw [Record.field_id_withToken, tagged]
  refused {members spelled guess} given filled same secret wrong := by
    obtain ⟨record, _, run⟩ := holds.authenticate_eq given filled same secret
    rw [if_neg (Ne.symm wrong)] at run
    simp only [Identities.login, run]

/-- Where the name does not stand in a field of the store or of the credentials, a new user is
stored with the name as it is given, and with a hash of the password. -/
theorem Identities.Enrols.stored {ids : Identities} {body : Value} {id : String} {user : Record}
    (enrols : ids.Enrols body id user)
    (ordinary : ids.nameField ∉ passwordField :: credentialField :: systemFields) :
    ∃ (members : Record) (name password : String), body = .object members ∧
      members.field ids.nameField = .text name ∧ members.field passwordField = .text password ∧
      ids.entriesNamed name = [] ∧ user.field ids.nameField = .text name ∧
      user.field credentialField = .text (ids.hasher.hash password) := by
  simp only [List.mem_cons, not_or] at ordinary
  obtain ⟨notPassword, notCredential, notSystem⟩ := ordinary
  cases enrols with
  | @user members name password id now named secret free _ =>
    have given := (filledText?_eq_some_iff.mp named).1
    refine ⟨members, name, password, rfl, given, (filledText?_eq_some_iff.mp secret).1,
      Identities.usersNamed_eq_nil_iff.mp free, ?_, ?_⟩
    · rw [Record.field, lookup?_newRecord_of_not_mem notSystem, Identities.newUser,
        Table.lookup?_put_of_ne notCredential, Table.lookup?_remove_of_ne notPassword, ← given,
        Record.field]
    · rw [Record.field, lookup?_newRecord_of_not_mem (by decide), Identities.newUser,
        Table.lookup?_put_self, Option.getD_some]

/-- What a request may do to the users: a new one comes to them, or they stay as they are. -/
theorem IdentityEffect.users_cases {ids after : Identities} {request : IdentityRequest}
    {reply : Except Failure IdentityReply} (effect : IdentityEffect ids request reply after) :
    after.nameField = ids.nameField ∧ after.hasher = ids.hasher ∧
      (after.users = ids.users ∨
        ∃ body id user, ids.Enrols body id user ∧ after.users = ids.users ++ [(id, user)]) := by
  cases effect with
  | refused _ same =>
    refine ⟨rfl, rfl, .inl ?_⟩
    rw [Identities.users, same, Identities.users]
  | stranded enrols grown =>
    refine ⟨rfl, rfl, .inr ⟨_, _, _, enrols, ?_⟩⟩
    rw [Identities.users, grown, recordsUnder_put_self]
  | registered enrols _ _ grown =>
    refine ⟨rfl, rfl, .inr ⟨_, _, _, enrols, ?_⟩⟩
    rw [Identities.users, grown, recordsUnder_put_of_ne (by decide), recordsUnder_put_self]
  | admitted _ _ _ grown =>
    refine ⟨rfl, rfl, .inl ?_⟩
    rw [Identities.users, grown, recordsUnder_put_of_ne (by decide), Identities.users]
  | dismissed left =>
    refine ⟨rfl, rfl, .inl ?_⟩
    rw [Identities.users, left, recordsUnder_put_of_ne (by decide), Identities.users]
  | answered _ => exact ⟨rfl, rfl, .inl rfl⟩

/-- One more request leaves the only user of a name as it is: users are never changed, and nobody
registers under a name that is taken. -/
theorem Identities.Holds.later {ids after : Identities} {request : IdentityRequest}
    {reply : Except Failure IdentityReply} {field name password user : String}
    (holds : ids.Holds field name password user)
    (ordinary : field ∉ passwordField :: credentialField :: systemFields)
    (effect : IdentityEffect ids request reply after) : after.Holds field name password user := by
  obtain ⟨rfl, record, only, credential⟩ := holds
  obtain ⟨sameField, sameHasher, users⟩ := effect.users_cases
  refine ⟨sameField, record, ?_, sameHasher ▸ credential⟩
  rcases users with same | ⟨body, id, fresh, enrols, grown⟩
  · rw [Identities.entriesNamed, same, sameField]
    exact only
  · obtain ⟨members, other, secret, rfl, _, _, free, stored, _⟩ := enrols.stored ordinary
    -- The one user of the name would have kept a second one from being registered.
    have apart : lower other ≠ lower name := by
      intro same
      rw [Identities.entriesNamed_congr same, only] at free
      cases free
    have unnamed : ¬fieldMatches (fresh.field ids.nameField) (.text name) = true := by
      rw [stored, fieldMatches_text_iff]
      rintro ⟨spelled, same, agree⟩
      cases same
      exact apart agree
    rw [Identities.entriesNamed_concat grown sameField, if_neg unnamed, List.append_nil, only]

/-- A registration that succeeds leaves exactly one user of the name, who is the one it answers. Had
there been one before, it would have been refused. -/
theorem Identities.holds_of_register {ids : Identities} {members answer : Record}
    {name password : String}
    (ordinary : ids.nameField ∉ passwordField :: credentialField :: systemFields)
    (named : members.field ids.nameField = .text name)
    (secret : members.field passwordField = .text password)
    (run : (ids.register (.object members)).1 = .ok answer) :
    ∃ user, answer.field idField = .text user ∧
      (ids.register (.object members)).2.Holds ids.nameField name password user := by
  have effect := ids.register_effect (.object members)
  rw [run] at effect
  generalize (ids.register (.object members)).2 = after at effect ⊢
  cases effect with
  | @registered _ id key user session store tokens enrols unused owner grown =>
    obtain ⟨_, _, _, same, given, proof, free, stored, credential⟩ := enrols.stored ordinary
    cases same
    cases given.symm.trans named
    cases proof.symm.trans secret
    have users : Identities.users { ids with store := store, tokens := tokens } =
        ids.users ++ [(id, user)] := by
      rw [Identities.users, grown, recordsUnder_put_of_ne (by decide), recordsUnder_put_self]
    have found : fieldMatches (user.field ids.nameField) (.text name) = true :=
      fieldMatches_text_iff.mpr ⟨name, stored, rfl⟩
    refine ⟨id, ?_, rfl, user, ?_, credential⟩
    · rw [Record.field_id_withToken, Record.field_tagged_self]
    · rw [Identities.entriesNamed_concat users rfl, if_pos found, free, List.nil_append]
  | answered other => exact absurd rfl (other answer)

/-- From a registration on, whatever is asked later and whichever of it fails, the new user is the
one whom the name and the password let in, as long as an id can be found for the session. The name
with any other password is refused. It does not matter who is stored besides. -/
theorem Identities.register_then_admits_only {ids : Identities} {members answer : Record}
    {name password : String}
    (ordinary : ids.nameField ∉ passwordField :: credentialField :: systemFields)
    (named : members.field ids.nameField = .text name)
    (secret : members.field passwordField = .text password)
    (run : (ids.register (.object members)).1 = .ok answer) :
    ∃ user, answer.field idField = .text user ∧ ∀ later : List IdentityRequest,
      ((ids.register (.object members)).2.serve later).2.AdmitsOnly ids.nameField name password
        user := by
  obtain ⟨user, identified, holds⟩ := Identities.holds_of_register ordinary named secret run
  refine ⟨user, identified, fun later => ?_⟩
  have kept := Identities.serve_keeps
    (fun before request held => Identities.Holds.later held ordinary (before.answer_effect request))
    holds later
  exact kept.admitsOnly

/-- Two users have one name already and a third has none. Ann comes, someone fails to take her
name, and Bob comes. -/
theorem Identities.register_then_admits_only_ann :
    let ids : Identities :=
      { store := .holding [("users", [("u1", [("email", .text "eve")]),
          ("u2", [("email", .text "EVE")]), ("u3", [])])]
          (fun place => String.ofList (List.replicate (place + 1) 'i')) 0
        nameField := "email", tokens := ⟨fun _ => "t", 0⟩, hasher := .transparent 0 }
    let ann : Record := [("email", .text "Ann"), ("password", .text "p")]
    let later : List IdentityRequest :=
      [.register (.object [("email", .text "ANN"), ("password", .text "q")]),
        .register (.object [("email", .text "bob"), ("password", .text "q")]), .logout {}]
    let after := ((ids.register (.object ann)).2.serve later).2
    ids.nameField ∉ passwordField :: credentialField :: systemFields ∧
      (∃ answer, (ids.register (.object ann)).1 = .ok answer) ∧
      after.store.CanAdd sessionsCollection ∧
      (∃ answer, (after.login (.object [("email", .text "aNN"), ("password", .text "p")])).1 =
        .ok answer ∧ answer.field idField = .text "i") ∧
      (after.login (.object [("email", .text "aNN"), ("password", .text "q")])).1 =
        .error (.refused .loginMismatch) := by
  intro ids ann later after
  have ordinary : ids.nameField ∉ passwordField :: credentialField :: systemFields := by decide
  have possible : after.store.CanAdd sessionsCollection := by
    have unused : after.store.ids.next.1 ∉ (after.store.recordsIn sessionsCollection).names := by
      decide +kernel
    exact Store.canAdd_of_next_unused unused
  let answer : Record := [("email", .text "Ann"), ("_createdOn", .int 0), ("_id", .text "i"),
    ("accessToken", .text "t")]
  have run : (ids.register (.object ann)).1 = .ok answer := rfl
  have named : ann.field ids.nameField = .text "Ann" := rfl
  have secret : ann.field passwordField = .text "p" := rfl
  obtain ⟨user, identified, admits⟩ :=
    Identities.register_then_admits_only ordinary named secret run
  have spelling : lower "aNN" = lower "Ann" := rfl
  cases identified
  exact ⟨ordinary, ⟨answer, run⟩, possible,
    (admits later).admitted rfl (by decide) spelling rfl possible,
    (admits later).refused rfl (by decide) spelling rfl (by decide)⟩

end GuardedRecords
