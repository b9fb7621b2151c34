import GuardedRecords.Proofs.IdentityRequests

namespace GuardedRecords

theorem Identities.usersNamed_of_collections {before after : Identities}
    (same : after.store.collections = before.store.collections)
    (field : after.nameField = before.nameField) (name : String) :
    after.usersNamed name = before.usersNamed name := by
  have users : after.users = before.users := by
    rw [Identities.users, Identities.users, same]
  rw [Identities.usersNamed_eq, Identities.usersNamed_eq, Identities.entriesNamed, users, field,
    Identities.entriesNamed]

/-- Opening a session can fail, but never because of a name, so that a conflict always comes from
the check of the name. -/
theorem Identities.openSession_not_taken (ids : Identities) (user : Record) (field : String) :
    (ids.openSession user).1 ≠ .error (.refused (.identityTaken field)) := by
  rcases ids.openSession_cases user with ⟨_, _, _, _, _, _, _, opened⟩ | ⟨_, _, exhausted⟩
  · rw [opened]
    nofun
  · rw [exhausted]
    nofun

/-- A name is taken when a user of that name is stored, and for no other reason. The field that is
named in the refusal is the one that names are kept in. -/
theorem Identities.register_taken_iff {ids : Identities} {body : Value} {field : String} :
    (ids.register body).1 = .error (.refused (.identityTaken field)) ↔
      field = ids.nameField ∧ ∃ members name password,
        ids.registration? body = some (members, name, password) ∧ ids.usersNamed name ≠ [] := by
  have unknown {members : Record} {name password : String}
      (complete : ids.registration? body = some (members, name, password))
      (free : ids.usersNamed name = []) : ¬∃ members name password,
        ids.registration? body = some (members, name, password) ∧ ids.usersNamed name ≠ [] := by
    rintro ⟨_, _, _, again, known⟩
    cases complete.symm.trans again
    exact known free
  rcases ids.register_cases body with ⟨incomplete, run⟩ |
    ⟨members, name, password, complete, known, run⟩ |
    ⟨members, name, password, rest, complete, free, run⟩ | ⟨id, user, store, enrols, _, _, run⟩
  · rw [run]
    refine iff_of_false nofun ?_
    rintro ⟨_, _, _, _, complete, _⟩
    cases incomplete.symm.trans complete
  · rw [run]
    constructor
    · intro same
      cases same
      exact ⟨rfl, members, name, password, complete, known⟩
    · rintro ⟨rfl, _⟩
      rfl
  · rw [run]
    exact iff_of_false nofun fun taken => unknown complete free taken.2
  · rw [run]
    cases enrols with
    | user named secret free _ =>
      have complete := Identities.registration?_eq_some_iff.mpr ⟨rfl, named, secret⟩
      refine iff_of_false ?_ fun taken => unknown complete free taken.2
      exact Identities.openSession_not_taken _ _ _

/-- Whether a name is taken depends on what is stored, and on nothing else. -/
theorem Identities.register_taken_of_collections {before after : Identities} {body : Value}
    {name : String} (taken : (after.register body).1 = .error (.refused (.identityTaken name)))
    (same : after.store.collections = before.store.collections)
    (field : after.nameField = before.nameField) :
    (before.register body).1 = .error (.refused (.identityTaken name)) := by
  obtain ⟨rfl, members, text, password, complete, known⟩ := Identities.register_taken_iff.mp taken
  refine Identities.register_taken_iff.mpr ⟨field, members, text, password, ?_, ?_⟩
  · rw [Identities.registration?_eq_some_iff] at complete ⊢
    rwa [field] at complete
  · rwa [Identities.usersNamed_of_collections same field] at known

/-- A request that fails leaves what is stored as it was, down to the list of collections, so that
a name is not taken by a registration that fails. Only the failure that comes too late leaves
something behind: the new user, and nothing else. -/
theorem Identities.answer_leaves_no_trace {ids : Identities} {request : IdentityRequest}
    {failure : Failure} (failed : (ids.answer request).1 = .error failure) :
    (¬ids.FailsLate request failure →
      (ids.answer request).2.store.collections = ids.store.collections ∧
      (∀ name, (ids.answer request).2.usersNamed name = ids.usersNamed name) ∧
      ∀ body field, request = .register body →
        ((ids.answer request).2.register body).1 = .error (.refused (.identityTaken field)) →
          failure = .refused (.identityTaken field)) ∧
    ∀ body, request = .register body →
      failure = .idsExhausted sessionsCollection ids.store.attempts →
        ∃ id user, ids.Enrols body id user ∧
          (ids.answer request).2.store.collections =
            ids.store.collections.put usersCollection (ids.users ++ [(id, user)]) := by
  have effect := ids.answer_effect request
  rw [failed] at effect
  generalize after : (ids.answer request).2 = left at effect ⊢
  cases effect with
  | refused timely same =>
    refine ⟨fun _ => ⟨same, Identities.usersNamed_of_collections same rfl, ?_⟩, ?_⟩
    · rintro body field rfl taken
      have before : (ids.register body).1 = .error (.refused (.identityTaken field)) :=
        Identities.register_taken_of_collections taken same rfl
      have reply : ((ids.register body).1.map IdentityReply.admitted) = .error failure := failed
      rw [before] at reply
      exact (Except.error.inj reply).symm
    · intro body registers late
      exact absurd ⟨body, registers, late⟩ timely
  | stranded enrols grown =>
    refine ⟨fun timely => absurd ⟨_, rfl, rfl⟩ timely, ?_⟩
    rintro body registers _
    cases registers
    exact ⟨_, _, enrols, grown⟩

/-- The only id that is tried for the new user is in use, so nothing is stored. -/
theorem Identities.answer_leaves_no_trace_exhausted :
    let ids : Identities :=
      { store := .holding [("users", [("u1", [("email", .text "bob")])])] (fun _ => "u1") 0
        nameField := "email", tokens := ⟨fun _ => "t", 0⟩, hasher := .transparent 0 }
    let body : Value := .object [("email", .text "ann"), ("password", .text "p")]
    let after := (ids.answer (.register body)).2
    (ids.answer (.register body)).1 = .error (.idsExhausted "users" 1) ∧
      ¬ids.FailsLate (.register body) (.idsExhausted "users" 1) ∧
      after.store.collections = ids.store.collections ∧
      (∀ name, after.usersNamed name = ids.usersNamed name) ∧
      ∀ field, (after.register body).1 ≠ .error (.refused (.identityTaken field)) := by
  intro ids body after
  have failed : (ids.answer (.register body)).1 = .error (.idsExhausted "users" 1) := rfl
  have timely : ¬ids.FailsLate (.register body) (.idsExhausted "users" 1) :=
    Identities.not_failsLate_users
  obtain ⟨same, users, retry⟩ := (Identities.answer_leaves_no_trace failed).1 timely
  exact ⟨failed, timely, same, users, fun field taken => nomatch retry body field rfl taken⟩

/-- The only id that is tried serves the new user, but a session has it already. The user stays,
and the name is taken from then on. -/
theorem Identities.register_strands_user :
    let ids : Identities :=
      { store := .holding [("sessions", [("s1", [])])] (fun _ => "s1") 0
        nameField := "email", tokens := ⟨fun _ => "t", 0⟩, hasher := .transparent 0 }
    let body : Value := .object [("email", .text "ann"), ("password", .text "p")]
    let after := (ids.answer (.register body)).2
    (ids.answer (.register body)).1 = .error (.idsExhausted "sessions" 1) ∧
      after.store.collections ≠ ids.store.collections ∧
      ids.usersNamed "ann" = [] ∧ after.usersNamed "ann" ≠ [] ∧
      (after.answer (.register body)).1 = .error (.refused (.identityTaken "email")) := by
  intro ids body after
  have failed : (ids.answer (.register body)).1 = .error (.idsExhausted "sessions" 1) := rfl
  have unknown : ids.usersNamed "ann" = [] := rfl
  have known : after.usersNamed "ann" ≠ [] := List.cons_ne_nil _ _
  have changed : after.store.collections ≠ ids.store.collections := by
    intro same
    rw [Identities.usersNamed_of_collections same rfl] at known
    exact known unknown
  have taken : (after.answer (.register body)).1 = .error (.refused (.identityTaken "email")) := rfl
  exact ⟨failed, changed, unknown, known, taken⟩

end GuardedRecords
