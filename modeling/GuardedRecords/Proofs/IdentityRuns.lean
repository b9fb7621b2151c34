import GuardedRecords.Proofs.IdentityOperations

namespace GuardedRecords

/-- The first session of exactly this token, with its id. -/
def Identities.sessionWith (ids : Identities) (token : String) : Option (String × Record) :=
  ids.sessions.find? fun entry => (entry.2.field tokenField).equals (.text token)

/-- The session that is found is one of those stored, and it has exactly this token: here case
matters. -/
theorem Identities.mem_sessions_of_sessionWith {ids : Identities} {token : String}
    {entry : String × Record} (found : ids.sessionWith token = some entry) :
    entry ∈ ids.sessions ∧ entry.2.field tokenField = .text token := by
  rw [Identities.sessionWith] at found
  exact ⟨List.mem_of_find?_eq_some found, Value.equals_text_iff.mp (List.find?_some found :)⟩

/-- The search that takes no notice of case finds every session that has exactly the token, and the
test behind it picks the first of these. -/
theorem Identities.head?_matching_sessions (ids : Identities) (token : String) :
    ((ids.store.matching sessionsCollection [(tokenField, .text token)]).filter
      fun session => (session.field tokenField).equals (.text token)).head? =
      (ids.sessionWith token).map fun entry => entry.2.tagged entry.1 := by
  have narrower (entry : String × Record) :
      ((entry.2.tagged entry.1).field tokenField).equals (.text token) = true →
        [(tokenField, Value.text token)].all
          (fun w => fieldMatches (entry.2.field w.1) w.2) = true := by
    rw [Record.field_tagged_of_ne (by decide), Value.equals_text_iff]
    intro same
    simp [same, fieldMatches]
  rw [Store.matching_eq, List.filter_map, List.filter_filter, List.head?_map, List.head?_filter,
    Identities.sessionWith, Identities.sessions]
  refine congrArg _ (congrArg (fun keep => List.find? keep _) (funext fun entry => ?_))
  rw [Function.comp_apply, Bool.and_eq_left_iff_imp.mpr (narrower entry),
    Record.field_tagged_of_ne (by decide)]

/-- The caller who shows a token is the user of the first session that has it. Without a session, or
without its user, the token is refused. -/
theorem Identities.caller_some (ids : Identities) (token : String) (isAdmin : Bool) :
    ids.caller (some token) isAdmin =
      match ids.sessionWith token with
      | none => .error (.refused .invalidToken)
      | some (id, session) =>
        match ids.store.fetch usersCollection (session.field sessionUserField) with
        | none => .error (.refused .invalidToken)
        | some user => .ok ⟨some user.withoutCredential, some (session.tagged id), isAdmin⟩ := by
  simp only [Identities.caller, ids.head?_matching_sessions token]
  cases ids.sessionWith token with
  | none => rfl
  | some entry =>
    simp only [Option.map_some, Option.bind_eq_bind, Option.bind_some,
      Record.field_tagged_of_ne (by decide : sessionUserField ≠ idField)]
    cases ids.store.fetch usersCollection (entry.2.field sessionUserField) <;> rfl

/-- What the steps of sessions leave as it is: users stay as they are stored, and tokens come from
where they came from. -/
structure Identities.Continues (before after : Identities) : Prop where
  users : ∀ {id record}, before.users.lookup? id = some record →
    after.users.lookup? id = some record
  tokens : after.tokens.item = before.tokens.item
  taken : before.tokens.taken ≤ after.tokens.taken

theorem Identities.Continues.refl (ids : Identities) : ids.Continues ids := ⟨id, rfl, Nat.le_refl _⟩

theorem Identities.Continues.trans {first second third : Identities}
    (early : first.Continues second) (late : second.Continues third) : first.Continues third :=
  ⟨fun found => late.users (early.users found), late.tokens.trans early.tokens,
    Nat.le_trans early.taken late.taken⟩

/-- What may be asked of identities. To log out, the caller who shows the token is found first. -/
inductive IdentityStep
  | register (body : Value)
  | login (body : Value)
  | logout (token : Option String) (isAdmin : Bool)
  | caller (token : Option String) (isAdmin : Bool)

/-- What is answered: the user with the token of a new session, that a session is closed, or the
caller. -/
inductive IdentityAnswer
  | admitted (user : Record)
  | dismissed
  | caller (who : Caller)

def Identities.perform (ids : Identities) : IdentityStep → Except Failure IdentityAnswer × Identities
  | .register body =>
    let (outcome, after) := ids.register body
    (outcome.map .admitted, after)
  | .login body =>
    let (outcome, after) := ids.login body
    (outcome.map .admitted, after)
  | .logout token isAdmin =>
    match ids.caller token isAdmin with
    | .error failure => (.error failure, ids)
    | .ok caller =>
      let (outcome, after) := ids.logout caller
      (outcome.map fun _ => .dismissed, after)
  | .caller token isAdmin => ((ids.caller token isAdmin).map .caller, ids)

/-- That a token is answered for a user, or that the caller of a token is logged out. -/
inductive SessionEvent
  | opened (token user : Value)
  | closed (token : Value)

def SessionEvent.token : SessionEvent → Value
  | .opened token _ | .closed token => token

/-- What a step turns out to be by its answer. -/
def IdentityStep.event? : IdentityStep → Except Failure IdentityAnswer → Option SessionEvent
  | _, .ok (.admitted user) => some (.opened (user.field tokenField) (user.field idField))
  | .logout (some token) _, .ok .dismissed => some (.closed (.text token))
  | _, _ => none

/-- The sessions before and after a step, with what the step turns out to be. -/
inductive SessionChange (before after : Identities) : Option SessionEvent → Prop
  | none : after.sessions = before.sessions → SessionChange before after none
  | opened {id user : String} {session : Record} : id ∉ before.sessions.names →
      session.field tokenField = .text before.tokens.next.1 →
      session.field sessionUserField = .text user → user ∈ after.users.names →
      before.tokens.taken < after.tokens.taken →
      after.sessions = before.sessions ++ [(id, session)] →
      SessionChange before after (some (.opened (.text before.tokens.next.1) (.text user)))
  | closed {id : String} {session : Record} : (id, session) ∈ before.sessions →
      after.sessions = before.sessions.remove id →
      SessionChange before after (some (.closed (session.field tokenField)))

/-- A step that leaves the collections as they are is no event for the sessions, even when it has
used up a token. -/
theorem Identities.unchanged_of_collections {before after : Identities}
    (same : after.store.collections = before.store.collections)
    (tokens : after.tokens.item = before.tokens.item)
    (taken : before.tokens.taken ≤ after.tokens.taken) :
    before.Continues after ∧ SessionChange before after none := by
  have kept : after.users = before.users ∧ after.sessions = before.sessions := by
    simp only [Identities.users, Identities.sessions, same, and_self]
  exact ⟨⟨fun found => kept.1 ▸ found, tokens, taken⟩, .none kept.2⟩

/-- Opening a session enters one under an id that was free, with the next token and for the user
given. -/
theorem Identities.openSession_change {ids : Identities} {user : Record}
    (stored : ∃ id ∈ ids.users.names, user.field idField = .text id) (step : IdentityStep) :
    ids.Continues (ids.openSession user).2 ∧
      SessionChange ids (ids.openSession user).2
        (step.event? ((ids.openSession user).1.map .admitted)) := by
  obtain ⟨id, member, tagged⟩ := stored
  rcases ids.openSession_cases user with
    ⟨key, session, store, unused, token, owner, changed, run⟩ | ⟨rest, _, run⟩
  · have users : (ids.openSession user).2.users = ids.users := by
      rw [run, Identities.users, changed, recordsUnder_put_of_ne (by decide), Identities.users]
    have sessions : (ids.openSession user).2.sessions = ids.sessions ++ [(key, session)] := by
      rw [run, Identities.sessions, changed, recordsUnder_put_self]
    have answered : Record.field (user.withoutCredential.put tokenField (.text ids.tokens.next.1))
        tokenField = .text ids.tokens.next.1 := by
      rw [Record.field, Table.lookup?_put_self, Option.getD_some]
    have same : Record.field (user.withoutCredential.put tokenField (.text ids.tokens.next.1))
        idField = .text id := by
      rw [Record.field_id_withToken, tagged]
    have event : step.event? ((ids.openSession user).1.map .admitted) =
        some (.opened (.text ids.tokens.next.1) (.text id)) := by
      simp only [run, Except.map, IdentityStep.event?, answered, same]
    rw [event]
    exact ⟨⟨fun found => users ▸ found, rfl, Nat.le_succ _⟩,
      .opened unused token (owner.trans tagged) (users ▸ member) (Nat.lt_succ_self _) sessions⟩
  · rw [run]
    exact Identities.unchanged_of_collections rfl rfl (Nat.le_succ _)

/-- A change of the sessions is seen through a step before it that leaves sessions and tokens alone,
such as a lookup of the caller or the storing of a new user. -/
theorem SessionChange.of_same {first before after : Identities} {event : Option SessionEvent}
    (change : SessionChange before after event) (sessions : before.sessions = first.sessions)
    (tokens : before.tokens = first.tokens) : SessionChange first after event := by
  cases change with
  | none same => exact .none (same.trans sessions)
  | opened unused token owner stored taken grown =>
    rw [sessions] at unused grown
    rw [tokens] at token taken ⊢
    exact .opened unused token owner stored taken grown
  | closed member left =>
    rw [sessions] at member left
    exact .closed member left

/-- A registration that succeeds opens a session, and no other one changes the sessions. The new
user is stored before the session is opened. -/
theorem Identities.register_change (ids : Identities) (body : Value) :
    ids.Continues (ids.register body).2 ∧
      SessionChange ids (ids.register body).2
        ((IdentityStep.register body).event? ((ids.register body).1.map .admitted)) := by
  rcases ids.register_cases body with ⟨_, run⟩ | ⟨_, _, _, _, _, run⟩ | ⟨_, _, _, rest, _, _, run⟩ |
    ⟨id, user, store, _, _, added, run⟩
  · rw [run]
    exact ⟨.refl ids, .none rfl⟩
  · rw [run]
    exact ⟨.refl ids, .none rfl⟩
  · rw [run]
    exact Identities.unchanged_of_collections rfl rfl (Nat.le_refl _)
  · rw [run]
    let known : Identities := { ids with store := store }
    have users : known.users = ids.users ++ [(id, user)] := by
      rw [Identities.users, added, recordsUnder_put_self]
    have sessions : known.sessions = ids.sessions := by
      rw [Identities.sessions, added, recordsUnder_put_of_ne (by decide), Identities.sessions]
    have grown : ids.Continues known :=
      ⟨fun found => users ▸ Table.lookup?_append_of_some found _, rfl, Nat.le_refl _⟩
    have member : id ∈ known.users.names := by
      rw [users, Table.names_append]
      exact List.mem_append_right _ List.mem_cons_self
    obtain ⟨later, change⟩ := Identities.openSession_change
      ⟨id, member, Record.field_tagged_self user id⟩ (.register body)
    exact ⟨grown.trans later, change.of_same sessions rfl⟩

/-- A login is at most one new session of the user it answers with; a login that fails changes no
session. -/
theorem Identities.login_change (ids : Identities) (body : Value) :
    ids.Continues (ids.login body).2 ∧
      SessionChange ids (ids.login body).2
        ((IdentityStep.login body).event? ((ids.login body).1.map .admitted)) := by
  unfold Identities.login
  split
  · next user proved =>
    exact Identities.openSession_change (Identities.authenticate_stored proved) (.login body)
  · exact ⟨.refl ids, .none rfl⟩

theorem Identities.logout_of_session (ids : Identities) (user session : Record) (id : String)
    (isAdmin : Bool) :
    ids.logout ⟨some user, some (session.tagged id), isAdmin⟩ =
      ((ids.store.delete sessionsCollection id).1.map fun _ => (),
        { ids with store := (ids.store.delete sessionsCollection id).2 }) := by
  have tagged : (session.tagged id).lookup? idField = some (.text id) := Table.lookup?_put_self ..
  simp only [Identities.logout, Option.isNone_some, Identities.sessionOf, tagged]
  rfl

/-- The caller of a token is logged out by the removal of the session that has it. Here the token is
the one that has been shown, so that the event is about it. -/
theorem Identities.logout_change {ids : Identities} {token : String} {isAdmin : Bool}
    {caller : Caller} (run : ids.caller (some token) isAdmin = .ok caller) :
    ids.Continues (ids.logout caller).2 ∧
      SessionChange ids (ids.logout caller).2
        ((IdentityStep.logout (some token) isAdmin).event?
          ((ids.logout caller).1.map fun _ => .dismissed)) := by
  rw [Identities.caller_some] at run
  split at run
  · cases run
  · next id session found =>
    split at run
    · cases run
    · cases run
      obtain ⟨member, shown⟩ :
          (id, session) ∈ ids.sessions ∧ session.field tokenField = .text token :=
        Identities.mem_sessions_of_sessionWith found
      rw [Identities.logout_of_session]
      rcases ids.store.delete_cases sessionsCollection id with
        ⟨records, old, present, _, removed⟩ | ⟨failure, failed⟩
      · rw [removed]
        have closed : ids.store.collections.put sessionsCollection (records.remove id) =
            ids.store.collections.put sessionsCollection (ids.sessions.remove id) := by
          rw [Identities.sessions, recordsUnder_of_lookup? present]
        have event : (IdentityStep.logout (some token) isAdmin).event? (.ok .dismissed) =
            some (.closed (session.field tokenField)) := by
          rw [shown]
          rfl
        refine ⟨⟨fun stored => ?_, rfl, Nat.le_refl _⟩, event ▸ .closed member ?_⟩
        · rw [Identities.users, recordsUnder_put_of_ne (by decide)]
          exact stored
        · rw [Identities.sessions, closed, recordsUnder_put_self]
      · rw [failed]
        exact Identities.unchanged_of_collections rfl rfl (Nat.le_refl _)

/-- Each step is one event or none, and the event can be read off the answer. The history of the
sessions is built from this. -/
theorem Identities.perform_change (ids : Identities) (step : IdentityStep) :
    ids.Continues (ids.perform step).2 ∧
      SessionChange ids (ids.perform step).2 (step.event? (ids.perform step).1) := by
  cases step with
  | register body => exact ids.register_change body
  | login body => exact ids.login_change body
  | logout token isAdmin =>
    simp only [Identities.perform]
    cases run : ids.caller token isAdmin with
    | error failure => exact ⟨.refl ids, .none rfl⟩
    | ok caller =>
      cases token with
      | none =>
        cases run
        exact ⟨.refl ids, .none rfl⟩
      | some token => exact Identities.logout_change run
  | caller token isAdmin =>
    simp only [Identities.perform]
    cases ids.caller token isAdmin with
    | error failure => exact ⟨.refl ids, .none rfl⟩
    | ok caller => exact ⟨.refl ids, .none rfl⟩

/-- The sessions opened and closed in a sequence of steps, oldest first, and the identities after
it. A failing step does not end the sequence. -/
def Identities.run (ids : Identities) : List IdentityStep → List SessionEvent × Identities
  | [] => ([], ids)
  | step :: rest =>
    let (answer, after) := ids.perform step
    let (later, final) := after.run rest
    ((step.event? answer).toList ++ later, final)

end GuardedRecords
