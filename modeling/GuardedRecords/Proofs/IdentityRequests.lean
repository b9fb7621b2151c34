import GuardedRecords.Proofs.IdentityOperations

namespace GuardedRecords

/-- What identities can be asked for. The caller of a request is whoever it comes with, known to
the identities or not. -/
inductive IdentityRequest
  | register (body : Value)
  | login (body : Value)
  | logout (caller : Caller)
  | me (caller : Caller)
  | caller (token : Option String) (isAdmin : Bool)

/-- What is replied: the user with the token of a new session, that the caller has no session any
more, the caller's own record, or the caller of a token. -/
inductive IdentityReply
  | admitted (user : Record)
  | dismissed
  | shown (user : Record)
  | caller (who : Caller)

def Identities.answer (ids : Identities) :
    IdentityRequest → Except Failure IdentityReply × Identities
  | .register body =>
    let (outcome, after) := ids.register body
    (outcome.map .admitted, after)
  | .login body =>
    let (outcome, after) := ids.login body
    (outcome.map .admitted, after)
  | .logout caller =>
    let (outcome, after) := ids.logout caller
    (outcome.map fun _ => .dismissed, after)
  | .me caller => ((Identities.me caller).map .shown, ids)
  | .caller token isAdmin => ((ids.caller token isAdmin).map .caller, ids)

/-- The replies to a sequence of requests and the identities after it. A request that fails does
not end the sequence. -/
def Identities.serve (ids : Identities) :
    List IdentityRequest → List (Except Failure IdentityReply) × Identities
  | [] => ([], ids)
  | request :: rest =>
    let (reply, after) := ids.answer request
    let (replies, final) := after.serve rest
    (reply :: replies, final)

/-- What every request keeps is kept by every sequence of requests, by induction on the requests.
The invariant may speak of all that is stored. -/
theorem Identities.serve_keeps {invariant : Identities → Prop}
    (kept : ∀ ids request, invariant ids → invariant (ids.answer request).2) {ids : Identities}
    (start : invariant ids) (requests : List IdentityRequest) :
    invariant (ids.serve requests).2 := by
  induction requests generalizing ids with
  | nil => exact start
  | cons request rest ih => exact ih (kept ids request start)

/-- The failure that comes too late: the new user is stored already when no id is found for the
session. -/
def Identities.FailsLate (ids : Identities) (request : IdentityRequest) (failure : Failure) :
    Prop :=
  ∃ body, request = .register body ∧
    failure = .idsExhausted sessionsCollection ids.store.attempts

/-- Only a registration can fail when something is stored already, since it is the only request that
stores two records. -/
theorem Identities.not_failsLate_of_ne {ids : Identities} {request : IdentityRequest}
    {failure : Failure} (other : ∀ body, request ≠ .register body) :
    ¬ids.FailsLate request failure := by
  rintro ⟨body, same, _⟩
  exact other body same

/-- Without an id for the new user there is no user to leave behind. -/
theorem Identities.not_failsLate_users {ids : Identities} {request : IdentityRequest}
    {attempts : Nat} : ¬ids.FailsLate request (.idsExhausted usersCollection attempts) := by
  rintro ⟨_, _, late⟩
  have different : usersCollection ≠ sessionsCollection := by decide
  exact different (Failure.idsExhausted.inj late).1

/-- All that a request can do, by the reply. A failing one changes nothing that is stored, except
that a registration that fails late leaves the new user behind. -/
inductive IdentityEffect (ids : Identities) :
    IdentityRequest → Except Failure IdentityReply → Identities → Prop
  | refused {request : IdentityRequest} {failure : Failure} {store : Store}
      {tokens : Supply String} :
      ¬ids.FailsLate request failure → store.collections = ids.store.collections →
      IdentityEffect ids request (.error failure) { ids with store := store, tokens := tokens }
  | stranded {body : Value} {id : String} {user : Record} {store : Store}
      {tokens : Supply String} :
      ids.Enrols body id user →
      store.collections = ids.store.collections.put usersCollection (ids.users ++ [(id, user)]) →
      IdentityEffect ids (.register body)
        (.error (.idsExhausted sessionsCollection ids.store.attempts))
        { ids with store := store, tokens := tokens }
  | registered {body : Value} {id key : String} {user session : Record} {store : Store}
      {tokens : Supply String} :
      ids.Enrols body id user → key ∉ ids.sessions.names →
      session.field sessionUserField = .text id →
      store.collections =
        (ids.store.collections.put usersCollection (ids.users ++ [(id, user)])).put
          sessionsCollection (ids.sessions ++ [(key, session)]) →
      IdentityEffect ids (.register body)
        (.ok (.admitted ((user.tagged id).withoutCredential.put tokenField
          (session.field tokenField))))
        { ids with store := store, tokens := tokens }
  | admitted {body : Value} {key : String} {user session : Record} {store : Store}
      {tokens : Supply String} :
      ids.authenticate body = .ok user → key ∉ ids.sessions.names →
      session.field sessionUserField = user.field idField →
      store.collections =
        ids.store.collections.put sessionsCollection (ids.sessions ++ [(key, session)]) →
      IdentityEffect ids (.login body)
        (.ok (.admitted (user.withoutCredential.put tokenField (session.field tokenField))))
        { ids with store := store, tokens := tokens }
  | dismissed {caller : Caller} {key : String} {store : Store} :
      store.collections =
        ids.store.collections.put sessionsCollection (ids.sessions.remove key) →
      IdentityEffect ids (.logout caller) (.ok .dismissed) { ids with store := store }
  | answered {request : IdentityRequest} {reply : IdentityReply} :
      (∀ user, reply ≠ .admitted user) → IdentityEffect ids request (.ok reply) ids

/-- What a registration does, by its reply. The user is stored before the session, and here the case
that fails late comes in. -/
theorem Identities.register_effect (ids : Identities) (body : Value) :
    IdentityEffect ids (.register body) ((ids.register body).1.map .admitted)
      (ids.register body).2 := by
  rcases ids.register_cases body with ⟨_, run⟩ | ⟨_, _, _, _, _, run⟩ | ⟨_, _, _, rest, _, _, run⟩ |
    ⟨id, user, store, enrols, attempts, grown, run⟩
  · rw [run]
    exact .refused (fun ⟨_, _, late⟩ => nomatch late) rfl
  · rw [run]
    exact .refused (fun ⟨_, _, late⟩ => nomatch late) rfl
  · rw [run]
    exact .refused Identities.not_failsLate_users rfl
  · rw [run]
    let known : Identities := { ids with store := store }
    have sessions : known.sessions = ids.sessions := by
      rw [Identities.sessions, grown, recordsUnder_put_of_ne (by decide), Identities.sessions]
    rcases known.openSession_cases (user.tagged id) with
      ⟨key, session, after, unused, token, owner, changed, opened⟩ | ⟨rest, _, opened⟩
    · rw [sessions] at unused changed
      rw [Record.field_tagged_self] at owner
      rw [opened, ← token]
      exact .registered enrols unused owner (grown ▸ changed)
    · rw [opened]
      have stranded : IdentityEffect ids (.register body)
          (.error (.idsExhausted sessionsCollection ids.store.attempts))
          { ids with store := { store with ids := rest }, tokens := ids.tokens.next.2 } :=
        .stranded enrols grown
      rwa [← attempts] at stranded

/-- What a login does, by its reply: either a session is stored for a user who was there, or nothing
is stored at all. -/
theorem Identities.login_effect (ids : Identities) (body : Value) :
    IdentityEffect ids (.login body) ((ids.login body).1.map .admitted) (ids.login body).2 := by
  unfold Identities.login
  split
  · next user proved =>
    rcases ids.openSession_cases user with
      ⟨key, session, store, unused, token, owner, changed, run⟩ | ⟨rest, _, run⟩
    · rw [run, ← token]
      exact .admitted proved unused owner changed
    · rw [run]
      exact .refused (Identities.not_failsLate_of_ne nofun) rfl
  · exact .refused (Identities.not_failsLate_of_ne nofun) rfl

/-- What a logout does, by its reply. The session of the token is removed if there is one, and
otherwise the request fails and nothing changes. -/
theorem Identities.logout_effect (ids : Identities) (caller : Caller) :
    IdentityEffect ids (.logout caller) ((ids.logout caller).1.map fun _ => .dismissed)
      (ids.logout caller).2 := by
  unfold Identities.logout
  split
  · exact .refused (Identities.not_failsLate_of_ne nofun) rfl
  · split
    · exact .refused (Identities.not_failsLate_of_ne nofun) rfl
    · exact .answered nofun
    · next id _ =>
      rcases ids.store.deleteAt_cases sessionsCollection id with
        ⟨key, marker, after, run, removed⟩ | ⟨failure, run⟩
      · rw [run]
        exact .dismissed removed
      · rw [run]
        exact .refused (Identities.not_failsLate_of_ne nofun) rfl

/-- Every request has the effect that belongs to its reply. The cases follow the kinds of requests,
and those that only read are immediate. -/
theorem Identities.answer_effect (ids : Identities) (request : IdentityRequest) :
    IdentityEffect ids request (ids.answer request).1 (ids.answer request).2 := by
  cases request with
  | register body => exact ids.register_effect body
  | login body => exact ids.login_effect body
  | logout caller => exact ids.logout_effect caller
  | me caller =>
    simp only [Identities.answer]
    cases Identities.me caller with
    | error failure => exact .refused (Identities.not_failsLate_of_ne nofun) rfl
    | ok user => exact .answered nofun
  | caller token isAdmin =>
    simp only [Identities.answer]
    cases ids.caller token isAdmin with
    | error failure => exact .refused (Identities.not_failsLate_of_ne nofun) rfl
    | ok caller => exact .answered nofun

end GuardedRecords
