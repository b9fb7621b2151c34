import GuardedRecords.Proofs.RegisteredUsers
import GuardedRecords.Proofs.StoreQueries

namespace GuardedRecords

/-- What is stored as a credential verifies a password. -/
inductive Hasher.Verifies (hasher : Hasher) : Value → String → Prop
  | hash {stored password : String} (filled : stored ≠ "") (ascii : isAsciiText stored = true)
      (verified : hasher.verifies stored password = true) : Verifies hasher (.text stored) password

/-- What is stored as a credential cannot even be checked, with the failure that comes of it. -/
inductive Uncheckable : Value → Failure → Prop
  | notAscii {stored : String} (wide : isAsciiText stored = false) :
      Uncheckable (.text stored) (.credentialNotAscii stored)
  | notText {stored : Value} (counts : stored.truthy = true) (other : stored.isText = false) :
      Uncheckable stored (.credentialNotText stored)

/-- What a stored text comes to: an empty one never verifies, a hash in ASCII is verified, and
anything else cannot be checked. -/
theorem Hasher.check_text (hasher : Hasher) (stored password : String) :
    hasher.check (.text stored) password =
      if stored = "" then .ok false
      else if isAsciiText stored then .ok (hasher.verifies stored password)
      else .error (.credentialNotAscii stored) := by
  rw [Hasher.check]
  by_cases empty : stored = ""
  · subst empty
    rfl
  · have counts : (Value.text stored).truthy = true := by simpa [Value.truthy] using empty
    rw [if_neg empty, counts, Bool.not_true, if_neg Bool.false_ne_true]

/-- What is stored besides texts never verifies: null, zero and other empty values are passed over,
and the rest fails. -/
theorem Hasher.check_of_not_text (hasher : Hasher) {stored : Value} (other : stored.isText = false)
    (password : String) :
    hasher.check stored password =
      if stored.truthy then .error (.credentialNotText stored) else .ok false := by
  unfold Hasher.check
  cases counts : stored.truthy with
  | false => rfl
  | true =>
    cases stored with
    | text s => cases other
    | _ => rfl

/-- A credential verifies the password, cannot be checked, or does neither. The three cases exclude
each other, so a login has one outcome. -/
theorem Hasher.check_cases (hasher : Hasher) (stored : Value) (password : String) :
    (hasher.Verifies stored password ∧ hasher.check stored password = .ok true) ∨
      (∃ failure, Uncheckable stored failure ∧ hasher.check stored password = .error failure) ∨
      hasher.check stored password = .ok false := by
  cases kind : stored.isText with
  | false =>
    rw [hasher.check_of_not_text kind]
    cases counts : stored.truthy with
    | false => exact .inr (.inr rfl)
    | true => exact .inr (.inl ⟨_, .notText counts kind, rfl⟩)
  | true =>
    cases stored with
    | text s =>
      rw [hasher.check_text]
      by_cases empty : s = ""
      · exact .inr (.inr (if_pos empty))
      · rw [if_neg empty]
        cases ascii : isAsciiText s with
        | false => exact .inr (.inl ⟨_, .notAscii ascii, rfl⟩)
        | true =>
          cases verified : hasher.verifies s password with
          | false => exact .inr (.inr rfl)
          | true => exact .inl ⟨.hash empty ascii verified, rfl⟩
    | _ => cases kind

theorem Hasher.Verifies.check_eq {hasher : Hasher} {stored : Value} {password : String}
    (verifies : hasher.Verifies stored password) : hasher.check stored password = .ok true := by
  cases verifies with
  | hash filled ascii verified => rw [hasher.check_text, if_neg filled, if_pos ascii, verified]

theorem Uncheckable.check_eq {stored : Value} {failure : Failure}
    (uncheckable : Uncheckable stored failure) (hasher : Hasher) (password : String) :
    hasher.check stored password = .error failure := by
  cases uncheckable with
  | @notAscii s wide =>
    have filled : s ≠ "" := by
      rintro rfl
      cases wide
    rw [hasher.check_text, if_neg filled, wide, if_neg Bool.false_ne_true]
  | notText counts other => rw [hasher.check_of_not_text other, if_pos counts]

/-- A body names exactly one user, in whatever case, and comes with a password. -/
inductive Identities.Claims (ids : Identities) : Value → String → String → Record → Prop
  | only {members : Record} {name password id : String} {user : Record}
      (named : members.field ids.nameField = .text name) (filled : name ≠ "")
      (secret : members.field passwordField = .text password)
      (single : (ids.users.filter fun entry =>
        (entry.2.field ids.nameField).Answers (.text name)) = [(id, user)]) :
      Claims ids (.object members) password id user

/-- The users of a name are those whose stored name answers it, whatever the case of its letters. -/
theorem Identities.entriesNamed_eq_filter (ids : Identities) (name : String) :
    ids.entriesNamed name =
      ids.users.filter fun entry => (entry.2.field ids.nameField).Answers (.text name) := by
  rw [Identities.entriesNamed]
  refine List.filter_congr fun entry _ => ?_
  rw [Bool.eq_iff_iff, fieldMatches_iff]
  exact decide_eq_true_iff.symm

section

variable {ids : Identities} {body : Value} {password id : String} {user : Record}

/-- For a body that names one user and brings a password, the stored credential alone decides. -/
theorem Identities.Claims.authenticate_eq (claims : ids.Claims body password id user) :
    ids.authenticate body =
      (ids.hasher.check (user.field credentialField) password >>= fun verified =>
        if verified then .ok (user.tagged id) else .error (.refused .loginMismatch)) := by
  cases claims with
  | @only members name _ _ _ named filled secret single =>
    have given := filledText?_eq_some_iff.mpr ⟨named, filled⟩
    have alone : ids.usersNamed name = [user.tagged id] := by
      rw [ids.usersNamed_eq, ids.entriesNamed_eq_filter, single, List.map_cons, List.map_nil]
    have credential : (user.tagged id).field credentialField = user.field credentialField :=
      Record.field_tagged_of_ne (by decide) user id
    simp only [Identities.authenticate, given, secret, alone, credential]

/-- Where a body does not name exactly one user, or brings no password, nobody is let in. The
refusal does not tell which of these it was. -/
theorem Identities.authenticate_of_no_claims
    (none : ¬∃ password id user, ids.Claims body password id user) :
    ids.authenticate body = .error (.refused .loginMismatch) := by
  unfold Identities.authenticate
  split
  · next members =>
    split
    · next name password given secret =>
      split
      · next user alone =>
        rw [ids.usersNamed_eq, List.map_eq_singleton_iff] at alone
        obtain ⟨entry, single, -⟩ := alone
        obtain ⟨named, filled⟩ := filledText?_eq_some_iff.mp given
        rw [ids.entriesNamed_eq_filter] at single
        exact absurd ⟨password, entry.1, entry.2, .only named filled secret single⟩ none
      · rfl
    · rfl
  · rfl

end

theorem Identities.login_of_ok {ids : Identities} {body : Value} {user : Record}
    (proved : ids.authenticate body = .ok user) : ids.login body = ids.openSession user := by
  rw [Identities.login, proved]

theorem Identities.login_of_error {ids : Identities} {body : Value} {failure : Failure}
    (refused : ids.authenticate body = .error failure) :
    ids.login body = (.error failure, ids) := by
  rw [Identities.login, refused]

/-- One more session is stored, for the user of an id, and nothing else changes. The answer is the
user with the token of the session and without the credential. -/
inductive Identities.Opens (ids : Identities) (id : String) (user : Record) :
    Record → Identities → Prop
  | session {key : String} {session answer : Record} {after : Identities}
      (unused : key ∉ ids.sessions.names)
      (owner : session.field sessionUserField = .text id)
      (token : session.field tokenField = .text ids.tokens.next.1)
      (grown : after.store.collections =
        ids.store.collections.put sessionsCollection (ids.sessions ++ [(key, session)]))
      (shown : answer = (user.tagged id).withoutCredential.put tokenField (session.field tokenField)) :
      Opens ids id user answer after

section

variable {ids : Identities} {body : Value} {password id : String} {user : Record}

/-- A session is opened for a user whenever the store can add one, and the answer is that user with
the new token. -/
theorem Identities.exists_opens (possible : ids.store.CanAdd sessionsCollection) (id : String)
    (user : Record) : ∃ answer after, ids.Opens id user answer after ∧
      ids.openSession (user.tagged id) = (.ok answer, after) := by
  have admitted := Identities.openSession_of_canAdd possible (user.tagged id)
  rcases ids.openSession_cases (user.tagged id) with
    ⟨key, session, store, unused, token, owner, grown, opened⟩ | ⟨rest, _, exhausted⟩
  · rw [Record.field_tagged_self] at owner
    exact ⟨_, _, .session unused owner token grown (token ▸ rfl), opened⟩
  · rw [exhausted] at admitted
    cases admitted

/-- Who has the password is let in, as long as there is an id for one more session. -/
theorem Identities.Claims.login_of_verifies (claims : ids.Claims body password id user)
    (verifies : ids.hasher.Verifies (user.field credentialField) password)
    (possible : ids.store.CanAdd sessionsCollection) :
    ∃ answer after, ids.Opens id user answer after ∧ ids.login body = (.ok answer, after) := by
  have proved : ids.authenticate body = .ok (user.tagged id) := by
    rw [claims.authenticate_eq, verifies.check_eq]
    rfl
  rw [Identities.login_of_ok proved]
  exact Identities.exists_opens possible id user

/-- A credential that cannot be checked ends a login in a failure of its own, which is not the one
refusal that all others meet. -/
theorem Identities.Claims.login_of_uncheckable (claims : ids.Claims body password id user)
    {failure : Failure} (uncheckable : Uncheckable (user.field credentialField) failure) :
    ids.login body = (.error failure, ids) := by
  refine Identities.login_of_error ?_
  rw [claims.authenticate_eq, uncheckable.check_eq, error_bind]

/-- A login lets in the one user who has the password, meets a credential that cannot be checked,
or is refused in the one way. -/
theorem Identities.login_cases (possible : ids.store.CanAdd sessionsCollection) (body : Value) :
    (∃ password id user answer after, ids.Claims body password id user ∧
      ids.hasher.Verifies (user.field credentialField) password ∧
      ids.Opens id user answer after ∧ ids.login body = (.ok answer, after)) ∨
    (∃ password id user failure, ids.Claims body password id user ∧
      Uncheckable (user.field credentialField) failure ∧
      ids.login body = (.error failure, ids)) ∨
    ids.login body = (.error (.refused .loginMismatch), ids) := by
  by_cases some : ∃ password id user, ids.Claims body password id user
  · obtain ⟨password, id, user, claims⟩ := some
    rcases ids.hasher.check_cases (user.field credentialField) password with
      ⟨verifies, -⟩ | ⟨failure, uncheckable, -⟩ | wrong
    · obtain ⟨answer, after, opens, run⟩ := claims.login_of_verifies verifies possible
      exact .inl ⟨password, id, user, answer, after, claims, verifies, opens, run⟩
    · exact .inr (.inl ⟨password, id, user, failure, claims, uncheckable,
        claims.login_of_uncheckable uncheckable⟩)
    · refine .inr (.inr (Identities.login_of_error ?_))
      rw [claims.authenticate_eq, wrong]
      rfl
  · exact .inr (.inr (Identities.login_of_error (Identities.authenticate_of_no_claims some)))

theorem Uncheckable.ne_loginMismatch {stored : Value} {failure : Failure}
    (uncheckable : Uncheckable stored failure) : failure ≠ .refused .loginMismatch := by
  cases uncheckable <;> nofun

end

/-- All that a login comes to: whom it lets in, what it then leaves behind, that it leaves nothing
behind else, and in which two ways it fails. -/
structure Identities.LoginOutcome (ids : Identities) (body : Value) : Prop where
  succeeds_iff : (∃ answer, (ids.login body).1 = .ok answer) ↔
    ∃ password id user, ids.Claims body password id user ∧
      ids.hasher.Verifies (user.field credentialField) password
  opens : ∀ answer, (ids.login body).1 = .ok answer →
    ∃ password id user, ids.Claims body password id user ∧
      ids.hasher.Verifies (user.field credentialField) password ∧
      ids.Opens id user answer (ids.login body).2
  unchanged : ∀ failure, (ids.login body).1 = .error failure → (ids.login body).2 = ids
  breaks_iff : ∀ failure,
    (ids.login body).1 = .error failure ∧ failure ≠ .refused .loginMismatch ↔
      ∃ password id user, ids.Claims body password id user ∧
        Uncheckable (user.field credentialField) failure

/-- A login that succeeds has been claimed and verified, and it has opened a session for that
user. -/
theorem Identities.opens_of_login {ids : Identities} {body : Value} {answer : Record}
    (possible : ids.store.CanAdd sessionsCollection) (run : (ids.login body).1 = .ok answer) :
    ∃ password id user, ids.Claims body password id user ∧
      ids.hasher.Verifies (user.field credentialField) password ∧
      ids.Opens id user answer (ids.login body).2 := by
  rcases Identities.login_cases possible body with
    ⟨password, id, user, shown, after, claims, verifies, opens, admitted⟩ |
    ⟨_, _, _, failure, _, _, broken⟩ | refused
  · rw [admitted] at run ⊢
    cases run
    exact ⟨password, id, user, claims, verifies, opens⟩
  · rw [broken] at run
    cases run
  · rw [refused] at run
    cases run

/-- A login that fails leaves everything as it was. If it is not refused as a mismatch, then a
credential is stored that cannot be checked. -/
theorem Identities.uncheckable_of_login {ids : Identities} {body : Value} {failure : Failure}
    (possible : ids.store.CanAdd sessionsCollection)
    (run : (ids.login body).1 = .error failure) :
    (ids.login body).2 = ids ∧ (failure ≠ .refused .loginMismatch →
      ∃ password id user, ids.Claims body password id user ∧
        Uncheckable (user.field credentialField) failure) := by
  rcases Identities.login_cases possible body with
    ⟨_, _, _, answer, after, _, _, _, admitted⟩ |
    ⟨password, id, user, cause, claims, uncheckable, broken⟩ | refused
  · rw [admitted] at run
    cases run
  · rw [broken] at run ⊢
    cases run
    exact ⟨rfl, fun _ => ⟨password, id, user, claims, uncheckable⟩⟩
  · rw [refused] at run ⊢
    cases run
    exact ⟨rfl, fun other => absurd rfl other⟩

/-- As long as an id can be found for a session, a login succeeds exactly when the body is an object
with a name and a password, one user has that name up to case, and what is stored as that user's
credential verifies the password; then one session is stored. Any other login leaves everything as
it is. It is refused in one way, which does not tell what was wrong, unless a credential that is no
text or no ASCII text is to be checked for the one user of the name. -/
theorem Identities.login_outcome {ids : Identities}
    (possible : ids.store.CanAdd sessionsCollection) (body : Value) :
    ids.LoginOutcome body ∧
      (Failure.refused .loginMismatch).message = "Login or password don't match" := by
  refine ⟨?_, rfl⟩
  constructor
  case succeeds_iff =>
    constructor
    · rintro ⟨answer, run⟩
      obtain ⟨password, id, user, claims, verifies, -⟩ := Identities.opens_of_login possible run
      exact ⟨password, id, user, claims, verifies⟩
    · rintro ⟨password, id, user, claims, verifies⟩
      obtain ⟨answer, after, -, run⟩ := claims.login_of_verifies verifies possible
      exact ⟨answer, by rw [run]⟩
  case opens => exact fun answer run => Identities.opens_of_login possible run
  case unchanged => exact fun failure run => (Identities.uncheckable_of_login possible run).1
  case breaks_iff =>
    intro failure
    constructor
    · rintro ⟨run, other⟩
      exact (Identities.uncheckable_of_login possible run).2 other
    · rintro ⟨password, id, user, claims, uncheckable⟩
      exact ⟨by rw [claims.login_of_uncheckable uncheckable], uncheckable.ne_loginMismatch⟩

/-- Two users share a name, Ann is stored with a hash, Bob with a text that has a letter beyond
ASCII in the place of one, and Eve with nothing. -/
def mixedIdentities : Identities where
  store := .holding [("users",
      [("u1", [("email", .text "twin")]), ("u2", [("email", .text "TWIN")]),
        ("u3", [("email", .text "Ann"), ("hashedPassword", .text (openHash 0 "p"))]),
        ("u4", [("email", .text "bob"), ("hashedPassword", .text "clé")]),
        ("u5", [("email", .text "eve")])])]
    (fun _ => "s1") 0
  nameField := "email"
  tokens := ⟨fun _ => "t", 0⟩
  hasher := .transparent 0

def loginBody (name password : String) : Value :=
  .object [("email", .text name), ("password", .text password)]

def annStored : Record := [("email", .text "Ann"), ("hashedPassword", .text (openHash 0 "p"))]

/-- Ann is let in, in whatever case she spells her name. With another password she is refused, and
so is whoever gives a name that two users share, that nobody has or whose user has no hash. -/
theorem Identities.login_outcome_mixed :
    mixedIdentities.store.CanAdd sessionsCollection ∧
      mixedIdentities.Claims (loginBody "ANN" "p") "p" "u3" annStored ∧
      mixedIdentities.hasher.Verifies (annStored.field credentialField) "p" ∧
      (∃ answer, (mixedIdentities.login (loginBody "ANN" "p")).1 = .ok answer) ∧
      (∀ name ∈ ["twin", "nobody", "eve"], mixedIdentities.login (loginBody name "p") =
        (.error (.refused .loginMismatch), mixedIdentities)) ∧
      (mixedIdentities.login (loginBody "ann" "q")).1 = .error (.refused .loginMismatch) ∧
      (mixedIdentities.login (loginBody "ann" "q")).2 = mixedIdentities := by
  have possible : mixedIdentities.store.CanAdd sessionsCollection :=
    Store.canAdd_of_next_unused List.not_mem_nil
  have claims : mixedIdentities.Claims (loginBody "ANN" "p") "p" "u3" annStored :=
    .only rfl (by decide) rfl rfl
  have verified : mixedIdentities.hasher.verifies (openHash 0 "p") "p" = true :=
    (mixedIdentities.hasher.verifies_hash "p" "p").trans (beq_self_eq_true "p")
  have verifies : mixedIdentities.hasher.Verifies (annStored.field credentialField) "p" :=
    .hash (by decide +kernel) (isAsciiText_openHash 0 "p") verified
  obtain ⟨right, -⟩ := Identities.login_outcome possible (loginBody "ANN" "p")
  obtain ⟨wrong, -⟩ := Identities.login_outcome possible (loginBody "ann" "q")
  have refused : (mixedIdentities.login (loginBody "ann" "q")).1 =
      .error (.refused .loginMismatch) := rfl
  refine ⟨possible, claims, verifies, right.succeeds_iff.mpr ⟨"p", "u3", annStored, claims, verifies⟩,
    ?_, refused, wrong.unchanged _ refused⟩
  intro name member
  simp only [List.mem_cons, List.not_mem_nil, or_false] at member
  rcases member with rfl | rfl | rfl <;> rfl

/-- Whoever tries to log in as Bob meets an encoding error, and not the one refusal. What is stored
for Bob has a letter beyond ASCII, and so it is no hash at all. -/
theorem Identities.login_of_unreadable_hash :
    let bob : Record := [("email", .text "bob"), ("hashedPassword", .text "clé")]
    mixedIdentities.store.CanAdd sessionsCollection ∧
      mixedIdentities.Claims (loginBody "bob" "p") "p" "u4" bob ∧
      ¬mixedIdentities.hasher.Verifies (bob.field credentialField) "p" ∧
      (mixedIdentities.login (loginBody "bob" "p")).1 = .error (.credentialNotAscii "clé") ∧
      (Failure.credentialNotAscii "clé").message ≠ "Login or password don't match" := by
  refine ⟨Store.canAdd_of_next_unused List.not_mem_nil, .only rfl (by decide) rfl rfl, ?_, rfl,
    by decide +kernel⟩
  intro verifies
  cases verifies with
  | hash _ ascii _ => exact absurd ascii (by decide)

end GuardedRecords
