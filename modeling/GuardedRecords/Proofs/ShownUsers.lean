import Mathlib
import GuardedRecords.Proofs.IdentityRuns
import GuardedRecords.Proofs.SealedDocuments

namespace GuardedRecords

/-- No user is stored with a password in the open. -/
def Identities.NoPasswords (ids : Identities) : Prop :=
  ∀ entry ∈ ids.users, passwordField ∉ entry.2.names

/-- The user whom a reply shows. -/
def IdentityReply.user? : IdentityReply → Option Record
  | .admitted user | .shown user => some user
  | .dismissed => none
  | .caller who => who.user

/-- Whoever asks to be shown is a caller that was found before, and not one made up. -/
def IdentityRequest.Vouched (replies : List (Except Failure IdentityReply)) :
    IdentityRequest → Prop
  | .me who => .ok (.caller who) ∈ replies
  | _ => True

/-- No user is stored with a password, and none is shown with a credential, whatever is asked
next; none is shown with a password either, unless the caller who asks for it brings it along. -/
structure Identities.KeepsSecrets (ids : Identities)
    (replies : List (Except Failure IdentityReply)) : Prop where
  stored : ids.NoPasswords
  shown : ∀ request reply user, (ids.answer request).1 = .ok reply → reply.user? = some user →
    credentialField ∉ user.names ∧ (request.Vouched replies → passwordField ∉ user.names)

/-- A user who is given out without the credential, with or without a token. -/
inductive Record.ShownAs (id : String) (stored : Record) : Record → Prop
  | bare : ShownAs id stored (stored.tagged id).withoutCredential
  | withToken (token : Value) :
      ShownAs id stored ((stored.tagged id).withoutCredential.put tokenField token)

/-- A user who is stored without a password shows no secret when given out: the credential is
removed, and nothing else is added but id and token. -/
theorem Record.ShownAs.no_secrets {id : String} {stored user : Record}
    (shown : stored.ShownAs id user) (sealed : passwordField ∉ stored.names) :
    credentialField ∉ user.names ∧ passwordField ∉ user.names := by
  have bare : credentialField ∉ (stored.tagged id).withoutCredential.names ∧
      passwordField ∉ (stored.tagged id).withoutCredential.names := by
    refine ⟨Table.not_mem_names_remove _ _, ?_⟩
    rw [Record.withoutCredential, Table.names_remove, List.mem_filter, Record.tagged,
      Table.mem_names_put]
    rintro ⟨same | given, _⟩
    · exact absurd same (by decide)
    · exact sealed given
  cases shown with
  | bare => exact bare
  | withToken token =>
    rw [Table.mem_names_put, Table.mem_names_put, not_or, not_or]
    exact ⟨⟨by decide, bare.1⟩, by decide, bare.2⟩

/-- The password of a body is not among what is stored for a new user. -/
theorem Identities.Enrols.no_password {ids : Identities} {body : Value} {id : String}
    {user : Record} (enrols : ids.Enrols body id user) : passwordField ∉ user.names := by
  cases enrols with
  | @user members name password id now _ _ _ _ =>
    rw [← Table.lookup?_eq_none_iff, lookup?_newRecord_of_not_mem (by decide), Identities.newUser,
      Table.lookup?_put_of_ne (by decide), Table.lookup?_remove_self]

theorem IdentityEffect.noPasswords {ids after : Identities} {request : IdentityRequest}
    {reply : Except Failure IdentityReply} (effect : IdentityEffect ids request reply after)
    (sealed : ids.NoPasswords) : after.NoPasswords := by
  obtain ⟨-, -, same | ⟨body, id, user, enrols, grown⟩⟩ := effect.users_cases
  · rwa [Identities.NoPasswords, same]
  · intro entry member
    rw [grown] at member
    rcases List.mem_append.mp member with before | new
    · exact sealed entry before
    · cases List.mem_singleton.mp new
      exact enrols.no_password

theorem Identities.serve_noPasswords {ids : Identities} (sealed : ids.NoPasswords)
    (requests : List IdentityRequest) : (ids.serve requests).2.NoPasswords :=
  Identities.serve_keeps (fun before request held => (before.answer_effect request).noPasswords held)
    sealed requests

/-- The caller who shows a token is a user as stored, without the credential. -/
theorem Identities.caller_stored {ids : Identities} {token : Option String} {isAdmin : Bool}
    {who : Caller} {user : Record} (run : ids.caller token isAdmin = .ok who)
    (known : who.user = some user) : ∃ entry ∈ ids.users, entry.2.ShownAs entry.1 user := by
  cases token with
  | none =>
    cases run
    cases known
  | some token =>
    rw [Identities.caller_some] at run
    split at run
    · cases run
    · next id session _ =>
      split at run
      · cases run
      · next found fetched =>
        cases run
        cases known
        cases owner : session.field sessionUserField with
        | text key =>
          rw [owner, Store.fetch_text] at fetched
          obtain ⟨stored, present, rfl⟩ := Option.map_eq_some_iff.mp fetched
          exact ⟨(key, stored), Table.mem_of_lookup? present, .bare⟩
        | _ =>
          rw [owner] at fetched
          cases fetched

/-- Whomever a reply shows is stored when the request is done, unless the request is to be shown. In
that case the reply is what the caller brings along. -/
theorem Identities.answer_shows_stored {ids : Identities} {request : IdentityRequest}
    {reply : IdentityReply} {user : Record} (run : (ids.answer request).1 = .ok reply)
    (shows : reply.user? = some user) (other : ∀ who, request ≠ .me who) :
    ∃ entry ∈ (ids.answer request).2.users, entry.2.ShownAs entry.1 user := by
  have effect := ids.answer_effect request
  rw [run] at effect
  generalize left : (ids.answer request).2 = after at effect ⊢
  cases effect with
  | @registered body id key stored session store tokens enrols unused owner grown =>
    cases shows
    refine ⟨(id, stored), ?_, .withToken _⟩
    rw [Identities.users, grown, recordsUnder_put_of_ne (by decide), recordsUnder_put_self]
    exact List.mem_append_right _ List.mem_cons_self
  | admitted proved _ _ grown =>
    cases shows
    obtain ⟨entry, member, rfl⟩ := Identities.authenticate_tagged proved
    refine ⟨entry, ?_, .withToken _⟩
    rw [Identities.users, grown, recordsUnder_put_of_ne (by decide)]
    exact member
  | dismissed _ => cases shows
  | answered plain =>
    cases request with
    | me who => exact absurd rfl (other who)
    | caller token isAdmin =>
      obtain ⟨who, found, rfl⟩ := map_eq_ok_iff.mp run
      exact Identities.caller_stored found shows
    | register body | login body =>
      obtain ⟨shown, _, rfl⟩ := map_eq_ok_iff.mp run
      exact absurd rfl (plain shown)
    | logout who =>
      obtain ⟨_, _, rfl⟩ := map_eq_ok_iff.mp run
      cases shows

/-- A reply of a sequence is the reply to one of its requests, after the earlier ones. What is said
of single requests is carried to sequences by this. -/
theorem Identities.mem_serve_replies {ids : Identities} {requests : List IdentityRequest}
    {reply : Except Failure IdentityReply} (member : reply ∈ (ids.serve requests).1) :
    ∃ earlier request later, requests = earlier ++ request :: later ∧
      ((ids.serve earlier).2.answer request).1 = reply := by
  induction requests generalizing ids with
  | nil => cases member
  | cons request rest ih =>
    rcases List.mem_cons.mp member with rfl | later
    · exact ⟨[], request, rest, rfl, rfl⟩
    · obtain ⟨earlier, asked, after, rfl, answered⟩ := ih later
      exact ⟨request :: earlier, asked, after, rfl, answered⟩

/-- The callers that are found carry no password along. -/
theorem Identities.NoPasswords.caller_no_password {ids : Identities} (sealed : ids.NoPasswords)
    {requests : List IdentityRequest} {who : Caller} {user : Record}
    (found : .ok (.caller who) ∈ (ids.serve requests).1) (known : who.user = some user) :
    passwordField ∉ user.names := by
  obtain ⟨earlier, request, _, _, answered⟩ := Identities.mem_serve_replies found
  have other (shown : Caller) : request ≠ .me shown := by
    rintro rfl
    obtain ⟨_, _, same⟩ := map_eq_ok_iff.mp answered
    cases same
  obtain ⟨entry, member, shown⟩ := Identities.answer_shows_stored answered known other
  have kept := ((ids.serve earlier).2.answer_effect request).noPasswords
    (Identities.serve_noPasswords sealed earlier)
  exact (shown.no_secrets (kept entry member)).2

/-- From identities without passwords on, no secret is stored or shown after any requests. The
replies are looked at one by one with what was stored at their time. -/
theorem Identities.NoPasswords.keepsSecrets {ids : Identities} (sealed : ids.NoPasswords)
    (requests : List IdentityRequest) :
    (ids.serve requests).2.KeepsSecrets (ids.serve requests).1 := by
  have stored := Identities.serve_noPasswords sealed requests
  refine ⟨stored, fun request reply user run shows => ?_⟩
  by_cases asked : ∃ who, request = .me who
  · obtain ⟨who, rfl⟩ := asked
    obtain ⟨shown, found, rfl⟩ := map_eq_ok_iff.mp run
    cases shows
    unfold Identities.me at found
    split at found
    · next own known =>
      cases found
      refine ⟨Table.not_mem_names_remove _ _, fun vouched => ?_⟩
      rw [Record.withoutCredential, Table.names_remove, List.mem_filter]
      exact fun given => sealed.caller_no_password vouched known given.1
    · cases found
  · have other : ∀ who, request ≠ .me who := fun who same => asked ⟨who, same⟩
    obtain ⟨entry, member, shown⟩ := Identities.answer_shows_stored run shows other
    have kept := ((ids.serve requests).2.answer_effect request).noPasswords stored
    have secrets := shown.no_secrets (kept entry member)
    exact ⟨secrets.1, fun _ => secrets.2⟩

/-- The store of what has been loaded has no password in the open. -/
theorem noPasswords_ofSeed {hasher : Hasher} {given : Table (Table Record)} {ids : Supply String}
    {clock : Supply Int} {attempts : Int} {store : Store}
    (start : Store.ofSeed (sealIdentities hasher given) ids clock attempts = .ok store)
    (nameField : String) (tokens : Supply String) :
    Identities.NoPasswords ⟨store, nameField, tokens, hasher⟩ := by
  intro entry member
  rw [Identities.users, Store.collections_ofSeed start, recordsUnder_storedForm] at member
  obtain ⟨user, among, rfl⟩ := List.mem_map.mp member
  rw [Table.names_remove, List.mem_filter]
  rintro ⟨present, _⟩
  have loaded := Table.mem_of_mem_ofPairs among
  rw [recordsUnder] at loaded
  cases found : (Table.ofPairs (sealIdentities hasher given)).lookup? usersCollection with
  | none =>
    rw [found] at loaded
    cases loaded
  | some users =>
    rw [found] at loaded
    have collection := Table.mem_of_mem_ofPairs (Table.mem_of_lookup? found)
    exact no_password_of_sealIdentities collection loaded present

/-- From the document of the users to every reply, no password and no credential is shown. What is
loaded differs from the document in the users' passwords and credentials alone, and loading it again
changes nothing. -/
theorem Document.identities_keep_secrets {document : Document} {hasher : Hasher}
    {loaded : Table (Table Record)} (accepted : document.identities hasher = .ok loaded) :
    (∃ given, document.collections = .ok given ∧ SealedIdentities hasher given loaded) ∧
      (∀ (again : Document) (other : Hasher), again.collections = .ok loaded →
        again.identities other = .ok loaded) ∧
      ∀ (ids tokens : Supply String) (clock : Supply Int) (attempts : Int) (store : Store)
        (nameField : String) (requests : List IdentityRequest),
        Store.ofSeed loaded ids clock attempts = .ok store →
          let service : Identities := ⟨store, nameField, tokens, hasher⟩
          (service.serve requests).2.KeepsSecrets (service.serve requests).1 := by
  obtain ⟨given, read, rfl⟩ := map_eq_ok_iff.mp accepted
  refine ⟨⟨given, read, sealedIdentities_sealIdentities hasher given⟩, ?again, ?service⟩
  case again =>
    intro again other same
    rw [Document.identities, same, Except.map, sealIdentities_sealIdentities]
  case service =>
    intro ids tokens clock attempts store nameField requests start
    exact (noPasswords_ofSeed start nameField tokens).keepsSecrets requests

/-- Ann has a password, the second user has a hash besides, and the password of the third is empty. -/
def threeUsersText : String :=
  "\x7b\"users\":\x7b\"u\":\x7b\"email\":\"ann\",\"password\":\"p\"\x7d," ++
    "\"v\":\x7b\"password\":\"q\",\"hashedPassword\":\"$argon2\"\x7d," ++
    "\"w\":\x7b\"password\":\"\"\x7d\x7d,\"notes\":\x7b\x7d\x7d"

def threeUsers : Document :=
  ⟨"users.json", .ok (threeUsersText.toList.map fun c => c.toNat.toUInt8)⟩

/-- The three users as they are loaded, with what sessions there are. -/
def threeUsersLoaded (sessions : Table Record) : Table (Table Record) :=
  [("users", [("u", [("email", .text "ann"), ("hashedPassword", .text (openHash 0 "p"))]),
    ("v", [("hashedPassword", .text "$argon2")]), ("w", [])]), ("notes", []),
    ("sessions", sessions)]

set_option maxRecDepth 4000 in
theorem threeUsers_identities :
    threeUsers.identities (.transparent 0) = .ok (threeUsersLoaded []) := by
  have decoded : decodeUtf8 (threeUsersText.toList.map fun c => c.toNat.toUInt8) =
      .ok threeUsersText.toList := by cbv
  have lines : unifyLineEnds threeUsersText.toList = threeUsersText.toList := by decide +kernel
  have read : Value.read threeUsersText = .ok (.object [("users", .object [
      ("u", .object [("email", .text "ann"), ("password", .text "p")]),
      ("v", .object [("password", .text "q"), ("hashedPassword", .text "$argon2")]),
      ("w", .object [("password", .text "")])]), ("notes", .object [])]) := by cbv
  rw [← String.ofList_toList (s := threeUsersText), ← lines] at read
  exact Document.identities_of_read rfl decoded read rfl _

/-- The three users in a store, after some number of sessions have been opened. -/
def threeUsersAfter (opened : Nat) (sessions : Table Record) : Identities :=
  ⟨⟨threeUsersLoaded sessions, ⟨fun _ => "s", opened⟩, ⟨fun _ => 0, opened⟩, 1, Nat.one_pos⟩, "email",
    ⟨fun _ => "t", opened⟩, .transparent 0⟩

/-- Ann logs in, is found by her token and is shown. -/
theorem Document.identities_keep_secrets_of_three_users :
    let start := threeUsersAfter 0 []
    let ann : Record := [("email", .text "ann"), ("_id", .text "u")]
    let session : Record := [("userId", .text "u"), ("accessToken", .text "t"),
      ("_createdOn", .int 0)]
    let asked : IdentityRequest := .me ⟨some ann, some (session.tagged "s"), false⟩
    let (replies, after) := start.serve
      [.login (.object [("email", .text "Ann"), ("password", .text "p")]), .caller (some "t") false]
    threeUsers.identities (.transparent 0) = .ok (threeUsersLoaded []) ∧
      Store.ofSeed (threeUsersLoaded []) start.store.ids start.store.clock 1 = .ok start.store ∧
      asked.Vouched replies ∧ (after.answer asked).1 = .ok (.shown ann) ∧
      credentialField ∉ ann.names ∧ passwordField ∉ ann.names := by
  intro start ann session asked
  have accepted := threeUsers_identities
  have stored : Store.ofSeed (threeUsersLoaded []) start.store.ids start.store.clock 1 =
      .ok start.store := rfl
  -- Ann's password is checked by the law of hashes, the rest of the run is computed.
  let body : Record := [("email", .text "Ann"), ("password", .text "p")]
  let known : Record := [("email", .text "ann"), ("hashedPassword", .text (openHash 0 "p")),
    ("_id", .text "u")]
  have proved : start.authenticate (.object body) = .ok known := by
    have name : filledText? body start.nameField = some "Ann" := rfl
    have password : body.field passwordField = .text "p" := rfl
    have named : start.usersNamed "Ann" = [known] := rfl
    have verified : start.hasher.check (known.field credentialField) "p" = .ok true :=
      Hasher.check_hash (.transparent 0) "p" "p"
    simp only [Identities.authenticate, name, password, named, verified, ok_bind, if_true]
  have opened : start.login (.object body) =
      (.ok (ann.put "accessToken" (.text "t")), threeUsersAfter 1 [("s", session)]) := by
    rw [Identities.login, proved]
    rfl
  have found : (threeUsersAfter 1 [("s", session)]).caller (some "t") false =
      .ok ⟨some ann, some (session.tagged "s"), false⟩ := rfl
  have served : start.serve [.login (.object body), .caller (some "t") false] =
      ([.ok (.admitted (ann.put "accessToken" (.text "t"))),
        .ok (.caller ⟨some ann, some (session.tagged "s"), false⟩)],
        threeUsersAfter 1 [("s", session)]) := by
    simp only [Identities.serve, Identities.answer, opened, found, Except.map]
  have kept := (Document.identities_keep_secrets accepted).2.2 _ start.tokens _ _ _ "email"
    [.login (.object body), .caller (some "t") false] stored
  have vouched : asked.Vouched (start.serve [.login (.object body), .caller (some "t") false]).1 := by
    rw [served]
    exact List.mem_cons_of_mem _ List.mem_cons_self
  have shown : ((start.serve [.login (.object body), .caller (some "t") false]).2.answer asked).1 =
      .ok (.shown ann) := by
    rw [served]
    rfl
  have secrets := kept.shown _ _ _ shown rfl
  exact ⟨accepted, stored, vouched, shown, secrets.1, secrets.2 vouched⟩

end GuardedRecords
