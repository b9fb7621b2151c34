import GuardedRecords.Credential
import GuardedRecords.Database

namespace GuardedRecords

def sessionsCollection : String := "sessions"
def tokenField : String := "accessToken"
def passwordField : String := "password"
def sessionUserField : String := "userId"

/-- Users and their sessions in a store of their own. A user is known by the text of one
property. -/
structure Identities where
  store : Store
  nameField : String
  tokens : Supply String
  hasher : Hasher

/-- A user record without its credential. -/
def Record.withoutCredential (user : Record) : Record := user.remove credentialField

/-- The text of a member, unless it is empty. -/
def filledText? (body : Record) (name : String) : Option String :=
  match body.field name with
  | .text s => if s.isEmpty then none else some s
  | _ => none

/-- The records of a collection that match; none if there is no such collection. -/
def Store.matching (store : Store) (collection : String) (wanted : Record) : List Record :=
  match store.query collection wanted with
  | .ok found => found
  | .error _ => []

/-- The users of a name; case does not matter. -/
def Identities.usersNamed (ids : Identities) (name : String) : List Record :=
  ids.store.matching usersCollection [(ids.nameField, .text name)]

/-- Opens a session for a user. The answer is the user with the token of the session. The token
is used up even if no session can be stored. -/
def Identities.openSession (ids : Identities) (user : Record) : Except Failure Record × Identities :=
  let (token, tokens) := ids.tokens.next
  let session : Record := [(sessionUserField, user.field idField), (tokenField, .text token)]
  let (outcome, store) := ids.store.add sessionsCollection session .null
  (outcome.map fun _ => user.withoutCredential.put tokenField (.text token),
    { ids with store := store, tokens := tokens })

/-- The name and the password that a body carries, with all its members. -/
def Identities.registration? (ids : Identities) : Value → Option (Record × String × String)
  | .object body =>
    match filledText? body ids.nameField, filledText? body passwordField with
    | some name, some password => some (body, name, password)
    | _, _ => none
  | _ => none

/-- The record of a new user: the body with a hash in the place of the password. -/
def Identities.newUser (ids : Identities) (body : Record) (password : String) : Record :=
  (body.remove passwordField).put credentialField (.text (ids.hasher.hash password))

/-- Stores a new user and opens a session. The user stays if no session can be stored. -/
def Identities.register (ids : Identities) (body : Value) : Except Failure Record × Identities :=
  match ids.registration? body with
  | none => (.error (.refused (.request .missingFields)), ids)
  | some (body, name, password) =>
    if !(ids.usersNamed name).isEmpty then
      (.error (.refused (.identityTaken ids.nameField)), ids)
    else
      match ids.store.add usersCollection (ids.newUser body password) .null with
      | (.ok user, store) => { ids with store := store }.openSession user
      | (.error failure, store) => (.error failure, { ids with store := store })

/-- The only user of the name in the body, if the password there is the user's. -/
def Identities.authenticate (ids : Identities) (body : Value) : Except Failure Record :=
  let mismatch := Except.error (.refused .loginMismatch)
  match body with
  | .object members =>
    match filledText? members ids.nameField, Record.field members passwordField with
    | some name, .text password =>
      match ids.usersNamed name with
      | [user] => do
        let verified ← ids.hasher.check (user.field credentialField) password
        if verified then .ok user else mismatch
      | _ => mismatch
    | _, _ => mismatch
  | _ => mismatch

/-- Opens a session for the user who proves to be the one named. -/
def Identities.login (ids : Identities) (body : Value) : Except Failure Record × Identities :=
  match ids.authenticate body with
  | .ok user => ids.openSession user
  | .error failure => (.error failure, ids)

/-- The id of the session to close: that of the caller's own session, else that of the first
session of the caller's user; none if there is neither. -/
def Identities.sessionOf (ids : Identities) (caller : Caller) : Except Failure (Option Value) :=
  let session :=
    match caller.session with
    | some own => some own
    | none => (ids.store.matching sessionsCollection [(sessionUserField, caller.userId)]).head?
  match session with
  | none => .ok none
  | some found =>
    match found.lookup? idField with
    | some id => .ok (some id)
    | none => .error (.missingField idField)

/-- Removes the record under an id as it stands in a record. Only texts are ids of records. -/
def Store.deleteAt (store : Store) (collection : String) (id : Value) :
    Except Failure Record × Store :=
  match id with
  | .text key => store.delete collection key
  | other =>
    match store.collection collection, other with
    | .error e, _ => (.error (.refused e), store)
    | .ok _, .array _ => (.error (.containerAsKey true), store)
    | .ok _, .object _ => (.error (.containerAsKey false), store)
    | .ok _, _ => (.error (.refused (.noEntry other.display)), store)

/-- Closes the caller's session. -/
def Identities.logout (ids : Identities) (caller : Caller) : Except Failure Unit × Identities :=
  if caller.user.isNone then (.error (.refused .noSession), ids)
  else
    match ids.sessionOf caller with
    | .error failure => (.error failure, ids)
    | .ok none => (.ok (), ids)
    | .ok (some id) =>
      let (outcome, store) := ids.store.deleteAt sessionsCollection id
      (outcome.map fun _ => (), { ids with store := store })

/-- The caller's own user record. -/
def Identities.me (caller : Caller) : Except Failure Record :=
  match caller.user with
  | some user => .ok user.withoutCredential
  | none => .error (.refused .unauthorized)

/-- The caller who shows a token; without one the caller is anonymous. Here case matters. -/
def Identities.caller (ids : Identities) (token : Option String) (isAdmin : Bool) :
    Except Failure Caller :=
  match token with
  | none => .ok { isAdmin := isAdmin }
  | some token =>
    let sessions := (ids.store.matching sessionsCollection [(tokenField, .text token)]).filter
      fun session => (session.field tokenField).equals (.text token)
    let found := do
      let session ← sessions.head?
      let user ← ids.store.fetch usersCollection (session.field sessionUserField)
      some (session, user)
    match found with
    | some (session, user) => .ok ⟨some user.withoutCredential, some session, isAdmin⟩
    | none => .error (.refused .invalidToken)

end GuardedRecords
