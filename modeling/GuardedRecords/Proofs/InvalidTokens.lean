import GuardedRecords.Proofs.IdentityRuns
import GuardedRecords.Web.Application

namespace GuardedRecords

/-- Whether a stored session has exactly this token and is that of a stored user. -/
def Identities.Knows (ids : Identities) (token : String) : Prop :=
  ∃ entry ∈ ids.sessions, entry.2.field tokenField = .text token ∧
    ∃ user ∈ ids.users.names, entry.2.field sessionUserField = .text user

/-- The search that takes no notice of case rescues no token: what it finds is compared with the
token again, letter by letter. -/
theorem Identities.caller_of_unknown {ids : Identities} {token : String}
    (unknown : ¬ids.Knows token) (isAdmin : Bool) :
    ids.caller (some token) isAdmin = .error (.refused .invalidToken) := by
  rw [Identities.caller_some]
  split
  · rfl
  next id session found =>
  obtain ⟨member, shown⟩ := Identities.mem_sessions_of_sessionWith found
  split
  · rfl
  next user fetched =>
  cases owner : session.field sessionUserField with
  | text key =>
    rw [owner, Store.fetch_text, Option.map_eq_some_iff] at fetched
    obtain ⟨stored, present, _⟩ := fetched
    exact absurd ⟨(id, session), member, shown, key, Table.mem_names_of_lookup? present, owner⟩
      unknown
  | _ =>
    rw [owner] at fetched
    cases fetched

/-- Whether a header of this name can be sent: its characters are those of Latin-1. -/
def isHeaderName (name : String) : Bool := (lower name).toList.all fun c => c.toNat < 256

/-- The routes that are served to a caller. -/
def Route.AsksForCaller (route : Route) : Prop :=
  route ≠ .health ∧ route ≠ .register ∧ route ≠ .login

section Serving

variable {app : Application} {request : WebRequest}

/-- The caller is made out before anything else is looked at. A route that asks for one reads
neither its query nor its body when there is none. -/
theorem Application.serve_of_no_caller {route : Route} (asks : route.AsksForCaller)
    {failure : Failure} (failed : app.callerOf request = .error failure) :
    app.serve request route = (.error failure, app) := by
  cases route with
  | health => exact absurd rfl asks.1
  | register => exact absurd rfl asks.2.1
  | login => exact absurd rfl asks.2.2
  | collections => simp only [Application.serve, Application.serveRecords, failed]
  | collection name => simp only [Application.serve, Application.serveRecords, failed]
  | record name id => simp only [Application.serve, Application.serveRecords, failed]
  | logout => simp only [Application.serve, Application.leave, failed]
  | me =>
    rw [Application.serve, failed]
    rfl

/-- No route is asked beforehand whether it may be used, since none takes the method of such
requests. -/
theorem preflight?_of_allowed {settings : Settings} {route : Route}
    (allowed : request.method ∈ route.methods) : preflight? settings request = none := by
  have other : request.method ≠ "OPTIONS" := by
    intro asked
    rw [asked] at allowed
    cases route <;> simp [Route.methods] at allowed
  rw [preflight?]
  split
  · next asked _ _ => exact absurd asked other
  · rfl

variable {route : Route} (found : Route.ofPath? request.path = some route)
  (allowed : request.method ∈ route.methods)

include found allowed

/-- A request whose service is refused is answered by the status and the message of the refusal. -/
theorem Application.answer_of_refused (query : List Char) {error : ServiceError}
    {after : Application}
    (served : app.serve request route = (.error (.refused error), after)) :
    app.answer request query =
      ({ WebResponse.error error.status error.message with
        correlationId := request.header? "X-Correlation-ID" }, after) := by
  simp only [Application.answer, preflight?_of_allowed allowed, found,
    List.contains_iff_mem.mpr allowed, if_true, served]

/-- A request whose service fails in a way that nobody foresaw is answered like every crash, with
the message if the service is run for debugging. -/
theorem Application.answer_of_crash (query : List Char) {failure : Failure} {after : Application}
    (unforeseen : ∀ error, failure ≠ .refused error)
    (served : app.serve request route = (.error failure, after)) :
    app.answer request query = (app.crashResponse failure.message, after) := by
  simp only [Application.answer, preflight?_of_allowed allowed, found,
    List.contains_iff_mem.mpr allowed, if_true, served]

/-- Once the address of the request can be told, an unknown token is refused before anything else
in the request is looked at, unless no header can have the name of the admin flag. -/
theorem Application.answer_unknown_token (query : List Char) (asks : route.AsksForCaller)
    {token : String} (shown : request.namedHeader? app.settings.authHeader = .ok (some token))
    (unknown : ¬app.identities.Knows token) :
    app.answer request query =
      if isHeaderName app.settings.adminHeader then
        ({ WebResponse.error 403 "Invalid access token" with
          correlationId := request.header? "X-Correlation-ID" }, app)
      else (app.crashResponse (Failure.headerNotLatin (lower app.settings.adminHeader)).message, app) := by
  split
  · next sendable =>
    have refused : app.callerOf request = .error (.refused .invalidToken) := by
      have flag : request.namedHeader? app.settings.adminHeader =
          .ok (request.header? app.settings.adminHeader) := if_pos sendable
      simp only [Application.callerOf, shown, flag, ok_bind, Identities.caller_of_unknown unknown]
    exact Application.answer_of_refused found allowed query
      (Application.serve_of_no_caller asks refused)
  · next unsendable =>
    have crashed : app.callerOf request =
        .error (.headerNotLatin (lower app.settings.adminHeader)) := by
      have flag : request.namedHeader? app.settings.adminHeader =
          .error (.headerNotLatin (lower app.settings.adminHeader)) := if_neg unsendable
      simp only [Application.callerOf, shown, flag, ok_bind, error_bind]
    exact Application.answer_of_crash found allowed query nofun
      (Application.serve_of_no_caller asks crashed)

/-- A token that is not known is refused by every route that is served to a caller: whatever else
the request holds, nothing comes before that and nothing is changed. Where the address of the
request cannot be told, or the header of the admin flag cannot be sent, the token is not even looked
up; nothing is changed then either. -/
theorem Application.respond_unknown_token (asks : route.AsksForCaller) {token : String}
    (shown : request.namedHeader? app.settings.authHeader = .ok (some token))
    (unknown : ¬app.identities.Knows token) :
    app.respond request =
      match request.addressedQuery with
      | .error fault => (app.unaddressed fault, app)
      | .ok _ =>
        if isHeaderName app.settings.adminHeader then
          ({ WebResponse.error 403 "Invalid access token" with
            correlationId := request.header? "X-Correlation-ID" }, app)
        else
          (app.crashResponse (Failure.headerNotLatin (lower app.settings.adminHeader)).message,
            app) := by
  rw [Application.respond]
  cases request.addressedQuery with
  | error fault => rfl
  | ok query => exact Application.answer_unknown_token found allowed query asks shown unknown

end Serving

/-- Ann is logged in under one token, and the user of another is gone. The admin flag has a header
of the given name. -/
def annLoggedIn (adminHeader : String) : Application where
  settings := { adminHeader := adminHeader }
  store := .holding [("notes", [("n1", [("title", .text "plan")])])] (fun _ => "n2") 0
  identities :=
    { store := .holding [
        ("users", [("u1", [("email", .text "ann")])]),
        ("sessions", [("s1", [("userId", .text "u1"), ("accessToken", .text "aB")]),
          ("s2", [("userId", .text "u2"), ("accessToken", .text "gone")])])] (fun _ => "s3") 0
      nameField := "email"
      tokens := { item := fun _ => "tt" }
      hasher := Hasher.transparent 0 }
  policy := {}

theorem Identities.annLoggedIn_knows {adminHeader token : String} (other : token ≠ "aB") :
    ¬(annLoggedIn adminHeader).identities.Knows token := by
  rintro ⟨entry, member, shown, user, stored, owner⟩
  have sessions : (annLoggedIn adminHeader).identities.sessions =
      [("s1", [("userId", .text "u1"), ("accessToken", .text "aB")]),
        ("s2", [("userId", .text "u2"), ("accessToken", .text "gone")])] := rfl
  have users : (annLoggedIn adminHeader).identities.users.names = ["u1"] := rfl
  rw [users, List.mem_singleton] at stored
  subst stored
  rw [sessions, List.mem_cons, List.mem_singleton] at member
  rcases member with rfl | rfl
  · cases shown
    exact other rfl
  · exact absurd (Value.text.inj owner) (by decide)

/-- A change of a record that is not there, with a body that cannot be read. -/
def spoiltRequest (token : String) : WebRequest where
  method := "PATCH"
  path := "/data/nowhere/n1"
  query := "where=!".toList.flatMap String.utf8EncodeChar
  headers := [("x-authorization", token), ("X-Admin", "")]
  body := "\x7b".toList.flatMap String.utf8EncodeChar

theorem Application.respond_unknown_token_spoilt :
    Route.ofPath? (spoiltRequest "Ab").path = some (.record "nowhere" "n1") ∧
      (spoiltRequest "Ab").method ∈ (Route.record "nowhere" "n1").methods ∧
      (Route.record "nowhere" "n1").AsksForCaller ∧
      (spoiltRequest "Ab").namedHeader? (annLoggedIn "X-Admin").settings.authHeader =
        .ok (some "Ab") ∧
      ¬(annLoggedIn "X-Admin").identities.Knows "Ab" ∧
      (annLoggedIn "X-Admin").respond (spoiltRequest "Ab") =
        (WebResponse.error 403 "Invalid access token", annLoggedIn "X-Admin") := by
  have found : Route.ofPath? (spoiltRequest "Ab").path = some (.record "nowhere" "n1") := rfl
  have allowed : (spoiltRequest "Ab").method ∈ (Route.record "nowhere" "n1").methods := by
    simp [spoiltRequest, Route.methods]
  have asks : (Route.record "nowhere" "n1").AsksForCaller := by simp [Route.AsksForCaller]
  have shown : (spoiltRequest "Ab").namedHeader? (annLoggedIn "X-Admin").settings.authHeader =
      .ok (some "Ab") := rfl
  have unknown : ¬(annLoggedIn "X-Admin").identities.Knows "Ab" :=
    Identities.annLoggedIn_knows (by decide)
  exact ⟨found, allowed, asks, shown, unknown,
    Application.respond_unknown_token found allowed asks shown unknown⟩

/-- Whether a request on a route that is served to a caller shows a token that is not known, and the
response does not tell that. -/
def Application.Overlooks (app : Application) (request : WebRequest) : Prop :=
  ∃ route token, Route.ofPath? request.path = some route ∧ request.method ∈ route.methods ∧
    route.AsksForCaller ∧ request.namedHeader? app.settings.authHeader = .ok (some token) ∧
    ¬app.identities.Knows token ∧ (app.respond request).1.status = 500

/-- An unknown token is overlooked where the header of the admin flag cannot be sent, where the
query is not UTF-8, and where the host has a bracket that nothing closes. -/
theorem Application.unknown_token_unanswered :
    (annLoggedIn "X-Ключ").Overlooks (spoiltRequest "Ab") ∧
      (annLoggedIn "X-Admin").Overlooks { spoiltRequest "Ab" with query := [0xff] } ∧
      (annLoggedIn "X-Admin").Overlooks
        { spoiltRequest "Ab" with headers := ("host", "[") :: (spoiltRequest "Ab").headers } := by
  have allowed : "PATCH" ∈ (Route.record "nowhere" "n1").methods := by simp [Route.methods]
  have asks : (Route.record "nowhere" "n1").AsksForCaller := by simp [Route.AsksForCaller]
  have unknown (adminHeader : String) : ¬(annLoggedIn adminHeader).identities.Knows "Ab" :=
    Identities.annLoggedIn_knows (by decide)
  exact ⟨⟨_, _, rfl, allowed, asks, rfl, unknown _, rfl⟩,
    ⟨_, _, rfl, allowed, asks, rfl, unknown _, rfl⟩,
    ⟨_, _, rfl, allowed, asks, rfl, unknown _, rfl⟩⟩

end GuardedRecords
