import GuardedRecords.Proofs.IdentityRuns
import GuardedRecords.Proofs.StoredSecrets
import GuardedRecords.Web.Application

namespace GuardedRecords

section Paths

variable {separator : Char}

theorem pieces_ne_nil (cs : List Char) : pieces separator cs ≠ [] := by
  cases cs with
  | nil => exact List.cons_ne_nil _ _
  | cons c rest =>
    rw [pieces]
    split
    · exact List.cons_ne_nil _ _
    · split <;> exact List.cons_ne_nil _ _

/-- What is behind the first piece is a separator, if there are more pieces. -/
theorem pieces_eq_cons {cs first : List Char} {more : List (List Char)}
    (split : pieces separator cs = first :: more) :
    more = [] ∧ cs = first ∨
      ∃ rest, cs = first ++ separator :: rest ∧ pieces separator rest = more := by
  induction cs generalizing first with
  | nil =>
    cases split
    exact .inl ⟨rfl, rfl⟩
  | cons c rest ih =>
    rw [pieces] at split
    split at split
    · next same =>
      cases split
      exact .inr ⟨rest, by rw [same, List.nil_append], rfl⟩
    · split at split
      · next none => exact absurd none (pieces_ne_nil rest)
      · next piece others later =>
        cases split
        rcases ih later with ⟨last, rfl⟩ | ⟨behind, rfl, within⟩
        · exact .inl ⟨last, rfl⟩
        · exact .inr ⟨behind, rfl, within⟩

/-- A path that begins with the segment of a name begins with that name behind a slash. -/
theorem prefix_of_pathSegments {cs : List Char} {name : String} {more : List String}
    (segments : pathSegments cs = "" :: name :: more) : '/' :: name.toList <+: cs := by
  obtain ⟨first, later, split, empty, rest⟩ := List.map_eq_cons_iff.mp segments
  obtain ⟨second, others, rfl, same, _⟩ := List.map_eq_cons_iff.mp rest
  obtain rfl : first = [] := by simpa using empty
  rcases pieces_eq_cons split with ⟨single, _⟩ | ⟨behind, rfl, within⟩
  · cases single
  rw [← same, String.toList_ofList, List.nil_append]
  refine List.cons_prefix_cons.mpr ⟨rfl, ?_⟩
  rcases pieces_eq_cons within with ⟨_, rfl⟩ | ⟨rest, rfl, _⟩
  · exact List.prefix_refl _
  · exact List.prefix_append _ _

theorem dropFinalLineFeed_within (cs : List Char) : dropFinalLineFeed cs <+: cs := by
  rw [dropFinalLineFeed]
  split
  · exact List.dropLast_prefix cs
  · exact List.prefix_refl cs

end Paths

/-- The first segment of the path to a route. -/
def Route.root : Route → String
  | .health => "health"
  | .collections | .collection _ | .record .. => "data"
  | .register | .login | .logout | .me => "users"

/-- Whether the path of a request begins with a name behind a slash. -/
def WebRequest.Under (request : WebRequest) (root : String) : Prop :=
  '/' :: root.toList <+: request.path.toList

theorem fixedRoutes_root {segments : List String} {route : Route}
    (found : fixedRoutes.lookup segments = some route) :
    ∃ more, segments = "" :: route.root :: more := by
  have fixed : ∀ entry ∈ fixedRoutes, ∃ more, entry.1 = "" :: entry.2.root :: more := by
    simp only [fixedRoutes, List.forall_mem_cons, List.not_mem_nil, false_implies, implies_true,
      and_true]
    exact ⟨⟨_, rfl⟩, ⟨_, rfl⟩, ⟨_, rfl⟩, ⟨_, rfl⟩, ⟨_, rfl⟩, ⟨_, rfl⟩⟩
  obtain ⟨front, back, split, _⟩ := List.lookup_eq_some_iff.mp found
  exact fixed _ (split ▸ List.mem_append_right front List.mem_cons_self)

theorem Route.root_of_ofPath? {path : String} {route : Route}
    (found : Route.ofPath? path = some route) : '/' :: route.root.toList <+: path.toList := by
  rw [Route.ofPath?] at found
  split at found
  · next fixed =>
    cases found
    obtain ⟨more, segments⟩ := fixedRoutes_root fixed
    exact (prefix_of_pathSegments segments).trans (dropFinalLineFeed_within _)
  · split at found
    · next segments =>
      split at found
      · cases found
      · cases found
        exact prefix_of_pathSegments segments
    · next segments =>
      split at found
      · cases found
      · cases found
        exact prefix_of_pathSegments segments
    · cases found

def routeRoots : List String := ["health", "data", "users"]

theorem Route.root_mem (route : Route) : route.root ∈ routeRoots := by
  cases route <;> simp [Route.root, routeRoots]

theorem eq_of_prefix_routeRoots : ∀ first ∈ routeRoots, ∀ second ∈ routeRoots,
    '/' :: first.toList <+: '/' :: second.toList → first = second := by
  decide

theorem WebRequest.Under.root {request : WebRequest} {root : String} (under : request.Under root)
    (member : root ∈ routeRoots) {route : Route} (found : Route.ofPath? request.path = some route) :
    route.root = root := by
  rcases List.prefix_or_prefix_of_prefix under (Route.root_of_ofPath? found) with within | within
  · exact (eq_of_prefix_routeRoots root member _ route.root_mem within).symm
  · exact eq_of_prefix_routeRoots _ route.root_mem root member within

section Serving

variable (app : Application) (request : WebRequest)

/-- A request either changes nothing, or it has found a route that takes its method, and all that
changes is what serving the route does. -/
theorem Application.answer_cases (query : List Char) :
    (app.answer request query).2 = app ∨
      ∃ route, Route.ofPath? request.path = some route ∧ request.method ∈ route.methods ∧
        (app.answer request query).2 = (app.serve request route).2 := by
  unfold Application.answer
  split
  · exact .inl rfl
  · next route _ found =>
    split
    · next allowed =>
      refine .inr ⟨route, found, List.contains_iff_mem.mp allowed, ?_⟩
      dsimp only
      split <;> rfl
    · exact .inl rfl
  · split <;> exact .inl rfl

/-- A response leaves the service as it is, or it is that of a route to a method of it. A request
whose address cannot be told does not come to any route. -/
theorem Application.respond_cases :
    (app.respond request).2 = app ∨
      ∃ route, Route.ofPath? request.path = some route ∧ request.method ∈ route.methods ∧
        (app.respond request).2 = (app.serve request route).2 := by
  rw [Application.respond]
  split
  · exact app.answer_cases request _
  · exact .inl rfl

/-- Serving records changes nothing but the store of the records, and that not when they are
read. -/
theorem Application.serveRecords_frame (operation : Except Failure RecordOperation) :
    ∃ store, (app.serveRecords request operation).2 = { app with store := store } ∧
      ((∀ op, operation = .ok op → ∃ name id spec, op = .read name id spec) → store = app.store) := by
  unfold Application.serveRecords
  split
  · exact ⟨app.store, rfl, fun _ => rfl⟩
  · exact ⟨app.store, rfl, fun _ => rfl⟩
  · next op _ =>
    refine ⟨_, rfl, fun reads => ?_⟩
    obtain ⟨name, id, spec, rfl⟩ := reads op rfl
    rfl

/-- What is asked for by the method for reading is an operation that reads, whatever else is in the
request. -/
theorem Application.operationOf_get (reading : request.method = "GET") (collection : String)
    (id : Option String) {operation : RecordOperation}
    (asked : app.operationOf request collection id = .ok operation) :
    ∃ name id spec, operation = .read name id spec := by
  simp only [Application.operationOf, reading] at asked
  obtain ⟨spec, _, rfl⟩ := map_eq_ok_iff.mp asked
  exact ⟨_, _, _, rfl⟩

/-- On a route to records nothing changes but the store of the records, and that not by a request
that reads. -/
theorem Application.serve_data {route : Route} (data : route.root = "data") :
    ∃ store, (app.serve request route).2 = { app with store := store } ∧
      (request.method = "GET" → store = app.store) := by
  have records (operation : Except Failure RecordOperation)
      (reads : request.method = "GET" → ∀ op, operation = .ok op →
        ∃ name id spec, op = .read name id spec) :
      ∃ store, (app.serveRecords request operation).2 = { app with store := store } ∧
        (request.method = "GET" → store = app.store) := by
    obtain ⟨store, after, kept⟩ := app.serveRecords_frame request operation
    exact ⟨store, after, fun reading => kept (reads reading)⟩
  cases route with
  | collections =>
    refine records _ fun _ op same => ?_
    cases same
    exact ⟨_, _, _, rfl⟩
  | collection name => exact records _ fun reading _ => app.operationOf_get request reading name none
  | record name id =>
    exact records _ fun reading _ => app.operationOf_get request reading name (some id)
  | _ => exact absurd data (by decide)

/-- On a route to users the store of the records stays, since identities have a store of their
own. -/
theorem Application.serve_users {route : Route} (users : route.root = "users") :
    (app.serve request route).2.store = app.store := by
  have entered (door : Identities → Value → Except Failure Record × Identities) :
      (app.enter request door).2.store = app.store := by
    unfold Application.enter
    split <;> rfl
  cases route with
  | register => exact entered _
  | login => exact entered _
  | logout =>
    rw [Application.serve, Application.leave]
    split <;> rfl
  | me => rfl
  | health => exact absurd users (by decide)
  | _ =>
    have apart : "data" ≠ "users" := by decide
    exact absurd users apart

end Serving

theorem Table.remove_at {α : Type} {front back : Table α} {name : String} {entry : α}
    (distinct : (Table.names (front ++ (name, entry) :: back)).Nodup) :
    Table.remove (front ++ (name, entry) :: back) name = front ++ back := by
  rw [Table.names_append, List.nodup_append] at distinct
  obtain ⟨_, behind, apart⟩ := distinct
  have early : name ∉ Table.names front := fun member =>
    apart name member name List.mem_cons_self rfl
  have late : name ∉ Table.names back := (List.nodup_cons.mp behind).1
  have own : Table.remove ((name, entry) :: back) name = back := by
    rw [Table.remove_cons, if_pos rfl, Table.remove_of_not_mem late]
  rw [Table.remove, List.filter_append]
  exact (congrArg (· ++ _) (Table.remove_of_not_mem early)).trans (congrArg (front ++ ·) own)

/-- The session of a token is one of the sessions, and it alone is closed. -/
def Identities.Closes (ids : Identities) (token : String) (after : Identities) : Prop :=
  ∃ id session front back store, ids.sessionWith token = some (id, session) ∧
    ids.sessions = front ++ (id, session) :: back ∧
    store.collections = ids.store.collections.put sessionsCollection (front ++ back) ∧
    after = { ids with store := store }

/-- A caller who has shown a token is logged out by the removal of the session of that token, and
otherwise nothing happens. -/
theorem Identities.closes_of_caller {ids : Identities} (distinct : ids.sessions.names.Nodup)
    {token : String} {isAdmin : Bool} {caller : Caller}
    (run : ids.caller (some token) isAdmin = .ok caller) :
    (ids.logout caller).2 = ids ∨ ids.Closes token (ids.logout caller).2 := by
  rw [Identities.caller_some] at run
  split at run
  · cases run
  next id session found =>
  split at run
  · cases run
  cases run
  rw [Identities.logout_of_session]
  rcases ids.store.delete_cases sessionsCollection id with
    ⟨records, old, present, _, removed⟩ | ⟨failure, failed⟩
  · obtain ⟨_, front, back, split, _⟩ := List.find?_eq_some_iff_append.mp found
    have own : records = ids.sessions := by
      rw [Identities.sessions, recordsUnder_of_lookup? present]
    rw [removed]
    refine .inr ⟨id, session, front, back, _, found, split, ?_, rfl⟩
    rw [split] at distinct
    rw [own, split, Table.remove_at distinct]
  · rw [failed]
    exact .inl rfl

/-- A request to log out closes the session of the token that it shows. -/
def Application.EndsSession (app : Application) (request : WebRequest) (after : Application) :
    Prop :=
  Route.ofPath? request.path = some .logout ∧
    ∃ token ids, request.namedHeader? app.settings.authHeader = .ok (some token) ∧
      app.identities.Closes token ids ∧ after = { app with identities := ids }

theorem Application.leave_cases {app : Application} (distinct : app.identities.sessions.names.Nodup)
    {request : WebRequest} (route : Route.ofPath? request.path = some .logout) :
    (app.leave request).2 = app ∨ app.EndsSession request (app.leave request).2 := by
  unfold Application.leave
  split
  · exact .inl rfl
  next caller run =>
  obtain ⟨token, shown, run⟩ := bind_eq_ok_iff.mp run
  obtain ⟨admin, _, run⟩ := bind_eq_ok_iff.mp run
  cases token with
  | none =>
    cases run
    exact .inl rfl
  | some token =>
    rcases Identities.closes_of_caller distinct run with same | closes
    · exact .inl (congrArg (fun ids => { app with identities := ids }) same)
    · exact .inr ⟨route, token, _, shown, closes, rfl⟩

/-- What a request leaves as it is, by its path and by its method. -/
structure Application.Separates (app : Application) (request : WebRequest) : Prop where
  data : request.Under "data" → (app.respond request).2.identities = app.identities
  users : request.Under "users" → (app.respond request).2.store = app.store
  reading : request.method = "GET" →
    (app.respond request).2 = app ∨ app.EndsSession request (app.respond request).2

/-- One request leaves apart what is to stay apart. The cases are those of its route: the data or
the identities, and never both. -/
theorem Application.separates {app : Application}
    (distinct : app.identities.sessions.names.Nodup) (request : WebRequest) :
    app.Separates request := by
  rcases app.respond_cases request with same | ⟨route, found, allowed, after⟩
  · exact ⟨fun _ => by rw [same], fun _ => by rw [same], fun _ => .inl same⟩
  constructor
  case data =>
    intro under
    rw [after]
    obtain ⟨store, after, _⟩ := app.serve_data request (under.root (by decide) found)
    rw [after]
  case users =>
    intro under
    rw [after]
    exact app.serve_users request (under.root (by decide) found)
  case reading =>
    intro reading
    rw [after]
    rw [reading] at allowed
    -- A request that reads data keeps the store, and no such request reaches the identities.
    have records (data : route.root = "data") : (app.serve request route).2 = app := by
      obtain ⟨store, after, kept⟩ := app.serve_data request data
      rw [after, kept reading]
    cases route with
    | health => exact .inl rfl
    | collections => exact .inl (records rfl)
    | collection name => exact .inl (records rfl)
    | record name id => exact .inl (records rfl)
    | register => simp [Route.methods] at allowed
    | login => simp [Route.methods] at allowed
    | logout => exact Application.leave_cases distinct found
    | me => exact .inl rfl

theorem SessionChange.nodup {before after : Identities} {event : Option SessionEvent}
    (change : SessionChange before after event) (distinct : before.sessions.names.Nodup) :
    after.sessions.names.Nodup := by
  cases change with
  | none same => rwa [same]
  | @opened id _ session unused _ _ _ _ later =>
    rw [later, Table.names_append, List.nodup_append]
    refine ⟨distinct, by simp [Table.names], fun name member other single => ?_⟩
    rw [List.mem_singleton.mp single]
    rintro rfl
    exact unused member
  | closed _ left =>
    rw [left]
    exact Table.nodup_names_remove distinct _

/-- Sessions have ids of their own after every request: each new one is stored under an id that none
of the others has. -/
theorem Application.respond_distinct {app : Application}
    (distinct : app.identities.sessions.names.Nodup) (request : WebRequest) :
    (app.respond request).2.identities.sessions.names.Nodup := by
  rcases app.respond_cases request with same | ⟨route, found, _, after⟩
  · rwa [same]
  rw [after]
  have records (data : route.root = "data") :
      (app.serve request route).2.identities.sessions.names.Nodup := by
    obtain ⟨store, after, _⟩ := app.serve_data request data
    rwa [after]
  have entered {door : Identities → Value → Except Failure Record × Identities}
      (opened : ∀ body, (door app.identities body).2.sessions.names.Nodup) :
      (app.enter request door).2.identities.sessions.names.Nodup := by
    unfold Application.enter
    split
    · exact distinct
    · next body _ => exact opened body
  cases route with
  | health => exact distinct
  | collections => exact records rfl
  | collection name => exact records rfl
  | record name id => exact records rfl
  | register => exact entered fun body => (app.identities.register_change body).2.nodup distinct
  | login => exact entered fun body => (app.identities.login_change body).2.nodup distinct
  | logout =>
    unfold Application.serve
    rcases Application.leave_cases distinct found with same | ⟨_, _, _, _, closes, after⟩
    · rwa [same]
    · rw [after]
      obtain ⟨id, session, front, back, store, _, split, left, rfl⟩ := closes
      rw [Identities.sessions, left, recordsUnder_put_self]
      rw [split] at distinct
      exact distinct.sublist ((List.sublist_cons_self _ _).append_left _ |>.map _)
  | me => exact distinct

/-- The responses to requests one after the other, and the service in the end. -/
def Application.run (app : Application) : List WebRequest → List WebResponse × Application
  | [] => ([], app)
  | request :: rest =>
    let (response, after) := app.respond request
    let (responses, final) := after.run rest
    (response :: responses, final)

/-- The ids of sessions stay distinct along all requests, so what is said of one request holds at
each of them. -/
theorem Application.run_distinct {app : Application}
    (distinct : app.identities.sessions.names.Nodup) (requests : List WebRequest) :
    (app.run requests).2.identities.sessions.names.Nodup := by
  induction requests generalizing app with
  | nil => exact distinct
  | cons request rest ih => exact ih (Application.respond_distinct distinct request)

/-- What holds between the service before and after each of the requests, and is carried along,
holds before and after all of them. -/
theorem Application.run_relates (related : Application → Application → Prop)
    (stays : ∀ app, related app app)
    (carries : ∀ {first second third}, related first second → related second third →
      related first third) {requests : List WebRequest}
    (step : ∀ request ∈ requests, ∀ app : Application, app.identities.sessions.names.Nodup →
      related app (app.respond request).2)
    {app : Application} (distinct : app.identities.sessions.names.Nodup) :
    related app (app.run requests).2 := by
  induction requests generalizing app with
  | nil => exact stays app
  | cons request rest ih =>
    have first := step request List.mem_cons_self app distinct
    have later := ih (fun other member => step other (List.mem_cons_of_mem _ member))
      (Application.respond_distinct distinct request)
    exact carries first later

/-- What is left by requests that read: at most sessions are gone. -/
structure Application.LosesSessions (before after : Application) : Prop where
  store : after.store = before.store
  others : ∀ name, name ≠ sessionsCollection →
    after.identities.store.collections.lookup? name =
      before.identities.store.collections.lookup? name
  sessions : after.identities.sessions.Sublist before.identities.sessions

theorem Application.LosesSessions.refl (app : Application) : app.LosesSessions app where
  store := rfl
  others _ _ := rfl
  sessions := List.Sublist.refl _

theorem Application.LosesSessions.trans {first second third : Application}
    (early : first.LosesSessions second) (late : second.LosesSessions third) :
    first.LosesSessions third where
  store := late.store.trans early.store
  others name other := (late.others name other).trans (early.others name other)
  sessions := late.sessions.trans early.sessions

theorem Application.EndsSession.losesSessions {app after : Application} {request : WebRequest}
    (ends : app.EndsSession request after) : app.LosesSessions after := by
  obtain ⟨_, token, ids, _, ⟨id, session, front, back, store, _, split, left, rfl⟩, rfl⟩ := ends
  refine ⟨rfl, fun name other => ?_, ?_⟩
  · rw [left, Table.lookup?_put_of_ne other]
  · rw [Identities.sessions, left, recordsUnder_put_self, split]
    exact (List.sublist_cons_self _ _).append_left _

/-- What requests in a row leave as it is: each of them where it stands, and all of them together
where they are of one kind. -/
structure Application.KeepsApart (app : Application) (requests : List WebRequest) : Prop where
  each : ∀ earlier request later, requests = earlier ++ request :: later →
    (app.run earlier).2.Separates request
  data : (∀ request ∈ requests, request.Under "data") →
    (app.run requests).2.identities = app.identities
  users : (∀ request ∈ requests, request.Under "users") → (app.run requests).2.store = app.store
  reading : (∀ request ∈ requests, request.method = "GET") →
    app.LosesSessions (app.run requests).2

/-- Requests for records leave users and sessions as they are, requests for users the records.
Requests that read change nothing, except that one to log out may remove the session of the token
that it shows, and no other. -/
theorem Application.run_separates_stores {app : Application}
    (distinct : app.identities.sessions.names.Nodup) (requests : List WebRequest) :
    app.KeepsApart requests := by
  refine ⟨fun earlier request _ _ => ?_, fun data => ?_, fun users => ?_, fun reading => ?_⟩
  · exact Application.separates (Application.run_distinct distinct earlier) request
  · refine Application.run_relates (fun before after => after.identities = before.identities)
      (fun _ => rfl) (fun early late => late.trans early) (fun request member app distinct => ?_)
      distinct
    exact (Application.separates distinct request).data (data request member)
  · refine Application.run_relates (fun before after => after.store = before.store)
      (fun _ => rfl) (fun early late => late.trans early) (fun request member app distinct => ?_)
      distinct
    exact (Application.separates distinct request).users (users request member)
  · refine Application.run_relates Application.LosesSessions .refl .trans
      (fun request member app distinct => ?_) distinct
    rcases (Application.separates distinct request).reading (reading request member) with
      same | ends
    · rw [same]
      exact .refl app
    · exact ends.losesSessions

/-- Ann has two sessions, with tokens that differ in case only. -/
def twiceLoggedIn : Application where
  settings := {}
  store := .holding [("notes", [("n1", [("title", .text "plan")])]), ("users", [])] (fun _ => "n2") 0
  identities :=
    { store := .holding [
        ("users", [("u1", [("email", .text "ann")])]),
        ("sessions", [("s1", [("userId", .text "u1"), ("accessToken", .text "t")]),
          ("s2", [("userId", .text "u1"), ("accessToken", .text "T")])])] (fun _ => "s3") 0
      nameField := "email"
      tokens := { item := fun _ => "tt" }
      hasher := Hasher.transparent 0 }
  policy := {}

/-- A request without a query and without a body that shows a token. -/
def requestWith (token method path : String) : WebRequest where
  method := method
  path := path
  query := []
  headers := [("X-Authorization", token)]
  body := []

theorem Application.run_separates_stores_logout :
    twiceLoggedIn.identities.sessions.names.Nodup ∧
      twiceLoggedIn.KeepsApart
        [requestWith "T" "GET" "/users/logout", requestWith "t" "GET" "/users/me"] ∧
      (twiceLoggedIn.run [requestWith "T" "GET" "/users/logout",
          requestWith "t" "GET" "/users/me"]).2.identities.sessions =
        [("s1", [("userId", .text "u1"), ("accessToken", .text "t")])] := by
  have distinct : twiceLoggedIn.identities.sessions.names.Nodup := by decide
  exact ⟨distinct, Application.run_separates_stores distinct _, rfl⟩

end GuardedRecords
