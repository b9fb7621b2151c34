import GuardedRecords.SampleData
import GuardedRecords.Web.Address
import GuardedRecords.Web.Form
import GuardedRecords.Web.Preflight
import GuardedRecords.Web.Route

namespace GuardedRecords

/-- The whole service: its settings, the public store, users and sessions, and the policy. -/
structure Application where
  settings : Settings
  store : Store
  identities : Identities
  policy : RuleSet

def Application.database (app : Application) : Database :=
  ⟨app.store, some app.identities.store, app.policy⟩

/-- The sources of what is not determined by requests. -/
structure Sources where
  recordIds : Supply String
  identityIds : Supply String
  recordClock : Supply Int
  identityClock : Supply Int
  tokens : Supply String
  hasher : Hasher

/-- Why the service does not start. -/
inductive StartFailure
  | document (fault : DocumentFault)
  | store (failure : Failure)

/-- The document under a path; without a path the bundled one. -/
def documentAt (files : Files) (path : Option String) (bundled : Document) : Document :=
  match path with
  | none => bundled
  | some p => if p.isEmpty then bundled else ⟨p, files (plainPath p)⟩

/-- The service with its documents read. The collections are read first, then users and
sessions, then the policy. -/
def Application.start (settings : Settings) (files : Files) (sources : Sources) : Except StartFailure Application := do
  let seed ←
    (documentAt files settings.seedDataPath bundledCollections).collections.mapError .document
  let store ←
    (Store.ofSeed seed sources.recordIds sources.recordClock settings.maxIdAttempts).mapError .store
  let users ←
    ((documentAt files settings.protectedDataPath bundledIdentities).identities
      sources.hasher).mapError .document
  let protectedStore ←
    (Store.ofSeed users sources.identityIds sources.identityClock
      settings.maxIdAttempts).mapError .store
  let policy ← (documentAt files settings.rulesPath bundledPolicy).policy.mapError .document
  .ok ⟨settings, store,
    ⟨protectedStore, settings.identityField, sources.tokens, sources.hasher⟩, policy⟩

/-- The caller who sends a request. -/
def Application.callerOf (app : Application) (request : WebRequest) : Except Failure Caller := do
  let token ← request.namedHeader? app.settings.authHeader
  let admin ← request.namedHeader? app.settings.adminHeader
  app.identities.caller token admin.isSome

def Application.specOf (app : Application) (request : WebRequest) : Except Failure QuerySpec :=
  (QuerySpec.ofParams (Params.ofQuery request.query) app.settings.defaultPageSize).mapError .refused

/-- The operation on records that a request asks for. -/
def Application.operationOf (app : Application) (request : WebRequest) (collection : String)
    (id : Option String) : Except Failure RecordOperation :=
  match request.method with
  | "POST" => (readBody request.body).map (.create collection id)
  | "PUT" => (readBody request.body).map (.replace collection id)
  | "PATCH" => (readBody request.body).map (.merge collection id)
  | "DELETE" => .ok (.delete collection id)
  | _ => (app.specOf request).map (.read (some collection) id)

/-- The content of the answer to an operation on records. -/
def RecordOperation.content (operation : RecordOperation) (result : Reading) :
    Except Failure WebContent :=
  match operation, result with
  | .read .., .record r => jsonContent (.object r)
  | _, .record r => recordContent r
  | _, .names collections => jsonContent (.array (collections.map .text))
  | _, .shaped (.records rs) => jsonContent (.array (rs.map .object))
  | _, .shaped (.count n) => jsonContent (.int n)

/-- Serves a request for records. The caller is made out before the operation is read. -/
def Application.serveRecords (app : Application) (request : WebRequest)
    (operation : Except Failure RecordOperation) : Except Failure WebContent × Application :=
  match app.callerOf request, operation with
  | .error failure, _ | .ok _, .error failure => (.error failure, app)
  | .ok caller, .ok operation =>
    let (outcome, database) := app.database.perform caller operation
    (outcome.bind operation.content, { app with store := database.store })

/-- Serves a request that registers a user or logs one in. -/
def Application.enter (app : Application) (request : WebRequest)
    (door : Identities → Value → Except Failure Record × Identities) :
    Except Failure WebContent × Application :=
  match readBody request.body with
  | .error failure => (.error failure, app)
  | .ok body =>
    let (outcome, identities) := door app.identities body
    (outcome.bind recordContent, { app with identities := identities })

/-- Serves a request that ends the caller's session. -/
def Application.leave (app : Application) (request : WebRequest) :
    Except Failure WebContent × Application :=
  match app.callerOf request with
  | .error failure => (.error failure, app)
  | .ok caller =>
    let (outcome, identities) := app.identities.logout caller
    (outcome.map fun _ => .none, { app with identities := identities })

def Application.healthReport (app : Application) : Value :=
  .object [("status", .text "healthy"), ("service", .text app.settings.appName),
    ("version", .text app.settings.appVersion)]

/-- Serves a request on a route. -/
def Application.serve (app : Application) (request : WebRequest) :
    Route → Except Failure WebContent × Application
  | .health => (jsonContent app.healthReport, app)
  | .collections => app.serveRecords request (.ok (.read none none {}))
  | .collection name => app.serveRecords request (app.operationOf request name none)
  | .record collection id => app.serveRecords request (app.operationOf request collection (some id))
  | .register => app.enter request Identities.register
  | .login => app.enter request Identities.login
  | .logout => app.leave request
  | .me => (((app.callerOf request).bind Identities.me).bind recordContent, app)

/-- The response where something happens that nobody foresaw. It is told in debug mode only. -/
def Application.crashResponse (app : Application) (message : String) : WebResponse :=
  .error 500 (if app.settings.debug then "Server Error: " ++ message else "Server Error")

/-- The characters that stand in a location as they are. -/
def isLocationChar (c : Char) : Bool :=
  c.isAlphanum || "_.-~:/%#?=@[]!$&'()*+,;".toList.contains c

/-- A location with all other characters escaped. -/
def escapeLocation (location : String) : String :=
  String.ofList (location.toList.flatMap fun c =>
    if isLocationChar c then [c]
    else (String.singleton c).toUTF8.toList.flatMap fun b =>
      '%' :: (hexDigits 2 b.toNat).map Char.toUpper)

/-- A path in which the signs that would end it are escaped. -/
def escapePath (path : String) : String :=
  String.ofList (path.toList.flatMap fun c =>
    if c = '?' then ['%', '3', 'F'] else if c = '#' then ['%', '2', '3'] else [c])

/-- The address of the same place without the slashes at the end of the path. -/
def locationOf (request : WebRequest) (query : List Char) (path : String) : String :=
  let host := (request.header? "host").getD ""
  let rest := if query.isEmpty then "" else "?" ++ String.ofList query
  escapeLocation ("http://" ++ host ++ escapePath path ++ rest)

/-- The response to a request whose address can be told, and the service after it. A correlation id
is sent back unless something unforeseen happens. -/
def Application.answer (app : Application) (request : WebRequest) (query : List Char) :
    WebResponse × Application :=
  let echo (response : WebResponse) : WebResponse :=
    { response with correlationId := request.header? "X-Correlation-ID" }
  match preflight? app.settings request, Route.ofPath? request.path with
  | some response, _ => (echo response, app)
  | none, some route =>
    if route.methods.contains request.method then
      let (outcome, after) := app.serve request route
      match outcome with
      | .ok .none => (echo { status := 204 }, after)
      | .ok content => (echo { status := 200, content := content }, after)
      | .error (.refused error) => (echo (.error error.status error.message), after)
      | .error failure => (app.crashResponse failure.message, after)
    else (echo (.error 405 "Method Not Allowed"), app)
  | none, none =>
    match withoutFinalSlashes? request.path with
    | none => (echo (.error 404 "Not Found"), app)
    | some path =>
      (echo { status := 307, location := some (locationOf request query path) }, app)

/-- The response to a request whose address cannot be told. The address is needed to report an error
too; while it cannot even be put together the report fails as well, and the response is left to the
server. -/
def Application.unaddressed (app : Application) : AddressFault → WebResponse
  | .query _ => { status := 500, content := .plain "Internal Server Error" }
  | .host fault => app.crashResponse fault.message

/-- The response to a request and the service after it. Each request is logged with its path before
anything else is done with it, so that nothing comes of one whose address cannot be told. -/
def Application.respond (app : Application) (request : WebRequest) : WebResponse × Application :=
  match request.addressedQuery with
  | .ok query => app.answer request query
  | .error fault => (app.unaddressed fault, app)

end GuardedRecords
