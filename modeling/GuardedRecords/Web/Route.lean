import GuardedRecords.Text.Split

namespace GuardedRecords

/-- What a path leads to. -/
inductive Route
  | health
  | collections
  | collection (name : String)
  | record (collection id : String)
  | register
  | login
  | logout
  | me
  deriving DecidableEq

/-- The segments of a path with fixed names only. A line feed at the end of the path does not
count. -/
def fixedRoutes : List (List String × Route) :=
  [(["", "health"], .health), (["", "data"], .collections), (["", "users", "register"], .register),
    (["", "users", "login"], .login), (["", "users", "logout"], .logout), (["", "users", "me"], .me)]

/-- A text without one line feed at its end. -/
def dropFinalLineFeed (cs : List Char) : List Char :=
  if cs.getLast? = some '\n' then cs.dropLast else cs

def pathSegments (cs : List Char) : List String := (pieces '/' cs).map String.ofList

/-- The route of a path. Names of collections and ids of records are not empty. -/
def Route.ofPath? (path : String) : Option Route :=
  match fixedRoutes.lookup (pathSegments (dropFinalLineFeed path.toList)) with
  | some route => some route
  | none =>
    match pathSegments path.toList with
    | ["", "data", name] => if name.isEmpty then none else some (.collection name)
    | ["", "data", name, id] => if name.isEmpty || id.isEmpty then none else some (.record name id)
    | _ => none

/-- The methods that a route answers. -/
def Route.methods : Route → List String
  | .health | .collections | .logout | .me => ["GET"]
  | .collection _ | .record .. => ["GET", "POST", "PUT", "PATCH", "DELETE"]
  | .register | .login => ["POST"]

/-- The path without the slashes at its end, if it has any and leads somewhere without them. -/
def withoutFinalSlashes? (path : String) : Option String :=
  let stripped := String.ofList (path.toList.reverse.dropWhile (· = '/')).reverse
  if stripped ≠ path && (Route.ofPath? stripped).isSome then some stripped else none

end GuardedRecords
