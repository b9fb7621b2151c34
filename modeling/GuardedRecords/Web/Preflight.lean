import GuardedRecords.Settings
import GuardedRecords.Web.Message

namespace GuardedRecords

/-- The methods that are allowed where all are. -/
def standardMethods : List String := ["DELETE", "GET", "HEAD", "OPTIONS", "PATCH", "POST", "PUT"]

/-- The headers that every page may send. -/
def safeHeaders : List String := ["accept", "accept-language", "content-language", "content-type"]

def Settings.allowsOrigin (settings : Settings) (origin : String) : Bool :=
  settings.corsOrigins.contains "*" || settings.corsOrigins.contains origin

def Settings.allowsMethod (settings : Settings) (method : String) : Bool :=
  (if settings.corsAllowMethods.contains "*" then standardMethods else settings.corsAllowMethods).contains
    method

/-- Whether all the headers of a list with commas between them may be sent. -/
def Settings.allowsHeaders (settings : Settings) (requested : String) : Bool :=
  settings.corsAllowHeaders.contains "*" ||
    (pieces ',' requested.toList).all fun header =>
      (safeHeaders ++ settings.corsAllowHeaders.map lower).contains
        (String.ofList (trim (lowerChars header)))

/-- Whether a page asks for a place in a private network, which is never allowed. -/
def WebRequest.asksForPrivateNetwork (request : WebRequest) : Bool :=
  (request.header? "access-control-request-private-network").isSome

/-- The answer to a browser that asks beforehand whether a page of another origin may send a
request. -/
def preflight? (settings : Settings) (request : WebRequest) : Option WebResponse :=
  match request.method, request.header? "origin", request.header? "access-control-request-method" with
  | "OPTIONS", some origin, some method =>
    let headers := request.header? "access-control-request-headers"
    let failures :=
      (if settings.allowsOrigin origin then [] else ["origin"]) ++
        (if settings.allowsMethod method then [] else ["method"]) ++
        (if headers.all settings.allowsHeaders then [] else ["headers"]) ++
        (if request.asksForPrivateNetwork then ["private-network"] else [])
    if failures.isEmpty then some { status := 200, content := .plain "OK" }
    else
      let text := "Disallowed CORS " ++ ", ".intercalate failures
      some { status := 400, content := .plain text }
  | _, _, _ => none

end GuardedRecords
