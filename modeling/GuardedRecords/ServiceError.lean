import GuardedRecords.Filter.Clause
import GuardedRecords.Text.Quoted
import GuardedRecords.Json.Reader

namespace GuardedRecords

/-- What is wrong with the form of a request. -/
inductive RequestFault
  | badLoad (expression : String)
  | unsortable (property : String)
  | idGiven
  | idMissing
  | notAnObject
  | missingFields
  | unreadableBody
  deriving DecidableEq

def RequestFault.message : RequestFault → String
  | .badLoad expression => s!"Invalid load expression: {expression}"
  | .unsortable property => s!"Cannot sort by '{property}': values are not comparable"
  | .idGiven => "Use PUT to update records"
  | .idMissing => "Missing entry ID"
  | .notAnObject => "Request body must be a JSON object"
  | .missingFields => "Missing fields"
  | .unreadableBody => "Request body is not valid JSON"

/-- Why an operation is refused, in terms that its caller may see. -/
inductive ServiceError
  | noCollection (name : String)
  | noEntry (id : String)
  | request (fault : RequestFault)
  | filter (fault : FilterFault)
  | identityTaken (field : String)
  | unauthorized
  | forbidden
  | loginMismatch
  | noSession
  | invalidToken
  deriving DecidableEq

def ServiceError.message : ServiceError → String
  | .noCollection name => s!"Collection does not exist: {name}"
  | .noEntry id => s!"Entry does not exist: {id}"
  | .request fault => fault.message
  | .filter fault => fault.message
  | .identityTaken field => s!"A user with the same {field} already exists"
  | .unauthorized => "Unauthorized"
  | .forbidden => "Forbidden"
  | .loginMismatch => "Login or password don't match"
  | .noSession => "User session does not exist"
  | .invalidToken => "Invalid access token"

/-- The status of the response that reports the error. -/
def ServiceError.status : ServiceError → Nat
  | .noCollection _ | .noEntry _ => 404
  | .request _ | .filter _ => 400
  | .identityTaken _ => 409
  | .unauthorized => 401
  | .forbidden | .loginMismatch | .noSession | .invalidToken => 403

/-- Why an operation ends without a result: it is refused, or it meets something it has no
answer for, such as a container in the place of an id. -/
inductive Failure
  | refused (error : ServiceError)
  | idsExhausted (collection : String) (attempts : Nat)
  | noAttempts
  | unknownOperator (name : String)
  | containerAsKey (isArray : Bool)
  | missingField (name : String)
  | credentialNotText (value : Value)
  | credentialNotAscii (stored : String)
  | headerNotLatin (name : String)
  | overlongInteger (digits : Nat)
  | unwritableInteger
  | tooManyLevels

/-- How a container is called where a plain value is needed. -/
def containerMessage (isArray : Bool) : String :=
  "unhashable type: " ++ quoted (if isArray then "list" else "dict")

/-- The name of the kind of a value in messages. -/
def Value.kindName : Value → String
  | .null => "NoneType"
  | .bool _ => "bool"
  | .int _ => "int"
  | .double _ => "float"
  | .text _ => "str"
  | .array _ => "list"
  | .object _ => "dict"

/-- The report on a text that an encoding cannot hold: the first run of characters from the limit
on, with its place. -/
def notEncodableMessage (encoding : String) (limit : Nat) (s : String) : String :=
  let fits (c : Char) : Bool := c.toNat < limit
  let before := (s.toList.takeWhile fits).length
  let run := (s.toList.drop before).takeWhile fun c => !fits c
  let place :=
    match run with
    | [c] => "character '" ++ String.ofList (codeEscape c) ++ s!"' in position {before}"
    | _ => s!"characters in position {before}-{before + run.length - 1}"
  quoted encoding ++ " codec can't encode " ++ place ++ s!": ordinal not in range({limit})"

def Failure.message : Failure → String
  | .refused error => error.message
  | .idsExhausted collection attempts =>
    s!"Could not allocate a unique record ID in '{collection}' after {attempts} attempts"
  | .noAttempts => "max_attempts must be positive"
  | .unknownOperator name => quoted name
  | .containerAsKey isArray => containerMessage isArray
  | .missingField name => quoted name
  | .credentialNotText value => s!"'{value.kindName}' object has no attribute 'encode'"
  | .credentialNotAscii stored => notEncodableMessage "ascii" 128 stored
  | .headerNotLatin name => notEncodableMessage "latin-1" 256 name
  | .overlongInteger digits => (ReadFault.overlongInteger digits).message
  | .unwritableInteger =>
    s!"Exceeds the limit ({integerDigitLimit} digits) for integer string conversion; " ++
      "use sys.set_int_max_str_digits() to increase the limit"
  | .tooManyLevels => "Error serializing to JSON: ValueError: Maximum serialization depth exceeded"

end GuardedRecords
