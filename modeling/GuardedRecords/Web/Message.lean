import GuardedRecords.Json.Encoded
import GuardedRecords.ServiceError
import GuardedRecords.Text.Case

namespace GuardedRecords

/-- A request as it arrives, the path with its escapes resolved. -/
structure WebRequest where
  method : String
  path : String
  query : Bytes
  headers : List (String × String)
  body : Bytes

/-- A header of a request. Case does not matter in its name, and of several the first counts. -/
def WebRequest.header? (request : WebRequest) (name : String) : Option String :=
  (request.headers.find? fun header => lower header.1 == lower name).map Prod.snd

/-- The header that a setting names. Names of headers hold no characters beyond Latin-1. -/
def WebRequest.namedHeader? (request : WebRequest) (name : String) :
    Except Failure (Option String) :=
  if (lower name).toList.all fun c => c.toNat < 256 then .ok (request.header? name)
  else .error (.headerNotLatin (lower name))

/-- What a response carries. -/
inductive WebContent
  | none
  | json (value : Value)
  | plain (text : String)

structure WebResponse where
  status : Nat
  content : WebContent := .none
  location : Option String := none
  correlationId : Option String := none

mutual

/-- A value with `null` in the place of every not-a-number and infinity, for which JSON has no
words. -/
def Value.presentable : Value → Value
  | .double x =>
    match x with
    | .finite .. => .double x
    | _ => .null
  | .array items => .array (presentableItems items)
  | .object members => .object (presentableMembers members)
  | v => v
termination_by structural v => v

def presentableItems : List Value → List Value
  | [] => []
  | v :: rest => v.presentable :: presentableItems rest
termination_by structural vs => vs

def presentableMembers : List (String × Value) → List (String × Value)
  | [] => []
  | (name, v) :: rest => (name, v.presentable) :: presentableMembers rest
termination_by structural vs => vs

end

mutual

/-- How many levels a value has: one more than its items or members have. -/
def Value.levels : Value → Nat
  | .array items => itemLevels items + 1
  | .object members => memberLevels members + 1
  | _ => 1
termination_by structural v => v

def itemLevels : List Value → Nat
  | [] => 0
  | v :: rest => max v.levels (itemLevels rest)
termination_by structural vs => vs

def memberLevels : List (String × Value) → Nat
  | [] => 0
  | (_, v) :: rest => max v.levels (memberLevels rest)
termination_by structural vs => vs

end

/-- How many levels a value may have to be written. -/
def levelLimit : Nat := 255

/-- The content of an answer that carries a value. -/
def jsonContent (value : Value) : Except Failure WebContent :=
  if value.levels ≤ levelLimit then .ok (.json value.presentable) else .error .tooManyLevels

/-- The content of an answer that carries a record. It is written member by member, so the limit
holds for each of them. -/
def recordContent (record : Record) : Except Failure WebContent :=
  if record.all fun entry => entry.2.levels ≤ levelLimit then
    .ok (.json (Value.object record).presentable)
  else .error .tooManyLevels

/-- A response that reports an error. -/
def WebResponse.error (status : Nat) (message : String) : WebResponse :=
  ⟨status, .json (.object [("code", .int status), ("message", .text message)]), .none, .none⟩

/-- The blanks that may make up a body that counts as empty. -/
def isBlankByte (b : UInt8) : Bool := b = 32 || (9 ≤ b && b ≤ 13)

/-- The value that a body carries; an empty one carries an object without members. -/
def readBody (body : Bytes) : Except Failure Value :=
  let unreadable := Except.error (.refused (.request .unreadableBody))
  if body.all isBlankByte then .ok (.object [])
  else
    match decodeJson? body with
    | none => unreadable
    | some chars =>
      match readChars chars with
      | .ok value => .ok value
      | .error ⟨.overlongInteger digits, _⟩ => .error (.overlongInteger digits)
      | .error _ => unreadable

end GuardedRecords
