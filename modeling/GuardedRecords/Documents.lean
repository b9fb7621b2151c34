import GuardedRecords.Files
import GuardedRecords.Identity
import GuardedRecords.Json.Reader
import GuardedRecords.Policy.Config

namespace GuardedRecords

/-- A document that is to be read: the path it is known by and its bytes, if they can be had. -/
structure Document where
  name : String
  content : Except AccessFault Bytes

/-- The path of a document in its plain form. -/
def Document.path (document : Document) : String := plainPath document.name

/-- Why a document is not accepted. -/
inductive DocumentFault
  | unreadable (path : String) (fault : AccessFault)
  | notText (fault : Utf8Fault)
  | notJson (path : String) (error : ReadError) (text : String)
  | overlongInteger (digits : Nat)
  | notAnObject (path : String)
  | collectionNotAnObject (name path : String)
  | recordNotAnObject (id name path : String)
  | badPolicy (fault : ConfigFault)

def DocumentFault.message : DocumentFault → String
  | .unreadable path .nullCharacter => AccessFault.nullCharacter.message path
  | .unreadable path fault => s!"Cannot read {path}: " ++ fault.message path
  | .notText fault => fault.message
  | .notJson path error text => s!"Invalid JSON in {path}: " ++ error.message text
  | .overlongInteger digits => (ReadFault.overlongInteger digits).message
  | .notAnObject path => s!"{path} must contain a JSON object"
  | .collectionNotAnObject name path => s!"Collection '{name}' in {path} must be an object"
  | .recordNotAnObject id name path => s!"Record '{id}' of '{name}' in {path} must be an object"
  | .badPolicy fault => fault.message

/-- Whether a fault is foreseen and reported as a fault of the document; others end the program. -/
def DocumentFault.isReported : DocumentFault → Bool
  | .unreadable _ .nullCharacter | .notText _ | .overlongInteger _
  | .badPolicy (.containerAsRole _) => false
  | _ => true

/-- A text with all its line ends written as a single line feed. -/
def unifyLineEnds : List Char → List Char
  | '\r' :: '\n' :: rest => '\n' :: unifyLineEnds rest
  | '\r' :: rest => '\n' :: unifyLineEnds rest
  | c :: rest => c :: unifyLineEnds rest
  | [] => []

/-- The members of the object that a text stands for; the path is told in reports. -/
def membersOfText (path text : String) : Except DocumentFault Record :=
  match Value.read text with
  | .ok (.object members) => .ok members
  | .ok _ => .error (.notAnObject path)
  | .error ⟨.overlongInteger digits, _⟩ => .error (.overlongInteger digits)
  | .error error => .error (.notJson path error text)

/-- The members of the object that a document holds. -/
def Document.members (document : Document) : Except DocumentFault Record := do
  let bytes ← document.content.mapError (.unreadable document.path)
  let chars ← (decodeUtf8 bytes).mapError .notText
  membersOfText document.path (String.ofList (unifyLineEnds chars))

/-- The records of a collection, which are objects. -/
def recordsOf (path name : String) :
    List (String × Value) → Except DocumentFault (Table Record)
  | [] => .ok []
  | (id, .object record) :: rest => (recordsOf path name rest).map ((id, record) :: ·)
  | (id, _) :: _ => .error (.recordNotAnObject id name path)

/-- The collections of records in a document; the first flaw is the one that counts. -/
def collectionsOf (path : String) :
    List (String × Value) → Except DocumentFault (Table (Table Record))
  | [] => .ok []
  | (name, .object members) :: rest => do
    let records ← recordsOf path name members
    let others ← collectionsOf path rest
    .ok ((name, records) :: others)
  | (name, _) :: _ => .error (.collectionNotAnObject name path)

/-- Reads collections of records. -/
def Document.collections (document : Document) : Except DocumentFault (Table (Table Record)) := do
  collectionsOf document.name (← document.members)

/-- A user as it is stored: a hash in the place of a password, unless there is a hash already. -/
def sealUser (hasher : Hasher) (user : Record) : Record :=
  let known : Record := user.remove passwordField
  let alreadyHashed :=
    match known.field credentialField with
    | .text stored => isHash stored
    | _ => false
  if alreadyHashed then known
  else
    match filledText? user passwordField with
    | some password => known.put credentialField (.text (hasher.hash password))
    | none => known

/-- Collections with an empty one of that name added unless there is one. -/
def withCollectionNamed (name : String) (collections : Table (Table Record)) :
    Table (Table Record) :=
  if collections.has name then collections else collections ++ [(name, [])]

/-- Users and sessions as they are stored: no password is left in the open. -/
def sealIdentities (hasher : Hasher) (collections : Table (Table Record)) :
    Table (Table Record) :=
  let complete := withCollectionNamed sessionsCollection (withCollectionNamed usersCollection collections)
  complete.map fun entry =>
    if entry.1 = usersCollection then
      (entry.1, entry.2.map fun user => (user.1, sealUser hasher user.2))
    else entry

/-- Reads users and sessions. -/
def Document.identities (document : Document) (hasher : Hasher) :
    Except DocumentFault (Table (Table Record)) :=
  document.collections.map (sealIdentities hasher)

/-- Reads a policy. -/
def Document.policy (document : Document) : Except DocumentFault RuleSet := do
  let members ← document.members
  (RuleSet.ofConfig (.object members)).mapError .badPolicy

end GuardedRecords
