import GuardedRecords.Documents
import GuardedRecords.Json.Writer

namespace GuardedRecords

/-- The document that holds a value. -/
def Document.ofValue (name : String) (value : Value) : Document :=
  ⟨name, .ok (String.ofList value.write).toUTF8.toList⟩

def peterId : String := "35c62d76-8152-4626-8712-eeb96381bea8"
def georgeId : String := "847ec027-f659-4086-8032-5173e2f9c93a"
def adminId : String := "60f0cf0b-34b0-4abd-9769-8c42f830dffc"

/-- A sample user with the password in the open. -/
def sampleUser (id email username password : String) : String × Value :=
  (id, .object [("email", .text email), ("username", .text username), ("password", .text password)])

def sampleIdentities : Value := .object [
  ("users", .object [
    sampleUser peterId "peter@abv.bg" "Peter" "123456",
    sampleUser georgeId "george@abv.bg" "George" "123456",
    sampleUser adminId "admin@abv.bg" "Admin" "admin"]),
  ("sessions", .object [])]

def samplePolicy : Value := .object [
  ("users", .object [
    (".create", .bool false),
    (".read", .array [.text "Owner"]),
    (".update", .bool false),
    (".delete", .bool false)]),
  ("members", .object [
    (".update", .text "is_owner(user, get('teams', data.teamId))"),
    (".delete", .text "is_owner(user, get('teams', data.teamId)) or is_owner(user, data)"),
    ("*", .object [
      ("teamId", .object [(".update", .text "newData.teamId == data.teamId")]),
      ("status", .object [(".create", .text "newData.status == 'pending'")])])])]

def sampleAppliance (id owner image title brand price description : String) (created : Int) :
    String × Value :=
  (id, .object [("_ownerId", .text owner), ("image", .text image), ("title", .text title),
    ("brand", .text brand), ("price", .text price), ("description", .text description),
    ("_createdOn", .int created)])

def sampleAppliances : Value := .object [
  sampleAppliance "17bfe2b8-488f-45c3-9606-af1ff81335ef" peterId "/images/washing-machine.jpg"
    "Washing Machine" "Bosch" "549.99"
    "Front-loading washing machine with a 9 kg drum and a quiet inverter motor." 1721401199744,
  sampleAppliance "198411db-64ce-44e4-b15d-977219608893" peterId "/images/oven.jpg"
    "Oven" "Beko" "244.99"
    "Electric convection oven with rapid preheat and an easy-clean enamel interior." 1721401370166,
  sampleAppliance "16f4182e-fc8f-4253-a478-049344c1f162" georgeId "/images/dishwasher.jpg"
    "Dishwasher" "Miele" "269.99"
    "Full-size dishwasher with fourteen place settings and an eco programme." 1721401461765]

def sampleComment (id owner appliance username text : String) (more : Record) (created : Int) :
    String × Value :=
  (id, .object ([("_ownerId", .text owner), ("applianceId", .text appliance),
    ("username", .text username), ("text", .text text)] ++ more ++ [("_createdOn", .int created)]))

def sampleComments : Value := .object [
  sampleComment "4f41657e-c46c-42e3-917c-865d79467939" georgeId
    "17bfe2b8-488f-45c3-9606-af1ff81335ef" "George"
    "Bought this a few weeks ago and it handles large loads without a fuss." [] 1722876298396,
  sampleComment "dbaedc90-9ed2-48ca-8a94-6314fc8d8816" georgeId
    "198411db-64ce-44e4-b15d-977219608893" "George"
    "Heats up quickly and bakes evenly on every shelf." [] 1722876428619,
  sampleComment "a4e64e0b-9af9-48f4-b41e-7ef3dc360063" peterId
    "198411db-64ce-44e4-b15d-977219608893" "Peter" "Thanks, that settles it for me."
    [("replyToId", .text "dbaedc90-9ed2-48ca-8a94-6314fc8d8816")] 1722876454044]

def stormTroopersId : String := "34a1cab1-81f1-47e5-aec3-ab6c9810efe1"
def teamRocketId : String := "dc888b1a-400f-47f3-9619-07607966feb8"

def sampleTeam (id owner name logo description : String) (created : Int) : String × Value :=
  (id, .object [("_ownerId", .text owner), ("name", .text name), ("logoUrl", .text logo),
    ("description", .text description), ("_createdOn", .int created)])

def sampleTeams : Value := .object [
  sampleTeam stormTroopersId peterId "Storm Troopers" "/assets/atat.png"
    "These ARE the droids we're looking for" 1615737591748,
  sampleTeam teamRocketId georgeId "Team Rocket" "/assets/rocket.png" "Gotta catch 'em all!"
    1615737655083]

def sampleMember (id owner team : String) (created updated : Int) : String × Value :=
  (id, .object [("_ownerId", .text owner), ("teamId", .text team), ("status", .text "member"),
    ("_createdOn", .int created), ("_updatedOn", .int updated)])

def sampleMembers : Value := .object [
  sampleMember "cc9b0a0f-655d-45d7-9857-0a61c6bb2c4d" peterId stormTroopersId
    1616236790262 1616236792930,
  sampleMember "61a19986-3b86-4347-8ca4-8c074ed87591" georgeId teamRocketId
    1616237188183 1616237189016,
  sampleMember "280b4a1a-d0f3-4639-aa54-6d9158365152" adminId teamRocketId
    1616237257265 1616237278248]

def sampleEntry (id name : String) (val created : Int) : String × Value :=
  (id, .object [("name", .text name), ("val", .int val), ("_createdOn", .int created)])

def sampleEntries : Value := .object [
  sampleEntry "i01" "John1" 1 1613551388703,
  sampleEntry "i02" "John2" 1 1613551388713,
  sampleEntry "i03" "John3" 2 1613551388723,
  sampleEntry "i04" "John4" 2 1613551388733,
  sampleEntry "i05" "John5" 2 1613551388743,
  sampleEntry "i06" "John6" 3 1613551388753]

def sampleCollections : Value := .object [
  ("appliances", sampleAppliances),
  ("comments", sampleComments),
  ("teams", sampleTeams),
  ("members", sampleMembers),
  ("records", sampleEntries)]

/-- The documents that are read where none are named. -/
def bundledCollections : Document := .ofValue "seed_data.json" sampleCollections
def bundledIdentities : Document := .ofValue "protected_data.json" sampleIdentities
def bundledPolicy : Document := .ofValue "rules.json" samplePolicy

end GuardedRecords
