import GuardedRecords.Json.Value
import GuardedRecords.Shortest
import GuardedRecords.Text.Quoted

namespace GuardedRecords

mutual

/-- A value written out for a message. -/
def Value.display : Value → String
  | .null => "None"
  | .bool b => if b then "True" else "False"
  | .int n => toString n
  | .double x => x.display
  | .text s => quoted s
  | .array items => "[" ++ ", ".intercalate (displayItems items) ++ "]"
  | .object members => "\x7b" ++ ", ".intercalate (displayMembers members) ++ "\x7d"
termination_by structural v => v

def displayItems : List Value → List String
  | [] => []
  | v :: rest => v.display :: displayItems rest
termination_by structural vs => vs

def displayMembers : List (String × Value) → List String
  | [] => []
  | (name, v) :: rest => (quoted name ++ ": " ++ v.display) :: displayMembers rest
termination_by structural vs => vs

end

end GuardedRecords
