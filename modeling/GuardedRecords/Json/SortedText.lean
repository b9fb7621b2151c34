import GuardedRecords.Json.Reader
import GuardedRecords.Json.Writer

namespace GuardedRecords

/-- The entries of a table in the order of their names. -/
def Table.sorted {α : Type} (table : Table α) : Table α := table.mergeSort fun a b => a.1 ≤ b.1

mutual

/-- A value with the members of every object in it in the order of their names. -/
def Value.inNameOrder : Value → Value
  | .array items => .array (itemsInNameOrder items)
  | .object members => .object (Table.sorted (membersInNameOrder members))
  | v => v
termination_by structural v => v

def itemsInNameOrder : List Value → List Value
  | [] => []
  | v :: rest => v.inNameOrder :: itemsInNameOrder rest
termination_by structural vs => vs

/-- The members with the order put into their values; they stay in their places. -/
def membersInNameOrder : List (String × Value) → List (String × Value)
  | [] => []
  | (name, v) :: rest => (name, v.inNameOrder) :: membersInNameOrder rest
termination_by structural ms => ms

end

mutual

/-- Whether a value holds an integer with more digits than are written out. -/
def Value.hasOverlongInteger : Value → Bool
  | .int n => integerDigitLimit < (Nat.toDigits 10 n.natAbs).length
  | .array items => itemsHaveOverlongInteger items
  | .object members => membersHaveOverlongInteger members
  | _ => false
termination_by structural v => v

def itemsHaveOverlongInteger : List Value → Bool
  | [] => false
  | v :: rest => v.hasOverlongInteger || itemsHaveOverlongInteger rest
termination_by structural vs => vs

def membersHaveOverlongInteger : List (String × Value) → Bool
  | [] => false
  | (_, v) :: rest => v.hasOverlongInteger || membersHaveOverlongInteger rest
termination_by structural ms => ms

end

/-- A value as JSON text in which the order of the members of objects does not show; `none` if an
integer is too long to be written. -/
def Value.sortedText? (v : Value) : Option (List Char) :=
  if v.hasOverlongInteger then none else some (v.inNameOrder.writeIn .ascii)

end GuardedRecords
