import GuardedRecords.Binary64
import GuardedRecords.Table

namespace GuardedRecords

/-- A JSON value. Integers of any size and binary64 numbers are told apart, and an object keeps
the order of its members. -/
inductive Value
  | null
  | bool (b : Bool)
  | int (n : Int)
  | double (x : Binary64)
  | text (s : String)
  | array (items : List Value)
  | object (members : List (String × Value))
  deriving Inhabited

/-- The members of a JSON object. -/
abbrev Record := Table Value

/-- The member under a name, `null` when there is none. -/
def Record.field (record : Record) (name : String) : Value := (record.lookup? name).getD .null

/-- The number a value stands for: truth values count as 0 and 1. `none` for a not-a-number and
for what is no number. -/
def Value.extent? : Value → Option Extent
  | .bool b => some (Extent.ofInt (if b then 1 else 0))
  | .int n => some (Extent.ofInt n)
  | .double x => x.extent?
  | _ => none

def Value.isNull : Value → Bool
  | .null => true
  | _ => false

/-- Integers and binary64 numbers; truth values are not meant. -/
def Value.isNumber : Value → Bool
  | .int _ | .double _ => true
  | _ => false

def Value.isNaN : Value → Bool
  | .double x => x.isNaN
  | _ => false

/-- Whether a value counts as true: all do but `null`, `false`, zero and what is empty. -/
def Value.truthy : Value → Bool
  | .null => false
  | .bool b => b
  | .int n => n != 0
  | .double (.finite _ mantissa _) => mantissa != 0
  | .double _ => true
  | .text s => !s.isEmpty
  | .array items => !items.isEmpty
  | .object members => !members.isEmpty

/-- Equality of two values that are no containers, as members of containers: numbers agree by
exact value, a not-a-number with the same occurrence only. -/
def Value.scalarsAgree : Value → Value → Bool
  | .null, .null => true
  | .text s, .text t => s == t
  | .double (.nan a), .double (.nan b) => a == b
  | a, b =>
    match a.extent?, b.extent? with
    | some x, some y => x.compare y == .eq
    | _, _ => false

mutual

/-- Equality of two values as members of containers: arrays agree item by item, objects when
they have the same names with agreeing members, in any order. -/
def Value.agrees : Value → Value → Bool
  | .array xs, .array ys => itemsAgree xs ys
  | .object fs, .object gs => fs.length == gs.length && membersAgree fs gs
  | a, b => a.scalarsAgree b
termination_by structural a => a

def itemsAgree : List Value → List Value → Bool
  | [], [] => true
  | x :: xs, y :: ys => x.agrees y && itemsAgree xs ys
  | _, _ => false
termination_by structural xs => xs

/-- Whether every member of the first object agrees with the one of that name in the second. -/
def membersAgree : List (String × Value) → List (String × Value) → Bool
  | [], _ => true
  | (name, x) :: rest, gs =>
    (match List.lookup name gs with
      | some y => x.agrees y
      | none => false) && membersAgree rest gs
termination_by structural fs => fs

end

/-- Equality of two values: as between members, except that a not-a-number equals nothing. -/
def Value.equals (a b : Value) : Bool := !a.isNaN && a.agrees b

mutual

/-- The order of two values, where they have one: numbers by exact value, texts by code points,
arrays by the first items that do not agree and then by length. -/
def Value.order? : Value → Value → Option Ordering
  | .text s, .text t => some (compare s t)
  | .array xs, .array ys => itemsOrder? xs ys
  | a, b =>
    match a.extent?, b.extent? with
    | some x, some y => some (x.compare y)
    | _, _ => none
termination_by structural a => a

def itemsOrder? : List Value → List Value → Option Ordering
  | [], [] => some .eq
  | [], _ :: _ => some .lt
  | _ :: _, [] => some .gt
  | x :: xs, y :: ys => if x.agrees y then itemsOrder? xs ys else x.order? y
termination_by structural xs => xs

end

end GuardedRecords
