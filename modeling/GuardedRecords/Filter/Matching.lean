import GuardedRecords.Filter.Where
import GuardedRecords.NumberText

namespace GuardedRecords

/-- Whether a text spells a given number. -/
def spells (s : String) (number : Value) : Bool :=
  match Binary64.ofText? s with
  | some x => (Value.double x).equals number
  | none => false

/-- Equality that also lets a text stand for the number it spells. -/
def Value.looselyEquals (a b : Value) : Bool :=
  a.equals b ||
    match a, b with
    | .text s, number => number.isNumber && spells s number
    | number, .text s => number.isNumber && spells s number
    | _, _ => false

/-- Whether a text occurs in another when case does not matter. -/
def Value.isLike : Value → Value → Bool
  | .text s, .text part => occursIn (lowerChars part.toList) (lowerChars s.toList)
  | _, _ => false

/-- The test that an operator stands for; none for an unknown one. -/
def FilterOperator.test? : FilterOperator → Option (Value → Value → Bool)
  | .le => some fun a b => a.order? b == some .lt || a.order? b == some .eq
  | .lt => some fun a b => a.order? b == some .lt
  | .ge => some fun a b => a.order? b == some .gt || a.order? b == some .eq
  | .gt => some fun a b => a.order? b == some .gt
  | .eq => some Value.looselyEquals
  | .like => some Value.isLike
  | .mem => some fun a b =>
    match b with
    | .array items => items.any a.looselyEquals
    | _ => false
  | .unknown _ => none

/-- Whether a record meets a clause; an operator that stands for no test is named instead. -/
def Clause.matches (clause : Clause) (record : Record) : Except String Bool :=
  match clause.operator.test? with
  | some test => .ok (test (record.field clause.property) clause.value)
  | none => .error clause.operator.name

/-- Whether a record meets all clauses; those after the first unmet one are not looked at. -/
def meetsAll (record : Record) : List Clause → Except String Bool
  | [] => .ok true
  | clause :: rest => do
    if ← clause.matches record then meetsAll record rest else .ok false

/-- Whether a record meets one of the clauses; those after the first met one are not looked at. -/
def meetsSome (record : Record) : List Clause → Except String Bool
  | [] => .ok false
  | clause :: rest => do
    if ← clause.matches record then .ok true else meetsSome record rest

def Filter.matches (filter : Filter) (record : Record) : Except String Bool :=
  match filter.junction with
  | .and => meetsAll record filter.clauses
  | .or => meetsSome record filter.clauses

end GuardedRecords
