import GuardedRecords.Rule.Expr
import GuardedRecords.Text.Split

namespace GuardedRecords

/-- Where a rule finds records of other collections, by collection and id. -/
abbrev RecordSource := String → String → Option Record

/-- Why a rule has no value. -/
inductive EvalFault
  | notEvaluable (e : Expr)
  | unknownSign (sign : String)
  | unknownFunction (name : String)
  | argumentCount (name : String)
  | noSource

def EvalFault.message : EvalFault → String
  | .notEvaluable e => s!"Cannot evaluate {e.display}"
  | .unknownSign sign => s!"Unknown binary operator: {sign}"
  | .unknownFunction name => s!"Unknown function: {name}"
  | .argumentCount name => s!"{name}() expects 2 arguments"
  | .noSource => "get() is not available in this context"

/-- The functions a rule may call, each with two arguments. -/
inductive Builtin
  | get | isOwner | contains | startsWith | endsWith
  deriving DecidableEq

def Builtin.ofName? (name : String) : Option Builtin :=
  List.lookup name [("get", .get), ("is_owner", .isOwner), ("contains", .contains),
    ("starts_with", .startsWith), ("ends_with", .endsWith)]

/-- Membership: part of a text, item of an array, name in an object. Nothing else holds items. -/
def Value.holds : Value → Value → Bool
  | .text s, .text part => occursIn part.toList s.toList
  | .array items, item => items.any item.agrees
  | .object members, .text name => Table.has members name
  | _, _ => false

/-- Whether a user, given as a record, is the one that a record names as its owner. -/
def Value.owns : Value → Value → Bool
  | .object user, .object target =>
    let owner := Record.field target "_ownerId"
    !owner.isNull && (Record.field user "_id").equals owner
  | _, _ => false

def Comparison.test : Comparison → Value → Value → Bool
  | .eq, a, b => a.equals b
  | .ne, a, b => !a.equals b
  | .lt, a, b => a.order? b == some .lt
  | .gt, a, b => a.order? b == some .gt
  | .le, a, b => a.order? b == some .lt || a.order? b == some .eq
  | .ge, a, b => a.order? b == some .gt || a.order? b == some .eq
  | .mem, a, b => b.holds a

/-- Looks a record up by two texts; other values name no record. -/
def fetchRecord (source : RecordSource) : Value → Value → Value
  | .text collection, .text id => ((source collection id).map Value.object).getD .null
  | _, _ => .null

def Builtin.apply (source : Option RecordSource) : Builtin → Value → Value → Except EvalFault Value
  | .get, a, b =>
    match source with
    | some fetch => .ok (fetchRecord fetch a b)
    | none => .error .noSource
  | .isOwner, a, b => .ok (.bool (a.owns b))
  | .contains, a, b => .ok (.bool (a.holds b))
  | .startsWith, .text s, .text part => .ok (.bool (part.toList.isPrefixOf s.toList))
  | .endsWith, .text s, .text part => .ok (.bool (part.toList.isSuffixOf s.toList))
  | _, _, _ => .ok (.bool false)

/-- Follows a dotted path through nested objects; `null` where it leads nowhere. -/
def followPath (context : Record) (path : String) : Value :=
  (pieces '.' path.toList).foldl
    (fun value piece =>
      match value with
      | .object members => Record.field members (String.ofList piece)
      | _ => .null)
    (.object context)

mutual

/-- The value of a rule in a context of named values. `and` and `or` do not look at their right
operand when the left one decides; of two faults the one met first counts. -/
def Expr.evaluate (context : Record) (source : Option RecordSource) : Expr → Except EvalFault Value
  | .literal value => .ok value
  | .path name => .ok (followPath context name)
  | .list items => (evaluateAll context source items).map .array
  | .unary .not operand => do
    let value ← operand.evaluate context source
    .ok (.bool !value.truthy)
  | .unary (.unknown sign) operand => .error (.notEvaluable (.unary (.unknown sign) operand))
  | .binary left .and right => do
    let first ← left.evaluate context source
    if first.truthy then
      let second ← right.evaluate context source
      .ok (.bool second.truthy)
    else .ok (.bool false)
  | .binary left .or right => do
    let first ← left.evaluate context source
    if first.truthy then .ok (.bool true)
    else
      let second ← right.evaluate context source
      .ok (.bool second.truthy)
  | .binary left (.comparison c) right => do
    let first ← left.evaluate context source
    let second ← right.evaluate context source
    .ok (.bool (c.test first second))
  | .binary left (.unknown sign) right => do
    let _ ← left.evaluate context source
    let _ ← right.evaluate context source
    .error (.unknownSign sign)
  | .call name arguments =>
    match Builtin.ofName? name with
    | none => .error (.unknownFunction name)
    | some builtin =>
      if arguments.length ≠ 2 then .error (.argumentCount name)
      else do
        match ← evaluateAll context source arguments with
        | [first, second] => builtin.apply source first second
        | _ => .error (.argumentCount name)
termination_by structural e => e

def evaluateAll (context : Record) (source : Option RecordSource) :
    List Expr → Except EvalFault (List Value)
  | [] => .ok []
  | e :: rest => do
    let value ← e.evaluate context source
    let values ← evaluateAll context source rest
    .ok (value :: values)
termination_by structural es => es

end

end GuardedRecords
