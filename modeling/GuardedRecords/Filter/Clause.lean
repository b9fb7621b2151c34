import GuardedRecords.Json.Reader
import GuardedRecords.Text.Case
import GuardedRecords.Text.Split

namespace GuardedRecords

/-- How a clause compares a property with its literal. Some spellings of `like` and `in` with
letters of other scripts are recognised as operators and yet stand for none. -/
inductive FilterOperator
  | le | lt | ge | gt | eq | like | mem
  | unknown (name : String)
  deriving DecidableEq

def FilterOperator.name : FilterOperator → String
  | .le => "<="
  | .lt => "<"
  | .ge => ">="
  | .gt => ">"
  | .eq => "="
  | .like => "like"
  | .mem => "in"
  | .unknown name => name

def FilterOperator.ofWord (word : String) : FilterOperator :=
  if word = "like" then .like else if word = "in" then .mem else .unknown word

/-- A comparison of one property with a literal. -/
structure Clause where
  property : String
  operator : FilterOperator
  value : Value

/-- Why a filter is refused. -/
inductive FilterFault
  | unreadable
  | mixedJunctions
  deriving DecidableEq

def FilterFault.message : FilterFault → String
  | .unreadable => "Could not parse WHERE clause, check your syntax."
  | .mixedJunctions => "Mixing AND and OR in one WHERE clause is not supported"

/-- The letters taken for a small ASCII letter when case does not matter. -/
def isCaseOf (letter c : Char) : Bool :=
  c.toLower = letter || (letter = 'i' && (c = '\u0130' || c = '\u0131')) || (letter = 'k' && c = '\u212a')

/-- The text after a word at its front, in any case, and the word as it is written there. -/
def afterWord? : List Char → List Char → Option (List Char × List Char)
  | [], s => some ([], s)
  | letter :: word, c :: s =>
    if isCaseOf letter c then (afterWord? word s).map fun r => (c :: r.1, r.2) else none
  | _ :: _, [] => none

/-- An operator word with blanks on both sides, and the text after it. -/
def wordOperator? (word : List Char) (s : List Char) : Option (FilterOperator × List Char) :=
  match s with
  | c :: _ =>
    if isBlank c then
      match afterWord? word (trimLeft s) with
      | some (spelled, d :: rest) =>
        if isBlank d then some (.ofWord (lower (String.ofList spelled)), trimLeft rest) else none
      | _ => none
    else none
  | [] => none

/-- The operator at the front of a text, and the text after it, which must not be empty. -/
def operator? (s : List Char) : Option (FilterOperator × List Char) :=
  match s with
  | '<' :: '=' :: c :: rest => some (.le, c :: rest)
  | '<' :: c :: rest => some (.lt, c :: rest)
  | '>' :: '=' :: c :: rest => some (.ge, c :: rest)
  | '>' :: c :: rest => some (.gt, c :: rest)
  | '=' :: c :: rest => some (.eq, c :: rest)
  | _ =>
    match (wordOperator? "like".toList s).orElse fun _ => wordOperator? "in".toList s with
    | some (op, c :: rest) => some (op, c :: rest)
    | _ => none

/-- The text before the first operator, the operator, and the text after it. -/
def findOperator? : List Char → Option (List Char × FilterOperator × List Char)
  | [] => none
  | c :: rest =>
    match operator? (c :: rest) with
    | some (op, after) => some ([], op, after)
    | none => (findOperator? rest).map fun r => (c :: r.1, r.2)

/-- The body of a list in parentheses. -/
def listBody? (s : List Char) : Option (List Char) :=
  match s with
  | '(' :: rest => if rest.getLast? = some ')' then some rest.dropLast else none
  | _ => none

/-- The literal of a clause; for `in` a list in parentheses is read as a JSON array. -/
def readLiteral? (op : FilterOperator) (s : List Char) : Option Value :=
  let source :=
    match op with
    | .mem => (listBody? s).map fun body => '[' :: body ++ [']']
    | _ => some s
  source.bind fun cs => (Value.read (String.ofList cs)).toOption

/-- Reads one clause: a property of at least one character, an operator and a literal. -/
def Clause.parse (s : List Char) : Except FilterFault Clause :=
  match trim s with
  | [] => .error .unreadable
  | c :: rest =>
    match findOperator? rest with
    | none => .error .unreadable
    | some (before, op, after) =>
      match readLiteral? op (trim after) with
      | some value => .ok ⟨String.ofList (trim (c :: before)), op, value⟩
      | none => .error .unreadable

end GuardedRecords
