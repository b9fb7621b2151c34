import GuardedRecords.Rule.Token
import GuardedRecords.Json.Display

namespace GuardedRecords

/-- The signs between two operands. A sign without a meaning can be written down too. -/
inductive Connective
  | and
  | or
  | comparison (c : Comparison)
  | unknown (sign : String)
  deriving DecidableEq

def Connective.sign : Connective → String
  | .and => "and"
  | .or => "or"
  | .comparison c => c.symbol
  | .unknown sign => sign

def Connective.ofSign (sign : String) : Connective :=
  (List.lookup sign [("and", .and), ("or", .or), ("==", .comparison .eq), ("!=", .comparison .ne),
    ("<", .comparison .lt), (">", .comparison .gt), ("<=", .comparison .le),
    (">=", .comparison .ge), ("in", .comparison .mem)]).getD (.unknown sign)

/-- The signs before one operand. -/
inductive Modifier
  | not
  | unknown (sign : String)
  deriving DecidableEq

def Modifier.sign : Modifier → String
  | .not => "not"
  | .unknown sign => sign

def Modifier.ofSign (sign : String) : Modifier := if sign = "not" then .not else .unknown sign

/-- The tree of a rule. -/
inductive Expr
  | literal (value : Value)
  | path (name : String)
  | unary (op : Modifier) (operand : Expr)
  | binary (left : Expr) (op : Connective) (right : Expr)
  | call (function : String) (arguments : List Expr)
  | list (items : List Expr)
  deriving Inhabited

mutual

/-- A tree written out for a message. -/
def Expr.display : Expr → String
  | .literal value => s!"Literal(value={value.display})"
  | .path name => s!"Variable(name={quoted name})"
  | .unary op operand => s!"UnaryOp(operator={quoted op.sign}, operand={operand.display})"
  | .binary left op right =>
    s!"BinaryOp(left={left.display}, operator={quoted op.sign}, right={right.display})"
  | .call function arguments =>
    s!"FunctionCall(name={quoted function}, arguments=[" ++
      ", ".intercalate (displayAll arguments) ++ "])"
  | .list items => "ListLiteral(items=[" ++ ", ".intercalate (displayAll items) ++ "])"
termination_by structural e => e

def displayAll : List Expr → List String
  | [] => []
  | e :: rest => e.display :: displayAll rest
termination_by structural es => es

end

end GuardedRecords
