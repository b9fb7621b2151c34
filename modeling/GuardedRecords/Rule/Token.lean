import GuardedRecords.Json.Value

namespace GuardedRecords

/-- The relations a rule can test between two values. -/
inductive Comparison
  | eq | ne | lt | gt | le | ge | mem
  deriving DecidableEq

def Comparison.symbol : Comparison → String
  | .eq => "=="
  | .ne => "!="
  | .lt => "<"
  | .gt => ">"
  | .le => "<="
  | .ge => ">="
  | .mem => "in"

/-- The words and signs of a rule. -/
inductive Lexeme
  | integer (n : Nat)
  | decimal (x : Binary64)
  | text (s : String)
  | truth (b : Bool)
  | null
  | name (s : String)
  | comparison (c : Comparison)
  | and
  | or
  | not
  | openParen
  | closeParen
  | openBracket
  | closeBracket
  | comma
  deriving DecidableEq

/-- The kinds of lexemes, and the end of the rule. -/
inductive TokenKind
  | integer | decimal | text | truth | null | name
  | comparison (c : Comparison)
  | and | or | not
  | openParen | closeParen | openBracket | closeBracket | comma
  | finish
  deriving DecidableEq

def Lexeme.kind : Lexeme → TokenKind
  | .integer _ => .integer
  | .decimal _ => .decimal
  | .text _ => .text
  | .truth _ => .truth
  | .null => .null
  | .name _ => .name
  | .comparison c => .comparison c
  | .and => .and
  | .or => .or
  | .not => .not
  | .openParen => .openParen
  | .closeParen => .closeParen
  | .openBracket => .openBracket
  | .closeBracket => .closeBracket
  | .comma => .comma

/-- The name of a kind in messages. -/
def TokenKind.label : TokenKind → String
  | .integer => "INTEGER"
  | .decimal => "FLOAT"
  | .text => "STRING"
  | .truth => "BOOLEAN"
  | .null => "NULL"
  | .name => "IDENTIFIER"
  | .comparison .eq => "EQ"
  | .comparison .ne => "NEQ"
  | .comparison .lt => "LT"
  | .comparison .gt => "GT"
  | .comparison .le => "LTE"
  | .comparison .ge => "GTE"
  | .comparison .mem => "IN"
  | .and => "AND"
  | .or => "OR"
  | .not => "NOT"
  | .openParen => "LPAREN"
  | .closeParen => "RPAREN"
  | .openBracket => "LBRACKET"
  | .closeBracket => "RBRACKET"
  | .comma => "COMMA"
  | .finish => "EOF"

/-- The value that a lexeme carries besides its kind. -/
def Lexeme.value : Lexeme → Value
  | .integer n => .int n
  | .decimal x => .double x
  | .text s => .text s
  | .truth b => .bool b
  | .null => .null
  | .name s => .text s
  | .comparison c => .text c.symbol
  | .and => .text "and"
  | .or => .text "or"
  | .not => .text "not"
  | .openParen => .text "("
  | .closeParen => .text ")"
  | .openBracket => .text "["
  | .closeBracket => .text "]"
  | .comma => .text ","

/-- A lexeme with the offset at which it begins. -/
structure Token where
  lexeme : Lexeme
  position : Nat
  deriving DecidableEq

end GuardedRecords
