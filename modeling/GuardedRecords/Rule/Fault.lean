import GuardedRecords.Rule.Token
import GuardedRecords.Json.Reader
import GuardedRecords.Text.Quoted

namespace GuardedRecords

/-- Why a text is no rule. -/
inductive SyntaxFault
  | emptyRule
  | trailing
  | unexpected (found : TokenKind)
  | expected (wanted found : TokenKind)
  | unterminatedText
  | loneEqual
  | invalidCharacter (c : Char)
  deriving DecidableEq

def SyntaxFault.message : SyntaxFault → String
  | .emptyRule => "Empty expression"
  | .trailing => "Unexpected token after expression"
  | .unexpected found => s!"Unexpected token: {found.label}"
  | .expected wanted found => s!"Expected {wanted.label}, found {found.label}"
  | .unterminatedText => "Unterminated string literal"
  | .loneEqual => "Unexpected character '='. Did you mean '=='?"
  | .invalidCharacter c => s!"Invalid character '{c}'"

/-- A fault and the offset at which it was found. -/
structure SyntaxError where
  fault : SyntaxFault
  position : Nat
  deriving DecidableEq

def SyntaxError.message (error : SyntaxError) : String :=
  s!"{error.fault.message} at position {error.position}"

/-- Why digits do not spell a number. Digits of all scripts may stand in a number, but the
ornamental ones have no place value; and an integer has a greatest length. -/
inductive NumeralFault
  | integer (digits : String)
  | decimal (digits : String)
  | overlong (digits : Nat)
  deriving DecidableEq

/-- An unreadable integer is shown by the first 200 characters of its quoted form. -/
def NumeralFault.message : NumeralFault → String
  | .integer digits =>
    s!"invalid literal for int() with base 10: {String.ofList ((quoted digits).toList.take 200)}"
  | .decimal digits => s!"could not convert string to float: {quoted digits}"
  | .overlong digits => (ReadFault.overlongInteger digits).message

/-- A rule text is refused for its form or for a number in it. -/
inductive RuleFault
  | form (error : SyntaxError)
  | numeral (fault : NumeralFault)
  deriving DecidableEq

def RuleFault.message : RuleFault → String
  | .form error => error.message
  | .numeral fault => fault.message

end GuardedRecords
