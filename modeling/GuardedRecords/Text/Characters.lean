import GuardedRecords.Text.LetterTables
import GuardedRecords.Text.PrintableTable

namespace GuardedRecords

/-- Whether the code point of `c` lies in one of the closed ranges. -/
def inRanges (ranges : List (Nat × Nat)) (c : Char) : Bool :=
  ranges.any fun r => r.1 ≤ c.toNat && c.toNat ≤ r.2

/-- Blanks of all scripts: the line ends and separators among the controls, and the spaces. -/
def isBlank (c : Char) : Bool :=
  inRanges [(9, 13), (28, 32), (133, 133), (160, 160), (5760, 5760), (8192, 8202), (8232, 8233),
    (8239, 8239), (8287, 8287), (12288, 12288)] c

def isAsciiDigit (c : Char) : Bool := '0' ≤ c && c ≤ '9'

def isLetter (c : Char) : Bool := inRanges letterRanges c

def isDecimal (c : Char) : Bool := inRanges decimalRanges c

/-- Digits, whether or not they make up decimal numbers. -/
def isDigit (c : Char) : Bool := isDecimal c || inRanges ornamentalDigitRanges c

def isLetterOrNumeral (c : Char) : Bool := isLetter c || inRanges numeralRanges c

def isPrintable (c : Char) : Bool := inRanges printableRanges c

/-- The value of a decimal digit of any script. -/
def decimalValue? (c : Char) : Option Nat :=
  (decimalRanges.find? fun r => r.1 ≤ c.toNat && c.toNat ≤ r.2).map fun r => (c.toNat - r.1) % 10

end GuardedRecords
