import GuardedRecords.Json.Display

namespace GuardedRecords

/-- One character of a text inside double quotes. -/
def writeChar (c : Char) : List Char :=
  if c = '"' then ['\\', '"']
  else if c = '\\' then ['\\', '\\']
  else if c = '\n' then ['\\', 'n']
  else if c = '\r' then ['\\', 'r']
  else if c = '\t' then ['\\', 't']
  else if c.toNat < 0x20 then '\\' :: 'u' :: hexDigits 4 c.toNat
  else [c]

/-- One character of a text inside double quotes, in printable ASCII. -/
def writeAsciiChar (c : Char) : List Char :=
  if c = '"' then ['\\', '"']
  else if c = '\\' then ['\\', '\\']
  else if c = '\n' then ['\\', 'n']
  else if c = '\r' then ['\\', 'r']
  else if c = '\t' then ['\\', 't']
  else if c = '\x0c' then ['\\', 'f']
  else if c = '\x08' then ['\\', 'b']
  else if 0x20 ≤ c.toNat ∧ c.toNat ≤ 0x7E then [c]
  else if c.toNat < 0x10000 then '\\' :: 'u' :: hexDigits 4 c.toNat
  else
    let rest := c.toNat - 0x10000
    '\\' :: 'u' :: hexDigits 4 (0xD800 + rest / 0x400) ++
      '\\' :: 'u' :: hexDigits 4 (0xDC00 + rest % 0x400)

/-- A binary64 number as JSON, with the words that the reader knows for a not-a-number and for
the infinities. -/
def Binary64.write : Binary64 → String
  | .finite negative mantissa exponent => (Binary64.finite negative mantissa exponent).display
  | .infinite negative => if negative then "-Infinity" else "Infinity"
  | .nan _ => "NaN"

/-- How JSON is written: the characters of texts, and what stands behind commas and colons. -/
structure JsonStyle where
  char : Char → List Char
  gap : List Char

/-- Without blanks, and with few escapes. -/
def JsonStyle.compact : JsonStyle := ⟨writeChar, []⟩

def JsonStyle.ascii : JsonStyle := ⟨writeAsciiChar, [' ']⟩

section Writing

variable (style : JsonStyle)

def writeText (s : String) : List Char := '"' :: s.toList.flatMap style.char ++ ['"']

mutual

def Value.writeIn : Value → List Char
  | .null => "null".toList
  | .bool b => (if b then "true" else "false").toList
  | .int n => (toString n).toList
  | .double x => x.write.toList
  | .text s => writeText style s
  | .array [] => "[]".toList
  | .array (v :: rest) => '[' :: v.writeIn ++ writeMoreItems rest ++ [']']
  | .object [] => "\x7b\x7d".toList
  | .object ((name, v) :: rest) =>
    '{' :: writeText style name ++ ':' :: style.gap ++ v.writeIn ++ writeMoreMembers rest ++ ['}']
termination_by structural v => v

/-- The items after the first, each behind a comma. -/
def writeMoreItems : List Value → List Char
  | [] => []
  | v :: rest => ',' :: style.gap ++ v.writeIn ++ writeMoreItems rest
termination_by structural vs => vs

/-- The members after the first, each behind a comma. -/
def writeMoreMembers : List (String × Value) → List Char
  | [] => []
  | (name, v) :: rest =>
    ',' :: style.gap ++ writeText style name ++ ':' :: style.gap ++ v.writeIn ++
      writeMoreMembers rest
termination_by structural vs => vs

end

end Writing

/-- A value as JSON without blanks. -/
def Value.write (v : Value) : List Char := v.writeIn .compact

end GuardedRecords
