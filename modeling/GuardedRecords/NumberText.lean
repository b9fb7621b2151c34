import GuardedRecords.Json.Reader

namespace GuardedRecords

/-- The blanks that may surround a number among ASCII characters. -/
def isAsciiSpace (c : Char) : Bool := c = ' ' || ('\t' ≤ c && c ≤ '\r')

/-- A character of a number as ASCII: decimal digits of all scripts and all wide blanks have a
counterpart. -/
def asciiNumeral? (c : Char) : Option Char :=
  if c.toNat < 128 then some c
  else if isBlank c then some ' '
  else (decimalValue? c).map Nat.digitChar

/-- Takes out underscores, which may stand between two digits only; `last` is the character
before. -/
def joinDigitGroups? (last : Char) : List Char → Option (List Char)
  | [] => if last = '_' then none else some []
  | c :: rest =>
    if c = '_' then (if isAsciiDigit last then joinDigitGroups? c rest else none)
    else if last = '_' ∧ !isAsciiDigit c then none
    else (joinDigitGroups? c rest).map (c :: ·)

/-- Digits with at most one point among them, then perhaps an exponent. -/
def Binary64.ofUnsigned? (negative : Bool) (cs : List Char) : Option Binary64 :=
  let whole := cs.takeWhile isAsciiDigit
  let afterWhole := cs.dropWhile isAsciiDigit
  let (fraction, afterFraction) : List Char × List Char :=
    match afterWhole with
    | '.' :: rest => (rest.takeWhile isAsciiDigit, rest.dropWhile isAsciiDigit)
    | _ => ([], afterWhole)
  let digits := whole ++ fraction
  if digits.isEmpty then none else
  let scaled (power : Int) :=
    Binary64.ofDecimal negative (decimalNumber digits) (power - fraction.length)
  match afterFraction with
  | [] => some (scaled 0)
  | _ =>
    match exponentPart? afterFraction with
    | some (power, size) => if afterFraction.length = size then some (scaled power) else none
    | none => none

/-- The number that a text spells: a sign, digits with a point and an exponent, or the words
for an infinity and for a not-a-number, with blanks around it. -/
def Binary64.ofText? (s : String) : Option Binary64 := do
  let plain ← s.toList.mapM asciiNumeral?
  let trimmed := ((plain.dropWhile isAsciiSpace).reverse.dropWhile isAsciiSpace).reverse
  let cs ← joinDigitGroups? ' ' trimmed
  let (negative, unsigned) : Bool × List Char :=
    match cs with
    | '-' :: rest => (true, rest)
    | '+' :: rest => (false, rest)
    | _ => (false, cs)
  let word := String.ofList (unsigned.map Char.toLower)
  if word = "inf" ∨ word = "infinity" then return .infinite negative
  else if word = "nan" then return .nan 0
  else Binary64.ofUnsigned? negative unsigned

/-- The integer that a text spells: a sign and digits, with blanks around it. -/
def integerOfNumeral? (s : String) : Option Int := do
  let plain ← s.toList.mapM asciiNumeral?
  let trimmed := ((plain.dropWhile isAsciiSpace).reverse.dropWhile isAsciiSpace).reverse
  let cs ← joinDigitGroups? ' ' trimmed
  let (negative, digits) : Bool × List Char :=
    match cs with
    | '-' :: rest => (true, rest)
    | '+' :: rest => (false, rest)
    | _ => (false, cs)
  if digits.isEmpty || !digits.all isAsciiDigit || integerDigitLimit < digits.length then none
  else
    let size : Int := decimalNumber digits
    some (if negative then -size else size)

end GuardedRecords
