namespace GuardedRecords

/-- A binary64 number: a signed multiple `± mantissa · 2 ^ exponent`, an infinity, or a
not-a-number. A not-a-number keeps the occurrence it was read from, because two members of a
container count as equal when they are one and the same occurrence. -/
inductive Binary64
  | finite (negative : Bool) (mantissa : Nat) (exponent : Int)
  | infinite (negative : Bool)
  | nan (origin : Nat)
  deriving DecidableEq

/-- The number whose 64 bits are given: sign, eleven bits of exponent, fifty-two of fraction. -/
def Binary64.ofBits (bits : Nat) : Binary64 :=
  let negative := bits / Nat.pow 2 63 % 2 == 1
  let biased : Nat := bits / Nat.pow 2 52 % Nat.pow 2 11
  let fraction := bits % Nat.pow 2 52
  if biased = 2047 then
    if fraction = 0 then .infinite negative else .nan 0
  else if biased = 0 then .finite negative fraction (-1074)
  else .finite negative (Nat.pow 2 52 + fraction) ((biased : Int) - 1075)

/-- The 64 bits of a number; every not-a-number has the bits of the quiet one. -/
def Binary64.toBits : Binary64 → Nat
  | .nan _ => 0x7ff8000000000000
  | .infinite negative => (if negative then Nat.pow 2 63 else 0) + 2047 * Nat.pow 2 52
  | .finite negative mantissa exponent =>
    (if negative then Nat.pow 2 63 else 0) +
      if mantissa < Nat.pow 2 52 then mantissa
      else (exponent + 1075).toNat * Nat.pow 2 52 + (mantissa - Nat.pow 2 52)

def Binary64.isNaN : Binary64 → Bool
  | .nan _ => true
  | _ => false

/-- An exact number without the not-a-numbers: an integer multiple of a power of two, or a
point beyond all of them. Integers and binary64 numbers are compared through it. -/
inductive Extent
  | below
  | dyadic (multiple : Int) (exponent : Int)
  | above

def Extent.ofInt (n : Int) : Extent := .dyadic n 0

def Binary64.extent? : Binary64 → Option Extent
  | .nan _ => none
  | .infinite negative => some (if negative then .below else .above)
  | .finite negative mantissa exponent =>
    some (.dyadic (if negative then -(mantissa : Int) else mantissa) exponent)

/-- The order of two exact numbers: dyadic ones are brought to their smaller exponent. -/
def Extent.compare : Extent → Extent → Ordering
  | .below, .below => .eq
  | .below, _ => .lt
  | _, .below => .gt
  | .above, .above => .eq
  | .above, _ => .gt
  | _, .above => .lt
  | .dyadic m e, .dyadic n f =>
    let least := min e f
    Ord.compare (m * (Nat.pow 2 (e - least).toNat : Nat)) (n * (Nat.pow 2 (f - least).toNat : Nat))

/-- The integer part, toward zero; infinities and not-a-numbers have none. -/
def Binary64.truncate? : Binary64 → Option Int
  | .finite negative mantissa exponent =>
    let size : Nat :=
      if 0 ≤ exponent then mantissa * Nat.pow 2 exponent.toNat
      else mantissa / Nat.pow 2 (-exponent).toNat
    some (if negative then -(size : Int) else size)
  | _ => none

/-- The nearest integer to `num / den`; a half goes to the even neighbour. -/
def roundHalfEven (num den : Nat) : Nat :=
  let whole := num / den
  let rest := num % den
  if 2 * rest < den then whole
  else if den < 2 * rest then whole + 1
  else if whole % 2 = 0 then whole else whole + 1

/-- The binary64 number nearest to `± num / den`, a tie going to the even mantissa. -/
def Binary64.ofRatio (negative : Bool) (num den : Nat) : Binary64 :=
  if num = 0 then .finite negative 0 (-1074) else
  let guess : Int := (Nat.log2 num : Int) - Nat.log2 den
  let atLeast : Bool :=
    if 0 ≤ guess then den * Nat.pow 2 guess.toNat ≤ num else den ≤ num * Nat.pow 2 (-guess).toNat
  let leading := if atLeast then guess else guess - 1
  let exponent := max (leading - 52) (-1074)
  let mantissa :=
    if 0 ≤ exponent then roundHalfEven num (den * Nat.pow 2 exponent.toNat)
    else roundHalfEven (num * Nat.pow 2 (-exponent).toNat) den
  let carried := mantissa = Nat.pow 2 53
  let exponent := if carried then exponent + 1 else exponent
  let mantissa := if carried then Nat.pow 2 52 else mantissa
  if 971 < exponent then .infinite negative else .finite negative mantissa exponent

/-- How many decimal digits a natural number is written with. -/
def decimalLength (n : Nat) : Nat := (Nat.toDigits 10 n).length

/-- The binary64 number nearest to `± digits · 10 ^ exponent`. Far outside the range of
binary64 the answer is known without forming the power of ten. -/
def Binary64.ofDecimal (negative : Bool) (digits : Nat) (exponent : Int) : Binary64 :=
  if digits = 0 then .finite negative 0 (-1074) else
  let leading := (decimalLength digits : Int) + exponent
  if 400 < leading then .infinite negative
  else if leading < -400 then .finite negative 0 (-1074)
  else if 0 ≤ exponent then ofRatio negative (digits * Nat.pow 10 exponent.toNat) 1
  else ofRatio negative digits (Nat.pow 10 (-exponent).toNat)

end GuardedRecords
