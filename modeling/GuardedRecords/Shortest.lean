import GuardedRecords.Binary64

namespace GuardedRecords

/-- A positive number `numer / denom` with the ends of the interval of numbers that round to it,
all three over one denominator. -/
structure RoundingInterval where
  low : Nat
  value : Nat
  high : Nat
  denom : Nat
  closed : Bool

/-- The numbers that round to `mantissa · 2 ^ exponent`: half a step to either side, a quarter
step below a power of two. The ends belong to it when the mantissa is even. -/
def RoundingInterval.around (mantissa : Nat) (exponent : Int) : RoundingInterval :=
  let up := Nat.pow 2 (exponent - 2).toNat
  let down := Nat.pow 2 (2 - exponent).toNat
  let below := if mantissa = Nat.pow 2 52 ∧ -1074 < exponent then 1 else 2
  ⟨(4 * mantissa - below) * up, 4 * mantissa * up, (4 * mantissa + 2) * up, down,
    mantissa % 2 == 0⟩

def RoundingInterval.holds (i : RoundingInterval) (num den : Nat) : Bool :=
  if i.closed then i.low * den ≤ num * i.denom && num * i.denom ≤ i.high * den
  else i.low * den < num * i.denom && num * i.denom < i.high * den

/-- The place of the leading decimal digit of `num / den`: `p` with `10 ^ p ≤ num / den < 10 ^ (p + 1)`. -/
def leadingPlace (num den : Nat) : Int :=
  if den ≤ num then (decimalLength (num / den) : Int) - 1
  else -(decimalLength ((den + num - 1) / num - 1) : Int)

/-- The point of the grid of multiples of `10 ^ place` inside the interval, the nearer of the
two neighbours of the value if both are, of two equally near ones the even one. -/
def RoundingInterval.gridPoint? (i : RoundingInterval) (place : Int) : Option Nat :=
  let up := Nat.pow 10 place.toNat
  let down := Nat.pow 10 (-place).toNat
  let under := i.value * down / (i.denom * up)
  let above := under + 1
  let fits (n : Nat) := i.holds (n * up) down
  let gapUnder := i.value * down - under * up * i.denom
  let gapOver := above * up * i.denom - i.value * down
  let nearer :=
    if gapUnder < gapOver then under
    else if gapOver < gapUnder then above
    else if under % 2 = 0 then under else above
  if fits under && fits above then some nearer
  else if fits under then some under
  else if fits above then some above
  else none

/-- The fewest decimal digits that read back as the number, with the place of the last one. -/
def Binary64.shortest (mantissa : Nat) (exponent : Int) : Nat × Int :=
  let i := RoundingInterval.around mantissa exponent
  let top := leadingPlace i.value i.denom
  let attempt (count : Nat) : Option (Nat × Int) :=
    (i.gridPoint? (top - count)).map fun n => (n, top - count)
  ((List.range 17).findSome? attempt).getD (i.value / i.denom, 0)

/-- The text of a binary64 number: shortest digits, positional from `1e-4` up to `1e16`, with
`.0` after a whole number, and with a signed exponent of two digits or more outside. -/
def Binary64.display : Binary64 → String
  | .nan _ => "nan"
  | .infinite negative => if negative then "-inf" else "inf"
  | .finite negative mantissa exponent =>
    let sign := if negative then "-" else ""
    if mantissa = 0 then sign ++ "0.0" else
    let (n, place) := Binary64.shortest mantissa exponent
    let raw := Nat.toDigits 10 n
    let digits := (raw.reverse.dropWhile (· == '0')).reverse
    let point : Int := (raw.length : Int) + place
    if -4 < point ∧ point ≤ 16 then
      if point ≤ 0 then
        sign ++ "0." ++ String.ofList (List.replicate (-point).toNat '0' ++ digits)
      else
        let whole := digits.take point.toNat
        let padding := List.replicate (point.toNat - whole.length) '0'
        let rest := digits.drop point.toNat
        sign ++ String.ofList (whole ++ padding) ++ "." ++
          (if rest.isEmpty then "0" else String.ofList rest)
    else
      let power := point - 1
      let size := Nat.toDigits 10 power.natAbs
      let padded := if size.length < 2 then '0' :: size else size
      let tail := digits.drop 1
      sign ++ String.ofList (digits.take 1) ++
        (if tail.isEmpty then "" else "." ++ String.ofList tail) ++
        (if power < 0 then "e-" else "e+") ++ String.ofList padded

end GuardedRecords
