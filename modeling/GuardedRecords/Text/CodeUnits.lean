import GuardedRecords.Text.Utf8

namespace GuardedRecords

/-- The numbers that the bytes spell in groups, the most significant byte of a group first or
last; none if the last group is not complete. -/
def codeUnits? (size : Nat) (bigEndian : Bool) (bytes : Bytes) : Option (List Nat) :=
  let number (group : Bytes) : Nat :=
    (if bigEndian then group else group.reverse).foldl (fun n b => 256 * n + b.toNat) 0
  if bytes.length % size ≠ 0 then none
  else
    some ((List.range (bytes.length / size)).map fun i => number ((bytes.drop (size * i)).take size))

/-- The characters of code units of sixteen bits; a high and a low surrogate make one character,
and no surrogate stands alone. -/
def charsOfUnits16? : List Nat → Option (List Char)
  | [] => some []
  | unit :: rest =>
    if unit < 0xD800 ∨ 0xE000 ≤ unit then (charsOfUnits16? rest).map (Char.ofNat unit :: ·)
    else
      match rest with
      | low :: more =>
        if unit < 0xDC00 ∧ 0xDC00 ≤ low ∧ low < 0xE000 then
          let code := 0x10000 + (unit - 0xD800) * 0x400 + (low - 0xDC00)
          (charsOfUnits16? more).map (Char.ofNat code :: ·)
        else none
      | [] => none

/-- The characters of code units of thirty-two bits, each of which is a code point. -/
def charsOfUnits32? (units : List Nat) : Option (List Char) :=
  units.mapM fun unit => if unit.isValidChar then some (Char.ofNat unit) else none

def decodeUtf16? (bigEndian : Bool) (bytes : Bytes) : Option (List Char) :=
  (codeUnits? 2 bigEndian bytes).bind charsOfUnits16?

def decodeUtf32? (bigEndian : Bool) (bytes : Bytes) : Option (List Char) :=
  (codeUnits? 4 bigEndian bytes).bind charsOfUnits32?

end GuardedRecords
