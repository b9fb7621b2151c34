import GuardedRecords.Text.Quoted

namespace GuardedRecords

/-- Bytes of a document or of a request. -/
abbrev Bytes := List UInt8

/-- What is wrong with a sequence of bytes as UTF-8. -/
inductive Utf8Flaw
  | badStart
  | badContinuation
  | endOfData
  deriving DecidableEq

/-- A flaw with the bytes that make no character and the place of the first of them. -/
structure Utf8Fault where
  flaw : Utf8Flaw
  offset : Nat
  bytes : Bytes

/-- A character of which some bytes are read: these bytes, the bits they give, how many bytes
are missing, and the range of the next one. -/
structure BegunChar where
  bytes : Bytes
  code : Nat
  missing : Nat
  low : Nat := 0x80
  high : Nat := 0xBF

/-- What the bytes so far say: the character or the fault that is now certain, if one is, and
the character that has begun. -/
structure Utf8Step where
  found : List (Except Utf8Fault Char) := []
  begun : Option BegunChar := none

/-- A byte at the start of a character. After some first bytes the second one is restricted: no
character has two encodings, surrogates have none, and there are none past the last code point. -/
def utf8First (offset : Nat) (b : UInt8) : Utf8Step :=
  let n := b.toNat
  if n < 0x80 then { found := [.ok (Char.ofNat n)] }
  else if n < 0xC2 then { found := [.error ⟨.badStart, offset, [b]⟩] }
  else if n < 0xE0 then { begun := some { bytes := [b], code := n - 0xC0, missing := 1 } }
  else if n < 0xF0 then
    let low := if n = 0xE0 then 0xA0 else 0x80
    let high := if n = 0xED then 0x9F else 0xBF
    { begun := some ⟨[b], n - 0xE0, 2, low, high⟩ }
  else if n < 0xF5 then
    let low := if n = 0xF0 then 0x90 else 0x80
    let high := if n = 0xF4 then 0x8F else 0xBF
    { begun := some ⟨[b], n - 0xF0, 3, low, high⟩ }
  else { found := [.error ⟨.badStart, offset, [b]⟩] }

/-- The fault of a character that has begun and cannot go on before `offset`. -/
def BegunChar.fault (begun : BegunChar) (flaw : Utf8Flaw) (offset : Nat) :
    Except Utf8Fault Char :=
  .error ⟨flaw, offset - begun.bytes.length, begun.bytes⟩

/-- The next byte. One that cannot continue a character starts a new one. -/
def utf8Next (offset : Nat) (begun : Option BegunChar) (b : UInt8) : Utf8Step :=
  match begun with
  | none => utf8First offset b
  | some char =>
    if char.low ≤ b.toNat ∧ b.toNat ≤ char.high then
      let code := char.code * 64 + (b.toNat - 0x80)
      if char.missing ≤ 1 then { found := [.ok (Char.ofNat code)] }
      else { begun := some { bytes := char.bytes ++ [b], code := code, missing := char.missing - 1 } }
    else
      let step := utf8First offset b
      { step with found := char.fault .badContinuation offset :: step.found }

/-- The characters of a sequence of bytes, with a fault wherever bytes make none. -/
def utf8Scan (offset : Nat) (begun : Option BegunChar) : Bytes → List (Except Utf8Fault Char)
  | [] =>
    match begun with
    | none => []
    | some char => [char.fault .endOfData offset]
  | b :: rest =>
    let step := utf8Next offset begun b
    step.found ++ utf8Scan (offset + 1) step.begun rest

/-- The characters of a sequence of bytes that is UTF-8 throughout. -/
def decodeUtf8 (bytes : Bytes) : Except Utf8Fault (List Char) := (utf8Scan 0 none bytes).mapM id

/-- The characters of a sequence of bytes, with the replacement character for every fault. -/
def decodeUtf8Leniently (bytes : Bytes) : List Char :=
  (utf8Scan 0 none bytes).map fun
    | .ok c => c
    | .error _ => '\uFFFD'

def Utf8Flaw.message : Utf8Flaw → String
  | .badStart => "invalid start byte"
  | .badContinuation => "invalid continuation byte"
  | .endOfData => "unexpected end of data"

def Utf8Fault.message (fault : Utf8Fault) : String :=
  let place :=
    match fault.bytes with
    | [b] => "byte 0x" ++ String.ofList (hexDigits 2 b.toNat) ++ s!" in position {fault.offset}"
    | bytes => s!"bytes in position {fault.offset}-{fault.offset + bytes.length - 1}"
  "'utf-8' codec can't decode " ++ place ++ ": " ++ fault.flaw.message

end GuardedRecords
