import GuardedRecords.Json.Value
import GuardedRecords.Text.Characters

namespace GuardedRecords

/-- Why a text is not read as JSON. -/
inductive ReadFault
  | expectedValue
  | extraData
  | expectedName
  | expectedColon
  | expectedComma
  | unterminatedText
  | controlCharacter
  | badEscape
  | badCodeEscape
  | byteOrderMark
  | overlongInteger (digits : Nat)
  deriving DecidableEq

/-- A fault with the part of the text that begins where it was found. -/
structure ReadStop where
  fault : ReadFault
  rest : List Char

/-- The most digits an integer may be written with. -/
def integerDigitLimit : Nat := 4300

def isJsonBlank (c : Char) : Bool := c = ' ' || c = '\t' || c = '\n' || c = '\r'

def skipJsonBlanks (s : List Char) : List Char := s.dropWhile isJsonBlank

def hexValue? (c : Char) : Option Nat :=
  if '0' ≤ c ∧ c ≤ '9' then some (c.toNat - '0'.toNat)
  else if 'a' ≤ c ∧ c ≤ 'f' then some (c.toNat - 'a'.toNat + 10)
  else if 'A' ≤ c ∧ c ≤ 'F' then some (c.toNat - 'A'.toNat + 10)
  else none

def hexNumber? (cs : List Char) : Option Nat :=
  cs.foldl (fun acc c => acc.bind fun n => (hexValue? c).map fun d => 16 * n + d) (some 0)

/-- What a quoted text is made of: characters, and units of sixteen bits given by escapes. -/
inductive TextUnit
  | char (c : Char)
  | code (n : Nat)

def shortEscape? : Char → Option Char
  | '"' => some '"'
  | '\\' => some '\\'
  | '/' => some '/'
  | 'b' => some '\x08'
  | 'f' => some '\x0c'
  | 'n' => some '\n'
  | 'r' => some '\r'
  | 't' => some '\t'
  | _ => none

/-- Reads on to the closing quote; `opening` is the text from the opening quote on. -/
def scanText (opening : List Char) : List Char → Except ReadStop (List TextUnit × List Char)
  | [] => .error ⟨.unterminatedText, opening⟩
  | '"' :: rest => .ok ([], rest)
  | '\\' :: [] => .error ⟨.unterminatedText, opening⟩
  | '\\' :: 'u' :: a :: b :: c :: d :: rest =>
    match rest.isEmpty, hexNumber? [a, b, c, d] with
    | false, some n => (scanText opening rest).map fun r => (.code n :: r.1, r.2)
    | _, _ => .error ⟨.badCodeEscape, 'u' :: a :: b :: c :: d :: rest⟩
  | '\\' :: 'u' :: rest => .error ⟨.badCodeEscape, 'u' :: rest⟩
  | '\\' :: c :: rest =>
    match shortEscape? c with
    | some e => (scanText opening rest).map fun r => (.char e :: r.1, r.2)
    | none => .error ⟨.badEscape, '\\' :: c :: rest⟩
  | c :: rest =>
    if c.toNat < 0x20 then .error ⟨.controlCharacter, c :: rest⟩
    else (scanText opening rest).map fun r => (.char c :: r.1, r.2)

/-- The characters of a quoted text: a high and a low surrogate unit make one character, and a
surrogate on its own has the replacement character in its place. -/
def joinUnits : List TextUnit → List Char
  | [] => []
  | .char c :: rest => c :: joinUnits rest
  | .code n :: .code m :: rest =>
    if 0xD800 ≤ n ∧ n < 0xDC00 ∧ 0xDC00 ≤ m ∧ m < 0xE000 then
      Char.ofNat (0x10000 + (n - 0xD800) * 0x400 + (m - 0xDC00)) :: joinUnits rest
    else (if 0xD800 ≤ n ∧ n < 0xE000 then '\uFFFD' else Char.ofNat n) :: joinUnits (.code m :: rest)
  | .code n :: rest => (if 0xD800 ≤ n ∧ n < 0xE000 then '\uFFFD' else Char.ofNat n) :: joinUnits rest

/-- A text whose opening quote is already read. -/
def readText (opening s : List Char) : Except ReadStop (String × List Char) :=
  (scanText opening s).map fun r => (String.ofList (joinUnits r.1), r.2)

/-- The number that ASCII digits spell in base ten. -/
def decimalNumber (digits : List Char) : Nat :=
  digits.foldl (fun n c => 10 * n + (c.toNat - '0'.toNat)) 0

/-- The digits before the point: a single zero, or a run that does not begin with zero. -/
def wholeDigits (s : List Char) : List Char :=
  match s with
  | '0' :: _ => ['0']
  | _ => s.takeWhile isAsciiDigit

/-- The digits after a point, if the text goes on with a point and a digit. -/
def fractionDigits (s : List Char) : List Char :=
  match s with
  | '.' :: rest => rest.takeWhile isAsciiDigit
  | _ => []

/-- The part of a number after its digits: `e`, perhaps a sign, and at least one digit. The
answer is the exponent and the number of characters. -/
def exponentPart? (s : List Char) : Option (Int × Nat) :=
  match s with
  | e :: rest =>
    if e = 'e' ∨ e = 'E' then
      let (negative, unsigned, signs) : Bool × List Char × Nat :=
        match rest with
        | '-' :: more => (true, more, 1)
        | '+' :: more => (false, more, 1)
        | _ => (false, rest, 0)
      let digits := unsigned.takeWhile isAsciiDigit
      if digits.isEmpty then none
      else
        let size : Int := decimalNumber digits
        some (if negative then -size else size, 1 + signs + digits.length)
    else none
  | [] => none

/-- A number: an integer if it has neither fraction nor exponent, else a binary64 number. -/
def readNumber? (s : List Char) : Option (Except ReadFault Value × List Char) :=
  let (negative, unsigned) : Bool × List Char :=
    match s with
    | '-' :: rest => (true, rest)
    | _ => (false, s)
  let whole := wholeDigits unsigned
  if whole.isEmpty then none else
  let afterWhole := unsigned.drop whole.length
  let fraction := fractionDigits afterWhole
  let afterFraction := if fraction.isEmpty then afterWhole else afterWhole.drop (fraction.length + 1)
  match exponentPart? afterFraction with
  | some (power, size) =>
    some (.ok (.double (.ofDecimal negative (decimalNumber (whole ++ fraction))
      (power - fraction.length))), afterFraction.drop size)
  | none =>
    if !fraction.isEmpty then
      some (.ok (.double (.ofDecimal negative (decimalNumber (whole ++ fraction))
        (-(fraction.length : Int)))), afterFraction)
    else if integerDigitLimit < whole.length then
      some (.error (.overlongInteger whole.length), afterWhole)
    else
      let size : Int := decimalNumber whole
      some (.ok (.int (if negative then -size else size)), afterWhole)

/-- A value that is neither text nor container. The words for a not-a-number and the infinities
are understood besides those of the standard. -/
def readScalar (s : List Char) : Except ReadStop (Value × List Char) :=
  if "null".toList.isPrefixOf s then .ok (.null, s.drop 4)
  else if "true".toList.isPrefixOf s then .ok (.bool true, s.drop 4)
  else if "false".toList.isPrefixOf s then .ok (.bool false, s.drop 5)
  else if "NaN".toList.isPrefixOf s then .ok (.double (.nan 0), s.drop 3)
  else if "Infinity".toList.isPrefixOf s then .ok (.double (.infinite false), s.drop 8)
  else if "-Infinity".toList.isPrefixOf s then .ok (.double (.infinite true), s.drop 9)
  else match readNumber? s with
    | some (.ok v, rest) => .ok (v, rest)
    | some (.error fault, rest) => .error ⟨fault, rest⟩
    | none => .error ⟨.expectedValue, s⟩

mutual

/-- Reads one value off the front of the text. Each call takes a unit of fuel, and of two calls
in a row one takes a character, so twice the length of the text is enough. -/
def readValue : Nat → List Char → Except ReadStop (Value × List Char)
  | 0, s => .error ⟨.expectedValue, s⟩
  | fuel + 1, s =>
    match s with
    | '"' :: rest => (readText s rest).map fun r => (.text r.1, r.2)
    | '{' :: rest =>
      match skipJsonBlanks rest with
      | '}' :: more => .ok (.object [], more)
      | more => (readMembers fuel more).map fun r => (.object (Table.ofPairs r.1), r.2)
    | '[' :: rest =>
      match skipJsonBlanks rest with
      | ']' :: more => .ok (.array [], more)
      | more => (readItems fuel more).map fun r => (.array r.1, r.2)
    | _ => readScalar s

/-- The items of an array up to its closing bracket; at least one is expected. -/
def readItems : Nat → List Char → Except ReadStop (List Value × List Char)
  | 0, s => .error ⟨.expectedValue, s⟩
  | fuel + 1, s => do
    let (item, rest) ← readValue fuel s
    match skipJsonBlanks rest with
    | ']' :: more => .ok ([item], more)
    | ',' :: more =>
      let (items, after) ← readItems fuel (skipJsonBlanks more)
      .ok (item :: items, after)
    | more => .error ⟨.expectedComma, more⟩

/-- The members of an object up to its closing brace; at least one is expected. -/
def readMembers : Nat → List Char → Except ReadStop (List (String × Value) × List Char)
  | 0, s => .error ⟨.expectedName, s⟩
  | fuel + 1, s =>
    match s with
    | '"' :: quotedRest => do
      let (name, rest) ← readText s quotedRest
      match skipJsonBlanks rest with
      | ':' :: more =>
        let (value, rest) ← readValue fuel (skipJsonBlanks more)
        match skipJsonBlanks rest with
        | '}' :: more => .ok ([(name, value)], more)
        | ',' :: more =>
          let (members, after) ← readMembers fuel (skipJsonBlanks more)
          .ok ((name, value) :: members, after)
        | more => .error ⟨.expectedComma, more⟩
      | more => .error ⟨.expectedColon, more⟩
    | _ => .error ⟨.expectedName, s⟩

end

/-- Reads a whole text as one value, with blanks around it. -/
def readChars (s : List Char) : Except ReadStop Value := do
  let (value, rest) ← readValue (2 * s.length + 2) (skipJsonBlanks s)
  match skipJsonBlanks rest with
  | [] => .ok value
  | more => .error ⟨.extraData, more⟩

/-- A fault and the offset at which it was found. -/
structure ReadError where
  fault : ReadFault
  offset : Nat

def ReadStop.within (stop : ReadStop) (whole : List Char) : ReadError :=
  ⟨stop.fault, whole.length - stop.rest.length⟩

/-- Reads a text as one JSON value. A text that begins with a byte order mark is refused. -/
def Value.read (s : String) : Except ReadError Value :=
  let cs := s.toList
  match cs with
  | '\uFEFF' :: _ => .error ⟨.byteOrderMark, 0⟩
  | _ => (readChars cs).mapError fun stop => stop.within cs

def ReadFault.message : ReadFault → String
  | .expectedValue => "Expecting value"
  | .extraData => "Extra data"
  | .expectedName => "Expecting property name enclosed in double quotes"
  | .expectedColon => "Expecting ':' delimiter"
  | .expectedComma => "Expecting ',' delimiter"
  | .unterminatedText => "Unterminated string starting at"
  | .controlCharacter => "Invalid control character at"
  | .badEscape => "Invalid \\escape"
  | .badCodeEscape => "Invalid \\uXXXX escape"
  | .byteOrderMark => "Unexpected UTF-8 BOM (decode using utf-8-sig)"
  | .overlongInteger digits =>
    s!"Exceeds the limit ({integerDigitLimit} digits) for integer string conversion: value has " ++
      s!"{digits} digits; use sys.set_int_max_str_digits() to increase the limit"

/-- The message of an error in `text`, with line and column counted from one. -/
def ReadError.message (error : ReadError) (text : String) : String :=
  let before := text.toList.take error.offset
  let line := before.count '\n' + 1
  let column := (before.reverse.takeWhile (· ≠ '\n')).length + 1
  s!"{error.fault.message}: line {line} column {column} (char {error.offset})"

end GuardedRecords
