import GuardedRecords.Json.Reader
import GuardedRecords.Text.Case
import GuardedRecords.Text.Split

namespace GuardedRecords

/-- What is wrong with the value of a setting. -/
inductive SettingFlaw
  | notText
  | notBoolean
  | unclearBoolean
  | notInteger
  | unreadableInteger
  | overlongInteger
  | fractional
  | notFinite
  | notList
  | notPositive
  | notAmong (choices : List String)
  deriving DecidableEq

/-- Names in single quotes, with commas and an `or` between them. -/
def choiceList : List String → String
  | [] => ""
  | [a] => s!"'{a}'"
  | [a, b] => s!"'{a}' or '{b}'"
  | a :: rest => s!"'{a}', " ++ choiceList rest

def SettingFlaw.message : SettingFlaw → String
  | .notText => "Input should be a valid string"
  | .notBoolean => "Input should be a valid boolean"
  | .unclearBoolean => "Input should be a valid boolean, unable to interpret input"
  | .notInteger => "Input should be a valid integer"
  | .unreadableInteger => "Input should be a valid integer, unable to parse string as an integer"
  | .overlongInteger => "Unable to parse input string as an integer, exceeded maximum size"
  | .fractional => "Input should be a valid integer, got a number with a fractional part"
  | .notFinite => "Input should be a finite number"
  | .notList => "Input should be a valid list"
  | .notPositive => "Value error, must be a positive integer"
  | .notAmong choices => "Input should be " ++ choiceList choices

/-- A flaw of a value, or of the item at a place of a list. -/
structure PlacedFlaw where
  item : Option Nat
  flaw : SettingFlaw

abbrev SettingReading (α : Type) := Except (List PlacedFlaw) α

def SettingFlaw.whole {α : Type} (flaw : SettingFlaw) : SettingReading α := .error [⟨none, flaw⟩]

def readTextSetting : Value → SettingReading String
  | .text s => .ok s
  | _ => SettingFlaw.notText.whole

def readOptionalTextSetting : Value → SettingReading (Option String)
  | .null => .ok none
  | value => (readTextSetting value).map some

/-- The blanks that may surround an integer in a text. -/
def isWhiteSpace (c : Char) : Bool := isBlank c && !(0x1c ≤ c.toNat && c.toNat ≤ 0x1f)

/-- Digits without superfluous zeros at the front, perhaps behind a minus sign. Too many of them
are reported whatever follows them. -/
def plainInteger? (cs : List Char) : Option (SettingReading Int) :=
  let negative := cs.head? = some '-'
  let unsigned := if negative then cs.drop 1 else cs
  let digits := unsigned.takeWhile isAsciiDigit
  let width := if negative then digits.length + 1 else digits.length
  if digits.isEmpty then none
  else if digits.head? = some '0' ∧ digits.length ≠ 1 then none
  else if integerDigitLimit < width then some SettingFlaw.overlongInteger.whole
  else if digits.length < unsigned.length then none
  else
    let size : Int := decimalNumber digits
    some (.ok (if negative then -size else size))

/-- The text after the zeros at the front, with `last` as the latest of them. A zero before a point
or at the end stays. -/
def afterZeros? (last : Char) : List Char → Option (List Char)
  | [] => some [last]
  | c :: rest =>
    if c = '0' ∨ c = '_' then afterZeros? c rest
    else if c = '.' then some (last :: c :: rest)
    else if isAsciiDigit c ∨ c = '-' then some (c :: rest)
    else none

/-- A text that begins with a digit, without superfluous zeros at the front. -/
def dropLeadingZeros? : List Char → Option (List Char)
  | [] => none
  | c :: rest =>
    if c = '0' then afterZeros? c rest else if isAsciiDigit c then some (c :: rest) else none

/-- The text before a point that zeros follow, and nothing but zeros. -/
def dropZeroFraction (cs : List Char) : List Char :=
  let (whole, fraction) := cut '.' cs
  if !fraction.isEmpty && fraction.all (· = '0') then whole else cs

/-- Takes out single underscores within the text. -/
def joinDigits (cs : List Char) : List Char :=
  let parts := pieces '_' cs
  if parts.any List.isEmpty then cs else parts.flatten

/-- An integer as it stands in a text: with blanks around it, a plus sign, zeros at the front,
zeros behind a point, or underscores between digits. -/
def integerOfText (s : String) : SettingReading Int :=
  let cs := s.toList
  let trimmed := ((cs.dropWhile isWhiteSpace).reverse.dropWhile isWhiteSpace).reverse
  let cleared :=
    match trimmed with
    | '+' :: rest => dropLeadingZeros? rest
    | '-' :: rest => (dropLeadingZeros? rest).map ('-' :: ·)
    | _ => dropLeadingZeros? trimmed
  let cleaned := cleared.map (joinDigits ∘ dropZeroFraction)
  ((plainInteger? cs).or (cleaned.bind plainInteger?)).getD SettingFlaw.unreadableInteger.whole

/-- The first integer beyond those of 64 bits with a sign. -/
def wordLimit : Int := 9223372036854775808

/-- The integer that a binary64 number is, within the range of 64-bit integers. -/
def integerOfDouble (x : Binary64) : SettingReading Int :=
  match x.truncate? with
  | none => SettingFlaw.notFinite.whole
  | some whole =>
    if !(Value.double x).equals (.int whole) then SettingFlaw.fractional.whole
    else if -wordLimit < whole ∧ whole < wordLimit then .ok whole
    else SettingFlaw.overlongInteger.whole

def readIntegerSetting : Value → SettingReading Int
  | .int n => .ok n
  | .bool b => .ok (if b then 1 else 0)
  | .double x => integerOfDouble x
  | .text s => integerOfText s
  | _ => SettingFlaw.notInteger.whole

def readPositiveSetting (value : Value) : SettingReading Int := do
  let n ← readIntegerSetting value
  if 0 < n then .ok n else SettingFlaw.notPositive.whole

/-- The truth value that a word stands for. -/
def booleanOfWord? (s : String) : Option Bool :=
  let word := String.ofList (s.toList.map Char.toLower)
  if ["1", "t", "y", "on", "yes", "true"].contains word then some true
  else if ["0", "f", "n", "no", "off", "false"].contains word then some false
  else none

def booleanOfInteger (n : Int) : SettingReading Bool :=
  if n = 0 then .ok false else if n = 1 then .ok true else SettingFlaw.unclearBoolean.whole

def readBooleanSetting : Value → SettingReading Bool
  | .bool b => .ok b
  | .int n =>
    if -wordLimit ≤ n ∧ n < wordLimit then booleanOfInteger n else SettingFlaw.notBoolean.whole
  | .double x =>
    match integerOfDouble x with
    | .ok n => booleanOfInteger n
    | .error _ => SettingFlaw.notBoolean.whole
  | .text s =>
    match booleanOfWord? s with
    | some b => .ok b
    | none => SettingFlaw.unclearBoolean.whole
  | _ => SettingFlaw.notBoolean.whole

/-- The texts of a list. Every item that is no text is reported. -/
def readTextsSetting : Value → SettingReading (List String)
  | .array items =>
    let flaws := items.zipIdx.filterMap fun entry =>
      match entry.1 with
      | .text _ => none
      | _ => some ⟨some entry.2, .notText⟩
    let texts := items.filterMap fun
      | .text s => some s
      | _ => none
    if flaws.isEmpty then .ok texts else .error flaws
  | _ => SettingFlaw.notList.whole

/-- A list of texts, or a text with commas between the items. -/
def readTextsOrLineSetting : Value → SettingReading (List String)
  | .text s => .ok ((pieces ',' s.toList).map fun item => String.ofList (trim item))
  | value => readTextsSetting value

/-- One of the named choices. -/
def readChoiceSetting {α : Type} (choices : List (String × α)) (value : Value) : SettingReading α :=
  let chosen :=
    match value with
    | .text s => List.lookup s choices
    | _ => none
  match chosen with
  | some choice => .ok choice
  | none => (SettingFlaw.notAmong (choices.map Prod.fst)).whole

end GuardedRecords
