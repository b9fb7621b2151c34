import GuardedRecords.Text.Characters
import GuardedRecords.Text.CaseTables

namespace GuardedRecords

/-- The single letter that the runs assign to `c`, if one of them reaches it. -/
def CaseRun.move? (runs : List CaseRun) (c : Char) : Option Char :=
  let code := c.toNat
  (runs.find? fun r => r.first ≤ code && code ≤ r.last && (code - r.first) % r.step == 0).map
    fun r => Char.ofNat ((code : Int) + r.shift).toNat

/-- The lower case of one character without regard to its neighbours. -/
def lowerChar (c : Char) : List Char :=
  if c.toNat < 128 then [c.toLower]
  else if c = 'İ' then ['i', '\u0307']
  else [(CaseRun.move? lowerRuns c).getD c]

def isCaseIgnorable (c : Char) : Bool := inRanges caseIgnorableRanges c

/-- Whether the text, read outward from some place, meets a cased letter before anything else
that counts. -/
def meetsCased (outward : List Char) : Bool :=
  match outward.dropWhile isCaseIgnorable with
  | [] => false
  | c :: _ => inRanges casedRanges c

/-- Lower case of a text of which `before`, nearest character first, is already passed. A
capital sigma at the end of a word becomes the final sigma. -/
def lowerAfter (before : List Char) : List Char → List Char
  | [] => []
  | c :: rest =>
    (if c = 'Σ' then [if meetsCased before && !meetsCased rest then 'ς' else 'σ'] else lowerChar c) ++
      lowerAfter (c :: before) rest

def lowerChars (cs : List Char) : List Char := lowerAfter [] cs

def lower (s : String) : String := String.ofList (lowerChars s.toList)

/-- The folded form of one character, which is the same for all its cases. -/
def foldChar (c : Char) : List Char :=
  if c.toNat < 128 then [c.toLower]
  else match foldExpansions.lookup c.toNat with
    | some codes => codes.map Char.ofNat
    | none => [(CaseRun.move? foldRuns c).getD c]

/-- Folding for comparisons that disregard case. -/
def fold (s : String) : String := String.ofList (s.toList.flatMap foldChar)

end GuardedRecords
