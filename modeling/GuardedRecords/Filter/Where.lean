import GuardedRecords.Filter.Clause

namespace GuardedRecords

/-- How the clauses of a filter are joined. -/
inductive Junction
  | and | or
  deriving DecidableEq

def Junction.name : Junction → String
  | .and => "and"
  | .or => "or"

/-- A junction with blanks on both sides at the front of a text, and the text after it. -/
def junction? (s : List Char) : Option (Junction × List Char) :=
  let after (word : List Char) : Option (List Char) :=
    match afterWord? word (trimLeft s) with
    | some (_, d :: rest) => if isBlank d then some (trimLeft rest) else none
    | _ => none
  match s with
  | c :: _ =>
    if isBlank c then
      match after "and".toList with
      | some rest => some (.and, rest)
      | none => (after "or".toList).map fun rest => (.or, rest)
    else none
  | [] => none

theorem afterWord?_length {word s spelled rest : List Char}
    (h : afterWord? word s = some (spelled, rest)) : rest.length ≤ s.length := by
  fun_induction afterWord? word s generalizing spelled rest with
  | case1 => cases h; exact Nat.le_refl _
  | case2 letter word c s _ ih =>
    obtain ⟨⟨spelled', rest'⟩, run, same⟩ := Option.map_eq_some_iff.1 h
    cases same
    exact Nat.le_succ_of_le (ih run)
  | case3 => cases h
  | case4 => cases h

theorem length_trimLeft_le (s : List Char) : (trimLeft s).length ≤ s.length :=
  (List.dropWhile_suffix isBlank).length_le

theorem junction?_length {s rest : List Char} {j : Junction} (h : junction? s = some (j, rest)) :
    rest.length < s.length := by
  have shorter {word spelled tail : List Char} {d : Char}
      (run : afterWord? word (trimLeft s) = some (spelled, d :: tail)) :
      (trimLeft tail).length < s.length := by
    have taken := afterWord?_length run
    have skipped := length_trimLeft_le s
    have trimmed := length_trimLeft_le tail
    simp only [List.length_cons] at taken
    omega
  unfold junction? at h
  split at h
  · split at h
    · dsimp only at h
      split at h
      · next found =>
        cases h
        split at found
        · next run => split at found <;> cases found; exact shorter run
        · cases found
      · obtain ⟨tail, found, same⟩ := Option.map_eq_some_iff.1 h
        cases same
        split at found
        · next run => split at found <;> cases found; exact shorter run
        · cases found
    · cases h
  · cases h

/-- The clauses of a filter as they are written: the first, and each later one with the junction
before it. -/
structure Splitting where
  first : List Char
  more : List (Junction × List Char)

def Splitting.prepend (c : Char) (s : Splitting) : Splitting := ⟨c :: s.first, s.more⟩

/-- Splits at the junctions outside quotes. Inside quotes a backslash keeps the next character
from ending them, and quotes that are not closed reach to the end. -/
def splitClauses (quote : Option Char) (s : List Char) : Splitting :=
  match s, quote with
  | [], _ => ⟨[], []⟩
  | '\\' :: d :: rest, some q => ((splitClauses (some q) rest).prepend d).prepend '\\'
  | c :: rest, some q =>
    (splitClauses (if c = q then none else some q) rest).prepend c
  | c :: rest, none =>
    if c = '\'' ∨ c = '"' then (splitClauses (some c) rest).prepend c
    else
      match found : junction? (c :: rest) with
      | some (j, after) =>
        have : after.length < rest.length + 1 := junction?_length found
        let tail := splitClauses none after
        ⟨[], (j, tail.first) :: tail.more⟩
      | none => (splitClauses none rest).prepend c
termination_by s.length

/-- A filter: clauses with one kind of junction between them. -/
structure Filter where
  clauses : List Clause
  junction : Junction

/-- Reads a filter. Two kinds of junction are refused before any clause is read. -/
def Filter.parse (text : String) : Except FilterFault Filter :=
  match trim text.toList with
  | [] => .error .unreadable
  | cs =>
    let splitting := splitClauses none cs
    let junctions := splitting.more.map Prod.fst
    if junctions.contains .and && junctions.contains .or then .error .mixedJunctions
    else do
      let clauses ← (splitting.first :: splitting.more.map Prod.snd).mapM Clause.parse
      .ok ⟨clauses, junctions.headD .and⟩

end GuardedRecords
