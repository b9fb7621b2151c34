namespace GuardedRecords

/-- How many characters two texts have in common from their start on. -/
def sharedStart : List Char → List Char → Nat
  | c :: s, d :: t => if c = d then sharedStart s t + 1 else 0
  | _, _ => 0

/-- A run of characters that stands in two texts: its place in each and its length. -/
structure SharedRun where
  left : Nat
  right : Nat
  length : Nat

/-- The longest run that two texts share; of several the one that comes first, in the first text
and then in the second. -/
def longestShared (s t : List Char) : SharedRun :=
  let runs := (List.range s.length).flatMap fun i => (List.range t.length).map fun j =>
    (⟨i, j, sharedStart (s.drop i) (t.drop j)⟩ : SharedRun)
  runs.foldl (fun best run => if best.length < run.length then run else best) ⟨0, 0, 0⟩

/-- How many characters two texts share when the longest shared run is set aside first and the
texts before it and after it are compared in the same way. The first argument bounds the depth;
the length of a text is enough. -/
def sharedCount : Nat → List Char → List Char → Nat
  | 0, _, _ => 0
  | depth + 1, s, t =>
    let run := longestShared s t
    if run.length = 0 then 0
    else
      run.length + sharedCount depth (s.take run.left) (t.take run.right) +
        sharedCount depth (s.drop (run.left + run.length)) (t.drop (run.right + run.length))

/-- A name beside a text: how many characters the two share and how many they have together. -/
structure Likeness where
  name : String
  shared : Nat
  total : Nat

/-- Whether at least six tenths of the characters are shared. -/
def Likeness.isClose (l : Likeness) : Bool := 6 * l.total ≤ 10 * (2 * l.shared)

/-- The likeness of a name and a text, if they are close. Lengths that differ too much settle that
they are not. -/
def Likeness.between? (written name : String) : Option Likeness :=
  let s := name.toList
  let t := written.toList
  let best : Likeness := ⟨name, min s.length t.length, s.length + t.length⟩
  if !best.isClose then none
  else
    let actual := { best with shared := sharedCount (s.length + 1) s t }
    if actual.isClose then some actual else none

/-- Whether a name comes before another one in the order of the share of shared characters, the
greater share first; of equal ones the later name. -/
def Likeness.ranksBefore (a b : Likeness) : Bool :=
  let left := a.shared * b.total
  let right := b.shared * a.total
  right < left || (left = right && decide (b.name ≤ a.name))

/-- The names that are close to a text, at most three, in alphabetical order. -/
def closeNames (names : List String) (written : String) : List String :=
  let close := names.filterMap (Likeness.between? written)
  (((close.mergeSort Likeness.ranksBefore).take 3).map Likeness.name).mergeSort

end GuardedRecords
