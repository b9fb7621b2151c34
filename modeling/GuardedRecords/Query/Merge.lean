import GuardedRecords.Query.Gallop

namespace GuardedRecords

/-- The two runs of a merge. -/
inductive MergeSide
  | left | right
  deriving DecidableEq

def MergeSide.other : MergeSide → MergeSide
  | .left => .right
  | .right => .left

/-- Two runs on their way into one: what is in place, the latest value first, and what is still
in the runs. -/
structure Merge (α : Type) where
  placed : List α
  left : List α
  right : List α

def Merge.side {α : Type} (m : Merge α) : MergeSide → List α
  | .left => m.left
  | .right => m.right

def Merge.remaining {α : Type} (m : Merge α) : Nat := m.left.length + m.right.length

/-- A merge ends with the right run, or as soon as the last value of the left one has to wait for
the rest of the right one. -/
def Merge.isFinished {α : Type} (m : Merge α) : Bool := m.right.isEmpty || m.left.length ≤ 1

def Merge.result {α : Type} (m : Merge α) : List α := m.placed.reverse ++ m.right ++ m.left

/-- Puts the next values of a run in place. -/
def Merge.place {α : Type} (m : Merge α) (side : MergeSide) (count : Nat) : Merge α :=
  match side with
  | .left => ⟨(m.left.take count).reverse ++ m.placed, m.left.drop count, m.right⟩
  | .right => ⟨(m.right.take count).reverse ++ m.placed, m.left, m.right.drop count⟩

/-- The run whose first value is next. Of values without an order the left one is. -/
def Merge.winner {α : Type} (before : α → α → Bool) (m : Merge α) : MergeSide :=
  match m.left, m.right with
  | a :: _, b :: _ => if before b a then .right else .left
  | _, _ => .left

/-- How many values of a run come before the first value of the other one. -/
def Merge.lead {α : Type} (before : α → α → Bool) (earlier : Bool) (m : Merge α) : MergeSide → Nat
  | .left => (m.right.head?.map fun b => gallop (fun a => !before b a) earlier m.left).getD 0
  | .right => (m.left.head?.map fun a => gallop (fun b => before b a) earlier m.right).getD 0

/-- Places the values of one run that come first, the next one of the other run, the values of the
other run that come first then, and the next one of the one run. Tells whether one of the two
stretches was long. -/
def Merge.round {α : Type} (before : α → α → Bool) (mirrored : Bool) (m : Merge α) :
    Merge α × Bool :=
  let side : MergeSide := if mirrored then .right else .left
  let first := m.lead before mirrored side
  let m := m.place side first
  if m.isFinished then (m, false)
  else
    let m := m.place side.other 1
    if m.isFinished then (m, false)
    else
      let second := m.lead before mirrored side.other
      let m := m.place side.other second
      if m.isFinished then (m, false) else (m.place side 1, 7 ≤ first || 7 ≤ second)

theorem Merge.remaining_place {α : Type} (m : Merge α) (side : MergeSide) (count : Nat) :
    (m.place side count).remaining = m.remaining - min count (m.side side).length := by
  cases side <;> simp only [Merge.place, Merge.remaining, Merge.side, List.length_drop] <;> omega

theorem Merge.side_nonempty {α : Type} {m : Merge α} (unfinished : ¬m.isFinished = true)
    (side : MergeSide) : 0 < (m.side side).length := by
  simp only [Merge.isFinished, Bool.or_eq_true, List.isEmpty_iff, decide_eq_true_eq, not_or] at unfinished
  cases side with
  | left => simp only [Merge.side]; omega
  | right => exact List.length_pos_iff.mpr unfinished.1

theorem Merge.remaining_place_one {α : Type} {m : Merge α} (unfinished : ¬m.isFinished = true)
    (side : MergeSide) : (m.place side 1).remaining < m.remaining := by
  have some_left := Merge.side_nonempty unfinished side
  have bound : (m.side side).length ≤ m.remaining := by
    cases side <;> simp only [Merge.side, Merge.remaining] <;> omega
  rw [Merge.remaining_place]
  omega

theorem Merge.place_zero {α : Type} (m : Merge α) (side : MergeSide) : m.place side 0 = m := by
  cases side <;> rfl

theorem Merge.remaining_place_le {α : Type} (m : Merge α) (side : MergeSide) (count : Nat) :
    (m.place side count).remaining ≤ m.remaining := by
  rw [Merge.remaining_place]
  omega

/-- What a merge that ends with a stretch has placed is not nothing. -/
theorem Merge.remaining_place_finished {α : Type} {m : Merge α} (unfinished : ¬m.isFinished = true)
    {side : MergeSide} {count : Nat} (finished : (m.place side count).isFinished = true) :
    (m.place side count).remaining < m.remaining := by
  cases count with
  | zero => rw [Merge.place_zero] at finished; exact absurd finished unfinished
  | succ count =>
    have one := Merge.remaining_place_one unfinished side
    rw [Merge.remaining_place] at one ⊢
    omega

theorem Merge.remaining_round {α : Type} (before : α → α → Bool) (mirrored : Bool) {m : Merge α}
    (unfinished : ¬m.isFinished = true) : (m.round before mirrored).1.remaining < m.remaining := by
  unfold Merge.round
  generalize (if mirrored = true then MergeSide.right else MergeSide.left) = side
  simp only
  generalize m.lead before mirrored side = first
  split
  · next finished => exact Merge.remaining_place_finished unfinished finished
  · next going =>
    have start := Merge.remaining_place_le m side first
    have crossed := Merge.remaining_place_one going side.other
    generalize (m.place side first).place side.other 1 = crossing at crossed ⊢
    split
    · exact Nat.lt_of_lt_of_le crossed start
    · generalize crossing.lead before mirrored side.other = second
      have stretch := Merge.remaining_place_le crossing side.other second
      generalize crossing.place side.other second = last at stretch ⊢
      split
      · exact Nat.lt_of_le_of_lt stretch (Nat.lt_of_lt_of_le crossed start)
      · next ending =>
        exact Nat.lt_trans (Merge.remaining_place_one ending side)
          (Nat.lt_of_le_of_lt stretch (Nat.lt_of_lt_of_le crossed start))

/-- How a merge goes on: value by value, after some values of one run in a row, or in stretches. -/
inductive Pace
  | single (side : MergeSide) (wins : Nat)
  | stretches

/-- Merges two runs. Stretches are looked for once `patience` values in a row come from one run, and
as long as one of them is long; each round of them lowers the patience, each return to single values
raises it. The patience at the end is given back. -/
def Merge.run {α : Type} (before : α → α → Bool) (mirrored : Bool) (pace : Pace) (patience : Nat)
    (m : Merge α) : List α × Nat :=
  if _h : m.isFinished then (m.result, patience)
  else
    match pace with
    | .single side wins =>
      let winner := m.winner before
      let row := if winner = side then wins + 1 else 1
      Merge.run before mirrored (if patience ≤ row then .stretches else .single winner row) patience
        (m.place winner 1)
    | .stretches =>
      let after := m.round before mirrored
      if after.1.isFinished then (after.1.result, patience)
      else if after.2 then
        Merge.run before mirrored .stretches (if 1 < patience then patience - 1 else patience) after.1
      else Merge.run before mirrored (.single .left 0) (patience + 1) after.1
termination_by m.remaining
decreasing_by
  · exact Merge.remaining_place_one _h _
  · exact Merge.remaining_round before mirrored _h
  · exact Merge.remaining_round before mirrored _h

/-- Merges two runs of which the right one has the first value. -/
def mergeRuns {α : Type} (before : α → α → Bool) (mirrored : Bool) (patience : Nat)
    (left right : List α) : List α × Nat :=
  Merge.run before mirrored (.single .left 0) patience (Merge.place ⟨[], left, right⟩ .right 1)

/-- Joins two runs that follow each other. What stays in its place at the two ends is set aside; the
rest is merged from the front, or from the end if the first run is the longer one. -/
def joinRuns {α : Type} (before : α → α → Bool) (patience : Nat) (a b : List α) : List α × Nat :=
  let ahead := (b.head?.map fun y => gallop (fun x => !before y x) false a).getD 0
  let left := a.drop ahead
  let behind := (left.getLast?.map fun x => gallop (fun y => !before y x) true b.reverse).getD 0
  let right := b.take (b.length - behind)
  if left.isEmpty || right.isEmpty then (a ++ b, patience)
  else
    let (merged, patience) :=
      if left.length ≤ right.length then mergeRuns before false patience left right
      else
        let (fromEnd, patience) :=
          mergeRuns (fun x y => before y x) true patience right.reverse left.reverse
        (fromEnd.reverse, patience)
    (a.take ahead ++ merged ++ b.drop (b.length - behind), patience)

end GuardedRecords
