import GuardedRecords.Query.Merge

namespace GuardedRecords

/-- How many values at the front form a run, and whether it strictly falls. -/
def leadingRun {α : Type} (before : α → α → Bool) : List α → Nat × Bool
  | [] => (0, false)
  | [_] => (1, false)
  | a :: b :: rest =>
    let falling := before b a
    let rec go (last : α) (count : Nat) : List α → Nat
      | [] => count
      | c :: more => if before c last = falling then go c (count + 1) more else count
    (go b 2 rest, falling)

/-- The least length of the runs of so many values: the six highest binary digits of their number,
rounded up if a digit below them, or `rest`, is not zero. -/
def leastRun (rest count : Nat) : Nat :=
  if 64 ≤ count then leastRun (max rest (count % 2)) (count / 2) else count + rest
termination_by count

/-- The runs of a list, each one in order. A falling one is turned round, and a short one takes in
values behind it by bisection. -/
def runsOf {α : Type} (before : α → α → Bool) (least : Nat) : List α → List (List α)
  | [] => []
  | a :: rest =>
    let values := a :: rest
    let (count, falling) := leadingRun before values
    let run := values.take count
    let sorted := if falling then run.reverse else run
    let more := (values.drop count).take (least - count)
    more.foldl (insertByBisection before) sorted ::
      runsOf before least (rest.drop (count + more.length - 1))
termination_by values => values.length
decreasing_by simp only [List.length_drop, List.length_cons]; omega

/-- A run that waits to be joined: its place, its values, and how deep the border behind it lies. -/
structure PendingRun (α : Type) where
  start : Nat
  values : List α
  depth : Nat

/-- How deep the border between two neighbouring runs lies: the number of binary digits that it
takes to tell their middles apart, as fractions of the whole. -/
def borderDepth (start first second total : Nat) : Nat :=
  let middle := 2 * start + first
  let next := middle + first + second
  ((List.range total).find? fun digits =>
    middle * Nat.pow 2 digits / (2 * total) != next * Nat.pow 2 digits / (2 * total)).getD total

/-- Joins a run to the one before it. -/
def PendingRun.join {α : Type} (before : α → α → Bool) (patience : Nat) (first second : PendingRun α) :
    PendingRun α × Nat :=
  let (values, patience) := joinRuns before patience first.values second.values
  ({ first with values := values }, patience)

/-- Joins the latest run with those before it as long as the borders between them lie deeper than
`depth`. -/
def settle {α : Type} (before : α → α → Bool) (depth patience : Nat) (top : PendingRun α) :
    List (PendingRun α) → List (PendingRun α) × Nat
  | [] => ([{ top with depth := depth }], patience)
  | second :: below =>
    if depth < second.depth then
      let (joined, patience) := second.join before patience top
      settle before depth patience joined below
    else ({ top with depth := depth } :: second :: below, patience)

/-- Joins all runs, the latest one first. Where the one before the last two is shorter than the
last one, those two are joined first. -/
def joinAll {α : Type} (before : α → α → Bool) (patience : Nat) (top : PendingRun α) :
    List (PendingRun α) → List α
  | [] => top.values
  | [second] => (second.join before patience top).1.values
  | second :: third :: below =>
    if third.values.length < top.values.length then
      let (joined, patience) := third.join before patience second
      joinAll before patience top (joined :: below)
    else
      let (joined, patience) := second.join before patience top
      joinAll before patience joined (third :: below)
termination_by stack => stack.length

/-- Takes in the runs one after the other; the latest of those that wait comes first. -/
def takeIn {α : Type} (before : α → α → Bool) (total : Nat) (pending : List (PendingRun α))
    (patience : Nat) : List (List α) → List α
  | [] =>
    match pending with
    | [] => []
    | top :: below => joinAll before patience top below
  | run :: rest =>
    match pending with
    | [] => takeIn before total [⟨0, run, 0⟩] patience rest
    | top :: below =>
      let depth := borderDepth top.start top.values.length run.length total
      let (settled, patience) := settle before depth patience top below
      takeIn before total (⟨top.start + top.values.length, run, 0⟩ :: settled) patience rest

/-- Puts values in order where not all of them can be compared: runs are found from the front on and
joined pairwise. Where all of them can be compared, this is the usual stable order. -/
def sortByRuns {α : Type} (before : α → α → Bool) (values : List α) : List α :=
  takeIn before values.length [] 7 (runsOf before (leastRun 0 values.length) values)

end GuardedRecords
