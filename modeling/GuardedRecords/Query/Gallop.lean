namespace GuardedRecords

/-- The place between `low` and `high` at which bisection ends. It goes on behind every place it
asks about that passes. With an even number of places it asks about the later one of the two in the
middle, or about the earlier one. -/
def bisect (passes : Nat → Bool) (earlier : Bool) (low high : Nat) : Nat :=
  if low < high then
    let middle := low + (high - low - if earlier then 1 else 0) / 2
    if passes middle then bisect passes earlier (middle + 1) high
    else bisect passes earlier low middle
  else low
termination_by high - low
decreasing_by
  · omega
  · split <;> omega

def insertByBisection {α : Type} (before : α → α → Bool) (sorted : List α) (a : α) : List α :=
  let place := bisect (fun i => (sorted[i]?).any fun b => !before a b) false 0 sorted.length
  sorted.take place ++ a :: sorted.drop place

/-- The last place that passes and the first that does not, where the distance between the places
that are asked about doubles. -/
def stride (passes : Nat → Bool) (limit last step : Nat) : Nat × Nat :=
  if step < limit ∧ passes step then stride passes limit step (2 * step + 1) else (last, step)
termination_by limit - step

/-- How many values at the front pass: strides first, then bisection between the last two. -/
def gallop {α : Type} (passes : α → Bool) (earlier : Bool) (values : List α) : Nat :=
  let passesAt (i : Nat) : Bool := (values[i]?).any passes
  if passesAt 0 then
    let (last, step) := stride passesAt values.length 0 1
    bisect passesAt earlier (last + 1) (min step values.length)
  else 0

end GuardedRecords
