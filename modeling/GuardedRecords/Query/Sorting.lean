import GuardedRecords.Query.Runs
import GuardedRecords.Query.Spec
import GuardedRecords.Text.Case

namespace GuardedRecords

/-- The order of two texts, first without regard to case. -/
def collate (s t : String) : Ordering := (compare (fold s) (fold t)).then (compare s t)

def Value.isText : Value → Bool
  | .text _ => true
  | _ => false

/-- The order of two values as sort keys: texts by `collate`, numbers by exact value. -/
def Value.keyOrder : Value → Value → Ordering
  | .text s, .text t => collate s t
  | a, b =>
    match a.extent?, b.extent? with
    | some x, some y => x.compare y
    | _, _ => .eq

/-- Sorts records by one key. Records with equal keys keep their order, also for a descending
key. The values must all be numbers or all be texts. -/
def SortKey.sort (key : SortKey) (records : List Record) : Except ServiceError (List Record) :=
  let values := records.map fun r => r.field key.property
  let order (a b : Record) := (a.field key.property).keyOrder (b.field key.property)
  if values.all Value.isNumber && values.any Value.isNaN then
    let before (a b : Record) := order a b == .lt
    .ok (if key.descending then (sortByRuns before records.reverse).reverse
      else sortByRuns before records)
  else if values.all Value.isNumber || values.all Value.isText then
    .ok (records.mergeSort fun a b =>
      if key.descending then order b a != .gt else order a b != .gt)
  else .error (.request (.unsortable key.property))

/-- Sorts by several keys, the first one being the most significant. -/
def sortRecords (keys : List SortKey) (records : List Record) : Except ServiceError (List Record) :=
  keys.foldr (fun key sorted => sorted.bind key.sort) (.ok records)

end GuardedRecords
