import GuardedRecords.Query.Sorting
import GuardedRecords.Filter.Matching
import GuardedRecords.Json.SortedText

namespace GuardedRecords

/-- Where joins find records: by collection and by the value that stands for the id. -/
abbrev RelatedSource := String → Value → Option Record

/-- The property under which a user's credential is stored. -/
def credentialField : String := "hashedPassword"

/-- The text by which a record is told apart: that of the array of its values at the properties, a
missing one being `null`. -/
def Record.marker (properties : List String) (record : Record) : Except Failure (List Char) :=
  match (Value.array (properties.map record.field)).sortedText? with
  | some text => .ok text
  | none => .error .unwritableInteger

/-- The records whose markers have not been seen before. -/
def firstOfEach (properties : List String) (seen : List (List Char)) :
    List Record → Except Failure (List Record)
  | [] => .ok []
  | r :: rest => do
    let marker ← r.marker properties
    if marker ∈ seen then firstOfEach properties seen rest
    else
      let others ← firstOfEach properties (marker :: seen) rest
      .ok (r :: others)

/-- The records that meet the condition. -/
def filterRecords (condition : Filter) : List Record → Except String (List Record)
  | [] => .ok []
  | r :: rest => do
    let keep ← condition.matches r
    let kept ← filterRecords condition rest
    .ok (if keep then r :: kept else kept)

/-- The first records up to a number; a negative number leaves that many out at the end. -/
def takePage {α : Type} (size : Int) (records : List α) : List α :=
  if 0 ≤ size then records.take size.toNat else records.take (records.length - (-size).toNat)

/-- The record of a join, without its credential, attached to a record. A join that finds
nothing leaves the record as it is. -/
def Join.attach (related : RelatedSource) (record : Record) (join : Join) : Record :=
  match related join.collection (record.field join.source) with
  | some found => record.put join.property (.object (found.remove credentialField))
  | none => record

/-- The selected properties of a record, all if none is named. -/
def selectFields (names : List String) (record : Record) : Record :=
  if names.isEmpty then record
  else Table.ofPairs (names.filterMap fun name => (record.lookup? name).map fun v => (name, v))

/-- A record with its properties selected and the joins attached. -/
def QuerySpec.project (spec : QuerySpec) (related : Option RelatedSource) (record : Record) : Record :=
  let selected := selectFields spec.select record
  match related with
  | some source => spec.joins.foldl (Join.attach source) selected
  | none => selected

/-- The answer to a read of a collection: its records or their number. -/
inductive Shaped
  | records (rs : List Record)
  | count (n : Nat)

/-- Of the records of a page the first of each kind, where a query names properties to tell them
apart by. -/
def QuerySpec.keepDistinct (spec : QuerySpec) (page : List Record) : Except Failure (List Record) :=
  if spec.distinct.isEmpty then .ok page else firstOfEach spec.distinct [] page

/-- The records a query picks: those that meet the condition, sorted, the page of them, and of
those the first of each kind. -/
def QuerySpec.pick (spec : QuerySpec) (records : List Record) : Except Failure (List Record) := do
  let met ←
    match spec.condition with
    | some condition => (filterRecords condition records).mapError Failure.unknownOperator
    | none => .ok records
  let sorted ← (sortRecords spec.sortKeys met).mapError Failure.refused
  let later := sorted.drop spec.offset
  let page :=
    match spec.pageSize with
    | some size => takePage size later
    | none => later
  spec.keepDistinct page

/-- The answer of a query over the records of a collection. -/
def QuerySpec.shape (spec : QuerySpec) (related : Option RelatedSource) (records : List Record) :
    Except Failure Shaped := do
  let picked ← spec.pick records
  .ok (if spec.count then .count picked.length else .records (picked.map (spec.project related)))

end GuardedRecords
