import GuardedRecords.ServiceError
import GuardedRecords.Filter.Where
import GuardedRecords.NumberText

namespace GuardedRecords

/-- A property to sort by. -/
structure SortKey where
  property : String
  descending : Bool
  deriving DecidableEq

/-- Attaches, under `property`, the record of `collection` whose id stands in `source`. -/
structure Join where
  property : String
  source : String
  collection : String
  deriving DecidableEq

/-- What a read asks for. -/
structure QuerySpec where
  condition : Option Filter := none
  sortKeys : List SortKey := []
  offset : Nat := 0
  pageSize : Option Int := none
  distinct : List String := []
  select : List String := []
  joins : List Join := []
  count : Bool := false

/-- The parameters of a request, each with a text. -/
abbrev Params := Table String

/-- The integer part of the number that a text spells, 0 if there is none. -/
def integerPart (s : String) : Int := ((Binary64.ofText? s).bind Binary64.truncate?).getD 0

/-- The entries of a list with commas between them, without blanks around them; empty ones do
not count. -/
def listEntries (s : String) : List (List Char) :=
  ((pieces ',' s.toList).map trim).filter (!·.isEmpty)

/-- A sort key: a property, and the word `desc` after it for the descending order. -/
def SortKey.parse (entry : List Char) : SortKey :=
  let ws := (words entry).map String.ofList
  ⟨ws.headD "", (ws.drop 1).head?.any fun word => lower word == "desc"⟩

/-- A join `property=source:collection`. The three parts are trimmed after they have been
checked. -/
def Join.parse (entry : List Char) : Except ServiceError Join :=
  let (property, relation) := cut '=' entry
  let (source, collection) := cut ':' relation
  if property.isEmpty || source.isEmpty || collection.isEmpty then
    .error (.request (.badLoad (String.ofList entry)))
  else
    .ok ⟨String.ofList (trim property), String.ofList (trim source), String.ofList (trim collection)⟩

/-- The size of a page, where one is asked for; sizes below one stand for the default. -/
def pageSizeOf (params : Params) (default : Int) : Option Int :=
  (params.lookup? "pageSize").map fun s =>
    let size := integerPart s
    if size ≤ 0 then default else size

/-- The filter of a request; an empty text asks for none. -/
def conditionOf (params : Params) : Except ServiceError (Option Filter) :=
  match params.lookup? "where" with
  | none => .ok none
  | some text =>
    if text.isEmpty then .ok none else ((Filter.parse text).map some).mapError .filter

/-- What the parameters of a request ask for. A bad filter is reported before a bad join. -/
def QuerySpec.ofParams (params : Params) (defaultPageSize : Int) : Except ServiceError QuerySpec := do
  let entries (name : String) := listEntries ((params.lookup? name).getD "")
  let condition ← conditionOf params
  let joins ← (entries "load").mapM Join.parse
  .ok {
    condition := condition
    sortKeys := (entries "sortBy").map SortKey.parse
    offset := (integerPart ((params.lookup? "offset").getD "")).toNat
    pageSize := pageSizeOf params defaultPageSize
    distinct := (entries "distinct").map String.ofList
    select := (entries "select").map String.ofList
    joins := joins
    count := params.has "count" }

end GuardedRecords
