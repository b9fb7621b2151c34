namespace GuardedRecords

/-- A table in insertion order: names with their entries, oldest first. -/
abbrev Table (α : Type) := List (String × α)

def Table.lookup? {α : Type} (table : Table α) (name : String) : Option α :=
  List.lookup name table

def Table.has {α : Type} (table : Table α) (name : String) : Bool :=
  (table.lookup? name).isSome

def Table.names {α : Type} (table : Table α) : List String := table.map Prod.fst

/-- Enters a value under a name. A name already present keeps its place. -/
def Table.put {α : Type} : Table α → String → α → Table α
  | [], name, entry => [(name, entry)]
  | (other, old) :: rest, name, entry =>
    if other = name then (name, entry) :: rest else (other, old) :: Table.put rest name entry

def Table.remove {α : Type} (table : Table α) (name : String) : Table α :=
  table.filter fun pair => pair.1 ≠ name

/-- Enters all pairs of the second table into the first. -/
def Table.putAll {α : Type} (table more : Table α) : Table α :=
  more.foldl (fun t pair => t.put pair.1 pair.2) table

/-- The table of a list of pairs: a repeated name keeps its first place and its last entry. -/
def Table.ofPairs {α : Type} (pairs : List (String × α)) : Table α := Table.putAll [] pairs

end GuardedRecords
