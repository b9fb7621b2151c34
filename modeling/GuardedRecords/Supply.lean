namespace GuardedRecords

/-- An endless supply of items, of which the first `taken` are used up. -/
structure Supply (α : Type) where
  item : Nat → α
  taken : Nat := 0

def Supply.next {α : Type} (supply : Supply α) : α × Supply α :=
  (supply.item supply.taken, { supply with taken := supply.taken + 1 })

/-- The items of a list, the last one over and over; an empty list is replaced by `others`. -/
def Supply.ofList {α : Type} (items : List α) (others : Nat → α) : Supply α :=
  ⟨fun i => (items[min i (items.length - 1)]?).getD (others i), 0⟩

end GuardedRecords
