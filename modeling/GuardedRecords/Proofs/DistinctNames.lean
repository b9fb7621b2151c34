import GuardedRecords.Json.Reader
import GuardedRecords.Proofs.Outcomes
import GuardedRecords.Proofs.TableUpdates

namespace GuardedRecords

mutual

/-- Whether no object within a value has two members of one name. -/
def Value.NamesDistinct : Value → Prop
  | .array items => itemsNamesDistinct items
  | .object members => (Table.names members).Nodup ∧ membersNamesDistinct members
  | _ => True
termination_by structural v => v

def itemsNamesDistinct : List Value → Prop
  | [] => True
  | v :: rest => v.NamesDistinct ∧ itemsNamesDistinct rest
termination_by structural vs => vs

def membersNamesDistinct : List (String × Value) → Prop
  | [] => True
  | (_, v) :: rest => v.NamesDistinct ∧ membersNamesDistinct rest
termination_by structural vs => vs

end

theorem membersNamesDistinct_iff {members : List (String × Value)} :
    membersNamesDistinct members ↔ ∀ member ∈ members, member.2.NamesDistinct := by
  induction members with
  | nil => simp [membersNamesDistinct]
  | cons member rest ih => simp [membersNamesDistinct, ih]

/-- An object has distinct names when its own are distinct and those within each of its members
are. -/
theorem Value.namesDistinct_object {members : List (String × Value)} :
    (Value.object members).NamesDistinct ↔
      (Table.names members).Nodup ∧ ∀ member ∈ members, member.2.NamesDistinct := by
  rw [Value.NamesDistinct, membersNamesDistinct_iff]

end GuardedRecords
