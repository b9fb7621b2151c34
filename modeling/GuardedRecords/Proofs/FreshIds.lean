import Mathlib.Data.Nat.Find
import GuardedRecords.Proofs.StoreRuns

namespace GuardedRecords

/-- A supply of which some more items are used up. -/
def Supply.skip {α : Type} (supply : Supply α) (count : Nat) : Supply α :=
  { supply with taken := supply.taken + count }

/-- The item of a supply that comes after so many others. -/
def Supply.ahead {α : Type} (supply : Supply α) (place : Nat) : α :=
  supply.item (supply.taken + place)

theorem Supply.next_eq {α : Type} (supply : Supply α) : supply.next = (supply.ahead 0, supply.skip 1) := rfl

/-- What comes after a number of items that are used up comes later by that number in the whole
supply. -/
theorem Supply.ahead_skip {α : Type} (supply : Supply α) (count place : Nat) :
    (supply.skip count).ahead place = supply.ahead (count + place) := by
  rw [Supply.ahead, Supply.ahead, Supply.skip, Nat.add_assoc]

theorem Supply.skip_skip {α : Type} (supply : Supply α) (count more : Nat) :
    (supply.skip count).skip more = supply.skip (count + more) := by
  rw [Supply.skip, Supply.skip, Supply.skip, Nat.add_assoc]

section FreshId

variable {inUse : String → Bool}

theorem freshId_of_used {ids : Supply String} (used : inUse (ids.ahead 0) = true) (attempts : Nat) :
    freshId inUse (attempts + 1) ids = freshId inUse attempts (ids.skip 1) := by
  rw [freshId, Supply.next_eq]
  exact if_pos used

/-- Where all ids that may be tried are in use all of them are used up. -/
theorem freshId_eq_none {attempts : Nat} {ids : Supply String}
    (used : ∀ place < attempts, inUse (ids.ahead place) = true) :
    freshId inUse attempts ids = (none, ids.skip attempts) := by
  induction attempts generalizing ids with
  | zero => rfl
  | succ attempts ih =>
    have later : ∀ place < attempts, inUse ((ids.skip 1).ahead place) = true := by
      intro place bound
      rw [Supply.ahead_skip]
      exact used (1 + place) (by omega)
    rw [freshId_of_used (used 0 (Nat.succ_pos attempts)), ih later, Supply.skip_skip, Nat.add_comm]

/-- The first id that is not in use is found, and no id behind it is used up. Those before it are,
and they do not come again. -/
theorem freshId_eq_some {attempts place : Nat} {ids : Supply String} (bound : place < attempts)
    (unused : inUse (ids.ahead place) = false)
    (used : ∀ earlier < place, inUse (ids.ahead earlier) = true) :
    freshId inUse attempts ids = (some (ids.ahead place), ids.skip (place + 1)) := by
  induction place generalizing attempts ids with
  | zero =>
    obtain ⟨attempts, rfl⟩ := Nat.exists_eq_add_of_lt bound
    rw [Nat.zero_add, freshId, Supply.next_eq]
    exact if_neg (Bool.eq_false_iff.mp unused)
  | succ place ih =>
    obtain ⟨rest, rfl⟩ : ∃ rest, attempts = rest + 1 := ⟨attempts - 1, by omega⟩
    have moved (place : Nat) : (ids.skip 1).ahead place = ids.ahead (place + 1) := by
      rw [Supply.ahead_skip, Nat.add_comm]
    have found := ih (Nat.lt_of_succ_lt_succ bound) ((moved place).symm ▸ unused)
      fun earlier before => (moved earlier).symm ▸ used (earlier + 1) (Nat.succ_lt_succ before)
    rw [freshId_of_used (used 0 (Nat.succ_pos place)), found, moved, Supply.skip_skip,
      Nat.add_comm 1]

end FreshId

/-- All ids that a store may try are those of records of the collection. -/
def Store.RunsOut (store : Store) (name : String) : Prop :=
  ∀ place < store.attempts, store.ids.ahead place ∈ (store.recordsIn name).names

/-- After so many other ids, all of them in use, a store tries the first one that is not. -/
structure Store.FindsFresh (store : Store) (name : String) (place : Nat) : Prop where
  bound : place < store.attempts
  unused : store.ids.ahead place ∉ (store.recordsIn name).names
  used : ∀ earlier < place, store.ids.ahead earlier ∈ (store.recordsIn name).names

theorem Store.exists_findsFresh {store : Store} {name : String} (left : ¬store.RunsOut name) :
    ∃ place, store.FindsFresh name place := by
  have found : ∃ place, place < store.attempts ∧
      store.ids.ahead place ∉ (store.recordsIn name).names := by
    simpa only [Store.RunsOut, not_forall, exists_prop] using left
  obtain ⟨bound, unused⟩ := Nat.find_spec found
  refine ⟨Nat.find found, bound, unused, fun earlier before => ?_⟩
  exact Classical.not_not.mp fun other => Nat.find_min found before ⟨Nat.lt_trans before bound, other⟩

/-- Without a free id nothing is stored. The candidates are used up all the same, so that a second
try sees others. -/
theorem Store.add_of_runsOut {store : Store} {name : String} (out : store.RunsOut name)
    (payload : Record) (owner : Value) :
    store.add name payload owner =
      (.error (.idsExhausted name store.attempts),
        { store with ids := store.ids.skip store.attempts }) := by
  have none_left : freshId (store.recordsIn name).has store.attempts store.ids =
      (none, store.ids.skip store.attempts) :=
    freshId_eq_none fun place bound => Table.has_eq_true_iff.mpr (out place bound)
  rcases store.add_cases name payload owner with ⟨id, ids, found, _⟩ | ⟨ids, exhausted, run⟩
  · cases none_left.symm.trans found
  · cases none_left.symm.trans exhausted
    exact run

theorem Store.add_of_findsFresh {store : Store} {name : String} {place : Nat}
    (finds : store.FindsFresh name place) (payload : Record) (owner : Value) :
    store.add name payload owner =
      (.ok ((newRecord payload owner store.clock.next.1).tagged (store.ids.ahead place)),
        { store with
          collections := store.collections.put name
            (store.recordsIn name ++
              [(store.ids.ahead place, newRecord payload owner store.clock.next.1)])
          ids := store.ids.skip (place + 1)
          clock := store.clock.next.2 }) := by
  have fresh : freshId (store.recordsIn name).has store.attempts store.ids =
      (some (store.ids.ahead place), store.ids.skip (place + 1)) :=
    freshId_eq_some finds.bound (Table.has_eq_false_iff.mpr finds.unused)
      fun earlier before => Table.has_eq_true_iff.mpr (finds.used earlier before)
  rcases store.add_cases name payload owner with ⟨id, ids, found, _, run⟩ | ⟨ids, exhausted, _⟩
  · cases fresh.symm.trans found
    exact run
  · cases fresh.symm.trans exhausted

/-- A new record leaves all others as they are. -/
theorem Store.existing_of_add {store : Store} {name : String} {place : Nat}
    (finds : store.FindsFresh name place) (payload : Record) (owner : Value) {other id : String}
    {stored : Record} (existing : store.existing other id = .ok stored) :
    (store.add name payload owner).2.existing other id = .ok stored := by
  rw [Store.existing_eq_ok_iff_recordsUnder] at existing ⊢
  rw [store.add_of_findsFresh finds]
  by_cases same : other = name
  · subst same
    rw [recordsUnder_put_self]
    exact Table.lookup?_append_of_some existing _
  · rw [recordsUnder_put_of_ne same]
    exact existing

/-- Storing a new record fails exactly where all ids that may be tried are in use; then they are
used up and that is all. Otherwise the record is stored under the first of them that is not in use,
no further one is used up, and all records that were stored are stored as before. -/
theorem Store.add_fresh_or_void (store : Store) (name : String) (payload : Record) (owner : Value) :
    ((∃ failure, (store.add name payload owner).1 = .error failure) ↔ store.RunsOut name) ∧
      (store.RunsOut name → store.add name payload owner =
        (.error (.idsExhausted name store.attempts),
          { store with ids := store.ids.skip store.attempts })) ∧
      (¬store.RunsOut name → ∃ place record after, store.FindsFresh name place ∧
        record = newRecord payload owner store.clock.next.1 ∧
        store.add name payload owner = (.ok (record.tagged (store.ids.ahead place)), after) ∧
        after.existing name (store.ids.ahead place) = .ok record ∧
        after.ids = store.ids.skip (place + 1) ∧ after.clock = store.clock.next.2 ∧
        ∀ other id stored, store.existing other id = .ok stored →
          after.existing other id = .ok stored) := by
  refine ⟨⟨fun ⟨failure, failed⟩ => ?_, fun out => ?_⟩, fun out => store.add_of_runsOut out _ _,
    fun left => ?_⟩
  · by_contra left
    obtain ⟨place, finds⟩ := Store.exists_findsFresh left
    rw [Store.add_of_findsFresh finds] at failed
    cases failed
  · rw [Store.add_of_runsOut out]
    exact ⟨_, rfl⟩
  · obtain ⟨place, finds⟩ := Store.exists_findsFresh left
    have run := Store.add_of_findsFresh finds payload owner
    have kept {other id : String} {stored : Record} (existing : store.existing other id = .ok stored) :=
      Store.existing_of_add finds payload owner existing
    rw [run] at kept
    refine ⟨place, _, _, finds, rfl, run, ?_, rfl, rfl, fun _ _ _ existing => kept existing⟩
    rw [Store.existing_eq_ok_iff_recordsUnder, recordsUnder_put_self,
      ← Table.put_of_not_mem finds.unused, Table.lookup?_put_self]

end GuardedRecords
