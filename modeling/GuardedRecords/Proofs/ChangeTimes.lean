import Mathlib.Data.List.Forall2
import GuardedRecords.Proofs.FreshIds
import GuardedRecords.Proofs.StoreEffects
import GuardedRecords.Proofs.SystemFields

namespace GuardedRecords

/-- The time that the record at a place is marked with, if there is such a record and it has been
changed. -/
def Store.changeTime? (store : Store) (name id : String) : Option Value :=
  ((recordsUnder store.collections name).lookup? id).bind (·.lookup? updatedField)

/-- The times that the record at a place has been marked with, oldest first, after one more write.
They end with the record, and a new record has none. -/
def Write.timesAfter (name id : String) (times : List Value) : Write → List Value
  | .created place key _ | .removed place key => if (place, key) = (name, id) then [] else times
  | .changed place key record =>
    if (place, key) = (name, id) then times ++ [record.field updatedField] else times

/-- The times that the record at a place has been marked with in a run since it is there, the one it
has at the beginning before them. -/
def Store.changeTimes (store : Store) (name id : String) (steps : List StoreOperation) : List Value :=
  (store.run steps).1.foldl (Write.timesAfter name id) (store.changeTime? name id).toList

/-- All records that are marked with a time are marked with an integer. -/
def Store.MarksIntegers (store : Store) : Prop :=
  ∀ name id mark, store.changeTime? name id = some mark → ∃ time, mark = .int time

theorem le_stampAfter (previous : Value) (now : Int) : now ≤ stampAfter previous now := by
  have after (time : Int) : now ≤ if now ≤ time then time + 1 else now := by
    split <;> omega
  cases previous with
  | int time => exact after time
  | bool b => exact after (if b then 1 else 0)
  | _ => exact Int.le_refl now

/-- A stamp is later than the mark that is there, even when the clock stands still or has gone
back. -/
theorem lt_stampAfter (time now : Int) : time < stampAfter (.int time) now := by
  simp only [stampAfter]
  split <;> omega

/-- The times that a record is marked with, as far as the run has come: they increase, and the last
one is that of the stored record. -/
structure Store.MarkedWith (store : Store) (name id : String) (times : List Value) : Prop where
  last : store.changeTime? name id = times.getLast?
  increasing : ∃ marks : List Int, times = marks.map .int ∧ marks.Pairwise (· < ·)

theorem Store.MarkedWith.nil {store : Store} {name id : String}
    (unmarked : store.changeTime? name id = none) : store.MarkedWith name id [] :=
  ⟨unmarked, [], rfl, .nil⟩

/-- A further change comes with a later time. -/
theorem Store.MarkedWith.concat {store after : Store} {name id : String} {times : List Value}
    {old : Record} (marked : store.MarkedWith name id times)
    (found : (recordsUnder store.collections name).lookup? id = some old) {now : Int}
    (stored : after.changeTime? name id = some (.int (stampAfter (old.field updatedField) now))) :
    after.MarkedWith name id (times ++ [.int (stampAfter (old.field updatedField) now)]) := by
  obtain ⟨marks, rfl, increasing⟩ := marked.increasing
  refine ⟨by rw [stored, List.getLast?_concat], marks ++ [stampAfter (old.field updatedField) now],
    by rw [List.map_append]; rfl, ?_⟩
  have last : old.lookup? updatedField = (marks.map Value.int).getLast? := by
    rw [← marked.last, Store.changeTime?, found, Option.bind_some]
  rw [List.getLast?_map] at last
  refine List.pairwise_append.mpr ⟨increasing, List.pairwise_singleton _ _, ?_⟩
  intro earlier member time same
  cases List.mem_singleton.mp same
  rcases List.eq_nil_or_concat marks with rfl | ⟨front, recent, rfl⟩
  · cases member
  · have previous : old.field updatedField = .int recent := by
      rw [Record.field, last, List.concat_eq_append, List.getLast?_concat, Option.map_some,
        Option.getD_some]
    have later : recent < stampAfter (old.field updatedField) now :=
      previous ▸ lt_stampAfter recent now
    rw [List.concat_eq_append] at member increasing
    rcases List.mem_append.mp member with before | here
    · exact Int.lt_trans ((List.pairwise_append.mp increasing).2.2 earlier before recent
        List.mem_cons_self) later
    · cases List.mem_singleton.mp here
      exact later

/-- At each place an operation leaves the mark of the record as it is, or there is none after it, as
the record is new or gone, or the record is marked with the time of its change. -/
theorem Store.Does.mark_cases {store after : Store} {write : Option Write}
    (does : store.Does write after) (name id : String) :
    (after.changeTime? name id = store.changeTime? name id ∧
      ∀ times, write.toList.foldl (Write.timesAfter name id) times = times) ∨
    (after.changeTime? name id = none ∧
      ∀ times, write.toList.foldl (Write.timesAfter name id) times = []) ∨
    ∃ old, (recordsUnder store.collections name).lookup? id = some old ∧
      after.changeTime? name id =
        some (.int (stampAfter (old.field updatedField) store.clock.next.1)) ∧
      ∀ times, write.toList.foldl (Write.timesAfter name id) times =
        times ++ [.int (stampAfter (old.field updatedField) store.clock.next.1)] := by
  cases does with
  | nothing ids => exact .inl ⟨rfl, fun _ => rfl⟩
  | @create place key payload owner ids unused =>
    by_cases here : (place, key) = (name, id)
    · refine .inr (.inl ⟨?_, fun _ => if_pos here⟩)
      rw [Store.changeTime?, lookup?_put_record, if_pos here]
      exact lookup?_newRecord_updated payload owner _
    · refine .inl ⟨?_, fun _ => if_neg here⟩
      rw [Store.changeTime?, lookup?_put_record, if_neg here, Store.changeTime?]
  | @change place key old change found =>
    by_cases here : (place, key) = (name, id)
    · cases here
      have marked := Record.lookup?_changedAt_updated old change store.clock.next.1
      have answered : Record.field ((old.changedAt change store.clock.next.1).tagged id)
          updatedField = .int (stampAfter (old.field updatedField) store.clock.next.1) := by
        rw [Record.field_tagged_of_ne (by decide), Record.field, marked, Option.getD_some]
      refine .inr (.inr ⟨old, found, ?_, fun times => ?_⟩)
      · rw [Store.changeTime?, lookup?_put_record, if_pos rfl]
        exact marked
      · rw [← answered]
        exact if_pos rfl
    · refine .inl ⟨?_, fun _ => if_neg here⟩
      rw [Store.changeTime?, lookup?_put_record, if_neg here, Store.changeTime?]
  | remove place key =>
    by_cases here : (place, key) = (name, id)
    · refine .inr (.inl ⟨?_, fun _ => if_pos here⟩)
      rw [Store.changeTime?, lookup?_remove_record, if_pos here, Option.bind_none]
    · refine .inl ⟨?_, fun _ => if_neg here⟩
      rw [Store.changeTime?, lookup?_remove_record, if_neg here, Store.changeTime?]

/-- One operation carries the history along: either it leaves the place alone, or it adds a mark
behind all others, or the history starts afresh with the record. -/
theorem Store.Does.markedWith {store after : Store} {write : Option Write}
    (does : store.Does write after) {name id : String} {times : List Value}
    (marked : store.MarkedWith name id times) :
    after.MarkedWith name id (write.toList.foldl (Write.timesAfter name id) times) := by
  rcases does.mark_cases name id with ⟨same, kept⟩ | ⟨unmarked, fresh⟩ | ⟨old, found, stored, more⟩
  · rw [kept]
    exact ⟨same.trans marked.last, marked.increasing⟩
  · rw [fresh]
    exact .nil unmarked
  · rw [more]
    exact marked.concat found stored

/-- The history begins with the mark that is there, which has to be an integer: of any other mark a
stamp takes no notice. -/
theorem Store.MarksIntegers.markedWith {store : Store} (integers : store.MarksIntegers)
    (name id : String) : store.MarkedWith name id (store.changeTime? name id).toList := by
  cases marked : store.changeTime? name id with
  | none => exact .nil marked
  | some mark =>
    obtain ⟨time, rfl⟩ := integers name id mark marked
    exact ⟨marked, [time], rfl, List.pairwise_singleton _ _⟩

/-- By induction over the run, every history is increasing and ends with the mark of the stored
record. -/
theorem Store.MarksIntegers.run {store : Store} (integers : store.MarksIntegers)
    (steps : List StoreOperation) (name id : String) :
    (store.run steps).2.MarkedWith name id (store.changeTimes name id steps) :=
  Store.run_maintains
    (fun history now => now.MarkedWith name id
      (history.foldl (Write.timesAfter name id) (store.changeTime? name id).toList))
    (fun history now operation marked => by
      rw [List.foldl_append]
      exact (now.does_perform operation).markedWith marked)
    (integers.markedWith name id) steps

/-- The time of a change is at least the clock reading for it, and that reading is the only one.
With every write the clock goes on to the next reading. -/
theorem Store.Does.reading {store after : Store} {name id : String} {record : Record}
    (does : store.Does (some (.changed name id record)) after) :
    ∃ time, record.lookup? updatedField = some (.int time) ∧ store.clock.next.1 ≤ time ∧
      after.clock = store.clock.next.2 := by
  cases does with
  | @change _ _ old change found =>
    refine ⟨_, ?_, le_stampAfter (old.field updatedField) _, rfl⟩
    rw [Record.tagged, Table.lookup?_put_of_ne (by decide), Record.lookup?_changedAt_updated]

/-- An operation with another payload, where it has one. -/
def StoreOperation.carrying (payload : Record) : StoreOperation → StoreOperation
  | .add name _ owner => .add name payload owner
  | .set name id _ => .set name id payload
  | .merge name id _ => .merge name id payload
  | operation => operation

/-- The time that the record at a place is marked with, if there is a record. -/
def markAt (content : Table (Table Record)) (name id : String) : Option (Option Value) :=
  ((recordsUnder content name).lookup? id).map (·.lookup? updatedField)

/-- Two stores with the same ids and clock readings to come, and with records at the same places
that are marked with the same times. -/
structure Store.SameTimes (store other : Store) : Prop where
  ids : store.ids = other.ids
  clock : store.clock = other.clock
  attempts : store.attempts = other.attempts
  marks : markAt store.collections = markAt other.collections

theorem Store.SameTimes.refl (store : Store) : store.SameTimes store := ⟨rfl, rfl, rfl, rfl⟩

/-- Two operations that mark records with the same times, by what they are as writes and by the
stores after them. -/
structure SameTimesAfter (write : Option Write) (after : Store) (otherWrite : Option Write)
    (otherAfter : Store) : Prop where
  stores : after.SameTimes otherAfter
  times : ∀ name id times, write.toList.foldl (Write.timesAfter name id) times =
    otherWrite.toList.foldl (Write.timesAfter name id) times

section Payloads

variable {store other : Store} {name id : String}

/-- Stores with the same marks have records at the same places, so that an id is in use in both or
in neither. -/
theorem Store.SameTimes.has (same : store.SameTimes other) (name : String) :
    (store.recordsIn name).has = (other.recordsIn name).has := by
  funext id
  have marks := congrFun (congrFun same.marks name) id
  exact Option.isSome_map.symm.trans ((congrArg Option.isSome marks).trans Option.isSome_map)

theorem Store.SameTimes.nothing (same : store.SameTimes other) (ids : Supply String) :
    SameTimesAfter none { store with ids := ids } none { other with ids := ids } :=
  ⟨⟨rfl, same.clock, same.attempts, same.marks⟩, fun _ _ _ => rfl⟩

theorem Store.SameTimes.clock_next (same : store.SameTimes other) :
    store.clock.next = other.clock.next := by rw [same.clock]

/-- Records with the same mark may differ in everything else; entered at the same place they keep
the two stores alike. -/
theorem Store.SameTimes.put (same : store.SameTimes other) {record otherRecord : Record}
    (marks : record.lookup? updatedField = otherRecord.lookup? updatedField)
    {ids otherIds : Supply String} (left : ids = otherIds) (name id : String) :
    Store.SameTimes
      { store with
        collections := store.collections.put name ((recordsUnder store.collections name).put id record)
        ids := ids
        clock := store.clock.next.2 }
      { other with
        collections := other.collections.put name
          ((recordsUnder other.collections name).put id otherRecord)
        ids := otherIds
        clock := other.clock.next.2 } := by
  refine ⟨left, congrArg Prod.snd same.clock_next, same.attempts,
    funext fun place => funext fun key => ?_⟩
  simp only [markAt, lookup?_put_record]
  split
  · exact congrArg some marks
  · exact congrFun (congrFun same.marks place) key

theorem Store.SameTimes.remove (same : store.SameTimes other) (name id : String) :
    Store.SameTimes
      { store with
        collections := store.collections.put name ((recordsUnder store.collections name).remove id)
        clock := store.clock.next.2 }
      { other with
        collections := other.collections.put name ((recordsUnder other.collections name).remove id)
        clock := other.clock.next.2 } := by
  refine ⟨same.ids, congrArg Prod.snd same.clock_next, same.attempts,
    funext fun place => funext fun key => ?_⟩
  simp only [markAt, lookup?_remove_record]
  split
  · rfl
  · exact congrFun (congrFun same.marks place) key

theorem Store.SameTimes.lookup? (same : store.SameTimes other) (name id : String) :
    ((recordsUnder store.collections name).lookup? id = none ∧
      (recordsUnder other.collections name).lookup? id = none) ∨
    ∃ old otherOld, (recordsUnder store.collections name).lookup? id = some old ∧
      (recordsUnder other.collections name).lookup? id = some otherOld ∧
      old.lookup? updatedField = otherOld.lookup? updatedField := by
  have marks := congrFun (congrFun same.marks name) id
  simp only [markAt] at marks
  cases found : (recordsUnder store.collections name).lookup? id with
  | none =>
    rw [found, Option.map_none, eq_comm, Option.map_eq_none_iff] at marks
    exact .inl ⟨rfl, marks⟩
  | some old =>
    rw [found, Option.map_some, eq_comm, Option.map_eq_some_iff] at marks
    obtain ⟨otherOld, otherFound, mark⟩ := marks
    exact .inr ⟨old, otherOld, rfl, otherFound, mark.symm⟩

/-- A change marks the record by the mark before and by the clock, and both are the same in the two
stores. -/
theorem Store.SameTimes.modify (same : store.SameTimes other)
    {operation otherOperation : StoreOperation} {change otherChange : Record → Record}
    (writes : ∀ record, operation.write? (.ok (.record record)) = some (.changed name id record))
    (fails : ∀ failure, operation.write? (.error failure) = none)
    (otherWrites : ∀ record,
      otherOperation.write? (.ok (.record record)) = some (.changed name id record))
    (otherFails : ∀ failure, otherOperation.write? (.error failure) = none) :
    SameTimesAfter (operation.write? ((store.modify name id change).1.map .record))
      (store.modify name id change).2
      (otherOperation.write? ((other.modify name id otherChange).1.map .record))
      (other.modify name id otherChange).2 := by
  rcases same.lookup? name id with ⟨missing, otherMissing⟩ | ⟨old, otherOld, found, otherFound, mark⟩
  · obtain ⟨error, run⟩ := Store.modify_of_missing missing change
    obtain ⟨otherError, otherRun⟩ := Store.modify_of_missing otherMissing otherChange
    rw [run, otherRun]
    simp only [Except.map, fails, otherFails]
    exact ⟨same, fun _ _ _ => rfl⟩
  · rw [Store.modify_of_lookup? found, Store.modify_of_lookup? otherFound]
    simp only [Except.map, writes, otherWrites]
    have previous : old.field updatedField = otherOld.field updatedField := by
      rw [Record.field, mark, Record.field]
    have marks : (old.changedAt change store.clock.next.1).lookup? updatedField =
        (otherOld.changedAt otherChange other.clock.next.1).lookup? updatedField := by
      rw [Record.lookup?_changedAt_updated, Record.lookup?_changedAt_updated, previous,
        same.clock_next]
    refine ⟨same.put marks same.ids name id, fun place key times => ?_⟩
    simp only [Option.toList_some, List.foldl_cons, List.foldl_nil, Write.timesAfter,
      Record.field_tagged_of_ne (show updatedField ≠ idField by decide)]
    rw [Record.field, marks, Record.field]

/-- A new record has no mark of a change, whatever its payload claims, and the two stores take the
same id for it. -/
theorem Store.SameTimes.add (same : store.SameTimes other) (name : String)
    (payload otherPayload : Record) (owner : Value) :
    SameTimesAfter
      ((StoreOperation.add name payload owner).write? (store.perform (.add name payload owner)).1)
      (store.perform (.add name payload owner)).2
      ((StoreOperation.add name otherPayload owner).write?
        (other.perform (.add name otherPayload owner)).1)
      (other.perform (.add name otherPayload owner)).2 := by
  have search : freshId (store.recordsIn name).has store.attempts store.ids =
      freshId (other.recordsIn name).has other.attempts other.ids := by
    rw [same.has, same.attempts, same.ids]
  simp only [Store.perform]
  rcases store.add_cases name payload owner with ⟨id, ids, found, unused, run⟩ | ⟨ids, found, run⟩ <;>
    rcases other.add_cases name otherPayload owner with
      ⟨otherId, otherIds, otherFound, otherUnused, otherRun⟩ | ⟨otherIds, otherFound, otherRun⟩ <;>
    cases found.symm.trans (search.trans otherFound)
  · rw [run, otherRun, ← Table.put_of_not_mem unused, ← Table.put_of_not_mem otherUnused]
    simp only [Except.map, StoreOperation.write?, Record.field_tagged_self]
    refine ⟨same.put ?_ rfl name id, fun _ _ _ => rfl⟩
    rw [lookup?_newRecord_updated, lookup?_newRecord_updated]
  · rw [run, otherRun]
    exact same.nothing ids

theorem Store.SameTimes.delete (same : store.SameTimes other) (name id : String) :
    SameTimesAfter
      ((StoreOperation.delete name id).write? (store.perform (.delete name id)).1)
      (store.perform (.delete name id)).2
      ((StoreOperation.delete name id).write? (other.perform (.delete name id)).1)
      (other.perform (.delete name id)).2 := by
  simp only [Store.perform]
  rcases same.lookup? name id with ⟨missing, otherMissing⟩ | ⟨old, otherOld, found, otherFound, _⟩
  · obtain ⟨error, run⟩ := Store.delete_of_missing missing
    obtain ⟨otherError, otherRun⟩ := Store.delete_of_missing otherMissing
    rw [run, otherRun]
    exact ⟨same, fun _ _ _ => rfl⟩
  · rw [Store.delete_of_lookup? found, Store.delete_of_lookup? otherFound]
    exact ⟨same.remove name id, fun _ _ _ => rfl⟩

/-- One operation with two payloads keeps the stores alike: no payload has any influence on marks,
ids or clock. -/
theorem Store.SameTimes.perform (same : store.SameTimes other) (operation : StoreOperation)
    (payload : Record) :
    SameTimesAfter (operation.write? (store.perform operation).1) (store.perform operation).2
      ((operation.carrying payload).write? (other.perform (operation.carrying payload)).1)
      (other.perform (operation.carrying payload)).2 := by
  cases operation with
  | add name carried owner => exact same.add name carried payload owner
  | set name id carried =>
    exact same.modify (fun _ => rfl) (fun _ => rfl) (fun _ => rfl) fun _ => rfl
  | merge name id carried =>
    exact same.modify (fun _ => rfl) (fun _ => rfl) (fun _ => rfl) fun _ => rfl
  | delete name id => exact same.delete name id
  | _ => exact ⟨same, fun _ _ _ => rfl⟩

/-- By induction, two runs that differ in payloads only mark every record with the same times.
Payloads decide neither about ids nor about what is found. -/
theorem Store.SameTimes.run (same : store.SameTimes other) {steps others : List StoreOperation}
    (alike : List.Forall₂ (fun step other => ∃ payload, other = step.carrying payload) steps others)
    (name id : String) (times : List Value) :
    (store.run steps).1.foldl (Write.timesAfter name id) times =
      (other.run others).1.foldl (Write.timesAfter name id) times := by
  induction alike generalizing store other times with
  | nil => rfl
  | @cons step otherStep steps others carrying _ ih =>
    obtain ⟨payload, rfl⟩ := carrying
    have first := same.perform step payload
    simp only [Store.run, List.foldl_append]
    rw [first.times]
    exact ih first.stores _

end Payloads

/-- No later item of a supply of clock readings is less than an earlier one. -/
def Supply.NeverGoesBack (clock : Supply Int) : Prop :=
  ∀ place, clock.ahead place ≤ clock.ahead (place + 1)

theorem Supply.NeverGoesBack.skip {clock : Supply Int} (steady : clock.NeverGoesBack)
    (count : Nat) : (clock.skip count).NeverGoesBack := by
  intro place
  rw [Supply.ahead_skip, Supply.ahead_skip]
  exact steady (count + place)

/-- The clock does not go back any more, and it and the time that the record at a place is marked
with, if it is, are not before some time. -/
structure Store.Since (store : Store) (made : Int) (name id : String) : Prop where
  steady : store.clock.NeverGoesBack
  reading : made ≤ store.clock.next.1
  marked : ∀ mark, store.changeTime? name id = some mark → ∃ changed, mark = .int changed ∧ made ≤ changed

theorem Supply.NeverGoesBack.le_next {clock : Supply Int} (steady : clock.NeverGoesBack) {made : Int}
    (before : made ≤ clock.next.1) : made ≤ clock.next.2.next.1 :=
  Int.le_trans before (steady 0)

theorem Store.Does.clock {store after : Store} {write : Option Write}
    (does : store.Does write after) :
    after.clock = store.clock ∨ after.clock = store.clock.next.2 := by
  cases does with
  | nothing => exact .inl rfl
  | _ => exact .inr rfl

theorem Store.Does.steady {store after : Store} {write : Option Write}
    (does : store.Does write after) (steady : store.clock.NeverGoesBack) :
    after.clock.NeverGoesBack := by
  rcases does.clock with same | read
  · exact same ▸ steady
  · exact read ▸ steady.skip 1

/-- Once the clock has passed some time and does not go back, a record made after it is never marked
with an earlier time, whatever else is done. -/
theorem Store.Does.since {store after : Store} {write : Option Write} (does : store.Does write after)
    {made : Int} {name id : String} (since : store.Since made name id) :
    after.Since made name id := by
  refine ⟨does.steady since.steady, ?_, fun mark marked => ?_⟩
  · rcases does.clock with same | read
    · exact same ▸ since.reading
    · exact read ▸ since.steady.le_next since.reading
  · rcases does.mark_cases name id with ⟨same, _⟩ | ⟨unmarked, _⟩ | ⟨old, _, stored, _⟩
    · exact since.marked mark (same ▸ marked)
    · cases unmarked.symm.trans marked
    · cases stored.symm.trans marked
      exact ⟨_, rfl, Int.le_trans since.reading (le_stampAfter _ _)⟩

/-- A clock that does not go back has not gone back after a run either: what is left of it is the
rest of the same readings. -/
theorem Store.steady_run {store : Store} (steady : store.clock.NeverGoesBack)
    (steps : List StoreOperation) : (store.run steps).2.clock.NeverGoesBack :=
  Store.run_maintains (fun _ now => now.clock.NeverGoesBack)
    (fun _ now operation steady => (now.does_perform operation).steady steady) steady steps

theorem Store.Since.run {store : Store} {made : Int} {name id : String}
    (since : store.Since made name id) (steps : List StoreOperation) :
    (store.run steps).2.Since made name id :=
  Store.run_maintains (fun _ now => now.Since made name id)
    (fun _ now operation since => (now.does_perform operation).since since) since steps

/-- With a clock that never goes back a new record is not marked with a time before that of its
creation, as long as it is there. -/
theorem Store.marked_since_added {store : Store} (steady : store.clock.NeverGoesBack)
    {name id : String} {payload record : Record} {owner : Value}
    (added : (store.add name payload owner).1 = .ok record) (key : record.field idField = .text id)
    {later : List StoreOperation}
    (undeleted : .removed name id ∉ ((store.add name payload owner).2.run later).1) :
    ∃ stored made, ((store.add name payload owner).2.run later).2.existing name id = .ok stored ∧
      stored.lookup? createdField = some (.int made) ∧
      (stored.lookup? updatedField = none ∨
        ∃ changed, stored.lookup? updatedField = some (.int changed) ∧ made ≤ changed) := by
  obtain ⟨place, rfl, clock, got⟩ := Store.get_of_add added
  cases (Record.field_tagged_self _ place).symm.trans key
  obtain ⟨new, existing, same⟩ := Store.get_eq_ok_iff.mp got
  have fields {field : String} (ordinary : field ≠ idField) :
      new.lookup? field = (newRecord payload owner store.clock.next.1).lookup? field := by
    have tagged := congrArg (Table.lookup? · field) same
    simpa only [Record.tagged, Table.lookup?_put_of_ne ordinary] using tagged
  obtain ⟨stored, there, origin⟩ := Store.run_keeps_origin existing undeleted
  have since : (store.add name payload owner).2.Since store.clock.next.1 name id := by
    refine ⟨clock ▸ steady.skip 1, clock ▸ steady 0, fun mark marked => ?_⟩
    rw [Store.changeTime?, Store.existing_eq_ok_iff_recordsUnder.mp existing, Option.bind_some,
      fields (by decide), lookup?_newRecord_updated] at marked
    cases marked
  refine ⟨stored, store.clock.next.1, there, ?_, ?_⟩
  · rw [origin createdField (by decide), fields (by decide), lookup?_newRecord_created]
  · cases marked : stored.lookup? updatedField with
    | none => exact .inl rfl
    | some mark =>
      obtain ⟨changed, rfl, after⟩ := (since.run later).marked mark (by
        rw [Store.changeTime?, Store.existing_eq_ok_iff_recordsUnder.mp there, Option.bind_some,
          marked])
      exact .inr ⟨changed, rfl, after⟩

/-- How the times that records are marked with go along a run. -/
structure Store.KeepsTime (store : Store) (steps : List StoreOperation) : Prop where
  increasing : ∀ name id, ∃ times : List Int, times.Pairwise (· < ·) ∧
    store.changeTimes name id steps = times.map .int ∧
    (store.run steps).2.changeTime? name id = times.getLast?.map .int
  reading : ∀ {operation name id record},
    operation.write? ((store.run steps).2.perform operation).1 = some (.changed name id record) →
    ∃ time, record.lookup? updatedField = some (.int time) ∧
      (store.run steps).2.clock.next.1 ≤ time ∧
      ((store.run steps).2.perform operation).2.clock = (store.run steps).2.clock.next.2
  payloads : ∀ {others},
    List.Forall₂ (fun step other => ∃ payload, other = step.carrying payload) steps others →
    ∀ name id, store.changeTimes name id others = store.changeTimes name id steps
  created : store.clock.NeverGoesBack → ∀ {name id payload owner record later},
    ((store.run steps).2.add name payload owner).1 = .ok record →
    record.field idField = .text id →
    .removed name id ∉ (((store.run steps).2.add name payload owner).2.run later).1 →
    ∃ stored made,
      (((store.run steps).2.add name payload owner).2.run later).2.existing name id = .ok stored ∧
      stored.lookup? createdField = some (.int made) ∧
      (stored.lookup? updatedField = none ∨
        ∃ changed, stored.lookup? updatedField = some (.int changed) ∧ made ≤ changed)

/-- Whatever the clock does, the times of the changes of a record increase as long as it is there,
none of them is before the clock reading that was taken for it, and they do not depend on any
payload. With a clock that never goes back they are not before the creation of the record. -/
theorem Store.run_keeps_time {store : Store} (integers : store.MarksIntegers)
    (steps : List StoreOperation) : store.KeepsTime steps where
  increasing name id := by
    obtain ⟨last, times, same, increasing⟩ := integers.run steps name id
    exact ⟨times, increasing, same, by rw [last, same, List.getLast?_map]⟩
  reading {operation name id record} write := by
    have does := (store.run steps).2.does_perform operation
    rw [write] at does
    exact does.reading
  payloads alike name id :=
    ((Store.SameTimes.refl store).run alike name id (store.changeTime? name id).toList).symm
  created steady _ _ _ _ _ _ added key undeleted :=
    Store.marked_since_added (Store.steady_run steady steps) added key undeleted

/-- A note with a time of change ahead of the clock, which stands still. -/
def stoppedStore : Store :=
  { Store.holding [("notes", [("n1", [("_updatedOn", .int 5), ("title", .text "first")])])]
      (fun _ => "n1") 0 with clock := { item := fun _ => 4 } }

/-- The note is changed twice, deleted, made again with its old id and changed twice. -/
def restampingSteps : List StoreOperation :=
  [.merge "notes" "n1" [("_updatedOn", .int 99)], .set "notes" "n1" [], .delete "notes" "n1",
    .add "notes" [("_updatedOn", .int 99)] .null, .set "notes" "n1" [("_updatedOn", .int 99)],
    .merge "notes" "n1" []]

/-- The clock of this store stands still and is behind the mark, and still no mark is repeated; the
payloads that carry marks of their own are not listened to. -/
theorem Store.run_keeps_time_stopped :
    stoppedStore.MarksIntegers ∧ stoppedStore.clock.NeverGoesBack ∧
      stoppedStore.KeepsTime restampingSteps ∧
      stoppedStore.changeTimes "notes" "n1" (restampingSteps.take 2) =
        [.int 5, .int 6, .int 7] ∧
      stoppedStore.changeTimes "notes" "n1" restampingSteps = [.int 4, .int 5] := by
  have integers : stoppedStore.MarksIntegers := by
    intro name id mark marked
    obtain ⟨stored, found, mark_of⟩ := Option.bind_eq_some_iff.mp marked
    by_cases here : name = "notes"
    · subst here
      cases List.mem_singleton.mp (Table.mem_of_lookup? found)
      exact ⟨5, (Option.some.inj mark_of).symm⟩
    · have nothing := recordsUnder_put_of_ne here []
        [("n1", [("_updatedOn", .int 5), ("title", .text "first")])]
      cases (congrArg (Table.lookup? · id) nothing).symm.trans found
  exact ⟨integers, fun _ => Int.le_refl 4, Store.run_keeps_time integers restampingSteps, rfl, rfl⟩

end GuardedRecords
