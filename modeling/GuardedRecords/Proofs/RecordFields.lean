import GuardedRecords.Proofs.StoreChanges
import GuardedRecords.Proofs.TableUpdates

namespace GuardedRecords

/-- A tagged record shows its id under the name of ids, also if it was stored with another value
there. -/
theorem Record.field_tagged_self (record : Record) (id : String) :
    (record.tagged id).field idField = .text id := by
  rw [Record.field, Record.tagged, Table.lookup?_put_self, Option.getD_some]

theorem Record.field_tagged_of_ne {name : String} (different : name ≠ idField) (record : Record)
    (id : String) : (record.tagged id).field name = record.field name := by
  rw [Record.field, Record.tagged, Table.lookup?_put_of_ne different, Record.field]

theorem Record.lookup?_withoutSystemFields (record : Record) (name : String) :
    record.withoutSystemFields.lookup? name =
      if name ∈ systemFields then none else record.lookup? name := by
  rw [Record.withoutSystemFields, Table.lookup?_filter (fun name => !systemFields.contains name)]
  by_cases system : name ∈ systemFields <;> simp [system]

theorem Record.lookup?_withoutSystemFields_of_mem {name : String} (system : name ∈ systemFields)
    (record : Record) : record.withoutSystemFields.lookup? name = none := by
  rw [Record.lookup?_withoutSystemFields, if_pos system]

theorem Record.lookup?_withoutSystemFields_of_not_mem {name : String}
    (ordinary : name ∉ systemFields) (record : Record) :
    record.withoutSystemFields.lookup? name = record.lookup? name := by
  rw [Record.lookup?_withoutSystemFields, if_neg ordinary]

theorem Record.withoutSystemFields_withoutSystemFields (record : Record) :
    record.withoutSystemFields.withoutSystemFields = record.withoutSystemFields := by
  simp only [Record.withoutSystemFields, List.filter_filter, Bool.and_self]

theorem Record.withoutSystemFields_put {name : String} (system : name ∈ systemFields)
    (record : Record) (value : Value) :
    Record.withoutSystemFields (record.put name value) = record.withoutSystemFields :=
  Table.filter_put_of_left_out (fun name => !systemFields.contains name) (by simpa using system)
    record value

theorem Record.withoutSystemFields_tagged (record : Record) (id : String) :
    (record.tagged id).withoutSystemFields = record.withoutSystemFields :=
  Record.withoutSystemFields_put (by decide) record _

/-- A new record has the fields of its payload, and of those of the store its owner, if there is
one, and the time of its creation. -/
theorem withoutSystemFields_newRecord (payload : Record) (owner : Value) (now : Int) :
    (newRecord payload owner now).withoutSystemFields = payload.withoutSystemFields := by
  rw [newRecord, Record.withoutSystemFields_put (by decide)]
  split
  · exact Record.withoutSystemFields_withoutSystemFields payload
  · rw [Record.withoutSystemFields_put (by decide), Record.withoutSystemFields_withoutSystemFields]

theorem lookup?_newRecord_of_not_mem {name : String} (ordinary : name ∉ systemFields)
    (payload : Record) (owner : Value) (now : Int) :
    (newRecord payload owner now).lookup? name = payload.lookup? name := by
  rw [← Record.lookup?_withoutSystemFields_of_not_mem ordinary, withoutSystemFields_newRecord,
    Record.lookup?_withoutSystemFields_of_not_mem ordinary]

theorem lookup?_newRecord_created (payload : Record) (owner : Value) (now : Int) :
    (newRecord payload owner now).lookup? createdField = some (.int now) :=
  Table.lookup?_put_self ..

/-- A new record belongs to whoever creates it, and to nobody if the creator is anonymous. What the
payload says of an owner is dropped. -/
theorem lookup?_newRecord_owner (payload : Record) (owner : Value) (now : Int) :
    (newRecord payload owner now).lookup? ownerField =
      if owner.isNull then none else some owner := by
  rw [newRecord, Table.lookup?_put_of_ne (by decide)]
  split
  · exact Record.lookup?_withoutSystemFields_of_mem (by decide) payload
  · exact Table.lookup?_put_self ..

/-- A new record has been given neither an id nor a time of change. -/
theorem lookup?_newRecord_of_unset {name : String} (system : name ∈ systemFields)
    (notCreated : name ≠ createdField) (notOwner : name ≠ ownerField) (payload : Record)
    (owner : Value) (now : Int) : (newRecord payload owner now).lookup? name = none := by
  have plain : payload.withoutSystemFields.lookup? name = none :=
    Record.lookup?_withoutSystemFields_of_mem system payload
  rw [newRecord, Table.lookup?_put_of_ne notCreated]
  split
  · exact plain
  · rw [Table.lookup?_put_of_ne notOwner, plain]

theorem lookup?_newRecord_id (payload : Record) (owner : Value) (now : Int) :
    (newRecord payload owner now).lookup? idField = none :=
  lookup?_newRecord_of_unset (by decide) (by decide) (by decide) payload owner now

theorem lookup?_newRecord_updated (payload : Record) (owner : Value) (now : Int) :
    (newRecord payload owner now).lookup? updatedField = none :=
  lookup?_newRecord_of_unset (by decide) (by decide) (by decide) payload owner now

/-- Takes one field over from an old record, if it is there. -/
def Record.takeOver (old record : Record) (name : String) : Record :=
  match old.lookup? name with
  | some value => record.put name value
  | none => record

theorem replaceFields_eq_foldl (payload old : Record) :
    replaceFields payload old = systemFields.foldl old.takeOver payload.withoutSystemFields := rfl

theorem Record.lookup?_takeOver_of_ne {name other : String} (different : other ≠ name)
    (old record : Record) : (old.takeOver record name).lookup? other = record.lookup? other := by
  unfold Record.takeOver
  split
  · rw [Table.lookup?_put_of_ne different]
  · rfl

theorem Record.lookup?_takeOver_self (old record : Record) (name : String) :
    (old.takeOver record name).lookup? name = (old.lookup? name).or (record.lookup? name) := by
  unfold Record.takeOver
  cases found : old.lookup? name with
  | none => rw [Option.none_or]
  | some value => rw [Table.lookup?_put_self, Option.some_or]

/-- Several fields are taken over one by one, and the order does not matter to what a name shows in
the end. -/
theorem Record.lookup?_foldl_takeOver (names : List String) (old record : Record) (name : String) :
    Table.lookup? (names.foldl old.takeOver record) name =
      if name ∈ names then (old.lookup? name).or (record.lookup? name)
      else record.lookup? name := by
  induction names generalizing record with
  | nil => rfl
  | cons first names ih =>
    rw [List.foldl_cons, ih]
    by_cases same : name = first
    · subst same
      rw [Record.lookup?_takeOver_self, if_pos List.mem_cons_self]
      split
      · cases old.lookup? name <;> rfl
      · rfl
    · simp only [Record.lookup?_takeOver_of_ne same, List.mem_cons, same, false_or]

/-- A replacement keeps the system fields of the old record and takes all others from the payload,
so fields that the payload leaves out are lost. -/
theorem lookup?_replaceFields (payload old : Record) (name : String) :
    (replaceFields payload old).lookup? name =
      if name ∈ systemFields then old.lookup? name else payload.lookup? name := by
  rw [replaceFields_eq_foldl, Record.lookup?_foldl_takeOver]
  split
  · next system =>
    rw [Record.lookup?_withoutSystemFields_of_mem system]
    cases old.lookup? name <;> rfl
  · next ordinary => exact Record.lookup?_withoutSystemFields_of_not_mem ordinary payload

theorem withoutSystemFields_replaceFields (payload old : Record) :
    (replaceFields payload old).withoutSystemFields = payload.withoutSystemFields := by
  have kept (names : List String) (system : ∀ name ∈ names, name ∈ systemFields)
      (record : Record) : Record.withoutSystemFields (names.foldl old.takeOver record) =
        record.withoutSystemFields := by
    induction names generalizing record with
    | nil => rfl
    | cons first names ih =>
      rw [List.foldl_cons, ih fun name later => system name (List.mem_cons_of_mem first later)]
      unfold Record.takeOver
      split
      · exact Record.withoutSystemFields_put (system first List.mem_cons_self) record _
      · rfl
  rw [replaceFields_eq_foldl, kept systemFields fun _ system => system,
    Record.withoutSystemFields_withoutSystemFields]

/-- A merge leaves every field alone that the payload does not carry, and those of the store,
whatever the payload says of them. -/
theorem lookup?_mergeFields_of_absent {payload : Record} {name : String}
    (absent : name ∈ systemFields ∨ payload.lookup? name = none) (old : Record) :
    (mergeFields payload old).lookup? name = old.lookup? name := by
  refine Table.lookup?_putAll_of_not_mem ?_ old
  rw [← Table.lookup?_eq_none_iff, Record.lookup?_withoutSystemFields]
  split
  · rfl
  · next ordinary => exact absent.resolve_left ordinary

/-- A merge puts the ordinary fields of the payload over those of the old record, which keeps the
fields that the payload leaves out. -/
theorem withoutSystemFields_mergeFields (payload old : Record) :
    (mergeFields payload old).withoutSystemFields =
      Table.putAll old.withoutSystemFields payload.withoutSystemFields := by
  have putAll := Table.filter_putAll (fun name => !systemFields.contains name) old
    payload.withoutSystemFields
  exact putAll.trans (congrArg _ payload.withoutSystemFields_withoutSystemFields)

theorem Record.lookup?_changedAt_of_ne {name : String} (different : name ≠ updatedField)
    (old : Record) (change : Record → Record) (now : Int) :
    (old.changedAt change now).lookup? name = (change old).lookup? name :=
  Table.lookup?_put_of_ne different ..

theorem Record.withoutSystemFields_changedAt (old : Record) (change : Record → Record)
    (now : Int) :
    (old.changedAt change now).withoutSystemFields = (change old).withoutSystemFields :=
  Record.withoutSystemFields_put (by decide) ..

theorem Record.remove_updated_changedAt (old : Record) (change : Record → Record) (now : Int) :
    (old.changedAt change now).remove updatedField = (change old).remove updatedField :=
  Table.remove_put_self ..

theorem Record.foldl_takeOver_congr {names : List String} {old new : Record}
    (same : ∀ name ∈ names, old.lookup? name = new.lookup? name) (record : Record) :
    names.foldl old.takeOver record = names.foldl new.takeOver record := by
  induction names generalizing record with
  | nil => rfl
  | cons first names ih =>
    have step : old.takeOver record first = new.takeOver record first := by
      rw [Record.takeOver, Record.takeOver, same first List.mem_cons_self]
    rw [List.foldl_cons, List.foldl_cons, step]
    exact ih (fun name later => same name (List.mem_cons_of_mem first later)) _

theorem Record.remove_foldl_takeOver (names : List String) (old record : Record) (name : String) :
    Table.remove (names.foldl old.takeOver record) name =
      (names.filter fun other => other ≠ name).foldl old.takeOver (record.remove name) := by
  induction names generalizing record with
  | nil => rfl
  | cons first names ih =>
    rw [List.foldl_cons, ih, List.filter_cons]
    by_cases same : first = name
    · subst same
      have step : Table.remove (old.takeOver record first) first = record.remove first := by
        unfold Record.takeOver
        split
        · exact Table.remove_put_self ..
        · rfl
      simp only [step, ne_eq, not_true_eq_false, decide_false, Bool.false_eq_true, if_false]
    · have step : Table.remove (old.takeOver record first) name =
          old.takeOver (record.remove name) first := by
        unfold Record.takeOver
        split
        · exact Table.remove_put_of_ne same ..
        · rfl
      simp only [step, ne_eq, same, not_false_eq_true, decide_true, if_true, List.foldl_cons]

/-- Replacing a record by the same payload again changes nothing but the time of the change. -/
theorem replaceFields_again (payload old : Record) (now : Int) :
    Table.remove (replaceFields payload (old.changedAt (replaceFields payload) now)) updatedField =
      Table.remove (replaceFields payload old) updatedField := by
  simp only [replaceFields_eq_foldl, Record.remove_foldl_takeOver]
  refine Record.foldl_takeOver_congr (fun name member => ?_) _
  obtain ⟨system, other⟩ := List.mem_filter.mp member
  rw [Record.lookup?_changedAt_of_ne (of_decide_eq_true other), lookup?_replaceFields,
    if_pos system]

/-- Merging the same payload again changes nothing but the time of the change. -/
theorem mergeFields_again (payload old : Record) (now : Int) :
    Table.remove (mergeFields payload (old.changedAt (mergeFields payload) now)) updatedField =
      Table.remove (mergeFields payload old) updatedField := by
  rw [mergeFields, Table.remove_putAll, Record.remove_updated_changedAt, mergeFields,
    Table.remove_putAll, Table.putAll_putAll_self]

end GuardedRecords
