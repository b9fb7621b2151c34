import GuardedRecords.Proofs.StoreRuns

namespace GuardedRecords

/-- Whether a value counts as the wanted one: a text up to case, any other value by equality. -/
inductive Value.Answers : Value → Value → Prop
  | text {s wanted : String} (agree : lower s = lower wanted) : Answers (.text s) (.text wanted)
  | other {actual wanted : Value} (notTexts : ∀ s t, actual = .text s → wanted ≠ .text t)
      (agree : actual.equals wanted = true) : Answers actual wanted

theorem fieldMatches_iff {actual wanted : Value} :
    fieldMatches actual wanted = true ↔ actual.Answers wanted := by
  unfold fieldMatches
  split
  · next s t =>
    rw [beq_iff_eq]
    constructor
    · exact .text
    · rintro (agree | ⟨notTexts, _⟩)
      · exact agree
      · exact absurd rfl (notTexts s t rfl)
  · next notTexts =>
    constructor
    · exact .other notTexts
    · rintro (_ | ⟨_, agree⟩)
      · exact absurd rfl (notTexts _ _ rfl)
      · exact agree

instance (actual wanted : Value) : Decidable (actual.Answers wanted) :=
  decidable_of_iff _ fieldMatches_iff

/-- The member of a listed record that a query goes by. The id is none of them: it is added when a
record is given out. -/
def Record.queried (record : Record) (name : String) : Value :=
  if name = idField then .null else record.field name

/-- Whether a listed record has all the wanted members. -/
def Record.Meets (record wanted : Record) : Prop :=
  ∀ pair ∈ wanted, (record.queried pair.1).Answers pair.2

instance (record wanted : Record) : Decidable (record.Meets wanted) :=
  inferInstanceAs (Decidable (∀ pair ∈ wanted, _))

/-- A record that is given out is queried like the stored one, since the stored one has no id among
its members. -/
theorem Record.queried_tagged {record : Record} (untagged : record.lookup? idField = none)
    (id name : String) : (record.tagged id).queried name = record.field name := by
  unfold Record.queried
  split
  · next same => rw [same, Record.field, untagged, Option.getD_none]
  · next different => exact Record.field_tagged_of_ne different record id

theorem Record.meets_tagged_iff {record : Record} (untagged : record.lookup? idField = none)
    (id : String) (wanted : Record) :
    (record.tagged id).Meets wanted ↔
      (wanted.all fun w => fieldMatches (record.field w.1) w.2) = true := by
  simp only [Record.Meets, Record.queried_tagged untagged, List.all_eq_true, fieldMatches_iff]

theorem Record.meets_iff_of_no_id {wanted : Record} (others : idField ∉ Table.names wanted)
    (record : Record) :
    record.Meets wanted ↔ ∀ pair ∈ wanted, (record.field pair.1).Answers pair.2 := by
  have kept (pair : String × Value) (member : pair ∈ wanted) :
      record.queried pair.1 = record.field pair.1 := by
    refine if_neg fun same => others ?_
    rw [← same]
    exact List.mem_map_of_mem member
  constructor
  · exact fun meets pair member => kept pair member ▸ meets pair member
  · exact fun each pair member => (kept pair member).symm ▸ each pair member

/-- No listed record is found by a text in the place of the id. -/
theorem Record.not_meets_id (record : Record) (id : String) :
    ¬record.Meets [(idField, .text id)] := by
  intro meets
  have answers : Value.null.Answers (.text id) := meets _ (List.mem_singleton_self _)
  have equal : Value.null.equals (.text id) = true := by
    cases answers with
    | other _ agree => exact agree
  rw [Value.equals, Value.agrees] at equal
  all_goals cases equal

/-- Where records are stored without their ids, a query picks from the list that is given out, in
its order. -/
theorem Store.query_eq_filter {store : Store} (orderly : Orderly store.collections) {name : String}
    (present : name ∈ store.names) :
    ∃ listed, store.all name = .ok listed ∧ ∀ wanted, store.query name wanted =
      .ok (listed.filter fun record => record.Meets wanted) := by
  obtain ⟨records, found⟩ := Option.isSome_iff_exists.mp (Table.has_eq_true_iff.mpr present)
  have untagged (entry : String × Record) (member : entry ∈ records) :
      entry.2.lookup? idField = none := by
    have inPlace := recordsUnder_of_lookup? found
    have distinct : records.names.Nodup := inPlace ▸ orderly.ids name
    refine orderly.untagged name entry.1 entry.2 ?_
    rw [inPlace]
    exact Table.lookup?_of_mem distinct member
  have collection : store.collection name = .ok records := by rw [Store.collection, found]
  refine ⟨_, by rw [Store.all, collection]; rfl, fun wanted => ?_⟩
  rw [Store.query, collection, List.filter_map]
  refine congrArg (fun kept => Except.ok (List.map _ kept)) (List.filter_congr fun entry member => ?_)
  rw [Bool.eq_iff_iff, ← Record.meets_tagged_iff (untagged entry member) entry.1]
  exact (decide_eq_true_iff).symm

/-- At every point of a run, a query of a collection picks from its records as they are listed, in
their order, those that have all the wanted members; a member that is missing counts as `null`, and
so does the id, which records are stored without. So a query that does not name the id goes by the
records as they are listed, and no text in the place of the id finds a record, not even the id
under which one is there. -/
theorem Store.run_query_filters {seed : Table (Table Record)} {ids : Supply String}
    {clock : Supply Int} {attempts : Int} {store : Store}
    (start : Store.ofSeed seed ids clock attempts = .ok store) (steps : List StoreOperation)
    {name : String} (present : name ∈ (store.run steps).2.names) :
    ∃ listed, (store.run steps).2.all name = .ok listed ∧
      (∀ wanted, (store.run steps).2.query name wanted =
        .ok (listed.filter fun record => record.Meets wanted)) ∧
      (∀ wanted : Record, idField ∉ wanted.names → (store.run steps).2.query name wanted =
        .ok (listed.filter fun record =>
          ∀ pair ∈ wanted, (record.field pair.1).Answers pair.2)) ∧
      ∀ id, (store.run steps).2.query name [(idField, .text id)] = .ok [] := by
  have orderly := Store.orderly_run (Store.orderly_ofSeed start) steps
  obtain ⟨listed, all, query⟩ := Store.query_eq_filter orderly present
  refine ⟨listed, all, query, fun wanted others => ?_, fun id => ?_⟩
  · rw [query]
    refine congrArg Except.ok (List.filter_congr fun record _ => ?_)
    rw [decide_eq_decide]
    exact Record.meets_iff_of_no_id others record
  · rw [query, List.filter_eq_nil_iff.mpr]
    intro record _
    rw [decide_eq_true_iff]
    exact record.not_meets_id id

/-- Two notes, one of which is about to be changed. -/
def pastryNotes : Table (Table Record) :=
  [("notes", [("n1", [("title", .text "Éclair")]), ("n2", [("title", .text "éclair")])])]

def pastryStore : Store := .holding (storedForm pastryNotes) (fun _ => "n3") 0

/-- The change has a time, by which the note is found together with its title in another case. The
other note has none, and counts as having `null` there. -/
theorem Store.run_query_filters_pastry :
    let after := (pastryStore.run [.merge "notes" "n1" [("rank", .int 1)]]).2
    let changed : Record :=
      [("title", .text "Éclair"), ("rank", .int 1), ("_updatedOn", .int 0), ("_id", .text "n1")]
    let other : Record := [("title", .text "éclair"), ("_id", .text "n2")]
    Store.ofSeed pastryNotes pastryStore.ids pastryStore.clock 1 = .ok pastryStore ∧
      "notes" ∈ after.names ∧ after.all "notes" = .ok [changed, other] ∧
      after.query "notes" [("title", .text "ÉCLAIR"), ("_updatedOn", .bool false)] = .ok [changed] ∧
      after.query "notes" [("_updatedOn", .null)] = .ok [other] ∧
      after.query "notes" [("_id", .text "n1")] = .ok [] := by
  intro after changed other
  have start : Store.ofSeed pastryNotes pastryStore.ids pastryStore.clock 1 = .ok pastryStore := rfl
  have present : "notes" ∈ after.names := List.mem_cons_self
  have all : after.all "notes" = .ok [changed, other] := rfl
  obtain ⟨listed, same, -, query, byId⟩ :=
    Store.run_query_filters start [.merge "notes" "n1" [("rank", .int 1)]] present
  cases all.symm.trans same
  refine ⟨start, present, all, ?_, ?_, byId "n1"⟩
  · rw [query _ (by decide)]
    rfl
  · rw [query _ (by decide)]
    rfl

/-- A listed note is not found by its id, and a query for the id `null`, which no listed note has,
finds it. -/
theorem Store.query_passes_over_id :
    let listed : Record := [("title", .text "Éclair"), ("_id", .text "n1")]
    let store : Store := .holding [("notes", [("n1", [("title", .text "Éclair")])])] (fun _ => "n2") 0
    store.all "notes" = .ok [listed] ∧ store.get "notes" "n1" = .ok listed ∧
      Value.Answers (listed.field "_id") (.text "n1") ∧
      store.query "notes" [("_id", .text "n1")] = .ok [] ∧
      ¬Value.Answers (listed.field "_id") .null ∧
      store.query "notes" [("_id", .null)] = .ok [listed] := by
  refine ⟨rfl, rfl, .text rfl, rfl, ?_, rfl⟩
  decide

end GuardedRecords
