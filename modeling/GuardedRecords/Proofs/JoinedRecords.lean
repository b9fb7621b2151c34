import GuardedRecords.Proofs.Redaction

namespace GuardedRecords

/-- The records of an answer. -/
def Reading.records : Reading → List Record
  | .names _ | .shaped (.count _) => []
  | .record r => [r]
  | .shaped (.records rs) => rs

/-- Where a join has found the record that it attaches. -/
structure Attachment where
  collection : String
  id : Value

/-- A join, where it is noted under each property what has been attached there last. -/
def Join.attachNoting (source : RelatedSource) (state : Record × Table Attachment) (join : Join) :
    Record × Table Attachment :=
  (join.attach source state.1,
    match source join.collection (state.1.field join.source) with
    | some _ => state.2.put join.property ⟨join.collection, state.1.field join.source⟩
    | none => state.2)

/-- What the joins of a query attach to a record, by the property that shows it. -/
def QuerySpec.attachments (spec : QuerySpec) (source : RelatedSource) (record : Record) :
    Table Attachment :=
  (spec.joins.foldl (Join.attachNoting source) (selectFields spec.select record, [])).2

/-- Every record that is noted is shown without its credential, and every property without a note is
as it was at the start. -/
structure Joined (source : RelatedSource) (start : Record) (state : Record × Table Attachment) :
    Prop where
  attached : ∀ property attachment, state.2.lookup? property = some attachment →
    ∃ foreign, source attachment.collection attachment.id = some foreign ∧
      state.1.lookup? property = some (.object (foreign.remove credentialField))
  kept : ∀ property, state.2.lookup? property = none →
    state.1.lookup? property = start.lookup? property

section Joins

variable {source : RelatedSource} {start : Record} {state : Record × Table Attachment}

/-- One join keeps what is noted true: it puts a record under its property and a note with it, or it
finds nothing and leaves both as they were. -/
theorem Joined.attachNoting (joined : Joined source start state) (join : Join) :
    Joined source start (join.attachNoting source state) := by
  cases found : source join.collection (state.1.field join.source) with
  | none =>
    have same : join.attachNoting source state = state := by
      simp only [Join.attachNoting, Join.attach, found]
    rw [same]
    exact joined
  | some foreign =>
    have next : join.attachNoting source state =
        (state.1.put join.property (.object (foreign.remove credentialField)),
          state.2.put join.property ⟨join.collection, state.1.field join.source⟩) := by
      simp only [Join.attachNoting, Join.attach, found]
    rw [next]
    constructor
    · intro property attachment noted
      by_cases same : property = join.property
      · subst same
        rw [Table.lookup?_put_self] at noted ⊢
        cases noted
        exact ⟨foreign, found, rfl⟩
      · rw [Table.lookup?_put_of_ne same] at noted ⊢
        exact joined.attached property attachment noted
    · intro property unnoted
      by_cases same : property = join.property
      · subst same
        rw [Table.lookup?_put_self] at unnoted
        cases unnoted
      · rw [Table.lookup?_put_of_ne same] at unnoted ⊢
        exact joined.kept property unnoted

/-- All joins of a query keep what is noted true. A later join may replace what an earlier one has
attached, and then the note is replaced as well. -/
theorem Joined.foldl (joined : Joined source start state) (joins : List Join) :
    Joined source start (joins.foldl (Join.attachNoting source) state) := by
  induction joins generalizing state with
  | nil => exact joined
  | cons join rest ih => exact ih (joined.attachNoting join)

theorem foldl_attachNoting_fst (joins : List Join) (state : Record × Table Attachment) :
    (joins.foldl (Join.attachNoting source) state).1 = joins.foldl (Join.attach source) state.1 := by
  induction joins generalizing state with
  | nil => rfl
  | cons join rest ih => exact ih (join.attachNoting source state)

end Joins

/-- What a query makes of one record, with the notes of its joins. The properties are selected
first, so a join whose source was not selected finds nothing. -/
theorem QuerySpec.joined_project (spec : QuerySpec) (source : RelatedSource) (record : Record) :
    Joined source (selectFields spec.select record)
      (spec.project (some source) record, spec.attachments source record) := by
  have start : Joined source (selectFields spec.select record)
      (selectFields spec.select record, []) := by
    constructor
    · intro property attachment noted
      cases noted
    · exact fun _ _ => rfl
  have final := start.foldl spec.joins
  rw [QuerySpec.project, ← foldl_attachNoting_fst spec.joins (_, []), QuerySpec.attachments]
  exact final

/-- The records that an answer is made of, as the caller may see them, before joins and the
selection of properties. -/
def Database.Picks (db : Database) (caller : Caller) (name : String) (id : Option String)
    (spec : QuerySpec) (seen : List Record) : Prop :=
  match id, spec.condition with
  | some id, none =>
    ∃ stored, db.store.existing name id = .ok stored ∧
      seen = [db.guard.visible caller name id stored]
  | _, _ =>
    ∃ records, db.store.collection name = .ok records ∧
      spec.pick (records.map fun entry => db.guard.visible caller name entry.1 entry.2) = .ok seen

section Reads

variable {db : Database} {caller : Caller} {name : String} {spec : QuerySpec}

theorem Database.picks_of_readRecord {id : String} {shown : Record}
    (run : db.readRecord caller name id spec = .ok shown) :
    ∃ stored, db.store.existing name id = .ok stored ∧
      shown = spec.project (some db.related) (db.guard.visible caller name id stored) := by
  cases existing : db.store.existing name id with
  | error fault =>
    rw [Database.readRecord_of_error existing] at run
    cases run
  | ok stored =>
    rw [Database.readRecord_of_existing existing, map_eq_ok_iff] at run
    obtain ⟨_, _, rfl⟩ := run
    exact ⟨stored, rfl, rfl⟩

/-- The records of a collection are made visible one by one and then picked by filter, order and
page. Each record of the answer is the projection of a picked one. -/
theorem Database.picks_of_readCollection {shaped : Shaped}
    (run : db.readCollection caller name spec = .ok shaped) :
    ∃ records seen, db.store.collection name = .ok records ∧
      spec.pick (records.map fun entry => db.guard.visible caller name entry.1 entry.2) = .ok seen ∧
      ∀ shown ∈ (Reading.shaped shaped).records,
        ∃ record ∈ seen, shown = spec.project (some db.related) record := by
  cases collection : db.store.collection name with
  | error fault =>
    rw [Database.readCollection_of_error collection] at run
    cases run
  | ok records =>
    rw [Database.readCollection_of_lookup? (Store.collection_eq_ok_iff.mp collection),
      bind_eq_ok_iff] at run
    obtain ⟨_, _, shape⟩ := run
    obtain ⟨seen, picked, result⟩ := bind_eq_ok_iff.mp shape
    cases result
    refine ⟨records, seen, rfl, picked, fun shown member => ?_⟩
    split at member
    · exact absurd member List.not_mem_nil
    · obtain ⟨record, from_seen, rfl⟩ := List.mem_map.mp member
      exact ⟨record, from_seen, rfl⟩

/-- Every record of an answer is one of those picked, with its properties selected and the joins
attached. -/
theorem Database.picks_of_read {id : Option String} {reading : Reading}
    (run : db.read caller (some name) id spec = .ok reading) :
    ∃ seen, db.Picks caller name id spec seen ∧
      ∀ shown ∈ reading.records, ∃ record ∈ seen, shown = spec.project (some db.related) record := by
  simp only [Database.read] at run
  split at run
  · next key condition =>
    obtain ⟨shown, single, rfl⟩ := map_eq_ok_iff.mp run
    obtain ⟨stored, existing, rfl⟩ := Database.picks_of_readRecord single
    refine ⟨_, ?_, fun shown member => ⟨_, List.mem_singleton_self _, List.mem_singleton.mp member⟩⟩
    simp only [Database.Picks, condition]
    exact ⟨stored, existing, rfl⟩
  · next notSingle =>
    obtain ⟨shaped, whole, rfl⟩ := map_eq_ok_iff.mp run
    obtain ⟨records, seen, collection, picked, answered⟩ := Database.picks_of_readCollection whole
    refine ⟨seen, ?_, answered⟩
    unfold Database.Picks
    split
    · next key condition => exact (notSingle key rfl condition).elim
    · exact ⟨records, collection, picked⟩

end Reads

/-- Records of other collections than that of the users are looked up in the store itself, and no
rule is asked about them. -/
theorem Database.related_eq_some {db : Database} {collection : String} {id : Value}
    {foreign : Record} (other : collection ≠ usersCollection)
    (found : db.related collection id = some foreign) :
    ∃ key stored, id = .text key ∧ db.store.existing collection key = .ok stored ∧
      foreign = (stored.tagged key).remove credentialField := by
  rw [Database.related, if_neg other, Option.map_eq_some_iff] at found
  obtain ⟨fetched, present, rfl⟩ := found
  cases id with
  | text key =>
    rw [Store.fetch, Store.get] at present
    cases existing : db.store.existing collection key with
    | error fault =>
      rw [existing] at present
      cases present
    | ok stored =>
      rw [existing] at present
      cases present
      exact ⟨key, stored, rfl, existing, rfl⟩
  | _ => cases present

/-- The rules withhold a property of a stored record from a caller: one for this property fails on
the record, or the caller who reads the record itself is not shown it. -/
def Database.Withholds (db : Database) (caller : Caller) (collection key : String) (stored : Record)
    (property : String) : Prop :=
  (∃ rule ∈ (db.policy.resolve .read (some collection) (some key)).propertyRules,
    rule.property = property ∧
      db.guard.permits caller (some (stored.tagged key)) none rule.rule = false) ∨
  (stored.tagged key).has property = true ∧
    (db.guard.visible caller collection key stored).has property = false

/-- A record that is attached shows nothing that the rules withhold. -/
def Database.Respects (db : Database) (caller : Caller) (collection key : String)
    (stored loaded : Record) : Prop :=
  ∀ property, db.Withholds caller collection key stored property → loaded.has property = false

/-- A record that loses only its credential respects the rules exactly if they withhold nothing else
that it has. Joins remove nothing more, so this is the test for what they show. -/
theorem Database.respects_without_credential_iff {db : Database} {caller : Caller}
    {collection key : String} {stored : Record} :
    db.Respects caller collection key stored ((stored.tagged key).remove credentialField) ↔
      ∀ property, db.Withholds caller collection key stored property →
        property = credentialField ∨ (stored.tagged key).has property = false := by
  have shown : ∀ property, Table.has ((stored.tagged key).remove credentialField) property = false ↔
      property = credentialField ∨ (stored.tagged key).has property = false := by
    intro property
    by_cases credential : property = credentialField
    · subst credential
      rw [Table.has, Table.lookup?_remove_self]
      simp
    · rw [Table.has_remove_of_ne credential]
      simp [credential]
  simp only [Database.Respects, shown]

/-- What a record that is answered shows of a record that a query picks: under each property with an
attachment, that of users apart, the stored record without its credential, whoever reads; so it
shows nothing that the rules withhold exactly if they withhold nothing that the stored record has but
its credential. Under all other properties stands what the caller may see. -/
structure Database.ShowsJoined (db : Database) (caller : Caller) (spec : QuerySpec)
    (record shown : Record) : Prop where
  selected : ∀ property, (spec.attachments db.related record).lookup? property = none →
    shown.lookup? property = (selectFields spec.select record).lookup? property
  attached : ∀ property attachment,
    (spec.attachments db.related record).lookup? property = some attachment →
    attachment.collection ≠ usersCollection →
    ∃ key stored loaded, attachment.id = .text key ∧
      db.store.existing attachment.collection key = .ok stored ∧
      shown.lookup? property = some (.object loaded) ∧
      loaded = (stored.tagged key).remove credentialField ∧
      (db.Respects caller attachment.collection key stored loaded ↔
        ∀ property, db.Withholds caller attachment.collection key stored property →
          property = credentialField ∨ (stored.tagged key).has property = false)

/-- Projection shows of a picked record what joins are said to show. Together with what is picked
this gives the statement about whole answers. -/
theorem Database.showsJoined_project (db : Database) (caller : Caller) (spec : QuerySpec)
    (record : Record) : db.ShowsJoined caller spec record (spec.project (some db.related) record) := by
  have joined := spec.joined_project db.related record
  refine ⟨joined.kept, fun property attachment noted other => ?_⟩
  obtain ⟨foreign, found, shows⟩ := joined.attached property attachment noted
  obtain ⟨key, stored, text, existing, rfl⟩ := Database.related_eq_some other found
  rw [Table.remove_remove_self] at shows
  exact ⟨key, stored, _, text, existing, shows, rfl, Database.respects_without_credential_iff⟩

/-- Joins show stored records whatever the rules for reading them say. Only the credential is left
out, so rules are respected where they withhold nothing else. -/
theorem Database.read_shows_joined {db : Database} {caller : Caller} {name : String}
    {id : Option String} {spec : QuerySpec} {reading : Reading}
    (run : db.read caller (some name) id spec = .ok reading) :
    ∃ seen, db.Picks caller name id spec seen ∧
      ∀ shown ∈ reading.records, ∃ record ∈ seen, db.ShowsJoined caller spec record shown := by
  obtain ⟨seen, picks, answered⟩ := Database.picks_of_read run
  refine ⟨seen, picks, fun shown member => ?_⟩
  obtain ⟨record, from_seen, rfl⟩ := answered shown member
  exact ⟨record, from_seen, db.showsJoined_project caller spec record⟩

/-- A note that is linked to itself, and whose secret is withheld from everybody. -/
def linkedNotes : Database where
  store := {
    collections := [("notes", [("n1", [("secret", .int 1), ("next", .text "n1")])])]
    ids := { item := fun _ => "n2" }
    clock := { item := fun place => place }
    attempts := 1
    attempts_pos := by decide }
  identities := none
  policy := { collections := [("notes", { wildcard := { properties :=
    [("secret", { read := some (.expression "false" (.literal (.bool false))) })] } })] }

def loadNext : QuerySpec := { joins := [⟨"other", "next", "notes"⟩] }

theorem Database.read_shows_joined_note :
    ∃ reading, linkedNotes.read {} (some "notes") (some "n1") loadNext = .ok reading ∧
      ∃ seen, linkedNotes.Picks {} "notes" (some "n1") loadNext seen ∧
        ∀ shown ∈ reading.records, ∃ record ∈ seen,
          linkedNotes.ShowsJoined {} loadNext record shown := by
  have run : linkedNotes.read {} (some "notes") (some "n1") loadNext =
      .ok (.record [("next", .text "n1"), ("_id", .text "n1"), ("other", .object
        [("secret", .int 1), ("next", .text "n1"), ("_id", .text "n1")])]) := rfl
  exact ⟨_, run, Database.read_shows_joined run⟩

/-- The secret that the note itself does not show is shown by the same note where it is attached.
Nobody has to be known for that. -/
theorem Database.read_shows_withheld_secret :
    ∃ stored loaded, linkedNotes.store.existing "notes" "n1" = .ok stored ∧
      linkedNotes.read {} (some "notes") (some "n1") loadNext =
        .ok (.record [("next", .text "n1"), ("_id", .text "n1"), ("other", .object loaded)]) ∧
      ¬linkedNotes.Respects {} "notes" "n1" stored loaded := by
  refine ⟨_, [("secret", .int 1), ("next", .text "n1"), ("_id", .text "n1")], rfl, rfl, ?_⟩
  intro respects
  have withheld : linkedNotes.Withholds {} "notes" "n1"
      [("secret", .int 1), ("next", .text "n1")] "secret" := .inr ⟨rfl, rfl⟩
  cases respects "secret" withheld

end GuardedRecords
