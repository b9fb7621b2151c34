import GuardedRecords.Proofs.Redaction
import GuardedRecords.Proofs.RuleVariables
import GuardedRecords.Proofs.StoreChanges

namespace GuardedRecords

/-- The content of a store where the records of one collection lack a property. -/
def withoutProperty (name property : String) (content : Table (Table Record)) :
    Table (Table Record) :=
  content.map fun collection =>
    (collection.1,
      if collection.1 = name then
        collection.2.map fun stored => (stored.1, stored.2.remove property)
      else collection.2)

/-- The two stores hold the same records at the same places; those of the one collection lack the
property in the second store. -/
theorem lookup?_withoutProperty (name property : String) (content : Table (Table Record)) :
    (withoutProperty name property content).lookup? name =
      (content.lookup? name).map fun records =>
        records.map fun stored => (stored.1, stored.2.remove property) := by
  rw [withoutProperty, Table.lookup?_map content fun other records =>
    if other = name then records.map fun stored => (stored.1, stored.2.remove property) else records]
  simp only [if_true]

/-- Reads of a collection hide a property of all its records: it is withheld from everybody, and no
other rule that is consulted for these reads looks at it. -/
structure RuleSet.Hides (rules : RuleSet) (name : String) (ids : List String) (property : String) :
    Prop where
  notId : property ≠ idField
  withheld : ∃ own text, rules.collections.lookup? name = some own ∧
    ⟨property, .expression text (.literal (.bool false))⟩ ∈ own.wildcard.propertyRules .read
  collection : (rules.resolve .read (some name) none).rule.Ignores property
  record : ∀ id ∈ ids, (rules.resolve .read (some name) (some id)).rule.Ignores property
  others : ∀ id ∈ ids, ∀ other ∈ (rules.resolve .read (some name) (some id)).propertyRules,
    other.rule.Ignores property

section Erasure

variable (guard bare : Guard) (caller : Caller) {property : String}

/-- Property rules that ignore a property do the same to a record and to what is left of it without
that property. -/
theorem Guard.withhold_remove (record : Record) {rule : PropertyRule}
    (ignores : rule.rule.Ignores property) :
    bare.withhold caller (record.remove property) rule =
      (guard.withhold caller record rule).remove property := by
  have permits : bare.permits caller (some (record.remove property)) none rule.rule =
      guard.permits caller (some record) none rule.rule := by
    have check := ignores.check_remove bare.source guard.source caller (some record) none
    rw [Option.map_some] at check
    rw [Guard.permits, Guard.permits, check]
  rw [Guard.withhold, Guard.withhold, permits]
  by_cases same : rule.property = property
  · have absent : Table.has (record.remove property) rule.property = false := by
      rw [Table.has_eq_false_iff, ← Table.lookup?_eq_none_iff, same, Table.lookup?_remove_self]
    rw [absent, Bool.false_and, if_neg Bool.false_ne_true]
    split
    · rw [same, Table.remove_remove_self]
    · rfl
  · rw [Table.has_remove_of_ne same]
    split
    · exact Table.remove_comm record property rule.property
    · rfl

/-- Rules that do not look at the property withhold the same from a record with and without it. By
induction on the rules; each of them is asked about what the others left. -/
theorem Guard.foldl_withhold_remove (record : Record) {rules : List PropertyRule}
    (ignores : ∀ rule ∈ rules, rule.rule.Ignores property) :
    rules.foldl (bare.withhold caller) (record.remove property) =
      (rules.foldl (guard.withhold caller) record).remove property := by
  induction rules generalizing record with
  | nil => rfl
  | cons rule rest ih =>
    rw [List.foldl_cons, List.foldl_cons,
      guard.withhold_remove bare caller record (ignores rule List.mem_cons_self)]
    exact ih _ fun later member => ignores later (List.mem_cons_of_mem rule member)

end Erasure

theorem Guard.withhold_of_absent {guard : Guard} {caller : Caller} {record : Record}
    {property : String} (absent : record.lookup? property = none) (rule : PropertyRule) :
    (guard.withhold caller record rule).lookup? property = none := by
  rw [Guard.withhold]
  split
  · by_cases same : property = rule.property
    · rw [same, Table.lookup?_remove_self]
    · rw [Table.lookup?_remove_of_ne same, absent]
  · exact absent

theorem Guard.foldl_withhold_of_absent {guard : Guard} {caller : Caller} {record : Record}
    {property : String} (absent : record.lookup? property = none) (rules : List PropertyRule) :
    (rules.foldl (guard.withhold caller) record).lookup? property = none := by
  induction rules generalizing record with
  | nil => exact absent
  | cons rule rest ih => exact ih (Guard.withhold_of_absent absent rule)

theorem Guard.withhold_false (guard : Guard) (caller : Caller) (record : Record)
    (property text : String) :
    (guard.withhold caller record ⟨property, .expression text (.literal (.bool false))⟩).lookup?
      property = none := by
  have refused : guard.permits caller (some record) none
      (.expression text (.literal (.bool false))) = false := rfl
  rw [Guard.withhold, refused, Bool.not_false, Bool.and_true]
  split
  · exact Table.lookup?_remove_self record property
  · next kept =>
    rw [Bool.not_eq_true, Table.has_eq_false_iff] at kept
    exact Table.lookup?_eq_none_iff.mpr kept

/-- A property that some rule withholds from everybody is not shown, whatever the other rules
say. -/
theorem Guard.foldl_withhold_false (guard : Guard) (caller : Caller) {property text : String}
    {rules : List PropertyRule}
    (withheld : ⟨property, .expression text (.literal (.bool false))⟩ ∈ rules) (record : Record) :
    (rules.foldl (guard.withhold caller) record).lookup? property = none := by
  obtain ⟨front, back, rfl⟩ := List.append_of_mem withheld
  rw [List.foldl_append, List.foldl_cons]
  exact Guard.foldl_withhold_of_absent (guard.withhold_false caller _ property text) back

/-- The rules for the properties of all records apply to each record. -/
theorem RuleSet.mem_propertyRules_resolve {rules : RuleSet} {name : String}
    {own : CollectionRules} (found : rules.collections.lookup? name = some own) {action : Action}
    {rule : PropertyRule} (shared : rule ∈ own.wildcard.propertyRules action)
    (id : Option String) : rule ∈ (rules.resolve action (some name) id).propertyRules := by
  have here : rules.forCollection? (some name) = some own := found
  simp only [RuleSet.resolve, here]
  split
  · exact shared
  · exact List.mem_append_left _ shared

section Guards

variable (guard bare : Guard) {name property : String} {ids : List String}

theorem Record.tagged_remove {record : Record} (notId : property ≠ idField) (id : String) :
    Record.tagged (record.remove property) id = (record.tagged id).remove property :=
  (Table.remove_put_of_ne (Ne.symm notId) record _).symm

/-- What a caller sees of a record is what the caller would see of it without the hidden property,
wherever the rules look up other records. -/
theorem RuleSet.Hides.visible_remove (hides : guard.rules.Hides name ids property)
    (same : bare.rules = guard.rules) (caller : Caller) {id : String} (member : id ∈ ids)
    (stored : Record) :
    bare.visible caller name id (stored.remove property) = guard.visible caller name id stored := by
  obtain ⟨own, text, found, withheld⟩ := hides.withheld
  have shared := RuleSet.mem_propertyRules_resolve found withheld (some id)
  have absent := guard.foldl_withhold_false caller shared (stored.tagged id)
  rw [Guard.visible, Guard.visible, same, Record.tagged_remove hides.notId,
    guard.foldl_withhold_remove bare caller _ (hides.others id member)]
  exact Table.remove_of_not_mem (Table.lookup?_eq_none_iff.mp absent)

/-- The action rule is one of those that must not look at the property; then it lets the same
callers pass. -/
theorem Rule.Ignores.authorize_remove {decision : Decision} {record : Option Record}
    (ignores : decision.rule.Ignores property) (same : bare.rules = guard.rules)
    (notId : property ≠ idField)
    (resolved : guard.rules.resolveFor .read (some name) (candidateId record) = .ok decision)
    (caller : Caller) :
    bare.authorize caller .read (some name) (record.map (·.remove property)) none =
      guard.authorize caller .read (some name) record none := by
  have again : bare.rules.resolveFor .read (some name)
      (candidateId (record.map (·.remove property))) = .ok decision := by
    rw [← resolved, same]
    cases record with
    | none => rfl
    | some record =>
      rw [Option.map_some, candidateId, Record.field_remove_of_ne (Ne.symm notId), candidateId]
  rw [Guard.authorize_of_resolved again, Guard.authorize_of_resolved resolved,
    ignores.check_remove bare.source guard.source caller record none]

end Guards

theorem QuerySpec.project_of_no_joins {spec : QuerySpec} (plain : spec.joins = [])
    (related : Option RelatedSource) (record : Record) :
    spec.project related record = selectFields spec.select record := by
  cases related with
  | none => rfl
  | some source => simp only [QuerySpec.project, plain, List.foldl_nil]

/-- Without joins no other record is looked up, so it does not matter where records would be
found. -/
theorem QuerySpec.shape_of_no_joins {spec : QuerySpec} (plain : spec.joins = [])
    (related related' : Option RelatedSource) (records : List Record) :
    spec.shape related records = spec.shape related' records := by
  have same : spec.project related = spec.project related' := by
    funext record
    rw [QuerySpec.project_of_no_joins plain, QuerySpec.project_of_no_joins plain]
  rw [QuerySpec.shape, QuerySpec.shape, same]

theorem Store.collection_without {store bare : Store} {name property : String}
    (erased : bare.collections = withoutProperty name property store.collections) :
    bare.collection name = (store.collection name).map fun records =>
      records.map fun stored => (stored.1, stored.2.remove property) := by
  rw [Store.collection, Store.collection, erased, lookup?_withoutProperty]
  cases store.collections.lookup? name <;> rfl

theorem Store.existing_without {store bare : Store} {name property : String}
    (erased : bare.collections = withoutProperty name property store.collections) (id : String) :
    bare.existing name id = (store.existing name id).map (·.remove property) := by
  rw [Store.existing, Store.existing, Store.collection_without erased]
  cases store.collection name with
  | error fault => rfl
  | ok records =>
    have entry := Table.lookup?_map records (fun _ record => Table.remove record property) id
    simp only [Except.map, ok_bind, entry]
    cases records.lookup? id <;> rfl

section Reads

variable {db bare : Database} {name property : String} (policy : bare.policy = db.policy)
  (erased : bare.store.collections = withoutProperty name property db.store.collections)
  (hides : db.policy.Hides name (db.store.recordsIn name).names property)

include policy erased hides

/-- Reading one record does not tell whether it has the hidden property. -/
theorem Database.readRecord_without (caller : Caller) (id : String) {spec : QuerySpec}
    (plain : spec.joins = []) :
    bare.readRecord caller name id spec = db.readRecord caller name id spec := by
  have left := Store.existing_without erased id
  cases existing : db.store.existing name id with
  | error fault =>
    rw [existing] at left
    rw [Database.readRecord_of_error existing, Database.readRecord_of_error left]
  | ok stored =>
    rw [existing] at left
    have member : id ∈ (db.store.recordsIn name).names := by
      obtain ⟨records, found, entry⟩ := Store.existing_eq_ok_iff.mp existing
      rw [Store.recordsIn_of_lookup? found]
      exact List.mem_map_of_mem (Table.mem_of_lookup? entry)
    have verdict := (hides.record id member).authorize_remove db.guard bare.guard policy hides.notId
      (db.guard.resolveFor_stored .read name id stored) caller
    rw [Option.map_some, ← Record.tagged_remove hides.notId] at verdict
    rw [Database.readRecord_of_existing existing, Database.readRecord_of_existing left, verdict]
    simp only [QuerySpec.project_of_no_joins plain,
      hides.visible_remove db.guard bare.guard policy caller member]

/-- Reading a collection does not tell which records have the hidden property: it is gone from all
of them before the filter and the order of the query. -/
theorem Database.readCollection_without (caller : Caller) {spec : QuerySpec}
    (plain : spec.joins = []) :
    bare.readCollection caller name spec = db.readCollection caller name spec := by
  have left := Store.collection_without erased
  cases collection : db.store.collection name with
  | error fault =>
    rw [collection] at left
    rw [Database.readCollection_of_error collection, Database.readCollection_of_error left]
  | ok records =>
    rw [collection] at left
    have found := Store.collection_eq_ok_iff.mp collection
    rw [Store.recordsIn_of_lookup? found] at hides
    have resolved : db.policy.resolveFor .read (some name) (candidateId none) =
        .ok (db.policy.resolve .read (some name) none) := db.policy.resolveFor_null .read (some name)
    have verdict := hides.collection.authorize_remove db.guard bare.guard policy hides.notId
      resolved caller
    rw [Option.map_none] at verdict
    rw [Database.readCollection_of_lookup? found,
      Database.readCollection_of_lookup? (Store.collection_eq_ok_iff.mp left), verdict,
      QuerySpec.shape_of_no_joins plain (some bare.related) (some db.related), List.map_map]
    have visible : records.map ((fun entry => bare.guard.visible caller name entry.1 entry.2) ∘
        fun stored => (stored.1, stored.2.remove property)) =
          records.map fun entry => db.guard.visible caller name entry.1 entry.2 :=
      List.map_congr_left fun entry member =>
        hides.visible_remove db.guard bare.guard policy caller (List.mem_map_of_mem member) entry.2
    rw [visible]

theorem Database.read_without (caller : Caller) (id : Option String) {spec : QuerySpec}
    (plain : spec.joins = []) :
    bare.read caller (some name) id spec = db.read caller (some name) id spec := by
  simp only [Database.read]
  split
  · rw [Database.readRecord_without policy erased hides caller _ plain]
  · rw [Database.readCollection_without policy erased hides caller plain]

end Reads

theorem Store.names_recordsIn_of_same {store other : Store} {name property : String}
    (same : withoutProperty name property store.collections =
      withoutProperty name property other.collections) :
    (other.recordsIn name).names = (store.recordsIn name).names := by
  have names : ∀ content : Table (Table Record),
      Table.names ((content.lookup? name).getD []) =
        Table.names (((withoutProperty name property content).lookup? name).getD []) := by
    intro content
    rw [lookup?_withoutProperty]
    cases content.lookup? name with
    | none => rfl
    | some records => simp only [Option.map_some, Option.getD_some, Table.names, List.map_map,
        Function.comp_def]
  rw [Store.recordsIn, Store.recordsIn, names other.collections, names store.collections, same]

/-- A hidden property cannot be observed: databases that differ in nothing but the hidden property
of the records of a collection give the same answer to every read of it without joins, be it
records, their number or an error. -/
theorem Database.read_eq_of_hidden {db other : Database} {name property : String}
    (policy : other.policy = db.policy)
    (same : withoutProperty name property db.store.collections =
      withoutProperty name property other.store.collections)
    (hides : db.policy.Hides name (db.store.recordsIn name).names property) (caller : Caller)
    (id : Option String) {spec : QuerySpec} (plain : spec.joins = []) :
    other.read caller (some name) id spec = db.read caller (some name) id spec := by
  let bare : Database := { db with
    store := { db.store with collections := withoutProperty name property db.store.collections } }
  have first : bare.policy = db.policy ∧
      bare.store.collections = withoutProperty name property db.store.collections := ⟨rfl, rfl⟩
  have second : bare.policy = other.policy ∧
      bare.store.collections = withoutProperty name property other.store.collections :=
    ⟨policy.symm, same⟩
  have hides' : other.policy.Hides name (other.store.recordsIn name).names property := by
    rw [policy, Store.names_recordsIn_of_same same]
    exact hides
  calc other.read caller (some name) id spec
    _ = bare.read caller (some name) id spec :=
      (Database.read_without second.1 second.2 hides' caller id plain).symm
    _ = db.read caller (some name) id spec :=
      Database.read_without first.1 first.2 hides caller id plain

/-- Neither a filter by the secret of notes nor an order by it tells what the secrets are. The notes
here differ in nothing else. -/
theorem Database.read_eq_of_hidden_secret :
    let rules : RuleSet := { collections := [("notes", {
      actions := { read := some (.expression "record.title != 'draft'"
        (.binary (.path "record.title") (.comparison .ne) (.literal (.text "draft")))) }
      wildcard := { properties := [("secret",
        { read := some (.expression "false" (.literal (.bool false))) })] }
      records := [("n2", { properties := [("title", { read := some (.roles [.owner]) })] })] })] }
    let notes (first second : Record) : Store := {
      collections := [("notes", [("n1", first), ("n2", second)])]
      ids := { item := fun _ => "n3" }
      clock := { item := fun place => place }
      attempts := 1
      attempts_pos := by decide }
    let db : Database := ⟨notes [("secret", .int 1), ("title", .text "first")]
      [("title", .text "second")], none, rules⟩
    let other : Database := ⟨notes [("title", .text "first")]
      [("title", .text "second"), ("secret", .text "key")], none, rules⟩
    let spec : QuerySpec := {
      condition := some ⟨[⟨"secret", .eq, .int 1⟩, ⟨"title", .like, .text "s"⟩], .or⟩
      sortKeys := [⟨"secret", true⟩] }
    other.policy = db.policy ∧
      withoutProperty "notes" "secret" db.store.collections =
        withoutProperty "notes" "secret" other.store.collections ∧
      db.policy.Hides "notes" (db.store.recordsIn "notes").names "secret" ∧
      spec.joins = [] ∧
      other.read {} (some "notes") none spec = db.read {} (some "notes") none spec := by
  intro rules notes db other spec
  have policy : other.policy = db.policy := rfl
  have same : withoutProperty "notes" "secret" db.store.collections =
      withoutProperty "notes" "secret" other.store.collections := rfl
  have title : PathAvoids "secret" "record.title" := by
    intro root rest names _
    have split : pathNames "record.title" = ["record", "title"] := by decide
    rw [split] at names
    cases names
    exact ⟨"title", [], rfl, by decide⟩
  have action : (Rule.expression "record.title != 'draft'"
      (.binary (.path "record.title") (.comparison .ne) (.literal (.text "draft")))).Ignores
        "secret" := by
    refine ⟨by decide, fun path member => ?_⟩
    cases List.mem_singleton.mp member
    exact title
  have nothing : (Rule.expression "false" (.literal (.bool false))).Ignores "secret" :=
    ⟨by decide, fun path occurs => absurd occurs List.not_mem_nil⟩
  have stored : ∀ id ∈ (db.store.recordsIn "notes").names, id = "n1" ∨ id = "n2" := by
    intro id member
    rcases List.mem_cons.mp member with first | second
    · exact .inl first
    · exact .inr (List.mem_singleton.mp second)
  have hides : db.policy.Hides "notes" (db.store.recordsIn "notes").names "secret" := {
    notId := by decide
    withheld := ⟨_, "false", rfl, List.mem_singleton_self _⟩
    collection := action
    record := by
      intro id member
      rcases stored id member with rfl | rfl
      · exact action
      · exact action
    others := by
      intro id member rule consulted
      rcases stored id member with rfl | rfl
      · cases List.mem_singleton.mp consulted
        exact nothing
      · rcases List.mem_cons.mp consulted with rfl | own
        · exact nothing
        · cases List.mem_singleton.mp own
          exact fun _ => by decide }
  exact ⟨policy, same, hides, rfl, Database.read_eq_of_hidden policy same hides {} none rfl⟩

end GuardedRecords
