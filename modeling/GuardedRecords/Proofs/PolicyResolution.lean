import GuardedRecords.Proofs.PolicyDocuments

namespace GuardedRecords

/-- The rule for an action that a document declares at some place. -/
def Value.declared? (config : Value) (action : Action) (place : List String) : Option Rule :=
  (config.at? place).bind fun scope => scope.rule? action

/-- The rules for an action that a document declares for properties at some place. -/
def Value.declaredProperties (config : Value) (action : Action) (place : List String) :
    List PropertyRule :=
  ((config.at? place).map fun scope => scope.propertyRules action).getD []

/-- The last of the rules for an action that stand at the given places; where there is none the
built-in one. -/
def Value.lastDeclared (config : Value) (action : Action) (places : List (List String)) : Rule :=
  (places.filterMap (config.declared? action)).getLastD (builtinRule action)

instance (key : String) : Decidable (IsRecordKey key) :=
  inferInstanceAs (Decidable (key ≠ "*" ∧ isActionKey key = false))

/-- Where the rules of a single record stand. The empty id has none. -/
def recordPlaces (collection : String) : Option String → List (List String)
  | some id => if id ≠ "" ∧ IsRecordKey id then [[collection, id]] else []
  | none => []

theorem recordPlaces_cases (collection : String) (id : Option String) :
    recordPlaces collection id = [] ∨ ∃ key, recordPlaces collection id = [[collection, key]] := by
  cases id with
  | none => exact .inl rfl
  | some key =>
    rw [recordPlaces]
    split
    · exact .inr ⟨key, rfl⟩
    · exact .inl rfl

/-- Where the action rules for a record of a collection stand, later ones before earlier ones. -/
def actionPlaces (collection id : Option String) : List (List String) :=
  ["*"] :: match collection with
    | some name => if name = "*" then [] else [name] :: recordPlaces name id
    | none => []

/-- Where the property rules for a record of a collection stand. -/
def propertyPlaces (collection id : Option String) : List (List String) :=
  match collection with
  | some name => if name = "*" then [] else [name, "*"] :: recordPlaces name id
  | none => []

/-- The last of what is found in several places, when the first place is taken apart: what is found
there is the default for the others. -/
theorem getLastD_filterMap_cons {α β : Type} (f : α → Option β) (first : α) (others : List α)
    (default : β) :
    ((first :: others).filterMap f).getLastD default =
      (others.filterMap f).getLastD ((f first).getD default) := by
  rw [List.filterMap_cons]
  cases f first with
  | none => rfl
  | some found => exact List.getLastD_cons ..

/-- The default for an action is what the document says under `*`, and otherwise the built-in
rule. -/
theorem RuleSet.ReadFrom.defaultRule {rules : RuleSet} {config : Value}
    (read : rules.ReadFrom config) (action : Action) :
    rules.defaultRule action = (config.declared? action ["*"]).getD (builtinRule action) := by
  rw [RuleSet.defaultRule, read.override]
  simp only [Value.declared?, Value.at?]
  cases config.member? "*" <;> rfl

/-- What a scope and the value that it is read from say of a place within the document. -/
theorem ScopedRules.ReadFrom.declared {scope : ScopedRules} {value config : Value}
    {place : List String} (read : scope.ReadFrom value) (stands : config.at? place = some value)
    (action : Action) :
    scope.actions.get action = config.declared? action place ∧
      scope.propertyRules action = config.declaredProperties action place := by
  rw [Value.declared?, Value.declaredProperties, stands]
  exact ⟨read.rule action, read.properties action⟩

/-- Resolution within the rules of one collection, as places of the document. The cases are those of
the id: none, the empty one, one with rules, and all others. -/
theorem CollectionRules.ReadFrom.resolve {own : CollectionRules} {value config : Value}
    {rules : RuleSet} {name : String} (read : own.ReadFrom value)
    (present : rules.collections.lookup? name = some own)
    (stands : config.member? name = some value) (action : Action) (id : Option String) :
    rules.resolve action (some name) id =
      ⟨(([name] :: recordPlaces name id).filterMap (config.declared? action)).getLastD
          (rules.defaultRule action),
        ([name, "*"] :: recordPlaces name id).flatMap (config.declaredProperties action)⟩ := by
  have rule : own.actions.get action = config.declared? action [name] := by
    simp only [Value.declared?, Value.at?, stands, Option.bind_some, read.rule]
  have shared : own.wildcard.propertyRules action = config.declaredProperties action [name, "*"] := by
    rw [read.shared]
    simp only [Value.declaredProperties, Value.at?, stands, Option.bind_some]
    cases value.member? "*" <;> rfl
  rw [getLastD_filterMap_cons, List.flatMap_cons, ← rule, ← shared]
  simp only [RuleSet.resolve, RuleSet.forCollection?, present]
  cases id with
  | none => simp [recordPlaces]
  | some key =>
    -- The empty id is asked for like no id, although a member may have that name.
    by_cases empty : key = ""
    · subst empty
      simp [recordPlaces]
    · have filled : ¬key.isEmpty = true := by simpa using empty
      rw [Option.bind_some, if_neg filled]
      by_cases record : IsRecordKey key
      · have places : recordPlaces name (some key) = [[name, key]] := if_pos ⟨empty, record⟩
        rw [places]
        rcases optionRel_cases (read.record key record) with
          ⟨noScope, noValue⟩ | ⟨scope, inner, found, within, scopeRead⟩
        · have nowhere : config.at? [name, key] = none := by
            simp only [Value.at?, stands, Option.bind_some, noValue, Option.bind_none]
          rw [noScope]
          simp [Value.declared?, Value.declaredProperties, nowhere]
        · have somewhere : config.at? [name, key] = some inner := by
            simp only [Value.at?, stands, Option.bind_some, within]
          obtain ⟨declared, properties⟩ := scopeRead.declared somewhere action
          rw [found, getLastD_filterMap_cons, List.flatMap_cons, ← declared, ← properties]
          simp
      · have places : recordPlaces name (some key) = [] := if_neg fun both => record both.2
        rw [places, read.others key record]
        simp

/-- A policy is resolved as its document reads. Among the rules for an action the one that is
declared last counts: under `*`, for the collection, for the record. The rules for the properties
of all records come before those for the properties of the one. What is empty declares nothing. -/
theorem RuleSet.resolve_ofConfig {config : Value} {rules : RuleSet}
    (distinct : config.NamesDistinct) (accepted : RuleSet.ofConfig config = .ok rules)
    (action : Action) (collection id : Option String) :
    rules.resolve action collection id =
      ⟨config.lastDeclared action (actionPlaces collection id),
        (propertyPlaces collection id).flatMap (config.declaredProperties action)⟩ := by
  have read := RuleSet.readFrom_of_ofConfig distinct accepted
  rw [Value.lastDeclared, actionPlaces.eq_def, getLastD_filterMap_cons, ← read.defaultRule]
  cases collection with
  | none => rfl
  | some name =>
    by_cases star : name = "*"
    · subst star
      simp only [RuleSet.resolve, RuleSet.forCollection?, read.wildcard, propertyPlaces, if_true]
      rfl
    · simp only [propertyPlaces, if_neg star]
      rcases optionRel_cases (read.collection name star) with
        ⟨absent, nothing⟩ | ⟨own, value, present, stands, ownRead⟩
      · have nowhere (path : List String) : config.at? (name :: path) = none := by
          rw [Value.at?, nothing, Option.bind_none]
        rcases recordPlaces_cases name id with none | ⟨key, one⟩
        · simp [RuleSet.resolve, RuleSet.forCollection?, absent, none, Value.declared?,
            Value.declaredProperties, nowhere]
        · simp [RuleSet.resolve, RuleSet.forCollection?, absent, one, Value.declared?,
            Value.declaredProperties, nowhere]
      · exact ownRead.resolve present stands action id

/-- A member of a document that allows or forbids reading. -/
def readable (allowed : Bool) : Value := .object [(".read", .bool allowed)]

/-- Owners read what is theirs. The collection leaves that rule in place, one of its notes does
not, and the two rules for the body of that note are both asked. -/
def layeredConfig : Value :=
  .object [
    ("*", .object [(".read", .array [.text "Owner"])]),
    ("notes", .object [
      (".read", .array []),
      ("*", .object [("title", .object [(".read", .text " ")]), ("body", readable true)]),
      ("n1", .object [(".read", .bool true), ("body", readable false)])])]

theorem RuleSet.resolve_ofConfig_layered :
    layeredConfig.NamesDistinct ∧ ∃ rules, RuleSet.ofConfig layeredConfig = .ok rules ∧
      rules.resolve .read (some "notes") (some "n1") =
        ⟨.expression "true" (.literal (.bool true)),
          [⟨"body", .expression "true" (.literal (.bool true))⟩,
            ⟨"body", .expression "false" (.literal (.bool false))⟩]⟩ ∧
      rules.resolve .read (some "notes") (some "n2") =
        ⟨.roles [.owner], [⟨"body", .expression "true" (.literal (.bool true))⟩]⟩ := by
  have distinct : layeredConfig.NamesDistinct := by
    simp [layeredConfig, readable, Value.NamesDistinct, itemsNamesDistinct, membersNamesDistinct,
      Table.names]
  refine ⟨distinct, _, rfl, ?_, ?_⟩
  · exact (RuleSet.resolve_ofConfig distinct rfl .read (some "notes") (some "n1")).trans rfl
  · exact (RuleSet.resolve_ofConfig distinct rfl .read (some "notes") (some "n2")).trans rfl

/-- Scopes within the scope `*`, where only overrides are read. -/
def overrideConfig : Value :=
  .object [("*", .object [("n1", readable false), ("*", .object [("status", readable false)])])]

/-- Scopes for all notes and for a note with the empty id. -/
def emptyIdConfig : Value :=
  .object [("notes", .object [("*", .object [("secret", readable false)]),
    ("", .object [("body", readable false)])])]

/-- The scopes below `*` are none of a collection of that name, neither for a record nor for all of
them. And the ids `*` and the empty one have no scope of their own: the former does not name the
scope for all records a second time. -/
theorem RuleSet.resolve_passes_over_scopes :
    ∃ overriding rules, RuleSet.ofConfig overrideConfig = .ok overriding ∧
      RuleSet.ofConfig emptyIdConfig = .ok rules ∧
      (overriding.resolve .read (some "*") (some "n1")).rule ≠
        overrideConfig.lastDeclared .read [["*"], ["*", "n1"]] ∧
      (overriding.resolve .read (some "*") none).propertyRules ≠
        overrideConfig.declaredProperties .read ["*", "*"] ∧
      (rules.resolve .read (some "notes") (some "*")).propertyRules ≠
        [["notes", "*"], ["notes", "*"]].flatMap (emptyIdConfig.declaredProperties .read) ∧
      (rules.resolve .read (some "notes") (some "")).propertyRules ≠
        [["notes", "*"], ["notes", ""]].flatMap (emptyIdConfig.declaredProperties .read) := by
  refine ⟨_, _, rfl, rfl, ?_, ?_, ?_, ?_⟩
  · intro same
    have sources : "true" = "false" := (Rule.expression.inj same).1
    exact absurd sources (by decide)
  · exact fun same => absurd (congrArg List.length same) (by decide)
  · exact fun same => absurd (congrArg List.length same) (by decide)
  · exact fun same => absurd (congrArg List.length same) (by decide)

end GuardedRecords
