import GuardedRecords.Policy.Decision
import GuardedRecords.Proofs.BlankEnds
import GuardedRecords.Proofs.DistinctNames

namespace GuardedRecords

/-- The member under a name of an object; no other value has members. -/
def Value.member? : Value → String → Option Value
  | .object members, name => Table.lookup? members name
  | _, _ => none

/-- What stands at the end of a path of names. -/
def Value.at? : Value → List String → Option Value
  | value, [] => some value
  | value, name :: path => (value.member? name).bind fun inner => inner.at? path

/-- The name under which a rule for an action stands. -/
def Action.key (action : Action) : String := "." ++ action.name

/-- The values that declare nothing: the empty list and blank text. -/
def Value.isEmptyRule : Value → Bool
  | .array [] => true
  | .text s => s.toList.all isBlank
  | _ => false

/-- The rule that a value is, unless it declares nothing. -/
def Value.asRule? (value : Value) : Option Rule :=
  if value.isEmptyRule then none else (Rule.ofValue value "").toOption.join

/-- The rule for an action that an object of rules declares itself. -/
def Value.rule? (scope : Value) (action : Action) : Option Rule :=
  (scope.member? action.key).bind Value.asRule?

/-- The rules for an action that a scope declares for properties, in the order of the document. -/
def Value.propertyRules (scope : Value) (action : Action) : List PropertyRule :=
  match scope with
  | .object members => members.filterMap fun member =>
    if isActionKey member.1 then none else (member.2.rule? action).map fun rule => ⟨member.1, rule⟩
  | _ => []

/-- How a value is read as a rule does not depend on the place where it stands. -/
theorem Rule.ofValue_elsewhere {value : Value} {place : String} {rule : Option Rule}
    (read : Rule.ofValue value place = .ok rule) (other : String) :
    Rule.ofValue value other = .ok rule := by
  cases value with
  | array items =>
    cases items with
    | nil => exact read
    | cons item rest =>
      obtain ⟨roles, named, known⟩ := bind_eq_ok_iff.mp read
      refine bind_eq_ok_iff.mpr ⟨roles, named, ?_⟩
      dsimp only at known ⊢
      split at known
      · next none => rw [if_pos none]; exact known
      · cases known
  | text s => exact read
  | bool b => exact read
  | null => cases read
  | int n => cases read
  | double x => cases read
  | object members => cases read

/-- Whatever is accepted as a rule is the rule that the value is; the place is only named in
faults. -/
theorem Value.asRule?_of_ofValue {value : Value} {place : String} {rule : Option Rule}
    (read : Rule.ofValue value place = .ok rule) : value.asRule? = rule := by
  rw [Value.asRule?, Rule.ofValue_elsewhere read]
  split
  · next empty =>
    cases value with
    | array items =>
      cases items with
      | nil => cases read; rfl
      | cons item rest => cases empty
    | text s =>
      have blank : trim s.toList = [] := trim_eq_nil_iff.mpr (List.all_eq_true.mp empty)
      simp only [Rule.ofValue, blank, List.isEmpty_nil, if_true] at read
      cases read
      rfl
    | bool b => cases empty
    | null => cases empty
    | int n => cases empty
    | double x => cases empty
    | object members => cases empty
  · rfl
theorem Action.ofName?_eq_some_iff {name : String} {action : Action} :
    Action.ofName? name = some action ↔ name = action.name := by
  constructor
  · intro found
    have member := Table.mem_of_lookup? found
    simp only [List.mem_cons, Prod.mk.injEq, List.not_mem_nil, or_false] at member
    rcases member with ⟨rfl, rfl⟩ | ⟨rfl, rfl⟩ | ⟨rfl, rfl⟩ | ⟨rfl, rfl⟩ <;> rfl
  · rintro rfl
    cases action <;> rfl

theorem isActionKey_key (action : Action) : isActionKey action.key = true := by
  cases action <;> rfl

/-- A member whose name begins with a point and goes on with an action has the name of that
action. -/
theorem key_of_ofName? {key : String} {action : Action} (dotted : isActionKey key = true)
    (named : Action.ofName? (String.ofList (key.toList.drop 1)) = some action) :
    key = action.key := by
  rw [Action.ofName?_eq_some_iff, ← String.toList_inj, String.toList_ofList] at named
  rw [← String.toList_inj, Action.key, String.toList_append, ← named]
  rw [isActionKey, beq_iff_eq, List.head?_eq_some_iff] at dotted
  obtain ⟨name, spelled⟩ := dotted
  rw [spelled]
  rfl

theorem Action.key_ne {first second : Action} (different : first ≠ second) :
    first.key ≠ second.key := by
  revert different
  cases first <;> cases second <;> decide

theorem ActionRules.get_set_self (rules : ActionRules) (action : Action) (rule : Rule) :
    (rules.set action rule).get action = some rule := by
  cases action <;> rfl

theorem ActionRules.get_set_of_ne {action other : Action} (different : other ≠ action)
    (rules : ActionRules) (rule : Rule) : (rules.set action rule).get other = rules.get other := by
  cases action <;> cases other <;> first | rfl | exact absurd rfl different

theorem Value.rule?_cons_self (action : Action) (value : Value) (rest : List (String × Value)) :
    (Value.object ((action.key, value) :: rest)).rule? action = value.asRule? := by
  rw [Value.rule?, Value.member?, Table.lookup?_cons_self, Option.bind_some]

theorem Value.rule?_cons_of_ne {action : Action} {key : String} (other : action.key ≠ key)
    (value : Value) (rest : List (String × Value)) :
    (Value.object ((key, value) :: rest)).rule? action = (Value.object rest).rule? action := by
  rw [Value.rule?, Value.member?, Table.lookup?_cons_of_ne other, Value.rule?, Value.member?]

/-- Only the first member under the name of an action counts. -/
theorem Value.rule?_of_not_mem {action : Action} {members : List (String × Value)}
    (absent : action.key ∉ Table.names members) : (Value.object members).rule? action = none := by
  rw [Value.rule?, Value.member?, Table.lookup?_eq_none_iff.mpr absent, Option.bind_none]

/-- The rule under an action's name is the one that is read, if there is one; else the one from
before stays. -/
theorem get_of_readActions {place : String} {rules result : ActionRules}
    {members : List (String × Value)} (distinct : (Table.names members).Nodup)
    (read : readActions place rules members = .ok result) (action : Action) :
    result.get action = ((Value.object members).rule? action).or (rules.get action) := by
  induction members generalizing rules with
  | nil =>
    cases read
    rfl
  | cons member rest ih =>
    obtain ⟨key, value⟩ := member
    obtain ⟨absent, distinctRest⟩ := List.nodup_cons.mp distinct
    rw [readActions] at read
    split at read
    · next dotted =>
      split at read
      · cases read
      · next _ other named =>
        obtain rfl := key_of_ofName? dotted named
        obtain ⟨rule, valueRead, read⟩ := bind_eq_ok_iff.mp read
        have declared := Value.asRule?_of_ofValue valueRead
        by_cases same : action = other
        · subst same
          rw [Value.rule?_cons_self, declared]
          cases rule with
          | none => rw [ih distinctRest read, Value.rule?_of_not_mem absent]
          | some rule =>
            rw [ih distinctRest read, Value.rule?_of_not_mem absent, ActionRules.get_set_self]
            rfl
        · rw [Value.rule?_cons_of_ne (Action.key_ne same)]
          cases rule with
          | none => exact ih distinctRest read
          | some rule => rw [ih distinctRest read, ActionRules.get_set_of_ne same]
    · next plain =>
      have other : action.key ≠ key := by
        rintro rfl
        exact plain (isActionKey_key action)
      rw [Value.rule?_cons_of_ne other]
      exact ih distinctRest read

/-- The rules that are read from the members of an object are those that the object declares. With
distinct names it does not matter in which order they are read. -/
theorem get_of_readActions_empty {place : String} {result : ActionRules}
    {members : List (String × Value)} (distinct : (Value.object members).NamesDistinct)
    (read : readActions place {} members = .ok result) (action : Action) :
    result.get action = (Value.object members).rule? action := by
  rw [get_of_readActions (Value.namesDistinct_object.mp distinct).1 read action]
  cases action <;> exact Option.or_none

/-- A scope is read from a value when it holds the rules that the value declares. -/
structure ScopedRules.ReadFrom (scope : ScopedRules) (value : Value) : Prop where
  rule : ∀ action, scope.actions.get action = value.rule? action
  properties : ∀ action, scope.propertyRules action = value.propertyRules action

theorem ActionRules.get_of_isEmpty {rules : ActionRules} (empty : rules.actions.isEmpty = true)
    (action : Action) : rules.get action = none := by
  rw [List.isEmpty_iff, ActionRules.actions, List.filter_eq_nil_iff] at empty
  have all : action ∈ Action.all := by cases action <;> decide
  simpa using empty action all

/-- The rules for properties are collected in the order of the document: what the first property
declares comes before what the others do. -/
theorem Value.propertyRules_cons (key : String) (value : Value) (rest : List (String × Value))
    (action : Action) :
    (Value.object ((key, value) :: rest)).propertyRules action =
      (if isActionKey key then [] else
        ((value.rule? action).map fun rule => PropertyRule.mk key rule).toList) ++
        (Value.object rest).propertyRules action := by
  simp only [Value.propertyRules, List.filterMap_cons]
  by_cases dotted : isActionKey key
  · rw [if_pos dotted, if_pos dotted]
    rfl
  · rw [if_neg dotted, if_neg dotted]
    cases value.rule? action <;> rfl

/-- The property rules of a scope come from its first property and then from the others, as they do
in the document, so that both lists can be compared member by member. -/
theorem ScopedRules.propertyRules_cons (actions : ActionRules) (key : String) (rules : ActionRules)
    (rest : Table ActionRules) (action : Action) :
    (ScopedRules.mk actions ((key, rules) :: rest)).propertyRules action =
      ((rules.get action).map fun rule => PropertyRule.mk key rule).toList ++
        (ScopedRules.mk actions rest).propertyRules action := by
  simp only [ScopedRules.propertyRules, List.filterMap_cons]
  cases rules.get action <;> rfl

/-- The rules that are read for properties are those that the members declare, by induction on the
members and with the same order. -/
theorem propertyRules_of_readProperties {place : String} {members : List (String × Value)}
    {properties : Table ActionRules}
    (distinct : ∀ member ∈ members, member.2.NamesDistinct)
    (read : readProperties place members = .ok properties) (actions : ActionRules)
    (action : Action) :
    (ScopedRules.mk actions properties).propertyRules action =
      (Value.object members).propertyRules action := by
  induction members generalizing properties with
  | nil =>
    cases read
    rfl
  | cons member rest ih =>
    obtain ⟨key, value⟩ := member
    rw [List.forall_mem_cons] at distinct
    rw [readProperties.eq_def] at read
    dsimp only at read
    rw [Value.propertyRules_cons]
    split at read
    · next dotted =>
      rw [if_pos dotted]
      exact ih distinct.2 read
    · next plain =>
      rw [if_neg plain]
      split at read
      · next inner =>
        obtain ⟨rules, rulesRead, read⟩ := bind_eq_ok_iff.mp read
        have declared := get_of_readActions_empty distinct.1 rulesRead action
        split at read
        · cases read
        · obtain ⟨others, othersRead, same⟩ := bind_eq_ok_iff.mp read
          cases same
          rw [← ih distinct.2 othersRead, ← declared]
          split
          · next empty =>
            rw [ActionRules.get_of_isEmpty empty]
            rfl
          · rw [ScopedRules.propertyRules_cons]
      · cases read

/-- A scope that is accepted holds what its value declares, for the scope itself and for its
properties. -/
theorem ScopedRules.readFrom_of_ofValue {value : Value} {place : String} {scope : ScopedRules}
    (distinct : value.NamesDistinct) (read : ScopedRules.ofValue value place = .ok scope) :
    scope.ReadFrom value := by
  cases value with
  | object members =>
    obtain ⟨properties, propertiesRead, read⟩ := bind_eq_ok_iff.mp read
    obtain ⟨actions, actionsRead, same⟩ := bind_eq_ok_iff.mp read
    cases same
    have inner := (Value.namesDistinct_object.mp distinct).2
    exact ⟨get_of_readActions_empty distinct actionsRead,
      propertyRules_of_readProperties inner propertiesRead actions⟩
  | _ => cases read

theorem optionRel_cases {α β : Type} {related : α → β → Prop} {a : Option α} {b : Option β}
    (both : Option.Rel related a b) :
    (a = none ∧ b = none) ∨ ∃ x y, a = some x ∧ b = some y ∧ related x y := by
  cases both with
  | none => exact .inl ⟨rfl, rfl⟩
  | some holds => exact .inr ⟨_, _, rfl, rfl, holds⟩

/-- Whether a member of the rules of a collection is about the record with that id. -/
def IsRecordKey (key : String) : Prop := key ≠ "*" ∧ isActionKey key = false

section Scopes

variable {collection : String} {rules result : CollectionRules} {members : List (String × Value)}

theorem readScopes_wildcard_of_not_mem (read : readScopes collection rules members = .ok result)
    (absent : "*" ∉ Table.names members) : result.wildcard = rules.wildcard := by
  induction members generalizing rules with
  | nil =>
    cases read
    rfl
  | cons member rest ih =>
    obtain ⟨key, value⟩ := member
    simp only [Table.names, List.map_cons, List.mem_cons, not_or] at absent
    rw [readScopes] at read
    split at read
    · exact ih read absent.2
    · obtain ⟨scope, scopeRead, read⟩ := bind_eq_ok_iff.mp read
      rw [if_neg (Ne.symm absent.1)] at read
      have kept := ih read absent.2
      exact kept

/-- The rules for all records are those of the scope under `*`. -/
theorem readScopes_wildcard (distinct : (Value.object members).NamesDistinct)
    (read : readScopes collection rules members = .ok result) {value : Value}
    (found : Table.lookup? members "*" = some value) (action : Action) :
    result.wildcard.propertyRules action = value.propertyRules action := by
  induction members generalizing rules with
  | nil => cases found
  | cons member rest ih =>
    obtain ⟨key, inner⟩ := member
    obtain ⟨names, inside⟩ := Value.namesDistinct_object.mp distinct
    obtain ⟨absent, names⟩ := List.nodup_cons.mp names
    rw [List.forall_mem_cons] at inside
    have rest_distinct := Value.namesDistinct_object.mpr ⟨names, inside.2⟩
    rw [readScopes] at read
    by_cases star : "*" = key
    · subst star
      rw [Table.lookup?_cons_self] at found
      cases found
      rw [if_neg (by decide)] at read
      obtain ⟨scope, scopeRead, read⟩ := bind_eq_ok_iff.mp read
      rw [if_pos rfl] at read
      rw [readScopes_wildcard_of_not_mem read absent]
      exact (ScopedRules.readFrom_of_ofValue inside.1 scopeRead).properties action
    · rw [Table.lookup?_cons_of_ne star] at found
      split at read
      · exact ih rest_distinct read found
      · obtain ⟨scope, scopeRead, read⟩ := bind_eq_ok_iff.mp read
        rw [if_neg (Ne.symm star)] at read
        exact ih rest_distinct read found

theorem readScopes_record_of_other (read : readScopes collection rules members = .ok result)
    {key : String} (other : IsRecordKey key → key ∉ Table.names members) :
    result.records.lookup? key = rules.records.lookup? key := by
  induction members generalizing rules with
  | nil =>
    cases read
    rfl
  | cons member rest ih =>
    obtain ⟨name, value⟩ := member
    have further : IsRecordKey key → key ∉ Table.names rest :=
      fun record member => other record (List.mem_cons_of_mem _ member)
    rw [readScopes] at read
    split at read
    · exact ih read further
    · next plain =>
      obtain ⟨scope, scopeRead, read⟩ := bind_eq_ok_iff.mp read
      split at read
      · have kept := ih read further
        exact kept
      · next record =>
        have different : key ≠ name := by
          rintro rfl
          exact other ⟨record, Bool.eq_false_iff.mpr plain⟩ List.mem_cons_self
        rw [ih read further, Table.lookup?_put_of_ne different]

/-- The rules for a record are those of the scope under its id. Other members of the collection are
read before or after it and leave it alone. -/
theorem readScopes_record (distinct : (Value.object members).NamesDistinct)
    (read : readScopes collection rules members = .ok result) {key : String}
    (record : IsRecordKey key) {value : Value} (found : Table.lookup? members key = some value) :
    ∃ scope, result.records.lookup? key = some scope ∧ scope.ReadFrom value := by
  induction members generalizing rules with
  | nil => cases found
  | cons member rest ih =>
    obtain ⟨name, inner⟩ := member
    obtain ⟨names, inside⟩ := Value.namesDistinct_object.mp distinct
    obtain ⟨absent, names⟩ := List.nodup_cons.mp names
    rw [List.forall_mem_cons] at inside
    have rest_distinct := Value.namesDistinct_object.mpr ⟨names, inside.2⟩
    rw [readScopes] at read
    by_cases same : key = name
    · subst same
      rw [Table.lookup?_cons_self] at found
      cases found
      rw [if_neg (Bool.eq_false_iff.mp record.2)] at read
      obtain ⟨scope, scopeRead, read⟩ := bind_eq_ok_iff.mp read
      rw [if_neg record.1] at read
      refine ⟨scope, ?_, ScopedRules.readFrom_of_ofValue inside.1 scopeRead⟩
      rw [readScopes_record_of_other read fun _ => absent, Table.lookup?_put_self]
    · rw [Table.lookup?_cons_of_ne same] at found
      split at read
      · exact ih rest_distinct read found
      · obtain ⟨scope, scopeRead, read⟩ := bind_eq_ok_iff.mp read
        split at read
        · exact ih rest_distinct read found
        · exact ih rest_distinct read found

end Scopes

/-- The rules of a collection are read from a value when they are what the value declares, under
`*` for all records and under their ids for single ones. -/
structure CollectionRules.ReadFrom (own : CollectionRules) (value : Value) : Prop where
  rule : ∀ action, own.actions.get action = value.rule? action
  shared : ∀ action, own.wildcard.propertyRules action =
    ((value.member? "*").map fun scope => scope.propertyRules action).getD []
  record : ∀ key, IsRecordKey key →
    Option.Rel ScopedRules.ReadFrom (own.records.lookup? key) (value.member? key)
  others : ∀ key, ¬IsRecordKey key → own.records.lookup? key = none

/-- The rules of a collection that are accepted are what the document declares under the name of
that collection. -/
theorem CollectionRules.readFrom_of_ofValue {name : String} {value : Value}
    {own : CollectionRules} (distinct : value.NamesDistinct)
    (read : CollectionRules.ofValue name value = .ok own) : own.ReadFrom value := by
  cases value with
  | object members =>
    obtain ⟨rules, scopesRead, read⟩ := bind_eq_ok_iff.mp read
    obtain ⟨actions, actionsRead, same⟩ := bind_eq_ok_iff.mp read
    cases same
    refine ⟨get_of_readActions_empty distinct actionsRead, fun action => ?_, fun key record => ?_,
      fun key other => ?_⟩
    · cases found : (Value.object members).member? "*" with
      | none =>
        have absent := Table.lookup?_eq_none_iff.mp found
        rw [readScopes_wildcard_of_not_mem scopesRead absent]
        rfl
      | some scope => exact readScopes_wildcard distinct scopesRead found action
    · cases found : (Value.object members).member? key with
      | none =>
        have absent := Table.lookup?_eq_none_iff.mp found
        rw [readScopes_record_of_other scopesRead fun _ => absent]
        exact .none
      | some value =>
        obtain ⟨scope, present, same⟩ := readScopes_record distinct scopesRead record found
        rw [present]
        exact .some same
    · exact readScopes_record_of_other scopesRead fun record => absurd record other
  | _ => cases read

/-- The rules of every collection but `*` are read from the member of its name, and a collection
without a member has none. -/
theorem readCollections_lookup? {members : List (String × Value)} {result : Table CollectionRules}
    (distinct : ∀ member ∈ members, member.2.NamesDistinct)
    (read : readCollections members = .ok result) {name : String} (plain : name ≠ "*") :
    Option.Rel CollectionRules.ReadFrom (result.lookup? name) (Table.lookup? members name) := by
  induction members generalizing result with
  | nil =>
    cases read
    exact .none
  | cons member rest ih =>
    obtain ⟨key, value⟩ := member
    rw [List.forall_mem_cons] at distinct
    rw [readCollections] at read
    split at read
    · next star =>
      rw [Table.lookup?_cons_of_ne (star ▸ plain)]
      exact ih distinct.2 read
    · obtain ⟨own, ownRead, read⟩ := bind_eq_ok_iff.mp read
      obtain ⟨others, othersRead, same⟩ := bind_eq_ok_iff.mp read
      cases same
      by_cases same : name = key
      · subst same
        rw [Table.lookup?_cons_self, Table.lookup?_cons_self]
        exact .some (CollectionRules.readFrom_of_ofValue distinct.1 ownRead)
      · rw [Table.lookup?_cons_of_ne same, Table.lookup?_cons_of_ne same]
        exact ih distinct.2 othersRead

theorem readCollections_lookup?_wildcard {members : List (String × Value)}
    {result : Table CollectionRules} (read : readCollections members = .ok result) :
    result.lookup? "*" = none := by
  induction members generalizing result with
  | nil =>
    cases read
    rfl
  | cons member rest ih =>
    obtain ⟨key, value⟩ := member
    rw [readCollections] at read
    split at read
    · exact ih read
    · next plain =>
      obtain ⟨own, _, read⟩ := bind_eq_ok_iff.mp read
      obtain ⟨others, othersRead, same⟩ := bind_eq_ok_iff.mp read
      cases same
      rw [Table.lookup?_cons_of_ne (Ne.symm plain)]
      exact ih othersRead

/-- A policy is read from a document when its overrides are what the document declares under `*`,
and its collections what the document declares under their names. -/
structure RuleSet.ReadFrom (rules : RuleSet) (config : Value) : Prop where
  override : ∀ action,
    rules.overrides.get action = (config.member? "*").bind fun scope => scope.rule? action
  collection : ∀ name, name ≠ "*" →
    Option.Rel CollectionRules.ReadFrom (rules.collections.lookup? name) (config.member? name)
  wildcard : rules.collections.lookup? "*" = none

/-- No members are no overrides, and neither is `null` in the place of the members. -/
theorem RuleSet.parts_of_ofConfig {members : List (String × Value)} {rules : RuleSet}
    (distinct : (Value.object members).NamesDistinct)
    (accepted : RuleSet.ofConfig (.object members) = .ok rules) :
    (∀ action, rules.overrides.get action =
      ((Value.object members).member? "*").bind fun scope => scope.rule? action) ∧
      readCollections members = .ok rules.collections := by
  have lookup : (Value.object members).member? "*" = Table.lookup? members "*" := rfl
  unfold RuleSet.ofConfig at accepted
  split at accepted
  · next empty =>
    cases members with
    | nil =>
      cases accepted
      exact ⟨fun action => by cases action <;> rfl, rfl⟩
    | cons member rest => cases empty
  · dsimp only at accepted
    rw [Record.field] at accepted
    split at accepted
    · next null =>
      -- Without a member `*`, and with null there, no overrides are read.
      obtain ⟨overrides, same, accepted⟩ := bind_eq_ok_iff.mp accepted
      cases same
      obtain ⟨collections, collectionsRead, same⟩ := bind_eq_ok_iff.mp accepted
      cases same
      refine ⟨fun action => ?_, collectionsRead⟩
      rw [lookup]
      cases found : Table.lookup? members "*" with
      | none => cases action <;> rfl
      | some value =>
        rw [found, Option.getD_some] at null
        subst null
        cases action <;> rfl
    · next given =>
      obtain ⟨overrides, overridesRead, accepted⟩ := bind_eq_ok_iff.mp accepted
      obtain ⟨collections, collectionsRead, same⟩ := bind_eq_ok_iff.mp accepted
      cases same
      obtain ⟨scope, scopeRead, rfl⟩ := map_eq_ok_iff.mp overridesRead
      refine ⟨fun action => ?_, collectionsRead⟩
      rw [lookup]
      cases found : Table.lookup? members "*" with
      | none =>
        rw [found] at given
        exact absurd rfl given
      | some value =>
        rw [found, Option.getD_some] at scopeRead
        have inside := (Value.namesDistinct_object.mp distinct).2 _ (Table.mem_of_lookup? found)
        exact (ScopedRules.readFrom_of_ofValue inside scopeRead).rule action

/-- A policy that is accepted is read from its document. Everything said about decisions in terms of
documents rests on this. -/
theorem RuleSet.readFrom_of_ofConfig {config : Value} {rules : RuleSet}
    (distinct : config.NamesDistinct) (accepted : RuleSet.ofConfig config = .ok rules) :
    rules.ReadFrom config := by
  cases config with
  | object members =>
    obtain ⟨overrides, collectionsRead⟩ := RuleSet.parts_of_ofConfig distinct accepted
    have inside := (Value.namesDistinct_object.mp distinct).2
    exact ⟨overrides, fun name plain => readCollections_lookup? inside collectionsRead plain,
      readCollections_lookup?_wildcard collectionsRead⟩
  | _ =>
    -- What is no object is accepted only where it counts as false.
    unfold RuleSet.ofConfig at accepted
    split at accepted
    · cases accepted
      exact ⟨fun action => by cases action <;> rfl, fun name _ => .none, rfl⟩
    · cases accepted

end GuardedRecords
