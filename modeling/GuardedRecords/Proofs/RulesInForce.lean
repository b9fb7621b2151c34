import Mathlib.Data.List.Basic
import GuardedRecords.Proofs.PolicyFlaws
import GuardedRecords.Proofs.PolicyResolution

namespace GuardedRecords

/-- A step into a value: to a member of an object, or to an item of a list. -/
inductive Value.Step
  | member (name : String)
  | item (index : Nat)

def Value.child? (value : Value) : Value.Step → Option Value
  | .member name => value.member? name
  | .item index =>
    match value with
    | .array items => items[index]?
    | _ => none

/-- What stands at the end of a path of steps. -/
def Value.find? (value : Value) : List Value.Step → Option Value
  | [] => some value
  | step :: path => (value.child? step).bind fun inner => inner.find? path

theorem Value.find?_map_member (value : Value) (place : List String) :
    value.find? (place.map .member) = value.at? place := by
  induction place generalizing value with
  | nil => rw [List.map_nil, Value.find?, Value.at?]
  | cons name place ih =>
    rw [List.map_cons, Value.find?, Value.at?]
    exact congrArg ((value.member? name).bind ·) (funext ih)

/-- A value with the one at the end of a path of names replaced. Without that path it stays as it
is. -/
def Value.setAt : Value → List String → Value → Value
  | _, [], new => new
  | .object members, name :: path, new =>
    .object (members.map fun member =>
      (member.1, if member.1 = name then member.2.setAt path new else member.2))
  | value, _ :: _, _ => value

theorem Value.member?_setAt (value : Value) (name : String) (path : List String) (new : Value)
    (other : String) :
    (value.setAt (name :: path) new).member? other =
      if other = name then (value.member? other).map fun inner => inner.setAt path new
      else value.member? other := by
  cases value with
  | object members =>
    simp only [Value.setAt, Value.member?, Table.lookup?_map members fun key inner =>
      if key = name then inner.setAt path new else inner]
    split
    · rfl
    · exact Option.map_id'
  | _ => simp [Value.setAt, Value.member?]

/-- What has members is no rule, and it has members still when something within it is replaced. So
no rule comes or goes above the place of a change. -/
theorem Value.asRule?_setAt (value : Value) (name : String) (path : List String) (new : Value) :
    (value.setAt (name :: path) new).asRule? = value.asRule? := by
  cases value with
  | object members => rfl
  | _ => rfl

/-- The action rules of a scope are whole members of it that name actions. A change within another
member leaves them alone. -/
theorem Value.rule?_setAt {name : String} {path : List String}
    (apart : path = [] → isActionKey name = false) (value new : Value) (action : Action) :
    (value.setAt (name :: path) new).rule? action = value.rule? action := by
  rw [Value.rule?, Value.member?_setAt, Value.rule?]
  split
  · next same =>
    cases path with
    | nil =>
      have dotted := isActionKey_key action
      rw [same, apart rfl] at dotted
      cases dotted
    | cons next path =>
      cases value.member? action.key with
      | none => rfl
      | some inner => exact inner.asRule?_setAt next path new
  · rfl

/-- The rules for its properties are the action rules of its other members. -/
theorem Value.propertyRules_setAt {name : String} {path : List String} {new : Value}
    {action : Action} (kept : isActionKey name = false →
      ∀ inner : Value, (inner.setAt path new).rule? action = inner.rule? action) (value : Value) :
    (value.setAt (name :: path) new).propertyRules action = value.propertyRules action := by
  cases value with
  | object members =>
    simp only [Value.setAt, Value.propertyRules, List.filterMap_map]
    refine congrArg (members.filterMap ·) (funext fun member => ?_)
    rw [Function.comp_apply]
    dsimp only
    split
    · rfl
    · next plain =>
      split
      · next same =>
        rw [kept (same ▸ Bool.eq_false_iff.mpr plain)]
      · rfl
  | _ => rfl

theorem Value.NamesDistinct.setAt {value new : Value} (distinct : value.NamesDistinct)
    (newDistinct : new.NamesDistinct) (path : List String) :
    (value.setAt path new).NamesDistinct := by
  induction path generalizing value with
  | nil => exact newDistinct
  | cons name path ih =>
    cases value with
    | object members =>
      obtain ⟨names, inside⟩ := Value.namesDistinct_object.mp distinct
      rw [Value.setAt, Value.namesDistinct_object]
      refine ⟨?_, fun member within => ?_⟩
      · rw [Table.names, List.map_map]
        exact names
      · obtain ⟨old, before, rfl⟩ := List.mem_map.mp within
        dsimp only
        split
        · exact ih (inside old before)
        · exact inside old before
    | _ => exact distinct

/-- What is seen of a place stays the same if it does where the first names agree, since elsewhere
nothing is replaced. -/
theorem Value.map_at?_setAt {β : Type} {view : Value → β} {name other : String}
    {path rest : List String} {new : Value}
    (within : other = name → ∀ inner : Value,
      ((inner.setAt path new).at? rest).map view = (inner.at? rest).map view) (value : Value) :
    ((value.setAt (name :: path) new).at? (other :: rest)).map view =
      (value.at? (other :: rest)).map view := by
  rw [Value.at?, Value.member?_setAt, Value.at?]
  split
  · next same =>
    cases value.member? other with
    | none => rfl
    | some inner => exact within same inner
  · rfl

/-- What is passed over: below `*` all but its own action rules, the action rules of the scope for
all records, the scope of the empty id, and what stands beside the rules of a property. -/
inductive PassedOver : List String → Prop
  | default {property : String} (plain : isActionKey property = false) : PassedOver ["*", property]
  | allRecords (collection : String) (action : Action) : PassedOver [collection, "*", action.key]
  | emptyId (collection : String) : PassedOver [collection, ""]
  | besideRules (collection scope property : String) {inner : String}
      (plain : isActionKey inner = false) : PassedOver [collection, scope, property, inner]

/-- The rules of a record stand under its id, which is neither empty nor a name with another
meaning. -/
theorem mem_recordPlaces {place : List String} {name : String} {id : Option String}
    (member : place ∈ recordPlaces name id) :
    ∃ key, key ≠ "" ∧ IsRecordKey key ∧ place = [name, key] := by
  cases id with
  | none => cases member
  | some key =>
    rw [recordPlaces] at member
    split at member
    · next named => exact ⟨key, named.1, named.2, List.mem_singleton.mp member⟩
    · cases member

/-- The rules for an action stand one or two names deep. Nothing deeper is ever asked for them. -/
theorem mem_actionPlaces {place : List String} {collection id : Option String}
    (member : place ∈ actionPlaces collection id) :
    (∃ name, place = [name]) ∨
      ∃ name key, name ≠ "*" ∧ key ≠ "" ∧ key ≠ "*" ∧ place = [name, key] := by
  rw [actionPlaces.eq_def] at member
  rcases List.mem_cons.mp member with rfl | own
  · exact .inl ⟨"*", rfl⟩
  cases collection with
  | none => cases own
  | some name =>
    dsimp only at own
    split at own
    · cases own
    · next plain =>
      refine (List.mem_cons.mp own).imp (fun same => ⟨name, same⟩) fun record => ?_
      obtain ⟨key, filled, named, same⟩ := mem_recordPlaces record
      exact ⟨name, key, plain, filled, named.1, same⟩

/-- The scopes with rules for properties stand two names deep and never within the member `*` of the
document. -/
theorem mem_propertyPlaces {place : List String} {collection id : Option String}
    (member : place ∈ propertyPlaces collection id) :
    ∃ name key, name ≠ "*" ∧ key ≠ "" ∧ place = [name, key] := by
  rw [propertyPlaces.eq_def] at member
  cases collection with
  | none => cases member
  | some name =>
    dsimp only at member
    split at member
    · cases member
    · next plain =>
      rcases List.mem_cons.mp member with rfl | record
      · exact ⟨name, "*", plain, by decide, rfl⟩
      · obtain ⟨key, filled, _, same⟩ := mem_recordPlaces record
        exact ⟨name, key, plain, filled, same⟩

section Replaced

variable {place : List String} (passed : PassedOver place) (config new : Value)

include passed

/-- A scope of a collection shows the same if its view is neither of the action rules of the scope
for all records nor of what stands beside the rules of a property. -/
theorem PassedOver.scope_kept {β : Type} {view : Value → β} {name scope : String}
    (plain : name ≠ "*") (filled : scope ≠ "")
    (shared : scope = "*" → ∀ (key : Action) (value : Value),
      view (value.setAt [key.key] new) = view value)
    (beside : ∀ property inner, isActionKey inner = false → ∀ value : Value,
      view (value.setAt [property, inner] new) = view value) :
    ((config.setAt place new).at? [name, scope]).map view = (config.at? [name, scope]).map view := by
  cases passed with
  | default => exact Value.map_at?_setAt (fun same => absurd same plain) config
  | allRecords collection key =>
    refine Value.map_at?_setAt (fun _ => Value.map_at?_setAt fun same value => ?_) config
    exact congrArg some (shared same key value)
  | emptyId =>
    exact Value.map_at?_setAt (fun _ => Value.map_at?_setAt fun same => absurd same filled) config
  | besideRules collection scope property named =>
    refine Value.map_at?_setAt (fun _ => Value.map_at?_setAt fun _ value => ?_) config
    exact congrArg some (beside property _ named value)

/-- No action rule that is looked for stands where rules are passed over, so that a replacement
there leaves each of them as it is declared. -/
theorem PassedOver.declared?_setAt {looked : List String} {collection id : Option String}
    (within : looked ∈ actionPlaces collection id) (action : Action) :
    (config.setAt place new).declared? action looked = config.declared? action looked := by
  have kept : ((config.setAt place new).at? looked).map (·.rule? action) =
      (config.at? looked).map (·.rule? action) := by
    rcases mem_actionPlaces within with ⟨name, rfl⟩ | ⟨name, record, plain, filled, other, rfl⟩
    · obtain ⟨first, next, rest, rfl, apart⟩ :
          ∃ first next rest, place = first :: next :: rest ∧
            (rest = [] → isActionKey next = false) := by
        cases passed with
        | default named => exact ⟨_, _, _, rfl, fun _ => named⟩
        | emptyId => exact ⟨_, _, _, rfl, fun _ => rfl⟩
        | allRecords => exact ⟨_, _, _, rfl, nofun⟩
        | besideRules => exact ⟨_, _, _, rfl, nofun⟩
      refine Value.map_at?_setAt (fun _ value => ?_) config
      exact congrArg some (Value.rule?_setAt apart value new action)
    · refine passed.scope_kept config new plain filled (fun same => absurd same other) ?_
      intro property inner named value
      exact Value.rule?_setAt (fun single => by cases single) value new action
  have joined := congrArg (Option.bind · fun rule => rule) kept
  rw [Option.bind_map, Option.bind_map] at joined
  exact joined

theorem PassedOver.declaredProperties_setAt {looked : List String} {collection id : Option String}
    (within : looked ∈ propertyPlaces collection id) (action : Action) :
    (config.setAt place new).declaredProperties action looked =
      config.declaredProperties action looked := by
  obtain ⟨name, scope, plain, filled, rfl⟩ := mem_propertyPlaces within
  refine congrArg (Option.getD · []) (passed.scope_kept config new plain filled ?_ ?_)
  · intro _ key value
    refine Value.propertyRules_setAt (fun named => ?_) value
    rw [isActionKey_key] at named
    cases named
  · intro property inner named value
    exact Value.propertyRules_setAt
      (fun _ member => Value.rule?_setAt (fun _ => named) member new action) value

/-- Whatever is replaced where rules are passed over, nothing is decided otherwise, as long as both
documents are accepted. -/
theorem PassedOver.resolve_setAt {config : Value} {rules others : RuleSet} {new : Value}
    (distinct : config.NamesDistinct) (accepted : RuleSet.ofConfig config = .ok rules)
    (distinctAfter : (config.setAt place new).NamesDistinct)
    (acceptedAfter : RuleSet.ofConfig (config.setAt place new) = .ok others)
    (action : Action) (collection id : Option String) :
    others.resolve action collection id = rules.resolve action collection id := by
  rw [RuleSet.resolve_ofConfig distinct accepted,
    RuleSet.resolve_ofConfig distinctAfter acceptedAfter, Value.lastDeclared, Value.lastDeclared,
    List.filterMap_congr fun looked within => passed.declared?_setAt config new within action,
    List.flatMap_congr fun looked within =>
      passed.declaredProperties_setAt config new within action]

end Replaced

theorem Value.declared?_eq_some_iff {config : Value} {action : Action} {place : List String}
    {rule : Rule} :
    config.declared? action place = some rule ↔
      ∃ scope, config.at? place = some scope ∧ scope.rule? action = some rule :=
  Option.bind_eq_some_iff

theorem Value.at?_cons_eq_some_iff {value found : Value} {name : String} {path : List String} :
    value.at? (name :: path) = some found ↔
      ∃ inner, value.member? name = some inner ∧ inner.at? path = some found :=
  Option.bind_eq_some_iff

/-- Where a rule may stand that counts, with the collection, the record and the property that it is
for. -/
inductive RulePlace : List String → Option String → Option String → Option String → Prop
  | default : RulePlace ["*"] none none none
  | collection {name : String} (plain : name ≠ "*") : RulePlace [name] (some name) none none
  | shared {name property : String} (plain : name ≠ "*") (named : isActionKey property = false) :
      RulePlace [name, "*", property] (some name) none (some property)
  | record {name id : String} (plain : name ≠ "*") (filled : id ≠ "") (record : IsRecordKey id) :
      RulePlace [name, id] (some name) (some id) none
  | property {name id property : String} (plain : name ≠ "*") (filled : id ≠ "")
      (record : IsRecordKey id) (named : isActionKey property = false) :
      RulePlace [name, id, property] (some name) (some id) (some property)

/-- Whether a decision goes by a rule: for the action itself, or for a property. -/
def Decision.GoesBy (decision : Decision) (rule : Rule) : Option String → Prop
  | none => decision.rule = rule
  | some property => ⟨property, rule⟩ ∈ decision.propertyRules

theorem Value.lastDeclared_concat {config : Value} {action : Action} {place : List String}
    {rule : Rule} (declared : config.declared? action place = some rule)
    (places : List (List String)) :
    config.lastDeclared action (places ++ [place]) = rule := by
  rw [Value.lastDeclared, List.filterMap_append, List.filterMap_cons, declared]
  exact List.getLastD_concat ..

/-- A rule that a member of a scope declares for an action is among the property rules of that
scope. -/
theorem Value.mem_propertyRules {scope inner : Value} {action : Action} {rule : Rule}
    {property : String} (found : scope.member? property = some inner)
    (named : isActionKey property = false) (declared : inner.rule? action = some rule) :
    ⟨property, rule⟩ ∈ scope.propertyRules action := by
  cases scope with
  | object members =>
    refine List.mem_filterMap.mpr ⟨_, Table.mem_of_lookup? found, ?_⟩
    rw [named, if_neg Bool.false_ne_true, declared, Option.map_some]
  | _ => cases found

/-- What is declared for a property is declared by the scope that the property stands in. -/
theorem Value.mem_declaredProperties {config : Value} {action : Action} {name scope property : String}
    {rule : Rule} (declared : config.declared? action [name, scope, property] = some rule)
    (named : isActionKey property = false) :
    ⟨property, rule⟩ ∈ config.declaredProperties action [name, scope] := by
  obtain ⟨inner, stands, own⟩ := Value.declared?_eq_some_iff.mp declared
  obtain ⟨collection, first, stands⟩ := Value.at?_cons_eq_some_iff.mp stands
  obtain ⟨within, second, stands⟩ := Value.at?_cons_eq_some_iff.mp stands
  obtain ⟨_, third, stands⟩ := Value.at?_cons_eq_some_iff.mp stands
  cases stands
  have place : config.at? [name, scope] = some within := by
    simp only [Value.at?, first, second, Option.bind_some]
  rw [Value.declaredProperties, place]
  exact Value.mem_propertyRules third named own

/-- A rule in a place that counts is gone by, in the decision for just that place. No other rule is
declared behind it there. -/
theorem RulePlace.goesBy {place : List String} {collection id property : Option String}
    (counts : RulePlace place collection id property) {config : Value} {rules : RuleSet}
    (distinct : config.NamesDistinct) (accepted : RuleSet.ofConfig config = .ok rules)
    {action : Action} {rule : Rule} (declared : config.declared? action place = some rule) :
    (rules.resolve action collection id).GoesBy rule property := by
  rw [RuleSet.resolve_ofConfig distinct accepted]
  cases counts with
  | default => exact Value.lastDeclared_concat declared []
  | @collection name plain =>
    have places : actionPlaces (some name) none = [["*"]] ++ [[name]] := by
      rw [actionPlaces, if_neg plain]
      rfl
    rw [places]
    exact Value.lastDeclared_concat declared _
  | @shared name property plain named =>
    refine List.mem_flatMap.mpr ⟨[name, "*"], ?_, Value.mem_declaredProperties declared named⟩
    rw [propertyPlaces, if_neg plain]
    exact List.mem_cons_self
  | @record name id plain filled record =>
    have places : actionPlaces (some name) (some id) = [["*"], [name]] ++ [[name, id]] := by
      rw [actionPlaces, if_neg plain, recordPlaces, if_pos ⟨filled, record⟩]
      rfl
    rw [places]
    exact Value.lastDeclared_concat declared _
  | @property name id property plain filled record named =>
    refine List.mem_flatMap.mpr ⟨[name, id], ?_, Value.mem_declaredProperties declared named⟩
    rw [propertyPlaces, if_neg plain, recordPlaces, if_pos ⟨filled, record⟩]
    exact List.mem_cons_of_mem _ List.mem_cons_self

/-- Within what is no container, no rule is declared. -/
theorem Value.rule?_within_leaf {value scope : Value} {path : List Value.Step}
    (leaf : value.containerFlaw? = none) (stands : value.find? path = some scope)
    (action : Action) : scope.rule? action = none := by
  cases value with
  | array => cases leaf
  | object => cases leaf
  | _ =>
    cases path with
    | nil =>
      cases stands
      rfl
    | cons step path => cases step <;> cases stands

theorem Value.rule?_within_rule {value scope : Value} {place : String} {path : List Value.Step}
    (flawless : value.ruleFlaws place = []) (stands : value.find? path = some scope)
    (action : Action) : scope.rule? action = none := by
  cases value with
  | object => cases flawless
  | array items =>
    match path with
    | [] =>
      cases stands
      rfl
    | .member _ :: _ => cases stands
    | .item index :: path =>
      obtain ⟨item, present, stands⟩ := Option.bind_eq_some_iff.mp stands
      have leaves := List.filterMap_eq_nil_iff.mp (List.append_eq_nil_iff.mp flawless).1
      exact Value.rule?_within_leaf (leaves item (List.mem_of_getElem? present)) stands action
  | _ => exact Value.rule?_within_leaf rfl stands action

section Accepted

variable {config : Value} {path : List Value.Step} {inner : Value} {action : Action} {rule : Rule}

/-- A rule within an object of rules is one of its own, or it stands within a member that names no
action. -/
theorem member_of_actionFlaws {place : String} {members : List (String × Value)}
    (flawless : actionFlaws place members = [])
    (stands : (Value.object members).find? path = some inner)
    (declared : inner.rule? action = some rule) :
    path = [] ∧ inner = .object members ∨
      ∃ name rest, ∃ value : Value, path = .member name :: rest ∧ isActionKey name = false ∧
        (Value.object members).member? name = some value ∧ value.find? rest = some inner := by
  match path with
  | [] =>
    cases stands
    exact .inl ⟨rfl, rfl⟩
  | .item _ :: _ => cases stands
  | .member name :: rest =>
    obtain ⟨value, found, stands⟩ := Option.bind_eq_some_iff.mp stands
    refine .inr ⟨name, rest, value, rfl, ?_, found, stands⟩
    rw [← Bool.not_eq_true]
    intro dotted
    rw [Value.rule?_within_rule (ruleFlaws_of_actionFlaws flawless found dotted) stands] at declared
    cases declared

/-- A rule within a scope is one for a whole record, one for a property and then not for deletion,
or it stands beside the rules of a property. -/
theorem path_of_scopeFlaws {scope : Value} {place : String} (flawless : scope.scopeFlaws place = [])
    (stands : scope.find? path = some inner) (declared : inner.rule? action = some rule) :
    path = [] ∨
      (∃ property, path = [.member property] ∧ isActionKey property = false ∧ action ≠ .delete) ∨
        ∃ property other rest, path = .member property :: .member other :: rest ∧
          isActionKey property = false ∧ isActionKey other = false := by
  obtain ⟨members, rfl, properties, actions⟩ := members_of_scopeFlaws flawless
  rcases member_of_actionFlaws actions stands declared with
    ⟨here, _⟩ | ⟨property, rest, value, rfl, named, found, stands⟩
  · exact .inl here
  obtain ⟨own, rfl, actions, spared⟩ := property_of_propertyFlaws properties found named
  rcases member_of_actionFlaws actions stands declared with
    ⟨rfl, rfl⟩ | ⟨other, rest, _, rfl, beside, _⟩
  · refine .inr (.inl ⟨property, rfl, named, ?_⟩)
    rintro rfl
    rw [spared] at declared
    cases declared
  · exact .inr (.inr ⟨property, other, rest, rfl, named, beside⟩)

/-- A rule within a collection is one of its own, or it stands within a scope. -/
theorem path_of_collectionFlaws {collection : Value} {name : String}
    (flawless : collection.collectionFlaws name = []) (stands : collection.find? path = some inner)
    (declared : inner.rule? action = some rule) :
    path = [] ∨ ∃ key rest, ∃ scope : Value, path = .member key :: rest ∧ isActionKey key = false ∧
      scope.scopeFlaws s!"{name}.{key}" = [] ∧ scope.find? rest = some inner := by
  obtain ⟨members, rfl, actions, scopes⟩ := members_of_collectionFlaws flawless
  rcases member_of_actionFlaws actions stands declared with
    ⟨here, _⟩ | ⟨key, rest, scope, same, named, found, stands⟩
  · exact .inl here
  · exact .inr ⟨key, rest, scope, same, named, scopes key scope found named, stands⟩

/-- A rule within a policy stands within a collection or within the scope `*`. -/
theorem path_of_policyFlaws (flawless : config.policyFlaws = [])
    (stands : config.find? path = some inner) (declared : inner.rule? action = some rule) :
    ∃ name rest, ∃ value : Value, path = .member name :: rest ∧ value.find? rest = some inner ∧
      (name ≠ "*" → value.collectionFlaws name = []) ∧ (name = "*" → value.scopeFlaws "*" = []) := by
  match path with
  | [] =>
    -- Here the rule itself would be a collection, and a collection has members.
    cases stands
    obtain ⟨value, found, isRule⟩ := Option.bind_eq_some_iff.mp declared
    have plain : action.key ≠ "*" := by cases action <;> decide
    obtain ⟨members, rfl, _⟩ :=
      members_of_collectionFlaws ((members_of_policyFlaws flawless found).1 plain)
    cases isRule
  | .item index :: rest =>
    cases config with
    | array items =>
      cases items with
      | nil => cases stands
      | cons => cases flawless
    | _ => cases stands
  | .member name :: rest =>
    obtain ⟨value, found, stands⟩ := Option.bind_eq_some_iff.mp stands
    obtain ⟨collection, overrides⟩ := members_of_policyFlaws flawless found
    refine ⟨name, rest, value, rfl, stands, collection, fun star => ?_⟩
    rcases overrides star with rfl | scope
    · rw [Value.rule?_within_leaf rfl stands] at declared
      cases declared
    · exact scope

/-- Where the rules of properties stand. -/
inductive PropertyPlace : List String → Prop
  | default (property : String) : PropertyPlace ["*", property]
  | scope {name : String} (plain : name ≠ "*") (key property : String) :
      PropertyPlace [name, key, property]

/-- Properties are not deleted on their own, and a rule that would be for that is not accepted. -/
theorem PropertyPlace.ne_delete {place : List String} (of : PropertyPlace place)
    (flawless : config.policyFlaws = []) (stands : config.find? (place.map .member) = some inner)
    (declared : inner.rule? action = some rule) : action ≠ .delete := by
  obtain ⟨name, rest, value, same, stands, collection, overrides⟩ :=
    path_of_policyFlaws flawless stands declared
  cases of with
  | default property =>
    cases same
    rcases path_of_scopeFlaws (overrides rfl) stands declared with
      none | ⟨_, _, _, kept⟩ | ⟨_, _, _, deeper, _⟩
    · cases none
    · exact kept
    · cases deeper
  | scope plain key property =>
    cases same
    rcases path_of_collectionFlaws (collection plain) stands declared with
      none | ⟨_, _, scope, same, _, flawless, stands⟩
    · cases none
    cases same
    rcases path_of_scopeFlaws flawless stands declared with
      none | ⟨_, _, _, kept⟩ | ⟨_, _, _, deeper, _⟩
    · cases none
    · exact kept
    · cases deeper

/-- In an accepted policy every rule stands where it counts or where it is passed over. A rule
anywhere else is a flaw, or is not one that is declared. -/
theorem rulePlace_or_passedOver (flawless : config.policyFlaws = [])
    (stands : config.find? path = some inner) (declared : inner.rule? action = some rule) :
    (∃ place collection id property, path = place.map .member ∧
        RulePlace place collection id property) ∨
      ∃ dead rest, path ++ [.member action.key] = dead.map .member ++ rest ∧ PassedOver dead := by
  obtain ⟨name, rest, value, rfl, within, collection, overrides⟩ :=
    path_of_policyFlaws flawless stands declared
  by_cases star : name = "*"
  · subst star
    rcases path_of_scopeFlaws (overrides rfl) within declared with
      rfl | ⟨property, rfl, named, _⟩ | ⟨property, _, _, rfl, named, _⟩
    · exact .inl ⟨["*"], _, _, _, rfl, .default⟩
    · exact .inr ⟨["*", property], _, rfl, .default named⟩
    · exact .inr ⟨["*", property], _, rfl, .default named⟩
  rcases path_of_collectionFlaws (collection star) within declared with
    rfl | ⟨key, rest, scope, rfl, bare, scopeFlawless, within⟩
  · exact .inl ⟨[name], _, _, _, rfl, .collection star⟩
  by_cases empty : key = ""
  · subst empty
    exact .inr ⟨[name, ""], _, rfl, .emptyId name⟩
  rcases path_of_scopeFlaws scopeFlawless within declared with
    rfl | ⟨property, rfl, named, _⟩ | ⟨property, other, _, rfl, _, beside⟩
  · by_cases all : key = "*"
    · subst all
      exact .inr ⟨[name, "*", action.key], [], rfl, .allRecords name action⟩
    · exact .inl ⟨[name, key], _, _, _, rfl, .record star empty ⟨all, bare⟩⟩
  · by_cases all : key = "*"
    · subst all
      exact .inl ⟨[name, "*", property], _, _, _, rfl, .shared star named⟩
    · exact .inl ⟨[name, key, property], _, _, _, rfl, .property star empty ⟨all, bare⟩ named⟩
  · exact .inr ⟨[name, key, property, other], _, rfl, .besideRules name key property beside⟩

/-- In an accepted policy no rule is there for nothing but where rules are passed over. A rule in
any other place is the one gone by for some collection and record, and no rule is for the deletion
of a property. What is passed over may be replaced by anything that is accepted in its place, and
every decision stays the same. -/
theorem RuleSet.rule_in_force {rules : RuleSet} (distinct : config.NamesDistinct)
    (accepted : RuleSet.ofConfig config = .ok rules) (stands : config.find? path = some inner)
    (declared : inner.rule? action = some rule) :
    (∀ place, path = place.map .member → PropertyPlace place → action ≠ .delete) ∧
      ((∃ place collection id property, path = place.map .member ∧
          RulePlace place collection id property ∧
          (rules.resolve action collection id).GoesBy rule property) ∨
        ∃ dead rest, path ++ [.member action.key] = dead.map .member ++ rest ∧ PassedOver dead ∧
          ∀ new others, new.NamesDistinct → RuleSet.ofConfig (config.setAt dead new) = .ok others →
            others.resolve = rules.resolve) := by
  have flawless := RuleSet.policyFlaws_of_ofConfig accepted
  refine ⟨?_, ?_⟩
  · rintro place rfl of
    exact of.ne_delete flawless stands declared
  rcases rulePlace_or_passedOver flawless stands declared with
    ⟨place, collection, id, property, rfl, counts⟩ | ⟨dead, rest, within, passed⟩
  · rw [Value.find?_map_member] at stands
    have found := Value.declared?_eq_some_iff.mpr ⟨inner, stands, declared⟩
    exact .inl ⟨place, collection, id, property, rfl, counts,
      counts.goesBy distinct accepted found⟩
  · refine .inr ⟨dead, rest, within, passed, fun new others newDistinct acceptedAfter => ?_⟩
    funext action collection id
    exact passed.resolve_setAt distinct accepted (distinct.setAt newDistinct _) acceptedAfter action
      collection id

end Accepted

def allowAll : Rule := .expression "true" (.literal (.bool true))

def denyAll : Rule := .expression "false" (.literal (.bool false))

/-- Reading is denied in four places that are passed over, and allowed for the title of a note. -/
def sparedConfig : Value :=
  .object [
    ("*", .object [("secret", readable false)]),
    ("notes", .object [
      ("*", .object [(".read", .bool false)]),
      ("", .object [(".read", .bool false)]),
      ("n1", .object [
        ("title", .object [(".read", .bool true), ("drafts", .array [readable false])])])])]

theorem RuleSet.rule_in_force_title :
    sparedConfig.NamesDistinct ∧ ∃ rules, RuleSet.ofConfig sparedConfig = .ok rules ∧
      ∃ title, sparedConfig.find? [.member "notes", .member "n1", .member "title"] = some title ∧
        title.rule? .read = some allowAll ∧
        ((∀ place, [.member "notes", .member "n1", .member "title"] = place.map Value.Step.member →
            PropertyPlace place → Action.read ≠ .delete) ∧
          ((∃ place collection id property,
              [.member "notes", .member "n1", .member "title"] = place.map Value.Step.member ∧
              RulePlace place collection id property ∧
              (rules.resolve .read collection id).GoesBy allowAll property) ∨
            ∃ dead rest, [.member "notes", .member "n1", .member "title"] ++
                [.member Action.read.key] = dead.map Value.Step.member ++ rest ∧ PassedOver dead ∧
              ∀ new others, new.NamesDistinct →
                RuleSet.ofConfig (sparedConfig.setAt dead new) = .ok others →
                  others.resolve = rules.resolve)) := by
  have distinct : sparedConfig.NamesDistinct := by
    simp [sparedConfig, readable, Value.NamesDistinct, itemsNamesDistinct, membersNamesDistinct,
      Table.names]
  exact ⟨distinct, _, rfl, _, rfl, rfl, RuleSet.rule_in_force distinct rfl rfl rfl⟩

/-- What that document is read as. Two of its denials are not even kept. -/
def sparedNotes : CollectionRules :=
  { records := [("", { actions := { read := some denyAll } }),
      ("n1", { properties := [("title", { read := some allowAll })] })] }

def sparedRules : RuleSet := { collections := [("notes", sparedNotes)] }

/-- The document with denials in places that are passed over never denies reading, for any
collection and any record. -/
theorem resolve_sparedRules (collection id : Option String) :
    ∃ properties, sparedRules.resolve .read collection id = ⟨allowAll, properties⟩ ∧
      ∀ rule ∈ properties, rule = ⟨"title", allowAll⟩ := by
  have nothing : ∀ rule ∈ ([] : List PropertyRule), rule = ⟨"title", allowAll⟩ := nofun
  cases collection with
  | none => exact ⟨[], rfl, nothing⟩
  | some name =>
    by_cases notes : name = "notes"
    · subst notes
      cases id with
      | none => exact ⟨[], rfl, nothing⟩
      | some key =>
        by_cases empty : key = ""
        · subst empty
          exact ⟨[], rfl, nothing⟩
        by_cases first : key = "n1"
        · subst first
          exact ⟨_, rfl, fun rule member => List.mem_singleton.mp member⟩
        · refine ⟨[], ?_, nothing⟩
          have own : sparedRules.forCollection? (some "notes") = some sparedNotes := rfl
          have noScope : Table.lookup? sparedNotes.records key = none := by
            rw [sparedNotes, Table.lookup?_cons_of_ne empty, Table.lookup?_cons_of_ne first]
            rfl
          simp only [RuleSet.resolve, own, Option.bind_some, noScope, ite_self]
          rfl
    · have unknown : sparedRules.forCollection? (some name) = none := by
        rw [RuleSet.forCollection?, sparedRules, Table.lookup?_cons_of_ne notes]
        rfl
      refine ⟨[], ?_, nothing⟩
      rw [RuleSet.resolve, unknown]
      rfl

/-- None of the denials is ever gone by, and the document is accepted all the same: nothing tells
its author that they are passed over. -/
theorem RuleSet.denials_passed_over :
    RuleSet.ofConfig sparedConfig = .ok sparedRules ∧
      (∀ place ∈ [[.member "*", .member "secret"], [.member "notes", .member "*"],
          [.member "notes", .member ""],
          [.member "notes", .member "n1", .member "title", .member "drafts", .item 0]],
        (sparedConfig.find? place).bind (·.rule? .read) = some denyAll) ∧
      ∀ collection id property,
        ¬(sparedRules.resolve .read collection id).GoesBy denyAll property := by
  have apart : allowAll ≠ denyAll := by
    intro same
    exact absurd (Rule.expression.inj same).1 (by decide)
  refine ⟨rfl, ?_, fun collection id property gone => ?_⟩
  · simp only [List.forall_mem_cons, List.not_mem_nil, false_implies, implies_true, and_true]
    exact ⟨rfl, rfl, rfl, rfl⟩
  obtain ⟨properties, resolved, only⟩ := resolve_sparedRules collection id
  rw [resolved] at gone
  cases property with
  | none => exact apart gone
  | some property => exact apart (PropertyRule.mk.inj (only _ gone)).2.symm

end GuardedRecords
