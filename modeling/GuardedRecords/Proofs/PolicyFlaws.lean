import GuardedRecords.Proofs.PolicyDocuments

namespace GuardedRecords

section Flaws

variable {ε α β : Type}

/-- Whether a computation fails with the first of the flaws, and succeeds if there are none. -/
def FailsWithFirst (run : Except ε α) (flaws : List ε) : Prop :=
  match run with
  | .ok _ => flaws = []
  | .error fault => flaws.head? = some fault

/-- If one step fails with the first of its flaws and so does the next one whenever it is reached,
then both together fail with the first of all. -/
theorem FailsWithFirst.bind {run : Except ε α} {next : α → Except ε β} {flaws more : List ε}
    (first : FailsWithFirst run flaws) (second : ∀ a, run = .ok a → FailsWithFirst (next a) more) :
    FailsWithFirst (run >>= next) (flaws ++ more) := by
  cases run with
  | ok a =>
    obtain rfl : flaws = [] := first
    exact second a rfl
  | error fault =>
    have found : flaws.head? = some fault := first
    exact List.head?_append.trans (by rw [found, Option.some_or])

theorem FailsWithFirst.map {run : Except ε α} {flaws : List ε} (first : FailsWithFirst run flaws)
    (change : α → β) : FailsWithFirst (run.map change) flaws := by
  cases run <;> exact first

/-- A computation whose result is passed on has the flaws of its first step alone. -/
theorem FailsWithFirst.andThen {run : Except ε α} {next : α → Except ε β} {flaws : List ε}
    (first : FailsWithFirst run flaws) (rest : ∀ a, ∃ b, next a = .ok b) :
    FailsWithFirst (run >>= next) flaws := by
  cases run with
  | ok a =>
    obtain ⟨b, done⟩ := rest a
    rw [ok_bind, done]
    exact first
  | error fault => exact first

theorem FailsWithFirst.eq_nil {run : Except ε α} {flaws : List ε} {a : α}
    (first : FailsWithFirst run flaws) (done : run = .ok a) : flaws = [] := by
  subst done
  exact first

end Flaws

/-- The flaw of a container in the place of a role. -/
def Value.containerFlaw? : Value → Option ConfigFault
  | .array _ => some (.containerAsRole true)
  | .object _ => some (.containerAsRole false)
  | _ => none

def Value.isRoleName : Value → Bool
  | .text s => (Role.ofName? s).isSome
  | _ => false

/-- What is wrong with a value as a rule. Containers among roles come before unknown roles. -/
def Value.ruleFlaws (value : Value) (place : String) : List ConfigFault :=
  match value with
  | .bool _ => []
  | .array items =>
    let unknown := items.filter fun item => !item.isRoleName
    items.filterMap Value.containerFlaw? ++
      if unknown.isEmpty then [] else [.unknownRoles unknown place]
  | .text s =>
    if s.toList.all isBlank then []
    else
      match Expr.parse s with
      | .ok _ => []
      | .error fault => [.unreadableRule fault]
  | _ => [.invalidRule value place]

/-- What is wrong with the members that name actions. -/
def actionFlaws (place : String) (members : List (String × Value)) : List ConfigFault :=
  members.flatMap fun member =>
    if isActionKey member.1 then
      match Action.ofName? (String.ofList (member.1.toList.drop 1)) with
      | none => [.unknownAction member.1 place]
      | some _ => member.2.ruleFlaws s!"{place}.{member.1}"
    else []

/-- Whether one of the members is a rule for deletion. -/
def declaresDeletion (members : List (String × Value)) : Bool :=
  members.any fun member => member.1 == Action.delete.key && !member.2.isEmptyRule

/-- What is wrong with the rules of properties. -/
def propertyFlaws (place : String) (members : List (String × Value)) : List ConfigFault :=
  members.flatMap fun member =>
    if isActionKey member.1 then []
    else
      match member.2 with
      | .object inner =>
        actionFlaws s!"{place}.{member.1}" inner ++
          if declaresDeletion inner then
            [.actionNotForProperties .delete s!"{place}.{member.1}"]
          else []
      | _ => [.propertyNotAnObject s!"{place}.{member.1}"]

/-- What is wrong with a scope, its properties first. -/
def Value.scopeFlaws (value : Value) (place : String) : List ConfigFault :=
  match value with
  | .object members => propertyFlaws place members ++ actionFlaws place members
  | _ => [.scopeNotAnObject place]

/-- What is wrong with the rules of a collection, its scopes first. -/
def Value.collectionFlaws (value : Value) (name : String) : List ConfigFault :=
  match value with
  | .object members =>
    (members.flatMap fun member =>
      if isActionKey member.1 then [] else member.2.scopeFlaws s!"{name}.{member.1}") ++
      actionFlaws name members
  | _ => [.collectionNotAnObject name]

/-- All that is wrong with a policy, in the order in which it is read: the overrides of the
built-in rules, then the collections. -/
def Value.policyFlaws (config : Value) : List ConfigFault :=
  match config with
  | .object members =>
    (match Record.field members "*" with
      | .null => []
      | overrides => overrides.scopeFlaws "*") ++
      members.flatMap fun member =>
        if member.1 = "*" then [] else member.2.collectionFlaws member.1
  | value => if value.truthy then [.notAnObject] else []

/-- An item is a container, which is a flaw, or it names a role, or it names none; the last is found
out later, for all items together. -/
theorem roleOf_cases (item : Value) :
    (∃ flaw, item.containerFlaw? = some flaw ∧ roleOf item = .error flaw) ∨
      item.containerFlaw? = none ∧ ∃ role, roleOf item = .ok role ∧ role.isSome = item.isRoleName := by
  cases item with
  | array items => exact .inl ⟨_, rfl, rfl⟩
  | object members => exact .inl ⟨_, rfl, rfl⟩
  | text s => exact .inr ⟨rfl, _, rfl, rfl⟩
  | _ => exact .inr ⟨rfl, _, rfl, rfl⟩

theorem mapM_roleOf (items : List Value) :
    FailsWithFirst (items.mapM roleOf) (items.filterMap Value.containerFlaw?) := by
  induction items with
  | nil => exact rfl
  | cons item rest ih =>
    rw [List.mapM_cons, List.filterMap_cons]
    rcases roleOf_cases item with ⟨flaw, found, failed⟩ | ⟨none, role, named, _⟩
    · rw [found, failed]
      exact rfl
    · rw [none, named, ok_bind]
      exact ih.andThen fun _ => ⟨_, rfl⟩

/-- If no item is a container, then the ones that are left without a role are those that name
none. -/
theorem unknown_of_mapM_roleOf {items : List Value} {roles : List (Option Role)}
    (named : items.mapM roleOf = .ok roles) :
    ((items.zip roles).filter fun entry => entry.2.isNone).map Prod.fst =
      items.filter fun item => !item.isRoleName := by
  induction items generalizing roles with
  | nil =>
    cases named
    rfl
  | cons item rest ih =>
    rw [List.mapM_cons] at named
    obtain ⟨role, first, named⟩ := bind_eq_ok_iff.mp named
    obtain ⟨others, later, same⟩ := bind_eq_ok_iff.mp named
    cases same
    rcases roleOf_cases item with ⟨flaw, _, failed⟩ | ⟨_, _, read, known⟩
    · rw [failed] at first
      cases first
    · rw [read] at first
      cases first
      rw [List.zip_cons_cons, List.filter_cons, List.filter_cons, ← known, ← ih later]
      cases role <;> rfl

/-- A value is read as a rule unless something is wrong with it, and the first flaw is the one
reported. -/
theorem Rule.ofValue_failsWithFirst (value : Value) (place : String) :
    FailsWithFirst (Rule.ofValue value place) (value.ruleFlaws place) := by
  cases value with
  | array items =>
    cases items with
    | nil => exact rfl
    | cons item rest =>
      refine (mapM_roleOf (item :: rest)).bind fun roles named => ?_
      rw [← unknown_of_mapM_roleOf named]
      dsimp only
      split
      · exact rfl
      · exact rfl
  | text s =>
    have blank : (trim s.toList).isEmpty = s.toList.all isBlank := by
      rw [Bool.eq_iff_iff, List.isEmpty_iff, trim_eq_nil_iff, List.all_eq_true]
    rw [Rule.ofValue, blank, Value.ruleFlaws]
    split
    · exact rfl
    · cases Expr.parse s <;> exact rfl
  | _ => exact rfl

theorem readActions_failsWithFirst (place : String) (rules : ActionRules)
    (members : List (String × Value)) :
    FailsWithFirst (readActions place rules members) (actionFlaws place members) := by
  induction members generalizing rules with
  | nil => exact rfl
  | cons member rest ih =>
    obtain ⟨key, value⟩ := member
    rw [readActions, actionFlaws, List.flatMap_cons, ← actionFlaws]
    dsimp only
    split
    · cases Action.ofName? (String.ofList (key.toList.drop 1)) with
      | none => exact rfl
      | some action =>
        refine (Rule.ofValue_failsWithFirst value _).bind fun rule _ => ?_
        cases rule with
        | none => exact ih rules
        | some rule => exact ih (rules.set action rule)
    · exact ih rules

theorem isSome_of_ofValue {value : Value} {place : String} {rule : Option Rule}
    (read : Rule.ofValue value place = .ok rule) : rule.isSome = !value.isEmptyRule := by
  cases value with
  | array items =>
    cases items with
    | nil =>
      cases read
      rfl
    | cons item rest =>
      obtain ⟨roles, _, known⟩ := bind_eq_ok_iff.mp read
      dsimp only at known
      split at known
      · cases known
        rfl
      · cases known
  | text s =>
    have blank : (trim s.toList).isEmpty = s.toList.all isBlank := by
      rw [Bool.eq_iff_iff, List.isEmpty_iff, trim_eq_nil_iff, List.all_eq_true]
    rw [Rule.ofValue, blank] at read
    rw [Value.isEmptyRule]
    split at read
    · next empty =>
      cases read
      rw [empty]
      rfl
    · next filled =>
      split at read
      · cases read
        rw [Bool.eq_false_iff.mpr filled]
        rfl
      · cases read
  | bool b =>
    cases read
    rfl
  | _ => cases read

/-- A rule for deletion is found among the actions exactly if one is declared that is not empty, or
was there before. -/
theorem delete_of_readActions {place : String} {rules result : ActionRules}
    {members : List (String × Value)} (read : readActions place rules members = .ok result) :
    result.delete.isSome = (declaresDeletion members || rules.delete.isSome) := by
  induction members generalizing rules with
  | nil =>
    cases read
    rfl
  | cons member rest ih =>
    obtain ⟨key, value⟩ := member
    rw [readActions] at read
    rw [declaresDeletion, List.any_cons, ← declaresDeletion]
    split at read
    · next dotted =>
      split at read
      · cases read
      · next action named =>
        obtain rfl := key_of_ofName? dotted named
        obtain ⟨rule, valueRead, read⟩ := bind_eq_ok_iff.mp read
        have filled := isSome_of_ofValue valueRead
        by_cases same : action = .delete
        · subst same
          rw [beq_self_eq_true, Bool.true_and, ← filled]
          cases rule with
          | none => exact ih read
          | some rule => simpa [ActionRules.set] using ih read
        · rw [beq_false_of_ne (Action.key_ne same), Bool.false_and, Bool.false_or]
          cases rule with
          | none => exact ih read
          | some rule =>
            have kept : (rules.set action rule).delete = rules.delete :=
              ActionRules.get_set_of_ne (Ne.symm same) rules rule
            rw [ih read, kept]
    · next plain =>
      have other : key ≠ Action.delete.key := by
        rintro rfl
        exact plain (isActionKey_key _)
      rw [ih read, beq_false_of_ne other, Bool.false_and, Bool.false_or]

/-- The rules of properties are read up to the first flaw. That a property declares deletion is
noticed only after its own rules have been read. -/
theorem readProperties_failsWithFirst (place : String) (members : List (String × Value)) :
    FailsWithFirst (readProperties place members) (propertyFlaws place members) := by
  induction members with
  | nil => exact rfl
  | cons member rest ih =>
    obtain ⟨key, value⟩ := member
    rw [readProperties.eq_def, propertyFlaws, List.flatMap_cons, ← propertyFlaws]
    dsimp only
    split
    · exact ih
    · cases value with
      | object inner =>
        dsimp only
        rw [List.append_assoc]
        refine (readActions_failsWithFirst _ {} inner).bind fun rules read => ?_
        have deletes := delete_of_readActions read
        rw [Option.isSome_none, Bool.or_false] at deletes
        rw [← deletes]
        split
        · exact rfl
        · exact ih.andThen fun _ => ⟨_, rfl⟩
      | _ => exact rfl

/-- A scope must be an object. Its properties are read before its own rules, and so are their
flaws. -/
theorem ScopedRules.ofValue_failsWithFirst (value : Value) (place : String) :
    FailsWithFirst (ScopedRules.ofValue value place) (value.scopeFlaws place) := by
  cases value with
  | object members =>
    refine (readProperties_failsWithFirst place members).bind fun properties _ => ?_
    exact (readActions_failsWithFirst place {} members).andThen fun _ => ⟨_, rfl⟩
  | _ => exact rfl

theorem readScopes_failsWithFirst (collection : String) (rules : CollectionRules)
    (members : List (String × Value)) :
    FailsWithFirst (readScopes collection rules members) (members.flatMap fun member =>
      if isActionKey member.1 then [] else member.2.scopeFlaws s!"{collection}.{member.1}") := by
  induction members generalizing rules with
  | nil => exact rfl
  | cons member rest ih =>
    obtain ⟨key, value⟩ := member
    rw [readScopes, List.flatMap_cons]
    dsimp only
    split
    · exact ih rules
    · refine (ScopedRules.ofValue_failsWithFirst value _).bind fun scope _ => ?_
      split
      · exact ih _
      · exact ih _

/-- The rules of a collection must be an object. The scopes within it come before the rules for the
collection, which is the order of their flaws. -/
theorem CollectionRules.ofValue_failsWithFirst (name : String) (value : Value) :
    FailsWithFirst (CollectionRules.ofValue name value) (value.collectionFlaws name) := by
  cases value with
  | object members =>
    refine (readScopes_failsWithFirst name {} members).bind fun rules _ => ?_
    exact (readActions_failsWithFirst name {} members).andThen fun _ => ⟨_, rfl⟩
  | _ => exact rfl

theorem readCollections_failsWithFirst (members : List (String × Value)) :
    FailsWithFirst (readCollections members) (members.flatMap fun member =>
      if member.1 = "*" then [] else member.2.collectionFlaws member.1) := by
  induction members with
  | nil => exact rfl
  | cons member rest ih =>
    obtain ⟨name, value⟩ := member
    rw [readCollections, List.flatMap_cons]
    dsimp only
    split
    · exact ih
    · refine (CollectionRules.ofValue_failsWithFirst name value).bind fun rules _ => ?_
      exact ih.andThen fun _ => ⟨_, rfl⟩

/-- A document is refused for the first of its flaws in reading order, and accepted as a policy when
it has none. -/
theorem RuleSet.ofConfig_failsWithFirst (config : Value) :
    FailsWithFirst (RuleSet.ofConfig config) config.policyFlaws := by
  have collections (members : List (String × Value)) (overrides : ActionRules) :
      FailsWithFirst
        (readCollections members >>= fun collections => Except.ok (RuleSet.mk overrides collections))
        (members.flatMap fun member =>
          if member.1 = "*" then [] else member.2.collectionFlaws member.1) :=
    (readCollections_failsWithFirst members).andThen fun _ => ⟨_, rfl⟩
  unfold RuleSet.ofConfig
  split
  · next empty =>
    rw [Bool.not_eq_true'] at empty
    cases config with
    | object members =>
      cases members with
      | nil => exact rfl
      | cons member rest => cases empty
    | _ =>
      simp only [Value.policyFlaws, empty, Bool.false_eq_true, if_false]
      exact rfl
  · next filled =>
    rw [Bool.not_eq_true', Bool.not_eq_false] at filled
    cases config with
    | object members =>
      dsimp only
      rw [Value.policyFlaws]
      cases Record.field members "*" with
      | null => exact collections members {}
      | _ =>
        refine ((ScopedRules.ofValue_failsWithFirst _ "*").map _).bind fun overrides _ => ?_
        exact collections members overrides
    | _ =>
      simp only [Value.policyFlaws, filled, if_true]
      exact rfl

theorem RuleSet.policyFlaws_of_ofConfig {config : Value} {rules : RuleSet}
    (accepted : RuleSet.ofConfig config = .ok rules) : config.policyFlaws = [] :=
  (RuleSet.ofConfig_failsWithFirst config).eq_nil accepted

theorem ruleFlaws_of_actionFlaws {place key : String} {members : List (String × Value)}
    {value : Value} (flawless : actionFlaws place members = [])
    (found : (Value.object members).member? key = some value) (dotted : isActionKey key = true) :
    value.ruleFlaws s!"{place}.{key}" = [] := by
  have own := List.flatMap_eq_nil_iff.mp flawless _ (Table.mem_of_lookup? found)
  dsimp only at own
  rw [if_pos dotted] at own
  split at own
  · cases own
  · exact own

theorem rule?_delete_of_declaresDeletion {members : List (String × Value)}
    (spared : declaresDeletion members = false) : (Value.object members).rule? .delete = none := by
  cases found : (Value.object members).member? Action.delete.key with
  | none => rw [Value.rule?, found, Option.bind_none]
  | some value =>
    have empty : value.isEmptyRule = true := by
      simpa using List.any_eq_false.mp spared _ (Table.mem_of_lookup? found)
    rw [Value.rule?, found, Option.bind_some, Value.asRule?, if_pos empty]

/-- The rules of a property without flaws have no rule for deletion, and none of them has members;
what else stands there is not looked at. -/
theorem property_of_propertyFlaws {place key : String} {members : List (String × Value)}
    {value : Value} (flawless : propertyFlaws place members = [])
    (found : (Value.object members).member? key = some value) (plain : isActionKey key = false) :
    ∃ inner, value = .object inner ∧ actionFlaws s!"{place}.{key}" inner = [] ∧
      (Value.object inner).rule? .delete = none := by
  have own := List.flatMap_eq_nil_iff.mp flawless _ (Table.mem_of_lookup? found)
  dsimp only at own
  rw [plain, if_neg Bool.false_ne_true] at own
  cases value with
  | object inner =>
    obtain ⟨actions, deletion⟩ := List.append_eq_nil_iff.mp own
    refine ⟨inner, rfl, actions, rule?_delete_of_declaresDeletion ?_⟩
    split at deletion
    · cases deletion
    · next spared => exact Bool.eq_false_iff.mpr spared
  | _ => cases own

theorem members_of_scopeFlaws {value : Value} {place : String}
    (flawless : value.scopeFlaws place = []) :
    ∃ members, value = .object members ∧ propertyFlaws place members = [] ∧
      actionFlaws place members = [] := by
  cases value with
  | object members => exact ⟨members, rfl, List.append_eq_nil_iff.mp flawless⟩
  | _ => cases flawless

/-- The rules of a collection without flaws are an object, and neither its actions nor any of its
scopes has one. -/
theorem members_of_collectionFlaws {value : Value} {name : String}
    (flawless : value.collectionFlaws name = []) :
    ∃ members, value = .object members ∧ actionFlaws name members = [] ∧
      ∀ key scope, (Value.object members).member? key = some scope → isActionKey key = false →
        scope.scopeFlaws s!"{name}.{key}" = [] := by
  cases value with
  | object members =>
    obtain ⟨scopes, actions⟩ := List.append_eq_nil_iff.mp flawless
    refine ⟨members, rfl, actions, fun key scope found plain => ?_⟩
    have own := List.flatMap_eq_nil_iff.mp scopes _ (Table.mem_of_lookup? found)
    dsimp only at own
    rwa [plain, if_neg Bool.false_ne_true] at own
  | _ => cases flawless

/-- Every member of a policy but `*` is a collection, and `*` is a scope unless it is `null`. -/
theorem members_of_policyFlaws {config value : Value} {name : String}
    (flawless : config.policyFlaws = []) (found : config.member? name = some value) :
    (name ≠ "*" → value.collectionFlaws name = []) ∧
      (name = "*" → value = .null ∨ value.scopeFlaws "*" = []) := by
  cases config with
  | object members =>
    obtain ⟨overrides, collections⟩ := List.append_eq_nil_iff.mp flawless
    refine ⟨fun plain => ?_, ?_⟩
    · have own := List.flatMap_eq_nil_iff.mp collections _ (Table.mem_of_lookup? found)
      dsimp only at own
      rwa [if_neg plain] at own
    · rintro rfl
      have field : Record.field members "*" = value := by
        rw [Record.field]
        exact congrArg (Option.getD · .null) found
      rw [field] at overrides
      cases value with
      | null => exact .inl rfl
      | _ => exact .inr overrides
  | _ => cases found

end GuardedRecords
