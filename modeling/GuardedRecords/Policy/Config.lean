import GuardedRecords.Policy.Rules
import GuardedRecords.ServiceError

namespace GuardedRecords

/-- Why a document is no policy. Places are dotted names from the collection inward. -/
inductive ConfigFault
  | notAnObject
  | collectionNotAnObject (name : String)
  | scopeNotAnObject (place : String)
  | propertyNotAnObject (place : String)
  | unknownAction (key place : String)
  | actionNotForProperties (action : Action) (place : String)
  | unknownRoles (roles : List Value) (place : String)
  | containerAsRole (isArray : Bool)
  | invalidRule (value : Value) (place : String)
  | unreadableRule (fault : RuleFault)

def ConfigFault.message : ConfigFault → String
  | .notAnObject => "Rule configuration must be an object"
  | .collectionNotAnObject name => s!"Rules for collection '{name}' must be an object"
  | .scopeNotAnObject place => s!"Rules at {place} must be an object"
  | .propertyNotAnObject place => s!"Property rules at {place} must be an object"
  | .unknownAction key place => s!"Unknown action '{key}' at {place}"
  | .actionNotForProperties action place =>
    s!"Property rules at {place} cannot use {(Value.array [.text action.name]).display}"
  | .unknownRoles roles place => s!"Unknown role(s) {(Value.array roles).display} in rule at {place}"
  | .containerAsRole isArray => containerMessage isArray
  | .invalidRule value place => s!"Invalid rule value at {place}: {value.display}"
  | .unreadableRule fault => fault.message

/-- The role that a value names. Containers are not even looked up. -/
def roleOf : Value → Except ConfigFault (Option Role)
  | .text s => .ok (Role.ofName? s)
  | .array _ => .error (.containerAsRole true)
  | .object _ => .error (.containerAsRole false)
  | _ => .ok none

/-- Reads one rule; `none` stands for an empty one, which leaves the inherited rule in place. -/
def Rule.ofValue (value : Value) (place : String) : Except ConfigFault (Option Rule) :=
  match value with
  | .bool b => .ok (some (.expression (if b then "true" else "false") (.literal (.bool b))))
  | .array [] => .ok none
  | .array items => do
    let roles ← items.mapM roleOf
    let unknown := ((items.zip roles).filter fun entry => entry.2.isNone).map Prod.fst
    if unknown.isEmpty then .ok (some (.roles (roles.filterMap id)))
    else .error (.unknownRoles unknown place)
  | .text s =>
    if (trim s.toList).isEmpty then .ok none
    else
      match Expr.parse s with
      | .ok e => .ok (some (.expression s e))
      | .error fault => .error (.unreadableRule fault)
  | _ => .error (.invalidRule value place)

/-- Whether a member of a rule object names an action. -/
def isActionKey (key : String) : Bool := key.toList.head? == some '.'

/-- Reads the members that name actions, in the order of the document, on top of `rules`. -/
def readActions (place : String) (rules : ActionRules) :
    List (String × Value) → Except ConfigFault ActionRules
  | [] => .ok rules
  | (key, value) :: rest =>
    if isActionKey key then
      match Action.ofName? (String.ofList (key.toList.drop 1)) with
      | none => .error (.unknownAction key place)
      | some action => do
        match ← Rule.ofValue value s!"{place}.{key}" with
        | some rule => readActions place (rules.set action rule) rest
        | none => readActions place rules rest
    else readActions place rules rest

/-- Reads the rules of the properties. Deletion concerns whole records, so no property has a
rule for it, and a property without rules is left out. -/
def readProperties (place : String) : List (String × Value) → Except ConfigFault (Table ActionRules)
  | [] => .ok []
  | (key, value) :: rest =>
    if isActionKey key then readProperties place rest
    else
      match value with
      | .object members => do
        let inner := s!"{place}.{key}"
        let rules ← readActions inner {} members
        if rules.delete.isSome then .error (.actionNotForProperties .delete inner)
        else
          let others ← readProperties place rest
          .ok (if rules.actions.isEmpty then others else (key, rules) :: others)
      | _ => .error (.propertyNotAnObject s!"{place}.{key}")

/-- Reads the rules declared at one place, those of the properties first. -/
def ScopedRules.ofValue (value : Value) (place : String) : Except ConfigFault ScopedRules :=
  match value with
  | .object members => do
    let properties ← readProperties place members
    let actions ← readActions place {} members
    .ok ⟨actions, properties⟩
  | _ => .error (.scopeNotAnObject place)

/-- Reads the scopes of a collection: under `*` the rules for the properties of all its records,
under any other name those of the record with that id. -/
def readScopes (collection : String) (rules : CollectionRules) :
    List (String × Value) → Except ConfigFault CollectionRules
  | [] => .ok rules
  | (key, value) :: rest =>
    if isActionKey key then readScopes collection rules rest
    else do
      let scope ← ScopedRules.ofValue value s!"{collection}.{key}"
      if key = "*" then
        readScopes collection { rules with wildcard := { properties := scope.properties } } rest
      else readScopes collection { rules with records := rules.records.put key scope } rest

def CollectionRules.ofValue (name : String) (value : Value) : Except ConfigFault CollectionRules :=
  match value with
  | .object members => do
    let rules ← readScopes name {} members
    let actions ← readActions name {} members
    .ok { rules with actions := actions }
  | _ => .error (.collectionNotAnObject name)

/-- Reads the rules of all collections, in the order of the document. -/
def readCollections : List (String × Value) → Except ConfigFault (Table CollectionRules)
  | [] => .ok []
  | (name, value) :: rest =>
    if name = "*" then readCollections rest
    else do
      let rules ← CollectionRules.ofValue name value
      let others ← readCollections rest
      .ok ((name, rules) :: others)

/-- Reads a policy. Under `*` stand the actions whose built-in rules are replaced; `null` there
replaces none. Every value that counts as false is an empty policy. -/
def RuleSet.ofConfig (config : Value) : Except ConfigFault RuleSet :=
  if !config.truthy then .ok {}
  else
    match config with
    | .object members => do
      let overrides ←
        match Record.field members "*" with
        | .null => .ok {}
        | value => (ScopedRules.ofValue value "*").map ScopedRules.actions
      let collections ← readCollections members
      .ok ⟨overrides, collections⟩
    | _ => .error .notAnObject

end GuardedRecords
