import GuardedRecords.Rule.Parser

namespace GuardedRecords

/-- What can be done with records. -/
inductive Action
  | create | read | update | delete
  deriving DecidableEq

def Action.name : Action → String
  | .create => "create"
  | .read => "read"
  | .update => "update"
  | .delete => "delete"

def Action.ofName? (name : String) : Option Action :=
  List.lookup name [("create", .create), ("read", .read), ("update", .update), ("delete", .delete)]

def Action.all : List Action := [.create, .read, .update, .delete]

/-- Kinds of callers: anybody, anybody who is known, and the owner of the record at hand. -/
inductive Role
  | guest | owner | user
  deriving DecidableEq

def Role.name : Role → String
  | .guest => "Guest"
  | .owner => "Owner"
  | .user => "User"

def Role.ofName? (name : String) : Option Role :=
  List.lookup name [("Guest", .guest), ("User", .user), ("Owner", .owner)]

def Role.all : List Role := [.guest, .owner, .user]

/-- An access rule: the roles that satisfy it, or an expression with the text it was read from. -/
inductive Rule
  | roles (any : List Role)
  | expression (source : String) (e : Expr)

/-- The rules for the four actions, where there are any. -/
structure ActionRules where
  create : Option Rule := none
  read : Option Rule := none
  update : Option Rule := none
  delete : Option Rule := none

def ActionRules.get (rules : ActionRules) : Action → Option Rule
  | .create => rules.create
  | .read => rules.read
  | .update => rules.update
  | .delete => rules.delete

def ActionRules.set (rules : ActionRules) (action : Action) (rule : Rule) : ActionRules :=
  match action with
  | .create => { rules with create := some rule }
  | .read => { rules with read := some rule }
  | .update => { rules with update := some rule }
  | .delete => { rules with delete := some rule }

/-- The actions that have a rule. -/
def ActionRules.actions (rules : ActionRules) : List Action :=
  Action.all.filter fun action => (rules.get action).isSome

/-- The rules declared at one place: for the actions, and for single properties. -/
structure ScopedRules where
  actions : ActionRules := {}
  properties : Table ActionRules := []

/-- A rule for one property. -/
structure PropertyRule where
  property : String
  rule : Rule

/-- The property rules for an action, in the order of declaration. -/
def ScopedRules.propertyRules (scope : ScopedRules) (action : Action) : List PropertyRule :=
  scope.properties.filterMap fun entry => (entry.2.get action).map fun rule => ⟨entry.1, rule⟩

/-- The rules of one collection: its own, those for the properties of all its records, and those
of single records by id. -/
structure CollectionRules where
  actions : ActionRules := {}
  wildcard : ScopedRules := {}
  records : Table ScopedRules := []

/-- The whole policy: rules that replace the built-in ones, and the rules of collections. -/
structure RuleSet where
  overrides : ActionRules := {}
  collections : Table CollectionRules := []

/-- Known callers create, everybody reads, and owners update and delete. -/
def builtinRule : Action → Rule
  | .create => .roles [.user]
  | .read => .expression "true" (.literal (.bool true))
  | .update => .roles [.owner]
  | .delete => .roles [.owner]

/-- The rule for an action where a collection has none of its own. -/
def RuleSet.defaultRule (rules : RuleSet) (action : Action) : Rule :=
  (rules.overrides.get action).getD (builtinRule action)

end GuardedRecords
