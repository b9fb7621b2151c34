import GuardedRecords.Policy.Config
import GuardedRecords.Rule.Evaluation
import GuardedRecords.ServiceError

namespace GuardedRecords

/-- Who makes a request. A caller without a user record is anonymous. The admin flag overrides
a failed action rule and nothing else. -/
structure Caller where
  user : Option Record := none
  session : Option Record := none
  isAdmin : Bool := false

/-- The id of the caller's user, `null` if there is none. -/
def Caller.userId (caller : Caller) : Value :=
  match caller.user with
  | some user => user.field "_id"
  | none => .null

/-- The rule for an operation and the property rules to apply with it. -/
structure Decision where
  rule : Rule
  propertyRules : List PropertyRule

def RuleSet.forCollection? (rules : RuleSet) : Option String → Option CollectionRules
  | some name => rules.collections.lookup? name
  | none => none

/-- The rules that apply to an action. The rule of the record stands before that of the
collection, and that before the default; property rules for all records come before those for
this one. The empty id has no rules of its own. -/
def RuleSet.resolve (rules : RuleSet) (action : Action) (collection : Option String)
    (id : Option String) : Decision :=
  match rules.forCollection? collection with
  | none => ⟨rules.defaultRule action, []⟩
  | some own =>
    let rule := (own.actions.get action).getD (rules.defaultRule action)
    let shared := own.wildcard.propertyRules action
    match id.bind fun key => if key.isEmpty then none else own.records.lookup? key with
    | none => ⟨rule, shared⟩
    | some scope => ⟨(scope.actions.get action).getD rule, shared ++ scope.propertyRules action⟩

/-- The id under which rules are looked up; a container cannot be looked up unless it is empty. -/
def idKey : Value → Except Failure (Option String)
  | .text s => .ok (some s)
  | .array (_ :: _) => .error (.containerAsKey true)
  | .object (_ :: _) => .error (.containerAsKey false)
  | _ => .ok none

/-- `resolve` for an id as it stands in a record. -/
def RuleSet.resolveFor (rules : RuleSet) (action : Action) (collection : Option String)
    (id : Value) : Except Failure Decision :=
  match rules.forCollection? collection with
  | none => .ok (rules.resolve action collection none)
  | some _ => (idKey id).map (rules.resolve action collection)

/-- Whether the record at hand names the caller as its owner. -/
def Caller.isOwner (caller : Caller) (record : Option Record) : Bool :=
  match record with
  | some r =>
    let owner := r.field "_ownerId"
    !owner.isNull && owner.equals caller.userId
  | none => false

/-- Whether the caller has one of the roles. An anonymous caller who is no admin is asked to
log in instead. -/
def checkRoles (roles : List Role) (caller : Caller) (record : Option Record) :
    Except ServiceError Bool :=
  if roles.contains .guest then .ok true
  else if caller.user.isNone then (if caller.isAdmin then .ok false else .error .unauthorized)
  else .ok (roles.contains .user || (roles.contains .owner && caller.isOwner record))

def recordValue : Option Record → Value
  | some r => .object r
  | none => .null

/-- The names a rule sees: the caller, the record and the incoming data, each of these two under
a second name too. -/
def ruleContext (caller : Caller) (record payload : Option Record) : Record :=
  [("user", recordValue caller.user), ("record", recordValue record), ("data", recordValue record),
    ("payload", recordValue payload), ("newData", recordValue payload)]

/-- Whether an expression holds; one that has no value does not. -/
def checkExpr (source : Option RecordSource) (e : Expr) (caller : Caller)
    (record payload : Option Record) : Bool :=
  match e.evaluate (ruleContext caller record payload) source with
  | .ok value => value.truthy
  | .error _ => false

def Rule.check (source : Option RecordSource) (rule : Rule) (caller : Caller)
    (record payload : Option Record) : Except ServiceError Bool :=
  match rule with
  | .roles any => checkRoles any caller record
  | .expression _ e => .ok (checkExpr source e caller record payload)

/-- A policy with the source of the records that its rules look up. -/
structure Guard where
  rules : RuleSet
  source : Option RecordSource

/-- Checks the action rule for an operation. The answer is the decision and whether its rule is
satisfied; for an admin it may be not. -/
def Guard.authorize (guard : Guard) (caller : Caller) (action : Action) (collection : Option String)
    (record payload : Option Record) : Except Failure (Decision × Bool) := do
  let id :=
    match record with
    | some r => r.field "_id"
    | none => .null
  let decision ← guard.rules.resolveFor action collection id
  let allowed ← (decision.rule.check guard.source caller record payload).mapError .refused
  if allowed || caller.isAdmin then .ok (decision, allowed) else .error (.refused .forbidden)

/-- Whether a property may stay. A property is withheld where a caller is asked to log in. -/
def Guard.permits (guard : Guard) (caller : Caller) (record payload : Option Record)
    (rule : Rule) : Bool :=
  match rule.check guard.source caller record payload with
  | .ok satisfied => satisfied
  | .error _ => false

/-- The record and the incoming data of an operation. -/
structure Subject where
  record : Option Record := none
  payload : Option Record := none

/-- What property rules take properties from: the record of a read, else the incoming data. -/
def Subject.target (subject : Subject) (action : Action) : Option Record :=
  match action with
  | .read => subject.record
  | _ => subject.payload

def Subject.withTarget (subject : Subject) (action : Action) (target : Record) : Subject :=
  match action with
  | .read => { subject with record := some target }
  | _ => { subject with payload := some target }

/-- Takes the property of a rule away if it is there and the rule is not satisfied. -/
def Guard.applyPropertyRule (guard : Guard) (caller : Caller) (action : Action) (subject : Subject)
    (rule : PropertyRule) : Subject :=
  match subject.target action with
  | none => subject
  | some target =>
    if target.has rule.property &&
        !guard.permits caller subject.record subject.payload rule.rule then
      subject.withTarget action (target.remove rule.property)
    else subject

/-- Applies property rules one after the other; each sees what those before it have left. -/
def Guard.applyPropertyRules (guard : Guard) (caller : Caller) (action : Action)
    (rules : List PropertyRule) (subject : Subject) : Subject :=
  rules.foldl (guard.applyPropertyRule caller action) subject

/-- Checks the action rule, then applies the property rules. -/
def Guard.enforce (guard : Guard) (caller : Caller) (action : Action) (collection : Option String)
    (subject : Subject) : Except Failure (Decision × Bool × Subject) := do
  let (decision, allowed) ←
    guard.authorize caller action collection subject.record subject.payload
  .ok (decision, allowed, guard.applyPropertyRules caller action decision.propertyRules subject)

/-- A record as the caller may see it. -/
def Guard.redact (guard : Guard) (caller : Caller) (collection : String) (record : Record) :
    Except Failure Record := do
  let decision ← guard.rules.resolveFor .read (some collection) (record.field "_id")
  let left := guard.applyPropertyRules caller .read decision.propertyRules { record := some record }
  .ok (left.record.getD record)

end GuardedRecords
