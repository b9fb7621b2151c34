import GuardedRecords.Proofs.RecordMarkers
import GuardedRecords.Proofs.Redaction

namespace GuardedRecords

/-- The caller with the admin flag set or not. -/
def Caller.flagged (caller : Caller) (isAdmin : Bool) : Caller := { caller with isAdmin := isAdmin }

/-- A failure that is about who asks: somebody must be known, or must be privileged. -/
def Failure.DeniesAccess : Failure → Prop
  | .refused error => error.status = 401 ∨ error.status = 403
  | _ => False

/-- A run that turns nobody away, whatever else it may fail for. -/
def Admits {α : Type} (run : Except Failure α) : Prop :=
  ∀ failure, run = .error failure → ¬failure.DeniesAccess

section Admission

variable {α β : Type}

theorem admits_ok (a : α) : Admits (.ok a : Except Failure α) := by
  intro failure same
  cases same

/-- A run that has failed turns nobody away just when its failure is not about who asks; what else
it may be does not matter. -/
theorem admits_error_iff {failure : Failure} :
    Admits (.error failure : Except Failure α) ↔ ¬failure.DeniesAccess := by
  constructor
  · exact fun admitted => admitted failure rfl
  · intro other reported same
    cases same
    exact other

theorem admits_map_iff {run : Except Failure α} {f : α → β} : Admits (run.map f) ↔ Admits run := by
  cases run with
  | error failure => rw [Except.map, admits_error_iff, admits_error_iff]
  | ok a => exact iff_of_true (admits_ok (f a)) (admits_ok a)

/-- Steps in a row turn nobody away when none of them does, whatever the earlier ones hand on. -/
theorem Admits.bind {run : Except Failure α} {next : α → Except Failure β} (first : Admits run)
    (later : ∀ a, Admits (next a)) : Admits (run >>= next) := by
  cases run with
  | error failure =>
    rw [error_bind, admits_error_iff]
    exact first failure rfl
  | ok a => exact later a

/-- A reason put in the place of a fault is what decides, so only the faults that can arise need a
look. -/
theorem admits_mapError {ε : Type} {run : Except ε α} {reason : ε → Failure}
    (others : ∀ fault, run = .error fault → ¬(reason fault).DeniesAccess) :
    Admits (run.mapError reason) := by
  cases run with
  | error fault => exact admits_error_iff.mpr (others fault rfl)
  | ok a => exact admits_ok a

end Admission

/-- A fault other than that of an unknown or an unprivileged caller has another status. -/
theorem not_deniesAccess_of_status {error : ServiceError} {status : Nat}
    (reported : error.status = status) (other : status ≠ 401 ∧ status ≠ 403) :
    ¬(Failure.refused error).DeniesAccess := by
  rintro (unknown | unprivileged)
  · exact other.1 (reported.symm.trans unknown)
  · exact other.2 (reported.symm.trans unprivileged)

theorem Store.status_of_collection {store : Store} {name : String} {error : ServiceError}
    (missing : store.collection name = .error error) : error.status = 404 := by
  unfold Store.collection at missing
  split at missing <;> cases missing
  rfl

/-- A record that is missing, or whose collection is, is reported as not found, which says nothing
about the caller. -/
theorem Store.status_of_existing {store : Store} {name id : String} {error : ServiceError}
    (missing : store.existing name id = .error error) : error.status = 404 := by
  unfold Store.existing at missing
  cases collection : store.collection name with
  | error fault =>
    rw [collection] at missing
    cases missing
    exact Store.status_of_collection collection
  | ok records =>
    rw [collection, ok_bind] at missing
    split at missing <;> cases missing
    rfl

theorem Store.admits_get (store : Store) (name id : String) :
    Admits ((store.get name id).mapError .refused) := by
  refine admits_mapError fun fault missing => ?_
  cases existing : store.existing name id with
  | error error =>
    rw [Store.get, existing] at missing
    cases missing
    exact not_deniesAccess_of_status (Store.status_of_existing existing) (by decide)
  | ok record =>
    rw [Store.get, existing] at missing
    cases missing

/-- The store knows no callers: it can run out of ids, but it never refuses a record for who sends
it. -/
theorem Store.admits_add (store : Store) (name : String) (payload : Record) (owner : Value) :
    Admits (store.add name payload owner).1 := by
  rcases store.add_cases name payload owner with ⟨id, ids, _, _, run⟩ | ⟨ids, _, run⟩
  · rw [run]
    exact admits_ok _
  · rw [run, admits_error_iff]
    exact not_false

theorem Store.admits_modify (store : Store) (name id : String) (change : Record → Record) :
    Admits (store.modify name id change).1 := by
  unfold Store.modify
  split
  · exact admits_ok _
  · next error missing =>
    rw [admits_error_iff]
    exact not_deniesAccess_of_status (Store.status_of_collection missing) (by decide)
  · next error missing _ =>
    rw [admits_error_iff]
    exact not_deniesAccess_of_status (Store.status_of_existing missing) (by decide)

theorem Store.admits_delete (store : Store) (name id : String) :
    Admits (store.delete name id).1 := by
  unfold Store.delete
  split
  · exact admits_ok _
  · next error missing =>
    rw [admits_error_iff]
    exact not_deniesAccess_of_status (Store.status_of_collection missing) (by decide)
  · next error missing _ =>
    rw [admits_error_iff]
    exact not_deniesAccess_of_status (Store.status_of_existing missing) (by decide)

/-- Records that cannot be sorted are the fault of the request, whichever of the keys is the first
that fails. -/
theorem status_of_sortRecords {keys : List SortKey} {records : List Record} {error : ServiceError}
    (unsorted : sortRecords keys records = .error error) : error.status = 400 := by
  induction keys generalizing error with
  | nil => cases unsorted
  | cons key keys ih =>
    rw [sortRecords, List.foldr_cons, ← sortRecords] at unsorted
    cases later : sortRecords keys records with
    | error fault =>
      rw [later] at unsorted
      cases unsorted
      exact ih later
    | ok sorted =>
      rw [later, Except.bind, SortKey.sort] at unsorted
      split at unsorted
      · cases unsorted
      · split at unsorted <;> cases unsorted
        rfl

theorem QuerySpec.admits_keepDistinct (spec : QuerySpec) (page : List Record) :
    Admits (spec.keepDistinct page) := by
  intro fault failed
  rw [QuerySpec.unwritable_of_keepDistinct failed]
  exact not_false

theorem QuerySpec.admits_pick (spec : QuerySpec) (records : List Record) :
    Admits (spec.pick records) := by
  have filtering (condition : Filter) :
      Admits ((filterRecords condition records).mapError Failure.unknownOperator) :=
    admits_mapError fun fault _ => not_false
  have sorting (met : List Record) :
      Admits ((sortRecords spec.sortKeys met).mapError Failure.refused) :=
    admits_mapError fun fault unsorted =>
      not_deniesAccess_of_status (status_of_sortRecords unsorted) (by decide)
  unfold QuerySpec.pick
  dsimp only
  split
  · next condition _ =>
    exact (filtering condition).bind fun met => (sorting met).bind fun sorted =>
      spec.admits_keepDistinct _
  · exact (sorting records).bind fun sorted => spec.admits_keepDistinct _

theorem QuerySpec.admits_shape (spec : QuerySpec) (related : Option RelatedSource)
    (records : List Record) : Admits (spec.shape related records) :=
  (spec.admits_pick records).bind fun _ => admits_ok _

/-- What the admin flag makes of a check: with it nobody is turned away, and it makes no difference
unless somebody is turned away without it. -/
structure LiftsDenial {α : Type} (plain admin : Except Failure α) : Prop where
  same : Admits plain → admin = plain
  admitted : Admits admin

/-- A check that is the same with and without the flag, and turns nobody away, is lifted
trivially. -/
theorem LiftsDenial.of_admits {α : Type} {run : Except Failure α} (admitted : Admits run) :
    LiftsDenial run run := ⟨fun _ => rfl, admitted⟩

/-- The relation is carried along a sequence of checks. Where the first one fails without the flag
for another reason, both runs stop there with the same failure. -/
theorem LiftsDenial.bind {α β : Type} {plain admin : Except Failure α}
    {next next' : α → Except Failure β} (lifts : LiftsDenial plain admin)
    (later : ∀ a, LiftsDenial (next a) (next' a)) :
    LiftsDenial (plain >>= next) (admin >>= next') := by
  constructor
  · intro passed
    cases plain with
    | error failure =>
      rw [error_bind] at passed
      rw [lifts.same (admits_error_iff.mpr (passed failure rfl))]
      rfl
    | ok a =>
      rw [lifts.same (admits_ok a)]
      exact (later a).same passed
  · exact lifts.admitted.bind fun a => (later a).admitted

section Flag

variable (guard : Guard) (caller : Caller)

/-- The flag matters to a rule only where an unknown caller is asked to log in. Everywhere else the
check looks at the user, the record and the payload, and the flag is none of these. -/
theorem Rule.check_flagged (source : Option RecordSource) (rule : Rule)
    (record payload : Option Record) :
    (rule.check source (caller.flagged false) record payload = .error .unauthorized ∧
      rule.check source (caller.flagged true) record payload = .ok false) ∨
    ∃ allowed, rule.check source (caller.flagged false) record payload = .ok allowed ∧
      rule.check source (caller.flagged true) record payload = .ok allowed := by
  cases rule with
  | expression text e => exact .inr ⟨_, rfl, rfl⟩
  | roles any =>
    simp only [Rule.check, checkRoles]
    by_cases guest : any.contains Role.guest = true
    · exact .inr ⟨true, if_pos guest, if_pos guest⟩
    · rw [if_neg guest, if_neg guest]
      by_cases unknown : caller.user.isNone = true
      · exact .inl ⟨if_pos unknown, if_pos unknown⟩
      · exact .inr ⟨_, if_neg unknown, if_neg unknown⟩

/-- Property rules are judged without regard to the flag: they take properties away from admins as
from everybody else. -/
theorem Guard.permits_flagged (record payload : Option Record) (rule : Rule) :
    guard.permits (caller.flagged true) record payload rule =
      guard.permits (caller.flagged false) record payload rule := by
  rcases rule.check_flagged caller guard.source record payload with
    ⟨plain, admin⟩ | ⟨allowed, plain, admin⟩
  · rw [Guard.permits, Guard.permits, plain, admin]
  · rw [Guard.permits, Guard.permits, plain, admin]

theorem Guard.applyPropertyRules_flagged (action : Action) (rules : List PropertyRule)
    (subject : Subject) :
    guard.applyPropertyRules (caller.flagged true) action rules subject =
      guard.applyPropertyRules (caller.flagged false) action rules subject := by
  have step : guard.applyPropertyRule (caller.flagged true) action =
      guard.applyPropertyRule (caller.flagged false) action := by
    funext subject rule
    simp only [Guard.applyPropertyRule, guard.permits_flagged caller]
  rw [Guard.applyPropertyRules, Guard.applyPropertyRules, step]

/-- What of a record can be seen does not depend on the flag, since only the property rules decide
it. -/
theorem Guard.visible_flagged (name id : String) (stored : Record) :
    guard.visible (caller.flagged true) name id stored =
      guard.visible (caller.flagged false) name id stored := by
  have step : guard.withhold (caller.flagged true) = guard.withhold (caller.flagged false) := by
    funext record rule
    simp only [Guard.withhold, guard.permits_flagged caller]
  rw [Guard.visible, Guard.visible, step]

theorem admits_idKey (id : Value) : Admits (idKey id) := by
  unfold idKey
  split
  · exact admits_ok _
  · exact admits_error_iff.mpr not_false
  · exact admits_error_iff.mpr not_false
  · exact admits_ok _

/-- Looking up the rules fails only for an id that cannot be a key, which is not about the
caller. -/
theorem RuleSet.admits_resolveFor (rules : RuleSet) (action : Action)
    (collection : Option String) (id : Value) :
    Admits (rules.resolveFor action collection id) := by
  unfold RuleSet.resolveFor
  split
  · exact admits_ok _
  · rw [admits_map_iff]
    exact admits_idKey id

/-- The verdict on an admin is that on the same caller without the flag, unless that one is turned
away. -/
theorem Guard.authorize_flagged (action : Action) (collection : Option String)
    (record payload : Option Record) :
    LiftsDenial (guard.authorize (caller.flagged false) action collection record payload)
      (guard.authorize (caller.flagged true) action collection record payload) := by
  unfold Guard.authorize
  refine (LiftsDenial.of_admits (guard.rules.admits_resolveFor action collection _)).bind
    fun decision => ?_
  have unprivileged : (Failure.refused .forbidden).DeniesAccess := .inr rfl
  have unknown : (Failure.refused .unauthorized).DeniesAccess := .inl rfl
  rcases decision.rule.check_flagged caller guard.source record payload with
    ⟨plain, admin⟩ | ⟨allowed, plain, admin⟩
  · rw [plain, admin]
    exact ⟨fun passed => absurd unknown (passed _ rfl), admits_ok _⟩
  · rw [plain, admin]
    cases allowed with
    | true => exact .of_admits (admits_ok _)
    | false => exact ⟨fun passed => absurd unprivileged (passed _ rfl), admits_ok _⟩

/-- The action rule is where the flag counts. What is taken away behind it is the same in both runs,
so the whole check is lifted as its first half is. -/
theorem Guard.enforce_flagged (action : Action) (collection : Option String) (subject : Subject) :
    LiftsDenial (guard.enforce (caller.flagged false) action collection subject)
      (guard.enforce (caller.flagged true) action collection subject) := by
  unfold Guard.enforce
  refine (guard.authorize_flagged caller action collection _ _).bind fun verdict => ?_
  simp only [guard.applyPropertyRules_flagged caller]
  exact .of_admits (admits_ok _)

end Flag

theorem admits_payloadOf (payload : Value) : Admits (payloadOf payload) := by
  unfold payloadOf
  split
  · exact admits_ok _
  · exact admits_error_iff.mpr (not_deniesAccess_of_status rfl (by decide))

theorem admits_addressed (id : Option String) : Admits (addressed id) := by
  unfold addressed
  split
  · exact admits_ok _
  · exact admits_error_iff.mpr (not_deniesAccess_of_status rfl (by decide))

section Operations

variable (db : Database) (caller : Caller)

theorem Database.checkCreate_flagged (name : String) (id : Option String) (payload : Value) :
    LiftsDenial (db.checkCreate (caller.flagged false) name id payload)
      (db.checkCreate (caller.flagged true) name id payload) := by
  unfold Database.checkCreate
  split
  · exact .of_admits (admits_error_iff.mpr (not_deniesAccess_of_status rfl (by decide)))
  · refine (LiftsDenial.of_admits (admits_payloadOf payload)).bind fun sent => ?_
    exact (db.guard.enforce_flagged caller .create (some name) _).bind
      fun _ => .of_admits (admits_ok _)

/-- The checks before the rules come first in both runs, so a missing id or a bad payload is
reported alike. -/
theorem Database.checkUpdate_flagged (name : String) (id : Option String) (payload : Value) :
    LiftsDenial (db.checkUpdate (caller.flagged false) name id payload)
      (db.checkUpdate (caller.flagged true) name id payload) := by
  unfold Database.checkUpdate
  refine (LiftsDenial.of_admits (admits_addressed id)).bind fun key => ?_
  refine (LiftsDenial.of_admits (admits_payloadOf payload)).bind fun sent => ?_
  refine (LiftsDenial.of_admits (db.store.admits_get name key)).bind fun record => ?_
  exact (db.guard.enforce_flagged caller .update (some name) _).bind
    fun _ => .of_admits (admits_ok _)

theorem Database.checkDelete_flagged (name : String) (id : Option String) :
    LiftsDenial (db.checkDelete (caller.flagged false) name id)
      (db.checkDelete (caller.flagged true) name id) := by
  unfold Database.checkDelete
  refine (LiftsDenial.of_admits (admits_addressed id)).bind fun key => ?_
  refine (LiftsDenial.of_admits (db.store.admits_get name key)).bind fun record => ?_
  exact (db.guard.enforce_flagged caller .delete (some name) _).bind
    fun _ => .of_admits (admits_ok _)

theorem Database.readRecord_flagged (name id : String) (spec : QuerySpec) :
    LiftsDenial (db.readRecord (caller.flagged false) name id spec)
      (db.readRecord (caller.flagged true) name id spec) := by
  unfold Database.readRecord
  refine (LiftsDenial.of_admits (db.store.admits_get name id)).bind fun record => ?_
  exact (db.guard.enforce_flagged caller .read (some name) _).bind
    fun _ => .of_admits (admits_ok _)

/-- Beyond the rule for the collection the two runs go on alike: each record is redacted without
regard to the flag, and the query sees the same records. -/
theorem Database.readCollection_flagged (name : String) (spec : QuerySpec) :
    LiftsDenial (db.readCollection (caller.flagged false) name spec)
      (db.readCollection (caller.flagged true) name spec) := by
  cases collection : db.store.collection name with
  | error fault =>
    rw [Database.readCollection_of_error collection, Database.readCollection_of_error collection]
    exact .of_admits (admits_error_iff.mpr
      (not_deniesAccess_of_status (Store.status_of_collection collection) (by decide)))
  | ok records =>
    have found := Store.collection_eq_ok_iff.mp collection
    rw [Database.readCollection_of_lookup? found, Database.readCollection_of_lookup? found]
    simp only [db.guard.visible_flagged caller]
    exact (db.guard.authorize_flagged caller .read (some name) none none).bind
      fun _ => .of_admits (spec.admits_shape _ _)

theorem LiftsDenial.map {α β : Type} {plain admin : Except Failure α} {f : α → β}
    (lifts : LiftsDenial plain admin) : LiftsDenial (plain.map f) (admin.map f) :=
  ⟨fun passed => by rw [lifts.same (admits_map_iff.mp passed)],
    admits_map_iff.mpr lifts.admitted⟩

theorem Database.read_flagged (collection id : Option String) (spec : QuerySpec) :
    LiftsDenial (db.read (caller.flagged false) collection id spec)
      (db.read (caller.flagged true) collection id spec) := by
  unfold Database.read
  split
  · exact .of_admits (admits_ok _)
  · next name =>
    split
    · exact (db.readRecord_flagged caller name _ spec).map
    · exact (db.readCollection_flagged caller name spec).map

/-- A write does what it does without the flag, unless its checks turn the caller away. With the
flag such a write goes on, and without it nothing is changed. -/
theorem Database.write_flagged {α : Type} {plain admin : Except Failure α}
    {change : α → Except Failure Record × Store} (lifts : LiftsDenial plain admin)
    (changes : ∀ passed, Admits (change passed).1) :
    (Admits ((db.write plain change).1.map Reading.record) →
      ((db.write admin change).1.map Reading.record, (db.write admin change).2) =
        ((db.write plain change).1.map Reading.record, (db.write plain change).2)) ∧
    Admits ((db.write admin change).1.map Reading.record) := by
  simp only [admits_map_iff]
  constructor
  · intro passed
    cases plain with
    | error failure => rw [lifts.same (admits_error_iff.mpr (passed failure rfl))]
    | ok left => rw [lifts.same (admits_ok left)]
  · cases admin with
    | error failure => exact admits_error_iff.mpr (lifts.admitted failure rfl)
    | ok left => exact changes left

/-- Every operation is a check of this kind with a change of the store behind it, so the relation
holds of the outcome and, where nobody is turned away, of the database too. -/
theorem Database.perform_flagged (operation : RecordOperation) :
    (Admits (db.perform (caller.flagged false) operation).1 →
      db.perform (caller.flagged true) operation = db.perform (caller.flagged false) operation) ∧
    Admits (db.perform (caller.flagged true) operation).1 := by
  cases operation with
  | read collection id spec =>
    have lifts := db.read_flagged caller collection id spec
    exact ⟨fun passed => congrArg (·, db) (lifts.same passed), lifts.admitted⟩
  | create name id payload =>
    exact db.write_flagged (db.checkCreate_flagged caller name id payload)
      fun data => db.store.admits_add name data caller.userId
  | replace name id payload =>
    exact db.write_flagged (db.checkUpdate_flagged caller name id payload)
      fun left => db.store.admits_modify name left.1 (replaceFields left.2)
  | merge name id payload =>
    exact db.write_flagged (db.checkUpdate_flagged caller name id payload)
      fun left => db.store.admits_modify name left.1 (mergeFields left.2)
  | delete name id =>
    exact db.write_flagged (db.checkDelete_flagged caller name id)
      fun key => db.store.admits_delete name key

end Operations

/-- The admin flag overrides refusals and nothing else. An operation that does not turn its caller
away has the same answer, be it an error, and leaves the same database for an admin, and an admin is
never turned away. The flag does not save any property from the rules that withhold it. -/
theorem Database.admin_overrides_denials_only (db : Database) (caller : Caller)
    (operation : RecordOperation) :
    (Admits (db.perform (caller.flagged false) operation).1 →
      db.perform (caller.flagged true) operation = db.perform (caller.flagged false) operation) ∧
    Admits (db.perform (caller.flagged true) operation).1 ∧
    ∀ (guard : Guard) (action : Action) (rules : List PropertyRule) (subject : Subject),
      guard.applyPropertyRules (caller.flagged true) action rules subject =
        guard.applyPropertyRules (caller.flagged false) action rules subject := by
  obtain ⟨same, admitted⟩ := db.perform_flagged caller operation
  exact ⟨same, admitted, fun guard => guard.applyPropertyRules_flagged caller⟩

/-- A stranger may look at the note but not at its secret, and neither may an admin. Only as an
admin may the stranger delete it. -/
theorem Database.admin_overrides_denials_only_note :
    let rules : RuleSet := { collections := [("notes", {
      wildcard := { properties := [("secret", { read := some (.roles [.owner]) })] } })] }
    let db : Database := ⟨.holding [("notes",
      [("n1", [("title", .text "first"), ("secret", .int 1), ("_ownerId", .text "u1")])])]
      (fun _ => "n2") 0, none, rules⟩
    let stranger : Caller := { user := some [("_id", .text "u2")] }
    let look : RecordOperation := .read (some "notes") (some "n1") {}
    let wipe : RecordOperation := .delete "notes" (some "n1")
    Admits (db.perform (stranger.flagged false) look).1 ∧
      db.perform (stranger.flagged true) look = db.perform (stranger.flagged false) look ∧
      ¬Admits (db.perform (stranger.flagged false) wipe).1 ∧
      Admits (db.perform (stranger.flagged true) wipe).1 := by
  intro rules db stranger look wipe
  have shown : (db.perform (stranger.flagged false) look).1 =
      .ok (.record [("title", .text "first"), ("_ownerId", .text "u1"), ("_id", .text "n1")]) := rfl
  have refused : (db.perform (stranger.flagged false) wipe).1 = .error (.refused .forbidden) := rfl
  have admitted : Admits (db.perform (stranger.flagged false) look).1 := shown ▸ admits_ok _
  refine ⟨admitted, (db.admin_overrides_denials_only stranger look).1 admitted, ?_,
    (db.admin_overrides_denials_only stranger wipe).2.1⟩
  exact fun passed => passed _ refused (.inr rfl)

end GuardedRecords
