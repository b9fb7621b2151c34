import GuardedRecords.Database
import GuardedRecords.Proofs.RecordFields

namespace GuardedRecords

/-- The caller is known and the record names the caller's user as its owner. A record without an
owner belongs to nobody. -/
def Caller.Owns (caller : Caller) (record : Record) : Prop :=
  ∃ user, caller.user = some user ∧ (record.field ownerField).isNull = false ∧
    (record.field ownerField).equals (user.field idField) = true

/-- A caller satisfies a list of roles by one of the roles that it names, and an expression by a
value that counts as true. -/
def Rule.Satisfied (source : Option RecordSource) (caller : Caller)
    (record payload : Option Record) : Rule → Prop
  | .roles any =>
    .guest ∈ any ∨ caller.user.isSome ∧
      (.user ∈ any ∨ .owner ∈ any ∧ ∃ candidate, record = some candidate ∧ caller.Owns candidate)
  | .expression _ e =>
    ∃ value, e.evaluate (ruleContext caller record payload) source = .ok value ∧
      value.truthy = true

/-- The test compares ids as values. For a caller who is known it holds just when the record names
an owner and that owner is the caller's user. -/
theorem Caller.isOwner_eq_true_iff {caller : Caller} {record : Option Record}
    (known : caller.user.isSome) :
    caller.isOwner record = true ↔
      ∃ candidate, record = some candidate ∧ caller.Owns candidate := by
  obtain ⟨user, present⟩ := Option.isSome_iff_exists.mp known
  cases record with
  | none => simp [Caller.isOwner]
  | some candidate =>
    simp only [Caller.isOwner, Caller.Owns, Caller.userId, present, Option.some.injEq,
      Bool.and_eq_true, Bool.not_eq_true', exists_eq_left']
    rfl

theorem Caller.owns_iff {caller : Caller} {record : Record} :
    caller.Owns record ↔ caller.user.isSome = true ∧ caller.isOwner (some record) = true := by
  constructor
  · intro owns
    have known : caller.user.isSome = true := by
      obtain ⟨user, present, _⟩ := owns
      rw [present, Option.isSome_some]
    exact ⟨known, (Caller.isOwner_eq_true_iff known).mpr ⟨record, rfl, owns⟩⟩
  · rintro ⟨known, owner⟩
    obtain ⟨_, same, owns⟩ := (Caller.isOwner_eq_true_iff known).mp owner
    cases same
    exact owns

instance (caller : Caller) (record : Record) : Decidable (caller.Owns record) :=
  decidable_of_iff _ Caller.owns_iff.symm

/-- A list of roles never fails to evaluate: it lets pass whom one of its roles names, and `Guest`
names everybody. -/
theorem checkRoles_eq_true_iff {any : List Role} {caller : Caller} {record : Option Record} :
    checkRoles any caller record = .ok true ↔
      .guest ∈ any ∨ caller.user.isSome ∧
        (.user ∈ any ∨
          .owner ∈ any ∧ ∃ candidate, record = some candidate ∧ caller.Owns candidate) := by
  unfold checkRoles
  by_cases guest : Role.guest ∈ any
  · simp [guest]
  · rw [if_neg (by simpa using guest)]
    cases known : caller.user.isSome with
    | false =>
      have anonymous : caller.user.isNone = true := by
        rw [← Option.not_isSome, known, Bool.not_false]
      rw [if_pos anonymous]
      split <;> simp [guest]
    | true =>
      have named : ¬caller.user.isNone = true := by rw [← Option.not_isSome, known]; decide
      rw [if_neg named, ← Caller.isOwner_eq_true_iff known]
      simp [guest]

/-- To pass a check is to satisfy the rule; a rule that fails to evaluate, or needs an identity that
is not there, is not satisfied. -/
theorem Rule.check_eq_true_iff {source : Option RecordSource} {rule : Rule} {caller : Caller}
    {record payload : Option Record} :
    rule.check source caller record payload = .ok true ↔
      rule.Satisfied source caller record payload := by
  cases rule with
  | roles any => exact checkRoles_eq_true_iff
  | expression text e =>
    simp only [Rule.check, Except.ok.injEq, checkExpr, Rule.Satisfied]
    cases e.evaluate (ruleContext caller record payload) source with
    | error fault => simp
    | ok value => simp

theorem RuleSet.resolveFor_text (rules : RuleSet) (action : Action) (collection : Option String)
    (id : String) :
    rules.resolveFor action collection (.text id) = .ok (rules.resolve action collection (some id)) := by
  unfold RuleSet.resolveFor
  split
  · next absent => simp only [RuleSet.resolve, absent]
  · rfl

theorem RuleSet.resolveFor_null (rules : RuleSet) (action : Action) (collection : Option String) :
    rules.resolveFor action collection .null = .ok (rules.resolve action collection none) := by
  unfold RuleSet.resolveFor
  split <;> rfl

/-- The id under which the rules of a record at hand are looked up. -/
def candidateId : Option Record → Value
  | some record => record.field idField
  | none => .null

/-- Once the rules are found, what is left of an authorization is the check of the action rule and
the flag of the admin. -/
theorem Guard.authorize_of_resolved {guard : Guard} {action : Action} {collection : Option String}
    {record : Option Record} {decision : Decision}
    (resolved : guard.rules.resolveFor action collection (candidateId record) = .ok decision)
    (caller : Caller) (payload : Option Record) :
    guard.authorize caller action collection record payload =
      ((decision.rule.check guard.source caller record payload).mapError .refused >>= fun allowed =>
        if allowed || caller.isAdmin then .ok (decision, allowed)
        else .error (.refused .forbidden)) := by
  cases record with
  | none =>
    rw [candidateId] at resolved
    rw [Guard.authorize, resolved, ok_bind]
  | some record =>
    rw [candidateId, idField] at resolved
    rw [Guard.authorize, resolved, ok_bind]

theorem Guard.decision_of_authorize {guard : Guard} {caller : Caller} {action : Action}
    {collection : Option String} {record payload : Option Record} {resolved decision : Decision}
    {allowed : Bool}
    (rules : guard.rules.resolveFor action collection (candidateId record) = .ok resolved)
    (passed : guard.authorize caller action collection record payload = .ok (decision, allowed)) :
    decision = resolved := by
  rw [Guard.authorize_of_resolved rules, bind_eq_ok_iff] at passed
  obtain ⟨satisfied, _, outcome⟩ := passed
  split at outcome <;> cases outcome
  rfl

/-- Whom the rules resolved for an action let pass: an admin, and a caller who satisfies the
action rule. -/
def Guard.Passes (guard : Guard) (caller : Caller) (action : Action)
    (collection id : Option String) (record payload : Option Record) : Prop :=
  caller.isAdmin = true ∨
    (guard.rules.resolve action collection id).rule.Satisfied guard.source caller record payload

/-- An admin is never asked to log in, so that the check of a rule always comes to a verdict. The
verdict itself may still be against the admin. -/
theorem Rule.check_of_admin {caller : Caller} (admin : caller.isAdmin = true)
    (source : Option RecordSource) (rule : Rule) (record payload : Option Record) :
    ∃ allowed, rule.check source caller record payload = .ok allowed := by
  cases rule with
  | roles any =>
    simp only [Rule.check, checkRoles, admin, if_true]
    split
    · exact ⟨_, rfl⟩
    · split <;> exact ⟨_, rfl⟩
  | expression text e => exact ⟨_, rfl⟩

/-- An authorization succeeds for whom the resolved rules let pass and for nobody else; the decision
it carries is not looked at here. -/
theorem Guard.authorize_isOk_iff {guard : Guard} {caller : Caller} {action : Action}
    {collection id : Option String} {record payload : Option Record}
    (resolved : guard.rules.resolveFor action collection (candidateId record) =
      .ok (guard.rules.resolve action collection id)) :
    (∃ verdict, guard.authorize caller action collection record payload = .ok verdict) ↔
      guard.Passes caller action collection id record payload := by
  rw [Guard.authorize_of_resolved resolved]
  constructor
  · rintro ⟨verdict, passed⟩
    obtain ⟨allowed, check, outcome⟩ := bind_eq_ok_iff.mp passed
    rw [mapError_eq_ok_iff] at check
    cases allowed with
    | true => exact .inr (Rule.check_eq_true_iff.mp check)
    | false =>
      rw [Bool.false_or] at outcome
      split at outcome
      · next admin => exact .inl admin
      · cases outcome
  · rintro (admin | satisfied)
    · obtain ⟨allowed, check⟩ := Rule.check_of_admin admin guard.source
        (guard.rules.resolve action collection id).rule record payload
      exact ⟨_, bind_eq_ok_iff.mpr
        ⟨allowed, mapError_eq_ok_iff.mpr check, by rw [admin, Bool.or_true, if_pos rfl]⟩⟩
    · exact ⟨_, bind_eq_ok_iff.mpr
        ⟨true, mapError_eq_ok_iff.mpr (Rule.check_eq_true_iff.mpr satisfied), rfl⟩⟩

theorem Guard.enforce_eq_ok_iff {guard : Guard} {caller : Caller} {action : Action}
    {collection : Option String} {subject left : Subject} {decision : Decision} {allowed : Bool} :
    guard.enforce caller action collection subject = .ok (decision, allowed, left) ↔
      guard.authorize caller action collection subject.record subject.payload =
          .ok (decision, allowed) ∧
        guard.applyPropertyRules caller action decision.propertyRules subject = left := by
  unfold Guard.enforce
  rw [bind_eq_ok_iff]
  constructor
  · rintro ⟨⟨_, _⟩, passed, outcome⟩
    cases outcome
    exact ⟨passed, rfl⟩
  · rintro ⟨passed, rfl⟩
    exact ⟨_, passed, rfl⟩

/-- Whoever gets past the policy with a stored record is let pass by the rules of that record. The
id that they are found by is the one under which the record is stored. -/
theorem Guard.passes_of_enforce_stored {guard : Guard} {caller : Caller} {action : Action}
    {collection : Option String} {stored : Record} {id : String} {payload : Option Record}
    {verdict : Decision × Bool × Subject}
    (run : guard.enforce caller action collection ⟨some (stored.tagged id), payload⟩ = .ok verdict) :
    guard.Passes caller action collection (some id) (some (stored.tagged id)) payload := by
  have resolved : guard.rules.resolveFor action collection (candidateId (some (stored.tagged id))) =
      .ok (guard.rules.resolve action collection (some id)) := by
    rw [candidateId, Record.field_tagged_self, RuleSet.resolveFor_text]
  exact (Guard.authorize_isOk_iff resolved).mp ⟨_, (Guard.enforce_eq_ok_iff.mp run).1⟩

/-- A record that does not exist yet has no id, so that the rules of its collection are the ones
that count. -/
theorem Guard.passes_of_enforce_new {guard : Guard} {caller : Caller} {action : Action}
    {collection : Option String} {payload : Option Record} {verdict : Decision × Bool × Subject}
    (run : guard.enforce caller action collection ⟨none, payload⟩ = .ok verdict) :
    guard.Passes caller action collection none none payload :=
  (Guard.authorize_isOk_iff (guard.rules.resolveFor_null action collection)).mp
    ⟨_, (Guard.enforce_eq_ok_iff.mp run).1⟩

end GuardedRecords
