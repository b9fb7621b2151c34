import GuardedRecords.Proofs.Mediation
import GuardedRecords.Proofs.RuleOrder
import GuardedRecords.Proofs.StrictEvaluation
import GuardedRecords.Proofs.Verdicts

namespace GuardedRecords

/-- What may be raised while property rules are applied. -/
inductive Raised
  | refused (error : ServiceError)
  | misuse (cause : Misuse)
  | noMember (name : String)

section Strict

variable (guard : Guard) (caller : Caller)

/-- The check of a rule by the strict evaluation. A rule at fault does not hold. -/
def Rule.checkStrict (source : Option RecordSource) (rule : Rule) (record payload : Option Record) :
    Except Raised Bool :=
  match rule with
  | .roles any => (checkRoles any caller record).mapError .refused
  | .expression _ e =>
    match e.run (ruleContext caller record payload) source with
    | .ok value => .ok value.truthy
    | .error (.fault _) => .ok false
    | .error (.misuse cause) => .error (.misuse cause)

/-- Of all that a check may raise only the request to log in is taken for a failed rule. -/
def Guard.permitsStrict (record payload : Option Record) (rule : Rule) : Except Raised Bool :=
  match rule.checkStrict caller guard.source record payload with
  | .error (.refused .unauthorized) => .ok false
  | outcome => outcome

/-- Removes a member that must be there. -/
def Record.removeStrict (record : Record) (name : String) : Except Raised Record :=
  if record.has name then .ok (record.remove name) else .error (.noMember name)

def Guard.applyPropertyRuleStrict (action : Action) (subject : Subject) (rule : PropertyRule) :
    Except Raised Subject :=
  match subject.target action with
  | none => .ok subject
  | some target =>
    if target.has rule.property then do
      let allowed ← guard.permitsStrict caller subject.record subject.payload rule.rule
      if allowed then .ok subject
      else (target.removeStrict rule.property).map (subject.withTarget action)
    else .ok subject

/-- Applies property rules by operations that fail on what they do not work on. -/
def Guard.applyPropertyRulesStrict (action : Action) (rules : List PropertyRule)
    (subject : Subject) : Except Raised Subject :=
  rules.foldlM (guard.applyPropertyRuleStrict caller action) subject

/-- Of all that the strict check of a rule can raise nothing is left over: a rule that fails for any
reason counts as not satisfied. -/
theorem Guard.permitsStrict_eq (record payload : Option Record) (rule : Rule) :
    guard.permitsStrict caller record payload rule =
      .ok (guard.permits caller record payload rule) := by
  cases rule with
  | roles any =>
    have verdicts := Rule.check_cases guard.source (.roles any) caller record payload
    rw [Rule.check] at verdicts
    rw [Guard.permitsStrict, Rule.checkStrict, Guard.permits, Rule.check]
    rcases verdicts with ⟨_, verdict⟩ | ⟨_, verdict⟩ | ⟨_, _, verdict⟩ <;> rw [verdict] <;> rfl
  | expression text e =>
    rw [Guard.permitsStrict, Rule.checkStrict, Expr.run_eq, Guard.permits, Rule.check, checkExpr]
    cases e.evaluate (ruleContext caller record payload) guard.source <;> rfl

/-- One property rule raises nothing. The property that it takes away is there, since that is asked
first. -/
theorem Guard.applyPropertyRuleStrict_eq (action : Action) (subject : Subject)
    (rule : PropertyRule) :
    guard.applyPropertyRuleStrict caller action subject rule =
      .ok (guard.applyPropertyRule caller action subject rule) := by
  rw [Guard.applyPropertyRuleStrict, Guard.applyPropertyRule]
  cases subject.target action with
  | none => rfl
  | some target =>
    dsimp only
    rw [Guard.permitsStrict_eq, ok_bind]
    cases present : target.has rule.property with
    | false => rfl
    | true =>
      rw [Record.removeStrict, if_pos present]
      cases guard.permits caller subject.record subject.payload rule.rule <;> rfl

/-- Nothing is raised while property rules are applied, whatever the record and the incoming data
are. By induction on the rules, since each of them raises nothing. -/
theorem Guard.applyPropertyRulesStrict_eq (action : Action) (rules : List PropertyRule)
    (subject : Subject) :
    guard.applyPropertyRulesStrict caller action rules subject =
      .ok (guard.applyPropertyRules caller action rules subject) := by
  induction rules generalizing subject with
  | nil => rfl
  | cons rule rest ih =>
    rw [Guard.applyPropertyRulesStrict, List.foldlM_cons, Guard.applyPropertyRuleStrict_eq, ok_bind]
    exact ih _

end Strict

/-- Why a rule does not hold: it asks for an identity that the caller has not, the caller has none
of its roles, its expression has a value that counts as false, or the expression is at fault. -/
inductive Rule.Fails (source : Option RecordSource) (caller : Caller)
    (record payload : Option Record) : Rule → Prop
  | unknownCaller {any : List Role} (noGuest : .guest ∉ any) (unknown : caller.user = none) :
      Fails source caller record payload (.roles any)
  | unmet {any : List Role} (known : caller.user.isSome)
      (unsatisfied : ¬(Rule.roles any).Satisfied source caller record payload) :
      Fails source caller record payload (.roles any)
  | untrue {text : String} {e : Expr} {value : Value}
      (run : e.evaluate (ruleContext caller record payload) source = .ok value)
      (falsy : value.truthy = false) :
      Fails source caller record payload (.expression text e)
  | faulty {text : String} {e : Expr} {fault : EvalFault}
      (run : e.evaluate (ruleContext caller record payload) source = .error fault) :
      Fails source caller record payload (.expression text e)

section Verdicts

variable {source : Option RecordSource} {caller : Caller} {record payload : Option Record}
  {rule : Rule}

theorem Rule.fails_iff :
    rule.Fails source caller record payload ↔ ¬rule.Satisfied source caller record payload := by
  constructor
  · intro fails satisfied
    cases fails with
    | unknownCaller noGuest unknown =>
      rcases satisfied with guest | ⟨known, _⟩
      · exact noGuest guest
      · rw [unknown] at known
        cases known
    | unmet _ unsatisfied => exact unsatisfied satisfied
    | untrue run falsy =>
      obtain ⟨value, again, holds⟩ := satisfied
      cases run.symm.trans again
      exact Bool.false_ne_true (falsy.symm.trans holds)
    | faulty run =>
      obtain ⟨value, again, _⟩ := satisfied
      cases run.symm.trans again
  · intro unsatisfied
    cases rule with
    | roles any =>
      cases known : caller.user with
      | some user => exact .unmet (by rw [known]; rfl) unsatisfied
      | none => exact .unknownCaller (fun guest => unsatisfied (.inl guest)) known
    | expression text e =>
      cases run : e.evaluate (ruleContext caller record payload) source with
      | error fault => exact .faulty run
      | ok value =>
        refine .untrue run (Bool.eq_false_iff.mpr fun holds => ?_)
        exact unsatisfied ⟨value, run, holds⟩

/-- The check of a rule holds exactly if the rule is satisfied on the record and the incoming data
at hand. -/
theorem Guard.permits_eq_true_iff {guard : Guard} :
    guard.permits caller record payload rule = true ↔
      rule.Satisfied guard.source caller record payload := by
  rw [← Rule.check_eq_true_iff, Guard.permits]
  cases rule.check guard.source caller record payload with
  | ok allowed => rw [Except.ok.injEq]
  | error failure => simp

/-- The check of a rule does not hold exactly if the rule fails there in one of the known ways. -/
theorem Guard.permits_eq_false_iff {guard : Guard} :
    guard.permits caller record payload rule = false ↔
      rule.Fails guard.source caller record payload := by
  rw [Rule.fails_iff, ← Guard.permits_eq_true_iff, Bool.not_eq_true]

end Verdicts

section Turns

variable {allows : Record → Rule → Bool} {record : Record}

/-- What is gone in the end was there when the turn of some rule came that refused it. Only rules
take properties away, one at a time. -/
theorem exists_turn_of_taken {rules : List PropertyRule} {property : String}
    (present : record.has property = true)
    (taken : (rules.foldl (takeAway allows) record).has property = false) :
    ∃ earlier rule later, rules = earlier ++ rule :: later ∧ rule.property = property ∧
      (earlier.foldl (takeAway allows) record).has property = true ∧
      allows (earlier.foldl (takeAway allows) record) rule.rule = false := by
  -- The first rule either takes the property away itself or hands it on to the others.
  induction rules generalizing record with
  | nil =>
    rw [List.foldl_nil, present] at taken
    cases taken
  | cons rule rest ih =>
    cases next : (takeAway allows record rule).has property with
    | true =>
      obtain ⟨earlier, other, later, rfl, about, there, refused⟩ := ih next taken
      exact ⟨rule :: earlier, other, later, rfl, about, there, refused⟩
    | false =>
      refine ⟨[], rule, rest, rfl, ?_⟩
      rw [takeAway] at next
      split at next
      · next refuses =>
        rw [Bool.and_eq_true, Bool.not_eq_true'] at refuses
        have same : rule.property = property := by
          by_contra different
          rw [Table.has, Table.lookup?_remove_of_ne (Ne.symm different), ← Table.has,
            present] at next
          cases next
        exact ⟨same, present, refuses.2⟩
      · rw [present] at next
        cases next

theorem has_foldl_takeAway_of_refused {earlier later : List PropertyRule} {rule : PropertyRule}
    (refused : allows (earlier.foldl (takeAway allows) record) rule.rule = false) :
    ((earlier ++ rule :: later).foldl (takeAway allows) record).has rule.property = false := by
  rw [List.foldl_append, List.foldl_cons]
  refine has_foldl_takeAway_of_absent ?_ later
  rw [has_takeAway_self, refused, Bool.and_false]

end Turns

/-- Whether a property is there to be taken away. -/
def Subject.Carries (subject : Subject) (action : Action) (property : String) : Prop :=
  ∃ target, subject.target action = some target ∧ target.has property = true

section Redacting

variable (guard : Guard) (caller : Caller) (action : Action) (rules : List PropertyRule)
  (subject : Subject)

/-- The turn of one of several property rules, with the record and the incoming data as those before
it have left them. -/
def Guard.Turn (rule : PropertyRule) (now : Subject) : Prop :=
  ∃ earlier later, rules = earlier ++ rule :: later ∧
    now = guard.applyPropertyRules caller action earlier subject

/-- Some rule for a property fails at its turn, while the property is still there. -/
def Guard.TakesInTurn (property : String) : Prop :=
  ∃ rule now, guard.Turn caller action rules subject rule now ∧ rule.property = property ∧
    now.Carries action property ∧ rule.rule.Fails guard.source caller now.record now.payload

/-- All rules for a property are satisfied, each of them at its turn. -/
def Guard.SatisfiedInTurns (property : String) : Prop :=
  ∀ rule now, guard.Turn caller action rules subject rule now → rule.property = property →
    rule.rule.Satisfied guard.source caller now.record now.payload

/-- What property rules leave of the record and the incoming data. A read concerns the record alone,
every other action the incoming data alone, which a delete comes without. Properties are taken
away, and what stays keeps its place and its value. Every property that is taken away has a rule
that fails at its turn, and every one that stays satisfies all its rules. -/
structure Guard.Redacts (left : Subject) : Prop where
  payload : action = .read → left.payload = subject.payload
  record : action ≠ .read → left.record = subject.record
  nothing : subject.target action = none → left = subject
  exact : ∀ target, subject.target action = some target → ∃ gone : String → Bool,
    left = subject.withTarget action (target.without gone) ∧
      ∀ property, target.has property = true →
        (gone property = true → guard.TakesInTurn caller action rules subject property) ∧
          (gone property = false → guard.SatisfiedInTurns caller action rules subject property)

variable {guard caller action rules subject}

/-- What is left satisfies all its rules, each at its turn: a property that one of them refuses is
gone from then on. -/
theorem Guard.satisfiedInTurns_of_left {property : String}
    (left : (guard.applyPropertyRules caller action rules subject).Carries action property) :
    guard.SatisfiedInTurns caller action rules subject property := by
  rintro rule _ ⟨earlier, later, rfl, rfl⟩ rfl
  obtain ⟨target, found, present⟩ := left
  cases first : subject.target action with
  | none =>
    rw [guard.applyPropertyRules_of_none caller first, first] at found
    cases found
  | some record =>
    rw [guard.applyPropertyRules_of_target caller first, Subject.target_withTarget] at found
    cases found
    rw [guard.applyPropertyRules_of_target caller first]
    by_contra unsatisfied
    have refused := Guard.permits_eq_false_iff.mpr (Rule.fails_iff.mpr unsatisfied)
    exact Bool.false_ne_true ((has_foldl_takeAway_of_refused refused).symm.trans present)

/-- A property that was there and is not any more was taken away by a rule of its own, at a turn at
which it was still there. The induction is on the rules from the last one. -/
theorem Guard.takesInTurn_of_taken {target : Record} {property : String}
    (found : subject.target action = some target) (present : target.has property = true)
    (taken : ¬(guard.applyPropertyRules caller action rules subject).Carries action property) :
    guard.TakesInTurn caller action rules subject property := by
  rw [guard.applyPropertyRules_of_target caller found] at taken
  have absent := Bool.eq_false_iff.mpr fun there =>
    taken ⟨_, Subject.target_withTarget .., there⟩
  obtain ⟨earlier, rule, later, split, about, there, refused⟩ := exists_turn_of_taken present absent
  refine ⟨rule, _, ⟨earlier, later, split, rfl⟩, about, ?_, ?_⟩
  · rw [guard.applyPropertyRules_of_target caller found]
    exact ⟨_, Subject.target_withTarget .., there⟩
  · rw [guard.applyPropertyRules_of_target caller found]
    exact Guard.permits_eq_false_iff.mp refused

/-- What the property rules leave is the redaction of what they were given, for every action and
every list of rules. -/
theorem Guard.redacts (guard : Guard) (caller : Caller) (action : Action)
    (rules : List PropertyRule) (subject : Subject) :
    guard.Redacts caller action rules subject
      (guard.applyPropertyRules caller action rules subject) := by
  cases found : subject.target action with
  | none =>
    have same := guard.applyPropertyRules_of_none caller found rules
    refine ⟨fun _ => by rw [same], fun _ => by rw [same], fun _ => same, fun target there => ?_⟩
    cases found.symm.trans there
  | some target =>
    have run := guard.applyPropertyRules_of_target caller found rules
    -- All that the rules take away together, as a test of names.
    obtain ⟨gone, _, left⟩ := foldl_takeAway_eq_without
      (fun left => guard.allowsOn caller (subject.withTarget action left)) target rules
    have carries (property : String) :
        (guard.applyPropertyRules caller action rules subject).Carries action property ↔
          (target.has property && !gone property) = true := by
      rw [run, left, Subject.Carries, Subject.target_withTarget, ← Record.has_without]
      simp
    refine ⟨?_, ?_, fun missing => ?_, ?_⟩
    · rintro rfl
      rw [run]
      rfl
    · intro other
      rw [run]
      cases action with
      | read => exact absurd rfl other
      | _ => rfl
    · cases found.symm.trans missing
    · rintro _ there
      cases found.symm.trans there
      refine ⟨gone, by rw [run, left], fun property present => ⟨fun taken => ?_, fun kept => ?_⟩⟩
      · refine Guard.takesInTurn_of_taken found present fun stays => ?_
        rw [carries, taken, Bool.not_true, Bool.and_false] at stays
        cases stays
      · refine Guard.satisfiedInTurns_of_left ((carries property).mpr ?_)
        rw [present, kept, Bool.not_false, Bool.and_true]

end Redacting

/-- The rules for the properties of new records of a collection. -/
def Database.createRules (db : Database) (name : String) : List PropertyRule :=
  (db.policy.resolve .create (some name) none).propertyRules

theorem Database.left_of_checkCreate {db : Database} {caller : Caller} {name : String}
    {id : Option String} {payload : Value} {left : Record}
    (passed : db.checkCreate caller name id payload = .ok left) :
    ∃ sent, payload = .object sent ∧
      db.guard.applyPropertyRules caller .create (db.createRules name) ⟨none, some sent⟩ =
        ⟨none, some left⟩ := by
  unfold Database.checkCreate at passed
  split at passed
  · cases passed
  · obtain ⟨sent, carried, rest⟩ := bind_eq_ok_iff.mp passed
    obtain ⟨⟨decision, allowed, subject⟩, enforced, same⟩ := bind_eq_ok_iff.mp rest
    cases same
    obtain ⟨authorized, applied⟩ := Guard.enforce_eq_ok_iff.mp enforced
    have resolved := db.guard.rules.resolveFor_null .create (some name)
    cases Guard.decision_of_authorize resolved authorized
    have carries : (⟨none, some sent⟩ : Subject).target .create = some sent := rfl
    have run := db.guard.applyPropertyRules_of_target caller carries (db.createRules name)
    have left : db.guard.applyPropertyRules caller .create (db.createRules name)
      ⟨none, some sent⟩ = subject := applied
    refine ⟨sent, payloadOf_eq_ok_iff.mp carried, ?_⟩
    rw [← left, run]
    rfl

/-- A property of a new record, apart from those that the store itself writes. -/
theorem left_of_newRecord {payload : Record} {owner : Value} {now : Int} {property : String}
    (present : (newRecord payload owner now).has property = true) (notOwner : property ≠ ownerField)
    (notCreated : property ≠ createdField) : payload.has property = true := by
  by_cases system : property ∈ systemFields
  · rw [Table.has, lookup?_newRecord_of_unset system notCreated notOwner] at present
    cases present
  · rwa [Table.has, lookup?_newRecord_of_not_mem system] at present

/-- What a successful creation stores satisfies the rules for new records, but for the owner and the
time of creation, which the store sets. -/
theorem Database.satisfiedInTurns_of_create {db : Database} {caller : Caller} {name : String}
    {id : Option String} {payload : Value} {answer : Record}
    (run : (db.create caller name id payload).1 = .ok answer) :
    ∃ sent key stored, payload = .object sent ∧ answer = stored.tagged key ∧
      (db.create caller name id payload).2.store.existing name key = .ok stored ∧
      ∀ property, stored.has property = true → property ≠ ownerField → property ≠ createdField →
        db.guard.SatisfiedInTurns caller .create (db.createRules name) ⟨none, some sent⟩
          property := by
  rw [Database.create] at run ⊢
  cases checks : db.checkCreate caller name id payload with
  | error failure =>
    rw [checks] at run
    cases run
  | ok left =>
    obtain ⟨sent, rfl, applied⟩ := Database.left_of_checkCreate checks
    rw [checks] at run
    rcases db.store.add_cases name left caller.userId with
      ⟨key, ids, _, unused, added⟩ | ⟨ids, _, failed⟩
    · simp only [Database.write, added] at run ⊢
      cases run
      refine ⟨sent, key, _, rfl, rfl, ?_, fun property present notOwner notCreated => ?_⟩
      · rw [← Table.put_of_not_mem unused]
        exact Store.existing_eq_ok_iff.mpr ⟨_, Table.lookup?_put_self .., Table.lookup?_put_self ..⟩
      · refine Guard.satisfiedInTurns_of_left ?_
        rw [applied]
        exact ⟨left, rfl, left_of_newRecord present notOwner notCreated⟩
    · simp only [Database.write, failed] at run
      cases run

/-- Property rules never raise anything and take away exactly what fails its rules, each of which is
asked about what those before it have left. A record that is created has no property with a rule for
new records that fails at its turn, but for the owner and the time of creation. -/
theorem propertyRules_redact (caller : Caller) :
    (∀ (guard : Guard) (action : Action) (rules : List PropertyRule) (subject : Subject),
      guard.applyPropertyRulesStrict caller action rules subject =
          .ok (guard.applyPropertyRules caller action rules subject) ∧
        guard.Redacts caller action rules subject
          (guard.applyPropertyRules caller action rules subject)) ∧
      ∀ (db : Database) (name : String) (id : Option String) (payload : Value) (answer : Record),
        (db.create caller name id payload).1 = .ok answer →
        ∃ sent key stored, payload = .object sent ∧ answer = stored.tagged key ∧
          (db.create caller name id payload).2.store.existing name key = .ok stored ∧
          ∀ property, stored.has property = true → property ≠ ownerField →
            property ≠ createdField →
            db.guard.SatisfiedInTurns caller .create (db.createRules name) ⟨none, some sent⟩
              property := by
  constructor
  · intro guard action rules subject
    exact ⟨guard.applyPropertyRulesStrict_eq caller action rules subject,
      guard.redacts caller action rules subject⟩
  · intro db name id payload answer run
    exact Database.satisfiedInTurns_of_create run

/-- Nobody may name the owner of a new note or give it a title, and a secret goes with no title. -/
def untitledNotes : Database where
  store := .holding [] (fun _ => "n1") 0
  identities := none
  policy := { collections := [("notes", {
    wildcard := { properties :=
      [("_ownerId", { create := some (.expression "false" (.literal (.bool false))) }),
        ("title", { create := some (.expression "false" (.literal (.bool false))) }),
        ("secret", { create := some (.expression "newData.title == null"
          (.binary (.path "newData.title") (.comparison .eq) (.literal .null))) })] } })] }

def titledNote : Record :=
  [("title", .text "first"), ("secret", .int 1), ("_ownerId", .text "u2")]

/-- The secret stays, for the title is gone when the turn of its rule comes. On the data as they
were sent the rule would have failed. -/
theorem propertyRules_redact_untitled :
    let author : Caller := { user := some [("_id", .text "u1")] }
    let created := untitledNotes.create author "notes" none (.object titledNote)
    created.1 = .ok [("secret", .int 1), ("_ownerId", .text "u1"), ("_createdOn", .int 0),
        ("_id", .text "n1")] ∧
      ∃ key stored, created.2.store.existing "notes" key = .ok stored ∧
        ∀ property, stored.has property = true → property ≠ ownerField →
          property ≠ createdField →
          untitledNotes.guard.SatisfiedInTurns author .create (untitledNotes.createRules "notes")
            ⟨none, some titledNote⟩ property := by
  intro author created
  have run : created.1 = .ok [("secret", .int 1), ("_ownerId", .text "u1"),
    ("_createdOn", .int 0), ("_id", .text "n1")] := rfl
  obtain ⟨sent, key, stored, carried, _, existing, satisfied⟩ :=
    (propertyRules_redact author).2 untitledNotes "notes" none (.object titledNote) _ run
  cases carried
  exact ⟨run, key, stored, existing, satisfied⟩

/-- Where data comes with a delete, property rules take from it as from that of an update. And a new
note names its owner although the rule for this property fails at its turn: what it takes away is
what the payload says, and the store sets the owner afterwards. -/
theorem propertyRules_overruled :
    (⟨{}, none⟩ : Guard).applyPropertyRules {} .delete
        [⟨"title", .expression "false" (.literal (.bool false))⟩]
        { payload := some titledNote } =
      { payload := some [("secret", .int 1), ("_ownerId", .text "u2")] } ∧
      let author : Caller := { user := some [("_id", .text "u1")] }
      let created := untitledNotes.create author "notes" none (.object titledNote)
      untitledNotes.guard.TakesInTurn author .create (untitledNotes.createRules "notes")
          ⟨none, some titledNote⟩ ownerField ∧
        ∃ stored, created.2.store.existing "notes" "n1" = .ok stored ∧
          stored.lookup? ownerField = some (.text "u1") := by
  refine ⟨rfl, ?_, _, rfl, rfl⟩
  exact ⟨_, _, ⟨[], _, rfl, rfl⟩, rfl, ⟨_, rfl, rfl⟩, .untrue rfl rfl⟩

end GuardedRecords
