import Mathlib.Data.List.Nodup
import GuardedRecords.Proofs.Redaction
import GuardedRecords.Proofs.RuleVariables
import GuardedRecords.Proofs.TableUpdates

namespace GuardedRecords

/-- A record without some of its properties. -/
def Record.without (record : Record) (gone : String → Bool) : Record :=
  record.filter fun pair => !gone pair.1

/-- The property of a rule is taken away if it is there and the rule does not allow it. -/
def takeAway (allows : Record → Rule → Bool) (record : Record) (rule : PropertyRule) : Record :=
  if record.has rule.property && !allows record rule.rule then record.remove rule.property
  else record

/-- Some rule for a property does not allow it. -/
def refusedBy (allows : Rule → Bool) (rules : List PropertyRule) (property : String) : Bool :=
  rules.any fun rule => rule.property == property && !allows rule.rule

theorem refusedBy_eq_true_iff {allows : Rule → Bool} {rules : List PropertyRule}
    {property : String} :
    refusedBy allows rules property = true ↔
      ∃ rule ∈ rules, rule.property = property ∧ allows rule.rule = false := by
  simp only [refusedBy, List.any_eq_true, Bool.and_eq_true, beq_iff_eq, Bool.not_eq_true']

/-- Whether a property is refused does not depend on the order of the rules, when all of them judge
the same record. -/
theorem refusedBy_perm {rules order : List PropertyRule} (perm : order.Perm rules)
    (allows : Rule → Bool) : refusedBy allows order = refusedBy allows rules := by
  funext property
  rw [Bool.eq_iff_iff, refusedBy_eq_true_iff, refusedBy_eq_true_iff]
  simp only [perm.mem_iff]

section Records

variable (record : Record)

theorem Record.has_without (gone : String → Bool) (property : String) :
    (record.without gone).has property = (record.has property && !gone property) := by
  rw [Table.has, Record.without, Table.lookup?_filter (fun name => !gone name), Table.has]
  cases gone property <;> simp

theorem Record.without_without (gone more : String → Bool) :
    (record.without gone).without more =
      record.without fun property => gone property || more property := by
  rw [Record.without, Record.without, List.filter_filter, Record.without]
  simp [Bool.and_comm]

theorem Record.without_nothing : record.without (fun _ => false) = record :=
  List.filter_eq_self.mpr fun _ _ => rfl

theorem Record.remove_eq_without (property : String) :
    record.remove property = record.without (property == ·) := by
  refine List.filter_congr fun pair _ => ?_
  by_cases same : property = pair.1
  · simp [same]
  · simp [same, Ne.symm same]

variable {record}

theorem Record.without_congr {gone other : String → Bool}
    (same : ∀ property, record.has property = true → gone property = other property) :
    record.without gone = record.without other := by
  refine List.filter_congr fun pair member => ?_
  rw [same pair.1 (Table.has_eq_true_iff.mpr (List.mem_map_of_mem member))]

end Records

section Taking

variable {allows : Record → Rule → Bool} {record : Record}

theorem takeAway_eq_without (allows : Record → Rule → Bool) (record : Record)
    (rule : PropertyRule) :
    takeAway allows record rule =
      record.without fun property => rule.property == property && !allows record rule.rule := by
  unfold takeAway
  by_cases allowed : allows record rule.rule = true
  · simp [allowed, Record.without_nothing]
  · simp only [Bool.eq_false_iff.mpr allowed, Bool.not_false, Bool.and_true]
    split
    · exact record.remove_eq_without rule.property
    · next absent =>
      rw [← Record.remove_eq_without, Table.remove_of_not_mem]
      rwa [← Table.has_eq_true_iff]

/-- Rules only take away properties that they are about, so that what they leave is the record
without the properties that some test of names tells. -/
theorem foldl_takeAway_eq_without (allows : Record → Rule → Bool) (record : Record)
    (rules : List PropertyRule) :
    ∃ gone : String → Bool,
      (∀ property, gone property = true → ∃ rule ∈ rules, rule.property = property) ∧
      rules.foldl (takeAway allows) record = record.without gone := by
  induction rules generalizing record with
  | nil => exact ⟨fun _ => false, fun _ => nofun, record.without_nothing.symm⟩
  | cons rule rest ih =>
    obtain ⟨gone, about, left⟩ := ih (takeAway allows record rule)
    rw [takeAway_eq_without, Record.without_without] at left
    refine ⟨_, fun property taken => ?_, by rw [List.foldl_cons, takeAway_eq_without, left]⟩
    rcases Bool.or_eq_true_iff.mp taken with first | later
    · have same := (Bool.and_eq_true_iff.mp first).1
      exact ⟨rule, List.mem_cons_self, beq_iff_eq.mp same⟩
    · obtain ⟨other, member, same⟩ := about property later
      exact ⟨other, List.mem_cons_of_mem rule member, same⟩

theorem has_foldl_takeAway_of_none {rules : List PropertyRule} {property : String}
    (others : ∀ rule ∈ rules, rule.property ≠ property) :
    (rules.foldl (takeAway allows) record).has property = record.has property := by
  obtain ⟨gone, about, left⟩ := foldl_takeAway_eq_without allows record rules
  have kept : gone property = false := by
    rw [Bool.eq_false_iff]
    intro taken
    obtain ⟨rule, member, same⟩ := about property taken
    exact others rule member same
  rw [left, Record.has_without, kept, Bool.not_false, Bool.and_true]

theorem has_foldl_takeAway_of_absent {property : String} (absent : record.has property = false)
    (rules : List PropertyRule) :
    (rules.foldl (takeAway allows) record).has property = false := by
  obtain ⟨gone, _, left⟩ := foldl_takeAway_eq_without allows record rules
  rw [left, Record.has_without, absent, Bool.false_and]

theorem has_takeAway_self (allows : Record → Rule → Bool) (record : Record) (rule : PropertyRule) :
    (takeAway allows record rule).has rule.property =
      (record.has rule.property && allows record rule.rule) := by
  rw [takeAway_eq_without, Record.has_without, beq_self_eq_true, Bool.true_and, Bool.not_not]

/-- Rules that all allow the record as it is leave it so, since none of them takes away what another
one looks at. -/
theorem foldl_takeAway_of_allowed {rules : List PropertyRule}
    (allowed : ∀ rule ∈ rules, allows record rule.rule = true) :
    rules.foldl (takeAway allows) record = record := by
  induction rules with
  | nil => rfl
  | cons rule rest ih =>
    have first : takeAway allows record rule = record := by
      rw [takeAway, allowed rule List.mem_cons_self, Bool.not_true, Bool.and_false]
      rfl
    rw [List.foldl_cons, first]
    exact ih fun later member => allowed later (List.mem_cons_of_mem rule member)

/-- A property with a rule that does not allow it on the record as given is gone at least when that
rule is the first one, and a property that all its rules allow then is there at least when they are
the first ones. -/
theorem exists_perm_has_foldl_takeAway (allows : Record → Rule → Bool) {property : String}
    (present : record.has property = true) (rules : List PropertyRule) :
    ∃ order : List PropertyRule, order.Perm rules ∧
      (order.foldl (takeAway allows) record).has property =
        !refusedBy (allows record) rules property := by
  cases verdict : refusedBy (allows record) rules property with
  | true =>
    obtain ⟨rule, member, rfl, refused⟩ := refusedBy_eq_true_iff.mp verdict
    obtain ⟨front, back, rfl⟩ := List.append_of_mem member
    refine ⟨rule :: (front ++ back), List.perm_middle.symm, ?_⟩
    rw [List.foldl_cons, Bool.not_true]
    refine has_foldl_takeAway_of_absent ?_ _
    rw [has_takeAway_self, refused, Bool.and_false]
  | false =>
    refine ⟨_, List.filter_append_perm (fun rule => rule.property == property) rules, ?_⟩
    have first : (rules.filter fun rule => rule.property == property).foldl (takeAway allows)
        record = record := by
      refine foldl_takeAway_of_allowed fun rule member => ?_
      obtain ⟨listed, about⟩ := List.mem_filter.mp member
      refine Bool.not_eq_false _ |>.mp fun refused => ?_
      have some_refuses := refusedBy_eq_true_iff.mpr ⟨rule, listed, beq_iff_eq.mp about, refused⟩
      exact Bool.false_ne_true (verdict.symm.trans some_refuses)
    rw [List.foldl_append, first, has_foldl_takeAway_of_none, present, Bool.not_false]
    intro rule member
    simpa using (List.mem_filter.mp member).2

/-- The rules are indifferent to their order. -/
def OrderIrrelevant (allows : Record → Rule → Bool) (record : Record) (rules : List PropertyRule) :
    Prop :=
  ∀ order : List PropertyRule, order.Perm rules →
    order.foldl (takeAway allows) record = rules.foldl (takeAway allows) record

/-- No verdict on a property that is there changes when others that are refused are taken away. -/
def VerdictsSettled (allows : Record → Rule → Bool) (record : Record) (rules : List PropertyRule) :
    Prop :=
  ∀ rule ∈ rules, record.has rule.property = true → ∀ gone : String → Bool,
    (∀ property, gone property = true → refusedBy (allows record) rules property = true) →
    gone rule.property = false → allows (record.without gone) rule.rule = allows record rule.rule

/-- The rules are indifferent to their order exactly if every order takes away what the rules refuse
on the record as it was given. There is then one result, and it can be said without turns. -/
theorem orderIrrelevant_iff {rules : List PropertyRule} :
    OrderIrrelevant allows record rules ↔
      ∀ order : List PropertyRule, order.Perm rules →
        order.foldl (takeAway allows) record = record.without (refusedBy (allows record) rules) := by
  constructor
  · intro irrelevant
    have listed : rules.foldl (takeAway allows) record =
        record.without (refusedBy (allows record) rules) := by
      obtain ⟨gone, _, left⟩ := foldl_takeAway_eq_without allows record rules
      rw [left]
      refine Record.without_congr fun property present => ?_
      obtain ⟨order, perm, has⟩ := exists_perm_has_foldl_takeAway allows present rules
      rw [irrelevant order perm, left, Record.has_without, present, Bool.true_and] at has
      exact Bool.not_inj has
    exact fun order perm => (irrelevant order perm).trans listed
  · intro same order perm
    rw [same order perm, same rules (.refl rules)]

/-- As long as no verdict changes the properties that are gone are those refused so far. The
induction is on the rules that are left. -/
theorem VerdictsSettled.foldl_takeAway {rules : List PropertyRule}
    (settled : VerdictsSettled allows record rules) {rest : List PropertyRule}
    (listed : ∀ rule ∈ rest, rule ∈ rules) (gone : String → Bool)
    (refused : ∀ property, gone property = true → refusedBy (allows record) rules property = true) :
    rest.foldl (takeAway allows) (record.without gone) =
      record.without fun property => gone property || refusedBy (allows record) rest property := by
  induction rest generalizing gone with
  | nil => simp [refusedBy]
  | cons rule rest ih =>
    have member := listed rule List.mem_cons_self
    have step : takeAway allows (record.without gone) rule =
        record.without fun property =>
          gone property || (rule.property == property && !allows record rule.rule) := by
      rw [takeAway_eq_without, Record.without_without]
      refine Record.without_congr fun property present => ?_
      by_cases about : rule.property = property
      · subst about
        cases taken : gone rule.property with
        | true => rw [Bool.true_or, Bool.true_or]
        | false => rw [settled rule member present gone refused taken]
      · rw [beq_false_of_ne about, Bool.false_and, Bool.false_and]
    rw [List.foldl_cons, step, ih fun later there => listed later (List.mem_cons_of_mem rule there)]
    · simp only [refusedBy, List.any_cons, Bool.or_assoc]
    · intro property taken
      rcases Bool.or_eq_true_iff.mp taken with before | now
      · exact refused property before
      · simp only [Bool.and_eq_true, beq_iff_eq, Bool.not_eq_true'] at now
        exact refusedBy_eq_true_iff.mpr ⟨rule, member, now⟩

theorem VerdictsSettled.orderIrrelevant {rules : List PropertyRule}
    (settled : VerdictsSettled allows record rules) : OrderIrrelevant allows record rules := by
  refine orderIrrelevant_iff.mpr fun order perm => ?_
  have left := settled.foldl_takeAway (fun rule member => perm.mem_iff.mp member) (fun _ => false)
    fun _ => nofun
  rw [Record.without_nothing] at left
  rw [left, refusedBy_perm perm]
  simp only [Bool.false_or]

/-- With one rule for each property, a property is refused exactly if its rule does not allow it. -/
theorem refusedBy_of_nodup {rules : List PropertyRule}
    (distinct : (rules.map (·.property)).Nodup) {rule : PropertyRule} (member : rule ∈ rules)
    (allows : Rule → Bool) : refusedBy allows rules rule.property = !allows rule.rule := by
  rw [Bool.eq_iff_iff, refusedBy_eq_true_iff, Bool.not_eq_true']
  constructor
  · rintro ⟨other, listed, same, refused⟩
    rwa [List.inj_on_of_nodup_map distinct listed member same] at refused
  · exact fun refused => ⟨rule, member, rfl, refused⟩

/-- Where no property has two rules, verdicts that change are the only reason for an order to
matter. -/
theorem OrderIrrelevant.verdictsSettled {rules : List PropertyRule}
    (distinct : (rules.map (·.property)).Nodup)
    (irrelevant : OrderIrrelevant allows record rules) : VerdictsSettled allows record rules := by
  intro rule member present gone refused kept
  -- The rules for what is to be gone come first, and then this rule.
  have last : rule ∈ rules.filter fun rule => !gone rule.property :=
    List.mem_filter.mpr ⟨member, by rw [kept, Bool.not_false]⟩
  obtain ⟨front, back, split⟩ := List.append_of_mem last
  have perm : ((rules.filter fun rule => gone rule.property) ++ rule :: (front ++ back)).Perm rules := by
    refine .trans (.append_left _ ?_) (List.filter_append_perm (fun rule => gone rule.property) rules)
    rw [split]
    exact List.perm_middle.symm
  have left := orderIrrelevant_iff.mp irrelevant _ perm
  rw [List.foldl_append] at left
  have first : (rules.filter fun rule => gone rule.property).foldl (takeAway allows) record =
      record.without gone := by
    obtain ⟨taken, about, same⟩ := foldl_takeAway_eq_without allows record
      (rules.filter fun rule => gone rule.property)
    rw [same] at left ⊢
    refine Record.without_congr fun property there => ?_
    cases wanted : gone property with
    | false =>
      refine Bool.eq_false_iff.mpr fun early => ?_
      obtain ⟨other, listed, rfl⟩ := about property early
      exact Bool.false_ne_true (wanted.symm.trans (List.mem_filter.mp listed).2)
    | true =>
      have others : ∀ other ∈ rule :: (front ++ back), other.property ≠ property := by
        rintro other listed rfl
        have staying : other ∈ rules.filter fun rule => !gone rule.property := by
          rw [split]
          exact List.perm_middle.mem_iff.mpr listed
        simp [wanted] at staying
      have has := congrArg (Table.has · property) left
      simp only [has_foldl_takeAway_of_none others, Record.has_without, there,
        refused property wanted, Bool.true_and] at has
      exact Bool.not_inj has
  rw [first, List.foldl_cons] at left
  have others : ∀ other ∈ front ++ back, other.property ≠ rule.property := by
    have each := (perm.map (·.property)).nodup_iff.mpr distinct
    rw [List.map_append, List.map_cons, List.nodup_append, List.nodup_cons] at each
    intro other there same
    exact each.2.1.1 (same ▸ List.mem_map_of_mem there)
  have has := congrArg (Table.has · rule.property) left
  simp only [has_foldl_takeAway_of_none others, has_takeAway_self, Record.has_without, present, kept,
    refusedBy_of_nodup distinct member, Bool.not_false, Bool.true_and, Bool.not_not] at has
  exact has

end Taking

/-- Whether a rule is satisfied on the record and the incoming data at hand. -/
def Guard.allowsOn (guard : Guard) (caller : Caller) (subject : Subject) (rule : Rule) : Bool :=
  guard.permits caller subject.record subject.payload rule

/-- The record and the incoming data of an operation without some properties of the one that
property rules are about. -/
def Subject.less (subject : Subject) (action : Action) (gone : String → Bool) : Subject :=
  match subject.target action with
  | none => subject
  | some target => subject.withTarget action (target.without gone)

section Targets

variable {subject : Subject} {action : Action} {target : Record}

theorem Subject.target_withTarget (subject : Subject) (action : Action) (target : Record) :
    (subject.withTarget action target).target action = some target := by
  cases action <;> rfl

theorem Subject.withTarget_withTarget (subject : Subject) (action : Action)
    (target other : Record) :
    (subject.withTarget action target).withTarget action other = subject.withTarget action other := by
  cases action <;> rfl

theorem Subject.withTarget_self (found : subject.target action = some target) :
    subject.withTarget action target = subject := by
  obtain ⟨record, payload⟩ := subject
  cases action <;> cases found <;> rfl

/-- Two subjects with different targets are different, so what is said of subjects can be said of
targets. -/
theorem Subject.withTarget_inj {other : Record} :
    subject.withTarget action target = subject.withTarget action other ↔ target = other := by
  refine ⟨fun same => ?_, congrArg _⟩
  have targets := congrArg (Subject.target · action) same
  simpa only [Subject.target_withTarget, Option.some.injEq] using targets

theorem Subject.less_of_target (found : subject.target action = some target)
    (gone : String → Bool) :
    subject.less action gone = subject.withTarget action (target.without gone) := by
  rw [Subject.less, found]

theorem Guard.applyPropertyRules_of_none (guard : Guard) (caller : Caller)
    (missing : subject.target action = none) (rules : List PropertyRule) :
    guard.applyPropertyRules caller action rules subject = subject := by
  induction rules with
  | nil => rfl
  | cons rule rest ih =>
    have first : guard.applyPropertyRule caller action subject rule = subject := by
      rw [Guard.applyPropertyRule, missing]
    rw [Guard.applyPropertyRules, List.foldl_cons, first]
    exact ih

/-- Where there is something that the rules are about, they take away from it one after the other;
all else in the subject stays. -/
theorem Guard.applyPropertyRules_of_target (guard : Guard) (caller : Caller)
    (found : subject.target action = some target) (rules : List PropertyRule) :
    guard.applyPropertyRules caller action rules subject =
      subject.withTarget action (rules.foldl
        (takeAway fun left => guard.allowsOn caller (subject.withTarget action left)) target) := by
  induction rules generalizing subject target with
  | nil => exact (Subject.withTarget_self found).symm
  | cons rule rest ih =>
    have first : guard.applyPropertyRule caller action subject rule = subject.withTarget action
        (takeAway (fun left => guard.allowsOn caller (subject.withTarget action left)) target
          rule) := by
      simp only [Guard.applyPropertyRule, found, takeAway, Guard.allowsOn,
        Subject.withTarget_self found]
      split
      · rfl
      · exact (Subject.withTarget_self found).symm
    rw [Guard.applyPropertyRules, List.foldl_cons, first]
    refine (ih (Subject.target_withTarget ..)).trans ?_
    simp only [Subject.withTarget_withTarget, List.foldl_cons]

end Targets

/-- Property rules leave the same of the record and the incoming data in every order. -/
def Guard.AnyOrder (guard : Guard) (caller : Caller) (action : Action) (rules : List PropertyRule)
    (subject : Subject) : Prop :=
  ∀ order : List PropertyRule, order.Perm rules →
    guard.applyPropertyRules caller action order subject =
      guard.applyPropertyRules caller action rules subject

/-- No verdict of a rule on a property that is there changes when other properties are taken away
that have a rule which is not satisfied on the record and the incoming data as given. -/
def Guard.Settled (guard : Guard) (caller : Caller) (action : Action) (rules : List PropertyRule)
    (subject : Subject) : Prop :=
  ∀ rule ∈ rules, (∃ target, subject.target action = some target ∧ target.has rule.property) →
    ∀ gone : String → Bool,
      (∀ property, gone property = true →
        refusedBy (guard.allowsOn caller subject) rules property = true) →
      gone rule.property = false →
      guard.allowsOn caller (subject.less action gone) rule.rule =
        guard.allowsOn caller subject rule.rule

theorem Guard.anyOrder_iff_of_target {guard : Guard} {caller : Caller} {action : Action}
    {rules : List PropertyRule} {subject : Subject} {target : Record}
    (found : subject.target action = some target) :
    guard.AnyOrder caller action rules subject ↔
      OrderIrrelevant (fun left => guard.allowsOn caller (subject.withTarget action left)) target
        rules := by
  simp only [Guard.AnyOrder, guard.applyPropertyRules_of_target caller found,
    Subject.withTarget_inj, OrderIrrelevant]

theorem Guard.settled_iff_of_target {guard : Guard} {caller : Caller} {action : Action}
    {rules : List PropertyRule} {subject : Subject} {target : Record}
    (found : subject.target action = some target) :
    guard.Settled caller action rules subject ↔
      VerdictsSettled (fun left => guard.allowsOn caller (subject.withTarget action left)) target
        rules := by
  simp only [Guard.Settled, found, Option.some.injEq, exists_eq_left', VerdictsSettled,
    Subject.less_of_target found, Subject.withTarget_self found]

section Ignored

variable {guard : Guard} {caller : Caller} {rules : List PropertyRule} {subject : Subject}

theorem Guard.anyOrder_of_none {action : Action} (missing : subject.target action = none) :
    guard.AnyOrder caller action rules subject := by
  intro order _
  rw [guard.applyPropertyRules_of_none caller missing, guard.applyPropertyRules_of_none caller missing]

/-- A rule that ignores some properties does not notice that they are gone, however many and in
whatever order they went. -/
theorem Guard.permits_foldl_remove {rule : Rule} (names : List String)
    (ignores : ∀ name ∈ names, rule.Ignores name) (record : Record) (payload : Option Record) :
    guard.permits caller (some (names.foldl Table.remove record)) payload rule =
      guard.permits caller (some record) payload rule := by
  induction names generalizing record with
  | nil => rfl
  | cons name names ih =>
    have first := (ignores name List.mem_cons_self).check_remove guard.source guard.source caller
      (some record) payload
    rw [Option.map_some] at first
    rw [List.foldl_cons, ih fun later member => ignores later (List.mem_cons_of_mem name member),
      Guard.permits, first, Guard.permits]

theorem Record.foldl_remove_eq_without (record : Record) (names : List String) :
    names.foldl Table.remove record = record.without names.contains := by
  induction names generalizing record with
  | nil => exact record.without_nothing.symm
  | cons name names ih =>
    rw [List.foldl_cons, ih, Record.remove_eq_without, Record.without_without]
    refine Record.without_congr fun property _ => ?_
    rw [List.contains_cons, Bool.beq_comm]

/-- The order of the rules for a read does not matter where none of them looks at a property that
another one is for. -/
theorem Guard.anyOrder_read_of_ignores
    (ignores : ∀ rule ∈ rules, ∀ other ∈ rules, other.property ≠ rule.property →
      rule.rule.Ignores other.property) :
    guard.AnyOrder caller .read rules subject := by
  cases found : subject.target .read with
  | none => exact Guard.anyOrder_of_none found
  | some record =>
    refine (Guard.anyOrder_iff_of_target found).mpr (VerdictsSettled.orderIrrelevant ?_)
    intro rule member present gone refused kept
    have taken : record.without gone =
        ((rules.map (·.property)).filter gone).foldl Table.remove record := by
      rw [Record.foldl_remove_eq_without]
      refine Record.without_congr fun property _ => Bool.eq_iff_iff.mpr ?_
      rw [List.contains_iff_mem, List.mem_filter, List.mem_map]
      refine ⟨fun isGone => ⟨?_, isGone⟩, And.right⟩
      obtain ⟨other, listed, same, _⟩ := refusedBy_eq_true_iff.mp (refused property isGone)
      exact ⟨other, listed, same⟩
    rw [taken]
    refine Guard.permits_foldl_remove _ (fun name listed => ?_) record subject.payload
    obtain ⟨there, isGone⟩ := List.mem_filter.mp listed
    obtain ⟨other, otherMember, rfl⟩ := List.mem_map.mp there
    refine ignores rule member other otherMember fun same => ?_
    rw [same, kept] at isGone
    cases isGone

end Ignored

/-- The order of property rules does not matter exactly where in every order those properties are
taken away that have a rule which is not satisfied on the record and the incoming data as given. It
does not matter where no verdict changes when such properties are taken away, and where no property
has two rules it matters everywhere else. Nor does it matter for a read with rules that do not look
at what other rules are for. -/
theorem Guard.applyPropertyRules_anyOrder (guard : Guard) (caller : Caller) (action : Action)
    (rules : List PropertyRule) (subject : Subject) :
    (guard.AnyOrder caller action rules subject ↔
        ∀ order : List PropertyRule, order.Perm rules →
          guard.applyPropertyRules caller action order subject =
            subject.less action (refusedBy (guard.allowsOn caller subject) rules)) ∧
      (guard.Settled caller action rules subject → guard.AnyOrder caller action rules subject) ∧
      ((rules.map (·.property)).Nodup → guard.AnyOrder caller action rules subject →
        guard.Settled caller action rules subject) ∧
      (action = .read →
        (∀ rule ∈ rules, ∀ other ∈ rules, other.property ≠ rule.property →
          rule.rule.Ignores other.property) →
        guard.AnyOrder caller action rules subject) := by
  -- Without a target the rules do nothing. With one, all four are facts about records.
  refine ⟨?_, ?_, ?_, ?_⟩
  · cases found : subject.target action with
    | none =>
      refine ⟨fun _ order _ => ?_, fun _ => Guard.anyOrder_of_none found⟩
      rw [guard.applyPropertyRules_of_none caller found, Subject.less, found]
    | some target =>
      simp only [Guard.anyOrder_iff_of_target found, orderIrrelevant_iff,
        guard.applyPropertyRules_of_target caller found, Subject.less_of_target found,
        Subject.withTarget_inj, Subject.withTarget_self found]
  · intro settled
    cases found : subject.target action with
    | none => exact Guard.anyOrder_of_none found
    | some target =>
      exact (Guard.anyOrder_iff_of_target found).mpr
        ((Guard.settled_iff_of_target found).mp settled).orderIrrelevant
  · intro distinct anyOrder
    cases found : subject.target action with
    | none =>
      rintro rule member ⟨target, given, _⟩
      cases found.symm.trans given
    | some target =>
      exact (Guard.settled_iff_of_target found).mpr
        (((Guard.anyOrder_iff_of_target found).mp anyOrder).verdictsSettled distinct)
  · rintro rfl ignores
    exact Guard.anyOrder_read_of_ignores ignores

/-- Nobody may see the owner of a note, and only the owner may see its secret. -/
def ownerRules : List PropertyRule :=
  [⟨"_ownerId", .expression "false" (.literal (.bool false))⟩, ⟨"secret", .roles [.owner]⟩]

def ownedNote : Record := [("_ownerId", .text "u1"), ("secret", .int 1)]

/-- The owner sees the secret of a note only if the rule for it is asked while the note still says
whose it is. -/
theorem Guard.applyPropertyRules_reversed :
    ¬(⟨{}, none⟩ : Guard).AnyOrder { user := some [("_id", .text "u1")] } .read ownerRules
        { record := some ownedNote } ∧
      (⟨{}, none⟩ : Guard).applyPropertyRules { user := some [("_id", .text "u1")] } .read ownerRules
        { record := some ownedNote } = { record := some [] } ∧
      (⟨{}, none⟩ : Guard).applyPropertyRules { user := some [("_id", .text "u1")] } .read
        ownerRules.reverse { record := some ownedNote } = { record := some [("secret", .int 1)] } := by
  refine ⟨fun anyOrder => ?_, rfl, rfl⟩
  have same := congrArg Subject.record (anyOrder ownerRules.reverse (List.reverse_perm ownerRules))
  cases (show some [("secret", Value.int 1)] = some [] from same)

end GuardedRecords
