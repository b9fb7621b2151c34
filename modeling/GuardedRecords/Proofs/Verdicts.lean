import GuardedRecords.Proofs.Authorization

namespace GuardedRecords

/-- A rule that only known callers can satisfy asks an unknown one to log in, unless that one is an
admin. -/
def Rule.AsksLogin (rule : Rule) (caller : Caller) : Prop :=
  (∃ any, rule = .roles any ∧ .guest ∉ any) ∧ caller.user = none ∧ caller.isAdmin = false

/-- The id of the record at hand, if there is a record and its id is a text. -/
def candidateKey : Option Record → Option String
  | some record =>
    match record.field idField with
    | .text id => some id
    | _ => none
  | none => none

/-- There is no record at hand, or its id is a text. -/
def CandidateNamed (record : Option Record) : Prop :=
  ∀ candidate, record = some candidate → ∃ id, candidate.field idField = .text id

section Checks

variable {source : Option RecordSource} {rule : Rule} {caller : Caller}
  {record payload : Option Record}

theorem Rule.AsksLogin.check_eq (asks : rule.AsksLogin caller) (source : Option RecordSource)
    (record payload : Option Record) :
    rule.check source caller record payload = .error .unauthorized := by
  obtain ⟨⟨any, rfl, noGuest⟩, unknown, plain⟩ := asks
  have absent : any.contains Role.guest = false := by simpa using noGuest
  simp only [Rule.check, checkRoles, absent, unknown, plain, Option.isNone_none, if_true,
    Bool.false_eq_true, if_false]

/-- Only a caller who is asked to log in gets no verdict. -/
theorem Rule.exists_check_of_not_asksLogin (known : ¬rule.AsksLogin caller)
    (source : Option RecordSource) (record payload : Option Record) :
    ∃ allowed, rule.check source caller record payload = .ok allowed := by
  cases rule with
  | expression text e => exact ⟨_, rfl⟩
  | roles any =>
    rw [Rule.check, checkRoles]
    split
    · exact ⟨true, rfl⟩
    · next noGuest =>
      split
      · next unknown =>
        split
        · exact ⟨false, rfl⟩
        · next plain =>
          refine absurd ⟨⟨any, rfl, ?_⟩, ?_, ?_⟩ known
          · simpa using noGuest
          · exact Option.isNone_iff_eq_none.mp unknown
          · exact Bool.eq_false_iff.mpr plain
      · exact ⟨_, rfl⟩

/-- Whoever is asked to log in neither satisfies the rule nor is an admin. -/
theorem Rule.AsksLogin.not_passing (asks : rule.AsksLogin caller) :
    ¬(rule.Satisfied source caller record payload ∨ caller.isAdmin = true) := by
  rintro (satisfied | admin)
  · rw [← Rule.check_eq_true_iff, asks.check_eq] at satisfied
    cases satisfied
  · exact Bool.false_ne_true (asks.2.2.symm.trans admin)

/-- Of the three outcomes of a check exactly one is met: the rule is satisfied, the caller is asked
to log in, or neither. -/
theorem Rule.check_cases (source : Option RecordSource) (rule : Rule) (caller : Caller)
    (record payload : Option Record) :
    (rule.Satisfied source caller record payload ∧
        rule.check source caller record payload = .ok true) ∨
      (rule.AsksLogin caller ∧
        rule.check source caller record payload = .error .unauthorized) ∨
      (¬rule.Satisfied source caller record payload ∧ ¬rule.AsksLogin caller ∧
        rule.check source caller record payload = .ok false) := by
  by_cases asks : rule.AsksLogin caller
  · exact .inr (.inl ⟨asks, asks.check_eq source record payload⟩)
  · obtain ⟨allowed, verdict⟩ := Rule.exists_check_of_not_asksLogin asks source record payload
    rw [← Rule.check_eq_true_iff, verdict]
    cases allowed with
    | true => exact .inl ⟨rfl, rfl⟩
    | false => exact .inr (.inr ⟨nofun, asks, rfl⟩)

end Checks

/-- The rules are resolved by the id of the record at hand, if that is a text or there is no
record. -/
theorem CandidateNamed.resolveFor {record : Option Record} (named : CandidateNamed record)
    (rules : RuleSet) (action : Action) (collection : Option String) :
    rules.resolveFor action collection (candidateId record) =
      .ok (rules.resolve action collection (candidateKey record)) := by
  cases record with
  | none => exact rules.resolveFor_null action collection
  | some candidate =>
    obtain ⟨id, text⟩ := named candidate rfl
    rw [candidateId, candidateKey, text]
    exact rules.resolveFor_text action collection id

/-- What comes of an operation that is to be authorized, by the decision that the rules resolve to.
It passes where the rule is satisfied or the caller is an admin, and the answer tells whether the
rule is satisfied. Of all others an unknown caller is asked to log in where only known ones can
satisfy the rule, and everybody else is refused. -/
structure Guard.Judges (guard : Guard) (caller : Caller) (record payload : Option Record)
    (decision : Decision) (outcome : Except Failure (Decision × Bool)) : Prop where
  passes : ∀ verdict allowed, outcome = .ok (verdict, allowed) ↔
    (decision.rule.Satisfied guard.source caller record payload ∨ caller.isAdmin = true) ∧
      verdict = decision ∧
      (allowed = true ↔ decision.rule.Satisfied guard.source caller record payload)
  asksLogin : outcome = .error (.refused .unauthorized) ↔ decision.rule.AsksLogin caller
  refuses : outcome = .error (.refused .forbidden) ↔
    ¬(decision.rule.Satisfied guard.source caller record payload ∨ caller.isAdmin = true) ∧
      ¬decision.rule.AsksLogin caller
  noOther : ∀ failure, outcome = .error failure →
    failure = .refused .unauthorized ∨ failure = .refused .forbidden

section Judgements

variable {guard : Guard} {caller : Caller} {record payload : Option Record} {decision : Decision}

/-- What passes is judged rightly, if it passes for the rule or for an admin and the answer tells
which. -/
theorem Guard.judges_passed {allowed : Bool}
    (passing : decision.rule.Satisfied guard.source caller record payload ∨ caller.isAdmin = true)
    (tells : allowed = true ↔ decision.rule.Satisfied guard.source caller record payload) :
    guard.Judges caller record payload decision (.ok (decision, allowed)) where
  passes verdict other := by
    simp only [Except.ok.injEq, Prod.mk.injEq]
    constructor
    · rintro ⟨rfl, rfl⟩
      exact ⟨passing, rfl, tells⟩
    · rintro ⟨_, rfl, same⟩
      exact ⟨rfl, Bool.eq_iff_iff.mpr (tells.trans same.symm)⟩
  asksLogin := iff_of_false nofun fun asks => asks.not_passing passing
  refuses := iff_of_false nofun fun ⟨failing, _⟩ => failing passing
  noOther := nofun

/-- An unknown caller of a rule that only known ones can satisfy is judged by a request to log
in. -/
theorem Guard.judges_unauthorized (asks : decision.rule.AsksLogin caller) :
    guard.Judges caller record payload decision (.error (.refused .unauthorized)) where
  passes _ _ := iff_of_false nofun fun ⟨passing, _⟩ => asks.not_passing passing
  asksLogin := iff_of_true rfl asks
  refuses := iff_of_false nofun fun ⟨_, known⟩ => known asks
  noOther _ same := .inl (Except.error.inj same).symm

theorem Guard.judges_forbidden
    (failing : ¬(decision.rule.Satisfied guard.source caller record payload ∨
      caller.isAdmin = true)) (known : ¬decision.rule.AsksLogin caller) :
    guard.Judges caller record payload decision (.error (.refused .forbidden)) where
  passes _ _ := iff_of_false nofun fun ⟨passing, _⟩ => failing passing
  asksLogin := iff_of_false nofun known
  refuses := iff_of_true rfl ⟨failing, known⟩
  noOther _ same := .inr (Except.error.inj same).symm

end Judgements

/-- An operation is authorized by the rule that its action, its collection and the id of its record
resolve to. -/
theorem Guard.authorize_judges {record : Option Record} (named : CandidateNamed record)
    (guard : Guard) (caller : Caller) (action : Action) (collection : Option String)
    (payload : Option Record) :
    guard.Judges caller record payload
      (guard.rules.resolve action collection (candidateKey record))
      (guard.authorize caller action collection record payload) := by
  rw [Guard.authorize_of_resolved (named.resolveFor guard.rules action collection)]
  generalize guard.rules.resolve action collection (candidateKey record) = decision
  rcases Rule.check_cases guard.source decision.rule caller record payload with
    ⟨satisfied, verdict⟩ | ⟨asks, verdict⟩ | ⟨unsatisfied, known, verdict⟩
  · rw [verdict]
    exact Guard.judges_passed (.inl satisfied) (iff_of_true rfl satisfied)
  · rw [verdict]
    exact Guard.judges_unauthorized asks
  · rw [verdict, ok_mapError, ok_bind, Bool.false_or]
    split
    · next admin => exact Guard.judges_passed (.inr admin) (iff_of_false nofun unsatisfied)
    · next plain =>
      exact Guard.judges_forbidden (not_or.mpr ⟨unsatisfied, plain⟩) known

/-- Anybody who is known may change notes, but the first one only its owner. -/
def lockedNotes : Guard where
  rules := { collections := [("notes", {
    actions := { update := some (.roles [.user]) }
    records := [("n1", { actions := { update := some (.roles [.owner]) } })] })] }
  source := none

def lockedNote : Record := [("_id", .text "n1"), ("_ownerId", .text "u1")]

theorem Guard.authorize_judges_locked :
    let attempt (caller : Caller) :=
      lockedNotes.authorize caller .update (some "notes") (some lockedNote) (some [])
    CandidateNamed (some lockedNote) ∧
      (∃ verdict, attempt { user := some [("_id", .text "u1")] } = .ok (verdict, true)) ∧
      (∃ verdict, attempt { isAdmin := true } = .ok (verdict, false)) ∧
      attempt {} = .error (.refused .unauthorized) ∧
      attempt { user := some [("_id", .text "u2")] } = .error (.refused .forbidden) := by
  intro attempt
  have named : CandidateNamed (some lockedNote) := by
    rintro candidate ⟨⟩
    exact ⟨"n1", rfl⟩
  have judges (caller : Caller) : lockedNotes.Judges caller (some lockedNote) (some [])
      ⟨.roles [.owner], []⟩ (attempt caller) :=
    Guard.authorize_judges named lockedNotes caller .update (some "notes") (some [])
  have satisfied (caller : Caller) :
      (Rule.roles [.owner]).Satisfied none caller (some lockedNote) (some []) ↔
        checkRoles [.owner] caller (some lockedNote) = .ok true := Rule.check_eq_true_iff.symm
  refine ⟨named, ⟨_, ((judges _).passes _ _).mpr ⟨.inl ?_, rfl, ?_⟩⟩,
    ⟨_, ((judges _).passes _ _).mpr ⟨.inr rfl, rfl, ?_⟩⟩, (judges _).asksLogin.mpr ?_,
    (judges _).refuses.mpr ⟨?_, ?_⟩⟩
  · exact (satisfied _).mpr rfl
  · exact iff_of_true rfl ((satisfied _).mpr rfl)
  · exact iff_of_false Bool.false_ne_true fun owner => nomatch (satisfied _).mp owner
  · exact ⟨⟨[.owner], rfl, by decide⟩, rfl, rfl⟩
  · rintro (owner | admin)
    · exact nomatch (satisfied _).mp owner
    · cases admin
  · rintro ⟨_, unknown, _⟩
    cases unknown

end GuardedRecords
