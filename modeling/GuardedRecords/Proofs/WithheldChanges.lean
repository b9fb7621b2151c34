import GuardedRecords.Proofs.Mediation
import GuardedRecords.Proofs.RecordFields
import GuardedRecords.Proofs.Redaction

namespace GuardedRecords

/-- A payload that is to change a stored record, after one property rule. -/
def Guard.strip (guard : Guard) (caller : Caller) (record payload : Record) (rule : PropertyRule) :
    Record :=
  if payload.has rule.property && !guard.permits caller (some record) (some payload) rule.rule then
    payload.remove rule.property
  else payload

/-- When a record is changed, the property rules are applied to the payload, with the stored record
before them at every turn. -/
theorem Guard.applyPropertyRules_update (guard : Guard) (caller : Caller) (record : Record)
    (rules : List PropertyRule) (payload : Record) :
    guard.applyPropertyRules caller .update rules ⟨some record, some payload⟩ =
      ⟨some record, some (rules.foldl (guard.strip caller record) payload)⟩ := by
  induction rules generalizing payload with
  | nil => rfl
  | cons rule rest ih =>
    have step : guard.applyPropertyRule caller .update ⟨some record, some payload⟩ rule =
        ⟨some record, some (guard.strip caller record payload rule)⟩ := by
      simp only [Guard.applyPropertyRule, Subject.target, Guard.strip, Subject.withTarget]
      split <;> rfl
    rw [Guard.applyPropertyRules, List.foldl_cons, step, List.foldl_cons]
    exact ih _

theorem Guard.lookup?_strip_of_none {guard : Guard} {caller : Caller} {record payload : Record}
    {property : String} (absent : payload.lookup? property = none) (rule : PropertyRule) :
    (guard.strip caller record payload rule).lookup? property = none := by
  unfold Guard.strip
  split
  · by_cases same : property = rule.property
    · rw [same, Table.lookup?_remove_self]
    · rw [Table.lookup?_remove_of_ne same, absent]
  · exact absent

/-- Rules only take properties away. -/
theorem Guard.lookup?_foldl_strip_of_none {guard : Guard} {caller : Caller} {record : Record}
    {property : String} (rules : List PropertyRule) {payload : Record}
    (absent : payload.lookup? property = none) :
    Table.lookup? (rules.foldl (guard.strip caller record) payload) property = none := by
  induction rules generalizing payload with
  | nil => exact absent
  | cons rule rest ih => exact ih (Guard.lookup?_strip_of_none absent rule)

/-- A rule that is not satisfied takes its property out of the payload, if it is there at all. -/
theorem Guard.lookup?_strip_of_failed {guard : Guard} {caller : Caller} {record payload : Record}
    {rule : PropertyRule}
    (failed : guard.permits caller (some record) (some payload) rule.rule = false) :
    (guard.strip caller record payload rule).lookup? rule.property = none := by
  unfold Guard.strip
  split
  · exact Table.lookup?_remove_self ..
  · next kept =>
    rw [failed, Bool.not_false, Bool.and_true, Bool.not_eq_true, Table.has_eq_false_iff] at kept
    exact Table.lookup?_eq_none_iff.mpr kept

/-- Some rule for the property is not satisfied in its turn: by the record as it is stored and by
what the rules before it have left of the payload. -/
def Guard.WithholdsInTurn (guard : Guard) (caller : Caller) (record : Record)
    (rules : List PropertyRule) (payload : Record) (property : String) : Prop :=
  ∃ earlier rule later, rules = earlier ++ ⟨property, rule⟩ :: later ∧
    guard.permits caller (some record)
      (some (earlier.foldl (guard.strip caller record) payload)) rule = false

/-- A property with a rule that fails at its turn is not in what is left, as no later rule brings it
back. -/
theorem Guard.WithholdsInTurn.lookup?_foldl_strip {guard : Guard} {caller : Caller}
    {record payload : Record} {rules : List PropertyRule} {property : String}
    (withheld : guard.WithholdsInTurn caller record rules payload property) :
    Table.lookup? (rules.foldl (guard.strip caller record) payload) property = none := by
  obtain ⟨earlier, rule, later, rfl, failed⟩ := withheld
  rw [List.foldl_append, List.foldl_cons]
  exact Guard.lookup?_foldl_strip_of_none later (Guard.lookup?_strip_of_failed failed)

/-- The rules for the properties of one record that apply when it is changed. -/
def Database.updateRules (db : Database) (name id : String) : List PropertyRule :=
  (db.policy.resolve .update (some name) (some id)).propertyRules

/-- A check of a change that is passed leaves of the payload what the rules for its properties
have not taken away. -/
theorem Database.checkUpdate_of_existing {db : Database} {caller : Caller} {name id : String}
    {stored sent left : Record} {key : String}
    (existing : db.store.existing name id = .ok stored)
    (passed : db.checkUpdate caller name (some id) (.object sent) = .ok (key, left)) :
    key = id ∧ left = (db.updateRules name id).foldl (db.guard.strip caller (stored.tagged id)) sent := by
  obtain ⟨_, given, rest⟩ := bind_eq_ok_iff.mp passed
  obtain ⟨_, carried, rest⟩ := bind_eq_ok_iff.mp rest
  obtain ⟨record, found, rest⟩ := bind_eq_ok_iff.mp rest
  obtain ⟨⟨decision, allowed, subject⟩, enforced, same⟩ := bind_eq_ok_iff.mp rest
  cases given
  cases carried
  cases same
  rw [mapError_eq_ok_iff] at found
  obtain ⟨again, other, rfl⟩ := Store.get_eq_ok_iff.mp found
  cases existing.symm.trans other
  obtain ⟨authorized, applied⟩ := Guard.enforce_eq_ok_iff.mp enforced
  have resolved := db.guard.resolveFor_stored .update name id stored
  cases Guard.decision_of_authorize resolved authorized
  rw [Guard.applyPropertyRules_update] at applied
  rw [← applied]
  exact ⟨rfl, rfl⟩

/-- A write that passes its check and changes a stored record stores the changed record. -/
theorem Database.existing_of_write {db : Database} {caller : Caller} {name id : String}
    {stored sent answer : Record} (change : Record → Record → Record)
    (existing : db.store.existing name id = .ok stored)
    (run : (db.write (db.checkUpdate caller name (some id) (.object sent)) fun passed =>
      db.store.modify name passed.1 (change passed.2)).1 = .ok answer) :
    (db.write (db.checkUpdate caller name (some id) (.object sent)) fun passed =>
      db.store.modify name passed.1 (change passed.2)).2.store.existing name id =
        .ok (stored.changedAt
          (change ((db.updateRules name id).foldl (db.guard.strip caller (stored.tagged id)) sent))
          db.store.clock.next.1) := by
  cases checks : db.checkUpdate caller name (some id) (.object sent) with
  | error failure =>
    rw [checks] at run
    cases run
  | ok passed =>
    obtain ⟨key, left⟩ := passed
    obtain ⟨rfl, rfl⟩ := Database.checkUpdate_of_existing existing checks
    exact (Store.modify_of_existing existing _).2

/-- A property with a rule for updates that is not satisfied in its turn keeps its value when a
payload is laid over its record, and is gone when a payload takes the place of the record: the
value that is sent with either is never stored. -/
theorem Database.update_of_withheld_property {db : Database} {caller : Caller} {name id : String}
    {stored sent : Record} {property : String} (ordinary : property ∉ systemFields)
    (existing : db.store.existing name id = .ok stored)
    (withheld : db.guard.WithholdsInTurn caller (stored.tagged id) (db.updateRules name id) sent
      property) :
    (∀ answer, (db.merge caller name (some id) (.object sent)).1 = .ok answer →
      ∃ changed, (db.merge caller name (some id) (.object sent)).2.store.existing name id =
          .ok changed ∧ changed.lookup? property = stored.lookup? property) ∧
    ∀ answer, (db.replace caller name (some id) (.object sent)).1 = .ok answer →
      ∃ changed, (db.replace caller name (some id) (.object sent)).2.store.existing name id =
          .ok changed ∧ changed.lookup? property = none := by
  have other : property ≠ updatedField := fun same => ordinary (same ▸ by decide)
  have left := withheld.lookup?_foldl_strip
  constructor
  · intro answer run
    refine ⟨_, Database.existing_of_write mergeFields existing run, ?_⟩
    rw [Record.lookup?_changedAt_of_ne other, lookup?_mergeFields_of_absent (.inr left)]
  · intro answer run
    refine ⟨_, Database.existing_of_write replaceFields existing run, ?_⟩
    rw [Record.lookup?_changedAt_of_ne other, lookup?_replaceFields, if_neg ordinary, left]

/-- Anybody may change members. Nobody may change a seal, and a team goes with no new seal. -/
def sealedMembers : Database where
  store := .holding [("members", [("m1", [("team", .text "t1"), ("seal", .int 0)])])]
    (fun _ => "m2") 0
  identities := none
  policy := { collections := [("members", {
    actions := { update := some (.expression "true" (.literal (.bool true))) }
    wildcard := { properties :=
      [("seal", { update := some (.expression "false" (.literal (.bool false))) }),
        ("team", { update := some (.expression "payload.seal == null"
          (.binary (.path "payload.seal") (.comparison .eq) (.literal .null))) })] } })] }

def newSeal : Record := [("seal", .int 1), ("team", .text "t2")]

theorem Database.update_of_withheld_seal :
    "seal" ∉ systemFields ∧
      sealedMembers.store.existing "members" "m1" =
        .ok [("team", .text "t1"), ("seal", .int 0)] ∧
      sealedMembers.guard.WithholdsInTurn {}
        (Record.tagged [("team", .text "t1"), ("seal", .int 0)] "m1")
        (sealedMembers.updateRules "members" "m1") newSeal "seal" ∧
      (∃ changed, (sealedMembers.merge {} "members" (some "m1") (.object newSeal)).2.store.existing
          "members" "m1" = .ok changed ∧ changed.lookup? "seal" = some (.int 0)) ∧
      ∃ changed, (sealedMembers.replace {} "members" (some "m1") (.object newSeal)).2.store.existing
          "members" "m1" = .ok changed ∧ changed.lookup? "seal" = none := by
  have ordinary : "seal" ∉ systemFields := by decide
  have existing : sealedMembers.store.existing "members" "m1" =
      .ok [("team", .text "t1"), ("seal", .int 0)] := rfl
  have withheld : sealedMembers.guard.WithholdsInTurn {}
      (Record.tagged [("team", .text "t1"), ("seal", .int 0)] "m1")
      (sealedMembers.updateRules "members" "m1") newSeal "seal" := ⟨[], _, _, rfl, rfl⟩
  obtain ⟨merged, replaced⟩ := Database.update_of_withheld_property ordinary existing withheld
  exact ⟨ordinary, existing, withheld, merged _ rfl, replaced _ rfl⟩

/-- On the member and the payload as they are sent the rules for both properties fail. Still the
seal is lost where the payload takes the place of the member, and where it is laid over the member
the team is a new one: the rule for the team is asked when the new seal is gone. -/
theorem Database.update_of_refused_properties :
    (∀ property ∈ ["seal", "team"], property ∉ systemFields ∧
      ∃ rule, ⟨property, rule⟩ ∈ sealedMembers.updateRules "members" "m1" ∧
        sealedMembers.guard.permits {}
          (some (Record.tagged [("team", .text "t1"), ("seal", .int 0)] "m1")) (some newSeal) rule =
            false) ∧
      sealedMembers.store.existing "members" "m1" =
        .ok [("team", .text "t1"), ("seal", .int 0)] ∧
      (∃ answer changed,
        (sealedMembers.replace {} "members" (some "m1") (.object newSeal)).1 = .ok answer ∧
        (sealedMembers.replace {} "members" (some "m1") (.object newSeal)).2.store.existing
          "members" "m1" = .ok changed ∧ changed.lookup? "seal" = none) ∧
      ∃ answer changed,
        (sealedMembers.merge {} "members" (some "m1") (.object newSeal)).1 = .ok answer ∧
        (sealedMembers.merge {} "members" (some "m1") (.object newSeal)).2.store.existing
          "members" "m1" = .ok changed ∧ changed.lookup? "team" = some (.text "t2") := by
  refine ⟨fun property member => ?_, rfl, ⟨_, _, rfl, rfl, rfl⟩, _, _, rfl, rfl, rfl⟩
  rcases List.mem_cons.mp member with rfl | last
  · exact ⟨by decide, _, List.mem_cons_self, rfl⟩
  · cases List.mem_singleton.mp last
    exact ⟨by decide, _, List.mem_cons_of_mem _ List.mem_cons_self, rfl⟩

end GuardedRecords
