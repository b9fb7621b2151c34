import Mathlib
import GuardedRecords.Proofs.OperatorSpelling
import GuardedRecords.Proofs.RecordMarkers

namespace GuardedRecords

/-- A clause fails on no record in particular: its operator stands for no test, and the name of it
is the fault. -/
theorem Clause.matches_eq_error_iff {clause : Clause} {record : Record} {name : String} :
    clause.matches record = .error name ↔ clause.operator = .unknown name := by
  obtain ⟨property, operator, value⟩ := clause
  cases operator <;> simp [Clause.matches, FilterOperator.test?, FilterOperator.name]

/-- Evaluation in order reaches a clause whose operator stands for no test. It goes on from a
clause only with the answer that does not yet decide. -/
inductive Stuck (record : Record) (undecided : Bool) (name : String) : List Clause → Prop
  | here {clause : Clause} {rest : List Clause} : clause.operator = .unknown name →
      Stuck record undecided name (clause :: rest)
  | later {clause : Clause} {rest : List Clause} : clause.matches record = .ok undecided →
      Stuck record undecided name rest → Stuck record undecided name (clause :: rest)

section

variable {record : Record} {undecided : Bool} {name : String} {clause : Clause}
  {clauses rest : List Clause}

/-- Only a clause with an unknown operator can stop the evaluation, so a filter without one never
fails. -/
theorem Stuck.exists_unknown (stuck : Stuck record undecided name clauses) :
    ∃ clause ∈ clauses, clause.operator = .unknown name := by
  induction stuck with
  | here unknown => exact ⟨_, List.mem_cons_self, unknown⟩
  | later _ _ ih =>
    obtain ⟨clause, member, unknown⟩ := ih
    exact ⟨clause, List.mem_cons_of_mem _ member, unknown⟩

theorem stuck_cons_of_error {fault : String} (run : clause.matches record = .error fault) :
    Stuck record undecided name (clause :: rest) ↔ fault = name := by
  have unknown := Clause.matches_eq_error_iff.mp run
  constructor
  · rintro (same | ⟨met, _⟩)
    · exact FilterOperator.unknown.inj (unknown.symm.trans same)
    · cases run.symm.trans met
  · rintro rfl
    exact .here unknown

/-- A clause that has been evaluated lets the evaluation go on only with the answer that leaves the
filter undecided. -/
theorem stuck_cons_of_ok {met : Bool} (run : clause.matches record = .ok met) :
    Stuck record undecided name (clause :: rest) ↔
      met = undecided ∧ Stuck record undecided name rest := by
  constructor
  · rintro (unknown | ⟨same, stuck⟩)
    · cases run.symm.trans (Clause.matches_eq_error_iff.mpr unknown)
    · exact ⟨Except.ok.inj (run.symm.trans same), stuck⟩
  · rintro ⟨rfl, stuck⟩
    exact .later run stuck

/-- Where all clauses have to be met, a met one leaves the answer open, and one that is not met
settles it. A clause behind that is not reached, whatever its operator. -/
theorem meetsAll_eq_error_iff :
    meetsAll record clauses = .error name ↔ Stuck record true name clauses := by
  induction clauses with
  | nil => exact ⟨nofun, nofun⟩
  | cons clause rest ih =>
    rw [meetsAll]
    cases run : clause.matches record with
    | error fault => simp [stuck_cons_of_error run]
    | ok met => cases met <;> simp [stuck_cons_of_ok run, ih]

theorem meetsSome_eq_error_iff :
    meetsSome record clauses = .error name ↔ Stuck record false name clauses := by
  induction clauses with
  | nil => exact ⟨nofun, nofun⟩
  | cons clause rest ih =>
    rw [meetsSome]
    cases run : clause.matches record with
    | error fault => simp [stuck_cons_of_error run]
    | ok met => cases met <;> simp [stuck_cons_of_ok run, ih]

end

/-- The filter meets an operator that stands for no test before it has decided on the record. -/
def Filter.StuckOn (filter : Filter) (record : Record) (name : String) : Prop :=
  Stuck record (filter.junction == .and) name filter.clauses

/-- Evaluation fails just when it gets as far as a clause that stands for no test. Whether it does
depends on the record, since clauses behind the decisive one are not looked at. -/
theorem Filter.matches_eq_error_iff {filter : Filter} {record : Record} {name : String} :
    filter.matches record = .error name ↔ filter.StuckOn record name := by
  obtain ⟨clauses, junction⟩ := filter
  cases junction with
  | and => exact meetsAll_eq_error_iff
  | or => exact meetsSome_eq_error_iff

theorem Filter.matches_ok_iff {filter : Filter} {record : Record} :
    (∃ met, filter.matches record = .ok met) ↔ ¬∃ name, filter.StuckOn record name := by
  simp only [← Filter.matches_eq_error_iff]
  cases filter.matches record <;> simp

/-- Over several records the first one that stops the evaluation stops the whole query, and which
name is reported depends on it; that some name is reported does not. -/
theorem filterRecords_fails_iff {condition : Filter} {records : List Record} :
    (∃ name, filterRecords condition records = .error name) ↔
      ∃ record ∈ records, ∃ name, condition.StuckOn record name := by
  simp only [← Filter.matches_eq_error_iff]
  induction records with
  | nil => simp [filterRecords]
  | cons first rest ih =>
    rw [filterRecords]
    simp only [List.mem_cons, exists_eq_or_imp, ← ih]
    cases condition.matches first with
    | error fault => simp
    | ok keep => cases filterRecords condition rest <;> simp

/-- No later stage of a query reports an unknown operator: sorting and telling apart fail in ways of
their own. -/
theorem QuerySpec.pick_unknown_iff {spec : QuerySpec} {records : List Record} {condition : Filter}
    {name : String} (asked : spec.condition = some condition) :
    spec.pick records = .error (.unknownOperator name) ↔
      filterRecords condition records = .error name := by
  simp only [QuerySpec.pick, asked, bind_eq_error_iff, mapError_eq_error_iff]
  constructor
  · rintro (⟨cause, run, same⟩ | ⟨met, _, ⟨_, _, same⟩ | ⟨_, _, undistinct⟩⟩)
    · exact Failure.unknownOperator.inj same ▸ run
    · cases same
    · cases QuerySpec.unwritable_of_keepDistinct undistinct
  · intro run
    exact .inl ⟨name, run, rfl⟩

/-- No other part of a query fails in this way. -/
theorem QuerySpec.shape_unknown_iff {spec : QuerySpec} {related : Option RelatedSource}
    {records : List Record} {condition : Filter} {name : String}
    (asked : spec.condition = some condition) :
    spec.shape related records = .error (.unknownOperator name) ↔
      filterRecords condition records = .error name := by
  rw [QuerySpec.shape, bind_eq_error_iff, QuerySpec.pick_unknown_iff asked]
  constructor
  · rintro (run | ⟨_, _, same⟩)
    · exact run
    · cases same
  · exact .inl

/-- Where evaluating a filter gives an answer. -/
structure Filter.Evaluation (filter : Filter) : Prop where
  record : ∀ r, (∃ met, filter.matches r = .ok met) ↔ ¬∃ name, filter.StuckOn r name
  query : ∀ (spec : QuerySpec) related records, spec.condition = some filter →
    ((∃ name, spec.shape related records = .error (.unknownOperator name)) ↔
      ∃ r ∈ records, ∃ name, filter.StuckOn r name)

/-- For one record and for a whole query, the same condition decides whether there is an answer. No
other part of a query can fail as an unknown operator does. -/
theorem Filter.evaluation (filter : Filter) : filter.Evaluation where
  record := fun _ => Filter.matches_ok_iff
  query := fun _ _ _ asked => by
    simp only [QuerySpec.shape_unknown_iff asked]
    exact filterRecords_fails_iff

/-- The parser makes an unknown operator only out of an odd letter i, so ordinary texts give filters
that always have an answer. -/
theorem Filter.not_stuckOn_of_parse {text : String} {filter : Filter} {record : Record}
    {name : String} (run : Filter.parse text = .ok filter) (ordinary : ¬HasOddI text.toList) :
    ¬filter.StuckOn record name := by
  intro stuck
  obtain ⟨clause, member, unknown⟩ := Stuck.exists_unknown stuck
  exact ordinary (Filter.hasOddI_of_parse run member unknown)

/-- A text is refused, or it is read as a filter. The filter fails on exactly those records, and on
exactly those lists, for which it meets an operator that stands for no test before it has decided.
Only a text with a dotted capital i or a dotless small one has such an operator. -/
theorem Filter.parse_evaluates (text : String) :
    (∃ fault, Filter.parse text = .error fault) ∨
      ∃ filter, Filter.parse text = .ok filter ∧ filter.Evaluation ∧
        (¬HasOddI text.toList → ∀ record name, ¬filter.StuckOn record name) := by
  cases run : Filter.parse text with
  | error fault => exact .inl ⟨fault, rfl⟩
  | ok filter =>
    exact .inr ⟨filter, rfl, filter.evaluation,
      fun ordinary _ _ => Filter.not_stuckOn_of_parse run ordinary⟩

/-- The filter that `like` with a dotted capital i is read as. -/
def dottedLike : Filter := ⟨[⟨"a", .unknown "li\u0307ke", .text "x"⟩], .and⟩

/-- This filter is accepted, and no record can be tested with it. Its operator is spelled with a
capital i that has a dot, which is an i by case but not in lower case. -/
theorem Filter.parse_dottedLike :
    Filter.parse "a l\u0130ke \"x\"" = .ok dottedLike ∧
      (∀ record, dottedLike.matches record = .error "li\u0307ke") ∧
      ∀ (spec : QuerySpec) related record rest, spec.condition = some dottedLike →
        spec.shape related (record :: rest) = .error (.unknownOperator "li\u0307ke") := by
  have fails record : dottedLike.matches record = .error "li\u0307ke" :=
    Filter.matches_eq_error_iff.mpr (.here rfl)
  refine ⟨by cbv, fails, fun spec related record rest asked => ?_⟩
  rw [QuerySpec.shape_unknown_iff asked, filterRecords, fails, error_bind]

end GuardedRecords
