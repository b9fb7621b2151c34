import GuardedRecords.Policy.Decision
import GuardedRecords.Proofs.TableEntries
import GuardedRecords.Store

namespace GuardedRecords

mutual

/-- The dotted paths that occur in a tree. -/
def Expr.paths : Expr → List String
  | .literal _ => []
  | .path name => [name]
  | .unary _ operand => operand.paths
  | .binary left _ right => left.paths ++ right.paths
  | .call _ arguments => pathsAll arguments
  | .list items => pathsAll items
termination_by structural e => e

def pathsAll : List Expr → List String
  | [] => []
  | e :: rest => e.paths ++ pathsAll rest
termination_by structural es => es

end

mutual

/-- The names of the functions that a tree calls. -/
def Expr.calls : Expr → List String
  | .literal _ => []
  | .path _ => []
  | .unary _ operand => operand.calls
  | .binary left _ right => left.calls ++ right.calls
  | .call function arguments => function :: callsAll arguments
  | .list items => callsAll items
termination_by structural e => e

def callsAll : List Expr → List String
  | [] => []
  | e :: rest => e.calls ++ callsAll rest
termination_by structural es => es

end

theorem Builtin.eq_get_of_ofName? {name : String} (found : Builtin.ofName? name = some .get) :
    name = "get" := by
  have member := Table.mem_of_lookup? found
  simpa using member

/-- Only `get` looks at the source of records. -/
theorem Builtin.apply_congr {builtin : Builtin} {source source' : Option RecordSource}
    (same : builtin = .get → source = source') (first second : Value) :
    builtin.apply source first second = builtin.apply source' first second := by
  cases builtin with
  | get => rw [same rfl]
  | isOwner => rfl
  | contains => rfl
  | startsWith => cases first <;> cases second <;> rfl
  | endsWith => cases first <;> cases second <;> rfl

section Congruence

variable {context context' : Record} {source source' : Option RecordSource}

mutual

/-- The value of a tree depends on its context through the paths that occur in it alone, and on the
source of records only if it calls `get`. -/
theorem Expr.evaluate_congr (e : Expr)
    (agree : ∀ path ∈ e.paths, followPath context path = followPath context' path)
    (same : "get" ∈ e.calls → source = source') :
    e.evaluate context source = e.evaluate context' source' := by
  match e with
  | .literal value => rfl
  | .path name =>
    simp only [Expr.evaluate, agree name (List.mem_singleton_self name)]
  | .unary .not operand =>
    simp only [Expr.evaluate, operand.evaluate_congr agree same]
  | .unary (.unknown sign) operand => rfl
  | .binary left op right =>
    have first := left.evaluate_congr
      (fun path member => agree path (List.mem_append_left _ member))
      (fun member => same (List.mem_append_left _ member))
    have second := right.evaluate_congr
      (fun path member => agree path (List.mem_append_right _ member))
      (fun member => same (List.mem_append_right _ member))
    cases op <;> simp only [Expr.evaluate, first, second]
  | .call name arguments =>
    have values := evaluateAll_congr arguments agree
      (fun member => same (List.mem_cons_of_mem name member))
    simp only [Expr.evaluate, values]
    split
    · rfl
    · next builtin found =>
      have reads : builtin = .get → source = source' := by
        rintro rfl
        exact same (Builtin.eq_get_of_ofName? found ▸ List.mem_cons_self)
      simp only [Builtin.apply_congr reads]
  | .list items =>
    simp only [Expr.evaluate, evaluateAll_congr items agree same]

/-- Several expressions have the same values, or the same first error, in two contexts that agree on
their paths, and with two sources if they load nothing. -/
theorem evaluateAll_congr (es : List Expr)
    (agree : ∀ path ∈ pathsAll es, followPath context path = followPath context' path)
    (same : "get" ∈ callsAll es → source = source') :
    evaluateAll context source es = evaluateAll context' source' es := by
  match es with
  | [] => rfl
  | e :: rest =>
    have first := e.evaluate_congr
      (fun path member => agree path (List.mem_append_left _ member))
      (fun member => same (List.mem_append_left _ member))
    have others := evaluateAll_congr rest
      (fun path member => agree path (List.mem_append_right _ member))
      (fun member => same (List.mem_append_right _ member))
    simp only [evaluateAll, first, others]

end

/-- What a rule says, or how it fails, is settled by what the paths that occur in it lead to and by the
records that can be looked up. Nothing else in the context counts, nor how the records are found. -/
theorem Expr.evaluate_of_named_paths (e : Expr)
    (agree : ∀ path ∈ e.paths, followPath context path = followPath context' path)
    (alike : ∀ collection id,
      source.map (fun fetch => fetch collection id) = source'.map (fun fetch => fetch collection id)) :
    e.evaluate context source = e.evaluate context' source' := by
  have same : source = source' := by
    cases source with
    | none => cases source' with
      | none => rfl
      | some fetch' => cases alike "" ""
    | some fetch => cases source' with
      | none => cases alike "" ""
      | some fetch' =>
        congr 1
        funext collection id
        exact Option.some.inj (alike collection id)
  exact e.evaluate_congr agree fun _ => same

end Congruence

/-- That one owns a record whose team is one that has a lead. -/
def ledByOwner : Expr :=
  .binary (.binary (.path "user._id") (.comparison .eq) (.path "data._ownerId")) .and
    (.call "contains" [.call "get" [.literal (.text "teams"), .path "data.team"],
      .literal (.text "lead")])

def ownerWith (hash : String) : Record :=
  [("user", .object [("_id", .text "u1"), ("hashedPassword", .text hash)]),
    ("data", .object [("_ownerId", .text "u1"), ("team", .text "t1")])]

/-- A stored hash that the rule does not name has no influence, and neither has the way in which the team
is found. -/
theorem Expr.evaluate_of_named_paths_led :
    ownerWith "a1" ≠ ownerWith "b2" ∧
      ledByOwner.evaluate (ownerWith "a1") (some fun collection id =>
          if collection = "teams" ∧ id = "t1" then some [("lead", .text "u1")] else none) =
        ledByOwner.evaluate (ownerWith "b2") (some fun collection id =>
          if id = "t1" ∧ collection = "teams" then some [("lead", .text "u1")] else none) ∧
      ledByOwner.evaluate (ownerWith "a1") (some fun collection id =>
          if collection = "teams" ∧ id = "t1" then some [("lead", .text "u1")] else none) =
        .ok (.bool true) := by
  refine ⟨by simp [ownerWith], ?_, rfl⟩
  refine Expr.evaluate_of_named_paths ledByOwner (fun path named => ?_) fun collection id => ?_
  · have paths : path ∈ ["user._id", "data._ownerId", "data.team"] := named
    simp only [List.mem_cons, List.not_mem_nil, or_false] at paths
    rcases paths with rfl | rfl | rfl <;> rfl
  · simp only [Option.map_some, and_comm]

/-- The names between the dots of a path. -/
def pathNames (path : String) : List String := (pieces '.' path.toList).map String.ofList

def Value.member : Value → String → Value
  | .object members, name => Record.field members name
  | _, _ => .null

/-- A dotted path is followed name by name, and leads to null where there is nothing under a
name. -/
theorem followPath_eq_foldl (context : Record) (path : String) :
    followPath context path = (pathNames path).foldl Value.member (.object context) := by
  rw [followPath, pathNames, List.foldl_map]
  congr 1
  funext value piece
  cases value <;> rfl

theorem pathNames_ne_nil (path : String) : pathNames path ≠ [] := by
  have some_piece : ∀ cs : List Char, pieces '.' cs ≠ [] := by
    intro cs
    cases cs with
    | nil => exact List.cons_ne_nil _ _
    | cons c rest =>
      rw [pieces]
      split
      · exact List.cons_ne_nil _ _
      · split <;> exact List.cons_ne_nil _ _
  exact fun empty => some_piece _ (List.map_eq_nil_iff.mp empty)

/-- A path into the record at hand that leads to another property than the given one, or a path
that does not lead into that record at all. -/
def PathAvoids (property path : String) : Prop :=
  ∀ root rest, pathNames path = root :: rest → root = "record" ∨ root = "data" →
    ∃ member more, rest = member :: more ∧ member ≠ property

/-- A rule that does not look at a property of the record at hand, nor at stored records. -/
def Rule.Ignores (property : String) : Rule → Prop
  | .roles any => .owner ∈ any → property ≠ ownerField
  | .expression _ e => "get" ∉ e.calls ∧ ∀ path ∈ e.paths, PathAvoids property path

theorem Record.field_remove_of_ne {name property : String} (different : name ≠ property)
    (record : Record) : Record.field (record.remove property) name = record.field name := by
  rw [Record.field, Table.lookup?_remove_of_ne different, Record.field]

theorem recordValue_member_remove {name property : String} (different : name ≠ property)
    (record : Option Record) :
    (recordValue (record.map (·.remove property))).member name = (recordValue record).member name := by
  cases record with
  | none => rfl
  | some record => exact Record.field_remove_of_ne different record

theorem Record.field_ruleContext_record {root : String} (record : root = "record" ∨ root = "data")
    (caller : Caller) (candidate payload : Option Record) :
    Record.field (ruleContext caller candidate payload) root = recordValue candidate := by
  rcases record with rfl | rfl <;> rfl

theorem Record.field_ruleContext_of_ne {root : String} (other : ¬(root = "record" ∨ root = "data"))
    (caller : Caller) (first second payload : Option Record) :
    Record.field (ruleContext caller first payload) root =
      Record.field (ruleContext caller second payload) root := by
  rw [not_or] at other
  simp only [Record.field, ruleContext, Table.lookup?, List.lookup_cons,
    beq_false_of_ne other.1, beq_false_of_ne other.2]

/-- A path that avoids a property leads to the same value when the property is gone. This is what a
rule that does not look at the property needs. -/
theorem followPath_ruleContext_remove {property path : String} (avoids : PathAvoids property path)
    (caller : Caller) (record payload : Option Record) :
    followPath (ruleContext caller (record.map (·.remove property)) payload) path =
      followPath (ruleContext caller record payload) path := by
  obtain ⟨root, rest, names⟩ := List.exists_cons_of_ne_nil (pathNames_ne_nil path)
  rw [followPath_eq_foldl, followPath_eq_foldl, names, List.foldl_cons, List.foldl_cons,
    Value.member, Value.member]
  by_cases inside : root = "record" ∨ root = "data"
  · obtain ⟨member, more, rfl, different⟩ := avoids root rest names inside
    rw [Record.field_ruleContext_record inside, Record.field_ruleContext_record inside,
      List.foldl_cons, List.foldl_cons, recordValue_member_remove different]
  · rw [Record.field_ruleContext_of_ne inside]

/-- A rule that ignores a property gives the same answer for a record without it, and it does not
matter either what could be loaded. -/
theorem Rule.Ignores.check_remove {property : String} {rule : Rule} (ignores : rule.Ignores property)
    (source source' : Option RecordSource) (caller : Caller) (record payload : Option Record) :
    rule.check source caller (record.map (·.remove property)) payload =
      rule.check source' caller record payload := by
  cases rule with
  | roles any =>
    have owner : any.contains .owner = true →
        caller.isOwner (record.map (·.remove property)) = caller.isOwner record := by
      intro named
      have different := ignores (by simpa using named)
      cases record with
      | none => rfl
      | some record =>
        simp only [Option.map_some, Caller.isOwner]
        rw [← ownerField, Record.field_remove_of_ne (Ne.symm different)]
    simp only [Rule.check, checkRoles]
    cases named : any.contains Role.owner with
    | false => simp only [Bool.false_and]
    | true => rw [owner named]
  | expression text e =>
    obtain ⟨closed, avoids⟩ := ignores
    have value : e.evaluate (ruleContext caller (record.map (·.remove property)) payload) source =
        e.evaluate (ruleContext caller record payload) source' :=
      e.evaluate_congr
        (fun path member => followPath_ruleContext_remove (avoids path member) caller record payload)
        (fun calls => absurd calls closed)
    rw [Rule.check, Rule.check, checkExpr, checkExpr, value]

end GuardedRecords
