import GuardedRecords.Proofs.Outcomes
import GuardedRecords.Query.Sorting
import GuardedRecords.Rule.Evaluation

namespace GuardedRecords

/-- The use of an operation on something that it does not work on. -/
inductive Misuse
  | unordered (a b : Value)
  | noContainer (value : Value)
  | noText (value : Value)
  | noName (value : Value)
  | noObject (value : Value)
  | noPair (values : List Value)
  | noFunction (name : String)

/-- Why a strict evaluation comes to no value: the rule is at fault, or an operation was misused. -/
inductive Mishap
  | fault (cause : EvalFault)
  | misuse (cause : Misuse)

def Value.isObject : Value → Bool
  | .object _ => true
  | _ => false

/-- Truth values and numbers, which have an order among themselves. -/
def Value.isOrdinal : Value → Bool
  | .bool _ | .int _ | .double _ => true
  | _ => false

section Operations

def Value.textStrict : Value → Except Misuse String
  | .text s => .ok s
  | value => .error (.noText value)

def Value.memberStrict : Value → String → Except Misuse Value
  | .object members, name => .ok (Record.field members name)
  | value, _ => .error (.noObject value)

mutual

/-- The order of two values of kinds that have an order; a not-a-number has no place in it. -/
def Value.orderStrict : Value → Value → Except Misuse (Option Ordering)
  | .text s, .text t => .ok (some (compare s t))
  | .array xs, .array ys => itemsOrderStrict xs ys
  | a, b =>
    if a.isOrdinal && b.isOrdinal then
      .ok <| match a.extent?, b.extent? with
        | some x, some y => some (x.compare y)
        | _, _ => none
    else .error (.unordered a b)
termination_by structural a => a

def itemsOrderStrict : List Value → List Value → Except Misuse (Option Ordering)
  | [], [] => .ok (some .eq)
  | [], _ :: _ => .ok (some .lt)
  | _ :: _, [] => .ok (some .gt)
  | x :: xs, y :: ys => if x.agrees y then itemsOrderStrict xs ys else x.orderStrict y
termination_by structural xs => xs

end

/-- Membership in what has members: only texts are parts of texts, and a container cannot be a name
in an object. -/
def Value.holdsStrict : Value → Value → Except Misuse Bool
  | .text s, item => item.textStrict.map fun part => occursIn part.toList s.toList
  | .array items, item => .ok (items.any item.agrees)
  | .object members, .text name => .ok (Table.has members name)
  | .object _, .array items => .error (.noName (.array items))
  | .object _, .object members => .error (.noName (.object members))
  | .object _, _ => .ok false
  | container, _ => .error (.noContainer container)

/-- A comparison that fails on values it does not work on. -/
def Comparison.testStrict : Comparison → Value → Value → Except Misuse Bool
  | .eq, a, b => .ok (a.equals b)
  | .ne, a, b => .ok (!a.equals b)
  | .lt, a, b => (a.orderStrict b).map fun order => order == some .lt
  | .gt, a, b => (a.orderStrict b).map fun order => order == some .gt
  | .le, a, b => (a.orderStrict b).map fun order => order == some .lt || order == some .eq
  | .ge, a, b => (a.orderStrict b).map fun order => order == some .gt || order == some .eq
  | .mem, a, b => b.holdsStrict a

def pairStrict : List Value → Except Misuse (Value × Value)
  | [first, second] => .ok (first, second)
  | values => .error (.noPair values)

def builtinStrict (name : String) : Except Misuse Builtin :=
  match Builtin.ofName? name with
  | some builtin => .ok builtin
  | none => .error (.noFunction name)

end Operations

section Guards

/-- A test that counts as failed where it has no answer. -/
def orFalse (test : Except Misuse Bool) : Except Misuse Bool := tryCatch test fun _ => .ok false

/-- Membership as rules test it. -/
def holdsRun (container item : Value) : Except Misuse Bool :=
  if container.isNull then .ok false else orFalse (container.holdsStrict item)

/-- Comparisons as rules make them. Equality works on all values. -/
def Comparison.run (c : Comparison) (a b : Value) : Except Misuse Bool :=
  match c with
  | .eq | .ne => c.testStrict a b
  | .mem => holdsRun b a
  | _ => orFalse (c.testStrict a b)

/-- Follows a path as long as it leads through objects. -/
def followRun (context : Record) (path : String) : Except Misuse Value :=
  (pieces '.' path.toList).foldlM
    (fun value piece =>
      if value.isObject then value.memberStrict (String.ofList piece) else .ok .null)
    (.object context)

def ownsRun (user target : Value) : Except Misuse Bool :=
  if user.isObject && target.isObject then do
    let owner ← target.memberStrict "_ownerId"
    if owner.isNull then .ok false
    else do
      let id ← user.memberStrict "_id"
      .ok (id.equals owner)
  else .ok false

/-- A test of two texts, which counts as failed for other values. -/
def textsRun (test : List Char → List Char → Bool) (value part : Value) : Except Misuse Bool :=
  if value.isText && part.isText then do
    let s ← value.textStrict
    let t ← part.textStrict
    .ok (test s.toList t.toList)
  else .ok false

def fetchRun (source : RecordSource) (collection id : Value) : Except Misuse Value :=
  if collection.isText && id.isText then do
    let name ← collection.textStrict
    let key ← id.textStrict
    .ok (((source name key).map Value.object).getD .null)
  else .ok .null

def Builtin.run (source : Option RecordSource) (builtin : Builtin) (a b : Value) :
    Except Mishap Value :=
  match builtin with
  | .get =>
    match source with
    | some fetch => (fetchRun fetch a b).mapError .misuse
    | none => .error (.fault .noSource)
  | .isOwner => ((ownsRun a b).map .bool).mapError .misuse
  | .contains => ((holdsRun a b).map .bool).mapError .misuse
  | .startsWith => ((textsRun (fun s part => part.isPrefixOf s) a b).map .bool).mapError .misuse
  | .endsWith => ((textsRun (fun s part => part.isSuffixOf s) a b).map .bool).mapError .misuse

end Guards

mutual

/-- The value of a rule by operations that fail on what they do not work on. -/
def Expr.run (context : Record) (source : Option RecordSource) : Expr → Except Mishap Value
  | .literal value => .ok value
  | .path name => (followRun context name).mapError .misuse
  | .list items => (runAll context source items).map .array
  | .unary .not operand => do
    let value ← operand.run context source
    .ok (.bool !value.truthy)
  | .unary (.unknown sign) operand =>
    .error (.fault (.notEvaluable (.unary (.unknown sign) operand)))
  | .binary left .and right => do
    let first ← left.run context source
    if first.truthy then
      let second ← right.run context source
      .ok (.bool second.truthy)
    else .ok (.bool false)
  | .binary left .or right => do
    let first ← left.run context source
    if first.truthy then .ok (.bool true)
    else
      let second ← right.run context source
      .ok (.bool second.truthy)
  | .binary left (.comparison c) right => do
    let first ← left.run context source
    let second ← right.run context source
    ((c.run first second).map .bool).mapError .misuse
  | .binary left (.unknown sign) right => do
    let _ ← left.run context source
    let _ ← right.run context source
    .error (.fault (.unknownSign sign))
  | .call name arguments =>
    if (Builtin.ofName? name).isNone then .error (.fault (.unknownFunction name))
    else if arguments.length ≠ 2 then .error (.fault (.argumentCount name))
    else do
      let values ← runAll context source arguments
      let (first, second) ← (pairStrict values).mapError .misuse
      let builtin ← (builtinStrict name).mapError .misuse
      builtin.run source first second
termination_by structural e => e

def runAll (context : Record) (source : Option RecordSource) :
    List Expr → Except Mishap (List Value)
  | [] => .ok []
  | e :: rest => do
    let value ← e.run context source
    let values ← runAll context source rest
    .ok (value :: values)
termination_by structural es => es

end

section Agreement

mutual

/-- Values without an order are those that the strict order fails on, and those that it has no place
for. -/
theorem Value.order?_eq_strict (a b : Value) :
    a.order? b = (a.orderStrict b).toOption.join := by
  cases a with
  | array xs =>
    cases b with
    | array ys => exact itemsOrder?_eq_strict xs ys
    | _ => rfl
  | double x =>
    cases b <;> first | rfl | (simp only [Value.order?, Value.extent?]; cases x.extent? <;> rfl)
  | _ => cases b <;> rfl
termination_by structural a

/-- The order of two lists is the strict one, with nothing in the place of a failure. The induction
goes through the first items that do not agree. -/
theorem itemsOrder?_eq_strict (xs ys : List Value) :
    itemsOrder? xs ys = (itemsOrderStrict xs ys).toOption.join := by
  match xs, ys with
  | [], [] => rfl
  | [], _ :: _ => rfl
  | _ :: _, [] => rfl
  | x :: xs, y :: ys =>
    rw [itemsOrder?, itemsOrderStrict]
    split
    · exact itemsOrder?_eq_strict xs ys
    · exact x.order?_eq_strict y
termination_by structural xs

end

theorem orFalse_map {α : Type} (answer : Except Misuse α) (test : α → Bool) :
    orFalse (answer.map test) = .ok ((answer.toOption.map test).getD false) := by
  cases answer <;> rfl

theorem holdsRun_eq (container item : Value) :
    holdsRun container item = .ok (container.holds item) := by
  unfold holdsRun
  cases container <;> first | rfl | (cases item <;> rfl)

theorem Comparison.run_eq (c : Comparison) (a b : Value) : c.run a b = .ok (c.test a b) := by
  cases c with
  | eq => rfl
  | ne => rfl
  | mem => exact holdsRun_eq b a
  | _ =>
    simp only [Comparison.run, Comparison.testStrict, Comparison.test, orFalse_map,
      Value.order?_eq_strict]
    rcases a.orderStrict b with cause | _ | order <;> rfl

theorem followRun_eq (context : Record) (path : String) :
    followRun context path = .ok (followPath context path) := by
  unfold followRun followPath
  generalize Value.object context = start
  induction pieces '.' path.toList generalizing start with
  | nil => rfl
  | cons piece rest ih =>
    rw [List.foldlM_cons, List.foldl_cons, ← ih]
    cases start <;> rfl

theorem ownsRun_eq (user target : Value) : ownsRun user target = .ok (user.owns target) := by
  cases user with
  | object members =>
    cases target with
    | object fields =>
      simp only [ownsRun, Value.memberStrict, Value.owns, Value.isObject, Bool.and_self, if_true,
        ok_bind]
      cases (Record.field fields "_ownerId").isNull <;> rfl
    | _ => rfl
  | _ => rfl

/-- Loading a record never fails in a rule for what it is asked with; what are no texts leads to
null. -/
theorem fetchRun_eq (source : RecordSource) (collection id : Value) :
    fetchRun source collection id = .ok (fetchRecord source collection id) := by
  cases collection <;> cases id <;> rfl

/-- A function of rules fails only as the rule can, for want of a source, and never by misuse. -/
theorem Builtin.run_eq (source : Option RecordSource) (builtin : Builtin) (a b : Value) :
    builtin.run source a b = (builtin.apply source a b).mapError .fault := by
  cases builtin with
  | get =>
    cases source with
    | none => rfl
    | some fetch => simp only [Builtin.run, fetchRun_eq, Builtin.apply, ok_mapError]
  | isOwner => simp only [Builtin.run, ownsRun_eq]; rfl
  | contains => simp only [Builtin.run, holdsRun_eq]; rfl
  | startsWith => cases a <;> cases b <;> rfl
  | endsWith => cases a <;> cases b <;> rfl

/-- There are as many values as expressions, which is what a call is checked by before it looks at
its arguments. -/
theorem evaluateAll_length {context : Record} {source : Option RecordSource} {es : List Expr}
    {values : List Value} (done : evaluateAll context source es = .ok values) :
    values.length = es.length := by
  induction es generalizing values with
  | nil =>
    cases done
    rfl
  | cons e rest ih =>
    obtain ⟨value, _, done⟩ := bind_eq_ok_iff.mp done
    obtain ⟨later, run, same⟩ := bind_eq_ok_iff.mp done
    cases same
    rw [List.length_cons, List.length_cons, ih run]

mutual

/-- No operation that a rule makes is misused: the strict evaluation comes to the value of the rule,
or to its fault. -/
theorem Expr.run_eq (context : Record) (source : Option RecordSource) (e : Expr) :
    e.run context source = (e.evaluate context source).mapError .fault := by
  match e with
  | .literal value => rfl
  | .path name => rw [Expr.run, Expr.evaluate, followRun_eq]; rfl
  | .list items =>
    rw [Expr.run, Expr.evaluate, runAll_eq context source items, map_mapError]
  | .unary .not operand =>
    rw [Expr.run, Expr.evaluate, operand.run_eq context source, bind_mapError]
    rfl
  | .unary (.unknown sign) operand => rfl
  | .binary left .and right =>
    rw [Expr.run, Expr.evaluate, left.run_eq context source, right.run_eq context source,
      bind_mapError]
    -- The right operand is looked at only where the left one does not decide.
    refine congrArg _ (funext fun first => ?_)
    split
    · rw [bind_mapError]
      rfl
    · rfl
  | .binary left .or right =>
    rw [Expr.run, Expr.evaluate, left.run_eq context source, right.run_eq context source,
      bind_mapError]
    refine congrArg _ (funext fun first => ?_)
    split
    · rfl
    · rw [bind_mapError]
      rfl
  | .binary left (.comparison c) right =>
    rw [Expr.run, Expr.evaluate, left.run_eq context source, right.run_eq context source]
    simp only [bind_mapError, Comparison.run_eq]
    rfl
  | .binary left (.unknown sign) right =>
    rw [Expr.run, Expr.evaluate, left.run_eq context source, right.run_eq context source]
    simp only [bind_mapError]
    rfl
  | .call name arguments =>
    rw [Expr.run, Expr.evaluate, runAll_eq context source arguments, builtinStrict]
    cases Builtin.ofName? name with
    | none => rfl
    | some builtin =>
      simp only [Option.isNone_some, Bool.false_eq_true, if_false]
      split
      · rfl
      · next two =>
        cases done : evaluateAll context source arguments with
        | error cause => rfl
        | ok values =>
          rw [Decidable.not_not] at two
          match values, (evaluateAll_length done).trans two with
          | [first, second], _ => simp only [ok_mapError, ok_bind, pairStrict, Builtin.run_eq]
termination_by structural e

theorem runAll_eq (context : Record) (source : Option RecordSource) (es : List Expr) :
    runAll context source es = (evaluateAll context source es).mapError .fault := by
  match es with
  | [] => rfl
  | e :: rest =>
    rw [runAll, evaluateAll, e.run_eq context source, runAll_eq context source rest]
    simp only [bind_mapError]
    rfl
termination_by structural es

end

end Agreement

end GuardedRecords
