import Mathlib.Data.List.Basic
import GuardedRecords.Proofs.RuleText
import GuardedRecords.Proofs.RuleVariables
import GuardedRecords.Proofs.StrictEvaluation

namespace GuardedRecords

mutual

/-- The calls in a tree: the name of the function and the number of arguments of each. -/
def Expr.callShapes : Expr → List (String × Nat)
  | .literal _ => []
  | .path _ => []
  | .unary _ operand => operand.callShapes
  | .binary left _ right => left.callShapes ++ right.callShapes
  | .call function arguments => (function, arguments.length) :: callShapesAll arguments
  | .list items => callShapesAll items
termination_by structural e => e

def callShapesAll : List Expr → List (String × Nat)
  | [] => []
  | e :: rest => e.callShapes ++ callShapesAll rest
termination_by structural es => es

end

theorem mem_callShapesAll {call : String × Nat} {es : List Expr} {e : Expr} (inside : e ∈ es)
    (member : call ∈ e.callShapes) : call ∈ callShapesAll es := by
  induction es with
  | nil => cases inside
  | cons head rest ih =>
    rw [callShapesAll, List.mem_append]
    rcases List.mem_cons.mp inside with rfl | later
    · exact .inl member
    · exact .inr (ih later)

/-- A tree in which every sign has a meaning. -/
inductive Expr.SignsKnown : Expr → Prop
  | literal (value : Value) : SignsKnown (.literal value)
  | path (name : String) : SignsKnown (.path name)
  | not {operand : Expr} : SignsKnown operand → SignsKnown (.unary .not operand)
  | binary {left right : Expr} {op : Connective} (known : ∀ sign, op ≠ .unknown sign) :
      SignsKnown left → SignsKnown right → SignsKnown (.binary left op right)
  | call {function : String} {arguments : List Expr} :
      (∀ e ∈ arguments, SignsKnown e) → SignsKnown (.call function arguments)
  | list {items : List Expr} : (∀ e ∈ items, SignsKnown e) → SignsKnown (.list items)

/-- Phrases that stand for such trees. -/
def Phrase.SignsKnown : Phrase → Prop
  | .expression e | .conjunct e | .negation e | .comparison e | .operand e => e.SignsKnown
  | .items es | .more _ es => ∀ e ∈ es, e.SignsKnown

/-- Operands joined from the left have known signs when the operands do and the connective is one of
the language. -/
theorem Expr.SignsKnown.groupLeft {op : Connective} {first : Expr} {others : List Expr}
    (knownSign : ∀ sign, op ≠ .unknown sign) (known : first.SignsKnown)
    (knownOthers : ∀ e ∈ others, e.SignsKnown) :
    (GuardedRecords.groupLeft op first others).SignsKnown := by
  induction others generalizing first with
  | nil => exact known
  | cons next rest ih =>
    rw [List.forall_mem_cons] at knownOthers
    exact ih (.binary knownSign known knownOthers.1) knownOthers.2

/-- No phrase has a sign without a meaning. -/
theorem Derives.signsKnown {phrase : Phrase} {ts : List Token} (derives : Derives phrase ts) :
    phrase.SignsKnown := by
  induction derives with
  | expression _ _ one others => exact Expr.SignsKnown.groupLeft nofun one others
  | conjunct _ _ one others => exact Expr.SignsKnown.groupLeft nofun one others
  | not _ inner => exact Expr.SignsKnown.not inner
  | plain _ inner => exact inner
  | single _ inner => exact inner
  | compare _ _ one two => exact Expr.SignsKnown.binary nofun one two
  | literal => exact Expr.SignsKnown.literal _
  | list _ inner => exact Expr.SignsKnown.list inner
  | name => exact Expr.SignsKnown.path _
  | call _ inner => exact Expr.SignsKnown.call inner
  | group _ inner => exact inner
  | noItems => exact List.forall_mem_nil _
  | items _ _ one others => exact List.forall_mem_cons.mpr ⟨one, others⟩
  | noMore => exact List.forall_mem_nil _
  | @more separator _ _ _ _ _ _ _ one others =>
    cases separator <;> exact List.forall_mem_cons.mpr ⟨one, others⟩

theorem Expr.signsKnown_of_parse {text : String} {e : Expr} (parsed : Expr.parse text = .ok e) :
    e.SignsKnown := by
  rw [Expr.parse] at parsed
  split at parsed
  · cases parsed
  · exact (parseTokens_eq_ok_iff.mp (mapError_eq_ok_iff.mp parsed)).signsKnown

/-- What is wrong with a call, whatever its arguments are. -/
inductive CallFault (source : Option RecordSource) : String × Nat → EvalFault → Prop
  | unknownFunction {name : String} {count : Nat} (unknown : Builtin.ofName? name = none) :
      CallFault source (name, count) (.unknownFunction name)
  | argumentCount {name : String} {count : Nat} (known : Builtin.ofName? name ≠ none)
      (wrong : count ≠ 2) : CallFault source (name, count) (.argumentCount name)
  | noSource (missing : source = none) : CallFault source ("get", 2) .noSource

section Faults

variable {context : Record} {source : Option RecordSource}

/-- The fault of a list is the fault of one of its members; that it is the first one does not matter
here. -/
theorem evaluateAll_fault {es : List Expr} {fault : EvalFault}
    (fails : evaluateAll context source es = .error fault) :
    ∃ e ∈ es, e.evaluate context source = .error fault := by
  induction es with
  | nil => cases fails
  | cons e rest ih =>
    rw [evaluateAll] at fails
    rcases bind_eq_error_iff.mp fails with first | ⟨value, _, fails⟩
    · exact ⟨e, List.mem_cons_self, first⟩
    · obtain ⟨other, inside, faulty⟩ := ih (bind_ok_eq_error_iff.mp fails)
      exact ⟨other, List.mem_cons_of_mem e inside, faulty⟩

/-- A function that is called with two arguments can fail in one way only: records are asked for and
there is no source of them. -/
theorem Builtin.apply_fault {builtin : Builtin} {a b : Value} {fault : EvalFault}
    (fails : builtin.apply source a b = .error fault) :
    builtin = .get ∧ source = none ∧ fault = .noSource := by
  cases builtin with
  | get =>
    cases source with
    | none =>
      cases fails
      exact ⟨rfl, rfl, rfl⟩
    | some fetch => cases fails
  | isOwner => cases fails
  | contains => cases fails
  | startsWith => cases a <;> cases b <;> cases fails
  | endsWith => cases a <;> cases b <;> cases fails

/-- A call fails through one of its arguments, or it is at fault itself: for its name, for the
number of its arguments, or for want of a source. -/
theorem call_fault {name : String} {arguments : List Expr} {fault : EvalFault}
    (fails : (Expr.call name arguments).evaluate context source = .error fault) :
    (∃ e ∈ arguments, e.evaluate context source = .error fault) ∨
      CallFault source (name, arguments.length) fault := by
  rw [Expr.evaluate] at fails
  split at fails
  · next unknown =>
    cases fails
    exact .inr (.unknownFunction unknown)
  · next builtin found =>
    split at fails
    · next wrong =>
      cases fails
      exact .inr (.argumentCount (found ▸ Option.some_ne_none builtin) wrong)
    · next two =>
      rw [Decidable.not_not] at two
      rcases bind_eq_error_iff.mp fails with inner | ⟨values, done, fails⟩
      · exact .inl (evaluateAll_fault inner)
      · obtain ⟨first, second, rfl⟩ :=
          List.length_eq_two.mp ((evaluateAll_length done).trans two)
        obtain ⟨rfl, missing, rfl⟩ := Builtin.apply_fault fails
        rw [Builtin.eq_get_of_ofName? found, two]
        exact .inr (.noSource missing)

theorem binary_fault {left right : Expr} {op : Connective} {fault : EvalFault}
    (known : ∀ sign, op ≠ .unknown sign)
    (fails : (Expr.binary left op right).evaluate context source = .error fault) :
    left.evaluate context source = .error fault ∨
      right.evaluate context source = .error fault := by
  cases op with
  | unknown sign => exact absurd rfl (known sign)
  | comparison c =>
    rw [Expr.evaluate, bind_eq_error_iff] at fails
    exact fails.imp_right fun ⟨_, _, later⟩ => bind_ok_eq_error_iff.mp later
  | and =>
    rw [Expr.evaluate, bind_eq_error_iff] at fails
    refine fails.imp_right fun ⟨value, _, later⟩ => ?_
    split at later
    · exact bind_ok_eq_error_iff.mp later
    · cases later
  | or =>
    rw [Expr.evaluate, bind_eq_error_iff] at fails
    refine fails.imp_right fun ⟨value, _, later⟩ => ?_
    split at later
    · cases later
    · exact bind_ok_eq_error_iff.mp later

/-- A tree whose signs have a meaning comes to no value only through a call. By induction, as every
other fault is one of a part. -/
theorem Expr.SignsKnown.fault {e : Expr} (known : e.SignsKnown) {fault : EvalFault}
    (fails : e.evaluate context source = .error fault) :
    ∃ call ∈ e.callShapes, CallFault source call fault := by
  induction known generalizing fault with
  | literal value => cases fails
  | path name => cases fails
  | not _ inner =>
    rw [Expr.evaluate] at fails
    exact inner (bind_ok_eq_error_iff.mp fails)
  | binary known _ _ one two =>
    rw [Expr.callShapes]
    rcases binary_fault known fails with fails | fails
    · obtain ⟨call, member, faulty⟩ := one fails
      exact ⟨call, List.mem_append_left _ member, faulty⟩
    · obtain ⟨call, member, faulty⟩ := two fails
      exact ⟨call, List.mem_append_right _ member, faulty⟩
  | call _ inner =>
    rw [Expr.callShapes]
    rcases call_fault fails with ⟨e, inside, fails⟩ | faulty
    · obtain ⟨call, member, faulty⟩ := inner e inside fails
      exact ⟨call, List.mem_cons_of_mem _ (mem_callShapesAll inside member), faulty⟩
    · exact ⟨_, List.mem_cons_self, faulty⟩
  | list _ inner =>
    obtain ⟨e, inside, fails⟩ := evaluateAll_fault (map_eq_error_iff.mp fails)
    obtain ⟨call, member, faulty⟩ := inner e inside fails
    exact ⟨call, mem_callShapesAll inside member, faulty⟩

end Faults

/-- A call that nothing can be wrong with. -/
structure CallInOrder (source : Option RecordSource) (call : String × Nat) : Prop where
  known : call.1 ∈ ["get", "is_owner", "contains", "starts_with", "ends_with"]
  two : call.2 = 2
  available : call.1 = "get" → source.isSome

theorem CallInOrder.not_fault {source : Option RecordSource} {call : String × Nat}
    (order : CallInOrder source call) (fault : EvalFault) : ¬CallFault source call fault := by
  have found : ∀ name ∈ ["get", "is_owner", "contains", "starts_with", "ends_with"],
      Builtin.ofName? name ≠ none := by decide
  intro faulty
  cases faulty with
  | unknownFunction unknown => exact found _ order.known unknown
  | argumentCount _ wrong => exact wrong order.two
  | noSource missing => simpa [missing] using order.available rfl

/-- How the evaluation of a rule ends where no operation is used on what it does not work on: with a
value, or with the fault of one of its calls. -/
inductive Expr.EndsSafely (e : Expr) (context : Record) (source : Option RecordSource) : Prop
  | value (value : Value) (run : e.run context source = .ok value)
      (evaluates : e.evaluate context source = .ok value)
  | fault (fault : EvalFault) (run : e.run context source = .error (.fault fault))
      (evaluates : e.evaluate context source = .error fault)
      (faulty : ∃ call ∈ e.callShapes, CallFault source call fault)

/-- The induction over the tree: a strict evaluation stops either with a value that the lenient one
finds too, or with a fault that both find. -/
theorem Expr.SignsKnown.endsSafely {e : Expr} (known : e.SignsKnown) (context : Record)
    (source : Option RecordSource) : e.EndsSafely context source := by
  have run := e.run_eq context source
  cases outcome : e.evaluate context source with
  | ok value =>
    rw [outcome] at run
    exact .value value run outcome
  | error fault =>
    rw [outcome] at run
    exact .fault fault run outcome (known.fault outcome)

/-- Rules that were read come to a value or to the fault of a call, and to a value if no call can be
at fault. -/
theorem Expr.parse_run_safe {text : String} {e : Expr} (parsed : Expr.parse text = .ok e) :
    (∀ context source, e.EndsSafely context source) ∧
      ∀ source, (∀ call ∈ e.callShapes, CallInOrder source call) →
        ∀ context, ∃ value, e.run context source = .ok value := by
  have safe := (Expr.signsKnown_of_parse parsed).endsSafely
  refine ⟨safe, fun source order context => ?_⟩
  cases safe context source with
  | value value run _ => exact ⟨value, run⟩
  | fault fault _ _ faulty =>
    obtain ⟨call, member, faulty⟩ := faulty
    exact absurd faulty ((order call member).not_fault fault)

/-- A rule that looks into a number and orders a `null` and a text. -/
def awkwardRule : Expr :=
  .binary (.call "contains" [.literal (.int 5), .path "user"]) .or
    (.binary (.list [.literal (.int 1), .literal .null]) (.comparison .lt)
      (.list [.literal (.int 1), .literal (.text "a")]))

/-- A number has no parts and a `null` has no place among texts, and the rule still has a value in
every context. -/
theorem Expr.parse_run_safe_awkwardRule :
    Expr.parse "(contains(5, user)) or (([1, null]) < ([1, 'a']))" = .ok awkwardRule ∧
      (∀ call ∈ awkwardRule.callShapes, CallInOrder none call) ∧
      ∀ context, ∃ value, awkwardRule.run context none = .ok value := by
  have function : IsName "contains" :=
    ⟨isWord_ofList (c := 'c') (by decide +kernel) (by decide +kernel), rfl⟩
  have path : IsName "user" :=
    ⟨isWord_ofList (c := 'u') (by decide +kernel) (by decide +kernel), rfl⟩
  have plain : awkwardRule.Plain := by
    simp only [awkwardRule, Expr.Plain, allPlain, and_true]
    exact ⟨nofun, ⟨function, .integer (n := 5) (by decide), path⟩, nofun,
      ⟨.integer (n := 1) (by decide), .null⟩, .integer (n := 1) (by decide), .text _⟩
  have text : String.ofList (awkwardRule.write .words) =
    "(contains(5, user)) or (([1, null]) < ([1, 'a']))" := by decide +kernel
  have written := plain.ruleText_write .words
  have parsed : Expr.parse (String.ofList (awkwardRule.write .words)) = .ok awkwardRule :=
    RuleText.parse_eq (by rwa [String.toList_ofList])
  rw [text] at parsed
  have order : ∀ call ∈ awkwardRule.callShapes, CallInOrder none call := by
    intro call member
    obtain rfl : call = ("contains", 2) := List.mem_singleton.mp member
    exact ⟨by decide, rfl, by decide⟩
  exact ⟨parsed, order, (Expr.parse_run_safe parsed).2 none order⟩

end GuardedRecords
