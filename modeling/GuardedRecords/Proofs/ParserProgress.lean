import GuardedRecords.Proofs.IndexedParser
import GuardedRecords.Proofs.RuleGrammar

namespace GuardedRecords

/-- Whether a call or a turn within `n` tokens takes at least one of them or finds a fault. -/
def Progresses (n start : Nat) : Except Halt Nat → Prop
  | .ok stop => start < stop ∧ stop ≤ n
  | .error halt => start ≤ n ∧ ∃ error, halt = .fault error

/-- Whether the index stays within `n` tokens and the end of the rule behind them, and whether calls
and turns progress. -/
def ReadEvent.Within (n : Nat) : ReadEvent → Prop
  | .look index => index ≤ n
  | .move index => index ≤ n
  | .call _ start ending => Progresses n start ending
  | .turn _ start ending => Progresses n start ending

/-- The tokens that are left at an index. -/
def LeftAt (ts : List Token) (index : Nat) (us : List Token) : Prop :=
  ∃ front, ts = front ++ us ∧ front.length = index

/-- The reader by index finds what the one by lists does. -/
inductive SameFinding (ts : List Token) {α : Type} {p : List Token → Prop} :
    Except Halt (α × Nat) → Except SyntaxError (α × { rest : List Token // p rest }) → Prop
  | ok {a : α} {index : Nat} {rest : List Token} {holds : p rest} (left : LeftAt ts index rest) :
      SameFinding ts (.ok (a, index)) (.ok (a, ⟨rest, holds⟩))
  | fault (error : SyntaxError) : SameFinding ts (.error (.fault error)) (.error error)

/-- With enough fuel, and then with any, a reader does the same within the tokens and finds what the
one by lists does. -/
def Follows (ts : List Token) {α : Type} {p : List Token → Prop} (enough : Nat) (reader : Nat → IndexReader α)
    (start : Nat) (outcome : Except SyntaxError (α × { rest : List Token // p rest })) : Prop :=
  ∃ events result, (∀ fuel, enough ≤ fuel → reader fuel start = (events, result)) ∧
    (∀ event ∈ events, event.Within ts.length) ∧ SameFinding ts result outcome

section Places

variable {ts us rest : List Token} {u : Token} {start : Nat}

theorem LeftAt.length (left : LeftAt ts start us) : start + us.length = ts.length := by
  obtain ⟨front, rfl, rfl⟩ := left
  rw [List.length_append]

theorem LeftAt.le (left : LeftAt ts start us) : start ≤ ts.length := by
  have whole := left.length
  omega

theorem LeftAt.tail (left : LeftAt ts start (u :: us)) : LeftAt ts (start + 1) us := by
  obtain ⟨front, rfl, rfl⟩ := left
  exact ⟨front ++ [u], by simp, by simp⟩

/-- The entry at an index is the first token that is left there, or none at the end of the rule. -/
theorem LeftAt.entry (left : LeftAt ts start us) : (ts.map some ++ [none])[start]? = some us.head? := by
  obtain ⟨front, rfl, rfl⟩ := left
  rw [List.map_append, List.append_assoc, List.getElem?_append_right (by simp), List.length_map,
    Nat.sub_self]
  cases us <;> rfl

end Places

section Kinds

/-- The only lexeme of a kind, if there is one. -/
def TokenKind.lexeme? : TokenKind → Option Lexeme
  | .null => some .null
  | .comparison c => some (.comparison c)
  | .and => some .and
  | .or => some .or
  | .not => some .not
  | .openParen => some .openParen
  | .closeParen => some .closeParen
  | .openBracket => some .openBracket
  | .closeBracket => some .closeBracket
  | .comma => some .comma
  | _ => none

theorem Lexeme.lexeme?_kind (word : Lexeme) :
    word.kind.lexeme? = some word ∨ word.kind.lexeme? = none := by
  cases word <;> simp [Lexeme.kind, TokenKind.lexeme?]

/-- A word that is the only one of its kind is next when its kind is. -/
theorem exists_of_entryKind {us : List Token} (word : Lexeme) (single : word.kind.lexeme? = some word)
    (next : entryKind us.head? = word.kind) : ∃ p rest, us = ⟨word, p⟩ :: rest := by
  cases us with
  | nil =>
    rw [← next] at single
    cases single
  | cons t rest =>
    have same : t.lexeme.kind = word.kind := next
    obtain ⟨lexeme, p⟩ := t
    rcases lexeme.lexeme?_kind with found | none
    · rw [same, single] at found
      cases found
      exact ⟨p, rest, rfl⟩
    · rw [same, single] at none
      cases none

theorem entryKind_head? (us : List Token) : entryKind us.head? = nextKind us := by
  cases us <;> rfl

theorem elim_head?_position (finish : Nat) (us : List Token) :
    us.head?.elim finish Token.position = nextPosition finish us := by
  cases us <;> rfl

end Kinds

section Steps

open IndexReader

variable {α β : Type} {finish start : Nat} {ts us : List Token} {u : Token}

theorem bind_of_ok {first : IndexReader α} {next : α → IndexReader β} {events : List ReadEvent} {a : α}
    {index : Nat} (run : first start = (events, .ok (a, index))) :
    (first >>= next) start = (events ++ (next a index).1, (next a index).2) := by
  show IndexReader.bind first next start = _
  rw [IndexReader.bind, run]

theorem bind_of_error {first : IndexReader α} {next : α → IndexReader β} {events : List ReadEvent}
    {why : Halt} (run : first start = (events, .error why)) :
    (first >>= next) start = (events, .error why) := by
  show IndexReader.bind first next start = _
  rw [IndexReader.bind, run]

theorem look_eq (left : LeftAt ts start us) : look ts start = ([.look start], .ok (us.head?, start)) := by
  rw [look, left.entry]

theorem advance_eq (left : LeftAt ts start (u :: us)) :
    advance ts start = ([.look start, .move (start + 1)], .ok ((), start + 1)) := by
  rw [advance, bind_of_ok (look_eq left)]
  rfl

theorem fail_eq (left : LeftAt ts start us) (fault : SyntaxFault) :
    (fail finish ts fault : IndexReader α) start =
      ([.look start], .error (.fault ⟨fault, nextPosition finish us⟩)) := by
  rw [fail, bind_of_ok (look_eq left), elim_head?_position]
  rfl

theorem expect_eq (left : LeftAt ts start (u :: us)) :
    expect finish ts u.lexeme.kind start =
      ([.look start, .look start, .move (start + 1)], .ok ((), start + 1)) := by
  have next : entryKind (u :: us).head? = u.lexeme.kind := rfl
  rw [expect, bind_of_ok (look_eq left), if_pos next, advance_eq left]
  rfl

theorem expect_of_ne (left : LeftAt ts start us) {kind : TokenKind} (other : nextKind us ≠ kind) :
    expect finish ts kind start = ([.look start, .look start],
      .error (.fault ⟨.expected kind (nextKind us), nextPosition finish us⟩)) := by
  rw [expect, bind_of_ok (look_eq left), entryKind_head?, if_neg other, fail_eq left]
  rfl

end Steps

section Following

variable {α β γ : Type} {p q : List Token → Prop} {ts us : List Token} {n m start index : Nat}
  {reader : Nat → IndexReader α} {outcome : Except SyntaxError (α × { rest : List Token // p rest })}

theorem Follows.mono (follows : Follows ts n reader start outcome) (more : n ≤ m) :
    Follows ts m reader start outcome := by
  obtain ⟨events, result, run, within, same⟩ := follows
  exact ⟨events, result, fun fuel enough => run fuel (Nat.le_trans more enough), within, same⟩

theorem Follows.spend {body : Nat → IndexReader α} (step : ∀ fuel, reader (fuel + 1) = body fuel)
    (follows : Follows ts n body start outcome) : Follows ts (n + 1) reader start outcome := by
  obtain ⟨events, result, run, within, same⟩ := follows
  refine ⟨events, result, fun fuel enough => ?_, within, same⟩
  obtain ⟨fuel, rfl⟩ := Nat.exists_eq_add_of_le' (Nat.le_trans (Nat.le_add_left 1 n) enough)
  rw [step]
  exact run fuel (Nat.le_of_succ_le_succ enough)

theorem follows_pure {a : α} (left : LeftAt ts start us) (holds : p us) :
    Follows ts n (fun _ => pure a) start (.ok (a, (⟨us, holds⟩ : { rest : List Token // p rest }))) :=
  ⟨[], _, fun _ _ => rfl, List.forall_mem_nil _, .ok left⟩

theorem follows_fail {finish : Nat} (left : LeftAt ts start us) (fault : SyntaxFault) :
    Follows ts n (fun _ => (IndexReader.fail finish ts fault : IndexReader α)) start
      (.error ⟨fault, nextPosition finish us⟩ : Except SyntaxError (α × { rest : List Token // p rest })) := by
  refine ⟨_, _, fun _ _ => fail_eq left fault, ?_, .fault _⟩
  exact List.forall_mem_singleton.mpr left.le

/-- A step that leaves a value and an index, and then what follows from there. -/
theorem Follows.after {step : IndexReader γ} {c : γ} {next : γ → Nat → IndexReader α}
    {events : List ReadEvent} (run : step start = (events, .ok (c, index)))
    (within : ∀ event ∈ events, event.Within ts.length) (follows : Follows ts n (next c) index outcome) :
    Follows ts n (fun fuel => step >>= fun c => next c fuel) start outcome := by
  obtain ⟨others, result, runs, inside, same⟩ := follows
  refine ⟨events ++ others, result, fun fuel enough => ?_, List.forall_mem_append.mpr ⟨within, inside⟩, same⟩
  refine (bind_of_ok run).trans ?_
  rw [runs fuel enough]

/-- A look at the next entry before a reader changes nothing about what it does within the
tokens. -/
theorem Follows.after_look {next : Option Token → Nat → IndexReader α} (left : LeftAt ts start us)
    (follows : Follows ts n (next us.head?) start outcome) :
    Follows ts n (fun fuel => IndexReader.look ts >>= fun entry => next entry fuel) start outcome :=
  .after (look_eq left) (List.forall_mem_singleton.mpr left.le) follows

theorem Follows.after_advance {u : Token} {next : Nat → IndexReader α} (left : LeftAt ts start (u :: us))
    (follows : Follows ts n next (start + 1) outcome) :
    Follows ts n (fun fuel => IndexReader.advance ts >>= fun _ => next fuel) start outcome := by
  refine .after (advance_eq left) ?_ follows
  exact List.forall_mem_cons.mpr ⟨left.le, List.forall_mem_singleton.mpr left.tail.le⟩

theorem Follows.after_expect {finish : Nat} {u : Token} {next : Nat → IndexReader α}
    (left : LeftAt ts start (u :: us)) (follows : Follows ts n next (start + 1) outcome) :
    Follows ts n (fun fuel => IndexReader.expect finish ts u.lexeme.kind >>= fun _ => next fuel) start
      outcome := by
  refine .after (expect_eq left) ?_ follows
  exact List.forall_mem_cons.mpr ⟨left.le, List.forall_mem_cons.mpr
    ⟨left.le, List.forall_mem_singleton.mpr left.tail.le⟩⟩

theorem follows_expect_of_ne {finish : Nat} {kind : TokenKind} {next : Nat → IndexReader α}
    (left : LeftAt ts start us) (other : nextKind us ≠ kind) :
    Follows ts n (fun fuel => IndexReader.expect finish ts kind >>= fun _ => next fuel) start
      (.error ⟨.expected kind (nextKind us), nextPosition finish us⟩ :
        Except SyntaxError (α × { rest : List Token // p rest })) := by
  refine ⟨_, _, fun _ _ => bind_of_error (expect_of_ne left other), ?_, .fault _⟩
  exact List.forall_mem_cons.mpr ⟨left.le, List.forall_mem_singleton.mpr left.le⟩

/-- What is read behind what was read before goes on where that ended. A fault of the first part
ends both readers, at the same place. -/
theorem Follows.bind {next : α → Nat → IndexReader β}
    {later : α × { rest : List Token // p rest } → Except SyntaxError (β × { rest : List Token // q rest })}
    (first : Follows ts n reader start outcome)
    (second : ∀ a rest (holds : p rest) index, LeftAt ts index rest →
      Follows ts n (next a) index (later (a, ⟨rest, holds⟩))) :
    Follows ts n (fun fuel => reader fuel >>= fun a => next a fuel) start (outcome >>= later) := by
  obtain ⟨events, result, run, within, same⟩ := first
  cases same with
  | @ok a index rest holds left =>
    obtain ⟨others, result, runs, inside, same⟩ := second a rest holds index left
    refine ⟨events ++ others, result, fun fuel enough => ?_, List.forall_mem_append.mpr ⟨within, inside⟩, same⟩
    refine (bind_of_ok (run fuel enough)).trans ?_
    rw [runs fuel enough]
  | fault error => exact ⟨events, _, fun fuel enough => bind_of_error (run fuel enough), within, .fault error⟩

theorem Follows.stop {next : α → Nat → IndexReader β} {error : SyntaxError}
    (first : Follows ts n reader start (.error error : Except SyntaxError (α × { rest : List Token // p rest }))) :
    Follows ts n (fun fuel => reader fuel >>= fun a => next a fuel) start
      (.error error : Except SyntaxError (β × { rest : List Token // q rest })) := by
  obtain ⟨events, result, run, within, same⟩ := first
  cases same
  exact ⟨events, _, fun fuel enough => bind_of_error (run fuel enough), within, .fault error⟩

/-- The rest is described in another way, and nothing else is done. -/
theorem Follows.widen (follows : Follows ts n reader start outcome) (wider : ∀ rest, p rest → q rest) :
    Follows ts n reader start
      (outcome >>= fun r => .ok (r.1, (⟨r.2.1, wider r.2.1 r.2.2⟩ : { rest : List Token // q rest }))) := by
  obtain ⟨events, result, run, within, same⟩ := follows
  refine ⟨events, result, run, within, ?_⟩
  cases same with
  | ok left => exact .ok left
  | fault error => exact .fault error

section Noted

variable {outcome : Except SyntaxError (α × After us)}

/-- What takes at least one token may be noted as something that progresses. A fault counts as
progress as well, for nothing is read behind it. -/
theorem Follows.noted {mark : Nat → Except Halt Nat → ReadEvent} (follows : Follows ts n reader start outcome)
    (left : LeftAt ts start us)
    (within : ∀ ending, Progresses ts.length start ending → (mark start ending).Within ts.length) :
    Follows ts n (fun fuel => IndexReader.noted mark (reader fuel)) start outcome := by
  obtain ⟨events, result, run, inside, same⟩ := follows
  refine ⟨events ++ [mark start (result.map Prod.snd)], result, fun fuel enough => ?_, ?_, same⟩
  · show IndexReader.noted mark (reader fuel) start = _
    rw [IndexReader.noted, run fuel enough]
  · refine List.forall_mem_append.mpr ⟨inside, List.forall_mem_singleton.mpr (within _ ?_)⟩
    cases same with
    | @ok a index rest fewer behind =>
      have before := left.length
      have after := behind.length
      exact ⟨by omega, by omega⟩
    | fault error => exact ⟨left.le, error, rfl⟩

/-- A call takes one unit of fuel, and counts as progress if its body takes a token or finds a
fault. -/
theorem Follows.call {routine : Routine} {body : Nat → IndexReader α} (left : LeftAt ts start us)
    (step : ∀ fuel, reader (fuel + 1) = IndexReader.noted (.call routine) (body fuel))
    (follows : Follows ts n body start outcome) : Follows ts (n + 1) reader start outcome :=
  .spend step (follows.noted left fun _ progress => progress)

theorem Follows.turn {routine : Routine} (left : LeftAt ts start us)
    (follows : Follows ts n reader start outcome) :
    Follows ts n (fun fuel => IndexReader.noted (.turn routine) (reader fuel)) start outcome :=
  follows.noted left fun _ progress => progress

end Noted

end Following

end GuardedRecords
