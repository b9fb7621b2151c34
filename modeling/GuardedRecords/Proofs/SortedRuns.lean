import Mathlib.Algebra.Order.Group.Multiset
import Mathlib.Tactic.Abel
import GuardedRecords.Query.Runs

namespace GuardedRecords

section Values

variable {α : Type} (before : α → α → Bool)

/-- A list that is cut in two has all its values in the two parts. Almost every step below comes
down to this. -/
theorem coe_take_add_drop (count : Nat) (values : List α) :
    (values.take count + values.drop count : Multiset α) = values := by
  rw [Multiset.coe_add, List.take_append_drop]

theorem coe_insertByBisection (sorted : List α) (a : α) :
    (insertByBisection before sorted a : Multiset α) = sorted + {a} := by
  rw [insertByBisection]
  generalize bisect _ _ _ _ = place
  rw [← coe_take_add_drop place sorted, ← Multiset.coe_add, ← Multiset.cons_coe,
    ← Multiset.singleton_add]
  abel

theorem coe_foldl_insertByBisection (more sorted : List α) :
    ((more.foldl (insertByBisection before) sorted : List α) : Multiset α) = sorted + more := by
  induction more generalizing sorted with
  | nil => rw [List.foldl_nil, Multiset.coe_nil, add_zero]
  | cons a more ih =>
    rw [List.foldl_cons, ih, coe_insertByBisection, ← Multiset.cons_coe, ← Multiset.singleton_add,
      add_assoc]

/-- All values of a merge, wherever they are. -/
def Merge.values (m : Merge α) : Multiset α := m.placed + m.left + m.right

theorem Merge.values_place (m : Merge α) (side : MergeSide) (count : Nat) :
    (m.place side count).values = m.values := by
  obtain ⟨placed, left, right⟩ := m
  cases side with
  | left =>
    simp only [Merge.place, Merge.values]
    rw [← coe_take_add_drop count left, ← Multiset.coe_add, Multiset.coe_reverse]
    abel
  | right =>
    simp only [Merge.place, Merge.values]
    rw [← coe_take_add_drop count right, ← Multiset.coe_add, Multiset.coe_reverse]
    abel

theorem Merge.coe_result (m : Merge α) : (m.result : Multiset α) = m.values := by
  rw [Merge.result, Merge.values, ← Multiset.coe_add, ← Multiset.coe_add, Multiset.coe_reverse]
  abel

/-- A round of a merge places stretches of values and single ones, from both sides, and loses none
of them. -/
theorem Merge.values_round (mirrored : Bool) (m : Merge α) :
    (m.round before mirrored).1.values = m.values := by
  unfold Merge.round
  generalize (if mirrored = true then MergeSide.right else MergeSide.left) = side
  dsimp only
  split
  · exact m.values_place side _
  · split
    · simp only [Merge.values_place]
    · split <;> simp only [Merge.values_place]

/-- A merge has all its values in its result, however often it changes its pace. The induction is on
the rounds. -/
theorem Merge.coe_run (mirrored : Bool) (pace : Pace) (patience : Nat) (m : Merge α) :
    ((m.run before mirrored pace patience).1 : Multiset α) = m.values := by
  induction pace, patience, m using Merge.run.induct before mirrored with
  | case1 pace patience m finished =>
    rw [Merge.run.eq_def, dif_pos finished]
    exact m.coe_result
  | case2 patience m going side wins winner row ih =>
    rw [Merge.run, dif_neg going]
    exact ih.trans (m.values_place winner 1)
  | case3 patience m going after finished =>
    rw [Merge.run, dif_neg going]
    dsimp only
    rw [if_pos finished]
    exact after.1.coe_result.trans (m.values_round before mirrored)
  | case4 patience m going after unfinished long ih =>
    rw [Merge.run, dif_neg going]
    dsimp only
    rw [if_neg unfinished, if_pos long]
    exact ih.trans (m.values_round before mirrored)
  | case5 patience m going after unfinished short ih =>
    rw [Merge.run, dif_neg going]
    dsimp only
    rw [if_neg unfinished, if_neg short]
    exact ih.trans (m.values_round before mirrored)

theorem coe_mergeRuns (mirrored : Bool) (patience : Nat) (left right : List α) :
    ((mergeRuns before mirrored patience left right).1 : Multiset α) = left + right := by
  rw [mergeRuns, Merge.coe_run, Merge.values_place, Merge.values, Multiset.coe_nil, zero_add]

theorem coe_joinRuns (patience : Nat) (a b : List α) :
    ((joinRuns before patience a b).1 : Multiset α) = a + b := by
  unfold joinRuns
  dsimp only
  generalize (Option.map _ b.head?).getD 0 = ahead
  generalize b.length - _ = kept
  split
  · rw [Multiset.coe_add]
  · rw [← coe_take_add_drop ahead a, ← coe_take_add_drop kept b, ← Multiset.coe_add,
      ← Multiset.coe_add]
    split
    · rw [coe_mergeRuns]
      abel
    · rw [Multiset.coe_reverse, coe_mergeRuns, Multiset.coe_reverse, Multiset.coe_reverse]
      abel

theorem le_leadingRun_go (falling : Bool) (last : α) (count : Nat) (values : List α) :
    count ≤ leadingRun.go before falling last count values := by
  induction values generalizing last count with
  | nil => exact Nat.le_refl count
  | cons c more ih =>
    rw [leadingRun.go]
    split
    · exact Nat.le_trans (Nat.le_succ count) (ih c (count + 1))
    · exact Nat.le_refl count

/-- A run has at least one value, so what is left behind it is shorter. The split into runs ends for
this reason. -/
theorem leadingRun_pos (a : α) (rest : List α) : 0 < (leadingRun before (a :: rest)).1 := by
  cases rest with
  | nil => exact Nat.one_pos
  | cons b rest => exact Nat.lt_of_lt_of_le Nat.two_pos (le_leadingRun_go before _ b 2 rest)

/-- The runs of a list have all its values. A run that is too short is filled up by insertion, and a
falling one is turned round. -/
theorem coe_flatten_runsOf (least : Nat) (values : List α) :
    ((runsOf before least values).flatten : Multiset α) = values := by
  induction values using runsOf.induct before least with
  | case1 => rw [runsOf, List.flatten_nil]
  | case2 a rest values count falling leading more ih =>
    have some_run : 0 < count := by
      have found := leadingRun_pos before a rest
      rwa [leading] at found
    have behind : rest.drop (count + more.length - 1) = (values.drop count).drop more.length := by
      have step : count + more.length = count + more.length - 1 + 1 := by omega
      rw [List.drop_drop, step, List.drop_succ_cons]
      rfl
    have taken : (values.drop count).take more.length = more := by
      rw [List.length_take]
      exact List.take_eq_take_min.symm
    have sorted : ((if falling then (values.take count).reverse else values.take count : List α) :
        Multiset α) = values.take count := by
      split
      · exact Multiset.coe_reverse _
      · rfl
    rw [runsOf, leading]
    dsimp only
    rw [List.flatten_cons, ← Multiset.coe_add, ih, coe_foldl_insertByBisection, behind]
    calc _ = ((values.take count : List α) : Multiset α) +
          (((values.drop count).take more.length : List α) + ((values.drop count).drop more.length)) := by
          rw [taken, ← add_assoc]
          exact congrArg (· + _ + _) sorted
      _ = values := by rw [coe_take_add_drop, coe_take_add_drop]

/-- All values of runs that wait to be joined. -/
def waitingValues (pending : List (PendingRun α)) : Multiset α :=
  (pending.map fun run => run.values).flatten

theorem waitingValues_cons (run : PendingRun α) (pending : List (PendingRun α)) :
    waitingValues (run :: pending) = run.values + waitingValues pending := by
  rw [waitingValues, List.map_cons, List.flatten_cons, waitingValues, Multiset.coe_add]

theorem PendingRun.coe_join (patience : Nat) (first second : PendingRun α) :
    ((first.join before patience second).1.values : Multiset α) = first.values + second.values :=
  coe_joinRuns before patience first.values second.values

theorem waitingValues_settle (depth patience : Nat) (top : PendingRun α)
    (pending : List (PendingRun α)) :
    waitingValues (settle before depth patience top pending).1 = top.values + waitingValues pending := by
  induction pending generalizing patience top with
  | nil => rw [settle, waitingValues_cons]
  | cons second below ih =>
    rw [settle]
    split
    · dsimp only
      rw [ih, PendingRun.coe_join, waitingValues_cons]
      abel
    · rw [waitingValues_cons]

theorem coe_joinAll (patience : Nat) (top : PendingRun α) (pending : List (PendingRun α)) :
    (joinAll before patience top pending : Multiset α) = top.values + waitingValues pending := by
  induction patience, top, pending using joinAll.induct before with
  | case1 patience top =>
    rw [joinAll]
    exact (add_zero _).symm
  | case2 patience top second =>
    rw [joinAll, PendingRun.coe_join, waitingValues_cons, add_comm]
    exact congrArg _ (add_zero _).symm
  | case3 patience top second third below shorter joined patience' run ih =>
    have values : (joined.values : Multiset α) = third.values + second.values := by
      rw [← PendingRun.coe_join before patience, run]
    rw [joinAll, if_pos shorter, run]
    dsimp only
    rw [ih, waitingValues_cons, waitingValues_cons, waitingValues_cons, values]
    abel
  | case4 patience top second third below longer joined patience' run ih =>
    have values : (joined.values : Multiset α) = second.values + top.values := by
      rw [← PendingRun.coe_join before patience, run]
    rw [joinAll, if_neg longer, run]
    dsimp only
    rw [ih, waitingValues_cons, waitingValues_cons, waitingValues_cons, values]
    abel

/-- Taking in runs one after the other keeps all values of those that wait and of those that come.
Nothing is assumed of the order, so this holds also where a not-a-number is among the values. -/
theorem coe_takeIn (total : Nat) (pending : List (PendingRun α)) (patience : Nat)
    (runs : List (List α)) :
    (takeIn before total pending patience runs : Multiset α) =
      waitingValues pending + runs.flatten := by
  induction runs generalizing pending patience with
  | nil =>
    cases pending with
    | nil => rw [takeIn]; rfl
    | cons top below =>
      rw [takeIn, coe_joinAll, waitingValues_cons]
      exact (add_zero _).symm
  | cons run rest ih =>
    rw [List.flatten_cons, ← Multiset.coe_add]
    cases pending with
    | nil =>
      rw [takeIn, ih, waitingValues_cons]
      dsimp only
      abel
    | cons top below =>
      rw [takeIn]
      dsimp only
      rw [ih, waitingValues_cons, waitingValues_settle, waitingValues_cons]
      abel

end Values

/-- Joining runs loses no value and adds none, whatever the comparison says. It need not be an
order, and with a not-a-number it is none. -/
theorem sortByRuns_perm {α : Type} (before : α → α → Bool) (values : List α) :
    (sortByRuns before values).Perm values := by
  rw [← Multiset.coe_eq_coe, sortByRuns, coe_takeIn, coe_flatten_runsOf]
  exact zero_add _

end GuardedRecords
