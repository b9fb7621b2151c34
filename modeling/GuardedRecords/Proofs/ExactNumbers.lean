import Mathlib.Algebra.Order.Field.Basic
import Mathlib.Algebra.Order.Field.Rat
import Mathlib.Order.WithBot
import Mathlib.Tactic.Ring
import GuardedRecords.Binary64

namespace GuardedRecords

/-- The rational number, or the point beyond all of them, that an extent is. -/
def Extent.amount : Extent → WithBot (WithTop ℚ)
  | .below => ⊥
  | .dyadic multiple exponent => (((multiple : ℚ) * 2 ^ exponent : ℚ) : WithTop ℚ)
  | .above => ((⊤ : WithTop ℚ) : WithBot (WithTop ℚ))

theorem dyadic_eq_scaled {least exponent : Int} (bound : least ≤ exponent) (multiple : Int) :
    (multiple : ℚ) * 2 ^ exponent =
      ((multiple * (Nat.pow 2 (exponent - least).toNat : Nat) : Int) : ℚ) * 2 ^ least := by
  obtain ⟨steps, rfl⟩ := Int.le.dest bound
  have moved : (least + steps - least).toNat = steps := by omega
  rw [moved, Nat.pow_eq, zpow_add₀ two_ne_zero, zpow_natCast]
  push_cast
  ring

/-- The comparison brings both numbers to the smaller exponent and compares integers. It is exact,
so no digit of a long integer or of a binary64 number is lost. -/
theorem Extent.compare_dyadic (m e n f : Int) :
    (Extent.dyadic m e).compare (.dyadic n f) =
      Ord.compare ((m : ℚ) * 2 ^ e) ((n : ℚ) * 2 ^ f) := by
  have increasing : StrictMono fun k : Int => (k : ℚ) * 2 ^ min e f := by
    intro j k less
    have positive : (0 : ℚ) < 2 ^ min e f := zpow_pos two_pos _
    exact mul_lt_mul_of_pos_right (by exact_mod_cast less) positive
  rw [dyadic_eq_scaled (min_le_left e f), dyadic_eq_scaled (min_le_right e f),
    ← cmp_eq_compare]
  exact (cmp_eq_compare _ _).symm.trans (increasing.cmp_map_eq _ _).symm

theorem Extent.compare_eq (x y : Extent) : x.compare y = Ord.compare x.amount y.amount := by
  cases x with
  | below =>
    cases y with
    | below => exact (compare_eq_iff_eq.mpr rfl).symm
    | dyadic n f => exact (compare_lt_iff_lt.mpr (WithBot.bot_lt_coe _)).symm
    | above => exact (compare_lt_iff_lt.mpr (WithBot.bot_lt_coe _)).symm
  | dyadic m e =>
    cases y with
    | below => exact (compare_gt_iff_gt.mpr (WithBot.bot_lt_coe _)).symm
    | dyadic n f =>
      rw [Extent.compare_dyadic, ← cmp_eq_compare, ← cmp_eq_compare]
      have increasing : StrictMono fun q : ℚ => ((q : WithTop ℚ) : WithBot (WithTop ℚ)) :=
        WithBot.coe_strictMono.comp WithTop.coe_strictMono
      exact (increasing.cmp_map_eq _ _).symm
    | above => exact (compare_lt_iff_lt.mpr (WithBot.coe_lt_coe.mpr (WithTop.coe_lt_top _))).symm
  | above =>
    cases y with
    | below => exact (compare_gt_iff_gt.mpr (WithBot.bot_lt_coe _)).symm
    | dyadic n f => exact (compare_gt_iff_gt.mpr (WithBot.coe_lt_coe.mpr (WithTop.coe_lt_top _))).symm
    | above => exact (compare_eq_iff_eq.mpr rfl).symm

end GuardedRecords
