import Cosigner.Coin.Amount
/-!
Amounts as exact integers.

Subtraction and clamping of amounts, specified through the integers that they denote; addition is
specified beside its definition (`toInt_of_add?`).
-/

namespace Cosigner.Amount

/-- The sum of amounts over the integers. -/
def total : List Int64 → Int
  | [] => 0
  | amount :: amounts => amount.toInt + total amounts

theorem total_append (amounts amounts' : List Int64) :
    total (amounts ++ amounts') = total amounts + total amounts' := by
  induction amounts with
  | nil => simp [total]
  | cons amount amounts ih =>
    simp only [List.cons_append, total, ih]
    omega

theorem total_reverse (amounts : List Int64) : total amounts.reverse = total amounts := by
  induction amounts with
  | nil => rfl
  | cons amount amounts ih =>
    simp only [List.reverse_cons, total_append, total, ih]
    omega

theorem total_nonneg {amounts : List Int64} (nonneg : ∀ a ∈ amounts, 0 ≤ a) :
    0 ≤ total amounts := by
  induction amounts with
  | nil => exact Int.le_refl 0
  | cons amount amounts ih =>
    obtain ⟨here, rest⟩ := List.forall_mem_cons.mp nonneg
    have here := Int64.le_iff_toInt_le.mp here
    have rest := ih rest
    rw [Int64.toInt_zero] at here
    rw [total]
    omega

theorem total_pos {amounts : List Int64} (positive : ∀ a ∈ amounts, 0 < a) (some : amounts ≠ []) :
    0 < total amounts := by
  match amounts, some with
  | amount :: amounts, _ =>
    obtain ⟨here, rest⟩ := List.forall_mem_cons.mp positive
    have here := Int64.lt_iff_toInt_lt.mp here
    have rest := total_nonneg fun a mem => Int64.le_of_lt (rest a mem)
    rw [Int64.toInt_zero] at here
    rw [total]
    omega

/-- Adding an amount that is not negative gives an amount, when the sum is not too large. -/
theorem exists_add? {a b : Int64} (nonneg : 0 ≤ b.toInt)
    (fits : a.toInt + b.toInt ≤ Int64.maxValue.toInt) : ∃ c, add? a b = some c := by
  have low := a.minValue_le_toInt
  rw [add?, ofInt?, if_pos ⟨by omega, fits⟩]
  exact ⟨_, rfl⟩

/-- A difference that is no number below zero does not wrap when both numbers are at least zero. -/
theorem toInt_sub_of_le {a b : Int64} (nonneg : 0 ≤ b.toInt) (le : b.toInt ≤ a.toInt) :
    (a - b).toInt = a.toInt - b.toInt := by
  have bound := a.toInt_lt
  rw [Int64.toInt_sub]
  exact Int.bmod_eq_of_le (by omega) (by omega)

theorem toInt_clamp (n : Int) :
    (clamp n).toInt = max Int64.minValue.toInt (min n Int64.maxValue.toInt) := by
  have high : Int64.maxValue.toInt = 9223372036854775807 := by decide
  have low : Int64.minValue.toInt = -9223372036854775808 := by decide
  rw [clamp, Int64.toInt_ofInt_of_le]
  all_goals omega

/-- Clamping a number that is not negative gives no negative amount. -/
theorem toInt_clamp_nonneg {n : Int} (nonneg : 0 ≤ n) : 0 ≤ (clamp n).toInt := by
  have high : Int64.maxValue.toInt = 9223372036854775807 := by decide
  rw [toInt_clamp]
  omega

/-- Clamping a number that is not negative only bounds it from above. -/
theorem toInt_clamp_of_nonneg {n : Int} (nonneg : 0 ≤ n) :
    (clamp n).toInt = min n Int64.maxValue.toInt := by
  have high : Int64.maxValue.toInt = 9223372036854775807 := by decide
  have low : Int64.minValue.toInt = -9223372036854775808 := by decide
  rw [toInt_clamp]
  omega

end Cosigner.Amount
