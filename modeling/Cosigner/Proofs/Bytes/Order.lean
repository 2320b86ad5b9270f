import Cosigner.Bytes
import Mathlib.Tactic.Ring
/-!
Byte strings of one length compare like the numbers that they denote.

A range of numbers is tested byte by byte, without reading the number: a string is below another of
the same length exactly when its number is (`lt_iff_toNatBE_lt`), and it denotes no zero exactly
when one of its bytes is none (`toNatBE_pos_iff`). The most significant byte comes first, so it
decides unless it is shared (`toNatBE_cons_lt_of_lt`).
-/

namespace Cosigner.Bytes

/-- A number is read on behind the one that was read so far. -/
theorem foldl_eq_add_toNatBE (acc : Nat) (bytes : Bytes) :
    bytes.foldl (fun acc b => acc * 256 + b.toNat) acc =
      acc * capacity bytes.length + toNatBE bytes := by
  induction bytes generalizing acc with
  | nil => simp [capacity, toNatBE]
  | cons b rest ih =>
    rw [toNatBE, List.foldl_cons, List.foldl_cons, ih, ih (0 * 256 + b.toNat), List.length_cons,
      capacity_succ]
    ring

theorem toNatBE_cons (b : UInt8) (rest : Bytes) :
    toNatBE (b :: rest) = b.toNat * capacity rest.length + toNatBE rest := by
  rw [toNatBE, List.foldl_cons, foldl_eq_add_toNatBE, Nat.zero_mul, Nat.zero_add]

theorem toNatBE_reverse (bytes : Bytes) : toNatBE bytes.reverse = toNatLE bytes := by
  rw [toNatBE, List.foldl_reverse]
  induction bytes with
  | nil => rfl
  | cons b rest ih =>
    rw [List.foldr_cons, ih, toNatLE]
    omega

theorem toNatBE_ofNatBE (width n : Nat) : toNatBE (ofNatBE width n) = n % capacity width := by
  rw [ofNatBE, toNatBE_reverse, toNatLE_ofNatLE]

theorem toNatBE_lt (bytes : Bytes) : toNatBE bytes < capacity bytes.length := by
  have bound := toNatLE_lt bytes.reverse
  rw [← toNatBE_reverse, List.reverse_reverse, List.length_reverse] at bound
  exact bound

variable {x y : UInt8} {a b xs ys bytes : Bytes}

/-- A byte in front decides, whatever follows it. -/
theorem toNatBE_cons_lt_of_lt (same : xs.length = ys.length) (less : x.toNat < y.toNat) :
    toNatBE (x :: xs) < toNatBE (y :: ys) := by
  have below := toNatBE_lt xs
  rw [toNatBE_cons, toNatBE_cons, ← same]
  calc x.toNat * capacity xs.length + toNatBE xs
      < x.toNat * capacity xs.length + capacity xs.length := Nat.add_lt_add_left below _
    _ = (x.toNat + 1) * capacity xs.length := (Nat.succ_mul _ _).symm
    _ ≤ y.toNat * capacity xs.length := Nat.mul_le_mul_right _ less
    _ ≤ y.toNat * capacity xs.length + toNatBE ys := Nat.le_add_right _ _

/-- Strings of one length compare like the numbers that they denote. -/
theorem lt_iff_toNatBE_lt (same : a.length = b.length) : a < b ↔ toNatBE a < toNatBE b := by
  induction a generalizing b with
  | nil =>
    obtain rfl := List.length_eq_zero_iff.mp same.symm
    simp
  | cons x xs ih =>
    match b, same with
    | y :: ys, same =>
      have same : xs.length = ys.length := Nat.succ.inj same
      rw [List.cons_lt_cons_iff, ih same, UInt8.lt_iff_toNat_lt, ← UInt8.toNat_inj]
      rcases Nat.lt_trichotomy x.toNat y.toNat with less | equal | greater
      · exact iff_of_true (.inl less) (toNatBE_cons_lt_of_lt same less)
      · rw [toNatBE_cons, toNatBE_cons, same, equal]
        simp
      · have reversed := toNatBE_cons_lt_of_lt same.symm greater
        exact iff_of_false (by omega) (Nat.not_lt_of_gt reversed)

/-- A byte string denotes zero exactly when it consists of zeros. -/
theorem toNatBE_pos_iff : 0 < toNatBE bytes ↔ ∃ b ∈ bytes, b ≠ 0 := by
  induction bytes with
  | nil => simp [toNatBE]
  | cons b rest ih =>
    have pos : 0 < capacity rest.length := Nat.pow_pos (by decide)
    have front : 0 < b.toNat ↔ b ≠ 0 := by
      rw [Nat.pos_iff_ne_zero]
      exact not_congr (UInt8.toNat_inj (b := 0))
    rw [toNatBE_cons, Nat.add_pos_iff_pos_or_pos, Nat.mul_pos_iff_of_pos_right pos, front, ih]
    simp

end Cosigner.Bytes
