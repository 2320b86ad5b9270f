import Cosigner.Bytes
/-!
Numbers of a fixed width in front of a byte string.

`ofNatLE_prefix_iff` turns a written number into a read one: a byte string begins with the bytes of
`n` exactly when its first `width` bytes denote `n`. Together with `append_prefix_iff`, which
splits what a byte string begins with, it is what every reader of the library is specified by.
-/

namespace Cosigner.Bytes

/-- A byte string begins with two pieces when it begins with the first, and what follows begins
with the second. -/
theorem append_prefix_iff {a b bytes : Bytes} :
    a ++ b <+: bytes ↔ a <+: bytes ∧ b <+: bytes.drop a.length := by
  constructor
  · rintro ⟨rest, rfl⟩
    refine ⟨⟨b ++ rest, by rw [List.append_assoc]⟩, ?_⟩
    rw [List.append_assoc, List.drop_left]
    exact List.prefix_append b rest
  · rintro ⟨⟨rest, rfl⟩, hb⟩
    rw [List.drop_left] at hb
    obtain ⟨rest, rfl⟩ := hb
    exact ⟨rest, List.append_assoc a b rest⟩

/-- A number that fits is written at a byte string's front exactly when it is read there. -/
theorem ofNatLE_prefix_iff {width n : Nat} {bytes : Bytes} :
    (n < capacity width ∧ ofNatLE width n <+: bytes) ↔
      (width ≤ bytes.length ∧ toNatLE (bytes.take width) = n) := by
  constructor
  · rintro ⟨fits, rest, rfl⟩
    have front : (ofNatLE width n ++ rest).take width = ofNatLE width n :=
      List.take_left' (length_ofNatLE width n)
    refine ⟨by simp, ?_⟩
    rw [front, toNatLE_ofNatLE, Nat.mod_eq_of_lt fits]
  · rintro ⟨long, rfl⟩
    have length : (bytes.take width).length = width := List.length_take_of_le long
    have fits := toNatLE_lt (bytes.take width)
    have written := ofNatLE_toNatLE (bytes.take width)
    rw [length] at fits written
    refine ⟨fits, ?_⟩
    rw [written]
    exact List.take_prefix width bytes

/-! ### The capacities of the widths in use -/

theorem capacity_one : capacity 1 = 0x100 := rfl

theorem capacity_two : capacity 2 = 0x10000 := rfl

theorem capacity_four : capacity 4 = Word.bound32 := rfl

end Cosigner.Bytes
