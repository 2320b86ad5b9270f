import Cosigner.Proofs.Signature.Strict
import Cosigner.Signing.Apply
/-!
Every signature that is made has a low second number and is in strict form.

Whoever signs with a source of pairs that may be any (`Signs`) asks it again until the second number
is low, and writes that pair. So the signature is in strict form and takes at most 71 bytes
(`signatures_are_strict_and_low`), whatever the source gave. The signatures of this library are
made in this way; its own source gives a low number at once (`PrivateKey.signs`).
-/

namespace Cosigner

/-! ### Low numbers -/

namespace Ecdsa

open Secp256k1 (order)

theorem toNatBE_halfOrder : halfOrder.toNatBE = order / 2 := by
  rw [halfOrder, Bytes.toNatBE_ofNatBE]
  decide

/-- Bytes of the width of the order are low when their number is at most half of it. -/
theorem isLowS_iff {s : Bytes} (width : s.length = 32) :
    isLowS s = true ↔ s.toNatBE ≤ order / 2 := by
  have same : halfOrder.length = s.length := by rw [width, halfOrder, Bytes.length_ofNatBE]
  rw [isLowS, decide_eq_true_eq, ← toNatBE_halfOrder, ← Nat.not_lt, ← Bytes.lt_iff_toNatBE_lt same]
  exact Iff.rfl

theorem s_lt_of_pair? {secret k : Nat} {digest : Hash256} {sig : Signature}
    (made : pair? secret digest k = some sig) : sig.s < order := by
  unfold pair? at made
  split at made
  · cases made
  · dsimp only at made
    split at made
    · cases made
    · cases made
      exact Nat.mod_lt _ (by decide)

/-- Of a number below the order and its difference to the order, one is low. -/
theorem isLowS_sub {s : Nat} (lt : s < order) (high : isLowS (Bytes.ofNatBE 32 s) = false) :
    isLowS (Bytes.ofNatBE 32 (order - s)) = true := by
  have fits : order < Bytes.capacity 32 := by decide
  have odd : order = 2 * (order / 2) + 1 := by decide
  have high : ¬ s ≤ order / 2 := by
    rw [Bool.eq_false_iff, ne_eq, isLowS_iff (Bytes.length_ofNatBE 32 s), Bytes.toNatBE_ofNatBE,
      Nat.mod_eq_of_lt (Nat.lt_trans lt fits)] at high
    exact high
  rw [isLowS_iff (Bytes.length_ofNatBE _ _), Bytes.toNatBE_ofNatBE, Nat.mod_eq_of_lt (by omega)]
  omega

/-- A signature that is made has a low second number. -/
theorem isLowS_of_sign? {secret : Nat} {digest : Hash256} {entropy : Bytes} {sig : Signature}
    (made : sign? secret digest entropy = some sig) :
    isLowS (Bytes.ofNatBE 32 sig.s) = true := by
  obtain ⟨pair, paired, rfl⟩ := Option.map_eq_some_iff.mp made
  rw [Signature.normalize]
  split
  · assumption
  · rename_i high
    exact isLowS_sub (s_lt_of_pair? paired) (Bool.eq_false_iff.mpr high)

end Ecdsa

/-! ### Signing -/

/-- What one attempt to sign gives: two numbers of 32 bytes, unless it fails. -/
abbrev Attempt := Except ChainError (FixedBytes 32 × FixedBytes 32)

/-- Signing with attempts that may give any numbers, from one of them on: the first pair with a low
second number is written, and an attempt that fails before it is the end. -/
inductive Signs (attempt : Nat → Attempt) : Nat → Except ChainError Bytes → Prop where
  | fails {i : Nat} {e : ChainError} : attempt i = .error e → Signs attempt i (.error e)
  | low {i : Nat} {r s : FixedBytes 32} : attempt i = .ok (r, s) → Ecdsa.isLowS s.bytes = true →
      Signs attempt i (.ok (Der.encode r.bytes s.bytes))
  | high {i : Nat} {r s : FixedBytes 32} {result : Except ChainError Bytes} :
      attempt i = .ok (r, s) → Ecdsa.isLowS s.bytes = false → Signs attempt (i + 1) result →
      Signs attempt i result

/-- What is written is a pair of some attempt, with a low second number. -/
theorem Signs.exists_low {attempt : Nat → Attempt} {i : Nat} {result : Except ChainError Bytes}
    {signature : Bytes} (signs : Signs attempt i result) (made : result = .ok signature) :
    ∃ j r s, i ≤ j ∧ attempt j = .ok (r, s) ∧ Ecdsa.isLowS s.bytes = true ∧
      signature = Der.encode r.bytes s.bytes := by
  induction signs with
  | fails _ => cases made
  | low given low =>
    cases made
    exact ⟨_, _, _, Nat.le_refl _, given, low, rfl⟩
  | high _ _ _ ih =>
    obtain ⟨j, r, s, later, given, low, written⟩ := ih made
    exact ⟨j, r, s, Nat.le_of_succ_le later, given, low, written⟩

/-- One attempt with a key, a digest and entropy. -/
def PrivateKey.attempt (key : PrivateKey) (digest : Hash256) (entropy : Bytes) : Attempt :=
  match Ecdsa.sign? key.scalar.toNatBE digest entropy with
  | some sig => .ok (.ofNatBE 32 sig.r, .ofNatBE 32 sig.s)
  | none => .error (.signing .degenerate)

/-- The signature of a key is made by attempts, of which the first is the last. -/
theorem PrivateKey.signs (key : PrivateKey) (digest : Hash256) (entropy : Bytes) :
    Signs (fun _ => key.attempt digest entropy) 0 (key.sign digest entropy) := by
  cases made : Ecdsa.sign? key.scalar.toNatBE digest entropy with
  | none =>
    have given : key.attempt digest entropy = .error (.signing .degenerate) := by
      rw [attempt, made]
    rw [sign, made]
    exact @Signs.fails (fun _ => key.attempt digest entropy) 0 _ given
  | some sig =>
    have given : key.attempt digest entropy = .ok (.ofNatBE 32 sig.r, .ofNatBE 32 sig.s) := by
      rw [attempt, made]
    have low := Ecdsa.isLowS_of_sign? made
    rw [sign, made]
    exact @Signs.low (fun _ => key.attempt digest entropy) 0 (.ofNatBE 32 sig.r)
      (.ofNatBE 32 sig.s) given low

/-! ### Signatures -/

/-- A signature with a low second number takes 71 bytes at most. -/
theorem length_encode_le {r s : Bytes} (left : r.toNatBE < Bytes.capacity 32)
    (width : s.length = 32) (low : Ecdsa.isLowS s = true) : (Der.encode r s).length ≤ 71 := by
  have left := Der.length_integer_le_33 left
  have right : (Der.integer s).length ≤ 32 := by
    refine Der.length_integer_le (by decide) ?_
    have low := (Ecdsa.isLowS_iff width).mp low
    have half : 2 * (Secp256k1.order / 2) < Bytes.capacity 32 := by decide
    omega
  rw [Der.length_encode]
  omega

theorem FixedBytes.toNatBE_lt {width : Nat} (block : FixedBytes width) :
    block.toNatBE < Bytes.capacity width := by
  have bound := Bytes.toNatBE_lt block.bytes
  rwa [block.length_eq] at bound

/-- The signatures of a key take 71 bytes at most. -/
theorem PrivateKey.length_le_of_sign {key : PrivateKey} {digest : Hash256}
    {entropy signature : Bytes} (made : key.sign digest entropy = .ok signature) :
    signature.length ≤ 71 := by
  obtain ⟨_, r, s, -, -, low, rfl⟩ := (key.signs digest entropy).exists_low made
  exact length_encode_le r.toNatBE_lt s.length_eq low

/-- What is written for two numbers below `2 ^ 256`, of any number of bytes, is in strict form and
carries them. A second number of 32 bytes is low when it is at most half of the order, and then the
signature takes at most 71 bytes. So does every signature that is made by attempts, whatever they
give, and those of keys are made in this way. -/
theorem signatures_are_strict_and_low :
    (∀ r s : Bytes, r.toNatBE < Bytes.capacity 32 → s.toNatBE < Bytes.capacity 32 →
      Der.Carries (Der.encode r s) r.toNatBE s.toNatBE) ∧
    (∀ r s : Bytes, r.toNatBE < Bytes.capacity 32 → s.length = 32 → Ecdsa.isLowS s = true →
      s.toNatBE ≤ Secp256k1.order / 2 ∧ (Der.encode r s).length ≤ 71) ∧
    (∀ attempt i signature, Signs attempt i (.ok signature) →
      ∃ j r s, i ≤ j ∧ attempt j = .ok (r, s) ∧ Der.Carries signature r.toNatBE s.toNatBE ∧
        s.toNatBE ≤ Secp256k1.order / 2 ∧ signature.length ≤ 71) ∧
    ∀ (key : PrivateKey) digest entropy,
      Signs (fun _ => key.attempt digest entropy) 0 (key.sign digest entropy) := by
  refine ⟨fun r s => Der.carries_encode, fun r s left width low => ?_, ?_, PrivateKey.signs⟩
  · exact ⟨(Ecdsa.isLowS_iff width).mp low, length_encode_le left width low⟩
  · intro attempt i signature signs
    obtain ⟨j, r, s, later, given, low, rfl⟩ := signs.exists_low rfl
    exact ⟨j, r, s, later, given, Der.carries_encode r.toNatBE_lt s.toNatBE_lt,
      (Ecdsa.isLowS_iff s.length_eq).mp low, length_encode_le r.toNatBE_lt s.length_eq low⟩

/-- An attempt that gives a high second number is followed by another one. The pair of that one is
as large as it may be, and its signature takes all of the 71 bytes. -/
theorem second_attempt_is_written :
    let highest : FixedBytes 32 := .ofNatBE 32 (Secp256k1.order - 1)
    let half : FixedBytes 32 := .ofNatBE 32 (Secp256k1.order / 2)
    let attempt : Nat → Attempt := fun i => .ok (highest, if i = 0 then highest else half)
    let signature := Der.encode highest.bytes half.bytes
    Signs attempt 0 (.ok signature) ∧ 70 < signature.length ∧ signature.length ≤ 71 ∧
      Der.Carries signature (Secp256k1.order - 1) (Secp256k1.order / 2) := by
  intro highest half attempt signature
  obtain ⟨carried, short, -, -⟩ := signatures_are_strict_and_low
  have first : highest.bytes.toNatBE = Secp256k1.order - 1 := by decide +kernel
  have second : half.bytes.toNatBE = Secp256k1.order / 2 := by decide +kernel
  have left : highest.bytes.toNatBE < Bytes.capacity 32 := highest.toNatBE_lt
  have right : half.bytes.toNatBE < Bytes.capacity 32 := half.toNatBE_lt
  have high : Ecdsa.isLowS highest.bytes = false := by decide +kernel
  have low : Ecdsa.isLowS half.bytes = true := by decide +kernel
  have given : attempt 0 = .ok (highest, highest) := rfl
  have given' : attempt 1 = .ok (highest, half) := rfl
  have carries := carried highest.bytes half.bytes left right
  rw [first, second] at carries
  exact ⟨.high given high (.low given' low), by decide +kernel,
    (short highest.bytes half.bytes left half.length_eq low).2, carries⟩

end Cosigner
