import Cosigner.Proofs.Coin.Transaction
import Cosigner.Proofs.Script.Push
import Cosigner.Proofs.Transaction.Length
import Cosigner.Script.Multisig
/-!
The fee of a selection covers the signed transaction.

A fee is estimated before anything is signed, from ten bytes for the transaction, 181 for each
input and 34 for each output. An input that shows a signature and a public key takes at most 180
bytes, one less than projected; an output takes at most the 34. The two counts take two of the ten
bytes only as long as they are below 253. What the counts take more is made up for by the inputs,
except when one input stands before 253 outputs or more: then the transaction may be one byte longer
than projected (`length_encode_le_projected`, `fee_covers_one_byte_more`). The projection is an odd
number in that case and so no multiple of a thousand, and the two sizes start as many kilobytes
(`kilobytes_le_projected`).
-/

namespace Cosigner

/-! ### Sizes of the parts -/

/-- What is written for members of a list takes at most so many times the bound on each. -/
theorem length_flatMap_le {α β : Type} {related : α → β → Prop} {write : β → Bytes} {bound : Nat}
    {xs : List α} {ys : List β} (pairs : List.Forall₂ related xs ys)
    (each : ∀ {x y}, related x y → (write y).length ≤ bound) :
    (ys.flatMap write).length ≤ bound * ys.length := by
  induction pairs with
  | nil => exact Nat.le_refl 0
  | cons head _ ih =>
    have here := each head
    rw [List.flatMap_cons, List.length_append, List.length_cons, Nat.mul_succ]
    omega

/-- A signature and a public key of at most the usual lengths take at most 139 bytes. -/
theorem Script.length_keyHashScriptSig_le {signature publicKey : Bytes}
    (short : signature.length ≤ 71) (short' : publicKey.length ≤ 65) :
    (keyHashScriptSig signature publicKey).length ≤ 139 := by
  have entry : (signature ++ [sighashAll]).length = signature.length + 1 := List.length_append
  rw [keyHashScriptSig, List.length_append, Push.push_of_lt (by omega),
    Push.push_of_lt (by omega), List.length_cons, List.length_cons, entry]
  omega

/-! ### Signed transactions -/

/-- An input once it shows a signature and a public key of at most the usual lengths. -/
def Input.SignedBy (before after : Input) : Prop :=
  ∃ signature publicKey : Bytes, signature.length ≤ 71 ∧ publicKey.length ≤ 65 ∧
    after = { before with script := Script.keyHashScriptSig signature publicKey }

/-- A transaction once each of its inputs shows a signature and a public key. -/
structure Transaction.SignedBy (before after : Transaction) : Prop where
  version : after.version = before.version
  inputs : List.Forall₂ Input.SignedBy before.inputs after.inputs
  outputs : after.outputs = before.outputs
  lockTime : after.lockTime = before.lockTime

theorem Input.SignedBy.length_encode_le {before after : Input} (signed : before.SignedBy after) :
    after.encode.length ≤ 180 := by
  obtain ⟨signature, publicKey, short, short', rfl⟩ := signed
  have script := Script.length_keyHashScriptSig_le short short'
  have whole := length_encodeScript_of_lt (Nat.lt_of_le_of_lt script (by decide))
  rw [Input.length_encode]
  dsimp only
  omega

/-- An output that makes a payment takes at most the projected size. -/
theorem Payment.MadeBy.length_encode_le {payment : Payment} {output : Output}
    (made : payment.MadeBy output) : output.encode.length ≤ outputSize := by
  have script := made.script.length_le
  rw [Output.length_encode, length_encodeScript_of_lt (by omega), outputSize]
  omega

/-- What a transaction of this shape is projected to take. -/
def projectedSize (inputs outputs : Nat) : Nat :=
  baseSize + inputSize * inputs + outputSize * outputs

/-- A signed transaction that makes payments takes at most the projected size; one byte more may be
taken with a single input before 253 outputs or more. -/
theorem Transaction.SignedBy.length_encode_le_projected {tx signed : Transaction}
    {payments : List Payment} (signs : tx.SignedBy signed)
    (made : List.Forall₂ Payment.MadeBy payments tx.outputs) (some : 0 < tx.inputs.length)
    (few : tx.outputs.length ≤ 0xffff) :
    signed.encode.length ≤ projectedSize tx.inputs.length tx.outputs.length ∨
      tx.inputs.length = 1 ∧
        signed.encode.length ≤ projectedSize tx.inputs.length tx.outputs.length + 1 := by
  have inputs := length_flatMap_le signs.inputs Input.SignedBy.length_encode_le
  have outputs := length_flatMap_le made Payment.MadeBy.length_encode_le
  have total := signed.length_encode
  rw [← signs.inputs.length_eq] at inputs
  rw [← signs.inputs.length_eq, signs.outputs] at total
  simp only [CompactSize.length_write] at total
  simp only [outputSize] at outputs
  simp only [projectedSize, baseSize, inputSize, outputSize]
  grind

/-- The signed transaction starts no more kilobytes than the projection, with an output of change
counted or not. -/
theorem kilobytes_le_projected {size inputs outputs counted : Nat} (le : outputs ≤ counted)
    (fits : size ≤ projectedSize inputs outputs ∨
      inputs = 1 ∧ size ≤ projectedSize inputs outputs + 1) :
    (size + 999) / 1000 ≤ (projectedSize inputs counted + 999) / 1000 := by
  simp only [projectedSize, baseSize, inputSize, outputSize] at fits ⊢
  omega

/-! ### The fee -/

/-- The fee of a projected size that is a number of 64 bits. -/
theorem toInt_estimateFee {inputs outputs : Nat} {feePerKb : Int64} (positive : 0 < feePerKb)
    (fits : projectedSize inputs outputs < Word.bound64) :
    (estimateFee inputs outputs feePerKb).toInt =
      min (((projectedSize inputs outputs + 999) / 1000 : Nat) * feePerKb.toInt)
        Int64.maxValue.toInt := by
  have nonneg := Int.le_of_lt (Int64.lt_iff_toInt_lt.mp positive)
  have size : min (projectedSize inputs outputs) (Word.bound64 - 1) =
      projectedSize inputs outputs := by
    omega
  rw [estimateFee, ← projectedSize, size]
  exact Amount.toInt_clamp_of_nonneg (Int.mul_nonneg (Int.natCast_nonneg _) nonneg)

section Selection

variable {utxos : List Utxo} {payments : List Payment} {changeAddress : String} {feePerKb : Int64}
  {selection : Selection}

theorem ne_nil_of_selectUtxos
    (selects : selectUtxos utxos payments changeAddress feePerKb = .ok (some selection)) :
    payments ≠ [] := by
  rintro rfl
  cases selects

/-- A selection spends something, because it pays something. -/
theorem Selection.Balances.selected_pos (asked : payments ≠ [])
    (balances : selection.Balances utxos payments changeAddress feePerKb)
    (positive : ∀ payment ∈ payments, 0 < payment.amount) (fee : 0 ≤ selection.fee.toInt) :
    0 < selection.selected.length := by
  have paid : 0 < Amount.total ((payments ++ selection.change.toList).map Payment.amount) := by
    refine Amount.total_pos (fun amount mem => ?_) (by simp [asked])
    obtain ⟨payment, there, rfl⟩ := List.mem_map.mp mem
    rcases List.mem_append.mp there with there | there
    · exact positive payment there
    · exact (balances.change payment (Option.mem_toList.mp there)).2
  have balance := balances.balance
  refine List.length_pos_iff.mpr fun none => ?_
  rw [none, List.map_nil, Amount.total] at balance
  omega

end Selection

/-- The fee of a selection covers the transaction that it makes once its inputs show signatures and
public keys of at most the usual lengths: it is the rate for every kilobyte that the signed
transaction starts, up to the largest amount. -/
theorem fee_covers_signed_size (utxos : List Utxo) (payments : List Payment)
    (changeAddress : String) (feePerKb : Int64) (selection : Selection) (tx signed : Transaction)
    (positive : 0 < feePerKb)
    (selects : selectUtxos utxos payments changeAddress feePerKb = .ok (some selection))
    (made : selection.toTransaction = .ok tx) (few : tx.outputs.length ≤ 65535)
    (fits : projectedSize tx.inputs.length (payments.length + 1) < Word.bound64)
    (signs : tx.SignedBy signed) :
    min Int64.maxValue.toInt (((signed.encode.length + 999) / 1000 : Nat) * feePerKb.toInt) ≤
      selection.fee.toInt := by
  obtain ⟨checked, -⟩ := exists_pools_of_selectUtxos selects
  have balances := selectUtxos_balances positive selects
  have conserves := balances.conserves made
  have fee := balances.fee
  have some : 0 < selection.selected.length := by
    refine balances.selected_pos (ne_nil_of_selectUtxos selects)
      (positive_of_checkPayments checked) ?_
    rw [fee]
    exact estimateFee_nonneg positive _ _
  rw [conserves.inputs.length_eq] at fee some
  -- The fee counts an output of change whether or not there is one.
  have counted : tx.outputs.length ≤ payments.length + 1 := by
    have change := Option.length_toList_le (o := selection.change)
    rw [← conserves.outputs.length_eq, List.length_append]
    omega
  have kilobytes := kilobytes_le_projected counted
    (signs.length_encode_le_projected conserves.outputs some few)
  have rate := Int.le_of_lt (Int64.lt_iff_toInt_lt.mp positive)
  have charged := Int.mul_le_mul_of_nonneg_right (Int.ofNat_le.mpr kilobytes) rate
  rw [fee, toInt_estimateFee positive fits, Int.min_comm]
  omega

/-- The transaction that pays so many outputs of a thousand satoshis, and the rest back. -/
def sampleFanOut (count : Nat) (script : Bytes) : Transaction :=
  .new [⟨⟨.ofNatBE 32 1, 0⟩, script, Input.finalSequence⟩]
    (List.replicate count ⟨1000, Script.payToKeyHash samplePayeeHash⟩ ++
      [⟨739000, Script.payToKeyHash samplePayeeHash⟩])

/-- A script with the longest signature and the longest key. -/
def sampleScriptSig : Bytes :=
  Script.keyHashScriptSig (List.replicate 71 0x30) (List.replicate 65 0x04)

/-- One input before 253 outputs takes a byte more than projected, and the fee still covers it. -/
theorem fee_covers_one_byte_more :
    let payments : List Payment := List.replicate 252 ⟨samplePayee, 1000⟩
    projectedSize 1 253 < (sampleFanOut 252 sampleScriptSig).encode.length ∧
      ∃ selection,
        selectUtxos [sampleUtxo 1 1000000] payments samplePayee 1000 = .ok (some selection) ∧
        selection.toTransaction = .ok (sampleFanOut 252 []) ∧ 9000 ≤ selection.fee.toInt := by
  intro payments
  let selection : Selection :=
    ⟨[sampleUtxo 1 1000000], payments, some ⟨samplePayee, 739000⟩, 9000⟩
  have selects : selectUtxos [sampleUtxo 1 1000000] payments samplePayee 1000 =
      .ok (some selection) := by decide +kernel
  have made : selection.toTransaction = .ok (sampleFanOut 252 []) := by decide +kernel
  have signs : (sampleFanOut 252 []).SignedBy (sampleFanOut 252 sampleScriptSig) :=
    ⟨rfl, .cons ⟨List.replicate 71 0x30, List.replicate 65 0x04, by decide, by decide, rfl⟩ .nil,
      rfl, rfl⟩
  have longer : projectedSize 1 253 < (sampleFanOut 252 sampleScriptSig).encode.length := by
    decide +kernel
  refine ⟨longer, selection, selects, made, ?_⟩
  have covers := fee_covers_signed_size _ _ _ _ _ _ _ (by decide) selects made (by decide +kernel)
    (by decide +kernel) signs
  refine Int.le_trans ?_ covers
  decide +kernel

end Cosigner
