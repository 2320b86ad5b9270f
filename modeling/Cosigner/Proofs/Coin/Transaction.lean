import Cosigner.Proofs.Coin.Selection
import Cosigner.Proofs.Script.Template
import Cosigner.Proofs.Transaction.Inputs
/-!
The transaction of a selection.

It has an unsigned input for each output that is spent and an output for each payment and the
change, in order (`inputs_eq_ok_iff`, `outputs_eq_ok_iff`), so it conserves value as the selection
does (`Selection.Balances.conserves`).
-/

namespace Cosigner

/-- The input spends the listed output, and is not signed. -/
structure Utxo.SpentBy (utxo : Utxo) (input : Input) : Prop where
  place : utxo.At input.outpoint
  unsigned : input.script = []
  final : input.sequence = 0xffffffff

/-- The output makes the payment. -/
structure Payment.MadeBy (payment : Payment) (output : Output) : Prop where
  amount : output.amount = payment.amount
  script : Script.PaysTo output.script payment.address

/-- A transaction that spends what the outputs begin with, makes the payments and perhaps returns
change, and leaves exactly the fee for its shape; with every carry on the way exact. -/
structure Transaction.Conserves (utxos : List Utxo) (payments : List Payment)
    (changeAddress : String) (feePerKb : Int64) (selected : List Utxo) (change : Option Payment)
    (tx : Transaction) : Prop where
  prefixed : selected <+: utxos
  inputs : List.Forall₂ Utxo.SpentBy selected tx.inputs
  outputs : List.Forall₂ Payment.MadeBy (payments ++ change.toList) tx.outputs
  change : ∀ returned ∈ change, returned.address = changeAddress ∧ 0 < returned.amount
  balance : Amount.total (selected.map Utxo.amount) -
    Amount.total (tx.outputs.map Output.amount) =
      (estimateFee tx.inputs.length (payments.length + 1) feePerKb).toInt
  /-- After each of the payments, the carry is what was taken less what was paid. -/
  carries : ∀ made rest, payments = made ++ rest → ∃ pool,
    (Pool.start utxos).pay (made.map Payment.amount) = .ok (some pool) ∧
    pool.Balanced utxos (made.map Payment.amount) ∧ pool.taken.reverse <+: selected

theorem Payment.map_amount_of_madeBy {payments : List Payment} {outputs : List Output}
    (made : List.Forall₂ MadeBy payments outputs) :
    outputs.map Output.amount = payments.map Payment.amount := by
  induction made with
  | nil => rfl
  | cons head _ ih => rw [List.map_cons, List.map_cons, head.amount, ih]

/-- The input that is made for a listed output spends it. -/
theorem Input.spending_eq_ok_iff {utxo : Utxo} {input : Input} :
    Input.spending utxo.txid utxo.index = .ok input ↔ utxo.SpentBy input := by
  rw [Input.spending]
  constructor
  · intro spends
    split at spends
    · rename_i hash read
      cases spends
      exact ⟨⟨Txid.toHash_eq_ok_iff.mp read, rfl⟩, rfl, rfl⟩
    · cases spends
  · rintro ⟨⟨names, index⟩, unsigned, final⟩
    rw [Txid.toHash_eq_ok_iff.mpr names, index]
    obtain ⟨outpoint, script, sequence⟩ := input
    subst unsigned final
    rfl

namespace Selection

variable {selection : Selection}

theorem inputs_eq_ok_iff {inputs : List Input} :
    selection.inputs = .ok inputs ↔ List.Forall₂ Utxo.SpentBy selection.selected inputs := by
  simp only [Selection.inputs, Result.mapM_eq_ok_iff, Input.spending_eq_ok_iff]

theorem outputs_eq_ok_iff {outputs : List Output} :
    selection.outputs = .ok outputs ↔
      List.Forall₂ Payment.MadeBy (selection.payments ++ selection.change.toList) outputs := by
  have made (payment : Payment) (output : Output) :
      (do let script ← Script.lockingScript payment.address
          return (⟨payment.amount, script⟩ : Output)) = .ok output ↔ payment.MadeBy output := by
    rw [Result.bind_eq_ok_iff]
    constructor
    · rintro ⟨script, locks, done⟩
      cases done
      exact ⟨rfl, Script.lockingScript_eq_ok_iff_paysTo.mp locks⟩
    · rintro ⟨amount, pays⟩
      exact ⟨output.script, Script.lockingScript_eq_ok_iff_paysTo.mpr pays, by rw [← amount]; rfl⟩
  simp only [Selection.outputs, Result.mapM_eq_ok_iff, made]

theorem toTransaction_eq_ok_iff {tx : Transaction} :
    selection.toTransaction = .ok tx ↔ ∃ inputs outputs, selection.inputs = .ok inputs ∧
      selection.outputs = .ok outputs ∧ tx = .new inputs outputs := by
  rw [toTransaction, Result.bind_eq_ok_iff]
  constructor
  · rintro ⟨inputs, ins, rest⟩
    obtain ⟨outputs, outs, done⟩ := Result.bind_eq_ok_iff.mp rest
    exact ⟨inputs, outputs, ins, outs, (Except.ok.inj done).symm⟩
  · rintro ⟨inputs, outputs, ins, outs, rfl⟩
    exact ⟨inputs, ins, Result.bind_eq_ok_iff.mpr ⟨outputs, outs, rfl⟩⟩

/-- The transaction of a selection that balances conserves value. -/
theorem Balances.conserves {utxos : List Utxo} {payments : List Payment} {changeAddress : String}
    {feePerKb : Int64} {tx : Transaction}
    (balances : selection.Balances utxos payments changeAddress feePerKb)
    (made : selection.toTransaction = .ok tx) :
    tx.Conserves utxos payments changeAddress feePerKb selection.selected selection.change := by
  obtain ⟨inputs, outputs, ins, outs, rfl⟩ := toTransaction_eq_ok_iff.mp made
  have spent := inputs_eq_ok_iff.mp ins
  have paid := outputs_eq_ok_iff.mp outs
  rw [balances.pays] at paid
  refine ⟨balances.spends, spent, paid, balances.change, ?_, balances.carries⟩
  show Amount.total _ - Amount.total (outputs.map Output.amount) =
    (estimateFee inputs.length _ _).toInt
  rw [Payment.map_amount_of_madeBy paid, ← spent.length_eq, ← balances.fee]
  exact balances.balance

end Selection

end Cosigner
