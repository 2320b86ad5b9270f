import Cosigner.Bytes
import Cosigner.Coin.Amount
import Cosigner.Script.Template
import Cosigner.Transaction.Basic
/-!
Choosing which outputs pay for a list of payments.

Outputs are taken in the order of the node. Each payment takes outputs until what has been carried
over strictly exceeds its amount, and the rest carries over to the next payment; then outputs are
taken until the carry covers the fee. The fee is estimated for the outputs taken so far and one
output of change. What the carry holds beyond the fee is the change.
-/

namespace Cosigner

/-- The projected size of a transaction, its fixed part and each input and output. -/
def baseSize : Nat := 10
def inputSize : Nat := 181
def outputSize : Nat := 34

/-- The fee of a transaction of this shape: each started kilobyte at the given rate, clamped to the
range of an amount. -/
def estimateFee (inputs outputs : Nat) (feePerKb : Int64) : Int64 :=
  let size := min (baseSize + inputSize * inputs + outputSize * outputs) (Word.bound64 - 1)
  Amount.clamp (((size + 999) / 1000 : Nat) * feePerKb.toInt)

/-- An address text and the amount it receives. -/
structure Payment where
  address : String
  amount : Int64
deriving DecidableEq, Repr

structure Selection where
  /-- The outputs to spend, in the order they were taken. -/
  selected : List Utxo
  payments : List Payment
  change : Option Payment
  fee : Int64
deriving DecidableEq

/-- The outputs not yet taken, those taken, and their total less what has been paid. -/
structure Pool where
  left : List Utxo
  /-- Latest first. -/
  taken : List Utxo
  carry : Int64

namespace Pool

def start (utxos : List Utxo) : Pool := ⟨utxos, [], 0⟩

/-- Takes outputs from a list until the test holds of the carry and the number taken; nothing when
they run out. -/
def pullFrom (enough : Int64 → Nat → Bool) :
    List Utxo → List Utxo → Int64 → Except ChainError (Option Pool)
  | [], taken, carry =>
    if enough carry taken.length then .ok (some ⟨[], taken, carry⟩) else .ok none
  | utxo :: left, taken, carry =>
    if enough carry taken.length then .ok (some ⟨utxo :: left, taken, carry⟩)
    else
      match Amount.add? carry utxo.amount with
      | none => .error (.amount .totalOverflows)
      | some carry => pullFrom enough left (utxo :: taken) carry

def pullUntil (enough : Int64 → Nat → Bool) (pool : Pool) : Except ChainError (Option Pool) :=
  pullFrom enough pool.left pool.taken pool.carry

/-- Pays each amount in turn. -/
def pay : List Int64 → Pool → Except ChainError (Option Pool)
  | [], pool => .ok (some pool)
  | amount :: amounts, pool =>
    match pool.pullUntil fun carry _ => decide (amount < carry) with
    | .error e => .error e
    | .ok none => .ok none
    | .ok (some pool) => pay amounts { pool with carry := pool.carry - amount }

end Pool

/-- Refuses the first payment that is not positive or has no output script. -/
def checkPayments : List Payment → Except ChainError Unit
  | [] => .ok ()
  | payment :: payments =>
    if payment.amount ≤ 0 then
      .error (.amount (.notPositive payment.address payment.amount))
    else
      match Script.lockingScript payment.address with
      | .error e => .error e
      | .ok _ => checkPayments payments

/-- Selects the outputs that pay the payments and a fee, with change to an address. There is no
selection when the outputs do not suffice. -/
def selectUtxos (utxos : List Utxo) (payments : List Payment) (changeAddress : String)
    (feePerKb : Int64) : Except ChainError (Option Selection) := do
  if payments.isEmpty then throw (.build .noRecipients)
  checkPayments payments
  let _ ← Script.lockingScript changeAddress
  let feeOf := fun inputs => estimateFee inputs (payments.length + 1) feePerKb
  match ← (Pool.start utxos).pay (payments.map Payment.amount) with
  | none => return none
  | some paid =>
    match ← paid.pullUntil fun carry count => decide (feeOf count ≤ carry) with
    | none => return none
    | some pool =>
      let fee := feeOf pool.taken.length
      let selected := pool.taken.reverse
      if fee < pool.carry then
        return some ⟨selected, payments, some ⟨changeAddress, pool.carry - fee⟩, fee⟩
      else
        return some ⟨selected, payments, none, pool.carry⟩

namespace Selection

def inputs (selection : Selection) : Except ChainError (List Input) :=
  selection.selected.mapM fun utxo => Input.spending utxo.txid utxo.index

/-- The outputs of the payments and then of the change. -/
def outputs (selection : Selection) : Except ChainError (List Output) :=
  (selection.payments ++ selection.change.toList).mapM fun payment => do
    let script ← Script.lockingScript payment.address
    return ⟨payment.amount, script⟩

/-- The unsigned transaction of a selection. -/
def toTransaction (selection : Selection) : Except ChainError Transaction := do
  return Transaction.new (← selection.inputs) (← selection.outputs)

end Selection

end Cosigner
