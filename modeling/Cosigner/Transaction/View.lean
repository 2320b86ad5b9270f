import Cosigner.Script.Template
import Cosigner.Transaction.Basic
import Cosigner.Json.Basic
/-!
Transactions for readers.

A view shows every output with the address that it pays to on a network, when its script is
one of the standard ones. Byte strings are shown in hexadecimal, and the outputs are numbered.

* `payee?_payTo`: the script that pays to a hash shows the address of that hash.
-/

namespace Cosigner

/-- Whom an output pays. -/
structure Payee where
  kind : AddressKind
  address : String
deriving DecidableEq, Repr

/-- The payee of an output script on a network, when the script is standard. -/
def payee? (network : Network) (script : Bytes) : Option Payee :=
  (Script.classify? script).map fun (kind, hash) =>
    ⟨kind, Address.encode ⟨Address.versionOf network kind, hash⟩⟩

structure OutputView where
  index : Nat
  amount : Int64
  script : Bytes
  payee : Option Payee
deriving DecidableEq, Repr

structure TransactionView where
  txid : String
  version : Int32
  lockTime : UInt32
  inputs : List Input
  outputs : List OutputView
  /-- The sum of the output amounts, unless it overflows. -/
  total : Option Int64
deriving DecidableEq

namespace TransactionView

def outputViews (network : Network) (outputs : List Output) : List OutputView :=
  outputs.zipIdx.map fun (output, index) =>
    ⟨index, output.amount, output.script, payee? network output.script⟩

def ofTransaction (tx : Transaction) (network : Network) : TransactionView where
  txid := tx.id
  version := tx.version
  lockTime := tx.lockTime
  inputs := tx.inputs
  outputs := outputViews network tx.outputs
  total := tx.totalOutput?

end TransactionView

def AddressKind.word : AddressKind → String
  | .keyHash => "pubkeyhash"
  | .scriptHash => "scripthash"

/-! ### JSON forms -/

def Input.toJson (input : Input) : Json := .ofMembers [
  ("previous_txid", .ofText input.previousTxid),
  ("previous_output_index", .ofNat input.outpoint.index.toNat),
  ("script_sig", .ofText (Hex.encode input.script)),
  ("sequence", .ofNat input.sequence.toNat)]

def OutputView.toJson (output : OutputView) : Json := .ofMembers [
  ("index", .ofNat output.index),
  ("amount", .ofInt output.amount.toInt),
  ("script_pub_key", .ofText (Hex.encode output.script)),
  ("address", .ofOption (fun payee => .ofText payee.address) output.payee),
  ("kind", .ofOption (fun payee => .ofText payee.kind.word) output.payee)]

def TransactionView.toJson (view : TransactionView) : Json := .ofMembers [
  ("txid", .ofText view.txid),
  ("version", .ofInt view.version.toInt),
  ("lock_time", .ofNat view.lockTime.toNat),
  ("inputs", .array (view.inputs.map Input.toJson)),
  ("outputs", .array (view.outputs.map OutputView.toJson)),
  ("total_output", .ofOption (fun amount => .ofInt amount.toInt) view.total)]

/-! ### Standard scripts -/

theorem payee?_payTo (network : Network) (kind : AddressKind) (hash : Hash160) :
    payee? network (Script.payTo kind hash) =
      some ⟨kind, Address.encode ⟨Address.versionOf network kind, hash⟩⟩ := by
  rw [payee?, Script.classify?_payTo]
  rfl

end Cosigner
