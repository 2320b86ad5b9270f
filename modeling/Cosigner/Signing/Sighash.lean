import Cosigner.Coin.Amount
import Cosigner.Script.Template
import Cosigner.Script.Multisig
import Cosigner.Transaction.Basic
/-!
What a signer signs.

The digest of an input is that of the whole transaction with every script removed, except that the
input itself holds its script code, followed by the hash type. The script code is the output
script of a public key hash or, behind a script hash, the redeem script. `signatureRequests`
lists the digests for all inputs of a transaction that spend outputs of one address.
-/

namespace Cosigner

/-- How the outputs of an address are spent. -/
inductive SpendTemplate where
  | keyHash
  | multisig (redeemScript : Bytes)
deriving DecidableEq, Repr

/-- The template for a redeem script, if there is one. -/
def SpendTemplate.ofRedeemScript : Option Bytes → SpendTemplate
  | some redeemScript => .multisig redeemScript
  | none => .keyHash

/-- A digest to be signed for one input. -/
structure SignatureRequest where
  inputIndex : Nat
  outpoint : Outpoint
  digest : Hash256
deriving DecidableEq

/-- The bytes whose digest is signed for an input. -/
def signaturePreimage (tx : Transaction) (index : Nat) (scriptCode : Bytes) : Bytes :=
  (tx.stripScripts.setScript index scriptCode).encode ++ Bytes.ofNatLE 4 sighashAll.toNat

/-- The digest of an input under a script code. -/
def signatureHash (tx : Transaction) (index : Nat) (scriptCode : Bytes) :
    Except ChainError Hash256 :=
  if index < tx.inputs.length then .ok (sha256d (signaturePreimage tx index scriptCode))
  else .error (.signing (.inputOutOfRange index tx.inputs.length))

/-- The script code for the outputs of an address. -/
def SpendTemplate.scriptCode (template : SpendTemplate) (address : String) :
    Except ChainError Bytes :=
  match template with
  | .multisig redeemScript => .ok redeemScript
  | .keyHash =>
    match Address.decode? address with
    | some decoded => .ok (Script.payToKeyHash decoded.hash)
    | none => .error (.address (.undecodable address))

/-- The requests for these outputs, in order; an output that the transaction does not spend has
none. -/
def requestsFor (tx : Transaction) (scriptCode : Bytes) :
    List Utxo → Except ChainError (List SignatureRequest)
  | [] => .ok []
  | utxo :: utxos => do
    let hash ← Txid.toHash utxo.txid
    let outpoint : Outpoint := ⟨hash, utxo.index⟩
    match tx.findInput? outpoint with
    | none => requestsFor tx scriptCode utxos
    | some index =>
      let digest ← signatureHash tx index scriptCode
      let requests ← requestsFor tx scriptCode utxos
      return ⟨index, outpoint, digest⟩ :: requests

/-- The requests for every input that spends one of the outputs owned by exactly this address. -/
def signatureRequests (tx : Transaction) (address : String) (utxos : List Utxo)
    (template : SpendTemplate) : Except ChainError (List SignatureRequest) := do
  let scriptCode ← template.scriptCode address
  requestsFor tx scriptCode (utxos.filter fun utxo => utxo.address == address)

end Cosigner
