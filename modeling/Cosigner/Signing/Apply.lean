import Cosigner.Key.PrivateKey
import Cosigner.Signature.Der
import Cosigner.Signing.Sighash
/-!
Making signatures, and writing them into a transaction.

A signature uses fresh entropy; with the same entropy, the same key and the same digest, it is the
same. Its second number is always low, and its form is strict DER.

An entry is a signature for the input that spends an outpoint; it is written into the first such
input, and skipped when there is none. A public key hash takes the last signature written, a
quorum gathers them. When one entry cannot be written, none is.
-/

namespace Cosigner

/-- A signature for the input that spends an outpoint, and the key it is by. -/
structure SignatureEntry where
  outpoint : Outpoint
  /-- The DER form, without the hash type. -/
  signature : Bytes
  publicKey : Bytes
deriving DecidableEq

namespace PrivateKey

/-- Signs a digest. -/
def sign (key : PrivateKey) (digest : Hash256) (entropy : Bytes) : Except ChainError Bytes :=
  match Ecdsa.sign? key.scalar.toNatBE digest entropy with
  | some signature => .ok (Der.ofSignature signature)
  | none => .error (.signing .degenerate)

/-- Signs the digest of a request. -/
def answer (key : PrivateKey) (request : SignatureRequest) (entropy : Bytes) :
    Except ChainError SignatureEntry :=
  match key.sign request.digest entropy with
  | .ok signature => .ok ⟨request.outpoint, signature, key.publicKey⟩
  | .error e => .error e

end PrivateKey

namespace SpendTemplate

/-- The script of an input once an entry is written into it. -/
def writeEntry (template : SpendTemplate) (entry : SignatureEntry) (existing : Bytes) :
    Except ChainError Bytes :=
  match template with
  | .keyHash => .ok (Script.keyHashScriptSig entry.signature entry.publicKey)
  | .multisig redeemScript => Multisig.mergeSignature existing entry.signature redeemScript

end SpendTemplate

/-- Writes one entry, and tells whether an input took it. -/
def applyEntry (template : SpendTemplate) (tx : Transaction) (entry : SignatureEntry) :
    Except ChainError (Transaction × Bool) :=
  match tx.findInput? entry.outpoint with
  | none => .ok (tx, false)
  | some index =>
    match tx.inputs[index]? with
    | none => .ok (tx, false)
    | some input =>
      match template.writeEntry entry input.script with
      | .error e => .error e
      | .ok script => .ok (tx.setScript index script, true)

/-- Writes entries in order, and counts those that an input took. -/
def applySignatures (template : SpendTemplate) (tx : Transaction) :
    List SignatureEntry → Except ChainError (Transaction × Nat)
  | [] => .ok (tx, 0)
  | entry :: entries =>
    match applyEntry template tx entry with
    | .error e => .error e
    | .ok (tx, taken) =>
      match applySignatures template tx entries with
      | .error e => .error e
      | .ok (tx, count) => .ok (tx, if taken then count + 1 else count)

end Cosigner
