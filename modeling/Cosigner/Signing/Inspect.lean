import Cosigner.Signature.Der
import Cosigner.Signing.Sighash
/-!
Which signatures of a transaction are valid.

A signature is valid when its form is strict DER and it verifies for the digest of its input under
a key that the script of the input shows: the public key behind it, or a key of the redeem
script.
-/

namespace Cosigner

/-- What can be told of a valid signature besides its validity. -/
structure SignatureForm where
  /-- The second number is at most half the group order. -/
  isLow : Bool
  /-- Writing the two numbers again gives the same bytes. -/
  isMinimal : Bool
deriving DecidableEq, Repr

/-- The form of a signature, when it is valid for a digest under a public key. -/
def signatureForm? (publicKey : Bytes) (digest : Hash256) (signature : Bytes) :
    Option SignatureForm := do
  let point ← Secp256k1.Point.decode? publicKey
  let decoded ← Der.decode? signature
  if Ecdsa.verify point digest decoded then
    some ⟨Ecdsa.isLowS (Bytes.ofNatBE 32 decoded.s), Der.ofSignature decoded == signature⟩
  else none

/-- A signature with its hash type behind it, when it is valid. -/
def sealedForm? (publicKey : Bytes) (digest : Hash256) (sealed : Bytes) :
    Option (UInt8 × SignatureForm) := do
  let hashType ← sealed.getLast?
  let form ← signatureForm? publicKey digest sealed.dropLast
  return (hashType, form)

/-- A signature in a script of a quorum. -/
inductive QuorumSignature where
  /-- Valid under the key of this number, the first such key. -/
  | valid (key : Nat) (hashType : UInt8) (form : SignatureForm)
  | other (bytes : Bytes)
deriving DecidableEq, Repr

/-- The first key from a number on under which a signature is valid. -/
def firstValidKey? (digest : Hash256) (sealed : Bytes) : Nat → List Bytes →
    Option (Nat × UInt8 × SignatureForm)
  | _, [] => none
  | index, key :: keys =>
    match sealedForm? key digest sealed with
    | some (hashType, form) => some (index, hashType, form)
    | none => firstValidKey? digest sealed (index + 1) keys

def QuorumSignature.ofBytes (keys : List Bytes) (digest : Hash256) (sealed : Bytes) :
    QuorumSignature :=
  match firstValidKey? digest sealed 0 keys with
  | some (key, hashType, form) => .valid key hashType form
  | none => .other sealed

def QuorumSignature.isValid : QuorumSignature → Bool
  | .valid _ _ _ => true
  | .other _ => false

/-- The valid signatures that the script of an input shows. -/
inductive SpendProof where
  | keyHash (hashType : UInt8) (form : SignatureForm) (publicKey : Bytes)
  | quorum (signatures : List QuorumSignature) (redeemScript : Bytes)
deriving DecidableEq, Repr

/-- The proof in a script that shows a redeem script. -/
def quorumProof? (tx : Transaction) (index : Nat) (script : Bytes) : Option SpendProof := do
  let items ← (Push.items script).toOption
  let redeemScript ← items.getLast?
  let quorum ← Quorum.ofRedeemScript? redeemScript
  let present ← (Multisig.signatures script redeemScript).toOption
  let digest ← (signatureHash tx index redeemScript).toOption
  let signatures := present.map (QuorumSignature.ofBytes quorum.keys digest)
  if signatures.any QuorumSignature.isValid then some (.quorum signatures redeemScript) else none

/-- The proof in a script that shows a public key. -/
def keyHashProof? (tx : Transaction) (index : Nat) (script : Bytes) : Option SpendProof := do
  match ← (Push.items script).toOption with
  | [sealed, publicKey] =>
    let digest ← (signatureHash tx index (Script.payToKeyHash (hash160 publicKey))).toOption
    let (hashType, form) ← sealedForm? publicKey digest sealed
    return .keyHash hashType form publicKey
  | _ => none

/-- The proof in the script of an input. -/
def spendProof? (tx : Transaction) (index : Nat) (script : Bytes) : Option SpendProof :=
  (quorumProof? tx index script).or (keyHashProof? tx index script)

/-- The proof of each input. -/
def Transaction.spendProofs (tx : Transaction) : List (Option SpendProof) :=
  tx.inputs.zipIdx.map fun (input, index) => spendProof? tx index input.script

end Cosigner
