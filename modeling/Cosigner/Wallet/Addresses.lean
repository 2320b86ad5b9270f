import Cosigner.Script.Multisig
import Cosigner.Wallet.Basic
/-!
Addresses of a wallet.

An identifier is issued the address of its first round whose address the store does not have. The
address is recorded only when the node watches it, so a failed import leaves the round free. If the
address has been recorded in the meantime, the next round is tried.

`createMultisigAddress` makes the redeem script itself, from the first key of an identifier and the
keys of its cosigners in this order. `registerMultisig` takes it from the node's descriptor, after
checking that it hashes to the address and is for as many signatures and keys as were asked for.
Either way the store keeps it under the address.
-/

namespace Cosigner.Wallet

/-- Issues the address of the first free round among the `left` rounds from `round` on. -/
def issueFrom (wallet : Wallet) (identifier : String) :
    (left round : Nat) → WalletProgram (Option String)
  | 0, _ => return none
  | left + 1, round =>
    match wallet.deriveKey? identifier round with
    | none => return none
    | some key => do
      let address := key.address
      if ← WalletProgram.store (.isIssued address) then
        issueFrom wallet identifier left (round + 1)
      else
        WalletProgram.node (.importAddress address addressLabel false)
        if ← WalletProgram.store (.recordRound address round) then
          return some address
        else
          issueFrom wallet identifier left (round + 1)

/-- Issues an address to an identifier. There is none when the identifier is no hexadecimal integer,
or when all rounds are taken. -/
def generateAddress (wallet : Wallet) (identifier : String) : WalletProgram (Option String) :=
  wallet.issueFrom identifier wallet.config.maxRounds 1

/-- The bytes of the cosigners' keys. -/
def cosignerKeys : List String → WalletProgram (List Bytes)
  | [] => return []
  | text :: texts => do
    match Hex.decode text with
    | .error fault => throw (.invalidMultisig (.cosignerKey fault))
    | .ok key => return key :: (← cosignerKeys texts)

/-- Makes an address of a quorum of an identifier and its cosigners, and has the node watch it.
There is none when the identifier is no hexadecimal integer. -/
def createMultisigAddress (wallet : Wallet) (identifier : String) (cosigners : List String)
    (required : Nat) : WalletProgram (Option String) :=
  match wallet.deriveKey? identifier 1 with
  | none => return none
  | some key => do
    let cosignerKeys ← cosignerKeys cosigners
    let quorum : Quorum := ⟨required, key.publicKey :: cosignerKeys⟩
    let script ← WalletProgram.ofChain quorum.redeemScript
    let address := Address.ofRedeemScript script wallet.network
    let _ ← WalletProgram.store (.insertRedeemScript address script)
    let _ ← WalletProgram.store (.recordRound address 1)
    WalletProgram.node (.importAddress address addressLabel false)
    return some address

/-- Whether a script is the redeem script of a quorum of this shape. -/
def hasShape (script : Bytes) (required total : Nat) : Bool :=
  match Quorum.ofRedeemScript? script with
  | some quorum => quorum.required == required && quorum.keys.length == total
  | none => false

/-- Remembers the redeem script of a quorum of keys in hexadecimal that the node describes. -/
def registerMultisig (wallet : Wallet) (required : Nat) (publicKeys : List String) :
    WalletProgram String := do
  let descriptor ← WalletProgram.node (.createMultisig required publicKeys)
  match verifiedRedeemScript? descriptor.address descriptor.redeemScript wallet.network with
  | none => throw (.invalidMultisig (.otherAddress descriptor.address))
  | some script =>
    if hasShape script required publicKeys.length then
      let _ ← WalletProgram.store (.insertRedeemScript descriptor.address script)
      return descriptor.address
    else
      throw (.invalidMultisig (.otherQuorum descriptor.address required publicKeys.length))

/-- The redeem script of a multisig address: the one in the store, or else the node's, which is
then remembered. -/
def redeemScriptOf (wallet : Wallet) (address : String) : WalletProgram Bytes := do
  match ← WalletProgram.store (.redeemScript address) with
  | some script => return script
  | none =>
    let answer ← WalletProgram.node (.redeemScript address)
    match answer.bind fun hex => verifiedRedeemScript? address hex wallet.network with
    | none => throw (.missingRedeemScript address)
    | some script =>
      let _ ← WalletProgram.store (.insertRedeemScript address script)
      return script

end Cosigner.Wallet
