import Cosigner.Script.Push
/-!
Quorums of keys, and the scripts that spend what is locked to them.

A `Quorum` asks for signatures by `required` of its keys. Its redeem script names them in order, and
no redeem script longer than the largest stack element is built, because it could never be shown.
The script that spends such an output begins with an empty push and ends with the push of the redeem
script; the pushes between are signatures, each followed by its hash type. `mergeSignature` adds one
behind those already there.
-/

namespace Cosigner

def opCheckMultisig : UInt8 := 0xae

/-- The hash type of a signature over all inputs and outputs. -/
def sighashAll : UInt8 := 0x01

/-- So many signatures by different keys out of these. -/
structure Quorum where
  required : Nat
  keys : List Bytes
deriving DecidableEq, Repr

namespace Quorum

/-- Whether a byte string is as long as a compressed or an uncompressed public key. -/
def isKeyLength (key : Bytes) : Bool := key.length == 33 || key.length == 65

/-- The opcode that pushes a number from 1 to 16. -/
def smallIntOpcode (n : Nat) : UInt8 := 0x50 + UInt8.ofNat n

/-- The number from 1 to 16 that an opcode pushes. -/
def smallInt? (opcode : UInt8) : Option Nat :=
  if 0x51 ≤ opcode ∧ opcode ≤ 0x60 then some (opcode - 0x50).toNat else none

/-- The redeem script of a quorum: the required number, each key, the number of keys. -/
def redeemScript (quorum : Quorum) : Except ChainError Bytes :=
  let total := quorum.keys.length
  if total = 0 ∨ maxMultisigKeys < total then .error (.script (.keyCount total))
  else if quorum.required = 0 ∨ total < quorum.required then
    .error (.script (.requiredCount quorum.required total))
  else
    match quorum.keys.find? fun key => !isKeyLength key with
    | some key => .error (.publicKey key.length)
    | none =>
      let script := smallIntOpcode quorum.required :: Push.pushAll quorum.keys ++
        [smallIntOpcode total, opCheckMultisig]
      if maxElementSize < script.length then .error (.script (.oversized script.length))
      else .ok script

/-- The keys between the two numbers, when a script has the form of a redeem script. -/
def ofRedeemScript? (script : Bytes) : Option Quorum :=
  match script with
  | [] => none
  | first :: rest =>
    match rest.reverse with
    | last :: second :: middle =>
      if last = opCheckMultisig then
        match smallInt? first, smallInt? second, Push.items middle.reverse with
        | some required, some total, .ok keys =>
          if required ≤ total ∧ keys.length = total ∧ keys.all isKeyLength then
            some ⟨required, keys⟩
          else none
        | _, _, _ => none
      else none
    | _ => none

end Quorum

namespace Multisig

/-- The signatures, hash types included, in a script that spends what is locked to a redeem script.
A script that is still empty has none. -/
def signatures (scriptSig redeemScript : Bytes) : Except ChainError (List Bytes) :=
  match scriptSig with
  | [] => .ok []
  | opcode :: rest =>
    if opcode = 0 then
      let reveal := Push.push redeemScript
      if reveal.isSuffixOf rest then Push.items (rest.take (rest.length - reveal.length))
      else .error (.script .foreignRedeemScript)
    else .error (.script .noPlaceholder)

/-- The script that shows these signatures and the redeem script. -/
def assemble (signatures : List Bytes) (redeemScript : Bytes) : Bytes :=
  0 :: Push.pushAll signatures ++ Push.push redeemScript

/-- A list with a member added at its end, unless it is there. -/
def addOnce (entries : List Bytes) (entry : Bytes) : List Bytes :=
  if entry ∈ entries then entries else entries ++ [entry]

/-- Adds a signature to a script, behind those it already shows. A signature that is there is not
added again. -/
def mergeSignature (existing signature redeemScript : Bytes) : Except ChainError Bytes :=
  match signatures existing redeemScript with
  | .error e => .error e
  | .ok present => .ok (assemble (addOnce present (signature ++ [sighashAll])) redeemScript)

end Multisig

namespace Script

/-- The script that shows a signature and the public key it is by. -/
def keyHashScriptSig (signature publicKey : Bytes) : Bytes :=
  Push.push (signature ++ [sighashAll]) ++ Push.push publicKey

end Script

end Cosigner
