import Cosigner.Bytes
import Cosigner.Json.Basic
import Cosigner.Json.Parse
import Cosigner.Json.Print
import Cosigner.Node.Query
import Cosigner.Signing.Apply
/-!
JSON forms of what signers exchange with a node and with one another.

A node sends unspent outputs and multisig descriptors. Signers send one another the digests to be
signed and the signatures; the two have a written form as well, in which byte strings are arrays
of numbers. A reader accepts members in any order and ignores those it does not know.
-/

namespace Cosigner

namespace Json

/-- Reads a text with a reader of values. -/
def read? {α : Type} (ofJson? : Json → Option α) (text : String) : Option α :=
  (parse? text).bind ofJson?

/-- A byte string as the array of its bytes. -/
def ofBytes (bytes : Bytes) : Json := .array (bytes.map fun b => ofNat b.toNat)

def bytes? (json : Json) : Option Bytes := do
  (← json.array?).mapM fun item => (item.nat? 256).map UInt8.ofNat

/-- A byte string of exactly this width. -/
def block? (width : Nat) (json : Json) : Option (FixedBytes width) :=
  json.bytes?.bind (FixedBytes.ofBytes? width)

def word? (json : Json) : Option UInt32 := (json.nat? Word.bound32).map UInt32.ofNat

/-- A text that may be null. -/
def optionalText? : Json → Option (Option String)
  | .null => some none
  | json => json.text?.map some

/-- The value of a field, or a default when the field is not there. -/
def fieldOr {α : Type} (default : α) (read? : Json → Option α) : Option Json → Option α
  | none => some default
  | some json => read? json

end Json

namespace Network

def toJson (network : Network) : Json := .ofText network.name

/-- The name of a network, or an object whose only member has that name and is null. -/
def ofJson? : Json → Option Network
  | .string literal => (Json.string literal).text?.bind ofName?
  | .object [(literal, .null)] => (Json.string literal).text?.bind ofName?
  | _ => none

end Network

/-- Amounts are numbers of coins. -/
def Utxo.ofJson? (json : Json) : Option Utxo := do
  let names := ["txid", "vout", "amount", "scriptPubKey", "redeemScript", "address",
    "confirmations"]
  match ← json.fields? names with
  | [some txid, some index, some amount, some script, redeemScript, address, confirmations] =>
    let amount ← (Amount.ofCoins (← amount.binary64?)).toOption
    return ⟨← txid.text?, ← index.word?, amount, ← script.text?,
      ← Json.fieldOr none Json.optionalText? redeemScript,
      ← Json.fieldOr "" Json.text? address,
      ← Json.fieldOr 0 (Json.nat? Word.bound32) confirmations⟩
  | _ => none

def MultisigDescriptor.ofJson? (json : Json) : Option MultisigDescriptor := do
  match ← json.fields? ["address", "redeemScript"] with
  | [some address, some script] => return ⟨← address.text?, ← script.text?⟩
  | _ => none

namespace SignatureRequest

def toJson (request : SignatureRequest) : Json := .ofMembers [
  ("input_index", .ofNat request.inputIndex),
  ("previous_tx_hash", .ofBytes request.outpoint.hash.bytes),
  ("previous_output_index", .ofNat request.outpoint.index.toNat),
  ("sighash", .ofBytes request.digest.bytes)]

def ofJson? (json : Json) : Option SignatureRequest := do
  let names := ["input_index", "previous_tx_hash", "previous_output_index", "sighash"]
  match ← json.fields? names with
  | [some inputIndex, some hash, some index, some digest] =>
    return ⟨← inputIndex.nat? Word.bound64, ⟨← hash.block? 32, ← index.word?⟩, ← digest.block? 32⟩
  | _ => none

end SignatureRequest

namespace SignatureEntry

def toJson (entry : SignatureEntry) : Json := .ofMembers [
  ("previous_tx_hash", .ofBytes entry.outpoint.hash.bytes),
  ("previous_output_index", .ofNat entry.outpoint.index.toNat),
  ("signature", .ofBytes entry.signature),
  ("public_key", .ofBytes entry.publicKey)]

def ofJson? (json : Json) : Option SignatureEntry := do
  let names := ["previous_tx_hash", "previous_output_index", "signature", "public_key"]
  match ← json.fields? names with
  | [some hash, some index, some signature, some publicKey] =>
    return ⟨⟨← hash.block? 32, ← index.word?⟩, ← signature.bytes?, ← publicKey.bytes?⟩
  | _ => none

end SignatureEntry

end Cosigner
