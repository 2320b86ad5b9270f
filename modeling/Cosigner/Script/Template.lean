import Cosigner.Address
import Cosigner.Script.Push
/-!
The two standard output scripts, one for each kind of address.

`lockingScript` is the script that pays to an address; `classify?` recognizes exactly such scripts
and gives back the kind and the hash.

* `classify?_payTo`: the script that pays to a hash is recognized.
-/

namespace Cosigner.Script

def opDup : UInt8 := 0x76
def opHash160 : UInt8 := 0xa9
def opEqual : UInt8 := 0x87
def opEqualVerify : UInt8 := 0x88
def opCheckSig : UInt8 := 0xac

/-- Pays to whoever shows a public key with this hash and a signature. -/
def payToKeyHash (hash : Hash160) : Bytes :=
  opDup :: opHash160 :: 0x14 :: hash.bytes ++ [opEqualVerify, opCheckSig]

/-- Pays to whoever shows a script with this hash and satisfies it. -/
def payToScriptHash (hash : Hash160) : Bytes := opHash160 :: 0x14 :: hash.bytes ++ [opEqual]

/-- The script of a kind of address. -/
def payTo : AddressKind → Hash160 → Bytes
  | .keyHash => payToKeyHash
  | .scriptHash => payToScriptHash

/-- The output script that pays to an address text. -/
def lockingScript (address : String) : Except ChainError Bytes :=
  match Address.decode? address with
  | none => .error (.address (.malformed address))
  | some decoded =>
    match decoded.kind? with
    | none => .error (.address (.unknownVersion decoded.version))
    | some kind => .ok (payTo kind decoded.hash)

/-- The kind and the hash of a standard output script. -/
def classify? (script : Bytes) : Option (AddressKind × Hash160) :=
  match script with
  | 0x76 :: 0xa9 :: 0x14 :: rest =>
    if rest.drop 20 = [opEqualVerify, opCheckSig] then
      (FixedBytes.ofBytes? 20 (rest.take 20)).map fun hash => (.keyHash, hash)
    else none
  | 0xa9 :: 0x14 :: rest =>
    if rest.drop 20 = [opEqual] then
      (FixedBytes.ofBytes? 20 (rest.take 20)).map fun hash => (.scriptHash, hash)
    else none
  | _ => none

theorem classify?_payTo (kind : AddressKind) (hash : Hash160) :
    classify? (payTo kind hash) = some (kind, hash) := by
  have front (rest : Bytes) : (hash.bytes ++ rest).take 20 = hash.bytes :=
    List.take_left' hash.length_eq
  have behind (rest : Bytes) : (hash.bytes ++ rest).drop 20 = rest :=
    List.drop_left' hash.length_eq
  have block : FixedBytes.ofBytes? 20 hash.bytes = some hash :=
    FixedBytes.ofBytes?_eq_some.2 rfl
  cases kind <;>
    simp [payTo, payToKeyHash, payToScriptHash, classify?, opDup, opHash160, opEqual, front,
      behind, block]

end Cosigner.Script
