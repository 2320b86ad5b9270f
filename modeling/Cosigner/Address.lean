import Cosigner.Network
import Cosigner.Hash.Ripemd160
/-!
Addresses: Base58Check texts of a version byte and a twenty-byte hash.

The version byte tells both the network and whether the hash is that of a public key or of a
script. `Address.decode?` reads any version byte; an address with an unknown one has neither a
kind nor a network.
-/

namespace Cosigner

/-- What an address pays to. -/
inductive AddressKind where
  | keyHash
  | scriptHash
deriving DecidableEq, Repr

/-- The meaning of an address text. -/
structure Address where
  version : UInt8
  hash : Hash160
deriving DecidableEq

namespace Address

/-- The version byte of a kind of address on a network. -/
def versionOf (network : Network) : AddressKind → UInt8
  | .keyHash => network.keyHashVersion
  | .scriptHash => network.scriptHashVersion

def kind? (address : Address) : Option AddressKind :=
  if address.version = 0x00 ∨ address.version = 0x6f then some .keyHash
  else if address.version = 0x05 ∨ address.version = 0xc4 then some .scriptHash
  else none

def network? (address : Address) : Option Network :=
  if address.version = 0x00 ∨ address.version = 0x05 then some .mainnet
  else if address.version = 0x6f ∨ address.version = 0xc4 then some .testnet
  else none

def payload (address : Address) : Bytes := address.version :: address.hash.bytes

/-- The text of an address: version, hash and checksum in Base58. -/
def encode (address : Address) : String :=
  Base58.encode (address.payload ++ checksum address.payload)

/-- Reads the 25 bytes of an address: version, hash and checksum. -/
def ofBytes? (bytes : Bytes) : Option Address :=
  match bytes with
  | [] => none
  | version :: rest =>
    if rest.length = 24 then
      match FixedBytes.ofBytes? 20 (rest.take 20) with
      | none => none
      | some hash =>
        if checksum (version :: rest.take 20) = rest.drop 20 then some ⟨version, hash⟩ else none
    else none

/-- Reads an address text whose checksum holds. -/
def decode? (text : String) : Option Address :=
  match Base58.decode text with
  | .ok bytes => ofBytes? bytes
  | .error _ => none

/-- The address text of a public key. -/
def ofPublicKey (key : Bytes) (network : Network) : String :=
  encode ⟨network.keyHashVersion, hash160 key⟩

/-- The address text of a redeem script. -/
def ofRedeemScript (script : Bytes) (network : Network) : String :=
  encode ⟨network.scriptHashVersion, hash160 script⟩

/-- Whether a text is an address of a script, on either network. -/
def isMultisig (text : String) : Bool := (decode? text).bind kind? == some .scriptHash

theorem kind?_versionOf (network : Network) (kind : AddressKind) (hash : Hash160) :
    kind? ⟨versionOf network kind, hash⟩ = some kind := by
  cases network <;> cases kind <;> rfl

theorem network?_versionOf (network : Network) (kind : AddressKind) (hash : Hash160) :
    network? ⟨versionOf network kind, hash⟩ = some network := by
  cases network <;> cases kind <;> rfl

end Address

end Cosigner
