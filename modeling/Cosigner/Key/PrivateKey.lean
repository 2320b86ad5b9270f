import Cosigner.Address
import Cosigner.Curve.Ecdsa
/-!
Private keys and their Base58Check text.

A private key is a scalar from 1 to the group order less one, bound to a network. The text of a
key holds the network's version byte, the scalar and a checksum; there is no text for a key
whose public key is compressed. The description of a key shows its network only.
-/

namespace Cosigner

/-- The group order as 32 bytes. -/
def orderBytes : Bytes := Bytes.ofNatBE 32 Secp256k1.order

/-- Whether 32 bytes are a usable scalar: not all zero, and below the group order. Strings of one
length compare like the numbers they denote. -/
def isValidScalar (scalar : FixedBytes 32) : Bool :=
  scalar.bytes.any (· != 0) && decide (scalar.bytes < orderBytes)

structure PrivateKey where
  scalar : FixedBytes 32
  network : Network
  valid : isValidScalar scalar = true
deriving DecidableEq

namespace PrivateKey

def ofScalar (scalar : FixedBytes 32) (network : Network) : Except ChainError PrivateKey :=
  if h : isValidScalar scalar = true then .ok ⟨scalar, network, h⟩
  else .error (.privateKey .scalarOutOfRange)

/-- The key in the 37 bytes of a decoded text: version, scalar and checksum. -/
def ofBytes (bytes : Bytes) : Except ChainError PrivateKey :=
  if bytes.length ≠ wifLength then .error (.privateKey (.length bytes.length))
  else if checksum (bytes.take 33) ≠ bytes.drop 33 then .error (.privateKey .checksum)
  else
    let version := bytes.headD 0
    match Network.ofKeyVersion? version, FixedBytes.ofBytes? 32 ((bytes.take 33).drop 1) with
    | some network, some scalar => ofScalar scalar network
    | _, _ => .error (.privateKey (.unknownVersion version))

/-- Reads the Base58Check text of a key. -/
def ofWif (text : String) : Except ChainError PrivateKey :=
  match Base58.decode text with
  | .error fault => .error (.privateKey (.base58 fault))
  | .ok bytes => ofBytes bytes

def payload (key : PrivateKey) : Bytes := key.network.keyVersion :: key.scalar.bytes

/-- The Base58Check text of a key. -/
def toWif (key : PrivateKey) : String := Base58.encode (key.payload ++ checksum key.payload)

/-- The uncompressed public key, 65 bytes. -/
def publicKey (key : PrivateKey) : Bytes :=
  (Secp256k1.Point.times key.scalar.toNatBE .generator).encode

/-- The address that pays to the public key. -/
def address (key : PrivateKey) : String := Address.ofPublicKey key.publicKey key.network

def describe (key : PrivateKey) : String :=
  let network := match key.network with
    | .mainnet => "Mainnet"
    | .testnet => "Testnet"
  "PrivateKey \x7b network: " ++ network ++ ", .. \x7d"

end PrivateKey

end Cosigner
