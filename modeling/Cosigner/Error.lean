import Cosigner.Hex
import Cosigner.Base58
import Cosigner.Decimal.Shortest
/-!
Everything that can go wrong with keys, scripts and transactions, by cause.

`IntegerFault` belongs to hexadecimal integers. `ChainError` has one constructor for each part of
the chain, and each holds the cause in that part. The wording stands in the `message` functions
and nowhere else.
-/

namespace Cosigner

/-- Why a text denotes no hexadecimal integer. -/
inductive IntegerFault where
  | hex (fault : Hex.Fault)
  | empty
deriving DecidableEq, Repr

def IntegerFault.message : IntegerFault → String
  | .hex fault => "invalid hex: " ++ fault.message
  | .empty => "invalid input: empty hex integer"

inductive PrivateKeyFault where
  | scalarOutOfRange
  | base58 (fault : Base58.Fault)
  | length (actual : Nat)
  | checksum
  | unknownVersion (version : UInt8)
deriving DecidableEq, Repr

inductive AddressFault where
  | malformed (address : String)
  | unknownVersion (version : UInt8)
  | undecodable (address : String)
deriving DecidableEq, Repr

inductive AmountFault where
  | notPositive (address : String) (amount : Int64)
  | totalOverflows
  | notDecimal (text : String)
  | outOfRange (amount : Binary64)
deriving DecidableEq, Repr

inductive ScriptFault where
  | missingOpcode
  | notPush (opcode : UInt8)
  | truncatedLength
  | overrun
  | noPlaceholder
  | foreignRedeemScript
  | keyCount (actual : Nat)
  | requiredCount (required total : Nat)
  | oversized (length : Nat)
deriving DecidableEq, Repr

inductive TransactionFault where
  | missingCount
  | truncatedCount
  | paddedCount (marker : UInt8) (value : Nat)
  | short (needed offset left : Nat)
  | overrun (declared left : Nat)
  | trailing (left : Nat)
  | hex (fault : Hex.Fault)
deriving DecidableEq, Repr

inductive BuildFault where
  | txidHex (fault : Hex.Fault)
  | txidLength (actual : Nat)
  | noRecipients
deriving DecidableEq, Repr

inductive SigningFault where
  | inputOutOfRange (index count : Nat)
  | degenerate
deriving DecidableEq, Repr

/-- The limits that two of the messages quote. -/
def wifLength : Nat := 37
def maxMultisigKeys : Nat := 16
def maxElementSize : Nat := 520

def PrivateKeyFault.message : PrivateKeyFault → String
  | .scalarOutOfRange => "scalar is zero or not below the curve order"
  | .base58 fault => "invalid base58: " ++ fault.message
  | .length actual => "expected " ++ toString wifLength ++ " bytes, got " ++ toString actual
  | .checksum => "invalid checksum"
  | .unknownVersion version => "unknown version byte " ++ Hex.byteLiteral version

def AddressFault.message : AddressFault → String
  | .malformed address => "checksum or encoding error: " ++ address
  | .unknownVersion version => "unknown version byte " ++ Hex.byteLiteral version
  | .undecodable address => "cannot decode " ++ address

def AmountFault.message : AmountFault → String
  | .notPositive address amount =>
    "amount for " ++ address ++ " must be positive, got " ++ toString amount.toInt
  | .totalOverflows => "input total overflows"
  | .notDecimal text => "not a coin amount: " ++ Text.quoted text.toList
  | .outOfRange amount => amount.text ++ " is out of range"

def ScriptFault.message : ScriptFault → String
  | .missingOpcode => "missing push opcode"
  | .notPush opcode => "opcode " ++ Hex.byteLiteral opcode ++ " is not a data push"
  | .truncatedLength => "truncated push length"
  | .overrun => "push overruns script"
  | .noPlaceholder => "multisig scriptSig must start with OP_0"
  | .foreignRedeemScript => "scriptSig does not end with the expected redeem script"
  | .keyCount actual =>
    "multisig needs 1..=" ++ toString maxMultisigKeys ++ " keys, got " ++ toString actual
  | .requiredCount required total =>
    "required signatures " ++ toString required ++ " out of range for " ++ toString total ++ " keys"
  | .oversized length =>
    "redeem script is " ++ toString length ++ " bytes, limit is " ++ toString maxElementSize

def TransactionFault.message : TransactionFault → String
  | .missingCount => "missing varint"
  | .truncatedCount => "truncated varint"
  | .paddedCount marker value =>
    "non-canonical varint " ++ Hex.byteLiteral marker ++ " for " ++ toString value
  | .short needed offset left =>
    "need " ++ toString needed ++ " bytes at offset " ++ toString offset ++ ", only " ++
      toString left ++ " left"
  | .overrun declared left =>
    "declared length " ++ toString declared ++ " exceeds remaining " ++ toString left ++ " bytes"
  | .trailing left => toString left ++ " trailing bytes"
  | .hex fault => "invalid hex: " ++ fault.message

def BuildFault.message : BuildFault → String
  | .txidHex fault => "invalid txid hex: " ++ fault.message
  | .txidLength actual => "txid must be 32 bytes, got " ++ toString actual
  | .noRecipients => "no recipients"

def SigningFault.message : SigningFault → String
  | .inputOutOfRange index count =>
    "input index " ++ toString index ++ " out of range (" ++ toString count ++ " inputs)"
  | .degenerate => "ECDSA signing failed: signature error"

/-- A failure in one part of the chain. -/
inductive ChainError where
  | privateKey (fault : PrivateKeyFault)
  /-- A public key of a length that no public key has. -/
  | publicKey (length : Nat)
  | address (fault : AddressFault)
  | amount (fault : AmountFault)
  | script (fault : ScriptFault)
  | transaction (fault : TransactionFault)
  | build (fault : BuildFault)
  | signing (fault : SigningFault)
  /-- A name that no network has. -/
  | network (name : String)
deriving DecidableEq, Repr

def ChainError.message : ChainError → String
  | .privateKey fault => "invalid private key: " ++ fault.message
  | .publicKey length =>
    "invalid public key: expected 33 or 65 bytes, got " ++ toString length
  | .address fault => "invalid address: " ++ fault.message
  | .amount fault => "invalid amount: " ++ fault.message
  | .script fault => "invalid script: " ++ fault.message
  | .transaction fault => "corrupt transaction: " ++ fault.message
  | .build fault => "transaction build error: " ++ fault.message
  | .signing fault => "signing error: " ++ fault.message
  | .network name => "invalid network: " ++ name

end Cosigner
