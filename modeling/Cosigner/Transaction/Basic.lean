import Cosigner.Coin.Amount
import Cosigner.Hash.Sha256
import Cosigner.CompactSize
/-!
Transactions: inputs that spend outputs of earlier transactions, and new outputs.

Every field is kept as it stands on the wire; in particular, an `Outpoint` holds the hash of the
earlier transaction in wire order, and `Txid` turns it into the reversed hexadecimal text by which
transactions are known. `encode` writes a transaction and `id` names it by its encoding.
-/

namespace Cosigner

/-- An output of an earlier transaction: the hash of that transaction in wire order, and the number
of the output. -/
structure Outpoint where
  hash : Hash256
  index : UInt32
deriving DecidableEq

structure Input where
  outpoint : Outpoint
  script : Bytes
  sequence : UInt32
deriving DecidableEq

structure Output where
  amount : Int64
  script : Bytes
deriving DecidableEq

structure Transaction where
  version : Int32
  inputs : List Input
  outputs : List Output
  lockTime : UInt32
deriving DecidableEq

namespace Txid

/-- The text that names the transaction with this hash. -/
def ofHash (hash : Hash256) : String := Hex.encode hash.reverse.bytes

/-- The hash, in wire order, of the transaction that a text names. -/
def toHash (txid : String) : Except ChainError Hash256 :=
  match Hex.decode txid with
  | .error fault => .error (.build (.txidHex fault))
  | .ok bytes =>
    match FixedBytes.ofBytes? 32 bytes with
    | none => .error (.build (.txidLength bytes.length))
    | some hash => .ok hash.reverse

end Txid

namespace Input

/-- The sequence number of an input that is final. -/
def finalSequence : UInt32 := 0xffffffff

/-- An unsigned, final input that spends an output. -/
def unsigned (outpoint : Outpoint) : Input := ⟨outpoint, [], finalSequence⟩

/-- An unsigned, final input that spends the output `index` of the transaction that a text names. -/
def spending (txid : String) (index : UInt32) : Except ChainError Input :=
  match Txid.toHash txid with
  | .ok hash => .ok (unsigned ⟨hash, index⟩)
  | .error e => .error e

def previousTxid (input : Input) : String := Txid.ofHash input.outpoint.hash

end Input

/-- A script with its length in front. -/
def encodeScript (script : Bytes) : Bytes := CompactSize.write script.length ++ script

def Input.encode (input : Input) : Bytes :=
  input.outpoint.hash.bytes ++ Bytes.ofNatLE 4 input.outpoint.index.toNat ++
    encodeScript input.script ++ Bytes.ofNatLE 4 input.sequence.toNat

def Output.encode (output : Output) : Bytes :=
  Bytes.ofNatLE 8 output.amount.toUInt64.toNat ++ encodeScript output.script

namespace Transaction

/-- A transaction of the current version without a lock time. -/
def new (inputs : List Input) (outputs : List Output) : Transaction := ⟨1, inputs, outputs, 0⟩

def encode (tx : Transaction) : Bytes :=
  Bytes.ofNatLE 4 tx.version.toUInt32.toNat ++
    CompactSize.write tx.inputs.length ++ tx.inputs.flatMap Input.encode ++
    CompactSize.write tx.outputs.length ++ tx.outputs.flatMap Output.encode ++
    Bytes.ofNatLE 4 tx.lockTime.toNat

def toHex (tx : Transaction) : String := Hex.encode tx.encode

/-- The text that names a transaction: the reversed digest of its encoding. -/
def id (tx : Transaction) : String := Txid.ofHash (sha256d tx.encode)

/-- The place of the first input that spends an output. -/
def findInput? (tx : Transaction) (outpoint : Outpoint) : Option Nat :=
  tx.inputs.findIdx? fun input => decide (input.outpoint = outpoint)

/-- The sum of all output amounts, when no partial sum overflows. -/
def totalOutput? (tx : Transaction) : Option Int64 := Amount.total? (tx.outputs.map Output.amount)

/-- A transaction without its input scripts. -/
def stripScripts (tx : Transaction) : Transaction :=
  { tx with inputs := tx.inputs.map fun input => { input with script := [] } }

/-- A transaction with the script of one input replaced. -/
def setScript (tx : Transaction) (index : Nat) (script : Bytes) : Transaction :=
  { tx with inputs := tx.inputs.modify index fun input => { input with script := script } }

end Transaction

end Cosigner
