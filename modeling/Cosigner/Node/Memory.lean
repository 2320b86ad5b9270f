import Cosigner.Node.Query
import Cosigner.Address
import Cosigner.Script.Multisig
import Cosigner.Transaction.Parse
/-!
A node held in memory.

It lists what it has been given, keeps the transactions it has been sent, and builds redeem scripts
itself unless it has been told what descriptor to answer. Each kind of query can be made to
fail, for ever or for a number of times; a failing query changes nothing else.
-/

namespace Cosigner

/-- The kinds of query. -/
inductive NodeMethod where
  | listUnspent
  | rawTransaction
  | broadcast
  | chainName
  | importAddress
  | createMultisig
  | watchedAddresses
  | redeemScript
deriving DecidableEq, Repr

def NodeQuery.method : NodeQuery → NodeMethod
  | .listUnspent _ _ _ => .listUnspent
  | .rawTransaction _ => .rawTransaction
  | .broadcast _ => .broadcast
  | .chainName => .chainName
  | .importAddress _ _ _ => .importAddress
  | .createMultisig _ _ => .createMultisig
  | .watchedAddresses => .watchedAddresses
  | .redeemScript _ => .redeemScript

/-- A failure that a kind of query is to answer, for ever when no number of times is given. -/
structure PlannedFailure where
  error : NodeError
  times : Option Nat

structure MemoryNode where
  chain : String
  utxos : List Utxo
  /-- Watched addresses in the order of their import. -/
  watched : List String
  /-- Hexadecimal transactions by identifier, latest first. -/
  transactions : List (String × String)
  /-- Hexadecimal redeem scripts by address, latest first. -/
  redeemScripts : List (String × String)
  descriptor : Option MultisigDescriptor
  failures : List (NodeMethod × PlannedFailure)

namespace MemoryNode

def new (chain : String) : MemoryNode := ⟨chain, [], [], [], [], none, []⟩

/-- The label under which the node lets addresses be imported. -/
def acceptedLabel : String := "signer"

def recover (node : MemoryNode) (method : NodeMethod) : MemoryNode :=
  { node with failures := node.failures.filter fun failure => decide (failure.1 ≠ method) }

def fail (node : MemoryNode) (method : NodeMethod) (failure : PlannedFailure) : MemoryNode :=
  { node.recover method with failures := (method, failure) :: (node.recover method).failures }

/-- The failure that a kind of query answers next, and the node after it. -/
def nextFailure? (node : MemoryNode) (method : NodeMethod) : Option (NodeError × MemoryNode) :=
  match node.failures.lookup method with
  | none => none
  | some failure =>
    match failure.times with
    | none => some (failure.error, node)
    | some 0 => none
    | some (left + 1) => some (failure.error, node.fail method ⟨failure.error, some left⟩)

def rejectWith {α : Type} : Except ChainError α → Except NodeError α
  | .ok value => .ok value
  | .error e => .error (.rejected e.message)

/-- The bytes of hexadecimal keys. -/
def decodeKeys : List String → Except NodeError (List Bytes)
  | [] => .ok []
  | key :: keys =>
    match Hex.decode key with
    | .error fault => .error (.rejected fault.message)
    | .ok bytes =>
      match decodeKeys keys with
      | .error e => .error e
      | .ok tail => .ok (bytes :: tail)

/-- The network of the node's chain; the test network when the chain is unknown. -/
def network (node : MemoryNode) : Network := (Network.ofChainName? node.chain).getD .testnet

/-- The descriptor that the node itself makes of a quorum. -/
def makeDescriptor (node : MemoryNode) (required : Nat) (publicKeys : List String) :
    Except NodeError MultisigDescriptor := do
  let keys ← decodeKeys publicKeys
  let script ← rejectWith (Quorum.redeemScript ⟨required, keys⟩)
  return ⟨Address.ofRedeemScript script node.network, Hex.encode script⟩

/-- Answers a query that is not made to fail. -/
def serve (node : MemoryNode) : (query : NodeQuery) → Except NodeError query.Reply × MemoryNode
  | .listUnspent addresses minConfirmations maxConfirmations =>
    (.ok (node.utxos.filter fun utxo => decide (utxo.address ∈ addresses ∧
      minConfirmations ≤ utxo.confirmations ∧ utxo.confirmations ≤ maxConfirmations)), node)
  | .rawTransaction txid =>
    match node.transactions.lookup txid with
    | some hex => (.ok hex, node)
    | none => (.error (.rejected ("no such transaction " ++ txid)), node)
  | .broadcast hex =>
    match rejectWith (Transaction.ofHex hex) with
    | .error e => (.error e, node)
    | .ok tx => (.ok tx.id, { node with transactions := (tx.id, hex) :: node.transactions })
  | .chainName => (.ok node.chain, node)
  | .importAddress address label rescan =>
    if label = acceptedLabel ∧ rescan = false then
      (.ok (), { node with watched := node.watched ++ [address] })
    else (.error (.rejected "unexpected import"), node)
  | .createMultisig required publicKeys =>
    match node.descriptor with
    | some descriptor => (.ok descriptor, node)
    | none =>
      match node.makeDescriptor required publicKeys with
      | .error e => (.error e, node)
      | .ok descriptor =>
        (.ok descriptor,
          { node with
            redeemScripts := (descriptor.address, descriptor.redeemScript) :: node.redeemScripts })
  | .watchedAddresses => (.ok node.watched, node)
  | .redeemScript address => (.ok (node.redeemScripts.lookup address), node)

/-- Answers a query. -/
def respond (query : NodeQuery) (node : MemoryNode) :
    Except NodeError query.Reply × MemoryNode :=
  match node.nextFailure? query.method with
  | some (e, node) => (.error e, node)
  | none => node.serve query

end MemoryNode

end Cosigner
