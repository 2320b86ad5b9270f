import Cosigner.Coin.Amount
/-!
What the wallet asks of a node, and how a node can fail.

The type of a reply depends on the query. Every query can fail, and a failure carries the node's
own words.
-/

namespace Cosigner

inductive NodeError where
  | unreachable (reason : String)
  | rejected (reason : String)
  | invalidResponse (reason : String)
deriving DecidableEq, Repr

def NodeError.message : NodeError → String
  | .unreachable reason => "node unreachable: " ++ reason
  | .rejected reason => "node rejected request: " ++ reason
  | .invalidResponse reason => "unexpected node response: " ++ reason

/-- A multisig address and its redeem script in hexadecimal. -/
structure MultisigDescriptor where
  address : String
  redeemScript : String
deriving DecidableEq, Repr

inductive NodeQuery where
  /-- The unspent outputs of these addresses, in the order of the node, that have at least and at
  most so many confirmations. -/
  | listUnspent (addresses : List String) (minConfirmations maxConfirmations : Nat)
  /-- The hexadecimal text of a transaction. -/
  | rawTransaction (txid : String)
  /-- Sends a transaction to the network; the reply is its identifier. -/
  | broadcast (hex : String)
  | chainName
  /-- Starts to watch an address under a label. -/
  | importAddress (address label : String) (rescan : Bool)
  /-- The multisig address of keys in hexadecimal. -/
  | createMultisig (required : Nat) (publicKeys : List String)
  | watchedAddresses
  /-- The redeem script in hexadecimal of an address, if the node knows it. -/
  | redeemScript (address : String)
deriving DecidableEq, Repr

/-- What a node replies to a query that does not fail. -/
abbrev NodeQuery.Reply : NodeQuery → Type
  | .listUnspent _ _ _ => List Utxo
  | .rawTransaction _ => String
  | .broadcast _ => String
  | .chainName => String
  | .importAddress _ _ _ => Unit
  | .createMultisig _ _ => MultisigDescriptor
  | .watchedAddresses => List String
  | .redeemScript _ => Option String

end Cosigner
