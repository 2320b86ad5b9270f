import Cosigner.Key.Derivation
import Cosigner.Wallet.Error
import Cosigner.Wallet.Program
/-!
A wallet and the programs it runs.

A wallet is a configuration that can be used, bound to a network. What it remembers stands in a
store outside of it, and what it knows of the chain it asks of a node, so its operations are
programs; `WalletProgram` adds failure to them. A failure ends an operation, and what the operation
has put into the store before stays there.
-/

namespace Cosigner

structure Wallet where
  config : WalletConfig
  network : Network

/-- A program that can fail. -/
abbrev WalletProgram := ExceptT WalletError Program

namespace WalletProgram

/-- Asks the node, and fails as it does. -/
def node (query : NodeQuery) : WalletProgram query.Reply := do
  match ← ExceptT.lift (Program.askNode query) with
  | .ok reply => return reply
  | .error e => throw (.node e)

def store (action : StoreAction) : WalletProgram action.Reply :=
  ExceptT.lift (Program.askStore action)

def entropy : WalletProgram Bytes := ExceptT.lift Program.freshEntropy

/-- A computation on the chain's data as a program. -/
def ofChain {α : Type} : Except ChainError α → WalletProgram α
  | .ok value => return value
  | .error e => throw (.chain e)

end WalletProgram

namespace Wallet

/-- The label under which addresses are imported. -/
def addressLabel : String := "signer"

/-- The wallet of a configuration, on its own network or else on that of the node's chain. -/
def new (config : WalletConfig) : WalletProgram Wallet := do
  match config.validate with
  | .error fault => throw (.config fault)
  | .ok () =>
    match config.network with
    | some network => return ⟨config, network⟩
    | none =>
      let name ← WalletProgram.node .chainName
      match Network.ofChainName? name with
      | some network => return ⟨config, network⟩
      | none => throw (.unsupportedChain name)

/-- The key of an identifier at a round; none when the identifier is no hexadecimal integer. -/
def deriveKey? (wallet : Wallet) (identifier : String) (round : Nat) : Option PrivateKey :=
  derivePrivateKey? identifier wallet.config.serverSecret round wallet.network

/-- The public key of an identifier at a round in hexadecimal, to be given to others. -/
def publicKey? (wallet : Wallet) (identifier : String) (round : Nat) : Option String :=
  (wallet.deriveKey? identifier round).map fun key => Hex.encode key.publicKey

/-- The unspent outputs of addresses that have been confirmed often enough. -/
def listUnspent (wallet : Wallet) (addresses : List String) : WalletProgram (List Utxo) :=
  WalletProgram.node (.listUnspent addresses wallet.config.minConfirmations
    wallet.config.maxConfirmations)

/-- The redeem script that a text spells, if it hashes to the address. -/
def verifiedRedeemScript? (address hex : String) (network : Network) : Option Bytes :=
  match Hex.decodeChars (Text.trim hex.toList) with
  | .error _ => none
  | .ok script => if Address.ofRedeemScript script network = address then some script else none

end Wallet

end Cosigner
