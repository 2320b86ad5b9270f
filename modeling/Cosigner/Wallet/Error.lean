import Cosigner.Node.Query
import Cosigner.Wallet.Config
/-!
Everything that can go wrong with an operation of a wallet, by cause.
-/

namespace Cosigner

/-- Why a set of keys makes no multisig address. -/
inductive MultisigFault where
  | cosignerKey (fault : Hex.Fault)
  /-- The address that the redeem script of a descriptor does not hash to. -/
  | otherAddress (address : String)
  /-- The descriptor of an address is for another number of keys or of signatures. -/
  | otherQuorum (address : String) (required total : Nat)
deriving DecidableEq, Repr

def MultisigFault.message : MultisigFault → String
  | .cosignerKey fault => "cosigner key is not hex: " ++ fault.message
  | .otherAddress address => "redeem script does not hash to " ++ address
  | .otherQuorum address required total =>
    "descriptor for " ++ address ++ " is not " ++ toString required ++ "-of-" ++ toString total

inductive WalletError where
  | config (fault : ConfigFault)
  | noSender
  | unsupportedChain (name : String)
  | missingRedeemScript (address : String)
  | invalidMultisig (fault : MultisigFault)
  /-- There is nothing that could run the discovery task. -/
  | noRuntime
  | node (error : NodeError)
  | chain (error : ChainError)
deriving DecidableEq, Repr

def WalletError.message : WalletError → String
  | .config fault => "Configuration error: " ++ fault.message
  | .noSender => "Invalid address: no sender address"
  | .unsupportedChain name => "Unsupported chain: " ++ name
  | .missingRedeemScript address => "No redeem script known for " ++ address
  | .invalidMultisig fault => "Invalid multisig descriptor: " ++ fault.message
  | .noRuntime => "No async runtime: nothing runs tasks here"
  | .node error => "Node error: " ++ error.message
  | .chain error => "BTC: " ++ error.message

end Cosigner
