import Cosigner.Coin.Selection
import Cosigner.Signing.Apply
import Cosigner.Transaction.Parse
import Cosigner.Transaction.View
import Cosigner.Wallet.Addresses
/-!
Spending: transactions made, signed and sent.

A transaction spends what the node lists under the senders' addresses. It is signed for one address
at a time, by the key of an identifier that controls the address: for a public key hash the key
whose address it is, for a multisig address a key that its redeem script names.
-/

namespace Cosigner.Wallet

/-- The unsigned transaction that makes payments from these addresses, with change to the first of
them. There is none when the outputs do not suffice. -/
def createTransaction (wallet : Wallet) (senders : List String) (payments : List Payment) :
    WalletProgram (Option Transaction) :=
  match senders with
  | [] => throw .noSender
  | changeAddress :: _ => do
    let utxos ← wallet.listUnspent senders
    match ← WalletProgram.ofChain
        (selectUtxos utxos payments changeAddress wallet.config.feePerKb) with
    | none => return none
    | some selection => return some (← WalletProgram.ofChain selection.toTransaction)

/-- How the outputs of an address are spent. -/
def spendTemplate (wallet : Wallet) (address : String) : WalletProgram SpendTemplate :=
  if Address.isMultisig address then do
    return .multisig (← wallet.redeemScriptOf address)
  else
    return .keyHash

/-- The digests that the owners of an address are to sign. -/
def signatureData (wallet : Wallet) (tx : Transaction) (address : String) :
    WalletProgram (List SignatureRequest) := do
  let template ← wallet.spendTemplate address
  let utxos ← wallet.listUnspent [address]
  WalletProgram.ofChain (signatureRequests tx address utxos template)

/-- Writes signatures for an address into a transaction, and counts those that an input took. -/
def applySignature (wallet : Wallet) (tx : Transaction) (address : String)
    (entries : List SignatureEntry) : WalletProgram (Transaction × Nat) := do
  let template ← wallet.spendTemplate address
  WalletProgram.ofChain (applySignatures template tx entries)

/-! ### Signing -/

/-- Whether a key can sign for an address. A redeem script that is that of no quorum names no keys,
and the address decides. -/
def controls (template : SpendTemplate) (address : String) (key : PrivateKey) : Bool :=
  let signers := match template with
    | .keyHash => none
    | .multisig redeemScript => Quorum.ofRedeemScript? redeemScript
  match signers with
  | some quorum => quorum.keys.contains key.publicKey
  | none => key.address == address

/-- The first key among the `left` rounds from `round` on that passes the test; one round may be
left out. -/
def searchRounds (wallet : Wallet) (identifier : String) (test : PrivateKey → Bool)
    (omitted : Option Nat) : (left round : Nat) → Option PrivateKey
  | 0, _ => none
  | left + 1, round =>
    if omitted = some round then searchRounds wallet identifier test omitted left (round + 1)
    else
      match wallet.deriveKey? identifier round with
      | none => none
      | some key =>
        if test key then some key
        else searchRounds wallet identifier test omitted left (round + 1)

/-- The first key of an identifier that passes the test, in the recorded round or in one of all. -/
def findKeyIn? (wallet : Wallet) (identifier : String) (test : PrivateKey → Bool)
    (recorded : Option Nat) : Option PrivateKey :=
  match recorded with
  | none => wallet.searchRounds identifier test none wallet.config.maxRounds 1
  | some round =>
    match wallet.deriveKey? identifier round with
    | none => none
    | some key =>
      if test key then some key
      else wallet.searchRounds identifier test (some round) wallet.config.maxRounds 1

/-- The key of an identifier that controls an address. -/
def findKey (wallet : Wallet) (identifier address : String) (template : SpendTemplate) :
    WalletProgram (Option PrivateKey) := do
  let recorded ← WalletProgram.store (.round address)
  return wallet.findKeyIn? identifier (controls template address) recorded

/-- Answers requests in order, each with fresh entropy. -/
def answerRequests (key : PrivateKey) : List SignatureRequest → WalletProgram (List SignatureEntry)
  | [] => return []
  | request :: requests => do
    let entropy ← WalletProgram.entropy
    let entry ← WalletProgram.ofChain (key.answer request entropy)
    return entry :: (← answerRequests key requests)

/-- Signs every input that spends an output of an address with the key of an identifier. Without
such a key the transaction stays as it is. -/
def signTransaction (wallet : Wallet) (tx : Transaction) (identifier address : String) :
    WalletProgram Transaction := do
  let template ← wallet.spendTemplate address
  match ← wallet.findKey identifier address template with
  | none => return tx
  | some key =>
    let utxos ← wallet.listUnspent [address]
    let requests ← WalletProgram.ofChain (signatureRequests tx address utxos template)
    let entries ← answerRequests key requests
    return (← WalletProgram.ofChain (applySignatures template tx entries)).1

/-! ### Transactions at the node -/

def decodeTransaction (wallet : Wallet) (hex : String) : Except WalletError TransactionView :=
  match Transaction.ofHex hex with
  | .ok tx => .ok (TransactionView.ofTransaction tx wallet.network)
  | .error e => .error (.chain e)

/-- Sends a transaction; the node answers its identifier. -/
def sendTransaction (tx : Transaction) : WalletProgram String :=
  WalletProgram.node (.broadcast tx.toHex)

def fetchTransaction (txid : String) : WalletProgram Transaction := do
  WalletProgram.ofChain (Transaction.ofHex (← WalletProgram.node (.rawTransaction txid)))

/-- What the addresses own together. -/
def balance (wallet : Wallet) (addresses : List String) : WalletProgram Int64 := do
  let utxos ← wallet.listUnspent addresses
  match Amount.total? (utxos.map Utxo.amount) with
  | some total => return total
  | none => throw (.node (.invalidResponse "unspent amounts overflow"))

end Cosigner.Wallet
