import Cosigner.Wallet.Basic
/-!
Discovery of redeem scripts.

An address does not tell its redeem script. A pass over the addresses that the node watches asks it
for the scripts of those multisig addresses that the store has none for, and keeps every answer
that hashes to its address. What fails for one address does not concern the others; only the list
of watched addresses has to be there. Passes are made one after another by a task, which a failing
pass does not end.
-/

namespace Cosigner.Wallet

/-- Looks for the redeem script of an address, and tells whether the store has it newly. -/
def discoverOne (wallet : Wallet) (address : String) : Program Bool := do
  if ← Program.askStore (.hasRedeemScript address) then
    return false
  else
    match ← Program.askNode (.redeemScript address) with
    | .error _ => return false
    | .ok answer =>
      match answer.bind fun hex => verifiedRedeemScript? address hex wallet.network with
      | none => return false
      | some script => Program.askStore (.insertRedeemScript address script)

/-- Looks for the redeem scripts of addresses, and counts those that the store has newly. -/
def discoverAll (wallet : Wallet) : List String → Program Nat
  | [] => return 0
  | address :: addresses => do
    let added ← wallet.discoverOne address
    let count ← wallet.discoverAll addresses
    return if added then count + 1 else count

/-- One pass. -/
def rescan (wallet : Wallet) : WalletProgram Nat := do
  let watched ← WalletProgram.node .watchedAddresses
  ExceptT.lift (wallet.discoverAll (watched.filter Address.isMultisig))

/-! ### The task -/

/-- Starts the task, if it does not run already; it needs something that runs tasks. -/
def startDiscovery (hasRuntime running : Bool) : Except WalletError Bool :=
  if running then .ok true
  else if hasRuntime then .ok true
  else .error .noRuntime

/-- What the task does in a number of intervals. -/
def discoveryPasses (wallet : Wallet) : Nat → Program Unit
  | 0 => return ()
  | passes + 1 => do
    let _ ← wallet.rescan.run
    wallet.discoveryPasses passes

end Cosigner.Wallet
