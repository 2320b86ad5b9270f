import Cosigner.Wallet.Basic
/-!
What a configuration that can be used promises.
-/

namespace Cosigner

namespace WalletConfig

/-- Everything that the check of a configuration asks for. -/
structure Usable (config : WalletConfig) : Prop where
  secret : ∃ bytes, config.serverSecret.integerBytes = .ok bytes
  rounds : 0 < config.maxRounds
  fee : 0 < config.feePerKb
  confirmations : config.minConfirmations ≤ config.maxConfirmations
  interval : 0 < config.discoveryInterval

theorem usable_of_validate {config : WalletConfig} (valid : config.validate = .ok ()) :
    config.Usable := by
  unfold validate at valid
  split at valid
  · cases valid
  split at valid
  · cases valid
  rename_i bytes secret
  split at valid
  · cases valid
  rename_i rounds
  split at valid
  · cases valid
  rename_i fee
  split at valid
  · cases valid
  rename_i confirmations
  split at valid
  · cases valid
  rename_i interval
  exact ⟨⟨bytes, secret⟩, Nat.pos_of_ne_zero rounds, Int64.not_le.mp fee,
    Nat.le_of_not_lt confirmations, Nat.pos_of_ne_zero interval⟩

end WalletConfig

/-- A wallet with a secret and defaults otherwise. -/
def Wallet.sampleWallet : Wallet := ⟨{ serverSecret := ⟨"01"⟩ }, .mainnet⟩

/-- The address of the redeem script `51ae` on the main network. -/
def Wallet.sampleScriptAddress : String := "3D3pXNCAje8Ap7TEfkk8qxyspmSWqX7z8b"

end Cosigner
