import Cosigner.Proofs.Wallet.Spendable
/-!
The recorded round is only a shortcut.

The store has a round for every address that was issued, and the search for a key begins there. The
round says nothing about whose key it is: the address may have been issued to another identifier,
and the round of a multisig address is always the first one. A search that begins at the wrong place
has to go on to all others. It would find more than a search without the record, if the record could
be none of the wallet's rounds (`isSome_findKeyIn?_iff`). In a reachable store it never is, so
whether a signer is found depends on its keys alone (`recorded_round_is_only_a_shortcut`).
-/

namespace Cosigner

namespace Wallet

variable {wallet : Wallet} {store : KeyStore} {address : String}

/-- What is tried in a sound store is what would be tried if nothing was recorded. -/
theorem tried_iff_of_sound (sound : store.Sound wallet) (round : Nat) :
    wallet.Tried (store.rounds.find? address) round ↔ wallet.Tried none round := by
  rw [tried_iff_of_within (sound.rounds address), tried_iff_of_within (by simp)]

/-- In every reachable store, the search for a key gives the same whatever the node does, and finds
one exactly when the key of some round controls the address. It would find one just as well if no
round was recorded for the address. A key that it finds is that of one of the rounds, and controls
the address. That is so because every round that is recorded is one of the wallet's. -/
theorem recorded_round_is_only_a_shortcut (wallet : Wallet) (store : KeyStore)
    (identifier address : String) (template : SpendTemplate)
    (valid : wallet.config.validate = .ok ()) (reachable : wallet.Reachable store) :
    (∀ other round, store.rounds.find? other = some round →
      1 ≤ round ∧ round ≤ wallet.config.maxRounds) ∧
    ∃ found, WalletProgram.KnownTo store (wallet.findKey identifier address template) found ∧
      (found.isSome = true ↔
        ∃ round key, wallet.RoundKey identifier round key ∧ template.ControlledBy address key) ∧
      (found.isSome = true ↔
        (wallet.findKeyIn? identifier (controls template address) none).isSome = true) ∧
      ∀ key, found = some key →
        template.ControlledBy address key ∧ ∃ round, wallet.RoundKey identifier round key := by
  have sound := reachable.sound valid
  refine ⟨sound.rounds, _, knownTo_findKey, ?exact, ?shortcut, fun key found => ?right⟩
  case exact =>
    rw [isSome_findKeyIn?_iff]
    simp only [tried_iff_of_within (sound.rounds address), controls_eq_true_iff]
    constructor
    · rintro ⟨round, key, ⟨first, last⟩, derived, controlled⟩
      exact ⟨round, key, ⟨first, last, derived⟩, controlled⟩
    · rintro ⟨round, key, ⟨first, last, derived⟩, controlled⟩
      exact ⟨round, key, ⟨first, last⟩, derived, controlled⟩
  case shortcut =>
    rw [isSome_findKeyIn?_iff, isSome_findKeyIn?_iff]
    simp only [tried_iff_of_sound sound]
  case right =>
    obtain ⟨passes, own⟩ := exists_of_findKeyIn? (sound.rounds address) found
    exact ⟨controls_eq_true_iff.mp passes, own⟩

/-- The public key of the second round of `sampleWallet` for the identifier `01`. -/
def secondKeyHex : String :=
  "04f07f964d750f7f21e9f70c7bd1d1b16110227914dccd621af00878c26b5cf21d" ++
    "0fcbef6a709280a8ae07149bbeb23ef487162dd7a2570426ca012f9ddcca1be7"

/-- The identifier `02` makes a multisig address with this key. -/
def sharing : Operation := .createMultisigAddress "02" [secondKeyHex] 1

/-- A desk at which this has been done. -/
def sharingDesk : Desk := (freshDesk.run (sharing.program sampleWallet).run).2

/-- The address that has been made at `sharingDesk`. -/
def sharedAddress : String := "3M4hVZ8WghfJrXGAiK8Quxtbk7yf4TeNyS"

theorem reachable_sharingDesk : sampleWallet.Reachable sharingDesk.store := by
  have empty : sampleWallet.Reachable freshDesk.store := ⟨[], .start⟩
  rw [sharingDesk]
  exact empty.at_desk sharing

/-- The first round is recorded for the address of a quorum, and the identifier `01` is in this
quorum with its second key. The first one does not control the address, and yet a key is found. -/
theorem search_goes_past_recorded_round :
    ∃ script first found, sampleWallet.Reachable sharingDesk.store ∧
      sharingDesk.store.redeemScripts.find? sharedAddress = some script ∧
      sharingDesk.store.rounds.find? sharedAddress = some 1 ∧
      sampleWallet.RoundKey "01" 1 first ∧
      ¬ (SpendTemplate.multisig script).ControlledBy sharedAddress first ∧
      WalletProgram.KnownTo sharingDesk.store
        (sampleWallet.findKey "01" sharedAddress (.multisig script)) (some found) ∧
      (SpendTemplate.multisig script).ControlledBy sharedAddress found := by
  have outcome :
      sharingDesk.store.rounds.find? sharedAddress = some 1 ∧
        (sharingDesk.store.redeemScripts.find? sharedAddress).any (fun script =>
          (sampleWallet.deriveKey? "01" 1).any
              (fun key => !controls (.multisig script) sharedAddress key) &&
            (sampleWallet.deriveKey? "01" 2).any
              (fun key => controls (.multisig script) sharedAddress key)) = true := by
    decide +kernel
  obtain ⟨recorded, keys⟩ := outcome
  obtain ⟨script, cached, keys⟩ := Option.any_eq_true _ _ |>.mp keys
  obtain ⟨firstKey, secondKey⟩ := Bool.and_eq_true _ _ |>.mp keys
  obtain ⟨first, derived, fails⟩ := Option.any_eq_true _ _ |>.mp firstKey
  obtain ⟨second, derived', passes⟩ := Option.any_eq_true _ _ |>.mp secondKey
  have rounds : 2 ≤ sampleWallet.config.maxRounds := by decide
  obtain ⟨-, found, search, exact, -, right⟩ := recorded_round_is_only_a_shortcut sampleWallet _
    "01" sharedAddress (.multisig script) (by decide +kernel) reachable_sharingDesk
  have some : found.isSome = true :=
    exact.mpr ⟨2, second, ⟨by decide, rounds, derived'⟩, controls_eq_true_iff.mp passes⟩
  obtain ⟨key, rfl⟩ := Option.isSome_iff_exists.mp some
  refine ⟨script, first, key, reachable_sharingDesk, cached, recorded,
    ⟨Nat.le_refl 1, Nat.le_of_succ_le rounds, derived⟩, ?_, search, (right key rfl).1⟩
  rw [← controls_eq_true_iff]
  simpa using fails

end Wallet

end Cosigner
