import Cosigner.Proofs.Key.Derivation
import Cosigner.Proofs.Script.Quorum
import Cosigner.Wallet.Spend
/-!
The search for a key that controls an address.

A key controls an address when the redeem script names it, or when the address is its own and no
redeem script names any key (`SpendTemplate.ControlledBy`). A search tests for this
(`controls_eq_true_iff`). It tries the recorded round first and then all rounds of the wallet, and
finds a key exactly when some round that it tries has one that passes the test, because either every
round has a key or none has (`isSome_findKeyIn?_iff`). When the recorded round is one of the
wallet's, it does not matter that it was recorded (`findKeyIn?_eq_none_iff`).
-/

namespace Cosigner

/-! ### Keys that control an address -/

namespace SpendTemplate

/-- The redeem script of a way of spending names these keys. There is none to name any for the hash
of a public key, nor when it has not the form of a quorum's. -/
def Names (template : SpendTemplate) (keys : List Bytes) : Prop :=
  match template with
  | .keyHash => False
  | .multisig script => ∃ quorum : Quorum, quorum.HasForm script ∧ quorum.keys = keys

/-- A key controls an address that is spent in a way: where the redeem script names keys, it is one
of them, and otherwise the address is that of its public key. -/
structure ControlledBy (template : SpendTemplate) (address : String) (key : PrivateKey) :
    Prop where
  listed : ∀ keys, template.Names keys → key.publicKey ∈ keys
  own : (¬ ∃ keys, template.Names keys) →
    Address.encode ⟨key.network.keyHashVersion, hash160 key.publicKey⟩ = address

variable {template : SpendTemplate} {address : String} {key : PrivateKey}

theorem names_multisig_iff {script : Bytes} {keys : List Bytes} :
    (multisig script).Names keys ↔
      (Quorum.ofRedeemScript? script).map Quorum.keys = some keys := by
  rw [Names, Option.map_eq_some_iff]
  simp only [Quorum.ofRedeemScript?_eq_some_iff]

/-- A redeem script names one list of keys only. -/
theorem Names.unique {keys keys' : List Bytes} (names : template.Names keys)
    (names' : template.Names keys') : keys = keys' := by
  cases template with
  | keyHash => exact names.elim
  | multisig script =>
    exact Option.some.inj ((names_multisig_iff.mp names).symm.trans (names_multisig_iff.mp names'))

theorem controlledBy_iff_of_names {keys : List Bytes} (names : template.Names keys) :
    template.ControlledBy address key ↔ key.publicKey ∈ keys := by
  constructor
  · intro controlled
    exact controlled.listed keys names
  · intro listed
    exact ⟨fun _ names' => names.unique names' ▸ listed, fun none => absurd ⟨keys, names⟩ none⟩

theorem controlledBy_iff_of_unnamed (unnamed : ¬ ∃ keys, template.Names keys) :
    template.ControlledBy address key ↔ key.address = address := by
  constructor
  · intro controlled
    exact controlled.own unnamed
  · intro own
    exact ⟨fun keys names => absurd ⟨keys, names⟩ unnamed, fun _ => own⟩

theorem controlledBy_keyHash_iff :
    keyHash.ControlledBy address key ↔ key.address = address :=
  controlledBy_iff_of_unnamed fun ⟨_, names⟩ => names

end SpendTemplate

namespace Wallet

/-- The test of the search is whether a key controls the address. -/
theorem controls_eq_true_iff {template : SpendTemplate} {address : String} {key : PrivateKey} :
    controls template address key = true ↔ template.ControlledBy address key := by
  cases template with
  | keyHash => rw [SpendTemplate.controlledBy_keyHash_iff, controls, beq_iff_eq]
  | multisig script =>
    rw [controls]
    cases read : Quorum.ofRedeemScript? script with
    | none =>
      rw [SpendTemplate.controlledBy_iff_of_unnamed, beq_iff_eq]
      rintro ⟨keys, names⟩
      rw [SpendTemplate.names_multisig_iff, read] at names
      cases names
    | some quorum =>
      have names : (SpendTemplate.multisig script).Names quorum.keys := by
        rw [SpendTemplate.names_multisig_iff, read]
        rfl
      rw [SpendTemplate.controlledBy_iff_of_names names, List.contains_iff_mem]

variable {wallet : Wallet} {identifier : String} {test : PrivateKey → Bool}

/-- One of the rounds of a wallet, and the key of an identifier in it. -/
structure RoundKey (wallet : Wallet) (identifier : String) (round : Nat) (key : PrivateKey) :
    Prop where
  first : 1 ≤ round
  last : round ≤ wallet.config.maxRounds
  derived : wallet.deriveKey? identifier round = some key

/-- Either every round of an identifier has a key or none has. -/
theorem isSome_deriveKey?_iff (round round' : Nat) :
    (wallet.deriveKey? identifier round).isSome = true ↔
      (wallet.deriveKey? identifier round').isSome = true := by
  rw [deriveKey?, deriveKey?, isSome_derivePrivateKey?_iff, isSome_derivePrivateKey?_iff]

/-! ### Rounds in a row -/

theorem exists_of_searchRounds {omitted : Option Nat} {left round : Nat} {key : PrivateKey}
    (found : wallet.searchRounds identifier test omitted left round = some key) :
    test key = true ∧ ∃ r, round ≤ r ∧ r < round + left ∧
      wallet.deriveKey? identifier r = some key := by
  induction left generalizing round with
  | zero => cases found
  | succ left ih =>
    rw [searchRounds] at found
    split at found
    · obtain ⟨passes, r, above, below, derived⟩ := ih found
      exact ⟨passes, r, Nat.le_of_succ_le above, by omega, derived⟩
    · split at found
      · cases found
      · rename_i candidate derived
        split at found
        · rename_i passes
          cases found
          exact ⟨passes, round, Nat.le_refl round, by omega, derived⟩
        · obtain ⟨passes, r, above, below, derived⟩ := ih found
          exact ⟨passes, r, Nat.le_of_succ_le above, by omega, derived⟩

/-- When a search finds nothing, no key of the rounds that it did not leave out passes the test. -/
theorem fails_of_searchRounds_eq_none {omitted : Option Nat} {left round r : Nat}
    {key : PrivateKey}
    (none : wallet.searchRounds identifier test omitted left round = none)
    (above : round ≤ r) (below : r < round + left) (kept : omitted ≠ some r)
    (derived : wallet.deriveKey? identifier r = some key) : test key = false := by
  induction left generalizing round with
  | zero => omega
  | succ left ih =>
    rw [searchRounds] at none
    by_cases here : r = round
    · subst here
      simp only [kept, if_false, derived] at none
      split at none
      · cases none
      · rename_i fails
        exact Bool.of_not_eq_true fails
    · have above' : round + 1 ≤ r := by omega
      have below' : r < round + 1 + left := by omega
      split at none
      · exact ih none above' below'
      · split at none
        · rename_i missing
          have there := (isSome_deriveKey?_iff r round).mp (by rw [derived]; rfl)
          rw [missing] at there
          cases there
        · split at none
          · cases none
          · exact ih none above' below'

/-! ### The whole search -/

/-- The rounds that a search looks at: the recorded one and those of the wallet. -/
def Tried (wallet : Wallet) (recorded : Option Nat) (round : Nat) : Prop :=
  recorded = some round ∨ 1 ≤ round ∧ round ≤ wallet.config.maxRounds

/-- A recorded round that is one of the wallet's adds nothing to what is tried. -/
theorem tried_iff_of_within {recorded : Option Nat}
    (within : ∀ round ∈ recorded, 1 ≤ round ∧ round ≤ wallet.config.maxRounds) (round : Nat) :
    wallet.Tried recorded round ↔ 1 ≤ round ∧ round ≤ wallet.config.maxRounds :=
  or_iff_right_of_imp fun same => within round same

/-- A key that is found passes the test and is that of a round that is tried. -/
theorem exists_tried_of_findKeyIn? {recorded : Option Nat} {key : PrivateKey}
    (found : wallet.findKeyIn? identifier test recorded = some key) :
    test key = true ∧ ∃ round, wallet.Tried recorded round ∧
      wallet.deriveKey? identifier round = some key := by
  have searched (omitted : Option Nat)
      (found : wallet.searchRounds identifier test omitted wallet.config.maxRounds 1 = some key) :
      test key = true ∧ ∃ round, wallet.Tried recorded round ∧
        wallet.deriveKey? identifier round = some key := by
    obtain ⟨passes, r, above, below, derived⟩ := exists_of_searchRounds found
    exact ⟨passes, r, .inr ⟨above, by omega⟩, derived⟩
  cases recorded with
  | none => exact searched none found
  | some round =>
    rw [findKeyIn?] at found
    split at found
    · cases found
    · rename_i candidate derived
      split at found
      · rename_i passes
        cases found
        exact ⟨passes, round, .inl rfl, derived⟩
      · exact searched _ found

/-- When nothing is found, no key of a round that is tried passes the test. -/
theorem fails_of_findKeyIn?_eq_none {recorded : Option Nat} {round : Nat} {key : PrivateKey}
    (none : wallet.findKeyIn? identifier test recorded = none)
    (tried : wallet.Tried recorded round)
    (derived : wallet.deriveKey? identifier round = some key) : test key = false := by
  cases recorded with
  | none =>
    obtain ⟨above, below⟩ := tried.resolve_left (by simp)
    exact fails_of_searchRounds_eq_none none above (by omega) (by simp) derived
  | some first =>
    rw [findKeyIn?] at none
    split at none
    · rename_i missing
      have there := (isSome_deriveKey?_iff round first).mp (by rw [derived]; rfl)
      rw [missing] at there
      cases there
    · rename_i candidate derived'
      split at none
      · cases none
      · rename_i fails
        by_cases same : first = round
        · subst same
          rw [derived] at derived'
          cases derived'
          exact Bool.of_not_eq_true fails
        · have apart : some first ≠ some round := by simpa using same
          obtain ⟨above, below⟩ := tried.resolve_left apart
          exact fails_of_searchRounds_eq_none none above (by omega) apart derived

/-- A key is found exactly when that of some round that is tried passes the test. -/
theorem isSome_findKeyIn?_iff {recorded : Option Nat} :
    (wallet.findKeyIn? identifier test recorded).isSome = true ↔
      ∃ round key, wallet.Tried recorded round ∧ wallet.deriveKey? identifier round = some key ∧
        test key = true := by
  rw [Option.isSome_iff_exists]
  constructor
  · rintro ⟨key, found⟩
    obtain ⟨passes, round, tried, derived⟩ := exists_tried_of_findKeyIn? found
    exact ⟨round, key, tried, derived, passes⟩
  · rintro ⟨round, key, tried, derived, passes⟩
    refine Option.ne_none_iff_exists'.mp fun none => ?_
    rw [fails_of_findKeyIn?_eq_none none tried derived] at passes
    cases passes

/-- A key that is found passes the test and is that of one of the rounds. -/
theorem exists_of_findKeyIn? {recorded : Option Nat} {key : PrivateKey}
    (within : ∀ round ∈ recorded, 1 ≤ round ∧ round ≤ wallet.config.maxRounds)
    (found : wallet.findKeyIn? identifier test recorded = some key) :
    test key = true ∧ ∃ round, wallet.RoundKey identifier round key := by
  obtain ⟨passes, round, tried, derived⟩ := exists_tried_of_findKeyIn? found
  obtain ⟨above, below⟩ := (tried_iff_of_within within round).mp tried
  exact ⟨passes, round, above, below, derived⟩

/-- Nothing is found exactly when no key of any round passes the test. -/
theorem findKeyIn?_eq_none_iff {recorded : Option Nat}
    (within : ∀ round ∈ recorded, 1 ≤ round ∧ round ≤ wallet.config.maxRounds) :
    wallet.findKeyIn? identifier test recorded = none ↔
      ∀ round key, wallet.RoundKey identifier round key → test key = false := by
  constructor
  · rintro none round key ⟨above, below, derived⟩
    exact fails_of_findKeyIn?_eq_none none (.inr ⟨above, below⟩) derived
  · intro fails
    rw [Option.eq_none_iff_forall_ne_some]
    intro key found
    obtain ⟨passes, round, derived⟩ := exists_of_findKeyIn? within found
    rw [fails round key derived] at passes
    cases passes

end Wallet

end Cosigner
