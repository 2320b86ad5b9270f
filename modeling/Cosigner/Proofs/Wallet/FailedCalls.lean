import Cosigner.Proofs.Wallet.FirstFree
import Cosigner.Proofs.Wallet.Registration
/-!
What a failed call leaves in the store.

A call that issues an address records it last, and one that registers a multisig address puts its
script into the store last. When they fail, they have not got that far, and the store is as before.
A call that makes a multisig address puts the script and the round into the store first, and has the
node watch the address then. So it has three ways to fail (`Wallet.GivesUp`), and in the last one
the store has an address that the node does not watch (`unwatched_quorum_is_remembered`). The store
is as before in every other case (`failed_call_keeps_store_unless_unwatched`).
-/

namespace Cosigner

/-! ### Putting an address into both maps -/

theorem Registry.add_eq_self_iff {α : Type} {registry : Registry α} {name : String} {value : α} :
    (registry.add name value).2 = registry ↔ registry.contains name = true := by
  rw [add]
  split
  · rename_i has
    simp [has]
  · rename_i free
    simp only [free, Bool.false_eq_true, iff_false]
    intro same
    exact absurd (congrArg (fun r => r.entries.length) same) (by simp)

/-- The store with the script and the round of an address, unless it had them. -/
def KeyStore.remember (store : KeyStore) (address : String) (script : Bytes) (round : Nat) :
    KeyStore :=
  ⟨(store.redeemScripts.add address script).2, (store.rounds.add address round).2⟩

theorem KeyStore.remember_eq_self_iff {store : KeyStore} {address : String} {script : Bytes}
    {round : Nat} :
    store.remember address script round = store ↔
      store.redeemScripts.contains address = true ∧ store.rounds.contains address = true := by
  obtain ⟨scripts, rounds⟩ := store
  rw [remember, mk.injEq, Registry.add_eq_self_iff, Registry.add_eq_self_iff]

namespace Wallet

variable {wallet : Wallet} {identifier : String} {cosigners : List String} {required : Nat}
  {store store' : KeyStore} {events : List Event} {e : WalletError}

/-! ### Making a multisig address -/

/-- Keys are decoded without asking anything, up to the first one that is not hexadecimal. -/
theorem cosignerKeys_eq (texts : List String) :
    cosignerKeys texts =
      match texts.mapM Hex.decode with
      | .error fault => throw (.invalidMultisig (.cosignerKey fault))
      | .ok keys => pure keys := by
  induction texts with
  | nil => rfl
  | cons text texts ih =>
    rw [cosignerKeys, List.mapM_cons, ih]
    cases Hex.decode text with
    | error fault => rfl
    | ok key => cases texts.mapM Hex.decode <;> rfl

theorem returns_cosignerKeys_iff {texts : List String} {keys : List Bytes} :
    WalletProgram.Returns (cosignerKeys texts) store events keys store' ↔
      texts.mapM Hex.decode = .ok keys ∧ events = [] ∧ store' = store := by
  rw [cosignerKeys_eq]
  cases texts.mapM Hex.decode with
  | error fault =>
    simp only [reduceCtorEq, false_and, iff_false]
    exact WalletProgram.not_returns_throw
  | ok decoded =>
    rw [WalletProgram.returns_pure_iff, Except.ok.injEq, and_left_comm, @eq_comm _ keys]

theorem fails_cosignerKeys_iff {texts : List String} :
    WalletProgram.Fails (cosignerKeys texts) store events e store' ↔
      ∃ fault, texts.mapM Hex.decode = .error fault ∧ e = .invalidMultisig (.cosignerKey fault) ∧
        events = [] ∧ store' = store := by
  rw [cosignerKeys_eq]
  cases texts.mapM Hex.decode with
  | error fault =>
    rw [WalletProgram.fails_throw_iff]
    simp only [Except.error.injEq, exists_eq_left']
  | ok decoded =>
    simp only [reduceCtorEq, false_and, exists_false, iff_false]
    exact WalletProgram.not_fails_pure

/-- What is asked when an address is put into the store and the node refuses to watch it. -/
def unwatchedEvents (store : KeyStore) (address : String) (script : Bytes) (failure : NodeError) :
    List Event :=
  [⟨.store (.insertRedeemScript address script), (store.redeemScripts.add address script).1⟩,
    ⟨.store (.recordRound address 1), (store.rounds.add address 1).1⟩,
    ⟨.node (.importAddress address addressLabel false), .error failure⟩]

/-- The ways in which a call that makes a multisig address fails, with what it has asked and what it
leaves in the store. -/
inductive GivesUp (wallet : Wallet) (identifier : String) (cosigners : List String)
    (required : Nat) (store : KeyStore) : List Event → WalletError → KeyStore → Prop where
  /-- The key of a cosigner is not hexadecimal. -/
  | cosigner {key : PrivateKey} {fault : Hex.Fault}
      (derived : wallet.deriveKey? identifier 1 = some key)
      (decoded : cosigners.mapM Hex.decode = .error fault) :
      GivesUp wallet identifier cosigners required store
        [] (.invalidMultisig (.cosignerKey fault)) store
  /-- The keys make no redeem script. -/
  | script {key : PrivateKey} {keys : List Bytes} {fault : ChainError}
      (derived : wallet.deriveKey? identifier 1 = some key)
      (decoded : cosigners.mapM Hex.decode = .ok keys)
      (unbuilt : Quorum.redeemScript ⟨required, key.publicKey :: keys⟩ = .error fault) :
      GivesUp wallet identifier cosigners required store [] (.chain fault) store
  /-- The node refuses to watch the address, which the store has by now. -/
  | unwatched {key : PrivateKey} {keys : List Bytes} {script : Bytes} (failure : NodeError)
      (derived : wallet.deriveKey? identifier 1 = some key)
      (decoded : cosigners.mapM Hex.decode = .ok keys)
      (built : Quorum.redeemScript ⟨required, key.publicKey :: keys⟩ = .ok script) :
      GivesUp wallet identifier cosigners required store
        (unwatchedEvents store (Address.ofRedeemScript script wallet.network) script failure)
        (.node failure) (store.remember (Address.ofRedeemScript script wallet.network) script 1)

/-- An address is put into the store, and the node refuses to watch it. -/
theorem fails_remember_iff {address : String} {script : Bytes} :
    WalletProgram.Fails (do
      let _ ← WalletProgram.store (.insertRedeemScript address script)
      let _ ← WalletProgram.store (.recordRound address 1)
      WalletProgram.node (.importAddress address addressLabel false)
      return some address) store events e store' ↔
    ∃ failure, e = .node failure ∧ events = unwatchedEvents store address script failure ∧
      store' = store.remember address script 1 := by
  rw [WalletProgram.fails_store_bind_iff]
  constructor
  · rintro ⟨_, rfl, fails⟩
    obtain ⟨_, rfl, fails'⟩ := WalletProgram.fails_store_bind_iff.mp fails
    obtain failed | ⟨_, _, _, _, rfl, -, fails''⟩ := WalletProgram.fails_bind_iff.mp fails'
    · obtain ⟨failure, rfl, rfl, rfl⟩ := WalletProgram.fails_node_iff.mp failed
      exact ⟨failure, rfl, rfl, rfl⟩
    · exact absurd fails'' WalletProgram.not_fails_pure
  · rintro ⟨failure, rfl, rfl, rfl⟩
    refine ⟨_, rfl, WalletProgram.fails_store_bind_iff.mpr ⟨_, rfl, ?_⟩⟩
    exact WalletProgram.fails_bind_iff.mpr
      (.inl (WalletProgram.fails_node_iff.mpr ⟨failure, rfl, rfl, rfl⟩))

theorem fails_createMultisigAddress_iff :
    WalletProgram.Fails (wallet.createMultisigAddress identifier cosigners required) store events e
        store' ↔
      wallet.GivesUp identifier cosigners required store events e store' := by
  rw [createMultisigAddress]
  constructor
  · intro fails
    split at fails
    · exact absurd fails WalletProgram.not_fails_pure
    rename_i key derived
    obtain failed | ⟨keys, _, _, _, rfl, returned, building⟩ :=
      WalletProgram.fails_bind_iff.mp fails
    · obtain ⟨fault, decoded, rfl, rfl, rfl⟩ := fails_cosignerKeys_iff.mp failed
      exact .cosigner derived decoded
    obtain ⟨decoded, rfl, rfl⟩ := returns_cosignerKeys_iff.mp returned
    obtain failed | ⟨script, _, _, _, rfl, given, remembering⟩ :=
      WalletProgram.fails_bind_iff.mp building
    · obtain ⟨fault, unbuilt, rfl, rfl, rfl⟩ := WalletProgram.fails_ofChain_iff.mp failed
      exact .script derived decoded unbuilt
    obtain ⟨built, rfl, rfl⟩ := WalletProgram.returns_ofChain_iff.mp given
    obtain ⟨failure, rfl, rfl, rfl⟩ := fails_remember_iff.mp remembering
    exact .unwatched failure derived decoded built
  · intro givesUp
    cases givesUp with
    | cosigner derived decoded =>
      rw [derived]
      exact WalletProgram.fails_bind_iff.mpr
        (.inl (fails_cosignerKeys_iff.mpr ⟨_, decoded, rfl, rfl, rfl⟩))
    | script derived decoded unbuilt =>
      rw [derived]
      refine WalletProgram.fails_bind_iff.mpr (.inr ⟨_, _, [], [], rfl,
        returns_cosignerKeys_iff.mpr ⟨decoded, rfl, rfl⟩, ?_⟩)
      exact WalletProgram.fails_bind_iff.mpr
        (.inl (WalletProgram.fails_ofChain_iff.mpr ⟨_, unbuilt, rfl, rfl, rfl⟩))
    | unwatched failure derived decoded built =>
      rw [derived]
      refine WalletProgram.fails_bind_iff.mpr (.inr ⟨_, _, [], _, rfl,
        returns_cosignerKeys_iff.mpr ⟨decoded, rfl, rfl⟩, ?_⟩)
      exact WalletProgram.fails_bind_iff.mpr (.inr ⟨_, _, [], _, rfl,
        WalletProgram.returns_ofChain_iff.mpr ⟨built, rfl, rfl⟩,
        fails_remember_iff.mpr ⟨failure, rfl, rfl, rfl⟩⟩)

/-! ### Calls that write last -/

theorem eq_of_fails_generateAddress
    (fails : WalletProgram.Fails (wallet.generateAddress identifier) store events e store') :
    store' = store := by
  by_cases free : ∃ round key, wallet.FirstFree identifier store round key
  · obtain ⟨round, key, first⟩ := free
    obtain ⟨rest, -, issues⟩ := (runs_generateAddress_of_firstFree first).mp fails
    cases issues
    rfl
  · have occupied : ∀ round key, ¬ wallet.FirstFree identifier store round key :=
      fun round key first => free ⟨round, key, first⟩
    obtain ⟨-, -, same⟩ := (runs_generateAddress_of_none occupied).mp fails
    exact same

theorem eq_of_fails_registerMultisig {publicKeys : List String}
    (fails : WalletProgram.Fails (wallet.registerMultisig required publicKeys) store events e
      store') : store' = store := by
  obtain failed | ⟨descriptor, _, _, _, rfl, asked, checking⟩ :=
    WalletProgram.fails_bind_iff.mp fails
  · obtain ⟨failure, -, -, same⟩ := WalletProgram.fails_node_iff.mp failed
    exact same
  obtain ⟨rfl, rfl⟩ := WalletProgram.returns_node_iff.mp asked
  split at checking
  · obtain ⟨-, -, same⟩ := WalletProgram.fails_throw_iff.mp checking
    exact same
  split at checking
  · obtain ⟨_, rfl, done⟩ := WalletProgram.fails_store_bind_iff.mp checking
    exact absurd done WalletProgram.not_fails_pure
  · obtain ⟨-, -, same⟩ := WalletProgram.fails_throw_iff.mp checking
    exact same

/-- A call that fails to issue an address, or to register a multisig address, leaves the store as it
was. A call that fails to make a multisig address has not asked for anything, and leaves the store
as it was, or the node has refused to watch the address. Then the store has the address, with its
script and its round, and is as it was only if it had both before. -/
theorem failed_call_keeps_store_unless_unwatched (wallet : Wallet) (store store' : KeyStore)
    (events : List Event) (e : WalletError) :
    (∀ identifier, WalletProgram.Fails (wallet.generateAddress identifier) store events e store' →
      store' = store) ∧
    (∀ required publicKeys, WalletProgram.Fails (wallet.registerMultisig required publicKeys) store
      events e store' → store' = store) ∧
    ∀ identifier cosigners required,
      WalletProgram.Fails (wallet.createMultisigAddress identifier cosigners required) store events
        e store' →
      (events = [] ∧ store' = store) ∨
      ∃ key keys script failure, wallet.deriveKey? identifier 1 = some key ∧
        cosigners.mapM Hex.decode = .ok keys ∧
        Quorum.redeemScript ⟨required, key.publicKey :: keys⟩ = .ok script ∧
        e = .node failure ∧
        let address := Address.ofRedeemScript script wallet.network
        events = unwatchedEvents store address script failure ∧
          store' = store.remember address script 1 ∧
          (store' = store ↔ store.redeemScripts.contains address = true ∧
            store.rounds.contains address = true) := by
  refine ⟨fun _ => eq_of_fails_generateAddress, fun _ _ => eq_of_fails_registerMultisig, ?_⟩
  intro identifier cosigners required fails
  cases fails_createMultisigAddress_iff.mp fails with
  | cosigner => exact .inl ⟨rfl, rfl⟩
  | script => exact .inl ⟨rfl, rfl⟩
  | unwatched failure derived decoded built =>
    exact .inr ⟨_, _, _, failure, derived, decoded, built, rfl, rfl, rfl,
      KeyStore.remember_eq_self_iff⟩

/-- A failed import, a descriptor of another quorum and a cosigner's key that is not hexadecimal all
leave the store as it was. -/
theorem refused_calls_keep_store :
    (∃ events e, WalletProgram.Fails (sampleWallet.generateAddress "01") .empty events e .empty) ∧
      (∃ events e, WalletProgram.Fails
        (sampleWallet.registerMultisig 2 [Hex.encode (Quorum.sampleKey 1)]) .empty events e
        .empty) ∧
      ∃ events e, WalletProgram.Fails (sampleWallet.createMultisigAddress "01" ["no"] 1) .empty
        events e .empty := by
  have outcome :
      (flakyDesk.run (sampleWallet.generateAddress "01").run).1 =
          .error (.node (.unreachable "timeout")) ∧
        ((describingDesk ⟨1, [Quorum.sampleKey 1]⟩).run
          (sampleWallet.registerMultisig 2 [Hex.encode (Quorum.sampleKey 1)]).run).1 =
          .error (.invalidMultisig
            (.otherQuorum (addressOf ⟨1, [Quorum.sampleKey 1]⟩) 2 1)) ∧
        (flakyDesk.run (sampleWallet.createMultisigAddress "01" ["no"] 1).run).1 =
          .error (.invalidMultisig (.cosignerKey (.badDigit 110 0))) := by
    decide +kernel
  obtain ⟨unwatched, mismatched, misspelled⟩ := outcome
  have issuing := WalletProgram.fails_of_desk unwatched
  have registering := WalletProgram.fails_of_desk mismatched
  have making := WalletProgram.fails_of_desk misspelled
  obtain ⟨kept, -, -⟩ := failed_call_keeps_store_unless_unwatched sampleWallet _ _ _ _
  obtain ⟨-, kept', -⟩ := failed_call_keeps_store_unless_unwatched sampleWallet _ _ _ _
  obtain ⟨-, -, kept''⟩ := failed_call_keeps_store_unless_unwatched sampleWallet _ _ _ _
  rw [kept _ issuing] at issuing
  rw [kept' _ _ registering] at registering
  obtain ⟨-, same⟩ | ⟨_, keys, _, _, -, decoded, -⟩ := kept'' _ _ _ making
  · rw [same] at making
    exact ⟨⟨_, _, issuing⟩, ⟨_, _, registering⟩, ⟨_, _, making⟩⟩
  · cases decoded

/-- A node that refuses to watch the address of a quorum leaves it in the store, though it watches
nothing. -/
theorem unwatched_quorum_is_remembered :
    ∃ events store', WalletProgram.Fails
        (sampleWallet.createMultisigAddress "01" [Hex.encode (Quorum.sampleKey 2)] 1) .empty events
        (.node (.unreachable "timeout")) store' ∧
      store'.redeemScripts.size = 1 ∧ store'.rounds.size = 1 ∧ store' ≠ .empty := by
  have outcome :
      let call := flakyDesk.run
        (sampleWallet.createMultisigAddress "01" [Hex.encode (Quorum.sampleKey 2)] 1).run
      call.1 = .error (.node (.unreachable "timeout")) ∧ call.2.store.redeemScripts.size = 1 ∧
        call.2.store.rounds.size = 1 := by
    decide +kernel
  obtain ⟨fails, scripts, rounds⟩ := outcome
  refine ⟨_, _, WalletProgram.fails_of_desk fails, scripts, rounds, fun same => ?_⟩
  rw [same] at rounds
  cases rounds

end Wallet

end Cosigner
