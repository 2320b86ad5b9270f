import Cosigner.Proofs.Hex
import Cosigner.Proofs.Script.Quorum
import Cosigner.Proofs.Wallet.Config
import Cosigner.Proofs.Wallet.Runs
import Cosigner.Proofs.Wallet.Sound
/-!
Multisig addresses that are registered from the node's word.

A wallet that registers a multisig address sends the node a required number and the keys, and the
node sends a descriptor back. The wallet looks whether the redeem script hashes to the address, and
whether it is for as many signatures and keys as were asked for; it does not compare the keys. So
the node can register its own keys in the place of those that were asked for
(`foreign_key_is_registered`). A registered script is the one that was asked for exactly when the
keys are the same up to their order, each is pushed by its shortest header, and the script is short
enough to be shown (`registered_as_requested_iff`).
-/

namespace Cosigner.Wallet

/-- A script is built for a quorum of the requested keys in some order. -/
def AsRequested (required : Nat) (publicKeys : List String) (script : Bytes) : Prop :=
  ∃ requested keys, publicKeys.mapM Hex.decode = .ok requested ∧ keys.Perm requested ∧
    Quorum.redeemScript ⟨required, keys⟩ = .ok script

theorem hasShape_eq_true_iff {script : Bytes} {required total : Nat} :
    hasShape script required total = true ↔
      ∃ quorum, Quorum.ofRedeemScript? script = some quorum ∧ quorum.required = required ∧
        quorum.keys.length = total := by
  unfold hasShape
  split
  · rename_i quorum read
    simp [read]
  · rename_i unread
    simp [unread]

variable {wallet : Wallet} {store store' : KeyStore} {events : List Event} {required : Nat}
  {publicKeys : List String} {address : String}

/-- A registration that returns has asked the node once, and has offered the store the script of the
descriptor, under the address that it hashes to. -/
theorem registerMultisig_returns
    (returns : WalletProgram.Returns (wallet.registerMultisig required publicKeys) store events
      address store') :
    ∃ hex script added quorum,
      events = [⟨.node (.createMultisig required publicKeys), .ok ⟨address, hex⟩⟩,
        ⟨.store (.insertRedeemScript address script), added⟩] ∧
      Address.ofRedeemScript script wallet.network = address ∧
      Quorum.ofRedeemScript? script = some quorum ∧ quorum.required = required ∧
      quorum.keys.length = publicKeys.length := by
  obtain ⟨descriptor, _, _, _, rfl, asked, checking⟩ := WalletProgram.returns_bind_iff.mp returns
  obtain ⟨rfl, rfl⟩ := WalletProgram.returns_node_iff.mp asked
  split at checking
  · exact absurd checking WalletProgram.not_returns_throw
  · rename_i script verified
    split at checking
    · rename_i shape
      obtain ⟨quorum, read, same, count⟩ := hasShape_eq_true_iff.mp shape
      obtain ⟨added, _, _, _, rfl, inserted, done⟩ := WalletProgram.returns_bind_iff.mp checking
      obtain ⟨rfl, -⟩ := WalletProgram.returns_store_iff.mp inserted
      obtain ⟨rfl, rfl, rfl⟩ := WalletProgram.returns_pure_iff.mp done
      exact ⟨descriptor.redeemScript, script, added, quorum, rfl,
        ofRedeemScript_of_verified verified, read, same, count⟩
    · exact absurd checking WalletProgram.not_returns_throw

/-- A script of a quorum is built for requested keys when these are the keys of the quorum, in
whatever order, and the script is the shortest for them and short enough to be shown. -/
theorem asRequested_iff {script : Bytes} {quorum : Quorum}
    (read : Quorum.ofRedeemScript? script = some quorum) :
    AsRequested quorum.required publicKeys script ↔
      (∃ requested, publicKeys.mapM Hex.decode = .ok requested ∧ quorum.keys.Perm requested) ∧
        script.length = (Push.pushAll quorum.keys).length + 3 ∧
        script.length ≤ maxElementSize := by
  rw [← Quorum.redeemScript_eq_ok_iff_of_read read]
  constructor
  · rintro ⟨requested, keys, decoded, same, built⟩
    have own : quorum = ⟨quorum.required, keys⟩ :=
      Option.some.inj (read.symm.trans (Quorum.ofRedeemScript?_of_redeemScript built))
    rw [← own] at built
    rw [own]
    exact ⟨⟨requested, decoded, same⟩, by rwa [← own]⟩
  · rintro ⟨⟨requested, decoded, same⟩, built⟩
    exact ⟨requested, quorum.keys, decoded, same, built⟩

/-- Whatever the node describes, a registered script hashes to its address and is that of a quorum
of the requested size. It is the script that was asked for exactly when its keys are the requested
ones, in whatever order, each pushed by its shortest header, and it is short enough to be shown. -/
theorem registered_as_requested_iff (wallet : Wallet) (store store' : KeyStore) (required : Nat)
    (publicKeys : List String) (events : List Event) (address : String)
    (returns : WalletProgram.Returns (wallet.registerMultisig required publicKeys) store events
      address store') :
    ∃ hex script added quorum,
      events = [⟨.node (.createMultisig required publicKeys), .ok ⟨address, hex⟩⟩,
        ⟨.store (.insertRedeemScript address script), added⟩] ∧
      Address.ofRedeemScript script wallet.network = address ∧
      Quorum.ofRedeemScript? script = some quorum ∧ quorum.required = required ∧
      quorum.keys.length = publicKeys.length ∧
      (AsRequested required publicKeys script ↔
        (∃ requested, publicKeys.mapM Hex.decode = .ok requested ∧
          quorum.keys.Perm requested) ∧
        script.length = (Push.pushAll quorum.keys).length + 3 ∧
        script.length ≤ maxElementSize) := by
  obtain ⟨hex, script, added, quorum, asked, hashes, read, rfl, count⟩ :=
    registerMultisig_returns returns
  exact ⟨hex, script, added, quorum, asked, hashes, read, rfl, count, asRequested_iff read⟩

/-! ### A node that describes any quorum -/

/-- The redeem script of a quorum, each key pushed by its shortest header. -/
def scriptOf (quorum : Quorum) : Bytes := quorum.framed (Push.pushAll quorum.keys)

/-- The address of a quorum on the main network. -/
def addressOf (quorum : Quorum) : String := Address.ofRedeemScript (scriptOf quorum) .mainnet

/-- A desk whose node describes one quorum, whatever it is asked for. -/
def describingDesk (quorum : Quorum) : Desk where
  node := { MemoryNode.new "main" with
    descriptor := some ⟨addressOf quorum, Hex.encode (scriptOf quorum)⟩ }
  store := .empty
  draws := 0

/-- A quorum whose keys the node has put into another order is registered as requested. -/
theorem reordered_quorum_is_as_requested :
    let quorum : Quorum := ⟨2, [Quorum.sampleKey 2, Quorum.sampleKey 1, Quorum.sampleKey 3]⟩
    let publicKeys := [Quorum.sampleKey 1, Quorum.sampleKey 2, Quorum.sampleKey 3].map Hex.encode
    ∃ events store', WalletProgram.Returns (sampleWallet.registerMultisig 2 publicKeys) .empty
        events (addressOf quorum) store' ∧
      events.filterMap Event.offered? = [(addressOf quorum, scriptOf quorum)] ∧
      AsRequested 2 publicKeys (scriptOf quorum) := by
  intro quorum publicKeys
  have outcome :
      let program := (sampleWallet.registerMultisig 2 publicKeys).run
      ((describingDesk quorum).run program).1.toOption = some (addressOf quorum) ∧
        (Program.transcript Desk.respond program (describingDesk quorum)).filterMap
          Event.offered? = [(addressOf quorum, scriptOf quorum)] ∧
        Quorum.ofRedeemScript? (scriptOf quorum) = some quorum ∧
        (scriptOf quorum).length ≤ maxElementSize := by
    decide +kernel
  obtain ⟨gives, offers, read, shown⟩ := outcome
  have returns := WalletProgram.returns_of_desk gives
  obtain ⟨hex, script, added, described, asked, -, read', -, -, asRequested⟩ :=
    registered_as_requested_iff sampleWallet .empty _ 2 publicKeys _ _ returns
  have same : script = scriptOf quorum := by
    rw [asked] at offers
    exact congrArg Prod.snd (List.singleton_inj.mp offers)
  subst same
  obtain rfl : described = quorum := Option.some.inj (read'.symm.trans read)
  refine ⟨_, _, returns, offers, asRequested.mpr ⟨?_, Quorum.length_framed _ _, shown⟩⟩
  exact ⟨_, Hex.mapM_decode_encode _, .swap _ _ _⟩

/-- The node is asked for the address of one key, and the wallet registers that of another one. -/
theorem foreign_key_is_registered :
    let foreign : Quorum := ⟨1, [Quorum.sampleKey 2]⟩
    let publicKeys := [Hex.encode (Quorum.sampleKey 1)]
    (∃ events store', WalletProgram.Returns (sampleWallet.registerMultisig 1 publicKeys) .empty
        events (addressOf foreign) store' ∧
      store'.redeemScripts.find? (addressOf foreign) = some (scriptOf foreign)) ∧
    ¬ AsRequested 1 publicKeys (scriptOf foreign) := by
  intro foreign publicKeys
  have outcome :
      let registration := (sampleWallet.registerMultisig 1 publicKeys).run
      (((describingDesk foreign).run registration).1.toOption = some (addressOf foreign) ∧
        ((describingDesk foreign).run registration).2.store.redeemScripts.find?
          (addressOf foreign) = some (scriptOf foreign)) ∧
        Quorum.ofRedeemScript? (scriptOf foreign) = some foreign := by
    decide +kernel
  obtain ⟨⟨gives, cached⟩, read⟩ := outcome
  refine ⟨⟨_, _, WalletProgram.returns_of_desk gives, cached⟩, fun asRequested => ?_⟩
  obtain ⟨⟨requested, decoded, same⟩, -⟩ := (asRequested_iff read).mp asRequested
  have wanted : publicKeys.mapM Hex.decode = .ok [Quorum.sampleKey 1] :=
    Hex.mapM_decode_encode [Quorum.sampleKey 1]
  obtain rfl : requested = [Quorum.sampleKey 1] := Except.ok.inj (decoded.symm.trans wanted)
  exact absurd (List.singleton_perm_singleton.mp same) (by decide)

end Cosigner.Wallet
