import Cosigner.Proofs.Address
import Cosigner.Proofs.Wallet.Sessions
/-!
The cache of redeem scripts.

A redeem script says what has to be signed to spend the outputs of its address, so a wrong one would
make the wallet sign for somebody else. Scripts come into the cache from the wallet itself, from
descriptors, from lookups and from discovery, and all but the first are the node's word. None of
them stands in the cache under an address that it does not hash to, whatever the node answers and
whenever calls break off, and a script that is in the cache stays there
(`cache_cannot_be_poisoned`).
-/

namespace Cosigner.Wallet

/-- Whatever is called, in any order and at the same time, and whatever the node answers: every
cached script hashes to its address, which is one of a script on the wallet's network, and stays
cached. -/
theorem cache_cannot_be_poisoned (wallet : Wallet) (session : Session)
    (reached : wallet.Leads .start session) (address : String) (script : Bytes)
    (cached : session.store.redeemScripts.find? address = some script) :
    Address.ofRedeemScript script wallet.network = address ∧
      (∃ decoded, Address.decode? address = some decoded ∧ decoded.hash = hash160 script ∧
        decoded.kind? = some .scriptHash ∧ decoded.network? = some wallet.network) ∧
      ∀ later, wallet.Leads session later →
        later.store.redeemScripts.find? address = some script := by
  have reachable : wallet.Reachable session.store := ⟨_, reached.reaches⟩
  have hashes := reachable.hashed address script cached
  exact ⟨hashes, Address.decode?_of_ofRedeemScript_eq hashes,
    fun later leads => leads.keeps.scripts address script cached⟩

/-- The address of the redeem script `52ae` on the main network. -/
def forgedAddress : String := "3CHkEXVtx484ymadFo29rhkm7e3qtpNi2T"

/-- A desk whose node gives out `51ae` as the redeem script of two addresses. -/
def forgingDesk : Desk where
  node := { MemoryNode.new "main" with
    watched := [sampleScriptAddress, forgedAddress]
    redeemScripts := [(sampleScriptAddress, "51ae"), (forgedAddress, "51ae")] }
  store := .empty
  draws := 0

/-- A pass of discovery, while a lookup for `forgedAddress` is under way. -/
def forgingTurns : List Turn :=
  [.begin .rescan, .begin (.applySignature (.new [] []) forgedAddress [])] ++
    (List.replicate 6 [.reply 0, .reply 1]).flatten

/-- Of two scripts that the node gives out, the forged one is refused and the other one is kept. -/
theorem forged_script_is_refused :
    ∃ session, sampleWallet.Leads .start session ∧
      session.store.redeemScripts.find? forgedAddress = none ∧
      ∀ later, sampleWallet.Leads session later →
        later.store.redeemScripts.find? sampleScriptAddress = some [0x51, 0xae] := by
  have leads : sampleWallet.Leads .start _ := leads_playAt forgingDesk forgingTurns
  have outcome :
      let store := (sampleWallet.playAt forgingDesk forgingTurns).store
      store.redeemScripts.find? forgedAddress = none ∧
        store.redeemScripts.find? sampleScriptAddress = some [0x51, 0xae] := by
    decide +kernel
  obtain ⟨refused, kept⟩ := outcome
  obtain ⟨-, -, stays⟩ := cache_cannot_be_poisoned sampleWallet _ leads sampleScriptAddress _ kept
  exact ⟨_, leads, refused, stays⟩

end Cosigner.Wallet
