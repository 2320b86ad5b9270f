import Cosigner.Proofs.Coin.Transaction
import Cosigner.Proofs.Wallet.Config
import Cosigner.Proofs.Wallet.Runs
import Cosigner.Wallet.Spend
/-!
Making payments neither creates nor loses value.

Whatever unspent outputs the node lists, a transaction that a wallet makes spends the first of them,
in order and unsigned; it pays what was asked for and at most one output of change, and what it
spends exceeds what it pays by exactly the fee for its shape (`createTransaction_conserves`).
-/

namespace Cosigner.Wallet

/-- A transaction is made from what the node lists under the senders' addresses, and from nothing
else. -/
theorem createTransaction_returns {wallet : Wallet} {first : String} {others : List String}
    {payments : List Payment} {store store' : KeyStore} {events : List Event} {tx : Transaction}
    (returns : WalletProgram.Returns (wallet.createTransaction (first :: others) payments) store
      events (some tx) store') :
    ∃ utxos selection, events = [⟨.node (.listUnspent (first :: others)
        wallet.config.minConfirmations wallet.config.maxConfirmations), .ok utxos⟩] ∧
      selectUtxos utxos payments first wallet.config.feePerKb = .ok (some selection) ∧
      selection.toTransaction = .ok tx ∧ store' = store := by
  rw [createTransaction] at returns
  obtain ⟨utxos, _, _, _, rfl, listed, choosing⟩ := WalletProgram.returns_bind_iff.mp returns
  obtain ⟨rfl, rfl⟩ := WalletProgram.returns_node_iff.mp listed
  obtain ⟨chosen, _, _, _, rfl, chooses, making⟩ := WalletProgram.returns_bind_iff.mp choosing
  obtain ⟨selects, rfl, rfl⟩ := WalletProgram.returns_ofChain_iff.mp chooses
  cases chosen with
  | none =>
    obtain ⟨-, impossible, -⟩ := WalletProgram.returns_pure_iff.mp making
    cases impossible
  | some selection =>
    obtain ⟨made, _, _, _, rfl, builds, done⟩ := WalletProgram.returns_bind_iff.mp making
    obtain ⟨makes, rfl, rfl⟩ := WalletProgram.returns_ofChain_iff.mp builds
    obtain ⟨rfl, same, rfl⟩ := WalletProgram.returns_pure_iff.mp done
    cases same
    exact ⟨utxos, selection, rfl, selects, makes, rfl⟩

/-- A wallet with a usable configuration neither creates nor loses value when it makes a
transaction, whatever the node lists. -/
theorem createTransaction_conserves (wallet : Wallet) (first : String) (others : List String)
    (payments : List Payment) (store store' : KeyStore) (events : List Event) (tx : Transaction)
    (valid : wallet.config.validate = .ok ())
    (returns : WalletProgram.Returns (wallet.createTransaction (first :: others) payments) store
      events (some tx) store') :
    ∃ utxos selected change, events = [⟨.node (.listUnspent (first :: others)
        wallet.config.minConfirmations wallet.config.maxConfirmations), .ok utxos⟩] ∧
      tx.Conserves utxos payments first wallet.config.feePerKb selected change := by
  obtain ⟨utxos, selection, asked, selects, makes, -⟩ := createTransaction_returns returns
  have positive := (WalletConfig.usable_of_validate valid).fee
  exact ⟨utxos, selection.selected, selection.change, asked,
    (selectUtxos_balances positive selects).conserves makes⟩

def sampleAddress : String := "1A1zP1eP5QGefi2DMPTfTL5SLmv7DivfNa"

/-- A desk whose node lists one output. -/
def sampleDesk : Desk where
  node := { MemoryNode.new "main" with
    utxos := [⟨Txid.ofHash (.ofNatBE 32 7), 0, 100000, "", none, sampleAddress, 6⟩] }
  store := .empty
  draws := 0

/-- What making a payment of a thousand satoshis comes to at `sampleDesk`. -/
theorem paying_at_sampleDesk :
    let paying := (sampleWallet.createTransaction [sampleAddress] [⟨sampleAddress, 1000⟩]).run
    ((sampleDesk.run paying).1.toOption.bind id).isSome = true ∧
      (Program.transcript Desk.respond paying sampleDesk).filterMap Event.listed? =
        [sampleDesk.node.utxos] := by
  decide +kernel

/-- A payment out of a hundred thousand satoshis. -/
theorem payment_of_a_thousand_conserves :
    ∃ events tx store' selected change,
      WalletProgram.Returns (sampleWallet.createTransaction [sampleAddress]
        [⟨sampleAddress, 1000⟩]) .empty events (some tx) store' ∧
      tx.Conserves sampleDesk.node.utxos [⟨sampleAddress, 1000⟩] sampleAddress 10000 selected
        change := by
  obtain ⟨paid, listed⟩ := paying_at_sampleDesk
  obtain ⟨tx, made⟩ := Option.isSome_iff_exists.mp paid
  obtain ⟨_, gives, rfl⟩ := Option.bind_eq_some_iff.mp made
  have returns := WalletProgram.returns_of_desk gives
  obtain ⟨utxos, selected, change, asked, conserves⟩ := createTransaction_conserves sampleWallet
    sampleAddress [] [⟨sampleAddress, 1000⟩] _ _ _ _ (by decide +kernel) returns
  rw [asked] at listed
  obtain rfl : utxos = sampleDesk.node.utxos := List.singleton_inj.mp listed
  exact ⟨_, tx, _, selected, change, returns, conserves⟩

end Cosigner.Wallet
