import Cosigner.Proofs.Address
import Cosigner.Proofs.Signing.Commitment
import Cosigner.Proofs.Wallet.Signing
import Mathlib.Logic.Relation
/-!
Cosigners agree on what is to be signed.

A transaction goes round between cosigners, and each of them writes signatures into it. This changes
the scripts of its inputs and nothing else (`SignedInto.sameButScripts`), and digests do not cover
these scripts, so the requests for an address stay what they were (`signatureRequests_congr`). They
also depend on the redeem script of the address, which each cosigner may have from somewhere else;
but every one of them has checked that it hashes to the address. So cosigners are asked for the same
signatures at every stage, or hold two scripts with one hash between them (`cosigners_agree`).
-/

namespace Cosigner

/-! ### Signatures only change scripts -/

section Apply

variable {template : SpendTemplate} {tx tx' : Transaction}

theorem stripScripts_of_applyEntry {entry : SignatureEntry} {taken : Bool}
    (wrote : applyEntry template tx entry = .ok (tx', taken)) :
    tx'.stripScripts = tx.stripScripts := by
  unfold applyEntry at wrote
  split at wrote
  · cases wrote
    rfl
  · split at wrote
    · cases wrote
      rfl
    · split at wrote
      · cases wrote
      · cases wrote
        exact tx.stripScripts_setScript _ _

theorem stripScripts_of_applySignatures {entries : List SignatureEntry} {count : Nat}
    (wrote : applySignatures template tx entries = .ok (tx', count)) :
    tx'.stripScripts = tx.stripScripts := by
  induction entries generalizing tx count with
  | nil =>
    cases wrote
    rfl
  | cons entry entries ih =>
    unfold applySignatures at wrote
    split at wrote
    · cases wrote
    · rename_i between taken first
      split at wrote
      · cases wrote
      · rename_i last rest others
        cases wrote
        rw [ih others, stripScripts_of_applyEntry first]

end Apply

namespace Wallet

variable {wallet : Wallet} {store store' : KeyStore} {events : List Event}
  {tx signed : Transaction} {address identifier : String}

/-- What is signed by a wallet is written as entries, if it is not left as it is. -/
theorem signTransaction_writes
    (returns : WalletProgram.Returns (wallet.signTransaction tx identifier address) store events
      signed store') :
    signed = tx ∨ ∃ template entries count,
      applySignatures template tx entries = .ok (signed, count) := by
  obtain ⟨template, _, _, _, -, -, searching⟩ := WalletProgram.returns_bind_iff.mp returns
  obtain ⟨found, _, _, _, -, -, signing⟩ := WalletProgram.returns_bind_iff.mp searching
  cases found with
  | none =>
    obtain ⟨-, same, -⟩ := WalletProgram.returns_pure_iff.mp signing
    exact .inl same
  | some key =>
    obtain ⟨utxos, _, _, _, -, -, requesting⟩ := WalletProgram.returns_bind_iff.mp signing
    obtain ⟨requests, _, _, _, -, -, answering⟩ := WalletProgram.returns_bind_iff.mp requesting
    obtain ⟨entries, _, _, _, -, -, applying⟩ := WalletProgram.returns_bind_iff.mp answering
    obtain ⟨⟨after, count⟩, _, _, _, -, applied, done⟩ :=
      WalletProgram.returns_bind_iff.mp applying
    obtain ⟨wrote, -, -⟩ := WalletProgram.returns_ofChain_iff.mp applied
    obtain ⟨-, rfl, -⟩ := WalletProgram.returns_pure_iff.mp done
    exact .inr ⟨template, entries, count, wrote⟩

/-- What is applied by a wallet is written as entries. -/
theorem applySignature_writes {entries : List SignatureEntry} {count : Nat}
    (returns : WalletProgram.Returns (wallet.applySignature tx address entries) store events
      (signed, count) store') :
    ∃ template, applySignatures template tx entries = .ok (signed, count) := by
  obtain ⟨template, _, _, _, -, -, applying⟩ := WalletProgram.returns_bind_iff.mp returns
  obtain ⟨wrote, -, -⟩ := WalletProgram.returns_ofChain_iff.mp applying
  exact ⟨template, wrote⟩

end Wallet

namespace Transaction

/-- A transaction before and after somebody has signed it: entries are written into it, or any
wallet applies signatures to it or signs it. -/
inductive SignedOnce : Transaction → Transaction → Prop where
  | write {template : SpendTemplate} {tx tx' : Transaction} {entries : List SignatureEntry}
      {count : Nat} (wrote : applySignatures template tx entries = .ok (tx', count)) :
      SignedOnce tx tx'
  | apply {wallet : Wallet} {store store' : KeyStore} {events : List Event}
      {tx tx' : Transaction} {address : String} {entries : List SignatureEntry} {count : Nat}
      (returns : WalletProgram.Returns (wallet.applySignature tx address entries) store events
        (tx', count) store') : SignedOnce tx tx'
  | sign {wallet : Wallet} {store store' : KeyStore} {events : List Event} {tx tx' : Transaction}
      {identifier address : String}
      (returns : WalletProgram.Returns (wallet.signTransaction tx identifier address) store events
        tx' store') : SignedOnce tx tx'

/-- A transaction before and after it has gone round any number of signers. -/
def SignedInto : Transaction → Transaction → Prop := Relation.ReflTransGen SignedOnce

variable {tx tx' : Transaction}

theorem SignedOnce.stripScripts_eq (signed : tx.SignedOnce tx') :
    tx'.stripScripts = tx.stripScripts := by
  cases signed with
  | write wrote => exact stripScripts_of_applySignatures wrote
  | apply returns =>
    obtain ⟨template, wrote⟩ := Wallet.applySignature_writes returns
    exact stripScripts_of_applySignatures wrote
  | sign returns =>
    rcases Wallet.signTransaction_writes returns with rfl | ⟨template, entries, count, wrote⟩
    · rfl
    · exact stripScripts_of_applySignatures wrote

/-- Signers change the scripts of inputs, and nothing else. -/
theorem SignedInto.sameButScripts (signed : tx.SignedInto tx') : tx.SameButScripts tx' := by
  apply stripScripts_eq_iff.mp
  induction signed with
  | refl => rfl
  | tail _ once ih => exact ih.trans once.stripScripts_eq.symm

end Transaction

/-! ### Requests do not depend on scripts -/

section Requests

variable {tx tx' : Transaction}

@[simp] theorem Transaction.findInput?_stripScripts (tx : Transaction) (outpoint : Outpoint) :
    tx.stripScripts.findInput? outpoint = tx.findInput? outpoint := by
  simp only [findInput?, stripScripts, List.findIdx?_map, Function.comp_def]

theorem Transaction.SameButScripts.findInput?_eq (same : tx.SameButScripts tx')
    (outpoint : Outpoint) : tx.findInput? outpoint = tx'.findInput? outpoint := by
  rw [← findInput?_stripScripts tx, stripScripts_eq_iff.mpr same, findInput?_stripScripts]

theorem requestsFor_congr (same : tx.SameButScripts tx') (scriptCode : Bytes)
    (utxos : List Utxo) : requestsFor tx scriptCode utxos = requestsFor tx' scriptCode utxos := by
  induction utxos with
  | nil => rfl
  | cons utxo utxos ih => simp only [requestsFor, ih, same.findInput?_eq, signatureHash_congr same]

/-- The requests for an address do not depend on what the inputs hold. -/
theorem signatureRequests_congr (same : tx.SameButScripts tx') (address : String)
    (utxos : List Utxo) (template : SpendTemplate) :
    signatureRequests tx address utxos template = signatureRequests tx' address utxos template := by
  simp only [signatureRequests, requestsFor_congr same]

end Requests

/-! ### Two cosigners -/

/-- Two stores have different scripts with one hash for an address. -/
def KeyStore.Collide (address : String) (store store' : KeyStore) : Prop :=
  ∃ script script', store.redeemScripts.find? address = some script ∧
    store'.redeemScripts.find? address = some script' ∧ script ≠ script' ∧
    hash160 script = hash160 script'

namespace Wallet

variable {wallet other : Wallet} {store store' : KeyStore} {address : String}

/-- Two wallets of one network spend the outputs of an address in the same way, or have a
collision. -/
theorem Resolves.eq_or_collide {template template' : SpendTemplate}
    (network : wallet.network = other.network) (resolves : wallet.Resolves store address template)
    (resolves' : other.Resolves store' address template') :
    template = template' ∨ KeyStore.Collide address store store' := by
  cases template with
  | keyHash =>
    cases template' with
    | keyHash => exact .inl rfl
    | multisig script' => exact absurd resolves'.ofScript resolves
  | multisig script =>
    cases template' with
    | keyHash => exact absurd resolves.ofScript resolves'
    | multisig script' =>
      obtain ⟨hashes, cached⟩ := resolves
      obtain ⟨hashes', cached'⟩ := resolves'
      rw [network] at hashes
      by_cases same : script = script'
      · rw [same]
        exact .inl rfl
      · right
        have hash := Address.hash160_eq_of_ofRedeemScript_eq (hashes.trans hashes'.symm)
        exact ⟨script, script', cached, cached', same, hash⟩

/-- The requests for an address are made from the outputs that the node lists last, for the way in
which the store has it at the end that outputs of the address are spent. -/
theorem signatureData_returns {tx : Transaction} {events : List Event}
    {requests : List SignatureRequest} (hashed : store.Hashed wallet.network)
    (returns : WalletProgram.Returns (wallet.signatureData tx address) store events requests
      store') :
    ∃ template earlier utxos, wallet.Resolves store' address template ∧
      events.filterMap Event.listed? = earlier ++ [utxos] ∧
      signatureRequests tx address utxos template = .ok requests := by
  obtain ⟨template, _, resolving, _, rfl, resolved, listing⟩ :=
    WalletProgram.returns_bind_iff.mp returns
  obtain ⟨resolves, -⟩ := spendTemplate_resolves hashed resolved
  obtain ⟨utxos, _, _, _, rfl, asked, making⟩ := WalletProgram.returns_bind_iff.mp listing
  obtain ⟨rfl, rfl⟩ := WalletProgram.returns_node_iff.mp asked
  obtain ⟨made, rfl, rfl⟩ := WalletProgram.returns_ofChain_iff.mp making
  refine ⟨template, resolving.filterMap Event.listed?, utxos, resolves, ?_, made⟩
  rw [List.append_nil, List.filterMap_append]
  rfl

/-- Two cosigners who are at different stages of signing a transaction, and to whom the node lists
the same outputs, are to answer the same requests, unless the redeem scripts that they hold for the
address are different and have the same hash. -/
theorem cosigners_agree (wallet other : Wallet) (store₁ store₁' store₂ store₂' : KeyStore)
    (tx tx' : Transaction) (address : String) (events₁ events₂ : List Event)
    (requests₁ requests₂ : List SignatureRequest) (network : wallet.network = other.network)
    (reachable₁ : wallet.Reachable store₁) (reachable₂ : other.Reachable store₂)
    (signed : tx.SignedInto tx')
    (returns₁ : WalletProgram.Returns (wallet.signatureData tx address) store₁ events₁ requests₁
      store₁')
    (returns₂ : WalletProgram.Returns (other.signatureData tx' address) store₂ events₂ requests₂
      store₂')
    (listed : events₁.filterMap Event.listed? = events₂.filterMap Event.listed?) :
    requests₁ = requests₂ ∨ KeyStore.Collide address store₁' store₂' := by
  obtain ⟨template, earlier, utxos, resolves, lists, made⟩ :=
    signatureData_returns reachable₁.hashed returns₁
  obtain ⟨template', earlier', utxos', resolves', lists', made'⟩ :=
    signatureData_returns reachable₂.hashed returns₂
  rcases resolves.eq_or_collide network resolves' with rfl | collide
  · left
    have same : utxos = utxos' := by
      rw [lists, lists'] at listed
      exact List.singleton_inj.mp (List.append_inj' listed rfl).2
    have congr := signatureRequests_congr signed.sameButScripts address utxos template
    rw [made, same, made'] at congr
    exact Except.ok.inj congr
  · exact .inr collide

/-- A wallet with another secret than `sampleWallet`. -/
def cosignerWallet : Wallet := ⟨{ serverSecret := ⟨"02"⟩ }, .mainnet⟩

/-- A desk whose node lists one output under `sampleScriptAddress` and knows its redeem script. -/
def escrowDesk : Desk where
  node := { MemoryNode.new "main" with
    utxos := [⟨Txid.ofHash (.ofNatBE 32 7), 0, 100000, "", none, sampleScriptAddress, 6⟩]
    watched := [sampleScriptAddress]
    redeemScripts := [(sampleScriptAddress, "51ae")] }
  store := .empty
  draws := 0

/-- `escrowDesk` after a pass of discovery by `sampleWallet`. -/
def discoveredDesk : Desk := (escrowDesk.run (Operation.rescan.program sampleWallet).run).2

theorem reachable_discoveredDesk : sampleWallet.Reachable discoveredDesk.store := by
  have empty : sampleWallet.Reachable escrowDesk.store := ⟨[], .start⟩
  exact empty.at_desk .rescan

/-- A spend of the output of `escrowDesk`. -/
def escrowSpend : Transaction := .new [.unsigned ⟨.ofNatBE 32 7, 0⟩] [⟨90000, [0x51]⟩]

/-- `escrowSpend` with a signature in it. -/
def escrowSpendSigned : Transaction :=
  escrowSpend.setScript 0 (Multisig.assemble [[0x30, sighashAll]] [0x51, 0xae])

theorem escrowSpend_signedInto : escrowSpend.SignedInto escrowSpendSigned := by
  have wrote : applySignatures (.multisig [0x51, 0xae]) escrowSpend
      [⟨⟨.ofNatBE 32 7, 0⟩, [0x30], []⟩] = .ok (escrowSpendSigned, 1) := by
    decide +kernel
  exact .single (.write wrote)

/-- What the requests for `escrowSpend` come to, after discovery and at another stage without it. -/
theorem requests_for_escrowSpend :
    let first := (sampleWallet.signatureData escrowSpend sampleScriptAddress).run
    let second := (cosignerWallet.signatureData escrowSpendSigned sampleScriptAddress).run
    discoveredDesk.store ≠ .empty ∧
      (discoveredDesk.run first).1.toOption.any (fun requests => requests.length == 1) = true ∧
      (escrowDesk.run second).1.toOption.isSome = true ∧
      (discoveredDesk.run first).2.store.redeemScripts.find? sampleScriptAddress =
        (escrowDesk.run second).2.store.redeemScripts.find? sampleScriptAddress ∧
      (Program.transcript Desk.respond first discoveredDesk).filterMap Event.listed? =
        (Program.transcript Desk.respond second escrowDesk).filterMap Event.listed? := by
  decide +kernel

/-- A cosigner who has discovered the redeem script, and one who looks it up for a transaction that
is already signed by somebody, are to answer the same request. -/
theorem cosigners_of_escrow_agree :
    ∃ store₁ store₂ events₁ events₂ requests, discoveredDesk.store ≠ .empty ∧
      WalletProgram.Returns (sampleWallet.signatureData escrowSpend sampleScriptAddress)
        discoveredDesk.store events₁ requests store₁ ∧
      WalletProgram.Returns (cosignerWallet.signatureData escrowSpendSigned sampleScriptAddress)
        .empty events₂ requests store₂ ∧ requests.length = 1 := by
  obtain ⟨discovered, gives₁, gives₂, together, listed⟩ := requests_for_escrowSpend
  obtain ⟨requests₁, gives₁, one⟩ := Option.any_eq_true _ _ |>.mp gives₁
  obtain ⟨requests₂, gives₂⟩ := Option.isSome_iff_exists.mp gives₂
  have returns₁ := WalletProgram.returns_of_desk gives₁
  have returns₂ := WalletProgram.returns_of_desk gives₂
  have outcome := cosigners_agree sampleWallet cosignerWallet _ _ _ _ _ _ _ _ _ _ _ rfl
    reachable_discoveredDesk ⟨[], .start⟩ escrowSpend_signedInto returns₁ returns₂ listed
  rcases outcome with same | ⟨script, script', cached, cached', differ, -⟩
  · rw [← same] at returns₂
    exact ⟨_, _, _, _, requests₁, discovered, returns₁, returns₂, eq_of_beq one⟩
  · rw [cached, cached'] at together
    exact absurd (Option.some.inj together) differ

end Wallet

end Cosigner
