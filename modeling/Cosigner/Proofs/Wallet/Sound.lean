import Cosigner.Proofs.Wallet.Reachable
/-!
What holds in every store that a wallet can come to have.

A store is sound when every redeem script in it hashes to its address on the wallet's network, and
every round in it is one of the wallet's (`KeyStore.Sound`). Soundness follows from what the
operations can ask for at all, whatever the replies: none of them offers the store anything else
(`Wallet.Permits`, `asks_operation`). What permitted questions keep holds in every reachable store,
however operations are interleaved and whatever the node answers (`Reaches.keeps`).

That redeem scripts hash to their addresses needs nothing of the configuration (`Reachable.hashed`);
that rounds are the wallet's needs that it has one (`Reachable.sound`).
-/

namespace Cosigner

namespace Wallet

/-- What the operations of a wallet may ask: a redeem script is offered to the store only under the
address that it hashes to, and a round only if it is the first or one of the wallet's. -/
def Permits (wallet : Wallet) : Question → Prop
  | .store (.insertRedeemScript address script) =>
    Address.ofRedeemScript script wallet.network = address
  | .store (.recordRound _ round) => 1 ≤ round ∧ round ≤ max 1 wallet.config.maxRounds
  | _ => True

/-- A script that is verified hashes to its address. -/
theorem ofRedeemScript_of_verified {address hex : String} {network : Network} {script : Bytes}
    (verified : verifiedRedeemScript? address hex network = some script) :
    Address.ofRedeemScript script network = address := by
  rw [verifiedRedeemScript?] at verified
  split at verified
  · cases verified
  · split at verified
    · rename_i hashes
      cases verified
      exact hashes
    · cases verified

/-! ### What each operation asks -/

section Asks

open WalletProgram

variable {wallet : Wallet} {ok : Question → Prop}

theorem asks_issueFrom {identifier : String} {left round : Nat}
    (issued : ∀ address, ok (.store (.isIssued address)))
    (watched : ∀ address, ok (.node (.importAddress address addressLabel false)))
    (recorded : ∀ address round, 1 ≤ round → round ≤ wallet.config.maxRounds →
      ok (.store (.recordRound address round)))
    (above : 1 ≤ round) (below : round + left ≤ wallet.config.maxRounds + 1) :
    Asks ok (wallet.issueFrom identifier left round) := by
  induction left generalizing round with
  | zero => exact asks_pure none
  | succ left ih =>
    have later := ih (Nat.le_succ_of_le above) (by omega)
    rw [issueFrom]
    split
    · exact asks_pure none
    · rename_i key derived
      refine asks_bind (asks_store (issued _)) fun already => ?_
      cases already with
      | true => exact later
      | false =>
        refine asks_bind (asks_node (watched _)) fun _ => ?_
        refine asks_bind (asks_store (recorded _ _ above (by omega))) fun added => ?_
        cases added with
        | true => exact asks_pure _
        | false => exact later

theorem asks_generateAddress {identifier : String}
    (issued : ∀ address, ok (.store (.isIssued address)))
    (watched : ∀ address, ok (.node (.importAddress address addressLabel false)))
    (recorded : ∀ address round, 1 ≤ round → round ≤ wallet.config.maxRounds →
      ok (.store (.recordRound address round))) :
    Asks ok (wallet.generateAddress identifier) :=
  asks_issueFrom issued watched recorded (Nat.le_refl 1) (Nat.le_of_eq (Nat.add_comm 1 _))

theorem asks_cosignerKeys (texts : List String) : Asks ok (cosignerKeys texts) := by
  induction texts with
  | nil => exact asks_pure []
  | cons text texts ih =>
    rw [cosignerKeys]
    split
    · exact asks_throw _
    · exact asks_bind ih fun _ => asks_pure _

theorem asks_createMultisigAddress {identifier : String} {cosigners : List String}
    {required : Nat} :
    Asks wallet.Permits (wallet.createMultisigAddress identifier cosigners required) := by
  rw [createMultisigAddress]
  split
  · exact asks_pure none
  · refine asks_bind (asks_cosignerKeys cosigners) fun _ => ?_
    refine asks_bind (asks_ofChain _) fun script => ?_
    refine asks_bind (asks_store rfl) fun _ => ?_
    refine asks_bind (asks_store ⟨Nat.le_refl 1, Nat.le_max_left 1 _⟩) fun _ => ?_
    exact asks_bind (asks_node trivial) fun _ => asks_pure _

theorem asks_registerMultisig {required : Nat} {publicKeys : List String} :
    Asks wallet.Permits (wallet.registerMultisig required publicKeys) := by
  refine asks_bind (asks_node trivial) fun descriptor => ?_
  split
  · exact asks_throw _
  · rename_i script verified
    split
    · exact asks_bind (asks_store (ofRedeemScript_of_verified verified)) fun _ => asks_pure _
    · exact asks_throw _

theorem asks_redeemScriptOf {address : String} :
    Asks wallet.Permits (wallet.redeemScriptOf address) := by
  refine asks_bind (asks_store trivial) fun known => ?_
  cases known with
  | some script => exact asks_pure script
  | none =>
    refine asks_bind (asks_node trivial) fun answer => ?_
    split
    · exact asks_throw _
    · rename_i script verified
      obtain ⟨hex, rfl, verified⟩ := Option.bind_eq_some_iff.mp verified
      exact asks_bind (asks_store (ofRedeemScript_of_verified verified)) fun _ => asks_pure _

theorem asks_spendTemplate {address : String} :
    Asks wallet.Permits (wallet.spendTemplate address) := by
  rw [spendTemplate]
  split
  · exact asks_bind asks_redeemScriptOf fun _ => asks_pure _
  · exact asks_pure _

theorem asks_listUnspent {addresses : List String}
    (listed : ∀ addresses low high, ok (.node (.listUnspent addresses low high))) :
    Asks ok (wallet.listUnspent addresses) :=
  asks_node (listed _ _ _)

theorem asks_answerRequests {key : PrivateKey} {requests : List SignatureRequest}
    (drawn : ok .entropy) : Asks ok (answerRequests key requests) := by
  induction requests with
  | nil => exact asks_pure []
  | cons request requests ih =>
    refine asks_bind (asks_entropy drawn) fun _ => ?_
    exact asks_bind (asks_ofChain _) fun _ => asks_bind ih fun _ => asks_pure _

theorem asks_signTransaction {tx : Transaction} {identifier address : String} :
    Asks wallet.Permits (wallet.signTransaction tx identifier address) := by
  refine asks_bind asks_spendTemplate fun template => ?_
  refine asks_bind (asks_bind (asks_store trivial) fun _ => asks_pure _) fun found => ?_
  cases found with
  | none => exact asks_pure tx
  | some key =>
    refine asks_bind (asks_listUnspent fun _ _ _ => trivial) fun utxos => ?_
    refine asks_bind (asks_ofChain _) fun requests => ?_
    refine asks_bind (asks_answerRequests trivial) fun entries => ?_
    exact asks_bind (asks_ofChain _) fun _ => asks_pure _

theorem asks_createTransaction {senders : List String} {payments : List Payment}
    (listed : ∀ addresses low high, ok (.node (.listUnspent addresses low high))) :
    Asks ok (wallet.createTransaction senders payments) := by
  cases senders with
  | nil => exact asks_throw _
  | cons first others =>
    refine asks_bind (asks_listUnspent listed) fun utxos => ?_
    refine asks_bind (asks_ofChain _) fun chosen => ?_
    cases chosen with
    | none => exact asks_pure _
    | some selection => exact asks_bind (asks_ofChain _) fun _ => asks_pure _

theorem asks_balance {addresses : List String}
    (listed : ∀ addresses low high, ok (.node (.listUnspent addresses low high))) :
    Asks ok (wallet.balance addresses) := by
  refine asks_bind (asks_listUnspent listed) fun utxos => ?_
  split
  · exact asks_pure _
  · exact asks_throw _

theorem asks_discoverOne {address : String} :
    (wallet.discoverOne address).Asks wallet.Permits := by
  refine Program.asks_bind (Program.asks_askOne trivial) fun known => ?_
  cases known with
  | true => exact trivial
  | false =>
    refine Program.asks_bind (Program.asks_askOne trivial) fun answer => ?_
    cases answer with
    | error e => exact trivial
    | ok answer =>
      dsimp only
      split
      · exact trivial
      · rename_i script verified
        obtain ⟨hex, rfl, verified⟩ := Option.bind_eq_some_iff.mp verified
        exact Program.asks_askOne (ofRedeemScript_of_verified verified)

theorem asks_discoverAll {addresses : List String} :
    (wallet.discoverAll addresses).Asks wallet.Permits := by
  induction addresses with
  | nil => exact trivial
  | cons address addresses ih =>
    exact Program.asks_bind asks_discoverOne fun _ => Program.asks_bind ih fun _ => trivial

/-- No operation asks for what is not permitted, whatever it is replied. -/
theorem asks_operation (operation : Operation) :
    Asks wallet.Permits (operation.program wallet) := by
  cases operation with
  | generateAddress identifier =>
    refine asks_generateAddress (fun _ => trivial) (fun _ => trivial) fun _ round above below => ?_
    exact ⟨above, Nat.le_trans below (Nat.le_max_right 1 _)⟩
  | createMultisigAddress identifier cosigners required => exact asks_createMultisigAddress
  | registerMultisig required publicKeys => exact asks_registerMultisig
  | createTransaction senders payments => exact asks_createTransaction fun _ _ _ => trivial
  | signatureData tx address =>
    refine asks_bind asks_spendTemplate fun template => ?_
    exact asks_bind (asks_listUnspent fun _ _ _ => trivial) fun utxos => asks_ofChain _
  | applySignature tx address entries =>
    exact asks_bind asks_spendTemplate fun template => asks_ofChain _
  | signTransaction tx identifier address => exact asks_signTransaction
  | sendTransaction tx => exact asks_node trivial
  | fetchTransaction txid => exact asks_bind (asks_node trivial) fun hex => asks_ofChain _
  | balance addresses => exact asks_balance fun _ _ _ => trivial
  | rescan => exact asks_bind (asks_node trivial) fun watched => asks_lift asks_discoverAll

end Asks

end Wallet

/-! ### Sound stores -/

/-- Every redeem script hashes to its address. -/
def KeyStore.Hashed (network : Network) (store : KeyStore) : Prop :=
  ∀ address script, store.redeemScripts.find? address = some script →
    Address.ofRedeemScript script network = address

/-- Every redeem script hashes to its address, and every round is one of the wallet's. -/
structure KeyStore.Sound (wallet : Wallet) (store : KeyStore) : Prop where
  scripts : ∀ address script, store.redeemScripts.find? address = some script →
    Address.ofRedeemScript script wallet.network = address
  rounds : ∀ address round, store.rounds.find? address = some round →
    1 ≤ round ∧ round ≤ wallet.config.maxRounds

namespace KeyStore

variable {wallet : Wallet} {store store' : KeyStore} {question : Question}
  {reply : question.Reply}

theorem hashed_empty (network : Network) : empty.Hashed network := by
  intro _ _ found
  cases found

theorem sound_empty (wallet : Wallet) : empty.Sound wallet := by
  constructor <;> intro _ _ found <;> cases found

/-- Adding an entry keeps what holds of all entries, if it holds of this one. -/
theorem find?_add_of_forall {α : Type} {registry : Registry α} {holds : String → α → Prop}
    (all : ∀ name value, registry.find? name = some value → holds name value) {name : String}
    {value : α} (added : holds name value) :
    ∀ other found, (registry.add name value).2.find? other = some found → holds other found := by
  intro other found there
  rw [Registry.find?_add] at there
  split at there
  · rename_i same
    subst same
    cases present : registry.find? other with
    | none =>
      rw [present] at there
      cases there
      exact added
    | some old =>
      rw [present] at there
      cases there
      exact all other _ present
  · exact all other found there

/-- A permitted question leaves every redeem script under the address that it hashes to. -/
theorem Hashed.answers (hashed : store.Hashed wallet.network)
    (permitted : wallet.Permits question) (answers : Answers question store reply store') :
    store'.Hashed wallet.network := by
  cases answers with
  | node => exact hashed
  | entropy => exact hashed
  | store action =>
    cases action with
    | insertRedeemScript address script => exact find?_add_of_forall hashed permitted
    | _ => exact hashed

/-- A permitted question leaves a sound store sound. -/
theorem Sound.answers (rounds : 0 < wallet.config.maxRounds) (sound : store.Sound wallet)
    (permitted : wallet.Permits question) (answers : Answers question store reply store') :
    store'.Sound wallet := by
  refine ⟨Hashed.answers sound.scripts permitted answers, ?_⟩
  cases answers with
  | node => exact sound.rounds
  | entropy => exact sound.rounds
  | store action =>
    cases action with
    | recordRound address round =>
      rw [Wallet.Permits, Nat.max_eq_right rounds] at permitted
      exact find?_add_of_forall sound.rounds permitted
    | _ => exact sound.rounds

end KeyStore

namespace Wallet

variable {wallet : Wallet} {tasks : List Task} {store : KeyStore}

/-- While operations are under way, none of them is about to ask for what is not permitted. -/
theorem Reaches.asks (reached : wallet.Reaches tasks store) :
    ∀ task ∈ tasks, task.rest.Asks wallet.Permits := by
  induction reached with
  | start => simp
  | begin operation _ ih =>
    exact List.forall_mem_append.mpr ⟨ih, List.forall_mem_singleton.mpr (asks_operation operation)⟩
  | advance _ answers ih =>
    obtain ⟨front, here⟩ := List.forall_mem_append.mp ih
    obtain ⟨asks, back⟩ := List.forall_mem_cons.mp here
    exact List.forall_mem_append.mpr ⟨front, List.forall_mem_cons.mpr ⟨asks.2 _, back⟩⟩

/-- What holds of an empty store and is kept by permitted questions holds of every store that is
reached. -/
theorem Reaches.keeps {holds : KeyStore → Prop} (reached : wallet.Reaches tasks store)
    (start : holds .empty)
    (step : ∀ {question : Question} {reply : question.Reply} {store store' : KeyStore},
      holds store → wallet.Permits question → Answers question store reply store' →
        holds store') : holds store := by
  induction reached with
  | start => exact start
  | begin _ _ ih => exact ih
  | advance reached answers ih =>
    have here := reached.asks _ (List.mem_append_right _ List.mem_cons_self)
    exact step ih here.1 answers

/-- In every reachable store, every redeem script hashes to its address. -/
theorem Reachable.hashed (reachable : wallet.Reachable store) : store.Hashed wallet.network := by
  obtain ⟨tasks, reached⟩ := reachable
  exact reached.keeps (KeyStore.hashed_empty _) fun hashed => hashed.answers

/-- Every reachable store of a wallet with a usable configuration is sound. -/
theorem Reachable.sound (valid : wallet.config.validate = .ok ())
    (reachable : wallet.Reachable store) : store.Sound wallet := by
  obtain ⟨tasks, reached⟩ := reachable
  have rounds := (WalletConfig.usable_of_validate valid).rounds
  exact reached.keeps (KeyStore.sound_empty wallet) fun sound => sound.answers rounds

end Wallet

end Cosigner
