import Cosigner.Proofs.Wallet.Discovery
/-!
Discovery is transparent.

Passes of discovery lead to situations that are alike (`alike_rescan`), and all other operations
give the same in situations that are alike and lead to such situations again
(`indifferent_operation`). So passes can be put anywhere into a sequence of operations
(`carryOut_others`).

The exception is a wallet that makes or registers a redeem script by itself, after the node has
given discovery another one for the address. Both hash to the address, so the stores of the two runs
show a collision then, and they show it from then on (`agree_of_collide`).

* `discovery_is_transparent`: sequences of operations that differ by passes of discovery give the
  same otherwise.
-/

namespace Cosigner

/-! ### Passes and other operations -/

def Operation.isPass : Operation → Bool
  | .rescan => true
  | _ => false

/-- What is left of operations without passes of discovery. -/
def Operation.others (operations : List Operation) : List Operation :=
  operations.filter fun operation => !operation.isPass

/-- What is left of outcomes without those of passes of discovery. -/
def Outcome.others (outcomes : List Outcome) : List Outcome :=
  outcomes.filter fun outcome => !outcome.operation.isPass

/-! ### Programs in situations that are alike -/

/-- The question is not about redeem scripts, and no query of discovery. -/
def Question.Settled : Question → Prop
  | .node query => query.isDiscovery = false
  | .store (.redeemScript _) => False
  | .store (.hasRedeemScript _) => False
  | .store (.insertRedeemScript _ _) => False
  | _ => True

namespace Wallet

/-- Two runs give the same and end in situations that are alike, or their stores show a
collision. -/
def Agree {α : Type} (wallet : Wallet) (node : NodeBehaviour) (first second : α × Situation) :
    Prop :=
  (first.1 = second.1 ∧ wallet.Alike node first.2 second.2) ∨
    ∃ address, KeyStore.Collide address first.2.store second.2.store

/-- Two runs of a program agree when they begin in situations that are alike. -/
def Indifferent {α : Type} (wallet : Wallet) (around : Surroundings) (p : Program α) : Prop :=
  ∀ first second, wallet.Alike around.node first second →
    wallet.Agree around.node (p.run (Situation.respond around) first)
      (p.run (Situation.respond around) second)

section Indifferent

variable {α β : Type} {wallet : Wallet} {around : Surroundings}

theorem indifferent_pure (value : α) : wallet.Indifferent around (pure value) :=
  fun _ _ alike => .inl ⟨rfl, alike⟩

/-- After a collision it does not matter what is run. -/
theorem agree_of_collide {p q : Program α} {first second : Situation} {address : String}
    (collide : KeyStore.Collide address first.store second.store) :
    wallet.Agree around.node (p.run (Situation.respond around) first)
      (q.run (Situation.respond around) second) :=
  .inr ⟨address, collide.kept (Program.run_keeps (Situation.lawful around) p first)
    (Program.run_keeps (Situation.lawful around) q second)⟩

theorem indifferent_bind {p : Program α} {f : α → Program β}
    (begins : wallet.Indifferent around p) (goesOn : ∀ a, wallet.Indifferent around (f a)) :
    wallet.Indifferent around (p >>= f) := by
  intro first second alike
  rw [Program.run_bind, Program.run_bind]
  rcases begins first second alike with ⟨same, alike⟩ | ⟨address, collide⟩
  · rw [same]
    exact goesOn _ _ _ alike
  · exact agree_of_collide collide

theorem indifferent_askOne (steady : around.node.Steady) {question : Question}
    (settled : question.Settled) : wallet.Indifferent around (Program.askOne question) := by
  intro first second alike
  left
  cases question with
  | node query =>
    refine ⟨steady.others _ _ query settled alike.asked, alike.scripts, alike.rounds, ?_,
      alike.draws⟩
    have asked := alike.asked
    simp only [NodeQuery.others] at asked
    simp only [NodeQuery.others, Program.run, Program.askOne, Situation.respond,
      List.filter_append, asked]
  | entropy =>
    exact ⟨congrArg around.entropy alike.draws, alike.scripts, alike.rounds, alike.asked,
      congrArg Nat.succ alike.draws⟩
  | store action =>
    cases action with
    | redeemScript => exact settled.elim
    | hasRedeemScript => exact settled.elim
    | insertRedeemScript => exact settled.elim
    | round address =>
      exact ⟨congrArg (Registry.find? · address) alike.rounds, alike⟩
    | isIssued address =>
      exact ⟨congrArg (Registry.contains · address) alike.rounds, alike⟩
    | recordRound address round =>
      exact ⟨congrArg (fun rounds => (Registry.add rounds address round).1) alike.rounds,
        alike.scripts, congrArg (fun rounds => (Registry.add rounds address round).2) alike.rounds,
        alike.asked, alike.draws⟩

/-- A program that asks nothing about redeem scripts is indifferent. -/
theorem indifferent_of_asks (steady : around.node.Steady) {p : Program α}
    (asks : p.Asks Question.Settled) : wallet.Indifferent around p := by
  induction p with
  | done value => exact indifferent_pure value
  | ask question next ih =>
    exact indifferent_bind (indifferent_askOne steady asks.1) fun reply => ih reply (asks.2 reply)

theorem indifferent_run_bind {p : WalletProgram α} {f : α → WalletProgram β}
    (begins : wallet.Indifferent around p.run) (goesOn : ∀ a, wallet.Indifferent around (f a).run) :
    wallet.Indifferent around (p >>= f).run := by
  rw [ExceptT.run_bind]
  refine indifferent_bind begins fun result => ?_
  cases result with
  | ok a => exact goesOn a
  | error e => exact indifferent_pure _

/-- A program may offer the store a script under the address that it hashes to, if it does not look
at the reply. -/
theorem indifferent_offer {address : String} {script : Bytes} {p : WalletProgram α}
    (hashes : Address.ofRedeemScript script wallet.network = address)
    (goesOn : wallet.Indifferent around p.run) :
    wallet.Indifferent around
      (WalletProgram.store (.insertRedeemScript address script) >>= fun _ => p).run := by
  intro first second alike
  rw [WalletProgram.run_store_bind, WalletProgram.run_store_bind]
  rcases alike.offer hashes with alike | collide
  · exact goesOn _ _ alike
  · exact agree_of_collide collide

end Indifferent

/-! ### Operations -/

section Operations

variable {wallet : Wallet} {around : Surroundings} (steady : around.node.Steady)

include steady

theorem indifferent_redeemScriptOf (address : String) :
    wallet.Indifferent around (wallet.redeemScriptOf address).run := by
  intro first second alike
  obtain ⟨gives, unnoticed⟩ := run_redeemScriptOf wallet steady address first
  obtain ⟨gives', unnoticed'⟩ := run_redeemScriptOf wallet steady address second
  refine .inl ⟨?_, (unnoticed.symm.trans alike).trans unnoticed'⟩
  rw [gives, gives', alike.scripts]

theorem indifferent_spendTemplate (address : String) :
    wallet.Indifferent around (wallet.spendTemplate address).run := by
  rw [spendTemplate]
  split
  · exact indifferent_run_bind (indifferent_redeemScriptOf steady address) fun _ =>
      indifferent_pure _
  · exact indifferent_pure _

theorem indifferent_createMultisigAddress (identifier : String) (cosigners : List String)
    (required : Nat) :
    wallet.Indifferent around (wallet.createMultisigAddress identifier cosigners required).run := by
  rw [createMultisigAddress]
  split
  · exact indifferent_pure _
  · have keys : WalletProgram.Asks Question.Settled (cosignerKeys cosigners) :=
      asks_cosignerKeys cosigners
    refine indifferent_run_bind (indifferent_of_asks steady keys) fun keys => ?_
    refine indifferent_run_bind (indifferent_of_asks steady (WalletProgram.asks_ofChain _))
      fun script => ?_
    refine indifferent_offer rfl (indifferent_of_asks steady ?_)
    refine WalletProgram.asks_bind (WalletProgram.asks_store trivial) fun _ => ?_
    exact WalletProgram.asks_bind (WalletProgram.asks_node rfl) fun _ => WalletProgram.asks_pure _

theorem indifferent_registerMultisig (required : Nat) (publicKeys : List String) :
    wallet.Indifferent around (wallet.registerMultisig required publicKeys).run := by
  refine indifferent_run_bind (indifferent_of_asks steady (WalletProgram.asks_node rfl))
    fun descriptor => ?_
  split
  · exact indifferent_pure _
  · rename_i script verified
    split
    · exact indifferent_offer (ofRedeemScript_of_verified verified) (indifferent_pure _)
    · exact indifferent_pure _

theorem indifferent_signTransaction (tx : Transaction) (identifier address : String) :
    wallet.Indifferent around (wallet.signTransaction tx identifier address).run := by
  refine indifferent_run_bind (indifferent_spendTemplate steady address) fun template => ?_
  refine indifferent_of_asks steady ?_
  refine WalletProgram.asks_bind (WalletProgram.asks_bind (WalletProgram.asks_store trivial)
    fun _ => WalletProgram.asks_pure _) fun found => ?_
  cases found with
  | none => exact WalletProgram.asks_pure tx
  | some key =>
    refine WalletProgram.asks_bind (asks_listUnspent fun _ _ _ => rfl) fun utxos => ?_
    refine WalletProgram.asks_bind (WalletProgram.asks_ofChain _) fun requests => ?_
    refine WalletProgram.asks_bind (asks_answerRequests trivial) fun entries => ?_
    exact WalletProgram.asks_bind (WalletProgram.asks_ofChain _) fun _ =>
      WalletProgram.asks_pure _

/-- Only the count that a pass gives depends on the passes before it. -/
theorem indifferent_operation (operation : Operation) (other : operation.isPass = false) :
    wallet.Indifferent around (operation.program wallet).run := by
  cases operation with
  | generateAddress identifier =>
    exact indifferent_of_asks steady
      (asks_generateAddress (fun _ => trivial) (fun _ => rfl) fun _ _ _ _ => trivial)
  | createMultisigAddress identifier cosigners required =>
    exact indifferent_createMultisigAddress steady identifier cosigners required
  | registerMultisig required publicKeys =>
    exact indifferent_registerMultisig steady required publicKeys
  | createTransaction senders payments =>
    exact indifferent_of_asks steady (asks_createTransaction fun _ _ _ => rfl)
  | signatureData tx address =>
    refine indifferent_run_bind (indifferent_spendTemplate steady address) fun template => ?_
    exact indifferent_of_asks steady (WalletProgram.asks_bind
      (asks_listUnspent fun _ _ _ => rfl) fun _ => WalletProgram.asks_ofChain _)
  | applySignature tx address entries =>
    refine indifferent_run_bind (indifferent_spendTemplate steady address) fun template => ?_
    exact indifferent_of_asks steady (WalletProgram.asks_ofChain _)
  | signTransaction tx identifier address =>
    exact indifferent_signTransaction steady tx identifier address
  | sendTransaction tx => exact indifferent_of_asks steady (WalletProgram.asks_node rfl)
  | fetchTransaction txid =>
    exact indifferent_of_asks steady (WalletProgram.asks_bind (WalletProgram.asks_node rfl)
      fun _ => WalletProgram.asks_ofChain _)
  | balance addresses => exact indifferent_of_asks steady (asks_balance fun _ _ _ => rfl)
  | rescan => cases other

end Operations

/-! ### Sequences of operations -/

section Sequences

variable (wallet : Wallet) {around : Surroundings} (steady : around.node.Steady)

include steady

/-- Passes of discovery give nothing but their own counts, and are not noticed. -/
theorem carryOut_passes (operations : List Operation)
    (passes : ∀ operation ∈ operations, ¬ (!operation.isPass) = true) (situation : Situation) :
    let after := wallet.carryOut (Situation.respond around) operations situation
    Outcome.others after.1 = [] ∧ wallet.Alike around.node situation after.2 := by
  induction operations generalizing situation with
  | nil => exact ⟨rfl, .refl _⟩
  | cons operation operations ih =>
    obtain ⟨pass, later⟩ := List.forall_mem_cons.mp passes
    cases operation with
    | rescan =>
      obtain ⟨nothing, unnoticed⟩ := ih later _
      exact ⟨nothing, (alike_rescan wallet steady situation).trans unnoticed⟩
    | _ => exact absurd rfl pass

/-- Sequences of operations that differ by passes of discovery give the same otherwise when they
begin in situations that are alike, unless the stores show a collision in the end. -/
theorem carryOut_others {operations operations' : List Operation}
    (same : Operation.others operations = Operation.others operations')
    {first second : Situation} (alike : wallet.Alike around.node first second) :
    let end₁ := wallet.carryOut (Situation.respond around) operations first
    let end₂ := wallet.carryOut (Situation.respond around) operations' second
    Outcome.others end₁.1 = Outcome.others end₂.1 ∨
      ∃ address, KeyStore.Collide address end₁.2.store end₂.2.store := by
  induction operations generalizing operations' first second with
  | nil =>
    have passes := List.filter_eq_nil_iff.mp same.symm
    obtain ⟨nothing, -⟩ := carryOut_passes wallet steady operations' passes second
    exact .inl nothing.symm
  | cons operation operations ih =>
    cases pass : operation.isPass with
    | true =>
      cases operation with
      | rescan =>
        have passed := (alike_rescan wallet steady first).symm.trans alike
        exact ih same passed
      | _ => cases pass
    | false =>
      rw [Operation.others, List.filter_cons_of_pos (by simp [pass])] at same
      obtain ⟨passes, rest, rfl, skipped, -, same⟩ := List.filter_eq_cons_iff.mp same.symm
      obtain ⟨nothing, unnoticed⟩ := carryOut_passes wallet steady passes skipped second
      rw [carryOut_append]
      rcases indifferent_operation steady operation pass _ _ (alike.trans unnoticed) with
        ⟨gives, alike⟩ | ⟨address, collide⟩
      · rcases ih same.symm alike with others | collides
        · left
          simp only [Outcome.others] at nothing others ⊢
          simp only [carryOut, List.filter_append, nothing, List.nil_append, List.filter_cons]
          rw [gives, others]
        · exact .inr collides
      · right
        have kept := carryOut_keeps (Situation.lawful around) wallet
        exact ⟨address, collide.kept (kept operations _) (kept rest _)⟩

end Sequences

/-- Near a node that always answers the same about a redeem script, passes of discovery can be put
anywhere between operations, and may fail: all other operations give what they give without them,
unless the two stores come to have different scripts with one hash for an address. -/
theorem discovery_is_transparent (wallet : Wallet) (around : Surroundings)
    (steady : around.node.Steady) (start : Situation) (operations operations' : List Operation)
    (same : Operation.others operations = Operation.others operations') :
    let end₁ := wallet.carryOut (Situation.respond around) operations start
    let end₂ := wallet.carryOut (Situation.respond around) operations' start
    Outcome.others end₁.1 = Outcome.others end₂.1 ∨
      ∃ address, KeyStore.Collide address end₁.2.store end₂.2.store :=
  carryOut_others wallet steady same (.refl start)

/-- A node that knows what the node of `escrowDesk` knows, and cannot list what it watches before it
has been asked something. -/
def escrowSurroundings : Surroundings where
  node asked
    | .listUnspent _ _ _ => .ok escrowDesk.node.utxos
    | .watchedAddresses =>
      if asked.isEmpty then .error (.unreachable "starting") else .ok escrowDesk.node.watched
    | .redeemScript address => .ok (escrowDesk.node.redeemScripts.lookup address)
    | _ => .error (.rejected "unknown")
  entropy := Bytes.ofNatBE 32

theorem steady_escrowSurroundings : escrowSurroundings.node.Steady := by
  constructor
  · intro asked asked' address
    rfl
  · intro asked asked' query other _
    cases query with
    | watchedAddresses => cases other
    | redeemScript => cases other
    | _ => rfl

/-- Cosigning of `escrowSpend`. -/
def escrowOperations : List Operation :=
  [.signatureData escrowSpend sampleScriptAddress,
    .applySignature escrowSpend sampleScriptAddress [⟨⟨.ofNatBE 32 7, 0⟩, [0x30], []⟩]]

/-- `escrowOperations` after a pass that fails and one that finds the redeem script, with another
pass between them. -/
def escrowOperationsDiscovered : List Operation :=
  [.rescan, .rescan] ++ escrowOperations.intersperse .rescan

/-- `sampleWallet` carries out operations among `escrowSurroundings`. -/
def escrowRun (operations : List Operation) : List Outcome × Situation :=
  sampleWallet.carryOut (Situation.respond escrowSurroundings) operations .start

/-- What the passes do to the store, and where the operations end with and without them. -/
theorem store_of_escrowRun :
    (escrowRun [.rescan]).2.store = .empty ∧
      (escrowRun [.rescan, .rescan]).2.store.redeemScripts.find? sampleScriptAddress =
        some [0x51, 0xae] ∧
      (escrowRun escrowOperationsDiscovered).2.store = (escrowRun escrowOperations).2.store := by
  decide +kernel

/-- Of two passes before the operations one fails and the other finds the redeem script, and the
operations give what they give without them. -/
theorem escrow_is_signed_as_without_discovery :
    (escrowRun [.rescan]).2.store = .empty ∧
      (escrowRun [.rescan, .rescan]).2.store.redeemScripts.find? sampleScriptAddress =
        some [0x51, 0xae] ∧
      Outcome.others (escrowRun escrowOperationsDiscovered).1 =
        Outcome.others (escrowRun escrowOperations).1 := by
  obtain ⟨fails, finds, together⟩ := store_of_escrowRun
  refine ⟨fails, finds, ?_⟩
  rcases discovery_is_transparent sampleWallet escrowSurroundings steady_escrowSurroundings .start
    escrowOperationsDiscovered escrowOperations rfl with
    same | ⟨address, script, script', found, found', differ, -⟩
  · exact same
  · have both : some script = some script' := by
      rw [← found, ← found', ← escrowRun, ← escrowRun, together]
    exact absurd (Option.some.inj both) differ

end Wallet

end Cosigner
