import Cosigner.Proofs.Key.PrivateKey
import Cosigner.Proofs.Script.Reveal
import Cosigner.Proofs.Signature.LowS
import Cosigner.Proofs.Signing.Requests
import Cosigner.Proofs.Signing.Write
import Cosigner.Proofs.Wallet.Config
import Cosigner.Proofs.Wallet.KeySearch
import Cosigner.Proofs.Wallet.Sound
/-!
Signing a transaction for an address.

A signature passes through four stages that are only held together by outpoints: the outputs that
the node lists, the requests for them, the entries that answer the requests, and the inputs that
the entries are written into. `signTransaction_signs` says that nothing is mixed up on the way:
every input whose output is listed once carries the signature of its own digest, by a key that
controls the address, and every input whose output is not listed is left alone. The bytes that are
signed and the scripts that are written are spelled out, apart from the functions that make them.
-/

namespace Cosigner

/-- How the outputs of an address are spent, as the store has it at the end. -/
def Wallet.Resolves (wallet : Wallet) (store : KeyStore) (address : String) :
    SpendTemplate → Prop
  | .keyHash => ¬ Address.OfScript address
  | .multisig redeemScript =>
    Address.encode ⟨wallet.network.scriptHashVersion, hash160 redeemScript⟩ = address ∧
      store.redeemScripts.find? address = some redeemScript

/-- A script that shows signatures for a redeem script, before and after one is added behind them,
unless it is among them. Both are the placeholder, the signatures and the redeem script; one that is
still empty shows no signatures. -/
structure Multisig.Adds (redeemScript entry before after : Bytes) (present shown : List Bytes) :
    Prop where
  reads : (before = [] ∧ present = []) ∨ ∃ spellings : List Push.Spelling,
    before = 0 :: (spellings.flatMap Push.Spelling.bytes ++ Push.push redeemScript) ∧
    present = spellings.map Push.Spelling.data
  adds : (entry ∈ present ∧ shown = present) ∨ (entry ∉ present ∧ shown = present ++ [entry])
  writes : after = 0 :: Push.pushAll shown ++ Push.push redeemScript
  reveals : redeemScript.length < Word.bound32 → ∃ row : List Push.Spelling,
    row.flatMap Push.Spelling.bytes = after ∧ Reveals redeemScript shown row

/-- The script of an input before and after one signature is written into it: for the hash of a
public key it is the signature and the key, each behind its length, and for a redeem script the
signature comes behind those that are shown already. -/
def SpendTemplate.Completes (template : SpendTemplate) (key : PrivateKey) (signature : Bytes)
    (before after : Bytes) : Prop :=
  match template with
  | .keyHash => signature.length + 1 < 0x4c ∧ key.publicKey.length < 0x4c ∧
    after = UInt8.ofNat (signature.length + 1) :: signature ++
      0x01 :: UInt8.ofNat key.publicKey.length :: key.publicKey
  | .multisig redeemScript => ∃ present shown,
    Multisig.Adds redeemScript (signature ++ [0x01]) before after present shown

/-- An input before and after a transaction is signed for an address, when the node lists these
outputs. -/
structure Input.SignedFor (tx : Transaction) (template : SpendTemplate) (address : String)
    (key : PrivateKey) (utxos : List Utxo) (events : List Event) (index : Nat)
    (before after : Input) : Prop where
  outpoint : after.outpoint = before.outpoint
  sequence : after.sequence = before.sequence
  /-- An output that is not listed under the address. -/
  foreign : listedAt utxos address before.outpoint = [] → after.script = before.script
  /-- An output that is listed once under the address. -/
  own : (listedAt utxos address before.outpoint).length = 1 →
    ∃ code digest entropy signature, template.SignsUnder address code ∧
      digest = sha256d ((tx.withOnlyScript index code).encode ++ [1, 0, 0, 0]) ∧
      ⟨.entropy, entropy⟩ ∈ events ∧ key.sign digest entropy = .ok signature ∧
      template.Completes key signature before.script after.script

/-- A transaction before and after it is signed for an address. -/
structure Transaction.SignedFor (template : SpendTemplate) (address : String) (key : PrivateKey)
    (utxos : List Utxo) (events : List Event) (before after : Transaction) : Prop where
  version : after.version = before.version
  outputs : after.outputs = before.outputs
  lockTime : after.lockTime = before.lockTime
  length : after.inputs.length = before.inputs.length
  inputs : ∀ (index : Nat) (input : Input), before.inputs[index]? = some input →
    ∃ input', after.inputs[index]? = some input' ∧
      input.SignedFor before template address key utxos events index input'

/-! ### Answers to requests -/

/-- An entry that answers a request with a signature by a key over fresh entropy. -/
structure SignatureRequest.AnsweredBy (key : PrivateKey) (events : List Event)
    (request : SignatureRequest) (entry : SignatureEntry) : Prop where
  outpoint : entry.outpoint = request.outpoint
  publicKey : entry.publicKey = key.publicKey
  signature : ∃ entropy, ⟨.entropy, entropy⟩ ∈ events ∧
    key.sign request.digest entropy = .ok entry.signature

theorem SignatureRequest.AnsweredBy.mono {key : PrivateKey} {events events' : List Event}
    {request : SignatureRequest} {entry : SignatureEntry} (sub : events ⊆ events')
    (answered : request.AnsweredBy key events entry) : request.AnsweredBy key events' entry := by
  obtain ⟨entropy, drawn, signed⟩ := answered.signature
  exact ⟨answered.outpoint, answered.publicKey, entropy, sub drawn, signed⟩

/-- The entries for an outpoint answer the requests for it. -/
theorem forall₂_requestsAt_entriesFor {key : PrivateKey} {events : List Event}
    {requests : List SignatureRequest} {entries : List SignatureEntry}
    (answered : List.Forall₂ (SignatureRequest.AnsweredBy key events) requests entries)
    (outpoint : Outpoint) :
    List.Forall₂ (SignatureRequest.AnsweredBy key events) (requestsAt requests outpoint)
      (entriesFor entries outpoint) := by
  induction answered with
  | nil => exact .nil
  | @cons request entry requests entries head _ ih =>
    by_cases same : request.outpoint = outpoint
    · rw [requestsAt, List.filter_cons_of_pos (by simpa using same), entriesFor,
        List.filter_cons_of_pos (by simpa [head.outpoint] using same)]
      exact .cons head ih
    · rw [requestsAt, List.filter_cons_of_neg (by simpa using same), entriesFor,
        List.filter_cons_of_neg (by simpa [head.outpoint] using same)]
      exact ih

theorem Wallet.answerRequests_returns {key : PrivateKey} {requests : List SignatureRequest}
    {entries : List SignatureEntry} {store store' : KeyStore} {events : List Event}
    (returns : WalletProgram.Returns (answerRequests key requests) store events entries store') :
    List.Forall₂ (SignatureRequest.AnsweredBy key events) requests entries ∧ store' = store := by
  induction requests generalizing entries store events with
  | nil =>
    obtain ⟨rfl, rfl, rfl⟩ := WalletProgram.returns_pure_iff.mp returns
    exact ⟨.nil, rfl⟩
  | cons request requests ih =>
    obtain ⟨entropy, _, _, _, rfl, drawn, answering⟩ := WalletProgram.returns_bind_iff.mp returns
    obtain ⟨rfl, rfl⟩ := WalletProgram.returns_entropy_iff.mp drawn
    obtain ⟨entry, _, _, _, rfl, made, others⟩ := WalletProgram.returns_bind_iff.mp answering
    obtain ⟨answer, rfl, rfl⟩ := WalletProgram.returns_ofChain_iff.mp made
    obtain ⟨rest, _, _, _, rfl, later, done⟩ := WalletProgram.returns_bind_iff.mp others
    obtain ⟨rfl, rfl, rfl⟩ := WalletProgram.returns_pure_iff.mp done
    obtain ⟨answered, rfl⟩ := ih later
    refine ⟨.cons ?_ (answered.imp fun _ _ => .mono (by simp)), rfl⟩
    rw [PrivateKey.answer] at answer
    split at answer
    · rename_i signature signed
      cases answer
      exact ⟨rfl, rfl, entropy, by simp, signed⟩
    · cases answer

/-! ### From requests to inputs -/

theorem exists_of_forall₂_of_getElem? {α β : Type} {R : α → β → Prop} {xs : List α} {ys : List β}
    (related : List.Forall₂ R xs ys) {index : Nat} {x : α} (there : xs[index]? = some x) :
    ∃ y, ys[index]? = some y ∧ R x y := by
  induction related generalizing index with
  | nil => cases there
  | cons head _ ih =>
    cases index with
    | zero =>
      cases there
      exact ⟨_, rfl, head⟩
    | succ index => exact ih there

/-- What is merged into a script is added to the signatures that it shows. -/
theorem Multisig.adds_of_mergeSignature {redeemScript signature before after : Bytes}
    (short : signature.length ≤ 71)
    (merged : mergeSignature before signature redeemScript = .ok after) :
    ∃ present shown, Adds redeemScript (signature ++ [0x01]) before after present shown := by
  unfold mergeSignature at merged
  split at merged
  · cases merged
  · rename_i present shows
    cases merged
    refine ⟨present, addOnce present (signature ++ [0x01]), ?reads, ?adds, rfl,
      fun fits => ?reveals⟩
    case reads =>
      rcases signatures_eq_ok_iff.mp shows with empty | ⟨pushes, rfl, read⟩
      · exact .inl empty
      · obtain ⟨spellings, rfl, rfl⟩ := Push.items_eq_ok_iff.mp read
        exact .inr ⟨spellings, rfl, rfl⟩
    case adds =>
      by_cases there : signature ++ [0x01] ∈ present
      · exact .inl ⟨there, if_pos there⟩
      · exact .inr ⟨there, if_neg there⟩
    case reveals =>
      refine exists_reveals (List.cons_ne_nil _ _) fits (signatures_assemble redeemScript ?_)
      intro s mem
      rcases mem_addOnce.mp mem with shown | rfl
      · exact length_of_signatures shows s shown
      · rw [List.length_append, List.length_singleton, Word.bound32]
        omega

/-- One signature that is written completes the script of its input. -/
theorem SpendTemplate.completes_of_writeEntry {template : SpendTemplate} {key : PrivateKey}
    {digest : Hash256} {entropy : Bytes} {entry : SignatureEntry} {before after : Bytes}
    (by_key : entry.publicKey = key.publicKey)
    (made : key.sign digest entropy = .ok entry.signature)
    (wrote : template.writeEntry entry before = .ok after) :
    template.Completes key entry.signature before after := by
  have short := PrivateKey.length_le_of_sign made
  cases template with
  | keyHash =>
    have short' := key.length_publicKey_le
    have length : (entry.signature ++ [sighashAll]).length = entry.signature.length + 1 :=
      List.length_append
    cases wrote
    refine ⟨by omega, by omega, ?_⟩
    rw [by_key, Script.keyHashScriptSig, Push.push_of_lt (by omega), Push.push_of_lt (by omega),
      length, List.cons_append, List.append_assoc]
    rfl
  | multisig redeemScript => exact Multisig.adds_of_mergeSignature short wrote

/-- Entries that answer the requests for an address sign the inputs of the address. -/
theorem Transaction.signedFor_of_written {template : SpendTemplate} {address : String}
    {key : PrivateKey} {utxos : List Utxo} {events : List Event} {tx signed : Transaction}
    {requests : List SignatureRequest} {entries : List SignatureEntry} (distinct : tx.Distinct)
    (requested : signatureRequests tx address utxos template = .ok requests)
    (answered : List.Forall₂ (SignatureRequest.AnsweredBy key events) requests entries)
    (written : tx.Written template entries signed) :
    SignedFor template address key utxos events tx signed := by
  obtain ⟨scriptCode, code, digests, counts⟩ := signatureRequests_spec requested
  refine ⟨written.version, written.outputs, written.lockTime, written.inputs.length_eq.symm, ?_⟩
  intro index input there
  obtain ⟨input', there', ⟨outpoint, sequence, script⟩⟩ :=
    exists_of_forall₂_of_getElem? written.inputs there
  have spent : tx.Spends input.outpoint := ⟨input, List.mem_of_getElem? there, rfl⟩
  have taken := forall₂_requestsAt_entriesFor answered input.outpoint
  have listed := counts input.outpoint spent
  refine ⟨input', there', outpoint, sequence, fun foreign => ?_, fun once => ?_⟩
  · rw [foreign, List.length_nil, List.length_eq_zero_iff] at listed
    rw [listed, List.forall₂_nil_left_iff] at taken
    rw [taken] at script
    exact (Except.ok.inj script).symm
  · rw [once, List.length_eq_one_iff] at listed
    obtain ⟨request, only⟩ := listed
    rw [only, List.forall₂_cons_left_iff] at taken
    obtain ⟨entry, _, answer, none, own⟩ := taken
    rw [List.forall₂_nil_left_iff.mp none] at own
    have mem : request ∈ requestsAt requests input.outpoint := by
      rw [only]
      exact List.mem_singleton_self request
    obtain ⟨asked, at_outpoint⟩ := List.mem_filter.mp mem
    obtain ⟨found, digest⟩ := digests request asked
    have here : request.inputIndex = index := by
      have first := (findInput?_eq_some_iff_of_distinct distinct).mpr ⟨input, there, rfl⟩
      rw [of_decide_eq_true at_outpoint, first] at found
      exact (Option.some.inj found).symm
    obtain ⟨entropy, drawn, made⟩ := answer.signature
    rw [own, SpendTemplate.writeAll_cons] at script
    obtain ⟨_, wrote, done⟩ := Result.bind_eq_ok_iff.mp script
    cases done
    obtain ⟨-, digest⟩ := signatureHash_eq_ok_iff.mp (here ▸ digest)
    exact ⟨scriptCode, request.digest, entropy, entry.signature, code, digest, drawn, made,
      SpendTemplate.completes_of_writeEntry answer.publicKey made wrote⟩

namespace Wallet

variable {wallet : Wallet} {store store' : KeyStore} {events : List Event} {address : String}

/-- Where a redeem script is shown, the address is that of a script. -/
theorem Resolves.ofScript {script : Bytes}
    (resolves : wallet.Resolves store address (.multisig script)) : Address.OfScript address :=
  ⟨_, _, resolves.1.symm⟩

/-! ### The stages of an operation -/

/-- The redeem script of a multisig address hashes to it, and is in the store afterwards. -/
theorem redeemScriptOf_returns {script : Bytes} (hashed : store.Hashed wallet.network)
    (returns : WalletProgram.Returns (wallet.redeemScriptOf address) store events script store') :
    Address.ofRedeemScript script wallet.network = address ∧
      store'.redeemScripts.find? address = some script ∧ store'.rounds = store.rounds := by
  obtain ⟨known, _, _, _, rfl, asked, going⟩ := WalletProgram.returns_bind_iff.mp returns
  obtain ⟨rfl, performed⟩ := WalletProgram.returns_store_iff.mp asked
  cases performed
  cases present : store.redeemScripts.find? address with
  | some known =>
    rw [present] at going
    obtain ⟨-, same, unchanged⟩ := WalletProgram.returns_pure_iff.mp going
    subst same unchanged
    exact ⟨hashed address _ present, present, rfl⟩
  | none =>
    rw [present] at going
    obtain ⟨answer, _, _, _, rfl, asked, checking⟩ := WalletProgram.returns_bind_iff.mp going
    obtain ⟨rfl, rfl⟩ := WalletProgram.returns_node_iff.mp asked
    split at checking
    · exact absurd checking WalletProgram.not_returns_throw
    · rename_i verified
      obtain ⟨hex, -, verified⟩ := Option.bind_eq_some_iff.mp verified
      obtain ⟨added, _, _, _, rfl, inserted, done⟩ := WalletProgram.returns_bind_iff.mp checking
      obtain ⟨rfl, performed⟩ := WalletProgram.returns_store_iff.mp inserted
      obtain ⟨-, same, unchanged⟩ := WalletProgram.returns_pure_iff.mp done
      subst same unchanged
      cases performed
      refine ⟨ofRedeemScript_of_verified verified, ?_, rfl⟩
      show (Registry.add _ address _).2.find? address = _
      rw [Registry.find?_add, present, if_pos rfl]
      rfl

theorem spendTemplate_resolves {template : SpendTemplate} (hashed : store.Hashed wallet.network)
    (returns : WalletProgram.Returns (wallet.spendTemplate address) store events template
      store') :
    wallet.Resolves store' address template ∧ store'.rounds = store.rounds := by
  rw [spendTemplate] at returns
  split at returns
  · obtain ⟨script, _, _, _, rfl, found, done⟩ := WalletProgram.returns_bind_iff.mp returns
    obtain ⟨-, rfl, rfl⟩ := WalletProgram.returns_pure_iff.mp done
    obtain ⟨hashes, cached, same⟩ := redeemScriptOf_returns hashed found
    exact ⟨⟨hashes, cached⟩, same⟩
  · rename_i keyHash
    obtain ⟨-, rfl, rfl⟩ := WalletProgram.returns_pure_iff.mp returns
    exact ⟨mt Address.isMultisig_eq_true_iff.mpr keyHash, rfl⟩

theorem spendTemplate_returns {template : SpendTemplate} (sound : store.Sound wallet)
    (returns : WalletProgram.Returns (wallet.spendTemplate address) store events template
      store') :
    wallet.Resolves store' address template ∧ store'.rounds = store.rounds :=
  spendTemplate_resolves sound.scripts returns

/-- The search for a key starts from the round that the store has for the address. -/
theorem findKey_returns {identifier : String} {template : SpendTemplate}
    {found : Option PrivateKey}
    (returns : WalletProgram.Returns (wallet.findKey identifier address template) store events
      found store') :
    found = wallet.findKeyIn? identifier (controls template address)
      (store.rounds.find? address) ∧ store' = store := by
  obtain ⟨recorded, _, _, _, rfl, asked, done⟩ := WalletProgram.returns_bind_iff.mp returns
  obtain ⟨rfl, performed⟩ := WalletProgram.returns_store_iff.mp asked
  obtain ⟨-, rfl, rfl⟩ := WalletProgram.returns_pure_iff.mp done
  cases performed
  exact ⟨rfl, rfl⟩

/-- Signing for an address signs the right digest in the right input, by a key that controls the
address, and touches nothing else. Without such a key the transaction stays as it is. -/
theorem signTransaction_signs (wallet : Wallet) (store store' : KeyStore) (tx signed : Transaction)
    (identifier address : String) (events : List Event)
    (valid : wallet.config.validate = .ok ()) (reachable : wallet.Reachable store)
    (distinct : tx.Distinct)
    (returns : WalletProgram.Returns (wallet.signTransaction tx identifier address) store events
      signed store') :
    ∃ template, wallet.Resolves store' address template ∧
      (((∀ round key, wallet.RoundKey identifier round key →
          ¬ template.ControlledBy address key) ∧ signed = tx) ∨
        ∃ round key utxos, wallet.RoundKey identifier round key ∧
          template.ControlledBy address key ∧
          ⟨.node (.listUnspent [address] wallet.config.minConfirmations
            wallet.config.maxConfirmations), .ok utxos⟩ ∈ events ∧
          Transaction.SignedFor template address key utxos events tx signed) := by
  obtain ⟨template, _, _, _, rfl, resolving, searching⟩ := WalletProgram.returns_bind_iff.mp returns
  have sound := reachable.sound valid
  obtain ⟨resolves, same⟩ := spendTemplate_returns sound resolving
  obtain ⟨found, _, _, _, rfl, search, signing⟩ := WalletProgram.returns_bind_iff.mp searching
  obtain ⟨started, rfl⟩ := findKey_returns search
  have within := sound.rounds address
  rw [same] at started
  cases found with
  | none =>
    obtain ⟨-, rfl, rfl⟩ := WalletProgram.returns_pure_iff.mp signing
    refine ⟨template, resolves, .inl ⟨fun round key own controlled => ?_, rfl⟩⟩
    have fails := (findKeyIn?_eq_none_iff within).mp started.symm round key own
    rw [controls_eq_true_iff.mpr controlled] at fails
    cases fails
  | some key =>
    obtain ⟨controlled, round, derived⟩ := exists_of_findKeyIn? within started.symm
    obtain ⟨utxos, _, _, _, rfl, listing, requesting⟩ := WalletProgram.returns_bind_iff.mp signing
    obtain ⟨rfl, rfl⟩ := WalletProgram.returns_node_iff.mp listing
    obtain ⟨requests, _, _, _, rfl, asked, answering⟩ :=
      WalletProgram.returns_bind_iff.mp requesting
    obtain ⟨requested, rfl, rfl⟩ := WalletProgram.returns_ofChain_iff.mp asked
    obtain ⟨entries, _, _, _, rfl, drawn, applying⟩ := WalletProgram.returns_bind_iff.mp answering
    obtain ⟨answered, rfl⟩ := answerRequests_returns drawn
    obtain ⟨outcome, _, _, _, rfl, applied, done⟩ := WalletProgram.returns_bind_iff.mp applying
    obtain ⟨wrote, rfl, rfl⟩ := WalletProgram.returns_ofChain_iff.mp applied
    obtain ⟨rfl, rfl, rfl⟩ := WalletProgram.returns_pure_iff.mp done
    obtain ⟨written, -⟩ := (applySignatures_eq_ok_iff distinct).mp wrote
    refine ⟨template, resolves, .inr ⟨round, key, utxos, derived,
      controls_eq_true_iff.mp controlled, by simp, ?_⟩⟩
    exact Transaction.signedFor_of_written distinct requested
      (answered.imp fun _ _ => .mono fun _ mem => by simp [mem]) written

/-- The address of the first round of `sampleWallet` for the identifier `01`. -/
def signerAddress : String := "1MKHFNiS1oYkFqBAim6PhtMfngSq6YgyM3"

/-- A desk whose node lists one output under `signerAddress`. -/
def signerDesk : Desk where
  node := { MemoryNode.new "main" with
    utxos := [⟨Txid.ofHash (.ofNatBE 32 7), 0, 100000, "", none, signerAddress, 6⟩] }
  store := .empty
  draws := 0

/-- A transaction that spends the output of `signerDesk`, and an output of somebody else. -/
def sharedTransaction : Transaction where
  version := 1
  inputs := [⟨⟨.ofNatBE 32 7, 0⟩, [], 0xffffffff⟩, ⟨⟨.ofNatBE 32 8, 1⟩, [0x51], 0xffffffff⟩]
  outputs := [⟨90000, [0x51]⟩]
  lockTime := 0

/-- What signing `sharedTransaction` comes to at `signerDesk`. -/
theorem signing_at_signerDesk :
    let signing := (sampleWallet.signTransaction sharedTransaction "01" signerAddress).run
    (signerDesk.run signing).1.toOption.any (· != sharedTransaction) = true ∧
      (Program.transcript Desk.respond signing signerDesk).filterMap Event.listed? =
        [signerDesk.node.utxos] := by
  decide +kernel

/-- A shared transaction is signed in the input that is one's own. -/
theorem shared_transaction_is_signed :
    ∃ events signed store' round key utxos,
      WalletProgram.Returns (sampleWallet.signTransaction sharedTransaction "01" signerAddress)
        .empty events signed store' ∧ signed ≠ sharedTransaction ∧
      sampleWallet.RoundKey "01" round key ∧ key.address = signerAddress ∧
      (listedAt utxos signerAddress ⟨.ofNatBE 32 7, 0⟩).length = 1 ∧
      listedAt utxos signerAddress ⟨.ofNatBE 32 8, 1⟩ = [] ∧
      Transaction.SignedFor .keyHash signerAddress key utxos events sharedTransaction signed := by
  obtain ⟨changes, listed⟩ := signing_at_signerDesk
  obtain ⟨signed, gives, changed⟩ := Option.any_eq_true _ _ |>.mp changes
  have returns := WalletProgram.returns_of_desk gives
  have keyHash : ¬ Address.OfScript signerAddress := by
    rw [← Address.isMultisig_eq_true_iff]
    decide +kernel
  obtain ⟨template, resolves, outcome⟩ := signTransaction_signs sampleWallet _ _ _ _ _ _ _
    (by decide +kernel) ⟨[], .start⟩ (by decide +kernel) returns
  have differs : signed ≠ sharedTransaction := by simpa using changed
  rcases outcome with ⟨-, same⟩ | ⟨round, key, utxos, derived, controlled, asked, signs⟩
  · exact absurd same differs
  have mem : utxos ∈ [signerDesk.node.utxos] := by
    rw [← listed]
    exact List.mem_filterMap.mpr ⟨_, asked, rfl⟩
  obtain rfl := List.mem_singleton.mp mem
  cases template with
  | multisig redeemScript => exact absurd resolves.ofScript keyHash
  | keyHash =>
    have own : key.address = signerAddress :=
      SpendTemplate.controlledBy_keyHash_iff.mp controlled
    exact ⟨_, signed, _, round, key, _, returns, differs, derived, own, by decide +kernel,
      by decide +kernel, signs⟩

end Wallet

end Cosigner
