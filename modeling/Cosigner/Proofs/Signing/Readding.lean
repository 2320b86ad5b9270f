import Cosigner.Proofs.Script.Quorum
import Cosigner.Proofs.Signing.Gather
import Cosigner.Proofs.Transaction.Length
/-!
A signature that is there is added again.

No signature is added, but the script is written anew from the signatures that were read out of it,
each behind the shortest header for its length. A script that pushes one of them behind a longer
header is read just as well, and is not given back: it comes out shorter
(`Multisig.respelled_assemble`). So known entries leave a transaction as it is exactly when the
scripts that they are for have the shortest headers throughout
(`readding_keeps_shortest_headers`), and `longer_header_is_respelled` is a script that has not.
-/

namespace Cosigner

variable {redeemScript : Bytes}

/-! ### One script -/

namespace Multisig

/-- Every signature in a script is pushed behind the shortest header. -/
def Shortest (redeemScript scriptSig : Bytes) : Prop :=
  ∃ script, scriptSig = 0 :: (script ++ Push.push redeemScript) ∧ Push.Shortest script

/-- A script before and after it is written anew from the signatures that it shows. -/
structure Respelled (redeemScript : Bytes) (present : List Bytes) (before after : Bytes) :
    Prop where
  shows : signatures after redeemScript = .ok present
  shortest : Shortest redeemScript after
  unchanged_iff : after = before ↔ Shortest redeemScript before
  shorter : after ≠ before → after.length < before.length

variable {existing signature : Bytes} {present : List Bytes}

theorem shortest_framed_iff {script : Bytes} :
    Shortest redeemScript (0 :: (script ++ Push.push redeemScript)) ↔ Push.Shortest script := by
  constructor
  · rintro ⟨other, same, shortest⟩
    rwa [List.append_cancel_right (List.cons.inj same).2]
  · exact fun shortest => ⟨script, rfl, shortest⟩

/-- Some signatures, written anew. -/
theorem respelled_assemble (reads : signatures existing redeemScript = .ok present)
    (some : present ≠ []) :
    Respelled redeemScript present existing (assemble present redeemScript) := by
  rcases signatures_eq_ok_iff.mp reads with ⟨-, none⟩ | ⟨script, rfl, items⟩
  · exact absurd none some
  have fits := Push.length_of_items items
  have same : assemble present redeemScript = 0 :: (script ++ Push.push redeemScript) ↔
      Push.pushAll present = script := by
    simp [assemble]
  refine ⟨signatures_assemble redeemScript fits, ?_, ?_, fun differs => ?_⟩
  · exact shortest_framed_iff.mpr
      ((Push.pushAll_eq_iff_shortest (Push.items_pushAll fits)).mp rfl)
  · rw [same, shortest_framed_iff, Push.pushAll_eq_iff_shortest items]
  · obtain ⟨shorter, only⟩ := Push.pushAll_shortest items
    have fewer := Nat.lt_of_le_of_ne shorter fun equal => differs (same.mpr (only equal))
    simpa [assemble] using fewer

theorem mergeSignature_of_mem (reads : signatures existing redeemScript = .ok present)
    (known : signature ++ [sighashAll] ∈ present) :
    mergeSignature existing signature redeemScript = .ok (assemble present redeemScript) := by
  simp only [mergeSignature, reads, addOnce, if_pos known]

end Multisig

/-! ### One entry -/

namespace Transaction

/-- The script that an entry for an outpoint would be written into, if there is one. -/
def scriptFor? (tx : Transaction) (outpoint : Outpoint) : Option Bytes := do
  let index ← tx.findInput? outpoint
  let input ← tx.inputs[index]?
  return input.script

/-- The script that takes an entry, if there is one, shows its signature. -/
def Knows (redeemScript : Bytes) (tx : Transaction) (entry : SignatureEntry) : Prop :=
  ∀ script ∈ tx.scriptFor? entry.outpoint, ∃ present,
    Multisig.signatures script redeemScript = .ok present ∧ entry.contribution ∈ present

/-- The script that takes an entry, if there is one, has the shortest headers. -/
def ShortestFor (redeemScript : Bytes) (tx : Transaction) (entry : SignatureEntry) : Prop :=
  ∀ script ∈ tx.scriptFor? entry.outpoint, Multisig.Shortest redeemScript script

/-- A transaction before and after entries that it knows are written into it. -/
structure Respelled (redeemScript : Bytes) (entries : List SignatureEntry)
    (before after : Transaction) : Prop where
  spends : ∀ outpoint, after.Spends outpoint ↔ before.Spends outpoint
  knows : ∀ entry, before.Knows redeemScript entry → after.Knows redeemScript entry
  keeps : ∀ entry, before.ShortestFor redeemScript entry → after.ShortestFor redeemScript entry
  shortest : ∀ entry ∈ entries, after.ShortestFor redeemScript entry
  unchanged_iff : after = before ↔ ∀ entry ∈ entries, before.ShortestFor redeemScript entry
  shorter : after ≠ before → after.encode.length < before.encode.length

variable {tx between after : Transaction} {entry : SignatureEntry} {outpoint : Outpoint}

theorem scriptFor?_eq_some_iff {script : Bytes} :
    tx.scriptFor? outpoint = some script ↔ ∃ index input, tx.findInput? outpoint = some index ∧
      tx.inputs[index]? = some input ∧ input.script = script := by
  simp [scriptFor?, Option.bind_eq_some_iff]

theorem spends_setScript (index : Nat) (script : Bytes) :
    (tx.setScript index script).Spends outpoint ↔ tx.Spends outpoint :=
  spends_iff_of_findInput?_eq (findInput?_setScript script)

theorem scriptFor?_setScript {index : Nat} {input : Input}
    (there : tx.inputs[index]? = some input) (script : Bytes) :
    (tx.setScript index script).scriptFor? outpoint =
      if tx.findInput? outpoint = some index then some script else tx.scriptFor? outpoint := by
  split
  · rename_i own
    rw [← findInput?_setScript script] at own
    exact scriptFor?_eq_some_iff.mpr ⟨_, _, own, getElem?_setScript there script, rfl⟩
  · rename_i other
    simp only [scriptFor?, findInput?_setScript]
    cases found : tx.findInput? outpoint with
    | none => rfl
    | some place =>
      have apart : index ≠ place := fun same => other (same ▸ found)
      simp [Transaction.setScript, apart]

/-- Writing a script that still shows the signatures of the one before loses no knowledge. -/
theorem Knows.setScript {index : Nat} {input : Input} {script : Bytes}
    (there : tx.inputs[index]? = some input)
    (same : ∀ {present}, Multisig.signatures input.script redeemScript = .ok present →
      Multisig.signatures script redeemScript = .ok present)
    (knows : tx.Knows redeemScript entry) :
    (tx.setScript index script).Knows redeemScript entry := by
  intro shown mem
  rw [scriptFor?_setScript there] at mem
  split at mem
  · rename_i own
    cases mem
    obtain ⟨present, reads, known⟩ :=
      knows input.script (scriptFor?_eq_some_iff.mpr ⟨_, _, own, there, rfl⟩)
    exact ⟨present, same reads, known⟩
  · exact knows shown mem

theorem ShortestFor.setScript {index : Nat} {input : Input} {script : Bytes}
    (there : tx.inputs[index]? = some input) (written : Multisig.Shortest redeemScript script)
    (shortest : tx.ShortestFor redeemScript entry) :
    (tx.setScript index script).ShortestFor redeemScript entry := by
  intro shown mem
  rw [scriptFor?_setScript there] at mem
  split at mem
  · cases mem
    exact written
  · exact shortest shown mem

/-- An entry that no input takes leaves a transaction as it is. -/
theorem respelled_self (found : tx.findInput? entry.outpoint = none) :
    tx.Respelled redeemScript [entry] tx := by
  have nobody : tx.ShortestFor redeemScript entry := by
    intro script mem
    obtain ⟨index, -, there, -⟩ := scriptFor?_eq_some_iff.mp mem
    rw [found] at there
    cases there
  have nobody := List.forall_mem_singleton.mpr nobody
  exact ⟨fun _ => .rfl, fun _ knows => knows, fun _ shortest => shortest, nobody,
    iff_of_true rfl nobody, fun differs => absurd rfl differs⟩

/-- An entry writes the script of the input that takes it anew. -/
theorem respelled_setScript {index : Nat} {input : Input} {script : Bytes} {present : List Bytes}
    (found : tx.findInput? entry.outpoint = some index) (there : tx.inputs[index]? = some input)
    (reads : Multisig.signatures input.script redeemScript = .ok present)
    (respelled : Multisig.Respelled redeemScript present input.script script) :
    tx.Respelled redeemScript [entry] (tx.setScript index script) := by
  have taker : tx.scriptFor? entry.outpoint = some input.script :=
    scriptFor?_eq_some_iff.mpr ⟨_, _, found, there, rfl⟩
  refine ⟨fun _ => spends_setScript _ _, fun _ => Knows.setScript there ?_,
    fun _ => ShortestFor.setScript there respelled.shortest, ?_, ?_, fun differs => ?_⟩
  · intro other reads'
    rw [Except.ok.inj (reads'.symm.trans reads)]
    exact respelled.shows
  · rw [List.forall_mem_singleton, ShortestFor, scriptFor?_setScript there, if_pos found]
    simpa using respelled.shortest
  · rw [setScript_eq_self_iff there, respelled.unchanged_iff, List.forall_mem_singleton,
      ShortestFor, taker]
    simp
  · exact length_encode_setScript_lt there
      (respelled.shorter (mt (setScript_eq_self_iff there).mpr differs))

theorem applyEntry_respells (knows : tx.Knows redeemScript entry) :
    ∃ after, applyEntry (.multisig redeemScript) tx entry =
        .ok (after, decide (tx.Spends entry.outpoint)) ∧
      tx.Respelled redeemScript [entry] after := by
  cases found : tx.findInput? entry.outpoint with
  | none =>
    have absent := findInput?_eq_none_iff.mp found
    refine ⟨tx, ?_, respelled_self found⟩
    simp only [applyEntry, found, absent, decide_false]
  | some index =>
    obtain ⟨input, there, spends⟩ := exists_of_findInput? found
    have spent : tx.Spends entry.outpoint := spends ▸ spends_of_getElem? there
    obtain ⟨present, reads, known⟩ :=
      knows input.script (scriptFor?_eq_some_iff.mpr ⟨_, _, found, there, rfl⟩)
    have wrote : SpendTemplate.writeEntry (.multisig redeemScript) entry input.script =
        .ok (Multisig.assemble present redeemScript) :=
      Multisig.mergeSignature_of_mem reads known
    refine ⟨_, ?_, respelled_setScript found there reads
      (Multisig.respelled_assemble reads (List.ne_nil_of_mem known))⟩
    simp only [applyEntry, found, there, wrote, spent, decide_true]

/-! ### Several entries -/

theorem Respelled.refl (tx : Transaction) : tx.Respelled redeemScript [] tx :=
  ⟨fun _ => .rfl, fun _ knows => knows, fun _ shortest => shortest, List.forall_mem_nil _,
    iff_of_true rfl (List.forall_mem_nil _), fun differs => absurd rfl differs⟩

theorem Respelled.length_le {entries : List SignatureEntry}
    (respelled : tx.Respelled redeemScript entries after) :
    after.encode.length ≤ tx.encode.length := by
  by_cases same : after = tx
  · exact same ▸ Nat.le_refl _
  · exact Nat.le_of_lt (respelled.shorter same)

theorem Respelled.takes_eq {entries : List SignatureEntry}
    (respelled : tx.Respelled redeemScript entries after) (others : List SignatureEntry) :
    after.takes others = tx.takes others := by
  simp only [takes, respelled.spends]

/-- What has become shorter is never as it was again, so all entries left a transaction as it is
when the first ones did and the others did. -/
theorem Respelled.trans {entries entries' : List SignatureEntry}
    (first : tx.Respelled redeemScript entries between)
    (second : between.Respelled redeemScript entries' after) :
    tx.Respelled redeemScript (entries ++ entries') after := by
  have later := second.length_le
  refine ⟨fun outpoint => (second.spends outpoint).trans (first.spends outpoint),
    fun entry knows => second.knows entry (first.knows entry knows),
    fun entry shortest => second.keeps entry (first.keeps entry shortest),
    List.forall_mem_append.mpr ⟨fun entry mem => second.keeps entry (first.shortest entry mem),
      second.shortest⟩, ?_, fun differs => ?_⟩
  · by_cases same : between = tx
    · rw [List.forall_mem_append, ← first.unchanged_iff, ← same, second.unchanged_iff]
      simp
    · have earlier := first.shorter same
      refine iff_of_false (fun back => ?_) fun shortest => same (first.unchanged_iff.mpr ?_)
      · rw [back] at later
        omega
      · exact (List.forall_mem_append.mp shortest).1
  · by_cases same : between = tx
    · rw [← same] at differs ⊢
      exact second.shorter differs
    · exact Nat.lt_of_le_of_lt later (first.shorter same)

theorem applySignatures_respells {entries : List SignatureEntry}
    (knows : ∀ entry ∈ entries, tx.Knows redeemScript entry) :
    ∃ after, applySignatures (.multisig redeemScript) tx entries =
        .ok (after, tx.takes entries) ∧ tx.Respelled redeemScript entries after := by
  induction entries generalizing tx with
  | nil => exact ⟨tx, rfl, .refl tx⟩
  | cons entry entries ih =>
    obtain ⟨here, knows⟩ := List.forall_mem_cons.mp knows
    obtain ⟨between, wrote, first⟩ := applyEntry_respells here
    obtain ⟨after, wrote', second⟩ := ih fun other mem => first.knows other (knows other mem)
    refine ⟨after, applySignatures_cons_eq_ok_iff.mpr ⟨between, _, _, wrote, wrote', ?_⟩,
      first.trans second⟩
    rw [first.takes_eq, takes, takes, List.countP_cons]
    split <;> rfl

end Transaction

/-- Adding a signature that a script shows writes the script anew, and known entries write the
scripts of their inputs anew: what was there stays as it is, byte for byte, exactly when its
signatures are pushed behind the shortest headers, and becomes shorter when they are not. -/
theorem readding_keeps_shortest_headers (redeemScript : Bytes) :
    (∀ existing signature present, Multisig.signatures existing redeemScript = .ok present →
      signature ++ [sighashAll] ∈ present →
        ∃ merged, Multisig.mergeSignature existing signature redeemScript = .ok merged ∧
          Multisig.Respelled redeemScript present existing merged) ∧
      ∀ (tx : Transaction) (entries : List SignatureEntry),
        (∀ entry ∈ entries, tx.Knows redeemScript entry) →
          ∃ after, applySignatures (.multisig redeemScript) tx entries =
              .ok (after, tx.takes entries) ∧
            tx.Respelled redeemScript entries after := by
  refine ⟨fun existing signature present reads known => ?_, fun tx entries knows => ?_⟩
  · exact ⟨_, Multisig.mergeSignature_of_mem reads known,
      Multisig.respelled_assemble reads (List.ne_nil_of_mem known)⟩
  · exact Transaction.applySignatures_respells knows

/-- The redeem script of a single key. -/
def singleKeyScript : Bytes :=
  0x51 :: Push.push (Quorum.sampleKey 1) ++ [0x51, opCheckMultisig]

/-- A script with the signature of `sampleEntry 0x30`, two bytes with the hash type, behind a header
that is a byte longer than it has to be. -/
def longHeaderScript : Bytes :=
  0 :: 0x4c :: 2 :: 0x30 :: sighashAll :: Push.push singleKeyScript

/-- A longer header is lost when the signature behind it is added again. -/
theorem longer_header_is_respelled :
    ¬ ∀ redeemScript existing signature present,
      Multisig.signatures existing redeemScript = .ok present →
        signature ++ [sighashAll] ∈ present →
          Multisig.mergeSignature existing signature redeemScript = .ok existing := by
  intro kept
  have same := kept singleKeyScript longHeaderScript [0x30] [[0x30, sighashAll]]
    (by decide +kernel) (by decide)
  exact absurd same (by decide +kernel)

/-- The script with the longer header becomes shorter once, in itself and in a transaction, and then
stays. -/
theorem longer_header_is_respelled_once :
    ∃ merged after,
      Multisig.mergeSignature longHeaderScript [0x30] singleKeyScript = .ok merged ∧
      merged.length < longHeaderScript.length ∧
      applySignatures (.multisig singleKeyScript) (sampleSpend.setScript 0 longHeaderScript)
        [sampleEntry 0x30] = .ok (after, 1) ∧
      after.encode.length < (sampleSpend.setScript 0 longHeaderScript).encode.length ∧
      applySignatures (.multisig singleKeyScript) after [sampleEntry 0x30] = .ok (after, 1) := by
  obtain ⟨scripts, transactions⟩ := readding_keeps_shortest_headers singleKeyScript
  have reads : Multisig.signatures longHeaderScript singleKeyScript = .ok [[0x30, sighashAll]] := by
    decide +kernel
  obtain ⟨merged, merges, respelled⟩ := scripts longHeaderScript [0x30] _ reads (by decide)
  have knows : ∀ entry ∈ [sampleEntry 0x30], Transaction.Knows singleKeyScript
      (sampleSpend.setScript 0 longHeaderScript) entry := by
    refine List.forall_mem_singleton.mpr fun script mem => ?_
    have taker : (sampleSpend.setScript 0 longHeaderScript).scriptFor?
        (sampleEntry 0x30).outpoint = some longHeaderScript := by decide +kernel
    rw [taker] at mem
    cases mem
    exact ⟨_, reads, by decide⟩
  obtain ⟨after, wrote, once⟩ := transactions _ _ knows
  have knows' := fun entry mem => once.knows entry (knows entry mem)
  obtain ⟨last, wrote', twice⟩ := transactions after _ knows'
  have stays := twice.unchanged_iff.mpr once.shortest
  refine ⟨merged, after, merges, respelled.shorter ?_, wrote, once.shorter ?_, ?_⟩
  · rintro rfl
    exact absurd merges (by decide +kernel)
  · rintro rfl
    exact absurd wrote (by decide +kernel)
  · rwa [stays, once.takes_eq] at wrote'

end Cosigner
