import Cosigner.Proofs.Script.Multisig
import Cosigner.Proofs.Signing.Write
/-!
Signatures of a quorum, gathered from several signers.

Each signer, or each relay between them, hands on a list of entries, and the lists are written
one after the other (`applyBatches`). No contribution is lost and none is taken twice: an input ends
with the signatures that it had, followed by the new ones in the order of their first arrival
(`Transaction.Gathered`). What order the entries come in, and how they are split into lists, only
matters for the order of the signatures (`contributions_commute`).
-/

namespace Cosigner

/-- Writes lists of entries one after the other, and adds up how many of each an input took. -/
def applyBatches (template : SpendTemplate) (tx : Transaction) :
    List (List SignatureEntry) → Except ChainError (Transaction × Nat)
  | [] => .ok (tx, 0)
  | batch :: batches =>
    match applySignatures template tx batch with
    | .error e => .error e
    | .ok (tx, count) =>
      match applyBatches template tx batches with
      | .error e => .error e
      | .ok (tx, counts) => .ok (tx, count + counts)

/-- What an entry adds to the signatures of a quorum. -/
def SignatureEntry.contribution (entry : SignatureEntry) : Bytes := entry.signature ++ [sighashAll]

/-- A list of signatures that others were contributed to: each new one is behind those that were
there, once, in the order of first arrival. -/
def gathered (present contributed : List Bytes) : List Bytes :=
  present ++ (contributed.removeAll present).eraseDups

/-- An input before and after it gathers the signatures for its outpoint. -/
structure Input.Gathered (redeemScript : Bytes) (entries : List SignatureEntry)
    (before after : Input) : Prop where
  outpoint : after.outpoint = before.outpoint
  sequence : after.sequence = before.sequence
  /-- An input that no entry is for keeps its script. -/
  unaddressed : entriesFor entries before.outpoint = [] → after.script = before.script
  addressed : entriesFor entries before.outpoint ≠ [] →
    ∃ present sigs, Multisig.signatures before.script redeemScript = .ok present ∧
      sigs = gathered present
        ((entriesFor entries before.outpoint).map SignatureEntry.contribution) ∧
      after.script = Multisig.assemble sigs redeemScript ∧
      Multisig.signatures after.script redeemScript = .ok sigs

/-- A transaction before and after its inputs gather the signatures for their outpoints. -/
structure Transaction.Gathered (redeemScript : Bytes) (entries : List SignatureEntry)
    (before after : Transaction) : Prop where
  version : after.version = before.version
  inputs : List.Forall₂ (Input.Gathered redeemScript entries) before.inputs after.inputs
  outputs : after.outputs = before.outputs
  lockTime : after.lockTime = before.lockTime

/-- Two inputs that differ at most in the order of the signatures that they show. -/
structure Input.SameUpToOrder (redeemScript : Bytes) (a b : Input) : Prop where
  outpoint : a.outpoint = b.outpoint
  sequence : a.sequence = b.sequence
  script : a.script = b.script ∨ ∃ sigs sigs' : List Bytes, sigs.Perm sigs' ∧
    a.script = Multisig.assemble sigs redeemScript ∧
    b.script = Multisig.assemble sigs' redeemScript

/-- Two transactions that differ at most in the order of the signatures that their inputs show. -/
structure Transaction.SameUpToOrder (redeemScript : Bytes) (a b : Transaction) : Prop where
  version : a.version = b.version
  inputs : List.Forall₂ (Input.SameUpToOrder redeemScript) a.inputs b.inputs
  outputs : a.outputs = b.outputs
  lockTime : a.lockTime = b.lockTime

variable {redeemScript : Bytes} {entries entries' : List SignatureEntry}

/-! ### Lists of entries -/

theorem applyBatches_cons_eq_ok_iff {template : SpendTemplate} {tx tx' : Transaction}
    {batch : List SignatureEntry} {batches : List (List SignatureEntry)} {total : Nat} :
    applyBatches template tx (batch :: batches) = .ok (tx', total) ↔
      ∃ between count rest, applySignatures template tx batch = .ok (between, count) ∧
        applyBatches template between batches = .ok (tx', rest) ∧ total = count + rest := by
  rw [applyBatches]
  constructor
  · intro h
    split at h
    · cases h
    · rename_i between count wrote
      split at h
      · cases h
      · rename_i last rest wrote'
        cases h
        exact ⟨between, count, rest, wrote, wrote', rfl⟩
  · rintro ⟨between, count, rest, wrote, wrote', rfl⟩
    simp only [wrote, wrote']

/-- Lists written one after the other have the effect of one list. -/
theorem applyBatches_eq_ok_iff {template : SpendTemplate} {tx tx' : Transaction}
    {batches : List (List SignatureEntry)} {total : Nat} (distinct : tx.Distinct) :
    applyBatches template tx batches = .ok (tx', total) ↔
      tx.Written template batches.flatten tx' ∧ total = tx.takes batches.flatten := by
  induction batches generalizing tx total with
  | nil =>
    rw [List.flatten_nil, Transaction.written_iff_eq (by simp)]
    simp only [applyBatches, Except.ok.injEq, Prod.mk.injEq, Transaction.takes, List.countP_nil]
    exact and_congr eq_comm eq_comm
  | cons batch batches ih =>
    rw [applyBatches_cons_eq_ok_iff, List.flatten_cons, Transaction.written_append_iff]
    have counted (between : Transaction) (first : tx.Written template batch between) :
        tx.takes (batch ++ batches.flatten) = tx.takes batch + between.takes batches.flatten := by
      rw [first.takes_eq]
      exact List.countP_append
    constructor
    · rintro ⟨between, count, rest, wrote, wrote', rfl⟩
      obtain ⟨first, rfl⟩ := (applySignatures_eq_ok_iff distinct).mp wrote
      obtain ⟨second, rfl⟩ := (ih (first.distinct_iff.mpr distinct)).mp wrote'
      exact ⟨⟨between, first, second⟩, (counted between first).symm⟩
    · rintro ⟨⟨between, first, second⟩, rfl⟩
      exact ⟨between, _, _, (applySignatures_eq_ok_iff distinct).mpr ⟨first, rfl⟩,
        (ih (first.distinct_iff.mpr distinct)).mpr ⟨second, rfl⟩, counted between first⟩

/-! ### One input -/

/-- Entries for an input of a quorum are gathered behind the signatures that it shows. -/
theorem writeAll_multisig {script : Bytes} {present : List Bytes}
    (shows : Multisig.signatures script redeemScript = .ok present)
    (fits : ∀ entry ∈ entries, entry.contribution.length < Word.bound32)
    (some : entries ≠ []) :
    (SpendTemplate.multisig redeemScript).writeAll entries script =
      .ok (Multisig.assemble (gathered present (entries.map SignatureEntry.contribution))
        redeemScript) := by
  rw [gathered, ← Multisig.foldl_addOnce]
  induction entries generalizing script present with
  | nil => exact absurd rfl some
  | cons entry entries ih =>
    obtain ⟨fit, fits⟩ := List.forall_mem_cons.mp fits
    have wrote : (SpendTemplate.multisig redeemScript).writeEntry entry script =
        .ok (Multisig.assemble (Multisig.addOnce present entry.contribution) redeemScript) := by
      simp only [SpendTemplate.writeEntry, Multisig.mergeSignature, shows,
        SignatureEntry.contribution]
    have short : ∀ s ∈ Multisig.addOnce present entry.contribution, s.length < Word.bound32 := by
      intro s mem
      rcases Multisig.mem_addOnce.mp mem with mem | rfl
      · exact Multisig.length_of_signatures shows s mem
      · exact fit
    have shows' := Multisig.signatures_assemble redeemScript short
    rw [SpendTemplate.writeAll_cons, wrote, List.map_cons, List.foldl_cons]
    cases entries with
    | nil => rfl
    | cons next entries => exact ih shows' fits (List.cons_ne_nil _ _)

/-- An input that shows signatures, or is empty, takes any entries and gathers their signatures. -/
theorem Input.exists_written_gathered {before : Input}
    (accepted : entriesFor entries before.outpoint ≠ [] →
      ∃ present, Multisig.signatures before.script redeemScript = .ok present)
    (fits : ∀ entry ∈ entries, entry.contribution.length < Word.bound32) :
    ∃ after, Input.Written (.multisig redeemScript) entries before after ∧
      Input.Gathered redeemScript entries before after := by
  by_cases none : entriesFor entries before.outpoint = []
  · exact ⟨before, (Input.written_iff_eq (entriesFor_eq_nil_iff.mp none)).mpr rfl,
      rfl, rfl, fun _ => rfl, fun some => absurd none some⟩
  · obtain ⟨present, shows⟩ := accepted none
    have fits' : ∀ entry ∈ entriesFor entries before.outpoint,
        entry.contribution.length < Word.bound32 :=
      fun entry mem => fits entry (List.mem_filter.mp mem).1
    have short : ∀ s ∈ gathered present
        ((entriesFor entries before.outpoint).map SignatureEntry.contribution),
        s.length < Word.bound32 := by
      intro s mem
      rcases List.mem_append.mp mem with mem | mem
      · exact Multisig.length_of_signatures shows s mem
      · obtain ⟨entry, mem', rfl⟩ :=
          List.mem_map.mp (List.mem_filter.mp (List.mem_eraseDups.mp mem)).1
        exact fits' entry mem'
    refine ⟨{ before with script := Multisig.assemble _ redeemScript },
      ⟨rfl, rfl, writeAll_multisig shows fits' none⟩,
      ⟨rfl, rfl, fun empty => absurd empty none, fun _ => ⟨present, _, shows, rfl, rfl, ?_⟩⟩⟩
    exact Multisig.signatures_assemble redeemScript short

theorem entriesFor_perm (same : entries.Perm entries') (outpoint : Outpoint) :
    (entriesFor entries outpoint).Perm (entriesFor entries' outpoint) :=
  same.filter _

theorem entriesFor_eq_nil_iff_of_perm (same : entries.Perm entries') (outpoint : Outpoint) :
    entriesFor entries outpoint = [] ↔ entriesFor entries' outpoint = [] := by
  rw [← List.length_eq_zero_iff, (entriesFor_perm same outpoint).length_eq,
    List.length_eq_zero_iff]

/-- What an input gathers does not depend on the order of the entries, but for its own order. -/
theorem Input.Gathered.sameUpToOrder {before a b : Input} (same : entries.Perm entries')
    (first : Gathered redeemScript entries before a)
    (second : Gathered redeemScript entries' before b) : SameUpToOrder redeemScript a b := by
  refine ⟨first.outpoint.trans second.outpoint.symm, first.sequence.trans second.sequence.symm, ?_⟩
  have empty := entriesFor_eq_nil_iff_of_perm same before.outpoint
  by_cases none : entriesFor entries before.outpoint = []
  · left
    rw [first.unaddressed none, second.unaddressed (empty.mp none)]
  · right
    obtain ⟨present, sigs, shows, rfl, script, -⟩ := first.addressed none
    obtain ⟨present', sigs', shows', rfl, script', -⟩ :=
      second.addressed (mt empty.mpr none)
    cases shows.symm.trans shows'
    refine ⟨_, _, ?_, script, script'⟩
    rw [gathered, gathered, ← Multisig.foldl_addOnce, ← Multisig.foldl_addOnce]
    exact Multisig.foldl_addOnce_perm ((entriesFor_perm same before.outpoint).map _) present

/-! ### Whole transactions -/

/-- Entries are always taken, whatever lists they come in, when the inputs that they are for show
signatures of the quorum or nothing yet. -/
theorem applyBatches_gathers {tx : Transaction} {batches : List (List SignatureEntry)}
    (distinct : tx.Distinct)
    (accepted : ∀ input ∈ tx.inputs, entriesFor batches.flatten input.outpoint ≠ [] →
      ∃ present, Multisig.signatures input.script redeemScript = .ok present)
    (fits : ∀ entry ∈ batches.flatten, entry.contribution.length < Word.bound32) :
    ∃ after, applyBatches (.multisig redeemScript) tx batches =
        .ok (after, tx.takes batches.flatten) ∧
      tx.Gathered redeemScript batches.flatten after := by
  have inputs : ∃ inputs,
      List.Forall₂ (Input.Written (.multisig redeemScript) batches.flatten) tx.inputs inputs ∧
      List.Forall₂ (Input.Gathered redeemScript batches.flatten) tx.inputs inputs := by
    clear distinct
    revert accepted
    generalize tx.inputs = inputs
    intro accepted
    induction inputs with
    | nil => exact ⟨[], .nil, .nil⟩
    | cons input inputs ih =>
      obtain ⟨here, rest⟩ := List.forall_mem_cons.mp accepted
      obtain ⟨after, written, gathered⟩ := Input.exists_written_gathered here fits
      obtain ⟨afters, writtens, gathereds⟩ := ih rest
      exact ⟨after :: afters, .cons written writtens, .cons gathered gathereds⟩
  obtain ⟨inputs, written, gathered⟩ := inputs
  exact ⟨{ tx with inputs := inputs },
    (applyBatches_eq_ok_iff distinct).mpr ⟨⟨rfl, written, rfl, rfl⟩, rfl⟩,
    ⟨rfl, gathered, rfl, rfl⟩⟩

theorem Transaction.Gathered.sameUpToOrder {tx a b : Transaction} (same : entries.Perm entries')
    (first : tx.Gathered redeemScript entries a) (second : tx.Gathered redeemScript entries' b) :
    SameUpToOrder redeemScript a b := by
  refine ⟨first.version.trans second.version.symm, ?_, first.outputs.trans second.outputs.symm,
    first.lockTime.trans second.lockTime.symm⟩
  have firsts := first.inputs
  have seconds := second.inputs
  generalize tx.inputs = inputs, a.inputs = as, b.inputs = bs at firsts seconds
  induction firsts generalizing bs with
  | nil =>
    cases seconds
    exact .nil
  | cons head _ ih =>
    cases seconds with
    | cons head' seconds => exact .cons (head.sameUpToOrder same head') (ih _ seconds)

/-- Contributions to a quorum commute and none is lost: the same entries, in any order and in any
lists, are always taken; every input gathers those for its outpoint, the counts add up to the
entries whose outpoint is spent, and the results differ only in the order of the signatures. -/
theorem contributions_commute (redeemScript : Bytes) (tx : Transaction)
    (batches batches' : List (List SignatureEntry)) (distinct : tx.Distinct)
    (same : batches.flatten.Perm batches'.flatten)
    (accepted : ∀ input ∈ tx.inputs, entriesFor batches.flatten input.outpoint ≠ [] →
      ∃ present, Multisig.signatures input.script redeemScript = .ok present)
    (fits : ∀ entry ∈ batches.flatten, entry.contribution.length < Word.bound32) :
    ∃ after after',
      applyBatches (.multisig redeemScript) tx batches =
        .ok (after, tx.takes batches.flatten) ∧
      applyBatches (.multisig redeemScript) tx batches' =
        .ok (after', tx.takes batches.flatten) ∧
      tx.Gathered redeemScript batches.flatten after ∧
      tx.Gathered redeemScript batches'.flatten after' ∧
      Transaction.SameUpToOrder redeemScript after after' := by
  have accepted' : ∀ input ∈ tx.inputs, entriesFor batches'.flatten input.outpoint ≠ [] →
      ∃ present, Multisig.signatures input.script redeemScript = .ok present := by
    intro input there some
    exact accepted input there (mt (entriesFor_eq_nil_iff_of_perm same input.outpoint).mp some)
  have fits' : ∀ entry ∈ batches'.flatten, entry.contribution.length < Word.bound32 :=
    fun entry mem => fits entry (same.mem_iff.mpr mem)
  obtain ⟨after, done, gathers⟩ := applyBatches_gathers distinct accepted fits
  obtain ⟨after', done', gathers'⟩ := applyBatches_gathers distinct accepted' fits'
  have takes : tx.takes batches'.flatten = tx.takes batches.flatten := same.symm.countP_eq _
  rw [takes] at done'
  exact ⟨after, after', done, done', gathers, gathers', gathers.sameUpToOrder same gathers'⟩

/-- An unsigned spend of one output. -/
def sampleSpend : Transaction := .new [.unsigned ⟨.ofNatBE 32 7, 0⟩] []

/-- A made-up signature for the output that `sampleSpend` spends. -/
def sampleEntry (signature : UInt8) : SignatureEntry := ⟨⟨.ofNatBE 32 7, 0⟩, [signature], []⟩

/-- Two signers in either order, apart or together. -/
theorem two_signers_in_either_order :
    ∃ after after',
      applyBatches (.multisig [0x51]) sampleSpend [[sampleEntry 1], [sampleEntry 2]] =
        .ok (after, 2) ∧
      applyBatches (.multisig [0x51]) sampleSpend [[sampleEntry 2, sampleEntry 1]] =
        .ok (after', 2) ∧
      Transaction.SameUpToOrder [0x51] after after' := by
  have accepted : ∀ input ∈ sampleSpend.inputs,
      entriesFor [sampleEntry 1, sampleEntry 2] input.outpoint ≠ [] →
        ∃ present, Multisig.signatures input.script [0x51] = .ok present := by
    intro input there _
    rw [List.mem_singleton.mp there]
    exact ⟨[], rfl⟩
  obtain ⟨after, after', done, done', -, -, same⟩ :=
    contributions_commute [0x51] sampleSpend [[sampleEntry 1], [sampleEntry 2]]
      [[sampleEntry 2, sampleEntry 1]] (by decide) (.swap _ _ _) accepted (by decide)
  exact ⟨after, after', done, done', same⟩

end Cosigner
