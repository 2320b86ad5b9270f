import Cosigner.Proofs.Result
import Cosigner.Proofs.Transaction.Inputs
import Cosigner.Signing.Apply
import Mathlib.Data.List.Forall2
import Mathlib.Data.List.Nodup
/-!
What writing entries into a transaction does.

Each input takes the entries for its own outpoint, in order, and no others; `Transaction.Written`
says this of a whole transaction. When the inputs spend distinct outpoints, writing succeeds
exactly in this way (`applySignatures_eq_ok_iff`), and it counts the entries whose outpoint is
spent. Writing two lists is writing one after the other (`Transaction.written_append_iff`).
-/

namespace Cosigner

/-- The entries for the input that spends an outpoint. -/
def entriesFor (entries : List SignatureEntry) (outpoint : Outpoint) : List SignatureEntry :=
  entries.filter fun entry => decide (entry.outpoint = outpoint)

/-- The script of an input once all these entries are written into it. -/
def SpendTemplate.writeAll (template : SpendTemplate) (entries : List SignatureEntry)
    (script : Bytes) : Except ChainError Bytes :=
  entries.foldlM (fun script entry => template.writeEntry entry script) script

/-- An input before and after it takes the entries for its outpoint. -/
structure Input.Written (template : SpendTemplate) (entries : List SignatureEntry)
    (before after : Input) : Prop where
  outpoint : after.outpoint = before.outpoint
  sequence : after.sequence = before.sequence
  script : template.writeAll (entriesFor entries before.outpoint) before.script = .ok after.script

/-- A transaction before and after its inputs take the entries for their outpoints. -/
structure Transaction.Written (template : SpendTemplate) (entries : List SignatureEntry)
    (before after : Transaction) : Prop where
  version : after.version = before.version
  inputs : List.Forall₂ (Input.Written template entries) before.inputs after.inputs
  outputs : after.outputs = before.outputs
  lockTime : after.lockTime = before.lockTime

/-- How many of these entries an input of the transaction takes. -/
def Transaction.takes (tx : Transaction) (entries : List SignatureEntry) : Nat :=
  entries.countP fun entry => decide (tx.Spends entry.outpoint)

variable {template : SpendTemplate} {entries entries' : List SignatureEntry}

/-! ### One input -/

theorem entriesFor_append (outpoint : Outpoint) :
    entriesFor (entries ++ entries') outpoint =
      entriesFor entries outpoint ++ entriesFor entries' outpoint :=
  List.filter_append ..

theorem entriesFor_eq_nil_iff {outpoint : Outpoint} :
    entriesFor entries outpoint = [] ↔ ∀ entry ∈ entries, entry.outpoint ≠ outpoint := by
  simp [entriesFor]

theorem SpendTemplate.writeAll_cons (entry : SignatureEntry) (script : Bytes) :
    template.writeAll (entry :: entries) script =
      template.writeEntry entry script >>= template.writeAll entries := rfl

theorem SpendTemplate.writeAll_append (script : Bytes) :
    template.writeAll (entries ++ entries') script =
      template.writeAll entries script >>= template.writeAll entries' := by
  rw [writeAll, List.foldlM_append]
  rfl

namespace Input

variable {before after : Input}

/-- An input that no entry is for stays as it is. -/
theorem written_iff_eq (none : ∀ entry ∈ entries, entry.outpoint ≠ before.outpoint) :
    Written template entries before after ↔ after = before := by
  have untouched := entriesFor_eq_nil_iff.mpr none
  constructor
  · rintro ⟨outpoint, sequence, script⟩
    rw [untouched] at script
    cases before
    cases after
    cases script
    cases outpoint
    cases sequence
    rfl
  · rintro rfl
    refine ⟨rfl, rfl, ?_⟩
    rw [untouched]
    rfl

/-- An input that takes one entry has its script written once. -/
theorem written_one_iff {entry : SignatureEntry} (spends : before.outpoint = entry.outpoint) :
    Written template [entry] before after ↔
      ∃ script, template.writeEntry entry before.script = .ok script ∧
        after = { before with script := script } := by
  have own : entriesFor [entry] before.outpoint = [entry] := by
    simp [entriesFor, spends]
  constructor
  · rintro ⟨outpoint, sequence, script⟩
    rw [own, SpendTemplate.writeAll_cons] at script
    obtain ⟨written, wrote, last⟩ := Result.bind_eq_ok_iff.mp script
    cases after
    cases outpoint
    cases sequence
    cases last
    exact ⟨_, wrote, rfl⟩
  · rintro ⟨script, wrote, rfl⟩
    refine ⟨rfl, rfl, ?_⟩
    rw [own, SpendTemplate.writeAll_cons]
    exact Result.bind_eq_ok_iff.mpr ⟨script, wrote, rfl⟩

/-- Taking two lists of entries is taking one after the other. -/
theorem written_append_iff :
    Written template (entries ++ entries') before after ↔
      ∃ between, Written template entries before between ∧
        Written template entries' between after := by
  constructor
  · rintro ⟨outpoint, sequence, script⟩
    rw [entriesFor_append, SpendTemplate.writeAll_append] at script
    obtain ⟨written, wrote, wrote'⟩ := Result.bind_eq_ok_iff.mp script
    exact ⟨{ before with script := written }, ⟨rfl, rfl, wrote⟩, ⟨outpoint, sequence, wrote'⟩⟩
  · rintro ⟨between, first, second⟩
    refine ⟨second.outpoint.trans first.outpoint, second.sequence.trans first.sequence, ?_⟩
    have wrote := second.script
    rw [first.outpoint] at wrote
    rw [entriesFor_append, SpendTemplate.writeAll_append]
    exact Result.bind_eq_ok_iff.mpr ⟨_, first.script, wrote⟩

end Input

/-! ### Inputs in a row -/

section Inputs

variable {inputs inputs' : List Input}

theorem forall₂_written_iff_eq
    (none : ∀ input ∈ inputs, ∀ entry ∈ entries, entry.outpoint ≠ input.outpoint) :
    List.Forall₂ (Input.Written template entries) inputs inputs' ↔ inputs' = inputs := by
  constructor
  · intro written
    have same : List.Forall₂ (· = ·) inputs inputs' := by
      refine (List.forall₂_and_left _ _).mpr ⟨none, written⟩ |>.imp ?_
      rintro input input' ⟨none, written⟩
      exact ((Input.written_iff_eq none).mp written).symm
    rw [List.forall₂_eq_eq_eq] at same
    exact same.symm
  · rintro rfl
    exact List.forall₂_same.mpr fun input there =>
      (Input.written_iff_eq (none input there)).mpr rfl

/-- One entry is written into the only input that spends its outpoint. -/
theorem forall₂_written_one_iff {entry : SignatureEntry} {before behind : List Input}
    {input : Input} (spends : input.outpoint = entry.outpoint)
    (only : ∀ other ∈ before ++ behind, entry.outpoint ≠ other.outpoint) :
    List.Forall₂ (Input.Written template [entry]) (before ++ input :: behind) inputs' ↔
      ∃ script, template.writeEntry entry input.script = .ok script ∧
        inputs' = before ++ { input with script := script } :: behind := by
  induction before generalizing inputs' with
  | nil =>
    have rest : ∀ other ∈ behind, ∀ e ∈ [entry], e.outpoint ≠ other.outpoint := by
      simpa using only
    rw [List.nil_append, List.forall₂_cons_left_iff]
    constructor
    · rintro ⟨_, _, head, tail, rfl⟩
      obtain ⟨script, wrote, rfl⟩ := (Input.written_one_iff spends).mp head
      exact ⟨script, wrote, by rw [(forall₂_written_iff_eq rest).mp tail, List.nil_append]⟩
    · rintro ⟨script, wrote, rfl⟩
      exact ⟨_, _, (Input.written_one_iff spends).mpr ⟨script, wrote, rfl⟩,
        (forall₂_written_iff_eq rest).mpr rfl, rfl⟩
  | cons other before ih =>
    obtain ⟨apart, only⟩ := List.forall_mem_cons.mp only
    have none : ∀ e ∈ [entry], e.outpoint ≠ other.outpoint := by
      simpa using apart
    rw [List.cons_append, List.forall₂_cons_left_iff]
    constructor
    · rintro ⟨_, _, head, tail, rfl⟩
      obtain ⟨script, wrote, rfl⟩ := (ih only).mp tail
      exact ⟨script, wrote, by rw [(Input.written_iff_eq none).mp head, List.cons_append]⟩
    · rintro ⟨script, wrote, rfl⟩
      exact ⟨_, _, (Input.written_iff_eq none).mpr rfl, (ih only).mpr ⟨script, wrote, rfl⟩, rfl⟩

theorem forall₂_written_append_iff :
    List.Forall₂ (Input.Written template (entries ++ entries')) inputs inputs' ↔
      ∃ between, List.Forall₂ (Input.Written template entries) inputs between ∧
        List.Forall₂ (Input.Written template entries') between inputs' := by
  constructor
  · intro written
    induction written with
    | nil => exact ⟨[], .nil, .nil⟩
    | cons head _ ih =>
      obtain ⟨input, first, second⟩ := Input.written_append_iff.mp head
      obtain ⟨inputs, firsts, seconds⟩ := ih
      exact ⟨input :: inputs, .cons first firsts, .cons second seconds⟩
  · rintro ⟨between, firsts, seconds⟩
    induction firsts generalizing inputs' with
    | nil =>
      cases seconds
      exact .nil
    | cons first _ ih =>
      cases seconds with
      | cons second seconds =>
        exact .cons (Input.written_append_iff.mpr ⟨_, first, second⟩) (ih seconds)

end Inputs

/-! ### Whole transactions -/

namespace Transaction

variable {tx tx' : Transaction}

/-- Only the inputs of a transaction change. -/
theorem written_iff :
    Written template entries tx tx' ↔
      ∃ inputs, List.Forall₂ (Input.Written template entries) tx.inputs inputs ∧
        tx' = { tx with inputs := inputs } := by
  constructor
  · rintro ⟨version, inputs, outputs, lockTime⟩
    cases tx'
    cases version
    cases outputs
    cases lockTime
    exact ⟨_, inputs, rfl⟩
  · rintro ⟨inputs, written, rfl⟩
    exact ⟨rfl, written, rfl, rfl⟩

theorem Written.map_outpoint (written : Written template entries tx tx') :
    tx'.inputs.map Input.outpoint = tx.inputs.map Input.outpoint := by
  have inputs := written.inputs
  generalize tx.inputs = before, tx'.inputs = after at inputs
  induction inputs with
  | nil => rfl
  | cons head _ ih => rw [List.map_cons, List.map_cons, head.outpoint, ih]

theorem Written.distinct_iff (written : Written template entries tx tx') :
    tx'.Distinct ↔ tx.Distinct := by
  rw [Distinct, Distinct, written.map_outpoint]

theorem Written.spends_iff (written : Written template entries tx tx') {outpoint : Outpoint} :
    tx'.Spends outpoint ↔ tx.Spends outpoint := by
  simp only [Spends, ← List.mem_map, written.map_outpoint]

theorem Written.takes_eq (written : Written template entries tx tx')
    (others : List SignatureEntry) : tx'.takes others = tx.takes others := by
  simp only [takes, written.spends_iff]

/-- A transaction that takes no entries stays as it is. -/
theorem written_iff_eq (none : ∀ entry ∈ entries, ¬ tx.Spends entry.outpoint) :
    Written template entries tx tx' ↔ tx' = tx := by
  have untouched : ∀ input ∈ tx.inputs, ∀ entry ∈ entries, entry.outpoint ≠ input.outpoint := by
    intro input there entry mem same
    exact none entry mem ⟨input, there, same.symm⟩
  simp only [written_iff, forall₂_written_iff_eq untouched, exists_eq_left]

/-- Taking two lists of entries is taking one after the other. -/
theorem written_append_iff :
    Written template (entries ++ entries') tx tx' ↔
      ∃ between, Written template entries tx between ∧ Written template entries' between tx' := by
  simp only [written_iff, forall₂_written_append_iff]
  constructor
  · rintro ⟨inputs, ⟨between, firsts, seconds⟩, rfl⟩
    exact ⟨_, ⟨between, firsts, rfl⟩, inputs, seconds, rfl⟩
  · rintro ⟨_, ⟨between, firsts, rfl⟩, inputs, seconds, rfl⟩
    exact ⟨inputs, ⟨between, firsts, seconds⟩, rfl⟩

end Transaction

variable {tx tx' : Transaction}

/-- One entry is written into the only input that spends its outpoint, if there is one. -/
theorem applyEntry_eq_ok_iff {entry : SignatureEntry} {taken : Bool} (distinct : tx.Distinct) :
    applyEntry template tx entry = .ok (tx', taken) ↔
      tx.Written template [entry] tx' ∧ taken = decide (tx.Spends entry.outpoint) := by
  cases found : tx.findInput? entry.outpoint with
  | none =>
    have absent := Transaction.findInput?_eq_none_iff.mp found
    rw [Transaction.written_iff_eq (by simpa using absent)]
    simp only [applyEntry, found, Except.ok.injEq, Prod.mk.injEq, absent, decide_false]
    exact and_congr eq_comm eq_comm
  | some index =>
    obtain ⟨before, input, behind, split, rfl, spends, -⟩ :=
      Transaction.findInput?_eq_some_iff.mp found
    have there : tx.inputs[before.length]? = some input := by
      rw [split, List.getElem?_append_right (Nat.le_refl _)]
      simp
    have spent : tx.Spends entry.outpoint := ⟨input, by simp [split], spends⟩
    have only : ∀ other ∈ before ++ behind, entry.outpoint ≠ other.outpoint := by
      rw [Transaction.Distinct, split, List.map_append, List.map_cons, List.nodup_middle,
        List.nodup_cons, ← List.map_append, spends] at distinct
      intro other mem same
      exact distinct.1 (same ▸ List.mem_map_of_mem mem)
    simp only [Transaction.written_iff, split, forall₂_written_one_iff spends only]
    simp only [applyEntry, found, there, spent, decide_true]
    cases wrote : template.writeEntry entry input.script with
    | error e => simp
    | ok script =>
      simp only [Except.ok.injEq, Prod.mk.injEq, Transaction.setScript_split split,
        exists_eq_left', exists_eq_left]
      exact and_congr eq_comm eq_comm

theorem applySignatures_cons_eq_ok_iff {entry : SignatureEntry} {count : Nat} :
    applySignatures template tx (entry :: entries) = .ok (tx', count) ↔
      ∃ between taken rest, applyEntry template tx entry = .ok (between, taken) ∧
        applySignatures template between entries = .ok (tx', rest) ∧
        count = if taken then rest + 1 else rest := by
  rw [applySignatures]
  constructor
  · intro h
    split at h
    · cases h
    · rename_i between taken wrote
      split at h
      · cases h
      · rename_i last rest wrote'
        cases h
        exact ⟨between, taken, rest, wrote, wrote', rfl⟩
  · rintro ⟨between, taken, rest, wrote, wrote', rfl⟩
    simp only [wrote, wrote']

/-- Entries are written into the inputs that spend their outpoints, and counted. -/
theorem applySignatures_eq_ok_iff {count : Nat} (distinct : tx.Distinct) :
    applySignatures template tx entries = .ok (tx', count) ↔
      tx.Written template entries tx' ∧ count = tx.takes entries := by
  induction entries generalizing tx count with
  | nil =>
    rw [Transaction.written_iff_eq (by simp)]
    simp only [applySignatures, Except.ok.injEq, Prod.mk.injEq, Transaction.takes, List.countP_nil]
    exact and_congr eq_comm eq_comm
  | cons entry entries ih =>
    rw [applySignatures_cons_eq_ok_iff, ← List.singleton_append, Transaction.written_append_iff]
    have counted (between : Transaction) (first : tx.Written template [entry] between) :
        tx.takes ([entry] ++ entries) =
          if decide (tx.Spends entry.outpoint) then between.takes entries + 1
          else between.takes entries := by
      rw [first.takes_eq, List.singleton_append, Transaction.takes, List.countP_cons]
      split
      · rfl
      · rfl
    constructor
    · rintro ⟨between, taken, rest, wrote, wrote', rfl⟩
      obtain ⟨first, rfl⟩ := (applyEntry_eq_ok_iff distinct).mp wrote
      obtain ⟨second, rfl⟩ := (ih (first.distinct_iff.mpr distinct)).mp wrote'
      exact ⟨⟨between, first, second⟩, (counted between first).symm⟩
    · rintro ⟨⟨between, first, second⟩, rfl⟩
      exact ⟨between, _, _, (applyEntry_eq_ok_iff distinct).mpr ⟨first, rfl⟩,
        (ih (first.distinct_iff.mpr distinct)).mpr ⟨second, rfl⟩, counted between first⟩

end Cosigner
