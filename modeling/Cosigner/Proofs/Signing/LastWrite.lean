import Cosigner.Proofs.Signing.Gather
/-!
Signatures by the key of a public key hash, written over each other.

An input that spends from a public key hash shows one signature, and each entry that is written into
it replaces what was there. So all that is left of any number of lists of entries is, for each
outpoint, the last entry for it: it stands in the first input that spends the outpoint, and
everything else is as before (`Transaction.showing`). Written again, or in other lists, the same
entries lead to the same transaction (`last_entry_wins`).
-/

namespace Cosigner

/-- The last of these entries for an outpoint. -/
def lastEntry (entries : List SignatureEntry) (outpoint : Outpoint) : Option SignatureEntry :=
  (entriesFor entries outpoint).getLast?

/-- An input with the script of an entry, if there is one. -/
def Input.showing (input : Input) : Option SignatureEntry → Input
  | none => input
  | some entry =>
    { input with script := Script.keyHashScriptSig entry.signature entry.publicKey }

/-- A transaction in which the first input that spends an outpoint shows the entry that is chosen
for the outpoint, if there is one. Nothing else is changed. -/
def Transaction.showing (tx : Transaction) (chosen : Outpoint → Option SignatureEntry) :
    Transaction :=
  { tx with inputs := tx.inputs.mapIdx fun index input =>
      if ∀ other ∈ tx.inputs.take index, other.outpoint ≠ input.outpoint then
        input.showing (chosen input.outpoint)
      else input }

variable {entries entries' : List SignatureEntry} {outpoint : Outpoint}

/-! ### The last entry -/

theorem lastEntry_append :
    lastEntry (entries ++ entries') outpoint =
      (lastEntry entries' outpoint).or (lastEntry entries outpoint) := by
  rw [lastEntry, entriesFor_append, List.getLast?_append, lastEntry, lastEntry]

theorem lastEntry_singleton (entry : SignatureEntry) :
    lastEntry [entry] outpoint = if entry.outpoint = outpoint then some entry else none := by
  by_cases own : entry.outpoint = outpoint <;> simp [lastEntry, entriesFor, own]

/-! ### Inputs that show entries -/

theorem Input.outpoint_showing (input : Input) (entry : Option SignatureEntry) :
    (input.showing entry).outpoint = input.outpoint := by
  cases entry <;> rfl

/-- The entry that is shown later replaces the one before. -/
theorem Input.showing_showing (input : Input) (first second : Option SignatureEntry) :
    (input.showing first).showing second = input.showing (second.or first) := by
  cases second with
  | none => rfl
  | some entry => cases first <;> rfl

namespace Transaction

variable {tx : Transaction} {first second chosen : Outpoint → Option SignatureEntry}

/-- What becomes of the input number `index`. -/
def shownAt (tx : Transaction) (chosen : Outpoint → Option SignatureEntry) (index : Nat)
    (input : Input) : Input :=
  if tx.findInput? input.outpoint = some index then input.showing (chosen input.outpoint) else input

theorem getElem?_showing (index : Nat) :
    (tx.showing chosen).inputs[index]? = tx.inputs[index]?.map (tx.shownAt chosen index) := by
  rw [showing, List.getElem?_mapIdx]
  cases there : tx.inputs[index]? with
  | none => rfl
  | some input => simp only [Option.map_some, shownAt, findInput?_eq_some_iff_of_getElem? there]

/-- A transaction that agrees with another one but for what its inputs show. -/
theorem eq_showing {other : Transaction} (version : other.version = tx.version)
    (outputs : other.outputs = tx.outputs) (lockTime : other.lockTime = tx.lockTime)
    (all : ∀ index, other.inputs[index]? = tx.inputs[index]?.map (tx.shownAt chosen index)) :
    other = tx.showing chosen := by
  have inputs : other.inputs = (tx.showing chosen).inputs := by
    refine List.ext_getElem? fun index => ?_
    rw [all, getElem?_showing]
  cases other
  cases version
  cases outputs
  cases lockTime
  cases inputs
  rfl

theorem findInput?_showing : (tx.showing chosen).findInput? outpoint = tx.findInput? outpoint := by
  refine findInput?_congr (List.ext_getElem? fun index => ?_)
  rw [List.getElem?_map, getElem?_showing, List.getElem?_map, Option.map_map]
  refine congrArg (fun f => Option.map f _) (funext fun input => ?_)
  rw [Function.comp_apply, shownAt]
  split
  · exact input.outpoint_showing _
  · rfl

theorem takes_showing (entries : List SignatureEntry) :
    (tx.showing chosen).takes entries = tx.takes entries := by
  simp only [takes, spends_iff_of_findInput?_eq findInput?_showing]

/-- Only what is chosen for the outpoints that are spent matters. -/
theorem showing_congr (same : ∀ outpoint, tx.Spends outpoint → first outpoint = second outpoint) :
    tx.showing first = tx.showing second := by
  refine eq_showing rfl rfl rfl fun index => ?_
  rw [getElem?_showing]
  cases there : tx.inputs[index]? with
  | none => rfl
  | some input => simp only [Option.map_some, shownAt, same _ (spends_of_getElem? there)]

theorem showing_none : (tx.showing fun _ => none) = tx := by
  symm
  refine eq_showing rfl rfl rfl fun index => ?_
  cases tx.inputs[index]? with
  | none => rfl
  | some input => simp only [Option.map_some, shownAt, Input.showing, ite_self]

/-- Entries that are shown later replace those before. -/
theorem showing_showing :
    (tx.showing first).showing second =
      tx.showing fun outpoint => (second outpoint).or (first outpoint) := by
  refine eq_showing rfl rfl rfl fun index => ?_
  rw [getElem?_showing, getElem?_showing, Option.map_map]
  refine congrArg (fun f => Option.map f _) (funext fun input => ?_)
  by_cases found : tx.findInput? input.outpoint = some index
  · simp only [Function.comp_apply, shownAt, findInput?_showing, if_pos found,
      Input.outpoint_showing, Input.showing_showing]
  · simp only [Function.comp_apply, shownAt, findInput?_showing, if_neg found]

/-- The last of some entries, and then the last of others, are the last of all. -/
theorem showing_lastEntry (entries entries' : List SignatureEntry) :
    (tx.showing (lastEntry entries)).showing (lastEntry entries') =
      tx.showing (lastEntry (entries ++ entries')) := by
  rw [showing_showing]
  exact showing_congr fun _ _ => lastEntry_append.symm

/-- An entry for an outpoint that is not spent is shown nowhere. -/
theorem showing_of_not_spends {entry : SignatureEntry} (absent : ¬ tx.Spends entry.outpoint) :
    tx.showing (lastEntry [entry]) = tx := by
  have none (outpoint : Outpoint) (spent : tx.Spends outpoint) :
      lastEntry [entry] outpoint = none := by
    have apart : entry.outpoint ≠ outpoint := fun same => absent (same ▸ spent)
    rw [lastEntry_singleton, if_neg apart]
  rw [showing_congr none, showing_none]

/-- An entry for an outpoint that is spent is shown by the input that is found for it. -/
theorem showing_of_findInput?_eq_some {entry : SignatureEntry} {index : Nat}
    (found : tx.findInput? entry.outpoint = some index) :
    tx.showing (lastEntry [entry]) =
      tx.setScript index (Script.keyHashScriptSig entry.signature entry.publicKey) := by
  symm
  refine eq_showing rfl rfl rfl fun place => ?_
  obtain ⟨own, there, spends⟩ := exists_of_findInput? found
  by_cases here : index = place
  · subst here
    have first : tx.findInput? own.outpoint = some index := spends ▸ found
    rw [getElem?_setScript there, there, Option.map_some, shownAt, if_pos first,
      lastEntry_singleton, if_pos spends.symm, Input.showing]
  · have untouched : tx.shownAt (lastEntry [entry]) place = fun input => input := by
      funext input
      by_cases same : entry.outpoint = input.outpoint
      · have later : tx.findInput? input.outpoint ≠ some place := by
          rw [← same, found]
          exact fun same => here (Option.some.inj same)
        rw [shownAt, if_neg later]
      · rw [shownAt, lastEntry_singleton, if_neg same, Input.showing, ite_self]
    simp [setScript, here, untouched]

end Transaction

/-! ### Writing entries -/

theorem applyEntry_keyHash (tx : Transaction) (entry : SignatureEntry) :
    applyEntry .keyHash tx entry =
      .ok (tx.showing (lastEntry [entry]), decide (tx.Spends entry.outpoint)) := by
  cases found : tx.findInput? entry.outpoint with
  | none =>
    have absent := Transaction.findInput?_eq_none_iff.mp found
    simp only [applyEntry, found, Transaction.showing_of_not_spends absent, absent, decide_false]
  | some index =>
    obtain ⟨input, there, spends⟩ := Transaction.exists_of_findInput? found
    have spent : tx.Spends entry.outpoint := spends ▸ Transaction.spends_of_getElem? there
    simp only [applyEntry, found, there, SpendTemplate.writeEntry,
      Transaction.showing_of_findInput?_eq_some found, spent, decide_true]

/-- Entries are always written, and the last one for each outpoint is left. -/
theorem applySignatures_keyHash (tx : Transaction) (entries : List SignatureEntry) :
    applySignatures .keyHash tx entries =
      .ok (tx.showing (lastEntry entries), tx.takes entries) := by
  induction entries generalizing tx with
  | nil =>
    have nothing : tx.showing (lastEntry []) = tx := Transaction.showing_none
    rw [applySignatures, nothing]
    rfl
  | cons entry entries ih =>
    rw [applySignatures, applyEntry_keyHash]
    simp only [ih, Transaction.showing_lastEntry, List.singleton_append, Transaction.takes_showing]
    rw [Transaction.takes, Transaction.takes, List.countP_cons]
    split <;> rfl

theorem applyBatches_keyHash (tx : Transaction) (batches : List (List SignatureEntry)) :
    applyBatches .keyHash tx batches =
      .ok (tx.showing (lastEntry batches.flatten), tx.takes batches.flatten) := by
  induction batches generalizing tx with
  | nil => exact applySignatures_keyHash tx []
  | cons batch batches ih =>
    rw [applyBatches, applySignatures_keyHash]
    simp only [ih, Transaction.showing_lastEntry, Transaction.takes_showing, List.flatten_cons]
    rw [Transaction.takes, Transaction.takes, Transaction.takes, List.countP_append]

/-- All that is left of any lists of entries is the last entry for each outpoint that is spent: the
first input that spends it shows that entry, and everything else is as before. The entries that an
input takes are counted. The same lists once more change nothing, and any lists with the same last
entries have the same effect, in particular the same entries in other lists. -/
theorem last_entry_wins (tx : Transaction) (batches : List (List SignatureEntry)) :
    let after := tx.showing (lastEntry batches.flatten)
    applyBatches .keyHash tx batches = .ok (after, tx.takes batches.flatten) ∧
      applyBatches .keyHash after batches = .ok (after, tx.takes batches.flatten) ∧
      (∀ batches' : List (List SignatureEntry), batches'.flatten = batches.flatten →
        applyBatches .keyHash tx batches' = .ok (after, tx.takes batches.flatten)) ∧
      ∀ batches' : List (List SignatureEntry),
        (∀ outpoint, tx.Spends outpoint →
          lastEntry batches'.flatten outpoint = lastEntry batches.flatten outpoint) →
        applyBatches .keyHash tx batches' = .ok (after, tx.takes batches'.flatten) := by
  intro after
  refine ⟨applyBatches_keyHash tx batches, ?again, fun batches' same => ?_, fun batches' same => ?_⟩
  case again =>
    rw [applyBatches_keyHash, Transaction.showing_lastEntry, Transaction.takes_showing]
    have twice : tx.showing (lastEntry (batches.flatten ++ batches.flatten)) = after :=
      Transaction.showing_congr fun outpoint _ => by rw [lastEntry_append, Option.or_self]
    rw [twice]
  · rw [applyBatches_keyHash, same]
  · rw [applyBatches_keyHash, Transaction.showing_congr same]

/-- Two inputs spend one output, and a third input another one. -/
def doubleSpend : Transaction :=
  .new [.unsigned ⟨.ofNatBE 32 7, 0⟩, .unsigned ⟨.ofNatBE 32 7, 0⟩, .unsigned ⟨.ofNatBE 32 8, 0⟩] []

/-- Of three entries in two lists, two are for an outpoint that is spent. The last of these is left,
in the first of the inputs that spend it, and it would do to write that one. -/
theorem last_of_three_entries_is_left :
    let elsewhere : SignatureEntry := { sampleEntry 3 with outpoint := ⟨.ofNatBE 32 9, 0⟩ }
    let batches := [[sampleEntry 1, elsewhere], [sampleEntry 2]]
    ∃ after, applyBatches .keyHash doubleSpend batches = .ok (after, 2) ∧
      applyBatches .keyHash after batches = .ok (after, 2) ∧
      applyBatches .keyHash doubleSpend [[sampleEntry 2]] = .ok (after, 1) ∧
      after.inputs.map Input.script = [Script.keyHashScriptSig [2] [], [], []] := by
  intro elsewhere batches
  obtain ⟨written, again, -, same⟩ := last_entry_wins doubleSpend batches
  refine ⟨_, written, again, same [[sampleEntry 2]] ?_, by decide⟩
  rintro outpoint ⟨input, mem, rfl⟩
  revert input
  decide

end Cosigner
