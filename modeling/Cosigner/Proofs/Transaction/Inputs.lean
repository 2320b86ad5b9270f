import Cosigner.Proofs.Hex
import Cosigner.Transaction.Basic
/-!
Outpoints: how a listed output names its own, finding the input that spends one, and replacing the
script of that input.

* `Txid.toHash_eq_ok_iff`: a text is read as the hash whose bytes it spells in reverse order.
* `findInput?_eq_some_iff`: the input found is the first that spends the outpoint.
* `findInput?_eq_some_iff_of_distinct`: when no two inputs spend the same outpoint, it is the only
  one.
* `setScript_split`: replacing a script touches one input and nothing else.
* `findInput?_congr`: what is found does not depend on anything but outpoints, in particular not on
  scripts (`findInput?_setScript`).
-/

namespace Cosigner

/-! ### Outpoints of listed outputs -/

/-- A text names the transaction with a hash: it spells the bytes of the hash in reverse order, in
letters of either case. -/
def Txid.Names (txid : String) (hash : Hash256) : Prop :=
  txid.toList.map Char.toLower = Hex.encodeChars hash.bytes.reverse

instance (txid : String) (hash : Hash256) : Decidable (Txid.Names txid hash) :=
  inferInstanceAs (Decidable (txid.toList.map Char.toLower = Hex.encodeChars hash.bytes.reverse))

theorem Txid.toHash_eq_ok_iff {txid : String} {hash : Hash256} :
    toHash txid = .ok hash ↔ Names txid hash := by
  rw [Names, ← Hex.decodeChars_eq_ok_iff, toHash, Hex.decode]
  constructor
  · intro read
    split at read
    · cases read
    · rename_i bytes spelled
      split at read
      · cases read
      · rename_i block whole
        cases read
        rw [spelled, ← FixedBytes.ofBytes?_eq_some.mp whole, FixedBytes.reverse,
          List.reverse_reverse]
  · intro spelled
    have whole : FixedBytes.ofBytes? 32 hash.bytes.reverse = some hash.reverse :=
      FixedBytes.ofBytes?_eq_some.mpr rfl
    rw [spelled]
    dsimp only
    rw [whole]
    dsimp only
    rw [FixedBytes.reverse_reverse]

/-- A listed output stands at an outpoint. -/
def Utxo.At (utxo : Utxo) (outpoint : Outpoint) : Prop :=
  Txid.Names utxo.txid outpoint.hash ∧ utxo.index = outpoint.index

instance (utxo : Utxo) (outpoint : Outpoint) : Decidable (utxo.At outpoint) :=
  inferInstanceAs (Decidable (_ ∧ _))

/-- A listed output stands at one outpoint only. -/
theorem Utxo.At.at_iff {utxo : Utxo} {outpoint other : Outpoint} (here : utxo.At outpoint) :
    utxo.At other ↔ outpoint = other := by
  constructor
  · rintro ⟨names, index⟩
    obtain ⟨names', index'⟩ := here
    have read := Txid.toHash_eq_ok_iff.mpr names'
    rw [Txid.toHash_eq_ok_iff.mpr names] at read
    obtain ⟨hash, place⟩ := outpoint
    cases read
    cases index'.symm.trans index
    rfl
  · rintro rfl
    exact here

namespace Transaction

/-! ### Inputs -/

/-- The inputs of a transaction spend pairwise distinct outpoints. -/
def Distinct (tx : Transaction) : Prop := (tx.inputs.map Input.outpoint).Nodup

/-- An input of the transaction spends the outpoint. -/
def Spends (tx : Transaction) (outpoint : Outpoint) : Prop :=
  ∃ input ∈ tx.inputs, input.outpoint = outpoint

instance (tx : Transaction) : Decidable tx.Distinct :=
  inferInstanceAs (Decidable (tx.inputs.map Input.outpoint).Nodup)

instance (tx : Transaction) (outpoint : Outpoint) : Decidable (tx.Spends outpoint) :=
  inferInstanceAs (Decidable (∃ input ∈ tx.inputs, input.outpoint = outpoint))

variable {tx other : Transaction} {outpoint : Outpoint} {index : Nat}

theorem spends_of_getElem? {input : Input} (there : tx.inputs[index]? = some input) :
    tx.Spends input.outpoint :=
  ⟨input, List.mem_of_getElem? there, rfl⟩

theorem findInput?_eq_none_iff : tx.findInput? outpoint = none ↔ ¬ tx.Spends outpoint := by
  simp [findInput?, Spends]

theorem spends_iff_of_findInput?_eq (same : other.findInput? outpoint = tx.findInput? outpoint) :
    other.Spends outpoint ↔ tx.Spends outpoint := by
  rw [← Decidable.not_iff_not, ← findInput?_eq_none_iff, same, findInput?_eq_none_iff]

/-- The input found is the first one that spends the outpoint. -/
theorem findInput?_eq_some_iff :
    tx.findInput? outpoint = some index ↔
      ∃ before input behind, tx.inputs = before ++ input :: behind ∧ before.length = index ∧
        input.outpoint = outpoint ∧ ∀ other ∈ before, other.outpoint ≠ outpoint := by
  rw [findInput?, List.findIdx?_eq_some_iff_getElem]
  constructor
  · rintro ⟨within, spends, first⟩
    refine ⟨tx.inputs.take index, tx.inputs[index], tx.inputs.drop (index + 1), ?_,
      List.length_take_of_le (Nat.le_of_lt within), of_decide_eq_true spends, ?_⟩
    · rw [List.getElem_cons_drop, List.take_append_drop]
    · intro other earlier
      obtain ⟨j, hj, rfl⟩ := List.mem_take_iff_getElem.mp earlier
      have := first j (Nat.lt_of_lt_of_le hj (Nat.min_le_left _ _))
      simpa using this
  · rintro ⟨before, input, behind, split, rfl, spends, first⟩
    have within : before.length < tx.inputs.length := by
      rw [split, List.length_append, List.length_cons]
      omega
    refine ⟨within, ?_, fun j hj => ?_⟩
    · simpa [split] using spends
    · have earlier : tx.inputs[j] = before[j] := by
        simp only [split, List.getElem_append_left hj]
      simpa [earlier] using first _ (List.getElem_mem hj)

/-- The input found is there, and spends the outpoint. -/
theorem exists_of_findInput? (found : tx.findInput? outpoint = some index) :
    ∃ input, tx.inputs[index]? = some input ∧ input.outpoint = outpoint := by
  obtain ⟨before, input, behind, split, rfl, spends, -⟩ := findInput?_eq_some_iff.mp found
  exact ⟨input, by simp [split], spends⟩

/-- An input is found when no input before it spends the same outpoint. -/
theorem findInput?_eq_some_iff_of_getElem? {input : Input}
    (there : tx.inputs[index]? = some input) :
    tx.findInput? input.outpoint = some index ↔
      ∀ other ∈ tx.inputs.take index, other.outpoint ≠ input.outpoint := by
  obtain ⟨within, rfl⟩ := List.getElem?_eq_some_iff.mp there
  have split : tx.inputs = tx.inputs.take index ++ tx.inputs[index] ::
      tx.inputs.drop (index + 1) := by
    rw [List.getElem_cons_drop, List.take_append_drop]
  have long := List.length_take_of_le (Nat.le_of_lt within)
  rw [findInput?_eq_some_iff]
  constructor
  · rintro ⟨before, own, behind, same, length, -, first⟩
    rwa [(List.append_inj (split.symm.trans same) (long.trans length.symm)).1]
  · exact fun first => ⟨_, _, _, split, long, rfl, first⟩

/-- When no two inputs spend the same outpoint, the input found is any that spends it. -/
theorem findInput?_eq_some_iff_of_distinct (distinct : tx.Distinct) :
    tx.findInput? outpoint = some index ↔
      ∃ input, tx.inputs[index]? = some input ∧ input.outpoint = outpoint := by
  constructor
  · exact exists_of_findInput?
  · rintro ⟨input, there, rfl⟩
    rw [findInput?_eq_some_iff_of_getElem? there]
    intro other earlier same
    obtain ⟨within, rfl⟩ := List.getElem?_eq_some_iff.mp there
    obtain ⟨place, below, rfl⟩ := List.mem_take_iff_getElem.mp earlier
    have before : place < index := by omega
    refine List.pairwise_iff_getElem.mp distinct place index ?_ ?_ before ?_
    · rw [List.length_map]
      omega
    · rwa [List.length_map]
    · rwa [List.getElem_map, List.getElem_map]

/-- Replacing the script of an input touches that input and nothing else. -/
theorem setScript_split {before behind : List Input} {input : Input}
    (split : tx.inputs = before ++ input :: behind) (script : Bytes) :
    tx.setScript before.length script =
      { tx with inputs := before ++ { input with script := script } :: behind } := by
  rw [setScript, split, List.modify_eq_take_drop, List.take_left, List.drop_left,
    List.modifyHead_cons]

theorem getElem?_setScript {input : Input} (there : tx.inputs[index]? = some input)
    (script : Bytes) :
    (tx.setScript index script).inputs[index]? = some { input with script := script } := by
  simp [setScript, there]

theorem setScript_self {input : Input} (there : tx.inputs[index]? = some input) :
    tx.setScript index input.script = tx := by
  have same : (tx.inputs.modify index fun i => { i with script := input.script }) = tx.inputs := by
    refine List.ext_getElem? fun j => ?_
    rw [List.getElem?_modify]
    by_cases here : index = j
    · subst here
      simp [there]
    · simp [here]
  rw [setScript, same]

theorem setScript_eq_self_iff {input : Input} {script : Bytes}
    (there : tx.inputs[index]? = some input) :
    tx.setScript index script = tx ↔ script = input.script := by
  constructor
  · intro same
    have here := getElem?_setScript there script
    rw [same, there] at here
    exact (congrArg Input.script (Option.some.inj here)).symm
  · rintro rfl
    exact setScript_self there

theorem setScript_setScript (first second : Bytes) :
    (tx.setScript index first).setScript index second = tx.setScript index second := by
  rw [setScript, setScript, List.modify_modify_eq]
  rfl

/-- Which input is found depends on the outpoints of the inputs alone. -/
theorem findInput?_congr
    (same : other.inputs.map Input.outpoint = tx.inputs.map Input.outpoint) :
    other.findInput? outpoint = tx.findInput? outpoint := by
  have found (inputs : List Input) :
      inputs.findIdx? (fun input => decide (input.outpoint = outpoint)) =
        (inputs.map Input.outpoint).findIdx? fun other => decide (other = outpoint) := by
    rw [List.findIdx?_map]
    rfl
  rw [findInput?, findInput?, found, same, ← found]

/-- Scripts do not matter for which input is found. -/
theorem findInput?_setScript (script : Bytes) :
    (tx.setScript index script).findInput? outpoint = tx.findInput? outpoint := by
  refine findInput?_congr (List.ext_getElem? fun j => ?_)
  rw [setScript, List.getElem?_map, List.getElem?_modify, List.getElem?_map]
  cases tx.inputs[j]? with
  | none => rfl
  | some input => by_cases here : index = j <;> simp [here]

end Transaction

end Cosigner
