import Cosigner.Proofs.Hex
import Cosigner.Proofs.Transaction.Cursor
import Cosigner.Proofs.Transaction.Length
/-!
The wire format of transactions: reading accepts exactly what writing produces.

`parse_eq_ok_iff` states it for byte strings, `ofHex_eq_ok_iff` for hexadecimal texts, and
`read_iff_written` for both. Only transactions whose counts and script lengths are numbers of 64
bits are ever read (`Transaction.Fits`), because a count can say no more.
-/

namespace Cosigner

/-- The counts and the script lengths of a transaction are numbers of 64 bits. -/
structure Transaction.Fits (tx : Transaction) : Prop where
  inputs : tx.inputs.length < Word.bound64 ∧
    ∀ input ∈ tx.inputs, input.script.length < Word.bound64
  outputs : tx.outputs.length < Word.bound64 ∧
    ∀ output ∈ tx.outputs, output.script.length < Word.bound64

open Cursor (Reads)

/-! ### Inputs and outputs -/

theorem Input.reads_read :
    Reads Input.read Input.encode (fun input => input.script.length < Word.bound64) := by
  intro c c' input
  rw [Input.read, Input.encode]
  constructor
  · intro h
    obtain ⟨⟨hash, c₁⟩, readHash, h⟩ := Result.bind_eq_ok_iff.mp h
    obtain ⟨⟨index, c₂⟩, readIndex, h⟩ := Result.bind_eq_ok_iff.mp h
    obtain ⟨⟨script, c₃⟩, readScript, h⟩ := Result.bind_eq_ok_iff.mp h
    obtain ⟨⟨sequence, c₄⟩, readSequence, h⟩ := Result.bind_eq_ok_iff.mp h
    obtain ⟨-, passedHash⟩ := (Cursor.reads_block 32).mp readHash
    obtain ⟨fitIndex, passedIndex⟩ := (Cursor.reads_number 4).mp readIndex
    obtain ⟨fitScript, passedScript⟩ := Cursor.reads_script.mp readScript
    obtain ⟨fitSequence, passedSequence⟩ := (Cursor.reads_number 4).mp readSequence
    cases h
    refine ⟨fitScript, ?_⟩
    rw [UInt32.toNat_ofNat_of_lt' fitIndex, UInt32.toNat_ofNat_of_lt' fitSequence]
    exact ((passedHash.append passedIndex).append passedScript).append passedSequence
  · rintro ⟨fit, passed⟩
    obtain ⟨c₃, passed, passedSequence⟩ := Cursor.passes_append_iff.mp passed
    obtain ⟨c₂, passed, passedScript⟩ := Cursor.passes_append_iff.mp passed
    obtain ⟨c₁, passedHash, passedIndex⟩ := Cursor.passes_append_iff.mp passed
    refine Result.bind_eq_ok_iff.mpr
      ⟨_, (Cursor.reads_block 32).mpr ⟨trivial, passedHash⟩, Result.bind_eq_ok_iff.mpr
      ⟨_, (Cursor.reads_number 4).mpr ⟨input.outpoint.index.toNat_lt, passedIndex⟩,
        Result.bind_eq_ok_iff.mpr ⟨_, Cursor.reads_script.mpr ⟨fit, passedScript⟩,
        Result.bind_eq_ok_iff.mpr
      ⟨_, (Cursor.reads_number 4).mpr ⟨input.sequence.toNat_lt, passedSequence⟩, ?_⟩⟩⟩⟩
    simp only [UInt32.ofNat_toNat]
    rfl

theorem Output.reads_read :
    Reads Output.read Output.encode (fun output => output.script.length < Word.bound64) := by
  intro c c' output
  rw [Output.read, Output.encode]
  constructor
  · intro h
    obtain ⟨⟨amount, c₁⟩, readAmount, h⟩ := Result.bind_eq_ok_iff.mp h
    obtain ⟨⟨script, c₂⟩, readScript, h⟩ := Result.bind_eq_ok_iff.mp h
    obtain ⟨fitAmount, passedAmount⟩ := (Cursor.reads_number 8).mp readAmount
    obtain ⟨fitScript, passedScript⟩ := Cursor.reads_script.mp readScript
    cases h
    refine ⟨fitScript, ?_⟩
    rw [UInt64.toUInt64_toInt64, UInt64.toNat_ofNat_of_lt' fitAmount]
    exact passedAmount.append passedScript
  · rintro ⟨fit, passed⟩
    obtain ⟨c₁, passedAmount, passedScript⟩ := Cursor.passes_append_iff.mp passed
    refine Result.bind_eq_ok_iff.mpr
      ⟨_, (Cursor.reads_number 8).mpr ⟨output.amount.toUInt64.toNat_lt, passedAmount⟩,
      Result.bind_eq_ok_iff.mpr ⟨_, Cursor.reads_script.mpr ⟨fit, passedScript⟩, ?_⟩⟩
    simp only [UInt64.ofNat_toNat, Int64.toInt64_toUInt64]
    rfl

theorem Input.length_encode_pos (input : Input) : 0 < input.encode.length := by
  rw [length_encode]
  omega

theorem Output.length_encode_pos (output : Output) : 0 < output.encode.length := by
  rw [length_encode]
  omega

namespace Transaction

/-! ### Whole transactions -/

/-- The reader of transactions answers to their writer. -/
theorem reads_read : Reads Transaction.read Transaction.encode Fits := by
  intro c c' tx
  rw [Transaction.read, Transaction.encode]
  constructor
  · intro h
    obtain ⟨⟨version, c₁⟩, readVersion, h⟩ := Result.bind_eq_ok_iff.mp h
    obtain ⟨⟨inputCount, c₂⟩, countInputs, h⟩ := Result.bind_eq_ok_iff.mp h
    obtain ⟨⟨inputs, c₃⟩, readInputs, h⟩ := Result.bind_eq_ok_iff.mp h
    obtain ⟨⟨outputCount, c₄⟩, countOutputs, h⟩ := Result.bind_eq_ok_iff.mp h
    obtain ⟨⟨outputs, c₅⟩, readOutputs, h⟩ := Result.bind_eq_ok_iff.mp h
    obtain ⟨⟨lockTime, c₆⟩, readLockTime, h⟩ := Result.bind_eq_ok_iff.mp h
    obtain ⟨fitVersion, passedVersion⟩ := (Cursor.reads_number 4).mp readVersion
    obtain ⟨fitInputs, passedInputs⟩ := (Cursor.counted_eq_ok_iff Input.reads_read
      Input.length_encode_pos).mp ⟨_, _, countInputs, readInputs⟩
    obtain ⟨fitOutputs, passedOutputs⟩ := (Cursor.counted_eq_ok_iff Output.reads_read
      Output.length_encode_pos).mp ⟨_, _, countOutputs, readOutputs⟩
    obtain ⟨fitLockTime, passedLockTime⟩ := (Cursor.reads_number 4).mp readLockTime
    cases h
    refine ⟨⟨fitInputs, fitOutputs⟩, ?_⟩
    rw [UInt32.toUInt32_toInt32, UInt32.toNat_ofNat_of_lt' fitVersion,
      UInt32.toNat_ofNat_of_lt' fitLockTime, List.append_assoc (Bytes.ofNatLE 4 version),
      List.append_assoc (Bytes.ofNatLE 4 version ++ _)]
    exact ((passedVersion.append passedInputs).append passedOutputs).append passedLockTime
  · rintro ⟨⟨fitInputs, fitOutputs⟩, passed⟩
    rw [List.append_assoc (Bytes.ofNatLE 4 tx.version.toUInt32.toNat),
      List.append_assoc (Bytes.ofNatLE 4 tx.version.toUInt32.toNat ++ _)] at passed
    obtain ⟨c₅, passed, passedLockTime⟩ := Cursor.passes_append_iff.mp passed
    obtain ⟨c₃, passed, passedOutputs⟩ := Cursor.passes_append_iff.mp passed
    obtain ⟨c₁, passedVersion, passedInputs⟩ := Cursor.passes_append_iff.mp passed
    obtain ⟨_, c₂, countInputs, readInputs⟩ := (Cursor.counted_eq_ok_iff Input.reads_read
      Input.length_encode_pos).mpr ⟨fitInputs, passedInputs⟩
    obtain ⟨_, c₄, countOutputs, readOutputs⟩ := (Cursor.counted_eq_ok_iff Output.reads_read
      Output.length_encode_pos).mpr ⟨fitOutputs, passedOutputs⟩
    refine Result.bind_eq_ok_iff.mpr
      ⟨_, (Cursor.reads_number 4).mpr ⟨tx.version.toUInt32.toNat_lt, passedVersion⟩,
      Result.bind_eq_ok_iff.mpr ⟨_, countInputs, Result.bind_eq_ok_iff.mpr ⟨_, readInputs,
      Result.bind_eq_ok_iff.mpr ⟨_, countOutputs, Result.bind_eq_ok_iff.mpr ⟨_, readOutputs,
      Result.bind_eq_ok_iff.mpr
      ⟨_, (Cursor.reads_number 4).mpr ⟨tx.lockTime.toNat_lt, passedLockTime⟩, ?_⟩⟩⟩⟩⟩⟩
    simp only [UInt32.ofNat_toNat, Int32.toInt32_toUInt32]
    rfl

/-- A byte string is read as the transaction that it is the encoding of. -/
theorem parse_eq_ok_iff {bytes : Bytes} {tx : Transaction} :
    parse bytes = .ok tx ↔ tx.Fits ∧ tx.encode = bytes := by
  rw [parse, Result.bind_eq_ok_iff, ← Cursor.passes_all_iff]
  constructor
  · rintro ⟨⟨tx', c⟩, read, rest⟩
    obtain ⟨fits, passed⟩ := reads_read.mp read
    dsimp only at rest
    split at rest
    · rename_i done
      cases rest
      exact ⟨fits, c, passed, List.isEmpty_iff.mp done⟩
    · cases rest
  · rintro ⟨fits, c, passed, done⟩
    refine ⟨(tx, c), reads_read.mpr ⟨fits, passed⟩, ?_⟩
    simp only [done, List.isEmpty_nil, if_true]
    rfl

/-- A text is read as the transaction whose encoding it spells between the blanks around it. -/
theorem ofHex_eq_ok_iff {text : String} {tx : Transaction} :
    ofHex text = .ok tx ↔ tx.Fits ∧ ∃ core, Text.StandsIn core text.toList ∧
      core.map Char.toLower = tx.toHex.toList := by
  rw [ofHex, toHex, Hex.encode, String.toList_ofList, ← Hex.decodeChars_trim_eq_ok_iff]
  cases decoded : Hex.decodeChars (Text.trim text.toList) with
  | error fault => simp
  | ok bytes =>
    simp only [parse_eq_ok_iff, Except.ok.injEq]
    constructor
    · rintro ⟨fits, rfl⟩
      exact ⟨fits, rfl⟩
    · rintro ⟨fits, rfl⟩
      exact ⟨fits, rfl⟩

/-- Reading accepts exactly the written forms: a byte string is read as `tx` when it is the encoding
of `tx`, and a text when it spells that encoding in digits of either case, with blanks around it or
without. -/
theorem read_iff_written (tx : Transaction) :
    (∀ bytes : Bytes, parse bytes = .ok tx ↔ tx.Fits ∧ tx.encode = bytes) ∧
      ∀ text : String, ofHex text = .ok tx ↔ tx.Fits ∧ ∃ core,
        Text.StandsIn core text.toList ∧ core.map Char.toLower = tx.toHex.toList :=
  ⟨fun _ => parse_eq_ok_iff, fun _ => ofHex_eq_ok_iff⟩

end Transaction

end Cosigner
