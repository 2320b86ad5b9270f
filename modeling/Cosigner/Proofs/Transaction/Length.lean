import Cosigner.Proofs.CompactSize
import Cosigner.Transaction.Basic
/-!
How many bytes a transaction takes.

* `Transaction.length_encode`: the sum over its parts.
* `Transaction.length_encode_setScript_lt`: it is less with a shorter script in an input.
-/

namespace Cosigner

/-- A script below 253 bytes takes one byte more than its bytes. -/
theorem length_encodeScript_of_lt {script : Bytes} (short : script.length < 0xfd) :
    (encodeScript script).length = script.length + 1 := by
  rw [encodeScript, List.length_append, CompactSize.length_write, if_pos short, Nat.add_comm]

theorem Input.length_encode (input : Input) :
    input.encode.length = 40 + (encodeScript input.script).length := by
  simp only [Input.encode, List.length_append, input.outpoint.hash.length_eq,
    Bytes.length_ofNatLE]
  omega

theorem Output.length_encode (output : Output) :
    output.encode.length = 8 + (encodeScript output.script).length := by
  rw [Output.encode, List.length_append, Bytes.length_ofNatLE]

theorem Transaction.length_encode (tx : Transaction) :
    tx.encode.length = 8 + (CompactSize.write tx.inputs.length).length +
      (tx.inputs.flatMap Input.encode).length + (CompactSize.write tx.outputs.length).length +
      (tx.outputs.flatMap Output.encode).length := by
  simp only [Transaction.encode, List.length_append, Bytes.length_ofNatLE]
  omega

/-- A shorter script takes fewer bytes, its length in front included. -/
theorem length_encodeScript_lt {script script' : Bytes} (shorter : script.length < script'.length) :
    (encodeScript script).length < (encodeScript script').length := by
  rw [encodeScript, encodeScript, List.length_append, List.length_append, CompactSize.length_write,
    CompactSize.length_write]
  grind

/-- A shorter script in an input makes for fewer bytes. -/
theorem Transaction.length_encode_setScript_lt {tx : Transaction} {index : Nat} {input : Input}
    {script : Bytes} (there : tx.inputs[index]? = some input)
    (shorter : script.length < input.script.length) :
    (tx.setScript index script).encode.length < tx.encode.length := by
  obtain ⟨within, rfl⟩ := List.getElem?_eq_some_iff.mp there
  obtain ⟨before, input, behind, split, rfl, replaced⟩ :=
    List.exists_of_modify (fun input : Input => { input with script := script }) within
  have own : tx.inputs[before.length] = input := by simp [split]
  rw [own] at shorter
  have fewer := length_encodeScript_lt shorter
  rw [length_encode, length_encode, setScript, replaced, split]
  simp only [List.flatMap_append, List.flatMap_cons, List.length_append, List.length_cons,
    Input.length_encode]
  omega

end Cosigner
