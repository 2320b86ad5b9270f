import Cosigner.Proofs.Transaction.WireFormat
import Cosigner.Signing.Sighash
import Mathlib.Data.List.Forall2
/-!
What a signature commits to.

A digest covers the whole transaction but for the scripts of its inputs
(`Transaction.SameButScripts`), and it covers which input is signed and under which script code only
by the place of the one script that is not empty. This is enough: two preimages are the same only
when all of it is the same (`signaturePreimage_inj`), because the wire format can be read back. So
digests that agree for anything else show two byte strings with one hash (`signatureHash_commits`).

No assumption on the hash is made; the two byte strings are the preimages themselves.
-/

namespace Cosigner

/-- Two inputs that differ at most in their scripts. -/
structure Input.SameButScript (a b : Input) : Prop where
  outpoint : a.outpoint = b.outpoint
  sequence : a.sequence = b.sequence

/-- Two transactions that differ at most in the scripts of their inputs. -/
structure Transaction.SameButScripts (a b : Transaction) : Prop where
  version : a.version = b.version
  inputs : List.Forall₂ Input.SameButScript a.inputs b.inputs
  outputs : a.outputs = b.outputs
  lockTime : a.lockTime = b.lockTime

namespace Transaction

variable {a b tx : Transaction}

/-! ### Removing scripts -/

theorem forall₂_sameButScript_iff {xs ys : List Input} :
    List.Forall₂ Input.SameButScript xs ys ↔
      xs.map (fun input => { input with script := [] }) =
        ys.map fun input => { input with script := [] } := by
  induction xs generalizing ys with
  | nil => rw [List.forall₂_nil_left_iff, List.map_nil, eq_comm (a := []), List.map_eq_nil_iff]
  | cons x xs ih =>
    cases ys with
    | nil => simp
    | cons y ys =>
      rw [List.forall₂_cons, ih, List.map_cons, List.map_cons, List.cons.injEq]
      refine and_congr_left fun _ => ?_
      constructor
      · rintro ⟨outpoint, sequence⟩
        rw [outpoint, sequence]
      · intro same
        obtain ⟨outpoint, -, sequence⟩ := Input.mk.inj same
        exact ⟨outpoint, sequence⟩

/-- Transactions that differ at most in the scripts of their inputs are the same without them. -/
theorem stripScripts_eq_iff : a.stripScripts = b.stripScripts ↔ a.SameButScripts b := by
  constructor
  · intro same
    obtain ⟨version, inputs, outputs, lockTime⟩ := Transaction.mk.inj same
    exact ⟨version, forall₂_sameButScript_iff.mpr inputs, outputs, lockTime⟩
  · rintro ⟨version, inputs, outputs, lockTime⟩
    rw [stripScripts, stripScripts, version, outputs, lockTime,
      forall₂_sameButScript_iff.mp inputs]

@[simp] theorem stripScripts_stripScripts (tx : Transaction) :
    tx.stripScripts.stripScripts = tx.stripScripts := by
  simp [stripScripts]

/-- A script that is put into an input is removed with all others. -/
@[simp] theorem stripScripts_setScript (tx : Transaction) (index : Nat) (script : Bytes) :
    (tx.setScript index script).stripScripts = tx.stripScripts := by
  have inputs : (tx.inputs.modify index fun input => { input with script := script }).map
      (fun input => { input with script := [] }) =
        tx.inputs.map fun input => { input with script := [] } := by
    refine List.ext_getElem? fun i => ?_
    rw [List.getElem?_map, List.getElem?_map, List.getElem?_modify]
    cases tx.inputs[i]? with
    | none => rfl
    | some input =>
      by_cases here : index = i
      · simp [here]
      · simp [here]
  rw [stripScripts, setScript]
  simp only [inputs]
  rfl

/-! ### The one script that is left -/

/-- The scripts of a transaction that is prepared for the digest of an input. -/
theorem script_stripScripts_setScript (index : Nat) (script : Bytes) {i : Nat}
    (within : i < tx.inputs.length) :
    (tx.stripScripts.setScript index script).inputs[i]?.map Input.script =
      some (if index = i then script else []) := by
  rw [setScript, stripScripts, List.getElem?_modify, List.getElem?_map,
    List.getElem?_eq_getElem within]
  by_cases here : index = i
  · simp [here]
  · simp [here]

/-- The place and the content of a script that is not empty can be told. -/
theorem stripScripts_setScript_inj {i j : Nat} {script script' : Bytes}
    (within : i < a.inputs.length) (some : script ≠ [])
    (same : a.stripScripts.setScript i script = b.stripScripts.setScript j script') :
    i = j ∧ script = script' ∧ a.SameButScripts b := by
  have stripped : a.stripScripts = b.stripScripts := by
    have := congrArg stripScripts same
    simpa only [stripScripts_setScript, stripScripts_stripScripts] using this
  have within' : i < b.inputs.length := by
    have := congrArg (fun tx => tx.inputs.length) stripped
    simp only [stripScripts, List.length_map] at this
    omega
  have here := script_stripScripts_setScript i script within
  rw [same, script_stripScripts_setScript j script' within', if_pos rfl, Option.some.injEq] at here
  by_cases place : j = i
  · rw [if_pos place] at here
    exact ⟨place.symm, here.symm, stripScripts_eq_iff.mp stripped⟩
  · rw [if_neg place] at here
    exact absurd here.symm some

/-! ### Reading back -/

theorem Fits.stripScripts_setScript {index : Nat} {script : Bytes} (fits : tx.Fits)
    (short : script.length < Word.bound64) : (tx.stripScripts.setScript index script).Fits := by
  refine ⟨⟨?_, fun input mem => ?_⟩, fits.outputs⟩
  · simpa [setScript, stripScripts] using fits.inputs.1
  · obtain ⟨i, there⟩ := List.mem_iff_getElem?.mp mem
    have within : i < tx.inputs.length := by
      obtain ⟨within, -⟩ := List.getElem?_eq_some_iff.mp there
      simpa [setScript, stripScripts] using within
    have held := script_stripScripts_setScript index script within
    rw [there, Option.map_some, Option.some.injEq] at held
    rw [held]
    split
    · exact short
    · exact Nat.zero_lt_of_lt short

/-- A transaction can be told from its encoding. -/
theorem encode_inj (fits : a.Fits) (fits' : b.Fits) (same : a.encode = b.encode) : a = b := by
  have read := parse_eq_ok_iff.mpr ⟨fits, same⟩
  rw [parse_eq_ok_iff.mpr ⟨fits', rfl⟩] at read
  exact (Except.ok.inj read).symm

end Transaction

/-! ### Digests -/

/-- What is signed can be told from its preimage. -/
theorem signaturePreimage_inj {tx tx' : Transaction} {index index' : Nat}
    {scriptCode scriptCode' : Bytes} (fits : tx.Fits) (fits' : tx'.Fits)
    (short : scriptCode.length < Word.bound64) (short' : scriptCode'.length < Word.bound64)
    (within : index < tx.inputs.length) (some : scriptCode ≠ [])
    (same : signaturePreimage tx index scriptCode = signaturePreimage tx' index' scriptCode') :
    index = index' ∧ scriptCode = scriptCode' ∧ tx.SameButScripts tx' := by
  have encoded := List.append_cancel_right same
  have prepared := Transaction.encode_inj (fits.stripScripts_setScript short)
    (fits'.stripScripts_setScript short') encoded
  exact Transaction.stripScripts_setScript_inj within some prepared

/-- The digests of an input do not depend on what the inputs hold. -/
theorem signatureHash_congr {tx tx' : Transaction} (same : tx.SameButScripts tx') (index : Nat)
    (scriptCode : Bytes) :
    signatureHash tx index scriptCode = signatureHash tx' index scriptCode := by
  have stripped := Transaction.stripScripts_eq_iff.mpr same
  rw [signatureHash, signatureHash, same.inputs.length_eq, signaturePreimage, signaturePreimage,
    stripped]

/-- A digest commits to the input that is signed, to its script code, and to the whole transaction
but for the scripts of its inputs. When two digests are the same although one of these differs, the
two preimages are different byte strings with one hash; and the scripts of the inputs never
matter. -/
theorem signatureHash_commits (tx₁ tx₂ : Transaction) (i₁ i₂ : Nat) (c₁ c₂ : Bytes)
    (fits₁ : tx₁.Fits) (fits₂ : tx₂.Fits) (within₁ : i₁ < tx₁.inputs.length)
    (within₂ : i₂ < tx₂.inputs.length) (some₁ : c₁ ≠ []) (short₁ : c₁.length < Word.bound64)
    (short₂ : c₂.length < Word.bound64) :
    ∃ digest₁ digest₂, signatureHash tx₁ i₁ c₁ = .ok digest₁ ∧
      signatureHash tx₂ i₂ c₂ = .ok digest₂ ∧
      (digest₁ = digest₂ →
        (signaturePreimage tx₁ i₁ c₁ ≠ signaturePreimage tx₂ i₂ c₂ ∧
          sha256d (signaturePreimage tx₁ i₁ c₁) = sha256d (signaturePreimage tx₂ i₂ c₂)) ∨
        (i₁ = i₂ ∧ c₁ = c₂ ∧ tx₁.SameButScripts tx₂)) ∧
      (i₁ = i₂ ∧ c₁ = c₂ ∧ tx₁.SameButScripts tx₂ → digest₁ = digest₂) := by
  refine ⟨_, _, if_pos within₁, if_pos within₂, fun same => ?_, ?_⟩
  · by_cases preimages : signaturePreimage tx₁ i₁ c₁ = signaturePreimage tx₂ i₂ c₂
    · exact .inr (signaturePreimage_inj fits₁ fits₂ short₁ short₂ within₁ some₁ preimages)
    · exact .inl ⟨preimages, same⟩
  · rintro ⟨rfl, rfl, same⟩
    have digests := signatureHash_congr same i₁ c₁
    rw [signatureHash, signatureHash, if_pos within₁, if_pos within₂] at digests
    exact Except.ok.inj digests

/-- A spend of two outputs of one owner. -/
def pairedSpend : Transaction :=
  .new [.unsigned ⟨.ofNatBE 32 7, 0⟩, .unsigned ⟨.ofNatBE 32 7, 1⟩] [⟨90000, [0x51]⟩]

/-- A signature for one of two inputs of the same owner is none for the other. -/
theorem paired_inputs_differ :
    ∃ digest₁ digest₂, signatureHash pairedSpend 0 [0x51] = .ok digest₁ ∧
      signatureHash pairedSpend 1 [0x51] = .ok digest₂ ∧ digest₁ ≠ digest₂ := by
  have fits : pairedSpend.Fits := ⟨by decide, by decide⟩
  obtain ⟨digest₁, digest₂, first, second, commits, -⟩ := signatureHash_commits pairedSpend
    pairedSpend 0 1 [0x51] [0x51] fits fits (by decide) (by decide) (by decide) (by decide)
    (by decide)
  refine ⟨digest₁, digest₂, first, second, fun same => ?_⟩
  rcases commits same with ⟨-, collide⟩ | ⟨place, -⟩
  · exact absurd collide (by decide +kernel)
  · cases place

end Cosigner
