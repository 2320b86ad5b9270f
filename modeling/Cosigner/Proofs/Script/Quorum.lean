import Cosigner.Proofs.Script.Push
import Cosigner.Script.Multisig
import Mathlib.Algebra.Ring.Nat
/-!
Redeem scripts and the quorums that they are for.

A redeem script is built only for a quorum that its signers can meet, with keys of the right lengths
(`Quorum.Sensible`), and what is built is read back (`ofRedeemScript?_of_redeemScript`). The
reader is more liberal than the builder, but in two ways only: it takes keys that are pushed with a
longer header than they need, and it takes scripts that are too long to be shown
(`redeemScript_eq_ok_iff_of_read`). So a script that is built anew for what was read from one is
never longer (`building_and_reading_agree`).
-/

namespace Cosigner.Quorum

variable {quorum : Quorum} {script pushes : Bytes}

/-- A quorum that enough of its signers can meet, and whose keys have the lengths of keys. -/
structure Sensible (quorum : Quorum) : Prop where
  positive : 1 ≤ quorum.required
  met : quorum.required ≤ quorum.keys.length
  few : quorum.keys.length ≤ maxMultisigKeys
  lengths : quorum.keys.all isKeyLength = true

/-- The script of a quorum around pushes of its keys. -/
def framed (quorum : Quorum) (pushes : Bytes) : Bytes :=
  smallIntOpcode quorum.required :: pushes ++ [smallIntOpcode quorum.keys.length, opCheckMultisig]

theorem length_framed (quorum : Quorum) (pushes : Bytes) :
    (quorum.framed pushes).length = pushes.length + 3 := by
  simp [framed]

theorem framed_inj {pushes' : Bytes} :
    quorum.framed pushes = quorum.framed pushes' ↔ pushes = pushes' := by
  rw [framed, framed, List.append_cancel_right_eq, List.cons.injEq]
  exact ⟨And.right, fun same => ⟨rfl, same⟩⟩

theorem smallInt?_eq_some_iff {opcode : UInt8} {n : Nat} :
    smallInt? opcode = some n ↔ 1 ≤ n ∧ n ≤ maxMultisigKeys ∧ opcode = smallIntOpcode n := by
  have byte := opcode.toNat_lt
  have range : (0x51 ≤ opcode ∧ opcode ≤ 0x60) ↔ (81 ≤ opcode.toNat ∧ opcode.toNat ≤ 96) := by
    rw [UInt8.le_iff_toNat_le, UInt8.le_iff_toNat_le]
    exact Iff.rfl
  have written : (smallIntOpcode n).toNat = (80 + n % 256) % 256 := by
    rw [smallIntOpcode, UInt8.toNat_add, UInt8.toNat_ofNat']
    rfl
  rw [smallInt?, maxMultisigKeys, ← UInt8.toNat_inj, written]
  by_cases within : 81 ≤ opcode.toNat ∧ opcode.toNat ≤ 96
  · have value : (opcode - 0x50).toNat = opcode.toNat - 80 := by
      have above : (0x50 : UInt8) ≤ opcode := by
        rw [UInt8.le_iff_toNat_le]
        exact Nat.le_of_succ_le within.1
      exact UInt8.toNat_sub_of_le _ _ above
    rw [if_pos (range.mpr within), Option.some.injEq, value]
    omega
  · rw [if_neg (mt range.mp within)]
    simp only [reduceCtorEq, false_iff]
    omega

/-! ### Building -/

/-- A redeem script is built for every sensible quorum whose script can be shown. -/
theorem redeemScript_eq_ok_iff :
    quorum.redeemScript = .ok script ↔
      quorum.Sensible ∧ script = quorum.framed (Push.pushAll quorum.keys) ∧
        script.length ≤ maxElementSize := by
  constructor
  · intro built
    dsimp only [redeemScript] at built
    split at built
    · cases built
    rename_i count
    split at built
    · cases built
    rename_i required
    split at built
    · cases built
    rename_i lengths
    split at built
    · cases built
    rename_i shown
    cases built
    have lengths : quorum.keys.all isKeyLength = true := by simpa using lengths
    exact ⟨⟨by omega, by omega, by omega, lengths⟩, rfl, Nat.le_of_not_lt shown⟩
  · rintro ⟨⟨positive, met, few, lengths⟩, rfl, shown⟩
    have alike : quorum.keys.find? (fun key => !isKeyLength key) = none := by simpa using lengths
    have count : ¬ (quorum.keys.length = 0 ∨ maxMultisigKeys < quorum.keys.length) := by omega
    have required : ¬ (quorum.required = 0 ∨ quorum.keys.length < quorum.required) := by omega
    dsimp only [redeemScript]
    simp only [count, required, alike, if_false]
    exact if_neg (Nat.not_lt.mpr shown)

/-! ### Reading -/

theorem ofRedeemScript?_frame_eq_some_iff {first second : UInt8} :
    ofRedeemScript? (first :: pushes ++ [second, opCheckMultisig]) = some quorum ↔
      smallInt? first = some quorum.required ∧ smallInt? second = some quorum.keys.length ∧
        Push.items pushes = .ok quorum.keys ∧ quorum.required ≤ quorum.keys.length ∧
        quorum.keys.all isKeyLength = true := by
  have backwards : (pushes ++ [second, opCheckMultisig]).reverse =
      opCheckMultisig :: second :: pushes.reverse := by
    simp
  simp only [ofRedeemScript?, List.cons_append, backwards, if_true, List.reverse_reverse]
  constructor
  · intro read
    split at read
    · rename_i required total keys first? second? items
      split at read
      · rename_i fits
        cases read
        obtain ⟨met, rfl, lengths⟩ := fits
        exact ⟨first?, second?, items, met, lengths⟩
      · cases read
    · cases read
  · rintro ⟨first?, second?, items, met, lengths⟩
    rw [first?, second?, items]
    exact if_pos ⟨met, rfl, lengths⟩

/-- A script has the form of a redeem script of a quorum. The keys may be pushed by longer headers
than they need. -/
def HasForm (quorum : Quorum) (script : Bytes) : Prop :=
  quorum.Sensible ∧ ∃ pushes, Push.items pushes = .ok quorum.keys ∧ script = quorum.framed pushes

/-- A script is read as the quorum whose form it has. -/
theorem ofRedeemScript?_eq_some_iff :
    ofRedeemScript? script = some quorum ↔ quorum.HasForm script := by
  constructor
  · intro read
    have shape : ∃ first second pushes,
        script = first :: pushes ++ [second, opCheckMultisig] := by
      unfold ofRedeemScript? at read
      split at read
      · cases read
      · split at read
        · rename_i _ first rest _ last second middle backwards
          split at read
          · rename_i ends
            refine ⟨first, second, middle.reverse, ?_⟩
            rw [← List.reverse_reverse rest, backwards, ends]
            simp
          · cases read
        · cases read
    obtain ⟨first, second, pushes, rfl⟩ := shape
    obtain ⟨first?, second?, items, met, lengths⟩ := ofRedeemScript?_frame_eq_some_iff.mp read
    obtain ⟨positive, -, rfl⟩ := smallInt?_eq_some_iff.mp first?
    obtain ⟨-, few, rfl⟩ := smallInt?_eq_some_iff.mp second?
    exact ⟨⟨positive, met, few, lengths⟩, pushes, items, rfl⟩
  · rintro ⟨⟨positive, met, few, lengths⟩, pushes, items, rfl⟩
    have first? := smallInt?_eq_some_iff.mpr ⟨positive, Nat.le_trans met few, rfl⟩
    have second? := smallInt?_eq_some_iff.mpr ⟨Nat.le_trans positive met, few, rfl⟩
    exact ofRedeemScript?_frame_eq_some_iff.mpr ⟨first?, second?, items, met, lengths⟩

/-! ### Both -/

theorem Sensible.length_lt (sensible : quorum.Sensible) :
    ∀ key ∈ quorum.keys, key.length < Word.bound32 := by
  intro key mem
  have length := List.all_eq_true.mp sensible.lengths key mem
  rw [isKeyLength, Bool.or_eq_true, beq_iff_eq, beq_iff_eq] at length
  rw [Word.bound32]
  omega

/-- The quorum that a redeem script is built for is read back. -/
theorem ofRedeemScript?_of_redeemScript (built : quorum.redeemScript = .ok script) :
    ofRedeemScript? script = some quorum := by
  obtain ⟨sensible, rfl, -⟩ := redeemScript_eq_ok_iff.mp built
  exact ofRedeemScript?_eq_some_iff.mpr
    ⟨sensible, _, Push.items_pushAll sensible.length_lt, rfl⟩

/-- A script that is read as a quorum is the one that is built for it, unless it is longer than the
shortest script of the quorum, or too long to be shown. -/
theorem redeemScript_eq_ok_iff_of_read (read : ofRedeemScript? script = some quorum) :
    quorum.redeemScript = .ok script ↔
      script.length = (Push.pushAll quorum.keys).length + 3 ∧ script.length ≤ maxElementSize := by
  obtain ⟨sensible, pushes, items, rfl⟩ := ofRedeemScript?_eq_some_iff.mp read
  obtain ⟨-, only⟩ := Push.pushAll_shortest items
  rw [redeemScript_eq_ok_iff, framed_inj, length_framed, Nat.add_right_cancel_iff]
  constructor
  · rintro ⟨-, rfl, shown⟩
    exact ⟨rfl, shown⟩
  · rintro ⟨short, shown⟩
    exact ⟨sensible, (only short.symm).symm, shown⟩

/-! ### How long a script is -/

/-- A key is pushed behind one byte. -/
theorem length_push_of_isKeyLength {key : Bytes} (fits : isKeyLength key = true) :
    (Push.push key).length = key.length + 1 := by
  rw [isKeyLength, Bool.or_eq_true, beq_iff_eq, beq_iff_eq] at fits
  have direct : key.length < 0x4c := by omega
  rw [Push.push_of_lt direct, List.length_cons]

theorem length_pushAll_of_isKeyLength {keys : List Bytes} (lengths : keys.all isKeyLength = true) :
    (Push.pushAll keys).length = (keys.map fun key => key.length + 1).sum := by
  rw [Push.pushAll, List.length_flatMap]
  refine congrArg List.sum (List.map_congr_left fun key mem => ?_)
  exact length_push_of_isKeyLength (List.all_eq_true.mp lengths key mem)

/-- The lengths of the keys decide whether the script of a sensible quorum can be shown. -/
theorem exists_redeemScript_iff :
    (∃ script, quorum.redeemScript = .ok script) ↔
      quorum.Sensible ∧ 3 + (quorum.keys.map fun key => key.length + 1).sum ≤ maxElementSize := by
  simp only [redeemScript_eq_ok_iff]
  constructor
  · rintro ⟨_, sensible, rfl, shown⟩
    rw [length_framed, length_pushAll_of_isKeyLength sensible.lengths, Nat.add_comm] at shown
    exact ⟨sensible, shown⟩
  · rintro ⟨sensible, shown⟩
    refine ⟨_, sensible, rfl, ?_⟩
    rwa [length_framed, length_pushAll_of_isKeyLength sensible.lengths, Nat.add_comm]

theorem sensible_iff :
    quorum.Sensible ↔ 1 ≤ quorum.required ∧ quorum.required ≤ quorum.keys.length ∧
      quorum.keys.length ≤ maxMultisigKeys ∧
      ∀ key ∈ quorum.keys, key.length = 33 ∨ key.length = 65 := by
  have lengths : quorum.keys.all isKeyLength = true ↔
      ∀ key ∈ quorum.keys, key.length = 33 ∨ key.length = 65 := by
    simp [List.all_eq_true, isKeyLength]
  rw [← lengths]
  exact ⟨fun ⟨positive, met, few, fit⟩ => ⟨positive, met, few, fit⟩,
    fun ⟨positive, met, few, fit⟩ => ⟨positive, met, few, fit⟩⟩

/-! ### The script that is read and the one that is built -/

/-- What stands between the two numbers of a redeem script: the pushes of its keys. -/
def keyPushes (script : Bytes) : Bytes := (script.drop 1).take (script.length - 3)

theorem keyPushes_framed : keyPushes (quorum.framed pushes) = pushes := by
  rw [keyPushes, length_framed, Nat.add_sub_cancel, framed, List.cons_append, List.drop_one,
    List.tail_cons, List.take_left]

/-- The script that is built for what was read from a script is no longer than that, and is the same
exactly when every key is pushed by its shortest header. -/
theorem built_of_read {built : Bytes} (read : ofRedeemScript? script = some quorum)
    (builds : quorum.redeemScript = .ok built) :
    built.length ≤ script.length ∧ (built = script ↔ Push.Shortest (keyPushes script)) := by
  obtain ⟨-, pushes, items, rfl⟩ := ofRedeemScript?_eq_some_iff.mp read
  obtain ⟨-, rfl, -⟩ := redeemScript_eq_ok_iff.mp builds
  obtain ⟨shorter, -⟩ := Push.pushAll_shortest items
  rw [length_framed, length_framed, framed_inj, keyPushes_framed,
    Push.pushAll_eq_iff_shortest items]
  exact ⟨Nat.add_le_add_right shorter 3, Iff.rfl⟩

/-- Building and reading redeem scripts agree. A script is built exactly for a quorum that its
signers can meet, of at most sixteen keys of the right lengths, that does not make the script too
long to be shown. What is built is read back, so no other quorum has the same script. What is read
has sensible numbers, and the script that is built for it is no longer than the one that was read,
and is that one exactly when each key was pushed by its shortest header. -/
theorem building_and_reading_agree (quorum : Quorum) (script : Bytes) :
    ((∃ built, quorum.redeemScript = .ok built) ↔
      1 ≤ quorum.required ∧ quorum.required ≤ quorum.keys.length ∧ quorum.keys.length ≤ 16 ∧
        (∀ key ∈ quorum.keys, key.length = 33 ∨ key.length = 65) ∧
        3 + (quorum.keys.map fun key => key.length + 1).sum ≤ 520) ∧
    (quorum.redeemScript = .ok script →
      ofRedeemScript? script = some quorum ∧
        ∀ other : Quorum, other.redeemScript = .ok script → other = quorum) ∧
    (ofRedeemScript? script = some quorum →
      1 ≤ quorum.required ∧ quorum.required ≤ quorum.keys.length ∧ quorum.keys.length ≤ 16 ∧
        ∀ built, quorum.redeemScript = .ok built →
          built.length ≤ script.length ∧
            (built = script ↔ Push.Shortest (keyPushes script))) := by
  refine ⟨?succeeds, fun built => ?back, fun read => ?liberal⟩
  case succeeds =>
    rw [exists_redeemScript_iff, sensible_iff]
    simp only [and_assoc]
    exact Iff.rfl
  case back =>
    have read := ofRedeemScript?_of_redeemScript built
    refine ⟨read, fun other built' => ?_⟩
    exact Option.some.inj ((ofRedeemScript?_of_redeemScript built').symm.trans read)
  case liberal =>
    obtain ⟨⟨positive, met, few, -⟩, -⟩ := ofRedeemScript?_eq_some_iff.mp read
    exact ⟨positive, met, few, fun built builds => built_of_read read builds⟩

/-- A made-up compressed public key. -/
def sampleKey (n : UInt8) : Bytes := 0x02 :: List.replicate 32 n

/-- A script that pushes its key by a longer header than it needs is read, and the script that is
built for what was read is another one, a byte shorter. Of uncompressed keys, seven fit into a
script and eight do not. -/
theorem longer_key_push_is_spelled_shorter :
    let quorum : Quorum := ⟨1, [sampleKey 1]⟩
    let short : Bytes := 0x51 :: 0x21 :: sampleKey 1 ++ [0x51, 0xae]
    let long : Bytes := 0x51 :: 0x4c :: 0x21 :: sampleKey 1 ++ [0x51, 0xae]
    let uncompressed : Bytes := 0x04 :: List.replicate 64 1
    quorum.redeemScript = .ok short ∧ ofRedeemScript? short = some quorum ∧
      ofRedeemScript? long = some quorum ∧ ¬ Push.Shortest (keyPushes long) ∧
      (∃ built, Quorum.redeemScript ⟨7, List.replicate 7 uncompressed⟩ = .ok built) ∧
      ¬ ∃ built, Quorum.redeemScript ⟨7, List.replicate 8 uncompressed⟩ = .ok built := by
  intro quorum short long uncompressed
  have builds : quorum.redeemScript = .ok short := rfl
  have read : ofRedeemScript? long = some quorum := by decide +kernel
  obtain ⟨-, back, -⟩ := building_and_reading_agree quorum short
  obtain ⟨-, -, liberal⟩ := building_and_reading_agree quorum long
  obtain ⟨-, -, -, spelled⟩ := liberal read
  obtain ⟨-, same⟩ := spelled short builds
  obtain ⟨seven, -⟩ := building_and_reading_agree ⟨7, List.replicate 7 uncompressed⟩ []
  obtain ⟨eight, -⟩ := building_and_reading_agree ⟨7, List.replicate 8 uncompressed⟩ []
  exact ⟨builds, (back builds).1, read, fun shortest => absurd (same.mpr shortest) (by decide),
    seven.mpr (by decide), fun built => absurd (eight.mp built) (by decide)⟩

end Cosigner.Quorum
