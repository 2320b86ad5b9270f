import Cosigner.Proofs.Script.Multisig
/-!
Where a script that spends from a quorum shows the redeem script.

The redeem script is looked for as bytes: a script has to end with the push of it. The same bytes
could as well be the end of the data of a longer push, and the push of a redeem script can be
spelled with other headers that end in the same bytes. Neither is taken for it: however a script is
cut into pushes, its signatures can be read exactly when the pushes are the placeholder, the
signatures, and the redeem script behind its shortest header (`suffix_is_last_push`).
-/

namespace Cosigner.Multisig

open Push (Spelling)

/-- A row of pushes that begins with the placeholder, goes on with signatures, and ends with the
redeem script behind its shortest header. -/
def Reveals (redeemScript : Bytes) (sigs : List Bytes) (row : List Spelling) : Prop :=
  ∃ placeholder middle last, row = placeholder :: (middle ++ [last]) ∧
    placeholder.bytes = [0] ∧ middle.map Spelling.data = sigs ∧
    last.data = redeemScript ∧ last.Shortest

variable {scriptSig redeemScript : Bytes} {sigs : List Bytes} {row : List Spelling}

theorem Reveals.bytes (reveals : Reveals redeemScript sigs row) :
    ∃ pushes, row.flatMap Spelling.bytes = 0 :: (pushes ++ Push.push redeemScript) ∧
      Push.items pushes = .ok sigs := by
  obtain ⟨placeholder, middle, last, rfl, zero, rfl, rfl, shortest⟩ := reveals
  refine ⟨middle.flatMap Spelling.bytes, ?_, Push.items_eq_ok_iff.mpr ⟨middle, rfl, rfl⟩⟩
  rw [List.flatMap_cons, List.flatMap_append, List.flatMap_singleton, zero,
    Spelling.shortest_iff.mp shortest]
  rfl

/-- A script that shows signatures can be cut into pushes, the last of which reveals the redeem
script. -/
theorem exists_reveals (some : scriptSig ≠ []) (fits : redeemScript.length < Word.bound32)
    (shows : signatures scriptSig redeemScript = .ok sigs) :
    ∃ row, row.flatMap Spelling.bytes = scriptSig ∧ Reveals redeemScript sigs row := by
  rcases signatures_eq_ok_iff.mp shows with ⟨none, -⟩ | ⟨pushes, rfl, read⟩
  · exact absurd none some
  obtain ⟨middle, rfl, rfl⟩ := Push.items_eq_ok_iff.mp read
  obtain ⟨placeholder, zero, -⟩ := @Spelling.exists_bytes_eq_push [] (by decide)
  obtain ⟨last, pushed, rfl⟩ := Spelling.exists_bytes_eq_push fits
  refine ⟨placeholder :: (middle ++ [last]), ?_,
    placeholder, middle, last, rfl, zero, rfl, rfl, Spelling.shortest_iff.mpr pushed⟩
  rw [List.flatMap_cons, List.flatMap_append, List.flatMap_singleton, zero, pushed]
  rfl

/-- However a script is cut into pushes, it shows signatures exactly when these pushes reveal the
redeem script behind them. -/
theorem signatures_eq_ok_iff_reveals (some : scriptSig ≠ [])
    (fits : redeemScript.length < Word.bound32)
    (cut : row.flatMap Spelling.bytes = scriptSig) :
    signatures scriptSig redeemScript = .ok sigs ↔ Reveals redeemScript sigs row := by
  constructor
  · intro shows
    obtain ⟨own, same, reveals⟩ := exists_reveals some fits shows
    rwa [Push.flatMap_bytes_injective (cut.trans same.symm)]
  · intro reveals
    obtain ⟨pushes, same, read⟩ := reveals.bytes
    exact signatures_eq_ok_iff.mpr (.inr ⟨pushes, cut.symm.trans same, read⟩)

/-- What is read from pushes that reveal a redeem script is nothing, the signatures, and the redeem
script. -/
theorem Reveals.items (reveals : Reveals redeemScript sigs row) :
    Push.items (row.flatMap Spelling.bytes) = .ok ([] :: (sigs ++ [redeemScript])) := by
  obtain ⟨placeholder, middle, last, rfl, zero, rfl, rfl, -⟩ := reveals
  have nothing : placeholder.data = [] := by
    have one : placeholder.header.length + placeholder.data.length = 1 := by
      rw [← placeholder.length_bytes, zero, List.length_singleton]
    rw [Spelling.header, List.length_cons] at one
    exact List.length_eq_zero_iff.mp (by omega)
  refine Push.items_eq_ok_iff.mpr ⟨_, rfl, ?_⟩
  rw [List.map_cons, List.map_append, List.map_singleton, nothing]

/-- To match the redeem script as the last bytes of a script agrees with reading the script: its
signatures are found exactly when it is the placeholder, pushes of them, and the push of the redeem
script. They are then the items between the placeholder and the redeem script, and there is no other
way to cut the script into pushes. -/
theorem suffix_is_last_push (scriptSig redeemScript : Bytes) (sigs : List Bytes)
    (some : scriptSig ≠ []) (fits : redeemScript.length < Word.bound32) :
    (signatures scriptSig redeemScript = .ok sigs ↔
      ∃ pushes, scriptSig = 0 :: (pushes ++ Push.push redeemScript) ∧
        Push.items pushes = .ok sigs) ∧
    (signatures scriptSig redeemScript = .ok sigs →
      Push.items scriptSig = .ok ([] :: (sigs ++ [redeemScript]))) ∧
    ∀ row : List Spelling, row.flatMap Spelling.bytes = scriptSig →
      (signatures scriptSig redeemScript = .ok sigs ↔ Reveals redeemScript sigs row) := by
  refine ⟨?_, fun shows => ?_, fun row => signatures_eq_ok_iff_reveals some fits⟩
  · rw [signatures_eq_ok_iff]
    simp [some]
  · obtain ⟨row, rfl, reveals⟩ := exists_reveals some fits shows
    exact reveals.items

/-- The push of a redeem script is found behind a signature, and not at the end of the data of a
longer push. -/
theorem longer_push_hides_redeem_script :
    let redeemScript : Bytes := [0x51, 0xae]
    let shown : Bytes := [0, 1, 0x30, 2, 0x51, 0xae]
    let hidden : Bytes := [0, 3, 2, 0x51, 0xae]
    Push.push redeemScript <:+ shown ∧ Push.push redeemScript <:+ hidden ∧
      signatures shown redeemScript = .ok [[0x30]] ∧
      Push.items shown = .ok [[], [0x30], redeemScript] ∧
      ∀ sigs, signatures hidden redeemScript ≠ .ok sigs := by
  intro redeemScript shown hidden
  have fits : redeemScript.length < Word.bound32 := by decide
  obtain ⟨found, read, -⟩ := suffix_is_last_push shown redeemScript [[0x30]] (by decide) fits
  have signature : Push.items [1, 0x30] = .ok [[0x30]] :=
    @Push.items_pushAll [[0x30]] (by decide)
  have shows := found.mpr ⟨[1, 0x30], rfl, signature⟩
  refine ⟨by decide, by decide, shows, read shows, fun sigs shows' => ?_⟩
  obtain ⟨-, read', -⟩ := suffix_is_last_push hidden redeemScript sigs (by decide) fits
  have whole : Push.items hidden = .ok [[], [2, 0x51, 0xae]] :=
    @Push.items_pushAll [[], [2, 0x51, 0xae]] (by decide)
  have last := congrArg List.getLast? (Except.ok.inj ((read' shows').symm.trans whole))
  rw [← List.cons_append, List.getLast?_concat] at last
  exact absurd (Option.some.inj last) (by decide)

end Cosigner.Multisig
