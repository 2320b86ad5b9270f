import Cosigner.Proofs.Script.Push
import Cosigner.Script.Multisig
/-!
Signatures gathered in the script that spends from a quorum.

* `signatures_eq_ok_iff`: which scripts show which signatures.
* `signatures_assemble`: a script that shows signatures is read back as these signatures.
* `foldl_addOnce`: what a list becomes when members are added to it one after the other, each at
  most once; `foldl_addOnce_perm`: their order does not matter for what it contains.
-/

namespace Cosigner.Multisig

/-! ### Reading signatures -/

/-- A script shows no signatures when it is empty; otherwise it is the placeholder, the pushes of
the signatures, and the push of the redeem script. -/
theorem signatures_eq_ok_iff {scriptSig redeemScript : Bytes} {sigs : List Bytes} :
    signatures scriptSig redeemScript = .ok sigs ↔
      (scriptSig = [] ∧ sigs = []) ∨
        ∃ pushes, scriptSig = 0 :: (pushes ++ Push.push redeemScript) ∧
          Push.items pushes = .ok sigs := by
  cases scriptSig with
  | nil =>
    simp only [signatures, Except.ok.injEq, true_and, reduceCtorEq, false_and, exists_false,
      or_false]
    exact eq_comm
  | cons opcode rest =>
    simp only [signatures, reduceCtorEq, false_and, false_or, List.cons.injEq]
    constructor
    · intro h
      split at h
      · rename_i placeholder
        split at h
        · rename_i reveals
          obtain ⟨pushes, rfl⟩ := List.isSuffixOf_iff_suffix.mp reveals
          rw [List.length_append, Nat.add_sub_cancel, List.take_left] at h
          exact ⟨pushes, ⟨placeholder, rfl⟩, h⟩
        · cases h
      · cases h
    · rintro ⟨pushes, ⟨rfl, rfl⟩, read⟩
      have reveals : (Push.push redeemScript).isSuffixOf (pushes ++ Push.push redeemScript) :=
        List.isSuffixOf_iff_suffix.mpr (List.suffix_append pushes _)
      rw [if_pos rfl, if_pos reveals, List.length_append, Nat.add_sub_cancel, List.take_left]
      exact read

/-- What is read from a script that shows signatures are the items of their pushes. -/
theorem signatures_assemble_eq (sigs : List Bytes) (redeemScript : Bytes) :
    signatures (assemble sigs redeemScript) redeemScript = Push.items (Push.pushAll sigs) := by
  have reveals : (Push.push redeemScript).isSuffixOf
      (Push.pushAll sigs ++ Push.push redeemScript) :=
    List.isSuffixOf_iff_suffix.mpr (List.suffix_append _ _)
  rw [assemble, List.cons_append, signatures, if_pos rfl, if_pos reveals, List.length_append,
    Nat.add_sub_cancel, List.take_left]

/-- A script that shows signatures is read back as these signatures. -/
theorem signatures_assemble {sigs : List Bytes} (redeemScript : Bytes)
    (fits : ∀ s ∈ sigs, s.length < Word.bound32) :
    signatures (assemble sigs redeemScript) redeemScript = .ok sigs := by
  rw [signatures_assemble_eq, Push.items_pushAll fits]

/-- No signature in a script is longer than a push can say. -/
theorem length_of_signatures {scriptSig redeemScript : Bytes} {sigs : List Bytes}
    (h : signatures scriptSig redeemScript = .ok sigs) : ∀ s ∈ sigs, s.length < Word.bound32 := by
  rcases signatures_eq_ok_iff.mp h with ⟨-, rfl⟩ | ⟨pushes, -, read⟩
  · simp
  · exact Push.length_of_items read

/-! ### Adding signatures -/

theorem mem_addOnce {entries : List Bytes} {entry s : Bytes} :
    s ∈ addOnce entries entry ↔ s ∈ entries ∨ s = entry := by
  unfold addOnce
  split
  · rename_i present
    constructor
    · exact .inl
    · rintro (h | rfl)
      · exact h
      · exact present
  · rw [List.mem_append, List.mem_singleton]

/-- Members added one after the other, each unless it is there, are appended in the order of their
first arrival; those that the list had at first are not. -/
theorem foldl_addOnce (present added : List Bytes) :
    added.foldl addOnce present = present ++ (added.removeAll present).eraseDups := by
  induction added generalizing present with
  | nil => rw [List.foldl_nil, List.nil_removeAll, List.eraseDups_nil, List.append_nil]
  | cons s added ih =>
    rw [List.foldl_cons, ih, addOnce, List.cons_removeAll]
    by_cases there : s ∈ present
    · simp [there]
    · have later : added.removeAll (present ++ [s]) =
          (added.removeAll present).filter fun b => !b == s := by
        simp only [List.removeAll, List.filter_filter]
        refine List.filter_congr fun b _ => ?_
        rw [Bool.eq_iff_iff]
        simp [and_comm]
      simp [there, later, List.eraseDups_cons]

theorem nodup_eraseDups (xs : List Bytes) : xs.eraseDups.Nodup := by
  match xs with
  | [] => exact List.nodup_nil
  | x :: xs =>
    have shorter := List.length_filter_le (fun b => !b == x) xs
    rw [List.eraseDups_cons]
    refine List.nodup_cons.mpr ⟨?_, nodup_eraseDups _⟩
    rw [List.mem_eraseDups, List.mem_filter]
    simp
termination_by xs.length

theorem eraseDups_eq_self {xs : List Bytes} (distinct : xs.Nodup) : xs.eraseDups = xs := by
  induction xs with
  | nil => rfl
  | cons x xs ih =>
    obtain ⟨absent, distinct⟩ := List.nodup_cons.mp distinct
    have others : (xs.filter fun b => !b == x) = xs := by
      refine List.filter_eq_self.mpr fun b mem => ?_
      have apart : b ≠ x := fun same => absent (same ▸ mem)
      simpa using apart
    rw [List.eraseDups_cons, others, ih distinct]

/-- The order in which members are added does not matter for what the list contains. -/
theorem foldl_addOnce_perm {added added' : List Bytes} (same : added.Perm added')
    (present : List Bytes) :
    (added.foldl addOnce present).Perm (added'.foldl addOnce present) := by
  rw [foldl_addOnce, foldl_addOnce]
  refine List.Perm.append_left present ?_
  refine (List.perm_ext_iff_of_nodup (nodup_eraseDups _) (nodup_eraseDups _)).mpr fun s => ?_
  rw [List.mem_eraseDups, List.mem_eraseDups]
  exact (same.filter _).mem_iff

end Cosigner.Multisig
