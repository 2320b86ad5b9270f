import Cosigner.Text.Basic
import Mathlib.Data.List.DropRight
/-!
Blanks around a text.

`trim` finds what stands between blanks: a text without blanks of its own is found exactly where
it stands with nothing but blanks around it (`trim_eq_iff`).
-/

namespace Cosigner.Text

/-- A text stands in another one with nothing but blanks around it. -/
def StandsIn (core text : List Char) : Prop :=
  ∃ before after, (∀ c ∈ before ++ after, isBlank c = true) ∧ text = before ++ core ++ after

/-- The characters of ASCII that can be seen are no blanks. -/
theorem isBlank_of_visible {c : Char} (visible : 33 ≤ c.toNat ∧ c.toNat ≤ 126) :
    isBlank c = false := by
  rw [Bool.eq_false_iff]
  intro blank
  simp only [isBlank, Bool.or_eq_true, Bool.and_eq_true, decide_eq_true_eq, beq_iff_eq] at blank
  omega

variable {core text : List Char}

/-- Only blanks are dropped. -/
theorem standsIn_trim (text : List Char) : StandsIn (trim text) text := by
  have drops : trim text = (text.dropWhile isBlank).rdropWhile isBlank := rfl
  refine ⟨text.takeWhile isBlank, (text.dropWhile isBlank).rtakeWhile isBlank, ?_, ?_⟩
  · intro c mem
    rcases List.mem_append.mp mem with front | back
    · exact List.mem_takeWhile_imp front
    · exact List.mem_rtakeWhile_imp back
  · rw [drops, List.append_assoc, List.rdropWhile_append_rtakeWhile,
      List.takeWhile_append_dropWhile]

/-- All blanks are dropped, and nothing behind them. -/
theorem dropWhile_isBlank_append {blanks : List Char} (blank : ∀ c ∈ blanks, isBlank c = true)
    (solid : ∀ c ∈ core, isBlank c = false) : (blanks ++ core).dropWhile isBlank = core := by
  rw [List.dropWhile_append_of_pos blank, List.dropWhile_eq_self_iff]
  intro some
  rw [solid _ (List.getElem_mem some)]
  exact Bool.false_ne_true

theorem trim_of_standsIn (solid : ∀ c ∈ core, isBlank c = false) (stands : StandsIn core text) :
    trim text = core := by
  obtain ⟨before, after, blank, rfl⟩ := stands
  obtain ⟨front, back⟩ := List.forall_mem_append.mp blank
  rw [trim, List.append_assoc]
  cases core with
  | nil =>
    rw [List.nil_append, List.dropWhile_eq_nil_iff.mpr blank]
    rfl
  | cons c rest =>
    have first : isBlank c = false := solid c List.mem_cons_self
    have kept : (before ++ (c :: rest ++ after)).dropWhile isBlank = c :: rest ++ after := by
      rw [List.dropWhile_append_of_pos front, List.cons_append,
        List.dropWhile_cons_of_neg (by simp [first])]
    have back : ∀ c ∈ after.reverse, isBlank c = true := fun c mem =>
      back c (List.mem_reverse.mp mem)
    have solid : ∀ d ∈ (c :: rest).reverse, isBlank d = false := fun d mem =>
      solid d (List.mem_reverse.mp mem)
    rw [kept, dropEndWhile, List.reverse_append, dropWhile_isBlank_append back solid,
      List.reverse_reverse]

/-- What has no blanks is what is left of a text exactly where it stands between them. -/
theorem trim_eq_iff (solid : ∀ c ∈ core, isBlank c = false) :
    trim text = core ↔ StandsIn core text := by
  constructor
  · rintro rfl
    exact standsIn_trim text
  · exact trim_of_standsIn solid

end Cosigner.Text
