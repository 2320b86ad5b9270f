import Mathlib.Data.List.Forall2
/-!
Computations that end in a value or an error.

A computation made of steps succeeds exactly when every step does; `bind_eq_ok_iff` and
`mapM_eq_ok_iff` say so for two steps and for a list of them. Changes to the value of a computation
follow each other as functions do (`map_map`).
-/

namespace Cosigner.Result

variable {ε α β γ : Type}

/-- A value is changed twice as by both changes at once. -/
theorem map_map (x : Except ε α) (f : α → β) (g : β → γ) :
    (x.map f).map g = x.map fun a => g (f a) := by
  cases x with
  | error e => rfl
  | ok a => rfl

/-- Two steps succeed when the first gives a value and the second succeeds on it. -/
theorem bind_eq_ok_iff {x : Except ε α} {f : α → Except ε β} {b : β} :
    x >>= f = .ok b ↔ ∃ a, x = .ok a ∧ f a = .ok b := by
  cases x with
  | error e =>
    constructor
    · intro h
      cases h
    · rintro ⟨a, h, -⟩
      cases h
  | ok a =>
    constructor
    · intro h
      exact ⟨a, rfl, h⟩
    · rintro ⟨a', h, hf⟩
      cases h
      exact hf

/-- A step for each member of a list succeeds when every one does. -/
theorem mapM_eq_ok_iff {f : α → Except ε β} {xs : List α} {ys : List β} :
    xs.mapM f = .ok ys ↔ List.Forall₂ (fun x y => f x = .ok y) xs ys := by
  induction xs generalizing ys with
  | nil =>
    rw [List.mapM_nil, List.forall₂_nil_left_iff]
    constructor
    · intro h
      exact (Except.ok.inj h).symm
    · rintro rfl
      rfl
  | cons x xs ih =>
    rw [List.mapM_cons, bind_eq_ok_iff, List.forall₂_cons_left_iff]
    constructor
    · rintro ⟨y, head, rest⟩
      obtain ⟨ys', tail, done⟩ := bind_eq_ok_iff.mp rest
      exact ⟨y, ys', head, ih.mp tail, (Except.ok.inj done).symm⟩
    · rintro ⟨y, ys', head, tail, rfl⟩
      exact ⟨y, head, bind_eq_ok_iff.mpr ⟨ys', ih.mpr tail, rfl⟩⟩

end Cosigner.Result
