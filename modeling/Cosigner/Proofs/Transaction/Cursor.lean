import Cosigner.Proofs.CompactSize
import Cosigner.Proofs.Result
import Cosigner.Transaction.Parse
/-!
What the readers of a cursor accept.

A cursor `Passes` a byte string when the string stands in front of it, and the next cursor stands
right behind. A reader answers to a writer when it succeeds exactly by passing what the writer
writes (`Reads`). The readers of blocks, numbers and scripts are of this kind, and so is reading
many things in a row (`many_eq_ok_iff`).

A count is not: it is also held against the number of bytes left behind it. That condition says
nothing new when as many things follow as were counted, because each of them takes at least one
byte (`counted_eq_ok_iff`).
-/

namespace Cosigner.Cursor

variable {α : Type}

/-- The bytes stand in front of `c`, and `c'` stands behind them. -/
def Passes (c : Cursor) (bytes : Bytes) (c' : Cursor) : Prop :=
  bytes <+: c.rest ∧ c' = c.advance bytes.length

/-- A reader accepts exactly what a writer writes of the values that `fits` holds of. -/
def Reads (read : Cursor → Except ChainError (α × Cursor)) (write : α → Bytes)
    (fits : α → Prop) : Prop :=
  ∀ {c c' : Cursor} {a : α}, read c = .ok (a, c') ↔ fits a ∧ c.Passes (write a) c'

/-! ### Passing -/

theorem passes_nil_iff {c c' : Cursor} : c.Passes [] c' ↔ c' = c := by
  constructor
  · rintro ⟨-, rfl⟩
    rfl
  · rintro rfl
    exact ⟨List.nil_prefix, rfl⟩

/-- Two pieces are passed one after the other. -/
theorem passes_append_iff {c c' : Cursor} {a b : Bytes} :
    c.Passes (a ++ b) c' ↔ ∃ d, c.Passes a d ∧ d.Passes b c' := by
  have meet : (c.advance a.length).advance b.length = c.advance (a ++ b).length := by
    simp only [advance, List.drop_drop, Nat.add_assoc, List.length_append]
  constructor
  · rintro ⟨front, rfl⟩
    obtain ⟨first, second⟩ := Bytes.append_prefix_iff.mp front
    exact ⟨_, ⟨first, rfl⟩, second, meet.symm⟩
  · rintro ⟨d, ⟨first, rfl⟩, second, rfl⟩
    exact ⟨Bytes.append_prefix_iff.mpr ⟨first, second⟩, meet⟩

theorem Passes.append {c d c' : Cursor} {a b : Bytes} (first : c.Passes a d)
    (second : d.Passes b c') : c.Passes (a ++ b) c' :=
  passes_append_iff.mpr ⟨d, first, second⟩

/-- A cursor that passes a byte string has it all before it. -/
theorem Passes.length_le {c c' : Cursor} {bytes : Bytes} (h : c.Passes bytes c') :
    bytes.length ≤ c.rest.length :=
  h.1.length_le

/-- A cursor over a whole byte string passes all of it exactly when that is the byte string. -/
theorem passes_all_iff {bytes text : Bytes} :
    (∃ c', (ofBytes bytes).Passes text c' ∧ c'.rest = []) ↔ text = bytes := by
  constructor
  · rintro ⟨c', ⟨⟨rest, h⟩, rfl⟩, done⟩
    rw [← show text ++ rest = bytes from h] at done ⊢
    rw [show rest = [] by simpa [advance, ofBytes] using done, List.append_nil]
  · rintro rfl
    exact ⟨_, ⟨List.prefix_refl text, rfl⟩, List.drop_length⟩

/-! ### Pieces of a given length -/

theorem take_eq_ok_iff {c c' : Cursor} {n : Nat} {bytes : Bytes} :
    c.take n = .ok (bytes, c') ↔ bytes.length = n ∧ c.Passes bytes c' := by
  rw [take, Bytes.holds_eq]
  by_cases long : n ≤ c.rest.length
  · simp only [long, decide_true, if_true, Except.ok.injEq, Prod.mk.injEq]
    constructor
    · rintro ⟨rfl, rfl⟩
      have length : (c.rest.take n).length = n := List.length_take_of_le long
      exact ⟨length, List.take_prefix n c.rest, by rw [length]⟩
    · rintro ⟨rfl, written, rfl⟩
      exact ⟨(List.prefix_iff_eq_take.mp written).symm, rfl⟩
  · simp only [long, decide_false, Bool.false_eq_true, if_false, reduceCtorEq, false_iff]
    rintro ⟨rfl, passed⟩
    exact long passed.length_le

theorem reads_block (width : Nat) :
    Reads (fun c => c.block width) FixedBytes.bytes (fun _ => True) := by
  intro c c' read
  show c.block width = .ok (read, c') ↔ _
  rw [block]
  by_cases long : Bytes.holds width c.rest = true
  · have long' : width ≤ c.rest.length := by
      rwa [Bytes.holds_eq, decide_eq_true_eq] at long
    simp only [long, dite_true, Except.ok.injEq, Prod.mk.injEq, true_and]
    constructor
    · rintro ⟨rfl, rfl⟩
      exact ⟨List.take_prefix width c.rest, by rw [List.length_take_of_le long']⟩
    · rintro ⟨written, rfl⟩
      obtain ⟨bytes, rfl⟩ := read
      refine ⟨?_, rfl⟩
      congr 1
      exact (List.prefix_iff_eq_take.mp written).symm
  · simp only [long, dite_false, reduceCtorEq, true_and, false_iff]
    intro passed
    rw [Bytes.holds_eq, decide_eq_true_eq] at long
    exact long (read.length_eq ▸ passed.length_le)

theorem reads_number (width : Nat) :
    Reads (fun c => c.number width) (Bytes.ofNatLE width) (· < Bytes.capacity width) := by
  intro c c' n
  show c.number width = .ok (n, c') ↔ _
  rw [number, Result.bind_eq_ok_iff, Passes, ← and_assoc, Bytes.ofNatLE_prefix_iff,
    Bytes.length_ofNatLE]
  constructor
  · rintro ⟨⟨bytes, c₁⟩, taken, read⟩
    obtain ⟨rfl, passed⟩ := take_eq_ok_iff.mp taken
    cases read
    refine ⟨⟨passed.length_le, ?_⟩, passed.2⟩
    rw [← List.prefix_iff_eq_take.mp passed.1]
  · rintro ⟨⟨long, rfl⟩, rfl⟩
    have length : (c.rest.take width).length = width := List.length_take_of_le long
    exact ⟨(c.rest.take width, c.advance width), take_eq_ok_iff.mpr
      ⟨length, List.take_prefix width c.rest, by rw [length]⟩, rfl⟩

/-! ### Counts -/

/-- A count is a number of 64 bits in its narrowest form, and at least as many bytes are left. -/
theorem count_eq_ok_iff {c c' : Cursor} {n : Nat} :
    c.count = .ok (n, c') ↔
      n < Word.bound64 ∧ c.Passes (CompactSize.write n) c' ∧ n ≤ c'.rest.length := by
  rw [count, Result.bind_eq_ok_iff]
  constructor
  · rintro ⟨⟨value, size⟩, read, rest⟩
    obtain ⟨fits, written, rfl⟩ := CompactSize.read_eq_ok_iff.mp read
    simp only [Bytes.holds_eq] at rest
    split at rest
    · rename_i enough
      cases rest
      exact ⟨fits, ⟨written, rfl⟩, of_decide_eq_true enough⟩
    · cases rest
  · rintro ⟨fits, ⟨written, rfl⟩, enough⟩
    refine ⟨(n, _), CompactSize.read_eq_ok_iff.mpr ⟨fits, written, rfl⟩, ?_⟩
    simp only [Bytes.holds_eq, enough, decide_true, if_true]
    rfl

theorem reads_script : Reads script encodeScript (fun s => s.length < Word.bound64) := by
  intro c c' s
  rw [script, Result.bind_eq_ok_iff, encodeScript, passes_append_iff]
  constructor
  · rintro ⟨⟨length, d⟩, counted, taken⟩
    obtain ⟨fits, passed, -⟩ := count_eq_ok_iff.mp counted
    obtain ⟨rfl, behind⟩ := take_eq_ok_iff.mp taken
    exact ⟨fits, d, passed, behind⟩
  · rintro ⟨fits, d, passed, behind⟩
    exact ⟨(s.length, d), count_eq_ok_iff.mpr ⟨fits, passed, behind.length_le⟩,
      take_eq_ok_iff.mpr ⟨rfl, behind⟩⟩

/-! ### Things in a row -/

section Many

variable {read : Cursor → Except ChainError (α × Cursor)} {write : α → Bytes} {fits : α → Prop}

theorem many_eq_ok_iff (reads : Reads read write fits) {n : Nat} {c c' : Cursor} {xs : List α} :
    many read n c = .ok (xs, c') ↔
      xs.length = n ∧ (∀ x ∈ xs, fits x) ∧ c.Passes (xs.flatMap write) c' := by
  induction n generalizing c c' xs with
  | zero =>
    rw [many, List.length_eq_zero_iff]
    constructor
    · intro h
      cases h
      exact ⟨rfl, by simp, passes_nil_iff.mpr rfl⟩
    · rintro ⟨rfl, -, passed⟩
      rw [passes_nil_iff.mp passed]
  | succ n ih =>
    rw [many, Result.bind_eq_ok_iff]
    constructor
    · rintro ⟨⟨first, d⟩, one, others⟩
      obtain ⟨fit, passed⟩ := reads.mp one
      obtain ⟨⟨xs', d'⟩, tail, done⟩ := Result.bind_eq_ok_iff.mp others
      obtain ⟨rfl, fit', passed'⟩ := ih.mp tail
      cases done
      exact ⟨rfl, List.forall_mem_cons.mpr ⟨fit, fit'⟩, passed.append passed'⟩
    · rintro ⟨length, fit, passed⟩
      cases xs with
      | nil => cases length
      | cons first xs =>
        obtain ⟨fit, fit'⟩ := List.forall_mem_cons.mp fit
        obtain ⟨d, passed, passed'⟩ := passes_append_iff.mp passed
        refine ⟨(first, d), reads.mpr ⟨fit, passed⟩, Result.bind_eq_ok_iff.mpr ?_⟩
        exact ⟨(xs, c'), ih.mpr ⟨Nat.succ.inj length, fit', passed'⟩, rfl⟩

/-- Things that each take a byte are no more than the bytes that they take. -/
theorem length_le_length_flatMap (nonempty : ∀ x, 0 < (write x).length) (xs : List α) :
    xs.length ≤ (xs.flatMap write).length := by
  induction xs with
  | nil => exact Nat.le_refl 0
  | cons x xs ih =>
    have := nonempty x
    rw [List.flatMap_cons, List.length_append, List.length_cons]
    omega

/-- A count and so many things are a list behind its length. -/
theorem counted_eq_ok_iff (reads : Reads read write fits) (nonempty : ∀ x, 0 < (write x).length)
    {c c' : Cursor} {xs : List α} :
    (∃ n d, c.count = .ok (n, d) ∧ many read n d = .ok (xs, c')) ↔
      (xs.length < Word.bound64 ∧ ∀ x ∈ xs, fits x) ∧
        c.Passes (CompactSize.write xs.length ++ xs.flatMap write) c' := by
  constructor
  · rintro ⟨n, d, counted, listed⟩
    obtain ⟨fit, passed, -⟩ := count_eq_ok_iff.mp counted
    obtain ⟨rfl, fits, behind⟩ := (many_eq_ok_iff reads).mp listed
    exact ⟨⟨fit, fits⟩, passed.append behind⟩
  · rintro ⟨⟨fit, fits⟩, passed⟩
    obtain ⟨d, passed, behind⟩ := passes_append_iff.mp passed
    have enough := Nat.le_trans (length_le_length_flatMap nonempty xs) behind.length_le
    exact ⟨xs.length, d, count_eq_ok_iff.mpr ⟨fit, passed, enough⟩,
      (many_eq_ok_iff reads).mpr ⟨rfl, fits, behind⟩⟩

end Many

end Cosigner.Cursor
