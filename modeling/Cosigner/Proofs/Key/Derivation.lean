import Cosigner.Key.Derivation
import Mathlib.Data.Nat.Nth
/-!
Which rounds of an identifier have a key.

The stream of a generator is a sequence of candidates of 32 bytes (`candidate`), and a round takes
the next usable one. The counter of the stream has 64 bits, so the stream repeats itself after
`streamPeriod` candidates (`candidate_add_period`), and a search over one period misses nothing,
wherever it begins. Either every round of an identifier has a key or none has
(`isSome_derivePrivateKey?_iff`). A search passes over unusable candidates only (`FirstUsable`), so
as many usable candidates precede the key of a round as there are rounds before it
(`exists_of_derivePrivateKey?`).
-/

namespace Cosigner

/-! ### The stream repeats itself -/

namespace ChaCha20

theorem initial_add_period (key : Hash256) (counter : Nat) :
    initial key (counter + Word.bound64) = initial key counter := by
  have low : UInt32.ofNat (counter + Word.bound64) = UInt32.ofNat counter := by
    rw [← UInt32.toNat_inj, UInt32.toNat_ofNat', UInt32.toNat_ofNat', Word.bound64]
    omega
  have high : UInt32.ofNat ((counter + Word.bound64) / Word.bound32) =
      UInt32.ofNat (counter / Word.bound32) := by
    rw [← UInt32.toNat_inj, UInt32.toNat_ofNat', UInt32.toNat_ofNat', Word.bound64, Word.bound32]
    omega
  rw [initial, initial, low, high]

theorem blocks_add_period (key : Hash256) (first count : Nat) :
    blocks key (first + Word.bound64) count = blocks key first count := by
  induction count generalizing first with
  | zero => rfl
  | succ count ih =>
    rw [blocks, blocks, block, initial_add_period, Nat.add_right_comm, ih]
    rfl

theorem words_add_period (key : Hash256) (start count : Nat) :
    words key (start + 16 * Word.bound64) count = words key start count := by
  have number : (start + 16 * Word.bound64) / 16 = start / 16 + Word.bound64 :=
    Nat.add_mul_div_left start Word.bound64 (by decide)
  have offset : (start + 16 * Word.bound64) % 16 = start % 16 :=
    Nat.add_mul_mod_self_left start 16 Word.bound64
  rw [words, words, number, offset, blocks_add_period]

end ChaCha20

/-- The candidate number `i` of the stream of a key. -/
def candidate (key : Hash256) (i : Nat) : FixedBytes 32 := ((⟨key, 8 * i⟩ : Generator).draw 32).1

theorem draw_candidate (key : Hash256) (i : Nat) :
    (⟨key, 8 * i⟩ : Generator).draw 32 = (candidate key i, ⟨key, 8 * (i + 1)⟩) := rfl

theorem candidate_add_period (key : Hash256) (i : Nat) :
    candidate key (i + streamPeriod) = candidate key i := by
  have position : 8 * (i + streamPeriod) = 8 * i + 16 * Word.bound64 := by
    rw [streamPeriod, Word.bound64]
    omega
  simp only [candidate, Generator.draw, position, ChaCha20.words_add_period]

theorem candidate_add_mul_period (key : Hash256) (i n : Nat) :
    candidate key (i + streamPeriod * n) = candidate key i := by
  induction n with
  | zero => rfl
  | succ n ih => rw [Nat.mul_succ, ← Nat.add_assoc, candidate_add_period, ih]

/-- Every candidate occurs among those of one period, wherever it begins. -/
theorem exists_candidate_eq (key : Hash256) (start j : Nat) :
    ∃ k < streamPeriod, candidate key (start + k) = candidate key j := by
  have pos : 0 < streamPeriod := by decide
  -- The first number at or after `start` that agrees with `j` modulo the period.
  refine ⟨(j + streamPeriod * start - start) % streamPeriod, Nat.mod_lt _ pos, ?_⟩
  have le : start ≤ streamPeriod * start := Nat.le_mul_of_pos_left start pos
  have split := Nat.mod_add_div (j + streamPeriod * start - start) streamPeriod
  rw [← candidate_add_mul_period key (start + _)
      ((j + streamPeriod * start - start) / streamPeriod),
    Nat.add_assoc, split, ← candidate_add_mul_period key j start]
  congr 1
  omega

/-! ### Usable scalars -/

/-- The stream of a key has a usable candidate. -/
def HasUsable (key : Hash256) : Prop := ∃ i, isValidScalar (candidate key i) = true

theorem nextScalar?_eq_none_iff {tries i : Nat} {key : Hash256} :
    nextScalar? tries ⟨key, 8 * i⟩ = none ↔
      ∀ j < tries, isValidScalar (candidate key (i + j)) = false := by
  induction tries generalizing i with
  | zero => simp [nextScalar?]
  | succ tries ih =>
    rw [nextScalar?, draw_candidate]
    cases usable : isValidScalar (candidate key i) with
    | true =>
      simp only [usable, if_true, reduceCtorEq, false_iff]
      intro none
      have first := none 0 (Nat.succ_pos tries)
      rw [Nat.add_zero, usable] at first
      cases first
    | false =>
      simp only [usable, Bool.false_eq_true, if_false, ih]
      constructor
      · intro later j hj
        cases j with
        | zero => exact usable
        | succ j =>
          rw [Nat.add_comm j 1, ← Nat.add_assoc]
          exact later j (Nat.lt_of_succ_lt_succ hj)
      · intro all j hj
        rw [Nat.add_assoc, Nat.add_comm 1 j]
        exact all (j + 1) (Nat.succ_lt_succ hj)

/-- The first usable candidate from number `i` on. -/
structure FirstUsable (key : Hash256) (i j : Nat) : Prop where
  from_le : i ≤ j
  usable : isValidScalar (candidate key j) = true
  unusable : ∀ k, i ≤ k → k < j → isValidScalar (candidate key k) = false

/-- What a search finds is the first usable candidate, and it goes on behind that candidate. -/
theorem exists_of_nextScalar? {tries i : Nat} {key : Hash256} {scalar : FixedBytes 32}
    {g : Generator} (found : nextScalar? tries ⟨key, 8 * i⟩ = some (scalar, g)) :
    ∃ j, FirstUsable key i j ∧ scalar = candidate key j ∧ g = ⟨key, 8 * (j + 1)⟩ := by
  induction tries generalizing i with
  | zero => cases found
  | succ tries ih =>
    rw [nextScalar?, draw_candidate] at found
    cases usable : isValidScalar (candidate key i) with
    | true =>
      simp only [usable, if_true] at found
      cases found
      exact ⟨i, ⟨Nat.le_refl i, usable, fun k above below => by omega⟩, rfl, rfl⟩
    | false =>
      simp only [usable, Bool.false_eq_true, if_false] at found
      obtain ⟨j, ⟨above, here, before⟩, same, rest⟩ := ih found
      refine ⟨j, ⟨Nat.le_of_succ_le above, here, fun k from_le below => ?_⟩, same, rest⟩
      rcases Nat.eq_or_lt_of_le from_le with rfl | later
      · exact usable
      · exact before k later below

/-- A search over one period finds a usable candidate wherever it begins, if there is one. -/
theorem isSome_nextScalar?_iff {key : Hash256} {i : Nat} :
    (nextScalar? streamPeriod ⟨key, 8 * i⟩).isSome = true ↔ HasUsable key := by
  rw [Option.isSome_iff_ne_none, ne_eq, nextScalar?_eq_none_iff]
  constructor
  · intro some
    obtain ⟨j, some⟩ := Classical.not_forall.mp some
    obtain ⟨-, usable⟩ := Classical.not_imp.mp some
    exact ⟨i + j, Bool.of_not_eq_false usable⟩
  · rintro ⟨j, usable⟩ none
    obtain ⟨k, hk, same⟩ := exists_candidate_eq key i j
    rw [← same, none k hk] at usable
    cases usable

theorem isSome_scalarAfter?_iff {key : Hash256} {skipped i : Nat} :
    (scalarAfter? skipped ⟨key, 8 * i⟩).isSome = true ↔ HasUsable key := by
  induction skipped generalizing i with
  | zero => rw [scalarAfter?, Option.isSome_map, isSome_nextScalar?_iff]
  | succ skipped ih =>
    rw [scalarAfter?]
    cases found : nextScalar? streamPeriod ⟨key, 8 * i⟩ with
    | none =>
      rw [← @isSome_nextScalar?_iff key i, found]
      rfl
    | some result =>
      obtain ⟨scalar, g⟩ := result
      obtain ⟨j, -, -, rfl⟩ := exists_of_nextScalar? found
      exact ih

/-- No candidate is counted between the one where a search begins and the one that it finds. -/
theorem FirstUsable.count_eq {key : Hash256} {i j : Nat} (first : FirstUsable key i j) :
    Nat.count (fun k => isValidScalar (candidate key k) = true) j =
      Nat.count (fun k => isValidScalar (candidate key k) = true) i := by
  obtain ⟨more, rfl⟩ := Nat.exists_eq_add_of_le first.from_le
  rw [Nat.count_add, Nat.add_eq_left, Nat.count_iff_forall_not]
  intro k below
  rw [first.unusable (i + k) (Nat.le_add_right i k) (by omega)]
  exact Bool.false_ne_true

/-- The scalar of a round is the usable candidate that as many others precede as were skipped. -/
theorem exists_of_scalarAfter? {key : Hash256} {skipped i : Nat} {scalar : FixedBytes 32}
    (found : scalarAfter? skipped ⟨key, 8 * i⟩ = some scalar) :
    ∃ j, isValidScalar (candidate key j) = true ∧
      Nat.count (fun k => isValidScalar (candidate key k) = true) j =
        Nat.count (fun k => isValidScalar (candidate key k) = true) i + skipped ∧
      scalar = candidate key j := by
  induction skipped generalizing i with
  | zero =>
    obtain ⟨⟨_, g⟩, next, rfl⟩ := Option.map_eq_some_iff.mp found
    obtain ⟨j, first, same, -⟩ := exists_of_nextScalar? next
    exact ⟨j, first.usable, first.count_eq, same⟩
  | succ skipped ih =>
    rw [scalarAfter?] at found
    split at found
    · cases found
    · rename_i next
      obtain ⟨j, first, -, rfl⟩ := exists_of_nextScalar? next
      obtain ⟨later, usable, count, same⟩ := ih found
      refine ⟨later, usable, ?_, same⟩
      rw [count, Nat.count_succ, if_pos first.usable, first.count_eq, Nat.add_assoc,
        Nat.add_comm 1 skipped]

/-! ### Keys -/

/-- Whether there is a key does not depend on the round: the identifier and the secret have to be
integers, and the stream of their seed must not be without usable candidates. -/
theorem isSome_derivePrivateKey?_iff {identifier : String} {secret : SecretText} {round : Nat}
    {network : Network} :
    (derivePrivateKey? identifier secret round network).isSome = true ↔
      ∃ seed, derivationSeed identifier secret = .ok seed ∧ HasUsable (sha256 seed) := by
  rw [derivePrivateKey?]
  cases derivationSeed identifier secret with
  | error fault => simp
  | ok seed =>
    have usable := @isSome_scalarAfter?_iff (sha256 seed) (round - 1) 0
    simp only [Except.ok.injEq, exists_eq_left']
    rw [← usable]
    show _ ↔ (scalarAfter? (round - 1) (Generator.ofSeed seed)).isSome = true
    cases found : scalarAfter? (round - 1) (Generator.ofSeed seed) with
    | none => simp
    | some scalar =>
      obtain ⟨_, valid, -, rfl⟩ := @exists_of_scalarAfter? _ _ 0 _ found
      simp [PrivateKey.ofScalar, valid, Except.toOption]

/-- A derived key is a usable candidate of the stream of its seed, and as many others precede it as
the rounds before its own. -/
theorem exists_of_derivePrivateKey? {identifier : String} {secret : SecretText} {round : Nat}
    {network : Network} {key : PrivateKey}
    (derived : derivePrivateKey? identifier secret round network = some key) :
    ∃ seed i, derivationSeed identifier secret = .ok seed ∧
      key.scalar = candidate (sha256 seed) i ∧ key.network = network ∧
      Nat.count (fun k => isValidScalar (candidate (sha256 seed) k) = true) i = round - 1 := by
  rw [derivePrivateKey?] at derived
  split at derived
  · cases derived
  rename_i seed seeded
  split at derived
  · cases derived
  rename_i scalar found
  obtain ⟨i, usable, count, rfl⟩ := @exists_of_scalarAfter? _ _ 0 _ found
  rw [PrivateKey.ofScalar, dif_pos usable] at derived
  cases derived
  rw [Nat.count_zero, Nat.zero_add] at count
  exact ⟨seed, i, seeded, rfl, rfl, count⟩

end Cosigner
