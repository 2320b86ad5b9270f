import Cosigner.Base58
import Mathlib.Data.List.TakeWhile
import Mathlib.Data.Nat.Digits.Lemmas
/-!
Base58 texts and byte strings determine each other.

A list of digits is its zeros in front, followed by the numeral of the number that it denotes
(`Radix.digits_value_eq_dropWhile`). A number survives the change of its base, because its digits
are those of the library of numbers in the opposite order (`Radix.digitsLE_eq`, `Radix.value_eq`),
and each zero in front is one character of its own. So a byte string is read back from its text
(`decode_encode`), and every text that can be read is the text of some byte string
(`decode_eq_ok_iff`).
-/

namespace Cosigner

/-! ### Zeros in front -/

section Zeros

variable {α : Type} [BEq α] [LawfulBEq α] [Zero α]

/-- What a list has in front of its first nonzero member are zeros. -/
theorem takeWhile_zero_eq_replicate (xs : List α) :
    xs.takeWhile (· == 0) = List.replicate (xs.takeWhile (· == 0)).length 0 := by
  refine List.eq_replicate_iff.mpr ⟨rfl, fun x mem => ?_⟩
  have zero := List.mem_takeWhile_imp (p := (· == 0)) mem
  exact eq_of_beq zero

theorem replicate_zero_append_dropWhile (xs : List α) :
    List.replicate (xs.takeWhile (· == 0)).length 0 ++ xs.dropWhile (· == 0) = xs := by
  rw [← takeWhile_zero_eq_replicate, List.takeWhile_append_dropWhile]

theorem head?_dropWhile_zero_ne (xs : List α) : (xs.dropWhile (· == 0)).head? ≠ some 0 := by
  intro leading
  have nonzero := List.head?_dropWhile_not (· == (0 : α)) xs
  simp [leading] at nonzero

theorem takeWhile_replicate_zero_append (k : Nat) {xs : List α} (leading : xs.head? ≠ some 0) :
    (List.replicate k 0 ++ xs).takeWhile (· == 0) = List.replicate k 0 := by
  have zeros : ∀ x ∈ List.replicate k (0 : α), (x == 0) = true := by simp
  rw [List.takeWhile_append_of_pos zeros]
  cases xs with
  | nil => simp
  | cons x xs =>
    have nonzero : (x == 0) = false := by simpa using leading
    simp [nonzero]

end Zeros

/-! ### Numerals -/

namespace Radix

variable {base : Nat}

theorem digitsLE_eq (two : 1 < base) (n : Nat) : digitsLE base n = Nat.digits base n := by
  induction n using Nat.strongRecOn with
  | ind n ih =>
    rw [digitsLE]
    by_cases zero : n = 0
    · simp [zero]
    · have large : ¬ (n = 0 ∨ base < 2) := by omega
      have pos : 0 < n := Nat.pos_of_ne_zero zero
      rw [dif_neg large, ih (n / base) (Nat.div_lt_self pos two),
        Nat.digits_def' two pos]

theorem value_eq (ds : List Nat) : value base ds = Nat.ofDigits base ds.reverse := by
  rw [value, Nat.ofDigits_eq_foldr, List.foldr_reverse]
  congr 1
  funext acc d
  simp only [Nat.cast_id]
  ring

theorem value_digits (two : 1 < base) (n : Nat) : value base (digits base n) = n := by
  rw [value_eq, digits, List.reverse_reverse, digitsLE_eq two, Nat.ofDigits_digits]

theorem lt_of_mem_digits (two : 1 < base) {n d : Nat} (mem : d ∈ digits base n) : d < base := by
  rw [digits, List.mem_reverse, digitsLE_eq two] at mem
  exact Nat.digits_lt_base two mem

/-- A numeral has no zero in front. -/
theorem head?_digits_ne (two : 1 < base) (n : Nat) : (digits base n).head? ≠ some 0 := by
  rw [digits, List.head?_reverse, digitsLE_eq two]
  intro leading
  by_cases zero : n = 0
  · simp [zero] at leading
  · obtain ⟨some, last⟩ := List.getLast?_eq_some_iff.mp leading
    have := Nat.getLast_digit_ne_zero base zero
    simp [last] at this

/-- Digits without a zero in front are those of their number. -/
theorem digits_value (two : 1 < base) {ds : List Nat} (small : ∀ d ∈ ds, d < base)
    (leading : ds.head? ≠ some 0) : digits base (value base ds) = ds := by
  have last (some : ds.reverse ≠ []) : ds.reverse.getLast some ≠ 0 := by
    rw [List.getLast_reverse]
    intro zero
    exact leading (zero ▸ List.head?_eq_some_head _)
  rw [value_eq, digits, digitsLE_eq two,
    Nat.digits_ofDigits base two ds.reverse (by simpa using small) last, List.reverse_reverse]

/-- Zeros in front do not count. -/
theorem value_replicate_zero_append (k : Nat) (ds : List Nat) :
    value base (List.replicate k 0 ++ ds) = value base ds := by
  induction k with
  | zero => rfl
  | succ k ih =>
    rw [List.replicate_succ, List.cons_append, value, List.foldl_cons, Nat.zero_mul]
    exact ih

/-- The numeral of the number that digits denote are the digits without the zeros in front. -/
theorem digits_value_eq_dropWhile (two : 1 < base) {ds : List Nat} (small : ∀ d ∈ ds, d < base) :
    digits base (value base ds) = ds.dropWhile (· == 0) := by
  have value : value base ds = value base (ds.dropWhile (· == 0)) := by
    conv_lhs => rw [← replicate_zero_append_dropWhile ds]
    exact value_replicate_zero_append _ _
  rw [value]
  apply digits_value two
  · intro d mem
    exact small d (List.dropWhile_subset _ mem)
  · exact head?_dropWhile_zero_ne ds

end Radix


namespace Bytes

theorem toNatBE_eq_value (bytes : Bytes) :
    bytes.toNatBE = Radix.value 256 (bytes.map UInt8.toNat) := by
  rw [toNatBE, Radix.value, List.foldl_map]

theorem map_toNat_digits (n : Nat) :
    ((Radix.digits 256 n).map UInt8.ofNat).map UInt8.toNat = Radix.digits 256 n := by
  rw [List.map_map]
  refine (List.map_congr_left fun d mem => ?_).trans (List.map_id _)
  have small := Radix.lt_of_mem_digits (by decide) mem
  rw [Function.comp_apply, UInt8.toNat_ofNat', Nat.mod_eq_of_lt small, id]

/-- The digits of a number, as bytes, denote that number, with zeros in front of them or without. -/
theorem toNatBE_replicate_zero_append_digits (k n : Nat) :
    toNatBE (List.replicate k 0 ++ (Radix.digits 256 n).map UInt8.ofNat) = n := by
  rw [toNatBE_eq_value, List.map_append, List.map_replicate, map_toNat_digits]
  exact (Radix.value_replicate_zero_append k _).trans (Radix.value_digits (by decide) n)

theorem head?_map_ofNat_digits_ne (n : Nat) :
    ((Radix.digits 256 n).map UInt8.ofNat).head? ≠ some 0 := by
  intro leading
  apply Radix.head?_digits_ne (show 1 < 256 by decide) n
  rw [← map_toNat_digits, List.head?_map, leading]
  rfl

/-- The digits of the number that a byte string denotes are its bytes without the zeros in front. -/
theorem digits_toNatBE (bytes : Bytes) :
    (Radix.digits 256 bytes.toNatBE).map UInt8.ofNat = bytes.dropWhile (· == 0) := by
  have small : ∀ d ∈ bytes.map UInt8.toNat, d < 256 := by
    intro d mem
    obtain ⟨b, -, rfl⟩ := List.mem_map.mp mem
    exact b.toNat_lt
  have zero (b : UInt8) : (b.toNat == 0) = (b == 0) := by
    rw [Bool.eq_iff_iff, beq_iff_eq, beq_iff_eq]
    show b.toNat = UInt8.toNat 0 ↔ b = 0
    exact UInt8.toNat_inj
  rw [toNatBE_eq_value, Radix.digits_value_eq_dropWhile (by decide) small, List.dropWhile_map,
    List.map_map]
  simp [Function.comp_def, zero]

end Bytes

/-! ### Texts -/

namespace Base58

/-- Each digit is an ASCII character of its own. -/
theorem digit_spec : ∀ d < 58, (digit d).toNat < 128 ∧ digit? (digit d) = some d := by
  decide

theorem digitValues_map_digit {ds : List Nat} (small : ∀ d ∈ ds, d < 58) (offset : Nat) :
    digitValues offset (ds.map digit) = .ok ds := by
  induction ds generalizing offset with
  | nil => rfl
  | cons d ds ih =>
    obtain ⟨here, rest⟩ := List.forall_mem_cons.mp small
    obtain ⟨ascii, value⟩ := digit_spec d here
    simp only [List.map_cons, digitValues, ascii, if_true, value, ih rest]

/-- A character that is read as a digit is the character of that digit. -/
theorem digit_of_digit? {c : Char} {d : Nat} (read : digit? c = some d) :
    d < 58 ∧ digit d = c := by
  obtain ⟨within, found, -⟩ := List.findIdx?_eq_some_iff_getElem.mp read
  refine ⟨within, ?_⟩
  rw [digit, List.getD_eq_getElem?_getD, List.getElem?_eq_getElem within, Option.getD_some]
  exact eq_of_beq found

/-- A text is read as digits exactly when these digits spell it. -/
theorem digitValues_eq_ok_iff {offset : Nat} {text : List Char} {ds : List Nat} :
    digitValues offset text = .ok ds ↔ (∀ d ∈ ds, d < 58) ∧ text = ds.map digit := by
  constructor
  · intro read
    induction text generalizing offset ds with
    | nil =>
      cases read
      simp
    | cons c rest ih =>
      rw [digitValues] at read
      split at read
      · split at read
        · cases read
        · rename_i d here
          split at read
          · rename_i others behind
            cases read
            obtain ⟨small, rfl⟩ := digit_of_digit? here
            obtain ⟨smaller, rfl⟩ := ih behind
            exact ⟨List.forall_mem_cons.mpr ⟨small, smaller⟩, rfl⟩
          · cases read
      · cases read
  · rintro ⟨small, rfl⟩
    exact digitValues_map_digit small offset

/-- The text of a byte string, digit by digit. -/
theorem encodeChars_eq_map_digit (bytes : Bytes) :
    encodeChars bytes = (List.replicate (bytes.takeWhile (· == 0)).length 0 ++
      Radix.digits 58 bytes.toNatBE).map digit := by
  rw [encodeChars, List.map_append, List.map_replicate]
  rfl

/-- Digits spell the bytes that they stand for. -/
theorem encodeChars_ofDigitValues {ds : List Nat} (small : ∀ d ∈ ds, d < 58) :
    encodeChars (ofDigitValues ds) = ds.map digit := by
  rw [encodeChars_eq_map_digit, ofDigitValues,
    takeWhile_replicate_zero_append _ (Bytes.head?_map_ofNat_digits_ne _),
    Bytes.toNatBE_replicate_zero_append_digits, List.length_replicate,
    Radix.digits_value_eq_dropWhile (by decide) small, replicate_zero_append_dropWhile]

/-- A byte string is read back from its text. -/
theorem decode_encode (bytes : Bytes) : decode (encode bytes) = .ok bytes := by
  have two : 1 < 58 := by decide
  have small : ∀ d ∈ List.replicate (bytes.takeWhile (· == 0)).length 0 ++
      Radix.digits 58 bytes.toNatBE, d < 58 := by
    intro d mem
    rcases List.mem_append.mp mem with mem | mem
    · rw [List.eq_of_mem_replicate mem]
      decide
    · exact Radix.lt_of_mem_digits two mem
  rw [decode, encode, String.toList_ofList, decodeChars, encodeChars_eq_map_digit,
    digitValues_map_digit small]
  simp only [ofDigitValues, takeWhile_replicate_zero_append _ (Radix.head?_digits_ne two _),
    Radix.value_replicate_zero_append, Radix.value_digits two, Bytes.digits_toNatBE,
    List.length_replicate]
  rw [replicate_zero_append_dropWhile]

/-- A text is read as the byte string that it is the text of. -/
theorem decode_eq_ok_iff {text : String} {bytes : Bytes} :
    decode text = .ok bytes ↔ text = encode bytes := by
  constructor
  · intro read
    rw [decode, decodeChars] at read
    split at read
    · rename_i ds values
      cases read
      obtain ⟨small, spelled⟩ := digitValues_eq_ok_iff.mp values
      rw [encode, encodeChars_ofDigitValues small, ← spelled, String.ofList_toList]
    · cases read
  · rintro rfl
    exact decode_encode bytes

end Base58

end Cosigner
