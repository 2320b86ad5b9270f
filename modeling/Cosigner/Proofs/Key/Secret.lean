import Cosigner.Key.Secret
import Cosigner.Proofs.Base58
import Cosigner.Proofs.Hex
/-!
The bytes of a secret are those of the integer that its text denotes.

A text that spells an integer may have blanks around it, a mark in front, zeros in front and letters
of either case (`denoted?`). None of that is seen in its bytes: they are the digits of the integer
to base 256 (`integerBytes_eq_ok_iff`), so two texts have the same bytes exactly when they denote
the same integer (`leastBytes_inj`).
-/

namespace Cosigner

/-! ### Hexadecimal digits -/

namespace Hex

/-- The number that digits denote behind those of `n`. -/
def numberFrom? : Nat → List Char → Option Nat
  | n, [] => some n
  | n, c :: text =>
    match digit? c with
    | none => none
    | some d => numberFrom? (16 * n + d) text

variable {n m : Nat} {text : List Char} {bytes : Bytes}

theorem numberFrom?_of_spells (spelled : text.map Char.toLower = encodeChars bytes) :
    numberFrom? n text = some (bytes.foldl (fun acc b => acc * 256 + b.toNat) n) := by
  induction bytes generalizing n text with
  | nil =>
    rw [List.map_eq_nil_iff.mp spelled]
    rfl
  | cons b bytes ih =>
    match text with
    | [] | [_] => simp [encodeChars_cons] at spelled
    | hi :: lo :: rest =>
      simp only [encodeChars_cons, List.map_cons, List.cons.injEq] at spelled
      obtain ⟨high, low, rest⟩ := spelled
      have byte := b.toNat_lt
      have high := digit?_eq_some_iff.mpr ⟨by omega, high⟩
      have low := digit?_eq_some_iff.mpr ⟨by omega, low⟩
      simp only [numberFrom?, high, low, ih rest, List.foldl_cons]
      congr 2
      omega

theorem ascii_of_numberFrom? (number : numberFrom? n text = some m) :
    ∀ c ∈ text, c.toNat < 128 := by
  induction text generalizing n with
  | nil => simp
  | cons c text ih =>
    rw [numberFrom?] at number
    split at number
    · cases number
    · rename_i d value
      refine List.forall_mem_cons.mpr ⟨?_, ih number⟩
      rw [digit?_eq] at value
      grind

/-- An even number of digits spells a byte string. -/
theorem exists_spells : ∀ {text : List Char} {n : Nat}, numberFrom? n text = some m →
    text.length % 2 = 0 → ∃ bytes, text.map Char.toLower = encodeChars bytes
  | [], _, _, _ => ⟨[], rfl⟩
  | [_], _, _, even => by simp at even
  | hi :: lo :: rest, n, number, even => by
    rw [numberFrom?] at number
    split at number
    · cases number
    rename_i h high
    rw [numberFrom?] at number
    split at number
    · cases number
    rename_i l low
    have even : rest.length % 2 = 0 := by
      simp only [List.length_cons] at even
      omega
    obtain ⟨bytes, spelled⟩ := exists_spells number even
    exact ⟨_, map_toLower_pair_iff.mpr ⟨h, l, bytes, high, low, rfl, spelled⟩⟩

/-- Digits as they are read in pairs: a zero completes an odd number of them. -/
def paired (text : List Char) : List Char :=
  if Text.byteLength text % 2 = 1 then '0' :: text else text

theorem numberFrom?_paired : numberFrom? 0 (paired text) = numberFrom? 0 text := by
  rw [paired]
  split <;> rfl

/-- Digits that are completed are read whenever they denote a number, and as bytes that denote
it. -/
theorem decodeChars_paired_eq_ok_iff :
    (∃ bytes, decodeChars (paired text) = .ok bytes ∧ bytes.toNatBE = n) ↔
      numberFrom? 0 text = some n := by
  constructor
  · rintro ⟨bytes, read, rfl⟩
    rw [← numberFrom?_paired, numberFrom?_of_spells (decodeChars_eq_ok_iff.mp read)]
    rfl
  · intro number
    have ascii := byteLength_of_ascii (ascii_of_numberFrom? number)
    have even : (paired text).length % 2 = 0 := by
      rw [paired, ascii]
      split
      · rw [List.length_cons]
        omega
      · omega
    rw [← numberFrom?_paired] at number
    obtain ⟨bytes, spelled⟩ := exists_spells number even
    rw [numberFrom?_of_spells spelled] at number
    exact ⟨bytes, decodeChars_eq_ok_iff.mpr spelled, Option.some.inj number⟩

end Hex

/-! ### Bytes of a number -/

/-- The least big-endian bytes of a number; one zero byte for zero. -/
def leastBytes (n : Nat) : Bytes :=
  match (Radix.digits 256 n).map UInt8.ofNat with
  | [] => [0]
  | significant => significant

theorem minimalBytes_eq (bytes : Bytes) : minimalBytes bytes = leastBytes bytes.toNatBE := by
  unfold leastBytes
  exact Bytes.digits_toNatBE bytes ▸ rfl

theorem toNatBE_leastBytes (n : Nat) : (leastBytes n).toNatBE = n := by
  have value := Bytes.toNatBE_replicate_zero_append_digits 0 n
  rw [List.replicate_zero, List.nil_append] at value
  rw [leastBytes]
  split
  · rename_i empty
    rw [empty] at value
    exact value
  · exact value

theorem leastBytes_inj {n m : Nat} : leastBytes n = leastBytes m ↔ n = m := by
  constructor
  · intro same
    rw [← toNatBE_leastBytes n, same, toNatBE_leastBytes]
  · rintro rfl
    rfl

/-! ### Integers -/

/-- The integer that a text denotes. -/
def denoted? (text : String) : Option Nat :=
  let digits := dropHexMark (Text.trim text.toList)
  if digits.isEmpty then none else Hex.numberFrom? 0 digits

/-- The bytes of a text are the least ones of the integer that it denotes. -/
theorem integerBytes_eq_ok_iff {text : String} {bytes : Bytes} :
    integerBytes text = .ok bytes ↔ ∃ n, denoted? text = some n ∧ bytes = leastBytes n := by
  rw [integerBytes, denoted?]
  generalize dropHexMark (Text.trim text.toList) = digits
  dsimp only
  split
  · simp
  rw [← Hex.paired]
  simp only [← Hex.decodeChars_paired_eq_ok_iff]
  cases read : Hex.decodeChars (Hex.paired digits) with
  | error fault => simp
  | ok decoded => simp [minimalBytes_eq, eq_comm]

end Cosigner
