import Cosigner.Proofs.Base58
import Cosigner.Proofs.Bytes.Order
import Cosigner.Signature.Der
import Mathlib.Data.List.GetD
/-!
Signatures are written in strict form.

A node that relays a spend first looks at the bytes of each signature, with the byte of the hash
type behind it: at fixed places it wants lengths that add up and two numbers that are not negative
and have no byte too many (`Strict`). What is written for two numbers of at most 32 bytes meets all
of this, whatever zeros stood in front of them, and the numbers are found there (`Carries`,
`carries_encode`).
-/

namespace Cosigner.Der

/-! ### Strict form -/

/-- The byte at a place, and zero behind the end. -/
def byteAt (bytes : Bytes) (place : Nat) : UInt8 := bytes.getD place 0

/-- The length that stands behind a tag. -/
def lengthAt (bytes : Bytes) (tag : Nat) : Nat := (byteAt bytes (tag + 1)).toNat

/-- The bytes of the integer behind a tag. -/
def contentAt (bytes : Bytes) (tag : Nat) : Bytes :=
  (bytes.drop (tag + 2)).take (lengthAt bytes tag)

/-- The number that the bytes of an integer denote; it is negative when the first bit is set. -/
def signed (content : Bytes) : Int :=
  if byteAt content 0 < 0x80 then content.toNatBE
  else content.toNatBE - Bytes.capacity content.length

/-- An integer behind a tag that has bytes, is not negative, and has no zero byte in front but one
that it needs for that. -/
structure StrictInteger (bytes : Bytes) (tag : Nat) : Prop where
  tagged : byteAt bytes tag = 0x02
  nonempty : lengthAt bytes tag ≠ 0
  nonneg : byteAt bytes (tag + 2) < 0x80
  least : 1 < lengthAt bytes tag → byteAt bytes (tag + 2) = 0 → 0x80 ≤ byteAt bytes (tag + 3)

/-- Where the tag of the second integer stands. -/
def secondTag (bytes : Bytes) : Nat := 4 + lengthAt bytes 2

/-- The form in which nodes accept a signature with the byte of its hash type behind it. -/
structure Strict (bytes : Bytes) : Prop where
  long : 9 ≤ bytes.length
  short : bytes.length ≤ 73
  compound : byteAt bytes 0 = 0x30
  covers : lengthAt bytes 0 = bytes.length - 3
  inside : 5 + lengthAt bytes 2 < bytes.length
  adds : lengthAt bytes 2 + lengthAt bytes (secondTag bytes) + 7 = bytes.length
  first : StrictInteger bytes 2
  second : StrictInteger bytes (secondTag bytes)

/-- The two numbers of a signature in strict form. -/
def numbers (bytes : Bytes) : Int × Int :=
  (signed (contentAt bytes 2), signed (contentAt bytes (secondTag bytes)))

instance (bytes : Bytes) (tag : Nat) : Decidable (StrictInteger bytes tag) :=
  decidable_of_iff
    (byteAt bytes tag = 0x02 ∧ lengthAt bytes tag ≠ 0 ∧ byteAt bytes (tag + 2) < 0x80 ∧
      (1 < lengthAt bytes tag → byteAt bytes (tag + 2) = 0 → 0x80 ≤ byteAt bytes (tag + 3)))
    ⟨fun ⟨tagged, nonempty, nonneg, least⟩ => ⟨tagged, nonempty, nonneg, least⟩,
      fun ⟨tagged, nonempty, nonneg, least⟩ => ⟨tagged, nonempty, nonneg, least⟩⟩

instance (bytes : Bytes) : Decidable (Strict bytes) :=
  decidable_of_iff
    (9 ≤ bytes.length ∧ bytes.length ≤ 73 ∧ byteAt bytes 0 = 0x30 ∧
      lengthAt bytes 0 = bytes.length - 3 ∧ 5 + lengthAt bytes 2 < bytes.length ∧
      lengthAt bytes 2 + lengthAt bytes (secondTag bytes) + 7 = bytes.length ∧
      StrictInteger bytes 2 ∧ StrictInteger bytes (secondTag bytes))
    ⟨fun ⟨long, short, compound, covers, inside, adds, first, second⟩ =>
        ⟨long, short, compound, covers, inside, adds, first, second⟩,
      fun ⟨long, short, compound, covers, inside, adds, first, second⟩ =>
        ⟨long, short, compound, covers, inside, adds, first, second⟩⟩

/-! ### The content of an integer -/

/-- The bytes of an integer that is not negative, as few as possible. -/
structure LeastContent (content : Bytes) : Prop where
  nonempty : content ≠ []
  nonneg : byteAt content 0 < 0x80
  least : 1 < content.length → byteAt content 0 = 0 → 0x80 ≤ byteAt content 1

theorem leastContent_integer (value : Bytes) : LeastContent (integer value) := by
  unfold integer
  split
  · exact ⟨by decide, by decide, by decide⟩
  · rename_i b rest significant
    have front := head?_dropWhile_zero_ne value
    rw [significant] at front
    have nonzero : b ≠ 0 := fun zero => front (zero ▸ rfl)
    split
    · rename_i high
      have zero : (0 : UInt8) < 0x80 := by decide
      exact ⟨List.cons_ne_nil _ _, zero, fun _ _ => high⟩
    · rename_i low
      exact ⟨List.cons_ne_nil _ _, UInt8.not_le.mp low, fun _ zero => absurd zero nonzero⟩

/-- Zeros in front of a number do not count. -/
theorem toNatBE_dropWhile_zero (value : Bytes) :
    Bytes.toNatBE (value.dropWhile (· == 0)) = value.toNatBE := by
  rw [← Bytes.digits_toNatBE]
  exact Bytes.toNatBE_replicate_zero_append_digits 0 _

theorem toNatBE_zero_cons (bytes : Bytes) : Bytes.toNatBE (0 :: bytes) = bytes.toNatBE := by
  rw [Bytes.toNatBE_cons]
  simp

theorem toNatBE_integer (value : Bytes) : (integer value).toNatBE = value.toNatBE := by
  rw [← toNatBE_dropWhile_zero value]
  unfold integer
  split
  · rename_i none
    rw [none]
    rfl
  · rename_i b rest significant
    rw [significant]
    split
    · exact toNatBE_zero_cons _
    · rfl

/-- The content of an integer tells nothing but its value. -/
theorem integer_congr {value value' : Bytes} (same : value.toNatBE = value'.toNatBE) :
    integer value = integer value' := by
  rw [integer, integer, ← Bytes.digits_toNatBE, ← Bytes.digits_toNatBE, same]

theorem integer_integer (value : Bytes) : integer (integer value) = integer value :=
  integer_congr (toNatBE_integer value)

theorem signed_integer (value : Bytes) : signed (integer value) = value.toNatBE := by
  rw [signed, if_pos (leastContent_integer value).nonneg, toNatBE_integer]

theorem capacity_le_of_lt {a b : Nat} (lt : Bytes.capacity a < Bytes.capacity b) : a < b :=
  (Nat.pow_lt_pow_iff_right (by decide)).mp lt

/-- A number whose double fits takes no more bytes than that, the zero byte of its sign included. -/
theorem length_integer_le {value : Bytes} {width : Nat} (pos : 0 < width)
    (fits : 2 * value.toNatBE < Bytes.capacity width) : (integer value).length ≤ width := by
  rw [← toNatBE_dropWhile_zero] at fits
  unfold integer
  split
  · exact pos
  · rename_i b rest significant
    have front := head?_dropWhile_zero_ne value
    rw [significant] at front fits
    have nonzero : b ≠ 0 := fun zero => front (zero ▸ rfl)
    rw [Bytes.toNatBE_cons] at fits
    split
    · rename_i high
      have high : 128 ≤ b.toNat := UInt8.le_iff_toNat_le.mp high
      have more := Nat.mul_le_mul_right (Bytes.capacity rest.length) high
      have larger : Bytes.capacity (rest.length + 1) < Bytes.capacity width := by
        rw [Bytes.capacity_succ]
        omega
      exact capacity_le_of_lt larger
    · have some : 1 ≤ b.toNat := by
        rw [Nat.one_le_iff_ne_zero]
        exact fun zero => nonzero (UInt8.toNat_inj.mp zero)
      have more := Nat.mul_le_mul_right (Bytes.capacity rest.length) some
      have larger : Bytes.capacity rest.length < Bytes.capacity width := by omega
      exact capacity_le_of_lt larger

/-! ### An integer at its place -/

section Field

variable {before after content : Bytes}

theorem byteAt_append (before rest : Bytes) (place : Nat) :
    byteAt (before ++ rest) (before.length + place) = byteAt rest place := by
  rw [byteAt, byteAt, List.getD_append_right _ _ _ _ (Nat.le_add_right _ _),
    Nat.add_sub_cancel_left]

theorem byteAt_append_of_lt {place : Nat} (within : place < content.length) :
    byteAt (content ++ after) place = byteAt content place :=
  List.getD_append _ _ _ _ within

/-- An integer with its tag and length, whatever is before and after it. -/
def placed (before content after : Bytes) : Bytes :=
  before ++ (0x02 :: lengthByte content :: (content ++ after))

/-- A strict integer stands behind a tag, with this content. -/
structure HoldsAt (bytes : Bytes) (tag : Nat) (content : Bytes) : Prop where
  length : lengthAt bytes tag = content.length
  content_eq : contentAt bytes tag = content
  strict : StrictInteger bytes tag

theorem lengthAt_placed (short : content.length < 256) :
    lengthAt (placed before content after) before.length = content.length := by
  rw [lengthAt, placed, byteAt_append]
  exact UInt8.toNat_ofNat_of_lt' short

theorem contentAt_placed (short : content.length < 256) :
    contentAt (placed before content after) before.length = content := by
  rw [contentAt, lengthAt_placed short, placed, ← List.drop_drop, List.drop_left]
  exact List.take_left

theorem strictInteger_placed (short : content.length < 256) (least : LeastContent content) :
    StrictInteger (placed before content after) before.length := by
  have some := List.length_pos_iff.mpr least.nonempty
  have shifted (place : Nat) : byteAt (placed before content after) (before.length + (place + 2)) =
      byteAt (content ++ after) place := by
    rw [placed, byteAt_append]
    rfl
  have first := shifted 0
  have second := shifted 1
  rw [byteAt_append_of_lt some] at first
  refine ⟨?_, ?_, ?_, ?_⟩
  · exact byteAt_append before _ 0
  · rw [lengthAt_placed short]
    exact Nat.ne_of_gt some
  · exact first ▸ least.nonneg
  · rw [lengthAt_placed short]
    intro more zero
    rw [byteAt_append_of_lt more] at second
    exact second ▸ least.least more (first ▸ zero)

theorem holdsAt_placed (short : content.length < 256) (least : LeastContent content) :
    HoldsAt (placed before content after) before.length content :=
  ⟨lengthAt_placed short, contentAt_placed short, strictInteger_placed short least⟩

end Field

/-! ### A signature -/

section Encode

variable {r s : Bytes}

theorem length_field (value : Bytes) : (field value).length = (integer value).length + 2 := rfl

theorem length_fields (r s : Bytes) :
    (field r ++ field s).length = (integer r).length + (integer s).length + 4 := by
  rw [List.length_append, length_field, length_field]
  omega

theorem length_encode (r s : Bytes) :
    (encode r s).length = (integer r).length + (integer s).length + 6 := by
  rw [encode, List.length_cons, List.length_cons, length_fields]

/-- A signature depends on the values of its two numbers only. -/
theorem encode_congr {r' s' : Bytes} (first : r.toNatBE = r'.toNatBE)
    (second : s.toNatBE = s'.toNatBE) : encode r s = encode r' s' := by
  rw [encode, encode, field, field, field, field, integer_congr first, integer_congr second]

theorem encode_append_eq_first (r s : Bytes) (hashType : UInt8) :
    encode r s ++ [hashType] =
      placed [0x30, lengthByte (field r ++ field s)] (integer r) (field s ++ [hashType]) := by
  simp [encode, placed, field]

theorem encode_append_eq_second (r s : Bytes) (hashType : UInt8) :
    encode r s ++ [hashType] =
      placed (0x30 :: lengthByte (field r ++ field s) :: field r) (integer s) [hashType] := by
  simp [encode, placed, field]

theorem holdsAt_first (short : (integer r).length < 256) (s : Bytes) (hashType : UInt8) :
    HoldsAt (encode r s ++ [hashType]) 2 (integer r) := by
  rw [encode_append_eq_first]
  exact holdsAt_placed short (leastContent_integer r)

theorem holdsAt_second (left : (integer r).length < 256) (right : (integer s).length < 256)
    (hashType : UInt8) :
    HoldsAt (encode r s ++ [hashType]) (secondTag (encode r s ++ [hashType])) (integer s) := by
  have tag : secondTag (encode r s ++ [hashType]) =
      (0x30 :: lengthByte (field r ++ field s) :: field r).length := by
    rw [secondTag, (holdsAt_first left s hashType).length, List.length_cons, List.length_cons,
      length_field]
    omega
  rw [tag, encode_append_eq_second]
  exact holdsAt_placed right (leastContent_integer s)

/-- What is written for two numbers, of at most 33 bytes each, is in strict form, and these are the
numbers that are found there. -/
theorem strict_encode (left : (integer r).length ≤ 33) (right : (integer s).length ≤ 33)
    (hashType : UInt8) :
    Strict (encode r s ++ [hashType]) ∧
      numbers (encode r s ++ [hashType]) = ((r.toNatBE : Int), (s.toNatBE : Int)) := by
  have short : (integer r).length < 256 := by omega
  have short' : (integer s).length < 256 := by omega
  obtain ⟨length, content, first⟩ := holdsAt_first short s hashType
  obtain ⟨length', content', second⟩ := holdsAt_second short short' hashType
  have some := List.length_pos_iff.mpr (leastContent_integer r).nonempty
  have some' := List.length_pos_iff.mpr (leastContent_integer s).nonempty
  have whole : (encode r s ++ [hashType]).length =
      (integer r).length + (integer s).length + 7 := by
    rw [List.length_append, length_encode]
    rfl
  have fields := length_fields r s
  have fits : (field r ++ field s).length < 256 := by omega
  have body : lengthAt (encode r s ++ [hashType]) 0 = (field r ++ field s).length :=
    UInt8.toNat_ofNat_of_lt' fits
  constructor
  · exact ⟨by omega, by omega, rfl, by omega, by omega, by omega, first, second⟩
  · rw [numbers, content, content', signed_integer, signed_integer]

/-- An integer is read from its field, whatever follows. -/
theorem integer?_field_append {value : Bytes} (short : (integer value).length < 256)
    (rest : Bytes) : integer? (field value ++ rest) = some (value.toNatBE, rest) := by
  have length : (lengthByte (integer value)).toNat = (integer value).length :=
    UInt8.toNat_ofNat_of_lt' short
  rw [field, List.cons_append, List.cons_append, integer?]
  simp only [length, List.take_left, List.drop_left, integer_integer, and_self, if_true,
    toNatBE_integer]

/-- A signature is read when both of its numbers can be those of a signature. -/
theorem decode?_encode (left : (integer r).length ≤ 33) (right : (integer s).length ≤ 33) :
    decode? (encode r s) =
      if 0 < r.toNatBE ∧ r.toNatBE < Secp256k1.order ∧
        0 < s.toNatBE ∧ s.toNatBE < Secp256k1.order then some ⟨r.toNatBE, s.toNatBE⟩ else none := by
  have small : (field r ++ field s).length < 128 := by
    rw [length_fields]
    omega
  have length : (lengthByte (field r ++ field s)).toNat = (field r ++ field s).length :=
    UInt8.toNat_ofNat_of_lt' (Nat.lt_trans small (by decide))
  have low : lengthByte (field r ++ field s) < 0x80 := by
    rw [UInt8.lt_iff_toNat_lt, length]
    exact small
  have first := @integer?_field_append r (by omega) (field s)
  have second := @integer?_field_append s (by omega) []
  rw [List.append_nil] at second
  rw [encode, decode?]
  simp [length, low, first, second]

/-- A signature with these two numbers: in strict form with any hash type behind it, with the
numbers at their places, read as them when a signature can have them, and the only one that is
written for them. -/
structure Carries (signature : Bytes) (r s : Nat) : Prop where
  strict : ∀ hashType, Strict (signature ++ [hashType])
  numbers_eq : ∀ hashType, numbers (signature ++ [hashType]) = ((r : Int), (s : Int))
  decode?_eq : decode? signature =
    if 0 < r ∧ r < Secp256k1.order ∧ 0 < s ∧ s < Secp256k1.order then some ⟨r, s⟩ else none
  only : ∀ r' s' : Bytes, r'.toNatBE = r → s'.toNatBE = s → encode r' s' = signature

/-- A number below `2 ^ 256` takes 33 bytes at most. -/
theorem length_integer_le_33 {value : Bytes} (fits : value.toNatBE < Bytes.capacity 32) :
    (integer value).length ≤ 33 := by
  refine length_integer_le (by decide) ?_
  rw [Bytes.capacity_succ]
  omega

/-- What is written for two numbers below `2 ^ 256` carries them. -/
theorem carries_encode (left : r.toNatBE < Bytes.capacity 32)
    (right : s.toNatBE < Bytes.capacity 32) : Carries (encode r s) r.toNatBE s.toNatBE := by
  have left := length_integer_le_33 left
  have right := length_integer_le_33 right
  exact ⟨fun hashType => (strict_encode left right hashType).1,
    fun hashType => (strict_encode left right hashType).2, decode?_encode left right,
    fun r' s' => encode_congr⟩

-- A zero byte in front of a number is one too many, unless the sign needs it.
example : ¬ Strict [0x30, 7, 2, 2, 0, 0x7f, 2, 1, 1, 1] ∧
    Strict [0x30, 7, 2, 2, 0, 0x80, 2, 1, 1, 1] := by decide

end Encode

end Cosigner.Der
