/-!
Byte strings, their readings as natural numbers, and the ranges of machine words.

A byte string is a list of bytes. `ofNatLE` and `ofNatBE` write a number in a fixed number of
bytes, least significant byte first or last, and keep it modulo the width; `toNatLE` and
`toNatBE` read a byte string of any length. `FixedBytes n` holds byte strings of exactly `n`
bytes: the digests, hashes and scalars of the library.

* `toNatLE_ofNatLE`, `ofNatLE_toNatLE`: writing and reading are inverse at every width.
* `holds_eq`: the linear test `holds n bytes` is `n ≤ bytes.length`.
-/

namespace Cosigner.Word

/-- Words of 32 bits are below this. -/
def bound32 : Nat := 0x100000000

/-- Words of 64 bits are below this. -/
def bound64 : Nat := 0x10000000000000000

/-- Signed words of 64 bits are below this, and at least its negative. -/
def signedBound64 : Nat := 0x8000000000000000

end Cosigner.Word

namespace Cosigner

abbrev Bytes := List UInt8

namespace Bytes

/-- The lowest `8 * width` bits of a number, least significant byte first. -/
def ofNatLE : Nat → Nat → Bytes
  | 0, _ => []
  | width + 1, n => UInt8.ofNat n :: ofNatLE width (n / 256)

/-- The number a byte string denotes when its first byte is the least significant. -/
def toNatLE : Bytes → Nat
  | [] => 0
  | b :: rest => b.toNat + 256 * toNatLE rest

/-- The lowest `8 * width` bits of a number, most significant byte first. -/
def ofNatBE (width n : Nat) : Bytes := (ofNatLE width n).reverse

/-- The number a byte string denotes when its first byte is the most significant. -/
def toNatBE (bytes : Bytes) : Nat := bytes.foldl (fun acc b => acc * 256 + b.toNat) 0

/-- How many numbers a byte string of this width can denote. -/
def capacity (width : Nat) : Nat := Nat.pow 256 width

/-- Whether at least `n` bytes are there, without walking further than `n`. -/
def holds (n : Nat) (bytes : Bytes) : Bool :=
  match n with
  | 0 => true
  | k + 1 => !(bytes.drop k).isEmpty

/-- Byte-wise exclusive or, as long as the shorter operand. -/
def xor (a b : Bytes) : Bytes := List.zipWith (· ^^^ ·) a b

@[simp] theorem length_ofNatLE (width n : Nat) : (ofNatLE width n).length = width := by
  induction width generalizing n with
  | zero => rfl
  | succ width ih => simp [ofNatLE, ih]

@[simp] theorem length_ofNatBE (width n : Nat) : (ofNatBE width n).length = width := by
  simp [ofNatBE]

theorem capacity_succ (width : Nat) : capacity (width + 1) = 256 * capacity width :=
  Nat.mul_comm _ _

theorem toNatLE_lt (bytes : Bytes) : toNatLE bytes < capacity bytes.length := by
  induction bytes with
  | nil => decide
  | cons b rest ih =>
    have hb := b.toNat_lt
    simp only [toNatLE, List.length_cons, capacity_succ]
    omega

theorem toNatLE_ofNatLE (width n : Nat) : toNatLE (ofNatLE width n) = n % capacity width := by
  induction width generalizing n with
  | zero => simp [ofNatLE, toNatLE, capacity, Nat.mod_one]
  | succ width ih =>
    rw [ofNatLE, toNatLE, ih, capacity_succ, Nat.mod_mul]
    simp

theorem ofNatLE_toNatLE (bytes : Bytes) : ofNatLE bytes.length (toNatLE bytes) = bytes := by
  induction bytes with
  | nil => rfl
  | cons b rest ih =>
    have hb := b.toNat_lt
    have low : UInt8.ofNat (b.toNat + 256 * toNatLE rest) = b := by
      apply UInt8.toNat_inj.1
      simp only [UInt8.toNat_ofNat']
      omega
    have high : (b.toNat + 256 * toNatLE rest) / 256 = toNatLE rest := by omega
    simp only [List.length_cons, toNatLE, ofNatLE, low, high, ih]

theorem holds_eq (n : Nat) (bytes : Bytes) : holds n bytes = decide (n ≤ bytes.length) := by
  cases n with
  | zero => simp [holds]
  | succ k =>
    have drop_nil : bytes.drop k = [] ↔ bytes.length ≤ k := List.drop_eq_nil_iff
    rw [Bool.eq_iff_iff]
    simp only [holds, Bool.not_eq_true', decide_eq_true_eq, List.isEmpty_eq_false_iff, ne_eq,
      drop_nil]
    omega

end Bytes

/-- A byte string of exactly `width` bytes. -/
structure FixedBytes (width : Nat) where
  bytes : Bytes
  length_eq : bytes.length = width
deriving DecidableEq

namespace FixedBytes

variable {width : Nat}

def ofBytes? (width : Nat) (bytes : Bytes) : Option (FixedBytes width) :=
  if h : bytes.length = width then some ⟨bytes, h⟩ else none

/-- The `width` lowest bytes of a number, most significant first. -/
def ofNatBE (width n : Nat) : FixedBytes width := ⟨Bytes.ofNatBE width n, by simp⟩

def toNatBE (block : FixedBytes width) : Nat := block.bytes.toNatBE

def reverse (block : FixedBytes width) : FixedBytes width :=
  ⟨block.bytes.reverse, by simp [block.length_eq]⟩

@[simp] theorem reverse_reverse (block : FixedBytes width) : block.reverse.reverse = block := by
  simp [reverse]

theorem ofBytes?_eq_some {bytes : Bytes} {block : FixedBytes width} :
    ofBytes? width bytes = some block ↔ block.bytes = bytes := by
  unfold ofBytes?
  split
  · constructor
    · rintro ⟨rfl⟩; rfl
    · rintro rfl; rfl
  · rename_i h
    simp only [reduceCtorEq, false_iff]
    rintro rfl
    exact h block.length_eq

end FixedBytes

/-- A twenty-byte hash, the payload of an address. -/
abbrev Hash160 := FixedBytes 20

/-- A thirty-two byte digest. -/
abbrev Hash256 := FixedBytes 32

end Cosigner
