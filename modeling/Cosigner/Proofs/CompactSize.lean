import Cosigner.CompactSize
import Cosigner.Proofs.Bytes
/-!
Counts are read in their narrowest form only.

A number is a byte, or stands behind the marker of a form that is just wide enough for it (`Wide`).
`read_eq_ok_iff` says what is read: the reader gives `value` and `size` exactly when the bytes begin
with the narrowest form of `value`, and `size` is the length of that form. `read_eq_error_iff` says
what is refused, and with which fault of the transaction that the count stands in.
-/

namespace Cosigner.CompactSize

open Bytes (capacity ofNatLE toNatLE ofNatLE_prefix_iff)

/-! ### The four forms -/

/-- The markers of the wide forms, each with the number of bytes behind it and the least number that
needs so many. -/
inductive Wide : UInt8 → Nat → Nat → Prop where
  | two : Wide 0xfd 2 0xfd
  | four : Wide 0xfe 4 0x10000
  | eight : Wide 0xff 8 0x100000000

variable {bytes rest : Bytes} {marker : UInt8} {width least value size : Nat} {e : ChainError}

/-- A byte is a number or a marker. -/
theorem marker_cases (marker : UInt8) :
    marker.toNat < 0xfd ∨ ∃ width least, Wide marker width least := by
  have byte := marker.toNat_lt
  have ranges : marker.toNat < 0xfd ∨ marker.toNat = 0xfd ∨ marker.toNat = 0xfe ∨
      marker.toNat = 0xff := by omega
  rcases ranges with small | two | four | eight
  · exact .inl small
  · obtain rfl : marker = 0xfd := UInt8.toNat_inj.mp two
    exact .inr ⟨2, 0xfd, .two⟩
  · obtain rfl : marker = 0xfe := UInt8.toNat_inj.mp four
    exact .inr ⟨4, 0x10000, .four⟩
  · obtain rfl : marker = 0xff := UInt8.toNat_inj.mp eight
    exact .inr ⟨8, 0x100000000, .eight⟩

/-- A number is a byte, or there is a form just wide enough for it. -/
theorem value_cases (fits : value < Word.bound64) :
    value < 0xfd ∨
      ∃ marker width least, Wide marker width least ∧ least ≤ value ∧ value < capacity width := by
  have ranges : value < 0xfd ∨ (0xfd ≤ value ∧ value < 0x10000) ∨
      (0x10000 ≤ value ∧ value < 0x100000000) ∨ 0x100000000 ≤ value := by omega
  rcases ranges with byte | ⟨least, bound⟩ | ⟨least, bound⟩ | least
  · exact .inl byte
  · exact .inr ⟨_, _, _, .two, least, bound⟩
  · exact .inr ⟨_, _, _, .four, least, bound⟩
  · exact .inr ⟨_, _, _, .eight, least, fits⟩

/-- No form is so narrow that it does not hold its least number. -/
theorem Wide.least_lt_capacity (wide : Wide marker width least) : least < capacity width := by
  cases wide <;> decide

theorem Wide.width_le (wide : Wide marker width least) : width ≤ 8 := by
  cases wide <;> decide

theorem write_byte (byte : value < 0xfd) : write value = [UInt8.ofNat value] :=
  if_pos byte

/-- A number is written in the form just wide enough for it. -/
theorem Wide.write_eq (wide : Wide marker width least) (enough : least ≤ value)
    (fits : value < capacity width) : write value = marker :: ofNatLE width value := by
  cases wide with
  | two =>
    rw [Bytes.capacity_two] at fits
    rw [write, if_neg (by omega), if_pos (by omega)]
  | four =>
    rw [Bytes.capacity_four, Word.bound32] at fits
    rw [write, if_neg (by omega), if_neg (by omega), if_pos (by omega)]
  | eight =>
    rw [write, if_neg (by omega), if_neg (by omega), if_neg (by omega)]

/-- How many bytes the narrowest form of a number takes. -/
theorem length_write (value : Nat) :
    (write value).length =
      if value < 0xfd then 1 else if value ≤ 0xffff then 3 else if value ≤ 0xffffffff then 5
        else 9 := by
  unfold write
  split
  · rfl
  · split
    · simp
    · split <;> simp

/-! ### Reading -/

/-- A wide form is read when the number behind the marker is none that a narrower form holds. -/
theorem readWide_eq_ok_iff :
    readWide marker width least rest = .ok (value, size) ↔
      least ≤ value ∧ (value < capacity width ∧ ofNatLE width value <+: rest) ∧
        size = 1 + width := by
  rw [ofNatLE_prefix_iff, readWide, Bytes.holds_eq]
  by_cases long : width ≤ rest.length
  · by_cases padded : toNatLE (rest.take width) < least
    · simp only [long, decide_true, if_true, padded, reduceCtorEq, false_iff]
      rintro ⟨enough, ⟨-, rfl⟩, -⟩
      omega
    · simp only [long, decide_true, if_true, padded, if_false, Except.ok.injEq, Prod.mk.injEq,
        true_and]
      constructor
      · rintro ⟨rfl, rfl⟩
        exact ⟨Nat.le_of_not_lt padded, rfl, rfl⟩
      · rintro ⟨-, rfl, rfl⟩
        exact ⟨rfl, rfl⟩
  · simp [long]

/-- What a marker announces is read behind it. -/
theorem Wide.read_cons (wide : Wide marker width least) (rest : Bytes) :
    read (marker :: rest) = readWide marker width least rest := by
  cases wide <;> rfl

theorem ne_marker_of_lt (small : marker.toNat < 0xfd) :
    marker ≠ 0xfd ∧ marker ≠ 0xfe ∧ marker ≠ 0xff := by
  refine ⟨?_, ?_, ?_⟩
  all_goals
    rintro rfl
    exact absurd small (by decide)

/-- A byte that is no marker is the number itself. -/
theorem read_byte (small : marker.toNat < 0xfd) (rest : Bytes) :
    read (marker :: rest) = .ok (marker.toNat, 1) := by
  obtain ⟨two, four, eight⟩ := ne_marker_of_lt small
  rw [read, if_neg two, if_neg four, if_neg eight]

/-- What is read is the narrowest form of a number of 64 bits. -/
theorem write_prefix_of_read (h : read bytes = .ok (value, size)) :
    value < Word.bound64 ∧ write value <+: bytes ∧ size = (write value).length := by
  cases bytes with
  | nil => cases h
  | cons marker rest =>
    rcases marker_cases marker with small | ⟨width, least, wide⟩
    · rw [read_byte small] at h
      cases h
      rw [write_byte small, UInt8.ofNat_toNat]
      have bound : 0xfd < Word.bound64 := by decide
      exact ⟨Nat.lt_trans small bound, List.prefix_append [marker] rest, rfl⟩
    · rw [wide.read_cons] at h
      obtain ⟨enough, ⟨fits, written⟩, rfl⟩ := readWide_eq_ok_iff.mp h
      rw [wide.write_eq enough fits]
      have narrow : capacity width ≤ capacity 8 := Nat.pow_le_pow_right (by decide) wide.width_le
      refine ⟨Nat.lt_of_lt_of_le fits narrow, (List.prefix_cons_inj _).mpr written, ?_⟩
      rw [List.length_cons, Bytes.length_ofNatLE, Nat.add_comm]

/-- The narrowest form is read, whatever follows it. -/
theorem read_write (fits : value < Word.bound64) (rest : Bytes) :
    read (write value ++ rest) = .ok (value, (write value).length) := by
  rcases value_cases fits with byte | ⟨marker, width, least, wide, enough, holds⟩
  · have marker : (UInt8.ofNat value).toNat = value :=
      UInt8.toNat_ofNat_of_lt' (Nat.lt_trans byte (by decide))
    rw [write_byte byte, List.singleton_append, read_byte (by omega), marker]
    rfl
  · rw [wide.write_eq enough holds, List.cons_append, wide.read_cons, readWide_eq_ok_iff]
    refine ⟨enough, ⟨holds, List.prefix_append _ _⟩, ?_⟩
    rw [List.length_cons, Bytes.length_ofNatLE, Nat.add_comm]

/-- The reader accepts the narrowest form of a number of 64 bits and nothing else. -/
theorem read_eq_ok_iff :
    read bytes = .ok (value, size) ↔
      value < Word.bound64 ∧ write value <+: bytes ∧ size = (write value).length := by
  constructor
  · exact write_prefix_of_read
  · rintro ⟨fits, ⟨rest, rfl⟩, rfl⟩
    exact read_write fits rest

example : (read [0xfd, 0xfc, 0x00]).toOption = none := by decide

example : (read [0xfd, 0xfd, 0x00]).toOption = some (0xfd, 3) := by decide

/-! ### Refusing -/

/-- A wide form is refused when it is cut off, or when its number needs no such form. -/
theorem readWide_eq_error_iff :
    readWide marker width least rest = .error e ↔
      (rest.length < width ∧ e = .transaction .truncatedCount) ∨
        ∃ value < least, (value < capacity width ∧ ofNatLE width value <+: rest) ∧
          e = .transaction (.paddedCount marker value) := by
  simp only [ofNatLE_prefix_iff]
  rw [readWide, Bytes.holds_eq]
  by_cases long : width ≤ rest.length
  · by_cases padded : toNatLE (rest.take width) < least
    · simp only [long, decide_true, if_true, padded, Except.error.injEq]
      constructor
      · rintro rfl
        exact .inr ⟨_, padded, ⟨trivial, rfl⟩, rfl⟩
      · rintro (⟨short, -⟩ | ⟨_, -, ⟨-, rfl⟩, rfl⟩)
        · omega
        · rfl
    · simp only [long, decide_true, if_true, padded, if_false, reduceCtorEq, false_iff]
      rintro (⟨short, -⟩ | ⟨_, less, ⟨-, rfl⟩, -⟩)
      · omega
      · exact padded less
  · have short : rest.length < width := Nat.lt_of_not_le long
    simp [long, short, eq_comm]

/-- What is wrong with the front of a byte string that no count stands at. -/
inductive Unreadable : Bytes → TransactionFault → Prop where
  /-- Nothing is there. -/
  | missing : Unreadable [] .missingCount
  /-- Fewer bytes follow a marker than it announces. -/
  | truncated {marker : UInt8} {width least : Nat} {rest : Bytes}
      (wide : Wide marker width least) (short : rest.length < width) :
      Unreadable (marker :: rest) .truncatedCount
  /-- The number behind a marker has a narrower form. -/
  | padded {marker : UInt8} {width least value : Nat} {rest : Bytes}
      (wide : Wide marker width least) (less : value < least)
      (written : ofNatLE width value <+: rest) :
      Unreadable (marker :: rest) (.paddedCount marker value)

/-- What is no count is a fault of the transaction, which says what is wrong. -/
theorem read_eq_error_iff :
    read bytes = .error e ↔ ∃ fault, Unreadable bytes fault ∧ e = .transaction fault := by
  constructor
  · intro refused
    cases bytes with
    | nil =>
      cases refused
      exact ⟨_, .missing, rfl⟩
    | cons marker rest =>
      rcases marker_cases marker with small | ⟨width, least, wide⟩
      · rw [read_byte small] at refused
        cases refused
      · rw [wide.read_cons, readWide_eq_error_iff] at refused
        rcases refused with ⟨short, rfl⟩ | ⟨value, less, ⟨-, written⟩, rfl⟩
        · exact ⟨_, .truncated wide short, rfl⟩
        · exact ⟨_, .padded wide less written, rfl⟩
  · rintro ⟨fault, unreadable, rfl⟩
    cases unreadable with
    | missing => rfl
    | truncated wide short =>
      rw [wide.read_cons, readWide_eq_error_iff]
      exact .inl ⟨short, rfl⟩
    | padded wide less written =>
      rw [wide.read_cons, readWide_eq_error_iff]
      have fits := Nat.lt_trans less wide.least_lt_capacity
      exact .inr ⟨_, less, ⟨fits, written⟩, rfl⟩

theorem exists_fault_of_read (refused : read bytes = .error e) :
    ∃ fault, e = .transaction fault := by
  obtain ⟨fault, -, same⟩ := read_eq_error_iff.mp refused
  exact ⟨fault, same⟩

end Cosigner.CompactSize
