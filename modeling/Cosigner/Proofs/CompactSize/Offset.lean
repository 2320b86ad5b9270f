import Cosigner.Proofs.CompactSize
/-!
Counts at an offset in a byte string.

What is read at an offset is what stands there, whatever stands around it: the narrowest form of a
number (`StandsAt`), or something that is none and is refused with the fault that it has
(`FaultAt`). An offset behind the end of the byte string is no exception.

`readInPlace?` reads without taking the byte string apart. Its places are machine words, and it has
no result when a place that it looks at is none. In a byte string that fits into memory this never
happens, and the result is that of `readAt` (`readInPlace?_eq`).
-/

namespace Cosigner.CompactSize

open Bytes (ofNatLE toNatLE)

variable {bytes rest : Bytes} {offset value size width least : Nat} {marker : UInt8}
  {fault : TransactionFault} {e : ChainError}

/-! ### What stands at an offset -/

/-- The narrowest form of `value` takes up the `size` bytes of a byte string from an offset on. -/
structure StandsAt (bytes : Bytes) (offset value size : Nat) : Prop where
  fits : value < Word.bound64
  within : offset + size ≤ bytes.length
  spelled : (bytes.drop offset).take size = write value
  size_eq : size = (write value).length

/-- What is wrong at an offset at which no count stands. -/
inductive FaultAt (bytes : Bytes) (offset : Nat) : TransactionFault → Prop where
  /-- The byte string does not reach that far. -/
  | missing (behind : bytes.length ≤ offset) : FaultAt bytes offset .missingCount
  /-- The byte string ends within the form that a marker announces. -/
  | truncated {marker : UInt8} {width least : Nat} (wide : Wide marker width least)
      (there : bytes[offset]? = some marker) (short : bytes.length < offset + 1 + width) :
      FaultAt bytes offset .truncatedCount
  /-- The number behind a marker has a narrower form. -/
  | padded {marker : UInt8} {width least value : Nat} (wide : Wide marker width least)
      (there : bytes[offset]? = some marker) (less : value < least)
      (spelled : (bytes.drop (offset + 1)).take width = ofNatLE width value) :
      FaultAt bytes offset (.paddedCount marker value)

theorem length_write_pos (value : Nat) : 0 < (write value).length := by
  rw [length_write]
  repeat' split
  all_goals decide

/-- A form stands at an offset when the bytes from there on begin with it. -/
theorem standsAt_iff :
    StandsAt bytes offset value size ↔
      value < Word.bound64 ∧ write value <+: bytes.drop offset ∧ size = (write value).length := by
  constructor
  · rintro ⟨fits, -, spelled, size_eq⟩
    refine ⟨fits, ?_, size_eq⟩
    rw [← spelled]
    exact List.take_prefix size _
  · rintro ⟨fits, front, rfl⟩
    have long := front.length_le
    have pos := length_write_pos value
    rw [List.length_drop] at long
    exact ⟨fits, by omega, (List.prefix_iff_eq_take.mp front).symm, rfl⟩

/-- The bytes from an offset on begin with the one that stands there. -/
theorem drop_eq_cons_iff :
    bytes.drop offset = marker :: rest ↔
      bytes[offset]? = some marker ∧ rest = bytes.drop (offset + 1) := by
  constructor
  · intro front
    rw [← List.head?_drop, ← List.tail_drop, front]
    exact ⟨rfl, rfl⟩
  · rintro ⟨there, rfl⟩
    obtain ⟨inside, rfl⟩ := List.getElem?_eq_some_iff.mp there
    exact List.drop_eq_getElem_cons inside

/-- Something is wrong at an offset when it is wrong with the bytes from there on. -/
theorem faultAt_iff : FaultAt bytes offset fault ↔ Unreadable (bytes.drop offset) fault := by
  constructor
  · intro faulty
    cases faulty with
    | missing behind =>
      rw [List.drop_eq_nil_iff.mpr behind]
      exact .missing
    | truncated wide there short =>
      have inside := (List.getElem?_eq_some_iff.mp there).1
      rw [drop_eq_cons_iff.mpr ⟨there, rfl⟩]
      refine .truncated wide ?_
      rw [List.length_drop]
      omega
    | padded wide there less spelled =>
      rw [drop_eq_cons_iff.mpr ⟨there, rfl⟩]
      refine .padded wide less ?_
      rw [← spelled]
      exact List.take_prefix _ _
  · intro unreadable
    generalize front : bytes.drop offset = behind at unreadable
    cases unreadable with
    | missing => exact .missing (List.drop_eq_nil_iff.mp front)
    | truncated wide short =>
      obtain ⟨there, rfl⟩ := drop_eq_cons_iff.mp front
      have inside := (List.getElem?_eq_some_iff.mp there).1
      rw [List.length_drop] at short
      exact .truncated wide there (by omega)
    | padded wide less written =>
      obtain ⟨there, rfl⟩ := drop_eq_cons_iff.mp front
      have spelled := List.prefix_iff_eq_take.mp written
      rw [Bytes.length_ofNatLE] at spelled
      exact .padded wide there less spelled.symm

/-! ### What is read at an offset -/

theorem readAt_eq_ok_iff :
    readAt bytes offset = .ok (value, size) ↔ StandsAt bytes offset value size := by
  rw [readAt, read_eq_ok_iff, standsAt_iff]

theorem readAt_eq_error_iff :
    readAt bytes offset = .error e ↔
      ∃ fault, FaultAt bytes offset fault ∧ e = .transaction fault := by
  simp only [readAt, read_eq_error_iff, faultAt_iff]

/-- Where no count stands there is a fault, and only there. -/
theorem exists_faultAt_iff :
    (∃ fault, FaultAt bytes offset fault) ↔ ¬ ∃ value size, StandsAt bytes offset value size := by
  constructor
  · rintro ⟨fault, faulty⟩ ⟨value, size, stands⟩
    have refused := readAt_eq_error_iff.mpr ⟨fault, faulty, rfl⟩
    rw [readAt_eq_ok_iff.mpr stands] at refused
    cases refused
  · intro nothing
    cases read : readAt bytes offset with
    | ok form => exact absurd ⟨form.1, form.2, readAt_eq_ok_iff.mp read⟩ nothing
    | error e =>
      obtain ⟨fault, faulty, -⟩ := readAt_eq_error_iff.mp read
      exact ⟨fault, faulty⟩

/-! ### Reading in place -/

/-- The place so many bytes behind another one, if it is a word. -/
def placeBehind? (place : UInt64) (n : Nat) : Option UInt64 :=
  if place.toNat + n < Word.bound64 then some (place + UInt64.ofNat n) else none

/-- The bytes between two places, if the byte string has them all. -/
def between? (bytes : Bytes) (start stop : UInt64) : Option Bytes :=
  if start ≤ stop ∧ stop.toNat ≤ bytes.length then
    some ((bytes.drop start.toNat).take (stop.toNat - start.toNat))
  else none

/-- The number behind a marker at a place. There is no result when a place behind it is no word. -/
def readWideInPlace? (bytes : Bytes) (place : UInt64) (marker : UInt8) (width least : Nat) :
    Option (Except ChainError (Nat × Nat)) := do
  let start ← placeBehind? place 1
  let stop ← placeBehind? start width
  match between? bytes start stop with
  | none => return .error (.transaction .truncatedCount)
  | some form =>
    let value := toNatLE form
    if value < least then return .error (.transaction (.paddedCount marker value))
    else return .ok (value, 1 + width)

/-- The number at a place. There is no result when a place that has to be looked at is no word. -/
def readInPlace? (bytes : Bytes) (place : UInt64) : Option (Except ChainError (Nat × Nat)) :=
  match bytes[place.toNat]? with
  | none => some (.error (.transaction .missingCount))
  | some marker =>
    if marker = 0xfd then readWideInPlace? bytes place marker 2 0xfd
    else if marker = 0xfe then readWideInPlace? bytes place marker 4 0x10000
    else if marker = 0xff then readWideInPlace? bytes place marker 8 0x100000000
    else some (.ok (marker.toNat, 1))

variable {place start stop : UInt64}

theorem exists_placeBehind? {n : Nat} (fits : place.toNat + n < Word.bound64) :
    ∃ behind, placeBehind? place n = some behind ∧ behind.toNat = place.toNat + n := by
  refine ⟨_, if_pos fits, ?_⟩
  rw [Word.bound64] at fits
  rw [UInt64.toNat_add, UInt64.toNat_ofNat']
  omega

theorem between?_eq (behind : stop.toNat = start.toNat + width) :
    between? bytes start stop =
      if start.toNat + width ≤ bytes.length then some ((bytes.drop start.toNat).take width)
      else none := by
  have ordered : start ≤ stop := by
    rw [UInt64.le_iff_toNat_le]
    omega
  simp only [between?, ordered, true_and, behind, Nat.add_sub_cancel_left]

/-- Behind a marker that is in memory, eight more bytes have words for their places. -/
theorem readWideInPlace?_eq (addressable : bytes.length < Word.signedBound64)
    (inside : place.toNat < bytes.length) (narrow : width ≤ 8) :
    readWideInPlace? bytes place marker width least =
      some (readWide marker width least (bytes.drop (place.toNat + 1))) := by
  -- The marker lies in the lower half of the words, and its form ends at most eight bytes further.
  have room : place.toNat + 1 + width < Word.bound64 := by
    rw [Word.signedBound64] at addressable
    rw [Word.bound64]
    omega
  have first : place.toNat + 1 < Word.bound64 := Nat.lt_of_le_of_lt (Nat.le_add_right _ _) room
  obtain ⟨start, atStart, start_eq⟩ := exists_placeBehind? first
  rw [← start_eq] at room
  obtain ⟨stop, atStop, stop_eq⟩ := exists_placeBehind? room
  have enough : width ≤ (bytes.drop (place.toNat + 1)).length ↔
      place.toNat + 1 + width ≤ bytes.length := by
    rw [List.length_drop]
    omega
  simp only [readWideInPlace?, atStart, atStop, Option.bind_eq_bind, Option.bind_some,
    between?_eq stop_eq, start_eq, readWide, Bytes.holds_eq, enough]
  by_cases long : place.toNat + 1 + width ≤ bytes.length
  · simp only [long, if_true, decide_true]
    split <;> rfl
  · simp only [long, if_false, decide_false]
    rfl

/-- Reading in place comes to what is read at the offset, and looks at no place that is no word. -/
theorem readInPlace?_eq (addressable : bytes.length < Word.signedBound64) (place : UInt64) :
    readInPlace? bytes place = some (readAt bytes place.toNat) := by
  rw [readInPlace?, readAt]
  cases there : bytes[place.toNat]? with
  | none =>
    rw [List.drop_eq_nil_iff.mpr (List.getElem?_eq_none_iff.mp there)]
    rfl
  | some marker =>
    have inside := (List.getElem?_eq_some_iff.mp there).1
    rw [drop_eq_cons_iff.mpr ⟨there, rfl⟩]
    dsimp only
    rcases marker_cases marker with small | ⟨width, least, wide⟩
    · obtain ⟨two, four, eight⟩ := ne_marker_of_lt small
      rw [read_byte small, if_neg two, if_neg four, if_neg eight]
    · rw [wide.read_cons, ← readWideInPlace?_eq addressable inside wide.width_le]
      cases wide <;> rfl

/-! ### The reader as a whole -/

/-- A count is read at an offset exactly when the narrowest form of a number stands there. Wherever
no number stands, an offset behind the end of the byte string included, the answer is a fault of the
transaction, and it is the one that is found at the offset. In a byte string that fits into memory,
reading in place comes to the same for every word that the offset can be. -/
theorem narrowest_form_alone_is_read (bytes : Bytes) (offset : Nat) :
    (∀ value size, readAt bytes offset = .ok (value, size) ↔ StandsAt bytes offset value size) ∧
    ((∃ fault, readAt bytes offset = .error (.transaction fault)) ↔
      ¬ ∃ value size, StandsAt bytes offset value size) ∧
    (∀ e, readAt bytes offset = .error e ↔
      ∃ fault, FaultAt bytes offset fault ∧ e = .transaction fault) ∧
    (bytes.length < Word.signedBound64 → ∀ place : UInt64, place.toNat = offset →
      readInPlace? bytes place = some (readAt bytes offset)) := by
  refine ⟨fun value size => readAt_eq_ok_iff, ?_, fun e => readAt_eq_error_iff, ?_⟩
  · rw [← exists_faultAt_iff]
    simp [readAt_eq_error_iff]
  · rintro addressable place rfl
    exact readInPlace?_eq addressable place

/-- Among other bytes, a form of three bytes is read, one whose number is a byte is refused, so is
one that is cut off, and at the last word there is nothing. -/
theorem counts_are_read_among_other_bytes :
    let bytes : Bytes := [0xaa, 0xfd, 0x00, 0x01, 0xfd, 0xfc, 0x00, 0xfe, 0x01]
    bytes.length < Word.signedBound64 ∧
      readAt bytes 1 = .ok (0x100, 3) ∧
      readAt bytes 4 = .error (.transaction (.paddedCount 0xfd 0xfc)) ∧
      readAt bytes 7 = .error (.transaction .truncatedCount) ∧
      readInPlace? bytes 0xffffffffffffffff = some (.error (.transaction .missingCount)) := by
  intro bytes
  have addressable : bytes.length < Word.signedBound64 := by decide
  obtain ⟨read, -⟩ := narrowest_form_alone_is_read bytes 1
  obtain ⟨-, -, padded, -⟩ := narrowest_form_alone_is_read bytes 4
  obtain ⟨-, -, truncated, -⟩ := narrowest_form_alone_is_read bytes 7
  obtain ⟨-, -, missing, inPlace⟩ := narrowest_form_alone_is_read bytes 0xffffffffffffffff
  refine ⟨addressable, (read _ _).mpr ⟨by decide, by decide, by decide, by decide⟩,
    (padded _).mpr ⟨_, .padded .two rfl (by decide) (by decide), rfl⟩,
    (truncated _).mpr ⟨_, .truncated .four rfl (by decide), rfl⟩, ?_⟩
  rw [inPlace addressable _ rfl, (missing _).mpr ⟨_, .missing (by decide), rfl⟩]

end Cosigner.CompactSize
