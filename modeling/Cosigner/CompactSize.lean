import Cosigner.Error
/-!
Counts and lengths in a transaction.

A number below 253 is one byte. A larger one is a marker byte and two, four or eight bytes, least
significant first; only the narrowest form that holds the number is read, so a number has exactly
one spelling.
-/

namespace Cosigner.CompactSize

/-- The narrowest form of a number below `2 ^ 64`. -/
def write (value : Nat) : Bytes :=
  if value < 0xfd then [UInt8.ofNat value]
  else if value ≤ 0xffff then 0xfd :: Bytes.ofNatLE 2 value
  else if value ≤ 0xffffffff then 0xfe :: Bytes.ofNatLE 4 value
  else 0xff :: Bytes.ofNatLE 8 value

/-- The number after a marker, which stands for `width` bytes and no number below `least`, with the
size of the whole form. -/
def readWide (marker : UInt8) (width least : Nat) (rest : Bytes) :
    Except ChainError (Nat × Nat) :=
  if Bytes.holds width rest then
    let value := Bytes.toNatLE (rest.take width)
    if value < least then .error (.transaction (.paddedCount marker value))
    else .ok (value, 1 + width)
  else .error (.transaction .truncatedCount)

/-- The number in front of a byte string, and how many bytes it takes. -/
def read (bytes : Bytes) : Except ChainError (Nat × Nat) :=
  match bytes with
  | [] => .error (.transaction .missingCount)
  | marker :: rest =>
    if marker = 0xfd then readWide marker 2 0xfd rest
    else if marker = 0xfe then readWide marker 4 0x10000 rest
    else if marker = 0xff then readWide marker 8 0x100000000 rest
    else .ok (marker.toNat, 1)

/-- The number at an offset, and how many bytes it takes. -/
def readAt (bytes : Bytes) (offset : Nat) : Except ChainError (Nat × Nat) :=
  read (bytes.drop offset)

end Cosigner.CompactSize
