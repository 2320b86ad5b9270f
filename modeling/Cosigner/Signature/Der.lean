import Cosigner.Curve.Ecdsa
/-!
The DER form of a signature: a sequence of two integers.

`encode` takes both numbers as big-endian bytes of any length and writes each in its least form:
no zero byte in front, except one before a byte whose high bit would make the number negative.
`decode?` accepts exactly that form, and only numbers that a signature can hold.
-/

namespace Cosigner.Der

/-- The least content of an integer. Zero is one zero byte. -/
def integer (value : Bytes) : Bytes :=
  match value.dropWhile (· == 0) with
  | [] => [0]
  | b :: rest => if b ≥ 0x80 then 0 :: b :: rest else b :: rest

/-- Lengths are written in one byte, modulo 256. -/
def lengthByte (content : Bytes) : UInt8 := UInt8.ofNat content.length

/-- One integer with its tag and length. -/
def field (value : Bytes) : Bytes :=
  let content := integer value
  0x02 :: lengthByte content :: content

def encode (r s : Bytes) : Bytes :=
  let body := field r ++ field s
  0x30 :: lengthByte body :: body

/-- The form of a signature: both numbers in 32 bytes, shortened as integers are. -/
def ofSignature (sig : Ecdsa.Signature) : Bytes :=
  encode (Bytes.ofNatBE 32 sig.r) (Bytes.ofNatBE 32 sig.s)

/-- Reads one integer in its least form and returns what follows. -/
def integer? (bytes : Bytes) : Option (Nat × Bytes) :=
  match bytes with
  | 0x02 :: len :: rest =>
    let content := rest.take len.toNat
    if content.length = len.toNat ∧ integer content = content then
      some (Bytes.toNatBE content, rest.drop len.toNat)
    else none
  | _ => none

/-- Reads a signature, refusing every form that `encode` would not have written. -/
def decode? (bytes : Bytes) : Option Ecdsa.Signature := do
  match bytes with
  | 0x30 :: len :: body =>
    if body.length = len.toNat ∧ len < 0x80 then
      let (r, rest) ← integer? body
      let (s, rest) ← integer? rest
      if rest.isEmpty ∧ 0 < r ∧ r < Secp256k1.order ∧ 0 < s ∧ s < Secp256k1.order then
        some ⟨r, s⟩
      else none
    else none
  | _ => none

end Cosigner.Der
