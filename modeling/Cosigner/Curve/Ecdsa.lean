import Cosigner.Curve.Secp256k1
import Cosigner.Hash.Sha256
/-!
ECDSA over secp256k1.

A signature is a pair of numbers `r`, `s`; both `s` and `order - s` verify, and `sign` always
gives the lower one, at most half the group order. The nonce is drawn from the secret scalar, the
digest and fresh entropy together, so a poor entropy source alone does not expose the key.
-/

namespace Cosigner.Ecdsa

open Secp256k1 (order)

/-- A pair of numbers offered as a signature. -/
structure Signature where
  r : Nat
  s : Nat
deriving DecidableEq, Repr

/-- Half the group order, rounded down, as 32 bytes. -/
def halfOrder : Bytes := Bytes.ofNatBE 32 (order / 2)

/-- Whether big-endian bytes are at most half the group order. Strings of 32 bytes compare like the
numbers they denote. -/
def isLowS (s : Bytes) : Bool := decide (s ≤ halfOrder)

/-- The nonce of one attempt, from 1 to `order - 1`. -/
def nonce (secret : Nat) (digest : Hash256) (entropy : Bytes) : Nat :=
  (sha256 (Bytes.ofNatBE 32 secret ++ digest.bytes ++ entropy)).toNatBE % (order - 1) + 1

/-- The pair for a given nonce, and nothing when one of its numbers is zero. -/
def pair? (secret : Nat) (digest : Hash256) (k : Nat) : Option Signature :=
  match Secp256k1.Point.times k .generator with
  | .infinity => none
  | .affine x _ =>
    let r := x % order
    let s := Secp256k1.inverse order k * (digest.toNatBE + r * secret) % order
    if r = 0 ∨ s = 0 then none else some ⟨r, s⟩

/-- The same signature with the lower of its two second numbers. -/
def Signature.normalize (sig : Signature) : Signature :=
  if isLowS (Bytes.ofNatBE 32 sig.s) then sig else { sig with s := order - sig.s }

/-- Signs a digest. -/
def sign? (secret : Nat) (digest : Hash256) (entropy : Bytes) : Option Signature :=
  (pair? secret digest (nonce secret digest entropy)).map Signature.normalize

/-- Whether a signature is one for the digest under the public key; either second number is
accepted. -/
def verify (key : Secp256k1.Point) (digest : Hash256) (sig : Signature) : Bool :=
  if 0 < sig.r ∧ sig.r < order ∧ 0 < sig.s ∧ sig.s < order then
    let w := Secp256k1.inverse order sig.s
    let u := digest.toNatBE * w % order
    let v := sig.r * w % order
    match Secp256k1.Point.linear u .generator v key with
    | .infinity => false
    | .affine x _ => x % order == sig.r
  else false

end Cosigner.Ecdsa
