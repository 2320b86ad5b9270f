import Cosigner.Bytes
/-!
The curve secp256k1: `y² = x³ + 7` over the integers modulo `fieldPrime`.

A `Point` is the neutral element or a pair of coordinates. Sums and multiples are computed on
`Jacobian` triples `(X, Y, Z)`, which stand for `(X / Z², Y / Z³)` and for the neutral element
when `Z = 0`, so that one inversion at the end is enough. `Point.encode` writes the uncompressed
public key and `Point.decode?` reads every form of it.
-/

namespace Cosigner.Secp256k1

/-- The order of the field: `2^256 - 2^32 - 977`. -/
def fieldPrime : Nat := 0xfffffffffffffffffffffffffffffffffffffffffffffffffffffffefffffc2f

/-- The order of the group. -/
def order : Nat := 0xfffffffffffffffffffffffffffffffebaaedce6af48a03bbfd25e8cd0364141

/-- `base ^ exponent` modulo `modulus`, over the `bits` lowest bits of the exponent. -/
def powMod (modulus : Nat) : Nat → Nat → Nat → Nat → Nat
  | 0, _, _, acc => acc
  | bits + 1, base, exponent, acc =>
    powMod modulus bits (base * base % modulus) (exponent / 2)
      (if exponent % 2 = 1 then acc * base % modulus else acc)

/-- The inverse modulo a prime of at most 256 bits; zero for zero. -/
def inverse (prime n : Nat) : Nat := powMod prime 256 (n % prime) (prime - 2) 1

/-- Field operations on numbers below `fieldPrime`. -/
def add (a b : Nat) : Nat := (a + b) % fieldPrime
def sub (a b : Nat) : Nat := (a + (fieldPrime - b)) % fieldPrime
def mul (a b : Nat) : Nat := a * b % fieldPrime

inductive Point where
  | infinity
  | affine (x y : Nat)
deriving DecidableEq, Repr

structure Jacobian where
  x : Nat
  y : Nat
  z : Nat

namespace Jacobian

def infinity : Jacobian := ⟨1, 1, 0⟩

def double (p : Jacobian) : Jacobian :=
  if p.z = 0 ∨ p.y = 0 then infinity
  else
    let a := mul p.x p.x
    let b := mul p.y p.y
    let c := mul b b
    let xb := add p.x b
    let d := mul 2 (sub (mul xb xb) (add a c))
    let e := mul 3 a
    let x := sub (mul e e) (mul 2 d)
    ⟨x, sub (mul e (sub d x)) (mul 8 c), mul 2 (mul p.y p.z)⟩

def plus (p q : Jacobian) : Jacobian :=
  if p.z = 0 then q
  else if q.z = 0 then p
  else
    let pz := mul p.z p.z
    let qz := mul q.z q.z
    let u1 := mul p.x qz
    let u2 := mul q.x pz
    let s1 := mul p.y (mul q.z qz)
    let s2 := mul q.y (mul p.z pz)
    let h := sub u2 u1
    let r := sub s2 s1
    if h = 0 then
      if r = 0 then double p else infinity
    else
      let hh := mul h h
      let hhh := mul h hh
      let v := mul u1 hh
      let x := sub (mul r r) (add hhh (mul 2 v))
      ⟨x, sub (mul r (sub v x)) (mul s1 hhh), mul h (mul p.z q.z)⟩

/-- Adds to `acc` the multiple of `p` given by the `bits` lowest bits of a number. -/
def multiple : Nat → Nat → Jacobian → Jacobian → Jacobian
  | 0, _, _, acc => acc
  | bits + 1, k, p, acc =>
    multiple bits (k / 2) (double p) (if k % 2 = 1 then plus acc p else acc)

def toPoint (p : Jacobian) : Point :=
  if p.z = 0 then .infinity
  else
    let zInverse := inverse fieldPrime p.z
    let zz := mul zInverse zInverse
    .affine (mul p.x zz) (mul p.y (mul zInverse zz))

end Jacobian

namespace Point

def toJacobian : Point → Jacobian
  | .infinity => Jacobian.infinity
  | .affine x y => ⟨x, y, 1⟩

/-- The base point of the group. -/
def generator : Point := .affine
  0x79be667ef9dcbbac55a06295ce870b07029bfcdb2dce28d959f2815b16f81798
  0x483ada7726a3c4655da4fbfc0e1108a8fd17b448a68554199c47d08ffb10d4b8

/-- `k` times a point, for `k` below `2^256`. -/
def times (k : Nat) (p : Point) : Point :=
  (Jacobian.multiple 256 k p.toJacobian Jacobian.infinity).toPoint

/-- `k` times one point plus `l` times another. -/
def linear (k : Nat) (p : Point) (l : Nat) (q : Point) : Point :=
  (Jacobian.multiple 256 l q.toJacobian
    (Jacobian.multiple 256 k p.toJacobian Jacobian.infinity)).toPoint

def onCurve (x y : Nat) : Bool :=
  decide (x < fieldPrime) && decide (y < fieldPrime) && mul y y == add (mul x (mul x x)) 7

/-- The uncompressed form: the byte 4 and both coordinates. The neutral element is the byte 0. -/
def encode : Point → Bytes
  | .infinity => [0]
  | .affine x y => 4 :: Bytes.ofNatBE 32 x ++ Bytes.ofNatBE 32 y

/-- The point over `x` whose second coordinate has the given parity. -/
def lift? (x parity : Nat) : Option Point :=
  if x < fieldPrime then
    let square := add (mul x (mul x x)) 7
    let y := powMod fieldPrime 256 square ((fieldPrime + 1) / 4) 1
    if mul y y = square then
      some (.affine x (if y % 2 = parity then y else sub 0 y))
    else none
  else none

/-- Reads a point other than the neutral element: 4 and two coordinates, or 2, 3 or 5 and the
first coordinate. The byte 5 stands for an even second coordinate, as 2 does. -/
def decode? (bytes : Bytes) : Option Point :=
  match bytes with
  | 4 :: rest =>
    if rest.length = 64 then
      let x := Bytes.toNatBE (rest.take 32)
      let y := Bytes.toNatBE (rest.drop 32)
      if onCurve x y then some (.affine x y) else none
    else none
  | form :: rest =>
    if rest.length = 32 then
      if form = 2 ∨ form = 5 then lift? (Bytes.toNatBE rest) 0
      else if form = 3 then lift? (Bytes.toNatBE rest) 1
      else none
    else none
  | [] => none

end Point

end Cosigner.Secp256k1
