/-!
Binary floating point numbers of 64 bits, exactly.

A finite number is a sign and a magnitude `m * 2 ^ q` with `m` below `2 ^ 53` and `q` at least
`-1074`. Products and quotients are computed as exact ratios and rounded once by `nearest`: to the
nearest magnitude, a tie to the one with an even `m`. Magnitudes beyond the largest are reported
as missing. Decimal forms are scaled by `Decimal.tenTo`.
-/

namespace Cosigner

/-- `m * 2 ^ q`. -/
structure Dyadic where
  m : Nat
  q : Int
deriving DecidableEq, Repr

inductive Binary64 where
  | nan
  | infinite (negative : Bool)
  | finite (negative : Bool) (magnitude : Dyadic)
deriving DecidableEq, Repr

namespace Dyadic

/-- The least exponent of a magnitude. -/
def minExponent : Int := -1074

/-- The greatest exponent of a magnitude. -/
def maxExponent : Int := 971

/-- `2 ^ 52`, the least `m` of a magnitude that has all its bits. -/
def hiddenBit : Nat := 0x10000000000000

def zero : Dyadic := ⟨0, minExponent⟩

/-- A magnitude as a ratio of natural numbers. -/
def num (d : Dyadic) : Nat := d.m <<< d.q.toNat
def den (d : Dyadic) : Nat := 1 <<< (-d.q).toNat

/-- A quotient to the nearest integer, a tie to the even one. -/
def roundEven (num den : Nat) : Nat :=
  let floor := num / den
  let twice := 2 * (num % den)
  if twice < den then floor
  else if den < twice then floor + 1
  else if floor % 2 = 0 then floor else floor + 1

/-- `num / den` in units of `2 ^ q`, as a ratio. -/
def inUnits (num den : Nat) (q : Int) : Nat × Nat := (num <<< (-q).toNat, den <<< q.toNat)

/-- The exponent for which `num / den` has 53 bits before the point, or the least exponent. -/
def exponentFor (num den : Nat) : Int :=
  let q := (Nat.log2 num : Int) - (Nat.log2 den : Int) - 53
  let units := inUnits num den q
  max minExponent (if units.1 / units.2 < 2 * hiddenBit then q else q + 1)

/-- The magnitude nearest to `num / den`, unless it is beyond the largest. -/
def nearest (num den : Nat) : Option Dyadic :=
  if num = 0 then some zero
  else
    let q := exponentFor num den
    let units := inUnits num den q
    let m := roundEven units.1 units.2
    let d : Dyadic := if m = 2 * hiddenBit then ⟨hiddenBit, q + 1⟩ else ⟨m, q⟩
    if d.q ≤ maxExponent then some d else none

def ofNat (n : Nat) : Option Dyadic := nearest n 1

def mul (a b : Dyadic) : Option Dyadic := nearest (a.num * b.num) (a.den * b.den)

/-- The quotient by a magnitude other than zero. -/
def div (a b : Dyadic) : Option Dyadic := nearest (a.num * b.den) (a.den * b.num)

/-- The nearest integer, a tie to the greater one. -/
def roundUp (d : Dyadic) : Nat := (2 * d.num + d.den) / (2 * d.den)

end Dyadic

namespace Binary64

/-- The number encoded by a word: one bit of sign, eleven of exponent, 52 of fraction. -/
def ofBits (bits : UInt64) : Binary64 :=
  let negative := bits >>> 63 == 1
  let exponent := ((bits >>> 52) &&& 0x7ff).toNat
  let fraction := (bits &&& 0xfffffffffffff).toNat
  if exponent = 0x7ff then
    if fraction = 0 then .infinite negative else .nan
  else if exponent = 0 then .finite negative ⟨fraction, Dyadic.minExponent⟩
  else .finite negative ⟨Dyadic.hiddenBit + fraction, (exponent : Int) - 1075⟩

end Binary64

end Cosigner

namespace Cosigner.Decimal

/-- Ten to the power `n`. -/
def tenTo (n : Nat) : Nat := Nat.pow 10 n

end Cosigner.Decimal
