import Cosigner.Decimal.Binary64
/-!
The shortest decimal that reads back as a given number.

All reals between the two midpoints around a magnitude round to it, the midpoints themselves
exactly when its `m` is even. `digitsOf` tries one significant digit, then two, and so on up to
seventeen: on each grid it looks at the two neighbours of the magnitude, and the first grid with a
neighbour inside the interval wins. Of two such neighbours it takes the nearer, of two equally
near ones the greater. `Binary64.text` writes the result without an exponent.
-/

namespace Cosigner.Decimal

/-- `digits * 10 ^ exponent`. -/
structure Scaled where
  digits : Nat
  exponent : Int
deriving DecidableEq, Repr

/-- The magnitude and its two midpoints as numerators over one denominator. -/
structure Interval where
  low : Nat
  value : Nat
  high : Nat
  den : Nat
  closed : Bool

/-- The lower midpoint is closer when the magnitude begins a new exponent. -/
def intervalOf (d : Dyadic) : Interval :=
  let unit := 1 <<< d.q.toNat
  let low := if d.m = Dyadic.hiddenBit ∧ d.q ≠ Dyadic.minExponent then 4 * d.m - 1 else 4 * d.m - 2
  { low := low * unit
    value := 4 * d.m * unit
    high := (4 * d.m + 2) * unit
    den := 4 * d.den
    closed := d.m % 2 == 0 }

/-- Whether `candidate / scale` lies in the interval. -/
def Interval.contains (i : Interval) (candidate scale : Nat) : Bool :=
  if i.closed then
    decide (i.low * scale ≤ candidate * i.den) && decide (candidate * i.den ≤ i.high * scale)
  else
    decide (i.low * scale < candidate * i.den) && decide (candidate * i.den < i.high * scale)

/-- The neighbour of `value * scale / den` on the integers that lies in the interval. -/
def Interval.neighbour? (i : Interval) (up down : Nat) : Option Nat :=
  let j : Interval :=
    { i with low := i.low * up, value := i.value * up, high := i.high * up, den := i.den * down }
  let below := j.value / j.den
  let above := below + 1
  match j.contains below 1, j.contains above 1 with
  | false, false => none
  | true, false => some below
  | false, true => some above
  | true, true =>
    let rest := j.value % j.den
    if 2 * rest < j.den then some below else some above

/-- The number of digits before the decimal point of `num / den`; for a value below one, minus the
number of zeros that follow the point. The search takes at most `fuel` steps. -/
def pointOf (num den : Nat) : Nat → Int
  | 0 => 0
  | fuel + 1 =>
    if den ≤ num then pointOf num (10 * den) fuel + 1
    else if 10 * num < den then pointOf (10 * num) den fuel - 1
    else 0

/-- Tries the grids of `n`, `n + 1`, … significant digits, `fuel` of them. -/
def search (i : Interval) (point : Int) : Nat → Nat → Scaled
  | _, 0 => ⟨i.value / i.den, 0⟩
  | n, fuel + 1 =>
    let exponent := point - n
    match i.neighbour? (tenTo (-exponent).toNat) (tenTo exponent.toNat) with
    | some digits => ⟨digits, exponent⟩
    | none => search i point (n + 1) fuel

/-- The shortest decimal of a magnitude other than zero. -/
def digitsOf (d : Dyadic) : Scaled :=
  let i := intervalOf d
  search i (pointOf i.value i.den 400) 1 17

/-- Digits and a power of ten without an exponent: whole numbers have no point, others have digits
on both sides of it and no zero at the end. -/
def Scaled.text (s : Scaled) : List Char :=
  let ds := Nat.toDigits 10 s.digits
  if 0 ≤ s.exponent then ds ++ List.replicate s.exponent.toNat '0'
  else
    let places := (-s.exponent).toNat
    let padded := List.replicate (places + 1 - ds.length) '0' ++ ds
    let whole := padded.take (padded.length - places)
    let fraction := ((padded.drop (padded.length - places)).reverse.dropWhile (· == '0')).reverse
    if fraction.isEmpty then whole else whole ++ '.' :: fraction

end Cosigner.Decimal

namespace Cosigner

/-- A number as text: the sign, then the shortest decimal without an exponent. -/
def Binary64.text : Binary64 → String
  | .nan => "NaN"
  | .infinite negative => if negative then "-inf" else "inf"
  | .finite negative d =>
    let unsigned := if d.m = 0 then ['0'] else (Decimal.digitsOf d).text
    String.ofList (if negative then '-' :: unsigned else unsigned)

end Cosigner
