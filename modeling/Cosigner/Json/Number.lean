import Cosigner.Bytes
import Cosigner.Decimal.Binary64
import Cosigner.Text.Basic
/-!
Number literals of JSON, and the numbers they are read as.

A literal has an optional minus sign, digits without a zero in front, and optionally a fraction
and an exponent. A literal without the two is an integer. As a floating point number, a literal is
read from its first digits only: `absorb` keeps them in a significand of 64 bits, and the result is
the significand, rounded, times or divided by a power of ten, rounded again.
-/

namespace Cosigner.Json

structure NumberLiteral where
  negative : Bool
  /-- The digits before the point, at least one. -/
  whole : List Char
  /-- The digits after the point; none when there is no point. -/
  fraction : List Char
  /-- The power of ten, when one is written. -/
  exponent : Option Int
deriving DecidableEq, Repr

/-- The longest run of digits in front, and what follows. -/
def splitDigits (text : List Char) : List Char × List Char :=
  (text.takeWhile Char.isDigit, text.dropWhile Char.isDigit)

namespace NumberLiteral

def ofInt (n : Int) : NumberLiteral := ⟨decide (n < 0), Nat.toDigits 10 n.natAbs, [], none⟩

/-- The text of an integer literal. -/
def integerText (n : NumberLiteral) : List Char :=
  if n.negative then '-' :: n.whole else n.whole

/-- Reads the digits before the point: one zero, or digits that do not begin with one. -/
def readWhole? (text : List Char) : Option (List Char × List Char) :=
  match text with
  | '0' :: rest => some (['0'], rest)
  | _ =>
    let (digits, rest) := splitDigits text
    if digits.isEmpty then none else some (digits, rest)

/-- Reads a point and the digits after it, if there is a point. -/
def readFraction? (text : List Char) : Option (List Char × List Char) :=
  match text with
  | '.' :: rest =>
    let (digits, rest) := splitDigits rest
    if digits.isEmpty then none else some (digits, rest)
  | _ => some ([], text)

/-- Reads the digits of an exponent. -/
def readPower? (sign : Int) (text : List Char) : Option (Option Int × List Char) :=
  let (digits, rest) := splitDigits text
  (Text.readNat? digits).map fun n => (some (sign * n), rest)

/-- Reads an exponent, if there is one. -/
def readExponent? (text : List Char) : Option (Option Int × List Char) :=
  match text with
  | c :: rest =>
    if c = 'e' ∨ c = 'E' then
      match rest with
      | '+' :: rest => readPower? 1 rest
      | '-' :: rest => readPower? (-1) rest
      | _ => readPower? 1 rest
    else some (none, text)
  | [] => some (none, [])

/-- Reads a literal and returns what follows. -/
def read? (text : List Char) : Option (NumberLiteral × List Char) := do
  let (negative, text) := match text with
    | '-' :: rest => (true, rest)
    | _ => (false, text)
  let (whole, text) ← readWhole? text
  let (fraction, text) ← readFraction? text
  let (exponent, text) ← readExponent? text
  return (⟨negative, whole, fraction, exponent⟩, text)

/-- The natural number below a bound that an integer literal denotes. The literal `-0` denotes
none. -/
def toNat? (bound : Nat) (n : NumberLiteral) : Option Nat :=
  if n.negative ∨ n.fraction ≠ [] ∨ n.exponent ≠ none then none
  else (Text.readNat? n.whole).bind fun value => if value < bound then some value else none

/-- Appends digits to a significand while it stays below `2 ^ 64`, and counts those appended. -/
def absorb (significand : Nat) : List Char → Nat × Nat
  | [] => (significand, 0)
  | c :: rest =>
    let next := 10 * significand + (Text.digit? c).getD 0
    if next < Word.bound64 then
      let (result, count) := absorb next rest
      (result, count + 1)
    else (significand, 0)

/-- A magnitude times a power of ten, by steps of at most 308 places. Nothing when it is beyond the
largest magnitude. -/
def scale? (d : Dyadic) (exponent : Int) : Nat → Option Dyadic
  | 0 => some Dyadic.zero
  | steps + 1 =>
    if exponent.natAbs ≤ 308 then do
      let power ← Dyadic.ofNat (Decimal.tenTo exponent.natAbs)
      if 0 ≤ exponent then d.mul power else d.div power
    else if d.m = 0 then some Dyadic.zero
    else if 0 ≤ exponent then none
    else do
      let power ← Dyadic.ofNat (Decimal.tenTo 308)
      scale? (← d.div power) (exponent + 308) steps

/-- The greatest power of ten that is not treated as out of range by itself. -/
def maxPower : Nat := 0x7fffffff

/-- The floating point number that a literal denotes. -/
def toBinary64? (n : NumberLiteral) : Option Binary64 := do
  let (significand, wholeCount) := absorb 0 n.whole
  let (significand, fractionCount) := absorb significand n.fraction
  let exponent := ((n.whole.length - wholeCount : Nat) : Int) - fractionCount
  let power := n.exponent.getD 0
  let magnitude ←
    if maxPower < power.natAbs then
      if significand ≠ 0 ∧ 0 < power then none else some Dyadic.zero
    else do
      scale? (← Dyadic.ofNat significand) (exponent + power) 4
  return .finite n.negative magnitude

end NumberLiteral

end Cosigner.Json
