import Cosigner.Bytes
import Cosigner.Decimal.Binary64
import Cosigner.Error
import Cosigner.Text.Basic
/-!
Amounts of coins, in satoshis, as signed words of 64 bits, and the unspent outputs that a node
lists.

`add?` is addition that refuses to wrap. An amount is read from decimal text by `parse`, which
works in exact arithmetic, and from the binary floating point numbers of a node by `ofCoins`,
which rounds to the nearest satoshi.

* `toInt_of_add?`: a sum that is given is the sum of the numbers.
-/

namespace Cosigner.Amount

/-- Satoshis in one coin. -/
def perCoin : Nat := 100000000

/-- The amount of a number that fits. -/
def ofInt? (n : Int) : Option Int64 :=
  if Int64.minValue.toInt ≤ n ∧ n ≤ Int64.maxValue.toInt then some (Int64.ofInt n) else none

/-- The amount nearest to a number. -/
def clamp (n : Int) : Int64 :=
  Int64.ofInt (max Int64.minValue.toInt (min n Int64.maxValue.toInt))

/-- The sum of two amounts, when it is one. -/
def add? (a b : Int64) : Option Int64 := ofInt? (a.toInt + b.toInt)

/-- The sum of amounts from left to right, when every partial sum is one. -/
def total? (amounts : List Int64) : Option Int64 := amounts.foldlM add? 0

theorem toInt_of_ofInt? {n : Int} {a : Int64} (h : ofInt? n = some a) : a.toInt = n := by
  unfold ofInt? at h
  split at h
  · rename_i bounds
    cases h
    exact Int64.toInt_ofInt_of_le bounds.1 (by have : Int64.maxValue.toInt = 2 ^ 63 - 1 := by decide
                                               omega)
  · cases h

theorem toInt_of_add? {a b c : Int64} (h : add? a b = some c) : c.toInt = a.toInt + b.toInt :=
  toInt_of_ofInt? h

/-- The characters before the first point and those after it; none after it when there is no
point. -/
def splitPoint (text : List Char) : List Char × List Char :=
  (text.takeWhile (· != '.'), (text.dropWhile (· != '.')).drop 1)

/-- The satoshis of a decimal number of coins without blanks around it: digits, and at most eight
more after a point; one of the two runs may be empty. -/
def ofDecimal? (text : List Char) : Option Int64 := do
  let (whole, fraction) := splitPoint text
  if (whole.isEmpty ∧ fraction.isEmpty) ∨ 8 < fraction.length then none
  else
    let coins ← Text.readDigits? 0 whole
    let rest ← Text.readDigits? 0 fraction
    ofInt? (coins * perCoin + rest * Decimal.tenTo (8 - fraction.length) : Nat)

/-- Reads a decimal number of coins; blanks around it do not count. -/
def parse (text : String) : Except ChainError Int64 :=
  let trimmed := Text.trim text.toList
  match ofDecimal? trimmed with
  | some amount => .ok amount
  | none => .error (.amount (.notDecimal (String.ofList trimmed)))

/-- The nearest whole number of satoshis to a number of coins, a half upwards, when it is at least
zero and at most `2 ^ 63`. The product is rounded to binary floating point first. -/
def satoshis? : Binary64 → Option Nat
  | .nan => none
  | .infinite _ => none
  | .finite negative d => do
    let factor ← Dyadic.ofNat perCoin
    let product ← d.mul factor
    let rounded := product.roundUp
    if (negative ∧ rounded ≠ 0) ∨ Word.signedBound64 < rounded then none else some rounded

/-- The amount of a number of coins as a node reports it. -/
def ofCoins (coins : Binary64) : Except ChainError Int64 :=
  match satoshis? coins with
  | some n => .ok (clamp n)
  | none => .error (.amount (.outOfRange coins))

end Cosigner.Amount

namespace Cosigner

structure Utxo where
  /-- The transaction that made the output, as text. -/
  txid : String
  index : UInt32
  amount : Int64
  /-- The output's script in hexadecimal. -/
  lockingScript : String
  /-- The redeem script in hexadecimal, when the node knows one. -/
  redeemScript : Option String
  /-- The address that owns the output; empty when the node names none. -/
  address : String
  confirmations : Nat
deriving DecidableEq, Repr

end Cosigner
