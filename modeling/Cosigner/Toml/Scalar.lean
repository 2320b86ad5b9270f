import Cosigner.Bytes
import Cosigner.Decimal.Binary64
import Cosigner.Text.Basic
import Cosigner.Toml.Item
/-!
Numbers, booleans and dates of TOML.

Each is a run of characters without blanks, except that a space may stand between a date and a
time. Underscores may stand between two digits. Integers have 64 bits and a sign; a date must exist,
a minute has up to sixty-one seconds.
-/

namespace Cosigner.Toml

/-- Drops the single underscores between the digits of a non-empty run. -/
def ungroup? (isDigit : Char → Bool) : List Char → Option (List Char)
  | [] => none
  | [c] => if isDigit c then some [c] else none
  | c :: '_' :: rest => if isDigit c then (ungroup? isDigit rest).map (c :: ·) else none
  | c :: rest => if isDigit c then (ungroup? isDigit rest).map (c :: ·) else none

/-- The value of a digit in a base up to sixteen. -/
def baseDigit? (base : Nat) (c : Char) : Option Nat :=
  let value :=
    if '0' ≤ c ∧ c ≤ '9' then c.toNat - '0'.toNat
    else if 'a' ≤ c ∧ c ≤ 'f' then c.toNat - 'a'.toNat + 10
    else if 'A' ≤ c ∧ c ≤ 'F' then c.toNat - 'A'.toNat + 10
    else base
  if value < base then some value else none

/-- The value of a run of digits that may be grouped. -/
def groupedNat? (base : Nat) (text : List Char) : Option Nat := do
  let digits ← ungroup? (fun c => (baseDigit? base c).isSome) text
  return digits.foldl (fun acc c => acc * base + (baseDigit? base c).getD 0) 0

/-- The value of decimal digits without a zero in front. -/
def plainNat? (text : List Char) : Option Nat :=
  match text with
  | ['0'] => some 0
  | '0' :: _ => none
  | _ => groupedNat? 10 text

/-- A number between the least and the greatest of 64 bits. -/
def inRange? (n : Int) : Option Int :=
  if -(Word.signedBound64 : Int) ≤ n ∧ n < Word.signedBound64 then some n else none

def integer? (text : List Char) : Option Int :=
  match text with
  | '0' :: 'x' :: digits => (groupedNat? 16 digits).bind fun n => inRange? n
  | '0' :: 'o' :: digits => (groupedNat? 8 digits).bind fun n => inRange? n
  | '0' :: 'b' :: digits => (groupedNat? 2 digits).bind fun n => inRange? n
  | '+' :: digits => (plainNat? digits).bind fun n => inRange? n
  | '-' :: digits => (plainNat? digits).bind fun n => inRange? (-(n : Int))
  | digits => (plainNat? digits).bind fun n => inRange? n

/-! ### Floating point numbers -/

/-- An exponent with an optional sign. -/
def power? (text : List Char) : Option Int :=
  match text with
  | '+' :: digits => (groupedNat? 10 digits).map fun n => (n : Int)
  | '-' :: digits => (groupedNat? 10 digits).map fun n => -(n : Int)
  | digits => (groupedNat? 10 digits).map fun n => (n : Int)

/-- The parts of a number: digits before the point, digits after it, power of ten. -/
structure FloatParts where
  whole : Nat
  fraction : List Char
  power : Int

def isExponentMark (c : Char) : Bool := c == 'e' || c == 'E'

/-- Reads a number that has a fraction, an exponent or both. -/
def floatParts? (text : List Char) : Option FloatParts := do
  let mantissa := text.takeWhile fun c => !isExponentMark c
  let power ← match text.dropWhile fun c => !isExponentMark c with
    | [] => some none
    | _ :: digits => (power? digits).map some
  let whole ← plainNat? (mantissa.takeWhile (· != '.'))
  match mantissa.dropWhile (· != '.') with
  | [] => power.map fun power => ⟨whole, [], power⟩
  | _ :: digits => do
    let fraction ← ungroup? Char.isDigit digits
    return ⟨whole, fraction, power.getD 0⟩

/-- Whether a number is beyond the largest floating point number. -/
def FloatParts.overflows (parts : FloatParts) : Bool :=
  let significand := (Text.readDigits? parts.whole parts.fraction).getD 0
  let exponent := parts.power - parts.fraction.length
  let digits := (Nat.toDigits 10 significand).length
  if significand = 0 ∨ exponent + digits < 300 then false
  else if 320 < exponent + digits then true
  else (Dyadic.nearest (significand * Decimal.tenTo exponent.toNat)
      (Decimal.tenTo (-exponent).toNat)).isNone

/-- Whether a text is a floating point number. One above the largest is none. -/
def isFloat (text : List Char) : Bool :=
  let unsigned := match text with
    | '+' :: rest => rest
    | '-' :: rest => rest
    | _ => text
  if unsigned = ['i', 'n', 'f'] ∨ unsigned = ['n', 'a', 'n'] then true
  else
    match floatParts? unsigned with
    | none => false
    | some parts => text.head? == some '-' || !parts.overflows

/-! ### Dates and times -/

/-- A number of exactly `count` digits, and what follows. -/
def fixedNat? (count : Nat) (text : List Char) : Option (Nat × List Char) := do
  let digits := text.take count
  if digits.length = count then
    let n ← Text.readDigits? 0 digits
    return (n, text.drop count)
  else none

def isLeapYear (year : Nat) : Bool := year % 4 == 0 && (year % 100 != 0 || year % 400 == 0)

def daysInMonth (year month : Nat) : Nat :=
  if month = 2 then (if isLeapYear year then 29 else 28)
  else if month = 4 ∨ month = 6 ∨ month = 9 ∨ month = 11 then 30
  else 31

/-- What follows a date that exists. -/
def afterDate? (text : List Char) : Option (List Char) := do
  let (year, rest) ← fixedNat? 4 text
  match rest with
  | '-' :: rest =>
    let (month, rest) ← fixedNat? 2 rest
    match rest with
    | '-' :: rest =>
      let (day, rest) ← fixedNat? 2 rest
      if 1 ≤ month ∧ month ≤ 12 ∧ 1 ≤ day ∧ day ≤ daysInMonth year month then some rest else none
    | _ => none
  | _ => none

/-- What follows the hour and the minute of a day. -/
def afterHourMinute? (text : List Char) : Option (List Char) := do
  let (hour, rest) ← fixedNat? 2 text
  match rest with
  | ':' :: rest =>
    let (minute, rest) ← fixedNat? 2 rest
    if hour ≤ 23 ∧ minute ≤ 59 then some rest else none
  | _ => none

/-- What follows a time of day. -/
def afterTime? (text : List Char) : Option (List Char) := do
  match ← afterHourMinute? text with
  | ':' :: rest =>
    let (second, rest) ← fixedNat? 2 rest
    if 60 < second then none
    else
      match rest with
      | '.' :: rest =>
        if (rest.takeWhile Char.isDigit).isEmpty then none else some (rest.dropWhile Char.isDigit)
      | _ => some rest
  | _ => none

/-- Whether a text is an offset from universal time, or nothing. -/
def isOffset (text : List Char) : Bool :=
  match text with
  | [] => true
  | ['Z'] => true
  | ['z'] => true
  | '+' :: rest => afterHourMinute? rest == some []
  | '-' :: rest => afterHourMinute? rest == some []
  | _ => false

/-- Whether a text is a date, a time, or both with an optional offset. -/
def isDateTime (text : List Char) : Bool :=
  match afterDate? text with
  | some [] => true
  | some (c :: rest) =>
    if c = 'T' ∨ c = 't' ∨ c = ' ' then
      match afterTime? rest with
      | some offset => isOffset offset
      | none => false
    else false
  | none => afterTime? text == some []

/-! ### Tokens -/

def isTokenChar (c : Char) : Bool :=
  c.isAlphanum || c == '+' || c == '-' || c == '.' || c == '_' || c == ':'

/-- The run of characters in front that may belong to a scalar, and what follows it. A date takes
the time behind a space with it. -/
def splitToken (text : List Char) : List Char × List Char :=
  let token := text.takeWhile isTokenChar
  let rest := text.dropWhile isTokenChar
  match afterDate? token, rest with
  | some [], ' ' :: c :: more =>
    if c.isDigit then
      (token ++ ' ' :: (c :: more).takeWhile isTokenChar, (c :: more).dropWhile isTokenChar)
    else (token, rest)
  | _, _ => (token, rest)

/-- The scalar that a token spells. -/
def scalar? (token : List Char) : Option Item :=
  if token = ['t', 'r', 'u', 'e'] then some (.boolean true)
  else if token = ['f', 'a', 'l', 's', 'e'] then some (.boolean false)
  else
    match integer? token with
    | some n => some (.integer n)
    | none =>
      if isFloat token then some (.float token)
      else if isDateTime token then some (.dateTime token)
      else none

end Cosigner.Toml
