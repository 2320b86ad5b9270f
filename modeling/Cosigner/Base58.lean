import Cosigner.Bytes
import Cosigner.Text.Quoted
/-!
Base58 text.

A byte string is read as a number, most significant byte first, and written in base 58; each zero
byte in front is written as one more `1`, the digit of value zero. Decoding refuses the first
character that is no digit and names its place. The numerals are positional ones in any base:
`Radix.digits base n` is the shortest list of digits of `n`, most significant first and empty for
zero, and `Radix.value base ds` is the number that a list of digits denotes. They are inverse on
lists that do not begin with a zero.
-/

namespace Cosigner.Radix

/-- The digits of a number, least significant first, without a zero at the end. -/
def digitsLE (base n : Nat) : List Nat :=
  if _h : n = 0 ∨ base < 2 then []
  else n % base :: digitsLE base (n / base)
termination_by n
decreasing_by exact Nat.div_lt_self (by omega) (by omega)

/-- The digits of a number, most significant first, without a zero in front. -/
def digits (base n : Nat) : List Nat := (digitsLE base n).reverse

/-- The number that a list of digits denotes, most significant first. -/
def value (base : Nat) (ds : List Nat) : Nat := ds.foldl (fun acc d => acc * base + d) 0

end Cosigner.Radix

namespace Cosigner.Base58

/-- Why a text is no Base58 form of a byte string. Offsets count bytes. -/
inductive Fault where
  | nonAscii (offset : Nat)
  | badCharacter (c : Char) (offset : Nat)
deriving DecidableEq, Repr

def Fault.message : Fault → String
  | .nonAscii offset =>
    "provided string contained non-ascii character starting at byte " ++ toString offset
  | .badCharacter c offset =>
    "provided string contained invalid character " ++ Text.quotedChar c ++ " at byte " ++
      toString offset

/-- The digits in order of value: the ASCII letters and digits without `0`, `O`, `I` and `l`. -/
def alphabet : List Char := [
  '1', '2', '3', '4', '5', '6', '7', '8', '9',
  'A', 'B', 'C', 'D', 'E', 'F', 'G', 'H', 'J', 'K', 'L', 'M', 'N', 'P', 'Q', 'R', 'S', 'T', 'U',
  'V', 'W', 'X', 'Y', 'Z',
  'a', 'b', 'c', 'd', 'e', 'f', 'g', 'h', 'i', 'j', 'k', 'm', 'n', 'o', 'p', 'q', 'r', 's', 't',
  'u', 'v', 'w', 'x', 'y', 'z']

def digit (n : Nat) : Char := alphabet.getD n '1'

def digit? (c : Char) : Option Nat := alphabet.findIdx? (· == c)

def encodeChars (bytes : Bytes) : List Char :=
  let zeros := (bytes.takeWhile (· == 0)).length
  List.replicate zeros '1' ++ (Radix.digits 58 bytes.toNatBE).map digit

def encode (bytes : Bytes) : String := String.ofList (encodeChars bytes)

/-- The values of the digits of a text that begins `offset` bytes in. -/
def digitValues (offset : Nat) : List Char → Except Fault (List Nat)
  | [] => .ok []
  | c :: rest =>
    if c.toNat < 128 then
      match digit? c with
      | none => .error (.badCharacter c offset)
      | some d =>
        match digitValues (offset + 1) rest with
        | .ok ds => .ok (d :: ds)
        | .error fault => .error fault
    else .error (.nonAscii offset)

/-- The bytes that a list of digit values stands for. -/
def ofDigitValues (ds : List Nat) : Bytes :=
  let zeros := (ds.takeWhile (· == 0)).length
  List.replicate zeros 0 ++ (Radix.digits 256 (Radix.value 58 ds)).map UInt8.ofNat

def decodeChars (text : List Char) : Except Fault Bytes :=
  match digitValues 0 text with
  | .ok ds => .ok (ofDigitValues ds)
  | .error fault => .error fault

def decode (text : String) : Except Fault Bytes := decodeChars text.toList

end Cosigner.Base58
