import Cosigner.Bytes
import Cosigner.Text.Basic
import Cosigner.Text.Quoted
/-!
Hexadecimal text.

`encode` writes two lower-case digits for each byte, the high half first. `decode` accepts either
letter case, and refuses with the reason: an odd number of digits is noticed before any of them
is looked at, then the first character that is no digit is named with its place.
-/

namespace Cosigner.Hex

/-- Why a text is no hexadecimal form of a byte string. -/
inductive Fault where
  | oddLength
  /-- The first byte of the first character that is no digit, and its offset in bytes. -/
  | badDigit (byte : UInt8) (offset : Nat)
deriving DecidableEq, Repr

/-- The reason in words; the offending byte is shown as the character of that number. -/
def Fault.message : Fault → String
  | .oddLength => "Odd number of digits"
  | .badDigit byte offset =>
    "Invalid character " ++ Text.quotedChar (Char.ofNat byte.toNat) ++ " at position " ++
      toString offset

/-- The lower-case digit of a number below sixteen. -/
def digit (n : Nat) : Char := Nat.digitChar n

/-- The value of a digit of either case. -/
def digit? (c : Char) : Option Nat :=
  if '0' ≤ c ∧ c ≤ '9' then some (c.toNat - '0'.toNat)
  else if 'a' ≤ c ∧ c ≤ 'f' then some (c.toNat - 'a'.toNat + 10)
  else if 'A' ≤ c ∧ c ≤ 'F' then some (c.toNat - 'A'.toNat + 10)
  else none

def encodeByte (b : UInt8) : List Char := [digit (b.toNat / 16), digit (b.toNat % 16)]

def encodeChars (bytes : Bytes) : List Char := bytes.flatMap encodeByte

def encode (bytes : Bytes) : String := String.ofList (encodeChars bytes)

/-- Reads pairs of digits, the first of them `offset` bytes into the text. -/
def decodePairs (offset : Nat) : List Char → Except Fault Bytes
  | [] => .ok []
  | [c] =>
    match digit? c with
    | none => .error (.badDigit (Text.leadByte c) offset)
    | some _ => .error .oddLength
  | hi :: lo :: rest =>
    match digit? hi, digit? lo with
    | none, _ => .error (.badDigit (Text.leadByte hi) offset)
    | some _, none => .error (.badDigit (Text.leadByte lo) (offset + 1))
    | some h, some l =>
      match decodePairs (offset + 2) rest with
      | .ok bytes => .ok (UInt8.ofNat (16 * h + l) :: bytes)
      | .error fault => .error fault

def decodeChars (text : List Char) : Except Fault Bytes :=
  if Text.byteLength text % 2 = 1 then .error .oddLength else decodePairs 0 text

def decode (text : String) : Except Fault Bytes := decodeChars text.toList

/-- A byte as two digits after `0x`. -/
def byteLiteral (b : UInt8) : String := String.ofList ('0' :: 'x' :: encodeByte b)

end Cosigner.Hex
