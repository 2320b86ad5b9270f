import Cosigner.Error
/-!
Secrets: the shared secret of a service, and bytes derived from it.

A secret text is a hexadecimal integer. `integerBytes` is a canonical form of the integer: the same
for every spelling of it, whatever the letter case, the leading zeros, the prefix `0x` or the
blanks around it. Erasing a secret leaves nothing of it, and its description does not show it.
-/

namespace Cosigner

/-- A text without one `0x` or `0X` in front. -/
def dropHexMark : List Char → List Char
  | '0' :: 'x' :: rest => rest
  | '0' :: 'X' :: rest => rest
  | text => text

/-- A byte string without its leading zeros, but one zero byte when there is nothing else. -/
def minimalBytes (bytes : Bytes) : Bytes :=
  match bytes.dropWhile (· == 0) with
  | [] => [0]
  | significant => significant

/-- The least big-endian bytes of the integer that a text denotes. An odd number of digits is
completed with a zero in front. -/
def integerBytes (text : String) : Except IntegerFault Bytes :=
  let digits := dropHexMark (Text.trim text.toList)
  if digits.isEmpty then .error .empty
  else
    let padded := if Text.byteLength digits % 2 = 1 then '0' :: digits else digits
    match Hex.decodeChars padded with
    | .ok bytes => .ok (minimalBytes bytes)
    | .error fault => .error (.hex fault)

/-- A secret in hexadecimal. -/
structure SecretText where
  text : String

namespace SecretText

def isEmpty (secret : SecretText) : Bool := secret.text.isEmpty

def integerBytes (secret : SecretText) : Except IntegerFault Bytes :=
  Cosigner.integerBytes secret.text

/-- What remains after the secret is erased. -/
def erase (_ : SecretText) : SecretText := ⟨""⟩

/-- How a secret is described; the same for all of them. -/
def describe (_ : SecretText) : String := "SecretHex(<redacted>)"

end SecretText

/-- Secret bytes, such as the seed of a derivation. -/
structure SecretBytes where
  bytes : Bytes

namespace SecretBytes

def length (secret : SecretBytes) : Nat := secret.bytes.length

def isEmpty (secret : SecretBytes) : Bool := secret.bytes.isEmpty

/-- What remains after the secret is erased. -/
def erase (_ : SecretBytes) : SecretBytes := ⟨[]⟩

end SecretBytes

end Cosigner
