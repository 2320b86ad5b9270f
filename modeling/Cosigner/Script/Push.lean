import Cosigner.Error
/-!
Data pushes: the opcodes of a script that carry bytes.

An opcode below `0x4c` is followed by that many bytes of data. The opcodes `0x4c`, `0x4d` and `0x4e`
are followed by the length in one, two or four bytes, least significant first, and then the
data. `push` uses the shortest opcode; `items` reads all of them, and refuses every script that
holds another opcode or ends inside a push.
-/

namespace Cosigner.Push

/-- The opcode and length of a push. Lengths are written modulo `2 ^ 32`. -/
def header (length : Nat) : Bytes :=
  if length < 0x4c then [UInt8.ofNat length]
  else if length ≤ 0xff then 0x4c :: Bytes.ofNatLE 1 length
  else if length ≤ 0xffff then 0x4d :: Bytes.ofNatLE 2 length
  else 0x4e :: Bytes.ofNatLE 4 length

def push (data : Bytes) : Bytes := header data.length ++ data

def pushAll (items : List Bytes) : Bytes := items.flatMap push

/-- How many bytes of length follow an opcode; nothing when it is no push. -/
def lengthWidth? (opcode : UInt8) : Option Nat :=
  if opcode < 0x4c then some 0
  else if opcode = 0x4c then some 1
  else if opcode = 0x4d then some 2
  else if opcode = 0x4e then some 4
  else none

/-- The length that an opcode announces, and how many bytes after the opcode spell it. -/
def announced (opcode : UInt8) (rest : Bytes) : Except ChainError (Nat × Nat) :=
  match lengthWidth? opcode with
  | none => .error (.script (.notPush opcode))
  | some 0 => .ok (opcode.toNat, 0)
  | some width =>
    if Bytes.holds width rest then .ok (Bytes.toNatLE (rest.take width), width)
    else .error (.script .truncatedLength)

/-- The length of the push in front of a script, and how many bytes precede its data. -/
def readHeader (script : Bytes) : Except ChainError (Nat × Nat) :=
  match script with
  | [] => .error (.script .missingOpcode)
  | opcode :: rest =>
    match announced opcode rest with
    | .ok (length, width) => .ok (length, 1 + width)
    | .error e => .error e

def readHeaderAt (script : Bytes) (offset : Nat) : Except ChainError (Nat × Nat) :=
  readHeader (script.drop offset)

/-- The data of every push of a script, in order. -/
def items (script : Bytes) : Except ChainError (List Bytes) :=
  match script with
  | [] => .ok []
  | opcode :: rest =>
    match announced opcode rest with
    | .error e => .error e
    | .ok (length, width) =>
      if Bytes.holds length (rest.drop width) then
        match items ((rest.drop width).drop length) with
        | .ok tail => .ok ((rest.drop width).take length :: tail)
        | .error e => .error e
      else .error (.script .overrun)
termination_by script.length
decreasing_by simp only [List.length_drop, List.length_cons]; omega

end Cosigner.Push
