import Cosigner.Transaction.Basic
/-!
Reading transactions from bytes.

A `Cursor` is the part of a byte string that has not been read, with its offset for error
reports. Every count and every script length is held against what is left before anything is
read under it. A transaction must take up the whole byte string.
-/

namespace Cosigner

/-- What is left to read, and how much has been read. -/
structure Cursor where
  offset : Nat
  rest : Bytes

namespace Cursor

def ofBytes (bytes : Bytes) : Cursor := ⟨0, bytes⟩

def advance (c : Cursor) (n : Nat) : Cursor := ⟨c.offset + n, c.rest.drop n⟩

/-- Why `n` bytes cannot be read. -/
def short (c : Cursor) (n : Nat) : ChainError := .transaction (.short n c.offset c.rest.length)

/-- The next `n` bytes. -/
def take (c : Cursor) (n : Nat) : Except ChainError (Bytes × Cursor) :=
  if Bytes.holds n c.rest then .ok (c.rest.take n, c.advance n) else .error (c.short n)

/-- The next `width` bytes, as a byte string of that width. -/
def block (c : Cursor) (width : Nat) : Except ChainError (FixedBytes width × Cursor) :=
  if h : Bytes.holds width c.rest then
    .ok (⟨c.rest.take width, by
      rw [Bytes.holds_eq, decide_eq_true_eq] at h
      simp [h]⟩, c.advance width)
  else .error (c.short width)

/-- The number in the next `width` bytes, least significant first. -/
def number (c : Cursor) (width : Nat) : Except ChainError (Nat × Cursor) := do
  let (bytes, c) ← c.take width
  return (Bytes.toNatLE bytes, c)

/-- A count or a length, which may not exceed the number of bytes left behind it. -/
def count (c : Cursor) : Except ChainError (Nat × Cursor) := do
  let (value, size) ← CompactSize.read c.rest
  let c := c.advance size
  if Bytes.holds value c.rest then return (value, c)
  else throw (.transaction (.overrun value c.rest.length))

/-- A script behind its length. -/
def script (c : Cursor) : Except ChainError (Bytes × Cursor) := do
  let (length, c) ← c.count
  c.take length

/-- `n` things in a row. -/
def many {α : Type} (readOne : Cursor → Except ChainError (α × Cursor)) :
    Nat → Cursor → Except ChainError (List α × Cursor)
  | 0, c => .ok ([], c)
  | n + 1, c => do
    let (first, c) ← readOne c
    let (others, c) ← many readOne n c
    return (first :: others, c)

end Cursor

def Input.read (c : Cursor) : Except ChainError (Input × Cursor) := do
  let (hash, c) ← c.block 32
  let (index, c) ← c.number 4
  let (script, c) ← c.script
  let (sequence, c) ← c.number 4
  return (⟨⟨hash, UInt32.ofNat index⟩, script, UInt32.ofNat sequence⟩, c)

def Output.read (c : Cursor) : Except ChainError (Output × Cursor) := do
  let (amount, c) ← c.number 8
  let (script, c) ← c.script
  return (⟨(UInt64.ofNat amount).toInt64, script⟩, c)

namespace Transaction

/-- The transaction in front of the cursor. -/
def read (c : Cursor) : Except ChainError (Transaction × Cursor) := do
  let (version, c) ← c.number 4
  let (inputCount, c) ← c.count
  let (inputs, c) ← Cursor.many Input.read inputCount c
  let (outputCount, c) ← c.count
  let (outputs, c) ← Cursor.many Output.read outputCount c
  let (lockTime, c) ← c.number 4
  return (⟨(UInt32.ofNat version).toInt32, inputs, outputs, UInt32.ofNat lockTime⟩, c)

/-- The transaction that a byte string encodes. -/
def parse (bytes : Bytes) : Except ChainError Transaction := do
  let (tx, c) ← read (Cursor.ofBytes bytes)
  if c.rest.isEmpty then return tx else throw (.transaction (.trailing c.rest.length))

/-- The transaction that a hexadecimal text encodes; blanks around it do not count. -/
def ofHex (text : String) : Except ChainError Transaction :=
  match Hex.decodeChars (Text.trim text.toList) with
  | .ok bytes => parse bytes
  | .error fault => .error (.transaction (.hex fault))

end Transaction

end Cosigner
