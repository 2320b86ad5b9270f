import Cosigner.Bytes
/-!
The ChaCha20 block function and the stream of words it generates.

A block has sixteen words of 32 bits. It depends on a key of eight words and on a counter of 64
bits, which counts blocks from zero; the two last words of the input are zero. `words` cuts any
stretch out of the stream of all blocks.

* `length_words`: a stretch has as many words as were asked for.
-/

namespace Cosigner.ChaCha20

def rotateLeft (x n : UInt32) : UInt32 := (x <<< n) ||| (x >>> (32 - n))

/-- Sixteen words, named by row and column. -/
structure State where
  a0 : UInt32
  a1 : UInt32
  a2 : UInt32
  a3 : UInt32
  b0 : UInt32
  b1 : UInt32
  b2 : UInt32
  b3 : UInt32
  c0 : UInt32
  c1 : UInt32
  c2 : UInt32
  c3 : UInt32
  d0 : UInt32
  d1 : UInt32
  d2 : UInt32
  d3 : UInt32

/-- One column or diagonal. -/
structure Lane where
  a : UInt32
  b : UInt32
  c : UInt32
  d : UInt32

def quarterRound (l : Lane) : Lane :=
  let a := l.a + l.b
  let d := rotateLeft (l.d ^^^ a) 16
  let c := l.c + d
  let b := rotateLeft (l.b ^^^ c) 12
  let a := a + b
  let d := rotateLeft (d ^^^ a) 8
  let c := c + d
  let b := rotateLeft (b ^^^ c) 7
  ⟨a, b, c, d⟩

/-- A round over the columns and a round over the diagonals. -/
def doubleRound (s : State) : State :=
  let p := quarterRound ⟨s.a0, s.b0, s.c0, s.d0⟩
  let q := quarterRound ⟨s.a1, s.b1, s.c1, s.d1⟩
  let r := quarterRound ⟨s.a2, s.b2, s.c2, s.d2⟩
  let t := quarterRound ⟨s.a3, s.b3, s.c3, s.d3⟩
  let e := quarterRound ⟨p.a, q.b, r.c, t.d⟩
  let f := quarterRound ⟨q.a, r.b, t.c, p.d⟩
  let g := quarterRound ⟨r.a, t.b, p.c, q.d⟩
  let h := quarterRound ⟨t.a, p.b, q.c, r.d⟩
  { a0 := e.a, a1 := f.a, a2 := g.a, a3 := h.a
    b0 := h.b, b1 := e.b, b2 := f.b, b3 := g.b
    c0 := g.c, c1 := h.c, c2 := e.c, c3 := f.c
    d0 := f.d, d1 := g.d, d2 := h.d, d3 := e.d }

def doubleRounds : Nat → State → State
  | 0, s => s
  | n + 1, s => doubleRounds n (doubleRound s)

/-- Word `i` of the key, least significant byte first. -/
def keyWord (key : Hash256) (i : Nat) : UInt32 :=
  UInt32.ofNat (Bytes.toNatLE ((key.bytes.drop (4 * i)).take 4))

def initial (key : Hash256) (counter : Nat) : State where
  a0 := 0x61707865
  a1 := 0x3320646e
  a2 := 0x79622d32
  a3 := 0x6b206574
  b0 := keyWord key 0
  b1 := keyWord key 1
  b2 := keyWord key 2
  b3 := keyWord key 3
  c0 := keyWord key 4
  c1 := keyWord key 5
  c2 := keyWord key 6
  c3 := keyWord key 7
  d0 := UInt32.ofNat counter
  d1 := UInt32.ofNat (counter / Word.bound32)
  d2 := 0
  d3 := 0

/-- The sixteen words of one block, in order. -/
def block (key : Hash256) (counter : Nat) : List UInt32 :=
  let s := initial key counter
  let r := doubleRounds 10 s
  [s.a0 + r.a0, s.a1 + r.a1, s.a2 + r.a2, s.a3 + r.a3,
   s.b0 + r.b0, s.b1 + r.b1, s.b2 + r.b2, s.b3 + r.b3,
   s.c0 + r.c0, s.c1 + r.c1, s.c2 + r.c2, s.c3 + r.c3,
   s.d0 + r.d0, s.d1 + r.d1, s.d2 + r.d2, s.d3 + r.d3]

@[simp] theorem length_block (key : Hash256) (counter : Nat) : (block key counter).length = 16 :=
  rfl

/-- The words of `count` blocks, the first of them numbered `first`. -/
def blocks (key : Hash256) : Nat → Nat → List UInt32
  | _, 0 => []
  | first, count + 1 => block key first ++ blocks key (first + 1) count

@[simp] theorem length_blocks (key : Hash256) (first count : Nat) :
    (blocks key first count).length = 16 * count := by
  induction count generalizing first with
  | zero => rfl
  | succ count ih => simp only [blocks, List.length_append, length_block, ih]; omega

/-- The `count` words of the stream that begin with word number `start`. -/
def words (key : Hash256) (start count : Nat) : List UInt32 :=
  ((blocks key (start / 16) ((start % 16 + count + 15) / 16)).drop (start % 16)).take count

@[simp] theorem length_words (key : Hash256) (start count : Nat) :
    (words key start count).length = count := by
  simp only [words, List.length_take, List.length_drop, length_blocks]
  omega

end Cosigner.ChaCha20
