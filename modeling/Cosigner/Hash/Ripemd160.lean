import Cosigner.Hash.Sha256
/-!
RIPEMD-160 of a byte string.

Two lines of eighty steps run side by side over each block of 64 bytes. A step is described by
the message word it reads and the rotation it applies; the tables `leftSteps` and `rightSteps`
list them in order. The state is a structure of five words, so that a digest has 20 bytes
whatever the message.
-/

namespace Cosigner.Ripemd160

/-- The chaining state. -/
structure State where
  a : UInt32
  b : UInt32
  c : UInt32
  d : UInt32
  e : UInt32

def State.initial : State where
  a := 0x67452301
  b := 0xefcdab89
  c := 0x98badcfe
  d := 0x10325476
  e := 0xc3d2e1f0

def rotateLeft (x n : UInt32) : UInt32 := (x <<< n) ||| (x >>> (32 - n))

/-- The words of a block, least significant byte first. -/
def words : Bytes → List UInt32
  | b0 :: b1 :: b2 :: b3 :: rest =>
    (b0.toUInt32 ||| (b1.toUInt32 <<< 8) ||| (b2.toUInt32 <<< 16) ||| (b3.toUInt32 <<< 24))
      :: words rest
  | _ => []

/-- The word index and the rotation of each step of one group of sixteen. -/
abbrev Group := List (Nat × UInt32)

def leftSteps : List Group := [
  [(0, 11), (1, 14), (2, 15), (3, 12), (4, 5), (5, 8), (6, 7), (7, 9),
   (8, 11), (9, 13), (10, 14), (11, 15), (12, 6), (13, 7), (14, 9), (15, 8)],
  [(7, 7), (4, 6), (13, 8), (1, 13), (10, 11), (6, 9), (15, 7), (3, 15),
   (12, 7), (0, 12), (9, 15), (5, 9), (2, 11), (14, 7), (11, 13), (8, 12)],
  [(3, 11), (10, 13), (14, 6), (4, 7), (9, 14), (15, 9), (8, 13), (1, 15),
   (2, 14), (7, 8), (0, 13), (6, 6), (13, 5), (11, 12), (5, 7), (12, 5)],
  [(1, 11), (9, 12), (11, 14), (10, 15), (0, 14), (8, 15), (12, 9), (4, 8),
   (13, 9), (3, 14), (7, 5), (15, 6), (14, 8), (5, 6), (6, 5), (2, 12)],
  [(4, 9), (0, 15), (5, 5), (9, 11), (7, 6), (12, 8), (2, 13), (10, 12),
   (14, 5), (1, 12), (3, 13), (8, 14), (11, 11), (6, 8), (15, 5), (13, 6)]]

def rightSteps : List Group := [
  [(5, 8), (14, 9), (7, 9), (0, 11), (9, 13), (2, 15), (11, 15), (4, 5),
   (13, 7), (6, 7), (15, 8), (8, 11), (1, 14), (10, 14), (3, 12), (12, 6)],
  [(6, 9), (11, 13), (3, 15), (7, 7), (0, 12), (13, 8), (5, 9), (10, 11),
   (14, 7), (15, 7), (8, 12), (12, 7), (4, 6), (9, 15), (1, 13), (2, 11)],
  [(15, 9), (5, 7), (1, 15), (3, 11), (7, 8), (14, 6), (6, 6), (9, 14),
   (11, 12), (8, 13), (12, 5), (2, 14), (10, 13), (0, 13), (4, 7), (13, 5)],
  [(8, 15), (6, 5), (4, 8), (1, 11), (3, 14), (11, 14), (15, 6), (0, 14),
   (5, 6), (12, 9), (2, 12), (13, 9), (9, 12), (7, 5), (10, 15), (14, 8)],
  [(12, 8), (15, 5), (10, 12), (4, 9), (1, 12), (5, 5), (8, 14), (7, 6),
   (6, 8), (2, 13), (13, 6), (14, 5), (0, 15), (3, 13), (9, 11), (11, 11)]]

def f1 (x y z : UInt32) : UInt32 := x ^^^ y ^^^ z
def f2 (x y z : UInt32) : UInt32 := (x &&& y) ||| ((~~~ x) &&& z)
def f3 (x y z : UInt32) : UInt32 := (x ||| ~~~ y) ^^^ z
def f4 (x y z : UInt32) : UInt32 := (x &&& z) ||| (y &&& ~~~ z)
def f5 (x y z : UInt32) : UInt32 := x ^^^ (y ||| ~~~ z)

/-- The mixing function and the constant of each group of a line. -/
abbrev Rounds := List ((UInt32 → UInt32 → UInt32 → UInt32) × UInt32)

def leftRounds : Rounds :=
  [(f1, 0), (f2, 0x5a827999), (f3, 0x6ed9eba1), (f4, 0x8f1bbcdc), (f5, 0xa953fd4e)]

def rightRounds : Rounds :=
  [(f5, 0x50a28be6), (f4, 0x5c4dd124), (f3, 0x6d703ef3), (f2, 0x7a6d76e9), (f1, 0)]

def step (mix : UInt32 → UInt32 → UInt32 → UInt32) (constant word rotation : UInt32)
    (s : State) : State :=
  { a := s.e
    b := rotateLeft (s.a + mix s.b s.c s.d + word + constant) rotation + s.e
    c := s.b
    d := rotateLeft s.c 10
    e := s.d }

/-- Runs one line of eighty steps over the words of a block. -/
def line (rounds : Rounds) (groups : List Group) (block : List UInt32) (s : State) : State :=
  (rounds.zip groups).foldl
    (fun s group => group.2.foldl
      (fun s st => step group.1.1 group.1.2 (block.getD st.1 0) st.2 s) s) s

/-- One block: both lines from the same state, recombined with it. -/
def compress (s : State) (block : Bytes) : State :=
  let ws := words block
  let l := line leftRounds leftSteps ws s
  let r := line rightRounds rightSteps ws s
  { a := s.b + l.c + r.d
    b := s.c + l.d + r.e
    c := s.d + l.e + r.a
    d := s.e + l.a + r.b
    e := s.a + l.b + r.c }

/-- The message, a one bit, zero bits up to eight bytes short of a whole block, and the message's
length in bits. -/
def pad (message : Bytes) : Bytes :=
  let zeros := (119 - message.length % 64) % 64
  message ++ 0x80 :: List.replicate zeros 0 ++ Bytes.ofNatLE 8 (8 * message.length)

/-- Folds `count` blocks of 64 bytes into the state. -/
def absorb : Nat → State → Bytes → State
  | 0, s, _ => s
  | count + 1, s, bytes => absorb count (compress s (bytes.take 64)) (bytes.drop 64)

def wordBytes (w : UInt32) : Bytes := Bytes.ofNatLE 4 w.toNat

def State.digest (s : State) : Bytes :=
  wordBytes s.a ++ wordBytes s.b ++ wordBytes s.c ++ wordBytes s.d ++ wordBytes s.e

theorem State.length_digest (s : State) : s.digest.length = 20 := by
  simp [State.digest, wordBytes]

end Cosigner.Ripemd160

namespace Cosigner

/-- The RIPEMD-160 digest of a message. -/
def ripemd160 (message : Bytes) : Hash160 :=
  let padded := Ripemd160.pad message
  let final := Ripemd160.absorb (padded.length / 64) Ripemd160.State.initial padded
  ⟨final.digest, final.length_digest⟩

/-- RIPEMD-160 of the SHA-256 digest. -/
def hash160 (message : Bytes) : Hash160 := ripemd160 (sha256 message).bytes

end Cosigner
