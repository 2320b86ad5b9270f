import Cosigner.Random.ChaCha20
import Cosigner.Hash.Sha256
/-!
A reproducible source of bytes, seeded with a byte string of any length.

The seed is compressed to a key with SHA-256, and the bytes are those of the ChaCha20 stream under
this key. A draw takes whole words from the stream: of the last one, the bytes that were not asked
for are lost, and a draw of nothing takes nothing.
-/

namespace Cosigner

/-- A stream key and the number of words already drawn. -/
structure Generator where
  key : Hash256
  position : Nat

namespace Generator

def ofSeed (seed : Bytes) : Generator := ⟨sha256 seed, 0⟩

/-- The bytes of words, least significant byte first. -/
def wordBytes (words : List UInt32) : Bytes := words.flatMap fun w => Bytes.ofNatLE 4 w.toNat

theorem length_wordBytes (words : List UInt32) : (wordBytes words).length = 4 * words.length := by
  induction words with
  | nil => rfl
  | cons w rest ih =>
    simp only [wordBytes, List.flatMap_cons, List.length_append, Bytes.length_ofNatLE,
      List.length_cons] at *
    omega

/-- The next `count` bytes. -/
def draw (g : Generator) (count : Nat) : FixedBytes count × Generator :=
  let needed := (count + 3) / 4
  (⟨(wordBytes (ChaCha20.words g.key g.position needed)).take count, by
      simp only [List.length_take, length_wordBytes, ChaCha20.length_words]
      omega⟩,
   { g with position := g.position + needed })

end Generator

end Cosigner
