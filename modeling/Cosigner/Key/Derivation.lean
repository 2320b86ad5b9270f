import Cosigner.Key.PrivateKey
import Cosigner.Key.Secret
import Cosigner.Random.Generator
/-!
Keys derived from an identifier and a shared secret.

The identifier and the secret are hexadecimal integers. The exclusive or of their bytes, the
shorter repeated along the longer, seeds a generator; the key of round `r` is the `r`-th usable
scalar that the generator yields, and round zero is the same as round one. The same three inputs
always give the same key, so none has to be stored.
-/

namespace Cosigner

/-- Byte-wise exclusive or, with both operands repeated as far as the longer goes. -/
def xorCyclic (a b : Bytes) : Bytes :=
  let a := a.toArray
  let b := b.toArray
  (List.range (max a.size b.size)).map fun i =>
    a.getD (i % a.size) 0 ^^^ b.getD (i % b.size) 0

/-- The number of 32-byte blocks after which the stream of a generator repeats itself. -/
def streamPeriod : Nat := 0x20000000000000000

/-- The first usable scalar among the next `tries` draws, and the generator after it. -/
def nextScalar? : Nat → Generator → Option (FixedBytes 32 × Generator)
  | 0, _ => none
  | tries + 1, g =>
    let (candidate, g) := g.draw 32
    if isValidScalar candidate then some (candidate, g) else nextScalar? tries g

/-- The usable scalar that follows `skipped` others. -/
def scalarAfter? : Nat → Generator → Option (FixedBytes 32)
  | 0, g => (nextScalar? streamPeriod g).map Prod.fst
  | skipped + 1, g =>
    match nextScalar? streamPeriod g with
    | none => none
    | some (_, g) => scalarAfter? skipped g

/-- The bytes that seed the generator of an identifier under a secret. -/
def derivationSeed (identifier : String) (secret : SecretText) : Except IntegerFault Bytes := do
  let id ← integerBytes identifier
  let key ← secret.integerBytes
  return xorCyclic id key

/-- The key of an identifier at a round, unless the identifier or the secret is no integer. -/
def derivePrivateKey? (identifier : String) (secret : SecretText) (round : Nat)
    (network : Network) : Option PrivateKey :=
  match derivationSeed identifier secret with
  | .error _ => none
  | .ok seed =>
    match scalarAfter? (round - 1) (Generator.ofSeed seed) with
    | none => none
    | some scalar => (PrivateKey.ofScalar scalar network).toOption

end Cosigner
