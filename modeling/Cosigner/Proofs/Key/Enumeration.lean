import Cosigner.Proofs.Key.PrivateKey
import Cosigner.Proofs.Key.Seed
import Cosigner.Proofs.Key.Spelling
/-!
The key of a round is the usable candidate of that number.

The stream of an identifier is that of the integer which it spells, mixed with that of the secret
(`streamKey`). Its candidates are its bytes cut every 32 (`candidate_bytes`): a draw of 32 bytes
takes eight words, so no byte of the stream is lost between two of them, and none is drawn twice. A
candidate that is not usable is passed over within its round. As the stream comes round again, one
usable candidate is enough for every round (`infinite_usable`), and the rounds number the usable
candidates in their order (`rounds_number_usable_candidates`).
-/

namespace Cosigner

/-! ### The stream as a row of bytes -/

namespace ChaCha20

variable {key : Hash256}

theorem blocks_add (first a b : Nat) :
    blocks key first (a + b) = blocks key first a ++ blocks key (first + a) b := by
  induction a generalizing first with
  | zero => rw [Nat.zero_add, Nat.add_zero, blocks, List.nil_append]
  | succ a ih =>
    rw [Nat.add_right_comm, blocks, blocks, ih, List.append_assoc, Nat.add_assoc first 1 a,
      Nat.add_comm 1 a]

/-- The words that are cut out of a few blocks are those of the whole stream. -/
theorem words_eq {start count total : Nat} (within : start + count ≤ 16 * total) :
    words key start count = ((blocks key 0 total).drop start).take count := by
  -- The blocks before the first word, those that are cut, and those behind them.
  obtain ⟨behind, rfl⟩ : ∃ behind,
      total = start / 16 + ((start % 16 + count + 15) / 16 + behind) :=
    ⟨total - (start / 16 + (start % 16 + count + 15) / 16), by omega⟩
  have front : (blocks key 0 (start / 16)).length = 16 * (start / 16) := length_blocks ..
  have enough : start % 16 + count ≤
      (blocks key (start / 16) ((start % 16 + count + 15) / 16)).length := by
    rw [length_blocks]
    omega
  have before : (blocks key 0 (start / 16)).drop start = [] :=
    List.drop_eq_nil_of_le (by omega)
  have offset : start - 16 * (start / 16) = start % 16 := by omega
  rw [words, blocks_add, blocks_add, Nat.zero_add, List.drop_append, before, List.nil_append,
    front, offset, List.drop_append_of_le_length (by omega), List.take_append_of_le_length]
  rw [List.length_drop]
  omega

end ChaCha20

theorem Generator.wordBytes_append (words more : List UInt32) :
    wordBytes (words ++ more) = wordBytes words ++ wordBytes more :=
  List.flatMap_append

/-- The bytes of a stretch of words are a stretch of their bytes. -/
theorem Generator.wordBytes_stretch {words : List UInt32} {start count : Nat}
    (within : start + count ≤ words.length) :
    wordBytes ((words.drop start).take count) =
      ((wordBytes words).drop (4 * start)).take (4 * count) := by
  have front : (wordBytes (words.take start)).length = 4 * start := by
    rw [length_wordBytes, List.length_take]
    omega
  have stretch : (wordBytes ((words.drop start).take count)).length = 4 * count := by
    rw [length_wordBytes, List.length_take, List.length_drop]
    omega
  conv_rhs =>
    rw [← List.take_append_drop start words, ← List.take_append_drop count (words.drop start),
      wordBytes_append, wordBytes_append, List.drop_left' front, List.take_left' stretch]

/-- The bytes of the first blocks of a stream. -/
def streamBytes (key : Hash256) (blocks : Nat) : Bytes :=
  Generator.wordBytes (ChaCha20.blocks key 0 blocks)

/-- The candidates of a stream are its bytes, cut every 32. -/
theorem candidate_bytes {key : Hash256} {i blocks : Nat} (within : i < 2 * blocks) :
    (candidate key i).bytes = ((streamBytes key blocks).drop (32 * i)).take 32 := by
  have eight : 8 * i + 8 ≤ 16 * blocks := by omega
  have whole : (Generator.wordBytes (ChaCha20.words key (8 * i) 8)).length ≤ 32 := by
    rw [Generator.length_wordBytes, ChaCha20.length_words]
  show (Generator.wordBytes (ChaCha20.words key (8 * i) 8)).take 32 = _
  rw [List.take_of_length_le whole, ChaCha20.words_eq eight,
    Generator.wordBytes_stretch (by rwa [ChaCha20.length_blocks]), ← Nat.mul_assoc]
  rfl

/-! ### Usable candidates in their order -/

/-- A candidate denotes a number from 1 to the group order less one. -/
def Usable (key : Hash256) (i : Nat) : Prop :=
  0 < (candidate key i).toNatBE ∧ (candidate key i).toNatBE < Secp256k1.order

instance (key : Hash256) : DecidablePred (Usable key) := fun _ =>
  inferInstanceAs (Decidable (_ ∧ _))

theorem isValidScalar_candidate (key : Hash256) :
    (fun i => isValidScalar (candidate key i) = true) = Usable key :=
  funext fun _ => propext isValidScalar_iff

theorem hasUsable_iff {key : Hash256} : HasUsable key ↔ ∃ i, Usable key i := by
  rw [HasUsable, ← isValidScalar_candidate]

/-- One usable candidate comes round again and again. -/
theorem infinite_usable {key : Hash256} {i : Nat} (usable : Usable key i) :
    (Set.ofPred (Usable key)).Infinite := by
  refine Set.infinite_of_forall_exists_gt fun bound => ?_
  obtain ⟨k, -, same⟩ := exists_candidate_eq key (bound + 1) i
  refine ⟨bound + 1 + k, ?_, by omega⟩
  show Usable key (bound + 1 + k)
  rwa [Usable, same]

/-- A row of positions that rises and passes exactly those with a property. -/
structure Enumerates (p : Nat → Prop) (position : Nat → Nat) : Prop where
  rising : StrictMono position
  passes : ∀ i, p i ↔ ∃ r, position r = i

theorem enumerates_nth {p : Nat → Prop} (infinite : (Set.ofPred p).Infinite) :
    Enumerates p (Nat.nth p) where
  rising := Nat.nth_strictMono infinite
  passes i := by
    have range := Nat.range_nth_of_infinite infinite
    exact (Set.ext_iff.mp range i).symm

/-! ### Rounds -/

/-- The key of the stream that an identifier and a secret of these bytes draw from: the digest of
their exclusive or, each of them repeated as far as the longer one goes. -/
def streamKey (identifier secret : Bytes) : Hash256 :=
  let length := max identifier.length secret.length
  sha256 (Bytes.xor (cycled length identifier) (cycled length secret))

variable {identifier : String} {secret : SecretText} {n k : Nat} {a b : Bytes}

/-- The seed of two integers leads to the stream of their least forms. -/
theorem exists_seed_of_spells (spells : SpellsInteger identifier n)
    (known : SpellsInteger secret.text k) (least : LeastForm n a) (least' : LeastForm k b) :
    ∃ seed, derivationSeed identifier secret = .ok seed ∧ sha256 seed = streamKey a b := by
  have seeded := derivationSeed_of_denoted (denoted?_eq_some_iff.mpr spells)
    (denoted?_eq_some_iff.mpr known)
  obtain rfl := leastForm_iff.mp least
  obtain rfl := leastForm_iff.mp least'
  exact ⟨_, seeded, by rw [xorCyclic_eq, streamKey]⟩

/-- Without two integers there is no key. -/
theorem derivePrivateKey?_eq_none {round : Nat} {network : Network}
    (malformed : (¬ ∃ n, SpellsInteger identifier n) ∨ ¬ ∃ k, SpellsInteger secret.text k) :
    derivePrivateKey? identifier secret round network = none := by
  rw [← Option.not_isSome_iff_eq_none, isSome_derivePrivateKey?_iff]
  rintro ⟨seed, seeded, -⟩
  obtain ⟨_, id, known⟩ := Result.bind_eq_ok_iff.mp seeded
  obtain ⟨_, key, -⟩ := Result.bind_eq_ok_iff.mp known
  obtain ⟨n, spells, -⟩ := integerBytes_eq_ok_iff_spells.mp id
  obtain ⟨k, spells', -⟩ := integerBytes_eq_ok_iff_spells.mp key
  rcases malformed with absent | absent
  · exact absent ⟨n, spells⟩
  · exact absent ⟨k, spells'⟩

/-- With a seed whose stream has one usable candidate, every round has the key of its number. -/
theorem exists_derivePrivateKey?_eq {seed : Bytes} {stream : Hash256} {i : Nat} (round : Nat)
    (network : Network) (seeded : derivationSeed identifier secret = .ok seed)
    (keyed : sha256 seed = stream) (usable : Usable stream i) :
    ∃ key, derivePrivateKey? identifier secret round network = some key ∧
      key.network = network ∧
      key.scalar = candidate stream (Nat.nth (Usable stream) (max round 1 - 1)) := by
  subst keyed
  have some : (derivePrivateKey? identifier secret round network).isSome = true :=
    isSome_derivePrivateKey?_iff.mpr ⟨_, seeded, hasUsable_iff.mpr ⟨i, usable⟩⟩
  obtain ⟨key, derived⟩ := Option.isSome_iff_exists.mp some
  obtain ⟨_, j, own, scalar, ofNetwork, count⟩ := exists_of_derivePrivateKey? derived
  obtain rfl := Except.ok.inj (seeded.symm.trans own)
  have valid : isValidScalar (candidate (sha256 seed) j) = true := scalar ▸ key.valid
  have position := Nat.nth_count (p := fun i => isValidScalar (candidate (sha256 seed) i) = true)
    valid
  have skipped : round - 1 = max round 1 - 1 := by omega
  refine ⟨key, derived, ofNetwork, ?_⟩
  rw [scalar, ← isValidScalar_candidate, ← skipped, ← count]
  exact congrArg _ position.symm

/-- The rounds of an identifier number the usable candidates of its stream, in their order.

There is no key when the identifier or the secret spells no integer. Otherwise the stream is that of
the least forms of both integers. Its candidates are its bytes cut every 32, and unless all of them
are unusable, every round has a key: that of the first round is the first usable candidate, that of
any other the next one behind the round before it, and round zero has the key of the first. -/
theorem rounds_number_usable_candidates (identifier : String) (secret : SecretText) :
    ((¬ ∃ n, SpellsInteger identifier n) ∨ (¬ ∃ k, SpellsInteger secret.text k) →
      ∀ round network, derivePrivateKey? identifier secret round network = none) ∧
    ∀ n k a b, SpellsInteger identifier n → SpellsInteger secret.text k →
      LeastForm n a → LeastForm k b →
      (∀ i blocks, i < 2 * blocks →
        (candidate (streamKey a b) i).bytes =
          ((streamBytes (streamKey a b) blocks).drop (32 * i)).take 32) ∧
      ((∃ i, Usable (streamKey a b) i) →
        Enumerates (Usable (streamKey a b)) (Nat.nth (Usable (streamKey a b))) ∧
        ∀ round network, ∃ key,
          derivePrivateKey? identifier secret round network = some key ∧
            key.network = network ∧
            key.scalar = candidate (streamKey a b)
              (Nat.nth (Usable (streamKey a b)) (max round 1 - 1))) := by
  refine ⟨fun malformed round network => derivePrivateKey?_eq_none malformed, ?_⟩
  intro n k a b spells known least least'
  refine ⟨fun i blocks within => candidate_bytes within, ?_⟩
  rintro ⟨i, usable⟩
  obtain ⟨seed, seeded, keyed⟩ := exists_seed_of_spells spells known least least'
  refine ⟨enumerates_nth (infinite_usable usable), fun round network => ?_⟩
  exact exists_derivePrivateKey?_eq round network seeded keyed usable

/-- The first two candidates of a stream are usable, and they are the keys of the rounds zero and
two. -/
theorem first_candidates_are_keys :
    (∃ key, derivePrivateKey? "01" ⟨"0x102"⟩ 0 .testnet = some key ∧
      key.scalar = candidate (streamKey [1] [1, 2]) 0) ∧
    (∃ key, derivePrivateKey? "01" ⟨"0x102"⟩ 2 .testnet = some key ∧
      key.scalar = candidate (streamKey [1] [1, 2]) 1) ∧
    derivePrivateKey? "one" ⟨"0x102"⟩ 1 .testnet = none := by
  have spells : SpellsInteger "01" 1 := denoted?_eq_some_iff.mp (by decide +kernel)
  have known : SpellsInteger "0x102" 258 := denoted?_eq_some_iff.mp (by decide +kernel)
  have unspelled : ¬ ∃ n, SpellsInteger "one" n := by
    rintro ⟨n, spells⟩
    have none : denoted? "one" = none := by decide +kernel
    cases none.symm.trans (denoted?_eq_some_iff.mpr spells)
  have least : LeastForm 1 [1] := ⟨by decide, by decide, by decide⟩
  have least' : LeastForm 258 [1, 2] := ⟨by decide, by decide, by decide⟩
  have usable : Usable (streamKey [1] [1, 2]) 0 := by decide +kernel
  have usable' : Usable (streamKey [1] [1, 2]) 1 := by decide +kernel
  have first : Nat.nth (Usable (streamKey [1] [1, 2])) 0 = 0 := Nat.nth_count usable
  have second : Nat.nth (Usable (streamKey [1] [1, 2])) 1 = 1 := by
    have counted := Nat.nth_count usable'
    rwa [Nat.count_succ, if_pos usable] at counted
  have keys := ((rounds_number_usable_candidates "01" ⟨"0x102"⟩).2 1 258 [1] [1, 2] spells known
    least least').2 ⟨0, usable⟩
  obtain ⟨key, derived, -, scalar⟩ := keys.2 0 .testnet
  obtain ⟨key', derived', -, scalar'⟩ := keys.2 2 .testnet
  refine ⟨⟨key, derived, ?_⟩, ⟨key', derived', ?_⟩, ?_⟩
  · rw [scalar]
    exact congrArg _ first
  · rw [scalar']
    exact congrArg _ second
  · exact (rounds_number_usable_candidates "one" ⟨"0x102"⟩).1 (.inl unspelled) 1 .testnet

end Cosigner
