import Cosigner.Proofs.Key.Derivation
import Cosigner.Proofs.Key.Secret
import Cosigner.Proofs.Result
/-!
Which identifiers share a seed.

The bytes of an identifier are repeated along those of the secret, so what they look like in a seed
does not tell how long they were: under a secret of two bytes, `01` and `0101` are one user
(`repeated_identifier_shares_seed`). That is the only way to share a seed
(`seeds_agree_iff_alike`). It takes identifiers that are no longer than the secret and fill
its length with the same bytes, and two of the same length never do (`AlikeAlong.length_ne`).
-/

namespace Cosigner

/-- A byte string repeated, or cut, to a length. -/
def cycled (length : Nat) (bytes : Bytes) : Bytes :=
  (List.range length).map fun i => bytes.getD (i % bytes.length) 0

theorem length_cycled (length : Nat) (bytes : Bytes) : (cycled length bytes).length = length := by
  simp [cycled]

/-- Repeating begins with the byte string itself. -/
theorem take_cycled {length : Nat} {bytes : Bytes} (fits : bytes.length ≤ length) :
    (cycled length bytes).take bytes.length = bytes := by
  refine List.ext_getElem (by simp [length_cycled, fits]) fun i _ within => ?_
  simp [cycled, Nat.mod_eq_of_lt within, within]

theorem cycled_length (bytes : Bytes) : cycled bytes.length bytes = bytes := by
  have whole := take_cycled (Nat.le_refl bytes.length)
  rwa [List.take_of_length_le (length_cycled _ _).le] at whole

/-! ### Exclusive or along the longer operand -/

theorem xorCyclic_eq (a b : Bytes) :
    xorCyclic a b =
      Bytes.xor (cycled (max a.length b.length) a) (cycled (max a.length b.length) b) := by
  simp [xorCyclic, Bytes.xor, cycled, List.zipWith_map]

theorem length_xorCyclic (a b : Bytes) : (xorCyclic a b).length = max a.length b.length := by
  simp [xorCyclic]

/-- What was mixed with a byte string as long can be told from the mixture. -/
theorem xor_left_inj {a b key : Bytes} (long : a.length = key.length)
    (long' : b.length = key.length) : Bytes.xor a key = Bytes.xor b key ↔ a = b := by
  constructor
  · intro same
    refine List.ext_getElem (long.trans long'.symm) fun i within within' => ?_
    have mixed : (Bytes.xor a key)[i]? = (Bytes.xor b key)[i]? := congrArg (·[i]?) same
    have there : i < key.length := long ▸ within
    simpa [Bytes.xor, List.getElem?_zipWith, within, within', there] using mixed
  · rintro rfl
    rfl

/-- Two byte strings that fill the length of a third with the same bytes. -/
structure AlikeAlong (key a b : Bytes) : Prop where
  left : a.length ≤ key.length
  right : b.length ≤ key.length
  same : cycled key.length a = cycled key.length b

/-- Two byte strings give one mixture with a third when they are the same, or alike along it. -/
theorem xorCyclic_left_inj {a b key : Bytes} :
    xorCyclic a key = xorCyclic b key ↔ a = b ∨ AlikeAlong key a b := by
  constructor
  · intro same
    have lengths := congrArg List.length same
    rw [length_xorCyclic, length_xorCyclic] at lengths
    rw [xorCyclic_eq, xorCyclic_eq, ← lengths,
      xor_left_inj (by simp [length_cycled]) (by simp [length_cycled])] at same
    by_cases long : key.length < a.length
    · -- One that is longer than the third is seen as it is, and so is the other then.
      have longer : max a.length key.length = a.length := by omega
      have equal : b.length = a.length := by omega
      rw [longer, cycled_length, ← equal, cycled_length] at same
      exact .inl same
    · have shorter : max a.length key.length = key.length := by omega
      rw [shorter] at same
      exact .inr ⟨by omega, by omega, same⟩
  · rintro (rfl | ⟨left, right, same⟩)
    · rfl
    · rw [xorCyclic_eq, xorCyclic_eq, Nat.max_eq_right left, Nat.max_eq_right right, same]

/-- Different byte strings of one length are not alike along any other. -/
theorem AlikeAlong.length_ne {a b key : Bytes} (alike : AlikeAlong key a b) (different : a ≠ b) :
    a.length ≠ b.length := by
  intro lengths
  refine different ?_
  rw [← take_cycled alike.left, alike.same, lengths, take_cycled alike.right]

/-! ### Seeds -/

variable {identifier identifier' : String} {secret : SecretText} {n n' k : Nat}

theorem derivationSeed_of_denoted (denotes : denoted? identifier = some n)
    (known : denoted? secret.text = some k) :
    derivationSeed identifier secret = .ok (xorCyclic (leastBytes n) (leastBytes k)) := by
  have id := integerBytes_eq_ok_iff.mpr ⟨n, denotes, rfl⟩
  have key := integerBytes_eq_ok_iff.mpr ⟨k, known, rfl⟩
  exact Result.bind_eq_ok_iff.mpr ⟨_, id, Result.bind_eq_ok_iff.mpr ⟨_, key, rfl⟩⟩

/-- Where two identifiers have a key in common, the streams of their seeds have a candidate in
common. -/
theorem exists_candidate_of_equal_scalars {seed seed' : Bytes} {round round' : Nat}
    {network network' : Network} {key key' : PrivateKey}
    (seeded : derivationSeed identifier secret = .ok seed)
    (seeded' : derivationSeed identifier' secret = .ok seed')
    (derived : derivePrivateKey? identifier secret round network = some key)
    (derived' : derivePrivateKey? identifier' secret round' network' = some key')
    (shared : key.scalar = key'.scalar) :
    ∃ i j, candidate (sha256 seed) i = candidate (sha256 seed') j := by
  obtain ⟨_, i, own, scalar, -⟩ := exists_of_derivePrivateKey? derived
  obtain ⟨_, j, own', scalar', -⟩ := exists_of_derivePrivateKey? derived'
  obtain rfl := Except.ok.inj (own.symm.trans seeded)
  obtain rfl := Except.ok.inj (own'.symm.trans seeded')
  exact ⟨i, j, scalar.symm.trans (shared.trans scalar')⟩

/-- Two identifiers that denote different integers have one seed exactly when they are alike along
the secret. A key that they have in common otherwise is a collision: of the hash that makes stream
keys of seeds, or of the streams of two stream keys. -/
theorem seeds_agree_iff_alike (identifier identifier' : String) (secret : SecretText)
    (n n' k : Nat) (denotes : denoted? identifier = some n)
    (denotes' : denoted? identifier' = some n') (different : n ≠ n')
    (known : denoted? secret.text = some k) :
    ∃ seed seed', derivationSeed identifier secret = .ok seed ∧
      derivationSeed identifier' secret = .ok seed' ∧
      (seed = seed' ↔ AlikeAlong (leastBytes k) (leastBytes n) (leastBytes n')) ∧
      ∀ round round' network network' key key',
        derivePrivateKey? identifier secret round network = some key →
        derivePrivateKey? identifier' secret round' network' = some key' →
        key.scalar = key'.scalar → seed ≠ seed' →
        sha256 seed = sha256 seed' ∨
          (sha256 seed ≠ sha256 seed' ∧
            ∃ i j, candidate (sha256 seed) i = candidate (sha256 seed') j) := by
  have seeded := derivationSeed_of_denoted denotes known
  have seeded' := derivationSeed_of_denoted denotes' known
  refine ⟨_, _, seeded, seeded', ?_, ?_⟩
  · rw [xorCyclic_left_inj, leastBytes_inj, or_iff_right different]
  · intro round round' network network' key key' derived derived' shared _
    by_cases digests : sha256 (xorCyclic (leastBytes n) (leastBytes k)) =
        sha256 (xorCyclic (leastBytes n') (leastBytes k))
    · exact .inl digests
    · exact .inr ⟨digests,
        exists_candidate_of_equal_scalars seeded seeded' derived derived' shared⟩

/-- Two identifiers of one byte have different seeds. -/
theorem single_bytes_have_own_seeds :
    ∃ seed seed', derivationSeed "01" ⟨"0102"⟩ = .ok seed ∧
      derivationSeed "0x2" ⟨"0102"⟩ = .ok seed' ∧ seed ≠ seed' := by
  have denotes : denoted? "01" = some 1 := by decide +kernel
  have denotes' : denoted? "0x2" = some 2 := by decide +kernel
  have known : denoted? "0102" = some 258 := by decide +kernel
  obtain ⟨seed, seed', seeded, seeded', agree, -⟩ := seeds_agree_iff_alike "01" "0x2" ⟨"0102"⟩
    1 2 258 denotes denotes' (by decide) known
  have different : leastBytes 1 ≠ leastBytes 2 := leastBytes_inj.not.mpr (by decide)
  have lengths : (leastBytes 1).length = (leastBytes 2).length := by decide +kernel
  exact ⟨seed, seed', seeded, seeded', fun same => (agree.mp same).length_ne different lengths⟩

/-- Under a secret of two bytes, an identifier of one byte is the one that repeats this byte. -/
theorem repeated_identifier_shares_seed :
    ∃ n n' seed, denoted? "01" = some n ∧ denoted? "0101" = some n' ∧ n ≠ n' ∧
      derivationSeed "01" ⟨"0102"⟩ = .ok seed ∧ derivationSeed "0101" ⟨"0102"⟩ = .ok seed ∧
      ∀ round network, derivePrivateKey? "01" ⟨"0102"⟩ round network =
        derivePrivateKey? "0101" ⟨"0102"⟩ round network := by
  have denotes : denoted? "01" = some 1 := by decide +kernel
  have denotes' : denoted? "0101" = some 257 := by decide +kernel
  have known : denoted? "0102" = some 258 := by decide +kernel
  have alike : xorCyclic (leastBytes 1) (leastBytes 258) =
      xorCyclic (leastBytes 257) (leastBytes 258) := by
    decide +kernel
  have seeded := @derivationSeed_of_denoted "01" ⟨"0102"⟩ _ _ denotes known
  have seeded' := @derivationSeed_of_denoted "0101" ⟨"0102"⟩ _ _ denotes' known
  rw [← alike] at seeded'
  refine ⟨1, 257, _, denotes, denotes', by decide, seeded, seeded', fun round network => ?_⟩
  rw [derivePrivateKey?, derivePrivateKey?, seeded, seeded']

end Cosigner
