import Cosigner.Key.PrivateKey
import Cosigner.Proofs.Base58
import Cosigner.Proofs.Bytes.Order
/-!
Private keys and their texts determine each other.

A scalar is usable when the number it denotes is one from 1 to the group order less one
(`isValidScalar_iff`). The 37 bytes of a key's text are its version, its scalar and their checksum
(`ofBytes_eq_ok_iff`), and Base58 has one text for each byte string, so a key is read from its own
text and from no other (`text_and_key_determine_each_other`). In particular there is no text of a
compressed key, of a scalar out of range or of another version byte that is read as some key.
-/

namespace Cosigner

/-- A scalar is usable when it is a number from 1 to the group order less one. -/
theorem isValidScalar_iff {scalar : FixedBytes 32} :
    isValidScalar scalar = true ↔ 0 < scalar.toNatBE ∧ scalar.toNatBE < Secp256k1.order := by
  have length : scalar.bytes.length = orderBytes.length := by
    rw [scalar.length_eq, orderBytes, Bytes.length_ofNatBE]
  have order : Bytes.toNatBE orderBytes = Secp256k1.order := by
    rw [orderBytes, Bytes.toNatBE_ofNatBE]
    decide +kernel
  rw [isValidScalar, Bool.and_eq_true, List.any_eq_true, decide_eq_true_iff,
    Bytes.lt_iff_toNatBE_lt length, order, FixedBytes.toNatBE, Bytes.toNatBE_pos_iff]
  simp only [bne_iff_ne]

/-- A version byte is that of the network which it is read as. -/
theorem Network.ofKeyVersion?_eq_some_iff {version : UInt8} {network : Network} :
    ofKeyVersion? version = some network ↔ version = network.keyVersion := by
  constructor
  · intro read
    unfold ofKeyVersion? at read
    split at read
    · cases read
      assumption
    · split at read
      · cases read
        assumption
      · cases read
  · rintro rfl
    exact ofKeyVersion?_keyVersion network

namespace PrivateKey

variable {scalar : FixedBytes 32} {network : Network} {key : PrivateKey} {bytes : Bytes}
  {text : String}

theorem ofScalar_eq_ok_iff :
    ofScalar scalar network = .ok key ↔ key.scalar = scalar ∧ key.network = network := by
  obtain ⟨own, ownNetwork, valid⟩ := key
  unfold ofScalar
  split
  · simp [eq_comm]
  · rename_i unusable
    simp only [reduceCtorEq, false_iff]
    rintro ⟨rfl, -⟩
    exact unusable valid

/-- A public key takes 65 bytes at most. -/
theorem length_publicKey_le (key : PrivateKey) : key.publicKey.length ≤ 65 := by
  rw [publicKey]
  cases Secp256k1.Point.times key.scalar.toNatBE .generator with
  | infinity => simp [Secp256k1.Point.encode]
  | affine x y => simp [Secp256k1.Point.encode]

@[simp] theorem length_payload (key : PrivateKey) : key.payload.length = 33 := by
  rw [payload, List.length_cons, key.scalar.length_eq]

theorem take_eq_headD_cons (length : bytes.length = 37) :
    bytes.take 33 = bytes.headD 0 :: (bytes.take 33).drop 1 := by
  cases bytes with
  | nil => cases length
  | cons first rest => rfl

/-- The bytes of a key are its version, its scalar and the checksum of both. -/
theorem ofBytes_eq_ok_iff :
    ofBytes bytes = .ok key ↔ bytes = key.payload ++ checksum key.payload := by
  constructor
  · intro read
    unfold ofBytes at read
    split at read
    · cases read
    rename_i length
    split at read
    · cases read
    rename_i guarded
    have length : bytes.length = 37 := Decidable.not_not.mp length
    have guarded : checksum (bytes.take 33) = bytes.drop 33 := Decidable.not_not.mp guarded
    dsimp only at read
    split at read
    · rename_i network scalar version front
      obtain ⟨same, rfl⟩ := ofScalar_eq_ok_iff.mp read
      have version := Network.ofKeyVersion?_eq_some_iff.mp version
      have front := FixedBytes.ofBytes?_eq_some.mp front
      have shape : bytes.take 33 = key.payload := by
        rw [payload, same, front, ← version]
        exact take_eq_headD_cons length
      rw [← shape, guarded, List.take_append_drop]
    · cases read
  · rintro rfl
    have length := key.length_payload
    have front : (key.payload ++ checksum key.payload).take 33 = key.payload :=
      List.take_left' length
    have behind : (key.payload ++ checksum key.payload).drop 33 = checksum key.payload :=
      List.drop_left' length
    have whole : (key.payload ++ checksum key.payload).length = wifLength := by
      rw [List.length_append, length, length_checksum]
      rfl
    have version : (key.payload ++ checksum key.payload).headD 0 = key.network.keyVersion := rfl
    have block : FixedBytes.ofBytes? 32 (key.payload.drop 1) = some key.scalar :=
      FixedBytes.ofBytes?_eq_some.mpr rfl
    simp only [ofBytes, whole, front, behind, version, block, ne_eq, not_true_eq_false, if_false,
      Network.ofKeyVersion?_keyVersion]
    exact ofScalar_eq_ok_iff.mpr ⟨rfl, rfl⟩

/-- A text is read as the key that it is the text of. -/
theorem ofWif_eq_ok_iff : ofWif text = .ok key ↔ text = key.toWif := by
  rw [toWif, ← Base58.decode_eq_ok_iff, ofWif]
  cases Base58.decode text with
  | error fault => simp
  | ok bytes => simp [ofBytes_eq_ok_iff]

/-- A guarded byte string is the text of a key when it is a version byte of a network and a scalar
in range. -/
theorem exists_toWif_eq_iff {content : Bytes} :
    (∃ key : PrivateKey, Base58.encode (content ++ checksum content) = key.toWif) ↔
      ∃ network : Network, ∃ scalar : FixedBytes 32,
        content = network.keyVersion :: scalar.bytes ∧
          0 < scalar.toNatBE ∧ scalar.toNatBE < Secp256k1.order := by
  constructor
  · rintro ⟨key, same⟩
    have read := Base58.decode_eq_ok_iff.mpr same
    rw [Base58.decode_encode] at read
    obtain ⟨rfl, -⟩ := List.append_inj' (Except.ok.inj read) (by simp)
    exact ⟨key.network, key.scalar, rfl, isValidScalar_iff.mp key.valid⟩
  · rintro ⟨network, scalar, rfl, range⟩
    exact ⟨⟨scalar, network, isValidScalar_iff.mpr range⟩, rfl⟩

/-- A text and the key it carries determine each other: a text is read as a key exactly when it is
the text of that key. So whatever a text carries behind a checksum that holds, it is read only when
that is the version byte of a network and 32 bytes of a number from 1 to the group order less
one. -/
theorem text_and_key_determine_each_other (text : String) (content : Bytes) :
    (∀ key : PrivateKey, ofWif text = .ok key ↔ text = key.toWif) ∧
      ((∃ key, ofWif (Base58.encode (content ++ checksum content)) = .ok key) ↔
        ∃ network : Network, ∃ scalar : FixedBytes 32,
          content = network.keyVersion :: scalar.bytes ∧
            0 < scalar.toNatBE ∧ scalar.toNatBE < Secp256k1.order) := by
  refine ⟨fun key => ofWif_eq_ok_iff, ?_⟩
  simp only [ofWif_eq_ok_iff]
  exact exists_toWif_eq_iff

end PrivateKey

end Cosigner
