import Cosigner.Address
import Cosigner.Proofs.Base58
/-!
Address texts and what they stand for.

Wallets and stores compare addresses as texts. That is the same as comparing what they stand for,
because each address has one text (`text_and_meaning_determine_each_other`): Base58 has one text for
each byte string, and the 25 bytes of an address are its version, its hash and their checksum.

* `decode?_encode`: the text of an address stands for that address and for no other.
* `decode?_eq_some_iff`: a text stands for the address that it is the text of.
* `isMultisig_eq_true_iff`: which texts are addresses of scripts; that of a public key is none
  (`not_ofScript_ofPublicKey`).
* `decode?_ofRedeemScript`: the text of a redeem script is an address of a script on its network.
* `hash160_eq_of_ofRedeemScript_eq`: two redeem scripts with one address have one hash.
-/

namespace Cosigner.Address

/-- The bytes of an address are its version, its hash and the checksum of both. -/
theorem ofBytes?_eq_some_iff {bytes : Bytes} {address : Address} :
    ofBytes? bytes = some address ↔ bytes = address.payload ++ checksum address.payload := by
  constructor
  · intro read
    unfold ofBytes? at read
    split at read
    · cases read
    · rename_i version rest
      split at read
      · split at read
        · cases read
        · rename_i hash block
          split at read
          · rename_i guarded
            cases read
            have front := FixedBytes.ofBytes?_eq_some.mp block
            rw [payload, front, guarded, List.cons_append, List.take_append_drop]
          · cases read
      · cases read
  · rintro rfl
    have front : (address.hash.bytes ++ checksum address.payload).take 20 = address.hash.bytes :=
      List.take_left' address.hash.length_eq
    have behind : (address.hash.bytes ++ checksum address.payload).drop 20 =
        checksum address.payload :=
      List.drop_left' address.hash.length_eq
    have length : (address.hash.bytes ++ checksum address.payload).length = 24 := by
      rw [List.length_append, address.hash.length_eq, length_checksum]
    have hash : FixedBytes.ofBytes? 20 address.hash.bytes = some address.hash :=
      FixedBytes.ofBytes?_eq_some.mpr rfl
    simp only [payload, List.cons_append, ofBytes?] at *
    simp only [front, behind, length, hash, if_true]

/-- A text stands for the address that it is the text of. -/
theorem decode?_eq_some_iff {text : String} {address : Address} :
    decode? text = some address ↔ text = address.encode := by
  rw [encode, ← Base58.decode_eq_ok_iff, decode?]
  cases Base58.decode text with
  | error fault => simp
  | ok bytes => simp [ofBytes?_eq_some_iff]

/-- An address is read back from its text. -/
theorem decode?_encode (address : Address) : decode? address.encode = some address :=
  decode?_eq_some_iff.mpr rfl

/-- Distinct addresses have distinct texts. -/
theorem encode_inj {a b : Address} (same : a.encode = b.encode) : a = b := by
  have read := decode?_encode a
  rw [same, decode?_encode] at read
  exact (Option.some.inj read).symm

/-- A text and its meaning determine each other: a text is read as a version byte and a hash exactly
when it is what these are written as, and no other text is read as them. -/
theorem text_and_meaning_determine_each_other (text : String) (version : UInt8) (hash : Hash160) :
    (decode? text = some ⟨version, hash⟩ ↔ text = encode ⟨version, hash⟩) ∧
      ∀ other : String, decode? text = some ⟨version, hash⟩ →
        decode? other = some ⟨version, hash⟩ → other = text := by
  refine ⟨decode?_eq_some_iff, ?_⟩
  intro other read read'
  rw [decode?_eq_some_iff.mp read, decode?_eq_some_iff.mp read']

/-- The address of a hash that is all zeros, which is 21 zero bytes in front of a checksum, has one
text, in which each of them is a character of its own. -/
theorem zero_hash_has_one_text :
    decode? "1111111111111111111114oLvT2" = some ⟨0x00, .ofNatBE 20 0⟩ ∧
      ∀ other, decode? other = some ⟨0x00, .ofNatBE 20 0⟩ →
        other = "1111111111111111111114oLvT2" := by
  have read : decode? "1111111111111111111114oLvT2" = some ⟨0x00, .ofNatBE 20 0⟩ := by
    decide +kernel
  obtain ⟨-, only⟩ := text_and_meaning_determine_each_other "1111111111111111111114oLvT2" 0x00
    (.ofNatBE 20 0)
  exact ⟨read, fun other => only other read⟩

/-! ### Kinds and networks -/

/-- A version byte says as much as a kind and a network. -/
theorem kind?_and_network?_iff {network : Network} {kind : AddressKind} {address : Address} :
    address.kind? = some kind ∧ address.network? = some network ↔
      address.version = versionOf network kind := by
  constructor
  · rintro ⟨isKind, isNetwork⟩
    simp only [kind?, network?] at isKind isNetwork
    cases network <;> cases kind <;>
      simp only [versionOf, Network.keyHashVersion, Network.scriptHashVersion] <;> grind
  · intro version
    obtain ⟨_, hash⟩ := address
    subst version
    exact ⟨kind?_versionOf network kind hash, network?_versionOf network kind hash⟩

/-- An address has a kind when its version byte is that of the kind on some network. -/
theorem kind?_eq_some_iff {kind : AddressKind} {address : Address} :
    address.kind? = some kind ↔ ∃ network, address.version = versionOf network kind := by
  constructor
  · intro isKind
    have some : address.network?.isSome = true := by
      unfold kind? at isKind
      unfold network?
      grind
    obtain ⟨network, isNetwork⟩ := Option.isSome_iff_exists.mp some
    exact ⟨network, kind?_and_network?_iff.mp ⟨isKind, isNetwork⟩⟩
  · rintro ⟨network, version⟩
    exact (kind?_and_network?_iff.mpr version).1

/-- A text is the address of the hash of a script, on either network. -/
def OfScript (text : String) : Prop :=
  ∃ (network : Network) (hash : Hash160), text = encode ⟨network.scriptHashVersion, hash⟩

theorem isMultisig_eq_true_iff {text : String} : isMultisig text = true ↔ OfScript text := by
  rw [isMultisig, beq_iff_eq, Option.bind_eq_some_iff]
  constructor
  · rintro ⟨⟨version, hash⟩, read, isKind⟩
    obtain ⟨network, rfl⟩ := kind?_eq_some_iff.mp isKind
    exact ⟨network, hash, decode?_eq_some_iff.mp read⟩
  · rintro ⟨network, hash, rfl⟩
    exact ⟨_, decode?_encode _, kind?_versionOf network .scriptHash hash⟩

/-! ### Public keys and redeem scripts -/

theorem not_ofScript_ofPublicKey (key : Bytes) (network : Network) :
    ¬ OfScript (ofPublicKey key network) := by
  rintro ⟨other, hash, same⟩
  have version : network.keyHashVersion = other.scriptHashVersion :=
    congrArg Address.version (encode_inj same)
  revert version
  cases network <;> cases other <;> decide

theorem decode?_ofRedeemScript (script : Bytes) (network : Network) :
    decode? (ofRedeemScript script network) = some ⟨network.scriptHashVersion, hash160 script⟩ :=
  decode?_encode _

/-- An address that a redeem script hashes to is that of a script, on the network it is made for. -/
theorem decode?_of_ofRedeemScript_eq {script : Bytes} {network : Network} {address : String}
    (hashes : ofRedeemScript script network = address) :
    ∃ decoded, decode? address = some decoded ∧ decoded.hash = hash160 script ∧
      decoded.kind? = some .scriptHash ∧ decoded.network? = some network := by
  subst hashes
  exact ⟨_, decode?_ofRedeemScript script network, rfl, kind?_versionOf network .scriptHash _,
    network?_versionOf network .scriptHash _⟩

/-- Redeem scripts with the same address have the same hash. -/
theorem hash160_eq_of_ofRedeemScript_eq {script script' : Bytes} {network : Network}
    (same : ofRedeemScript script network = ofRedeemScript script' network) :
    hash160 script = hash160 script' := by
  have read := encode_inj same
  exact congrArg Address.hash read

end Cosigner.Address
