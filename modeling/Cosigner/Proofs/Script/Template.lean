import Cosigner.Proofs.Address
import Cosigner.Script.Template
/-!
Standard output scripts, and the addresses that they pay to.

A script is recognized as paying to a hash exactly when it is the script that does so
(`classify?_eq_some_iff`), so scripts that are nearly standard are not recognized. The script of an
address text depends on the kind that its version byte says (`lockingScript_eq_ok_iff`), and the
bytes of both kinds are listed by `PaysTo` (`lockingScript_eq_ok_iff_paysTo`).
-/

namespace Cosigner

namespace Script

/-- Twenty bytes that are recognized as a hash stand in front of what follows it. -/
theorem eq_append_of_recognized {rest behind : Bytes} {of kind : AddressKind} {hash : Hash160}
    (follows : rest.drop 20 = behind)
    (recognized : (FixedBytes.ofBytes? 20 (rest.take 20)).map (fun hash => (of, hash)) =
      some (kind, hash)) : of = kind ∧ rest = hash.bytes ++ behind := by
  obtain ⟨_, front, same⟩ := Option.map_eq_some_iff.mp recognized
  cases same
  refine ⟨rfl, ?_⟩
  rw [FixedBytes.ofBytes?_eq_some.mp front, ← follows, List.take_append_drop]

/-- A script is recognized as paying to a hash exactly when it is the script that does so. -/
theorem classify?_eq_some_iff {script : Bytes} {kind : AddressKind} {hash : Hash160} :
    classify? script = some (kind, hash) ↔ script = payTo kind hash := by
  constructor
  · intro recognized
    unfold classify? at recognized
    split at recognized
    · split at recognized
      · rename_i follows
        obtain ⟨rfl, rfl⟩ := eq_append_of_recognized follows recognized
        rfl
      · cases recognized
    · split at recognized
      · rename_i follows
        obtain ⟨rfl, rfl⟩ := eq_append_of_recognized follows recognized
        rfl
      · cases recognized
    · cases recognized
  · rintro rfl
    exact classify?_payTo kind hash

/-- The script of an address text is that of the kind and the hash which it stands for. -/
theorem lockingScript_eq_ok_iff {text : String} {script : Bytes} :
    lockingScript text = .ok script ↔ ∃ address kind, Address.decode? text = some address ∧
      address.kind? = some kind ∧ script = payTo kind address.hash := by
  rw [lockingScript]
  constructor
  · intro pays
    split at pays
    · cases pays
    · rename_i address read
      split at pays
      · cases pays
      · rename_i kind isKind
        cases pays
        exact ⟨address, kind, read, isKind, rfl⟩
  · rintro ⟨address, kind, read, isKind, rfl⟩
    simp only [read, isKind]

/-- The output scripts that pay to an address text, byte by byte: one form for the hash of a public
key, one for the hash of a script. -/
inductive PaysTo : Bytes → String → Prop where
  | keyHash (network : Network) (hash : Hash160) :
    PaysTo (0x76 :: 0xa9 :: 0x14 :: hash.bytes ++ [0x88, 0xac])
      (Address.encode ⟨network.keyHashVersion, hash⟩)
  | scriptHash (network : Network) (hash : Hash160) :
    PaysTo (0xa9 :: 0x14 :: hash.bytes ++ [0x87])
      (Address.encode ⟨network.scriptHashVersion, hash⟩)

/-- The script of an address text is the one that pays to it. -/
theorem lockingScript_eq_ok_iff_paysTo {text : String} {script : Bytes} :
    lockingScript text = .ok script ↔ PaysTo script text := by
  rw [lockingScript_eq_ok_iff]
  constructor
  · rintro ⟨⟨version, hash⟩, kind, read, isKind, rfl⟩
    obtain ⟨network, rfl⟩ := Address.kind?_eq_some_iff.mp isKind
    rw [Address.decode?_eq_some_iff.mp read]
    cases kind with
    | keyHash => exact .keyHash network hash
    | scriptHash => exact .scriptHash network hash
  · intro pays
    cases pays with
    | keyHash network hash =>
      exact ⟨_, .keyHash, Address.decode?_encode _,
        Address.kind?_versionOf network .keyHash hash, rfl⟩
    | scriptHash network hash =>
      exact ⟨_, .scriptHash, Address.decode?_encode _,
        Address.kind?_versionOf network .scriptHash hash, rfl⟩

theorem PaysTo.length_le {text : String} {script : Bytes} (pays : PaysTo script text) :
    script.length ≤ 25 := by
  cases pays with
  | keyHash _ hash => simp [hash.length_eq]
  | scriptHash _ hash => simp [hash.length_eq]

end Script

end Cosigner
