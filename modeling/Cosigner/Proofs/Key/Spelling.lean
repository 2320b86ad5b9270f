import Cosigner.Proofs.Key.Seed
import Cosigner.Proofs.Text.Blank
/-!
All spellings of an integer have the same bytes.

A spelling is made of digits to base sixteen behind at most one mark, with nothing but blanks around
them (`SpellsInteger`). A text has bytes exactly when it is such a spelling, and they are the least
form of the integer (`integerBytes_is_canonical`), which does not tell how the integer was spelled.
A key is derived from these bytes alone, so the spelling of an identifier or a secret does not
change it.
-/

namespace Cosigner

/-! ### Digits -/

namespace Hex

/-- Characters that are the digits of these values, in letters of either case. -/
def AreDigits (text : List Char) (values : List Nat) : Prop :=
  List.Forall₂ (fun c value => value < 16 ∧ c.toLower = digit value) text values

variable {n m : Nat} {text : List Char}

/-- Digits are read behind those of `n` as what their values make of `n`. -/
theorem numberFrom?_eq_some_iff :
    numberFrom? n text = some m ↔
      ∃ values, AreDigits text values ∧ m = values.foldl (fun acc value => acc * 16 + value) n := by
  induction text generalizing n with
  | nil => simp [numberFrom?, AreDigits, eq_comm]
  | cons c text ih =>
    simp only [numberFrom?, AreDigits, List.forall₂_cons_left_iff]
    constructor
    · intro number
      split at number
      · cases number
      · rename_i value read
        obtain ⟨values, digits, rfl⟩ := ih.mp number
        rw [Nat.mul_comm 16 n]
        exact ⟨_, ⟨value, values, digit?_eq_some_iff.mp read, digits, rfl⟩, rfl⟩
    · rintro ⟨_, ⟨value, values, read, digits, rfl⟩, rfl⟩
      rw [digit?_eq_some_iff.mpr read]
      dsimp only
      rw [ih, Nat.mul_comm 16 n]
      exact ⟨values, digits, rfl⟩

/-- Digits are neither blanks nor the letter of a mark. -/
theorem AreDigits.solid {values : List Nat} (digits : AreDigits text values) :
    ∀ c ∈ text, Text.isBlank c = false ∧ c ≠ 'x' ∧ c ≠ 'X' := by
  induction digits with
  | nil => simp
  | cons here _ ih =>
    have read := digit?_eq_some_iff.mpr here
    refine List.forall_mem_cons.mpr ⟨⟨isBlank_of_digit? read, ?_, ?_⟩, ih⟩
    · rintro rfl
      cases read
    · rintro rfl
      cases read

end Hex

/-! ### Spellings -/

/-- What may stand in front of the digits of an integer. -/
def hexMarks : List (List Char) := [[], ['0', 'x'], ['0', 'X']]

/-- A text that spells an integer: at least one digit to base sixteen behind at most one mark, with
nothing but blanks around them. -/
def SpellsInteger (text : String) (n : Nat) : Prop :=
  ∃ mark digits values, mark ∈ hexMarks ∧ digits ≠ [] ∧ Hex.AreDigits digits values ∧
    n = Radix.value 16 values ∧ Text.StandsIn (mark ++ digits) text.toList

theorem mem_hexMarks_iff {mark : List Char} :
    mark ∈ hexMarks ↔ mark = [] ∨ mark = ['0', 'x'] ∨ mark = ['0', 'X'] := by
  simp [hexMarks]

theorem exists_mark_append_dropHexMark (text : List Char) :
    ∃ mark ∈ hexMarks, text = mark ++ dropHexMark text := by
  unfold dropHexMark
  split
  · exact ⟨['0', 'x'], mem_hexMarks_iff.mpr (.inr (.inl rfl)), rfl⟩
  · exact ⟨['0', 'X'], mem_hexMarks_iff.mpr (.inr (.inr rfl)), rfl⟩
  · exact ⟨[], mem_hexMarks_iff.mpr (.inl rfl), rfl⟩

theorem isBlank_of_mem_mark {mark : List Char} (marked : mark ∈ hexMarks) :
    ∀ c ∈ mark, Text.isBlank c = false := by
  rcases mem_hexMarks_iff.mp marked with rfl | rfl | rfl
  · simp
  · simp [Text.isBlank]
  · simp [Text.isBlank]

/-- A mark is dropped from digits, and no digits are taken for a mark. -/
theorem dropHexMark_append {mark digits : List Char} {values : List Nat} (marked : mark ∈ hexMarks)
    (read : Hex.AreDigits digits values) : dropHexMark (mark ++ digits) = digits := by
  have solid := read.solid
  rcases mem_hexMarks_iff.mp marked with rfl | rfl | rfl
  · unfold dropHexMark
    rw [List.nil_append]
    split
    · exact absurd rfl (solid 'x' (by simp)).2.1
    · exact absurd rfl (solid 'X' (by simp)).2.2
    · rfl
  · rfl
  · rfl

/-- A text denotes an integer exactly when it spells it. -/
theorem denoted?_eq_some_iff {text : String} {n : Nat} :
    denoted? text = some n ↔ SpellsInteger text n := by
  unfold denoted? SpellsInteger
  constructor
  · intro denotes
    obtain ⟨mark, marked, whole⟩ := exists_mark_append_dropHexMark (Text.trim text.toList)
    have stands := Text.standsIn_trim text.toList
    rw [whole] at stands
    dsimp only at denotes
    split at denotes
    · cases denotes
    · rename_i some
      obtain ⟨values, read, rfl⟩ := Hex.numberFrom?_eq_some_iff.mp denotes
      exact ⟨mark, _, values, marked, by simpa using some, read, rfl, stands⟩
  · rintro ⟨mark, digits, values, marked, some, read, rfl, stands⟩
    have solid : ∀ c ∈ mark ++ digits, Text.isBlank c = false := by
      exact List.forall_mem_append.mpr
        ⟨isBlank_of_mem_mark marked, fun c mem => (read.solid c mem).1⟩
    rw [Text.trim_of_standsIn solid stands, dropHexMark_append marked read]
    dsimp only
    rw [if_neg (by simpa using some)]
    exact Hex.numberFrom?_eq_some_iff.mpr ⟨values, read, rfl⟩

/-! ### Least forms -/

/-- Bytes that denote a number, the first of them no zero, or the zero byte of zero. -/
structure LeastForm (n : Nat) (bytes : Bytes) : Prop where
  value : bytes.toNatBE = n
  nonempty : bytes ≠ []
  leading : bytes.head? = some 0 → bytes = [0]

theorem leastForm_iff {n : Nat} {bytes : Bytes} : LeastForm n bytes ↔ bytes = leastBytes n := by
  constructor
  · rintro ⟨rfl, nonempty, leading⟩
    rw [← minimalBytes_eq, minimalBytes]
    match bytes, nonempty with
    | b :: rest, _ =>
      by_cases zero : b = 0
      · rw [leading (by rw [zero]; rfl)]
        rfl
      · rw [List.dropWhile_cons_of_neg (by simpa using zero)]
  · rintro rfl
    refine ⟨toNatBE_leastBytes n, ?_, ?_⟩
    · unfold leastBytes
      split
      · exact List.cons_ne_nil 0 []
      · assumption
    · unfold leastBytes
      split
      · exact fun _ => rfl
      · intro leading
        exact absurd leading (Bytes.head?_map_ofNat_digits_ne n)

/-- The bytes of a text are the least form of the integer that it spells. -/
theorem integerBytes_eq_ok_iff_spells {text : String} {bytes : Bytes} :
    integerBytes text = .ok bytes ↔ ∃ n, SpellsInteger text n ∧ LeastForm n bytes := by
  rw [integerBytes_eq_ok_iff]
  simp only [denoted?_eq_some_iff, leastForm_iff]

theorem integerBytes_of_spells {text : String} {n : Nat} (spells : SpellsInteger text n) :
    integerBytes text = .ok (leastBytes n) :=
  integerBytes_eq_ok_iff.mpr ⟨n, denoted?_eq_some_iff.mpr spells, rfl⟩

/-! ### Derivation -/

/-- A key depends on the bytes of the identifier and of the secret, and on neither text. -/
theorem derivePrivateKey?_congr {identifier identifier' : String} {secret secret' : SecretText}
    (identifiers : integerBytes identifier = integerBytes identifier')
    (secrets : secret.integerBytes = secret'.integerBytes) (round : Nat) (network : Network) :
    derivePrivateKey? identifier secret round network =
      derivePrivateKey? identifier' secret' round network := by
  have seeds : derivationSeed identifier secret = derivationSeed identifier' secret' := by
    rw [derivationSeed, derivationSeed, identifiers, secrets]
  rw [derivePrivateKey?, derivePrivateKey?, seeds]

/-- A text has bytes exactly when it spells an integer, and they are its least form, of which there
is one. So two spellings have the same bytes exactly when they are of one integer; then the same
keys are derived from both, as identifiers and as secrets. -/
theorem integerBytes_is_canonical :
    (∀ text bytes, integerBytes text = .ok bytes ↔ ∃ n, SpellsInteger text n ∧ LeastForm n bytes) ∧
    (∀ n, ∃! bytes, LeastForm n bytes) ∧
    (∀ text text' n n', SpellsInteger text n → SpellsInteger text' n' →
      (integerBytes text = integerBytes text' ↔ n = n')) ∧
    ∀ text text' n, SpellsInteger text n → SpellsInteger text' n →
      (∀ secret round network, derivePrivateKey? text secret round network =
        derivePrivateKey? text' secret round network) ∧
      ∀ identifier round network, derivePrivateKey? identifier ⟨text⟩ round network =
        derivePrivateKey? identifier ⟨text'⟩ round network := by
  refine ⟨fun text bytes => integerBytes_eq_ok_iff_spells, fun n => ?_, ?_, ?_⟩
  · exact ⟨leastBytes n, leastForm_iff.mpr rfl, fun bytes least => leastForm_iff.mp least⟩
  · intro text text' n n' spells spells'
    rw [integerBytes_of_spells spells, integerBytes_of_spells spells', Except.ok.injEq,
      leastBytes_inj]
  · intro text text' n spells spells'
    have same : integerBytes text = integerBytes text' := by
      rw [integerBytes_of_spells spells, integerBytes_of_spells spells']
    exact ⟨fun secret => derivePrivateKey?_congr same rfl,
      fun identifier => derivePrivateKey?_congr rfl same⟩

/-- A mark, zeros in front, capital letters and blanks around are not seen in a key. -/
theorem two_spellings_share_keys :
    integerBytes " 0X00aBc\n" = .ok [0x0a, 0xbc] ∧ integerBytes "abc" = .ok [0x0a, 0xbc] ∧
      ∀ secret round network, derivePrivateKey? " 0X00aBc\n" secret round network =
        derivePrivateKey? "abc" secret round network := by
  obtain ⟨bytes, -, -, keys⟩ := integerBytes_is_canonical
  have spells : SpellsInteger " 0X00aBc\n" 2748 :=
    denoted?_eq_some_iff.mp (by decide +kernel)
  have spells' : SpellsInteger "abc" 2748 := denoted?_eq_some_iff.mp (by decide +kernel)
  have least : LeastForm 2748 [0x0a, 0xbc] := ⟨by decide, by decide, by decide⟩
  exact ⟨(bytes _ _).mpr ⟨2748, spells, least⟩, (bytes _ _).mpr ⟨2748, spells', least⟩,
    (keys _ _ 2748 spells spells').1⟩

end Cosigner
