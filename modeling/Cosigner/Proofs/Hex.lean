import Cosigner.Hex
import Cosigner.Proofs.Text.Blank
/-!
Hexadecimal text, in either letter case, is what spells a byte string.

`decodeChars_eq_ok_iff` says of which texts `bytes` is read: those that are its written form once
every letter is made a lower-case one. So the letter case is all that the reader forgives, and
the errors of the reader concern exactly the other texts. Digits are no blanks, so a text may also
stand between blanks where these are dropped before it is read (`decodeChars_trim_eq_ok_iff`).
-/

namespace Cosigner.Hex

/-! ### One digit -/

theorem toNat_toLower (c : Char) :
    c.toLower.toNat = if 65 ≤ c.toNat ∧ c.toNat ≤ 90 then c.toNat + 32 else c.toNat := by
  have capital : (c.val ≥ 'A'.val ∧ c.val ≤ 'Z'.val) ↔ (65 ≤ c.toNat ∧ c.toNat ≤ 90) := Iff.rfl
  delta Char.toLower
  by_cases h : 65 ≤ c.toNat ∧ c.toNat ≤ 90
  · rw [dif_pos (capital.mpr h), if_pos h, Char.toNat_mk, UInt32.toNat_add]
    have shift : ('a'.val - 'A'.val).toNat = 32 := rfl
    rw [shift, Char.toNat_val]
    omega
  · rw [dif_neg (mt capital.mp h), if_neg h]

theorem toNat_digit {n : Nat} (h : n < 16) :
    (digit n).toNat = if n < 10 then 48 + n else 87 + n := by
  have table : ∀ k : Fin 16, (digit k).toNat = if k.val < 10 then 48 + k.val else 87 + k.val := by
    decide
  exact table ⟨n, h⟩

/-- The value of a digit, by its code point. -/
theorem digit?_eq (c : Char) :
    digit? c =
      if 48 ≤ c.toNat ∧ c.toNat ≤ 57 then some (c.toNat - 48)
      else if 97 ≤ c.toNat ∧ c.toNat ≤ 102 then some (c.toNat - 97 + 10)
      else if 65 ≤ c.toNat ∧ c.toNat ≤ 70 then some (c.toNat - 65 + 10)
      else none := rfl

/-- A character has the value `n` when its lower-case form is the digit of `n`. -/
theorem digit?_eq_some_iff {c : Char} {n : Nat} :
    digit? c = some n ↔ n < 16 ∧ c.toLower = digit n := by
  rw [digit?_eq]
  by_cases small : n < 16
  · rw [← Char.toNat_inj, toNat_toLower, toNat_digit small]
    grind
  · grind

theorem isBlank_of_digit? {c : Char} {value : Nat} (read : digit? c = some value) :
    Text.isBlank c = false := by
  refine Text.isBlank_of_visible ?_
  rw [digit?_eq] at read
  grind

/-! ### Pairs of digits -/

theorem encodeChars_cons (b : UInt8) (bytes : Bytes) :
    encodeChars (b :: bytes) = digit (b.toNat / 16) :: digit (b.toNat % 16) :: encodeChars bytes :=
  rfl

theorem length_encodeChars (bytes : Bytes) : (encodeChars bytes).length = 2 * bytes.length := by
  induction bytes with
  | nil => rfl
  | cons b bytes ih =>
    rw [encodeChars_cons, List.length_cons, List.length_cons, ih, List.length_cons]
    omega

/-- What is written are digits. -/
theorem exists_digit_of_mem_encodeChars {bytes : Bytes} {c : Char} (mem : c ∈ encodeChars bytes) :
    ∃ n < 16, c = digit n := by
  obtain ⟨b, -, mem⟩ := List.mem_flatMap.mp mem
  have byte := b.toNat_lt
  rcases List.mem_cons.mp mem with rfl | mem
  · exact ⟨_, by omega, rfl⟩
  · exact ⟨_, by omega, List.mem_singleton.mp mem⟩

/-- Two digits are the written form of one byte exactly when they are its halves. -/
theorem digit?_pair_iff {hi lo : Char} {b : UInt8} :
    (hi.toLower = digit (b.toNat / 16) ∧ lo.toLower = digit (b.toNat % 16)) ↔
      ∃ h l, digit? hi = some h ∧ digit? lo = some l ∧ UInt8.ofNat (16 * h + l) = b := by
  have byte := b.toNat_lt
  constructor
  · rintro ⟨high, low⟩
    refine ⟨_, _, digit?_eq_some_iff.mpr ⟨by omega, high⟩,
      digit?_eq_some_iff.mpr ⟨by omega, low⟩, ?_⟩
    rw [Nat.div_add_mod, UInt8.ofNat_toNat]
  · rintro ⟨h, l, high, low, rfl⟩
    obtain ⟨smallHigh, high⟩ := digit?_eq_some_iff.mp high
    obtain ⟨smallLow, low⟩ := digit?_eq_some_iff.mp low
    have value : (UInt8.ofNat (16 * h + l)).toNat = 16 * h + l := by
      rw [UInt8.toNat_ofNat']
      omega
    have upper : (16 * h + l) / 16 = h := by omega
    have lower : (16 * h + l) % 16 = l := by omega
    rw [value, upper, lower]
    exact ⟨high, low⟩

/-- What a text that begins with two characters spells. -/
theorem map_toLower_pair_iff {hi lo : Char} {rest : List Char} {bytes : Bytes} :
    (hi :: lo :: rest).map Char.toLower = encodeChars bytes ↔
      ∃ h l tail, digit? hi = some h ∧ digit? lo = some l ∧
        bytes = UInt8.ofNat (16 * h + l) :: tail ∧ rest.map Char.toLower = encodeChars tail := by
  cases bytes with
  | nil => simp [encodeChars]
  | cons b bytes =>
    simp only [encodeChars_cons, List.map_cons, List.cons.injEq, ← and_assoc, digit?_pair_iff]
    constructor
    · rintro ⟨⟨h, l, ⟨high, low⟩, rfl⟩, tail⟩
      exact ⟨h, l, bytes, ⟨⟨⟨high, low⟩, rfl⟩, rfl⟩, tail⟩
    · rintro ⟨h, l, tail, ⟨⟨⟨high, low⟩, rfl⟩, rfl⟩, spelled⟩
      exact ⟨⟨h, l, ⟨high, low⟩, rfl⟩, spelled⟩

/-- Pairs of digits are read as the bytes whose written form they are. -/
theorem decodePairs_eq_ok_iff {offset : Nat} {text : List Char} {bytes : Bytes} :
    decodePairs offset text = .ok bytes ↔ text.map Char.toLower = encodeChars bytes := by
  fun_induction decodePairs offset text generalizing bytes with
  | case1 =>
    cases bytes with
    | nil => simp [encodeChars]
    | cons b bytes => simp [encodeChars_cons]
  | case2 | case3 =>
    cases bytes with
    | nil => simp [encodeChars]
    | cons b bytes => simp [encodeChars_cons]
  | case4 offset hi lo rest bad =>
    rw [map_toLower_pair_iff]
    simp [bad]
  | case5 offset hi lo rest h bad =>
    rw [map_toLower_pair_iff]
    simp [bad]
  | case6 offset hi lo rest h l low high tail read ih =>
    rw [map_toLower_pair_iff, Except.ok.injEq]
    constructor
    · rintro rfl
      exact ⟨h, l, tail, high, low, rfl, ih.mp read⟩
    · rintro ⟨h', l', tail', high', low', rfl, spelled⟩
      have same := ih.mpr spelled
      rw [high] at high'
      rw [low] at low'
      rw [read] at same
      cases high'
      cases low'
      cases same
      rfl
  | case7 offset hi lo rest h l low high fault unread ih =>
    rw [map_toLower_pair_iff]
    constructor
    · intro failed
      cases failed
    · rintro ⟨h', l', tail, -, -, -, spelled⟩
      rw [ih.mpr spelled] at unread
      cases unread

/-! ### Whole texts -/

/-- A text of single-byte characters is as long in bytes as in characters. -/
theorem byteLength_of_ascii {text : List Char} (ascii : ∀ c ∈ text, c.toNat < 128) :
    Text.byteLength text = text.length := by
  have sum : ∀ start : Nat,
      text.foldl (fun n c => n + c.utf8Size) start = start + text.length := by
    induction text with
    | nil => intro start; rfl
    | cons c rest ih =>
      intro start
      obtain ⟨first, others⟩ := List.forall_mem_cons.mp ascii
      have single : c.utf8Size = 1 := Char.utf8Size_eq_one_iff.mpr (Nat.le_of_lt_succ first)
      rw [List.foldl_cons, ih others, single, List.length_cons]
      omega
  rw [Text.byteLength, sum, Nat.zero_add]

theorem ascii_of_mem_encodeChars {bytes : Bytes} {c : Char} (h : c ∈ encodeChars bytes) :
    c.toNat < 128 := by
  obtain ⟨n, small, rfl⟩ := exists_digit_of_mem_encodeChars h
  rw [toNat_digit small]
  split <;> omega

/-- A text that spells a byte string is as long in bytes as in characters. -/
theorem byteLength_of_spells {text : List Char} {bytes : Bytes}
    (h : text.map Char.toLower = encodeChars bytes) : Text.byteLength text = text.length := by
  refine byteLength_of_ascii fun c mem => ?_
  have lower : c.toLower.toNat < 128 :=
    ascii_of_mem_encodeChars (h ▸ List.mem_map_of_mem mem)
  rw [toNat_toLower] at lower
  split at lower <;> omega

/-- A text is read as the byte string whose written form it is, up to the case of letters. -/
theorem decodeChars_eq_ok_iff {text : List Char} {bytes : Bytes} :
    decodeChars text = .ok bytes ↔ text.map Char.toLower = encodeChars bytes := by
  rw [decodeChars]
  split
  · rename_i odd
    constructor
    · intro h
      cases h
    · intro h
      have length := congrArg List.length h
      rw [List.length_map, length_encodeChars] at length
      rw [byteLength_of_spells h, length] at odd
      omega
  · exact decodePairs_eq_ok_iff

/-- Without the blanks around it, a text is read as the byte string whose written form stands
between them, up to the case of letters. -/
theorem decodeChars_trim_eq_ok_iff {text : List Char} {bytes : Bytes} :
    decodeChars (Text.trim text) = .ok bytes ↔
      ∃ core, Text.StandsIn core text ∧ core.map Char.toLower = encodeChars bytes := by
  rw [decodeChars_eq_ok_iff]
  constructor
  · intro spelled
    exact ⟨_, Text.standsIn_trim text, spelled⟩
  · rintro ⟨core, stands, spelled⟩
    have solid : ∀ c ∈ core, Text.isBlank c = false := by
      intro c mem
      obtain ⟨n, small, same⟩ := exists_digit_of_mem_encodeChars (spelled ▸ List.mem_map_of_mem mem)
      exact isBlank_of_digit? (digit?_eq_some_iff.mpr ⟨small, same⟩)
    rw [(Text.trim_eq_iff solid).mpr stands, spelled]

/-- What is written is read back. -/
theorem decode_encode (bytes : Bytes) : decode (encode bytes) = .ok bytes := by
  have lower : ∀ n < 16, (digit n).toLower = digit n := by decide
  rw [decode, encode, String.toList_ofList, decodeChars_eq_ok_iff]
  refine (List.map_congr_left fun c mem => ?_).trans (List.map_id _)
  obtain ⟨n, small, rfl⟩ := exists_digit_of_mem_encodeChars mem
  exact lower n small

theorem mapM_decode_encode (parts : List Bytes) : (parts.map encode).mapM decode = .ok parts := by
  induction parts with
  | nil => rfl
  | cons part parts ih =>
    rw [List.map_cons, List.mapM_cons, decode_encode, ih]
    rfl

end Cosigner.Hex
