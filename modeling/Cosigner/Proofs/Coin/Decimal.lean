import Cosigner.Coin.Amount
import Cosigner.Proofs.Text.Blank
import Mathlib.Data.Rat.Cast.Order
import Mathlib.Tactic.FieldSimp
import Mathlib.Tactic.Ring
/-!
Amounts are read from decimal text without rounding.

A decimal is digits, a point, and at most eight more digits; either run may be missing, and so may
the point behind the first (`Denotes`, which also gives the exact value). An amount is read from a
text exactly when the text is a decimal between blanks and the amount is its value in satoshis
(`parse_eq_ok_iff`), so an amount written with eight digits behind the point is read back.
-/

namespace Cosigner

/-! ### Digits -/

namespace Text

theorem isDigit_iff {c : Char} : c.isDigit = true ↔ 48 ≤ c.toNat ∧ c.toNat ≤ 57 := by
  simp only [Char.isDigit, Bool.and_eq_true, decide_eq_true_eq]
  exact Iff.rfl

theorem digit?_eq_some_iff {c : Char} {d : Nat} :
    digit? c = some d ↔ c.isDigit = true ∧ d = c.toNat - '0'.toNat := by
  have range : digit? c =
      if 48 ≤ c.toNat ∧ c.toNat ≤ 57 then some (c.toNat - '0'.toNat) else none :=
    rfl
  rw [range, isDigit_iff]
  split
  · rename_i digit
    rw [Option.some.injEq]
    exact ⟨fun same => ⟨digit, same.symm⟩, fun same => same.2.symm⟩
  · rename_i other
    constructor
    · intro absent
      cases absent
    · rintro ⟨digit, -⟩
      exact absurd digit other

/-- Digits are read behind a number when there is nothing else among them. -/
theorem readDigits?_eq_some_iff {acc n : Nat} {text : List Char} :
    readDigits? acc text = some n ↔
      (∀ c ∈ text, c.isDigit = true) ∧ n = Nat.ofDigitChars 10 text acc := by
  induction text generalizing acc with
  | nil =>
    rw [readDigits?, Option.some.injEq]
    exact ⟨fun same => ⟨fun c mem => absurd mem List.not_mem_nil, same.symm⟩,
      fun digits => digits.2.symm⟩
  | cons c text ih =>
    rw [readDigits?, Option.bind_eq_some_iff, List.forall_mem_cons, Nat.ofDigitChars_cons]
    constructor
    · rintro ⟨d, here, behind⟩
      obtain ⟨digit, rfl⟩ := digit?_eq_some_iff.mp here
      obtain ⟨digits, rfl⟩ := ih.mp behind
      exact ⟨⟨digit, digits⟩, rfl⟩
    · rintro ⟨⟨digit, digits⟩, rfl⟩
      exact ⟨_, digit?_eq_some_iff.mpr ⟨digit, rfl⟩, ih.mpr ⟨digits, rfl⟩⟩

end Text

namespace Amount

/-! ### Decimals -/

/-- A run of digits, at least one. -/
def IsRun (digits : List Char) : Prop := digits ≠ [] ∧ ∀ c ∈ digits, c.isDigit = true

/-- The number that digits denote. -/
def number (digits : List Char) : Nat := Nat.ofDigitChars 10 digits 0

/-- A text is a decimal number of this value, with at most eight digits behind its point. -/
inductive Denotes : List Char → ℚ → Prop where
  | whole {w : List Char} : IsRun w → Denotes w (number w)
  | point {w : List Char} : IsRun w → Denotes (w ++ ['.']) (number w)
  | fraction {f : List Char} : IsRun f → f.length ≤ 8 →
      Denotes ('.' :: f) (number f / 10 ^ f.length)
  | both {w f : List Char} : IsRun w → IsRun f → f.length ≤ 8 →
      Denotes (w ++ '.' :: f) (number w + number f / 10 ^ f.length)

/-- The two runs of a decimal, of which one may be empty. -/
structure AreRuns (w f : List Char) : Prop where
  whole : ∀ c ∈ w, c.isDigit = true
  fraction : ∀ c ∈ f, c.isDigit = true
  some : ¬ (w = [] ∧ f = [])
  short : f.length ≤ 8

variable {w f text : List Char} {value : ℚ} {amount : Int64}

theorem ne_point_of_digits (digits : ∀ c ∈ w, c.isDigit = true) : ∀ c ∈ w, (c != '.') = true := by
  intro c mem
  rw [bne_iff_ne]
  rintro rfl
  exact absurd (digits '.' mem) (by decide)

theorem splitPoint_of_digits (digits : ∀ c ∈ w, c.isDigit = true) : splitPoint w = (w, []) := by
  have others := ne_point_of_digits digits
  rw [splitPoint, List.takeWhile_eq_self_iff.mpr others, List.dropWhile_eq_nil_iff.mpr others,
    List.drop_nil]

theorem splitPoint_append (digits : ∀ c ∈ w, c.isDigit = true) :
    splitPoint (w ++ '.' :: f) = (w, f) := by
  have others := ne_point_of_digits digits
  rw [splitPoint, List.takeWhile_append_of_pos others, List.dropWhile_append_of_pos others]
  simp

/-- Either there is no point, or it stands between the two parts. -/
theorem splitPoint_cases (text : List Char) :
    splitPoint text = (text, []) ∨ ∃ w f, splitPoint text = (w, f) ∧ text = w ++ '.' :: f := by
  have whole := List.takeWhile_append_dropWhile (p := (· != '.')) (l := text)
  have stops := List.head?_dropWhile_not (· != '.') text
  rw [splitPoint]
  cases behind : text.dropWhile (· != '.') with
  | nil =>
    rw [behind, List.append_nil] at whole
    rw [whole]
    exact .inl rfl
  | cons c f =>
    rw [behind] at whole stops
    obtain rfl : c = '.' := by simpa using stops
    exact .inr ⟨_, f, rfl, whole.symm⟩

/-- A decimal is two runs with the point between them, and its value is the sum of theirs. -/
theorem denotes_iff :
    Denotes text value ↔ ∃ w f, splitPoint text = (w, f) ∧ AreRuns w f ∧
      value = number w + number f / 10 ^ f.length := by
  constructor
  · intro denotes
    cases denotes with
    | whole run =>
      exact ⟨_, [], splitPoint_of_digits run.2, ⟨run.2, by simp, by simp [run.1], by simp⟩,
        by simp [number]⟩
    | point run =>
      exact ⟨_, [], splitPoint_append run.2, ⟨run.2, by simp, by simp [run.1], by simp⟩,
        by simp [number]⟩
    | fraction run short =>
      exact ⟨[], _, @splitPoint_append [] _ (by simp), ⟨by simp, run.2, by simp [run.1], short⟩,
        by simp [number]⟩
    | both run run' short =>
      exact ⟨_, _, splitPoint_append run.2, ⟨run.2, run'.2, by simp [run.1], short⟩, rfl⟩
  · rintro ⟨w, f, split, runs, rfl⟩
    rcases splitPoint_cases text with without | ⟨w', f', split', rfl⟩
    · rw [split, Prod.mk.injEq] at without
      obtain ⟨rfl, rfl⟩ := without
      have some : w ≠ [] := by simpa using runs.some
      simpa [number] using Denotes.whole ⟨some, runs.whole⟩
    · rw [split, Prod.mk.injEq] at split'
      obtain ⟨rfl, rfl⟩ := split'
      by_cases left : w = []
      · subst left
        have some : f ≠ [] := by simpa using runs.some
        simpa [number] using Denotes.fraction ⟨some, runs.fraction⟩ runs.short
      · by_cases right : f = []
        · subst right
          simpa [number] using Denotes.point ⟨left, runs.whole⟩
        · exact .both ⟨left, runs.whole⟩ ⟨right, runs.fraction⟩ runs.short

/-! ### Amounts -/

theorem ofInt?_eq_some_iff {n : Int} : ofInt? n = some amount ↔ amount.toInt = n := by
  constructor
  · exact toInt_of_ofInt?
  · rintro rfl
    rw [ofInt?, if_pos ⟨amount.minValue_le_toInt, amount.toInt_le⟩, Int64.ofInt_toInt]

/-- The satoshis of two runs are the value of the decimal. -/
theorem satoshis_eq_iff (short : f.length ≤ 8) :
    amount.toInt = (number w * perCoin + number f * Decimal.tenTo (8 - f.length) : Nat) ↔
      (amount.toInt : ℚ) = 10 ^ 8 * (number w + number f / 10 ^ f.length) := by
  have scale : (10 : ℚ) ^ 8 = 10 ^ (8 - f.length) * 10 ^ f.length := by
    rw [← pow_add, Nat.sub_add_cancel short]
  have exact : (10 : ℚ) ^ 8 * (number w + number f / 10 ^ f.length) =
      number w * 10 ^ 8 + number f * 10 ^ (8 - f.length) := by
    rw [scale]
    field_simp
  have coin : ((perCoin : ℕ) : ℚ) = 10 ^ 8 := by norm_num [perCoin]
  have ten (n : ℕ) : ((Decimal.tenTo n : ℕ) : ℚ) = 10 ^ n := by simp [Decimal.tenTo]
  rw [exact, ← @Int.cast_inj ℚ, Int.cast_natCast, Nat.cast_add, Nat.cast_mul, Nat.cast_mul, coin,
    ten]

/-- A decimal is read as the amount of its value. -/
theorem ofDecimal?_eq_some_iff :
    ofDecimal? text = some amount ↔
      ∃ value, Denotes text value ∧ (amount.toInt : ℚ) = 10 ^ 8 * value := by
  simp only [denotes_iff]
  unfold ofDecimal?
  generalize splitPoint text = parts
  obtain ⟨w, f⟩ := parts
  dsimp only
  simp only [List.isEmpty_iff]
  constructor
  · intro read
    split at read
    · cases read
    · rename_i shape
      obtain ⟨some, short⟩ := not_or.mp shape
      obtain ⟨coins, whole, rest⟩ := Option.bind_eq_some_iff.mp read
      obtain ⟨parts, fraction, fits⟩ := Option.bind_eq_some_iff.mp rest
      obtain ⟨digits, rfl⟩ := Text.readDigits?_eq_some_iff.mp whole
      obtain ⟨digits', rfl⟩ := Text.readDigits?_eq_some_iff.mp fraction
      have short := Nat.le_of_not_lt short
      have exact := (satoshis_eq_iff short).mp (ofInt?_eq_some_iff.mp fits)
      exact ⟨_, ⟨w, f, rfl, ⟨digits, digits', some, short⟩, rfl⟩, exact⟩
  · rintro ⟨_, ⟨w', f', same, runs, rfl⟩, exact⟩
    cases same
    rw [if_neg (not_or.mpr ⟨runs.some, Nat.not_lt_of_le runs.short⟩)]
    refine Option.bind_eq_some_iff.mpr
      ⟨_, Text.readDigits?_eq_some_iff.mpr ⟨runs.whole, rfl⟩, ?_⟩
    refine Option.bind_eq_some_iff.mpr
      ⟨_, Text.readDigits?_eq_some_iff.mpr ⟨runs.fraction, rfl⟩, ?_⟩
    exact ofInt?_eq_some_iff.mpr ((satoshis_eq_iff runs.short).mpr exact)

theorem isBlank_of_isDigit {c : Char} (digit : c.isDigit = true) : Text.isBlank c = false := by
  have range := Text.isDigit_iff.mp digit
  exact Text.isBlank_of_visible (by omega)

/-- There are no blanks in a decimal. -/
theorem Denotes.solid (denotes : Denotes text value) : ∀ c ∈ text, Text.isBlank c = false := by
  have point : Text.isBlank '.' = false := by decide
  have digits {ds : List Char} (run : IsRun ds) : ∀ c ∈ ds, Text.isBlank c = false :=
    fun c mem => isBlank_of_isDigit (run.2 c mem)
  cases denotes with
  | whole run => exact digits run
  | point run => exact List.forall_mem_append.mpr ⟨digits run, by simp [point]⟩
  | fraction run short => exact List.forall_mem_cons.mpr ⟨point, digits run⟩
  | both run run' short =>
    exact List.forall_mem_append.mpr
      ⟨digits run, List.forall_mem_cons.mpr ⟨point, digits run'⟩⟩

/-- An amount is read from a text exactly when a decimal of its value stands there between
blanks. -/
theorem parse_eq_ok_iff {text : String} :
    parse text = .ok amount ↔ ∃ decimal value, Text.StandsIn decimal text.toList ∧
      Denotes decimal value ∧ (amount.toInt : ℚ) = 10 ^ 8 * value := by
  constructor
  · intro read
    rw [parse] at read
    split at read
    · rename_i found
      cases read
      obtain ⟨value, denotes, exact⟩ := ofDecimal?_eq_some_iff.mp found
      exact ⟨_, value, Text.standsIn_trim text.toList, denotes, exact⟩
    · cases read
  · rintro ⟨decimal, value, stands, denotes, exact⟩
    have found := ofDecimal?_eq_some_iff.mpr ⟨value, denotes, exact⟩
    rw [parse, Text.trim_of_standsIn denotes.solid stands, found]

/-- Every other text is refused, and the error shows it without the blanks around it. -/
theorem parse_of_unread {text : String} (unread : ∀ amount, parse text ≠ .ok amount) :
    parse text = .error (.amount (.notDecimal (String.ofList (Text.trim text.toList)))) := by
  rw [parse] at unread ⊢
  split
  · rename_i amount found
    rw [found] at unread
    exact absurd rfl (unread amount)
  · rfl

/-! ### Amounts in writing -/

/-- Satoshis as whole coins, a point and eight digits. -/
def decimalText (n : Nat) : String :=
  String.ofList (Nat.toDigits 10 (n / perCoin) ++
    '.' :: List.leftpad 8 '0' (Nat.toDigits 10 (n % perCoin)))

theorem isRun_toDigits (n : Nat) : IsRun (Nat.toDigits 10 n) :=
  ⟨Nat.toDigits_ne_nil, fun _ mem => Nat.isDigit_of_mem_toDigits (by decide) (by decide) mem⟩

theorem number_toDigits (n : Nat) : number (Nat.toDigits 10 n) = n :=
  Nat.ofDigitChars_toDigits (by decide) (by decide)

/-- Zeros in front are digits that do not count. -/
theorem isRun_leftpad (k n : Nat) : IsRun (List.leftpad k '0' (Nat.toDigits 10 n)) := by
  obtain ⟨some, digits⟩ := isRun_toDigits n
  rw [List.leftpad]
  refine ⟨by simp [some], List.forall_mem_append.mpr ⟨fun c mem => ?_, digits⟩⟩
  rw [List.eq_of_mem_replicate mem]
  decide

theorem number_leftpad (k n : Nat) : number (List.leftpad k '0' (Nat.toDigits 10 n)) = n := by
  rw [List.leftpad, number, Nat.ofDigitChars_append, Nat.ofDigitChars_replicate_zero, Nat.mul_zero]
  exact number_toDigits n

/-- Eight digits are enough for what is less than a coin. -/
theorem length_leftpad_satoshis (n : Nat) :
    (List.leftpad 8 '0' (Nat.toDigits 10 (n % perCoin))).length = 8 := by
  have fits : (Nat.toDigits 10 (n % perCoin)).length ≤ 8 :=
    (Nat.length_toDigits_le_iff (by decide) (by decide)).mpr (Nat.mod_lt n (by decide))
  rw [List.length_leftpad, Nat.max_eq_left fits]

/-- What is written for satoshis is a decimal of their value. -/
theorem denotes_decimalText (n : Nat) : Denotes (decimalText n).toList (n / 10 ^ 8) := by
  have length := length_leftpad_satoshis n
  have denotes := Denotes.both (isRun_toDigits (n / perCoin)) (isRun_leftpad 8 (n % perCoin))
    (Nat.le_of_eq length)
  rw [number_toDigits, number_leftpad, length] at denotes
  have parts : (n : ℚ) = 10 ^ 8 * (n / perCoin : ℕ) + (n % perCoin : ℕ) := by
    have coin : ((perCoin : ℕ) : ℚ) = 10 ^ 8 := by norm_num [perCoin]
    rw [← coin, ← Nat.cast_mul, ← Nat.cast_add, Nat.div_add_mod]
  rw [decimalText, String.toList_ofList]
  convert denotes using 1
  rw [parts]
  field_simp

/-- An amount is read from a text exactly when a decimal of its value, with at most eight digits
behind the point, stands there between blanks; every other text is refused. An amount that is
written in coins with eight digits behind the point is read back. -/
theorem parse_is_exact :
    (∀ (text : String) (amount : Int64), parse text = .ok amount ↔
      ∃ decimal value, Text.StandsIn decimal text.toList ∧ Denotes decimal value ∧
        (amount.toInt : ℚ) = 10 ^ 8 * value) ∧
    (∀ text : String, (∀ amount, parse text ≠ .ok amount) →
      parse text = .error (.amount (.notDecimal (String.ofList (Text.trim text.toList))))) ∧
    ∀ n : Nat, (n : Int) ≤ Int64.maxValue.toInt →
      parse (decimalText n) = .ok (Int64.ofInt n) := by
  refine ⟨fun text amount => parse_eq_ok_iff, fun text => parse_of_unread, fun n fits => ?_⟩
  have low : Int64.minValue.toInt ≤ n := by
    have negative : Int64.minValue.toInt ≤ 0 := by decide
    omega
  have value : (Int64.ofInt n).toInt = n := toInt_of_ofInt? (if_pos ⟨low, fits⟩)
  refine parse_eq_ok_iff.mpr ⟨_, _, ?_, denotes_decimalText n, ?_⟩
  · exact ⟨[], [], by simp, by simp⟩
  · rw [value, Int.cast_natCast]
    field_simp

/-- The largest amount is read back, and a satoshi more is refused. -/
theorem largest_amount_is_read_back :
    decimalText 9223372036854775807 = "92233720368.54775807" ∧
      parse "92233720368.54775807" = .ok Int64.maxValue ∧
      parse " 92233720368.54775808" =
        .error (.amount (.notDecimal "92233720368.54775808")) := by
  obtain ⟨-, refused, written⟩ := parse_is_exact
  have spelled : decimalText 9223372036854775807 = "92233720368.54775807" := by decide +kernel
  refine ⟨spelled, ?_, ?_⟩
  · have read := written 9223372036854775807 (by decide)
    rw [spelled] at read
    exact read
  · exact refused " 92233720368.54775808" fun amount => by
      have unread : parse " 92233720368.54775808" =
          .error (.amount (.notDecimal "92233720368.54775808")) := by decide +kernel
      rw [unread]
      exact nofun

end Amount

end Cosigner
