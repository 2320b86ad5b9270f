/-!
Characters and texts.

A character is blank when it has the White_Space property of the Unicode standard. `trim` drops
the blanks before and after a text and nothing else.

Among decimal numerals, `readNat?` accepts a non-empty run of ASCII digits. `readUnsigned?` also
accepts a plus sign in front and bounds the value; `readSigned?` accepts either sign and bounds
the value on both sides. None of them accepts blanks, separators or other digits.
-/

namespace Cosigner.Text

/-- The White_Space property of the Unicode standard. -/
def isBlank (c : Char) : Bool :=
  let n := c.toNat
  (9 ≤ n && n ≤ 13) || n == 0x20 || n == 0x85 || n == 0xa0 || n == 0x1680 ||
    (0x2000 ≤ n && n ≤ 0x200a) || n == 0x2028 || n == 0x2029 || n == 0x202f || n == 0x205f ||
    n == 0x3000

/-- A list without the longest suffix whose members all satisfy `p`. -/
def dropEndWhile {α : Type} (p : α → Bool) (xs : List α) : List α :=
  (xs.reverse.dropWhile p).reverse

/-- The text between the first and the last character that is not blank. -/
def trim (text : List Char) : List Char := dropEndWhile isBlank (text.dropWhile isBlank)

/-- The length of a text in bytes of UTF-8. -/
def byteLength (text : List Char) : Nat := text.foldl (fun n c => n + c.utf8Size) 0

/-- The first byte of a character in UTF-8. -/
def leadByte (c : Char) : UInt8 := (String.utf8EncodeChar c).headD 0

/-- Whether a text stands somewhere in another, in one piece. -/
def occurs (part : List Char) : List Char → Bool
  | [] => part.isEmpty
  | c :: rest => part.isPrefixOf (c :: rest) || occurs part rest

/-! ### Numerals -/

/-- The value of an ASCII digit. -/
def digit? (c : Char) : Option Nat :=
  if '0' ≤ c ∧ c ≤ '9' then some (c.toNat - '0'.toNat) else none

/-- Reads digits after those that already give `acc`. -/
def readDigits? (acc : Nat) : List Char → Option Nat
  | [] => some acc
  | c :: rest => (digit? c).bind fun d => readDigits? (10 * acc + d) rest

def readNat? : List Char → Option Nat
  | [] => none
  | text => readDigits? 0 text

/-- A numeral below `bound`. -/
def readUnsigned? (bound : Nat) (text : List Char) : Option Nat := do
  let n ← readNat? (match text with
    | '+' :: rest => rest
    | _ => text)
  if n < bound then some n else none

/-- A numeral of at least `-bound` and less than `bound`. -/
def readSigned? (bound : Nat) (text : List Char) : Option Int := do
  match text with
  | '-' :: rest =>
    let n ← readNat? rest
    if n ≤ bound then some (-(n : Int)) else none
  | _ =>
    let n ← readUnsigned? bound text
    some (n : Int)

end Cosigner.Text
