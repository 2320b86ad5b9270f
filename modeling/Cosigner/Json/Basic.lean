import Cosigner.Json.Number
/-!
JSON texts as trees.

A tree keeps string literals as they are spelled between their quotes; `literalText?` reads them,
and finds no text in a literal that names half of a surrogate pair. A literal of that kind is
grammatical all the same, and may stand wherever its text is not wanted. Objects keep all their
members, in order and with repetitions.
-/

namespace Cosigner

inductive Json where
  | null
  | bool (value : Bool)
  | number (literal : Json.NumberLiteral)
  | string (literal : List Char)
  | array (items : List Json)
  | object (members : List (List Char × Json))

namespace Json

/-! ### String literals -/

/-- The value of a hexadecimal digit. -/
def hexDigit? (c : Char) : Option Nat :=
  if '0' ≤ c ∧ c ≤ '9' then some (c.toNat - '0'.toNat)
  else if 'a' ≤ c ∧ c ≤ 'f' then some (c.toNat - 'a'.toNat + 10)
  else if 'A' ≤ c ∧ c ≤ 'F' then some (c.toNat - 'A'.toNat + 10)
  else none

/-- The value of four hexadecimal digits. -/
def unit? (a b c d : Char) : Option Nat := do
  return ((← hexDigit? a) * 16 + (← hexDigit? b)) * 256 + (← hexDigit? c) * 16 + (← hexDigit? d)

/-- The character that a backslash and one letter stand for. -/
def escaped? (c : Char) : Option Char :=
  match c with
  | '"' => some '"'
  | '\\' => some '\\'
  | '/' => some '/'
  | 'b' => some '\x08'
  | 'f' => some '\x0c'
  | 'n' => some '\n'
  | 'r' => some '\r'
  | 't' => some '\t'
  | _ => none

/-- The text that a literal spells, with `\u` escapes in pairs for characters beyond `U+FFFF`. -/
def literalText? : List Char → Option (List Char)
  | '\\' :: 'u' :: a :: b :: c :: d :: '\\' :: 'u' :: e :: f :: g :: h :: rest => do
    let high ← unit? a b c d
    if 0xd800 ≤ high ∧ high < 0xdc00 then
      let low ← unit? e f g h
      if 0xdc00 ≤ low ∧ low < 0xe000 then
        let tail ← literalText? rest
        return Char.ofNat (0x10000 + (high - 0xd800) * 0x400 + (low - 0xdc00)) :: tail
      else none
    else if 0xdc00 ≤ high ∧ high < 0xe000 then none
    else
      let tail ← literalText? ('\\' :: 'u' :: e :: f :: g :: h :: rest)
      return Char.ofNat high :: tail
  | '\\' :: 'u' :: a :: b :: c :: d :: rest => do
    let unit ← unit? a b c d
    if 0xd800 ≤ unit ∧ unit < 0xe000 then none
    else
      let tail ← literalText? rest
      return Char.ofNat unit :: tail
  | '\\' :: c :: rest => do
    let escaped ← escaped? c
    let tail ← literalText? rest
    return escaped :: tail
  | c :: rest => (literalText? rest).map (c :: ·)
  | [] => some []

/-- The shortest literal of a character. -/
def literalChar (c : Char) : List Char :=
  if c = '"' then ['\\', '"']
  else if c = '\\' then ['\\', '\\']
  else if c = '\x08' then ['\\', 'b']
  else if c = '\x0c' then ['\\', 'f']
  else if c = '\n' then ['\\', 'n']
  else if c = '\r' then ['\\', 'r']
  else if c = '\t' then ['\\', 't']
  else if c.toNat < 0x20 then
    ['\\', 'u', '0', '0', Nat.digitChar (c.toNat / 16), Nat.digitChar (c.toNat % 16)]
  else [c]

def ofText (text : String) : Json := .string (text.toList.flatMap literalChar)

def ofInt (n : Int) : Json := .number (NumberLiteral.ofInt n)

def ofNat (n : Nat) : Json := ofInt n

/-- An object with these members. -/
def ofMembers (members : List (String × Json)) : Json :=
  .object (members.map fun member => (member.1.toList.flatMap literalChar, member.2))

def ofOption {α : Type} (toJson : α → Json) : Option α → Json
  | some a => toJson a
  | none => .null

/-! ### Values of a wanted type -/

def text? : Json → Option String
  | .string literal => (literalText? literal).map String.ofList
  | _ => none

/-- A natural number below a bound. -/
def nat? (bound : Nat) : Json → Option Nat
  | .number literal => literal.toNat? bound
  | _ => none

/-- A floating point number, written as an integer or otherwise. -/
def binary64? : Json → Option Binary64
  | .number literal => literal.toBinary64?
  | _ => none

def array? : Json → Option (List Json)
  | .array items => some items
  | _ => none

/-! ### Records -/

/-- The members of an object with their names read. -/
def namedMembers? : List (List Char × Json) → Option (List (String × Json))
  | [] => some []
  | (literal, value) :: rest => do
    let name ← literalText? literal
    let tail ← namedMembers? rest
    return (String.ofList name, value) :: tail

/-- The member of this name, if there is one; nothing at all when there are two. -/
def member? (name : String) (members : List (String × Json)) : Option (Option Json) :=
  match members.filter fun member => member.1 == name with
  | [] => some none
  | [member] => some (some member.2)
  | _ => none

/-- The fields of a record. An object gives them by name, in any order and with others between
them; an array gives them in order, and may leave out the last ones. -/
def fields? (names : List String) : Json → Option (List (Option Json))
  | .object members => do
    let members ← namedMembers? members
    names.mapM fun name => member? name members
  | .array items =>
    if items.length ≤ names.length then
      some (items.map some ++ List.replicate (names.length - items.length) none)
    else none
  | _ => none

end Json

end Cosigner
