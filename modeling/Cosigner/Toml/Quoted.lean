import Cosigner.Json.Basic
/-!
Strings of TOML.

A string in double quotes has escapes, one in single quotes has none. Three quotes begin a string
of several lines, whose first line end does not count; every line end in it is read as a line
feed, and up to two quotes may stand before the three that end it. A backslash at the end of a line
joins the next text to it.
-/

namespace Cosigner.Toml

/-- Whether a character may stand in a string or in a comment as it is. -/
def isPlain (c : Char) : Bool := c == '\t' || (decide (0x20 ≤ c.toNat) && c != '\x7f')

def isSpace (c : Char) : Bool := c == ' ' || c == '\t'

/-- What follows a line end. -/
def afterNewline? : List Char → Option (List Char)
  | '\n' :: rest => some rest
  | '\r' :: '\n' :: rest => some rest
  | _ => none

/-- The value of hexadecimal digits. -/
def hexValue? (digits : List Char) : Option Nat :=
  digits.foldlM (fun acc c => (Json.hexDigit? c).map (acc * 16 + ·)) 0

/-- The character of a code point written in `count` digits, and what follows them. -/
def codePoint? (count : Nat) (text : List Char) : Option (Char × List Char) := do
  let digits := text.take count
  if digits.length = count then
    let n ← hexValue? digits
    if n.isValidChar then some (Char.ofNat n, text.drop count) else none
  else none

/-- The character that an escape stands for, and what follows it; the backslash is gone already. -/
def escape? : List Char → Option (Char × List Char)
  | 'b' :: rest => some ('\x08', rest)
  | 't' :: rest => some ('\t', rest)
  | 'n' :: rest => some ('\n', rest)
  | 'f' :: rest => some ('\x0c', rest)
  | 'r' :: rest => some ('\r', rest)
  | '"' :: rest => some ('"', rest)
  | '\\' :: rest => some ('\\', rest)
  | 'u' :: rest => codePoint? 4 rest
  | 'U' :: rest => codePoint? 8 rest
  | _ => none

/-- Reads up to the closing double quote. The fuel bounds the characters read. -/
def basicString? : Nat → List Char → Option (List Char × List Char)
  | 0, _ => none
  | fuel + 1, text =>
    match text with
    | '"' :: rest => some ([], rest)
    | '\\' :: rest => do
      let (c, rest) ← escape? rest
      let (tail, rest) ← basicString? fuel rest
      return (c :: tail, rest)
    | c :: rest =>
      if isPlain c then (basicString? fuel rest).map fun r => (c :: r.1, r.2) else none
    | [] => none

/-- Reads up to the closing single quote. -/
def literalString? (text : List Char) : Option (List Char × List Char) :=
  let body := text.takeWhile fun c => isPlain c && c != '\''
  match text.dropWhile fun c => isPlain c && c != '\'' with
  | '\'' :: rest => some (body, rest)
  | _ => none

/-- The quotes that end a string of several lines, less the closing three, and what follows; nothing
when there are fewer than three. -/
def closing? (quote : Char) (text : List Char) : Option (List Char × List Char) :=
  let count := min 5 (text.takeWhile (· == quote)).length
  if 3 ≤ count then some (List.replicate (count - 3) quote, text.drop count) else none

/-- What follows a joined line end: the blanks and line ends after it are gone. -/
def afterJoin? (text : List Char) : Option (List Char) :=
  (afterNewline? (text.dropWhile isSpace)).map fun rest => skip rest.length rest
where
  skip : Nat → List Char → List Char
    | 0, rest => rest
    | fuel + 1, rest =>
      match rest.dropWhile isSpace with
      | rest =>
        match afterNewline? rest with
        | some rest => skip fuel rest
        | none => rest

/-- Reads the body of a string of several lines up to its closing quotes. -/
def multilineString? (quote : Char) (escapes : Bool) :
    Nat → List Char → Option (List Char × List Char)
  | 0, _ => none
  | fuel + 1, text =>
    match closing? quote text with
    | some result => some result
    | none =>
      match afterNewline? text with
      | some rest => (multilineString? quote escapes fuel rest).map fun r => ('\n' :: r.1, r.2)
      | none =>
        match text with
        | [] => none
        | c :: rest =>
          if c = '\\' ∧ escapes then
            match afterJoin? rest with
            | some rest => multilineString? quote escapes fuel rest
            | none => do
              let (c, rest) ← escape? rest
              let (tail, rest) ← multilineString? quote escapes fuel rest
              return (c :: tail, rest)
          else if isPlain c then
            (multilineString? quote escapes fuel rest).map fun r => (c :: r.1, r.2)
          else none

/-- The text without a line end in front. -/
def dropNewline (text : List Char) : List Char := (afterNewline? text).getD text

/-- Reads a string of either kind on one line. -/
def lineString? (text : List Char) : Option (List Char × List Char) :=
  match text with
  | '"' :: rest => basicString? (rest.length + 1) rest
  | '\'' :: rest => literalString? rest
  | _ => none

/-- Reads any string. -/
def string? (text : List Char) : Option (List Char × List Char) :=
  match text with
  | '"' :: '"' :: '"' :: rest => multilineString? '"' true (rest.length + 1) (dropNewline rest)
  | '\'' :: '\'' :: '\'' :: rest =>
    multilineString? '\'' false (rest.length + 1) (dropNewline rest)
  | _ => lineString? text

end Cosigner.Toml
