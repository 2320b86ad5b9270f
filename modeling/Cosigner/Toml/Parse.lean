import Cosigner.Toml.Item
import Cosigner.Toml.Scalar
import Cosigner.Toml.Quoted
/-!
Reading TOML documents.

A document is a sequence of lines: a key with its value, a header that opens a table, or nothing
but blanks and a comment. Values may be nested in arrays and inline tables, and keys may be
dotted, to a depth of less than eighty.
-/

namespace Cosigner.Toml

/-- Brackets and dots nest to less than this depth. -/
def depthLimit : Nat := 80

def skipSpaces (text : List Char) : List Char := text.dropWhile isSpace

/-- What follows a comment, if there is one. -/
def skipComment (text : List Char) : List Char :=
  match text with
  | '#' :: rest => rest.dropWhile isPlain
  | _ => text

/-- Skips blanks, comments and line ends, as many as the fuel allows. -/
def skipLines : Nat → List Char → List Char
  | 0, text => text
  | fuel + 1, text =>
    match afterNewline? (skipComment (skipSpaces text)) with
    | some rest => skipLines fuel rest
    | none => skipComment (skipSpaces text)

/-- What follows the end of the line, if nothing but blanks and a comment comes before it. -/
def endOfLine? (text : List Char) : Option (List Char) :=
  match skipComment (skipSpaces text) with
  | [] => some []
  | rest => afterNewline? rest

def isBareKeyChar (c : Char) : Bool := c.isAlphanum || c == '_' || c == '-'

/-- Reads one part of a key. -/
def simpleKey? (text : List Char) : Option (String × List Char) :=
  match text with
  | '"' :: _ => (lineString? text).map fun r => (String.ofList r.1, r.2)
  | '\'' :: _ => (lineString? text).map fun r => (String.ofList r.1, r.2)
  | _ =>
    let name := text.takeWhile isBareKeyChar
    if name.isEmpty then none else some (String.ofList name, text.dropWhile isBareKeyChar)

/-- Reads the parts of a key after those already read, latest first. -/
def keyParts? : Nat → List String → List Char → Option (List String × List Char)
  | 0, _, _ => none
  | fuel + 1, parts, text => do
    let (part, rest) ← simpleKey? (skipSpaces text)
    match skipSpaces rest with
    | '.' :: rest => keyParts? fuel (part :: parts) rest
    | rest => return (part :: parts, rest)

/-- A dotted key: the keys before the last one, and the last one. -/
structure DottedKey where
  path : List String
  last : String

/-- Reads a key and the blanks around it. -/
def key? (text : List Char) : Option (DottedKey × List Char) := do
  match ← keyParts? (depthLimit - 1) [] text with
  | (last :: before, rest) => return (⟨before.reverse, last⟩, rest)
  | ([], _) => none

mutual

/-- Reads a value under at most `depth` brackets. -/
def value? : Nat → Nat → List Char → Option (Item × List Char)
  | 0, _, _ => none
  | fuel + 1, depth, text =>
    match text with
    | '"' :: _ => (string? text).map fun r => (.string (String.ofList r.1), r.2)
    | '\'' :: _ => (string? text).map fun r => (.string (String.ofList r.1), r.2)
    | '[' :: rest =>
      match depth with
      | 0 => none
      | depth + 1 => (arrayItems? fuel depth rest).map fun r => (.array r.1, r.2)
    | '\x7b' :: rest =>
      match depth with
      | 0 => none
      | depth + 1 =>
        match skipSpaces rest with
        | '\x7d' :: rest => some (.table .inline [], rest)
        | rest => (inlineEntries? fuel depth [] rest).map fun r => (.table .inline r.1, r.2)
    | _ =>
      let (token, rest) := splitToken text
      (scalar? token).map fun item => (item, rest)

/-- Reads the items of an array and its closing bracket; a comma may follow the last item. -/
def arrayItems? : Nat → Nat → List Char → Option (List Item × List Char)
  | 0, _, _ => none
  | fuel + 1, depth, text =>
    match skipLines text.length text with
    | ']' :: rest => some ([], rest)
    | text => do
      let (item, rest) ← value? fuel depth text
      match skipLines rest.length rest with
      | ',' :: rest =>
        let (items, rest) ← arrayItems? fuel depth rest
        return (item :: items, rest)
      | ']' :: rest => return ([item], rest)
      | _ => none

/-- Reads the entries of an inline table after those already read, and its closing brace. -/
def inlineEntries? : Nat → Nat → Entries → List Char → Option (Entries × List Char)
  | 0, _, _, _ => none
  | fuel + 1, depth, entries, text => do
    let (key, rest) ← key? text
    match rest with
    | '=' :: rest =>
      let (item, rest) ← value? fuel depth (skipSpaces rest)
      let entries ← Entries.assign? entries key.path key.last item
      match skipSpaces rest with
      | ',' :: rest => inlineEntries? fuel depth entries rest
      | '\x7d' :: rest => return (entries, rest)
      | _ => none
    | _ => none

end

/-- Reads a key, an equals sign and a value. -/
def assignment? (text : List Char) : Option (DottedKey × Item × List Char) := do
  let (key, rest) ← key? text
  match rest with
  | '=' :: rest =>
    let rest := skipSpaces rest
    let (item, rest) ← value? (2 * rest.length + 2) (depthLimit - 1) rest
    return (key, item, rest)
  | _ => none

/-- The entries read so far, and the header under which the next ones fall. -/
structure Document where
  entries : Entries
  header : List String

/-- Reads a header in double brackets, without the opening ones. -/
def elementHeader? (document : Document) (text : List Char) : Option (Document × List Char) := do
  let (key, rest) ← key? text
  match rest with
  | ']' :: ']' :: rest =>
    let entries ← Entries.openElement? document.entries key.path key.last
    return (⟨entries, key.path ++ [key.last]⟩, ← endOfLine? rest)
  | _ => none

/-- Reads a header, without the opening bracket. -/
def tableHeader? (document : Document) (text : List Char) : Option (Document × List Char) := do
  let (key, rest) ← key? text
  match rest with
  | ']' :: rest =>
    let entries ← Entries.openTable? document.entries key.path key.last
    return (⟨entries, key.path ++ [key.last]⟩, ← endOfLine? rest)
  | _ => none

/-- Reads one line that is not empty. -/
def line? (document : Document) (text : List Char) : Option (Document × List Char) :=
  match text with
  | '[' :: '[' :: rest => elementHeader? document rest
  | '[' :: rest => tableHeader? document rest
  | _ => do
    let (key, item, rest) ← assignment? text
    let entries ← Entries.assignUnder? document.entries document.header key.path key.last item
    return ({ document with entries := entries }, ← endOfLine? rest)

/-- Reads all lines, one for every unit of fuel. -/
def lines? : Nat → Document → List Char → Option Document
  | 0, _, _ => none
  | fuel + 1, document, text =>
    match skipLines text.length text with
    | [] => some document
    | text => do
      let (document, rest) ← line? document text
      lines? fuel document rest

/-- The table that a document spells. A byte order mark in front does not count. -/
def parse? (text : String) : Option Entries :=
  let chars := match text.toList with
    | '\ufeff' :: rest => rest
    | chars => chars
  (lines? (chars.length + 1) ⟨[], []⟩ chars).map Document.entries

end Cosigner.Toml
