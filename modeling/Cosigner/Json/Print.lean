import Cosigner.Json.Basic
/-!
Writing JSON texts.

The compact form has no blanks. The indented form puts every item and member on a line of its own,
two spaces further in than the bracket around it; an empty array or object is its two brackets.
Only trees whose numbers are integers are written.
-/

namespace Cosigner.Json

def quote (literal : List Char) : List Char := '"' :: literal ++ ['"']

/-- Pieces with a separator between them. -/
def separated (separator : List Char) (pieces : List (List Char)) : List Char :=
  (pieces.intersperse separator).flatten

mutual

def compactChars : Json → List Char
  | .null => ['n', 'u', 'l', 'l']
  | .bool true => ['t', 'r', 'u', 'e']
  | .bool false => ['f', 'a', 'l', 's', 'e']
  | .number literal => literal.integerText
  | .string literal => quote literal
  | .array items => '[' :: separated [','] (compactItems items) ++ [']']
  | .object members => '\x7b' :: separated [','] (compactMembers members) ++ ['\x7d']

def compactItems : List Json → List (List Char)
  | [] => []
  | item :: items => compactChars item :: compactItems items

def compactMembers : List (List Char × Json) → List (List Char)
  | [] => []
  | (name, value) :: members => (quote name ++ ':' :: compactChars value) :: compactMembers members

end

/-- A new line and the indentation of a depth. -/
def newLine (depth : Nat) : List Char := '\n' :: List.replicate (2 * depth) ' '

/-- Pieces on lines of their own between two brackets. -/
def block (opening closing : Char) (depth : Nat) (pieces : List (List Char)) : List Char :=
  if pieces.isEmpty then [opening, closing]
  else opening :: newLine (depth + 1) ++ separated (',' :: newLine (depth + 1)) pieces ++
    newLine depth ++ [closing]

mutual

def indentedChars (depth : Nat) : Json → List Char
  | .null => ['n', 'u', 'l', 'l']
  | .bool true => ['t', 'r', 'u', 'e']
  | .bool false => ['f', 'a', 'l', 's', 'e']
  | .number literal => literal.integerText
  | .string literal => quote literal
  | .array items => block '[' ']' depth (indentedItems (depth + 1) items)
  | .object members => block '\x7b' '\x7d' depth (indentedMembers (depth + 1) members)

def indentedItems (depth : Nat) : List Json → List (List Char)
  | [] => []
  | item :: items => indentedChars depth item :: indentedItems depth items

def indentedMembers (depth : Nat) : List (List Char × Json) → List (List Char)
  | [] => []
  | (name, value) :: members =>
    (quote name ++ ':' :: ' ' :: indentedChars depth value) :: indentedMembers depth members

end

def compact (json : Json) : String := String.ofList (compactChars json)

def indented (json : Json) : String := String.ofList (indentedChars 0 json)

end Cosigner.Json
