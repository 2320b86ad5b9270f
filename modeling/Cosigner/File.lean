import Cosigner.Text.Basic
/-!
Reading files, and why it fails.

Some paths fail wherever they are read: one with a NUL in it, one that is too long, and one whose
first name is too long, since that name is looked for before all others. A path that names nothing
but places around it leads to a directory. All other paths depend on the files that are there.
-/

namespace Cosigner

/-- Why a file was not read. -/
inductive ReadFault where
  | missing
  | notDirectory
  | directory
  | denied
  | nameTooLong
  | nulInName
  | notText
  | other (reason : String)
deriving DecidableEq, Repr

def ReadFault.message : ReadFault → String
  | .missing => "No such file or directory (os error 2)"
  | .notDirectory => "Not a directory (os error 20)"
  | .directory => "Is a directory (os error 21)"
  | .denied => "Permission denied (os error 13)"
  | .nameTooLong => "File name too long (os error 36)"
  | .nulInName => "file name contained an unexpected NUL byte"
  | .notText => "stream did not contain valid UTF-8"
  | .other reason => reason

/-! ### Paths -/

namespace Path

/-- The names between the slashes of a path. -/
def names : List Char → List (List Char)
  | [] => [[]]
  | c :: rest =>
    if c = '/' then [] :: names rest
    else
      match names rest with
      | [] => [[c]]
      | name :: later => (c :: name) :: later

/-- Whether a name leads to a directory from everywhere: it is empty, one dot or two. -/
def isStep (name : List Char) : Bool :=
  name.isEmpty || name == ['.'] || name == ['.', '.']

/-- The bytes of a name are no more than this. -/
def maxNameLength : Nat := 255

/-- The bytes of a path are fewer than this. -/
def lengthLimit : Nat := 4096

end Path

/-- Why reading fails at a path, if the path alone decides it. -/
def ReadFault.ofPath? (path : String) : Option ReadFault :=
  let text := path.toList
  if text.contains '\x00' then some .nulInName
  else if Path.lengthLimit ≤ Text.byteLength text then some .nameTooLong
  else if text.isEmpty then some .missing
  else
    match (Path.names text).find? fun name => !Path.isStep name with
    | none => some .directory
    | some name => if Path.maxNameLength < Text.byteLength name then some .nameTooLong else none

/-! ### Files in memory -/

/-- Files by their paths. -/
abbrev Files := List (String × ByteArray)

/-- What reading gives at a path where these are the only files. -/
def Files.read (files : Files) (path : String) : Except ReadFault ByteArray :=
  match files.lookup path with
  | some contents => .ok contents
  | none =>
    match ReadFault.ofPath? path with
    | some fault => .error fault
    | none =>
      if files.any fun file => (file.1.toList ++ ['/']).isPrefixOf path.toList then
        .error .notDirectory
      else .error .missing

end Cosigner
