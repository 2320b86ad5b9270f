/-!
TOML documents as trees.

A table remembers how it came about, because that decides what may still be added to it: a table
written between braces is complete; one opened by a header takes the keys below the header and no
dotted key from elsewhere; one implied by a longer header may still be opened by its own; one made
by a dotted key takes more dotted keys. Floating point numbers and dates are kept as spelled.
-/

namespace Cosigner.Toml

inductive Origin where
  | inline
  | header
  | implied
  | dotted
deriving DecidableEq, Repr

inductive Item where
  | string (text : String)
  | integer (value : Int)
  | boolean (value : Bool)
  | float (literal : List Char)
  | dateTime (literal : List Char)
  | array (items : List Item)
  | table (origin : Origin) (entries : List (String × Item))
  /-- Tables opened one after another by headers in double brackets; never none. -/
  | tables (elements : List (List (String × Item)))

/-- The keys of a table with their items, each key once. -/
abbrev Entries := List (String × Item)

namespace Entries

/-- Adds an item under a new key. -/
def insert? (entries : Entries) (key : String) (item : Item) : Option Entries :=
  match entries.lookup key with
  | none => some (entries ++ [(key, item)])
  | some _ => none

/-- Replaces the item under a key that is there. -/
def replace (entries : Entries) (key : String) (item : Item) : Entries :=
  entries.map fun entry => if entry.1 == key then (key, item) else entry

/-- Changes the table at a path, and makes the tables on the way that are not there. A path comes
from a dotted key or from a header. The change is told whether a dotted key made the table. -/
def update? (dotted : Bool) (change : Bool → Entries → Option Entries) :
    List String → Bool → Entries → Option Entries
  | [], madeByDots, entries => change madeByDots entries
  | key :: path, _, entries =>
    match entries.lookup key with
    | none =>
      (update? dotted change path dotted []).map fun inner =>
        entries ++ [(key, .table (if dotted then .dotted else .implied) inner)]
    | some (.table origin inner) =>
      if origin = .inline ∨ (dotted ∧ origin = .header) then none
      else
        (update? dotted change path (origin == .dotted) inner).map fun inner =>
          entries.replace key (.table origin inner)
    | some (.tables elements) =>
      match elements.getLast? with
      | none => none
      | some last =>
        (update? dotted change path false last).map fun last =>
          entries.replace key (.tables (elements.dropLast ++ [last]))
    | some _ => none

/-- Adds an item under a dotted key, given as the keys before the last one and the last one. -/
def assign? (entries : Entries) (path : List String) (key : String) (item : Item) :
    Option Entries :=
  Entries.update? true
    (fun madeByDots inner => if madeByDots == path.isEmpty then none else inner.insert? key item)
    path false entries

/-- Opens the table that a header names. -/
def openTable? (entries : Entries) (path : List String) (key : String) : Option Entries :=
  Entries.update? false
    (fun _ inner =>
      match inner.lookup key with
      | none => some (inner ++ [(key, .table .header [])])
      | some (.table .implied present) => some (inner.replace key (.table .header present))
      | some _ => none)
    path false entries

/-- Opens one more table under a header in double brackets. -/
def openElement? (entries : Entries) (path : List String) (key : String) : Option Entries :=
  Entries.update? false
    (fun _ inner =>
      match inner.lookup key with
      | none => some (inner ++ [(key, .tables [[]])])
      | some (.tables elements) => some (inner.replace key (.tables (elements ++ [[]])))
      | some _ => none)
    path false entries

/-- Adds an item under a dotted key to the table that the last header opened. -/
def assignUnder? (entries : Entries) (header path : List String) (key : String) (item : Item) :
    Option Entries :=
  Entries.update? false (fun _ inner => inner.assign? path key item) header false entries

end Entries

end Cosigner.Toml
