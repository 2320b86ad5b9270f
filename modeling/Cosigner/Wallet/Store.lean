import Cosigner.Bytes
/-!
What a wallet remembers: redeem scripts and issued addresses.

Both are registries, which only grow: an entry is added under a name that has none, and is never
replaced or removed. The operations of the store are also given as data, `StoreAction`, each of
which happens at one instant.

* `find?_add`: adding an entry changes what is found under its name, if nothing was, and nothing
  else.
-/

namespace Cosigner

/-- Values under distinct names, latest first. -/
structure Registry (α : Type) where
  entries : List (String × α)
deriving DecidableEq, Repr

namespace Registry

variable {α : Type}

def empty : Registry α := ⟨[]⟩

def find? (registry : Registry α) (name : String) : Option α := registry.entries.lookup name

def contains (registry : Registry α) (name : String) : Bool := (registry.find? name).isSome

/-- Adds an entry unless its name has one, and tells whether it was added. -/
def add (registry : Registry α) (name : String) (value : α) : Bool × Registry α :=
  if registry.contains name then (false, registry)
  else (true, ⟨(name, value) :: registry.entries⟩)

def size (registry : Registry α) : Nat := registry.entries.length

theorem find?_add (registry : Registry α) (name other : String) (value : α) :
    (registry.add name value).2.find? other =
      if other = name then some ((registry.find? name).getD value) else registry.find? other := by
  unfold add contains
  cases found : registry.find? name with
  | some present =>
    by_cases same : other = name
    · subst same; simp [found]
    · simp [same]
  | none =>
    by_cases same : other = name
    · subst same; simp [find?]
    · have differs : (other == name) = false := by simpa using same
      simp [find?, List.lookup_cons, differs, same]

end Registry

structure KeyStore where
  /-- The redeem script of each multisig address. -/
  redeemScripts : Registry Bytes
  /-- The round whose key each issued address belongs to. -/
  rounds : Registry Nat
deriving DecidableEq, Repr

/-- One operation of the store. -/
inductive StoreAction where
  | redeemScript (address : String)
  | hasRedeemScript (address : String)
  | insertRedeemScript (address : String) (script : Bytes)
  | round (address : String)
  | isIssued (address : String)
  | recordRound (address : String) (round : Nat)
deriving DecidableEq, Repr

abbrev StoreAction.Reply : StoreAction → Type
  | .redeemScript _ => Option Bytes
  | .hasRedeemScript _ => Bool
  | .insertRedeemScript _ _ => Bool
  | .round _ => Option Nat
  | .isIssued _ => Bool
  | .recordRound _ _ => Bool

namespace KeyStore

def empty : KeyStore := ⟨.empty, .empty⟩

/-- Performs one operation. -/
def perform (store : KeyStore) : (action : StoreAction) → action.Reply × KeyStore
  | .redeemScript address => (store.redeemScripts.find? address, store)
  | .hasRedeemScript address => (store.redeemScripts.contains address, store)
  | .insertRedeemScript address script =>
    let (added, scripts) := store.redeemScripts.add address script
    (added, { store with redeemScripts := scripts })
  | .round address => (store.rounds.find? address, store)
  | .isIssued address => (store.rounds.contains address, store)
  | .recordRound address round =>
    let (added, rounds) := store.rounds.add address round
    (added, { store with rounds := rounds })

end KeyStore

end Cosigner
