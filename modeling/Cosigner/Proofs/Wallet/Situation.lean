import Cosigner.Proofs.Wallet.Sessions
/-!
Operations of a wallet carried out one after another, near a node that answers by what it has been
asked.

A node may answer a query by everything that it has been asked before, and a source of entropy gives
its draws one by one. What is answered to a wallet then depends on its situation alone: its store,
what the node has been asked, and how often entropy has been drawn (`Situation.respond`). So
sequences of operations can be compared that begin in one situation, near one node and with the same
randomness.

* `NodeBehaviour.Steady`: the node's answers about redeem scripts do not change, and its other
  answers do not depend on the queries of discovery.
* `Wallet.carryOut`: what operations give one after another.
* `Program.run_keeps`: a store that answers a program forgets nothing.
-/

namespace Cosigner

/-! ### Nodes -/

/-- How a node answers a query, by all that it has been asked before; the first query comes
first. -/
abbrev NodeBehaviour := List NodeQuery → (query : NodeQuery) → Except NodeError query.Reply

/-- A query of a kind that discovery makes. -/
def NodeQuery.isDiscovery : NodeQuery → Bool
  | .watchedAddresses => true
  | .redeemScript _ => true
  | _ => false

/-- What is left of queries without those of discovery. -/
def NodeQuery.others (asked : List NodeQuery) : List NodeQuery :=
  asked.filter fun query => !query.isDiscovery

/-- The node always answers the same about a redeem script, which may be a failure, and its answers
to other queries do not depend on those of discovery. Its lists of watched addresses may be
anything. -/
structure NodeBehaviour.Steady (node : NodeBehaviour) : Prop where
  scripts : ∀ (asked asked' : List NodeQuery) (address : String),
    node asked (.redeemScript address) = node asked' (.redeemScript address)
  others : ∀ (asked asked' : List NodeQuery) (query : NodeQuery), query.isDiscovery = false →
    NodeQuery.others asked = NodeQuery.others asked' → node asked query = node asked' query

/-- What there is around a wallet. -/
structure Surroundings where
  node : NodeBehaviour
  /-- The bytes of each draw. -/
  entropy : Nat → Bytes

/-! ### Situations -/

/-- All that the answers to a wallet's questions depend on. -/
structure Situation where
  store : KeyStore
  /-- What the node has been asked, the first query first. -/
  asked : List NodeQuery
  /-- How often entropy has been drawn. -/
  draws : Nat

namespace Situation

/-- A wallet that remembers nothing, and a node that has not been asked anything. -/
def start : Situation := ⟨.empty, [], 0⟩

def respond (around : Surroundings) : Program.Respond Situation
  | .node query, situation =>
    (around.node situation.asked query, { situation with asked := situation.asked ++ [query] })
  | .store action, situation =>
    let (reply, store) := situation.store.perform action
    (reply, { situation with store := store })
  | .entropy, situation =>
    (around.entropy situation.draws, { situation with draws := situation.draws + 1 })

theorem lawful (around : Surroundings) : Program.Lawful (respond around) store := by
  intro question situation
  cases question with
  | node query => exact .node query _ _
  | store action => exact .store action _
  | entropy => exact .entropy _ _

end Situation

namespace Program

variable {α σ : Type} {p : Program α} {store store' : KeyStore} {events : List Event} {value : α}

/-- What a store remembers, it remembers after any run. -/
theorem Runs.keeps (run : p.Runs store events value store') : store.KeptBy store' := by
  induction run with
  | done => exact .refl _
  | ask answers _ ih => exact (KeyStore.KeptBy.of_answers answers).trans ih

theorem run_keeps {respond : Respond σ} {storeOf : σ → KeyStore} (lawful : Lawful respond storeOf)
    (p : Program α) (state : σ) :
    (storeOf state).KeptBy (storeOf (p.run respond state).2) :=
  (runs_transcript lawful p state).keeps

end Program

namespace WalletProgram

variable {α σ : Type} {respond : Program.Respond σ}

/-- What a program does after it has asked the store. -/
theorem run_store_bind (action : StoreAction) (f : action.Reply → WalletProgram α) (state : σ) :
    (WalletProgram.store action >>= f).run.run respond state =
      (f (respond (.store action) state).1).run.run respond (respond (.store action) state).2 :=
  rfl

theorem run_lift (p : Program α) (state : σ) :
    (ExceptT.lift p : WalletProgram α).run.run respond state =
      (.ok (p.run respond state).1, (p.run respond state).2) :=
  Program.run_bind respond p _ state

theorem run_node (query : NodeQuery) (state : σ) :
    (WalletProgram.node query).run.run respond state =
      ((respond (.node query) state).1.mapError .node, (respond (.node query) state).2) := by
  show Program.run respond (Program.bind (Program.bind (.ask (.node query) .done) _) _) state = _
  simp only [Program.bind, Program.run]
  cases (respond (.node query) state).1 with
  | ok reply => rfl
  | error e => rfl

/-- What a program does after it has asked the node. -/
theorem run_node_bind (query : NodeQuery) (f : query.Reply → WalletProgram α) (state : σ) :
    (WalletProgram.node query >>= f).run.run respond state =
      match (respond (.node query) state).1 with
      | .ok reply => (f reply).run.run respond (respond (.node query) state).2
      | .error e => (.error (.node e), (respond (.node query) state).2) := by
  rw [ExceptT.run_bind, Program.run_bind, run_node]
  cases (respond (.node query) state).1 with
  | ok reply => rfl
  | error e => rfl

end WalletProgram

/-! ### Operations one after another -/

/-- An operation and what it gave. -/
structure Outcome where
  operation : Operation
  result : Except WalletError operation.Value

namespace Wallet

variable {σ : Type}

/-- Carries out operations one after another. -/
def carryOut (wallet : Wallet) (respond : Program.Respond σ) :
    List Operation → σ → List Outcome × σ
  | [], state => ([], state)
  | operation :: operations, state =>
    let (result, state) := (operation.program wallet).run.run respond state
    let (outcomes, state) := wallet.carryOut respond operations state
    (⟨operation, result⟩ :: outcomes, state)

theorem carryOut_append (wallet : Wallet) (respond : Program.Respond σ)
    (operations operations' : List Operation) (state : σ) :
    let first := wallet.carryOut respond operations state
    let second := wallet.carryOut respond operations' first.2
    wallet.carryOut respond (operations ++ operations') state =
      (first.1 ++ second.1, second.2) := by
  induction operations generalizing state with
  | nil => rfl
  | cons operation operations ih => simp only [List.cons_append, carryOut, ih]

/-- What a store remembers, it remembers after any operations. -/
theorem carryOut_keeps {respond : Program.Respond σ} {storeOf : σ → KeyStore}
    (lawful : Program.Lawful respond storeOf) (wallet : Wallet) (operations : List Operation)
    (state : σ) :
    (storeOf state).KeptBy (storeOf (wallet.carryOut respond operations state).2) := by
  induction operations generalizing state with
  | nil => exact .refl _
  | cons operation operations ih =>
    exact (Program.run_keeps lawful (operation.program wallet).run state).trans (ih _)

end Wallet

end Cosigner
