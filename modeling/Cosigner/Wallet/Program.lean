import Cosigner.Node.Memory
import Cosigner.Wallet.Store
/-!
Operations of a wallet as programs.

A program asks one thing at a time, of the node, of the store or of the source of entropy, and goes
on with the reply. Nothing happens between two questions that others could see, so several
programs can be interleaved question by question. `Program.run` answers the questions of one
program by a function on a state.

A desk is a node in memory, the store of one wallet, and a source of entropy. It answers every
question that a program can ask. Its entropy is the number of draws made before, so no two draws are
the same.

* `run_bind`: running two programs in sequence runs the second from where the first ended.
-/

namespace Cosigner

/-- One question. -/
inductive Question where
  | node (query : NodeQuery)
  | store (action : StoreAction)
  /-- Asks for 32 fresh bytes. -/
  | entropy

abbrev Question.Reply : Question → Type
  | .node query => Except NodeError query.Reply
  | .store action => action.Reply
  | .entropy => Bytes

inductive Program (α : Type) where
  | done (value : α)
  | ask (question : Question) (next : question.Reply → Program α)

namespace Program

variable {α β σ : Type}

protected def bind : Program α → (α → Program β) → Program β
  | .done value, f => f value
  | .ask question next, f => .ask question fun reply => (next reply).bind f

instance : Monad Program where
  pure := .done
  bind := Program.bind

def askOne (question : Question) : Program question.Reply := .ask question .done

def askNode (query : NodeQuery) : Program (Except NodeError query.Reply) := askOne (.node query)

def askStore (action : StoreAction) : Program action.Reply := askOne (.store action)

def freshEntropy : Program Bytes := askOne .entropy

/-- How the questions of programs are answered from a state. -/
abbrev Respond (σ : Type) := (question : Question) → σ → question.Reply × σ

/-- Runs a program to its end. -/
def run (respond : Respond σ) : Program α → σ → α × σ
  | .done value, state => (value, state)
  | .ask question next, state =>
    let (reply, state) := respond question state
    run respond (next reply) state

@[simp] theorem run_pure (respond : Respond σ) (value : α) (state : σ) :
    run respond (pure value) state = (value, state) := rfl

theorem run_bind (respond : Respond σ) (p : Program α) (f : α → Program β) (state : σ) :
    run respond (p >>= f) state =
      run respond (f (run respond p state).1) (run respond p state).2 := by
  show run respond (p.bind f) state = _
  induction p generalizing state with
  | done value => rfl
  | ask question next ih => exact ih _ _

end Program

/-! ### Desks -/

structure Desk where
  node : MemoryNode
  store : KeyStore
  /-- How often entropy has been drawn. -/
  draws : Nat

namespace Desk

def respond : Program.Respond Desk
  | .node query, desk =>
    let (reply, node) := desk.node.respond query
    (reply, { desk with node := node })
  | .store action, desk =>
    let (reply, store) := desk.store.perform action
    (reply, { desk with store := store })
  | .entropy, desk => (Bytes.ofNatBE 32 desk.draws, { desk with draws := desk.draws + 1 })

def run {α : Type} (program : Program α) (desk : Desk) : α × Desk :=
  Program.run respond program desk

end Desk

end Cosigner
