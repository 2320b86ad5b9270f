import Cosigner.Proofs.Wallet.Config
import Cosigner.Proofs.Wallet.Runs
import Cosigner.Wallet.Discovery
import Cosigner.Wallet.Addresses
import Cosigner.Wallet.Spend
/-!
The stores that a wallet can come to have.

Operations of a wallet can be begun at any time, and those that have begun are advanced question by
question in any order, while the node and the source of entropy answer as they like
(`Wallet.Reaches`). What holds in every reachable store follows from the questions that the
operations can come to ask at all (`Program.Asks`), so the kinds of questions are followed through
programs first.
-/

namespace Cosigner

/-! ### What a program asks -/

namespace Program

variable {α β : Type} {ok : Question → Prop}

/-- Every question that a program can come to ask is of a kind. -/
def Asks (ok : Question → Prop) : Program α → Prop
  | .done _ => True
  | .ask question next => ok question ∧ ∀ reply, (next reply).Asks ok

theorem asks_bind {p : Program α} {f : α → Program β} (first : p.Asks ok)
    (second : ∀ a, (f a).Asks ok) : (p >>= f).Asks ok := by
  show (p.bind f).Asks ok
  induction p with
  | done a => exact second a
  | ask question next ih => exact ⟨first.1, fun reply => ih reply (first.2 reply)⟩

theorem asks_askOne {question : Question} (allowed : ok question) :
    (askOne question).Asks ok :=
  ⟨allowed, fun _ => trivial⟩

end Program

namespace WalletProgram

variable {α β : Type} {ok : Question → Prop}

/-- Every question that a program can come to ask is of a kind. -/
def Asks (ok : Question → Prop) (p : WalletProgram α) : Prop := p.run.Asks ok

theorem asks_pure (value : α) : Asks ok (pure value) := trivial

theorem asks_throw (e : WalletError) : Asks ok (throw e : WalletProgram α) := trivial

theorem asks_bind {p : WalletProgram α} {f : α → WalletProgram β} (first : Asks ok p)
    (second : ∀ a, Asks ok (f a)) : Asks ok (p >>= f) := by
  rw [Asks, ExceptT.run_bind]
  refine Program.asks_bind first fun result => ?_
  cases result with
  | ok a => exact second a
  | error e => exact trivial

theorem asks_lift {p : Program α} (asks : p.Asks ok) : Asks ok (ExceptT.lift p) :=
  Program.asks_bind asks fun _ => trivial

theorem asks_node {query : NodeQuery} (allowed : ok (.node query)) :
    Asks ok (WalletProgram.node query) := by
  refine asks_bind (asks_lift (Program.asks_askOne allowed)) fun result => ?_
  cases result with
  | ok reply => exact asks_pure reply
  | error e => exact asks_throw _

theorem asks_store {action : StoreAction} (allowed : ok (.store action)) :
    Asks ok (WalletProgram.store action) :=
  asks_lift (Program.asks_askOne allowed)

theorem asks_entropy (allowed : ok .entropy) : Asks ok WalletProgram.entropy :=
  asks_lift (Program.asks_askOne allowed)

theorem asks_ofChain (result : Except ChainError α) : Asks ok (WalletProgram.ofChain result) := by
  cases result with
  | ok value => exact asks_pure value
  | error e => exact asks_throw _

end WalletProgram

/-! ### Operations -/

/-- What a wallet can be asked to do. A pass of the discovery task is `rescan`. -/
inductive Operation where
  | generateAddress (identifier : String)
  | createMultisigAddress (identifier : String) (cosigners : List String) (required : Nat)
  | registerMultisig (required : Nat) (publicKeys : List String)
  | createTransaction (senders : List String) (payments : List Payment)
  | signatureData (tx : Transaction) (address : String)
  | applySignature (tx : Transaction) (address : String) (entries : List SignatureEntry)
  | signTransaction (tx : Transaction) (identifier address : String)
  | sendTransaction (tx : Transaction)
  | fetchTransaction (txid : String)
  | balance (addresses : List String)
  | rescan

namespace Operation

/-- What an operation gives when it does not fail. -/
abbrev Value : Operation → Type
  | .generateAddress _ => Option String
  | .createMultisigAddress _ _ _ => Option String
  | .registerMultisig _ _ => String
  | .createTransaction _ _ => Option Transaction
  | .signatureData _ _ => List SignatureRequest
  | .applySignature _ _ _ => Transaction × Nat
  | .signTransaction _ _ _ => Transaction
  | .sendTransaction _ => String
  | .fetchTransaction _ => Transaction
  | .balance _ => Int64
  | .rescan => Nat

def program (wallet : Wallet) : (operation : Operation) → WalletProgram operation.Value
  | .generateAddress identifier => wallet.generateAddress identifier
  | .createMultisigAddress identifier cosigners required =>
    wallet.createMultisigAddress identifier cosigners required
  | .registerMultisig required publicKeys => wallet.registerMultisig required publicKeys
  | .createTransaction senders payments => wallet.createTransaction senders payments
  | .signatureData tx address => wallet.signatureData tx address
  | .applySignature tx address entries => wallet.applySignature tx address entries
  | .signTransaction tx identifier address => wallet.signTransaction tx identifier address
  | .sendTransaction tx => Wallet.sendTransaction tx
  | .fetchTransaction txid => Wallet.fetchTransaction txid
  | .balance addresses => wallet.balance addresses
  | .rescan => wallet.rescan

end Operation

/-- An operation that has begun, and what is left of it. -/
structure Task where
  operation : Operation
  rest : Program (Except WalletError operation.Value)

namespace Wallet

/-- Operations are begun at any time and advanced in any order. -/
inductive Reaches (wallet : Wallet) : List Task → KeyStore → Prop where
  | start : Reaches wallet [] .empty
  | begin {tasks : List Task} {store : KeyStore} (operation : Operation)
      (reached : Reaches wallet tasks store) :
      Reaches wallet (tasks ++ [⟨operation, (operation.program wallet).run⟩]) store
  | advance {before behind : List Task} {store store' : KeyStore} {operation : Operation}
      {question : Question} {next : question.Reply → Program (Except WalletError operation.Value)}
      {reply : question.Reply}
      (reached : Reaches wallet (before ++ ⟨operation, .ask question next⟩ :: behind) store)
      (answers : Answers question store reply store') :
      Reaches wallet (before ++ ⟨operation, next reply⟩ :: behind) store'

/-- A store that the wallet can come to have. -/
def Reachable (wallet : Wallet) (store : KeyStore) : Prop := ∃ tasks, wallet.Reaches tasks store

variable {wallet : Wallet}

/-- A task can be run to its end without the others. -/
theorem Reaches.finish {before behind : List Task} {store store' : KeyStore}
    {operation : Operation} {p : Program (Except WalletError operation.Value)}
    {events : List Event} {result : Except WalletError operation.Value}
    (reached : wallet.Reaches (before ++ ⟨operation, p⟩ :: behind) store)
    (run : p.Runs store events result store') :
    wallet.Reaches (before ++ ⟨operation, .done result⟩ :: behind) store' := by
  induction run with
  | done => exact reached
  | ask answers _ ih => exact ih (reached.advance answers)

/-- An operation leads from a reachable store to a reachable store. -/
theorem Reachable.runs {operation : Operation} {store store' : KeyStore} {events : List Event}
    {result : Except WalletError operation.Value} (reachable : wallet.Reachable store)
    (run : (operation.program wallet).run.Runs store events result store') :
    wallet.Reachable store' := by
  obtain ⟨tasks, reached⟩ := reachable
  exact ⟨_, (reached.begin operation).finish run⟩

theorem Reachable.at_desk {desk : Desk} (reachable : wallet.Reachable desk.store)
    (operation : Operation) :
    wallet.Reachable (desk.run (operation.program wallet).run).2.store :=
  reachable.runs (Program.runs_transcript Desk.lawful (operation.program wallet).run desk)

end Wallet

end Cosigner
