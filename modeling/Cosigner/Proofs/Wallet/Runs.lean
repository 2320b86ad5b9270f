import Cosigner.Wallet.Basic
import Cosigner.Wallet.Program
/-!
Runs of programs against a node that may answer anything.

In a run, the store answers as it must, while the node and the source of entropy answer as they
like, so what holds of every run holds whatever the node does (`Program.Runs`). A run leaves a trace
of its questions and the replies to them. Answering by a function on a state is one such run
(`runs_transcript`), in particular at a desk.

* `runs_bind_iff`: a run of two programs in sequence is a run of each.
* `returns_bind_iff` and the lemmas after it: how the programs of a wallet succeed.
* `fails_bind_iff` and the lemmas after it: how they fail.
-/

namespace Cosigner

/-- A question and the reply to it. -/
structure Event where
  question : Question
  reply : question.Reply

/-- The redeem script that an event offers the store, and the address that it is offered for. -/
def Event.offered? : Event → Option (String × Bytes)
  | ⟨.store (.insertRedeemScript address script), _⟩ => some (address, script)
  | _ => none

/-- The outputs that the node has listed in reply to an event's question. -/
def Event.listed? : Event → Option (List Utxo)
  | ⟨.node (.listUnspent _ _ _), .ok utxos⟩ => some utxos
  | _ => none

/-- The reply that a question may get from a store, and the store after it. -/
inductive Answers : (question : Question) → KeyStore → question.Reply → KeyStore → Prop where
  | node (query : NodeQuery) (reply : Except NodeError query.Reply) (store : KeyStore) :
      Answers (.node query) store reply store
  | store (action : StoreAction) (store : KeyStore) :
      Answers (.store action) store (store.perform action).1 (store.perform action).2
  | entropy (bytes : Bytes) (store : KeyStore) : Answers .entropy store bytes store

theorem answers_node_iff {query : NodeQuery} {reply : Except NodeError query.Reply}
    {store store' : KeyStore} : Answers (.node query) store reply store' ↔ store' = store := by
  constructor
  · rintro ⟨⟩
    rfl
  · rintro rfl
    exact .node query reply _

theorem answers_store_iff {action : StoreAction} {reply : action.Reply} {store store' : KeyStore} :
    Answers (.store action) store reply store' ↔ (reply, store') = store.perform action := by
  constructor
  · rintro ⟨⟩
    rfl
  · intro performed
    obtain ⟨rfl, rfl⟩ := Prod.ext_iff.mp performed
    exact .store action store

namespace Program

variable {α β σ : Type}

/-- A program runs from a store to a value and a store, with a trace of what was asked. -/
inductive Runs : Program α → KeyStore → List Event → α → KeyStore → Prop where
  | done (value : α) (store : KeyStore) : Runs (.done value) store [] value store
  | ask {question : Question} {next : question.Reply → Program α} {store store' store'' : KeyStore}
      {reply : question.Reply} {events : List Event} {value : α}
      (answers : Answers question store reply store')
      (rest : Runs (next reply) store' events value store'') :
      Runs (.ask question next) store (⟨question, reply⟩ :: events) value store''

variable {p : Program α} {f : α → Program β} {store store' : KeyStore} {events : List Event}

theorem runs_pure_iff {value result : α} :
    Runs (pure value) store events result store' ↔
      events = [] ∧ result = value ∧ store' = store := by
  constructor
  · rintro ⟨⟩
    exact ⟨rfl, rfl, rfl⟩
  · rintro ⟨rfl, rfl, rfl⟩
    exact .done _ _

/-- A question is replied, and the program goes on with the reply. -/
theorem runs_ask_iff {question : Question} {next : question.Reply → Program α} {value : α} :
    Runs (.ask question next) store events value store' ↔
      ∃ reply between rest, events = ⟨question, reply⟩ :: rest ∧
        Answers question store reply between ∧ Runs (next reply) between rest value store' := by
  constructor
  · intro run
    cases run with
    | ask answers rest => exact ⟨_, _, _, rfl, answers, rest⟩
  · rintro ⟨reply, between, rest, rfl, answers, run⟩
    exact .ask answers run

/-- A run of two programs in sequence is a run of the first and then of the second. -/
theorem runs_bind_iff {value : β} :
    Runs (p >>= f) store events value store' ↔
      ∃ a between first second, events = first ++ second ∧ Runs p store first a between ∧
        Runs (f a) between second value store' := by
  show Runs (p.bind f) store events value store' ↔ _
  induction p generalizing store events with
  | done a =>
    constructor
    · intro run
      exact ⟨a, store, [], events, rfl, .done a store, run⟩
    · rintro ⟨_, _, _, _, rfl, ⟨⟩, run⟩
      exact run
  | ask question next ih =>
    constructor
    · intro run
      cases run with
      | ask answers rest =>
        obtain ⟨a, between, first, second, rfl, run, run'⟩ := (ih _).mp rest
        exact ⟨a, between, _, second, rfl, .ask answers run, run'⟩
    · rintro ⟨a, between, _, second, rfl, run, run'⟩
      cases run with
      | ask answers rest => exact .ask answers ((ih _).mpr ⟨a, between, _, second, rfl, rest, run'⟩)

theorem runs_askOne_iff {question : Question} {reply : question.Reply} :
    Runs (askOne question) store events reply store' ↔
      events = [⟨question, reply⟩] ∧ Answers question store reply store' := by
  constructor
  · intro run
    cases run with
    | ask answers rest =>
      cases rest
      exact ⟨rfl, answers⟩
  · rintro ⟨rfl, answers⟩
    exact .ask answers (.done _ _)

/-- A way to answer questions that treats the store in its state as a store is treated. -/
def Lawful (respond : Respond σ) (storeOf : σ → KeyStore) : Prop :=
  ∀ question state, Answers question (storeOf state) (respond question state).1
    (storeOf (respond question state).2)

/-- What a program asks when it is answered by a function, and what it is replied. -/
def transcript (respond : Respond σ) : Program α → σ → List Event
  | .done _, _ => []
  | .ask question next, state =>
    let (reply, state) := respond question state
    ⟨question, reply⟩ :: transcript respond (next reply) state

/-- Answering by a function is a run. -/
theorem runs_transcript {respond : Respond σ} {storeOf : σ → KeyStore}
    (lawful : Lawful respond storeOf) (p : Program α) (state : σ) :
    Runs p (storeOf state) (transcript respond p state) (p.run respond state).1
      (storeOf (p.run respond state).2) := by
  induction p generalizing state with
  | done value => exact .done value _
  | ask question next ih => exact .ask (lawful question state) (ih _ _)

end Program

/-- A desk answers as a store, a node and a source of entropy may. -/
theorem Desk.lawful : Program.Lawful Desk.respond Desk.store := by
  intro question desk
  cases question with
  | node query => exact .node query _ _
  | store action => exact .store action _
  | entropy => exact .entropy _ _

/-! ### Programs that can fail -/

namespace WalletProgram

variable {α β : Type} {p : WalletProgram α} {f : α → WalletProgram β} {store store' : KeyStore}
  {events : List Event}

/-- A run of programs in sequence ends with the failure of the first, or goes on with its value. -/
theorem runs_bind_iff {result : Except WalletError β} :
    Program.Runs (p >>= f).run store events result store' ↔
      (∃ e, result = .error e ∧ Program.Runs p.run store events (.error e) store') ∨
      ∃ a between first second, events = first ++ second ∧
        Program.Runs p.run store first (.ok a) between ∧
        Program.Runs (f a).run between second result store' := by
  rw [ExceptT.run_bind, Program.runs_bind_iff]
  constructor
  · rintro ⟨outcome, between, first, second, rfl, run, run'⟩
    cases outcome with
    | error e =>
      obtain ⟨rfl, rfl, rfl⟩ := Program.runs_pure_iff.mp run'
      rw [List.append_nil]
      exact .inl ⟨e, rfl, run⟩
    | ok a => exact .inr ⟨a, between, first, second, rfl, run, run'⟩
  · rintro (⟨e, rfl, run⟩ | ⟨a, between, first, second, rfl, run, run'⟩)
    · exact ⟨.error e, store', events, [], (List.append_nil _).symm, run, .done _ _⟩
    · exact ⟨.ok a, between, first, second, rfl, run, run'⟩

/-- A program that cannot fail runs as it does on its own. -/
theorem runs_lift_iff {q : Program α} {result : Except WalletError α} :
    Program.Runs (ExceptT.lift q : WalletProgram α).run store events result store' ↔
      ∃ value, result = .ok value ∧ q.Runs store events value store' := by
  rw [show (ExceptT.lift q : WalletProgram α).run = q >>= fun a => pure (.ok a) from rfl,
    Program.runs_bind_iff]
  constructor
  · rintro ⟨a, between, first, second, rfl, run, run'⟩
    obtain ⟨rfl, rfl, rfl⟩ := Program.runs_pure_iff.mp run'
    rw [List.append_nil]
    exact ⟨a, rfl, run⟩
  · rintro ⟨value, rfl, run⟩
    exact ⟨value, store', events, [], (List.append_nil _).symm, run, .done _ _⟩

/-- A run that ends without a failure. -/
def Returns (p : WalletProgram α) (store : KeyStore) (events : List Event) (value : α)
    (store' : KeyStore) : Prop :=
  Program.Runs p.run store events (.ok value) store'

theorem returns_pure_iff {value result : α} :
    Returns (pure value) store events result store' ↔
      events = [] ∧ result = value ∧ store' = store := by
  rw [Returns, show (pure value : WalletProgram α).run = pure (.ok value) from rfl,
    Program.runs_pure_iff, Except.ok.injEq]

theorem not_returns_throw {e : WalletError} {value : α} :
    ¬ Returns (throw e) store events value store' := by
  rintro ⟨⟩

/-- Programs in sequence return when the first returns, and the second does on its value. -/
theorem returns_bind_iff {value : β} :
    Returns (p >>= f) store events value store' ↔
      ∃ a between first second, events = first ++ second ∧ Returns p store first a between ∧
        Returns (f a) between second value store' := by
  rw [Returns, runs_bind_iff]
  constructor
  · rintro (⟨_, ⟨⟩, -⟩ | goesOn)
    exact goesOn
  · exact .inr

theorem returns_lift_iff {q : Program α} {value : α} :
    Returns (ExceptT.lift q) store events value store' ↔ q.Runs store events value store' := by
  rw [Returns, runs_lift_iff]
  simp only [Except.ok.injEq, exists_eq_left']

/-- The node answered. -/
theorem returns_node_iff {query : NodeQuery} {reply : query.Reply} :
    Returns (WalletProgram.node query) store events reply store' ↔
      events = [⟨.node query, .ok reply⟩] ∧ store' = store := by
  rw [WalletProgram.node, returns_bind_iff]
  constructor
  · rintro ⟨result, between, first, second, rfl, asked, run⟩
    obtain ⟨rfl, answers⟩ := Program.runs_askOne_iff.mp (returns_lift_iff.mp asked)
    cases answers
    cases result with
    | error e => cases run
    | ok reply =>
      obtain ⟨rfl, rfl, rfl⟩ := returns_pure_iff.mp run
      exact ⟨rfl, rfl⟩
  · rintro ⟨rfl, rfl⟩
    exact ⟨.ok reply, store', _, [], rfl, returns_lift_iff.mpr
      (Program.runs_askOne_iff.mpr ⟨rfl, .node query _ _⟩), returns_pure_iff.mpr ⟨rfl, rfl, rfl⟩⟩

/-- The store did what it was asked. -/
theorem returns_store_iff {action : StoreAction} {reply : action.Reply} :
    Returns (WalletProgram.store action) store events reply store' ↔
      events = [⟨.store action, reply⟩] ∧ (reply, store') = store.perform action := by
  rw [WalletProgram.store, returns_lift_iff, Program.askStore, Program.runs_askOne_iff,
    answers_store_iff]

theorem returns_entropy_iff {bytes : Bytes} :
    Returns WalletProgram.entropy store events bytes store' ↔
      events = [⟨.entropy, bytes⟩] ∧ store' = store := by
  rw [WalletProgram.entropy, returns_lift_iff, Program.freshEntropy, Program.runs_askOne_iff]
  refine and_congr_right fun _ => ?_
  constructor
  · rintro ⟨⟩
    rfl
  · rintro rfl
    exact .entropy bytes _

/-- A computation on the chain's data asks nothing. -/
theorem returns_ofChain_iff {result : Except ChainError α} {value : α} :
    Returns (WalletProgram.ofChain result) store events value store' ↔
      result = .ok value ∧ events = [] ∧ store' = store := by
  cases result with
  | error e =>
    simp only [reduceCtorEq, false_and, iff_false]
    exact not_returns_throw
  | ok a =>
    rw [WalletProgram.ofChain, returns_pure_iff, Except.ok.injEq]
    constructor
    · rintro ⟨rfl, rfl, rfl⟩
      exact ⟨rfl, rfl, rfl⟩
    · rintro ⟨rfl, rfl, rfl⟩
      exact ⟨rfl, rfl, rfl⟩

/-- What a program gives at a desk, it gives in a run. -/
theorem returns_of_desk {desk : Desk} {value : α}
    (gives : (desk.run p.run).1.toOption = some value) :
    Returns p desk.store (Program.transcript Desk.respond p.run desk) value
      (desk.run p.run).2.store := by
  have run := Program.runs_transcript Desk.lawful p.run desk
  cases result : (desk.run p.run).1 with
  | error e =>
    rw [result] at gives
    cases gives
  | ok given =>
    rw [result] at gives
    cases gives
    rw [show (Program.run Desk.respond p.run desk).1 = .ok value from result] at run
    exact run

/-! ### How programs fail -/

/-- A run that ends with a failure. -/
def Fails (p : WalletProgram α) (store : KeyStore) (events : List Event) (e : WalletError)
    (store' : KeyStore) : Prop :=
  Program.Runs p.run store events (.error e) store'

variable {e : WalletError}

theorem not_fails_pure {value : α} : ¬ Fails (pure value) store events e store' := by
  rintro ⟨⟩

theorem fails_throw_iff {thrown : WalletError} :
    Fails (throw thrown : WalletProgram α) store events e store' ↔
      e = thrown ∧ events = [] ∧ store' = store := by
  rw [Fails, show (throw thrown : WalletProgram α).run = pure (.error thrown) from rfl,
    Program.runs_pure_iff, Except.error.injEq]
  exact and_left_comm

/-- Programs in sequence fail when the first fails, or when it returns and the second fails on its
value. -/
theorem fails_bind_iff :
    Fails (p >>= f) store events e store' ↔
      Fails p store events e store' ∨
      ∃ a between first second, events = first ++ second ∧ Returns p store first a between ∧
        Fails (f a) between second e store' := by
  rw [Fails, runs_bind_iff]
  constructor
  · rintro (⟨_, ⟨⟩, run⟩ | goesOn)
    · exact .inl run
    · exact .inr goesOn
  · rintro (run | goesOn)
    · exact .inl ⟨e, rfl, run⟩
    · exact .inr goesOn

theorem not_fails_lift {q : Program α} :
    ¬ Fails (ExceptT.lift q : WalletProgram α) store events e store' := by
  rw [Fails, runs_lift_iff]
  rintro ⟨_, ⟨⟩, -⟩

/-- The node failed. -/
theorem fails_node_iff {query : NodeQuery} :
    Fails (WalletProgram.node query) store events e store' ↔
      ∃ failure, e = .node failure ∧ events = [⟨.node query, .error failure⟩] ∧ store' = store := by
  rw [WalletProgram.node, fails_bind_iff]
  constructor
  · rintro (run | ⟨result, between, first, second, rfl, asked, run⟩)
    · exact absurd run not_fails_lift
    · obtain ⟨rfl, answers⟩ := Program.runs_askOne_iff.mp (returns_lift_iff.mp asked)
      cases answers
      cases result with
      | ok reply => exact absurd run not_fails_pure
      | error failure =>
        obtain ⟨rfl, rfl, rfl⟩ := fails_throw_iff.mp run
        exact ⟨failure, rfl, rfl, rfl⟩
  · rintro ⟨failure, rfl, rfl, rfl⟩
    exact .inr ⟨.error failure, store', _, [], rfl, returns_lift_iff.mpr
      (Program.runs_askOne_iff.mpr ⟨rfl, .node query _ _⟩), fails_throw_iff.mpr ⟨rfl, rfl, rfl⟩⟩

theorem not_fails_store {action : StoreAction} :
    ¬ Fails (WalletProgram.store action) store events e store' := not_fails_lift

/-- What begins with the store fails later, from the store as it then is. -/
theorem fails_store_bind_iff {action : StoreAction} {f : action.Reply → WalletProgram β} :
    Fails (WalletProgram.store action >>= f) store events e store' ↔
      ∃ rest, events = ⟨.store action, (store.perform action).1⟩ :: rest ∧
        Fails (f (store.perform action).1) (store.perform action).2 rest e store' := by
  rw [fails_bind_iff]
  constructor
  · rintro (run | ⟨reply, between, _, rest, rfl, asked, run⟩)
    · exact absurd run not_fails_store
    · obtain ⟨rfl, performed⟩ := returns_store_iff.mp asked
      obtain ⟨rfl, rfl⟩ := Prod.ext_iff.mp performed
      exact ⟨rest, rfl, run⟩
  · rintro ⟨rest, rfl, run⟩
    exact .inr ⟨_, _, [_], rest, rfl, returns_store_iff.mpr ⟨rfl, rfl⟩, run⟩

/-- A computation on the chain's data fails without having asked anything. -/
theorem fails_ofChain_iff {result : Except ChainError α} :
    Fails (WalletProgram.ofChain result) store events e store' ↔
      ∃ fault, result = .error fault ∧ e = .chain fault ∧ events = [] ∧ store' = store := by
  cases result with
  | ok a =>
    simp only [reduceCtorEq, false_and, exists_false, iff_false]
    exact not_fails_pure
  | error fault =>
    rw [WalletProgram.ofChain, fails_throw_iff]
    simp only [Except.error.injEq, exists_eq_left']

/-- How a program fails at a desk, it fails in a run. -/
theorem fails_of_desk {desk : Desk} (fails : (desk.run p.run).1 = .error e) :
    Fails p desk.store (Program.transcript Desk.respond p.run desk) e
      (desk.run p.run).2.store := by
  have run := Program.runs_transcript Desk.lawful p.run desk
  rw [show (Program.run Desk.respond p.run desk).1 = .error e from fails] at run
  exact run

end WalletProgram

end Cosigner
