import Cosigner.Proofs.Wallet.Sound
import Mathlib.Logic.Relation
/-!
Calls of a wallet that are under way at the same time, each with what it has asked so far.

In a session calls are begun at any time, and those under way get their replies one by one in any
order, from the store as it then is and from a node that answers as it likes (`Wallet.Moves`). It
is reachability with the history of every call kept (`Leads.reaches`), so that it can be told which
call was given which reply, and what is later than what.

* `Leads.keeps`: what a store remembers, every later store remembers.
* `Leads.forall_calls`: what holds of a call at its beginning and is kept by replies holds of all
  calls.
* `leads_play`: a schedule of calls, with the questions answered by a function, is a session; in
  particular at a desk (`leads_playAt`).
-/

namespace Cosigner

/-! ### What stores keep -/

theorem Registry.find?_add_of_find? {α : Type} {registry : Registry α} {name other : String}
    {value found : α} (there : registry.find? other = some found) :
    (registry.add name value).2.find? other = some found := by
  rw [Registry.find?_add]
  split
  · rename_i same
    rw [← same, there, Option.getD_some]
  · exact there

/-- Everything that a store remembers, a later one remembers as well. -/
structure KeyStore.KeptBy (store later : KeyStore) : Prop where
  scripts : ∀ address script, store.redeemScripts.find? address = some script →
    later.redeemScripts.find? address = some script
  rounds : ∀ address round, store.rounds.find? address = some round →
    later.rounds.find? address = some round

namespace KeyStore.KeptBy

variable {store between later : KeyStore}

theorem refl (store : KeyStore) : store.KeptBy store := ⟨fun _ _ => id, fun _ _ => id⟩

theorem trans (first : store.KeptBy between) (second : between.KeptBy later) :
    store.KeptBy later :=
  ⟨fun address script there => second.scripts address script (first.scripts address script there),
    fun address round there => second.rounds address round (first.rounds address round there)⟩

/-- No question makes a store forget. -/
theorem of_answers {question : Question} {reply : question.Reply}
    (answers : Answers question store reply later) : store.KeptBy later := by
  cases answers with
  | node => exact refl store
  | entropy => exact refl store
  | store action =>
    cases action with
    | insertRedeemScript address script =>
      exact ⟨fun _ _ => Registry.find?_add_of_find?, fun _ _ => id⟩
    | recordRound address round =>
      exact ⟨fun _ _ => id, fun _ _ => Registry.find?_add_of_find?⟩
    | _ => exact refl store

end KeyStore.KeptBy

/-! ### Sessions -/

/-- A call of an operation: what it has asked so far, and what is left of it. -/
structure Call where
  operation : Operation
  events : List Event
  rest : Program (Except WalletError operation.Value)

namespace Call

def begin (wallet : Wallet) (operation : Operation) : Call :=
  ⟨operation, [], (operation.program wallet).run⟩

/-- A call without its history. -/
def task (call : Call) : Task := ⟨call.operation, call.rest⟩

end Call

/-- The calls of a wallet in the order in which they were begun, and its store. -/
structure Session where
  calls : List Call
  store : KeyStore

namespace Session

def start : Session := ⟨[], .empty⟩

end Session

namespace Wallet

/-- A call is begun, or one that is under way is given a reply. -/
inductive Moves (wallet : Wallet) : Session → Session → Prop where
  | begin (calls : List Call) (store : KeyStore) (operation : Operation) :
      Moves wallet ⟨calls, store⟩ ⟨calls ++ [.begin wallet operation], store⟩
  | reply {before behind : List Call} {store store' : KeyStore} {operation : Operation}
      {events : List Event} {question : Question}
      {next : question.Reply → Program (Except WalletError operation.Value)}
      {reply : question.Reply} (answers : Answers question store reply store') :
      Moves wallet ⟨before ++ ⟨operation, events, .ask question next⟩ :: behind, store⟩
        ⟨before ++ ⟨operation, events ++ [⟨question, reply⟩], next reply⟩ :: behind, store'⟩

/-- A session comes before another, or is the same. -/
def Leads (wallet : Wallet) : Session → Session → Prop := Relation.ReflTransGen wallet.Moves

variable {wallet : Wallet} {session later : Session}

/-- What is under way in a session can be under way. -/
theorem Leads.reaches (leads : wallet.Leads .start session) :
    wallet.Reaches (session.calls.map Call.task) session.store := by
  induction leads with
  | refl => exact .start
  | tail _ move ih =>
    cases move with
    | begin calls store operation =>
      rw [List.map_append]
      exact ih.begin operation
    | reply answers =>
      rw [List.map_append, List.map_cons] at ih ⊢
      exact ih.advance answers

/-- What a store remembers, it remembers from then on. -/
theorem Leads.keeps (leads : wallet.Leads session later) : session.store.KeptBy later.store := by
  induction leads with
  | refl => exact .refl _
  | tail _ move ih =>
    cases move with
    | begin => exact ih
    | reply answers => exact ih.trans (.of_answers answers)

/-- What holds of a call at its beginning and is kept by every reply holds of all calls. -/
theorem Leads.forall_calls {holds : Call → Prop} (leads : wallet.Leads .start session)
    (begin : ∀ operation, holds (.begin wallet operation))
    (step : ∀ {operation events question} {reply : question.Reply}
      {next : question.Reply → Program (Except WalletError operation.Value)},
      holds ⟨operation, events, .ask question next⟩ →
        holds ⟨operation, events ++ [⟨question, reply⟩], next reply⟩) :
    ∀ call ∈ session.calls, holds call := by
  induction leads with
  | refl => simp [Session.start]
  | tail _ move ih =>
    cases move with
    | begin calls store operation =>
      exact List.forall_mem_append.mpr ⟨ih, List.forall_mem_singleton.mpr (begin operation)⟩
    | reply answers =>
      obtain ⟨front, here⟩ := List.forall_mem_append.mp ih
      obtain ⟨held, back⟩ := List.forall_mem_cons.mp here
      exact List.forall_mem_append.mpr ⟨front, List.forall_mem_cons.mpr ⟨step held, back⟩⟩

/-- What holds of every answer and the store after it, and is kept as stores go on, holds of all
that has been asked. -/
theorem Leads.forall_events {holds : Event → KeyStore → Prop} (leads : wallet.Leads .start session)
    (fresh : ∀ {question : Question} {reply : question.Reply} {store store' : KeyStore},
      Answers question store reply store' → holds ⟨question, reply⟩ store')
    (kept : ∀ {event : Event} {store later : KeyStore}, store.KeptBy later → holds event store →
      holds event later) :
    ∀ call ∈ session.calls, ∀ event ∈ call.events, holds event session.store := by
  induction leads with
  | refl => simp [Session.start]
  | tail _ move ih =>
    cases move with
    | begin calls store operation =>
      exact List.forall_mem_append.mpr ⟨ih, by simp [Call.begin]⟩
    | @reply before behind store store' operation events question next reply answers =>
      have keeps := KeyStore.KeptBy.of_answers answers
      obtain ⟨front, here⟩ := List.forall_mem_append.mp ih
      obtain ⟨asked, back⟩ := List.forall_mem_cons.mp here
      refine List.forall_mem_append.mpr ⟨fun call mem event there => ?_,
        List.forall_mem_cons.mpr ⟨?_, fun call mem event there => ?_⟩⟩
      · exact kept keeps (front call mem event there)
      · refine List.forall_mem_append.mpr ⟨fun event there => kept keeps (asked event there), ?_⟩
        exact List.forall_mem_singleton.mpr (fresh answers)
      · exact kept keeps (back call mem event there)

end Wallet

/-! ### Schedules -/

/-- Who moves next: a new call, or the call of this number. -/
inductive Turn where
  | begin (operation : Operation)
  | reply (index : Nat)

section Play

variable {σ : Type}

/-- A call after one reply, if it is waiting for one. -/
def Call.advance? (respond : Program.Respond σ) (call : Call) (state : σ) : Option (Call × σ) :=
  match call with
  | ⟨_, _, .done _⟩ => none
  | ⟨operation, events, .ask question next⟩ =>
    let (reply, state) := respond question state
    some (⟨operation, events ++ [⟨question, reply⟩], next reply⟩, state)

namespace Wallet

def playOne (wallet : Wallet) (respond : Program.Respond σ) (calls : List Call) (state : σ) :
    Turn → List Call × σ
  | .begin operation => (calls ++ [.begin wallet operation], state)
  | .reply index =>
    match calls[index]? with
    | none => (calls, state)
    | some call =>
      match call.advance? respond state with
      | none => (calls, state)
      | some (call, state) => (calls.set index call, state)

/-- Plays a schedule, with the questions answered from a state. -/
def play (wallet : Wallet) (respond : Program.Respond σ) (calls : List Call) (state : σ) :
    List Turn → List Call × σ
  | [] => (calls, state)
  | turn :: turns =>
    let (calls, state) := wallet.playOne respond calls state turn
    wallet.play respond calls state turns

variable {wallet : Wallet} {respond : Program.Respond σ} {storeOf : σ → KeyStore}

theorem leads_playOne (lawful : Program.Lawful respond storeOf) (calls : List Call) (state : σ)
    (turn : Turn) :
    wallet.Leads ⟨calls, storeOf state⟩ ⟨(wallet.playOne respond calls state turn).1,
      storeOf (wallet.playOne respond calls state turn).2⟩ := by
  cases turn with
  | begin operation => exact .single (.begin calls _ operation)
  | reply index =>
    rw [playOne]
    split
    · exact .refl
    · rename_i call there
      obtain ⟨within, rfl⟩ := List.getElem?_eq_some_iff.mp there
      have split : calls = calls.take index ++ calls[index] :: calls.drop (index + 1) := by
        rw [List.getElem_cons_drop, List.take_append_drop]
      generalize calls[index] = call at split
      obtain ⟨operation, events, rest⟩ := call
      cases rest with
      | done value => exact .refl
      | ask question next =>
        dsimp only [Call.advance?]
        rw [List.set_eq_take_append_cons_drop, if_pos within]
        conv in (Session.mk calls _) => rw [split]
        exact .single (.reply (lawful question state))

/-- A schedule that is played is a session. -/
theorem leads_play (lawful : Program.Lawful respond storeOf) (turns : List Turn)
    (calls : List Call) (state : σ) :
    wallet.Leads ⟨calls, storeOf state⟩ ⟨(wallet.play respond calls state turns).1,
      storeOf (wallet.play respond calls state turns).2⟩ := by
  induction turns generalizing calls state with
  | nil => exact .refl
  | cons turn turns ih => exact (leads_playOne lawful calls state turn).trans (ih _ _)

/-- The session that a schedule comes to at a desk. -/
def playAt (wallet : Wallet) (desk : Desk) (turns : List Turn) : Session :=
  let (calls, desk) := wallet.play Desk.respond [] desk turns
  ⟨calls, desk.store⟩

theorem leads_playAt (desk : Desk) (turns : List Turn) :
    wallet.Leads ⟨[], desk.store⟩ (wallet.playAt desk turns) :=
  leads_play Desk.lawful turns [] desk

end Wallet

end Play

end Cosigner
