import Cosigner.Proofs.Wallet.KeySearch
import Cosigner.Proofs.Wallet.Sessions
import Mathlib.Data.List.Nodup
/-!
Addresses that are issued at the same time.

A call that issues an address looks whether the address is free, has the node watch it, and only
then records it. In between, others can do the same for the same address, and an import can fail.
The store decides: it takes one round for an address and no second (`Leads.recordings_eq`), and a
call gives out an address only when the store has taken it from this very call (`ends_issueFrom`).
So no two calls give out the same address, and what is given out stays recorded with the round of
its key (`no_address_is_issued_twice`).
-/

namespace Cosigner

/-! ### How programs end -/

/-- Whatever a program is replied, a condition holds at its end of its value and of all that has
been asked, before the program and by it. -/
def Program.Ends {α : Type} (post : List Event → α → Prop) : List Event → Program α → Prop
  | events, .done value => post events value
  | events, .ask question next =>
    ∀ reply, (next reply).Ends post (events ++ [⟨question, reply⟩])

namespace Program

variable {α β : Type}

theorem ends_of_forall {post : List Event → α → Prop} (all : ∀ events value, post events value)
    (events : List Event) (p : Program α) : p.Ends post events := by
  induction p generalizing events with
  | done value => exact all events value
  | ask question next ih => exact fun reply => ih reply _

/-- Programs in sequence end as the second does from where the first ends. -/
theorem ends_bind {post : List Event → β → Prop} {p : Program α} {f : α → Program β}
    {events : List Event} (first : p.Ends (fun events a => (f a).Ends post events) events) :
    (p >>= f).Ends post events := by
  show (p.bind f).Ends post events
  induction p generalizing events with
  | done a => exact first
  | ask question next ih => exact fun reply => ih reply (first reply)

end Program

theorem WalletProgram.ends_bind {α β : Type} {post : List Event → Except WalletError β → Prop}
    {p : WalletProgram α} {f : α → WalletProgram β} {events : List Event}
    (first : p.run.Ends (fun events result =>
      match result with
      | .ok a => (f a).run.Ends post events
      | .error e => post events (.error e)) events) :
    (p >>= f).run.Ends post events := by
  rw [ExceptT.run_bind]
  refine Program.ends_bind ?_
  convert first using 3 with events result
  cases result <;> rfl

/-- Calls end in the way in which the programs of their operations do. -/
theorem Wallet.Leads.ends {wallet : Wallet} {session : Session}
    {post : (operation : Operation) → List Event → Except WalletError operation.Value → Prop}
    (leads : wallet.Leads .start session)
    (all : ∀ operation : Operation, (operation.program wallet).run.Ends (post operation) []) :
    ∀ call ∈ session.calls, call.rest.Ends (post call.operation) call.events :=
  leads.forall_calls all fun held => held _

namespace Wallet

variable {wallet : Wallet} {identifier : String}

/-- At the end of these events the store has taken an address of an identifier, which was free and
which the node watches. -/
def JustRecorded (wallet : Wallet) (identifier address : String) (events : List Event) : Prop :=
  ∃ earlier round key, wallet.RoundKey identifier round key ∧ key.address = address ∧
    events = earlier ++ [⟨.store (.isIssued address), false⟩,
      ⟨.node (.importAddress address addressLabel false), .ok ()⟩,
      ⟨.store (.recordRound address round), true⟩]

/-- An address that a call gives out at the end of these events has just been recorded. -/
def GivesRecorded (wallet : Wallet) (identifier : String) (events : List Event)
    (result : Except WalletError (Option String)) : Prop :=
  ∀ address, result = .ok (some address) → wallet.JustRecorded identifier address events

/-- What is asked for one round. -/
theorem run_issueFrom_succ {left round : Nat} {key : PrivateKey}
    (derived : wallet.deriveKey? identifier round = some key) :
    (wallet.issueFrom identifier (left + 1) round).run =
      .ask (.store (.isIssued key.address)) fun issued =>
        match issued with
        | true => (wallet.issueFrom identifier left (round + 1)).run
        | false => .ask (.node (.importAddress key.address addressLabel false)) fun imported =>
          match imported with
          | .error e => .done (.error (.node e))
          | .ok () => .ask (.store (.recordRound key.address round)) fun recorded =>
            match recorded with
            | true => .done (.ok (some key.address))
            | false => (wallet.issueFrom identifier left (round + 1)).run := by
  rw [issueFrom, derived]
  apply congrArg (Program.ask _)
  funext issued
  cases issued with
  | true => rfl
  | false =>
    apply congrArg (Program.ask _)
    funext imported
    cases imported with
    | error e => rfl
    | ok reply =>
      apply congrArg (Program.ask _)
      funext recorded
      cases recorded <;> rfl

/-- An address is given out only when it has just been recorded. -/
theorem ends_issueFrom (events : List Event) {left round : Nat} (first : 1 ≤ round)
    (last : round + left ≤ wallet.config.maxRounds + 1) :
    (wallet.issueFrom identifier left round).run.Ends (wallet.GivesRecorded identifier) events := by
  induction left generalizing round events with
  | zero =>
    intro address given
    cases given
  | succ left ih =>
    have later (events : List Event) := ih events (Nat.le_succ_of_le first) (by omega)
    cases derived : wallet.deriveKey? identifier round with
    | none =>
      rw [issueFrom, derived]
      intro address given
      cases given
    | some key =>
      rw [run_issueFrom_succ derived]
      intro issued
      cases issued with
      | true => exact later _
      | false =>
        intro imported
        cases imported with
        | error e =>
          intro address given
          cases given
        | ok reply =>
          intro recorded
          cases recorded with
          | false => exact later _
          | true =>
            intro address given
            cases given
            have own : wallet.RoundKey identifier round key := ⟨first, by omega, derived⟩
            exact ⟨events, round, key, own, rfl, by simp⟩

end Wallet

/-! ### What the store takes -/

/-- The round that an event has put into the store for an address. -/
def Event.recorded? (address : String) (event : Event) : Option Nat :=
  match event with
  | ⟨.store (.recordRound name round), taken⟩ =>
    if taken = true ∧ name = address then some round else none
  | _ => none

/-- The rounds that a call has put into the store for an address. -/
def Call.recordings (address : String) (call : Call) : List Nat :=
  call.events.filterMap (Event.recorded? address)

/-- The rounds that all calls together have put into the store for an address. -/
def Session.recordings (address : String) (session : Session) : List Nat :=
  session.calls.flatMap (Call.recordings address)

/-- An answer leaves the round of an address as it is, or is the first to put one into the store. -/
theorem Answers.recorded {question : Question} {reply : question.Reply} {store store' : KeyStore}
    (answers : Answers question store reply store') (address : String) :
    (Event.recorded? address ⟨question, reply⟩ = none ∧
      store'.rounds.find? address = store.rounds.find? address) ∨
    ∃ round, Event.recorded? address ⟨question, reply⟩ = some round ∧
      store.rounds.find? address = none ∧ store'.rounds.find? address = some round := by
  cases answers with
  | node => exact .inl ⟨rfl, rfl⟩
  | entropy => exact .inl ⟨rfl, rfl⟩
  | store action =>
    cases action with
    | recordRound name round =>
      cases present : store.rounds.find? name with
      | some old =>
        left
        simp [Event.recorded?, KeyStore.perform, Registry.add, Registry.contains, present]
      | none =>
        have taken : (store.rounds.add name round).1 = true := by
          simp [Registry.add, Registry.contains, present]
        by_cases same : name = address
        · subst same
          right
          refine ⟨round, ?_, present, ?_⟩
          · exact if_pos ⟨taken, rfl⟩
          · show (store.rounds.add name round).2.find? name = some round
            rw [Registry.find?_add, if_pos rfl, present, Option.getD_none]
        · left
          constructor
          · exact if_neg fun own => same own.2
          · show (store.rounds.add name round).2.find? address = _
            rw [Registry.find?_add, if_neg (Ne.symm same)]
    | _ => exact .inl ⟨rfl, rfl⟩

theorem Call.recordings_concat {address : String} {operation : Operation} {events : List Event}
    {event : Event} (rest rest' : Program (Except WalletError operation.Value)) :
    recordings address ⟨operation, events ++ [event], rest'⟩ =
      recordings address ⟨operation, events, rest⟩ ++ (event.recorded? address).toList := by
  rw [recordings, recordings, List.filterMap_append]
  cases recorded : event.recorded? address <;> simp [recorded]

/-- All calls together have put into the store the round that it has for an address, once, and no
other. -/
theorem Wallet.Leads.recordings_eq {wallet : Wallet} {session : Session}
    (leads : wallet.Leads .start session) (address : String) :
    session.recordings address = (session.store.rounds.find? address).toList := by
  induction leads with
  | refl => rfl
  | tail _ move ih =>
    cases move with
    | begin calls store operation =>
      rw [Session.recordings, List.flatMap_append]
      simpa [Call.begin, Call.recordings, Session.recordings] using ih
    | @reply before behind store store' operation events question next reply answers =>
      simp only [Session.recordings, List.flatMap_append, List.flatMap_cons] at ih ⊢
      rw [Call.recordings_concat (.ask question next)]
      rcases answers.recorded address with ⟨none, same⟩ | ⟨round, some, free, taken⟩
      · rw [none, same, Option.toList_none, List.append_nil]
        exact ih
      · rw [free, Option.toList_none, List.append_eq_nil_iff, List.append_eq_nil_iff] at ih
        obtain ⟨nothing, nothing', nothing''⟩ := ih
        rw [some, taken, nothing, nothing', nothing'']
        rfl

/-- What a call has put into the store for an address is there. -/
theorem Wallet.Leads.find?_of_recorded {wallet : Wallet} {session : Session}
    (leads : wallet.Leads .start session) {call : Call} (mem : call ∈ session.calls)
    {event : Event} (asked : event ∈ call.events) {address : String} {round : Nat}
    (recorded : event.recorded? address = some round) :
    session.store.rounds.find? address = some round := by
  have there : round ∈ session.recordings address :=
    List.mem_flatMap.mpr ⟨call, mem, List.mem_filterMap.mpr ⟨event, asked, recorded⟩⟩
  rw [leads.recordings_eq] at there
  exact Option.mem_toList.mp there

/-! ### Issued addresses -/

/-- The address that a call has given out. -/
def Call.issued? : Call → Option String
  | ⟨.generateAddress _, _, .done (.ok issued)⟩ => issued
  | _ => none

/-- The addresses that calls have given out. -/
def Session.issued (session : Session) : List String := session.calls.filterMap Call.issued?

namespace Wallet

variable {wallet : Wallet} {session : Session}

/-- What a call gives out, if it is to issue an address, it has just recorded. -/
def Careful (wallet : Wallet) : Call → Prop
  | ⟨.generateAddress identifier, events, rest⟩ =>
    rest.Ends (wallet.GivesRecorded identifier) events
  | _ => True

theorem Leads.careful (leads : wallet.Leads .start session) :
    ∀ call ∈ session.calls, wallet.Careful call := by
  refine leads.forall_calls ?_ ?_
  · intro operation
    cases operation with
    | generateAddress identifier => exact ends_issueFrom [] (Nat.le_refl 1) (by omega)
    | _ => trivial
  · intro operation events question reply next careful
    cases operation with
    | generateAddress identifier => exact careful reply
    | _ => trivial

/-- A call that has given out an address has just recorded it. -/
theorem Careful.justRecorded {call : Call} {address : String} (careful : wallet.Careful call)
    (issued : call.issued? = some address) :
    ∃ identifier, call.operation = .generateAddress identifier ∧
      wallet.JustRecorded identifier address call.events := by
  obtain ⟨operation, events, rest⟩ := call
  cases operation with
  | generateAddress identifier =>
    cases rest with
    | ask question next => cases issued
    | done result =>
      cases result with
      | error e => cases issued
      | ok value => exact ⟨identifier, rfl, careful address (congrArg Except.ok issued)⟩
  | _ => cases issued

/-- What has just been recorded is among the recordings. -/
theorem JustRecorded.recordings_ne_nil {call : Call} {identifier address : String}
    (recorded : wallet.JustRecorded identifier address call.events) :
    call.recordings address ≠ [] := by
  obtain ⟨earlier, round, key, -, -, events⟩ := recorded
  rw [Call.recordings, events, List.filterMap_append]
  simp [Event.recorded?]

/-- Elements that contribute to a list are no more than what they contribute. -/
theorem countP_le_length_flatMap {α β : Type} {xs : List α} {p : α → Bool} {f : α → List β}
    (contributes : ∀ x ∈ xs, p x = true → f x ≠ []) : xs.countP p ≤ (xs.flatMap f).length := by
  induction xs with
  | nil => exact Nat.le_refl 0
  | cons x xs ih =>
    obtain ⟨first, others⟩ := List.forall_mem_cons.mp contributes
    have fewer := ih others
    rw [List.flatMap_cons, List.length_append]
    by_cases counted : p x = true
    · have some := List.length_pos_iff.mpr (first counted)
      rw [List.countP_cons_of_pos counted]
      omega
    · rw [List.countP_cons_of_neg counted]
      omega

/-- The store takes an address once, so it is given out at most once. -/
theorem Leads.nodup_issued (leads : wallet.Leads .start session) : session.issued.Nodup := by
  rw [List.nodup_iff_count_le_one]
  intro address
  have contributes : ∀ call ∈ session.calls, (call.issued? == some address) = true →
      call.recordings address ≠ [] := by
    intro call mem issued
    obtain ⟨identifier, -, recorded⟩ :=
      (leads.careful call mem).justRecorded (eq_of_beq issued)
    exact recorded.recordings_ne_nil
  calc session.issued.count address
      = session.calls.countP (fun call => call.issued? == some address) :=
        List.count_filterMap
    _ ≤ (session.recordings address).length := countP_le_length_flatMap contributes
    _ = (session.store.rounds.find? address).toList.length := by rw [leads.recordings_eq]
    _ ≤ 1 := by cases session.store.rounds.find? address <;> simp

/-- No two calls give out the same address, however their questions are interleaved with each other
and with other calls, and whichever imports fail. An address that is given out is that of a key of
the call's identifier, and stays recorded with the round of this key. -/
theorem no_address_is_issued_twice (wallet : Wallet) (session : Session)
    (reached : wallet.Leads .start session) :
    session.issued.Nodup ∧
      ∀ call ∈ session.calls, ∀ address, call.issued? = some address →
        ∃ identifier earlier round key, call.operation = .generateAddress identifier ∧
          wallet.RoundKey identifier round key ∧ key.address = address ∧
          call.events = earlier ++ [⟨.store (.isIssued address), false⟩,
            ⟨.node (.importAddress address addressLabel false), .ok ()⟩,
            ⟨.store (.recordRound address round), true⟩] ∧
          ∀ later, wallet.Leads session later →
            later.store.rounds.find? address = some round := by
  refine ⟨reached.nodup_issued, ?_⟩
  intro call mem address issued
  obtain ⟨identifier, operation, earlier, round, key, own, same, events⟩ :=
    (reached.careful call mem).justRecorded issued
  have recorded : session.store.rounds.find? address = some round := by
    have asked : ⟨.store (.recordRound address round), true⟩ ∈ call.events := by
      rw [events]
      simp
    exact reached.find?_of_recorded mem asked (if_pos ⟨rfl, rfl⟩)
  refine ⟨identifier, earlier, round, key, operation, own, same, events, ?_⟩
  intro later leads
  exact leads.keeps.rounds address round recorded

/-- A desk whose node fails the first import. -/
def flakyDesk : Desk where
  node := (MemoryNode.new "main").fail .importAddress ⟨.unreachable "timeout", some 1⟩
  store := .empty
  draws := 0

/-- Three calls for one identifier find its first address free. The first call fails to import it,
the other two import it, and the last one has to go on to the next address. -/
def racingTurns : List Turn :=
  List.replicate 3 (.begin (.generateAddress "01")) ++
    [.reply 0, .reply 1, .reply 2, .reply 0, .reply 1, .reply 2, .reply 1, .reply 2] ++
    List.replicate 3 (.reply 2)

/-- Of three calls that race for an address, one fails and the others get different addresses. -/
theorem racing_calls_get_distinct_addresses :
    ∃ session first second, sampleWallet.Leads .start session ∧ session.calls.length = 3 ∧
      session.issued = [first, second] ∧ first ≠ second ∧
      ∀ later, sampleWallet.Leads session later →
        ∃ round, later.store.rounds.find? first = some round := by
  have leads : sampleWallet.Leads .start _ := leads_playAt flakyDesk racingTurns
  have outcome :
      let session := sampleWallet.playAt flakyDesk racingTurns
      session.calls.length = 3 ∧ session.issued =
        ["1MKHFNiS1oYkFqBAim6PhtMfngSq6YgyM3", "1EhrZCvBbXyRBg7tGvwyJYScmbeNwRixzo"] := by
    decide +kernel
  obtain ⟨three, issued⟩ := outcome
  obtain ⟨distinct, recorded⟩ := no_address_is_issued_twice sampleWallet _ leads
  rw [issued] at distinct
  have given : "1MKHFNiS1oYkFqBAim6PhtMfngSq6YgyM3" ∈
      (sampleWallet.playAt flakyDesk racingTurns).issued := by
    rw [issued]
    exact List.mem_cons_self
  obtain ⟨call, mem, own⟩ := List.mem_filterMap.mp given
  obtain ⟨-, -, round, -, -, -, -, -, stays⟩ := recorded call mem _ own
  refine ⟨_, _, _, leads, three, issued, ?_, fun later after => ⟨round, stays later after⟩⟩
  exact fun same => (List.nodup_cons.mp distinct).1 (List.mem_singleton.mpr same)

end Wallet

end Cosigner
