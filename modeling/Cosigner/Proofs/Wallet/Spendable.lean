import Cosigner.Proofs.Address
import Cosigner.Proofs.Script.Quorum
import Cosigner.Proofs.Wallet.Issuing
import Cosigner.Proofs.Wallet.Signing
/-!
An address that is given out stays spendable by whom it was given to.

To sign for an address, a wallet has to know how its outputs are spent and which key of the
identifier controls it. For the address of a key there is nothing to look up, and the search goes
through all rounds. For the address of a quorum the redeem script has to be in the store, and has to
be read back as the quorum that it was built for. The script is put there before the address is
given out, and nothing that happens later replaces it. So every later store answers both questions
without the node (`issued_address_stays_spendable`), unless the store had already been given another
script with the same hash.
-/

namespace Cosigner

/-! ### What the store alone answers -/

namespace Program

variable {α β : Type} {store : KeyStore}

/-- Every run of a program from a store gives this value, asks nothing but the store, and leaves it
as it is. -/
structure KnownTo (store : KeyStore) (p : Program α) (value : α) : Prop where
  runs : ∃ events, p.Runs store events value store
  only : ∀ {events : List Event} {result : α} {store' : KeyStore},
    p.Runs store events result store' → result = value ∧ store' = store ∧
      ∀ event ∈ events, ∃ action, event.question = .store action

theorem knownTo_pure (value : α) : KnownTo store (pure value) value where
  runs := ⟨[], .done value store⟩
  only run := by
    obtain ⟨rfl, rfl, rfl⟩ := runs_pure_iff.mp run
    exact ⟨rfl, rfl, by simp⟩

theorem KnownTo.bind {p : Program α} {f : α → Program β} {a : α} {b : β}
    (first : KnownTo store p a) (second : KnownTo store (f a) b) : KnownTo store (p >>= f) b where
  runs := by
    obtain ⟨events, run⟩ := first.runs
    obtain ⟨events', run'⟩ := second.runs
    exact ⟨_, runs_bind_iff.mpr ⟨a, store, events, events', rfl, run, run'⟩⟩
  only run := by
    obtain ⟨_, _, events, events', rfl, run, run'⟩ := runs_bind_iff.mp run
    obtain ⟨rfl, rfl, asked⟩ := first.only run
    obtain ⟨rfl, rfl, asked'⟩ := second.only run'
    exact ⟨rfl, rfl, List.forall_mem_append.mpr ⟨asked, asked'⟩⟩

/-- An operation that does not change the store is answered by it. -/
theorem knownTo_askStore {action : StoreAction} {reply : action.Reply}
    (reads : store.perform action = (reply, store)) :
    KnownTo store (askStore action) reply where
  runs := by
    have answers := Answers.store action store
    rw [reads] at answers
    exact ⟨_, runs_askOne_iff.mpr ⟨rfl, answers⟩⟩
  only run := by
    obtain ⟨rfl, answers⟩ := runs_askOne_iff.mp run
    cases answers
    rw [reads]
    exact ⟨rfl, rfl, by simp⟩

end Program

namespace WalletProgram

variable {α β : Type} {store : KeyStore}

/-- A program that does not fail, and whose value the store alone gives. -/
def KnownTo (store : KeyStore) (p : WalletProgram α) (value : α) : Prop :=
  Program.KnownTo store p.run (.ok value)

theorem knownTo_pure (value : α) : KnownTo store (pure value) value := Program.knownTo_pure _

theorem KnownTo.bind {p : WalletProgram α} {f : α → WalletProgram β} {a : α} {b : β}
    (first : KnownTo store p a) (second : KnownTo store (f a) b) : KnownTo store (p >>= f) b := by
  rw [KnownTo, ExceptT.run_bind]
  exact Program.KnownTo.bind first second

theorem knownTo_store {action : StoreAction} {reply : action.Reply}
    (reads : store.perform action = (reply, store)) :
    KnownTo store (WalletProgram.store action) reply :=
  (Program.knownTo_askStore reads).bind (Program.knownTo_pure _)

end WalletProgram

namespace Wallet

variable {wallet : Wallet} {store : KeyStore} {identifier address : String}
  {template : SpendTemplate}

theorem knownTo_redeemScriptOf {script : Bytes}
    (cached : store.redeemScripts.find? address = some script) :
    WalletProgram.KnownTo store (wallet.redeemScriptOf address) script := by
  refine (WalletProgram.knownTo_store rfl).bind ?_
  rw [cached]
  exact WalletProgram.knownTo_pure script

theorem knownTo_spendTemplate (resolves : wallet.Resolves store address template) :
    WalletProgram.KnownTo store (wallet.spendTemplate address) template := by
  rw [spendTemplate]
  cases template with
  | keyHash =>
    rw [if_neg (mt Address.isMultisig_eq_true_iff.mp resolves)]
    exact WalletProgram.knownTo_pure _
  | multisig script =>
    rw [if_pos (Address.isMultisig_eq_true_iff.mpr resolves.ofScript)]
    exact (knownTo_redeemScriptOf resolves.2).bind (WalletProgram.knownTo_pure _)

theorem knownTo_findKey :
    WalletProgram.KnownTo store (wallet.findKey identifier address template)
      (wallet.findKeyIn? identifier (controls template address) (store.rounds.find? address)) :=
  (WalletProgram.knownTo_store rfl).bind (WalletProgram.knownTo_pure _)

variable {key : PrivateKey}

/-- The store alone tells how the outputs of an address are spent, and leads an identifier to a key
of its own that controls the address. -/
def Spendable (wallet : Wallet) (store : KeyStore) (identifier address : String) : Prop :=
  ∃ template key round, wallet.Resolves store address template ∧
    WalletProgram.KnownTo store (wallet.spendTemplate address) template ∧
    WalletProgram.KnownTo store (wallet.findKey identifier address template) (some key) ∧
    wallet.RoundKey identifier round key ∧ template.ControlledBy address key

/-- An address is spendable by an identifier, when the store has what is needed for it and the key
of one of the rounds controls it. -/
theorem spendable_of_roundKey {round : Nat} (sound : store.Sound wallet)
    (resolves : wallet.Resolves store address template)
    (own : wallet.RoundKey identifier round key) (controlled : template.ControlledBy address key) :
    wallet.Spendable store identifier address := by
  have search := @knownTo_findKey wallet store identifier address template
  have within := sound.rounds address
  cases found : wallet.findKeyIn? identifier (controls template address)
      (store.rounds.find? address) with
  | none =>
    have fails := (findKeyIn?_eq_none_iff within).mp found round key own
    rw [controls_eq_true_iff.mpr controlled] at fails
    cases fails
  | some key' =>
    obtain ⟨passes, round', own'⟩ := exists_of_findKeyIn? within found
    rw [found] at search
    exact ⟨template, key', round', resolves, knownTo_spendTemplate resolves, search, own',
      controls_eq_true_iff.mp passes⟩

/-! ### Redeem scripts that are offered -/

/-- A quorum that the first key of an identifier belongs to has been offered to the store, by one of
these events and under its address. -/
structure Offered (wallet : Wallet) (identifier address : String) (quorum : Quorum)
    (script : Bytes) (events : List Event) : Prop where
  signer : ∃ key, wallet.deriveKey? identifier 1 = some key ∧ key.publicKey ∈ quorum.keys
  built : quorum.redeemScript = .ok script
  hashes : Address.ofRedeemScript script wallet.network = address
  offered : ∃ event ∈ events, event.offered? = some (address, script)

/-- For an address that a call gives out at the end of these events, a redeem script has been
offered. -/
def GivesOffered (wallet : Wallet) (identifier : String) (events : List Event)
    (result : Except WalletError (Option String)) : Prop :=
  ∀ address, result = .ok (some address) →
    ∃ quorum script, wallet.Offered identifier address quorum script events

/-- The address of a quorum is given out only when its redeem script has been offered to the
store. -/
theorem ends_createMultisigAddress {cosigners : List String} {required : Nat}
    (events : List Event) :
    (wallet.createMultisigAddress identifier cosigners required).run.Ends
      (wallet.GivesOffered identifier) events := by
  rw [createMultisigAddress]
  cases derived : wallet.deriveKey? identifier 1 with
  | none =>
    intro address given
    cases given
  | some key =>
    refine WalletProgram.ends_bind (Program.ends_of_forall (fun events keys => ?_) events _)
    cases keys with
    | error e =>
      intro address given
      cases given
    | ok keys =>
      dsimp only
      cases built : Quorum.redeemScript ⟨required, key.publicKey :: keys⟩ with
      | error e =>
        intro address given
        cases given
      | ok script =>
        intro added recorded imported
        cases imported with
        | error e =>
          intro address given
          cases given
        | ok reply =>
          intro address given
          cases given
          exact ⟨_, script, ⟨key, derived, List.mem_cons_self⟩, built, rfl,
            ⟨.store (.insertRedeemScript _ script), added⟩, by simp, rfl⟩

/-- Wherever a redeem script has been offered, the store has one. -/
theorem Leads.exists_cached {session : Session} (leads : wallet.Leads .start session)
    {call : Call} (mem : call ∈ session.calls) {event : Event} (asked : event ∈ call.events)
    {script : Bytes} (offered : event.offered? = some (address, script)) :
    ∃ cached, session.store.redeemScripts.find? address = some cached := by
  let holds (event : Event) (store : KeyStore) : Prop :=
    event.offered? = some (address, script) →
      ∃ cached, store.redeemScripts.find? address = some cached
  refine @Leads.forall_events wallet session holds leads ?fresh ?kept call mem event asked offered
  case fresh =>
    intro question reply store store' answers offered
    cases answers with
    | node => cases offered
    | entropy => cases offered
    | store action =>
      cases action with
      | insertRedeemScript name added =>
        cases offered
        exact ⟨_, (Registry.find?_add ..).trans (if_pos rfl)⟩
      | _ => cases offered
  case kept =>
    intro event store later keeps there offered
    obtain ⟨cached, found⟩ := there offered
    exact ⟨cached, keeps.scripts address cached found⟩

/-! ### Addresses that are given out -/

end Wallet

/-- The identifier that a call has given an address out to, and the address. -/
def Call.given? : Call → Option (String × String)
  | ⟨.generateAddress identifier, _, .done (.ok (some address))⟩ => some (identifier, address)
  | ⟨.createMultisigAddress identifier _ _, _, .done (.ok (some address))⟩ =>
    some (identifier, address)
  | _ => none

/-- A call has offered a redeem script for an address for which the store has another one with the
same hash. -/
def Call.Collides (call : Call) (address : String) (store : KeyStore) : Prop :=
  ∃ event ∈ call.events, ∃ script script', event.offered? = some (address, script) ∧
    store.redeemScripts.find? address = some script' ∧ script ≠ script' ∧
    hash160 script = hash160 script'

namespace Wallet

variable {wallet : Wallet} {session : Session} {store : KeyStore} {identifier address : String}

/-- What is known of an address when it is given out. -/
inductive GivenOut (wallet : Wallet) (identifier address : String) (events : List Event) :
    Prop where
  | ofKey {round : Nat} {key : PrivateKey} (own : wallet.RoundKey identifier round key)
      (same : key.address = address)
  | ofQuorum {quorum : Quorum} {script : Bytes}
      (offered : wallet.Offered identifier address quorum script events)

/-- What holds at the end of an operation. -/
def Gives (wallet : Wallet) : (operation : Operation) → List Event →
    Except WalletError operation.Value → Prop
  | .generateAddress identifier => wallet.GivesRecorded identifier
  | .createMultisigAddress identifier _ _ => wallet.GivesOffered identifier
  | _ => fun _ _ => True

theorem Leads.givenOut (leads : wallet.Leads .start session) {call : Call}
    (mem : call ∈ session.calls) (given : call.given? = some (identifier, address)) :
    wallet.GivenOut identifier address call.events := by
  have ends := @Leads.ends wallet session wallet.Gives leads ?all call mem
  case all =>
    intro operation
    cases operation with
    | generateAddress identifier => exact ends_issueFrom [] (Nat.le_refl 1) (by omega)
    | createMultisigAddress identifier cosigners required => exact ends_createMultisigAddress []
    | _ => exact Program.ends_of_forall (fun _ _ => trivial) [] _
  unfold Call.given? at given
  split at given
  · cases given
    obtain ⟨_, round, key, own, same, -⟩ := ends address rfl
    exact .ofKey own same
  · cases given
    obtain ⟨quorum, script, offered⟩ := ends address rfl
    exact .ofQuorum offered
  · cases given

/-- An address that was given out is spendable from any later store that is sound, unless another
script with the same hash is cached for it. -/
theorem GivenOut.spendable_or_collides {call : Call} (rounds : 0 < wallet.config.maxRounds)
    (given : wallet.GivenOut identifier address call.events) (sound : store.Sound wallet)
    (cached : ∀ event ∈ call.events, ∀ script, event.offered? = some (address, script) →
      ∃ cached, store.redeemScripts.find? address = some cached) :
    wallet.Spendable store identifier address ∨ call.Collides address store := by
  cases given with
  | @ofKey round key own same =>
    subst same
    left
    have resolves : wallet.Resolves store key.address .keyHash :=
      Address.not_ofScript_ofPublicKey key.publicKey key.network
    exact spendable_of_roundKey sound resolves own (SpendTemplate.controlledBy_keyHash_iff.mpr rfl)
  | @ofQuorum quorum script offered =>
    obtain ⟨⟨key, derived, signs⟩, built, hashes, event, asked, offers⟩ := offered
    obtain ⟨script', found⟩ := cached event asked script offers
    have hashes' := sound.scripts address script' found
    by_cases same : script = script'
    · left
      subst same hashes
      have resolves : wallet.Resolves store _ (.multisig script) := ⟨rfl, found⟩
      have own : wallet.RoundKey identifier 1 key := ⟨Nat.le_refl 1, rounds, derived⟩
      have form := Quorum.ofRedeemScript?_eq_some_iff.mp
        (Quorum.ofRedeemScript?_of_redeemScript built)
      have names : (SpendTemplate.multisig script).Names quorum.keys := ⟨quorum, form, rfl⟩
      exact spendable_of_roundKey sound resolves own
        ((SpendTemplate.controlledBy_iff_of_names names).mpr signs)
    · right
      have hash := Address.hash160_eq_of_ofRedeemScript_eq (hashes.trans hashes'.symm)
      exact ⟨event, asked, script, script', offers, found, same, hash⟩

/-- Whatever is called, in any order and at the same time, and whatever the node answers: when a
call has given out an address, every later store alone tells how the outputs of the address are
spent, and leads the identifier of the call to a key that controls it, unless the call has made a
script whose hash is that of another one in the store. -/
theorem issued_address_stays_spendable (wallet : Wallet) (session later : Session) (call : Call)
    (identifier address : String) (valid : wallet.config.validate = .ok ())
    (reached : wallet.Leads .start session) (mem : call ∈ session.calls)
    (given : call.given? = some (identifier, address)) (leads : wallet.Leads session later) :
    wallet.Spendable later.store identifier address ∨ call.Collides address later.store := by
  have usable := WalletConfig.usable_of_validate valid
  have after : wallet.Leads .start later := reached.trans leads
  have reachable : wallet.Reachable later.store := ⟨_, after.reaches⟩
  refine (reached.givenOut mem given).spendable_or_collides usable.rounds (reachable.sound valid) ?_
  intro event asked script offered
  obtain ⟨cached, found⟩ := reached.exists_cached mem asked offered
  exact ⟨cached, leads.keeps.scripts address cached found⟩

/-- A desk whose node has nothing yet. -/
def freshDesk : Desk := ⟨.new "main", .empty, 0⟩

/-- An address and a quorum's address are asked for at the same time, for one identifier. -/
def givingTurns : List Turn :=
  [.begin (.generateAddress "01"),
    .begin (.createMultisigAddress "01" [Hex.encode (Quorum.sampleKey 2)] 1)] ++
    (List.replicate 3 [.reply 0, .reply 1]).flatten

/-- Both addresses stay spendable. -/
theorem both_addresses_stay_spendable :
    ∃ session single shared, sampleWallet.Leads .start session ∧
      session.calls.filterMap Call.given? = [("01", single), ("01", shared)] ∧
      ∀ later, sampleWallet.Leads session later →
        sampleWallet.Spendable later.store "01" single ∧
          sampleWallet.Spendable later.store "01" shared := by
  have reached : sampleWallet.Leads .start _ := leads_playAt freshDesk givingTurns
  have outcome :
      let session := sampleWallet.playAt freshDesk givingTurns
      session.calls.filterMap Call.given? = [("01", "1MKHFNiS1oYkFqBAim6PhtMfngSq6YgyM3"),
          ("01", "3QNqRC7tTnwfeW73obnXEPFnCW5LBZjPkg")] ∧
        ∀ offer ∈ session.calls.flatMap fun call => call.events.filterMap Event.offered?,
          session.store.redeemScripts.find? offer.1 = some offer.2 := by
    decide +kernel
  generalize sampleWallet.playAt freshDesk givingTurns = session at reached outcome
  obtain ⟨given, offers⟩ := outcome
  have stays {address : String} {later : Session}
      (gave : ("01", address) ∈ session.calls.filterMap Call.given?)
      (leads : sampleWallet.Leads session later) :
      sampleWallet.Spendable later.store "01" address := by
    obtain ⟨call, mem, gave⟩ := List.mem_filterMap.mp gave
    rcases issued_address_stays_spendable sampleWallet session later call "01" address
      (by decide +kernel) reached mem gave leads with spendable | collides
    · exact spendable
    · obtain ⟨event, asked, script, script', offered, found, differ, -⟩ := collides
      have cached := offers (address, script)
        (List.mem_flatMap.mpr ⟨call, mem, List.mem_filterMap.mpr ⟨event, asked, offered⟩⟩)
      rw [leads.keeps.scripts _ _ cached] at found
      exact absurd (Option.some.inj found) differ
  refine ⟨session, _, _, reached, given, fun later leads => ⟨?_, ?_⟩⟩
  · exact stays (given ▸ List.mem_cons_self) leads
  · exact stays (given ▸ List.mem_cons_of_mem _ List.mem_cons_self) leads

end Wallet

end Cosigner
