import Cosigner.Proofs.Wallet.Cosigning
import Cosigner.Proofs.Wallet.Situation
/-!
What discovery changes, and what it does not.

An operation that needs a redeem script takes it from the store or else asks the node for it. A pass
of discovery asks the same node in advance, so what the operation finds in the end is the same
(`Wallet.redeems`), and so is the error when it finds nothing: a pass keeps no failures. Situations
are alike when every address redeems in the same way in them and they agree on everything else that
operations can see (`Wallet.Alike`).

* `looks_discoverOne`: the ways in which looking for one script can end.
* `run_redeemScriptOf`: a lookup gives what the address redeems, in a situation that stays alike.
* `alike_rescan`: a pass of discovery leads to a situation that is alike.
* `Alike.offer`: when one more script comes into two stores, situations stay alike, or the stores
  show a collision. The node may have given discovery another script of the address before.
-/

namespace Cosigner

namespace Wallet

variable {wallet : Wallet} {node : NodeBehaviour} {store : KeyStore} {address : String}
  {script : Bytes}

/-! ### What an address redeems -/

/-- The redeem script that the node gives for an address. -/
def nodeScript (wallet : Wallet) (node : NodeBehaviour) (address : String) :
    Except WalletError Bytes :=
  match node [] (.redeemScript address) with
  | .error e => .error (.node e)
  | .ok answer =>
    match answer.bind fun hex => verifiedRedeemScript? address hex wallet.network with
    | none => .error (.missingRedeemScript address)
    | some script => .ok script

/-- The redeem script that is found for an address, in the store or else at the node. -/
def redeems (wallet : Wallet) (node : NodeBehaviour) (store : KeyStore) (address : String) :
    Except WalletError Bytes :=
  match store.redeemScripts.find? address with
  | some script => .ok script
  | none => wallet.nodeScript node address

theorem ofRedeemScript_of_nodeScript (given : wallet.nodeScript node address = .ok script) :
    Address.ofRedeemScript script wallet.network = address := by
  rw [nodeScript] at given
  split at given
  · cases given
  · split at given
    · cases given
    · rename_i verified
      cases given
      obtain ⟨hex, rfl, verified⟩ := Option.bind_eq_some_iff.mp verified
      exact ofRedeemScript_of_verified verified

theorem redeems_of_some (found : store.redeemScripts.find? address = some script) :
    wallet.redeems node store address = .ok script := by
  rw [redeems, found]

theorem redeems_of_none (missing : store.redeemScripts.find? address = none) :
    wallet.redeems node store address = wallet.nodeScript node address := by
  rw [redeems, missing]

end Wallet

theorem Registry.add_of_missing {α : Type} {registry : Registry α} {name : String} {value : α}
    (missing : registry.find? name = none) :
    registry.add name value = (true, ⟨(name, value) :: registry.entries⟩) := by
  rw [add, contains, missing]
  rfl

/-- A situation after a redeem script has been offered to the store. -/
def Situation.offer (situation : Situation) (address : String) (script : Bytes) : Situation :=
  { situation with store := (situation.store.perform (.insertRedeemScript address script)).2 }

/-- A situation after the node has been asked one thing more. -/
def Situation.ask (situation : Situation) (query : NodeQuery) : Situation :=
  { situation with asked := situation.asked ++ [query] }

/-- Offering a script changes what is found for its address, if nothing was, and nothing else. -/
theorem Situation.find?_offer (situation : Situation) (address other : String) (script : Bytes) :
    (situation.offer address script).store.redeemScripts.find? other =
      if other = address then some ((situation.store.redeemScripts.find? address).getD script)
      else situation.store.redeemScripts.find? other :=
  Registry.find?_add _ _ _ _

theorem KeyStore.Collide.symm {address : String} {store store' : KeyStore}
    (collide : KeyStore.Collide address store store') : KeyStore.Collide address store' store := by
  obtain ⟨script, script', found, found', differ, hash⟩ := collide
  exact ⟨script', script, found', found, differ.symm, hash.symm⟩

/-- A collision stays one as the stores go on. -/
theorem KeyStore.Collide.kept {address : String} {store store' later later' : KeyStore}
    (collide : KeyStore.Collide address store store') (kept : store.KeptBy later)
    (kept' : store'.KeptBy later') : KeyStore.Collide address later later' := by
  obtain ⟨script, script', found, found', differ, hash⟩ := collide
  exact ⟨script, script', kept.scripts _ _ found, kept'.scripts _ _ found', differ, hash⟩

namespace Wallet

/-! ### Situations that are alike -/

/-- Every address redeems in the same way in two situations, and they agree on the issued addresses,
on what the node's other answers depend on and on the draws of entropy. -/
structure Alike (wallet : Wallet) (node : NodeBehaviour) (first second : Situation) : Prop where
  scripts : ∀ address,
    wallet.redeems node first.store address = wallet.redeems node second.store address
  rounds : first.store.rounds = second.store.rounds
  asked : NodeQuery.others first.asked = NodeQuery.others second.asked
  draws : first.draws = second.draws

section Alike

variable {wallet : Wallet} {node : NodeBehaviour} {first second third : Situation}
  {address : String} {script : Bytes}

theorem Alike.refl (situation : Situation) : wallet.Alike node situation situation :=
  ⟨fun _ => rfl, rfl, rfl, rfl⟩

theorem Alike.symm (alike : wallet.Alike node first second) : wallet.Alike node second first :=
  ⟨fun address => (alike.scripts address).symm, alike.rounds.symm, alike.asked.symm,
    alike.draws.symm⟩

theorem Alike.trans (alike : wallet.Alike node first second)
    (alike' : wallet.Alike node second third) : wallet.Alike node first third :=
  ⟨fun address => (alike.scripts address).trans (alike'.scripts address),
    alike.rounds.trans alike'.rounds, alike.asked.trans alike'.asked,
    alike.draws.trans alike'.draws⟩

/-- A query of discovery is not noticed. -/
theorem alike_ask {query : NodeQuery} (discovery : query.isDiscovery = true)
    (situation : Situation) : wallet.Alike node situation (situation.ask query) := by
  refine ⟨fun _ => rfl, rfl, ?_, rfl⟩
  simp [Situation.ask, NodeQuery.others, discovery]

/-- It is not noticed whether the store has a script that the node gives. -/
theorem alike_offer (given : wallet.nodeScript node address = .ok script) (situation : Situation) :
    wallet.Alike node situation (situation.offer address script) := by
  refine ⟨fun other => ?_, rfl, rfl, rfl⟩
  by_cases same : other = address
  · subst same
    have after := situation.find?_offer other other script
    rw [if_pos rfl] at after
    rw [redeems_of_some after]
    cases before : situation.store.redeemScripts.find? other with
    | none => rw [redeems_of_none before, given, Option.getD_none]
    | some present => rw [redeems_of_some before, Option.getD_some]
  · have after := situation.find?_offer address other script
    rw [if_neg same] at after
    rw [redeems, redeems, after]

/-- A script that the first store has and the second does not have is the node's, so another one
that is offered under its address has the same hash. -/
theorem Alike.offer_of_missing {found : Bytes} (alike : wallet.Alike node first second)
    (hashes : Address.ofRedeemScript script wallet.network = address)
    (there : first.store.redeemScripts.find? address = some found)
    (missing : second.store.redeemScripts.find? address = none) :
    found = script ∨ KeyStore.Collide address (first.offer address script).store
      (second.offer address script).store := by
  by_cases same : found = script
  · exact .inl same
  · right
    have given : wallet.nodeScript node address = .ok found := by
      rw [← redeems_of_none missing, ← alike.scripts, redeems_of_some there]
    have hash := Address.hash160_eq_of_ofRedeemScript_eq
      ((ofRedeemScript_of_nodeScript given).trans hashes.symm)
    refine ⟨found, script, ?_, ?_, same, hash⟩
    · rw [Situation.find?_offer, if_pos rfl, there, Option.getD_some]
    · rw [Situation.find?_offer, if_pos rfl, missing, Option.getD_none]

/-- After one script has been offered in both of two situations that are alike, they are alike
again, unless the stores show a collision. -/
theorem Alike.offer (alike : wallet.Alike node first second)
    (hashes : Address.ofRedeemScript script wallet.network = address) :
    wallet.Alike node (first.offer address script) (second.offer address script) ∨
      KeyStore.Collide address (first.offer address script).store
        (second.offer address script).store := by
  -- what the stores have for the address afterwards decides
  have decides : (first.store.redeemScripts.find? address).getD script =
      (second.store.redeemScripts.find? address).getD script →
      wallet.Alike node (first.offer address script) (second.offer address script) := by
    intro agree
    refine ⟨fun other => ?_, alike.rounds, alike.asked, alike.draws⟩
    by_cases same : other = address
    · subst same
      rw [redeems, redeems, Situation.find?_offer, Situation.find?_offer, if_pos rfl, if_pos rfl,
        agree]
    · have redeem := alike.scripts other
      rw [redeems, redeems] at redeem ⊢
      rw [Situation.find?_offer, Situation.find?_offer, if_neg same, if_neg same, redeem]
  cases there : first.store.redeemScripts.find? address with
  | none =>
    cases there' : second.store.redeemScripts.find? address with
    | none => exact .inl (decides (by rw [there, there']))
    | some found =>
      rcases alike.symm.offer_of_missing hashes there' there with rfl | collide
      · exact .inl (decides (by rw [there, there', Option.getD_none, Option.getD_some]))
      · exact .inr collide.symm
  | some found =>
    cases there' : second.store.redeemScripts.find? address with
    | none =>
      rcases alike.offer_of_missing hashes there there' with rfl | collide
      · exact .inl (decides (by rw [there, there', Option.getD_none, Option.getD_some]))
      · exact .inr collide
    | some found' =>
      have redeem := alike.scripts address
      rw [redeems_of_some there, redeems_of_some there', Except.ok.injEq] at redeem
      exact .inl (decides (by rw [there, there', redeem]))

end Alike

/-! ### What a pass does -/

/-- What looking for the redeem script of an address tells, and what it leads to. -/
inductive Looks (wallet : Wallet) (around : Surroundings) (address : String)
    (situation : Situation) : Bool × Situation → Prop where
  | known {script : Bytes} (found : situation.store.redeemScripts.find? address = some script) :
    Looks wallet around address situation (false, situation)
  | refused (missing : situation.store.redeemScripts.find? address = none)
      (nothing : ∀ answer, around.node situation.asked (.redeemScript address) = .ok answer →
        (answer.bind fun hex => verifiedRedeemScript? address hex wallet.network) = none) :
    Looks wallet around address situation (false, situation.ask (.redeemScript address))
  | kept {answer : Option String} {script : Bytes}
      (missing : situation.store.redeemScripts.find? address = none)
      (answered : around.node situation.asked (.redeemScript address) = .ok answer)
      (verified : (answer.bind fun hex => verifiedRedeemScript? address hex wallet.network) =
        some script) :
    Looks wallet around address situation
      (true, (situation.ask (.redeemScript address)).offer address script)

/-- A script is looked for in one of these ways. -/
theorem looks_discoverOne (wallet : Wallet) (around : Surroundings) (address : String)
    (situation : Situation) :
    wallet.Looks around address situation
      ((wallet.discoverOne address).run (Situation.respond around) situation) := by
  rw [discoverOne, Program.run_bind]
  simp only [Program.askStore, Program.askOne, Program.run, Situation.respond, KeyStore.perform,
    Registry.contains]
  cases there : situation.store.redeemScripts.find? address with
  | some script => exact .known there
  | none =>
    rw [Option.isSome_none, if_neg Bool.false_ne_true, Program.run_bind]
    simp only [Program.askNode, Program.askOne, Program.run, Situation.respond]
    cases answered : around.node situation.asked (.redeemScript address) with
    | error e => exact .refused there fun answer told => by simp [answered] at told
    | ok answer =>
      dsimp only
      cases verified : answer.bind fun hex => verifiedRedeemScript? address hex wallet.network with
      | none =>
        refine .refused there fun answer' told => ?_
        obtain rfl := Except.ok.inj (answered.symm.trans told)
        exact verified
      | some script =>
        have added : (situation.store.redeemScripts.add address script).1 = true := by
          rw [Registry.add_of_missing there]
        show wallet.Looks around address situation
          ((situation.store.redeemScripts.add address script).1, _)
        rw [added]
        exact .kept there answered verified

/-- A pass looks for the scripts of the addresses that are listed, and fails without a list. -/
theorem run_rescan (wallet : Wallet) (around : Surroundings) (situation : Situation) :
    wallet.rescan.run.run (Situation.respond around) situation =
      match around.node situation.asked .watchedAddresses with
      | .error e => (.error (.node e), situation.ask .watchedAddresses)
      | .ok watched =>
        let after := (wallet.discoverAll (watched.filter Address.isMultisig)).run
          (Situation.respond around) (situation.ask .watchedAddresses)
        (.ok after.1, after.2) := by
  rw [rescan, WalletProgram.run_node_bind]
  simp only [Situation.respond]
  cases around.node situation.asked .watchedAddresses with
  | error e => rfl
  | ok watched => exact WalletProgram.run_lift _ _

/-! ### Lookups and passes -/

section Lookup

variable (wallet : Wallet) {around : Surroundings} (steady : around.node.Steady)

include steady

/-- The node's verified answer for an address is the script that it gives. -/
theorem nodeScript_of_answered {address : String} {script : Bytes} {asked : List NodeQuery}
    {answer : Option String}
    (answered : around.node asked (.redeemScript address) = .ok answer)
    (verified : (answer.bind fun hex => verifiedRedeemScript? address hex wallet.network) =
      some script) :
    wallet.nodeScript around.node address = .ok script := by
  simp only [nodeScript, steady.scripts [] asked, answered, verified]

/-- A lookup gives what the address redeems, and is not noticed. -/
theorem run_redeemScriptOf (address : String) (situation : Situation) :
    let after := (wallet.redeemScriptOf address).run.run (Situation.respond around) situation
    after.1 = wallet.redeems around.node situation.store address ∧
      wallet.Alike around.node situation after.2 := by
  rw [redeemScriptOf, WalletProgram.run_store_bind]
  simp only [Situation.respond, KeyStore.perform]
  cases there : situation.store.redeemScripts.find? address with
  | some script =>
    rw [redeems_of_some there]
    exact ⟨rfl, .refl _⟩
  | none =>
    have asked : wallet.Alike around.node situation (situation.ask (.redeemScript address)) :=
      alike_ask rfl situation
    rw [redeems_of_none there, nodeScript, steady.scripts [] situation.asked,
      WalletProgram.run_node_bind]
    simp only [Situation.respond]
    cases answered : around.node situation.asked (.redeemScript address) with
    | error e => exact ⟨rfl, asked⟩
    | ok answer =>
      dsimp only
      cases verified : answer.bind fun hex => verifiedRedeemScript? address hex wallet.network with
      | none => exact ⟨rfl, asked⟩
      | some script =>
        have given := nodeScript_of_answered wallet steady answered verified
        exact ⟨rfl, asked.trans (alike_offer given _)⟩

theorem alike_discoverOne (address : String) (situation : Situation) :
    wallet.Alike around.node situation
      ((wallet.discoverOne address).run (Situation.respond around) situation).2 := by
  have asked : wallet.Alike around.node situation (situation.ask (.redeemScript address)) :=
    alike_ask rfl situation
  have looks := wallet.looks_discoverOne around address situation
  generalize (wallet.discoverOne address).run (Situation.respond around) situation = after
    at looks ⊢
  cases looks with
  | known => exact .refl _
  | refused => exact asked
  | kept missing answered verified =>
    have given := nodeScript_of_answered wallet steady answered verified
    exact asked.trans (alike_offer given _)

theorem alike_discoverAll (addresses : List String) (situation : Situation) :
    wallet.Alike around.node situation
      ((wallet.discoverAll addresses).run (Situation.respond around) situation).2 := by
  induction addresses generalizing situation with
  | nil => exact .refl _
  | cons address addresses ih =>
    rw [discoverAll, Program.run_bind, Program.run_bind]
    exact (alike_discoverOne wallet steady address situation).trans (ih _)

/-- A pass of discovery is not noticed, whether or not the watched addresses are listed. -/
theorem alike_rescan (situation : Situation) :
    wallet.Alike around.node situation
      (wallet.rescan.run.run (Situation.respond around) situation).2 := by
  have asked : wallet.Alike around.node situation (situation.ask .watchedAddresses) :=
    alike_ask rfl situation
  rw [run_rescan]
  cases around.node situation.asked .watchedAddresses with
  | error e => exact asked
  | ok watched => exact asked.trans (alike_discoverAll wallet steady _ _)

end Lookup

end Wallet

end Cosigner
