import Cosigner.Proofs.Wallet.Cache
import Cosigner.Proofs.Wallet.Discovery
import Mathlib.Data.Set.Card
/-!
What a pass of discovery adds.

A node may answer for some addresses, fail for others and lie for some, and the addresses that it
watches may be of any kind and listed several times. A pass adds the scripts that can be verified
and are missing (`Wallet.Discoverable`), each once: an address that comes again in the list is not
missing any more. What one address adds and what the others add behind it are put together by
`KeyStore.Adds.trans`, so the order of the list does not matter, and a second pass finds nothing
(`pass_adds_discoveries`).
-/

namespace Cosigner

/-! ### Stores that gain entries -/

/-- One store is another with so many more redeem scripts. -/
structure KeyStore.Adds (before after : KeyStore) (entries : Set (String × Bytes)) (n : Nat) :
    Prop where
  scripts : ∀ address script, after.redeemScripts.find? address = some script ↔
    before.redeemScripts.find? address = some script ∨ (address, script) ∈ entries
  count : entries.encard = n
  /-- The new entries stand before the old ones. -/
  grows : ∃ new, after.redeemScripts.entries = new ++ before.redeemScripts.entries ∧
    new.length = n
  rounds : after.rounds = before.rounds

namespace KeyStore.Adds

variable {first second third : KeyStore} {entries more : Set (String × Bytes)} {m n : Nat}

theorem refl (store : KeyStore) : store.Adds store ∅ 0 where
  scripts _ _ := (or_iff_left (Set.notMem_empty _)).symm
  count := Set.encard_empty
  grows := ⟨[], rfl, rfl⟩
  rounds := rfl

theorem trans (adds : first.Adds second entries m) (adds' : second.Adds third more n)
    (apart : ∀ entry ∈ entries, entry ∉ more) : first.Adds third (entries ∪ more) (m + n) where
  scripts address script := by
    rw [adds'.scripts, adds.scripts, or_assoc]
    rfl
  count := by
    rw [Set.encard_union_eq (Set.disjoint_left.mpr apart), adds.count, adds'.count]
    rfl
  grows := by
    obtain ⟨new, grown, length⟩ := adds.grows
    obtain ⟨newer, grown', length'⟩ := adds'.grows
    refine ⟨newer ++ new, ?_, ?_⟩
    · rw [grown', grown, List.append_assoc]
    · rw [List.length_append, length, length', Nat.add_comm]
  rounds := adds'.rounds.trans adds.rounds

/-- What was missing and is still missing afterwards was missing all the time. -/
theorem missing (adds : first.Adds second entries m) {address : String}
    (missing : second.redeemScripts.find? address = none) :
    first.redeemScripts.find? address = none := by
  refine Option.eq_none_iff_forall_ne_some.mpr fun script found => ?_
  rw [(adds.scripts address script).mpr (.inl found)] at missing
  cases missing

/-- A store that gained nothing is the same. -/
theorem eq_of_empty (adds : first.Adds second ∅ m) : m = 0 ∧ second = first := by
  have none : m = 0 := by exact_mod_cast adds.count.symm.trans Set.encard_empty
  obtain ⟨new, grown, length⟩ := adds.grows
  rw [none, List.length_eq_zero_iff] at length
  rw [length, List.nil_append] at grown
  refine ⟨none, ?_⟩
  obtain ⟨⟨scripts⟩, rounds⟩ := first
  obtain ⟨⟨scripts'⟩, rounds'⟩ := second
  obtain rfl : scripts' = scripts := grown
  obtain rfl : rounds' = rounds := adds.rounds
  rfl

/-- Two stores that gained the same are the same as maps. -/
theorem unique (adds : first.Adds second entries m) (adds' : first.Adds third entries n) :
    m = n ∧ (∀ address,
      second.redeemScripts.find? address = third.redeemScripts.find? address) ∧
      second.rounds = third.rounds := by
  refine ⟨by exact_mod_cast adds.count.symm.trans adds'.count, fun address => ?_,
    adds.rounds.trans adds'.rounds.symm⟩
  refine Option.ext fun script => ?_
  rw [adds.scripts, adds'.scripts]

end KeyStore.Adds

/-- A situation gains a script that is offered for an address that has none. -/
theorem Situation.adds_offer (situation : Situation) {address : String} (script : Bytes)
    (missing : situation.store.redeemScripts.find? address = none) :
    situation.store.Adds (situation.offer address script).store {(address, script)} 1 where
  scripts other found := by
    rw [find?_offer, missing, Option.getD_none, Set.mem_singleton_iff, Prod.mk.injEq]
    by_cases same : other = address
    · subst same
      simp [missing, eq_comm]
    · simp [same]
  count := Set.encard_singleton _
  grows := by
    refine ⟨[(address, script)], ?_, rfl⟩
    rw [offer, KeyStore.perform, Registry.add_of_missing missing]
    rfl
  rounds := rfl

/-! ### What can be discovered -/

/-- The node's answers about redeem scripts are a function of the address. -/
def NodeBehaviour.Tells (node : NodeBehaviour)
    (answers : String → Except NodeError (Option String)) : Prop :=
  ∀ asked address, node asked (.redeemScript address) = answers address

namespace Wallet

/-- A watched address of a script that the store has no script for, and the script that the node's
answer spells, which hashes to the address. -/
structure Discoverable (wallet : Wallet) (answers : String → Except NodeError (Option String))
    (watched : List String) (store : KeyStore) (address : String) (script : Bytes) : Prop where
  watched : address ∈ watched
  multisig : Address.isMultisig address = true
  missing : store.redeemScripts.find? address = none
  answered : ∃ hex, answers address = .ok (some hex) ∧
    Hex.decodeChars (Text.trim hex.toList) = .ok script
  hashes : Address.ofRedeemScript script wallet.network = address

/-- The entries that can be discovered. -/
def discoveries (wallet : Wallet) (answers : String → Except NodeError (Option String))
    (watched : List String) (store : KeyStore) : Set (String × Bytes) :=
  {entry | wallet.Discoverable answers watched store entry.1 entry.2}

theorem verifiedRedeemScript?_eq_some_iff {address hex : String} {network : Network}
    {script : Bytes} :
    verifiedRedeemScript? address hex network = some script ↔
      Hex.decodeChars (Text.trim hex.toList) = .ok script ∧
        Address.ofRedeemScript script network = address := by
  rw [verifiedRedeemScript?]
  cases Hex.decodeChars (Text.trim hex.toList) with
  | error fault => simp
  | ok decoded =>
    simp only [Option.ite_none_right_eq_some, Option.some.injEq, Except.ok.injEq]
    constructor
    · rintro ⟨hashes, rfl⟩
      exact ⟨rfl, hashes⟩
    · rintro ⟨rfl, hashes⟩
      exact ⟨hashes, rfl⟩

section Discoveries

variable {wallet : Wallet} {answers : String → Except NodeError (Option String)}
  {watched watched' : List String} {store store' : KeyStore} {address : String} {script : Bytes}
  {n : Nat}

/-- What can be discovered for one address is the verified answer. -/
theorem discoverable_iff (multisig : Address.isMultisig address = true)
    (missing : store.redeemScripts.find? address = none) :
    wallet.Discoverable answers [address] store address script ↔
      ∃ answer, answers address = .ok answer ∧
        (answer.bind fun hex => verifiedRedeemScript? address hex wallet.network) =
          some script := by
  constructor
  · rintro ⟨-, -, -, ⟨hex, told, decoded⟩, hashes⟩
    exact ⟨some hex, told, verifiedRedeemScript?_eq_some_iff.mpr ⟨decoded, hashes⟩⟩
  · rintro ⟨answer, told, verified⟩
    obtain ⟨hex, rfl, verified⟩ := Option.bind_eq_some_iff.mp verified
    obtain ⟨decoded, hashes⟩ := verifiedRedeemScript?_eq_some_iff.mp verified
    exact ⟨List.mem_singleton_self address, multisig, missing, ⟨hex, told, decoded⟩, hashes⟩

theorem discoveries_eq_empty
    (nothing : ∀ script, ¬ wallet.Discoverable answers [address] store address script) :
    wallet.discoveries answers [address] store = ∅ := by
  refine Set.eq_empty_of_forall_notMem ?_
  rintro ⟨other, script⟩ discoverable
  obtain rfl := List.mem_singleton.mp discoverable.watched
  exact nothing script discoverable

theorem discoveries_eq_singleton
    (discoverable : wallet.Discoverable answers [address] store address script) :
    wallet.discoveries answers [address] store = {(address, script)} := by
  refine Set.eq_singleton_iff_unique_mem.mpr ⟨discoverable, ?_⟩
  rintro ⟨other, found⟩ also
  obtain rfl := List.mem_singleton.mp also.watched
  obtain ⟨hex, told, decoded⟩ := discoverable.answered
  obtain ⟨hex', told', decoded'⟩ := also.answered
  cases told.symm.trans told'
  cases decoded.symm.trans decoded'
  rfl

/-- What can be discovered depends on which addresses are listed, not on how. -/
theorem discoveries_congr (same : ∀ address, address ∈ watched ↔ address ∈ watched') :
    wallet.discoveries answers watched store = wallet.discoveries answers watched' store := by
  ext ⟨address, script⟩
  constructor
  · rintro ⟨listed, multisig, missing, answered, hashes⟩
    exact ⟨(same _).mp listed, multisig, missing, answered, hashes⟩
  · rintro ⟨listed, multisig, missing, answered, hashes⟩
    exact ⟨(same _).mpr listed, multisig, missing, answered, hashes⟩

/-- What is found for the first address is not found again for the others. -/
theorem discoveries_cons (watched : List String)
    (adds : store.Adds store' (wallet.discoveries answers [address] store) n) :
    wallet.discoveries answers (address :: watched) store =
        wallet.discoveries answers [address] store ∪ wallet.discoveries answers watched store' ∧
      ∀ entry ∈ wallet.discoveries answers [address] store,
        entry ∉ wallet.discoveries answers watched store' := by
  constructor
  · ext ⟨other, script⟩
    constructor
    · rintro ⟨listed, multisig, missing, answered, hashes⟩
      by_cases same : other = address
      · exact .inl ⟨List.mem_singleton.mpr same, multisig, missing, answered, hashes⟩
      · refine .inr ⟨List.mem_of_ne_of_mem same listed, multisig, ?_, answered, hashes⟩
        refine Option.eq_none_iff_forall_ne_some.mpr fun found there => ?_
        rcases (adds.scripts other found).mp there with before | discovered
        · rw [missing] at before
          cases before
        · exact same (List.mem_singleton.mp discovered.watched)
    · rintro (⟨listed, multisig, missing, answered, hashes⟩ |
        ⟨listed, multisig, missing, answered, hashes⟩)
      · exact ⟨List.mem_singleton.mp listed ▸ List.mem_cons_self, multisig, missing, answered,
          hashes⟩
      · exact ⟨List.mem_cons_of_mem _ listed, multisig, adds.missing missing, answered, hashes⟩
  · rintro ⟨other, script⟩ discovered again
    have there := (adds.scripts other script).mpr (.inr discovered)
    rw [again.missing] at there
    cases there

/-- Nothing more can be discovered for addresses that a pass has gone through. -/
theorem discoveries_after (adds : store.Adds store' (wallet.discoveries answers watched store) n)
    (listed : watched' ⊆ watched) : wallet.discoveries answers watched' store' = ∅ := by
  refine Set.eq_empty_of_forall_notMem ?_
  rintro ⟨address, script⟩ ⟨watched, multisig, missing, answered, hashes⟩
  have discovered : wallet.Discoverable answers _ store address script :=
    ⟨listed watched, multisig, adds.missing missing, answered, hashes⟩
  rw [(adds.scripts address script).mpr (.inr discovered)] at missing
  cases missing

end Discoveries

/-! ### Passes -/

/-- One pass in a situation: what it returns, and the situation after it. -/
def pass (wallet : Wallet) (around : Surroundings) (situation : Situation) :
    Except WalletError Nat × Situation :=
  wallet.rescan.run.run (Situation.respond around) situation

/-- A pass that gets no list of addresses does nothing else. -/
theorem pass_of_unlisted {wallet : Wallet} {around : Surroundings} {situation : Situation}
    {failure : NodeError}
    (unlisted : around.node situation.asked .watchedAddresses = .error failure) :
    wallet.pass around situation = (.error (.node failure), situation.ask .watchedAddresses) := by
  rw [pass, run_rescan, unlisted]

section Passes

variable (wallet : Wallet) {answers : String → Except NodeError (Option String)}
  {around : Surroundings} (tells : around.node.Tells answers)

include tells

/-- Looking for the script of one address adds what can be discovered for it alone. -/
theorem adds_discoverOne {address : String} (multisig : Address.isMultisig address = true)
    (situation : Situation) :
    let after := (wallet.discoverOne address).run (Situation.respond around) situation
    situation.store.Adds after.2.store (wallet.discoveries answers [address] situation.store)
      after.1.toNat := by
  have looks := wallet.looks_discoverOne around address situation
  generalize (wallet.discoverOne address).run (Situation.respond around) situation = after
    at looks ⊢
  cases looks with
  | known found =>
    have nothing (script : Bytes) :
        ¬ wallet.Discoverable answers [address] situation.store address script :=
      fun discoverable => Option.some_ne_none _ (found.symm.trans discoverable.missing)
    rw [discoveries_eq_empty nothing]
    exact .refl _
  | refused missing nothing =>
    have nothing (script : Bytes) :
        ¬ wallet.Discoverable answers [address] situation.store address script := by
      rw [discoverable_iff multisig missing]
      rintro ⟨answer, told, verified⟩
      rw [nothing answer ((tells _ _).trans told)] at verified
      cases verified
    rw [discoveries_eq_empty nothing]
    exact .refl _
  | @kept answer script missing answered verified =>
    have told : answers address = .ok answer := (tells _ _).symm.trans answered
    have discoverable : wallet.Discoverable answers [address] situation.store address script :=
      (discoverable_iff multisig missing).mpr ⟨answer, told, verified⟩
    rw [discoveries_eq_singleton discoverable]
    exact situation.adds_offer script missing

/-- Looking for the scripts of addresses adds all that can be discovered, and counts it. -/
theorem adds_discoverAll (watched : List String) (situation : Situation) :
    let after := (wallet.discoverAll (watched.filter Address.isMultisig)).run
      (Situation.respond around) situation
    situation.store.Adds after.2.store (wallet.discoveries answers watched situation.store)
      after.1 := by
  -- For the later addresses the store has what the first one has added, so the induction is from
  -- any situation.
  induction watched generalizing situation with
  | nil =>
    have nothing : wallet.discoveries answers [] situation.store = ∅ :=
      Set.eq_empty_of_forall_notMem fun entry discoverable =>
        List.not_mem_nil discoverable.watched
    rw [nothing]
    exact .refl _
  | cons address watched ih =>
    by_cases multisig : Address.isMultisig address = true
    · rw [List.filter_cons_of_pos multisig, discoverAll, Program.run_bind]
      have first := adds_discoverOne wallet tells multisig situation
      have rest := ih ((wallet.discoverOne address).run (Situation.respond around) situation).2
      obtain ⟨all, apart⟩ := discoveries_cons watched first
      have counted (added : Bool) (count : Nat) :
          (if added then count + 1 else count) = added.toNat + count := by
        cases added <;> simp [Nat.add_comm]
      rw [all, Program.run_bind, Program.run_pure, counted]
      exact first.trans rest apart
    · rw [List.filter_cons_of_neg multisig]
      have nothing : wallet.discoveries answers [address] situation.store = ∅ :=
        discoveries_eq_empty fun _ discoverable => multisig discoverable.multisig
      have none : situation.store.Adds situation.store
          (wallet.discoveries answers [address] situation.store) 0 := nothing ▸ .refl _
      rw [(discoveries_cons watched none).1, nothing, Set.empty_union]
      exact ih situation

theorem adds_pass {watched : List String} {situation : Situation}
    (listed : around.node situation.asked .watchedAddresses = .ok watched) :
    ∃ n, (wallet.pass around situation).1 = .ok n ∧
      situation.store.Adds (wallet.pass around situation).2.store
        (wallet.discoveries answers watched situation.store) n := by
  have adds := adds_discoverAll wallet tells watched (situation.ask .watchedAddresses)
  rw [pass, run_rescan, listed]
  exact ⟨_, rfl, adds⟩

end Passes

/-- A pass adds what can be discovered, and returns how many entries that are.

Its outcome depends on the store, on the addresses that are listed, in whatever order, and on the
node's answers about their scripts, and on nothing else. After it, there is nothing to add for the
addresses it has gone through. Only when the addresses are not listed it fails, and does not do
anything. -/
theorem pass_adds_discoveries (wallet : Wallet)
    (answers : String → Except NodeError (Option String)) (around : Surroundings)
    (situation : Situation) (tells : around.node.Tells answers) :
    let after := wallet.pass around situation
    (∀ failure, around.node situation.asked .watchedAddresses = .error failure →
      after = (.error (.node failure), situation.ask .watchedAddresses)) ∧
    ∀ watched, around.node situation.asked .watchedAddresses = .ok watched →
      ∃ n, after.1 = .ok n ∧
        situation.store.Adds after.2.store
          (wallet.discoveries answers watched situation.store) n ∧
        (∀ around' situation' watched', around'.node.Tells answers →
          situation'.store = situation.store →
          around'.node situation'.asked .watchedAddresses = .ok watched' →
          watched.Perm watched' →
          (wallet.pass around' situation').1 = .ok n ∧
            (∀ address, (wallet.pass around' situation').2.store.redeemScripts.find? address =
              after.2.store.redeemScripts.find? address) ∧
            (wallet.pass around' situation').2.store.rounds = after.2.store.rounds) ∧
        ∀ around' situation' watched', around'.node.Tells answers →
          situation'.store = after.2.store →
          around'.node situation'.asked .watchedAddresses = .ok watched' →
          watched' ⊆ watched →
          (wallet.pass around' situation').1 = .ok 0 ∧
            (wallet.pass around' situation').2.store = after.2.store := by
  refine ⟨fun failure => pass_of_unlisted, fun watched listed => ?_⟩
  obtain ⟨n, returns, adds⟩ := adds_pass wallet tells listed
  refine ⟨n, returns, adds, ?_, ?_⟩
  · intro around' situation' watched' tells' same listed' permuted
    obtain ⟨n', returns', adds'⟩ := adds_pass wallet tells' listed'
    rw [same, ← discoveries_congr fun _ => permuted.mem_iff] at adds'
    obtain ⟨rfl, scripts, rounds⟩ := adds'.unique adds
    exact ⟨returns', scripts, rounds⟩
  · intro around' situation' watched' tells' same listed' within
    obtain ⟨n', returns', adds'⟩ := adds_pass wallet tells' listed'
    rw [same, discoveries_after adds within] at adds'
    obtain ⟨rfl, unchanged⟩ := adds'.eq_of_empty
    exact ⟨returns', unchanged⟩

/-- A node that spells the script of `sampleScriptAddress` in its own way, gives it out as that of
`forgedAddress` too, and fails for all other addresses. -/
def blurredAnswers (address : String) : Except NodeError (Option String) :=
  if address = sampleScriptAddress then .ok (some " 51AE ")
  else if address = forgedAddress then .ok (some "51ae")
  else .error (.rejected "unknown")

/-- A node with these answers, and with this list of watched addresses. -/
def blurredSurroundings (listing : Except NodeError (List String)) : Surroundings where
  node _
    | .watchedAddresses => listing
    | .redeemScript address => blurredAnswers address
    | _ => .error (.rejected "unknown")
  entropy := Bytes.ofNatBE 32

/-- The address of a key, a forged address, one that is listed twice, and no address. -/
def blurredListing : List String :=
  ["1BgGZ9tcN4rm9KBzDn7KprQz87SZ26SAMH", forgedAddress, sampleScriptAddress, sampleScriptAddress,
    "no address"]

/-- One script is added however the addresses are listed, and nothing by a second pass or by one
that gets no list. -/
theorem one_script_is_discovered :
    let after := sampleWallet.pass (blurredSurroundings (.ok blurredListing)) .start
    after.1 = .ok 1 ∧
      after.2.store.redeemScripts.find? sampleScriptAddress = some [0x51, 0xae] ∧
      (sampleWallet.pass (blurredSurroundings (.ok blurredListing.reverse)) .start).1 = .ok 1 ∧
      (sampleWallet.pass (blurredSurroundings (.ok blurredListing)) after.2).1 = .ok 0 ∧
      (sampleWallet.pass (blurredSurroundings (.error (.unreachable "down"))) .start).2.store =
        .empty := by
  have finds : (sampleWallet.pass (blurredSurroundings (.ok blurredListing)) .start).1 = .ok 1 ∧
      (sampleWallet.pass (blurredSurroundings (.ok blurredListing))
        .start).2.store.redeemScripts.find? sampleScriptAddress = some [0x51, 0xae] := by
    decide +kernel
  have tells (listing : Except NodeError (List String)) :
      (blurredSurroundings listing).node.Tells blurredAnswers := fun _ _ => rfl
  obtain ⟨-, listed⟩ := pass_adds_discoveries sampleWallet blurredAnswers
    (blurredSurroundings (.ok blurredListing)) .start (tells _)
  obtain ⟨unlisted, -⟩ := pass_adds_discoveries sampleWallet blurredAnswers
    (blurredSurroundings (.error (.unreachable "down"))) .start (tells _)
  obtain ⟨n, returns, -, reordered, again⟩ := listed _ rfl
  obtain rfl : 1 = n := Except.ok.inj (finds.1.symm.trans returns)
  refine ⟨finds.1, finds.2, ?_, ?_, ?_⟩
  · exact (reordered _ _ _ (tells _) rfl rfl (List.reverse_perm _).symm).1
  · exact (again _ _ _ (tells _) rfl rfl (List.Subset.refl _)).1
  · rw [unlisted _ rfl]
    rfl

end Wallet

end Cosigner
