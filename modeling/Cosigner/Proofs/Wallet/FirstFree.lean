import Cosigner.Proofs.Wallet.Issuing
import Mathlib.Data.Nat.Find
/-!
The address that a call issues when no other call comes between.

The store is asked about one round after the other. As long as it has the address, nothing happens
(`runs_issueFrom_of_taken`), and at the first address that it does not have the call ends
(`runs_issueFrom_of_free`): either the node refuses to watch the address and the store stays as it
is, or the address is recorded with its round. So a call issues the first free round, asks the node
once, and records only what the node watches (`first_free_round_is_issued`).
-/

namespace Cosigner

theorem answers_isIssued_iff {address : String} {reply : Bool} {store store' : KeyStore} :
    Answers (.store (.isIssued address)) store reply store' ↔
      reply = store.rounds.contains address ∧ store' = store :=
  answers_store_iff.trans Prod.ext_iff

/-- A store takes an address that it does not have. -/
theorem answers_recordRound_iff_of_free {address : String} {round : Nat} {reply : Bool}
    {store store' : KeyStore} (free : store.rounds.contains address = false) :
    Answers (.store (.recordRound address round)) store reply store' ↔
      reply = true ∧
        store' = { store with rounds := ⟨(address, round) :: store.rounds.entries⟩ } := by
  have performed : store.perform (.recordRound address round) =
      (true, { store with rounds := ⟨(address, round) :: store.rounds.entries⟩ }) := by
    simp [KeyStore.perform, Registry.add, free]
  rw [answers_store_iff, performed, Prod.ext_iff]

namespace Wallet

variable {wallet : Wallet} {identifier : String} {store store' : KeyStore} {events : List Event}
  {result : Except WalletError (Option String)} {round : Nat} {key : PrivateKey}

/-- The first of the rounds of a wallet whose address the store does not have. -/
structure FirstFree (wallet : Wallet) (identifier : String) (store : KeyStore) (round : Nat)
    (key : PrivateKey) : Prop where
  own : wallet.RoundKey identifier round key
  free : store.rounds.contains key.address = false
  least : ∀ earlier other, wallet.RoundKey identifier earlier other →
    store.rounds.contains other.address = false → round ≤ earlier

/-- The store is asked about the addresses of so many rounds from one on, and has them all. -/
def lookups (wallet : Wallet) (identifier : String) (first count : Nat) : List Event :=
  (List.range' first count).filterMap fun round =>
    (wallet.deriveKey? identifier round).map fun key => ⟨.store (.isIssued key.address), true⟩

/-- The two ways in which a free address is issued, with what is asked: the node refuses to watch
it, and nothing has happened, or the node watches it, and it is recorded. -/
inductive Issues (store : KeyStore) (address : String) (round : Nat) :
    List Event → Except WalletError (Option String) → KeyStore → Prop where
  | refused (failure : NodeError) :
      Issues store address round
        [⟨.store (.isIssued address), false⟩,
          ⟨.node (.importAddress address addressLabel false), .error failure⟩]
        (.error (.node failure)) store
  | recorded :
      Issues store address round
        [⟨.store (.isIssued address), false⟩,
          ⟨.node (.importAddress address addressLabel false), .ok ()⟩,
          ⟨.store (.recordRound address round), true⟩]
        (.ok (some address))
        { store with rounds := ⟨(address, round) :: store.rounds.entries⟩ }

/-! ### Free rounds -/

/-- Some round is the first free one exactly when some round is free. -/
theorem exists_firstFree_iff :
    (∃ round key, wallet.FirstFree identifier store round key) ↔
      ∃ round key, wallet.RoundKey identifier round key ∧
        store.rounds.contains key.address = false := by
  classical
  constructor
  · rintro ⟨round, key, first⟩
    exact ⟨round, key, first.own, first.free⟩
  · intro some
    obtain ⟨key, own, free⟩ := Nat.find_spec some
    exact ⟨Nat.find some, key, own, free,
      fun _ other own free => Nat.find_min' some ⟨other, own, free⟩⟩

/-- An identifier that is no integer has no rounds. -/
theorem not_roundKey_of_malformed {fault : IntegerFault}
    (malformed : integerBytes identifier = .error fault) :
    ¬ wallet.RoundKey identifier round key := by
  rintro ⟨-, -, derived⟩
  obtain ⟨seed, -, seeded, -⟩ := exists_of_derivePrivateKey? derived
  rw [derivationSeed, malformed] at seeded
  cases seeded

/-! ### Going through the rounds -/

theorem lookups_succ {count : Nat} (derived : wallet.deriveKey? identifier round = some key) :
    wallet.lookups identifier round (count + 1) =
      ⟨.store (.isIssued key.address), true⟩ :: wallet.lookups identifier (round + 1) count := by
  rw [lookups, List.range'_succ, List.filterMap_cons, derived]
  rfl

/-- Rounds whose addresses the store has are passed over. -/
theorem runs_issueFrom_of_taken {count left : Nat}
    (taken : ∀ r, round ≤ r → r < round + count →
      ∃ key, wallet.deriveKey? identifier r = some key ∧
        store.rounds.contains key.address = true) :
    (wallet.issueFrom identifier (count + left) round).run.Runs store events result store' ↔
      ∃ rest, events = wallet.lookups identifier round count ++ rest ∧
        (wallet.issueFrom identifier left (round + count)).run.Runs store rest result store' := by
  induction count generalizing round events with
  | zero => simp [lookups]
  | succ count ih =>
    obtain ⟨key, derived, has⟩ := taken round (Nat.le_refl round) (by omega)
    have later := fun r (above : round + 1 ≤ r) (below : r < round + 1 + count) =>
      taken r (by omega) (by omega)
    have places : round + 1 + count = round + (count + 1) := by omega
    rw [Nat.add_right_comm, run_issueFrom_succ derived, Program.runs_ask_iff, lookups_succ derived,
      ← places]
    constructor
    · rintro ⟨reply, between, asked, rfl, answers, run⟩
      obtain ⟨same, rfl⟩ := answers_isIssued_iff.mp answers
      obtain rfl : reply = true := same.trans has
      obtain ⟨rest, rfl, run'⟩ := (ih later).mp run
      exact ⟨rest, rfl, run'⟩
    · rintro ⟨rest, rfl, run⟩
      exact ⟨true, store, _, rfl, answers_isIssued_iff.mpr ⟨has.symm, rfl⟩,
        (ih later).mpr ⟨rest, rfl, run⟩⟩

/-- At a round whose address the store does not have the call ends. -/
theorem runs_issueFrom_of_free {left : Nat}
    (derived : wallet.deriveKey? identifier round = some key)
    (free : store.rounds.contains key.address = false) :
    (wallet.issueFrom identifier (left + 1) round).run.Runs store events result store' ↔
      Issues store key.address round events result store' := by
  rw [run_issueFrom_succ derived, Program.runs_ask_iff]
  constructor
  · rintro ⟨issued, _, asked, rfl, answers, run⟩
    obtain ⟨same, rfl⟩ := answers_isIssued_iff.mp answers
    obtain rfl : issued = false := same.trans free
    obtain ⟨imported, _, asked, rfl, answers', run'⟩ := Program.runs_ask_iff.mp run
    obtain rfl := answers_node_iff.mp answers'
    cases imported with
    | error failure =>
      cases run'
      exact .refused failure
    | ok reply =>
      obtain ⟨taken, _, asked, rfl, answers'', run''⟩ := Program.runs_ask_iff.mp run'
      obtain ⟨rfl, rfl⟩ := (answers_recordRound_iff_of_free free).mp answers''
      cases run''
      exact .recorded
  · intro issues
    have asked := answers_isIssued_iff.mpr ⟨free.symm, rfl⟩
    cases issues with
    | refused failure =>
      exact ⟨false, _, _, rfl, asked, .ask (answers_node_iff.mpr rfl) (.done _ _)⟩
    | recorded =>
      exact ⟨false, _, _, rfl, asked, .ask (answers_node_iff.mpr rfl)
        (.ask ((answers_recordRound_iff_of_free free).mpr ⟨rfl, rfl⟩) (.done _ _))⟩

/-- When every round is taken, or there are no rounds, nothing is issued. -/
theorem runs_generateAddress_of_none
    (occupied : ∀ round key, ¬ wallet.FirstFree identifier store round key) :
    (wallet.generateAddress identifier).run.Runs store events result store' ↔
      events = wallet.lookups identifier 1 wallet.config.maxRounds ∧ result = .ok none ∧
        store' = store := by
  have has (round : Nat) (key : PrivateKey) (own : wallet.RoundKey identifier round key) :
      store.rounds.contains key.address = true := by
    refine Bool.of_not_eq_false fun free => ?_
    obtain ⟨first, key, found⟩ := exists_firstFree_iff.mpr ⟨round, key, own, free⟩
    exact occupied first key found
  by_cases derivable : (wallet.deriveKey? identifier 1).isSome = true
  case pos =>
    have taken (r : Nat) (above : 1 ≤ r) (below : r < 1 + wallet.config.maxRounds) :
        ∃ key, wallet.deriveKey? identifier r = some key ∧
          store.rounds.contains key.address = true := by
      obtain ⟨key, derived⟩ :=
        Option.isSome_iff_exists.mp ((isSome_deriveKey?_iff 1 r).mp derivable)
      exact ⟨key, derived, has r key ⟨above, by omega, derived⟩⟩
    have all : wallet.generateAddress identifier =
        wallet.issueFrom identifier (wallet.config.maxRounds + 0) 1 := rfl
    rw [all, runs_issueFrom_of_taken taken]
    constructor
    · rintro ⟨rest, rfl, run⟩
      obtain ⟨rfl, rfl, rfl⟩ := Program.runs_pure_iff.mp run
      exact ⟨List.append_nil _, rfl, rfl⟩
    · rintro ⟨rfl, rfl, rfl⟩
      exact ⟨[], (List.append_nil _).symm, .done _ _⟩
  case neg =>
    have underived (r : Nat) : wallet.deriveKey? identifier r = none := by
      rw [← Option.not_isSome_iff_eq_none, ← isSome_deriveKey?_iff 1 r]
      exact derivable
    have nothing : (wallet.generateAddress identifier).run = pure (.ok none) := by
      rw [generateAddress]
      cases wallet.config.maxRounds with
      | zero => rfl
      | succ left =>
        rw [issueFrom, underived]
        rfl
    have unasked : wallet.lookups identifier 1 wallet.config.maxRounds = [] := by
      simp [lookups, underived]
    rw [nothing, Program.runs_pure_iff, unasked]

theorem runs_generateAddress_of_firstFree
    (first : wallet.FirstFree identifier store round key) :
    (wallet.generateAddress identifier).run.Runs store events result store' ↔
      ∃ rest, events = wallet.lookups identifier 1 (round - 1) ++ rest ∧
        Issues store key.address round rest result store' := by
  obtain ⟨⟨above, below, derived⟩, free, least⟩ := first
  have taken (r : Nat) (above' : 1 ≤ r) (below' : r < 1 + (round - 1)) :
      ∃ key, wallet.deriveKey? identifier r = some key ∧
        store.rounds.contains key.address = true := by
    obtain ⟨other, derived'⟩ :=
      Option.isSome_iff_exists.mp ((isSome_deriveKey?_iff round r).mp (by rw [derived]; rfl))
    refine ⟨other, derived', Bool.of_not_eq_false fun free' => ?_⟩
    have := least r other ⟨above', by omega, derived'⟩ free'
    omega
  have here : 1 + (round - 1) = round := by omega
  have rounds : wallet.config.maxRounds =
      (round - 1) + ((wallet.config.maxRounds - round) + 1) := by
    omega
  rw [generateAddress, rounds, runs_issueFrom_of_taken taken, here]
  simp only [runs_issueFrom_of_free derived free]

/-- A call that no other call interrupts issues the first free round of its identifier. When the
identifier is no integer, or when no round is free, there is no address, and the node is not asked.
Otherwise the node is asked once, to watch the address of the first free round. If it fails, so does
the call, and the store is as before, so that the same round is still the first free one. If it does
not, the address is issued, and the store has it with its round, and nothing else is changed. -/
theorem first_free_round_is_issued (wallet : Wallet) (identifier : String) (store : KeyStore) :
    ((∃ fault, integerBytes identifier = .error fault) ∨
        (∀ round key, ¬ wallet.FirstFree identifier store round key) →
      ∀ events result store',
        (wallet.generateAddress identifier).run.Runs store events result store' ↔
          events = wallet.lookups identifier 1 wallet.config.maxRounds ∧ result = .ok none ∧
            store' = store) ∧
    ∀ round key, wallet.FirstFree identifier store round key →
      ∀ events result store',
        (wallet.generateAddress identifier).run.Runs store events result store' ↔
          ∃ rest, events = wallet.lookups identifier 1 (round - 1) ++ rest ∧
            Issues store key.address round rest result store' := by
  refine ⟨?none, fun round key first events result store' =>
    runs_generateAddress_of_firstFree first⟩
  rintro (⟨fault, malformed⟩ | occupied) events result store'
  · exact runs_generateAddress_of_none fun _ _ first =>
      not_roundKey_of_malformed malformed first.own
  · exact runs_generateAddress_of_none occupied

/-- A store that has the address of the first round of an identifier. -/
def startedStore : KeyStore := ⟨.empty, ⟨[("1MKHFNiS1oYkFqBAim6PhtMfngSq6YgyM3", 1)]⟩⟩

/-- The second round is the first free one. A call whose import fails leaves it free, and so the
next call issues it. No address is issued to an identifier that is no integer. -/
theorem second_round_is_tried_again :
    ∃ key, key.address = "1EhrZCvBbXyRBg7tGvwyJYScmbeNwRixzo" ∧
      sampleWallet.FirstFree "01" startedStore 2 key ∧
      (∀ failure, ∃ events, (sampleWallet.generateAddress "01").run.Runs startedStore events
        (.error (.node failure)) startedStore) ∧
      (∃ events store', (sampleWallet.generateAddress "01").run.Runs startedStore events
        (.ok (some key.address)) store' ∧ store'.rounds.find? key.address = some 2) ∧
      ∃ events, (sampleWallet.generateAddress "no").run.Runs startedStore events (.ok none)
        startedStore := by
  have derivable :
      (sampleWallet.deriveKey? "01" 1).map PrivateKey.address =
          some "1MKHFNiS1oYkFqBAim6PhtMfngSq6YgyM3" ∧
        (sampleWallet.deriveKey? "01" 2).map PrivateKey.address =
          some "1EhrZCvBbXyRBg7tGvwyJYScmbeNwRixzo" ∧
        2 ≤ sampleWallet.config.maxRounds ∧ (integerBytes "no").toOption = none := by
    decide +kernel
  obtain ⟨one, two, enough, malformed⟩ := derivable
  obtain ⟨key, derived, address⟩ := Option.map_eq_some_iff.mp two
  have first : sampleWallet.FirstFree "01" startedStore 2 key := by
    refine ⟨⟨by decide, enough, derived⟩, by rw [address]; decide, fun earlier other own free => ?_⟩
    by_contra before
    obtain rfl : earlier = 1 := by have := own.first; omega
    rw [own.derived] at one
    rw [show other.address = _ from Option.some.inj one] at free
    exact absurd free (by decide)
  obtain ⟨-, issued⟩ := first_free_round_is_issued sampleWallet "01" startedStore
  have runs := issued 2 key first
  refine ⟨key, address, first, fun failure => ⟨_, (runs _ _ _).mpr ⟨_, rfl, .refused failure⟩⟩,
    ⟨_, _, (runs _ _ _).mpr ⟨_, rfl, .recorded⟩, ?_⟩, ?_⟩
  · rw [address]
    decide
  · obtain ⟨nothing, -⟩ := first_free_round_is_issued sampleWallet "no" startedStore
    refine ⟨_, (nothing (.inl ?_) _ _ _).mpr ⟨rfl, rfl, rfl⟩⟩
    cases read : integerBytes "no" with
    | error fault => exact ⟨fault, rfl⟩
    | ok bytes =>
      rw [read] at malformed
      cases malformed

end Wallet

end Cosigner
