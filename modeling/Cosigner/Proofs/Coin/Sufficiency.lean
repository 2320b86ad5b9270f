import Cosigner.Proofs.Coin.Selection
import Mathlib.Order.Bounds.Basic
/-!
Selection takes the fewest outputs that suffice.

The first `k` outputs suffice when their worth exceeds the payments by the fee for just these
outputs (`Suffices`). Neither the worth nor the total of the payments is ever computed: one loop
takes outputs for each payment in turn, another takes them for a fee that grows on the way. Amounts
that are not negative make both into the search for one least number. After every payment the
outputs taken are the fewest that exceed what was paid (`Pool.Tight`, kept by `pay_cases`), so no
smaller number is missed, and the worth of more outputs is no less, so none is passed by that would
have sufficed for the payments only. What is selected is therefore the shortest prefix that
suffices, and nothing exactly when there is none (`selectUtxos_spends_least_prefix`).
-/

namespace Cosigner

variable {utxos : List Utxo} {j k : Nat}

/-! ### The worth of the first outputs -/

/-- What the first `k` outputs are worth together. -/
def worth (utxos : List Utxo) (k : Nat) : Int := Amount.total ((utxos.take k).map Utxo.amount)

/-- Amounts of which none is negative and which together are an amount. -/
structure Countable (utxos : List Utxo) : Prop where
  nonneg : ∀ utxo ∈ utxos, 0 ≤ utxo.amount
  fits : Amount.total (utxos.map Utxo.amount) ≤ Int64.maxValue.toInt

namespace Countable

variable (countable : Countable utxos)

include countable

/-- More outputs are worth no less. -/
theorem worth_mono (le : j ≤ k) : worth utxos j ≤ worth utxos k := by
  have split := List.take_append_drop j (utxos.take k)
  rw [List.take_take, Nat.min_eq_left le] at split
  have rest : 0 ≤ Amount.total (((utxos.take k).drop j).map Utxo.amount) := by
    refine Amount.total_nonneg fun amount mem => ?_
    obtain ⟨utxo, there, rfl⟩ := List.mem_map.mp mem
    exact countable.nonneg utxo (List.mem_of_mem_take (List.mem_of_mem_drop there))
  rw [worth, worth, ← split, List.map_append, Amount.total_append]
  omega

theorem worth_le_max (k : Nat) : worth utxos k ≤ Int64.maxValue.toInt := by
  have whole : worth utxos (max k utxos.length) = Amount.total (utxos.map Utxo.amount) := by
    rw [worth, List.take_of_length_le (Nat.le_max_right _ _)]
  have fits := countable.fits
  have below := countable.worth_mono (Nat.le_max_left k utxos.length)
  omega

end Countable

namespace Pool

variable {paid amounts : List Int64} {pool : Pool}

/-! ### Taking outputs for one payment, or for the fee -/

section Balanced

variable (balanced : Balanced utxos paid pool)

include balanced

theorem Balanced.within : pool.taken.length ≤ utxos.length := by
  rw [← balanced.outputs, List.length_append, List.length_reverse]
  exact Nat.le_add_right _ _

theorem Balanced.take_eq : utxos.take pool.taken.length = pool.taken.reverse := by
  rw [← balanced.outputs]
  exact List.take_left' List.length_reverse

/-- The number of outputs taken determines the carry. -/
theorem Balanced.carry_eq :
    pool.carry.toInt = worth utxos pool.taken.length - Amount.total paid := by
  rw [worth, balanced.take_eq, List.map_reverse, Amount.total_reverse]
  exact balanced.carry

end Balanced

/-- One more output may be taken whenever one is left. -/
theorem Balanced.exists_add? (countable : Countable utxos) (nonneg : 0 ≤ Amount.total paid)
    {utxo : Utxo} {left taken : List Utxo} {carry : Int64}
    (balanced : Balanced utxos paid ⟨utxo :: left, taken, carry⟩) :
    ∃ sum, Amount.add? carry utxo.amount = some sum ∧
      Balanced utxos paid ⟨left, utxo :: taken, sum⟩ := by
  have outputs : (utxo :: taken).reverse ++ left = utxos := by
    have outputs := balanced.outputs
    rwa [List.append_cons, ← List.reverse_cons] at outputs
  have there : utxo ∈ utxos := by
    rw [← outputs]
    simp
  have amount := Int64.le_iff_toInt_le.mp (countable.nonneg utxo there)
  have total : worth utxos (taken.length + 1) =
      utxo.amount.toInt + Amount.total (taken.map Utxo.amount) := by
    have front : utxos.take (taken.length + 1) = (utxo :: taken).reverse := by
      rw [← outputs]
      exact List.take_left' (by simp)
    rw [worth, front, List.map_reverse, Amount.total_reverse, List.map_cons, Amount.total]
  have below := countable.worth_le_max (taken.length + 1)
  have carry := balanced.carry
  rw [Int64.toInt_zero] at amount
  dsimp only at carry
  obtain ⟨sum, added⟩ := Amount.exists_add? amount (by rw [carry]; omega)
  refine ⟨sum, added, outputs, ?_⟩
  rw [Amount.toInt_of_add? added, carry, List.map_cons, Amount.total]
  omega

/-- Taking outputs finds the least number of them that passes a test, from those already taken on,
or tells that none does. -/
theorem pullUntil_cases (enough : Int64 → Nat → Bool) (test : Nat → Prop)
    (countable : Countable utxos) (nonneg : 0 ≤ Amount.total paid)
    (agrees : ∀ pool, Balanced utxos paid pool →
      (enough pool.carry pool.taken.length = true ↔ test pool.taken.length))
    (balanced : Balanced utxos paid pool) :
    (∃ pool', pool.pullUntil enough = .ok (some pool') ∧ Balanced utxos paid pool' ∧
        pool.taken.length ≤ pool'.taken.length ∧ test pool'.taken.length ∧
        ∀ j, pool.taken.length ≤ j → j < pool'.taken.length → ¬ test j) ∨
      (pool.pullUntil enough = .ok none ∧
        ∀ j, pool.taken.length ≤ j → j ≤ utxos.length → ¬ test j) := by
  obtain ⟨left, taken, carry⟩ := pool
  simp only [pullUntil]
  induction left generalizing taken carry with
  | nil =>
    have passes := agrees _ balanced
    have length := congrArg List.length balanced.outputs
    simp only [List.append_nil, List.length_reverse] at length
    rw [pullFrom]
    split
    · rename_i done
      exact .inl ⟨_, rfl, balanced, Nat.le_refl _, passes.mp done,
        fun _ low high => absurd high (Nat.not_lt.mpr low)⟩
    · rename_i more
      refine .inr ⟨rfl, fun j low high tested => more (passes.mpr ?_)⟩
      obtain rfl : j = taken.length := by omega
      exact tested
  | cons utxo left ih =>
    have passes := agrees _ balanced
    rw [pullFrom]
    split
    · rename_i done
      exact .inl ⟨_, rfl, balanced, Nat.le_refl _, passes.mp done,
        fun _ low high => absurd high (Nat.not_lt.mpr low)⟩
    · rename_i more
      obtain ⟨sum, added, next⟩ := balanced.exists_add? countable nonneg
      simp only [added]
      -- A number that passes is not the one of those already taken.
      have later (j : Nat) (low : taken.length ≤ j) (tested : test j) :
          (utxo :: taken).length ≤ j := by
        rw [List.length_cons]
        refine Nat.lt_of_le_of_ne low ?_
        rintro rfl
        exact more (passes.mpr tested)
      rcases ih _ _ next with ⟨pool, pulled, last, low, tested, least⟩ | ⟨pulled, none⟩
      · refine .inl ⟨pool, pulled, last, Nat.le_of_succ_le low, tested, ?_⟩
        exact fun j low high tested => least j (later j low tested) high tested
      · exact .inr ⟨pulled, fun j low high tested => none j (later j low tested) high tested⟩

/-! ### Paying -/

/-- A pool that has taken the fewest outputs which exceed what was paid. -/
structure Tight (utxos : List Utxo) (paid : List Int64) (pool : Pool) : Prop where
  balanced : Balanced utxos paid pool
  least : ∀ j < pool.taken.length, worth utxos j ≤ Amount.total paid
  exceeds : paid ≠ [] → Amount.total paid < worth utxos pool.taken.length

theorem tight_start (utxos : List Utxo) : Tight utxos [] (start utxos) :=
  ⟨balanced_start utxos, fun _ below => absurd below (Nat.not_lt_zero _),
    fun some => absurd rfl some⟩

/-- After one payment more, a pool has taken the fewest outputs which exceed all of them. -/
theorem Tight.pay_one (countable : Countable utxos) {amount : Int64} (tight : Tight utxos paid pool)
    (nonneg : 0 ≤ Amount.total paid) (positive : 0 < amount) :
    (∃ pulled, pool.pullUntil (fun carry _ => decide (amount < carry)) = .ok (some pulled) ∧
        Tight utxos (paid ++ [amount]) { pulled with carry := pulled.carry - amount }) ∨
      (pool.pullUntil (fun carry _ => decide (amount < carry)) = .ok none ∧
        ∀ j ≤ utxos.length, worth utxos j ≤ Amount.total (paid ++ [amount])) := by
  have total : Amount.total (paid ++ [amount]) = Amount.total paid + amount.toInt := by
    simp [Amount.total_append, Amount.total]
  have positive := Int64.lt_iff_toInt_lt.mp positive
  rw [Int64.toInt_zero] at positive
  -- Fewer outputs than are taken did not even exceed what was paid before.
  have before (j : Nat) (low : j < pool.taken.length) :
      worth utxos j ≤ Amount.total (paid ++ [amount]) := by
    have := tight.least j low
    omega
  have agrees (pool : Pool) (balanced : Balanced utxos paid pool) :
      decide (amount < pool.carry) = true ↔
        Amount.total (paid ++ [amount]) < worth utxos pool.taken.length := by
    have carry := balanced.carry_eq
    rw [decide_eq_true_iff, Int64.lt_iff_toInt_lt]
    omega
  rcases pullUntil_cases (fun carry _ => decide (amount < carry))
    (fun j => Amount.total (paid ++ [amount]) < worth utxos j) countable nonneg agrees
    tight.balanced with ⟨pulled, done, balanced, -, exceeds, least⟩ | ⟨done, none⟩
  · have carry := balanced.carry_eq
    refine .inl ⟨pulled, done, balanced.pay_one (by omega) (by omega), fun j high => ?_,
      fun _ => exceeds⟩
    by_cases low : j < pool.taken.length
    · exact before j low
    · exact Int.not_lt.mp (least j (Nat.not_lt.mp low) high)
  · refine .inr ⟨done, fun j high => ?_⟩
    by_cases low : j < pool.taken.length
    · exact before j low
    · exact Int.not_lt.mp (none j (Nat.not_lt.mp low) high)

/-- Payments end with the fewest outputs that exceed them all, or find that all outputs together do
not. -/
theorem Tight.pay_cases (countable : Countable utxos) (tight : Tight utxos paid pool)
    (nonneg : 0 ≤ Amount.total paid) (positive : ∀ a ∈ amounts, 0 < a) :
    (∃ pool', pool.pay amounts = .ok (some pool') ∧ Tight utxos (paid ++ amounts) pool') ∨
      (pool.pay amounts = .ok none ∧
        ∀ j ≤ utxos.length, worth utxos j ≤ Amount.total (paid ++ amounts)) := by
  induction amounts generalizing pool paid with
  | nil => exact .inl ⟨pool, rfl, by rwa [List.append_nil]⟩
  | cons amount amounts ih =>
    obtain ⟨pos, positive⟩ := List.forall_mem_cons.mp positive
    have later : 0 ≤ Amount.total amounts :=
      Amount.total_nonneg fun a mem => Int64.le_of_lt (positive a mem)
    have grown : Amount.total (paid ++ [amount]) = Amount.total paid + amount.toInt := by
      simp [Amount.total_append, Amount.total]
    have above := Int64.lt_iff_toInt_lt.mp pos
    rw [Int64.toInt_zero] at above
    rw [List.append_cons, pay]
    rcases tight.pay_one countable nonneg pos with ⟨pulled, done, next⟩ | ⟨done, none⟩
    · rw [done]
      exact ih next (by omega) positive
    · rw [done]
      refine .inr ⟨rfl, fun j high => ?_⟩
      have := none j high
      rw [Amount.total_append]
      omega

end Pool

/-! ### Selections -/

variable {payments : List Payment} {changeAddress : String} {feePerKb : Int64}

/-- The first `k` outputs exceed the payments, and by enough for the fee of a transaction that
spends them, makes the payments and returns change. -/
structure Suffices (utxos : List Utxo) (payments : List Payment) (feePerKb : Int64) (k : Nat) :
    Prop where
  within : k ≤ utxos.length
  exceeds : Amount.total (payments.map Payment.amount) < worth utxos k
  covers : (estimateFee k (payments.length + 1) feePerKb).toInt ≤
    worth utxos k - Amount.total (payments.map Payment.amount)

/-- A selection of the first `k` outputs for the payments, with what they leave beyond the fee as
change. -/
structure Selection.SpendsPrefix (utxos : List Utxo) (payments : List Payment)
    (changeAddress : String) (feePerKb : Int64) (k : Nat) (selection : Selection) : Prop where
  selected : selection.selected = utxos.take k
  pays : selection.payments = payments
  fee : selection.fee = estimateFee k (payments.length + 1) feePerKb
  change : selection.change.map (fun change => (change.address, change.amount.toInt)) =
    let rest := worth utxos k - Amount.total (payments.map Payment.amount) -
      (estimateFee k (payments.length + 1) feePerKb).toInt
    if 0 < rest then some (changeAddress, rest) else none

/-- What a pool that covers a fee gives spends the outputs that it took. -/
theorem Pool.Balanced.spendsPrefix_settle {pool : Pool}
    (balanced : pool.Balanced utxos (payments.map Payment.amount)) (positive : 0 < feePerKb)
    (covered : (estimateFee pool.taken.length (payments.length + 1) feePerKb).toInt ≤
      pool.carry.toInt) :
    (pool.settle payments changeAddress
      (estimateFee pool.taken.length (payments.length + 1) feePerKb)).SpendsPrefix utxos payments
        changeAddress feePerKb pool.taken.length := by
  have nonneg := estimateFee_nonneg positive pool.taken.length (payments.length + 1)
  refine ⟨?_, Pool.payments_settle, Pool.fee_settle covered, ?_⟩
  · rw [Pool.selected_settle, balanced.take_eq]
  · generalize estimateFee pool.taken.length (payments.length + 1) feePerKb = fee at *
    have difference := Amount.toInt_sub_of_le nonneg covered
    rw [← balanced.carry_eq, Pool.settle]
    split
    · rename_i more
      have more := Int64.lt_iff_toInt_lt.mp more
      have left : 0 < pool.carry.toInt - fee.toInt := by omega
      simp only [Option.map_some, difference, left, if_true]
    · rename_i less
      have less := mt Int64.lt_iff_toInt_lt.mpr less
      have none : ¬ 0 < pool.carry.toInt - fee.toInt := by omega
      simp only [Option.map_none, none, if_false]

/-- A selection is made in two searches: payments are made in turn, and then a fee is covered. -/
theorem selectUtxos_eq (asked : payments ≠ []) (checked : checkPayments payments = .ok ())
    (returnable : ∃ script, Script.lockingScript changeAddress = .ok script) :
    selectUtxos utxos payments changeAddress feePerKb = do
      match ← (Pool.start utxos).pay (payments.map Payment.amount) with
      | none => return none
      | some paid =>
        match ← paid.pullUntil fun carry count =>
            decide (estimateFee count (payments.length + 1) feePerKb ≤ carry) with
        | none => return none
        | some pool => return some (pool.settle payments changeAddress
            (estimateFee pool.taken.length (payments.length + 1) feePerKb)) := by
  obtain ⟨script, returnable⟩ := returnable
  have nonempty : payments.isEmpty = false := by simpa using asked
  have settled (pool : Pool) (fee : Int64) :
      (if fee < pool.carry then
        return some ⟨pool.taken.reverse, payments,
          some ⟨changeAddress, pool.carry - fee⟩, fee⟩
      else return some ⟨pool.taken.reverse, payments, none, pool.carry⟩ :
        Except ChainError (Option Selection)) =
      return some (pool.settle payments changeAddress fee) := by
    rw [Pool.settle]
    split <;> rfl
  simp only [selectUtxos, nonempty, checked, returnable, Bool.false_eq_true, if_false, settled]
  rfl

/-- The search for the fee finds the least number of outputs that suffices, when the fewest were
taken that exceed the payments. -/
theorem Pool.Tight.fee_cases {paid : Pool} (feePerKb : Int64) (countable : Countable utxos)
    (tight : paid.Tight utxos (payments.map Payment.amount)) (asked : payments ≠ [])
    (nonneg : 0 ≤ Amount.total (payments.map Payment.amount)) :
    (∃ pool, paid.pullUntil (fun carry count =>
          decide (estimateFee count (payments.length + 1) feePerKb ≤ carry)) = .ok (some pool) ∧
        pool.Balanced utxos (payments.map Payment.amount) ∧
        IsLeast {k | Suffices utxos payments feePerKb k} pool.taken.length) ∨
      (paid.pullUntil (fun carry count =>
          decide (estimateFee count (payments.length + 1) feePerKb ≤ carry)) = .ok none ∧
        ∀ k, ¬ Suffices utxos payments feePerKb k) := by
  have exceeds := tight.exceeds (by simpa using asked)
  -- A number of outputs that suffices is none of those that do not exceed the payments.
  have later (k : Nat) (enough : Suffices utxos payments feePerKb k) : paid.taken.length ≤ k := by
    refine Nat.le_of_not_lt fun low => ?_
    exact absurd enough.exceeds (Int.not_lt.mpr (tight.least k low))
  have agrees (pool : Pool) (balanced : pool.Balanced utxos (payments.map Payment.amount)) :
      decide (estimateFee pool.taken.length (payments.length + 1) feePerKb ≤ pool.carry) = true ↔
        (estimateFee pool.taken.length (payments.length + 1) feePerKb).toInt ≤
          worth utxos pool.taken.length - Amount.total (payments.map Payment.amount) := by
    rw [decide_eq_true_iff, Int64.le_iff_toInt_le, balanced.carry_eq]
  rcases Pool.pullUntil_cases
    (fun carry count => decide (estimateFee count (payments.length + 1) feePerKb ≤ carry))
    (fun k => (estimateFee k (payments.length + 1) feePerKb).toInt ≤
      worth utxos k - Amount.total (payments.map Payment.amount))
    countable nonneg agrees tight.balanced with
    ⟨pool, pulled, balanced, more, covers, least⟩ | ⟨pulled, none⟩
  · refine .inl ⟨pool, pulled, balanced, ⟨balanced.within, ?_, covers⟩, fun k enough => ?_⟩
    · exact Int.lt_of_lt_of_le exceeds (countable.worth_mono more)
    · refine Nat.le_of_not_lt fun low => ?_
      exact least k (later k enough) low enough.covers
  · exact .inr ⟨pulled, fun k enough => none k (later k enough) enough.within enough.covers⟩

/-- The two searches together are one for the least number of outputs that suffices. -/
theorem selectUtxos_cases (countable : Countable utxos) (asked : payments ≠ [])
    (payable : ∀ payment ∈ payments, 0 < payment.amount ∧
      ∃ script, Script.lockingScript payment.address = .ok script)
    (returnable : ∃ script, Script.lockingScript changeAddress = .ok script)
    (positive : 0 < feePerKb) :
    (∃ k selection, IsLeast {n | Suffices utxos payments feePerKb n} k ∧
        selectUtxos utxos payments changeAddress feePerKb = .ok (some selection) ∧
        selection.SpendsPrefix utxos payments changeAddress feePerKb k) ∨
      ((∀ k, ¬ Suffices utxos payments feePerKb k) ∧
        selectUtxos utxos payments changeAddress feePerKb = .ok none) := by
  have checked := checkPayments_eq_ok_iff.mpr payable
  have positives : ∀ amount ∈ payments.map Payment.amount, 0 < amount := by
    intro amount mem
    obtain ⟨payment, there, rfl⟩ := List.mem_map.mp mem
    exact (payable payment there).1
  have nonneg : 0 ≤ Amount.total (payments.map Payment.amount) :=
    Amount.total_nonneg fun amount mem => Int64.le_of_lt (positives amount mem)
  rw [selectUtxos_eq asked checked returnable]
  rcases (Pool.tight_start utxos).pay_cases countable (Int.le_refl 0) positives with
    ⟨paid, payed, tight⟩ | ⟨short, none⟩
  · rw [payed]
    rcases tight.fee_cases feePerKb countable asked nonneg with
      ⟨pool, pulled, balanced, least⟩ | ⟨pulled, none⟩
    · have covered := least.1.covers
      rw [← balanced.carry_eq] at covered
      refine .inl ⟨_, _, least, ?_, balanced.spendsPrefix_settle positive covered⟩
      exact Result.bind_eq_ok_iff.mpr ⟨_, rfl, Result.bind_eq_ok_iff.mpr ⟨_, pulled, rfl⟩⟩
    · refine .inr ⟨none, ?_⟩
      exact Result.bind_eq_ok_iff.mpr ⟨_, rfl, Result.bind_eq_ok_iff.mpr ⟨_, pulled, rfl⟩⟩
  · rw [short]
    refine .inr ⟨fun k enough => ?_, rfl⟩
    exact absurd enough.exceeds (Int.not_lt.mpr (none k enough.within))

/-- Selection spends the shortest prefix of the outputs that suffices, and refuses exactly when none
does. -/
theorem selectUtxos_spends_least_prefix (utxos : List Utxo) (payments : List Payment)
    (changeAddress : String) (feePerKb : Int64) (countable : Countable utxos)
    (asked : payments ≠ [])
    (payable : ∀ payment ∈ payments, 0 < payment.amount ∧
      ∃ script, Script.lockingScript payment.address = .ok script)
    (returnable : ∃ script, Script.lockingScript changeAddress = .ok script)
    (positive : 0 < feePerKb) :
    (∀ k, IsLeast {n | Suffices utxos payments feePerKb n} k →
        ∃ selection, selectUtxos utxos payments changeAddress feePerKb = .ok (some selection) ∧
          selection.SpendsPrefix utxos payments changeAddress feePerKb k) ∧
      (selectUtxos utxos payments changeAddress feePerKb = .ok none ↔
        ∀ k, ¬ Suffices utxos payments feePerKb k) := by
  rcases selectUtxos_cases countable asked payable returnable positive with
    ⟨least, selection, isLeast, selects, spends⟩ | ⟨none, refuses⟩
  · constructor
    · intro k also
      obtain rfl := also.unique isLeast
      exact ⟨selection, selects, spends⟩
    · refine iff_of_false (fun refuses => ?_) fun none => none least isLeast.1
      rw [selects] at refuses
      cases refuses
  · exact ⟨fun k isLeast => absurd isLeast.1 (none k), iff_of_true refuses none⟩

/-- An output of exactly the amount to be paid is not enough, so a second one is spent. -/
theorem exact_amount_takes_another_output :
    let utxos := [sampleUtxo 1 1000, sampleUtxo 2 50000, sampleUtxo 3 50000]
    let payments : List Payment := [⟨samplePayee, 1000⟩]
    IsLeast {n | Suffices utxos payments 1000 n} 2 ∧
      ∃ selection, selectUtxos utxos payments samplePayee 1000 = .ok (some selection) ∧
        selection.SpendsPrefix utxos payments samplePayee 1000 2 := by
  intro utxos payments
  have locks : ∃ script, Script.lockingScript samplePayee = .ok script :=
    ⟨Script.payToKeyHash samplePayeeHash, by decide +kernel⟩
  have least : IsLeast {n | Suffices utxos payments 1000 n} 2 := by
    refine ⟨⟨by decide, by decide +kernel, by decide +kernel⟩, fun n enough => ?_⟩
    match n, enough.exceeds with
    | 0, exceeds => exact absurd exceeds (by decide +kernel)
    | 1, exceeds => exact absurd exceeds (by decide +kernel)
    | n + 2, _ => exact Nat.le_add_left 2 n
  have countable : Countable utxos := ⟨by decide +kernel, by decide +kernel⟩
  obtain ⟨selects, -⟩ := selectUtxos_spends_least_prefix utxos payments samplePayee 1000 countable
    (by decide) (List.forall_mem_singleton.mpr ⟨by decide, locks⟩) locks (by decide)
  exact ⟨least, selects 2 least⟩

end Cosigner
