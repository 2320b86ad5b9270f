import Cosigner.Coin.Selection
import Cosigner.Proofs.Coin.Amount
import Cosigner.Proofs.Result
/-!
Selection neither creates nor loses value.

Two loops share a carry: one takes outputs for each payment in turn, the other takes outputs for
the fee. The carry is always what has been taken less what has been paid, over the integers and not
only modulo the word size (`Pool.Balanced`), because a payment is only made from a carry that
exceeds it. What a selection spends, pays and leaves as its fee therefore balances exactly
(`selectUtxos_balances`).
-/

namespace Cosigner

namespace Pool

/-- What was taken is what the outputs begin with, and the carry is exactly what was taken less what
was paid. -/
structure Balanced (utxos : List Utxo) (paid : List Int64) (pool : Pool) : Prop where
  outputs : pool.taken.reverse ++ pool.left = utxos
  carry : pool.carry.toInt = Amount.total (pool.taken.map Utxo.amount) - Amount.total paid

variable {utxos left taken : List Utxo} {paid amounts amounts' : List Int64} {carry : Int64}
  {pool pool' : Pool} {enough : Int64 → Nat → Bool}

theorem balanced_start (utxos : List Utxo) : Balanced utxos [] (start utxos) :=
  ⟨List.nil_append utxos, rfl⟩

/-! ### Taking outputs -/

/-- Taking outputs takes the first ones, adds their amounts to the carry without wrapping, and stops
where the test holds. -/
theorem exists_of_pullFrom (pulled : pullFrom enough left taken carry = .ok (some pool)) :
    ∃ more, more ++ pool.left = left ∧ pool.taken = more.reverse ++ taken ∧
      pool.carry.toInt = carry.toInt + Amount.total (more.map Utxo.amount) ∧
      enough pool.carry pool.taken.length = true := by
  induction left generalizing taken carry with
  | nil =>
    rw [pullFrom] at pulled
    split at pulled
    · rename_i done
      cases pulled
      exact ⟨[], rfl, rfl, (Int.add_zero _).symm, done⟩
    · cases pulled
  | cons utxo left ih =>
    rw [pullFrom] at pulled
    split at pulled
    · rename_i done
      cases pulled
      exact ⟨[], rfl, rfl, (Int.add_zero _).symm, done⟩
    · split at pulled
      · cases pulled
      · rename_i sum added
        obtain ⟨more, rfl, took, exact, done⟩ := ih pulled
        refine ⟨utxo :: more, rfl, ?_, ?_, done⟩
        · rw [took, List.reverse_cons, List.append_assoc, List.singleton_append]
        · rw [exact, Amount.toInt_of_add? added, List.map_cons, Amount.total]
          omega

/-- Outputs that were taken stay taken. -/
theorem suffix_of_pullFrom (pulled : pullFrom enough left taken carry = .ok (some pool)) :
    taken <:+ pool.taken := by
  obtain ⟨more, -, took, -, -⟩ := exists_of_pullFrom pulled
  exact ⟨more.reverse, took.symm⟩

theorem Balanced.pullFrom (balanced : Balanced utxos paid ⟨left, taken, carry⟩)
    (pulled : pullFrom enough left taken carry = .ok (some pool)) : Balanced utxos paid pool := by
  obtain ⟨more, rfl, took, exact, -⟩ := exists_of_pullFrom pulled
  constructor
  · rw [took, List.reverse_append, List.reverse_reverse, List.append_assoc]
    exact balanced.outputs
  · have before := balanced.carry
    rw [exact, took, List.map_append, List.map_reverse, Amount.total_append, Amount.total_reverse]
    dsimp only at before
    omega

/-! ### Paying -/

theorem pay_cons_eq_some_iff {amount : Int64} :
    pay (amount :: amounts) pool = .ok (some pool') ↔
      ∃ pulled, pool.pullUntil (fun carry _ => decide (amount < carry)) = .ok (some pulled) ∧
        pay amounts { pulled with carry := pulled.carry - amount } = .ok (some pool') := by
  rw [pay]
  constructor
  · intro h
    split at h
    · cases h
    · cases h
    · rename_i pulled done
      exact ⟨pulled, done, h⟩
  · rintro ⟨pulled, done, rest⟩
    rw [done]
    exact rest

/-- Two lists of payments are made one after the other. -/
theorem pay_append_eq_some_iff :
    pay (amounts ++ amounts') pool = .ok (some pool') ↔
      ∃ between, pay amounts pool = .ok (some between) ∧
        pay amounts' between = .ok (some pool') := by
  induction amounts generalizing pool with
  | nil => simp [pay]
  | cons amount amounts ih =>
    simp only [List.cons_append, pay_cons_eq_some_iff, ih]
    constructor
    · rintro ⟨pulled, done, between, first, second⟩
      exact ⟨between, ⟨pulled, done, first⟩, second⟩
    · rintro ⟨between, ⟨pulled, done, first⟩, second⟩
      exact ⟨pulled, done, between, first, second⟩

theorem suffix_of_pay (payed : pay amounts pool = .ok (some pool')) :
    pool.taken <:+ pool'.taken := by
  induction amounts generalizing pool with
  | nil =>
    cases payed
    exact List.suffix_refl _
  | cons amount amounts ih =>
    obtain ⟨pulled, done, rest⟩ := pay_cons_eq_some_iff.mp payed
    have later := ih rest
    exact (suffix_of_pullFrom done).trans later

/-- A payment keeps the balance: it is made from a carry that holds it, so the difference does not
wrap. -/
theorem Balanced.pay_one {amount : Int64} (balanced : Balanced utxos paid pool)
    (nonneg : 0 ≤ amount.toInt) (held : amount.toInt ≤ pool.carry.toInt) :
    Balanced utxos (paid ++ [amount]) { pool with carry := pool.carry - amount } := by
  refine ⟨balanced.outputs, ?_⟩
  have carry := balanced.carry
  have difference := Amount.toInt_sub_of_le nonneg held
  simp only [difference, carry, Amount.total_append, Amount.total]
  omega

/-- Payments keep the balance. -/
theorem Balanced.pay (balanced : Balanced utxos paid pool) (positive : ∀ a ∈ amounts, 0 < a)
    (payed : pay amounts pool = .ok (some pool')) : Balanced utxos (paid ++ amounts) pool' := by
  induction amounts generalizing pool paid with
  | nil =>
    cases payed
    rwa [List.append_nil]
  | cons amount amounts ih =>
    obtain ⟨pulled, done, rest⟩ := pay_cons_eq_some_iff.mp payed
    obtain ⟨pos, positive⟩ := List.forall_mem_cons.mp positive
    obtain ⟨-, -, -, -, stopped⟩ := exists_of_pullFrom done
    have enough := of_decide_eq_true stopped
    rw [Int64.lt_iff_toInt_lt] at pos enough
    have next := (balanced.pullFrom done).pay_one (Int.le_of_lt pos) (Int.le_of_lt enough)
    rw [List.append_cons]
    exact ih next positive rest

end Pool

/-! ### Selections -/

theorem estimateFee_nonneg {feePerKb : Int64} (positive : 0 < feePerKb) (inputs outputs : Nat) :
    0 ≤ (estimateFee inputs outputs feePerKb).toInt := by
  refine Amount.toInt_clamp_nonneg (Int.mul_nonneg (Int.natCast_nonneg _) ?_)
  exact Int.le_of_lt (Int64.lt_iff_toInt_lt.mp positive)

/-- Payments pass the check when each is positive and to an address with an output script. -/
theorem checkPayments_eq_ok_iff {payments : List Payment} :
    checkPayments payments = .ok () ↔ ∀ payment ∈ payments, 0 < payment.amount ∧
      ∃ script, Script.lockingScript payment.address = .ok script := by
  induction payments with
  | nil => simp [checkPayments]
  | cons payment payments ih =>
    rw [checkPayments, List.forall_mem_cons, ← ih, ← Int64.not_le]
    split
    · rename_i low
      simp [low]
    · rename_i positive
      cases locked : Script.lockingScript payment.address with
      | error e => simp
      | ok script => simp [positive]

/-- Payments that pass the check are positive. -/
theorem positive_of_checkPayments {payments : List Payment}
    (checked : checkPayments payments = .ok ()) : ∀ payment ∈ payments, 0 < payment.amount :=
  fun payment there => (checkPayments_eq_ok_iff.mp checked payment there).1

/-- The selection that a pool gives once it covers a fee. -/
def Pool.settle (pool : Pool) (payments : List Payment) (changeAddress : String) (fee : Int64) :
    Selection :=
  if fee < pool.carry then
    ⟨pool.taken.reverse, payments, some ⟨changeAddress, pool.carry - fee⟩, fee⟩
  else ⟨pool.taken.reverse, payments, none, pool.carry⟩

section Settle

variable {pool : Pool} {payments : List Payment} {changeAddress : String} {fee : Int64}

theorem Pool.selected_settle :
    (pool.settle payments changeAddress fee).selected = pool.taken.reverse := by
  rw [settle]
  split <;> rfl

theorem Pool.payments_settle :
    (pool.settle payments changeAddress fee).payments = payments := by
  rw [settle]
  split <;> rfl

/-- Change goes to the change address, and there is none of zero. -/
theorem Pool.change_settle (nonneg : 0 ≤ fee.toInt) (covered : fee.toInt ≤ pool.carry.toInt) :
    ∀ change ∈ (pool.settle payments changeAddress fee).change,
      change.address = changeAddress ∧ 0 < change.amount := by
  rw [settle]
  split
  · rename_i more
    have above := Int64.lt_iff_toInt_lt.mp more
    have exact := Amount.toInt_sub_of_le nonneg covered
    rintro _ ⟨⟩
    refine ⟨rfl, Int64.lt_iff_toInt_lt.mpr ?_⟩
    rw [exact, Int64.toInt_zero]
    omega
  · simp

/-- The fee is met to the satoshi, with change or without. -/
theorem Pool.fee_settle (covered : fee.toInt ≤ pool.carry.toInt) :
    (pool.settle payments changeAddress fee).fee = fee := by
  rw [settle]
  split
  · rfl
  · rename_i exact
    have below := mt Int64.lt_iff_toInt_lt.mpr exact
    refine Int64.toInt_inj.mp ?_
    dsimp only
    omega

/-- What is spent is what is paid, returned and left as the fee. -/
theorem Pool.Balanced.settle {utxos : List Utxo}
    (balanced : pool.Balanced utxos (payments.map Payment.amount)) (nonneg : 0 ≤ fee.toInt)
    (covered : fee.toInt ≤ pool.carry.toInt) :
    Amount.total ((pool.settle payments changeAddress fee).selected.map Utxo.amount) -
        Amount.total ((payments ++
          (pool.settle payments changeAddress fee).change.toList).map Payment.amount) =
      (pool.settle payments changeAddress fee).fee.toInt := by
  have taken : Amount.total (pool.taken.reverse.map Utxo.amount) =
      pool.carry.toInt + Amount.total (payments.map Payment.amount) := by
    rw [List.map_reverse, Amount.total_reverse, balanced.carry]
    omega
  rw [selected_settle, taken, Pool.settle]
  split
  · have exact := Amount.toInt_sub_of_le nonneg covered
    simp only [Option.toList_some, List.map_append, Amount.total_append, List.map_cons,
      List.map_nil, Amount.total, exact]
    omega
  · simp only [Option.toList_none, List.append_nil]
    omega

end Settle

/-- A selection comes from a pool that made the payments and then covers the fee. -/
theorem exists_pools_of_selectUtxos {utxos : List Utxo} {payments : List Payment}
    {changeAddress : String} {feePerKb : Int64} {selection : Selection}
    (selects : selectUtxos utxos payments changeAddress feePerKb = .ok (some selection)) :
    checkPayments payments = .ok () ∧ ∃ paid pool,
      (Pool.start utxos).pay (payments.map Payment.amount) = .ok (some paid) ∧
      paid.pullUntil (fun carry count =>
        decide (estimateFee count (payments.length + 1) feePerKb ≤ carry)) = .ok (some pool) ∧
      selection = pool.settle payments changeAddress
        (estimateFee pool.taken.length (payments.length + 1) feePerKb) := by
  rw [selectUtxos] at selects
  split at selects
  · cases selects
  · obtain ⟨_, checked, selects⟩ := Result.bind_eq_ok_iff.mp selects
    obtain ⟨_, -, selects⟩ := Result.bind_eq_ok_iff.mp selects
    obtain ⟨_, payed, selects⟩ := Result.bind_eq_ok_iff.mp selects
    split at selects
    · cases selects
    · rename_i paid
      obtain ⟨_, pulled, selects⟩ := Result.bind_eq_ok_iff.mp selects
      split at selects
      · cases selects
      · rename_i pool
        refine ⟨checked, paid, pool, payed, pulled, ?_⟩
        rw [Pool.settle]
        dsimp only at selects
        split at selects
        · rename_i more
          cases selects
          rw [if_pos more]
        · rename_i exact
          cases selects
          rw [if_neg exact]

/-- A selection that spends, in order, what the outputs begin with, makes the payments, and leaves
exactly the fee for its own shape; with every carry on the way exact. -/
structure Selection.Balances (utxos : List Utxo) (payments : List Payment)
    (changeAddress : String) (feePerKb : Int64) (selection : Selection) : Prop where
  spends : selection.selected <+: utxos
  pays : selection.payments = payments
  change : ∀ change ∈ selection.change, change.address = changeAddress ∧ 0 < change.amount
  fee : selection.fee = estimateFee selection.selected.length (payments.length + 1) feePerKb
  balance : Amount.total (selection.selected.map Utxo.amount) -
    Amount.total ((payments ++ selection.change.toList).map Payment.amount) = selection.fee.toInt
  /-- After each of the payments. -/
  carries : ∀ made rest, payments = made ++ rest → ∃ pool,
    (Pool.start utxos).pay (made.map Payment.amount) = .ok (some pool) ∧
    pool.Balanced utxos (made.map Payment.amount) ∧ pool.taken.reverse <+: selection.selected

/-- After some of the payments, a pool is balanced and has taken no more than at the end. -/
theorem Pool.exists_earlier_of_pay {utxos : List Utxo} {amounts amounts' : List Int64} {paid : Pool}
    (positive : ∀ amount ∈ amounts, 0 < amount)
    (payed : (Pool.start utxos).pay (amounts ++ amounts') = .ok (some paid)) :
    ∃ earlier, (Pool.start utxos).pay amounts = .ok (some earlier) ∧
      earlier.Balanced utxos amounts ∧ earlier.taken <:+ paid.taken := by
  obtain ⟨earlier, first, second⟩ := pay_append_eq_some_iff.mp payed
  exact ⟨earlier, first, (balanced_start utxos).pay positive first, suffix_of_pay second⟩

/-- Selection balances exactly. -/
theorem selectUtxos_balances {utxos : List Utxo} {payments : List Payment}
    {changeAddress : String} {feePerKb : Int64} {selection : Selection} (positive : 0 < feePerKb)
    (selects : selectUtxos utxos payments changeAddress feePerKb = .ok (some selection)) :
    selection.Balances utxos payments changeAddress feePerKb := by
  obtain ⟨checked, paid, pool, payed, pulled, rfl⟩ := exists_pools_of_selectUtxos selects
  have positives : ∀ amount ∈ payments.map Payment.amount, 0 < amount := by
    intro amount mem
    obtain ⟨payment, there, rfl⟩ := List.mem_map.mp mem
    exact positive_of_checkPayments checked payment there
  have balanced := ((Pool.balanced_start utxos).pay positives payed).pullFrom pulled
  obtain ⟨-, -, -, -, stopped⟩ := Pool.exists_of_pullFrom pulled
  have covered := Int64.le_iff_toInt_le.mp (of_decide_eq_true stopped)
  have nonneg := estimateFee_nonneg positive pool.taken.length (payments.length + 1)
  refine ⟨?_, Pool.payments_settle, Pool.change_settle nonneg covered, ?_,
    balanced.settle nonneg covered, ?_⟩
  · rw [Pool.selected_settle]
    exact ⟨pool.left, balanced.outputs⟩
  · rw [Pool.fee_settle covered, Pool.selected_settle, List.length_reverse]
  · rintro made rest rfl
    rw [List.map_append] at payed
    obtain ⟨earlier, first, before, suffix⟩ := Pool.exists_earlier_of_pay
      (fun amount mem => positives amount (by simp [mem])) payed
    rw [Pool.selected_settle]
    exact ⟨earlier, first, before,
      List.reverse_prefix.mpr (suffix.trans (Pool.suffix_of_pullFrom pulled))⟩

/-! ### A sample -/

/-- An output of the transaction whose hash is this number. -/
def sampleUtxo (hash : Nat) (amount : Int64) : Utxo :=
  ⟨Txid.ofHash (.ofNatBE 32 hash), 0, amount, "", none, "", 6⟩

def samplePayee : String := "1A1zP1eP5QGefi2DMPTfTL5SLmv7DivfNa"

/-- The key hash that the address names. -/
def samplePayeeHash : Hash160 := .ofNatBE 20 0x62e907b15cbf27d5425399ebf6f0fb50ebb88f18

end Cosigner
