import SolanaLab.Exchange.Balances
import SolanaLab.Library.Run

/-!
# Balance Operations Near the Top

What the four operations on a balance sheet promise, and when they keep it. An
operation that succeeds changes one balance by its amount, and a reservation
that succeeds can be released again. An operation that fails should change
nothing.

`reserve` and `release` each lower one of two amounts and then raise the
other, and both steps are checked. The first check cannot fail once the amount
is there. When the second fails the first has been made, and the amount is
gone from one side without arriving on the other. `Fits` says that this does
not happen, and `meets_iff` that nothing else goes wrong.

A balance whose two amounts together stay below `2 ^ 64` is safe, since what is
moved inside it fits wherever it is moved. Only a credit raises the sum, so
`run_meets` needs a condition on credits only.

The methods on a balance come first, each with a lemma that lists its outcomes.
The methods on a sheet only look the balance up and write it back, so their
promises follow from these lemmas and `balance_onSheet`.

## Main definitions

* `Balance.total`: The two amounts together.
* `BalanceOperation`: The four operations, on a balance and on a sheet.
* `BalanceOperation.Moves`: What an operation does to the total.
* `BalanceOperation.Meets`: What an operation promises.
* `BalanceOperation.Fits`: What is moved has room where it goes.
* `BalanceCall.step`: An operation called on a sheet.

## Theorems

* `reserve_cases`, `release_cases`: The three outcomes of a move.
* `onBalance_error_iff`: A failed operation changes nothing exactly when what it
  moves fits.
* `release_reserve`: Releasing takes a reservation back.
* `run_meets`: Which runs keep every promise.
* `meets_iff`: When an operation keeps what it promises.
-/

namespace SolanaLab

namespace Exchange

open Checked

namespace BalanceAmount

/-- A sum that fits is the sum. -/
theorem checkedAdd_of_lt {a b : BalanceAmount} (h : a.val + b.val < 2 ^ 64) :
    checkedAdd a b = .ok ⟨a.val + b.val, h⟩ :=
  checkedAdd_eq_ok.mpr rfl

/-- A sum that does not fit is an overflow. -/
theorem checkedAdd_of_le {a b : BalanceAmount} (h : 2 ^ 64 ≤ a.val + b.val) :
    checkedAdd a b = .error .arithmeticOverflow := by
  rw [checkedAdd, okOr_eq_error, checkedAdd_eq_none]
  exact ⟨h, rfl⟩

/-- A difference is there when the amount is. -/
theorem checkedSub_of_le {a b : BalanceAmount} (h : b.val ≤ a.val) :
    checkedSub a b = .ok ⟨a.val - b.val, Nat.lt_of_le_of_lt (Nat.sub_le _ _) a.isLt⟩ :=
  checkedSub_eq_ok.mpr (Nat.sub_add_cancel h)

end BalanceAmount

namespace Balance

/-- The two amounts together. -/
def total (b : Balance) : Nat := b.available.val + b.reserved.val

/-- The outcomes of a reservation: the amount is not available, it does not fit
    where it is moved, or it is moved. -/
theorem reserve_cases (b : Balance) (amount : BalanceAmount) :
    (b.available.val < amount.val ∧
      b.reserve amount = (.error .insufficientAvailableBalance, b)) ∨
    (amount.val ≤ b.available.val ∧ 2 ^ 64 ≤ b.reserved.val + amount.val ∧
      ∃ b', b.reserve amount = (.error .arithmeticOverflow, b') ∧
        b'.available.val + amount.val = b.available.val ∧ b'.reserved = b.reserved) ∨
    ∃ b', b.reserve amount = (.ok (), b') ∧
      b'.available.val + amount.val = b.available.val ∧
      b'.reserved.val = b.reserved.val + amount.val := by
  by_cases hlt : b.available < amount
  · refine Or.inl ⟨hlt, ?_⟩
    rw [reserve, if_pos hlt]
  · have hle : amount.val ≤ b.available.val := not_lt.mp hlt
    rw [reserve, if_neg hlt]
    simp only [BalanceAmount.checkedSub_of_le hle]
    by_cases hfits : b.reserved.val + amount.val < 2 ^ 64
    · rw [BalanceAmount.checkedAdd_of_lt hfits]
      exact Or.inr (Or.inr ⟨_, rfl, Nat.sub_add_cancel hle, rfl⟩)
    · have hover := not_lt.mp hfits
      rw [BalanceAmount.checkedAdd_of_le hover]
      exact Or.inr (Or.inl ⟨hle, hover, _, rfl, Nat.sub_add_cancel hle, rfl⟩)

/-- The outcomes of a release, the mirror image of a reservation. -/
theorem release_cases (b : Balance) (amount : BalanceAmount) :
    (b.reserved.val < amount.val ∧
      b.release amount = (.error .insufficientReservedBalance, b)) ∨
    (amount.val ≤ b.reserved.val ∧ 2 ^ 64 ≤ b.available.val + amount.val ∧
      ∃ b', b.release amount = (.error .arithmeticOverflow, b') ∧
        b'.reserved.val + amount.val = b.reserved.val ∧ b'.available = b.available) ∨
    ∃ b', b.release amount = (.ok (), b') ∧
      b'.reserved.val + amount.val = b.reserved.val ∧
      b'.available.val = b.available.val + amount.val := by
  by_cases hlt : b.reserved < amount
  · refine Or.inl ⟨hlt, ?_⟩
    rw [release, if_pos hlt]
  · have hle : amount.val ≤ b.reserved.val := not_lt.mp hlt
    rw [release, if_neg hlt]
    simp only [BalanceAmount.checkedSub_of_le hle]
    by_cases hfits : b.available.val + amount.val < 2 ^ 64
    · rw [BalanceAmount.checkedAdd_of_lt hfits]
      exact Or.inr (Or.inr ⟨_, rfl, Nat.sub_add_cancel hle, rfl⟩)
    · have hover := not_lt.mp hfits
      rw [BalanceAmount.checkedAdd_of_le hover]
      exact Or.inr (Or.inl ⟨hle, hover, _, rfl, Nat.sub_add_cancel hle, rfl⟩)

/-- The outcomes of a debit. -/
theorem debitReserved_cases (b : Balance) (amount : BalanceAmount) :
    (b.reserved.val < amount.val ∧
      b.debitReserved amount = (.error .insufficientReservedBalance, b)) ∨
    ∃ b', b.debitReserved amount = (.ok (), b') ∧
      b'.reserved.val + amount.val = b.reserved.val ∧ b'.available = b.available := by
  by_cases hlt : b.reserved < amount
  · refine Or.inl ⟨hlt, ?_⟩
    rw [debitReserved, if_pos hlt]
  · have hle : amount.val ≤ b.reserved.val := not_lt.mp hlt
    rw [debitReserved, if_neg hlt]
    simp only [BalanceAmount.checkedSub_of_le hle]
    exact Or.inr ⟨_, rfl, Nat.sub_add_cancel hle, rfl⟩

/-- Releasing takes a reservation back. -/
theorem release_reserve {b b' : Balance} {amount : BalanceAmount}
    (h : b.reserve amount = (.ok (), b')) : b'.release amount = (.ok (), b) := by
  rcases reserve_eq_ok.mp h with ⟨havailable, hreserved⟩
  have hroom := b.available.isLt
  rcases b'.release_cases amount with ⟨hlt, -⟩ | ⟨-, hover, -⟩ | ⟨back, hback, hres, hav⟩
  · omega
  · omega
  · -- Both amounts are back at what they were.
    have hsame : back = b := by
      cases back
      cases b
      rw [Balance.mk.injEq]
      exact ⟨Fin.ext (by simp only at hav havailable; omega),
        Fin.ext (by simp only at hres hreserved; omega)⟩
    rw [hback, hsame]

end Balance

/-! ### What an operation promises -/

/-- The four operations. -/
inductive BalanceOperation where
  | creditAvailable
  | reserve
  | release
  | debitReserved
deriving DecidableEq

namespace BalanceOperation

/-- The operation on a balance. -/
def onBalance : BalanceOperation → Balance → BalanceAmount → Except Error Unit × Balance
  | creditAvailable, b, amount => b.creditAvailable amount
  | reserve, b, amount => b.reserve amount
  | release, b, amount => b.release amount
  | debitReserved, b, amount => b.debitReserved amount

/-- The operation on a sheet. -/
def onSheet (op : BalanceOperation) (sheet : BalanceSheet) (traderId : TraderId)
    (assetId : AssetId) (amount : BalanceAmount) : Except Error Unit × BalanceSheet :=
  match op with
  | creditAvailable => sheet.creditAvailable traderId assetId amount
  | reserve => sheet.reserve ⟨traderId, assetId, amount⟩
  | release => sheet.release ⟨traderId, assetId, amount⟩
  | debitReserved => sheet.debitReserved ⟨traderId, assetId, amount⟩

/-- What an operation that succeeds does to the total: a credit adds, a debit
    takes away, and the two others leave it. -/
def Moves (op : BalanceOperation) (b b' : Balance) (amount : BalanceAmount) : Prop :=
  match op with
  | creditAvailable => b'.total = b.total + amount.val
  | reserve => b'.total = b.total
  | release => b'.total = b.total
  | debitReserved => b'.total + amount.val = b.total

/-- What is moved from one amount to the other has room there. It is asked only
    when the amount is there to be moved, because otherwise the operation fails
    before it has changed anything. -/
def Fits (op : BalanceOperation) (b : Balance) (amount : BalanceAmount) : Prop :=
  match op with
  | reserve => amount.val ≤ b.available.val → b.reserved.val + amount.val < 2 ^ 64
  | release => amount.val ≤ b.reserved.val → b.available.val + amount.val < 2 ^ 64
  | _ => True

/-- What an operation on a sheet promises: a failure changes no balance, and a
    success changes one, by its amount. What was reserved can be released. -/
structure Meets (op : BalanceOperation) (sheet : BalanceSheet) (traderId : TraderId)
    (assetId : AssetId) (amount : BalanceAmount) : Prop where
  failed : ∀ e, (op.onSheet sheet traderId assetId amount).1 = .error e →
    ∀ t a, (op.onSheet sheet traderId assetId amount).2.balance t a = sheet.balance t a
  others : (op.onSheet sheet traderId assetId amount).1 = .ok () →
    ∀ t a, ¬ (t = traderId ∧ a = assetId) →
      (op.onSheet sheet traderId assetId amount).2.balance t a = sheet.balance t a
  moved : (op.onSheet sheet traderId assetId amount).1 = .ok () →
    op.Moves (sheet.balance traderId assetId)
      ((op.onSheet sheet traderId assetId amount).2.balance traderId assetId) amount
  undone : op = reserve → (op.onSheet sheet traderId assetId amount).1 = .ok () →
    ∃ back, (op.onSheet sheet traderId assetId amount).2.release ⟨traderId, assetId, amount⟩
        = (.ok (), back) ∧ ∀ t a, back.balance t a = sheet.balance t a

/-! ### On a balance -/

section OnBalance

variable (op : BalanceOperation) (b : Balance) (amount : BalanceAmount)

/-- An operation that succeeds moves its amount. -/
theorem onBalance_moves {b' : Balance} (h : op.onBalance b amount = (.ok (), b')) :
    op.Moves b b' amount := by
  cases op with
  | creditAvailable =>
      rcases Balance.creditAvailable_eq_ok.mp h with ⟨hav, hres⟩
      rw [Moves, Balance.total, Balance.total, hres]
      omega
  | reserve =>
      rcases Balance.reserve_eq_ok.mp h with ⟨hav, hres⟩
      rw [Moves, Balance.total, Balance.total]
      omega
  | release =>
      -- Of the three ways a release can end only the last answers `ok`.
      rcases b.release_cases amount with ⟨-, hrun⟩ | ⟨-, -, after, hrun, -, -⟩ |
        ⟨after, hrun, hres, hav⟩ <;> cases hrun.symm.trans h
      rw [Moves, Balance.total, Balance.total]
      omega
  | debitReserved =>
      rcases b.debitReserved_cases amount with ⟨-, hrun⟩ | ⟨after, hrun, hres, hav⟩ <;>
        cases hrun.symm.trans h
      rw [Moves, Balance.total, Balance.total, hav]
      omega

/-- A failed operation changes nothing exactly when what it moves fits. A
    reservation and a release fail in two ways. The first is refused before
    anything is written. The second comes after the first amount has been
    lowered, and since the second check fails only for an amount that is not
    zero, something is missing then. -/
theorem onBalance_error_iff :
    (∀ e b', op.onBalance b amount = (.error e, b') → b' = b) ↔ op.Fits b amount := by
  cases op with
  | creditAvailable =>
      refine iff_of_true (fun e b' h => ?_) trivial
      exact (Balance.creditAvailable_eq_error h).1
  | reserve =>
      rcases b.reserve_cases amount with ⟨hlt, hrun⟩ | ⟨hle, hover, after, hrun, hav, -⟩ |
        ⟨after, hrun, -, hres⟩
      · refine iff_of_true (fun e b' h => ?_) (fun hle => absurd hle (not_le.mpr hlt))
        cases hrun.symm.trans h
        rfl
      · -- The amount has left the available side, and it is not zero.
        refine iff_of_false (fun hsame => ?_) (fun hfits => absurd (hfits hle) (not_lt.mpr hover))
        rw [hsame .arithmeticOverflow after hrun] at hav
        have := b.reserved.isLt
        omega
      · refine iff_of_true (fun e b' h => ?_) (fun _ => ?_)
        · cases hrun.symm.trans h
        · exact hres ▸ after.reserved.isLt
  -- The mirror image, with the two amounts exchanged.
  | release =>
      rcases b.release_cases amount with ⟨hlt, hrun⟩ | ⟨hle, hover, after, hrun, hres, -⟩ |
        ⟨after, hrun, -, hav⟩
      · refine iff_of_true (fun e b' h => ?_) (fun hle => absurd hle (not_le.mpr hlt))
        cases hrun.symm.trans h
        rfl
      · refine iff_of_false (fun hsame => ?_) (fun hfits => absurd (hfits hle) (not_lt.mpr hover))
        rw [hsame .arithmeticOverflow after hrun] at hres
        have := b.available.isLt
        omega
      · refine iff_of_true (fun e b' h => ?_) (fun _ => ?_)
        · cases hrun.symm.trans h
        · exact hav ▸ after.available.isLt
  | debitReserved =>
      refine iff_of_true (fun e b' h => ?_) trivial
      rcases b.debitReserved_cases amount with ⟨-, hrun⟩ | ⟨after, hrun, -, -⟩ <;>
        cases hrun.symm.trans h
      rfl

/-- What is moved inside a balance whose amounts stay below the top together
    fits. -/
theorem fits_of_total_lt (h : b.total < 2 ^ 64) : op.Fits b amount := by
  rw [Balance.total] at h
  cases op with
  | creditAvailable => trivial
  | reserve =>
      intro hle
      omega
  | release =>
      intro hle
      omega
  | debitReserved => trivial

end OnBalance

/-! ### On a sheet -/

section OnSheet

variable (op : BalanceOperation) (sheet : BalanceSheet) (traderId : TraderId) (assetId : AssetId)
  (amount : BalanceAmount)

/-- All four operations on a sheet are an update with the operation on the
    balance. -/
theorem onSheet_eq_update :
    op.onSheet sheet traderId assetId amount
      = sheet.update traderId assetId (fun b => op.onBalance b amount) := by
  cases op <;> rfl

/-- An operation on a sheet answers what the operation on the balance answers. -/
theorem onSheet_fst :
    (op.onSheet sheet traderId assetId amount).1
      = (op.onBalance (sheet.balance traderId assetId) amount).1 := by
  rw [onSheet_eq_update]
  rfl

/-- The balance an operation is about is what it makes of it, and the others
    are what they were. -/
theorem balance_onSheet (t : TraderId) (a : AssetId) :
    (op.onSheet sheet traderId assetId amount).2.balance t a
      = if t = traderId ∧ a = assetId then
          (op.onBalance (sheet.balance traderId assetId) amount).2
        else sheet.balance t a := by
  rw [onSheet_eq_update]
  exact sheet.balance_update traderId t assetId a _

/-- The balance an operation is about afterwards. -/
theorem balance_onSheet_self :
    (op.onSheet sheet traderId assetId amount).2.balance traderId assetId
      = (op.onBalance (sheet.balance traderId assetId) amount).2 := by
  rw [balance_onSheet, if_pos ⟨rfl, rfl⟩]

/-- Releasing on a sheet takes back a reservation made on it. -/
theorem release_reserve (h : (reserve.onSheet sheet traderId assetId amount).1 = .ok ()) :
    ∃ back, (reserve.onSheet sheet traderId assetId amount).2.release ⟨traderId, assetId, amount⟩
        = (.ok (), back) ∧ ∀ t a, back.balance t a = sheet.balance t a := by
  rw [onSheet_fst] at h
  have hback := Balance.release_reserve (Prod.ext h rfl :
    (sheet.balance traderId assetId).reserve amount = (.ok (), _))
  rcases hrelease : release.onSheet (reserve.onSheet sheet traderId assetId amount).2 traderId
    assetId amount with ⟨answer, back⟩
  have hanswer := release.onSheet_fst (reserve.onSheet sheet traderId assetId amount).2 traderId
    assetId amount
  have hbalance := release.balance_onSheet (reserve.onSheet sheet traderId assetId amount).2
    traderId assetId amount
  rw [hrelease, balance_onSheet_self] at hanswer hbalance
  simp only [onBalance, hback] at hanswer hbalance
  refine ⟨back, hrelease.trans (by rw [hanswer]), fun t a => ?_⟩
  rw [hbalance t a, balance_onSheet]
  by_cases hsame : t = traderId ∧ a = assetId
  · rw [if_pos hsame, hsame.1, hsame.2]
  · rw [if_neg hsame, if_neg hsame]

end OnSheet

end BalanceOperation

/-! ### Runs -/

/-- An operation called for a trader, an asset and an amount. -/
structure BalanceCall where
  operation : BalanceOperation
  traderId : TraderId
  assetId : AssetId
  amount : BalanceAmount
deriving DecidableEq

namespace BalanceCall

/-- The operation on a sheet. -/
def step (sheet : BalanceSheet) (call : BalanceCall) : Except Error Unit × BalanceSheet :=
  call.operation.onSheet sheet call.traderId call.assetId call.amount

/-- A credit leaves the two amounts of its balance below the top together. The
    other operations are not restricted. -/
def Bounded (sheet : BalanceSheet) (call : BalanceCall) : Prop :=
  call.operation = .creditAvailable →
    (sheet.balance call.traderId call.assetId).total + call.amount.val < 2 ^ 64

end BalanceCall

namespace BalanceOperation

/-- An operation on a balance that is not taken to the top leaves it below. -/
theorem total_onBalance_lt {op : BalanceOperation} {b : Balance} {amount : BalanceAmount}
    (h : b.total < 2 ^ 64) (hcredit : op = creditAvailable → b.total + amount.val < 2 ^ 64) :
    (op.onBalance b amount).2.total < 2 ^ 64 := by
  rcases hrun : op.onBalance b amount with ⟨e | ⟨⟩, b'⟩
  · rw [(op.onBalance_error_iff b amount).mpr (op.fits_of_total_lt b amount h) e b' hrun]
    exact h
  · have hmoves := op.onBalance_moves b amount hrun
    cases op <;> rw [Moves] at hmoves
    · exact hmoves ▸ hcredit rfl
    · exact hmoves ▸ h
    · exact hmoves ▸ h
    · simp only
      omega

/-- An operation keeps what it promises when what it moves fits. -/
theorem meets_of_fits {op : BalanceOperation} {sheet : BalanceSheet} {traderId : TraderId}
    {assetId : AssetId} {amount : BalanceAmount}
    (h : op.Fits (sheet.balance traderId assetId) amount) :
    op.Meets sheet traderId assetId amount := by
  refine ⟨fun e he t a => ?_, fun _ t a hne => ?_, fun hok => ?_, fun hop hok => ?_⟩
  · -- A failure leaves the balance as it was, hence the sheet.
    rw [onSheet_fst] at he
    have hsame := (op.onBalance_error_iff _ amount).mpr h e
      (op.onBalance (sheet.balance traderId assetId) amount).2 (Prod.ext he rfl)
    rw [balance_onSheet, hsame]
    by_cases hself : t = traderId ∧ a = assetId
    · rw [if_pos hself, hself.1, hself.2]
    · rw [if_neg hself]
  · rw [balance_onSheet, if_neg hne]
  · rw [onSheet_fst] at hok
    rw [balance_onSheet_self]
    exact op.onBalance_moves _ amount (Prod.ext hok rfl)
  · subst hop
    exact release_reserve sheet traderId assetId amount hok

end BalanceOperation

/-- A new sheet has nothing. -/
theorem total_new (t : TraderId) (a : AssetId) : (BalanceSheet.new.balance t a).total = 0 := rfl

/-- Over runs that take no balance to the top, every operation keeps what it
    promises. The induction carries that the two amounts of every balance stay
    below `2 ^ 64` together, which each operation keeps. -/
theorem run_meets {calls : List BalanceCall} {call : BalanceCall}
    (h : Run.Along BalanceCall.step BalanceCall.Bounded .new (calls ++ [call])) :
    call.operation.Meets (Run.after BalanceCall.step .new calls) call.traderId call.assetId
      call.amount := by
  rw [Run.along_snoc] at h
  -- Every balance stays below the largest word, call by call.
  have hbelow : ∀ t a, ((Run.after BalanceCall.step .new calls).balance t a).total < 2 ^ 64 := by
    refine Run.invariant_along (P := fun _ sheet => ∀ t a, (sheet.balance t a).total < 2 ^ 64)
      BalanceCall.step (fun t a => ?_) (fun past sheet call hbelow hbounded t a => ?_) h.1
    · rw [total_new]
      exact Nat.two_pow_pos 64
    · rw [BalanceCall.step, BalanceOperation.balance_onSheet]
      by_cases hself : t = call.traderId ∧ a = call.assetId
      · rw [if_pos hself]
        exact BalanceOperation.total_onBalance_lt (hbelow _ _) hbounded
      · rw [if_neg hself]
        exact hbelow t a
  exact BalanceOperation.meets_of_fits (BalanceOperation.fits_of_total_lt _ _ _ (hbelow _ _))

/-- When an operation keeps what it promises: a reservation of what is
    available when the reserved amount stays below `2 ^ 64`, a release of what
    is reserved when the available amount does, a credit and a debit always. -/
theorem meets_iff (op : BalanceOperation) (sheet : BalanceSheet) (traderId : TraderId)
    (assetId : AssetId) (amount : BalanceAmount) :
    op.Meets sheet traderId assetId amount ↔ op.Fits (sheet.balance traderId assetId) amount := by
  refine ⟨fun h => ?_, BalanceOperation.meets_of_fits⟩
  rw [← BalanceOperation.onBalance_error_iff]
  intro e b' hrun
  have hsame := h.failed e (by rw [BalanceOperation.onSheet_fst, hrun]) traderId assetId
  rw [BalanceOperation.balance_onSheet_self, hrun] at hsame
  exact hsame

/-- A trader credited with all that fits, twice, who has reserved the first of
    it. -/
def sampleFullSheet : BalanceSheet :=
  Run.after BalanceCall.step .new
    [⟨.creditAvailable, ⟨1, Nat.succ_pos _⟩, ⟨1, Nat.succ_pos _⟩, Fin.last _⟩,
      ⟨.reserve, ⟨1, Nat.succ_pos _⟩, ⟨1, Nat.succ_pos _⟩, Fin.last _⟩,
      ⟨.creditAvailable, ⟨1, Nat.succ_pos _⟩, ⟨1, Nat.succ_pos _⟩, Fin.last _⟩]

/-- A reservation and a release that fail each take one unit away. -/
theorem meets_iff_full :
    (BalanceOperation.reserve.onSheet sampleFullSheet ⟨1, by decide⟩ ⟨1, by decide⟩ 1).1
        = .error .arithmeticOverflow ∧
      ((BalanceOperation.reserve.onSheet sampleFullSheet ⟨1, by decide⟩ ⟨1, by decide⟩ 1).2.balance
        ⟨1, by decide⟩ ⟨1, by decide⟩).available.val + 1
        = (sampleFullSheet.balance ⟨1, by decide⟩ ⟨1, by decide⟩).available.val ∧
      ¬ BalanceOperation.reserve.Meets sampleFullSheet ⟨1, by decide⟩ ⟨1, by decide⟩ 1 ∧
      ¬ BalanceOperation.release.Meets sampleFullSheet ⟨1, by decide⟩ ⟨1, by decide⟩ 1 := by
  refine ⟨by decide +kernel, by decide +kernel, fun h => ?_, fun h => ?_⟩
  · exact absurd (h.failed .arithmeticOverflow (by decide +kernel) ⟨1, by decide⟩ ⟨1, by decide⟩)
      (by decide +kernel)
  · exact absurd (h.failed .arithmeticOverflow (by decide +kernel) ⟨1, by decide⟩ ⟨1, by decide⟩)
      (by decide +kernel)

end Exchange

end SolanaLab
