import SolanaLab.Library.Checked
import SolanaLab.Library.SortedMap

/-!
# Amounts by Account

Accounts that hold an amount of one thing each, and what is taken from one and
given to another. An account that is not listed has nothing.

What is in all accounts together decides whether giving can overflow: as long
as it fits, no account can be given more than fits. So a ledger whose total is
bounded once and only moves amounts around never refuses a credit, and
`move_isSome` says so.

## Main definitions

* `amount`: What an account has.
* `total`: What all accounts have.
* `credit`, `debit`, `move`: Giving, taking, and both.

## Theorems

* `credit_eq_some`, `debit_eq_some`: When they succeed, and with what.
* `move_amount`: What a move does to any one account.
* `move_total`: A move keeps the total.
* `move_isSome`: A move of what is there succeeds when the total fits.
-/

namespace SolanaLab

namespace Amounts

open Checked

variable {κ : Type} [LinearOrder κ] {w : Nat}

/-- What an account has. -/
def amount (m : SortedMap κ (Word w)) (k : κ) : Word w :=
  (m.get? k).getD ⟨0, Nat.two_pow_pos w⟩

/-- What all accounts have. -/
def total (m : SortedMap κ (Word w)) : Nat := m.sumBy (fun _ v => v.val)

/-- An account is given an amount, if it fits. -/
def credit (m : SortedMap κ (Word w)) (k : κ) (n : Word w) : Option (SortedMap κ (Word w)) :=
  (checkedAdd (amount m k) n).map (m.insert k)

/-- An amount is taken from an account, if it is there. -/
def debit (m : SortedMap κ (Word w)) (k : κ) (n : Word w) : Option (SortedMap κ (Word w)) :=
  (checkedSub (amount m k) n).map (m.insert k)

/-- An amount is taken from one account and then given to another. The two may
    be the same, so an account that pays itself still has to have the amount. -/
def move (m : SortedMap κ (Word w)) (source destination : κ) (n : Word w) :
    Option (SortedMap κ (Word w)) :=
  (debit m source n).bind (fun m => credit m destination n)

variable {m m' : SortedMap κ (Word w)} {k k' : κ} {n : Word w}

theorem amount_insert (m : SortedMap κ (Word w)) (k k' : κ) (v : Word w) :
    amount (m.insert k v) k' = if k' = k then v else amount m k' := by
  rw [amount, SortedMap.get?_insert]
  by_cases h : k' = k
  · rw [if_pos h, if_pos h]
    rfl
  · rw [if_neg h, if_neg h]
    rfl

/-- A written amount replaces the old one in the total. It is stated as a sum,
    as the total may become smaller. -/
theorem total_insert (m : SortedMap κ (Word w)) (k : κ) (v : Word w) :
    total (m.insert k v) + (amount m k).val = total m + v.val := by
  cases hget : m.get? k with
  | none =>
      rw [total, SortedMap.sumBy_insert_of_none _ m v hget, amount, hget]
      rfl
  | some old =>
      rw [amount, hget]
      exact SortedMap.sumBy_insert_of_some (fun _ (v : Word w) => v.val) m v hget

/-- No account has more than all of them. -/
theorem amount_le_total (m : SortedMap κ (Word w)) (k : κ) : (amount m k).val ≤ total m := by
  rw [amount]
  cases hget : m.get? k with
  | none => exact Nat.zero_le _
  | some v => exact SortedMap.le_sumBy (fun _ (v : Word w) => v.val) m hget

/-- Two accounts have no more than all of them. -/
theorem amount_add_le_total (m : SortedMap κ (Word w)) {k k' : κ} (h : k ≠ k') :
    (amount m k).val + (amount m k').val ≤ total m := by
  -- Without the first account the second still has what it had.
  have hinsert := total_insert m k ⟨0, Nat.two_pow_pos w⟩
  have hle := amount_le_total (m.insert k ⟨0, Nat.two_pow_pos w⟩) k'
  rw [amount_insert, if_neg (Ne.symm h)] at hle
  simp only at hinsert
  omega

theorem credit_eq_some :
    credit m k n = some m' ↔
      ∃ v : Word w, v.val = (amount m k).val + n.val ∧ m.insert k v = m' := by
  simp only [credit, Option.map_eq_some_iff, checkedAdd_eq_some]

theorem debit_eq_some :
    debit m k n = some m' ↔
      ∃ v : Word w, v.val + n.val = (amount m k).val ∧ m.insert k v = m' := by
  simp only [debit, Option.map_eq_some_iff, checkedSub_eq_some]

theorem credit_amount (h : credit m k n = some m') (k' : κ) :
    (amount m' k').val = (amount m k').val + if k' = k then n.val else 0 := by
  rcases credit_eq_some.mp h with ⟨v, hv, rfl⟩
  rw [amount_insert]
  by_cases hk : k' = k
  · rw [if_pos hk, if_pos hk, hk]
    exact hv
  · rw [if_neg hk, if_neg hk, Nat.add_zero]

theorem debit_amount (h : debit m k n = some m') (k' : κ) :
    (amount m' k').val + (if k' = k then n.val else 0) = (amount m k').val := by
  rcases debit_eq_some.mp h with ⟨v, hv, rfl⟩
  rw [amount_insert]
  by_cases hk : k' = k
  · rw [if_pos hk, if_pos hk, hk]
    exact hv
  · rw [if_neg hk, if_neg hk, Nat.add_zero]

theorem credit_total (h : credit m k n = some m') : total m' = total m + n.val := by
  rcases credit_eq_some.mp h with ⟨v, hv, rfl⟩
  have hinsert := total_insert m k v
  omega

theorem debit_total (h : debit m k n = some m') : total m' + n.val = total m := by
  rcases debit_eq_some.mp h with ⟨v, hv, rfl⟩
  have hinsert := total_insert m k v
  omega

/-- What is there can be taken. -/
theorem debit_isSome (h : n.val ≤ (amount m k).val) : ∃ m', debit m k n = some m' := by
  rcases exists_sub h with ⟨v, hv⟩
  exact ⟨_, debit_eq_some.mpr ⟨v, hv, rfl⟩⟩

/-- What fits can be given. -/
theorem credit_isSome (h : (amount m k).val + n.val < 2 ^ w) : ∃ m', credit m k n = some m' := by
  rcases exists_add h with ⟨v, hv⟩
  exact ⟨_, credit_eq_some.mpr ⟨v, hv, rfl⟩⟩

variable {source : κ}

/-- A move is a debit and then a credit. When both are on one account, the
    credit finds what the debit has left. -/
theorem move_eq_some {destination : κ} :
    move m source destination n = some m' ↔
      ∃ between, debit m source n = some between ∧ credit between destination n = some m' :=
  Option.bind_eq_some_iff

/-- A move takes the amount from one account and gives it to the other. -/
theorem move_amount {destination : κ} (h : move m source destination n = some m') (k : κ) :
    (amount m' k).val + (if k = source then n.val else 0)
      = (amount m k).val + if k = destination then n.val else 0 := by
  rcases move_eq_some.mp h with ⟨between, hdebit, hcredit⟩
  have htaken := debit_amount hdebit k
  have hgiven := credit_amount hcredit k
  omega

/-- A move keeps the total. -/
theorem move_total {destination : κ} (h : move m source destination n = some m') :
    total m' = total m := by
  rcases move_eq_some.mp h with ⟨between, hdebit, hcredit⟩
  have htaken := debit_total hdebit
  have hgiven := credit_total hcredit
  omega

/-- A move of what is there succeeds when the total fits. -/
theorem move_isSome (destination : κ) (hsource : n.val ≤ (amount m source).val)
    (htotal : total m < 2 ^ w) :
    ∃ m', move m source destination n = some m' := by
  rcases debit_isSome hsource with ⟨between, hdebit⟩
  have htaken := debit_total hdebit
  have hle := amount_le_total between destination
  rcases credit_isSome (m := between) (k := destination) (n := n) (by omega) with ⟨m', hcredit⟩
  exact ⟨m', move_eq_some.mpr ⟨between, hdebit, hcredit⟩⟩

end Amounts

end SolanaLab
