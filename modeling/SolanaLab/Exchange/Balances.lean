import SolanaLab.Exchange.Domain
import SolanaLab.Library.SortedMap
import Mathlib.Data.Prod.Lex

/-!
# Balances and Reservations

A trader's balance of an asset is what is available and what is reserved for
open orders, two unsigned 64-bit amounts. The sheet maps a trader and an asset
to a balance, and every operation on it goes through an entry that is created
with the default balance when there is none.

An operation that fails answers an error and keeps what it has done so far:
`reserve` has already lowered the available amount when the reserved amount
overflows. The operations here therefore give the balance afterwards in both
cases. `creditAvailable_error` shows that for a credit it makes no difference:
only an entry that is there can overflow, so not even an empty entry is left
behind.

A sheet keeps its entries in a `BTreeMap` with a key for the trader and the
asset. A trader without an entry for an asset has the default balance of it, so
`balance` is defined for every pair and theorems speak of it and not of entries.

## Main definitions

* `Balance`: Available and reserved amounts.
* `Balance.creditAvailable`, `Balance.reserve`, `Balance.release`,
  `Balance.debitReserved`: The four operations.
* `Reservation.forOrder`: What an order needs, in which asset.
* `BalanceSheet`: A balance for every trader and asset.
* `BalanceSheet.update`: An operation on one entry.

## Theorems

* `Balance.creditAvailable_eq_ok`: A credit succeeds when the sum fits.
* `Balance.reserve_eq_ok`: When a reservation succeeds, and what it does.
* `balance_update`: An operation touches one balance.
* `creditAvailable_error`: A failed credit leaves the sheet as it was.
-/

namespace SolanaLab

namespace Exchange

open Checked

/-- An amount that may be zero. -/
abbrev BalanceAmount := Word 64

namespace BalanceAmount

/-- `BalanceAmount::from_u128`. -/
def fromU128 (value : Word 128) : Except Error BalanceAmount :=
  okOr (narrow 64 value) .amountConversionOverflow

/-- `BalanceAmount::checked_add`. -/
def checkedAdd (a b : BalanceAmount) : Except Error BalanceAmount :=
  okOr (Checked.checkedAdd a b) .arithmeticOverflow

/-- `BalanceAmount::checked_sub`. -/
def checkedSub (a b : BalanceAmount) : Except Error BalanceAmount :=
  okOr (Checked.checkedSub a b) .arithmeticUnderflow

/-- An addition succeeds with the sum, if that is a word. -/
theorem checkedAdd_eq_ok {a b c : BalanceAmount} :
    checkedAdd a b = .ok c ↔ c.val = a.val + b.val :=
  okOr_eq_ok.trans checkedAdd_eq_some

/-- A subtraction succeeds with the difference, if there is one. -/
theorem checkedSub_eq_ok {a b c : BalanceAmount} :
    checkedSub a b = .ok c ↔ c.val + b.val = a.val :=
  okOr_eq_ok.trans checkedSub_eq_some

end BalanceAmount

/-- What a trader has of an asset. The two amounts are separate words, and
    nothing bounds their sum. -/
structure Balance where
  available : BalanceAmount
  reserved : BalanceAmount
deriving DecidableEq

namespace Balance

/-- `Balance::default`. -/
def default : Balance := ⟨0, 0⟩

/-- `Balance::credit_available`. -/
def creditAvailable (b : Balance) (amount : BalanceAmount) : Except Error Unit × Balance :=
  match BalanceAmount.checkedAdd b.available amount with
  | .error e => (.error e, b)
  | .ok available => (.ok (), { b with available })

/-- `Balance::reserve`. The available amount is lowered before the reserved
    amount can overflow. -/
def reserve (b : Balance) (amount : BalanceAmount) : Except Error Unit × Balance :=
  if b.available < amount then (.error .insufficientAvailableBalance, b)
  else
    match BalanceAmount.checkedSub b.available amount with
    | .error e => (.error e, b)
    | .ok available =>
      match BalanceAmount.checkedAdd b.reserved amount with
      | .error e => (.error e, { b with available })
      | .ok reserved => (.ok (), { available, reserved })

/-- `Balance::release`. The reserved amount is lowered before the available
    amount can overflow. -/
def release (b : Balance) (amount : BalanceAmount) : Except Error Unit × Balance :=
  if b.reserved < amount then (.error .insufficientReservedBalance, b)
  else
    match BalanceAmount.checkedSub b.reserved amount with
    | .error e => (.error e, b)
    | .ok reserved =>
      match BalanceAmount.checkedAdd b.available amount with
      | .error e => (.error e, { b with reserved })
      | .ok available => (.ok (), { available, reserved })

/-- `Balance::debit_reserved`. -/
def debitReserved (b : Balance) (amount : BalanceAmount) : Except Error Unit × Balance :=
  if b.reserved < amount then (.error .insufficientReservedBalance, b)
  else
    match BalanceAmount.checkedSub b.reserved amount with
    | .error e => (.error e, b)
    | .ok reserved => (.ok (), { b with reserved })

/-- A credit succeeds when the sum fits, and adds to the available amount. -/
theorem creditAvailable_eq_ok {b b' : Balance} {amount : BalanceAmount} :
    b.creditAvailable amount = (.ok (), b')
      ↔ b'.available.val = b.available.val + amount.val ∧ b'.reserved = b.reserved := by
  unfold creditAvailable
  cases ha : BalanceAmount.checkedAdd b.available amount with
  | error e =>
      simp only [Prod.mk.injEq, reduceCtorEq, false_and, false_iff, not_and]
      intro hsum
      rw [BalanceAmount.checkedAdd_eq_ok.mpr hsum] at ha
      exact absurd ha (by simp only [reduceCtorEq, not_false_eq_true])
  | ok available =>
      have hsum := BalanceAmount.checkedAdd_eq_ok.mp ha
      simp only [Prod.mk.injEq, true_and]
      constructor
      · rintro rfl
        exact ⟨hsum, rfl⟩
      · rintro ⟨hav, hres⟩
        -- The stored amount is determined by its value.
        have heq : available = b'.available := Fin.ext (hsum.trans hav.symm)
        rw [heq, ← hres]

/-- A failed credit leaves the balance as it was, and fails because the sum
    does not fit. -/
theorem creditAvailable_eq_error {b b' : Balance} {amount : BalanceAmount} {e : Error}
    (h : b.creditAvailable amount = (.error e, b')) :
    b' = b ∧ 2 ^ 64 ≤ b.available.val + amount.val := by
  unfold creditAvailable at h
  cases ha : BalanceAmount.checkedAdd b.available amount with
  | error e' =>
      rw [ha, Prod.mk.injEq] at h
      refine ⟨h.2.symm, ?_⟩
      -- Were there room, the addition would have succeeded.
      by_contra hlt
      have hok : BalanceAmount.checkedAdd b.available amount
          = .ok ⟨b.available.val + amount.val, not_le.mp hlt⟩ :=
        BalanceAmount.checkedAdd_eq_ok.mpr rfl
      rw [hok] at ha
      exact absurd ha (by simp only [reduceCtorEq, not_false_eq_true])
  | ok available =>
      rw [ha, Prod.mk.injEq] at h
      exact absurd h.1 (by simp only [reduceCtorEq, not_false_eq_true])

/-- A reservation succeeds when the amount is available and the reserved
    amount has room, and moves it from the one to the other. -/
theorem reserve_eq_ok {b b' : Balance} {amount : BalanceAmount} :
    b.reserve amount = (.ok (), b')
      ↔ b'.available.val + amount.val = b.available.val ∧
        b'.reserved.val = b.reserved.val + amount.val := by
  unfold reserve
  by_cases hlt : b.available < amount
  · rw [if_pos hlt]
    have hlt' : b.available.val < amount.val := hlt
    simp only [Prod.mk.injEq, reduceCtorEq, false_and, false_iff, not_and]
    omega
  · rw [if_neg hlt]
    have hle : amount.val ≤ b.available.val := not_lt.mp hlt
    -- The test just made is the one the subtraction makes again.
    have hsub : BalanceAmount.checkedSub b.available amount
        = .ok ⟨b.available.val - amount.val, by omega⟩ :=
      BalanceAmount.checkedSub_eq_ok.mpr (by simp only; omega)
    simp only [hsub]
    -- By now the available side has been taken from, so an overflow here loses the
    -- amount.
    cases ha : BalanceAmount.checkedAdd b.reserved amount with
    | error e =>
        simp only [Prod.mk.injEq, reduceCtorEq, false_and, false_iff, not_and]
        intro _ hsum
        rw [BalanceAmount.checkedAdd_eq_ok.mpr hsum] at ha
        exact absurd ha (by simp only [reduceCtorEq, not_false_eq_true])
    | ok reserved =>
        have hsum := BalanceAmount.checkedAdd_eq_ok.mp ha
        simp only [Prod.mk.injEq, true_and]
        constructor
        · rintro rfl
          exact ⟨by simp only; omega, hsum⟩
        · rintro ⟨hav, hres⟩
          cases b'
          simp only at hav hres
          rw [Balance.mk.injEq]
          exact ⟨Fin.ext (by simp only; omega), Fin.ext (by omega)⟩

end Balance

/-- An amount of an asset set aside for a trader. -/
structure Reservation where
  traderId : TraderId
  assetId : AssetId
  amount : BalanceAmount
deriving DecidableEq

/-- `Reservation::for_order`: the quote cost of a bid, the quantity of an ask.
    Both are about the original quantity. -/
def Reservation.forOrder (order : Order) (market : MarketSpec) : Except Error Reservation :=
  match order.side with
  | .bid =>
    match order.price.quoteCost order.originalQuantity with
    | .error e => .error e
    | .ok cost =>
      match BalanceAmount.fromU128 cost with
      | .error e => .error e
      | .ok amount => .ok ⟨order.traderId, market.quoteAsset, amount⟩
  | .ask => .ok ⟨order.traderId, market.baseAsset, order.originalQuantity.get⟩

/-- A balance for every trader and asset. -/
structure BalanceSheet where
  balances : SortedMap (TraderId ×ₗ AssetId) Balance
deriving DecidableEq

namespace BalanceSheet

/-- `BalanceSheet::new`. -/
def new : BalanceSheet := ⟨SortedMap.empty⟩

/-- `BalanceSheet::balance`. -/
def balance (sheet : BalanceSheet) (traderId : TraderId) (assetId : AssetId) : Balance :=
  (sheet.balances.get? (toLex (traderId, assetId))).getD Balance.default

/-- An operation on the entry `balance_mut` gives. The entry is there afterwards
    whether the operation succeeds or not, because `or_default` has put it there
    before the operation is tried. -/
def update (sheet : BalanceSheet) (traderId : TraderId) (assetId : AssetId)
    (op : Balance → Except Error Unit × Balance) : Except Error Unit × BalanceSheet :=
  let r := op (sheet.balance traderId assetId)
  (r.1, ⟨sheet.balances.insert (toLex (traderId, assetId)) r.2⟩)

/-- `BalanceSheet::credit_available`. -/
def creditAvailable (sheet : BalanceSheet) (traderId : TraderId) (assetId : AssetId)
    (amount : BalanceAmount) : Except Error Unit × BalanceSheet :=
  sheet.update traderId assetId (fun b => b.creditAvailable amount)

/-- `BalanceSheet::reserve`. -/
def reserve (sheet : BalanceSheet) (r : Reservation) : Except Error Unit × BalanceSheet :=
  sheet.update r.traderId r.assetId (fun b => b.reserve r.amount)

/-- `BalanceSheet::release`. -/
def release (sheet : BalanceSheet) (r : Reservation) : Except Error Unit × BalanceSheet :=
  sheet.update r.traderId r.assetId (fun b => b.release r.amount)

/-- `BalanceSheet::debit_reserved`. -/
def debitReserved (sheet : BalanceSheet) (r : Reservation) : Except Error Unit × BalanceSheet :=
  sheet.update r.traderId r.assetId (fun b => b.debitReserved r.amount)

/-- An operation touches the balance it is about and no other. -/
theorem balance_update (sheet : BalanceSheet) (t t' : TraderId) (a a' : AssetId)
    (op : Balance → Except Error Unit × Balance) :
    (sheet.update t a op).2.balance t' a'
      = if t' = t ∧ a' = a then (op (sheet.balance t a)).2 else sheet.balance t' a' := by
  by_cases h : t' = t ∧ a' = a
  · rw [if_pos h, h.1, h.2, update, balance, SortedMap.get?_insert_self, Option.getD_some]
  · have hne : toLex (t', a') ≠ toLex (t, a) := fun heq => h (Prod.mk.inj heq)
    rw [if_neg h, update, balance, SortedMap.get?_insert_of_ne _ _ hne]
    rfl

/-- What a successful operation has done to the balances. -/
theorem update_eq_ok {sheet sheet' : BalanceSheet} {t : TraderId} {a : AssetId}
    {op : Balance → Except Error Unit × Balance} (h : sheet.update t a op = (.ok (), sheet')) :
    op (sheet.balance t a) = (.ok (), sheet'.balance t a) ∧
      ∀ t' a', ¬ (t' = t ∧ a' = a) → sheet'.balance t' a' = sheet.balance t' a' := by
  have hbalance := fun t' a' => sheet.balance_update t t' a a' op
  have hanswer : (sheet.update t a op).1 = .ok () := congrArg Prod.fst h
  rw [h] at hbalance
  refine ⟨Prod.ext hanswer ?_, fun t' a' hne => ?_⟩
  · exact ((hbalance t a).trans (if_pos ⟨rfl, rfl⟩)).symm
  · exact (hbalance t' a').trans (if_neg hne)

/-- An operation that succeeds on the balance succeeds on the sheet. -/
theorem update_of_ok {sheet : BalanceSheet} {t : TraderId} {a : AssetId} {b : Balance}
    (op : Balance → Except Error Unit × Balance)
    (h : op (sheet.balance t a) = (.ok (), b)) :
    ∃ sheet', sheet.update t a op = (.ok (), sheet') := by
  rw [update, h]
  exact ⟨_, rfl⟩

/-- A credit fits when the sum is below `2 ^ 64`. -/
def Creditable (sheet : BalanceSheet) (traderId : TraderId) (assetId : AssetId)
    (amount : BalanceAmount) : Prop :=
  (sheet.balance traderId assetId).available.val + amount.val < 2 ^ 64

instance (sheet : BalanceSheet) (t : TraderId) (a : AssetId) (amount : BalanceAmount) :
    Decidable (sheet.Creditable t a amount) :=
  inferInstanceAs (Decidable (_ < _))

/-- A credit on a sheet succeeds exactly when it fits the balance. -/
theorem creditAvailable_isOk {sheet : BalanceSheet} {t : TraderId} {a : AssetId}
    {amount : BalanceAmount} :
    (sheet.creditAvailable t a amount).1 = .ok () ↔ sheet.Creditable t a amount := by
  rw [creditAvailable, update, Creditable]
  rcases h : (sheet.balance t a).creditAvailable amount with ⟨e | ⟨⟩, b⟩
  · simp only [reduceCtorEq, false_iff]
    have := (Balance.creditAvailable_eq_error h).2
    omega
  · simp only [true_iff]
    have := (Balance.creditAvailable_eq_ok.mp h).1
    have := b.available.isLt
    omega

/-- A failed credit leaves the sheet as it was: what overflows is there, since
    the default balance has room for every amount. -/
theorem creditAvailable_error {sheet : BalanceSheet} {t : TraderId} {a : AssetId}
    {amount : BalanceAmount} {e : Error} (h : (sheet.creditAvailable t a amount).1 = .error e) :
    (sheet.creditAvailable t a amount).2 = sheet := by
  rw [creditAvailable, update] at h ⊢
  rcases hb : (sheet.balance t a).creditAvailable amount with ⟨e' | ⟨⟩, b⟩
  · rcases Balance.creditAvailable_eq_error hb with ⟨rfl, hover⟩
    cases hg : sheet.balances.get? (toLex (t, a)) with
    | none =>
        -- Nothing and an amount of 64 bits do not overflow.
        rw [balance, hg, Option.getD_none] at hover
        have := amount.isLt
        simp only [Balance.default, Fin.val_zero] at hover
        omega
    | some b =>
        simp only [balance, hg, Option.getD_some]
        rw [SortedMap.insert_get? _ hg]
  · rw [hb] at h
    exact absurd h (by simp only [reduceCtorEq, not_false_eq_true])

end BalanceSheet

end Exchange

end SolanaLab
