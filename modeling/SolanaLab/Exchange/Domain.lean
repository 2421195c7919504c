import SolanaLab.Library.Checked

/-!
# Exchange Domain Types

The value types of the exchange: the error enumeration, the non-zero
newtypes, the market and the order with its fill and cancel operations.

Every newtype of the source that wraps a `NonZeroU32`, `NonZeroU64` or
`NonZeroU128` is `NonZero` at its width, and its constructor is the one
place a zero is turned away. `RemainingQuantity` and `BalanceAmount` may be
zero, so they are plain words.

An order's fields are private in the source, and an order is only ever built
by `Order::new` and changed by `apply_fill` and `cancel`. What these three
keep true is the field `consistent`: the status says how much of the order is
left. It is what makes "every order" mean every order the program can hold,
partially filled and cancelled ones included.

A fill and a cancellation are total functions on orders that are allowed to
have them, `fill` and `cancel`, with the checks of the source around them. What
is proved about an order that was filled is proved about `fill`, and
`applyFill` only decides whether it comes to that.

## Main definitions

* `Error`: The domain errors.
* `NonZero`: An unsigned integer other than zero.
* `MarketSpec`: A market with two different assets.
* `OrderStatus.Fits`: What a status says about the quantities of an order.
* `Order`: An order whose status fits its quantities.
* `Order.fill`: An order with some of its quantity taken.
* `Order.applyFill`: The checked fill.
* `Order.cancel`: The checked cancellation.
* `Fill`: A match between a resting maker and an arriving taker.

## Theorems

* `Order.remaining_pos`: A live order has quantity left.
* `Order.status_open_iff`: A live order is open when nothing of it was filled.
* `Order.applyFill_eq_ok`: A fill succeeds on a live order with enough left.
* `Order.fill_isTerminal`: A filled order is live exactly when quantity is
  left.
-/

namespace SolanaLab

namespace Exchange

open Checked

/-- `domain::Error`. One enumeration for the whole crate, so the balances and
    the order book answer with it too. -/
inductive Error where
  | zeroValue
  | sameMarketAssets
  | priceNotTickAligned
  | quantityNotLotAligned
  | arithmeticOverflow
  | arithmeticUnderflow
  | fillExceedsRemainingQuantity
  | orderAlreadyTerminal
  | wrongOrderSide
  | orderNotFound
  | noMatchingOrder
  | amountConversionOverflow
  | insufficientAvailableBalance
  | insufficientReservedBalance
  | signedOrderMarketMismatch
  | signedOrderWrongSide
  | signedOrderExpired
  | signedOrderSelfTrade
  | signedOrderPricesDoNotCross
  | fillPriceOutsideSignedOrder
  | fillQuantityExceedsSignedOrder
deriving DecidableEq, Repr

/-! ### Newtypes -/

/-- What `non_zero_newtype!` defines: an integer of `w` bits other than zero. -/
@[ext]
structure NonZero (w : Nat) where
  get : Word w
  pos : 0 < get.val
deriving DecidableEq

namespace NonZero

variable {w : Nat}

/-- The checked constructor of every `non_zero_newtype!`. -/
def new (value : Word w) : Except Error (NonZero w) :=
  if h : 0 < value.val then .ok ⟨value, h⟩ else .error .zeroValue

/-- A newtype is its value, so equal values are equal newtypes. -/
theorem get_injective : Function.Injective (NonZero.get : NonZero w → Word w) :=
  fun _ _ h => NonZero.ext h

instance : LinearOrder (NonZero w) := LinearOrder.lift' NonZero.get get_injective

/-- Newtypes are ordered as their values are, which is how `derive(PartialOrd)`
    orders them. -/
theorem lt_iff (a b : NonZero w) : a < b ↔ a.get.val < b.get.val := Iff.rfl

/-- The same for the weak order. -/
theorem le_iff (a b : NonZero w) : a ≤ b ↔ a.get.val ≤ b.get.val := Iff.rfl

/-- The constructor accepts exactly the values that are not zero, and keeps
    them. -/
theorem new_eq_ok {value : Word w} {a : NonZero w} : new value = .ok a ↔ a.get = value := by
  unfold new
  by_cases h : 0 < value.val
  · rw [dif_pos h, Except.ok.injEq, NonZero.ext_iff]
    exact eq_comm
  · rw [dif_neg h]
    simp only [reduceCtorEq, false_iff]
    rintro rfl
    exact h a.pos

end NonZero

/-- An asset that can be traded. -/
abbrev AssetId := NonZero 32
/-- A market on which orders meet. -/
abbrev MarketId := NonZero 32
/-- Whoever places orders. -/
abbrev TraderId := NonZero 64
/-- An order. The caller chooses it, and the domain does not check that it is
    used once. -/
abbrev OrderId := NonZero 128
/-- A price in quote units for each base unit. -/
abbrev Price := NonZero 64
/-- A quantity in base units. -/
abbrev Quantity := NonZero 64
/-- What the prices of a market are multiples of. `MarketSpec` has a method that
    checks it, and an order is built without asking for it. -/
abbrev TickSize := NonZero 64
/-- What the quantities of a market are multiples of, with a check of the same
    kind. -/
abbrev LotSize := NonZero 64
/-- When an order was placed, as the caller counts it. -/
abbrev OrderSequence := NonZero 64

/-- The product of a price and a quantity, in 128 bits. The source checks the
    multiplication although it cannot overflow. -/
def Price.quoteCost (price : Price) (quantity : Quantity) : Except Error (Word 128) :=
  okOr (checkedMul (w := 128)
    (price.get.castLE two_pow_64_le_128) (quantity.get.castLE two_pow_64_le_128))
    .arithmeticOverflow

/-- Two factors below `2 ^ 64` have a product below `2 ^ 128`, so the quote
    cost never overflows. -/
theorem Price.quoteCost_eq (price : Price) (quantity : Quantity) :
    ∃ cost, price.quoteCost quantity = .ok cost ∧
      cost.val = price.get.val * quantity.get.val := by
  have hlt : price.get.val * quantity.get.val < 2 ^ 128 := by
    calc price.get.val * quantity.get.val < 2 ^ 64 * 2 ^ 64 :=
          Nat.mul_lt_mul'' price.get.isLt quantity.get.isLt
      _ = 2 ^ 128 := by norm_num
  refine ⟨⟨_, hlt⟩, ?_, rfl⟩
  rw [Price.quoteCost, okOr_eq_ok, checkedMul_eq_some]
  rfl

/-! ### Markets -/

/-- A market. `MarketSpec::new` refuses two equal assets, so a market has two
    different ones. -/
structure MarketSpec where
  baseAsset : AssetId
  quoteAsset : AssetId
  tickSize : TickSize
  lotSize : LotSize
  assets_ne : baseAsset ≠ quoteAsset
deriving DecidableEq

/-- `MarketSpec::new`. -/
def MarketSpec.new (baseAsset quoteAsset : AssetId) (tickSize : TickSize) (lotSize : LotSize) :
    Except Error MarketSpec :=
  if h : baseAsset = quoteAsset then .error .sameMarketAssets
  else .ok ⟨baseAsset, quoteAsset, tickSize, lotSize, h⟩

/-! ### Orders -/

/-- A bid buys the base asset and an ask sells it. -/
inductive Side where
  | bid
  | ask
deriving DecidableEq, Repr

/-- The side a taker of this side is matched against. -/
def Side.opposite : Side → Side
  | .bid => .ask
  | .ask => .bid

/-- What has become of an order. The last two are final. -/
inductive OrderStatus where
  | «open»
  | partiallyFilled
  | filled
  | cancelled
deriving DecidableEq, Repr

/-- `OrderStatus::Filled | OrderStatus::Cancelled`. -/
def OrderStatus.isTerminal : OrderStatus → Bool
  | .open => false
  | .partiallyFilled => false
  | .filled => true
  | .cancelled => true

/-- What a status says about the remaining and the original quantity. A
    cancelled order keeps what it had left, so that it says how much was never
    traded. -/
def OrderStatus.Fits (remaining original : Nat) : OrderStatus → Prop
  | .open => remaining = original
  | .partiallyFilled => 0 < remaining ∧ remaining < original
  | .filled => remaining = 0
  | .cancelled => 0 < remaining ∧ remaining ≤ original

/-- An order whose status fits its quantities. The fields are those of the
    source, and the last one is the invariant that its methods keep. -/
structure Order where
  id : OrderId
  traderId : TraderId
  marketId : MarketId
  side : Side
  price : Price
  originalQuantity : Quantity
  remainingQuantity : Word 64
  sequence : OrderSequence
  status : OrderStatus
  consistent : status.Fits remainingQuantity.val originalQuantity.get.val
deriving DecidableEq

namespace Order

/-- `Order::new`: open, with everything remaining. -/
def new (id : OrderId) (traderId : TraderId) (marketId : MarketId) (side : Side) (price : Price)
    (quantity : Quantity) (sequence : OrderSequence) : Order :=
  { id, traderId, marketId, side, price, originalQuantity := quantity,
    remainingQuantity := quantity.get, sequence, status := .open, consistent := rfl }

/-- What is left of the order, as a number. -/
def remaining (o : Order) : Nat := o.remainingQuantity.val

/-- What the order was placed for, as a number. -/
def original (o : Order) : Nat := o.originalQuantity.get.val

/-- The invariant, in the numbers of the order. -/
theorem fits (o : Order) : o.status.Fits o.remaining o.original := o.consistent

/-- An order is placed for something. -/
theorem original_pos (o : Order) : 0 < o.original := o.originalQuantity.pos

/-- What remains is a word. -/
theorem remaining_lt (o : Order) : o.remaining < 2 ^ 64 := o.remainingQuantity.isLt

/-- `Order::is_terminal`. -/
def isTerminal (o : Order) : Bool := o.status.isTerminal

/-- No more remains than the order was placed for, whatever its status. -/
theorem remaining_le (o : Order) : o.remaining ≤ o.original := by
  have h := o.fits
  have hpos := o.original_pos
  cases hs : o.status <;> rw [hs] at h <;> simp only [OrderStatus.Fits] at h <;> omega

/-- The status after a fill that leaves `updated`. -/
def statusAfterFill (updated : Nat) : OrderStatus :=
  if updated = 0 then .filled else .partiallyFilled

/-- After a fill, which leaves less than the original, the order is filled if
    nothing is left and partially filled otherwise. -/
theorem statusAfterFill_fits {updated original : Nat} (h : updated < original) :
    (statusAfterFill updated).Fits updated original := by
  unfold statusAfterFill
  by_cases h0 : updated = 0
  · rw [if_pos h0]
    exact h0
  · rw [if_neg h0]
    exact ⟨Nat.pos_of_ne_zero h0, h⟩

/-- The order with `quantity` taken from what remains. It is defined for any
    quantity, with a difference that stops at zero, and used for those that fit. -/
def fill (o : Order) (quantity : Quantity) : Order :=
  { o with
    remainingQuantity := ⟨o.remaining - quantity.get.val,
      Nat.lt_of_le_of_lt (Nat.sub_le _ _) o.remaining_lt⟩
    status := statusAfterFill (o.remaining - quantity.get.val)
    consistent := statusAfterFill_fits (by
      have hle := o.remaining_le
      have hq := quantity.pos
      have hpos := o.original_pos
      change o.remaining - quantity.get.val < o.original
      omega) }

/-- `Order::apply_fill`. A refused fill leaves the order as it was. A quantity
    of zero cannot be asked for, since `Quantity` excludes it. -/
def applyFill (o : Order) (fillQuantity : Quantity) : Except Error Order :=
  if o.isTerminal then .error .orderAlreadyTerminal
  else if fillQuantity.get.val > o.remaining then .error .fillExceedsRemainingQuantity
  else .ok (o.fill fillQuantity)

/-- An order that is cancelled was live, so something was left of it. -/
theorem cancelled_fits (o : Order) (h : ¬ o.isTerminal) :
    OrderStatus.cancelled.Fits o.remaining o.original := by
  have hc := o.fits
  have hpos := o.original_pos
  unfold isTerminal at h
  cases hs : o.status <;> rw [hs] at h hc <;>
    simp only [OrderStatus.isTerminal, OrderStatus.Fits, not_true_eq_false, Bool.false_eq_true,
      not_false_eq_true] at h hc ⊢ <;> omega

/-- `Order::cancel`. The remaining quantity is kept. -/
def cancel (o : Order) : Except Error Order :=
  if h : o.isTerminal then .error .orderAlreadyTerminal
  else .ok { o with status := .cancelled, consistent := o.cancelled_fits h }

/-- A live order has quantity left. -/
theorem remaining_pos (o : Order) (h : ¬ o.isTerminal) : 0 < o.remaining :=
  (o.cancelled_fits h).1

/-- A live order is open exactly when nothing of it has been filled. -/
theorem status_open_iff (o : Order) (h : ¬ o.isTerminal) :
    o.status = .open ↔ o.remaining = o.original := by
  have hc := o.fits
  unfold isTerminal at h
  cases hs : o.status <;> rw [hs] at h hc <;>
    simp only [OrderStatus.isTerminal, OrderStatus.Fits, not_true_eq_false, Bool.false_eq_true,
      not_false_eq_true] at h hc <;>
    simp only [reduceCtorEq, true_iff, false_iff] <;> omega

/-- A fill changes what remains and the status, and no other field. -/
@[simp] theorem fill_id (o : Order) (q : Quantity) : (o.fill q).id = o.id := rfl
@[simp] theorem fill_traderId (o : Order) (q : Quantity) :
    (o.fill q).traderId = o.traderId := rfl
@[simp] theorem fill_marketId (o : Order) (q : Quantity) :
    (o.fill q).marketId = o.marketId := rfl
@[simp] theorem fill_side (o : Order) (q : Quantity) : (o.fill q).side = o.side := rfl
@[simp] theorem fill_price (o : Order) (q : Quantity) : (o.fill q).price = o.price := rfl
@[simp] theorem fill_originalQuantity (o : Order) (q : Quantity) :
    (o.fill q).originalQuantity = o.originalQuantity := rfl
@[simp] theorem fill_remaining (o : Order) (q : Quantity) :
    (o.fill q).remaining = o.remaining - q.get.val := rfl

/-- A filled order is live exactly when some of it is left, for a fill never
    cancels. -/
theorem fill_isTerminal (o : Order) (q : Quantity) :
    (o.fill q).isTerminal = true ↔ o.remaining ≤ q.get.val := by
  change (statusAfterFill (o.remaining - q.get.val)).isTerminal = true ↔ _
  unfold statusAfterFill
  by_cases h : o.remaining - q.get.val = 0
  · rw [if_pos h]
    simp only [OrderStatus.isTerminal, true_iff]
    omega
  · rw [if_neg h]
    simp only [OrderStatus.isTerminal, Bool.false_eq_true, false_iff]
    omega

/-- A fill of no more than what a live order has left succeeds. -/
theorem applyFill_eq_ok (o : Order) (q : Quantity) (ho : ¬ o.isTerminal)
    (hq : q.get.val ≤ o.remaining) : o.applyFill q = .ok (o.fill q) := by
  unfold applyFill
  rw [if_neg ho, if_neg (by omega)]

/-- An order of trader and market one. -/
def sample (id : OrderId) (side : Side) (price : Price) (quantity : Quantity) : Order :=
  Order.new id ⟨1, Nat.succ_pos _⟩ ⟨1, Nat.succ_pos _⟩ side price quantity ⟨1, Nat.succ_pos _⟩

end Order

/-! ### Fills -/

/-- A match: a resting maker against an arriving taker. It names both orders and
    both traders, and has the price of the maker. -/
structure Fill where
  makerOrderId : OrderId
  takerOrderId : OrderId
  makerTraderId : TraderId
  takerTraderId : TraderId
  price : Price
  quantity : Quantity
deriving DecidableEq

/-- `Fill::new`. -/
def Fill.new (maker taker : Order) (price : Price) (quantity : Quantity) : Fill :=
  { makerOrderId := maker.id, takerOrderId := taker.id, makerTraderId := maker.traderId,
    takerTraderId := taker.traderId, price, quantity }

end Exchange

end SolanaLab
