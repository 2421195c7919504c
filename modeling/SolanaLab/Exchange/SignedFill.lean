import SolanaLab.Exchange.Placements
import SolanaLab.Library.Bytes

/-!
# Signed Fills

The signed orders of the exchange and the rules by which two of them may be
filled against each other, compared with what the matching engine does.

`validateSignedFill` is a list of seven checks on two signed orders, a price, a
quantity and a slot. The matching engine has its own rules. They overlap: a
fill of the engine is between a bid and an ask that cross, at a price within
both limits and for no more than either order has left. The engine does not
look at the trader or at the market of the orders it matches, and these two
checks are all that can turn one of its fills away.

The theorem about the two is not that every fill of the engine is valid, since
it is not, but exactly when. It is about a signed order for each side that
carries the terms of the order, in a run of the application and at any slot at
which neither has expired.

## Main definitions

* `OrderIntent`: The terms a trader signs.
* `OrderIntent.signingPreimage`: The bytes that are signed.
* `SignedOrder`: An intent with its signature.
* `validateSignedFill`: The rules of a signed fill.
* `OrderIntent.Carries`: An intent has the terms of an order.
* `bidOf`, `askOf`: The bid and the ask of a taker and its maker.

## Theorems

* `validateSignedFill_eq_ok`: When a signed fill is valid.
* `serve_quantity`: A fill is for no more than its two orders have.
* `execute_validates`: Which fills of the application are valid.
-/

namespace SolanaLab

namespace Exchange

open Checked PriorityQueue
open ExchangeApplication (sampleMarket sampleDeposit)

/-- What tells two orders of a trader with the same terms apart. -/
abbrev OrderNonce := NonZero 64
/-- The last slot in which an order is valid. -/
abbrev OrderExpirySlot := NonZero 64

/-- `SignerKey`: 32 bytes. -/
abbrev SignerKey := Word 256

/-- `Signature`: 64 bytes. -/
abbrev Signature := Word 512

/-- `OrderHash`: 32 bytes. -/
abbrev OrderHash := Word 256

/-- `domain::OrderIntent`: the terms a trader signs. -/
structure OrderIntent where
  orderId : OrderId
  traderId : TraderId
  marketId : MarketId
  side : Side
  price : Price
  quantity : Quantity
  nonce : OrderNonce
  expirySlot : OrderExpirySlot
deriving DecidableEq

/-- `side_tag`. -/
def sideTag : Side → Byte
  | .bid => 0
  | .ask => 1

namespace OrderIntent

/-- The tag `solana-spot-exchange-lab/order/v1`, in ASCII. -/
def domainTag : List Byte :=
  [115, 111, 108, 97, 110, 97, 45, 115, 112, 111, 116, 45, 101, 120, 99, 104, 97, 110, 103, 101,
    45, 108, 97, 98, 47, 111, 114, 100, 101, 114, 47, 118, 49]

/-- `OrderIntent::signing_preimage`. The tag of the domain, and then each field
    at its width with the low byte first, so two intents with the same bytes are
    the same. -/
def signingPreimage (intent : OrderIntent) : List Byte :=
  domainTag
    ++ leBytes 16 intent.orderId.get.val
    ++ leBytes 8 intent.traderId.get.val
    ++ leBytes 4 intent.marketId.get.val
    ++ [sideTag intent.side]
    ++ leBytes 8 intent.price.get.val
    ++ leBytes 8 intent.quantity.get.val
    ++ leBytes 8 intent.nonce.get.val
    ++ leBytes 8 intent.expirySlot.get.val

/-- `OrderIntent::is_expired`. In its expiry slot itself the order is still
    valid. -/
def isExpired (intent : OrderIntent) (currentSlot : Word 64) : Bool :=
  decide (currentSlot > intent.expirySlot.get)

end OrderIntent

/-- `domain::SignedOrder`. -/
structure SignedOrder where
  intent : OrderIntent
  signer : SignerKey
  signature : Signature
deriving DecidableEq

/-- `domain::SignedFill`. -/
structure SignedFill where
  buyerOrderHash : OrderHash
  sellerOrderHash : OrderHash
  buyerTraderId : TraderId
  sellerTraderId : TraderId
  marketId : MarketId
  price : Price
  quantity : Quantity
  quoteAmount : Word 128
deriving DecidableEq

section Validation

-- SHA-256 of a list of bytes.
variable (sha256 : List Byte → OrderHash)

/-- `SignedOrder::hash`. -/
def SignedOrder.hash (order : SignedOrder) : OrderHash := sha256 order.intent.signingPreimage

/-- `domain::validate_signed_fill`. The checks are made in this order, and the
    first that fails gives the error. -/
def validateSignedFill (bid ask : SignedOrder) (fillPrice : Price) (fillQuantity : Quantity)
    (currentSlot : Word 64) : Except Error SignedFill := do
  require (bid.intent.side = .bid ∧ ask.intent.side = .ask) .signedOrderWrongSide
  require (bid.intent.marketId = ask.intent.marketId) .signedOrderMarketMismatch
  require (bid.intent.traderId ≠ ask.intent.traderId) .signedOrderSelfTrade
  require (bid.intent.isExpired currentSlot = false ∧ ask.intent.isExpired currentSlot = false)
    .signedOrderExpired
  require (ask.intent.price ≤ bid.intent.price) .signedOrderPricesDoNotCross
  require (fillPrice ≤ bid.intent.price ∧ ask.intent.price ≤ fillPrice)
    .fillPriceOutsideSignedOrder
  require (fillQuantity ≤ bid.intent.quantity ∧ fillQuantity ≤ ask.intent.quantity)
    .fillQuantityExceedsSignedOrder
  let quoteAmount ← fillPrice.quoteCost fillQuantity
  return {
    buyerOrderHash := bid.hash sha256
    sellerOrderHash := ask.hash sha256
    buyerTraderId := bid.intent.traderId
    sellerTraderId := ask.intent.traderId
    marketId := bid.intent.marketId
    price := fillPrice
    quantity := fillQuantity
    quoteAmount }

/-- What a valid signed fill has been checked for. The sides, the expiry of
    either and the quantities are among them, and each check of the source is
    one field or part of one. -/
structure SignedFill.Rules (bid ask : OrderIntent) (fillPrice : Price) (fillQuantity : Quantity)
    (currentSlot : Word 64) : Prop where
  sides : bid.side = .bid ∧ ask.side = .ask
  market : bid.marketId = ask.marketId
  traders : bid.traderId ≠ ask.traderId
  notExpired : bid.isExpired currentSlot = false ∧ ask.isExpired currentSlot = false
  cross : ask.price ≤ bid.price
  price : fillPrice ≤ bid.price ∧ ask.price ≤ fillPrice
  quantity : fillQuantity ≤ bid.quantity ∧ fillQuantity ≤ ask.quantity

/-- A signed fill is valid when the rules hold, and its quote amount is the
    product of price and quantity: it never overflows. -/
theorem validateSignedFill_eq_ok {bid ask : SignedOrder} {fillPrice : Price}
    {fillQuantity : Quantity} {currentSlot : Word 64} {fill : SignedFill} :
    validateSignedFill sha256 bid ask fillPrice fillQuantity currentSlot = .ok fill
      ↔ SignedFill.Rules bid.intent ask.intent fillPrice fillQuantity currentSlot ∧
        fillPrice.quoteCost fillQuantity = .ok fill.quoteAmount ∧
        fill = { fill with
          buyerOrderHash := bid.hash sha256, sellerOrderHash := ask.hash sha256
          buyerTraderId := bid.intent.traderId, sellerTraderId := ask.intent.traderId
          marketId := bid.intent.marketId, price := fillPrice, quantity := fillQuantity } := by
  simp only [validateSignedFill, bind_eq_ok, require_eq_ok]
  constructor
  · rintro ⟨_, hsides, _, hmarket, _, htraders, _, hexpired, _, hcross, _, hprice, _, hquantity,
      quote, hquote, hfill⟩
    rw [← Except.ok.inj hfill]
    exact ⟨⟨hsides, hmarket, htraders, hexpired, hcross, hprice, hquantity⟩, hquote, rfl⟩
  · rintro ⟨hrules, hquote, hfill⟩
    refine ⟨⟨⟩, hrules.sides, ⟨⟩, hrules.market, ⟨⟩, hrules.traders, ⟨⟩, hrules.notExpired, ⟨⟩,
      hrules.cross, ⟨⟩, hrules.price, ⟨⟩, hrules.quantity, fill.quoteAmount, hquote, ?_⟩
    exact congrArg Except.ok hfill.symm

/-- A signed fill is valid exactly when the rules hold. -/
theorem validateSignedFill_isOk {bid ask : SignedOrder} {fillPrice : Price}
    {fillQuantity : Quantity} {currentSlot : Word 64} :
    (∃ fill, validateSignedFill sha256 bid ask fillPrice fillQuantity currentSlot = .ok fill)
      ↔ SignedFill.Rules bid.intent ask.intent fillPrice fillQuantity currentSlot := by
  constructor
  · rintro ⟨fill, h⟩
    exact ((validateSignedFill_eq_ok sha256).mp h).1
  · intro hrules
    rcases fillPrice.quoteCost_eq fillQuantity with ⟨quote, hquote, -⟩
    exact ⟨⟨bid.hash sha256, ask.hash sha256, _, _, _, _, _, quote⟩,
      (validateSignedFill_eq_ok sha256).mpr ⟨hrules, hquote, rfl⟩⟩

end Validation

/-! ### The fills of the engine -/

/-- An intent has the terms of an order. Its nonce and its expiry are free,
    since the engine knows neither. -/
structure OrderIntent.Carries (intent : OrderIntent) (order : Order) : Prop where
  orderId : intent.orderId = order.id
  traderId : intent.traderId = order.traderId
  marketId : intent.marketId = order.marketId
  side : intent.side = order.side
  price : intent.price = order.price
  quantity : intent.quantity = order.originalQuantity

/-- The bid of a taker and its maker. -/
def bidOf (taker maker : Order) : Order :=
  match taker.side with
  | .bid => taker
  | .ask => maker

/-- The ask of a taker and its maker. -/
def askOf (taker maker : Order) : Order :=
  match taker.side with
  | .bid => maker
  | .ask => taker

/-- A fill is for no more than its maker and its taker have left. The taker has
    less left at each further maker, but never more than at the start. -/
theorem serve_quantity {queue : List (Stamped Order)} {taker : Order} {k : Nat} {f : Fill}
    {m : Stamped Order} (h : (serve queue taker).1[k]? = some f) (hm : queue[k]? = some m) :
    f.quantity.get.val ≤ m.item.remaining ∧ f.quantity.get.val ≤ taker.remaining := by
  induction queue, taker using serve_induction generalizing k with
  | nil taker => exact absurd hm (by simp only [List.getElem?_nil, reduceCtorEq, not_false_eq_true])
  | stop x rest taker ht =>
      rw [serve_stop ht] at h
      exact absurd h (by simp only [List.getElem?_nil, reduceCtorEq, not_false_eq_true])
  | exhaust x rest taker q ht hq ih =>
      have hsize := (tradeSize_eq_some.mp ht).1
      rw [serve_exhaust ht hq] at h
      cases k with
      | zero =>
          rw [List.getElem?_cons_zero, Option.some.injEq] at h hm
          rw [← h, ← hm]
          change q.get.val ≤ _ ∧ q.get.val ≤ _
          omega
      | succ k =>
          -- The later fills are of a taker that has less than it came with.
          have hrest := ih (k := k) h hm
          rw [Order.fill_remaining] at hrest
          omega
  -- The last maker takes all the taker has left, so there is only this fill.
  | partly x rest taker q ht hq =>
      have hsize := (tradeSize_eq_some.mp ht).1
      rw [serve_partly ht hq] at h
      cases k with
      | zero =>
          rw [List.getElem?_cons_zero, Option.some.injEq] at h hm
          rw [← h, ← hm]
          change q.get.val ≤ _ ∧ q.get.val ≤ _
          omega
      | succ k => exact absurd h (by simp only [List.getElem?_cons_succ, List.getElem?_nil,
          reduceCtorEq, not_false_eq_true])

/-- What is left of the seven rules for two orders that the engine would match:
    their traders differ and their markets agree. All the others follow from the
    match and from the slot. -/
theorem rules_of_match {maker taker : Order} (hside : maker.side = taker.side.opposite)
    (hcross : Crosses taker maker) {quantity : Quantity}
    (hmaker : quantity ≤ maker.originalQuantity) (htaker : quantity ≤ taker.originalQuantity)
    {bid ask : OrderIntent} {slot : Word 64}
    (hbid : bid.Carries (bidOf taker maker)) (hask : ask.Carries (askOf taker maker))
    (hlive : bid.isExpired slot = false ∧ ask.isExpired slot = false) :
    SignedFill.Rules bid ask maker.price quantity slot
      ↔ taker.traderId ≠ maker.traderId ∧ taker.marketId = maker.marketId := by
  unfold bidOf at hbid
  unfold askOf at hask
  cases hs : taker.side with
  | bid =>
      rw [hs] at hside
      simp only [hs] at hbid hask
      -- The taker buys at the price of the maker, which is within its limit.
      have hlimit := hcross.1 hs
      constructor
      · intro h
        have htraders := h.traders
        have hmarket := h.market
        rw [hbid.traderId, hask.traderId] at htraders
        rw [hbid.marketId, hask.marketId] at hmarket
        exact ⟨htraders, hmarket⟩
      · rintro ⟨htraders, hmarket⟩
        refine ⟨⟨hbid.side.trans hs, hask.side.trans hside⟩, ?_, ?_, hlive, ?_, ?_, ?_⟩
        · rw [hbid.marketId, hask.marketId, hmarket]
        · rw [hbid.traderId, hask.traderId]
          exact htraders
        · rw [hbid.price, hask.price]
          exact hlimit
        · rw [hbid.price, hask.price]
          exact ⟨hlimit, le_refl _⟩
        · rw [hbid.quantity, hask.quantity]
          exact ⟨htaker, hmaker⟩
  | ask =>
      rw [hs] at hside
      simp only [hs] at hbid hask
      -- The taker sells at the price of the maker.
      have hlimit := hcross.2 hs
      constructor
      · intro h
        have htraders := h.traders
        have hmarket := h.market
        rw [hbid.traderId, hask.traderId] at htraders
        rw [hbid.marketId, hask.marketId] at hmarket
        exact ⟨htraders.symm, hmarket.symm⟩
      · rintro ⟨htraders, hmarket⟩
        refine ⟨⟨hbid.side.trans hside, hask.side.trans hs⟩, ?_, ?_, hlive, ?_, ?_, ?_⟩
        · rw [hbid.marketId, hask.marketId, hmarket]
        · rw [hbid.traderId, hask.traderId]
          exact htraders.symm
        · rw [hbid.price, hask.price]
          exact hlimit
        · rw [hbid.price, hask.price]
          exact ⟨le_refl _, hlimit⟩
        · rw [hbid.quantity, hask.quantity]
          exact ⟨hmaker, htaker⟩

/-- The fills an order is answered, in every application reached. The fill at
    a place in the list is between the taker and the order that rests at this
    place on the other side, and is valid for all signed orders that carry the
    two and are not expired exactly when the traders of the two differ and
    their markets agree. -/
theorem execute_validates (sha256 : List Byte → OrderHash) (market : MarketSpec)
    (commands : List Command) (c : CommandId) (taker : Order) (fills : List Fill)
    (h : ((Run.after ExchangeApplication.execute (.new market) commands).execute
      (.placeOrder c taker)).1 = .ok fills) (k : Nat) (f : Fill) (hf : fills[k]? = some f) :
    ∃ maker, ((Run.after ExchangeApplication.execute (.new market) commands).matching.book
        taker.side.opposite).orders[k]? = some maker ∧
      f = Fill.new maker taker maker.price f.quantity ∧
      ∀ (bid ask : SignedOrder) (slot : Word 64), bid.intent.Carries (bidOf taker maker) →
        ask.intent.Carries (askOf taker maker) → bid.intent.isExpired slot = false →
        ask.intent.isExpired slot = false →
        ((∃ fill, validateSignedFill sha256 bid ask f.price f.quantity slot = .ok fill)
          ↔ taker.traderId ≠ maker.traderId ∧ taker.marketId = maker.marketId) := by
  have htraced := run_traced market commands
  rcases htraced.represents with ⟨hrep, hsound, -⟩
  have hx := execute_executed (Run.after ExchangeApplication.execute (.new market) commands)
    (.placeOrder c taker)
  rw [h] at hx
  rcases htraced.served hx with ⟨-, hserve, -⟩
  rw [hserve] at hf
  -- The fill is with the order at its place in the queue.
  rcases serve_priority _ taker k f hf with ⟨m, hm, hfill, hcross, -⟩
  have hquantity := serve_quantity hf hm
  have hside := (hsound.resting _ m (List.mem_of_getElem? hm)).1
  refine ⟨m.item, ?_, hfill, fun bid ask slot hbid hask hb ha => ?_⟩
  · rw [(hrep taker.side.opposite).2, List.getElem?_map, hm]
    rfl
  · rw [validateSignedFill_isOk, show f.price = m.item.price from congrArg Fill.price hfill]
    -- The signed quantities are those the two orders came with.
    have hmaker : f.quantity ≤ m.item.originalQuantity :=
      (NonZero.le_iff _ _).mpr (hquantity.1.trans m.item.remaining_le)
    have htaker : f.quantity ≤ taker.originalQuantity :=
      (NonZero.le_iff _ _).mpr (hquantity.2.trans taker.remaining_le)
    exact rules_of_match hside hcross hmaker htaker hbid hask ⟨hb, ha⟩

/-- A signed order with the terms of an order, expiring after slot 100. -/
def SignedOrder.sample (o : Order) : SignedOrder :=
  ⟨⟨o.id, o.traderId, o.marketId, o.side, o.price, o.originalQuantity, ⟨1, Nat.succ_pos _⟩,
    ⟨100, Nat.succ_pos _⟩⟩, 7, 9⟩

/-- It carries the order it was made from. -/
theorem SignedOrder.sample_carries (o : Order) : (SignedOrder.sample o).intent.Carries o :=
  ⟨rfl, rfl, rfl, rfl, rfl, rfl⟩

/-- A bid of trader two in market one. -/
theorem execute_validates_twoTraders :
    ∃ fill, validateSignedFill (fun _ => 0)
      (SignedOrder.sample (sampleTaker ⟨2, by decide⟩ ⟨1, by decide⟩))
      (SignedOrder.sample sampleMaker) ⟨10, by decide⟩ ⟨3, by decide⟩ 100 = .ok fill := by
  rcases execute_validates (fun _ => 0) sampleMarket (sampleCommands ⟨2, by decide⟩)
    ⟨4, by decide⟩ (sampleTaker ⟨2, by decide⟩ ⟨1, by decide⟩)
    [sampleFill ⟨2, by decide⟩ ⟨1, by decide⟩] (by decide) 0 _ rfl with ⟨maker, hmaker, -, hvalid⟩
  have heq : maker = sampleMaker := Option.some.inj (hmaker.symm.trans (by decide))
  rw [heq] at hvalid
  exact (hvalid _ _ 100 (SignedOrder.sample_carries _) (SignedOrder.sample_carries _) rfl
    rfl).mpr (by decide)

/-- A fill of trader one with itself is not valid, and neither is one of two
    markets. -/
theorem execute_validates_unchecked :
    (¬ ∀ (sha256 : List Byte → OrderHash) (market : MarketSpec) (commands : List Command)
      (c : CommandId) (taker : Order) (fills : List Fill),
      ((Run.after ExchangeApplication.execute (.new market) commands).execute
        (.placeOrder c taker)).1 = .ok fills →
      ∀ (k : Nat) (f : Fill) (maker : Order), fills[k]? = some f →
      ((Run.after ExchangeApplication.execute (.new market) commands).matching.book
        taker.side.opposite).orders[k]? = some maker →
      ∀ (bid ask : SignedOrder) (slot : Word 64), bid.intent.Carries (bidOf taker maker) →
        ask.intent.Carries (askOf taker maker) → bid.intent.isExpired slot = false →
        ask.intent.isExpired slot = false →
        ∃ fill, validateSignedFill sha256 bid ask f.price f.quantity slot = .ok fill) ∧
    ((Run.after ExchangeApplication.execute (.new sampleMarket)
        (sampleCommands ⟨2, by decide⟩)).execute
        (.placeOrder ⟨4, by decide⟩ (sampleTaker ⟨2, by decide⟩ ⟨2, by decide⟩))).1
      = .ok [sampleFill ⟨2, by decide⟩ ⟨2, by decide⟩] ∧
    validateSignedFill (fun _ => 0)
        (SignedOrder.sample (sampleTaker ⟨2, by decide⟩ ⟨2, by decide⟩))
        (SignedOrder.sample sampleMaker) ⟨10, by decide⟩ ⟨3, by decide⟩ 100
      = .error .signedOrderMarketMismatch := by
  refine ⟨fun h => ?_, by decide, by decide⟩
  rcases h (fun _ => 0) sampleMarket (sampleCommands ⟨1, by decide⟩) ⟨4, by decide⟩
    (sampleTaker ⟨1, by decide⟩ ⟨1, by decide⟩) [sampleFill ⟨1, by decide⟩ ⟨1, by decide⟩]
    (by decide) 0 _ sampleMaker rfl (by decide) _ _ 100 (SignedOrder.sample_carries _)
    (SignedOrder.sample_carries _) rfl rfl with ⟨fill, hfill⟩
  exact absurd ((validateSignedFill_isOk _).mp ⟨fill, hfill⟩).traders (by decide)

end Exchange

end SolanaLab
