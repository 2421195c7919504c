import SolanaLab.Exchange.SignedFill
import SolanaLab.Settlement.Settle

/-!
# Two Lists of Rules

The rules of a signed fill exist twice. The exchange checks them on its own
types, whose prices and quantities cannot be zero, and the settlement program
checks them on plain words, with keys in place of ids. The two lists have
different lengths, orders and errors.

`Corresponds` relates an intent to a payload field by field, under any maps
from traders and markets to keys. When the maps are injective the lists accept
the same fills: what the program checks beyond the exchange, the newtypes of
the exchange have already checked, and the other checks are the same up to the
maps. The quote amount is one product. It always fits into 128 bits, and the
program accepts it when it fits into 64.

## Main definitions

* `signedOrderSide`: A side as the program writes it.
* `Corresponds`: An intent and a payload agree field by field.
* `payloadOf`: The payload of an intent.

## Theorems

* `validateSignedOrderPayload_eq_ok`: When the program accepts a payload.
* `validateSignedFillRules_eq_ok`: When the program accepts a fill.
* `quoteAmountU64_isOk`: When the program accepts a quote amount.
* `validators_agree`: The two lists accept the same fills.
-/

namespace SolanaLab

namespace Relayer

open Checked Exchange Settlement

/-- `signed_order_side`. -/
def signedOrderSide : Side → SignedOrderSide
  | .bid => .bid
  | .ask => .ask

/-- The two sides stay two. -/
theorem signedOrderSide_injective : Function.Injective signedOrderSide := by
  intro a b h
  cases a <;> cases b <;> first | rfl | exact absurd h (by
    simp only [signedOrderSide, reduceCtorEq, not_false_eq_true])

/-- An intent and a payload agree field by field, under a map from traders and
    one from markets to keys. The order id is the one field that does not always
    fit: the exchange has 128 bits for it and the program 64. -/
structure Corresponds (traderKey : TraderId → Pubkey) (marketKey : MarketId → Pubkey)
    (intent : OrderIntent) (payload : SignedOrderPayload) : Prop where
  orderId : payload.orderId.val = intent.orderId.get.val
  marketConfig : payload.marketConfig = marketKey intent.marketId
  trader : payload.trader = traderKey intent.traderId
  side : payload.side = signedOrderSide intent.side
  price : payload.price = intent.price.get
  quantity : payload.quantity = intent.quantity.get
  nonce : payload.nonce = intent.nonce.get
  expirySlot : payload.expirySlot = intent.expirySlot.get

/-- The program accepts a payload for a market, a trader and a side when they
    are the payload's own and none of its numbers is zero. -/
theorem validateSignedOrderPayload_eq_ok {order : SignedOrderPayload} {market trader : Pubkey}
    {side : SignedOrderSide} :
    validateSignedOrderPayload order market trader side = .ok ()
      ↔ order.marketConfig = market ∧ order.trader = trader ∧ order.side = side ∧
        0 < order.orderId.val ∧ 0 < order.price.val ∧ 0 < order.quantity.val ∧
        0 < order.nonce.val ∧ 0 < order.expirySlot.val := by
  simp only [validateSignedOrderPayload, bind_eq_ok, requireCode_eq_ok]
  constructor
  · rintro ⟨_, h1, _, h2, _, h3, _, h4, _, h5, _, h6, _, h7, h8⟩
    exact ⟨h1, h2, h3, h4, h5, h6, h7, h8⟩
  · rintro ⟨h1, h2, h3, h4, h5, h6, h7, h8⟩
    exact ⟨⟨⟩, h1, ⟨⟩, h2, ⟨⟩, h3, ⟨⟩, h4, ⟨⟩, h5, ⟨⟩, h6, ⟨⟩, h7, h8⟩

/-- The program accepts a fill when its traders differ, neither order is past
    its slot, the limits cross and price and quantity are within them. -/
theorem validateSignedFillRules_eq_ok {args : SignedFillArgs} {slot : Word 64} :
    validateSignedFillRules args slot = .ok ()
      ↔ args.buyerOrder.trader ≠ args.sellerOrder.trader ∧
        (slot.val ≤ args.buyerOrder.expirySlot.val ∧
          slot.val ≤ args.sellerOrder.expirySlot.val) ∧
        args.sellerOrder.price.val ≤ args.buyerOrder.price.val ∧
        (args.fillPrice.val ≤ args.buyerOrder.price.val ∧
          args.sellerOrder.price.val ≤ args.fillPrice.val) ∧
        (args.fillQuantity.val ≤ args.buyerOrder.quantity.val ∧
          args.fillQuantity.val ≤ args.sellerOrder.quantity.val) := by
  simp only [validateSignedFillRules, bind_eq_ok, requireCode_eq_ok]
  constructor
  · rintro ⟨_, h1, _, h2, _, h3, _, h4, h5⟩
    exact ⟨h1, h2, h3, h4, h5⟩
  · rintro ⟨h1, h2, h3, h4, h5⟩
    exact ⟨⟨⟩, h1, ⟨⟩, h2, ⟨⟩, h3, ⟨⟩, h4, h5⟩

/-- The program accepts a quote amount when it fits into 64 bits. -/
theorem quoteAmountU64_isOk {price quantity : Word 64} :
    (∃ quote, quoteAmountU64 price quantity = .ok quote) ↔ price.val * quantity.val < 2 ^ 64 := by
  constructor
  · rintro ⟨quote, h⟩
    rw [← quoteAmountU64_eq_ok h]
    exact quote.isLt
  · intro h
    have hwide : price.val * quantity.val < 2 ^ 128 := h.trans (by norm_num)
    refine ⟨⟨_, h⟩, ?_⟩
    simp only [quoteAmountU64, bind_eq_ok, okOr_eq_ok, checkedMul_eq_some, narrow_eq_some]
    exact ⟨⟨_, hwide⟩, rfl, rfl⟩

section Agreement

variable {traderKey : TraderId → Pubkey} {marketKey : MarketId → Pubkey}

/-- A payload that corresponds to an intent has no zero in it. -/
theorem Corresponds.accepted {intent : OrderIntent} {payload : SignedOrderPayload}
    (h : Corresponds traderKey marketKey intent payload) (market : Pubkey)
    (side : SignedOrderSide) :
    validateSignedOrderPayload payload market payload.trader side = .ok ()
      ↔ marketKey intent.marketId = market ∧ signedOrderSide intent.side = side := by
  rw [validateSignedOrderPayload_eq_ok, h.marketConfig, h.side, h.orderId, h.price, h.quantity,
    h.nonce, h.expirySlot]
  constructor
  · rintro ⟨hmarket, -, hside, -⟩
    exact ⟨hmarket, hside⟩
  · rintro ⟨hmarket, hside⟩
    exact ⟨hmarket, rfl, hside, intent.orderId.pos, intent.price.pos, intent.quantity.pos,
      intent.nonce.pos, intent.expirySlot.pos⟩

/-- An order is good up to and including its slot, in the exchange as in the
    program. -/
theorem not_isExpired {intent : OrderIntent} {slot : Word 64} :
    intent.isExpired slot = false ↔ slot.val ≤ intent.expirySlot.get.val := by
  rw [OrderIntent.isExpired, decide_eq_false_iff_not, gt_iff_lt, not_lt]
  exact Iff.rfl

/-- The exchange and the program accept the same signed fills, and compute the
    same quote amount, which overflows 128 bits for neither. -/
theorem validators_agree (sha256 : List Byte → OrderHash)
    (htrader : Function.Injective traderKey) (hmarket : Function.Injective marketKey)
    (bid ask : SignedOrder) (b a : SignedOrderPayload)
    (hb : Corresponds traderKey marketKey bid.intent b)
    (ha : Corresponds traderKey marketKey ask.intent a) (price : Price) (quantity : Quantity)
    (slot : Word 64) (args : SignedFillArgs) :
    ((∃ fill, validateSignedFill sha256 bid ask price quantity slot = .ok fill ∧
        fill.quoteAmount.val < 2 ^ 64)
      ↔ validateSignedOrderPayload b (marketKey bid.intent.marketId) b.trader .bid = .ok () ∧
        validateSignedOrderPayload a (marketKey bid.intent.marketId) a.trader .ask = .ok () ∧
        validateSignedFillRules { args with
          fillPrice := price.get, fillQuantity := quantity.get
          buyerOrder := b, sellerOrder := a } slot = .ok () ∧
        ∃ quote, quoteAmountU64 price.get quantity.get = .ok quote) ∧
    (∀ fill quote, validateSignedFill sha256 bid ask price quantity slot = .ok fill →
      quoteAmountU64 price.get quantity.get = .ok quote →
      fill.quoteAmount.val = quote.val) ∧
    ∃ wide, checkedMul (w := 128)
      (price.get.castLE (Nat.pow_le_pow_right Nat.two_pos (by decide)))
      (quantity.get.castLE (Nat.pow_le_pow_right Nat.two_pos (by decide))) = some wide ∧
      price.quoteCost quantity = .ok wide := by
  rcases price.quoteCost_eq quantity with ⟨cost, hcost, hval⟩
  refine ⟨?_, fun fill quote hfill hquote => ?_, cost, okOr_eq_ok.mp hcost, hcost⟩
  · rw [hb.accepted, ha.accepted, validateSignedFillRules_eq_ok, quoteAmountU64_isOk]
    -- From here on the payloads are the intents under the two maps.
    simp only [hb.trader, ha.trader, hb.expirySlot, ha.expirySlot, hb.price, ha.price,
      hb.quantity, ha.quantity]
    constructor
    -- Traders that differ have different keys, which is where the map must be injective.
    · rintro ⟨fill, hfill, hlt⟩
      rcases (validateSignedFill_eq_ok sha256).mp hfill with ⟨hrules, hquote, -⟩
      rw [hcost, Except.ok.injEq] at hquote
      rw [← hquote, hval] at hlt
      refine ⟨⟨trivial, ?_⟩, ⟨?_, ?_⟩, ⟨?_, ?_, hrules.cross, hrules.price, hrules.quantity⟩, hlt⟩
      · rw [hrules.sides.1]
        rfl
      · rw [hrules.market]
      · rw [hrules.sides.2]
        rfl
      · exact fun h => hrules.traders (htrader h)
      · exact ⟨not_isExpired.mp hrules.notExpired.1, not_isExpired.mp hrules.notExpired.2⟩
    · rintro ⟨⟨-, hbid⟩, ⟨hsame, hask⟩, ⟨htraders, hslots, hcross, hprice, hquantity⟩, hlt⟩
      -- Different keys are keys of different traders, and one key is of one market.
      have hrules : SignedFill.Rules bid.intent ask.intent price quantity slot :=
        { sides := ⟨signedOrderSide_injective hbid, signedOrderSide_injective hask⟩
          market := (hmarket hsame).symm
          traders := fun h => htraders (congrArg traderKey h)
          notExpired := ⟨not_isExpired.mpr hslots.1, not_isExpired.mpr hslots.2⟩
          cross := hcross
          price := hprice
          quantity := hquantity }
      refine ⟨⟨bid.hash sha256, ask.hash sha256, _, _, _, _, _, cost⟩,
        (validateSignedFill_eq_ok sha256).mpr ⟨hrules, hcost, rfl⟩, ?_⟩
      rw [hval]
      exact hlt
  · rcases (validateSignedFill_eq_ok sha256).mp hfill with ⟨-, hamount, -⟩
    rw [hcost, Except.ok.injEq] at hamount
    rw [← hamount, hval, quoteAmountU64_eq_ok hquote]

/-- The payload of an intent whose order id fits into 64 bits. -/
def payloadOf (traderKey : TraderId → Pubkey) (marketKey : MarketId → Pubkey)
    (intent : OrderIntent) (h : intent.orderId.get.val < 2 ^ 64) : SignedOrderPayload where
  orderId := ⟨intent.orderId.get.val, h⟩
  marketConfig := marketKey intent.marketId
  trader := traderKey intent.traderId
  side := signedOrderSide intent.side
  price := intent.price.get
  quantity := intent.quantity.get
  nonce := intent.nonce.get
  expirySlot := intent.expirySlot.get

/-- The payload of an intent agrees with it in every field. -/
theorem payloadOf_corresponds (intent : OrderIntent) (h : intent.orderId.get.val < 2 ^ 64) :
    Corresponds traderKey marketKey intent (payloadOf traderKey marketKey intent h) :=
  ⟨rfl, rfl, rfl, rfl, rfl, rfl, rfl, rfl⟩

/-- An id read as a key. -/
def idKey {w : Nat} (h : w ≤ 256) (id : NonZero w) : Pubkey :=
  id.get.castLE (Nat.pow_le_pow_right Nat.two_pos h)

/-- Different ids read as different keys. -/
theorem idKey_injective {w : Nat} (h : w ≤ 256) : Function.Injective (idKey (w := w) h) :=
  fun _ _ heq => NonZero.ext (Fin.castLE_injective _ heq)

/-- A bid of trader two and an ask of trader one, at the slot they expire. -/
theorem validators_agree_atExpiry :
    let bid := SignedOrder.sample (sampleTaker ⟨2, by decide⟩ ⟨1, by decide⟩)
    let ask := SignedOrder.sample sampleMaker
    validateSignedFillRules
      { settlementId := 0, buyerOrderHash := 0, sellerOrderHash := 0, buyerSignature := 0
        sellerSignature := 0, fillPrice := 10, fillQuantity := 3
        buyerOrder := payloadOf (idKey (by decide)) (idKey (by decide)) bid.intent (by decide)
        sellerOrder := payloadOf (idKey (by decide)) (idKey (by decide)) ask.intent (by decide) }
      100 = .ok () := by
  intro bid ask
  have h := validators_agree (fun _ => 0) (idKey_injective (w := 64) (by decide))
    (idKey_injective (w := 32) (by decide)) bid ask _ _
    (payloadOf_corresponds bid.intent (by decide)) (payloadOf_corresponds ask.intent (by decide))
    ⟨10, by decide⟩ ⟨3, by decide⟩ 100 ⟨0, 10, 3, 0, 0, payloadOf (idKey (by decide))
      (idKey (by decide)) bid.intent (by decide), 0, payloadOf (idKey (by decide))
      (idKey (by decide)) ask.intent (by decide), 0⟩
  -- The exchange accepts it, so the program does.
  exact (h.1.mp ⟨⟨0, 0, ⟨2, by decide⟩, ⟨1, by decide⟩, ⟨1, by decide⟩, ⟨10, by decide⟩,
    ⟨3, by decide⟩, 30⟩, by decide, by decide⟩).2.2.1

end Agreement

end Relayer

end SolanaLab
