import SolanaLab.Relayer.Agreement
import SolanaLab.Settlement.SignedOrders

/-!
# The Settlement Bridge

From the fills of an order to the requests that settle them on chain.

The application describes a fill by a settlement intent, which names the two
orders and says who buys and who sells. The bridge looks both orders up among
the signed orders that traders have registered and builds a request out of the
two payloads. `requestFromIntent` is the body of its loop, and
`requestFromIntent_eq_ok` says when it succeeds. Under it lies
`requestFromOrders`, which takes the results of the two lookups as they come:
the service keeps its signed orders under a lock that it releases between the
two, so there they need not come from one and the same source.

Two questions are asked of the bridge. One is whether it lets everything
through that should settle: `requestsFromBatch_complete` follows the fills of
the matching engine through the two derivations of buyer and seller. The other
is whether it lets anything through that cannot settle, and there it checks
less than the settlement program does. `requestsFromBatch_settleable` says
what is left for the registered orders to satisfy.

## Main definitions

* `SettlementBatch.fromOrderFills`: The intents of an order's fills.
* `SettlementSignedOrder`: A registered signed order.
* `registerSignedOrder`: The registration of a signed order.
* `ApplicationSettlementBridge.requestFromOrders`: The request for an intent
  and what the lookups of its two orders have found.
* `ApplicationSettlementBridge.requestsFromBatch`: The requests of a batch.
* `Settleable`: A request passes the checks that read no ledger state.
* `Registers`: The source has the payload of an order.

## Theorems

* `requestFromOrders_eq_ok`: When two lookups become a request.
* `requestFromIntent_eq_ok`: When an intent becomes a request.
* `requestsFrom_eq_ok`: When a batch becomes requests.
* `requestsFrom_settlementIds`: The settlement ids of a batch.
* `requestsFromBatch_settleable`: Which requests can settle.
* `requestsFromBatch_complete`: The fills of the engine become requests.
-/

namespace SolanaLab

namespace Relayer

open Checked Exchange Settlement PriorityQueue

/-! ### Batches -/

/-- `application::SettlementIntent`. -/
structure SettlementIntent where
  marketId : MarketId
  buyerTraderId : TraderId
  sellerTraderId : TraderId
  makerOrderId : OrderId
  takerOrderId : OrderId
  price : Price
  quantity : Quantity
deriving DecidableEq

/-- `SettlementIntent::from_fill`. The taker's side says who buys, and the maker
    is on the other side. -/
def SettlementIntent.fromFill (takerOrder : Order) (fill : Fill) : SettlementIntent :=
  let traders := match takerOrder.side with
    | .bid => (fill.takerTraderId, fill.makerTraderId)
    | .ask => (fill.makerTraderId, fill.takerTraderId)
  { marketId := takerOrder.marketId
    buyerTraderId := traders.1
    sellerTraderId := traders.2
    makerOrderId := fill.makerOrderId
    takerOrderId := fill.takerOrderId
    price := fill.price
    quantity := fill.quantity }

/-- `application::SettlementBatch`. -/
structure SettlementBatch where
  commandId : CommandId
  intents : List SettlementIntent
deriving DecidableEq

/-- `SettlementBatch::from_order_fills`. -/
def SettlementBatch.fromOrderFills (commandId : CommandId) (takerOrder : Order)
    (fills : List Fill) : SettlementBatch :=
  { commandId, intents := fills.map (SettlementIntent.fromFill takerOrder) }

/-! ### Signed orders -/

/-- `relayer::SettlementSignedOrder`. -/
structure SettlementSignedOrder where
  traderId : TraderId
  orderHash : Hash
  order : SignedOrderPayload
  signature : Settlement.Signature
deriving DecidableEq

/-- `SettlementSignedOrderSource`: the lookup of a signed order. -/
abbrev SettlementSignedOrderSource := OrderId → Option SettlementSignedOrder

/-- `SignedOrderRequest`: what a client registers. -/
structure SignedOrderRequest where
  orderId : Word 128
  traderId : Word 64
  orderHash : List Byte
  traderPubkey : List Byte
  marketConfig : List Byte
  side : Side
  price : Word 64
  quantity : Word 64
  nonce : Word 64
  expirySlot : Word 64
  signature : List Byte
deriving DecidableEq

/-- `ApiError`, of what an authorized client can meet. -/
inductive ApiError where
  | badRequest (message : String)
  | internal (message : String)
deriving DecidableEq

/-- `order_id` and `trader_id`: the zero that a newtype turns away. -/
def nonZero {w : Nat} (value : Word w) : Except ApiError (NonZero w) :=
  match NonZero.new value with
  | .ok id => .ok id
  | .error _ => .error (.badRequest "value must be non-zero")

/-- `bytes32` and `pubkey_from_bytes`. -/
def bytes32 (value : List Byte) (field : String) : Except ApiError (Word 256) :=
  okOr (wordOfBytes 256 value) (.badRequest (field ++ " must contain 32 bytes"))

/-- `bytes64`. -/
def bytes64 (value : List Byte) (field : String) : Except ApiError (Word 512) :=
  okOr (wordOfBytes 512 value) (.badRequest (field ++ " must contain 64 bytes"))

/-- The signed order a registration stores. It checks that numbers are not zero
    and that lists have the right length, and neither the hash nor the
    signature. -/
def signedOrderFromRequest (request : SignedOrderRequest) :
    Except ApiError (OrderId × SettlementSignedOrder) := do
  let orderId ← nonZero request.orderId
  let traderId ← nonZero request.traderId
  -- Order ids have 128 bits here and 64 in what is signed.
  let orderIdU64 ← okOr (narrow 64 orderId.get) (.badRequest "order_id exceeds u64")
  let orderHash ← bytes32 request.orderHash "order_hash"
  let trader ← bytes32 request.traderPubkey "trader_pubkey"
  let marketConfig ← bytes32 request.marketConfig "market_config"
  let signature ← bytes64 request.signature "signature"
  return (orderId, {
    traderId
    orderHash
    order := {
      orderId := orderIdU64
      marketConfig
      trader
      side := signedOrderSide request.side
      price := request.price
      quantity := request.quantity
      nonce := request.nonce
      expirySlot := request.expirySlot }
    signature })

/-- The signed orders registered, by order id. -/
abbrev SignedOrderStore := SortedMap OrderId SettlementSignedOrder

/-- `register_signed_order` of an authorized client: whether an order was
    replaced, and the store afterwards. -/
def registerSignedOrder (store : SignedOrderStore) (request : SignedOrderRequest) :
    Except ApiError Bool × SignedOrderStore :=
  match signedOrderFromRequest request with
  | .error e => (.error e, store)
  | .ok (orderId, signedOrder) =>
    (.ok (store.get? orderId).isSome, store.insert orderId signedOrder)

/-! ### The bridge -/

/-- `relayer::SignedSettlementRequest`. -/
structure SignedSettlementRequest where
  settlementAuthority : Pubkey
  baseMint : Pubkey
  quoteMint : Pubkey
  buyer : Pubkey
  seller : Pubkey
  payer : Pubkey
  args : SignedFillArgs
deriving DecidableEq

/-- `relayer::ApplicationSettlementBridge`. -/
structure ApplicationSettlementBridge where
  marketId : MarketId
  settlementAuthority : Pubkey
  baseMint : Pubkey
  quoteMint : Pubkey
  payer : Pubkey
deriving DecidableEq

/-- Why a batch is not bridged. The first intent that fails decides. -/
inductive ApplicationSettlementBridgeError where
  | missingSignedOrder (orderId : OrderId)
  | orderIdOutOfRange (orderId : OrderId)
  | signedOrderMismatch
  | marketMismatch
  | invalidSignedOrderSides
  | fillOutsideSignedOrders
  | settlementIdOverflow
deriving DecidableEq

/-- `validate_order`. -/
def validateOrder (orderId : OrderId) (signedOrder : SettlementSignedOrder)
    (marketConfig : Pubkey) : Except ApplicationSettlementBridgeError Unit := do
  let orderIdU64 ← okOr (narrow 64 orderId.get) (.orderIdOutOfRange orderId)
  require (signedOrder.order.orderId = orderIdU64 ∧
    signedOrder.order.marketConfig = marketConfig) .signedOrderMismatch

/-- `bid_ask_orders`. -/
def bidAskOrders (lhs rhs : SettlementSignedOrder) :
    Except ApplicationSettlementBridgeError (SettlementSignedOrder × SettlementSignedOrder) :=
  match lhs.order.side, rhs.order.side with
  | .bid, .ask => .ok (lhs, rhs)
  | .ask, .bid => .ok (rhs, lhs)
  | _, _ => .error .invalidSignedOrderSides

/-- `validate_fill`. The price is within both limits and the quantity within
    both orders. -/
def validateFill (intent : SettlementIntent) (buyer seller : SettlementSignedOrder) :
    Except ApplicationSettlementBridgeError Unit :=
  require (buyer.traderId = intent.buyerTraderId ∧ seller.traderId = intent.sellerTraderId ∧
    intent.price.get.val ≤ buyer.order.price.val ∧
    seller.order.price.val ≤ intent.price.get.val ∧
    intent.quantity.get.val ≤ buyer.order.quantity.val ∧
    intent.quantity.get.val ≤ seller.order.quantity.val) .fillOutsideSignedOrders

namespace ApplicationSettlementBridge

/-- `ApplicationSettlementBridge::market_config`. -/
def marketConfig (bridge : ApplicationSettlementBridge) (rt : Runtime) : Pubkey :=
  rt.address (.marketConfig bridge.baseMint bridge.quoteMint)

/-- The request for a fill of two signed orders. -/
def request (bridge : ApplicationSettlementBridge) (settlementId : Word 64)
    (intent : SettlementIntent) (buyer seller : SettlementSignedOrder) :
    SignedSettlementRequest where
  settlementAuthority := bridge.settlementAuthority
  baseMint := bridge.baseMint
  quoteMint := bridge.quoteMint
  buyer := buyer.order.trader
  seller := seller.order.trader
  payer := bridge.payer
  args := {
    settlementId
    fillPrice := intent.price.get
    fillQuantity := intent.quantity.get
    buyerOrderHash := buyer.orderHash
    sellerOrderHash := seller.orderHash
    buyerOrder := buyer.order
    buyerSignature := buyer.signature
    sellerOrder := seller.order
    sellerSignature := seller.signature }

/-- The body of the loop over the intents, with what its two lookups find. The
    source looks maker and taker up one after the other, each under a lock of
    its own, so the two results are separate arguments here: a registration in
    between may change what the second lookup of one order id finds. -/
def requestFromOrders (bridge : ApplicationSettlementBridge) (rt : Runtime)
    (makerFound takerFound : Option SettlementSignedOrder) (firstSettlementId : Word 64)
    (index : Nat) (intent : SettlementIntent) :
    Except ApplicationSettlementBridgeError SignedSettlementRequest := do
  require (intent.marketId = bridge.marketId) .marketMismatch
  -- The requests of a batch are numbered on from its first id.
  let offset ← okOr (toWord 64 index) .settlementIdOverflow
  let settlementId ← okOr (checkedAdd firstSettlementId offset) .settlementIdOverflow
  let maker ← okOr makerFound (.missingSignedOrder intent.makerOrderId)
  let taker ← okOr takerFound (.missingSignedOrder intent.takerOrderId)
  let sides ← bidAskOrders maker taker
  validateOrder intent.makerOrderId maker (bridge.marketConfig rt)
  validateOrder intent.takerOrderId taker (bridge.marketConfig rt)
  validateFill intent sides.1 sides.2
  return bridge.request settlementId intent sides.1 sides.2

/-- The body of the loop over the intents, for a source of signed orders that
    nothing changes while the loop runs. -/
def requestFromIntent (bridge : ApplicationSettlementBridge) (rt : Runtime)
    (signedOrders : SettlementSignedOrderSource) (firstSettlementId : Word 64) (index : Nat)
    (intent : SettlementIntent) :
    Except ApplicationSettlementBridgeError SignedSettlementRequest :=
  bridge.requestFromOrders rt (signedOrders intent.makerOrderId)
    (signedOrders intent.takerOrderId) firstSettlementId index intent

/-- The loop from an index on. -/
def requestsFrom (bridge : ApplicationSettlementBridge) (rt : Runtime)
    (signedOrders : SettlementSignedOrderSource) (firstSettlementId : Word 64) :
    Nat → List SettlementIntent →
      Except ApplicationSettlementBridgeError (List SignedSettlementRequest)
  | _, [] => .ok []
  | index, intent :: rest => do
    let request ← bridge.requestFromIntent rt signedOrders firstSettlementId index intent
    let requests ← bridge.requestsFrom rt signedOrders firstSettlementId (index + 1) rest
    return request :: requests

/-- `ApplicationSettlementBridge::requests_from_batch`. -/
def requestsFromBatch (bridge : ApplicationSettlementBridge) (rt : Runtime)
    (batch : SettlementBatch) (signedOrders : SettlementSignedOrderSource)
    (firstSettlementId : Word 64) :
    Except ApplicationSettlementBridgeError (List SignedSettlementRequest) :=
  bridge.requestsFrom rt signedOrders firstSettlementId 0 batch.intents

variable {bridge : ApplicationSettlementBridge} {rt : Runtime}
  {signedOrders : SettlementSignedOrderSource} {firstSettlementId : Word 64}

/-- Two orders of different sides are told apart, and two of one side are
    refused. -/
theorem bidAskOrders_eq_ok {lhs rhs : SettlementSignedOrder}
    {sides : SettlementSignedOrder × SettlementSignedOrder} :
    bidAskOrders lhs rhs = .ok sides
      ↔ (sides = (lhs, rhs) ∨ sides = (rhs, lhs)) ∧ sides.1.order.side = .bid ∧
        sides.2.order.side = .ask := by
  unfold bidAskOrders
  -- One case for each pair of sides, of which two are accepted.
  cases hl : lhs.order.side <;> cases hr : rhs.order.side <;>
    simp only [Except.ok.injEq, reduceCtorEq, false_iff, not_and]
  · rintro (rfl | rfl) h1 h2
    · exact absurd (hr.symm.trans h2) (by simp only [reduceCtorEq, not_false_eq_true])
    · exact absurd (hl.symm.trans h2) (by simp only [reduceCtorEq, not_false_eq_true])
  · constructor
    · rintro rfl
      exact ⟨Or.inl rfl, hl, hr⟩
    · rintro ⟨rfl | rfl, h1, -⟩
      · rfl
      · exact absurd (hr.symm.trans h1) (by simp only [reduceCtorEq, not_false_eq_true])
  · constructor
    · rintro rfl
      exact ⟨Or.inr rfl, hr, hl⟩
    · rintro ⟨rfl | rfl, h1, -⟩
      · exact absurd (hl.symm.trans h1) (by simp only [reduceCtorEq, not_false_eq_true])
      · rfl
  · rintro (rfl | rfl) h1 h2
    · exact absurd (hl.symm.trans h1) (by simp only [reduceCtorEq, not_false_eq_true])
    · exact absurd (hr.symm.trans h1) (by simp only [reduceCtorEq, not_false_eq_true])

/-- An order is the one asked for when its id and its market are. -/
theorem validateOrder_eq_ok {orderId : OrderId} {signedOrder : SettlementSignedOrder}
    {market : Pubkey} {u : Unit} :
    validateOrder orderId signedOrder market = .ok u
      ↔ signedOrder.order.orderId.val = orderId.get.val ∧
        signedOrder.order.marketConfig = market := by
  simp only [validateOrder, bind_eq_ok, okOr_eq_ok, narrow_eq_some, require_eq_ok]
  constructor
  · rintro ⟨id, hid, heq, hmarket⟩
    exact ⟨by rw [heq, hid], hmarket⟩
  · rintro ⟨hid, hmarket⟩
    exact ⟨signedOrder.order.orderId, hid, rfl, hmarket⟩

/-- What the bridge has checked of an intent and of the orders of its buyer and
    its seller, whichever of the two is the maker. -/
structure WithinOrders (bridge : ApplicationSettlementBridge) (rt : Runtime)
    (intent : SettlementIntent) (buyer seller : SettlementSignedOrder) : Prop where
  market : intent.marketId = bridge.marketId
  sides : buyer.order.side = .bid ∧ seller.order.side = .ask
  markets : buyer.order.marketConfig = bridge.marketConfig rt ∧
    seller.order.marketConfig = bridge.marketConfig rt
  traders : buyer.traderId = intent.buyerTraderId ∧ seller.traderId = intent.sellerTraderId
  price : intent.price.get.val ≤ buyer.order.price.val ∧
    seller.order.price.val ≤ intent.price.get.val
  quantity : intent.quantity.get.val ≤ buyer.order.quantity.val ∧
    intent.quantity.get.val ≤ seller.order.quantity.val

/-- What the bridge has checked of an intent and the two orders its lookups
    have found: they are its buyer's and its seller's in one order or the
    other, and have the ids of its maker and its taker. -/
structure BridgedOrders (bridge : ApplicationSettlementBridge) (rt : Runtime)
    (intent : SettlementIntent) (maker taker buyer seller : SettlementSignedOrder) : Prop
    extends WithinOrders bridge rt intent buyer seller where
  roles : (buyer, seller) = (maker, taker) ∨ (buyer, seller) = (taker, maker)
  makerId : maker.order.orderId.val = intent.makerOrderId.get.val
  takerId : taker.order.orderId.val = intent.takerOrderId.get.val

/-- What the bridge has checked of an intent and the two orders it is for. -/
structure Bridged (bridge : ApplicationSettlementBridge) (rt : Runtime)
    (signedOrders : SettlementSignedOrderSource) (intent : SettlementIntent)
    (buyer seller : SettlementSignedOrder) : Prop
    extends WithinOrders bridge rt intent buyer seller where
  orders : ∃ maker taker, signedOrders intent.makerOrderId = some maker ∧
    signedOrders intent.takerOrderId = some taker ∧
    ((buyer, seller) = (maker, taker) ∨ (buyer, seller) = (taker, maker)) ∧
    maker.order.orderId.val = intent.makerOrderId.get.val ∧
    taker.order.orderId.val = intent.takerOrderId.get.val

/-- When two lookups become a request: both have found an order, and the two
    orders bear the intent. -/
theorem requestFromOrders_eq_ok {makerFound takerFound : Option SettlementSignedOrder}
    {index : Nat} {intent : SettlementIntent} {request : SignedSettlementRequest} :
    bridge.requestFromOrders rt makerFound takerFound firstSettlementId index intent = .ok request
      ↔ ∃ settlementId maker taker buyer seller,
        settlementId.val = firstSettlementId.val + index ∧
        makerFound = some maker ∧ takerFound = some taker ∧
        BridgedOrders bridge rt intent maker taker buyer seller ∧
        request = bridge.request settlementId intent buyer seller := by
  simp only [requestFromOrders, bind_eq_ok, require_eq_ok, okOr_eq_ok, toWord_eq_some,
    checkedAdd_eq_some, bidAskOrders_eq_ok, validateOrder_eq_ok, validateFill]
  constructor
  · rintro ⟨_, hmarket, offset, hoffset, settlementId, hid, maker, hmaker, taker, htaker,
      ⟨buyer, seller⟩, ⟨hsides, hbid, hask⟩, _, ⟨hmid, hmm⟩, _, ⟨htid, htm⟩, _,
      ⟨hb, hs, hp1, hp2, hq1, hq2⟩, hrequest⟩
    -- The two market checks are of maker and taker, the two roles the other way round perhaps.
    have hmarkets : buyer.order.marketConfig = bridge.marketConfig rt ∧
        seller.order.marketConfig = bridge.marketConfig rt := by
      rcases hsides with heq | heq
      · rw [Prod.mk.injEq] at heq
        rw [heq.1, heq.2]
        exact ⟨hmm, htm⟩
      · rw [Prod.mk.injEq] at heq
        rw [heq.1, heq.2]
        exact ⟨htm, hmm⟩
    exact ⟨settlementId, maker, taker, buyer, seller, by rw [hid, hoffset], hmaker, htaker,
      ⟨⟨hmarket, ⟨hbid, hask⟩, hmarkets, ⟨hb, hs⟩, ⟨hp1, hp2⟩, ⟨hq1, hq2⟩⟩, hsides, hmid, htid⟩,
      (Except.ok.inj hrequest).symm⟩
  · rintro ⟨settlementId, maker, taker, buyer, seller, hid, hmaker, htaker, hbridged, rfl⟩
    -- The index is below the id, and so it fits.
    have hlt := settlementId.isLt
    have hmarkets : maker.order.marketConfig = bridge.marketConfig rt ∧
        taker.order.marketConfig = bridge.marketConfig rt := by
      rcases hbridged.roles with heq | heq
      · rw [Prod.mk.injEq] at heq
        rw [← heq.1, ← heq.2]
        exact hbridged.markets
      · rw [Prod.mk.injEq] at heq
        rw [← heq.1, ← heq.2]
        exact hbridged.markets.symm
    exact ⟨⟨⟩, hbridged.market, ⟨index, by omega⟩, rfl, settlementId, hid, maker, hmaker, taker,
      htaker, (buyer, seller), ⟨hbridged.roles, hbridged.sides⟩, ⟨⟩,
      ⟨hbridged.makerId, hmarkets.1⟩, ⟨⟩, ⟨hbridged.takerId, hmarkets.2⟩, ⟨⟩,
      ⟨hbridged.traders.1, hbridged.traders.2, hbridged.price.1, hbridged.price.2,
        hbridged.quantity.1, hbridged.quantity.2⟩, rfl⟩

/-- When an intent becomes a request. -/
theorem requestFromIntent_eq_ok {index : Nat} {intent : SettlementIntent}
    {request : SignedSettlementRequest} :
    bridge.requestFromIntent rt signedOrders firstSettlementId index intent = .ok request
      ↔ ∃ settlementId buyer seller, settlementId.val = firstSettlementId.val + index ∧
        Bridged bridge rt signedOrders intent buyer seller ∧
        request = bridge.request settlementId intent buyer seller := by
  rw [requestFromIntent, requestFromOrders_eq_ok]
  constructor
  · rintro ⟨settlementId, maker, taker, buyer, seller, hid, hmaker, htaker, hbridged, hrequest⟩
    exact ⟨settlementId, buyer, seller, hid, ⟨hbridged.toWithinOrders, maker, taker, hmaker,
      htaker, hbridged.roles, hbridged.makerId, hbridged.takerId⟩, hrequest⟩
  · rintro ⟨settlementId, buyer, seller, hid, hbridged, hrequest⟩
    rcases hbridged.orders with ⟨maker, taker, hmaker, htaker, hroles, hmid, htid⟩
    exact ⟨settlementId, maker, taker, buyer, seller, hid, hmaker, htaker,
      ⟨hbridged.toWithinOrders, hroles, hmid, htid⟩, hrequest⟩

/-- A batch becomes requests when each of its intents does, in order. By
    induction along the intents, with the index as the offset of the settlement
    id. -/
theorem requestsFrom_eq_ok {index : Nat} {intents : List SettlementIntent}
    {requests : List SignedSettlementRequest} :
    bridge.requestsFrom rt signedOrders firstSettlementId index intents = .ok requests
      ↔ requests.length = intents.length ∧ ∀ k intent, intents[k]? = some intent →
        ∃ request, requests[k]? = some request ∧
          bridge.requestFromIntent rt signedOrders firstSettlementId (index + k) intent
            = .ok request := by
  induction intents generalizing index requests with
  | nil =>
      rw [requestsFrom, Except.ok.injEq, List.length_nil, List.length_eq_zero_iff]
      constructor
      · rintro rfl
        exact ⟨rfl, fun k intent h => absurd h (by
          simp only [List.getElem?_nil, reduceCtorEq, not_false_eq_true])⟩
      · rintro ⟨h, -⟩
        exact h.symm
  | cons intent rest ih =>
      simp only [requestsFrom, bind_eq_ok, ih]
      constructor
      · rintro ⟨request, hrequest, later, ⟨hlength, hlater⟩, heq⟩
        rw [← Except.ok.inj heq]
        refine ⟨congrArg (· + 1) hlength, fun k i hk => ?_⟩
        cases k with
        | zero =>
            rw [List.getElem?_cons_zero, Option.some.injEq] at hk
            exact ⟨request, rfl, hk ▸ hrequest⟩
        | succ k =>
            rcases hlater k i hk with ⟨x, hx, hok⟩
            exact ⟨x, hx, by rw [Nat.add_comm k 1, ← Nat.add_assoc]; exact hok⟩
      · rintro ⟨hlength, h⟩
        -- The request of the first intent is the first of the requests.
        rcases h 0 intent rfl with ⟨request, hget, hok⟩
        cases requests with
        | nil => exact absurd hlength (by
            simp only [List.length_nil, List.length_cons, Nat.right_eq_add, Nat.add_eq_zero_iff,
              Nat.one_ne_zero, and_false, not_false_eq_true])
        | cons request' later =>
            rw [List.getElem?_cons_zero, Option.some.injEq] at hget
            refine ⟨request, hok, later, ⟨Nat.succ.inj hlength, fun k i hk => ?_⟩, hget ▸ rfl⟩
            rcases h (k + 1) i hk with ⟨x, hx, hxok⟩
            refine ⟨x, hx, ?_⟩
            rw [Nat.add_assoc, Nat.add_comm 1 k]
            exact hxok

/-- The requests of a batch have the settlement ids from the first on. -/
theorem requestsFrom_settlementIds {index : Nat} {intents : List SettlementIntent}
    {requests : List SignedSettlementRequest}
    (h : bridge.requestsFrom rt signedOrders firstSettlementId index intents = .ok requests) :
    requests.map (fun request => request.args.settlementId.val)
      = List.range' (firstSettlementId.val + index) intents.length := by
  induction intents generalizing index requests with
  | nil =>
      rw [requestsFrom, Except.ok.injEq] at h
      rw [← h]
      rfl
  | cons intent rest ih =>
      simp only [requestsFrom, bind_eq_ok] at h
      rcases h with ⟨request, hrequest, later, hlater, heq⟩
      rcases requestFromIntent_eq_ok.mp hrequest with ⟨settlementId, _, _, hid, -, rfl⟩
      rw [← Except.ok.inj heq, List.map_cons, ih hlater, List.length_cons, List.range'_succ]
      exact congrArg (· :: _) hid

/-- A batch becomes requests when each of its intents does. -/
theorem requestsFrom_isOk {index : Nat} {intents : List SettlementIntent}
    (h : ∀ k intent, intents[k]? = some intent → ∃ request,
      bridge.requestFromIntent rt signedOrders firstSettlementId (index + k) intent
        = .ok request) :
    ∃ requests, bridge.requestsFrom rt signedOrders firstSettlementId index intents
      = .ok requests := by
  induction intents generalizing index with
  | nil => exact ⟨[], rfl⟩
  | cons intent rest ih =>
      rcases h 0 intent rfl with ⟨request, hok⟩
      -- The rest is numbered on from the first, which is the same numbering.
      have hrest : ∀ k i, rest[k]? = some i → ∃ request,
          bridge.requestFromIntent rt signedOrders firstSettlementId (index + 1 + k) i
            = .ok request := by
        intro k i hk
        rw [Nat.add_assoc, Nat.add_comm 1 k]
        exact h (k + 1) i hk
      rcases ih hrest with ⟨requests, hrequests⟩
      refine ⟨request :: requests, ?_⟩
      simp only [requestsFrom, bind_eq_ok]
      exact ⟨request, hok, requests, hrequests, rfl⟩

/-! ### What a request is worth -/

end ApplicationSettlementBridge

/-- The checks of `settle_signed_fill` that read no ledger state, for a market
    configuration. Whether the traders can pay and how much of their orders is
    left is up to the ledger. -/
structure Settleable (rt : Runtime) (market : Pubkey) (request : SignedSettlementRequest) :
    Prop where
  price : 0 < request.args.fillPrice.val
  quantity : 0 < request.args.fillQuantity.val
  buyerOrder : validateSignedOrderPayload request.args.buyerOrder market request.buyer .bid = .ok ()
  sellerOrder :
    validateSignedOrderPayload request.args.sellerOrder market request.seller .ask = .ok ()
  rules : ∀ slot : Word 64, slot.val ≤ request.args.buyerOrder.expirySlot.val →
    slot.val ≤ request.args.sellerOrder.expirySlot.val →
    validateSignedFillRules request.args slot = .ok ()
  buyerHash : rt.sha256 request.args.buyerOrder.signingPreimage = request.args.buyerOrderHash
  sellerHash : rt.sha256 request.args.sellerOrder.signingPreimage = request.args.sellerOrderHash

/-- What the program asks of a registered order by itself and neither the
    registration nor the bridge has looked at: three numbers that are not zero,
    and a hash that is the hash of the payload. -/
structure SettlementSignedOrder.Sound (rt : Runtime) (signedOrder : SettlementSignedOrder) :
    Prop where
  price : 0 < signedOrder.order.price.val
  nonce : 0 < signedOrder.order.nonce.val
  expirySlot : 0 < signedOrder.order.expirySlot.val
  hash : rt.sha256 signedOrder.order.signingPreimage = signedOrder.orderHash

namespace ApplicationSettlementBridge

/-- Both orders of a bridged fill have an order id. -/
theorem Bridged.orderId_pos {intent : SettlementIntent} {buyer seller : SettlementSignedOrder}
    (h : Bridged bridge rt signedOrders intent buyer seller) :
    0 < buyer.order.orderId.val ∧ 0 < seller.order.orderId.val := by
  rcases h.orders with ⟨maker, taker, -, -, hsides, hmaker, htaker⟩
  have hm : 0 < maker.order.orderId.val := hmaker ▸ intent.makerOrderId.pos
  have ht : 0 < taker.order.orderId.val := htaker ▸ intent.takerOrderId.pos
  rcases hsides with heq | heq
  · rw [Prod.mk.injEq] at heq
    rw [heq.1, heq.2]
    exact ⟨hm, ht⟩
  · rw [Prod.mk.injEq] at heq
    rw [heq.1, heq.2]
    exact ⟨ht, hm⟩

/-- What the bridge has left open: whether the orders are sound, and whether
    they are of two traders. -/
theorem Bridged.settleable {intent : SettlementIntent} {buyer seller : SettlementSignedOrder}
    (h : Bridged bridge rt signedOrders intent buyer seller) (settlementId : Word 64) :
    Settleable rt (bridge.marketConfig rt) (bridge.request settlementId intent buyer seller)
      ↔ buyer.Sound rt ∧ seller.Sound rt ∧ buyer.order.trader ≠ seller.order.trader := by
  have hid := h.orderId_pos
  have hprice := intent.price.pos
  have hquantity := intent.quantity.pos
  constructor
  · intro hs
    rcases validateSignedOrderPayload_eq_ok.mp hs.buyerOrder with ⟨-, -, -, -, hbp, -, hbn, hbe⟩
    rcases validateSignedOrderPayload_eq_ok.mp hs.sellerOrder with ⟨-, -, -, -, hsp, -, hsn, hse⟩
    -- No order expires before slot zero.
    have hrules := hs.rules 0 (Nat.zero_le _) (Nat.zero_le _)
    exact ⟨⟨hbp, hbn, hbe, hs.buyerHash⟩, ⟨hsp, hsn, hse, hs.sellerHash⟩,
      (validateSignedFillRules_eq_ok.mp hrules).1⟩
  · rintro ⟨hb, hs, htraders⟩
    -- The quantity of the fill is positive and within both quantities.
    have hbq : 0 < buyer.order.quantity.val := lt_of_lt_of_le hquantity h.quantity.1
    have hsq : 0 < seller.order.quantity.val := lt_of_lt_of_le hquantity h.quantity.2
    refine ⟨hprice, hquantity, ?_, ?_, fun slot hbs hss => ?_, hb.hash, hs.hash⟩
    · exact validateSignedOrderPayload_eq_ok.mpr
        ⟨h.markets.1, rfl, h.sides.1, hid.1, hb.price, hbq, hb.nonce, hb.expirySlot⟩
    · exact validateSignedOrderPayload_eq_ok.mpr
        ⟨h.markets.2, rfl, h.sides.2, hid.2, hs.price, hsq, hs.nonce, hs.expirySlot⟩
    · exact validateSignedFillRules_eq_ok.mpr
        ⟨htraders, ⟨hbs, hss⟩, h.price.2.trans h.price.1, h.price, h.quantity⟩

/-- The requests of a batch can all settle exactly when each intent is for two
    sound orders with different trader keys. -/
theorem requestsFromBatch_settleable (bridge : ApplicationSettlementBridge) (rt : Runtime)
    (batch : SettlementBatch) (signedOrders : SettlementSignedOrderSource)
    (firstSettlementId : Word 64) (requests : List SignedSettlementRequest)
    (h : bridge.requestsFromBatch rt batch signedOrders firstSettlementId = .ok requests) :
    (∀ request ∈ requests, Settleable rt (bridge.marketConfig rt) request)
      ↔ ∀ intent ∈ batch.intents, ∀ maker taker, signedOrders intent.makerOrderId = some maker →
        signedOrders intent.takerOrderId = some taker →
        maker.Sound rt ∧ taker.Sound rt ∧ maker.order.trader ≠ taker.order.trader := by
  rcases requestsFrom_eq_ok.mp h with ⟨hlength, hrequests⟩
  -- The two roles of an intent are its maker and its taker, either way round.
  have hroles : ∀ {intent buyer seller maker taker},
      Bridged bridge rt signedOrders intent buyer seller →
      signedOrders intent.makerOrderId = some maker →
      signedOrders intent.takerOrderId = some taker →
      ((buyer.Sound rt ∧ seller.Sound rt ∧ buyer.order.trader ≠ seller.order.trader)
        ↔ maker.Sound rt ∧ taker.Sound rt ∧ maker.order.trader ≠ taker.order.trader) := by
    intro intent buyer seller maker taker hb hmaker htaker
    rcases hb.orders with ⟨m, t, hm, ht, hsides, -⟩
    rw [hmaker, Option.some.injEq] at hm
    rw [htaker, Option.some.injEq] at ht
    rcases hsides with heq | heq
    · rw [Prod.mk.injEq, ← hm, ← ht] at heq
      rw [heq.1, heq.2]
    · rw [Prod.mk.injEq, ← hm, ← ht] at heq
      rw [heq.1, heq.2, ne_comm]
      exact and_left_comm
  constructor
  · intro hall intent hintent maker taker hmaker htaker
    rcases List.getElem?_of_mem hintent with ⟨k, hk⟩
    rcases hrequests k intent hk with ⟨request, hget, hok⟩
    rcases requestFromIntent_eq_ok.mp hok with ⟨id, buyer, seller, -, hbridged, rfl⟩
    have hsettles := hall _ (List.mem_of_getElem? hget)
    exact (hroles hbridged hmaker htaker).mp ((hbridged.settleable id).mp hsettles)
  -- A request is made of the intent at its index, so it is settleable with the orders of
  -- this one.
  · intro hall request hrequest
    rcases List.getElem?_of_mem hrequest with ⟨k, hk⟩
    have hlt : k < batch.intents.length := by
      rw [← hlength]
      exact (List.getElem?_eq_some_iff.mp hk).1
    have hintent := List.getElem?_eq_getElem hlt
    rcases hrequests k _ hintent with ⟨request', hget, hok⟩
    rw [hk, Option.some.injEq] at hget
    rw [← hget] at hok
    rcases requestFromIntent_eq_ok.mp hok with ⟨id, buyer, seller, -, hbridged, rfl⟩
    rcases hbridged.orders with ⟨maker, taker, hmaker, htaker, -⟩
    exact (hbridged.settleable id).mpr ((hroles hbridged hmaker htaker).mpr
      (hall _ (List.mem_of_getElem? hintent) maker taker hmaker htaker))

/-! ### Two registered orders -/

/-- A bridge to the sample market. -/
def sampleBridge : ApplicationSettlementBridge :=
  ⟨⟨1, Nat.succ_pos _⟩, sampleAuthority, 10, 11, sampleAuthority⟩

/-- The registration of a payload with its hash. -/
def sampleRegistration (traderId : Word 64) (side : Side) (order : SignedOrderPayload)
    (signature : Settlement.Signature) : SignedOrderRequest where
  orderId := order.orderId.castLE two_pow_64_le_128
  traderId
  orderHash := Hash.bytes (sampleSignedRuntime.orderHash order)
  traderPubkey := order.trader.bytes
  marketConfig := order.marketConfig.bytes
  side
  price := order.price
  quantity := order.quantity
  nonce := order.nonce
  expirySlot := order.expirySlot
  signature := signature.bytes

/-- The orders that registrations leave. -/
def registered (requests : List SignedOrderRequest) : SettlementSignedOrderSource :=
  (Run.after registerSignedOrder SortedMap.empty requests).get?

/-- The batch of one fill, of 40 at 20, between a bid and an ask. -/
def sampleBatch (buyer seller : TraderId) : SettlementBatch where
  commandId := ⟨1, Nat.succ_pos _⟩
  intents :=
    [⟨⟨1, Nat.succ_pos _⟩, buyer, seller, ⟨2, Nat.succ_pos _⟩, ⟨1, Nat.succ_pos _⟩,
      ⟨20, Nat.succ_pos _⟩, ⟨40, Nat.succ_pos _⟩⟩]

/-- The request for the fill of the two orders. -/
def sampleRequest (ask : SignedOrderPayload) : SignedSettlementRequest :=
  sampleBridge.request 7
    ⟨⟨1, Nat.succ_pos _⟩, ⟨1, Nat.succ_pos _⟩, ⟨2, Nat.succ_pos _⟩, ⟨2, Nat.succ_pos _⟩,
      ⟨1, Nat.succ_pos _⟩, ⟨20, Nat.succ_pos _⟩, ⟨40, Nat.succ_pos _⟩⟩
    ⟨⟨1, Nat.succ_pos _⟩, sampleSignedRuntime.orderHash sampleBid, sampleBid, sampleBidSignature⟩
    ⟨⟨2, Nat.succ_pos _⟩, sampleSignedRuntime.orderHash ask, ask, sampleAskSignature⟩

/-- The orders of two traders. -/
theorem requestsFromBatch_settleable_twoTraders :
    Settleable sampleSignedRuntime (sampleBridge.marketConfig sampleSignedRuntime)
      (sampleRequest sampleAsk) := by
  have h := requestsFromBatch_settleable sampleBridge sampleSignedRuntime
    (sampleBatch ⟨1, by decide⟩ ⟨2, by decide⟩)
    (registered [sampleRegistration 1 .bid sampleBid sampleBidSignature,
      sampleRegistration 2 .ask sampleAsk sampleAskSignature]) 7 [sampleRequest sampleAsk]
    (by decide +kernel)
  refine h.mpr (fun intent hintent maker taker hmaker htaker => ?_) _ List.mem_cons_self
  rw [sampleBatch, List.mem_singleton] at hintent
  subst hintent
  have hm : maker = ⟨⟨2, by decide⟩, sampleSignedRuntime.orderHash sampleAsk, sampleAsk,
      sampleAskSignature⟩ := Option.some.inj (hmaker.symm.trans (by decide +kernel))
  have ht : taker = ⟨⟨1, by decide⟩, sampleSignedRuntime.orderHash sampleBid, sampleBid,
      sampleBidSignature⟩ := Option.some.inj (htaker.symm.trans (by decide +kernel))
  rw [hm, ht]
  exact ⟨⟨by decide, by decide, by decide, rfl⟩, ⟨by decide, by decide, by decide, rfl⟩,
    by decide⟩

/-- Two orders of one trader key, registered under two trader ids. -/
theorem requestsFromBatch_settleable_oneKey :
    ¬ ∀ (bridge : ApplicationSettlementBridge) (rt : Runtime) (batch : SettlementBatch)
      (registrations : List SignedOrderRequest) (firstSettlementId : Word 64)
      (requests : List SignedSettlementRequest),
      bridge.requestsFromBatch rt batch (registered registrations) firstSettlementId
        = .ok requests →
      ∀ request ∈ requests, Settleable rt (bridge.marketConfig rt) request := by
  intro h
  have hsettles := h sampleBridge sampleSignedRuntime (sampleBatch ⟨1, by decide⟩ ⟨2, by decide⟩)
    [sampleRegistration 1 .bid sampleBid sampleBidSignature,
      sampleRegistration 2 .ask { sampleAsk with trader := sampleBuyer } sampleAskSignature] 7
    [sampleRequest { sampleAsk with trader := sampleBuyer }] (by decide +kernel) _
    List.mem_cons_self
  exact absurd (hsettles.rules 0 (Nat.zero_le _) (Nat.zero_le _)) (by decide +kernel)

/-! ### The fills of the engine -/

/-- A source has a signed order for an order: the payload has the id, the side
    and the limits the order came with, and the bridge's market. -/
structure Registers (bridge : ApplicationSettlementBridge) (rt : Runtime)
    (signedOrders : SettlementSignedOrderSource) (o : Order) (signed : SettlementSignedOrder) :
    Prop where
  found : signedOrders o.id = some signed
  orderId : signed.order.orderId.val = o.id.get.val
  traderId : signed.traderId = o.traderId
  side : signed.order.side = signedOrderSide o.side
  price : signed.order.price = o.price.get
  quantity : signed.order.quantity = o.originalQuantity.get
  marketConfig : signed.order.marketConfig = bridge.marketConfig rt

/-- The request for a fill: its terms are the fill's, and each side is filled
    in from the side's own signed order. -/
structure Describes (request : SignedSettlementRequest) (settlementId : Nat) (fill : Fill)
    (buyer seller : SettlementSignedOrder) : Prop where
  settlementId : request.args.settlementId.val = settlementId
  price : request.args.fillPrice = fill.price.get
  quantity : request.args.fillQuantity = fill.quantity.get
  traders : request.buyer = buyer.order.trader ∧ request.seller = seller.order.trader
  orders : request.args.buyerOrder = buyer.order ∧ request.args.sellerOrder = seller.order
  hashes : request.args.buyerOrderHash = buyer.orderHash ∧
    request.args.sellerOrderHash = seller.orderHash
  signatures : request.args.buyerSignature = buyer.signature ∧
    request.args.sellerSignature = seller.signature

/-- Two orders that the engine matches pass the bridge, the bid as the buyer's
    order and the ask as the seller's. -/
theorem bridged_of_match {maker taker : Order} (hside : maker.side = taker.side.opposite)
    (hcross : Crosses taker maker) {quantity : Quantity}
    (hmaker : quantity ≤ maker.originalQuantity) (htaker : quantity ≤ taker.originalQuantity)
    (hmarket : taker.marketId = bridge.marketId)
    {m t : SettlementSignedOrder} (hm : Registers bridge rt signedOrders maker m)
    (ht : Registers bridge rt signedOrders taker t) :
    ∃ buyer seller, signedOrders (bidOf taker maker).id = some buyer ∧
      signedOrders (askOf taker maker).id = some seller ∧
      Bridged bridge rt signedOrders
        (.fromFill taker (Fill.new maker taker maker.price quantity)) buyer seller := by
  -- The batch reads the roles off the taker's side, the bridge off the payloads.
  unfold bidOf askOf
  cases hs : taker.side with
  | bid =>
      rw [hs] at hside
      refine ⟨t, m, ht.found, hm.found, ⟨hmarket, ⟨?_, ?_⟩, ⟨ht.marketConfig, hm.marketConfig⟩,
        ?_, ⟨?_, ?_⟩, ⟨?_, ?_⟩⟩, m, t, hm.found, ht.found, Or.inr rfl, hm.orderId, ht.orderId⟩
      · rw [ht.side, hs]
        rfl
      · rw [hm.side, hside]
        rfl
      · rw [ht.traderId, hm.traderId, SettlementIntent.fromFill, hs]
        exact ⟨rfl, rfl⟩
      · rw [ht.price]
        exact hcross.1 hs
      · rw [hm.price]
        exact le_refl _
      · rw [ht.quantity]
        exact htaker
      · rw [hm.quantity]
        exact hmaker
  -- The same with the roles exchanged: now the maker buys.
  | ask =>
      rw [hs] at hside
      refine ⟨m, t, hm.found, ht.found, ⟨hmarket, ⟨?_, ?_⟩, ⟨hm.marketConfig, ht.marketConfig⟩,
        ?_, ⟨?_, ?_⟩, ⟨?_, ?_⟩⟩, m, t, hm.found, ht.found, Or.inl rfl, hm.orderId, ht.orderId⟩
      · rw [hm.side, hside]
        rfl
      · rw [ht.side, hs]
        rfl
      · rw [ht.traderId, hm.traderId, SettlementIntent.fromFill, hs]
        exact ⟨rfl, rfl⟩
      · rw [hm.price]
        exact le_refl _
      · rw [ht.price]
        exact hcross.2 hs
      · rw [hm.quantity]
        exact hmaker
      · rw [ht.quantity]
        exact htaker

/-- The fills of an order that any engine reached is given become requests, one
    for each fill and in their order, when the source has the orders and the
    settlement ids do not run out. The maker may have been filled in part
    before, and its signed order still has the quantity it was signed with. -/
theorem requestsFromBatch_complete (bridge : ApplicationSettlementBridge) (rt : Runtime)
    (history : List Order) (taker : Order) (fills : List Fill) (commandId : CommandId)
    (signedOrders : SettlementSignedOrderSource) (firstSettlementId : Word 64)
    (hfills : ((MatchingEngine.new.placeAll history).placeOrder taker).1 = .ok fills)
    (hmarket : taker.marketId = bridge.marketId)
    (htaker : ∃ signed, Registers bridge rt signedOrders taker signed)
    (hmakers : ∀ maker ∈ ((MatchingEngine.new.placeAll history).book taker.side.opposite).orders,
      (∃ f ∈ fills, f.makerOrderId = maker.id) →
      ∃ signed, Registers bridge rt signedOrders maker signed)
    (hfirst : firstSettlementId.val + fills.length ≤ (Word.maxValue 64).val) :
    ∃ requests, bridge.requestsFromBatch rt (.fromOrderFills commandId taker fills) signedOrders
        firstSettlementId = .ok requests ∧ requests.length = fills.length ∧
      ∀ k f, fills[k]? = some f → ∃ maker buyer seller request,
        ((MatchingEngine.new.placeAll history).book taker.side.opposite).orders[k]? = some maker ∧
        f.makerOrderId = maker.id ∧ f.takerOrderId = taker.id ∧
        signedOrders (bidOf taker maker).id = some buyer ∧
        signedOrders (askOf taker maker).id = some seller ∧
        requests[k]? = some request ∧
        Describes request (firstSettlementId.val + k) f buyer seller := by
  rcases placeAll_spec history with ⟨hrep, hsound⟩
  have hserve : (serve ((Reference.new.placeAll history).queue taker.side.opposite) taker).1
      = fills := by
    rw [(placeOrder_spec hrep hsound.past taker).1] at hfills
    by_cases hlive : taker.isTerminal
    · rw [place_terminal _ hlive] at hfills
      exact absurd hfills (by simp only [reduceCtorEq, not_false_eq_true])
    · rw [place_answer _ hlive] at hfills
      exact Except.ok.inj hfills
  rcases htaker with ⟨t, ht⟩
  -- Each fill by itself passes the bridge.
  have hone : ∀ k f, fills[k]? = some f → ∃ maker buyer seller request,
      ((MatchingEngine.new.placeAll history).book taker.side.opposite).orders[k]? = some maker ∧
      f.makerOrderId = maker.id ∧ f.takerOrderId = taker.id ∧
      signedOrders (bidOf taker maker).id = some buyer ∧
      signedOrders (askOf taker maker).id = some seller ∧
      bridge.requestFromIntent rt signedOrders firstSettlementId (0 + k) (.fromFill taker f)
        = .ok request ∧ Describes request (firstSettlementId.val + k) f buyer seller := by
    intro k f hf
    have hk := (List.getElem?_eq_some_iff.mp hf).1
    rw [← hserve] at hf
    -- The fill is with the order at its place in the queue, at that order's price.
    rcases serve_priority _ taker k f hf with ⟨x, hx, hfill, hcross, -⟩
    have hquantity := serve_quantity hf hx
    rw [hserve] at hf
    have hmaker : ((MatchingEngine.new.placeAll history).book taker.side.opposite).orders[k]?
        = some x.item := by
      rw [(hrep taker.side.opposite).2, List.getElem?_map, hx]
      rfl
    have hmakerId : f.makerOrderId = x.item.id := congrArg Fill.makerOrderId hfill
    rcases hmakers x.item (List.mem_of_getElem? hmaker) ⟨f, List.mem_of_getElem? hf, hmakerId⟩ with
      ⟨m, hm⟩
    have hside := (hsound.resting _ x (List.mem_of_getElem? hx)).1
    rcases bridged_of_match hside hcross (hquantity.1.trans x.item.remaining_le)
      (hquantity.2.trans taker.remaining_le) hmarket hm ht with
      ⟨buyer, seller, hbuyer, hseller, hbridged⟩
    rw [← hfill] at hbridged
    -- The settlement id of the fill is below the bound.
    have hid : firstSettlementId.val + k < 2 ^ 64 := by
      have hmax : (Word.maxValue 64).val = 2 ^ 64 - 1 := rfl
      omega
    refine ⟨x.item, buyer, seller, bridge.request ⟨_, hid⟩ (.fromFill taker f) buyer seller, hmaker,
      hmakerId, congrArg Fill.takerOrderId hfill, hbuyer, hseller, ?_,
      ⟨rfl, rfl, rfl, ⟨rfl, rfl⟩, ⟨rfl, rfl⟩, ⟨rfl, rfl⟩, ⟨rfl, rfl⟩⟩⟩
    exact requestFromIntent_eq_ok.mpr ⟨_, buyer, seller, by rw [Nat.zero_add], hbridged, rfl⟩
  -- So does the batch as a whole.
  have hall : ∃ requests, bridge.requestsFromBatch rt (.fromOrderFills commandId taker fills)
      signedOrders firstSettlementId = .ok requests := by
    refine requestsFrom_isOk (fun k intent hk => ?_)
    rw [SettlementBatch.fromOrderFills, List.getElem?_map] at hk
    rcases Option.map_eq_some_iff.mp hk with ⟨f, hf, rfl⟩
    rcases hone k f hf with ⟨-, -, -, request, -, -, -, -, -, hok, -⟩
    exact ⟨request, hok⟩
  rcases hall with ⟨requests, hrequests⟩
  rcases requestsFrom_eq_ok.mp hrequests with ⟨hlength, heach⟩
  rw [SettlementBatch.fromOrderFills, List.length_map] at hlength
  refine ⟨requests, hrequests, hlength, fun k f hf => ?_⟩
  rcases hone k f hf with
    ⟨maker, buyer, seller, request, hmaker, hid, htid, hbuyer, hseller, hok, hdescribes⟩
  have hintent : (SettlementBatch.fromOrderFills commandId taker fills).intents[k]?
      = some (.fromFill taker f) := by
    rw [SettlementBatch.fromOrderFills, List.getElem?_map, hf]
    rfl
  rcases heach k _ hintent with ⟨request', hget, hok'⟩
  rw [hok, Except.ok.injEq] at hok'
  exact ⟨maker, buyer, seller, request, hmaker, hid, htid, hbuyer, hseller, hok' ▸ hget,
    hdescribes⟩

/-- An ask of trader two resting in market one, and a bid that takes part of
    it, with the orders the traders have signed. -/
theorem requestsFromBatch_complete_partial :
    let maker := Order.new ⟨2, by decide⟩ ⟨2, by decide⟩ ⟨1, by decide⟩ .ask ⟨20, by decide⟩
      ⟨60, by decide⟩ ⟨1, by decide⟩
    let taker := Order.new ⟨1, by decide⟩ ⟨1, by decide⟩ ⟨1, by decide⟩ .bid ⟨25, by decide⟩
      ⟨100, by decide⟩ ⟨2, by decide⟩
    ∃ requests, sampleBridge.requestsFromBatch sampleSignedRuntime
        (.fromOrderFills ⟨1, by decide⟩ taker
          [Fill.new maker taker ⟨20, by decide⟩ ⟨60, by decide⟩])
        (registered [sampleRegistration 1 .bid sampleBid sampleBidSignature,
          sampleRegistration 2 .ask sampleAsk sampleAskSignature]) 7 = .ok requests ∧
      requests.length = 1 := by
  intro maker taker
  have h := requestsFromBatch_complete sampleBridge sampleSignedRuntime [maker] taker
    [Fill.new maker taker ⟨20, by decide⟩ ⟨60, by decide⟩] ⟨1, by decide⟩
    (registered [sampleRegistration 1 .bid sampleBid sampleBidSignature,
      sampleRegistration 2 .ask sampleAsk sampleAskSignature]) 7 (by decide +kernel) rfl
    ⟨⟨⟨1, by decide⟩, sampleSignedRuntime.orderHash sampleBid, sampleBid, sampleBidSignature⟩,
      ⟨by decide +kernel, rfl, rfl, rfl, rfl, rfl, by decide +kernel⟩⟩
    (fun x hx _ => ?_) (by decide)
  · rcases h with ⟨requests, hok, hlength, -⟩
    exact ⟨requests, hok, hlength⟩
  · have hbook : ((MatchingEngine.new.placeAll [maker]).book taker.side.opposite).orders
        = [maker] := by decide +kernel
    rw [hbook, List.mem_singleton] at hx
    rw [hx]
    exact ⟨⟨⟨2, by decide⟩, sampleSignedRuntime.orderHash sampleAsk, sampleAsk,
      sampleAskSignature⟩, ⟨by decide +kernel, rfl, rfl, rfl, rfl, rfl, by decide +kernel⟩⟩

end ApplicationSettlementBridge

end Relayer

end SolanaLab
