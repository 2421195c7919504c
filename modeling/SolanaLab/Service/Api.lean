import SolanaLab.Exchange.Lots
import SolanaLab.Exchange.MarketActorHandle
import SolanaLab.Relayer.Service

/-!
# Requests to the Exchange Service

What the service is asked over HTTP, what it answers, and how a body becomes a
command of the market.

The newtypes of the domain turn zeros away, and an order must fit the ticks and
lots of the market. Nothing behind this edge asks for that again: the market
actor places any order it is given. So `orderFromRequest_eq_ok` is the only
place where an order is held to the market's ticks and lots.

A body reaches the actor as a command of the domain or not at all, so behind
this edge there are no zeros and no unknown sides. The texts of the errors are
part of the model, as a client sees them, and so is which of them an error of
the domain becomes: a client can tell a request that could never succeed from
one that does not succeed now.

## Main definitions

* `ApiError`: What a request can fail with.
* `Exchange.Error.message`: The texts of the domain errors.
* `Request`, `Response`: What is asked and answered.
* `authorizeApiKey`: The check of the api key.
* `depositFromRequest`, `orderFromRequest`: The commands behind a body.

## Theorems

* `depositFromRequest_eq_ok`, `orderFromRequest_eq_ok`: When a body is a
  command.
-/

namespace SolanaLab

/-- `domain::Error`'s `Display`. -/
def Exchange.Error.message : Exchange.Error → String
  | .zeroValue => "value must be non-zero"
  | .sameMarketAssets => "market base and quote assets must differ"
  | .priceNotTickAligned => "price is not aligned to market tick size"
  | .quantityNotLotAligned => "quantity is not aligned to market lot size"
  | .arithmeticOverflow => "arithmetic overflow"
  | .arithmeticUnderflow => "arithmetic underflow"
  | .fillExceedsRemainingQuantity => "fill exceeds remaining order quantity"
  | .orderAlreadyTerminal => "order is already terminal"
  | .wrongOrderSide => "order side does not match book side"
  | .orderNotFound => "order not found"
  | .noMatchingOrder => "no matching order"
  | .amountConversionOverflow => "amount conversion overflow"
  | .insufficientAvailableBalance => "insufficient available balance"
  | .insufficientReservedBalance => "insufficient reserved balance"
  | .signedOrderMarketMismatch => "signed orders must belong to the same market"
  | .signedOrderWrongSide => "signed fill requires a bid and an ask order"
  | .signedOrderExpired => "signed order is expired"
  | .signedOrderSelfTrade => "signed fill cannot settle self trade"
  | .signedOrderPricesDoNotCross => "signed order prices do not cross"
  | .fillPriceOutsideSignedOrder => "fill price is outside signed order limits"
  | .fillQuantityExceedsSignedOrder => "fill quantity exceeds signed order quantity"

/-- `application::Error`'s `Display`. -/
def Exchange.ApplicationError.message : Exchange.ApplicationError → String
  | .domain error => error.message
  | .duplicateCommand => "duplicate command"
  | .replayMismatch => "replay mismatch"
  | .actorClosed => "actor closed"
  | .journalAppendFailed => "journal append failed"

namespace Service

open Checked Exchange Relayer

/-- `ApiError`, one for each status code that an error is answered with. A
    missing or wrong key has no text of its own, nor does a market that is not
    there. -/
inductive ApiError where
  | unauthorized
  | badRequest (message : String)
  | conflict (message : String)
  | internal (message : String)
  | notFound
deriving DecidableEq

namespace ApiError

/-- `ApiError::from`, of a domain error. A request that is wrong in itself is a
    bad one, one that the state of the market does not allow is a conflict, and
    the others cannot be the client's fault. -/
def fromDomain (value : Exchange.Error) : ApiError :=
  match value with
  | .zeroValue => .badRequest value.message
  | .priceNotTickAligned => .badRequest value.message
  | .quantityNotLotAligned => .badRequest value.message
  | .sameMarketAssets => .badRequest value.message
  | .amountConversionOverflow => .badRequest value.message
  | .insufficientAvailableBalance => .conflict value.message
  | .insufficientReservedBalance => .conflict value.message
  | .orderAlreadyTerminal => .conflict value.message
  | .orderNotFound => .conflict value.message
  | _ => .internal "domain error"

/-- `ApiError::from`, of an application error. Only the errors of the domain and
    the duplicate are the client's. The others are of the actor and its journal,
    and say no more than that. -/
def fromApplication (value : ApplicationError) : ApiError :=
  match value with
  | .domain error => fromDomain error
  | .duplicateCommand => .conflict value.message
  | .actorClosed => .internal "actor closed"
  | .replayMismatch => .internal "replay mismatch"
  | .journalAppendFailed => .internal "journal append failed"

/-- The errors of a registration among all errors. A registration does not reach
    the actor, so the others do not occur there. -/
def fromRegistration : Relayer.ApiError → ApiError
  | .badRequest message => .badRequest message
  | .internal message => .internal message

end ApiError

/-- `DepositRequest`. The amount is the one number that may be zero. -/
structure DepositRequest where
  commandId : Word 128
  traderId : Word 64
  assetId : Word 32
  amount : BalanceAmount
deriving DecidableEq

/-- `OrderRequest`, with a zero not yet turned away. -/
structure OrderRequest where
  commandId : Word 128
  orderId : Word 128
  traderId : Word 64
  marketId : Word 32
  side : Side
  price : Word 64
  quantity : Word 64
  sequence : Word 64
deriving DecidableEq

/-- The routes of the service, with the bodies and parameters they take. Bodies
    are those that were parsed: what is no JSON of the right form never gets to
    a handler. -/
inductive Request where
  | health
  | ready
  | metrics
  | creditDeposit (request : DepositRequest)
  | placeOrder (request : OrderRequest)
  | registerSignedOrder (request : SignedOrderRequest)
  | pendingSettlements
  | listSettlementOutbox
  | snapshot (marketId : String)
deriving DecidableEq

/-- `FillResponse`. -/
structure FillResponse where
  makerOrderId : Word 128
  takerOrderId : Word 128
  price : Word 64
  quantity : Word 64
deriving DecidableEq

/-- The `FillResponse` of a fill. -/
def FillResponse.ofFill (fill : Fill) : FillResponse :=
  ⟨fill.makerOrderId.get, fill.takerOrderId.get, fill.price.get, fill.quantity.get⟩

/-- `ReadyBootMode`. -/
inductive ReadyBootMode where
  | «local»
  | postgres
deriving DecidableEq

/-- `JournalMode`. -/
inductive JournalMode where
  | noop
  | postgres
deriving DecidableEq

/-- The counters of the service. They are atomics of 64 bits, which wrap around. -/
structure ServiceMetrics where
  httpRequestsTotal : Word 64
  readyChecksTotal : Word 64
  snapshotRequestsTotal : Word 64
  depositsAcceptedTotal : Word 64
  ordersAcceptedTotal : Word 64
  settlementRequestsQueuedTotal : Word 64
  settlementRequestsSubmittedTotal : Word 64
  settlementRequestsFailedTotal : Word 64
  apiErrorsTotal : Word 64
deriving DecidableEq

/-- `MetricsResponse`: the counters of the service and of its actor, and how
    many settlements are pending. -/
structure MetricsResponse where
  service : ServiceMetrics
  settlementRequestsPending : Word 64
  runtime : RuntimeMetrics
deriving DecidableEq

/-- `ServiceMetrics::snapshot`. -/
def ServiceMetrics.snapshot (metrics : ServiceMetrics) (runtime : RuntimeMetrics)
    (settlementsPending : Nat) : MetricsResponse :=
  ⟨metrics, (toWord 64 settlementsPending).getD (Word.maxValue 64), runtime⟩

/-- The bodies of the answers. -/
inductive Response where
  | health (status : String)
  | ready (status marketId : String) (bootMode : ReadyBootMode) (journalMode : JournalMode)
      (eventCount : Nat)
  | metrics (metrics : MetricsResponse)
  | deposit (accepted : Bool)
  | order (accepted : Bool) (fills : List FillResponse)
  | signedOrder (accepted replaced : Bool)
  | pendingSettlements (queued : Nat)
  | settlementOutbox
  | snapshot (marketId : String) (eventCount : Nat)
deriving DecidableEq

/-- `authorize_api_key`, for what the header says if it can be read. A service
    without a key lets everybody in, and one with a key nobody without it. -/
def authorizeApiKey (apiKey header : Option String) : Except ApiError Unit :=
  match apiKey with
  | none => .ok ()
  | some expected => require (header = some expected) .unauthorized

/-- `command_id`, `trader_id`, `asset_id` and `order_id`, and the constructors
    of the other newtypes. -/
def nonZero {w : Nat} (value : Word w) : Except ApiError (NonZero w) :=
  (NonZero.new value).mapError ApiError.fromDomain

/-- What `credit_deposit` sends to the actor. -/
def depositFromRequest (request : DepositRequest) : Except ApiError MarketCommand := do
  let commandId ← nonZero request.commandId
  let traderId ← nonZero request.traderId
  let assetId ← nonZero request.assetId
  return .creditDeposit commandId traderId assetId request.amount

/-- What `place_order` sends to the actor. The zeros of the order are turned
    away first, in the order of its fields, then the price and the quantity are
    held to the ticks and lots, and the command id comes last. The handler does
    not compare the market of the body with its own. -/
def orderFromRequest (market : MarketSpec) (request : OrderRequest) :
    Except ApiError (CommandId × Order) := do
  let orderId ← nonZero request.orderId
  let traderId ← nonZero request.traderId
  let marketId ← nonZero request.marketId
  let price ← nonZero request.price
  let quantity ← nonZero request.quantity
  let sequence ← nonZero request.sequence
  let order := Order.new orderId traderId marketId request.side price quantity sequence
  -- The market is the one the service trades, whatever market the order names.
  (market.validatePrice order.price).mapError ApiError.fromDomain
  (market.validateQuantity order.originalQuantity).mapError ApiError.fromDomain
  let commandId ← nonZero request.commandId
  return (commandId, order)

/-- Changing the error leaves a success as it was. -/
theorem mapError_eq_ok {ε ε' α : Type} {f : ε → ε'} {x : Except ε α} {a : α} :
    x.mapError f = .ok a ↔ x = .ok a := by
  cases x with
  | error e => simp only [Except.mapError, reduceCtorEq]
  | ok b => simp only [Except.mapError, Except.ok.injEq]

/-- An id is accepted when it is not zero, as the newtype of its value. -/
theorem nonZero_eq_ok {w : Nat} {value : Word w} {a : NonZero w} :
    nonZero value = .ok a ↔ a.get = value := by
  rw [nonZero, mapError_eq_ok, NonZero.new_eq_ok]

/-- When a body is a deposit: its three ids are the newtypes' own values, and
    its amount is taken as it is. -/
theorem depositFromRequest_eq_ok {request : DepositRequest} {command : MarketCommand} :
    depositFromRequest request = .ok command
      ↔ ∃ (c : CommandId) (t : TraderId) (a : AssetId), c.get = request.commandId ∧
        t.get = request.traderId ∧ a.get = request.assetId ∧
        command = .creditDeposit c t a request.amount := by
  simp only [depositFromRequest, bind_eq_ok, nonZero_eq_ok]
  constructor
  · rintro ⟨c, hc, t, ht, a, ha, heq⟩
    exact ⟨c, t, a, hc, ht, ha, (Except.ok.inj heq).symm⟩
  · rintro ⟨c, t, a, hc, ht, ha, rfl⟩
    exact ⟨c, hc, t, ht, a, ha, rfl⟩

/-- When a body is an order: it has the fields of the body and fits the ticks
    and lots of the market. -/
theorem orderFromRequest_eq_ok {market : MarketSpec} {request : OrderRequest} {c : CommandId}
    {o : Order} :
    orderFromRequest market request = .ok (c, o)
      ↔ c.get = request.commandId ∧ Aligned market o ∧
        ∃ (id : OrderId) (t : TraderId) (m : MarketId) (p : Price) (q : Quantity)
          (n : OrderSequence), id.get = request.orderId ∧ t.get = request.traderId ∧
          m.get = request.marketId ∧ p.get = request.price ∧ q.get = request.quantity ∧
          n.get = request.sequence ∧ o = Order.new id t m request.side p q n := by
  simp only [orderFromRequest, bind_eq_ok, nonZero_eq_ok, mapError_eq_ok,
    MarketSpec.validatePrice, MarketSpec.validateQuantity, require_eq_ok]
  constructor
  · rintro ⟨id, hid, t, ht, m, hm, p, hp, q, hq, n, hn, _, hprice, _, hquantity, c', hc, heq⟩
    simp only [pure, Except.pure, Except.ok.injEq, Prod.mk.injEq] at heq
    rcases heq with ⟨rfl, rfl⟩
    -- A new order has everything remaining.
    exact ⟨hc, ⟨hprice, hquantity, hquantity⟩, id, t, m, p, q, n, hid, ht, hm, hp, hq, hn, rfl⟩
  · rintro ⟨hc, haligned, id, t, m, p, q, n, hid, ht, hm, hp, hq, hn, rfl⟩
    exact ⟨id, hid, t, ht, m, hm, p, hp, q, hq, n, hn, ⟨⟩, haligned.price, ⟨⟩, haligned.original,
      c, hc, rfl⟩

end Service

end SolanaLab
