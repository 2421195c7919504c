import SolanaLab.Exchange.Application
import SolanaLab.Library.Json

/-!
# Event Records

How events are stored: a record holds the command id, the name of the event's
type and a JSON payload.

The payload of an order holds the seven values that `Order::new` takes, so an
order is read back as one that has just been opened. And an order id has 128
bits, of which a JSON number holds 64. `Storable` is what remains: the order
is open, and its id and those of its fills fit. `roundTrips_iff` says that
these are exactly the events that are read back as they were written.

The codecs follow the derives of `serde`: a struct is an object with a field
for each of its own, and an enumeration without data is a text. A number is
written if it fits in 64 bits, which is what the value type of the JSON library
can hold without its optional feature.

## Main definitions

* `PersistenceError`: The errors of reading and writing.
* `DepositCreditedPayload`, `OrderPlacedPayload`: The two payloads, with those
  of an order, a side and a fill.
* `EventRecord.tryFrom`: The record of an event.
* `EventRecord.intoEvent`: The event of a record.
* `RoundTrips`: An event is read back from its record.
* `Storable`: The order of an event is open and its ids have 64 bits.

## Theorems

* `intoOrder_fromOrder`: An order is read back as open.
* `roundTrips_iff`: Which events are read back.
* `records_replay`: Which logs are, and replay to the live application.
-/

namespace SolanaLab

namespace Persistence

open Checked Exchange Json
open ExchangeApplication (sampleMarket sampleDeposit)

/-- `PersistenceError`. A text that `serde_json` gives is kept as the error it
    is printed from. -/
inductive PersistenceError where
  | domain (error : Exchange.Error)
  | json (error : Json.Error)
  | serde (error : String)
  | sql (error : String)
  | unknownEventType (eventType : String)
deriving DecidableEq

/-! ### Payloads -/

/-- A deposit without its command id, which the record has. -/
structure DepositCreditedPayload where
  traderId : Word 64
  assetId : Word 32
  amount : Word 64
deriving DecidableEq

/-- A side, as it is written. -/
inductive SidePayload where
  | bid
  | ask
deriving DecidableEq

/-- The variants of `SidePayload` in snake case. -/
def SidePayload.name : SidePayload → String
  | .bid => "bid"
  | .ask => "ask"

/-- `SidePayload::from_side`. -/
def SidePayload.fromSide : Side → SidePayload
  | .bid => .bid
  | .ask => .ask

/-- `SidePayload::into_side`. -/
def SidePayload.intoSide : SidePayload → Side
  | .bid => .bid
  | .ask => .ask

/-- The values of an order that are written. What is left of it and its status
    are not among them. -/
structure OrderPayload where
  orderId : Word 128
  traderId : Word 64
  marketId : Word 32
  side : SidePayload
  price : Word 64
  originalQuantity : Word 64
  sequence : Word 64
deriving DecidableEq

/-- `OrderPayload::from_order`. -/
def OrderPayload.fromOrder (order : Order) : OrderPayload where
  orderId := order.id.get
  traderId := order.traderId.get
  marketId := order.marketId.get
  side := .fromSide order.side
  price := order.price.get
  originalQuantity := order.originalQuantity.get
  sequence := order.sequence.get

/-- `OrderPayload::into_order`. -/
def OrderPayload.intoOrder (payload : OrderPayload) : Except Exchange.Error Order := do
  let id ← NonZero.new payload.orderId
  let traderId ← NonZero.new payload.traderId
  let marketId ← NonZero.new payload.marketId
  let price ← NonZero.new payload.price
  let quantity ← NonZero.new payload.originalQuantity
  let sequence ← NonZero.new payload.sequence
  return Order.new id traderId marketId payload.side.intoSide price quantity sequence

/-- A fill with plain numbers. -/
structure FillPayload where
  makerOrderId : Word 128
  takerOrderId : Word 128
  makerTraderId : Word 64
  takerTraderId : Word 64
  price : Word 64
  quantity : Word 64
deriving DecidableEq

/-- `FillPayload::from_fill`. -/
def FillPayload.fromFill (fill : Fill) : FillPayload where
  makerOrderId := fill.makerOrderId.get
  takerOrderId := fill.takerOrderId.get
  makerTraderId := fill.makerTraderId.get
  takerTraderId := fill.takerTraderId.get
  price := fill.price.get
  quantity := fill.quantity.get

/-- `FillPayload::into_fill`. -/
def FillPayload.intoFill (payload : FillPayload) : Except Exchange.Error Fill := do
  let makerOrderId ← NonZero.new payload.makerOrderId
  let takerOrderId ← NonZero.new payload.takerOrderId
  let makerTraderId ← NonZero.new payload.makerTraderId
  let takerTraderId ← NonZero.new payload.takerTraderId
  let price ← NonZero.new payload.price
  let quantity ← NonZero.new payload.quantity
  return { makerOrderId, takerOrderId, makerTraderId, takerTraderId, price, quantity }

/-- An order with the fills it was answered. -/
structure OrderPlacedPayload where
  order : OrderPayload
  fills : List FillPayload
deriving DecidableEq

/-! ### Their JSON -/

/-- An object with three numbers, of which none has more than 64 bits. -/
def DepositCreditedPayload.codec : Codec DepositCreditedPayload :=
  .record (.as
    ((Fields.field "trader_id" (.unsigned 64)).and <|
      (Fields.field "asset_id" (.unsigned 32)).and <|
      Fields.field "amount" (.unsigned 64))
    (fun (traderId, assetId, amount) => { traderId, assetId, amount })
    (fun p => (p.traderId, p.assetId, p.amount)) (fun _ => rfl)) (by decide)

/-- The name of the side. -/
def SidePayload.codec : Codec SidePayload :=
  .variant SidePayload.name [.bid, .ask] (fun side => by cases side <;> decide)

/-- An object with seven fields. The id is the one with 128 bits. -/
def OrderPayload.codec : Codec OrderPayload :=
  .record (.as
    ((Fields.field "order_id" (.unsigned 128)).and <|
      (Fields.field "trader_id" (.unsigned 64)).and <|
      (Fields.field "market_id" (.unsigned 32)).and <|
      (Fields.field "side" SidePayload.codec).and <|
      (Fields.field "price" (.unsigned 64)).and <|
      (Fields.field "original_quantity" (.unsigned 64)).and <|
      Fields.field "sequence" (.unsigned 64))
    (fun (orderId, traderId, marketId, side, price, originalQuantity, sequence) =>
      { orderId, traderId, marketId, side, price, originalQuantity, sequence })
    (fun p => (p.orderId, p.traderId, p.marketId, p.side, p.price, p.originalQuantity,
      p.sequence)) (fun _ => rfl)) (by decide)

/-- An object with six fields, of which the two order ids have 128 bits. -/
def FillPayload.codec : Codec FillPayload :=
  .record (.as
    ((Fields.field "maker_order_id" (.unsigned 128)).and <|
      (Fields.field "taker_order_id" (.unsigned 128)).and <|
      (Fields.field "maker_trader_id" (.unsigned 64)).and <|
      (Fields.field "taker_trader_id" (.unsigned 64)).and <|
      (Fields.field "price" (.unsigned 64)).and <|
      Fields.field "quantity" (.unsigned 64))
    (fun (makerOrderId, takerOrderId, makerTraderId, takerTraderId, price, quantity) =>
      { makerOrderId, takerOrderId, makerTraderId, takerTraderId, price, quantity })
    (fun p => (p.makerOrderId, p.takerOrderId, p.makerTraderId, p.takerTraderId, p.price,
      p.quantity)) (fun _ => rfl)) (by decide)

/-- An object with the order and the list of its fills. -/
def OrderPlacedPayload.codec : Codec OrderPlacedPayload :=
  .record (.as
    ((Fields.field "order" OrderPayload.codec).and <|
      Fields.field "fills" (.list FillPayload.codec))
    (fun (order, fills) => { order, fills }) (fun p => (p.order, p.fills)) (fun _ => rfl))
    (by decide)

/-! ### Records -/

/-- The command id, the name of the type of the event and the payload. -/
structure EventRecord where
  commandId : CommandId
  eventType : String
  payload : Json

/-- `serde_json::to_value`. -/
def toValue {α : Type} (c : Codec α) (value : α) : Except PersistenceError Json :=
  (c.write value).mapError .json

/-- `serde_json::from_value`. -/
def fromValue {α : Type} (c : Codec α) (json : Json) : Except PersistenceError α :=
  (c.read json).mapError .json

namespace EventRecord

/-- `EventRecord::try_from`. -/
def tryFrom : Event → Except PersistenceError EventRecord
  | .depositCredited commandId traderId assetId amount => do
    let payload ← toValue DepositCreditedPayload.codec
      { traderId := traderId.get, assetId := assetId.get, amount }
    return { commandId, eventType := "deposit_credited", payload }
  | .orderPlaced commandId order fills => do
    let payload ← toValue OrderPlacedPayload.codec
      { order := .fromOrder order, fills := fills.map .fromFill }
    return { commandId, eventType := "order_placed", payload }

/-- `EventRecord::into_event`. -/
def intoEvent (record : EventRecord) : Except PersistenceError Event :=
  match record.eventType with
  | "deposit_credited" => do
    let payload ← fromValue DepositCreditedPayload.codec record.payload
    let traderId ← (NonZero.new payload.traderId).mapError .domain
    let assetId ← (NonZero.new payload.assetId).mapError .domain
    return .depositCredited record.commandId traderId assetId payload.amount
  | "order_placed" => do
    let payload ← fromValue OrderPlacedPayload.codec record.payload
    let order ← payload.order.intoOrder.mapError .domain
    let fills ← (payload.fills.mapM FillPayload.intoFill).mapError .domain
    return .orderPlaced record.commandId order fills
  | eventType => .error (.unknownEventType eventType)

end EventRecord

/-! ### What is read back -/

/-- A value that a newtype holds is accepted by its constructor. -/
theorem nonZero_new (w : Nat) (a : NonZero w) : NonZero.new a.get = .ok a :=
  NonZero.new_eq_ok.mpr rfl

/-- A side is read back as it was. -/
@[simp] theorem intoSide_fromSide (side : Side) : (SidePayload.fromSide side).intoSide = side := by
  cases side <;> rfl

/-- An order is read back as one that has just been opened. -/
theorem intoOrder_fromOrder (o : Order) :
    (OrderPayload.fromOrder o).intoOrder = .ok
      (Order.new o.id o.traderId o.marketId o.side o.price o.originalQuantity o.sequence) := by
  simp only [OrderPayload.intoOrder, OrderPayload.fromOrder, nonZero_new, intoSide_fromSide]
  rfl

/-- An open order is what `Order::new` makes of its values. An order with
    another status is not, since `Order::new` sets everything remaining. -/
theorem new_eq_self {o : Order} :
    Order.new o.id o.traderId o.marketId o.side o.price o.originalQuantity o.sequence = o
      ↔ o.status = .open := by
  constructor
  · intro h
    rw [← h]
    rfl
  · intro h
    have hfits := o.fits
    rw [h] at hfits
    -- Of an open order everything remains.
    have hrem : o.originalQuantity.get = o.remainingQuantity := Fin.ext hfits.symm
    cases o
    simp only at h hrem
    simp only [Order.new, h, hrem]

/-- A fill is read back as it was: all its fields are written. -/
theorem intoFill_fromFill (fill : Fill) : (FillPayload.fromFill fill).intoFill = .ok fill := by
  simp only [FillPayload.intoFill, FillPayload.fromFill, nonZero_new]
  rfl

/-- And so is a list of fills. -/
theorem mapM_intoFill (fills : List Fill) :
    (fills.map FillPayload.fromFill).mapM FillPayload.intoFill = .ok fills := by
  induction fills with
  | nil => rfl
  | cons fill rest ih => exact mapM_cons_eq_ok.mpr ⟨fill, rest, intoFill_fromFill fill, ih, rfl⟩

/-! ### What can be written -/

/-- A deposit can always be written. -/
theorem DepositCreditedPayload.fits (p : DepositCreditedPayload) :
    DepositCreditedPayload.codec.Fits p :=
  ⟨p.traderId.isLt, p.assetId.isLt.trans (by decide), p.amount.isLt⟩

/-- Of the values of an order only the id may be too long. -/
theorem OrderPayload.fits (p : OrderPayload) :
    OrderPayload.codec.Fits p ↔ p.orderId.val < 2 ^ 64 :=
  ⟨fun h => h.1, fun h => ⟨h, p.traderId.isLt, p.marketId.isLt.trans (by decide), trivial,
    p.price.isLt, p.originalQuantity.isLt, p.sequence.isLt⟩⟩

/-- A fill can be written when its two order ids fit. -/
theorem FillPayload.fits (p : FillPayload) :
    FillPayload.codec.Fits p ↔ p.makerOrderId.val < 2 ^ 64 ∧ p.takerOrderId.val < 2 ^ 64 :=
  ⟨fun h => ⟨h.1, h.2.1⟩, fun h => ⟨h.1, h.2, p.makerTraderId.isLt, p.takerTraderId.isLt,
    p.price.isLt, p.quantity.isLt⟩⟩

/-- The ids of an order and of its fills have 64 bits. -/
def ShortIds (order : Order) (fills : List Fill) : Prop :=
  order.id.get.val < 2 ^ 64 ∧
    ∀ fill ∈ fills, fill.makerOrderId.get.val < 2 ^ 64 ∧ fill.takerOrderId.get.val < 2 ^ 64

instance (order : Order) (fills : List Fill) : Decidable (ShortIds order fills) :=
  inferInstanceAs (Decidable (_ ∧ _))

/-- An order event can be written when all its order ids fit. -/
theorem OrderPlacedPayload.fits (order : Order) (fills : List Fill) :
    OrderPlacedPayload.codec.Fits
        { order := .fromOrder order, fills := fills.map .fromFill } ↔ ShortIds order fills := by
  have hfills : (∀ p ∈ fills.map FillPayload.fromFill, FillPayload.codec.Fits p)
      ↔ ∀ fill ∈ fills, fill.makerOrderId.get.val < 2 ^ 64 ∧
        fill.takerOrderId.get.val < 2 ^ 64 := by
    simp only [List.forall_mem_map, FillPayload.fits]
    rfl
  exact and_congr (OrderPayload.fits _) hfills

/-! ### Events -/

/-- An event is read back from its record, under its command id. -/
def RoundTrips (event : Event) : Prop :=
  ∃ record, EventRecord.tryFrom event = .ok record ∧ record.commandId = event.commandId ∧
    record.intoEvent = .ok event

/-- The order of an event is open, and its ids have 64 bits. Deposits are always
    storable. -/
def Storable : Event → Prop
  | .depositCredited _ _ _ _ => True
  | .orderPlaced _ order fills => order.status = .open ∧ ShortIds order fills

instance : (event : Event) → Decidable (Storable event)
  | .depositCredited _ _ _ _ => inferInstanceAs (Decidable True)
  | .orderPlaced _ order fills =>
    inferInstanceAs (Decidable (order.status = .open ∧ ShortIds order fills))

/-- The error of `serde_json` is kept as a text, and success is that of the
    codec. -/
theorem toValue_eq_ok {α : Type} {c : Codec α} {value : α} {json : Json} :
    toValue c value = .ok json ↔ c.write value = .ok json :=
  mapError_eq_ok

/-- What has been written is read back. -/
theorem fromValue_toValue {α : Type} {c : Codec α} {value : α} {json : Json}
    (h : toValue c value = .ok json) : fromValue c json = .ok value :=
  mapError_eq_ok.mpr (c.read_write (toValue_eq_ok.mp h))

/-- A deposit always has a record, and the payload of it is read back. -/
theorem tryFrom_deposit (c : CommandId) (t : TraderId) (a : AssetId) (amount : BalanceAmount) :
    ∃ payload, EventRecord.tryFrom (.depositCredited c t a amount)
        = .ok ⟨c, "deposit_credited", payload⟩ ∧
      fromValue DepositCreditedPayload.codec payload = .ok ⟨t.get, a.get, amount⟩ := by
  rcases (DepositCreditedPayload.codec.write_isOk ⟨t.get, a.get, amount⟩).mpr
    (DepositCreditedPayload.fits _) with ⟨payload, hwrite⟩
  have hvalue := toValue_eq_ok.mpr hwrite
  exact ⟨payload, bind_eq_ok.mpr ⟨payload, hvalue, rfl⟩, fromValue_toValue hvalue⟩

/-- An order event has a record when its ids fit. -/
theorem tryFrom_order {c : CommandId} {order : Order} {fills : List Fill} {record : EventRecord} :
    EventRecord.tryFrom (.orderPlaced c order fills) = .ok record
      ↔ ∃ payload, toValue OrderPlacedPayload.codec
          { order := .fromOrder order, fills := fills.map .fromFill } = .ok payload ∧
        record = ⟨c, "order_placed", payload⟩ := by
  rw [EventRecord.tryFrom, bind_eq_ok]
  simp only [pure, Except.pure, Except.ok.injEq, eq_comm]

/-- A record of an order event gives an event with the same fills and the order
    as it was opened. -/
theorem intoEvent_order {c : CommandId} {order : Order} {fills : List Fill} {payload : Json}
    (h : toValue OrderPlacedPayload.codec
      { order := .fromOrder order, fills := fills.map .fromFill } = .ok payload) :
    EventRecord.intoEvent ⟨c, "order_placed", payload⟩ = .ok (.orderPlaced c
      (Order.new order.id order.traderId order.marketId order.side order.price
        order.originalQuantity order.sequence) fills) := by
  simp only [EventRecord.intoEvent, fromValue_toValue h]
  refine bind_eq_ok.mpr ⟨_, rfl, bind_eq_ok.mpr ⟨_, ?_, bind_eq_ok.mpr ⟨fills, ?_, rfl⟩⟩⟩
  · exact mapError_eq_ok.mpr (intoOrder_fromOrder order)
  · exact mapError_eq_ok.mpr (mapM_intoFill fills)

/-- The events that are read back are those of deposits, and those of open
    orders whose ids have 64 bits. An order that is placed is open when its
    event is derived unless the caller has built it otherwise, so in practice
    the ids are what matters. -/
theorem roundTrips_iff (event : Event) : RoundTrips event ↔ Storable event := by
  cases event with
  | depositCredited c t a amount =>
      -- A deposit is recorded in numbers, which all come back.
      rcases tryFrom_deposit c t a amount with ⟨payload, hrecord, hread⟩
      refine iff_of_true ⟨_, hrecord, rfl, ?_⟩ trivial
      simp only [EventRecord.intoEvent, hread]
      exact bind_eq_ok.mpr ⟨_, rfl, bind_eq_ok.mpr ⟨t, mapError_eq_ok.mpr (nonZero_new 64 t),
        bind_eq_ok.mpr ⟨a, mapError_eq_ok.mpr (nonZero_new 32 a), rfl⟩⟩⟩
  | orderPlaced c order fills =>
      rw [Storable, ← OrderPlacedPayload.fits, ← OrderPlacedPayload.codec.write_isOk, ← new_eq_self]
      constructor
      · rintro ⟨record, hrecord, -, hevent⟩
        rcases tryFrom_order.mp hrecord with ⟨payload, hvalue, rfl⟩
        rw [intoEvent_order hvalue, Except.ok.injEq, Event.orderPlaced.injEq] at hevent
        exact ⟨hevent.2.1, payload, toValue_eq_ok.mp hvalue⟩
      · rintro ⟨horder, payload, hwrite⟩
        have hvalue := toValue_eq_ok.mpr hwrite
        have hevent := intoEvent_order (c := c) hvalue
        rw [horder] at hevent
        exact ⟨_, tryFrom_order.mpr ⟨payload, hvalue, rfl⟩, rfl, hevent⟩

/-- After any commands, an event derived for the next one is read back from its
    record exactly when it is storable, and the log replays from its records to
    the live application exactly when all its events are. -/
theorem records_replay (market : MarketSpec) (commands : List Command) :
    let app := Run.after ExchangeApplication.execute (.new market) commands
    (∀ command event, app.eventOf command = .ok event → (RoundTrips event ↔ Storable event)) ∧
    ((∃ records decoded, app.events.mapM EventRecord.tryFrom = .ok records ∧
        records.mapM EventRecord.intoEvent = .ok decoded ∧
        ExchangeApplication.replay market decoded = .ok app)
      ↔ ∀ event ∈ app.events, Storable event) := by
  intro app
  refine ⟨fun command event _ => roundTrips_iff event, ?_⟩
  have hreplay : ExchangeApplication.replay market app.events = .ok app := by
    rcases ExchangeApplication.run_logged market commands with ⟨hlogged, hmarket⟩
    rw [← hmarket]
    exact hlogged.replayed
  have hlog : (∃ records, app.events.mapM EventRecord.tryFrom = .ok records ∧
      records.mapM EventRecord.intoEvent = .ok app.events)
        ↔ ∀ event ∈ app.events, Storable event := by
    rw [mapM_roundTrip]
    refine forall₂_congr (fun event _ => ?_)
    rw [← roundTrips_iff]
    refine exists_congr (fun record => and_congr_right (fun hrecord => ?_))
    -- The record of an event has its command id.
    have hid : record.commandId = event.commandId := by
      cases event with
      | depositCredited c t a amount =>
          rcases tryFrom_deposit c t a amount with ⟨payload, hok, -⟩
          rw [hok] at hrecord
          rw [← Except.ok.inj hrecord]
          rfl
      | orderPlaced c order fills =>
          rcases tryFrom_order.mp hrecord with ⟨payload, -, rfl⟩
          rfl
    exact (and_iff_right hid).symm
  rw [← hlog]
  constructor
  · rintro ⟨records, decoded, hrecords, hdecoded, happ⟩
    -- A log that replays to the application is the log of the application.
    rw [← (ExchangeApplication.replay_logged happ).2.2] at hdecoded
    exact ⟨records, hrecords, hdecoded⟩
  · rintro ⟨records, hrecords, hdecoded⟩
    exact ⟨records, app.events, hrecords, hdecoded, hreplay⟩

/-- An order is accepted with an id that no record can hold. -/
theorem records_replay_longId :
    ¬ ∀ (market : MarketSpec) (commands : List Command) (command : Command) (event : Event),
      (Run.after ExchangeApplication.execute (.new market) commands).eventOf command = .ok event →
      RoundTrips event := by
  intro h
  have hlong := h sampleMarket [sampleDeposit ⟨1, by decide⟩ 5]
    (.placeOrder ⟨2, by decide⟩ (Order.sample ⟨⟨2 ^ 64, by decide⟩, by decide⟩ .ask
      ⟨1, by decide⟩ ⟨5, by decide⟩))
    (.orderPlaced ⟨2, by decide⟩ (Order.sample ⟨⟨2 ^ 64, by decide⟩, by decide⟩ .ask
      ⟨1, by decide⟩ ⟨5, by decide⟩) []) (by decide +kernel)
  exact absurd ((roundTrips_iff _).mp hlong) (by decide +kernel)

end Persistence

end SolanaLab
