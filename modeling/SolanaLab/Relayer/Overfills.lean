import SolanaLab.Exchange.Conservation
import SolanaLab.Relayer.Bridge

/-!
# Fills of a Signed Order

How much of a signed order the bridge asks the program to fill over a whole
run of the matching engine.

The bridge compares every fill with the signed quantity by itself. It keeps no
account of the fills it has bridged before, so what bounds their sum is the
quantity the engine has for the order, and nothing makes that quantity at most
the signed one. `Covered` asks for it, and `bridged_withinSigned` says that it
is enough: the requests that use a signed order never ask for more than was
signed.

A request that uses a payload comes from a fill of the order whose id the
payload has, whoever else is registered with the same payload. So the sum over
requests is at most what fills have taken from that order, which is at most
what it was placed with.

## Main definitions

* `BridgedCall`: An order placed, with what its batch is bridged under.
* `bridgedRequests`: The requests of the batches of a run.
* `Uses`: A request settles a fill of a signed order.
* `askedOf`: What requests ask to fill of a signed order.
* `Covered`: The signed order of an order covers what is left of it.

## Theorems

* `askedOf_le_taken`: Requests ask for no more than fills have taken.
* `taken_le_remaining`: Fills take no more than an order was placed with.
* `bridged_withinSigned`: When requests stay within the signed quantity.
-/

namespace SolanaLab

namespace Relayer

open Checked Exchange Settlement ApplicationSettlementBridge

/-- A call of `place_order`, with the command id and the first settlement id
    that its batch is bridged under. -/
structure BridgedCall where
  commandId : CommandId
  order : Order
  firstSettlementId : Word 64

/-- The engine takes the order of a call. -/
def placeCall (e : MatchingEngine) (call : BridgedCall) :
    Except Exchange.Error (List Fill) × MatchingEngine :=
  e.placeOrder call.order

/-- The log of the calls of a run. -/
abbrev CallLog := List (BridgedCall × Except Exchange.Error (List Fill))

/-- The requests of a call: those of its batch, when it is bridged. -/
def requestsOfCall (bridge : ApplicationSettlementBridge) (rt : Runtime)
    (signedOrders : SettlementSignedOrderSource) :
    BridgedCall × Except Exchange.Error (List Fill) → List SignedSettlementRequest
  | (_, .error _) => []
  | (call, .ok fills) =>
    match bridge.requestsFromBatch rt (.fromOrderFills call.commandId call.order fills)
        signedOrders call.firstSettlementId with
    | .ok requests => requests
    | .error _ => []

/-- The requests of the batches of a run, one batch after the other. -/
def bridgedRequests (bridge : ApplicationSettlementBridge) (rt : Runtime)
    (signedOrders : SettlementSignedOrderSource) (past : CallLog) : List SignedSettlementRequest :=
  past.flatMap (requestsOfCall bridge rt signedOrders)

/-- A request settles a fill of a signed order. -/
def Uses (payload : SignedOrderPayload) (request : SignedSettlementRequest) : Prop :=
  request.args.buyerOrder = payload ∨ request.args.sellerOrder = payload

instance (payload : SignedOrderPayload) (request : SignedSettlementRequest) :
    Decidable (Uses payload request) :=
  inferInstanceAs (Decidable (_ ∨ _))

/-- What a request asks to fill of a signed order. -/
def SignedSettlementRequest.asks (request : SignedSettlementRequest)
    (payload : SignedOrderPayload) : Nat :=
  if Uses payload request then request.args.fillQuantity.val else 0

/-- What requests ask to fill of a signed order. -/
def askedOf (payload : SignedOrderPayload) (requests : List SignedSettlementRequest) : Nat :=
  (requests.map (fun request => request.asks payload)).sum

/-- The signed order that the bridge accepts for an order covers what is left of
    it. An order without such a signed order is covered, as no request is for
    it. -/
def Covered (bridge : ApplicationSettlementBridge) (rt : Runtime)
    (signedOrders : SettlementSignedOrderSource) (order : Order) : Prop :=
  ∀ signed ∈ signedOrders order.id,
    validateOrder order.id signed (bridge.marketConfig rt) = .ok () →
    order.remaining ≤ signed.order.quantity.val

instance (bridge : ApplicationSettlementBridge) (rt : Runtime)
    (signedOrders : SettlementSignedOrderSource) (order : Order) :
    Decidable (Covered bridge rt signedOrders order) :=
  match h : signedOrders order.id with
  | none => isTrue fun signed hsigned => absurd (h ▸ hsigned) (Option.not_mem_none signed)
  | some signed =>
    decidable_of_iff (validateOrder order.id signed (bridge.marketConfig rt) = .ok () →
        order.remaining ≤ signed.order.quantity.val)
      ⟨fun hsigned _ hmem => Option.some.inj (h.symm.trans hmem) ▸ hsigned,
        fun hcovered => hcovered signed h⟩

variable {bridge : ApplicationSettlementBridge} {rt : Runtime}
  {signedOrders : SettlementSignedOrderSource}

/-- What two lists ask for is what they ask for together. -/
theorem askedOf_append (payload : SignedOrderPayload)
    (requests requests' : List SignedSettlementRequest) :
    askedOf payload (requests ++ requests')
      = askedOf payload requests + askedOf payload requests' := by
  rw [askedOf, List.map_append, List.sum_append]
  rfl

/-! ### One batch -/

/-- A request that uses a payload is for a fill of the order of its id, whose
    signed order has that payload and passes the checks. -/
theorem names_of_uses {taker : Order} {fill : Fill} {payload : SignedOrderPayload}
    {first : Word 64} {index : Nat} {request : SignedSettlementRequest}
    (h : bridge.requestFromIntent rt signedOrders first index (.fromFill taker fill) = .ok request)
    (huses : Uses payload request) :
    request.args.fillQuantity = fill.quantity.get ∧
      ∃ id signed, fill.Names id ∧ id.get.val = payload.orderId.val ∧
        signedOrders id = some signed ∧ signed.order = payload ∧
        validateOrder id signed (bridge.marketConfig rt) = .ok () := by
  rcases requestFromIntent_eq_ok.mp h with ⟨settlementId, buyer, seller, -, hbridged, rfl⟩
  refine ⟨rfl, ?_⟩
  rcases hbridged.orders with ⟨maker, taker', hmaker, htaker, hroles, hmid, htid⟩
  rcases hbridged.markets with ⟨hbuyerMarket, hsellerMarket⟩
  -- The payload is the buyer's or the seller's, and that is the maker's or the taker's.
  have heither : (maker.order = payload ∧ maker.order.marketConfig = bridge.marketConfig rt) ∨
      (taker'.order = payload ∧ taker'.order.marketConfig = bridge.marketConfig rt) := by
    have hbuyer : buyer.order = payload ∨ seller.order = payload := huses
    rcases hroles with heq | heq
    · rw [Prod.mk.injEq] at heq
      rw [heq.1, heq.2] at hbuyer
      rw [heq.1] at hbuyerMarket
      rw [heq.2] at hsellerMarket
      exact hbuyer.imp (fun h => ⟨h, hbuyerMarket⟩) (fun h => ⟨h, hsellerMarket⟩)
    · rw [Prod.mk.injEq] at heq
      rw [heq.1, heq.2] at hbuyer
      rw [heq.1] at hbuyerMarket
      rw [heq.2] at hsellerMarket
      exact hbuyer.symm.imp (fun h => ⟨h, hsellerMarket⟩) (fun h => ⟨h, hbuyerMarket⟩)
  rcases heither with ⟨hpayload, hmarket⟩ | ⟨hpayload, hmarket⟩
  -- The check that the bridge makes of a signed order compares its id with that of the
  -- fill.
  · refine ⟨fill.makerOrderId, maker, Or.inl rfl, ?_, hmaker, hpayload,
      validateOrder_eq_ok.mpr ⟨hmid, hmarket⟩⟩
    rw [← hpayload, hmid]
    rfl
  · refine ⟨fill.takerOrderId, taker', Or.inr rfl, ?_, htaker, hpayload,
      validateOrder_eq_ok.mpr ⟨htid, hmarket⟩⟩
    rw [← hpayload, htid]
    rfl

/-- The requests of a batch ask to fill no more of an order than its fills have
    taken from it. -/
theorem requestsFrom_askedOf {taker : Order} {payload : SignedOrderPayload} {id : OrderId}
    (hid : id.get.val = payload.orderId.val) {first : Word 64} {index : Nat} {fills : List Fill}
    {requests : List SignedSettlementRequest}
    (h : bridge.requestsFrom rt signedOrders first index (fills.map (.fromFill taker))
      = .ok requests) :
    askedOf payload requests ≤ taken fills id := by
  induction fills generalizing index requests with
  | nil =>
      rw [List.map_nil, requestsFrom, Except.ok.injEq] at h
      rw [← h]
      exact Nat.zero_le _
  | cons fill rest ih =>
      rw [List.map_cons, requestsFrom] at h
      rcases bind_eq_ok.mp h with ⟨request, hrequest, h⟩
      rcases bind_eq_ok.mp h with ⟨later, hlater, h⟩
      rw [← Except.ok.inj h, taken_cons]
      refine Nat.add_le_add ?_ (ih hlater)
      change request.asks payload ≤ fill.takes id
      rw [SignedSettlementRequest.asks, Fill.takes]
      by_cases huses : Uses payload request
      · rcases names_of_uses hrequest huses with ⟨hquantity, id', -, hnames, hid', -⟩
        -- Ids that read the same are the same.
        have hsame : id' = id := NonZero.ext (Fin.ext (hid'.trans hid.symm))
        rw [hsame] at hnames
        rw [if_pos huses, if_pos hnames, hquantity]
      · rw [if_neg huses]
        exact Nat.zero_le _

/-- The requests of a call ask to fill no more than its fills have taken. -/
theorem requestsOfCall_askedOf {payload : SignedOrderPayload} {id : OrderId}
    (hid : id.get.val = payload.orderId.val)
    (entry : BridgedCall × Except Exchange.Error (List Fill)) :
    askedOf payload (requestsOfCall bridge rt signedOrders entry)
      ≤ taken (entry.2.toOption.getD []) id := by
  rcases entry with ⟨call, e | fills⟩
  · exact Nat.zero_le _
  · rw [requestsOfCall]
    rcases hbridge : bridge.requestsFromBatch rt (.fromOrderFills call.commandId call.order fills)
      signedOrders call.firstSettlementId with e | requests
    · exact Nat.zero_le _
    · exact requestsFrom_askedOf hid hbridge

/-- A request of a call that uses a payload is for the order whose id it has,
    and the bridge accepts the signed order of that id. -/
theorem requestsOfCall_uses {entry : BridgedCall × Except Exchange.Error (List Fill)}
    {payload : SignedOrderPayload} {request : SignedSettlementRequest}
    (h : request ∈ requestsOfCall bridge rt signedOrders entry) (huses : Uses payload request) :
    ∃ id signed, id.get.val = payload.orderId.val ∧ signedOrders id = some signed ∧
      signed.order = payload ∧ validateOrder id signed (bridge.marketConfig rt) = .ok () := by
  rcases entry with ⟨call, e | fills⟩
  · exact absurd h List.not_mem_nil
  · rw [requestsOfCall] at h
    rcases hbridge : bridge.requestsFromBatch rt (.fromOrderFills call.commandId call.order fills)
      signedOrders call.firstSettlementId with e | requests
    · rw [hbridge] at h
      exact absurd h List.not_mem_nil
    · rw [hbridge] at h
      rcases requestsFrom_eq_ok.mp hbridge with ⟨hlength, hrequests⟩
      rcases List.getElem?_of_mem h with ⟨k, hk⟩
      -- The request is that of the intent at its place.
      have hlt : k < (fills.map (SettlementIntent.fromFill call.order)).length := by
        rw [← show _ = (fills.map (SettlementIntent.fromFill call.order)).length from hlength]
        exact (List.getElem?_eq_some_iff.mp hk).1
      have hintent := List.getElem?_eq_getElem hlt
      rcases hrequests k _ hintent with ⟨request', hk', hok⟩
      rw [hk, Option.some.injEq] at hk'
      rw [List.getElem_map, ← hk'] at hok
      rcases (names_of_uses hok huses).2 with ⟨id, signed, -, hrest⟩
      exact ⟨id, signed, hrest⟩

/-! ### A whole run -/

/-- The log of the calls, as the engine sees it. -/
def engineCalls (past : CallLog) : List (Order × Except Exchange.Error (List Fill)) :=
  past.map (fun entry => (entry.1.order, entry.2))

/-- Bridging does nothing to the engine, so its calls are those of a run of the
    engine alone. -/
theorem engineCalls_log (e : MatchingEngine) (calls : List BridgedCall) :
    engineCalls (Run.log placeCall e calls)
      = Run.log MatchingEngine.placeOrder e (calls.map BridgedCall.order) := by
  induction calls generalizing e with
  | nil => rfl
  | cons call rest ih => exact congrArg (_ :: ·) (ih (e.placeOrder call.order).2)

/-- Over a run, requests ask to fill no more of an order than fills have taken
    from it. -/
theorem askedOf_le_taken (bridge : ApplicationSettlementBridge) (rt : Runtime)
    (signedOrders : SettlementSignedOrderSource) {payload : SignedOrderPayload} {id : OrderId}
    (hid : id.get.val = payload.orderId.val) (past : CallLog) :
    askedOf payload (bridgedRequests bridge rt signedOrders past)
      ≤ taken (fillsOf (engineCalls past)) id := by
  induction past with
  | nil => exact Nat.zero_le _
  | cons entry rest ih =>
      rw [bridgedRequests, List.flatMap_cons, askedOf_append, engineCalls, List.map_cons, fillsOf,
        List.flatMap_cons, taken_append]
      exact Nat.add_le_add (requestsOfCall_askedOf hid entry) ih

/-- The engine turns terminal orders away. -/
theorem accepted_live (orders : List Order) :
    ∀ o ∈ accepted (Run.log MatchingEngine.placeOrder MatchingEngine.new orders),
      ¬ o.isTerminal := by
  refine Run.invariant MatchingEngine.placeOrder (s := MatchingEngine.new)
    (P := fun past _ => ∀ o ∈ accepted past, ¬ o.isTerminal)
    (fun o ho => absurd ho List.not_mem_nil) ?_ orders
  intro past e o ih x hx
  rcases hplace : (e.placeOrder o).1 with err | fills
  · rw [hplace, accepted_snoc_error] at hx
    exact ih x hx
  · rw [hplace, accepted_snoc_ok] at hx
    rcases List.mem_append.mp hx with hx | hx
    · exact ih x hx
    · rw [List.mem_singleton.mp hx]
      -- The engine refuses an order that is terminal.
      intro hterminal
      rw [placeOrder_terminal e hterminal] at hplace
      exact absurd hplace (by simp only [reduceCtorEq, not_false_eq_true])

/-- Fills take from an order no more than it was placed with, and from an order
    that was not accepted nothing. This is what the matching engine keeps by
    itself, and it is the only account of the sum that there is. -/
theorem taken_le_remaining {orders : List Order} (hids : (orders.map Order.id).Nodup)
    (id : OrderId) :
    taken (fillsOf (Run.log MatchingEngine.placeOrder MatchingEngine.new orders)) id = 0 ∨
      ∃ o ∈ accepted (Run.log MatchingEngine.placeOrder MatchingEngine.new orders), o.id = id ∧
        taken (fillsOf (Run.log MatchingEngine.placeOrder MatchingEngine.new orders)) id
          ≤ o.remaining := by
  have haccounts := placeAll_accounts orders hids
  rw [← (placeAll_simulation orders).1] at haccounts
  by_cases hexists : ∃ o ∈ accepted (Run.log MatchingEngine.placeOrder MatchingEngine.new orders),
      o.id = id
  · rcases hexists with ⟨o, ho, rfl⟩
    exact Or.inr ⟨o, ho, rfl, Nat.le.intro (haccounts.balanced o ho)⟩
  · exact Or.inl (haccounts.taken_eq_zero (fun o ho heq => hexists ⟨o, ho, heq⟩))

/-- In every run over orders with different ids, each covered by the signed
    order that the bridge accepts for it, the requests that use the signed
    order of an id ask to fill no more than it is signed for. -/
theorem bridged_withinSigned (bridge : ApplicationSettlementBridge) (rt : Runtime)
    (signedOrders : SettlementSignedOrderSource) (calls : List BridgedCall)
    (hids : (calls.map (fun call => call.order.id)).Nodup)
    (hcovered : ∀ call ∈ calls, ¬ call.order.isTerminal →
      Covered bridge rt signedOrders call.order)
    (id : OrderId) :
    ∀ signed ∈ signedOrders id, askedOf signed.order (bridgedRequests bridge rt signedOrders
        (Run.log placeCall MatchingEngine.new calls))
      ≤ signed.order.quantity.val := by
  intro signed _
  by_cases hzero : askedOf signed.order (bridgedRequests bridge rt signedOrders
      (Run.log placeCall MatchingEngine.new calls)) = 0
  · rw [hzero]
    exact Nat.zero_le _
  -- Some request uses the payload, so it is the signed order of an id it has itself.
  have huses : ∃ request ∈ bridgedRequests bridge rt signedOrders
      (Run.log placeCall MatchingEngine.new calls), Uses signed.order request := by
    by_contra hnone
    refine hzero (List.sum_eq_zero (fun n hn => ?_))
    rcases List.mem_map.mp hn with ⟨request, hrequest, rfl⟩
    exact if_neg (fun huses => hnone ⟨request, hrequest, huses⟩)
  rcases huses with ⟨request, hrequest, huses⟩
  rcases List.mem_flatMap.mp hrequest with ⟨entry, -, hentry⟩
  rcases requestsOfCall_uses hentry huses with ⟨own, signed', hown, hsigned', hpayload, hvalid⟩
  have hids' : ((calls.map BridgedCall.order).map Order.id).Nodup := by
    rw [List.map_map]
    exact hids
  -- What the requests ask for is at most what the fills have taken, and that is at most
  -- what the order was placed with.
  have htaken := askedOf_le_taken bridge rt signedOrders hown
    (Run.log placeCall MatchingEngine.new calls)
  rw [engineCalls_log] at htaken
  rcases taken_le_remaining hids' own with hnothing | ⟨o, ho, rfl, hle⟩
  · rw [hnothing] at htaken
    exact htaken.trans (Nat.zero_le _)
  · -- The order was placed by a call, and its signed order covers it.
    have hplaced := mem_of_accepted ho
    rw [Run.log_inputs] at hplaced
    rcases List.mem_map.mp hplaced with ⟨call, hcall, rfl⟩
    have hbound := hcovered call hcall (accepted_live _ _ ho) signed' hsigned' hvalid
    rw [hpayload] at hbound
    exact htaken.trans (hle.trans hbound)

/-- A resting ask of a quantity at 20, taken by two bids of 50. -/
def sampleCalls (asked : Quantity) : List BridgedCall :=
  [⟨⟨1, Nat.succ_pos _⟩, Order.new ⟨2, Nat.succ_pos _⟩ ⟨2, Nat.succ_pos _⟩ ⟨1, Nat.succ_pos _⟩ .ask
      ⟨20, Nat.succ_pos _⟩ asked ⟨1, Nat.succ_pos _⟩, 1⟩,
    ⟨⟨2, Nat.succ_pos _⟩, Order.new ⟨1, Nat.succ_pos _⟩ ⟨1, Nat.succ_pos _⟩ ⟨1, Nat.succ_pos _⟩ .bid
      ⟨20, Nat.succ_pos _⟩ ⟨50, Nat.succ_pos _⟩ ⟨2, Nat.succ_pos _⟩, 2⟩,
    ⟨⟨3, Nat.succ_pos _⟩, Order.new ⟨3, Nat.succ_pos _⟩ ⟨1, Nat.succ_pos _⟩ ⟨1, Nat.succ_pos _⟩ .bid
      ⟨20, Nat.succ_pos _⟩ ⟨50, Nat.succ_pos _⟩ ⟨3, Nat.succ_pos _⟩, 3⟩]

/-- The three orders are registered, the ask signed for 60. -/
def sampleSources : SettlementSignedOrderSource :=
  registered [sampleRegistration 1 .bid sampleBid sampleBidSignature,
    sampleRegistration 2 .ask sampleAsk sampleAskSignature,
    sampleRegistration 1 .bid { sampleBid with orderId := 3, nonce := 2 } sampleBidSignature]

/-- An ask placed for the 60 it is signed for. -/
theorem bridged_withinSigned_two :
    askedOf sampleAsk (bridgedRequests sampleBridge sampleSignedRuntime sampleSources
        (Run.log placeCall MatchingEngine.new (sampleCalls ⟨60, by decide⟩)))
      ≤ sampleAsk.quantity.val :=
  bridged_withinSigned sampleBridge sampleSignedRuntime sampleSources
    (sampleCalls ⟨60, by decide⟩) (by decide +kernel) (by decide +kernel) ⟨2, by decide⟩
    ⟨⟨2, by decide⟩, sampleSignedRuntime.orderHash sampleAsk, sampleAsk, sampleAskSignature⟩
    (by decide +kernel)

/-- An ask placed for 100 and signed for 60: each fill is of 50, which passes,
    and together they are not. -/
theorem bridged_withinSigned_sum :
    ¬ ∀ (bridge : ApplicationSettlementBridge) (rt : Runtime)
      (signedOrders : SettlementSignedOrderSource) (calls : List BridgedCall),
      (calls.map (fun call => call.order.id)).Nodup →
      ∀ id, ∀ signed ∈ signedOrders id,
        askedOf signed.order (bridgedRequests bridge rt signedOrders
            (Run.log placeCall MatchingEngine.new calls))
          ≤ signed.order.quantity.val := by
  intro h
  have hwithin := h sampleBridge sampleSignedRuntime sampleSources (sampleCalls ⟨100, by decide⟩)
    (by decide +kernel) ⟨2, by decide⟩
    ⟨⟨2, by decide⟩, sampleSignedRuntime.orderHash sampleAsk, sampleAsk, sampleAskSignature⟩
    (by decide +kernel)
  exact absurd hwithin (by decide +kernel)

end Relayer

end SolanaLab
