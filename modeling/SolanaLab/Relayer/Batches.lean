import SolanaLab.Relayer.Landing

/-!
# Batches on Chain

Many plans of one market, one after the other. A sequence of plans does on
chain what the requests in order among them do to the market's book
(`plans_follow_book`).

The bridge makes a batch of requests out of the fills of an order, without a
look at the ledger. Its transactions land in any order, and each reads what the
others have left. A batch settles completely when its orders are sound and
signed and the book affords its trades, a condition on the ledger before any of
them (`batch_settles`).

Landing in any order needs more than each trade being affordable by itself. A
trade that lands early has used what it used, so the condition is on all of
them together: what each trader pays in all trades is there, and every order
has room for all its fills. Then no trade can take what another one needs.

## Main definitions

* `Regular`: What is assumed of the runtime.
* `SettlementIntent.Backed`: The orders of an intent are sound and signed.

## Theorems

* `sequence_follows`, `plans_follow_book`: Plans follow the book.
* `settling_run`: Requests in order that are covered settle.
* `batch_settles`: A batch settles completely.
-/

namespace SolanaLab

namespace Relayer

open Checked Settlement

/-! ### Sequences of plans -/

/-- The seeds of a run and of the plans that come after it. -/
def seedsWith (rt : Runtime) (inputs : List Input) (submissions : List (Env × PlannedRequest)) :
    List Seeds :=
  seedsOf inputs ++ submissions.flatMap (fun submission => submission.2.seeds rt)

/-- What is assumed of the runtime: addresses are separate, found and none the
    default key, signature instructions are laid out as they are read, and the
    ids of programs and instructions tell them apart. The first is asked for the
    seeds of the run only, since a hash of every seed cannot be injective. -/
structure Regular (rt : ClientRuntime) (seeds : List Seeds) : Prop where
  layout : rt.LaysOut
  programs : rt.ed25519Program ≠ computeBudgetId ∧ rt.ed25519Program ≠ spotSettlementId
  discriminators : cancelSignedOrderDiscriminator rt.toRuntime
    ≠ settleSignedFillDiscriminator rt.toRuntime
  separates : rt.Separates seeds
  finds : rt.Finds seeds
  avoidsDefault : rt.AvoidsDefault seeds

/-! ### Two fills of two orders -/

/-- The sample runtime, with the names of the two instructions hashed. -/
def sampleLandingRuntime : ClientRuntime where
  toRuntime := { sampleSignedRuntime with
    sha256 := fun bytes =>
      if bytes = [103, 108, 111, 98, 97, 108, 58, 115, 101, 116, 116, 108, 101, 95, 115, 105, 103,
          110, 101, 100, 95, 102, 105, 108, 108] then
        0xe4251deaed94800da228d53518300bd4099dae7df34368aca5a8772264b86374
      else if bytes = [103, 108, 111, 98, 97, 108, 58, 99, 97, 110, 99, 101, 108, 95, 115, 105, 103,
          110, 101, 100, 95, 111, 114, 100, 101, 114] then
        0xb46bee78576627b97fd2a2691be541abd67f06115ea6c37f5e3b08122a21d3cd
      else sampleSignedRuntime.sha256 bytes }
  newEd25519Instruction := sampleClientRuntime.newEd25519Instruction

/-- A fill of the two sample orders. -/
def sampleIntent (price : Exchange.Price) (quantity : Exchange.Quantity) : SettlementIntent where
  marketId := ⟨1, Nat.succ_pos _⟩
  buyerTraderId := ⟨1, Nat.succ_pos _⟩
  sellerTraderId := ⟨2, Nat.succ_pos _⟩
  makerOrderId := ⟨2, Nat.succ_pos _⟩
  takerOrderId := ⟨1, Nat.succ_pos _⟩
  price
  quantity

/-- Fills of 30 at 20 and of 10 at 22. -/
def samplePair : SettlementBatch where
  commandId := ⟨1, Nat.succ_pos _⟩
  intents := [sampleIntent ⟨20, Nat.succ_pos _⟩ ⟨30, Nat.succ_pos _⟩,
    sampleIntent ⟨22, Nat.succ_pos _⟩ ⟨10, Nat.succ_pos _⟩]

/-- The two sample orders, by their ids. -/
def sampleRegistered : SettlementSignedOrderSource :=
  ApplicationSettlementBridge.registered
    [ApplicationSettlementBridge.sampleRegistration 1 .bid sampleBid sampleBidSignature,
      ApplicationSettlementBridge.sampleRegistration 2 .ask sampleAsk sampleAskSignature]

/-- The requests for the two fills. -/
def sampleRequests : List SignedSettlementRequest :=
  [(7, sampleIntent ⟨20, Nat.succ_pos _⟩ ⟨30, Nat.succ_pos _⟩),
    (8, sampleIntent ⟨22, Nat.succ_pos _⟩ ⟨10, Nat.succ_pos _⟩)].map (fun fill =>
      ApplicationSettlementBridge.sampleBridge.request fill.1 fill.2
        ⟨⟨1, Nat.succ_pos _⟩, sampleBidHash, sampleBid, sampleBidSignature⟩
        ⟨⟨2, Nat.succ_pos _⟩, sampleAskHash, sampleAsk, sampleAskSignature⟩)

/-- The transaction of a plan, at slot 500. -/
def InstructionPlan.delivery (plan : InstructionPlan) : Env where
  signers := plan.requiredSigners
  slot := 500
  instructions := plan.instructions.map TransactionInstruction.raw
  currentIndex := plan.instructions.length - 1
  refused := false

/-- The delivery is of the plan. -/
theorem delivers_delivery {plan : InstructionPlan} (h : plan.instructions ≠ []) :
    Delivers plan.delivery plan := by
  refine ⟨rfl, ?_, fun _ hsigner => hsigner, rfl⟩
  have hpos := List.length_pos_iff.mpr h
  change plan.instructions.length - 1 + 1 = (plan.instructions.map _).length
  rw [List.length_map]
  omega

/-- The plan of a request, delivered. -/
def sampleDelivery (request : PlannedRequest) : Env × PlannedRequest :=
  ((SettlementInstructionPlanner.default.plan sampleLandingRuntime request).delivery, request)

instance (rt : Runtime) (seeds : List Seeds) : Decidable (rt.Finds seeds) :=
  inferInstanceAs (Decidable (∀ s ∈ seeds, _ = _))

section Sequences

variable (rt : ClientRuntime) (planner : SettlementInstructionPlanner) (inputs : List Input)
  (submissions : List (Env × PlannedRequest)) (market : Pubkey) (seeds : List Seeds)

/-- After any run of the program, a sequence of plans of one market answers and
    leaves what the requests in order among them do on the market's book. By
    induction on the sequence, with `land_follows` for each plan. The market
    cannot change in between, as planned instructions leave it alone. -/
theorem sequence_follows (hregular : Regular rt seeds)
    (hseeds : ∀ s ∈ seedsWith rt.toRuntime inputs submissions, s ∈ seeds)
    (hmarket : ∀ s ∈ submissions, rt.address (.marketConfig s.2.mints.1 s.2.mints.2) = market)
    (hdelivers : ∀ s ∈ submissions, Delivers s.1 (planner.plan rt s.2)) :
    let world := Run.after (step rt.toRuntime) World.empty inputs
    let asked := submissions.map (bookRequest rt.toRuntime (marketAt world market))
    let book := world.book rt.toRuntime market
    (Run.log (land rt.toRuntime) world submissions).map (fun entry => entry.2.isOk)
        = (Run.log (Clearing.stepIf (2 ^ 64)) book asked).map Prod.snd ∧
      Shows rt.toRuntime seeds market (Run.after (land rt.toRuntime) world submissions)
        (Run.after (Clearing.stepIf (2 ^ 64)) book asked) := by
  intro world asked book
  have hkept : Kept rt.toRuntime seeds world :=
    run_kept hregular.separates inputs (fun s hs => hseeds s (List.mem_append_left _ hs))
  have hsimulation : _ = (Run.log (Clearing.stepIf (2 ^ 64)) book asked).map Prod.snd ∧ _ :=
    Run.simulation_map (land rt.toRuntime) (bookRequest rt.toRuntime (marketAt world market))
      Except.isOk id (C := fun s => s ∈ submissions)
      -- The books go on together as long as the market is the same and the accounts are
      -- where they belong.
      (R := fun w b => Kept rt.toRuntime seeds w ∧ marketAt w market = marketAt world market ∧
        Shows rt.toRuntime seeds market w b)
      (s := world) ⟨hkept, rfl, Clearing.Agree.refl _ _ _ _⟩
      (fun w b s hR hs => ?_) (fun s hs => hs)
  · exact ⟨hsimulation.1, hsimulation.2.2.2⟩
  · have hlisted : ∀ seed ∈ s.2.seeds rt.toRuntime, seed ∈ seeds := fun seed hseed =>
      hseeds seed (List.mem_append_right _ (List.mem_flatMap.mpr ⟨s, hs, hseed⟩))
    have hstep := land_follows hregular.layout hregular.programs hregular.separates hregular.finds
      hregular.avoidsDefault hR.1 (hmarket s hs) (hdelivers s hs) hlisted hR.2.2
    rw [hR.2.1] at hstep
    exact ⟨hstep.1, hstep.2.1, (land_marketAt w s market).trans hR.2.1, hstep.2.2⟩

/-- Every plan asks the program for the instruction of its request and names
    as signers those that are asked to sign. After any run of the program, a
    sequence of plans of one market does on chain what the requests in order
    among them do to the market's book: the same ones go through, and what
    traders have, how much of the orders is filled, which orders are cancelled
    and which ids are used is as in the book afterwards. -/
theorem plans_follow_book (hregular : Regular rt seeds)
    (hseeds : ∀ s ∈ seedsWith rt.toRuntime inputs submissions, s ∈ seeds)
    (hmarket : ∀ s ∈ submissions, rt.address (.marketConfig s.2.mints.1 s.2.mints.2) = market)
    (hdelivers : ∀ s ∈ submissions, Delivers s.1 (planner.plan rt s.2)) :
    let world := Run.after (step rt.toRuntime) World.empty inputs
    let asked := submissions.map (bookRequest rt.toRuntime (marketAt world market))
    let book := world.book rt.toRuntime market
    (∀ s ∈ submissions, Asks rt.toRuntime (planner.plan rt s.2) (s.2.instruction rt.toRuntime)) ∧
    (Run.log (land rt.toRuntime) world submissions).map (fun entry => entry.2.isOk)
        = (Run.log (Clearing.stepIf (2 ^ 64)) book asked).map Prod.snd ∧
      Shows rt.toRuntime seeds market (Run.after (land rt.toRuntime) world submissions)
        (Run.after (Clearing.stepIf (2 ^ 64)) book asked) := by
  intro world asked book
  refine ⟨fun s hs => ?_, sequence_follows rt planner inputs submissions market seeds hregular
    hseeds hmarket hdelivers⟩
  exact plan_asks hregular.layout hregular.discriminators planner s.2

end Sequences

/-- A fill, the cancellation of the bid, and a second fill that fails. -/
def sampleSequence : List (Env × PlannedRequest) :=
  (sampleRequests.take 1).map (fun request => sampleDelivery (.settlement request))
    ++ sampleDelivery (.cancellation ⟨sampleBuyer, 10, 11, sampleBuyer, sampleBidHash, sampleBid⟩)
    :: (sampleRequests.drop 1).map (fun request => sampleDelivery (.settlement request))

/-- The book takes the fill and the cancellation. -/
theorem plans_follow_book_cancelled :
    let rt := sampleLandingRuntime.toRuntime
    let world := Run.after (step rt) World.empty (sampleDeposits none)
    let market := ApplicationSettlementBridge.sampleBridge.marketConfig rt
    let asked := sampleSequence.map (bookRequest rt (marketAt world market))
    (Run.log (Clearing.stepIf (2 ^ 64)) (world.book rt market) asked).map Prod.snd
      = [true, true, false] := by
  intro rt world market asked
  have hplans : ∀ s ∈ sampleSequence, Delivers s.1
      (SettlementInstructionPlanner.default.plan sampleLandingRuntime s.2) := by
    have hdelivers : ∀ request, Delivers (sampleDelivery request).1
        (SettlementInstructionPlanner.default.plan sampleLandingRuntime request) := by
      intro request
      cases request <;> exact delivers_delivery (List.cons_ne_nil _ _)
    intro s hs
    simp only [sampleSequence, List.mem_append, List.mem_cons, List.mem_map] at hs
    rcases hs with ⟨request, -, rfl⟩ | rfl | ⟨request, -, rfl⟩
    · exact hdelivers _
    · exact hdelivers _
    · exact hdelivers _
  -- The book's answers are those of the chain.
  have h := plans_follow_book sampleLandingRuntime .default (sampleDeposits none) sampleSequence
    market (seedsWith rt (sampleDeposits none) sampleSequence)
    ⟨fun _ _ _ _ => rfl, by decide +kernel, by decide +kernel, by decide +kernel,
      by decide +kernel, by decide +kernel⟩ (fun s hs => hs) (by decide +kernel) hplans
  exact h.2.1.symm.trans (by decide +kernel)

/-! ### Batches -/

/-- The trade of a request. -/
def SignedSettlementRequest.trade (request : SignedSettlementRequest) :
    Clearing.Trade CustodyAsset Pubkey Hash (Word 64) :=
  request.args.trade request.buyer request.seller

/-- The trader has signed the order. -/
def SettlementSignedOrder.Signed (rt : Runtime) (signedOrder : SettlementSignedOrder) : Prop :=
  rt.ed25519Verify signedOrder.order.trader.bytes signedOrder.signature.bytes
    signedOrder.order.signingPreimage = true

/-- The two orders of an intent are sound, signed, and of different traders. -/
def SettlementIntent.Backed (rt : Runtime) (signedOrders : SettlementSignedOrderSource)
    (intent : SettlementIntent) : Prop :=
  ∀ maker taker, signedOrders intent.makerOrderId = some maker →
    signedOrders intent.takerOrderId = some taker →
    (maker.Sound rt ∧ maker.Signed rt) ∧ (taker.Sound rt ∧ taker.Signed rt) ∧
      maker.order.trader ≠ taker.order.trader

/-- A request submitted in a transaction that the chain takes up in time. -/
structure InTime (env : Env) (request : SignedSettlementRequest) : Prop where
  buyer : env.slot.val ≤ request.args.buyerOrder.expirySlot.val
  seller : env.slot.val ≤ request.args.sellerOrder.expirySlot.val

section Requests

variable {bridge : ApplicationSettlementBridge} {rt : Runtime} {batch : SettlementBatch}
  {signedOrders : SettlementSignedOrderSource} {firstSettlementId : Word 64}
  {requests : List SignedSettlementRequest}

/-- Every request of a batch is for one of its intents. -/
theorem exists_bridged (h : bridge.requestsFromBatch rt batch signedOrders firstSettlementId
    = .ok requests) {request : SignedSettlementRequest} (hrequest : request ∈ requests) :
    ∃ intent ∈ batch.intents, ∃ settlementId buyer seller,
      ApplicationSettlementBridge.Bridged bridge rt signedOrders intent buyer seller ∧
        request = bridge.request settlementId intent buyer seller := by
  rcases ApplicationSettlementBridge.requestsFrom_eq_ok.mp h with ⟨hlength, hrequests⟩
  rcases List.getElem?_of_mem hrequest with ⟨k, hk⟩
  have hlt : k < batch.intents.length := by
    rw [← hlength]
    exact (List.getElem?_eq_some_iff.mp hk).1
  rcases hrequests k _ (List.getElem?_eq_getElem hlt) with ⟨request', hget, hok⟩
  rw [hk, Option.some.injEq] at hget
  rcases ApplicationSettlementBridge.requestFromIntent_eq_ok.mp hok with
    ⟨settlementId, buyer, seller, -, hbridged, heq⟩
  exact ⟨_, List.getElem_mem hlt, settlementId, buyer, seller, hbridged, hget.trans heq⟩

/-- What backs an intent, by the roles of its two orders. Which of the two is
    the maker does not matter. -/
theorem backed_of_bridged {intent : SettlementIntent} {buyer seller : SettlementSignedOrder}
    (h : ApplicationSettlementBridge.Bridged bridge rt signedOrders intent buyer seller)
    (hbacked : intent.Backed rt signedOrders) :
    (buyer.Sound rt ∧ buyer.Signed rt) ∧ (seller.Sound rt ∧ seller.Signed rt) ∧
      buyer.order.trader ≠ seller.order.trader := by
  rcases h.orders with ⟨maker, taker, hmaker, htaker, hsides, -⟩
  rcases hbacked maker taker hmaker htaker with ⟨hm, ht, htraders⟩
  rcases hsides with heq | heq
  · rw [Prod.mk.injEq] at heq
    rw [heq.1, heq.2]
    exact ⟨hm, ht, htraders⟩
  · rw [Prod.mk.injEq] at heq
    rw [heq.1, heq.2]
    exact ⟨ht, hm, htraders.symm⟩

/-- A request for an intent that is backed is in order, in time and in a market
    of the bridge's authority. -/
theorem request_inOrder {request : SignedSettlementRequest}
    (h : bridge.requestsFromBatch rt batch signedOrders firstSettlementId = .ok requests)
    (hrequest : request ∈ requests)
    (hbacked : ∀ intent ∈ batch.intents, intent.Backed rt signedOrders) {env : Env}
    (hintime : InTime env request) {config : MarketConfig}
    (hauthority : config.settlementAuthority = bridge.settlementAuthority) :
    (PlannedRequest.settlement request).InOrder rt env.slot (some config) ∧
      request.buyer ≠ request.seller ∧
      (request.baseMint, request.quoteMint) = (bridge.baseMint, bridge.quoteMint) := by
  rcases exists_bridged h hrequest with
    ⟨intent, hintent, settlementId, buyer, seller, hbridged, rfl⟩
  rcases backed_of_bridged hbridged (hbacked intent hintent) with
    ⟨⟨hbuyer, hbsigned⟩, ⟨hseller, hssigned⟩, htraders⟩
  have hsettles := (hbridged.settleable settlementId).mpr ⟨hbuyer, hseller, htraders⟩
  exact ⟨⟨⟨config, rfl, hauthority⟩, hsettles, ⟨hintime.buyer, hintime.seller⟩, hbsigned,
    hssigned⟩, htraders, rfl⟩

/-- The trades of a batch have different ids, which are consecutive. -/
theorem trades_distinct (h : bridge.requestsFromBatch rt batch signedOrders firstSettlementId
    = .ok requests) :
    ((requests.map SignedSettlementRequest.trade).map Clearing.Trade.id).Nodup := by
  have hids := ApplicationSettlementBridge.requestsFrom_settlementIds h
  refine List.Nodup.of_map Fin.val ?_
  rw [List.map_map, List.map_map]
  change (requests.map (fun request => request.args.settlementId.val)).Nodup
  rw [hids]
  exact List.nodup_range'

end Requests

/-- The submission of a request to settle. -/
def settling (submission : Env × SignedSettlementRequest) : Env × PlannedRequest :=
  (submission.1, .settlement submission.2)

section Settling

variable (rt : ClientRuntime) (planner : SettlementInstructionPlanner) (inputs : List Input)
  (submissions : List (Env × SignedSettlementRequest)) (market : Pubkey) (seeds : List Seeds)

/-- Requests in order that are covered settle, one after the other. What is
    carried along is that the trades still to come are afforded by the book that
    the earlier ones have left. -/
theorem settling_run (hregular : Regular rt seeds)
    (hseeds : ∀ s ∈ seedsWith rt.toRuntime inputs (submissions.map settling), s ∈ seeds)
    (hmarket : ∀ s ∈ submissions, rt.address (.marketConfig s.2.baseMint s.2.quoteMint) = market)
    (hdelivers : ∀ s ∈ submissions, Delivers s.1 (planner.planSignedSettlement rt s.2)) :
    let world := Run.after (step rt.toRuntime) World.empty inputs
    let last := Run.after (land rt.toRuntime) world (submissions.map settling)
    let trades := submissions.map (fun s => s.2.trade)
    (∀ s ∈ submissions, (PlannedRequest.settlement s.2).InOrder rt.toRuntime s.1.slot
      (marketAt world market)) →
    Clearing.Covers (2 ^ 64) (world.book rt.toRuntime market) trades →
    (∀ entry ∈ Run.log (land rt.toRuntime) world (submissions.map settling), entry.2 = .ok ()) ∧
    (∀ asset trader, .traderBalance market trader ∈ seeds →
      last.available rt.toRuntime asset market trader + Clearing.paidIn trades asset trader
        = world.available rt.toRuntime asset market trader
          + Clearing.receivedIn trades asset trader) ∧
    (∀ orderHash, .orderFillState market orderHash ∈ seeds →
      last.filledQuantity rt.toRuntime market orderHash
        = world.filledQuantity rt.toRuntime market orderHash
          + Clearing.fillsIn trades orderHash) ∧
    ∀ s ∈ submissions, (last.accounts.get? (rt.address
      (.settlementReceipt market s.2.args.settlementId))).isSome = true := by
  intro world last trades hin hcovers
  -- All of them are asked of the book.
  have hasked : (submissions.map settling).map (bookRequest rt.toRuntime (marketAt world market))
      = (trades.map Clearing.Request.settle).map some := by
    rw [List.map_map, List.map_map, List.map_map]
    exact List.map_congr_left (fun s hs => bookRequest_of_inOrder (hin s hs))
  have hfollows : (Run.log (land rt.toRuntime) world (submissions.map settling)).map
        (fun entry => entry.2.isOk) = (Run.log (Clearing.step (2 ^ 64))
          (world.book rt.toRuntime market) (trades.map Clearing.Request.settle)).map Prod.snd ∧
      Shows rt.toRuntime seeds market last (Run.after (Clearing.step (2 ^ 64))
        (world.book rt.toRuntime market) (trades.map Clearing.Request.settle)) := by
    have hsame := Clearing.stepIf_run (2 ^ 64) (world.book rt.toRuntime market)
      (trades.map Clearing.Request.settle)
    rw [hsame.1, hsame.2, ← hasked]
    refine sequence_follows rt planner inputs _ market seeds hregular hseeds
      (fun s hs => ?_) (fun s hs => ?_)
    · rcases List.mem_map.mp hs with ⟨submission, hsubmission, rfl⟩
      exact hmarket submission hsubmission
    · rcases List.mem_map.mp hs with ⟨submission, hsubmission, rfl⟩
      exact hdelivers submission hsubmission
  -- What the book has come to is read back off the accounts that show it.
  rcases Clearing.covers_run hcovers with ⟨htaken, hmoved, hfilled, hsettled⟩
  rcases hfollows with ⟨hanswers, hshows⟩
  refine ⟨fun entry hentry => ?_, fun asset trader ht => ?_, fun orderHash ho => ?_,
    fun s hs => ?_⟩
  · have hok : entry.2.isOk ∈ (Run.log (land rt.toRuntime) world (submissions.map settling)).map
        (fun entry => entry.2.isOk) := List.mem_map.mpr ⟨entry, hentry, rfl⟩
    rw [hanswers] at hok
    rcases List.mem_map.mp hok with ⟨answer, hanswer, heq⟩
    rw [htaken answer hanswer] at heq
    cases hresult : entry.2 with
    | ok => rfl
    | error e =>
        rw [hresult] at heq
        exact absurd heq Bool.true_eq_false.mp
  · have hbook := hmoved asset trader
    rw [← hshows.available asset trader ht] at hbook
    exact hbook
  · have hbook := hfilled orderHash
    rw [← hshows.filled orderHash ho] at hbook
    exact hbook
  · have hbook := hsettled s.2.trade (List.mem_map.mpr ⟨s, hs, rfl⟩)
    have hlisted : ∀ seed ∈ (settling s).2.seeds rt.toRuntime, seed ∈ seeds := fun seed hseed =>
      hseeds seed (List.mem_append_right _ (List.mem_flatMap.mpr
        ⟨settling s, List.mem_map_of_mem hs, hseed⟩))
    have hreceipt : Seeds.settlementReceipt market s.2.args.settlementId ∈ seeds := by
      rw [← hmarket s hs]
      exact (asked_listed hlisted).id
    exact (hshows.settled _ hreceipt).trans hbook

end Settling

section Batches

variable (rt : ClientRuntime) (planner : SettlementInstructionPlanner) (inputs : List Input)
  (bridge : ApplicationSettlementBridge) (batch : SettlementBatch)
  (signedOrders : SettlementSignedOrderSource) (firstSettlementId : Word 64)
  (requests : List SignedSettlementRequest)
  (submissions : List (Env × SignedSettlementRequest)) (seeds : List Seeds)

/-- A batch settles completely, whatever the order its transactions land in,
    when its orders are sound and signed and the book of the market affords its
    trades. In the end everyone has paid and received what the trades say, the
    orders are filled by them, and each has its receipt. -/
theorem batch_settles
    (hbatch : bridge.requestsFromBatch rt.toRuntime batch signedOrders firstSettlementId
      = .ok requests)
    (hbacked : ∀ intent ∈ batch.intents, intent.Backed rt.toRuntime signedOrders)
    (hperm : (submissions.map Prod.snd).Perm requests)
    (hdelivers : ∀ s ∈ submissions, Delivers s.1 (planner.planSignedSettlement rt s.2))
    (hintime : ∀ s ∈ submissions, InTime s.1 s.2)
    (hregular : Regular rt seeds)
    (hseeds : ∀ s ∈ seedsWith rt.toRuntime inputs (submissions.map settling), s ∈ seeds)
    (hauthority : ∃ config, marketAt (Run.after (step rt.toRuntime) World.empty inputs)
      (bridge.marketConfig rt.toRuntime) = some config ∧
        config.settlementAuthority = bridge.settlementAuthority)
    (haffords : Clearing.Affords (2 ^ 64)
      ((Run.after (step rt.toRuntime) World.empty inputs).book rt.toRuntime
        (bridge.marketConfig rt.toRuntime)) (requests.map SignedSettlementRequest.trade)) :
    let world := Run.after (step rt.toRuntime) World.empty inputs
    let last := Run.after (land rt.toRuntime) world (submissions.map settling)
    let market := bridge.marketConfig rt.toRuntime
    let trades := requests.map SignedSettlementRequest.trade
    (∀ entry ∈ Run.log (land rt.toRuntime) world (submissions.map settling), entry.2 = .ok ()) ∧
    (∀ asset trader, .traderBalance market trader ∈ seeds →
      last.available rt.toRuntime asset market trader + Clearing.paidIn trades asset trader
        = world.available rt.toRuntime asset market trader
          + Clearing.receivedIn trades asset trader) ∧
    (∀ orderHash, .orderFillState market orderHash ∈ seeds →
      last.filledQuantity rt.toRuntime market orderHash
        = world.filledQuantity rt.toRuntime market orderHash
          + Clearing.fillsIn trades orderHash) ∧
    ∀ request ∈ requests, (last.accounts.get? (rt.address
      (.settlementReceipt market request.args.settlementId))).isSome = true := by
  intro world last market trades
  rcases hauthority with ⟨config, hconfig, hauthority⟩
  have hmem : ∀ s ∈ submissions, s.2 ∈ requests :=
    fun s hs => hperm.mem_iff.mp (List.mem_map_of_mem hs)
  have hin := fun s hs => request_inOrder hbatch (hmem s hs) hbacked (hintime s hs) hauthority
  have hsubmitted : ∀ request ∈ requests, ∃ s ∈ submissions, s.2 = request :=
    fun request hrequest => List.mem_map.mp (hperm.mem_iff.mpr hrequest)
  have hparties : ∀ trade ∈ trades, ∀ a, trade.payer a ≠ trade.receiver a := by
    intro trade htrade asset
    rcases List.mem_map.mp htrade with ⟨request, hrequest, rfl⟩
    rcases hsubmitted request hrequest with ⟨s, hs, rfl⟩
    cases asset with
    | base => exact (hin s hs).2.1.symm
    | quote => exact (hin s hs).2.1
  -- The book affords the trades in the order they land in too.
  have htrades : (submissions.map (fun s => s.2.trade)).Perm trades := by
    have hmap := hperm.map SignedSettlementRequest.trade
    rw [List.map_map] at hmap
    exact hmap
  have hcovers : Clearing.Covers (2 ^ 64) (world.book rt.toRuntime market) trades :=
    ⟨haffords, hparties, trades_distinct hbatch⟩
  have hmarket : ∀ s ∈ submissions,
      rt.address (.marketConfig s.2.baseMint s.2.quoteMint) = market := by
    intro s hs
    have hmints := Prod.mk.inj (hin s hs).2.2
    rw [hmints.1, hmints.2]
    rfl
  have hinOrder : ∀ s ∈ submissions, (PlannedRequest.settlement s.2).InOrder rt.toRuntime s.1.slot
      (marketAt world market) := by
    intro s hs
    rw [hconfig]
    exact (hin s hs).1
  rcases settling_run rt planner inputs submissions market seeds hregular hseeds hmarket hdelivers
    hinOrder (hcovers.perm htrades) with ⟨hall, hmoved, hfilled, hreceipts⟩
  -- The transactions are a permutation of the batch, and affording does not depend on the
  -- order.
  refine ⟨hall, fun asset trader ht => ?_, fun orderHash ho => ?_, fun request hrequest => ?_⟩
  · have hbook := hmoved asset trader ht
    rw [Clearing.paidIn_perm htrades, Clearing.receivedIn_perm htrades] at hbook
    exact hbook
  · have hbook := hfilled orderHash ho
    rw [Clearing.fillsIn_perm htrades] at hbook
    exact hbook
  · rcases hsubmitted request hrequest with ⟨s, hs, rfl⟩
    exact hreceipts s hs

end Batches

/-- The two requests, the second one first. -/
def sampleSubmissions : List (Env × SignedSettlementRequest) :=
  sampleRequests.reverse.map (fun request =>
    ((SettlementInstructionPlanner.default.planSignedSettlement sampleLandingRuntime
      request).delivery, request))

/-- The sample runtime is regular for the sample run. -/
theorem sampleLandingRuntime_regular : Regular sampleLandingRuntime
    (seedsWith sampleLandingRuntime.toRuntime (sampleDeposits none)
      (sampleSubmissions.map settling)) :=
  ⟨fun _ _ _ _ => rfl, by decide +kernel, by decide +kernel, by decide +kernel,
    by decide +kernel, by decide +kernel⟩

/-- Both orders are hashed and signed. -/
theorem samplePair_backed : ∀ intent ∈ samplePair.intents,
    intent.Backed sampleLandingRuntime.toRuntime sampleRegistered := by
  have hm : sampleRegistered ⟨2, Nat.succ_pos _⟩ = some ⟨⟨2, by decide⟩, sampleAskHash, sampleAsk,
    sampleAskSignature⟩ := by decide +kernel
  have ht : sampleRegistered ⟨1, Nat.succ_pos _⟩ = some ⟨⟨1, by decide⟩, sampleBidHash, sampleBid,
    sampleBidSignature⟩ := by decide +kernel
  -- Both fills are of the same two orders, so one check does for both.
  have hbacked : ∀ price quantity, (sampleIntent price quantity).Backed
      sampleLandingRuntime.toRuntime sampleRegistered := by
    intro price quantity maker taker hmaker htaker
    rw [← Option.some.inj (hm.symm.trans hmaker), ← Option.some.inj (ht.symm.trans htaker)]
    have hsigned : sampleLandingRuntime.ed25519Verify sampleSeller.bytes sampleAskSignature.bytes
          sampleAsk.signingPreimage = true ∧
        sampleLandingRuntime.ed25519Verify sampleBuyer.bytes sampleBidSignature.bytes
          sampleBid.signingPreimage = true := by decide +kernel
    exact ⟨⟨⟨by decide, by decide, by decide, by decide +kernel⟩, hsigned.1⟩,
      ⟨⟨by decide, by decide, by decide, by decide +kernel⟩, hsigned.2⟩, by decide⟩
  intro intent hintent
  rw [samplePair, List.mem_cons, List.mem_singleton] at hintent
  rcases hintent with rfl | rfl
  · exact hbacked _ _
  · exact hbacked _ _

/-- The deposits pay for both fills. -/
theorem sampleRequests_afforded : Clearing.Affords (2 ^ 64)
    ((Run.after (step sampleLandingRuntime.toRuntime) World.empty (sampleDeposits none)).book
      sampleLandingRuntime.toRuntime sampleMarket)
    (sampleRequests.map SignedSettlementRequest.trade) := by
  have hopened : ∀ trade ∈ sampleRequests.map SignedSettlementRequest.trade,
      ∀ entry ∈ trade.orders, ((Run.after (step sampleLandingRuntime.toRuntime) World.empty
        (sampleDeposits none)).book sampleLandingRuntime.toRuntime sampleMarket).cancelled entry.1
          = false := by
    decide +kernel
  have hlimit : ∀ trade ∈ sampleRequests.map SignedSettlementRequest.trade,
      ∀ entry ∈ trade.orders, ((Run.after (step sampleLandingRuntime.toRuntime) World.empty
        (sampleDeposits none)).book sampleLandingRuntime.toRuntime sampleMarket).filled entry.1
          + Clearing.fillsIn (sampleRequests.map SignedSettlementRequest.trade) entry.1
            ≤ entry.2 := by
    decide +kernel
  refine ⟨by decide +kernel, fun trade ht asset => ?_, fun trade ht asset => ?_,
    fun trade ht order limit ho => hopened trade ht (order, limit) ho,
    fun trade ht order limit ho => hlimit trade ht (order, limit) ho⟩
  · cases asset <;> revert trade <;> decide +kernel
  · cases asset <;> revert trade <;> decide +kernel

/-- The two fills settle: the buyer has 40 and has paid 820. -/
theorem batch_settles_twoFills :
    let rt := sampleLandingRuntime.toRuntime
    let world := Run.after (step rt) World.empty (sampleDeposits none)
    let last := Run.after (land rt) world (sampleSubmissions.map settling)
    let market := ApplicationSettlementBridge.sampleBridge.marketConfig rt
    (∀ entry ∈ Run.log (land rt) world (sampleSubmissions.map settling), entry.2 = .ok ()) ∧
      last.available rt .base market sampleBuyer = 40 ∧
      last.available rt .quote market sampleBuyer = 180 ∧
      last.filledQuantity rt market sampleBidHash = 40 := by
  intro rt world last market
  have hplans : ∀ s ∈ sampleSubmissions, Delivers s.1
      (SettlementInstructionPlanner.default.planSignedSettlement sampleLandingRuntime s.2) := by
    intro s hs
    rcases List.mem_map.mp hs with ⟨request, -, rfl⟩
    exact delivers_delivery (List.cons_ne_nil _ _)
  have hslots : ∀ s ∈ sampleSubmissions,
      s.1.slot.val ≤ s.2.args.buyerOrder.expirySlot.val ∧
        s.1.slot.val ≤ s.2.args.sellerOrder.expirySlot.val := by decide +kernel
  have hmarket : (marketAt world market).map MarketConfig.settlementAuthority
      = some sampleAuthority := by decide +kernel
  -- All conditions are about these accounts and transactions, and can be checked.
  have h := batch_settles sampleLandingRuntime .default (sampleDeposits none)
    ApplicationSettlementBridge.sampleBridge samplePair sampleRegistered 7 sampleRequests
    sampleSubmissions _ (by decide +kernel) samplePair_backed (by decide +kernel) hplans
    (fun s hs => ⟨(hslots s hs).1, (hslots s hs).2⟩) sampleLandingRuntime_regular
    (fun s hs => hs) (Option.map_eq_some_iff.mp hmarket) sampleRequests_afforded
  have hbase := h.2.1 .base sampleBuyer (by decide +kernel)
  have hquote := h.2.1 .quote sampleBuyer (by decide +kernel)
  have hfilled := h.2.2.1 sampleBidHash (by decide +kernel)
  -- What the buyer has before the fills, and what the two move.
  have hbefore : (world.available rt .base market sampleBuyer = 0 ∧
      world.available rt .quote market sampleBuyer = 1000) ∧
      world.filledQuantity rt market sampleBidHash = 0 := by decide +kernel
  have hmoved : (Clearing.paidIn (sampleRequests.map SignedSettlementRequest.trade) .base
        sampleBuyer = 0 ∧ Clearing.receivedIn (sampleRequests.map SignedSettlementRequest.trade)
          .base sampleBuyer = 40) ∧
      Clearing.paidIn (sampleRequests.map SignedSettlementRequest.trade) .quote sampleBuyer = 820 ∧
      Clearing.receivedIn (sampleRequests.map SignedSettlementRequest.trade) .quote
        sampleBuyer = 0 := by decide +kernel
  have hfills : Clearing.fillsIn (sampleRequests.map SignedSettlementRequest.trade)
    sampleBidHash = 40 := by decide +kernel
  rw [hmoved.1.1, hmoved.1.2] at hbase
  rw [hmoved.2.1, hmoved.2.2] at hquote
  rw [hfills] at hfilled
  have hsum : ∀ after paid before received : Nat, after + paid = before + received →
      after = before + received - paid := by omega
  refine ⟨h.1, ?_, ?_, ?_⟩
  · rw [hsum _ _ _ _ hbase, hbefore.1.1]
  · rw [hsum _ _ _ _ hquote, hbefore.1.2]
  · rw [hfilled, hbefore.2]

end Relayer

end SolanaLab
