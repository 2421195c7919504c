import SolanaLab.Settlement.Custody
import SolanaLab.Settlement.Ed25519

/-!
# Settlement

The instructions that move recorded balances between traders, `settle_fill`
and `settle_signed_fill`, and `cancel_signed_order`.

Both settlements exchange base for quote between a buyer and a seller and
leave a receipt at an address derived from the settlement id. The signed one
also checks two orders, each hashed and signed by its trader, and keeps for
each hash how much of its order is filled.

`Settled` says what either settlement has found and done to balances and
receipts. `OrderFilled` says what the signed one has found and done for one of
its two orders.

The program moves recorded balances only. No token leaves a vault when a fill
is settled, and for that reason a settlement needs no token account and cannot
fail on one.

## Main definitions

* `settleFillHandler`: A settlement on the authority's word.
* `settleSignedFillHandler`: A settlement of two signed orders.
* `cancelSignedOrderHandler`: The end of a signed order.
* `Settled`: What a settlement did to balances and receipts.
* `OrderFilled`: What a signed settlement found and did for one order.
* `Cancelled`: What a successful cancellation found and did.

## Theorems

* `settleFillHandler_eq_ok`: A successful settlement.
* `settleSignedFillHandler_eq_ok`: A successful settlement of signed orders.
* `cancelSignedOrderHandler_eq_ok`: A successful cancellation.
* `settled_total`: What a settlement does to a total over the accounts.
-/

namespace SolanaLab

namespace Settlement

open Checked

/-- The accounts of `settle_fill`. Buyer and seller are keys without a
    signature: it is the settlement authority of the market that vouches for the
    fill. -/
structure SettleFill where
  settlementAuthority : Pubkey
  marketConfig : Pubkey
  buyer : Pubkey
  seller : Pubkey
  buyerBalance : Pubkey
  sellerBalance : Pubkey
  settlementReceipt : Pubkey
  payer : Pubkey
deriving DecidableEq

/-- The accounts of `settle_signed_fill`: those of the plain one, a fill state
    for each order and the sysvar that shows the instructions of the
    transaction. -/
structure SettleSignedFill extends SettleFill where
  buyerOrderFillState : Pubkey
  sellerOrderFillState : Pubkey
  instructionsSysvar : Pubkey
deriving DecidableEq

/-- The accounts of `cancel_signed_order`. Here the trader himself has to sign. -/
structure CancelSignedOrder where
  trader : Pubkey
  marketConfig : Pubkey
  orderFillState : Pubkey
  payer : Pubkey
deriving DecidableEq

/-- The records that both settlements load, once every check on them has passed. -/
structure SettlementAccounts where
  market : MarketConfig
  buyerBalance : TraderMarketBalance
  sellerBalance : TraderMarketBalance

/-- A trader's balance in a settlement, with its seeds and constraints. The two
    constraints repeat what the seeds say of a balance that was ever filled in. -/
def loadTraderBalance (rt : Runtime) (accounts : Accounts) (key market trader : Pubkey) :
    Except ProgramError TraderMarketBalance := do
  let balance ← load Account.traderMarketBalance? accounts key
  checkSeeds rt key (.traderBalance market trader) balance.bump
  require (balance.marketConfig = market) (.anchor .constraintRaw)
  require (balance.trader = trader) (.anchor .constraintRaw)
  return balance

/-- The accounts that both settlements declare. The two balances are mutable, so
    they may not be one account. The receipt must be new, and this is what keeps
    a settlement id from being used twice. -/
def loadSettlementAccounts (rt : Runtime) (env : Env) (accounts : Accounts) (ctx : SettleFill)
    (settlementId : Word 64) : Except ProgramError SettlementAccounts := do
  checkSigner env ctx.settlementAuthority
  let market ← loadMarketConfig rt accounts ctx.marketConfig
  requireCode (market.settlementAuthority = ctx.settlementAuthority)
    .unauthorizedSettlementAuthority
  let buyerBalance ← loadTraderBalance rt accounts ctx.buyerBalance ctx.marketConfig ctx.buyer
  let sellerBalance ← loadTraderBalance rt accounts ctx.sellerBalance ctx.marketConfig ctx.seller
  require (ctx.buyerBalance ≠ ctx.sellerBalance) (.anchor .constraintDuplicateMutableAccount)
  init rt accounts ctx.settlementReceipt (.settlementReceipt ctx.marketConfig settlementId)
  checkSigner env ctx.payer
  return { market, buyerBalance, sellerBalance }

/-- `settle_fill_handler`. The two amounts are taken as they come, so that no
    price has to lie behind them, and the receipt names no orders. -/
def settleFillHandler (rt : Runtime) (env : Env) (world : World) (ctx : SettleFill)
    (settlementId baseAmount quoteAmount : Word 64) : Except ProgramError World := do
  let loaded ← loadSettlementAccounts rt env world.accounts ctx settlementId
  -- The accounts are valid, and the body of the handler begins.
  requireCode (loaded.market.paused = false) .marketPaused
  requireCode (0 < baseAmount.val) .invalidSettlementAmount
  requireCode (0 < quoteAmount.val) .invalidSettlementAmount
  -- The buyer pays before the seller does, which decides the error if both cannot.
  let buyerPaid ← loaded.buyerBalance.sub .quote quoteAmount .insufficientAvailableBalance
  let buyerBalance ← buyerPaid.add .base baseAmount .settlementBalanceOverflow
  let sellerPaid ← loaded.sellerBalance.sub .base baseAmount .insufficientAvailableBalance
  let sellerBalance ← sellerPaid.add .quote quoteAmount .settlementBalanceOverflow
  let receipt : SettlementReceipt := {
    marketConfig := ctx.marketConfig
    settlementId
    buyer := ctx.buyer
    seller := ctx.seller
    buyerOrderHash := 0
    sellerOrderHash := 0
    baseAmount
    quoteAmount
    bump := rt.bump (.settlementReceipt ctx.marketConfig settlementId) }
  return { world with
    accounts := ((world.accounts.insert ctx.buyerBalance (.traderMarketBalance buyerBalance)).insert
      ctx.sellerBalance (.traderMarketBalance sellerBalance)).insert
      ctx.settlementReceipt (.settlementReceipt receipt) }

/-! ### Signed orders -/

/-- `validate_signed_order_payload`: an order for this market, of this trader
    and on this side, without a zero in it. The five last checks mirror what the
    exchange's own types exclude. -/
def validateSignedOrderPayload (order : SignedOrderPayload) (market trader : Pubkey)
    (side : SignedOrderSide) : Except ProgramError Unit := do
  requireCode (order.marketConfig = market) .invalidSignedOrder
  requireCode (order.trader = trader) .invalidSignedOrder
  requireCode (order.side = side) .invalidSignedOrder
  requireCode (0 < order.orderId.val) .invalidSignedOrder
  requireCode (0 < order.price.val) .invalidSignedOrder
  requireCode (0 < order.quantity.val) .invalidSignedOrder
  requireCode (0 < order.nonce.val) .invalidSignedOrder
  requireCode (0 < order.expirySlot.val) .invalidSignedOrder

/-- `validate_cancel_order_payload`: the same without the side. A cancelled
    order may be a bid or an ask. -/
def validateCancelOrderPayload (order : SignedOrderPayload) (market trader : Pubkey) :
    Except ProgramError Unit := do
  requireCode (order.marketConfig = market) .invalidSignedOrder
  requireCode (order.trader = trader) .invalidSignedOrder
  requireCode (0 < order.orderId.val) .invalidSignedOrder
  requireCode (0 < order.price.val) .invalidSignedOrder
  requireCode (0 < order.quantity.val) .invalidSignedOrder
  requireCode (0 < order.nonce.val) .invalidSignedOrder
  requireCode (0 < order.expirySlot.val) .invalidSignedOrder

/-- `validate_signed_fill_rules`: what both orders together must allow. An order
    is still good in the slot in which it expires. -/
def validateSignedFillRules (args : SignedFillArgs) (currentSlot : Word 64) :
    Except ProgramError Unit := do
  requireCode (args.buyerOrder.trader ≠ args.sellerOrder.trader) .invalidSignedOrder
  requireCode (currentSlot.val ≤ args.buyerOrder.expirySlot.val ∧
    currentSlot.val ≤ args.sellerOrder.expirySlot.val) .signedOrderExpired
  requireCode (args.sellerOrder.price.val ≤ args.buyerOrder.price.val)
    .signedOrderPricesDoNotCross
  requireCode (args.fillPrice.val ≤ args.buyerOrder.price.val ∧
    args.sellerOrder.price.val ≤ args.fillPrice.val) .fillPriceOutsideSignedOrder
  requireCode (args.fillQuantity.val ≤ args.buyerOrder.quantity.val ∧
    args.fillQuantity.val ≤ args.sellerOrder.quantity.val) .fillQuantityExceedsSignedOrder

/-- `initialize_fill_state_if_needed`. That the state was just created shows in
    its default market; any other state must be for this market and hash
    already. -/
def initializeFillStateIfNeeded (fillState : OrderFillState) (marketConfig : Pubkey)
    (orderHash : Hash) (bump : Byte) : Except ProgramError OrderFillState := do
  let initialized : OrderFillState :=
    if fillState.marketConfig = Pubkey.default then
      { marketConfig, orderHash, filledQuantity := 0, cancelled := false, bump }
    else fillState
  requireCode (initialized.marketConfig = marketConfig ∧ initialized.orderHash = orderHash)
    .orderFillStateMismatch
  return initialized

/-- `apply_fill_state`: a fill on top of those before. The bound is the quantity
    of the order as signed, so that no sequence of fills goes beyond it. -/
def applyFillState (fillState : OrderFillState) (orderQuantity fillQuantity : Word 64) :
    Except ProgramError OrderFillState := do
  requireCode (fillState.cancelled = false) .orderCancelled
  let newFilledQuantity ←
    okOr (checkedAdd fillState.filledQuantity fillQuantity) (.code .settlementBalanceOverflow)
  requireCode (newFilledQuantity.val ≤ orderQuantity.val) .fillQuantityExceedsSignedOrder
  return { fillState with filledQuantity := newFilledQuantity }

/-- `quote_amount_u64`: the product in 128 bits, when it fits into 64. -/
def quoteAmountU64 (price quantity : Word 64) : Except ProgramError (Word 64) := do
  let quoteAmount ← okOr (checkedMul (w := 128)
    (price.castLE two_pow_64_le_128) (quantity.castLE two_pow_64_le_128))
    (.code .settlementBalanceOverflow)
  okOr (narrow 64 quoteAmount) (.code .settlementBalanceOverflow)

/-- `apply_balance_settlement`: the two balances afterwards. The steps and their
    errors are those of the plain settlement. -/
def applyBalanceSettlement (buyerBalance sellerBalance : TraderMarketBalance)
    (baseAmount quoteAmount : Word 64) :
    Except ProgramError (TraderMarketBalance × TraderMarketBalance) := do
  let buyerPaid ← buyerBalance.sub .quote quoteAmount .insufficientAvailableBalance
  let buyer ← buyerPaid.add .base baseAmount .settlementBalanceOverflow
  let sellerPaid ← sellerBalance.sub .base baseAmount .insufficientAvailableBalance
  let seller ← sellerPaid.add .quote quoteAmount .settlementBalanceOverflow
  return (buyer, seller)

/-- `settle_signed_fill_handler`. Beyond the plain settlement it makes sure that
    both traders signed what is being done, and remembers how much of each order
    is used up. -/
def settleSignedFillHandler (rt : Runtime) (env : Env) (world : World) (ctx : SettleSignedFill)
    (settlementId : Word 64) (buyerOrderHash sellerOrderHash : Hash) (args : SignedFillArgs) :
    Except ProgramError World := do
  let loaded ← loadSettlementAccounts rt env world.accounts ctx.toSettleFill settlementId
  let buyerFillState ← initIfNeeded rt Account.orderFillState? OrderFillState.zeroed
    world.accounts ctx.buyerOrderFillState (.orderFillState ctx.marketConfig buyerOrderHash)
  let sellerFillState ← initIfNeeded rt Account.orderFillState? OrderFillState.zeroed
    world.accounts ctx.sellerOrderFillState (.orderFillState ctx.marketConfig sellerOrderHash)
  require (ctx.instructionsSysvar = rt.instructionsSysvar) (.anchor .constraintAddress)
  -- The accounts are valid, and the body of the handler begins.
  requireCode (loaded.market.paused = false) .marketPaused
  requireCode (0 < args.fillPrice.val) .invalidSettlementAmount
  requireCode (0 < args.fillQuantity.val) .invalidSettlementAmount
  -- The addresses were derived from the separate arguments, so the two must agree.
  requireCode (args.settlementId = settlementId ∧ args.buyerOrderHash = buyerOrderHash ∧
    args.sellerOrderHash = sellerOrderHash) .invalidSignedOrder
  validateSignedOrderPayload args.buyerOrder ctx.marketConfig ctx.buyer .bid
  validateSignedOrderPayload args.sellerOrder ctx.marketConfig ctx.seller .ask
  validateSignedFillRules args env.slot
  requireCode (rt.sha256 args.buyerOrder.signingPreimage = args.buyerOrderHash) .orderHashMismatch
  requireCode (rt.sha256 args.sellerOrder.signingPreimage = args.sellerOrderHash)
    .orderHashMismatch
  -- The two instructions before this one have checked the signatures.
  verifyPreviousEd25519Instruction rt env ctx.instructionsSysvar (-2) ctx.buyer
    args.buyerSignature args.buyerOrder.signingPreimage
  verifyPreviousEd25519Instruction rt env ctx.instructionsSysvar (-1) ctx.seller
    args.sellerSignature args.sellerOrder.signingPreimage
  let buyerOpened ← initializeFillStateIfNeeded buyerFillState ctx.marketConfig
    args.buyerOrderHash (rt.bump (.orderFillState ctx.marketConfig buyerOrderHash))
  let sellerOpened ← initializeFillStateIfNeeded sellerFillState ctx.marketConfig
    args.sellerOrderHash (rt.bump (.orderFillState ctx.marketConfig sellerOrderHash))
  let buyerFilled ← applyFillState buyerOpened args.buyerOrder.quantity args.fillQuantity
  let sellerFilled ← applyFillState sellerOpened args.sellerOrder.quantity args.fillQuantity
  let quoteAmount ← quoteAmountU64 args.fillPrice args.fillQuantity
  let balances ← applyBalanceSettlement loaded.buyerBalance loaded.sellerBalance
    args.fillQuantity quoteAmount
  let receipt : SettlementReceipt := {
    marketConfig := ctx.marketConfig
    settlementId := args.settlementId
    buyer := ctx.buyer
    seller := ctx.seller
    buyerOrderHash := args.buyerOrderHash
    sellerOrderHash := args.sellerOrderHash
    baseAmount := args.fillQuantity
    quoteAmount
    bump := rt.bump (.settlementReceipt ctx.marketConfig settlementId) }
  return { world with
    accounts := ((((world.accounts.insert
      ctx.buyerBalance (.traderMarketBalance balances.1)).insert
      ctx.sellerBalance (.traderMarketBalance balances.2)).insert
      ctx.buyerOrderFillState (.orderFillState buyerFilled)).insert
      ctx.sellerOrderFillState (.orderFillState sellerFilled)).insert
      ctx.settlementReceipt (.settlementReceipt receipt) }

/-- `cancel_signed_order_handler`. Neither expiry nor the fills so far matter,
    and a second cancellation succeeds and changes nothing. -/
def cancelSignedOrderHandler (rt : Runtime) (env : Env) (world : World) (ctx : CancelSignedOrder)
    (orderHash : Hash) (order : SignedOrderPayload) : Except ProgramError World := do
  checkSigner env ctx.trader
  let market ← loadMarketConfig rt world.accounts ctx.marketConfig
  let fillState ← initIfNeeded rt Account.orderFillState? OrderFillState.zeroed
    world.accounts ctx.orderFillState (.orderFillState ctx.marketConfig orderHash)
  checkSigner env ctx.payer
  requireCode (market.paused = false) .marketPaused
  validateCancelOrderPayload order ctx.marketConfig ctx.trader
  requireCode (rt.sha256 order.signingPreimage = orderHash) .orderHashMismatch
  let opened ← initializeFillStateIfNeeded fillState ctx.marketConfig orderHash
    (rt.bump (.orderFillState ctx.marketConfig orderHash))
  return { world with
    accounts := world.accounts.insert ctx.orderFillState
      (.orderFillState { opened with cancelled := true }) }

/-! ### What a successful settlement found and did -/

/-- The fill states written in order. As a list, it serves the plain settlement
    with none and the signed one with two. -/
def writeFills (accounts : Accounts) (fills : List (Pubkey × OrderFillState)) : Accounts :=
  fills.foldl (fun accounts fill => accounts.insert fill.1 (.orderFillState fill.2)) accounts

/-- The accounts after a settlement: the two balances, the fill states in the
    order given, and the receipt. Both handlers write in this order. -/
def writeSettlement (accounts : Accounts) (ctx : SettleFill) (buyer seller : TraderMarketBalance)
    (fills : List (Pubkey × OrderFillState)) (receipt : SettlementReceipt) : Accounts :=
  (writeFills ((accounts.insert ctx.buyerBalance (.traderMarketBalance buyer)).insert
    ctx.sellerBalance (.traderMarketBalance seller)) fills).insert
    ctx.settlementReceipt (.settlementReceipt receipt)

/-- A successful settlement: the market it is for, the two balances before and
    after, the fill states it wrote and the receipt it left. Everything that
    later proofs use of either handler is a field of it. -/
structure Settled (rt : Runtime) (env : Env) (accounts : Accounts) (ctx : SettleFill)
    (receipt : SettlementReceipt) (fills : List (Pubkey × OrderFillState)) (accounts' : Accounts)
    (market : MarketConfig) (buyer seller buyer' seller' : TraderMarketBalance) : Prop where
  authority : ctx.settlementAuthority ∈ env.signers
  marketAccount : accounts.get? ctx.marketConfig = some (.marketConfig market)
  buyerBefore : accounts.get? ctx.buyerBalance = some (.traderMarketBalance buyer)
  sellerBefore : accounts.get? ctx.sellerBalance = some (.traderMarketBalance seller)
  buyerOwner : buyer.marketConfig = ctx.marketConfig ∧ buyer.trader = ctx.buyer
  sellerOwner : seller.marketConfig = ctx.marketConfig ∧ seller.trader = ctx.seller
  distinct : ctx.buyerBalance ≠ ctx.sellerBalance
  receiptAddress : ctx.settlementReceipt
    = rt.address (.settlementReceipt ctx.marketConfig receipt.settlementId)
  receiptNew : accounts.get? ctx.settlementReceipt = none
  parties : receipt.marketConfig = ctx.marketConfig ∧ receipt.buyer = ctx.buyer ∧
    receipt.seller = ctx.seller
  buyerUnchanged : buyer'.marketConfig = buyer.marketConfig ∧ buyer'.trader = buyer.trader
  sellerUnchanged : seller'.marketConfig = seller.marketConfig ∧ seller'.trader = seller.trader
  buyerBase : buyer'.availableBase.val = buyer.availableBase.val + receipt.baseAmount.val
  buyerQuote : buyer'.availableQuote.val + receipt.quoteAmount.val = buyer.availableQuote.val
  sellerBase : seller'.availableBase.val + receipt.baseAmount.val = seller.availableBase.val
  sellerQuote : seller'.availableQuote.val = seller.availableQuote.val + receipt.quoteAmount.val
  fillStates : ∀ fill ∈ fills, ∀ account, accounts.get? fill.1 = some account →
    ∃ fillState, account = .orderFillState fillState
  after : accounts' = writeSettlement accounts ctx buyer' seller' fills receipt

/-- A balance that was loaded is there and is the trader's in this market. -/
theorem loadTraderBalance_eq_ok {rt : Runtime} {accounts : Accounts} {key market trader : Pubkey}
    {balance : TraderMarketBalance}
    (h : loadTraderBalance rt accounts key market trader = .ok balance) :
    accounts.get? key = some (.traderMarketBalance balance) ∧
      balance.marketConfig = market ∧ balance.trader = trader := by
  simp only [loadTraderBalance, bind_eq_ok, load_eq_ok, Account.traderMarketBalance?_eq_some,
    require_eq_ok] at h
  rcases h with ⟨_, ⟨_, hget, rfl⟩, _, -, _, hm, _, ht, hbalance⟩
  rw [← Except.ok.inj hbalance]
  exact ⟨hget, hm, ht⟩

/-- The four changes that exchange base for quote between two balances, as one
    fact about the two amounts of each. -/
theorem exchange_eq_ok {buyer buyerPaid buyer' seller sellerPaid seller' : TraderMarketBalance}
    {baseAmount quoteAmount : Word 64} {e e' : ErrorCode}
    (h1 : buyer.sub .quote quoteAmount e = .ok buyerPaid)
    (h2 : buyerPaid.add .base baseAmount e' = .ok buyer')
    (h3 : seller.sub .base baseAmount e = .ok sellerPaid)
    (h4 : sellerPaid.add .quote quoteAmount e' = .ok seller') :
    (buyer'.marketConfig = buyer.marketConfig ∧ buyer'.trader = buyer.trader) ∧
    (seller'.marketConfig = seller.marketConfig ∧ seller'.trader = seller.trader) ∧
    buyer'.availableBase.val = buyer.availableBase.val + baseAmount.val ∧
    buyer'.availableQuote.val + quoteAmount.val = buyer.availableQuote.val ∧
    seller'.availableBase.val + baseAmount.val = seller.availableBase.val ∧
    seller'.availableQuote.val = seller.availableQuote.val + quoteAmount.val := by
  rcases sub_eq_ok h1 with ⟨hm1, ht1, ha1⟩
  rcases add_eq_ok h2 with ⟨hm2, ht2, ha2⟩
  rcases sub_eq_ok h3 with ⟨hm3, ht3, ha3⟩
  rcases add_eq_ok h4 with ⟨hm4, ht4, ha4⟩
  -- Each call moves one asset; both assets are followed through all four.
  have hb1 := ha1 .base
  have hq1 := ha1 .quote
  have hb2 := ha2 .base
  have hq2 := ha2 .quote
  have hb3 := ha3 .base
  have hq3 := ha3 .quote
  have hb4 := ha4 .base
  have hq4 := ha4 .quote
  simp only [TraderMarketBalance.available, if_true, reduceCtorEq, if_false, Nat.add_zero]
    at hb1 hq1 hb2 hq2 hb3 hq3 hb4 hq4
  refine ⟨⟨hm2.trans hm1, ht2.trans ht1⟩, ⟨hm4.trans hm3, ht4.trans ht3⟩, ?_, ?_, ?_, ?_⟩ <;> omega

/-- A plain settlement that succeeds is a settlement without fill states. -/
theorem settleFillHandler_eq_ok {rt : Runtime} {env : Env} {world world' : World}
    {ctx : SettleFill} {settlementId baseAmount quoteAmount : Word 64}
    (h : settleFillHandler rt env world ctx settlementId baseAmount quoteAmount = .ok world') :
    world'.tokens = world.tokens ∧ ∃ receipt market buyer seller buyer' seller',
      Settled rt env world.accounts ctx receipt [] world'.accounts market buyer seller buyer'
        seller' ∧
      receipt.settlementId = settlementId ∧ receipt.baseAmount = baseAmount ∧
      receipt.quoteAmount = quoteAmount ∧ receipt.buyerOrderHash = 0 ∧
      receipt.sellerOrderHash = 0 := by
  simp only [settleFillHandler, loadSettlementAccounts, bind_eq_ok, checkSigner_eq_ok,
    requireCode_eq_ok, require_eq_ok, init_eq_ok] at h
  rcases h with ⟨loaded, ⟨_, hauthority, market, hmarket, _, -, buyer, hbuyer, seller, hseller, _,
    hdistinct, _, ⟨haddress, hnew⟩, _, -, hloaded⟩, _, -, _, -, _, -, _, h1, buyer', h2, _, h3,
    seller', h4, hworld⟩
  rw [← Except.ok.inj hworld]
  rw [← Except.ok.inj hloaded] at h1 h3
  rcases loadTraderBalance_eq_ok hbuyer with ⟨hbget, hbm, hbt⟩
  rcases loadTraderBalance_eq_ok hseller with ⟨hsget, hsm, hst⟩
  -- The balances moved, and an unsigned fill writes no fill state.
  rcases exchange_eq_ok h1 h2 h3 h4 with ⟨hbsame, hssame, hbb, hbq, hsb, hsq⟩
  refine ⟨rfl, _, market, buyer, seller, buyer', seller', ⟨hauthority,
    loadMarketConfig_eq_ok hmarket, hbget, hsget, ⟨hbm, hbt⟩, ⟨hsm, hst⟩, hdistinct, haddress, hnew,
    ⟨rfl, rfl, rfl⟩, hbsame, hssame, hbb, hbq, hsb, hsq, ?_, rfl⟩, rfl, rfl, rfl, rfl, rfl⟩
  intro fill hfill
  exact absurd hfill List.not_mem_nil

/-- A price on the order's side of its limit: no more for a bid, no less for an
    ask. -/
def SignedOrderPayload.Accepts (order : SignedOrderPayload) (price : Word 64) : Prop :=
  match order.side with
  | .bid => price.val ≤ order.price.val
  | .ask => order.price.val ≤ price.val

/-- A fill state that is there for an order, after it was initialized if it had
    to be. A new one starts with nothing filled and not cancelled. -/
structure Opened (market : Pubkey) (orderHash : Hash) (old opened : OrderFillState) : Prop where
  owner : opened.marketConfig = market ∧ opened.orderHash = orderHash
  origin : (old.marketConfig = Pubkey.default ∧ opened.filledQuantity = 0 ∧
      opened.cancelled = false) ∨
    (old.marketConfig ≠ Pubkey.default ∧ opened = old)

/-- What is known of a fill state that passed the check. -/
theorem initializeFillStateIfNeeded_eq_ok {old opened : OrderFillState} {market : Pubkey}
    {orderHash : Hash} {bump : Byte}
    (h : initializeFillStateIfNeeded old market orderHash bump = .ok opened) :
    Opened market orderHash old opened := by
  simp only [initializeFillStateIfNeeded, bind_eq_ok, requireCode_eq_ok] at h
  rcases h with ⟨_, howner, hopened⟩
  have heq := Except.ok.inj hopened
  rw [heq] at howner
  refine ⟨howner, ?_⟩
  by_cases hdefault : old.marketConfig = Pubkey.default
  · rw [if_pos hdefault] at heq
    rw [← heq]
    exact Or.inl ⟨hdefault, rfl, rfl⟩
  · rw [if_neg hdefault] at heq
    exact Or.inr ⟨hdefault, heq.symm⟩

/-- A fill that was applied found the order alive and room in it, and changed
    the filled quantity only. -/
theorem applyFillState_eq_ok {opened new : OrderFillState} {orderQuantity fillQuantity : Word 64}
    (h : applyFillState opened orderQuantity fillQuantity = .ok new) :
    opened.cancelled = false ∧ new.filledQuantity.val ≤ orderQuantity.val ∧
      new.filledQuantity.val = opened.filledQuantity.val + fillQuantity.val ∧
      new.marketConfig = opened.marketConfig ∧ new.orderHash = opened.orderHash ∧
      new.cancelled = opened.cancelled := by
  simp only [applyFillState, bind_eq_ok, requireCode_eq_ok, okOr_eq_ok, checkedAdd_eq_some] at h
  rcases h with ⟨_, hopen, quantity, hquantity, _, hbound, hnew⟩
  rw [← Except.ok.inj hnew]
  exact ⟨hopen, hbound, hquantity, rfl, rfl, rfl⟩

/-- The amount of quote is the exact product: nothing is rounded, and a product
    that does not fit is refused. -/
theorem quoteAmountU64_eq_ok {price quantity quoteAmount : Word 64}
    (h : quoteAmountU64 price quantity = .ok quoteAmount) :
    quoteAmount.val = price.val * quantity.val := by
  simp only [quoteAmountU64, bind_eq_ok, okOr_eq_ok, checkedMul_eq_some, narrow_eq_some] at h
  rcases h with ⟨wide, hwide, hnarrow⟩
  rw [hnarrow, hwide]
  rfl

/-- One of the two orders of a successful signed settlement: its fill state
    before, opened and after. Said once for an order, it is used for the buyer's
    and the seller's. -/
structure OrderFilled (rt : Runtime) (env : Env) (accounts : Accounts) (key market trader : Pubkey)
    (orderHash : Hash) (order : SignedOrderPayload) (fillPrice fillQuantity : Word 64)
    (old opened new : OrderFillState) : Prop where
  address : key = rt.address (.orderFillState market orderHash)
  before : (accounts.get? key = none ∧ old = .zeroed) ∨
    accounts.get? key = some (.orderFillState old)
  orderMarket : order.marketConfig = market
  orderTrader : order.trader = trader
  hash : rt.sha256 order.signingPreimage = orderHash
  live : env.slot.val ≤ order.expirySlot.val
  accepts : order.Accepts fillPrice
  signed : ∃ sysvar place signature, place < 0 ∧
    verifyPreviousEd25519Instruction rt env sysvar place trader signature order.signingPreimage
      = .ok ()
  initialized : Opened market orderHash old opened
  notCancelled : opened.cancelled = false
  filled : new.filledQuantity.val = opened.filledQuantity.val + fillQuantity.val
  bounded : new.filledQuantity.val ≤ order.quantity.val
  unchanged : new.marketConfig = opened.marketConfig ∧ new.orderHash = opened.orderHash ∧
    new.cancelled = opened.cancelled

/-- A fill state that may not have existed, as it was loaded. -/
theorem fillState_before {accounts : Accounts} {key : Pubkey} {old : OrderFillState}
    (h : (accounts.get? key = none ∧ OrderFillState.zeroed = old) ∨
      ∃ account, accounts.get? key = some account ∧ account.orderFillState? = some old) :
    (accounts.get? key = none ∧ old = .zeroed) ∨
      accounts.get? key = some (.orderFillState old) := by
  rcases h with ⟨hnone, hzero⟩ | ⟨account, hget, hkind⟩
  · exact Or.inl ⟨hnone, hzero.symm⟩
  · rw [Account.orderFillState?_eq_some] at hkind
    rw [hget, hkind]
    exact Or.inr rfl

/-- What is written over a fill state is a fill state. -/
theorem fillState_of_before {accounts : Accounts} {key : Pubkey} {old : OrderFillState}
    (h : (accounts.get? key = none ∧ old = .zeroed) ∨
      accounts.get? key = some (.orderFillState old)) {account : Account}
    (hget : accounts.get? key = some account) :
    ∃ fillState, account = .orderFillState fillState := by
  rcases h with ⟨hnone, -⟩ | hsome
  · rw [hnone] at hget
    exact absurd hget (by simp only [reduceCtorEq, not_false_eq_true])
  · rw [hsome, Option.some.injEq] at hget
    exact ⟨old, hget.symm⟩

/-- A successful signed settlement: the settlement, and each of its two orders.
    The receipt repeats the arguments, which is how receipts come to speak of
    orders. -/
structure SignedSettled (rt : Runtime) (env : Env) (accounts : Accounts) (ctx : SettleSignedFill)
    (settlementId : Word 64) (buyerOrderHash sellerOrderHash : Hash) (args : SignedFillArgs)
    (receipt : SettlementReceipt) (buyerOld buyerOpened buyerNew sellerOld sellerOpened
      sellerNew : OrderFillState) : Prop where
  settlementId : receipt.settlementId = settlementId
  hashes : receipt.buyerOrderHash = buyerOrderHash ∧ receipt.sellerOrderHash = sellerOrderHash
  sides : args.buyerOrder.side = .bid ∧ args.sellerOrder.side = .ask
  baseAmount : receipt.baseAmount = args.fillQuantity
  quoteAmount : receipt.quoteAmount.val = args.fillPrice.val * args.fillQuantity.val
  buyer : OrderFilled rt env accounts ctx.buyerOrderFillState ctx.marketConfig ctx.buyer
    buyerOrderHash args.buyerOrder args.fillPrice args.fillQuantity buyerOld buyerOpened buyerNew
  seller : OrderFilled rt env accounts ctx.sellerOrderFillState ctx.marketConfig ctx.seller
    sellerOrderHash args.sellerOrder args.fillPrice args.fillQuantity sellerOld sellerOpened
    sellerNew

/-- A signed settlement that succeeds is a settlement with two fill states, each
    of an order whose signature the transaction has verified. -/
theorem settleSignedFillHandler_eq_ok {rt : Runtime} {env : Env} {world world' : World}
    {ctx : SettleSignedFill} {settlementId : Word 64} {buyerOrderHash sellerOrderHash : Hash}
    {args : SignedFillArgs}
    (h : settleSignedFillHandler rt env world ctx settlementId buyerOrderHash sellerOrderHash args
      = .ok world') :
    world'.tokens = world.tokens ∧ ∃ receipt market buyer seller buyer' seller' buyerOld
      buyerOpened buyerNew sellerOld sellerOpened sellerNew,
      Settled rt env world.accounts ctx.toSettleFill receipt
        [(ctx.buyerOrderFillState, buyerNew), (ctx.sellerOrderFillState, sellerNew)]
        world'.accounts market buyer seller buyer' seller' ∧
      SignedSettled rt env world.accounts ctx settlementId buyerOrderHash sellerOrderHash args
        receipt buyerOld buyerOpened buyerNew sellerOld sellerOpened sellerNew := by
  simp only [settleSignedFillHandler, loadSettlementAccounts, applyBalanceSettlement,
    validateSignedOrderPayload, validateSignedFillRules, bind_eq_ok, checkSigner_eq_ok,
    requireCode_eq_ok, require_eq_ok, init_eq_ok, initIfNeeded_eq_ok] at h
  rcases h with ⟨loaded, ⟨_, hauthority, market, hmarket, _, -, buyer, hbuyer, seller, hseller, _,
    hdistinct, _, ⟨haddress, hnew⟩, _, -, hloaded⟩, buyerOld, ⟨hbaddress, hbold⟩, sellerOld,
    ⟨hsaddress, hsold⟩, hrest⟩
  -- The payloads' hashes and the fill's id, then the buyer's order, the seller's and the two
  -- together.
  rcases hrest with ⟨_, -, _, -, _, -, _, -, _, ⟨hid, hbhash, hshash⟩, hrest⟩
  rcases hrest with ⟨_, ⟨_, hbm, _, hbt, _, hbside, _, -, _, -, _, -, _, -, -⟩, hrest⟩
  rcases hrest with ⟨_, ⟨_, hsm, _, hst, _, hsside, _, -, _, -, _, -, _, -, -⟩, hrest⟩
  rcases hrest with ⟨_, ⟨_, -, _, ⟨hblive, hslive⟩, _, -, _, ⟨hbprice, hsprice⟩, -⟩, hrest⟩
  rcases hrest with ⟨_, hbsha, _, hssha, ⟨⟩, hbsigned, ⟨⟩, hssigned, hrest⟩
  -- The fill states are opened and raised, and only then do the balances move.
  rcases hrest with ⟨buyerOpened, hbopened, sellerOpened, hsopened, buyerNew, hbnew, sellerNew,
    hsnew, quoteAmount, hquote, balances, ⟨_, h1, buyer', h2, _, h3, seller', h4, hbalances⟩,
    hworld⟩
  rw [← Except.ok.inj hworld, ← Except.ok.inj hbalances]
  rw [← Except.ok.inj hloaded] at h1 h3
  rw [hbhash] at hbsha hbopened
  rw [hshash] at hssha hsopened
  rcases loadTraderBalance_eq_ok hbuyer with ⟨hbget, hbbm, hbbt⟩
  rcases loadTraderBalance_eq_ok hseller with ⟨hsget, hsbm, hsbt⟩
  rcases exchange_eq_ok h1 h2 h3 h4 with ⟨hbsame, hssame, hbb, hbq, hsb, hsq⟩
  have hbbefore := fillState_before hbold
  have hsbefore := fillState_before hsold
  rcases applyFillState_eq_ok hbnew with ⟨hbopen, hbbound, hbfilled, hbunchanged⟩
  rcases applyFillState_eq_ok hsnew with ⟨hsopen, hsbound, hsfilled, hsunchanged⟩
  refine ⟨rfl, _, market, buyer, seller, buyer', seller', buyerOld, buyerOpened, buyerNew,
    sellerOld, sellerOpened, sellerNew, ⟨hauthority, loadMarketConfig_eq_ok hmarket, hbget, hsget,
    ⟨hbbm, hbbt⟩, ⟨hsbm, hsbt⟩, hdistinct, ?_, hnew, ⟨rfl, rfl, rfl⟩, hbsame, hssame, hbb, hbq,
    hsb, hsq, ?_, rfl⟩, ⟨hid, ⟨hbhash, hshash⟩, ⟨hbside, hsside⟩, rfl,
    quoteAmountU64_eq_ok hquote, ?_, ?_⟩⟩
  · rw [haddress, hid]
  · intro fill hfill account hget
    rcases List.mem_cons.mp hfill with rfl | hfill
    · exact fillState_of_before hbbefore hget
    · rw [List.mem_singleton.mp hfill] at hget
      exact fillState_of_before hsbefore hget
  · refine ⟨hbaddress, hbbefore, hbm, hbt, hbsha, hblive, ?_, ⟨_, _, _, by decide, hbsigned⟩,
      initializeFillStateIfNeeded_eq_ok hbopened, hbopen, hbfilled, hbbound, hbunchanged⟩
    rw [SignedOrderPayload.Accepts, hbside]
    exact hbprice
  · refine ⟨hsaddress, hsbefore, hsm, hst, hssha, hslive, ?_, ⟨_, _, _, by decide, hssigned⟩,
      initializeFillStateIfNeeded_eq_ok hsopened, hsopen, hsfilled, hsbound, hsunchanged⟩
    rw [SignedOrderPayload.Accepts, hsside]
    exact hsprice

/-- A successful cancellation: the fill state of the order before, opened and
    after. The filled quantity is kept, only the mark is set. -/
structure Cancelled (rt : Runtime) (env : Env) (accounts : Accounts) (ctx : CancelSignedOrder)
    (orderHash : Hash) (order : SignedOrderPayload) (accounts' : Accounts)
    (old opened : OrderFillState) : Prop where
  signer : ctx.trader ∈ env.signers
  marketAccount : ∃ market, accounts.get? ctx.marketConfig = some (.marketConfig market)
  address : ctx.orderFillState = rt.address (.orderFillState ctx.marketConfig orderHash)
  before : (accounts.get? ctx.orderFillState = none ∧ old = .zeroed) ∨
    accounts.get? ctx.orderFillState = some (.orderFillState old)
  orderMarket : order.marketConfig = ctx.marketConfig
  orderTrader : order.trader = ctx.trader
  hash : rt.sha256 order.signingPreimage = orderHash
  initialized : Opened ctx.marketConfig orderHash old opened
  after : accounts' = accounts.insert ctx.orderFillState
    (.orderFillState { opened with cancelled := true })

/-- A cancellation that succeeds was signed by the order's trader and marks the
    order's fill state. -/
theorem cancelSignedOrderHandler_eq_ok {rt : Runtime} {env : Env} {world world' : World}
    {ctx : CancelSignedOrder} {orderHash : Hash} {order : SignedOrderPayload}
    (h : cancelSignedOrderHandler rt env world ctx orderHash order = .ok world') :
    world'.tokens = world.tokens ∧ ∃ old opened,
      Cancelled rt env world.accounts ctx orderHash order world'.accounts old opened := by
  simp only [cancelSignedOrderHandler, validateCancelOrderPayload, bind_eq_ok, checkSigner_eq_ok,
    requireCode_eq_ok, initIfNeeded_eq_ok] at h
  rcases h with ⟨_, hsigner, market, hmarket, old, ⟨haddress, hold⟩, _, -, _, -, _, ⟨_, hm, _, ht,
    _, -, _, -, _, -, _, -, -⟩, _, hsha, opened, hopened, hworld⟩
  rw [← Except.ok.inj hworld]
  exact ⟨rfl, old, opened, hsigner, ⟨market, loadMarketConfig_eq_ok hmarket⟩, haddress,
    fillState_before hold, hm, ht, hsha, initializeFillStateIfNeeded_eq_ok hopened, rfl⟩

/-! ### Totals across a settlement -/

/-- An account found after fill states were written is one of them or was
    there before. -/
theorem get?_writeFills {fills : List (Pubkey × OrderFillState)} {accounts : Accounts}
    {key : Pubkey} {account : Account}
    (h : (writeFills accounts fills).get? key = some account) :
    (∃ fill ∈ fills, key = fill.1 ∧ account = .orderFillState fill.2) ∨
      accounts.get? key = some account := by
  induction fills generalizing accounts with
  | nil => exact Or.inr h
  | cons fill rest ih =>
      rcases ih h with ⟨other, hother, hkey, haccount⟩ | hget
      · exact Or.inl ⟨other, List.mem_cons_of_mem fill hother, hkey, haccount⟩
      · rw [SortedMap.get?_insert] at hget
        by_cases hk : key = fill.1
        · rw [if_pos hk, Option.some.injEq] at hget
          exact Or.inl ⟨fill, List.mem_cons_self, hk, hget.symm⟩
        · rw [if_neg hk] at hget
          exact Or.inr hget

/-- Keys that are not written are looked up as before. -/
theorem get?_writeFills_of_ne {fills : List (Pubkey × OrderFillState)} {accounts : Accounts}
    {key : Pubkey} (h : ∀ fill ∈ fills, key ≠ fill.1) :
    (writeFills accounts fills).get? key = accounts.get? key := by
  induction fills generalizing accounts with
  | nil => rfl
  | cons fill rest ih =>
      have hrest := @ih (accounts.insert fill.1 (.orderFillState fill.2))
        (fun other hother => h other (List.mem_cons_of_mem fill hother))
      rw [SortedMap.get?_insert_of_ne _ _ (h fill List.mem_cons_self)] at hrest
      exact hrest

/-- A key that is written once has what was written to it. Two fills at one key
    must agree; a buyer's and a seller's order never share a hash, but that is
    known only where the hashes are. -/
theorem get?_writeFills_of_mem {fills : List (Pubkey × OrderFillState)} {accounts : Accounts}
    {fill : Pubkey × OrderFillState} (hfill : fill ∈ fills)
    (honce : ∀ other ∈ fills, other.1 = fill.1 → other.2 = fill.2) :
    (writeFills accounts fills).get? fill.1 = some (.orderFillState fill.2) := by
  induction fills generalizing accounts with
  | nil => exact absurd hfill List.not_mem_nil
  | cons first rest ih =>
      have hrest : ∀ other ∈ rest, other.1 = fill.1 → other.2 = fill.2 :=
        fun other hother => honce other (List.mem_cons_of_mem first hother)
      -- What counts is whether the key is written again.
      by_cases hagain : ∃ other ∈ rest, other.1 = fill.1
      · rcases hagain with ⟨other, hother, hkey⟩
        have heq : other = fill := Prod.ext hkey (hrest other hother hkey)
        exact ih (heq ▸ hother) hrest
      · have hne : ∀ other ∈ rest, fill.1 ≠ other.1 :=
          fun other hother hkey => hagain ⟨other, hother, hkey.symm⟩
        have hfirst : first = fill := by
          rcases List.mem_cons.mp hfill with heq | hmem
          · exact heq.symm
          · exact absurd rfl (hne fill hmem)
        rw [← hfirst] at hne ⊢
        exact (get?_writeFills_of_ne hne).trans (SortedMap.get?_insert_self _ _ _)

/-- Fill states written where nothing is counted leave a total that does not
    count them alone. -/
theorem total_writeFills {f : Account → Nat} (hf : ∀ s, f (.orderFillState s) = 0)
    {fills : List (Pubkey × OrderFillState)} {accounts : Accounts}
    (h : ∀ fill ∈ fills, ∀ account, accounts.get? fill.1 = some account → f account = 0) :
    total f (writeFills accounts fills) = total f accounts := by
  induction fills generalizing accounts with
  | nil => rfl
  | cons fill rest ih =>
      have hfirst := total_insert_over (f := f) (.orderFillState fill.2) (h fill List.mem_cons_self)
      rw [hf, Nat.add_zero] at hfirst
      rw [← hfirst]
      -- A fill state that has been written counts nothing either.
      refine ih (fun other hother account hget => ?_)
      rw [SortedMap.get?_insert] at hget
      by_cases hk : other.1 = fill.1
      · rw [if_pos hk, Option.some.injEq] at hget
        rw [← hget, hf]
      · rw [if_neg hk] at hget
        exact h other (List.mem_cons_of_mem fill hother) account hget

section Settled

variable {rt : Runtime} {env : Env} {accounts accounts' : Accounts} {ctx : SettleFill}
  {receipt : SettlementReceipt} {fills : List (Pubkey × OrderFillState)} {market : MarketConfig}
  {buyer seller buyer' seller' : TraderMarketBalance}

/-- A settlement does not write fill states over the two balances, since what
    stands there has to be a fill state or nothing. -/
theorem settled_fills_ne (h : Settled rt env accounts ctx receipt fills accounts' market buyer
    seller buyer' seller') {fill : Pubkey × OrderFillState} (hfill : fill ∈ fills) :
    fill.1 ≠ ctx.buyerBalance ∧ fill.1 ≠ ctx.sellerBalance := by
  constructor <;> intro hkey
  · rcases h.fillStates fill hfill _ (by rw [hkey]; exact h.buyerBefore) with ⟨s, hs⟩
    exact absurd hs (by simp only [reduceCtorEq, not_false_eq_true])
  · rcases h.fillStates fill hfill _ (by rw [hkey]; exact h.sellerBefore) with ⟨s, hs⟩
    exact absurd hs (by simp only [reduceCtorEq, not_false_eq_true])

/-- The receipt of a settlement is not written over the two balances, being new. -/
theorem settled_receipt_ne (h : Settled rt env accounts ctx receipt fills accounts' market buyer
    seller buyer' seller') : ctx.settlementReceipt ≠ ctx.buyerBalance ∧
      ctx.settlementReceipt ≠ ctx.sellerBalance := by
  have hnew := h.receiptNew
  constructor <;> intro hkey
  · rw [hkey, h.buyerBefore] at hnew
    exact absurd hnew (by simp only [reduceCtorEq, not_false_eq_true])
  · rw [hkey, h.sellerBefore] at hnew
    exact absurd hnew (by simp only [reduceCtorEq, not_false_eq_true])

/-- An account found after a settlement: the receipt, a fill state that was
    written, one of the two balances, or an account that was there before and
    was not written. -/
theorem settled_get? (h : Settled rt env accounts ctx receipt fills accounts' market buyer seller
    buyer' seller') {key : Pubkey} {account : Account}
    (hget : accounts'.get? key = some account) :
    (key = ctx.settlementReceipt ∧ account = .settlementReceipt receipt) ∨
    (key ≠ ctx.settlementReceipt ∧
      ((∃ fill ∈ fills, key = fill.1 ∧ account = .orderFillState fill.2) ∨
      (key = ctx.buyerBalance ∧ account = .traderMarketBalance buyer') ∨
      (key = ctx.sellerBalance ∧ account = .traderMarketBalance seller') ∨
      accounts.get? key = some account)) := by
  -- Peel the writes off from the last one made.
  rw [h.after, writeSettlement, SortedMap.get?_insert] at hget
  by_cases hr : key = ctx.settlementReceipt
  · rw [if_pos hr, Option.some.injEq] at hget
    exact Or.inl ⟨hr, hget.symm⟩
  · rw [if_neg hr] at hget
    refine Or.inr ⟨hr, ?_⟩
    rcases get?_writeFills hget with hfill | hold
    · exact Or.inl hfill
    · rw [SortedMap.get?_insert] at hold
      by_cases hs : key = ctx.sellerBalance
      · rw [if_pos hs, Option.some.injEq] at hold
        exact Or.inr (Or.inr (Or.inl ⟨hs, hold.symm⟩))
      · rw [if_neg hs, SortedMap.get?_insert] at hold
        by_cases hb : key = ctx.buyerBalance
        · rw [if_pos hb, Option.some.injEq] at hold
          exact Or.inr (Or.inl ⟨hb, hold.symm⟩)
        · rw [if_neg hb] at hold
          exact Or.inr (Or.inr (Or.inr hold))

/-- An account that is neither one of the two balances nor written as a fill
    state is there after a settlement as it was before. -/
theorem settled_get?_of_ne (h : Settled rt env accounts ctx receipt fills accounts' market buyer
    seller buyer' seller') {key : Pubkey} {account : Account}
    (hget : accounts.get? key = some account) (hb : key ≠ ctx.buyerBalance)
    (hs : key ≠ ctx.sellerBalance) (hfills : ∀ fill ∈ fills, key ≠ fill.1) :
    accounts'.get? key = some account := by
  have hr : key ≠ ctx.settlementReceipt := by
    intro hkey
    rw [hkey, h.receiptNew] at hget
    exact absurd hget (by simp only [reduceCtorEq, not_false_eq_true])
  rw [h.after, writeSettlement, SortedMap.get?_insert_of_ne _ _ hr, get?_writeFills_of_ne hfills,
    SortedMap.get?_insert_of_ne _ _ hs, SortedMap.get?_insert_of_ne _ _ hb, hget]

/-- A settlement leaves every account alone that is not of a kind it writes. -/
theorem settled_get?_other (h : Settled rt env accounts ctx receipt fills accounts' market buyer
    seller buyer' seller') {target : Account} (hr : target ≠ .settlementReceipt receipt)
    (hb : ∀ b, target ≠ .traderMarketBalance b)
    (hs : ∀ fill ∈ fills, ∀ s, target ≠ .orderFillState s)
    (key : Pubkey) : accounts'.get? key = some target ↔ accounts.get? key = some target := by
  constructor
  · intro hget
    rcases settled_get? h hget with ⟨-, hreceipt⟩ | ⟨-, ⟨fill, hfill, -, hstate⟩ | ⟨-, hbuyer⟩ |
      ⟨-, hseller⟩ | hold⟩
    · exact absurd hreceipt hr
    · exact absurd hstate (hs fill hfill fill.2)
    · exact absurd hbuyer (hb buyer')
    · exact absurd hseller (hb seller')
    · exact hold
  · intro hold
    refine settled_get?_of_ne h hold ?_ ?_ ?_
    · intro hkey
      -- The keys written to held an account of the same kind or none.
      rw [hkey, h.buyerBefore, Option.some.injEq] at hold
      exact hb buyer hold.symm
    · intro hkey
      rw [hkey, h.sellerBefore, Option.some.injEq] at hold
      exact hb seller hold.symm
    · intro fill hfill hkey
      rcases h.fillStates fill hfill _ (by rw [← hkey]; exact hold) with ⟨s, hstate⟩
      exact hs fill hfill s hstate

/-- The receipts after a settlement: the new one and those there were. Receipts
    are never overwritten, as nothing else is written where one stands. -/
theorem settled_receipts (h : Settled rt env accounts ctx receipt fills accounts' market buyer
    seller buyer' seller') (key : Pubkey) (r : SettlementReceipt) :
    accounts'.get? key = some (.settlementReceipt r) ↔
      (key = ctx.settlementReceipt ∧ r = receipt) ∨
      accounts.get? key = some (.settlementReceipt r) := by
  constructor
  · intro hget
    rcases settled_get? h hget with ⟨hkey, hreceipt⟩ | ⟨-, ⟨fill, -, -, hfill⟩ | ⟨-, hbuyer⟩ |
      ⟨-, hseller⟩ | hold⟩
    · exact Or.inl ⟨hkey, Account.settlementReceipt.inj hreceipt⟩
    -- Nothing else that was written is a receipt.
    · exact absurd hfill (by simp only [reduceCtorEq, not_false_eq_true])
    · exact absurd hbuyer (by simp only [reduceCtorEq, not_false_eq_true])
    · exact absurd hseller (by simp only [reduceCtorEq, not_false_eq_true])
    · exact Or.inr hold
  · intro hget
    rcases hget with ⟨rfl, rfl⟩ | hold
    · rw [h.after, writeSettlement, SortedMap.get?_insert_self]
    · -- The old receipt sits where neither a balance nor a fill state was.
      refine settled_get?_of_ne h hold ?_ ?_ ?_
      · intro hkey
        rw [hkey, h.buyerBefore, Option.some.injEq] at hold
        exact absurd hold (by simp only [reduceCtorEq, not_false_eq_true])
      · intro hkey
        rw [hkey, h.sellerBefore, Option.some.injEq] at hold
        exact absurd hold (by simp only [reduceCtorEq, not_false_eq_true])
      · intro fill hfill hkey
        rcases h.fillStates fill hfill _ (by rw [← hkey]; exact hold) with ⟨s, hs⟩
        exact absurd hs (by simp only [reduceCtorEq, not_false_eq_true])

/-- A fill state that is not written is there after a settlement if it was
    before. -/
theorem settled_fillState (h : Settled rt env accounts ctx receipt fills accounts' market buyer
    seller buyer' seller') {key : Pubkey} (hfills : ∀ fill ∈ fills, key ≠ fill.1)
    (s : OrderFillState) : accounts'.get? key = some (.orderFillState s) ↔
      accounts.get? key = some (.orderFillState s) := by
  constructor
  · intro hget
    rcases settled_get? h hget with ⟨-, hreceipt⟩ | ⟨-, ⟨fill, hfill, hkey, -⟩ | ⟨-, hbuyer⟩ |
      ⟨-, hseller⟩ | hold⟩
    · -- What was written at the key would be of another kind.
      exact absurd hreceipt (by simp only [reduceCtorEq, not_false_eq_true])
    · exact absurd hkey (hfills fill hfill)
    · exact absurd hbuyer (by simp only [reduceCtorEq, not_false_eq_true])
    · exact absurd hseller (by simp only [reduceCtorEq, not_false_eq_true])
    · exact hold
  -- What is there is no balance, so it is not written over.
  · intro hold
    refine settled_get?_of_ne h hold ?_ ?_ hfills
    · intro hkey
      rw [hkey, h.buyerBefore, Option.some.injEq] at hold
      exact absurd hold (by simp only [reduceCtorEq, not_false_eq_true])
    · intro hkey
      rw [hkey, h.sellerBefore, Option.some.injEq] at hold
      exact absurd hold (by simp only [reduceCtorEq, not_false_eq_true])

/-- A fill state that is written, once and not where the receipt is, is there
    after a settlement. -/
theorem settled_filled (h : Settled rt env accounts ctx receipt fills accounts' market buyer seller
    buyer' seller') {fill : Pubkey × OrderFillState} (hfill : fill ∈ fills)
    (honce : ∀ other ∈ fills, other.1 = fill.1 → other.2 = fill.2)
    (hr : fill.1 ≠ ctx.settlementReceipt) :
    accounts'.get? fill.1 = some (.orderFillState fill.2) := by
  rw [h.after, writeSettlement, SortedMap.get?_insert_of_ne _ _ hr, get?_writeFills_of_mem hfill
    honce]

/-- What a settlement does to a total that counts no fill states: it trades the
    two balances for the new ones and counts the receipt. Conservation results
    are this lemma at a suitable `f`. -/
theorem settled_total (h : Settled rt env accounts ctx receipt fills accounts' market buyer seller
    buyer' seller') {f : Account → Nat} (hf : ∀ s, f (.orderFillState s) = 0) :
    total f accounts' + f (.traderMarketBalance buyer) + f (.traderMarketBalance seller)
      = total f accounts + f (.traderMarketBalance buyer') + f (.traderMarketBalance seller')
        + f (.settlementReceipt receipt) := by
  have hbuyer := total_insert_old (f := f) h.buyerBefore (.traderMarketBalance buyer')
  have hseller := total_insert_old (f := f)
    (show (accounts.insert ctx.buyerBalance (.traderMarketBalance buyer')).get? ctx.sellerBalance
      = some (.traderMarketBalance seller) by
        rw [SortedMap.get?_insert_of_ne _ _ h.distinct.symm, h.sellerBefore])
    (.traderMarketBalance seller')
  -- The fill states stand where fill states stood, or nothing.
  have hfills : total f (writeFills ((accounts.insert ctx.buyerBalance
      (.traderMarketBalance buyer')).insert ctx.sellerBalance (.traderMarketBalance seller')) fills)
        = total f ((accounts.insert ctx.buyerBalance (.traderMarketBalance buyer')).insert
          ctx.sellerBalance (.traderMarketBalance seller')) := by
    refine total_writeFills hf (fun fill hfill account hget => ?_)
    rcases settled_fills_ne h hfill with ⟨hb, hs⟩
    rw [SortedMap.get?_insert_of_ne _ _ hs, SortedMap.get?_insert_of_ne _ _ hb] at hget
    rcases h.fillStates fill hfill account hget with ⟨s, rfl⟩
    exact hf s
  -- The receipt is new, so it stands over a fill state at most.
  have hreceipt : ∀ old, (writeFills ((accounts.insert ctx.buyerBalance
      (.traderMarketBalance buyer')).insert ctx.sellerBalance (.traderMarketBalance seller'))
      fills).get? ctx.settlementReceipt = some old → f old = 0 := by
    intro old hget
    rcases settled_receipt_ne h with ⟨hbr, hsr⟩
    rcases get?_writeFills hget with ⟨fill, -, -, rfl⟩ | hold
    · exact hf fill.2
    · rw [SortedMap.get?_insert_of_ne _ _ hsr, SortedMap.get?_insert_of_ne _ _ hbr,
        h.receiptNew] at hold
      exact absurd hold (by simp only [reduceCtorEq, not_false_eq_true])
  have hlast := total_insert_over (.settlementReceipt receipt) hreceipt
  rw [h.after, writeSettlement]
  omega

end Settled

end Settlement

end SolanaLab
