import SolanaLab.Settlement.Ledger

/-!
# What a Signed Order Allows

A trader signs an order once and anyone who holds the signature can have it
settled, in parts and against different counterparties. The order bounds what
all of that together can do. Its fill state counts the base that was settled
under it, never more than its quantity. Every receipt under it was written in
time, at a price it accepts and after its signature was verified. And once its
trader has cancelled it, nothing more is settled under it.

An order is known to the program by its hash. The bytes that are hashed
determine the order, so two orders have one hash only if the hash function
collides. `CollisionFree` excludes this for the orders that the instructions of
a run present. The fill state of an order is taken for new as long as its
market is the default key, so a market at that address would forget every
fill. `AvoidsDefault` says that no address is derived there.

What is proved is about one order at a time, over a run in which any number of
others are settled too. The invariant `OrderKept` therefore speaks of nothing
but the order's fill state, the receipts that name it and the entries of the
log that fill or cancel it.

## Main definitions

* `Runtime.orderHash`: The hash an order is known by.
* `Runtime.CollisionFree`: Orders with one hash have one preimage.
* `World.filledQuantity`: How much of an order its fill state counts.
* `Account.amountUnder`: What a receipt moved under an order hash.
* `Allowed`: A receipt that an order allows.
* `Filled`: What a fill of an order found and did.
* `OrderKept`: The invariant of runs.

## Theorems

* `signingPreimage_injective`: The signed bytes determine the order.
* `fillState_opened`: What an instruction opens is what the fill state says.
* `settleSignedFill_filled`: A signed settlement fills the orders it names.
* `filled_kept`, `cancelled_kept`: A fill and a cancellation keep the
  invariant.
* `step_orderKept`: So does every step.
* `run_signedOrder`: What a run can do with a signed order.
-/

namespace SolanaLab

namespace Settlement

open Checked

/-! ### Orders and their hashes -/

/-- All signed byte strings are equally long. -/
theorem length_signingPreimage (o : SignedOrderPayload) : o.signingPreimage.length = 138 := by
  simp only [SignedOrderPayload.signingPreimage, List.length_append, length_u64Bytes,
    length_pubkeyBytes]
  rfl

/-- The byte that stands for a side. -/
def SignedOrderSide.tag : SignedOrderSide → Byte
  | .bid => 0
  | .ask => 1

/-- The two sides have different bytes. -/
theorem SignedOrderSide.tag_injective : Function.Injective SignedOrderSide.tag := by
  intro side side' h
  cases side <;> cases side' <;> first | rfl | exact absurd h (by decide)

/-- The fields that a payload is signed with, in their order. Listing them makes
    the preimage a `layout`, about which the library has the injectivity result. -/
def payloadFields : List (SignedOrderPayload → List Byte) :=
  [fun _ => SignedOrderPayload.domainTag,
    fun order => u64Bytes order.orderId,
    fun order => order.trader.bytes,
    fun order => order.marketConfig.bytes,
    fun order => [order.side.tag],
    fun order => u64Bytes order.price,
    fun order => u64Bytes order.quantity,
    fun order => u64Bytes order.nonce,
    fun order => u64Bytes order.expirySlot]

/-- Each field has the same width in every order. -/
theorem payloadFields_fixed : ∀ field ∈ payloadFields, FixedWidth field := by
  simp only [payloadFields, List.forall_mem_cons, u64Bytes, Pubkey.bytes, fixedWidth_leBytes,
    true_and]
  exact ⟨fun _ _ => rfl, fun _ _ => rfl, fun field hmem => absurd hmem List.not_mem_nil⟩

/-- The preimage is the tag followed by the layout of the fields. -/
theorem signingPreimage_eq (order : SignedOrderPayload) :
    order.signingPreimage = layout payloadFields order := by
  rcases order with ⟨orderId, market, trader, side, price, quantity, nonce, expiry⟩
  cases side <;>
    simp only [SignedOrderPayload.signingPreimage, layout, payloadFields, SignedOrderSide.tag,
      List.flatMap_cons, List.flatMap_nil, List.append_nil, List.append_assoc]

/-- The signed bytes determine the order: all fields have fixed width. -/
theorem signingPreimage_injective {o o' : SignedOrderPayload}
    (h : o.signingPreimage = o'.signingPreimage) : o = o' := by
  rw [signingPreimage_eq, signingPreimage_eq, layout_eq_iff payloadFields_fixed] at h
  simp only [payloadFields, List.forall_mem_cons] at h
  rcases h with ⟨-, horderId, htrader, hmarket, hside, hprice, hquantity, hnonce, hexpiry, -⟩
  cases o
  cases o'
  rw [SignedOrderPayload.mk.injEq]
  exact ⟨u64Bytes_injective horderId, pubkeyBytes_injective hmarket, pubkeyBytes_injective htrader,
    SignedOrderSide.tag_injective (List.singleton_inj.mp hside), u64Bytes_injective hprice,
    u64Bytes_injective hquantity, u64Bytes_injective hnonce, u64Bytes_injective hexpiry⟩

/-- The hash an order is known by. On chain nothing but the hash is kept of it. -/
def Runtime.orderHash (rt : Runtime) (order : SignedOrderPayload) : Hash :=
  rt.sha256 order.signingPreimage

/-- Orders of a list with one hash have one preimage. For the orders of one run
    this is what collision resistance is relied on for. -/
def Runtime.CollisionFree (rt : Runtime) (orders : List SignedOrderPayload) : Prop :=
  ∀ o ∈ orders, ∀ o' ∈ orders, rt.sha256 o.signingPreimage = rt.sha256 o'.signingPreimage →
    o.signingPreimage = o'.signingPreimage

instance (rt : Runtime) (orders : List SignedOrderPayload) : Decidable (rt.CollisionFree orders) :=
  inferInstanceAs (Decidable (∀ o ∈ orders, ∀ o' ∈ orders,
    rt.sha256 o.signingPreimage = rt.sha256 o'.signingPreimage →
      o.signingPreimage = o'.signingPreimage))

/-- No address derived from seeds of a list is the default key. Derived
    addresses lie off the curve, and the default key on it. -/
def Runtime.AvoidsDefault (rt : Runtime) (seeds : List Seeds) : Prop :=
  ∀ s ∈ seeds, rt.address s ≠ Pubkey.default

instance (rt : Runtime) (seeds : List Seeds) : Decidable (rt.AvoidsDefault seeds) :=
  inferInstanceAs (Decidable (∀ s ∈ seeds, rt.address s ≠ Pubkey.default))

/-- The orders an instruction presents. -/
def Instruction.orders : Instruction → List SignedOrderPayload
  | .settleSignedFill _ _ _ _ args => [args.buyerOrder, args.sellerOrder]
  | .cancelSignedOrder _ _ order => [order]
  | _ => []

/-- The orders an input presents: those of its instruction, if it is one. -/
def Input.orders : Input → List SignedOrderPayload
  | .invoke _ instruction => instruction.orders
  | .tokens _ => []

/-- The orders the instructions of a run present. -/
def ordersOf (inputs : List Input) : List SignedOrderPayload := inputs.flatMap Input.orders

/-- Among the orders of a run, the hash determines the order. -/
theorem order_unique {rt : Runtime} {orders : List SignedOrderPayload}
    (hfree : rt.CollisionFree orders) {o o' : SignedOrderPayload} (ho : o ∈ orders)
    (ho' : o' ∈ orders) (h : rt.sha256 o.signingPreimage = rt.orderHash o') : o = o' :=
  signingPreimage_injective (hfree o ho o' ho' h)

/-! ### Fills of an order -/

/-- The fill state of an order hash in a market, if there is one. -/
def World.fillState (rt : Runtime) (world : World) (market : Pubkey) (orderHash : Hash) :
    Option OrderFillState :=
  (world.accounts.get? (rt.address (.orderFillState market orderHash))).bind
    Account.orderFillState?

/-- How much of an order its fill state counts. -/
def World.filledQuantity (rt : Runtime) (world : World) (market : Pubkey) (orderHash : Hash) :
    Nat :=
  (world.fillState rt market orderHash).elim 0 (fun s => s.filledQuantity.val)

/-- A receipt names an order hash, on either side. -/
def SettlementReceipt.Names (receipt : SettlementReceipt) (orderHash : Hash) : Prop :=
  receipt.buyerOrderHash = orderHash ∨ receipt.sellerOrderHash = orderHash

instance (receipt : SettlementReceipt) (orderHash : Hash) : Decidable (receipt.Names orderHash) :=
  inferInstanceAs (Decidable (_ ∨ _))

/-- What a receipt moved of an asset under an order hash. -/
def Account.amountUnder (asset : CustodyAsset) (orderHash : Hash) : Account → Nat
  | .settlementReceipt receipt =>
    if receipt.Names orderHash then (receipt.amount asset).val else 0
  | _ => 0

/-- A settlement that succeeded under an order hash, on either side. -/
def FillsOrder (orderHash : Hash) : Input × Except ProgramError Unit → Prop
  | (.invoke _ (.settleSignedFill _ _ buyerOrderHash sellerOrderHash _), .ok _) =>
    buyerOrderHash = orderHash ∨ sellerOrderHash = orderHash
  | _ => False

/-- A cancellation that succeeded for an order hash. -/
def CancelsOrder (orderHash : Hash) : Input × Except ProgramError Unit → Prop
  | (.invoke _ (.cancelSignedOrder _ hash _), .ok _) => hash = orderHash
  | _ => False

/-- An order allows a receipt in a transaction: the order has not expired, its
    signature was verified, and the price is on its side of the limit. -/
structure Allowed (rt : Runtime) (order : SignedOrderPayload) (receipt : SettlementReceipt)
    (env : Env) : Prop where
  live : env.slot.val ≤ order.expirySlot.val
  verified : env.VerifiedBefore rt order.trader order.signingPreimage
  priced : ∃ price, order.Accepts price ∧
    receipt.quoteAmount.val = price.val * receipt.baseAmount.val

/-- The log has the signed settlement that wrote a receipt, and the order allows
    it. The environment is that of the transaction, in which the signature was
    verified. -/
def Explained (rt : Runtime) (order : SignedOrderPayload) (past : Log)
    (receipt : SettlementReceipt) : Prop :=
  ∃ env ctx settlementId buyerOrderHash sellerOrderHash args,
    (.invoke env (.settleSignedFill ctx settlementId buyerOrderHash sellerOrderHash args), .ok ())
      ∈ past ∧
    (Instruction.settleSignedFill ctx settlementId buyerOrderHash sellerOrderHash args).settlement
      = some receipt.record ∧
    (buyerOrderHash = rt.orderHash order ∨ sellerOrderHash = rt.orderHash order) ∧
    Allowed rt order receipt env

/-- An order's fill state is what is at its address. -/
theorem fillState_eq_some {rt : Runtime} {world : World} {market : Pubkey} {orderHash : Hash}
    {s : OrderFillState} : world.fillState rt market orderHash = some s ↔
      world.accounts.get? (rt.address (.orderFillState market orderHash))
        = some (.orderFillState s) := by
  rw [World.fillState, Option.bind_eq_some_iff]
  constructor
  · intro h
    rcases h with ⟨account, hget, hkind⟩
    rw [hget, Account.orderFillState?_eq_some.mp hkind]
  · intro hget
    exact ⟨_, hget, rfl⟩

/-- Only receipts move anything. -/
theorem amountUnder_of_ne (asset : CustodyAsset) (orderHash : Hash) (account : Account)
    (h : ∀ r, account ≠ .settlementReceipt r) : account.amountUnder asset orderHash = 0 := by
  cases account with
  | settlementReceipt r => exact absurd rfl (h r)
  | _ => rfl

/-! ### One order in one instruction -/

section Step

variable {rt : Runtime} {env : Env} {seeds : List Seeds} {world world' : World}
  {order : SignedOrderPayload} {past : Log}

/-- A market that exists does not sit at the default key. -/
theorem market_ne_default (hdefault : rt.AvoidsDefault seeds)
    (hplaced : Placed rt seeds world.accounts) {key : Pubkey} {config : MarketConfig}
    (hget : world.accounts.get? key = some (.marketConfig config)) : key ≠ Pubkey.default := by
  rcases hplaced key _ hget with ⟨hkey, hmem⟩
  rw [hkey]
  exact hdefault _ hmem

/-- What an instruction opens is what the fill state of the order says, or an
    empty one if there is none. It would fail for a market at the default key,
    whose fill states look new each time. -/
theorem fillState_opened {key market : Pubkey} {orderHash : Hash} {old opened : OrderFillState}
    (haddress : key = rt.address (.orderFillState market orderHash))
    (hbefore : (world.accounts.get? key = none ∧ old = .zeroed) ∨
      world.accounts.get? key = some (.orderFillState old))
    (hopened : Opened market orderHash old opened) (hmarket : market ≠ Pubkey.default)
    (hsep : rt.Separates seeds) (hplaced : Placed rt seeds world.accounts)
    (hs : .orderFillState market orderHash ∈ seeds) :
    world.filledQuantity rt market orderHash = opened.filledQuantity.val ∧
      ∀ s, world.fillState rt market orderHash = some s → s = opened := by
  rw [haddress] at hbefore
  rcases hbefore with ⟨hnone, hzero⟩ | hsome
  -- Without an account nothing is filled yet, and the new one starts there.
  · have hstate : world.fillState rt market orderHash = none := by
      rw [World.fillState, hnone, Option.bind_none]
    rw [World.filledQuantity, hstate]
    constructor
    · rcases hopened.origin with ⟨-, hfilled, -⟩ | ⟨hne, -⟩
      · rw [hfilled]
        rfl
      · exact absurd (by rw [hzero]; rfl) hne
    · intro s hs'
      exact absurd hs' (by simp only [reduceCtorEq, not_false_eq_true])
  · -- The fill state names its market, so it is not taken for new.
    have howner := get?_of_placed hsep hplaced hs hsome
    rw [Account.seeds, Seeds.orderFillState.injEq] at howner
    have heq : opened = old := by
      rcases hopened.origin with ⟨hdefault, -⟩ | ⟨-, heq⟩
      · exact absurd (howner.1.symm.trans hdefault) hmarket
      · exact heq
    have hstate := fillState_eq_some.mpr hsome
    rw [World.filledQuantity, hstate, heq]
    constructor
    · rfl
    · intro s hs'
      exact (Option.some.inj hs').symm

/-- The order a signed settlement names by its hash is one of its two sides, and
    its fill state is written once. -/
theorem signedSettled_named {orders : List SignedOrderPayload} {ctx : SettleSignedFill}
    {settlementId : Word 64} {buyerOrderHash sellerOrderHash : Hash} {args : SignedFillArgs}
    {receipt : SettlementReceipt}
    {buyerOld buyerOpened buyerNew sellerOld sellerOpened sellerNew : OrderFillState}
    (h : SignedSettled rt env world.accounts ctx settlementId buyerOrderHash sellerOrderHash args
      receipt buyerOld buyerOpened buyerNew sellerOld sellerOpened sellerNew)
    (hsep : rt.Separates seeds)
    (hs : .orderFillState ctx.marketConfig buyerOrderHash ∈ seeds ∧
      .orderFillState ctx.marketConfig sellerOrderHash ∈ seeds)
    (hfree : rt.CollisionFree orders) (horder : order ∈ orders)
    (hargs : args.buyerOrder ∈ orders ∧ args.sellerOrder ∈ orders)
    (hnames : buyerOrderHash = rt.orderHash order ∨ sellerOrderHash = rt.orderHash order) :
    ∃ key old opened new, OrderFilled rt env world.accounts key order.marketConfig order.trader
        (rt.orderHash order) order args.fillPrice args.fillQuantity old opened new ∧
      ctx.marketConfig = order.marketConfig ∧
      (key, new) ∈ [(ctx.buyerOrderFillState, buyerNew), (ctx.sellerOrderFillState, sellerNew)] ∧
      ∀ other ∈ [(ctx.buyerOrderFillState, buyerNew), (ctx.sellerOrderFillState, sellerNew)],
        other.1 = key → other.2 = new := by
  -- One order is not both a bid and an ask.
  have hsides : buyerOrderHash = rt.orderHash order → sellerOrderHash = rt.orderHash order →
      False := by
    intro hb hsel
    have hbuyer := order_unique hfree hargs.1 horder (h.buyer.hash.trans hb)
    have hseller := order_unique hfree hargs.2 horder (h.seller.hash.trans hsel)
    have hside := h.sides.1.symm.trans ((congrArg SignedOrderPayload.side
      (hbuyer.trans hseller.symm)).trans h.sides.2)
    exact absurd hside (by simp only [reduceCtorEq, not_false_eq_true])
  -- The two fill states are one account only if the two hashes are one.
  have hkeys : ctx.buyerOrderFillState = ctx.sellerOrderFillState →
      buyerOrderHash = sellerOrderHash := by
    intro hkey
    rw [h.buyer.address, h.seller.address] at hkey
    exact (Seeds.orderFillState.inj (address_injective hsep hs.1 hs.2 hkey)).2
  rcases hnames with hb | hsel
  · have heq := order_unique hfree hargs.1 horder (h.buyer.hash.trans hb)
    have hfilled := h.buyer
    rw [heq, hb, ← hfilled.orderMarket, ← hfilled.orderTrader] at hfilled
    refine ⟨ctx.buyerOrderFillState, buyerOld, buyerOpened, buyerNew, hfilled,
      by rw [← heq, h.buyer.orderMarket], List.mem_cons_self, ?_⟩
    intro other hother hkey
    rcases List.mem_cons.mp hother with rfl | hother
    · rfl
    · rw [List.mem_singleton.mp hother] at hkey
      exact (hsides hb ((hkeys hkey.symm).symm.trans hb)).elim
  · have heq := order_unique hfree hargs.2 horder (h.seller.hash.trans hsel)
    have hfilled := h.seller
    rw [heq, hsel, ← hfilled.orderMarket, ← hfilled.orderTrader] at hfilled
    refine ⟨ctx.sellerOrderFillState, sellerOld, sellerOpened, sellerNew, hfilled,
      by rw [← heq, h.seller.orderMarket], List.mem_cons_of_mem _ List.mem_cons_self, ?_⟩
    intro other hother hkey
    rcases List.mem_cons.mp hother with rfl | hother
    · exact (hsides ((hkeys hkey).trans hsel) hsel).elim
    · rw [List.mem_singleton.mp hother]

/-! ### The invariant -/

/-- What holds of log and world throughout a run, for one order. The first two
    fields bound what is settled, the others say how it came about. -/
structure OrderKept (rt : Runtime) (seeds : List Seeds) (order : SignedOrderPayload) (past : Log)
    (world : World) : Prop where
  placed : Placed rt seeds world.accounts
  counted : total (Account.amountUnder .base (rt.orderHash order)) world.accounts
    = world.filledQuantity rt order.marketConfig (rt.orderHash order)
  bounded : world.filledQuantity rt order.marketConfig (rt.orderHash order) ≤ order.quantity.val
  explained : ∀ key receipt, world.accounts.get? key = some (.settlementReceipt receipt) →
    receipt.Names (rt.orderHash order) → Explained rt order past receipt
  cancelled : ∀ entry ∈ past, CancelsOrder (rt.orderHash order) entry →
    ∃ s, world.fillState rt order.marketConfig (rt.orderHash order) = some s ∧ s.cancelled = true
  ended : past.Pairwise (fun earlier later => CancelsOrder (rt.orderHash order) earlier →
    ¬ FillsOrder (rt.orderHash order) later)
  byTrader : ∀ env ctx order', (.invoke env (.cancelSignedOrder ctx (rt.orderHash order) order'),
    .ok ()) ∈ past → order.trader ∈ env.signers

/-- What the log explains, a longer log explains. -/
theorem explained_snoc {receipt : SettlementReceipt}
    (h : Explained rt order past receipt) (entry : Input × Except ProgramError Unit) :
    Explained rt order (past ++ [entry]) receipt := by
  rcases h with ⟨env, ctx, settlementId, buyerOrderHash, sellerOrderHash, args, hmem, hrest⟩
  exact ⟨env, ctx, settlementId, buyerOrderHash, sellerOrderHash, args,
    List.mem_append_left _ hmem, hrest⟩

/-- An entry that neither fills nor cancels the order leaves the invariant to
    accounts that say the same of it. -/
theorem orderKept_idle (h : OrderKept rt seeds order past world)
    {entry : Input × Except ProgramError Unit}
    (hfills : ¬ FillsOrder (rt.orderHash order) entry)
    (hcancels : ¬ CancelsOrder (rt.orderHash order) entry)
    (hplaced : Placed rt seeds world'.accounts)
    (htotal : total (Account.amountUnder .base (rt.orderHash order)) world'.accounts
      = total (Account.amountUnder .base (rt.orderHash order)) world.accounts)
    (hstate : world'.fillState rt order.marketConfig (rt.orderHash order)
      = world.fillState rt order.marketConfig (rt.orderHash order))
    (hreceipts : ∀ key receipt, receipt.Names (rt.orderHash order) →
      world'.accounts.get? key = some (.settlementReceipt receipt) →
      world.accounts.get? key = some (.settlementReceipt receipt)) :
    OrderKept rt seeds order (past ++ [entry]) world' := by
  -- The quantity filled is read off the fill state, which did not change.
  have hquantity : world'.filledQuantity rt order.marketConfig (rt.orderHash order)
      = world.filledQuantity rt order.marketConfig (rt.orderHash order) := by
    rw [World.filledQuantity, hstate, World.filledQuantity]
  refine ⟨hplaced, ?_, ?_, ?_, ?_, ?_, ?_⟩
  · rw [htotal, hquantity, h.counted]
  · rw [hquantity]
    exact h.bounded
  · intro key receipt hget hnames
    exact explained_snoc (h.explained key receipt (hreceipts key receipt hnames hget) hnames) entry
  · intro e he hcancel
    rw [hstate]
    rcases List.mem_append.mp he with he | he
    · exact h.cancelled e he hcancel
    · rw [List.mem_singleton.mp he] at hcancel
      exact absurd hcancel hcancels
  -- The new entry fills nothing, so no cancellation is broken by it.
  · refine List.pairwise_append.mpr ⟨h.ended, List.pairwise_singleton _ _, ?_⟩
    intro earlier _ later hlater _
    rw [List.mem_singleton.mp hlater]
    exact hfills
  · intro env ctx order' hmem
    rcases List.mem_append.mp hmem with hmem | hmem
    · exact h.byTrader env ctx order' hmem
    · rw [← List.mem_singleton.mp hmem] at hcancels
      exact absurd rfl hcancels

/-- A settlement whose receipt does not name the order changes nothing of its
    receipts. -/
theorem settled_unnamed {ctx : SettleFill} {receipt : SettlementReceipt}
    {fills : List (Pubkey × OrderFillState)} {config : MarketConfig}
    {buyer seller buyer' seller' : TraderMarketBalance}
    (h : Settled rt env world.accounts ctx receipt fills world'.accounts config buyer seller buyer'
      seller') {orderHash : Hash} (hnames : ¬ receipt.Names orderHash) :
    total (Account.amountUnder .base orderHash) world'.accounts
        = total (Account.amountUnder .base orderHash) world.accounts ∧
      ∀ key r, r.Names orderHash → world'.accounts.get? key = some (.settlementReceipt r) →
        world.accounts.get? key = some (.settlementReceipt r) := by
  constructor
  · have hsum := settled_total h (f := Account.amountUnder .base orderHash) (fun _ => rfl)
    simp only [Account.amountUnder, if_neg hnames, Nat.add_zero] at hsum
    exact hsum
  · intro key r hr hget
    rcases (settled_receipts h key r).mp hget with ⟨-, rfl⟩ | hold
    · exact absurd hr hnames
    · exact hold

/-- What a fill of an order found and did: the order was open, its fill state
    counts the base of a new receipt, and the order allows that receipt. -/
structure Filled (rt : Runtime) (env : Env) (order : SignedOrderPayload) (world world' : World)
    (receipt : SettlementReceipt) : Prop where
  names : receipt.Names (rt.orderHash order)
  notCancelled : ∀ s, world.fillState rt order.marketConfig (rt.orderHash order) = some s →
    s.cancelled = false
  quantity : world'.filledQuantity rt order.marketConfig (rt.orderHash order)
    = world.filledQuantity rt order.marketConfig (rt.orderHash order) + receipt.baseAmount.val
  bounded : world'.filledQuantity rt order.marketConfig (rt.orderHash order) ≤ order.quantity.val
  counted : total (Account.amountUnder .base (rt.orderHash order)) world'.accounts
    = total (Account.amountUnder .base (rt.orderHash order)) world.accounts
      + receipt.baseAmount.val
  receipts : ∀ key r, world'.accounts.get? key = some (.settlementReceipt r) →
    r = receipt ∨ world.accounts.get? key = some (.settlementReceipt r)
  allowed : Allowed rt order receipt env

/-- A signed settlement that names the hash of an order fills the order.
    Everything the handler checked is put together here and used in this form
    only. -/
theorem settleSignedFill_filled {orders : List SignedOrderPayload} {ctx : SettleSignedFill}
    {settlementId : Word 64} {buyerOrderHash sellerOrderHash : Hash} {args : SignedFillArgs}
    (hp : process rt env world
      (.settleSignedFill ctx settlementId buyerOrderHash sellerOrderHash args) = .ok world')
    (hrun : env.precompilesVerified rt = true) (hsep : rt.Separates seeds)
    (hdefault : rt.AvoidsDefault seeds) (hfree : rt.CollisionFree orders)
    (hs : ∀ s ∈ (Instruction.settleSignedFill ctx settlementId buyerOrderHash sellerOrderHash
      args).seeds, s ∈ seeds)
    (hargs : args.buyerOrder ∈ orders ∧ args.sellerOrder ∈ orders) (horder : order ∈ orders)
    (hnames : buyerOrderHash = rt.orderHash order ∨ sellerOrderHash = rt.orderHash order)
    (hplaced : Placed rt seeds world.accounts) :
    ∃ receipt, (Instruction.settleSignedFill ctx settlementId buyerOrderHash sellerOrderHash
        args).settlement = some receipt.record ∧ Filled rt env order world world' receipt := by
  rcases settleSignedFillHandler_eq_ok hp with ⟨-, receipt, _, _, _, _, _, _, _, buyerNew, _, _,
    sellerNew, hsettled, hsigned⟩
  have hbuyerSeeds : .orderFillState ctx.marketConfig buyerOrderHash ∈ seeds :=
    hs _ (List.mem_cons_of_mem _ List.mem_cons_self)
  have hsellerSeeds : .orderFillState ctx.marketConfig sellerOrderHash ∈ seeds :=
    hs _ (List.mem_cons_of_mem _ (List.mem_cons_of_mem _ List.mem_cons_self))
  rcases signedSettled_named hsigned hsep ⟨hbuyerSeeds, hsellerSeeds⟩ hfree horder hargs hnames with
    ⟨key, old, opened, new, hfilled, hmarket, hwritten, honce⟩
  -- Whichever side it is, the fill state's address is among those of the run.
  have hseeds : .orderFillState order.marketConfig (rt.orderHash order) ∈ seeds := by
    rw [← hmarket]
    rcases hnames with hb | hsel
    · rw [← hb]
      exact hbuyerSeeds
    · rw [← hsel]
      exact hsellerSeeds
  have hne : order.marketConfig ≠ Pubkey.default := by
    rw [← hmarket]
    exact market_ne_default hdefault hplaced hsettled.marketAccount
  rcases fillState_opened hfilled.address hfilled.before hfilled.initialized hne hsep hplaced
    hseeds with ⟨hquantity, hopened⟩
  -- The receipt and the fill state have addresses of different kinds, so the
  -- receipt is not written over the fill state.
  have hreceipt : key ≠ ctx.settlementReceipt := by
    intro hkey
    rw [hfilled.address, hsettled.receiptAddress, hsigned.settlementId] at hkey
    exact absurd (address_injective hsep hseeds (hs _ List.mem_cons_self) hkey)
      (by simp only [reduceCtorEq, not_false_eq_true])
  have hstate : world'.fillState rt order.marketConfig (rt.orderHash order) = some new := by
    rw [fillState_eq_some, ← hfilled.address]
    exact settled_filled hsettled hwritten honce hreceipt
  have hnew : world'.filledQuantity rt order.marketConfig (rt.orderHash order)
      = new.filledQuantity.val := by
    rw [World.filledQuantity, hstate]
    rfl
  have hreceiptNames : receipt.Names (rt.orderHash order) := by
    rw [SettlementReceipt.Names, hsigned.hashes.1, hsigned.hashes.2]
    exact hnames
  refine ⟨receipt, ?_, hreceiptNames, ?_, ?_, ?_, ?_, ?_, ?_⟩
  · rw [Instruction.settlement, SettlementReceipt.record, hsigned.settlementId,
      hsigned.baseAmount, hsigned.quoteAmount, hsettled.parties.1, hsettled.parties.2.1,
      hsettled.parties.2.2]
  · intro s hold
    rw [hopened s hold]
    exact hfilled.notCancelled
  · rw [hnew, hfilled.filled, hquantity, hsigned.baseAmount]
  · rw [hnew]
    exact hfilled.bounded
  · have hsum := settled_total hsettled (f := Account.amountUnder .base (rt.orderHash order))
      (fun _ => rfl)
    simp only [Account.amountUnder, if_pos hreceiptNames, SettlementReceipt.amount,
      Nat.add_zero] at hsum
    exact hsum
  · intro key' r hget
    exact ((settled_receipts hsettled key' r).mp hget).imp And.right id
  · rcases hfilled.signed with ⟨_, _, _, hplace, hsignature⟩
    exact ⟨hfilled.live, verifiedBefore_of_previous hrun hplace hsignature, args.fillPrice,
      hfilled.accepts, by rw [hsigned.quoteAmount, hsigned.baseAmount]⟩

/-- A fill of the order keeps the invariant. -/
theorem filled_kept {ctx : SettleSignedFill} {settlementId : Word 64}
    {buyerOrderHash sellerOrderHash : Hash} {args : SignedFillArgs} {receipt : SettlementReceipt}
    (hfilled : Filled rt env order world world' receipt)
    (hrecord : (Instruction.settleSignedFill ctx settlementId buyerOrderHash sellerOrderHash
      args).settlement = some receipt.record)
    (hnames : buyerOrderHash = rt.orderHash order ∨ sellerOrderHash = rt.orderHash order)
    (hplaced : Placed rt seeds world'.accounts) (h : OrderKept rt seeds order past world) :
    OrderKept rt seeds order (past ++ [(.invoke env
      (.settleSignedFill ctx settlementId buyerOrderHash sellerOrderHash args), .ok ())])
      world' := by
  -- The order was open, so no cancellation precedes this fill.
  have hopen : ∀ entry ∈ past, ¬ CancelsOrder (rt.orderHash order) entry := by
    intro entry hentry hcancel
    rcases h.cancelled entry hentry hcancel with ⟨s, hstate, hcancelled⟩
    rw [hfilled.notCancelled s hstate] at hcancelled
    exact Bool.noConfusion hcancelled
  refine ⟨hplaced, ?_, hfilled.bounded, ?_, ?_, ?_, ?_⟩
  · rw [hfilled.counted, hfilled.quantity, h.counted]
  · intro key r hget hr
    rcases hfilled.receipts key r hget with rfl | hold
    · exact ⟨env, ctx, settlementId, buyerOrderHash, sellerOrderHash, args,
        List.mem_append_right _ (List.mem_singleton_self _), hrecord, hnames, hfilled.allowed⟩
    · exact explained_snoc (h.explained key r hold hr) _
  · intro entry hentry hcancel
    rcases List.mem_append.mp hentry with hentry | hentry
    · exact absurd hcancel (hopen entry hentry)
    · rw [List.mem_singleton.mp hentry] at hcancel
      exact hcancel.elim
  -- Cancellations before this fill there are none, as the order was open.
  · refine List.pairwise_append.mpr ⟨h.ended, List.pairwise_singleton _ _, ?_⟩
    intro earlier hearlier later _ hcancel
    exact absurd hcancel (hopen earlier hearlier)
  · intro env' ctx' order' hmem
    rcases List.mem_append.mp hmem with hmem | hmem
    · exact h.byTrader env' ctx' order' hmem
    · exact absurd (List.mem_singleton.mp hmem)
        (by simp only [Prod.mk.injEq, Input.invoke.injEq, reduceCtorEq, and_false, false_and,
          not_false_eq_true])

/-- A cancellation of the order keeps the invariant. -/
theorem cancelled_kept {orders : List SignedOrderPayload} {ctx : CancelSignedOrder}
    {presented : SignedOrderPayload}
    (hp : process rt env world (.cancelSignedOrder ctx (rt.orderHash order) presented) = .ok world')
    (hsep : rt.Separates seeds) (hdefault : rt.AvoidsDefault seeds)
    (hfree : rt.CollisionFree orders)
    (hs : ∀ s ∈ (Instruction.cancelSignedOrder ctx (rt.orderHash order) presented).seeds, s ∈ seeds)
    (hpresented : presented ∈ orders) (horder : order ∈ orders)
    (h : OrderKept rt seeds order past world) :
    OrderKept rt seeds order (past ++ [(.invoke env
      (.cancelSignedOrder ctx (rt.orderHash order) presented), .ok ())]) world' := by
  have hplaced := process_placed hp hsep hs h.placed
  rcases cancelSignedOrderHandler_eq_ok hp with ⟨-, old, opened, hc⟩
  rcases hc.marketAccount with ⟨config, hconfig⟩
  -- The hash is that of one order only, so the order presented is this one.
  have heq := order_unique hfree hpresented horder hc.hash
  have hmarket : ctx.marketConfig = order.marketConfig := by rw [← hc.orderMarket, heq]
  have hne : order.marketConfig ≠ Pubkey.default := by
    rw [← hmarket]
    exact market_ne_default hdefault h.placed hconfig
  have haddress := hc.address
  have hopen := hc.initialized
  have hseeds := hs _ List.mem_cons_self
  rw [hmarket] at haddress hopen hseeds
  rcases fillState_opened haddress hc.before hopen hne hsep h.placed hseeds with ⟨hquantity, -⟩
  -- Cancelling keeps the quantity filled and sets the mark.
  have hstate : world'.fillState rt order.marketConfig (rt.orderHash order)
      = some { opened with cancelled := true } := by
    rw [fillState_eq_some, hc.after, ← haddress, SortedMap.get?_insert_self]
  have hsame : world'.filledQuantity rt order.marketConfig (rt.orderHash order)
      = world.filledQuantity rt order.marketConfig (rt.orderHash order) := by
    rw [World.filledQuantity, hstate, hquantity]
    rfl
  refine ⟨hplaced, ?_, ?_, ?_, ?_, ?_, ?_⟩
  · rw [process_total_receipts hp (fun _ => rfl) (amountUnder_of_ne .base _), hsame, h.counted]
  · rw [hsame]
    exact h.bounded
  · intro key r hget hr
    exact explained_snoc (h.explained key r ((process_frame hp rfl key).mp hget) hr) _
  · intro entry _ _
    exact ⟨_, hstate, rfl⟩
  · refine List.pairwise_append.mpr ⟨h.ended, List.pairwise_singleton _ _, ?_⟩
    intro earlier _ later hlater _
    rw [List.mem_singleton.mp hlater]
    exact id
  · intro env' ctx' order' hmem
    rcases List.mem_append.mp hmem with hmem | hmem
    · exact h.byTrader env' ctx' order' hmem
    · have hentry := List.mem_singleton.mp hmem
      simp only [Prod.mk.injEq, Input.invoke.injEq, Instruction.cancelSignedOrder.injEq, and_true,
        true_and] at hentry
      rw [hentry.1, ← heq, hc.orderTrader]
      exact hc.signer

/-- A step keeps the invariant. -/
theorem step_orderKept {orders : List SignedOrderPayload} {input : Input}
    (hsep : rt.Separates seeds) (hdefault : rt.AvoidsDefault seeds)
    (hfree : rt.CollisionFree orders) (hzero : rt.orderHash order ≠ 0) (horder : order ∈ orders)
    (hseeds : .orderFillState order.marketConfig (rt.orderHash order) ∈ seeds)
    (hs : ∀ s ∈ input.seeds, s ∈ seeds) (ho : ∀ o ∈ input.orders, o ∈ orders)
    (h : OrderKept rt seeds order past world) :
    OrderKept rt seeds order (past ++ [(input, (step rt world input).1)])
      (step rt world input).2 := by
  rcases step_cases rt world input with ⟨e, he⟩ | ⟨ledger, rfl, hstep⟩ |
    ⟨env, instruction, world', rfl, hrun, hp, hstep⟩
  -- A failed input changes nothing and counts as neither fill nor cancellation.
  · rw [he]
    refine orderKept_idle h ?_ ?_ h.placed rfl rfl (fun _ _ _ hget => hget)
    · cases input with
      | tokens ledger => exact id
      | invoke env instruction => cases instruction <;> exact id
    · cases input with
      | tokens ledger => exact id
      | invoke env instruction => cases instruction <;> exact id
  · rw [hstep]
    exact orderKept_idle h id id h.placed rfl rfl (fun _ _ _ hget => hget)
  · rw [hstep]
    have hplaced := process_placed hp hsep hs h.placed
    -- Most instructions write neither receipts nor fill states.
    have hstate : (∀ s, instruction.writes (.orderFillState s) = false) →
        world'.fillState rt order.marketConfig (rt.orderHash order)
          = world.fillState rt order.marketConfig (rt.orderHash order) := by
      intro hwrites
      ext s
      rw [fillState_eq_some, fillState_eq_some]
      exact process_frame hp (hwrites s) _
    cases instruction with
    | settleFill ctx settlementId baseAmount quoteAmount =>
        rcases settleFillHandler_eq_ok hp with
          ⟨-, receipt, _, _, _, _, _, hsettled, -, -, -, hb, hsel⟩
        -- Its receipt has no hashes, and no order has the hash zero.
        have hnames : ¬ receipt.Names (rt.orderHash order) := by
          intro hnames
          rw [SettlementReceipt.Names, hb, hsel, or_self] at hnames
          exact hzero hnames.symm
        rcases settled_unnamed hsettled hnames with ⟨htotal, hreceipts⟩
        exact orderKept_idle h id id hplaced htotal (hstate (fun _ => rfl)) hreceipts
    | settleSignedFill ctx settlementId buyerOrderHash sellerOrderHash args =>
        by_cases hnames : buyerOrderHash = rt.orderHash order ∨ sellerOrderHash = rt.orderHash order
        · rcases settleSignedFill_filled hp hrun hsep hdefault hfree hs ⟨ho _ List.mem_cons_self,
            ho _ (List.mem_cons_of_mem _ List.mem_cons_self)⟩ horder hnames h.placed with
            ⟨receipt, hrecord, hfilled⟩
          exact filled_kept hfilled hrecord hnames hplaced h
        · rcases settleSignedFillHandler_eq_ok hp with ⟨-, receipt, _, _, _, _, _, _, _, buyerNew,
            _, _, sellerNew, hsettled, hsigned⟩
          have hreceipt : ¬ receipt.Names (rt.orderHash order) := by
            rw [SettlementReceipt.Names, hsigned.hashes.1, hsigned.hashes.2]
            exact hnames
          rcases settled_unnamed hsettled hreceipt with ⟨htotal, hreceipts⟩
          refine orderKept_idle h hnames id hplaced htotal ?_ hreceipts
          ext s
          rw [fillState_eq_some, fillState_eq_some]
          -- Fill states of other hashes are at other addresses.
          refine settled_fillState hsettled (fun fill hfill hkey => hnames ?_) s
          rcases List.mem_cons.mp hfill with rfl | hfill
          · rw [hsigned.buyer.address] at hkey
            exact Or.inl (Seeds.orderFillState.inj (address_injective hsep hseeds
              (hs _ (List.mem_cons_of_mem _ List.mem_cons_self)) hkey)).2.symm
          · rw [List.mem_singleton.mp hfill, hsigned.seller.address] at hkey
            exact Or.inr (Seeds.orderFillState.inj (address_injective hsep hseeds
              (hs _ (List.mem_cons_of_mem _ (List.mem_cons_of_mem _ List.mem_cons_self)))
              hkey)).2.symm
    | cancelSignedOrder ctx orderHash presented =>
        by_cases hhash : orderHash = rt.orderHash order
        · rw [hhash] at hp hs ⊢
          exact cancelled_kept hp hsep hdefault hfree hs (ho _ List.mem_cons_self) horder h
        · refine orderKept_idle h id hhash hplaced
            (process_total_receipts hp (fun _ => rfl) (amountUnder_of_ne .base _)) ?_
            (fun key r _ => (process_frame hp rfl key).mp)
          rcases cancelSignedOrderHandler_eq_ok hp with ⟨-, old, opened, hc⟩
          rw [World.fillState, World.fillState, hc.after, SortedMap.get?_insert_of_ne]
          intro hkey
          rw [hc.address] at hkey
          exact hhash (Seeds.orderFillState.inj (address_injective hsep hseeds
            (hs _ List.mem_cons_self) hkey)).2.symm
    | _ =>
        exact orderKept_idle h id id hplaced
          (process_total_receipts hp (fun _ => rfl) (amountUnder_of_ne .base _))
          (hstate (fun _ => rfl)) (fun key r _ => (process_frame hp rfl key).mp)

end Step

/-! ### Runs -/

/-- Before any input the order has no fill state, no receipt and no entry. -/
theorem orderKept_empty (rt : Runtime) (seeds : List Seeds) (order : SignedOrderPayload) :
    OrderKept rt seeds order [] World.empty where
  placed := (ledgerKept_empty rt seeds Pubkey.default Pubkey.default).placed
  counted := rfl
  bounded := Nat.zero_le _
  explained := by
    intro key receipt hget
    exact absurd hget (by simp only [World.empty, SortedMap.get?_empty, reduceCtorEq,
      not_false_eq_true])
  cancelled := fun entry hentry => absurd hentry List.not_mem_nil
  ended := List.Pairwise.nil
  byTrader := fun env ctx order' hmem => absurd hmem List.not_mem_nil

/-- Receipts at prices up to a limit add up to at most the limit for each base
    token. -/
theorem quoteUnder_le {accounts : Accounts} {orderHash : Hash} {limit : Nat}
    (h : ∀ key receipt, accounts.get? key = some (.settlementReceipt receipt) →
      receipt.Names orderHash → receipt.quoteAmount.val ≤ limit * receipt.baseAmount.val) :
    total (Account.amountUnder .quote orderHash) accounts
      ≤ limit * total (Account.amountUnder .base orderHash) accounts := by
  unfold total
  rw [← SortedMap.sumBy_mul_left]
  refine SortedMap.sumBy_le_sumBy accounts (fun key account hget => ?_)
  cases account with
  | settlementReceipt receipt =>
      by_cases hnames : receipt.Names orderHash
      · simp only [Account.amountUnder, if_pos hnames, SettlementReceipt.amount]
        exact h key receipt hget hnames
      · simp only [Account.amountUnder, if_neg hnames]
        exact Nat.zero_le _
  | _ => exact Nat.zero_le _

/-- What a run can do with a signed order. The receipts that name its hash add
    up to what its fill state counts, which is at most its quantity. Each was
    written by a signed settlement that the order allows. A bid pays at most its
    price for its quantity. After a cancellation, which takes the trader's
    signature, no settlement under the hash succeeds. -/
theorem run_signedOrder (rt : Runtime) (inputs : List Input) (order : SignedOrderPayload)
    (hsep : rt.Separates
      (.orderFillState order.marketConfig (rt.orderHash order) :: seedsOf inputs))
    (hdefault : rt.AvoidsDefault
      (.orderFillState order.marketConfig (rt.orderHash order) :: seedsOf inputs))
    (hfree : rt.CollisionFree (order :: ordersOf inputs)) (hzero : rt.orderHash order ≠ 0) :
    let past := Run.log (step rt) World.empty inputs
    let world := Run.after (step rt) World.empty inputs
    let hash := rt.orderHash order
    total (Account.amountUnder .base hash) world.accounts
      = world.filledQuantity rt order.marketConfig hash ∧
    world.filledQuantity rt order.marketConfig hash ≤ order.quantity.val ∧
    (∀ key receipt, world.accounts.get? key = some (.settlementReceipt receipt) →
      receipt.Names hash → Explained rt order past receipt) ∧
    (order.side = .bid → total (Account.amountUnder .quote hash) world.accounts
      ≤ order.price.val * order.quantity.val) ∧
    past.Pairwise (fun earlier later => CancelsOrder hash earlier → ¬ FillsOrder hash later) ∧
    ∀ env ctx order', (.invoke env (.cancelSignedOrder ctx hash order'), .ok ()) ∈ past →
      order.trader ∈ env.signers := by
  intro past world hash
  have hinputs : Run.Along (step rt) (fun _ input =>
      (∀ s ∈ input.seeds, s ∈ .orderFillState order.marketConfig hash :: seedsOf inputs) ∧
        ∀ o ∈ input.orders, o ∈ order :: ordersOf inputs) World.empty inputs :=
    Run.along_of_forall (step rt) (fun input hinput =>
      ⟨fun s hs => List.mem_cons_of_mem _ (List.mem_flatMap.mpr ⟨input, hinput, hs⟩),
        fun o ho => List.mem_cons_of_mem _ (List.mem_flatMap.mpr ⟨input, hinput, ho⟩)⟩) _
  have hkept : OrderKept rt (.orderFillState order.marketConfig hash :: seedsOf inputs) order past
      world :=
    Run.invariant_along (step rt) (orderKept_empty rt _ order)
      (fun past world input h hcond => step_orderKept hsep hdefault hfree hzero List.mem_cons_self
        List.mem_cons_self hcond.1 hcond.2 h) hinputs
  refine ⟨hkept.counted, hkept.bounded, hkept.explained, fun hside => ?_, hkept.ended,
    hkept.byTrader⟩
  -- Each receipt was settled at a price the bid accepts.
  have hquote : total (Account.amountUnder .quote hash) world.accounts
      ≤ order.price.val * total (Account.amountUnder .base hash) world.accounts := by
    refine quoteUnder_le (fun key receipt hget hnames => ?_)
    rcases hkept.explained key receipt hget hnames with ⟨_, _, _, _, _, _, -, -, -, hallowed⟩
    rcases hallowed.priced with ⟨price, haccepts, hprice⟩
    rw [SignedOrderPayload.Accepts, hside] at haccepts
    rw [hprice]
    exact Nat.mul_le_mul_right _ haccepts
  rw [hkept.counted] at hquote
  exact le_trans hquote (Nat.mul_le_mul_left _ hkept.bounded)

/-! ### A run with two signed orders -/

def sampleBid : SignedOrderPayload where
  orderId := 1
  marketConfig := sampleMarket
  trader := sampleBuyer
  side := .bid
  price := 25
  quantity := 100
  nonce := 1
  expirySlot := 1000

def sampleAsk : SignedOrderPayload where
  orderId := 2
  marketConfig := sampleMarket
  trader := sampleSeller
  side := .ask
  price := 20
  quantity := 60
  nonce := 1
  expirySlot := 900

def sampleBidHash : Hash := 0x51a543a37e4873e11ee71343b72dce6e8687f22f5c7ffdd43f6e3fa019ded2e3

def sampleAskHash : Hash := 0x9882c454a70ed4dcf223f8757e815d7cb4c39da38f61ef0a6f953fe09980d031

/-- A signature is two numbers of 32 bytes, the encoded point and then the
    scalar. Written so, the numbers can be compared with a listing of the bytes. -/
def signatureOf (point scalar : Word 256) : Signature :=
  Fin.ofNat _ (point.val + 2 ^ 256 * scalar.val)

def sampleBidSignature : Signature :=
  signatureOf
    0x6c2663d9cb518addc5043e32e4e8b02d44294e2bebcc2da6fd469784d2601255
    0x036bc2c9da7c37493fa6fb155823d8a096649d010e9dc68dc74ed9981079d43e

def sampleAskSignature : Signature :=
  signatureOf
    0xccd95e5edfc92979c75041d6bf4139e8326c911a9527da1f10f6221de8ebce37
    0x08827ca318c522a1405b452fbbecc0818640202bc97cae57ad65f61e8cd261ff

def sampleBidFillState : Pubkey :=
  0xd899eca31aa34bda71629ef8bb29ef7ddafa188d0f748efaad3326e569ff2019

def sampleAskFillState : Pubkey :=
  0x17c55a77ae1f415afa35b588b4d53a30837c8bd27878742b9a505528908aa7a4

/-- The addresses of the receipts of settlements 7 and 8. -/
def sampleReceipt7 : Pubkey := 0x9101299416fab8890979ef2fb3c3e78179e6ca8f2118954e31b955f449f55ef4

def sampleReceipt8 : Pubkey := 0xde5c62572d820bb9ed072a3cdbdaee90ba27f235d9dff423a4e093e0a18ebad9

/-- The runtime of the sample market, with the two orders hashed and signed. -/
def sampleSignedRuntime : Runtime :=
  Runtime.ofTables
    (sampleAddresses ++
      [(.settlementReceipt sampleMarket 7, sampleReceipt7, 254),
        (.settlementReceipt sampleMarket 8, sampleReceipt8, 251),
        (.orderFillState sampleMarket sampleBidHash, sampleBidFillState, 254),
        (.orderFillState sampleMarket sampleAskHash, sampleAskFillState, 255)])
    [(sampleBid.signingPreimage, sampleBidHash), (sampleAsk.signingPreimage, sampleAskHash)]
    [(sampleBuyer.bytes, sampleBidSignature.bytes, sampleBid.signingPreimage),
      (sampleSeller.bytes, sampleAskSignature.bytes, sampleAsk.signingPreimage)]

/-- The instruction that has the precompile verify the signature of an order:
    one entry, then key, signature and message. -/
def sampleVerification (order : SignedOrderPayload) (signature : Signature) : RawInstruction where
  programId := sampleSignedRuntime.ed25519Program
  accounts := []
  data := [1, 0, 48, 0, 255, 255, 16, 0, 255, 255, 112, 0, 138, 0, 255, 255]
    ++ order.trader.bytes ++ signature.bytes ++ order.signingPreimage

/-- A settlement of the two orders, with the verifications before it. -/
def sampleSignedFill (settlementId quantity : Word 64) (receipt : Pubkey) : Input :=
  .invoke
    { signers := [sampleAuthority], slot := 500, currentIndex := 2, refused := false
      instructions := [sampleVerification sampleBid sampleBidSignature,
        sampleVerification sampleAsk sampleAskSignature] }
    (.settleSignedFill
      { settlementAuthority := sampleAuthority, marketConfig := sampleMarket, buyer := sampleBuyer,
        seller := sampleSeller, buyerBalance := sampleBuyerBalance,
        sellerBalance := sampleSellerBalance, settlementReceipt := receipt,
        payer := sampleAuthority, buyerOrderFillState := sampleBidFillState,
        sellerOrderFillState := sampleAskFillState,
        instructionsSysvar := sampleSignedRuntime.instructionsSysvar }
      settlementId sampleBidHash sampleAskHash
      { settlementId, fillPrice := 22, fillQuantity := quantity, buyerOrderHash := sampleBidHash,
        sellerOrderHash := sampleAskHash, buyerOrder := sampleBid,
        buyerSignature := sampleBidSignature, sellerOrder := sampleAsk,
        sellerSignature := sampleAskSignature })

/-- The cancellation of the bid. -/
def sampleCancellation : Input :=
  .invoke (sampleEnv [sampleBuyer]) (.cancelSignedOrder
    { trader := sampleBuyer, marketConfig := sampleMarket, orderFillState := sampleBidFillState,
      payer := sampleBuyer } sampleBidHash sampleBid)

/-- A fill of 40 of the 100 the bid asks for, its cancellation, and a second fill
    that fails. -/
theorem run_signedOrder_partial :
    let inputs := sampleDeposits none ++
      [sampleSignedFill 7 40 sampleReceipt7, sampleCancellation,
        sampleSignedFill 8 5 sampleReceipt8]
    let past := Run.log (step sampleSignedRuntime) World.empty inputs
    let world := Run.after (step sampleSignedRuntime) World.empty inputs
    past.map Prod.snd = [.ok (), .ok (), .ok (), .ok (), .ok (), .ok (), .ok (),
        .error (.code .orderCancelled)] ∧
      world.filledQuantity sampleSignedRuntime sampleMarket sampleBidHash = 40 ∧
      total (Account.amountUnder .base sampleBidHash) world.accounts
        = world.filledQuantity sampleSignedRuntime sampleMarket sampleBidHash ∧
      total (Account.amountUnder .quote sampleBidHash) world.accounts ≤ 25 * 100 ∧
      past.Pairwise (fun earlier later =>
        CancelsOrder sampleBidHash earlier → ¬ FillsOrder sampleBidHash later) := by
  intro inputs past world
  have hhash : sampleSignedRuntime.orderHash sampleBid = sampleBidHash := by decide +kernel
  have h := run_signedOrder sampleSignedRuntime inputs sampleBid (by decide +kernel)
    (by decide +kernel) (by decide +kernel) (by decide +kernel)
  simp only [hhash] at h
  exact ⟨by decide +kernel, by decide +kernel, h.1, h.2.2.2.1 rfl, h.2.2.2.2.1⟩

end Settlement

end SolanaLab
