import SolanaLab.Library.Clearing
import SolanaLab.Relayer.Agreement
import SolanaLab.Settlement.Client
import SolanaLab.Settlement.Consent

/-!
# The Book of a Market

What `settle_signed_fill` and `cancel_signed_order` are for: a book says what
the traders of a market have available, how much of each signed order is
filled, which orders are cancelled and which settlement ids are used.
`World.book` reads it off the accounts.

A settlement is a trade of the book. In a world the program has reached, its
handler succeeds exactly when the instruction is in order by itself
(`SettlementReady`, which reads no account but the market's) and the book takes
the trade. The world then has the book after the trade. So all the checks on
balances, fill states and receipts are those of the book, and there are no
others (`settleSignedFillHandler_ready`, `settleSignedFillHandler_of_ready`).

The program stores the bump of every address with its account and checks the
address under this bump later. `Account.Initialized` says that it is the bump
that was found, and that no market is paused, which no instruction changes.

The two directions are not of equal weight. That a settlement that succeeds is
a trade the book takes says that nothing wrong is settled. That a settlement in
order succeeds whenever the book takes it says that no check stands in the way
of a good one, which takes more: every record must be found, load and belong.

## Main definitions

* `Account.Initialized`: What an account keeps from its initialization.
* `World.book`: The book of a market.
* `SignedFillArgs.trade`: A settlement as a trade.
* `Shows`: The world has a book, as far as seeds are listed.
* `SettlementReady`, `CancellationReady`: An instruction is in order.

## Theorems

* `process_initialized`: Accounts stay as they were initialized.
* `settleSignedFillHandler_ready`, `settleSignedFillHandler_of_ready`: When a
  settlement succeeds.
* `settleSignedFillHandler_shows`: What it does to the book.
* `cancelSignedOrderHandler_iff`, `cancelSignedOrderHandler_shows`: The same
  for a cancellation.
-/

namespace SolanaLab

namespace Settlement

open Checked

/-! ### What accounts keep -/

/-- What an account keeps from its initialization: no market is paused, and
    bumps are those found for the seeds. -/
def Account.Initialized (rt : Runtime) : Account → Prop
  | .marketConfig config =>
    config.paused = false ∧ config.bump = rt.bump (.marketConfig config.baseMint config.quoteMint)
  | .traderMarketBalance balance =>
    balance.bump = rt.bump (.traderBalance balance.marketConfig balance.trader)
  | _ => True

section Initialized

variable {rt : Runtime} {env : Env} {accounts : Accounts} {world world' : World}

/-- A balance keeps its owner and its bump. -/
def TraderMarketBalance.SameOwner (old new : TraderMarketBalance) : Prop :=
  new.marketConfig = old.marketConfig ∧ new.trader = old.trader ∧ new.bump = old.bump

/-- Adding to a balance leaves its owner and its bump. -/
theorem add_sameOwner {balance balance' : TraderMarketBalance} {asset : CustodyAsset}
    {amount : Word 64} {e : ErrorCode} (h : balance.add asset amount e = .ok balance') :
    balance.SameOwner balance' := by
  cases asset <;>
    (simp only [TraderMarketBalance.add, bind_eq_ok] at h
     rcases h with ⟨_, -, hb⟩
     rw [← Except.ok.inj hb]
     exact ⟨rfl, rfl, rfl⟩)

/-- So does subtracting from it. -/
theorem sub_sameOwner {balance balance' : TraderMarketBalance} {asset : CustodyAsset}
    {amount : Word 64} {e : ErrorCode} (h : balance.sub asset amount e = .ok balance') :
    balance.SameOwner balance' := by
  cases asset <;>
    (simp only [TraderMarketBalance.sub, bind_eq_ok] at h
     rcases h with ⟨_, -, hb⟩
     rw [← Except.ok.inj hb]
     exact ⟨rfl, rfl, rfl⟩)

/-- Two changes that keep the owner are one that does. -/
theorem TraderMarketBalance.SameOwner.trans {a b c : TraderMarketBalance} (h : a.SameOwner b)
    (h' : b.SameOwner c) : a.SameOwner c :=
  ⟨h'.1.trans h.1, h'.2.1.trans h.2.1, h'.2.2.trans h.2.2⟩

/-- A balance of the same owner has the bump it needs if the old one had. -/
theorem TraderMarketBalance.SameOwner.initialized {old new : TraderMarketBalance}
    (h : old.SameOwner new) (hold : (Account.traderMarketBalance old).Initialized rt) :
    (Account.traderMarketBalance new).Initialized rt := by
  rw [Account.Initialized, h.1, h.2.1, h.2.2]
  exact hold

/-- A settlement writes two balances over two balances of the same owners, and
    besides them fill states and a receipt. Amounts are of no concern here. -/
def Exchanged (accounts : Accounts) (ctx : SettleFill) (accounts' : Accounts) : Prop :=
  ∃ buyer seller buyer' seller' fills receipt,
    accounts.get? ctx.buyerBalance = some (.traderMarketBalance buyer) ∧
    accounts.get? ctx.sellerBalance = some (.traderMarketBalance seller) ∧
    buyer.SameOwner buyer' ∧ seller.SameOwner seller' ∧
    accounts' = writeSettlement accounts ctx buyer' seller' fills receipt

/-- A plain settlement does so. -/
theorem settleFillHandler_exchanged {ctx : SettleFill}
    {settlementId baseAmount quoteAmount : Word 64}
    (h : settleFillHandler rt env world ctx settlementId baseAmount quoteAmount = .ok world') :
    Exchanged world.accounts ctx world'.accounts := by
  simp only [settleFillHandler, loadSettlementAccounts, bind_eq_ok, checkSigner_eq_ok,
    requireCode_eq_ok, require_eq_ok, init_eq_ok] at h
  rcases h with ⟨loaded, ⟨_, -, market, -, _, -, buyer, hbuyer, seller, hseller, _, -, _, -, _, -,
    hloaded⟩, _, -, _, -, _, -, _, h1, buyer', h2, _, h3, seller', h4, hworld⟩
  rw [← Except.ok.inj hworld]
  rw [← Except.ok.inj hloaded] at h1 h3
  exact ⟨buyer, seller, buyer', seller', [], _, (loadTraderBalance_eq_ok hbuyer).1,
    (loadTraderBalance_eq_ok hseller).1, (sub_sameOwner h1).trans (add_sameOwner h2),
    (sub_sameOwner h3).trans (add_sameOwner h4), rfl⟩

/-- So does a signed one. -/
theorem settleSignedFillHandler_exchanged {ctx : SettleSignedFill} {settlementId : Word 64}
    {buyerOrderHash sellerOrderHash : Hash} {args : SignedFillArgs}
    (h : settleSignedFillHandler rt env world ctx settlementId buyerOrderHash sellerOrderHash args
      = .ok world') : Exchanged world.accounts ctx.toSettleFill world'.accounts := by
  simp only [settleSignedFillHandler, loadSettlementAccounts, applyBalanceSettlement, bind_eq_ok,
    checkSigner_eq_ok, requireCode_eq_ok, require_eq_ok, init_eq_ok] at h
  rcases h with ⟨loaded, ⟨_, -, market, -, _, -, buyer, hbuyer, seller, hseller, _, -, _, -, _, -,
    hloaded⟩, _, -, _, -, _, -, _, -, _, -, _, -, _, -, _, -, _, -, _, -, _, -, _, -, _, -, _, -,
    _, -, _, -, buyerNew, -, sellerNew, -, _, -, balances, ⟨_, h1, buyer', h2, _, h3, seller', h4,
    hbalances⟩, hworld⟩
  rw [← Except.ok.inj hworld, ← Except.ok.inj hbalances]
  rw [← Except.ok.inj hloaded] at h1 h3
  exact ⟨buyer, seller, buyer', seller',
    [(ctx.buyerOrderFillState, buyerNew), (ctx.sellerOrderFillState, sellerNew)], _,
    (loadTraderBalance_eq_ok hbuyer).1, (loadTraderBalance_eq_ok hseller).1,
    (sub_sameOwner h1).trans (add_sameOwner h2), (sub_sameOwner h3).trans (add_sameOwner h4), rfl⟩

/-- Such a change leaves every account as initialized as it was. -/
theorem Exchanged.initialized {ctx : SettleFill} {accounts' : Accounts}
    (h : Exchanged accounts ctx accounts')
    (hold : accounts.Everywhere (fun _ account => account.Initialized rt)) :
    accounts'.Everywhere (fun _ account => account.Initialized rt) := by
  rcases h with ⟨buyer, seller, buyer', seller', fills, receipt, hbuyer, hseller, hb, hs, rfl⟩
  refine SortedMap.Everywhere.insert ?_ trivial
  -- Nothing is asked of fill states.
  intro key account hget
  rcases get?_writeFills hget with ⟨fill, -, -, rfl⟩ | hrest
  · trivial
  · exact ((hold.insert (hb.initialized (hold _ _ hbuyer))).insert
      (hs.initialized (hold _ _ hseller))) key account hrest

/-- Accounts stay as they were initialized. Markets are never written again, and
    of a balance only the amounts are. -/
theorem process_initialized {instruction : Instruction}
    (h : process rt env world instruction = .ok world')
    (hold : world.accounts.Everywhere (fun _ account => account.Initialized rt)) :
    world'.accounts.Everywhere (fun _ account => account.Initialized rt) := by
  cases instruction with
  | initializeProtocol ctx =>
      rcases initializeProtocolHandler_eq_ok h with ⟨-, -, -, config, hafter⟩
      rw [hafter]
      exact hold.insert trivial
  | initializeMarket ctx =>
      -- A market starts out unpaused, with the bump found for its seeds.
      simp only [process, initializeMarketHandler, bind_eq_ok] at h
      rcases h with ⟨_, -, _, -, _, -, _, -, _, -, _, -, _, -, _, -, hworld⟩
      rw [← Except.ok.inj hworld]
      exact hold.insert ⟨rfl, rfl⟩
  | deposit ctx asset amount =>
      simp only [process, depositHandler, bind_eq_ok, initIfNeeded_eq_ok,
        Account.traderMarketBalance?_eq_some] at h
      rcases h with ⟨_, -, _, -, old, ⟨-, hbefore⟩, _, -, _, -, _, -, _, -, _, -, _, -, _, -, _, -,
        _, -, _, -, _, -, _, -, new, hadd, hworld⟩
      rw [← Except.ok.inj hworld]
      refine hold.insert ((add_sameOwner hadd).initialized ?_)
      by_cases hdefault : old.marketConfig = Pubkey.default
      · rw [if_pos hdefault]
        exact rfl
      · -- A balance with a market was there before.
        rw [if_neg hdefault]
        rcases hbefore with ⟨-, rfl⟩ | ⟨_, hget, rfl⟩
        · exact absurd rfl hdefault
        · exact hold _ _ hget
  -- The others change accounts that were initialized before, and keep what identifies
  -- them.
  | withdraw ctx asset amount =>
      simp only [process, withdrawHandler, bind_eq_ok, load_eq_ok,
        Account.traderMarketBalance?_eq_some] at h
      rcases h with ⟨_, -, _, -, old, ⟨_, hget, rfl⟩, _, -, _, -, _, -, _, -, _, -, _, -, _, -, _,
        -, _, -, _, -, _, -, _, -, _, -, _, -, _, -, _, -, new, hsub, _, -, hworld⟩
      rw [← Except.ok.inj hworld]
      exact hold.insert ((sub_sameOwner hsub).initialized (hold _ _ hget))
  | settleFill ctx settlementId baseAmount quoteAmount =>
      exact (settleFillHandler_exchanged h).initialized hold
  | settleSignedFill ctx settlementId buyerOrderHash sellerOrderHash args =>
      exact (settleSignedFillHandler_exchanged h).initialized hold
  | cancelSignedOrder ctx orderHash order =>
      rcases cancelSignedOrderHandler_eq_ok h with ⟨-, old, opened, hc⟩
      rw [hc.after]
      exact hold.insert trivial

end Initialized

/-! ### The book of a market -/

/-- The book of a market, read off the accounts. What has no account has nothing
    available, nothing filled and is not cancelled. -/
def World.book (rt : Runtime) (world : World) (market : Pubkey) :
    Clearing.Book CustodyAsset Pubkey Hash (Word 64) where
  available asset trader := world.available rt asset market trader
  filled orderHash := world.filledQuantity rt market orderHash
  cancelled orderHash := (world.fillState rt market orderHash).elim false OrderFillState.cancelled
  settled settlementId :=
    (world.accounts.get? (rt.address (.settlementReceipt market settlementId))).isSome

/-- A settlement of two signed orders as a trade: base goes from seller to buyer
    and quote from buyer to seller, and both orders are filled by the base
    amount. -/
def SignedFillArgs.trade (args : SignedFillArgs) (buyer seller : Pubkey) :
    Clearing.Trade CustodyAsset Pubkey Hash (Word 64) where
  id := args.settlementId
  payer := fun
    | .base => seller
    | .quote => buyer
  receiver := fun
    | .base => buyer
    | .quote => seller
  amount := fun
    | .base => args.fillQuantity.val
    | .quote => args.fillPrice.val * args.fillQuantity.val
  orders := [(args.buyerOrderHash, args.buyerOrder.quantity.val),
    (args.sellerOrderHash, args.sellerOrder.quantity.val)]
  quantity := args.fillQuantity.val

/-- The world has a book for a market, as far as the seeds of its traders,
    orders and settlements are listed. Beyond them two addresses might coincide. -/
def Shows (rt : Runtime) (seeds : List Seeds) (market : Pubkey) (world : World)
    (book : Clearing.Book CustodyAsset Pubkey Hash (Word 64)) : Prop :=
  Clearing.Agree (fun trader => .traderBalance market trader ∈ seeds)
    (fun orderHash => .orderFillState market orderHash ∈ seeds)
    (fun settlementId => .settlementReceipt market settlementId ∈ seeds)
    (world.book rt market) book

/-- What holds of a world that the program has reached: every account is in its
    place and as it was initialized. -/
structure Kept (rt : Runtime) (seeds : List Seeds) (world : World) : Prop where
  placed : Placed rt seeds world.accounts
  initialized : world.accounts.Everywhere (fun _ account => account.Initialized rt)

section Runs

variable {rt : Runtime} {seeds : List Seeds} {world : World}

/-- A step keeps it, whatever is asked and by whom. -/
theorem step_kept (hsep : rt.Separates seeds) {input : Input}
    (hs : ∀ s ∈ input.seeds, s ∈ seeds) (hkept : Kept rt seeds world) :
    Kept rt seeds (step rt world input).2 := by
  rcases step_cases rt world input with ⟨e, hstep⟩ | ⟨ledger, -, hstep⟩ |
    ⟨env, instruction, world', rfl, -, hp, hstep⟩
  · rw [hstep]
    exact hkept
  · rw [hstep]
    exact ⟨hkept.placed, hkept.initialized⟩
  · rw [hstep]
    exact ⟨process_placed hp hsep hs hkept.placed, process_initialized hp hkept.initialized⟩

/-- It holds after every run. -/
theorem run_kept (hsep : rt.Separates seeds) (inputs : List Input)
    (hs : ∀ s ∈ seedsOf inputs, s ∈ seeds) :
    Kept rt seeds (Run.after (step rt) World.empty inputs) := by
  have hempty : Kept rt seeds World.empty := by
    refine ⟨fun key account hget => ?_, SortedMap.everywhere_empty _⟩
    rw [World.empty, SortedMap.get?_empty] at hget
    exact absurd hget (by simp only [reduceCtorEq, not_false_eq_true])
  refine Run.invariant_along (step rt) (C := fun _ input => ∀ s ∈ input.seeds, s ∈ seeds)
    (P := fun _ world => Kept rt seeds world) hempty
    (fun _ world input hkept hlisted => step_kept hsep hlisted hkept) ?_
  exact Run.along_of_forall (C := fun input : Input => ∀ s ∈ input.seeds, s ∈ seeds) (step rt)
    (fun input hinput s hmem => hs s (List.mem_flatMap.mpr ⟨input, hinput, hmem⟩)) World.empty

end Runs

section Book

variable {rt : Runtime} {env : Env} {seeds : List Seeds} {world world' : World}
  {market trader : Pubkey} {orderHash : Hash}

/-- Different seeds of the list have different addresses. -/
theorem address_ne (hsep : rt.Separates seeds) {s s' : Seeds} (hs : s ∈ seeds) (hs' : s' ∈ seeds)
    (hne : s ≠ s') : rt.address s ≠ rt.address s' :=
  fun heq => hne (address_injective hsep hs hs' heq)

/-- What sits at the address of a trader's balance is the trader's balance. -/
theorem balance_of_placed (hsep : rt.Separates seeds) (hplaced : Placed rt seeds world.accounts)
    (hs : .traderBalance market trader ∈ seeds) {account : Account}
    (hget : world.accounts.get? (rt.address (.traderBalance market trader)) = some account) :
    ∃ balance, account = .traderMarketBalance balance ∧
      (Account.traderMarketBalance balance).seeds = .traderBalance market trader := by
  have hseeds := get?_of_placed hsep hplaced hs hget
  cases account with
  | traderMarketBalance balance => exact ⟨balance, rfl, hseeds⟩
  | _ => exact absurd hseeds (by simp only [Account.seeds, reduceCtorEq, not_false_eq_true])

/-- What sits at the address of an order's fill state is its fill state. -/
theorem fillState_of_placed (hsep : rt.Separates seeds) (hplaced : Placed rt seeds world.accounts)
    (hs : .orderFillState market orderHash ∈ seeds) {account : Account}
    (hget : world.accounts.get? (rt.address (.orderFillState market orderHash)) = some account) :
    ∃ s, account = .orderFillState s ∧ s.marketConfig = market ∧ s.orderHash = orderHash := by
  have hseeds := get?_of_placed hsep hplaced hs hget
  cases account with
  | orderFillState s =>
      rw [Account.seeds, Seeds.orderFillState.injEq] at hseeds
      exact ⟨s, rfl, hseeds⟩
  | _ => exact absurd hseeds (by simp only [Account.seeds, reduceCtorEq, not_false_eq_true])

/-- What a balance says is what the book says. -/
theorem available_of_get? {balance : TraderMarketBalance}
    (hget : world.accounts.get? (rt.address (.traderBalance market trader))
      = some (.traderMarketBalance balance)) (asset : CustodyAsset) :
    world.available rt asset market trader = (balance.available asset).val := by
  rw [World.available, hget]

/-- A trader with something available has a balance. -/
theorem exists_balance (hsep : rt.Separates seeds) (hplaced : Placed rt seeds world.accounts)
    (hs : .traderBalance market trader ∈ seeds) {asset : CustodyAsset}
    (hpos : 0 < world.available rt asset market trader) :
    ∃ balance, world.accounts.get? (rt.address (.traderBalance market trader))
        = some (.traderMarketBalance balance) ∧
      (Account.traderMarketBalance balance).seeds = .traderBalance market trader := by
  rcases hget : world.accounts.get? (rt.address (.traderBalance market trader)) with _ | account
  · rw [World.available, hget] at hpos
    exact absurd hpos (Nat.lt_irrefl 0)
  · rcases balance_of_placed hsep hplaced hs hget with ⟨balance, rfl, hseeds⟩
    exact ⟨balance, rfl, hseeds⟩

/-- Accounts that agree at an address agree on what is available there. -/
theorem available_congr
    (h : world'.accounts.get? (rt.address (.traderBalance market trader))
      = world.accounts.get? (rt.address (.traderBalance market trader))) (asset : CustodyAsset) :
    world'.available rt asset market trader = world.available rt asset market trader := by
  rw [World.available, World.available, h]

/-- Accounts that agree at an address agree on the fill state there. -/
theorem fillState_congr
    (h : world'.accounts.get? (rt.address (.orderFillState market orderHash))
      = world.accounts.get? (rt.address (.orderFillState market orderHash))) :
    world'.fillState rt market orderHash = world.fillState rt market orderHash := by
  rw [World.fillState, World.fillState, h]

/-! ### Fill states -/

/-- The fill state that a handler opens: the one that is there, or an empty
    one, as the book has it. -/
theorem initializeFillState_of_placed (hsep : rt.Separates seeds)
    (hplaced : Placed rt seeds world.accounts) (hs : .orderFillState market orderHash ∈ seeds)
    (hmarket : market ≠ Pubkey.default) (bump : Byte) :
    ∃ old opened, initIfNeeded rt Account.orderFillState? OrderFillState.zeroed world.accounts
        (rt.address (.orderFillState market orderHash)) (.orderFillState market orderHash)
        = .ok old ∧
      initializeFillStateIfNeeded old market orderHash bump = .ok opened ∧
      opened.filledQuantity.val = (world.book rt market).filled orderHash ∧
      opened.cancelled = (world.book rt market).cancelled orderHash := by
  rcases hget : world.accounts.get? (rt.address (.orderFillState market orderHash)) with _ | account
  · -- There is no fill state, and the one created is claimed for this order.
    have hstate : world.fillState rt market orderHash = none := by
      rw [World.fillState, hget, Option.bind_none]
    refine ⟨.zeroed, ⟨market, orderHash, 0, false, bump⟩,
      initIfNeeded_eq_ok.mpr ⟨rfl, Or.inl ⟨hget, rfl⟩⟩, ?_, ?_, ?_⟩
    · simp only [initializeFillStateIfNeeded, bind_eq_ok, requireCode_eq_ok]
      exact ⟨(), ⟨rfl, rfl⟩, rfl⟩
    · change 0 = world.filledQuantity rt market orderHash
      rw [World.filledQuantity, hstate]
      rfl
    · change false = (world.fillState rt market orderHash).elim false _
      rw [hstate]
      rfl
  -- There is one already, and it is this order's, so it is taken as it stands.
  · rcases fillState_of_placed hsep hplaced hs hget with ⟨s, rfl, hm, ho⟩
    have hstate := fillState_eq_some.mpr hget
    have hne : s.marketConfig ≠ Pubkey.default := by
      rw [hm]
      exact hmarket
    refine ⟨s, s, initIfNeeded_eq_ok.mpr ⟨rfl, Or.inr ⟨_, hget, rfl⟩⟩, ?_, ?_, ?_⟩
    · simp only [initializeFillStateIfNeeded, if_neg hne, bind_eq_ok, requireCode_eq_ok]
      exact ⟨(), ⟨hm, ho⟩, rfl⟩
    · change _ = world.filledQuantity rt market orderHash
      rw [World.filledQuantity, hstate]
      rfl
    · change _ = (world.fillState rt market orderHash).elim false _
      rw [hstate]
      rfl

/-- A fill is applied to an open fill state as long as the order has enough
    left. -/
theorem applyFillState_isOk (opened : OrderFillState) (orderQuantity fillQuantity : Word 64) :
    (∃ new, applyFillState opened orderQuantity fillQuantity = .ok new) ↔
      opened.cancelled = false ∧
        opened.filledQuantity.val + fillQuantity.val ≤ orderQuantity.val := by
  constructor
  · intro h
    rcases h with ⟨new, hnew⟩
    rcases applyFillState_eq_ok hnew with ⟨hopen, hbound, hfilled, -⟩
    exact ⟨hopen, by omega⟩
  · intro h
    have hlt := orderQuantity.isLt
    have hfits : opened.filledQuantity.val + fillQuantity.val < 2 ^ 64 := by omega
    rcases exists_add hfits with ⟨sum, hsum⟩
    refine ⟨{ opened with filledQuantity := sum }, ?_⟩
    simp only [applyFillState, bind_eq_ok, requireCode_eq_ok, okOr_eq_ok, checkedAdd_eq_some]
    exact ⟨(), h.1, sum, hsum, (), by omega, rfl⟩

/-! ### Balances -/

/-- A subtraction succeeds exactly when there is enough. -/
theorem sub_isOk (balance : TraderMarketBalance) (asset : CustodyAsset) (amount : Word 64)
    (e : ErrorCode) : (∃ balance', balance.sub asset amount e = .ok balance') ↔
      amount.val ≤ (balance.available asset).val := by
  constructor
  · intro h
    rcases h with ⟨balance', h⟩
    have hsub := (sub_eq_ok h).2.2 asset
    rw [if_pos rfl] at hsub
    omega
  · intro h
    rcases exists_sub h with ⟨rest, hrest⟩
    cases asset <;>
      (simp only [TraderMarketBalance.sub, bind_eq_ok, okOr_eq_ok, checkedSub_eq_some]
       exact ⟨_, rest, hrest, rfl⟩)

/-- An addition succeeds exactly when there is room in 64 bits. -/
theorem add_isOk (balance : TraderMarketBalance) (asset : CustodyAsset) (amount : Word 64)
    (e : ErrorCode) : (∃ balance', balance.add asset amount e = .ok balance') ↔
      (balance.available asset).val + amount.val < 2 ^ 64 := by
  constructor
  · intro h
    rcases h with ⟨balance', h⟩
    have hadd := (add_eq_ok h).2.2 asset
    rw [if_pos rfl] at hadd
    rw [← hadd]
    exact (balance'.available asset).isLt
  · intro h
    rcases exists_add h with ⟨sum, hsum⟩
    cases asset <;>
      (simp only [TraderMarketBalance.add, bind_eq_ok, okOr_eq_ok, checkedAdd_eq_some]
       exact ⟨_, sum, hsum, rfl⟩)

/-- Two balances exchange amounts that are there and have room. What a trader
    pays makes no room for what he receives, since it is the other asset. -/
theorem applyBalanceSettlement_isOk {buyer seller : TraderMarketBalance}
    {baseAmount quoteAmount : Word 64} :
    (∃ balances, applyBalanceSettlement buyer seller baseAmount quoteAmount = .ok balances) ↔
      (quoteAmount.val ≤ buyer.availableQuote.val ∧
        buyer.availableBase.val + baseAmount.val < 2 ^ 64) ∧
      baseAmount.val ≤ seller.availableBase.val ∧
        seller.availableQuote.val + quoteAmount.val < 2 ^ 64 := by
  simp only [applyBalanceSettlement, bind_eq_ok]
  constructor
  · intro h
    rcases h with ⟨balances, buyerPaid, h1, buyer', h2, sellerPaid, h3, seller', h4, -⟩
    -- What a trader pays in one asset changes nothing of the other.
    have hbuyer := (sub_eq_ok h1).2.2 .base
    have hseller := (sub_eq_ok h3).2.2 .quote
    have hroom := (add_isOk _ _ _ _).mp ⟨_, h2⟩
    have hroom' := (add_isOk _ _ _ _).mp ⟨_, h4⟩
    rw [if_neg (by simp only [reduceCtorEq, not_false_eq_true]), Nat.add_zero] at hbuyer hseller
    rw [hbuyer] at hroom
    rw [hseller] at hroom'
    exact ⟨⟨(sub_isOk _ _ _ _).mp ⟨_, h1⟩, hroom⟩, (sub_isOk _ _ _ _).mp ⟨_, h3⟩, hroom'⟩
  -- Each change is possible by itself, and none spoils a later one.
  · intro h
    rcases h with ⟨⟨hquote, hbase⟩, hbase', hquote'⟩
    rcases (sub_isOk buyer .quote quoteAmount .insufficientAvailableBalance).mpr hquote with
      ⟨buyerPaid, h1⟩
    rcases (sub_isOk seller .base baseAmount .insufficientAvailableBalance).mpr hbase' with
      ⟨sellerPaid, h3⟩
    have hbuyer := (sub_eq_ok h1).2.2 .base
    have hseller := (sub_eq_ok h3).2.2 .quote
    rw [if_neg (by simp only [reduceCtorEq, not_false_eq_true]), Nat.add_zero] at hbuyer hseller
    rcases (add_isOk buyerPaid .base baseAmount .settlementBalanceOverflow).mpr
      (by rw [hbuyer]; exact hbase) with ⟨buyer', h2⟩
    rcases (add_isOk sellerPaid .quote quoteAmount .settlementBalanceOverflow).mpr
      (by rw [hseller]; exact hquote') with ⟨seller', h4⟩
    exact ⟨(buyer', seller'), buyerPaid, h1, buyer', h2, sellerPaid, h3, seller', h4, rfl⟩

end Book

/-! ### Settlements -/

/-- A settlement is in order by itself: those who must have signed it, the
    market is there and has the settlement's authority, and the two orders are
    the parties' own, within their terms and signed. No other account is read. -/
structure SettlementReady (rt : Runtime) (env : Env) (world : World) (ctx : SettleSignedFill)
    (args : SignedFillArgs) : Prop where
  signers : ctx.settlementAuthority ∈ env.signers ∧ ctx.payer ∈ env.signers
  market : ∃ config, world.accounts.get? ctx.marketConfig = some (.marketConfig config) ∧
    config.settlementAuthority = ctx.settlementAuthority
  price : 0 < args.fillPrice.val
  quantity : 0 < args.fillQuantity.val
  buyerOrder : validateSignedOrderPayload args.buyerOrder ctx.marketConfig ctx.buyer .bid = .ok ()
  sellerOrder :
    validateSignedOrderPayload args.sellerOrder ctx.marketConfig ctx.seller .ask = .ok ()
  rules : validateSignedFillRules args env.slot = .ok ()
  buyerHash : rt.sha256 args.buyerOrder.signingPreimage = args.buyerOrderHash
  sellerHash : rt.sha256 args.sellerOrder.signingPreimage = args.sellerOrderHash
  signatures : verifyPreviousEd25519Instruction rt env ctx.instructionsSysvar (-2) ctx.buyer
      args.buyerSignature args.buyerOrder.signingPreimage = .ok () ∧
    verifyPreviousEd25519Instruction rt env ctx.instructionsSysvar (-1) ctx.seller
      args.sellerSignature args.sellerOrder.signingPreimage = .ok ()

/-- The seeds of the accounts of a settlement in the market of two mints. -/
def settlementSeeds (baseMint quoteMint : Pubkey) (ctx : SettleSignedFill)
    (args : SignedFillArgs) : List Seeds :=
  [.marketConfig baseMint quoteMint, .traderBalance ctx.marketConfig ctx.buyer,
    .traderBalance ctx.marketConfig ctx.seller,
    .settlementReceipt ctx.marketConfig args.settlementId,
    .orderFillState ctx.marketConfig args.buyerOrderHash,
    .orderFillState ctx.marketConfig args.sellerOrderHash]

/-- What the accounts of both settlements were found to be. -/
theorem loadSettlementAccounts_eq_ok {rt : Runtime} {env : Env} {accounts : Accounts}
    {ctx : SettleFill} {settlementId : Word 64} {loaded : SettlementAccounts}
    (h : loadSettlementAccounts rt env accounts ctx settlementId = .ok loaded) :
    (ctx.settlementAuthority ∈ env.signers ∧ ctx.payer ∈ env.signers) ∧
    (accounts.get? ctx.marketConfig = some (.marketConfig loaded.market) ∧
      loaded.market.settlementAuthority = ctx.settlementAuthority) ∧
    accounts.get? ctx.buyerBalance = some (.traderMarketBalance loaded.buyerBalance) ∧
    accounts.get? ctx.sellerBalance = some (.traderMarketBalance loaded.sellerBalance) ∧
    accounts.get? ctx.settlementReceipt = none := by
  simp only [loadSettlementAccounts, bind_eq_ok, checkSigner_eq_ok, requireCode_eq_ok,
    require_eq_ok, init_eq_ok] at h
  rcases h with ⟨_, hsigner, market, hmarket, _, hauthority, buyer, hbuyer, seller, hseller, _, -,
    _, ⟨-, hnew⟩, _, hpayer, hloaded⟩
  rw [← Except.ok.inj hloaded]
  exact ⟨⟨hsigner, hpayer⟩, ⟨loadMarketConfig_eq_ok hmarket, hauthority⟩,
    (loadTraderBalance_eq_ok hbuyer).1, (loadTraderBalance_eq_ok hseller).1, hnew⟩

section Settlement

variable {rt : Runtime} {env : Env} {seeds : List Seeds} {world world' : World}
  {baseMint quoteMint : Pubkey} {ctx : SettleSignedFill} {args : SignedFillArgs}

/-- A market at the address of two mints is the market of these mints. -/
theorem mints_of_placed (hsep : rt.Separates seeds) (hplaced : Placed rt seeds world.accounts)
    (hs : .marketConfig baseMint quoteMint ∈ seeds) {config : MarketConfig}
    (hget : world.accounts.get? (rt.address (.marketConfig baseMint quoteMint))
      = some (.marketConfig config)) :
    config.baseMint = baseMint ∧ config.quoteMint = quoteMint := by
  have hseeds := get?_of_placed hsep hplaced hs hget
  rw [Account.seeds, Seeds.marketConfig.injEq] at hseeds
  exact hseeds

/-- A settlement that succeeds is in order, and the book takes it as a trade.
    Each check of the handler becomes a field of one of the two. -/
theorem settleSignedFillHandler_ready (hsep : rt.Separates seeds)
    (hdefault : rt.AvoidsDefault seeds) (hkept : Kept rt seeds world)
    (hderived : ctx.Derived rt baseMint quoteMint args.settlementId args.buyerOrderHash
      args.sellerOrderHash)
    (hlisted : ∀ s ∈ settlementSeeds baseMint quoteMint ctx args, s ∈ seeds)
    (h : settleSignedFillHandler rt env world ctx args.settlementId args.buyerOrderHash
      args.sellerOrderHash args = .ok world') :
    SettlementReady rt env world ctx args ∧
      (world.book rt ctx.marketConfig).Accepts (2 ^ 64) (args.trade ctx.buyer ctx.seller) := by
  simp only [settlementSeeds, List.forall_mem_cons, List.not_mem_nil, false_implies,
    implies_true, and_true] at hlisted
  rcases hlisted with ⟨-, -, -, -, hbhashSeeds, hshashSeeds⟩
  simp only [settleSignedFillHandler, bind_eq_ok, require_eq_ok, requireCode_eq_ok] at h
  rcases h with ⟨loaded, hload, buyerOld, hbold, sellerOld, hsold, _, -, _, -, _, hprice, _,
    hquantity, _, -, ⟨⟩, hborder, ⟨⟩, hsorder, ⟨⟩, hrules, _, hbhash, _, hshash, ⟨⟩, hbsigned,
    ⟨⟩, hssigned, buyerOpened, hbopened, sellerOpened, hsopened, buyerNew, hbnew, sellerNew,
    hsnew, quoteAmount, hquote, balances, hbalances, -⟩
  rcases loadSettlementAccounts_eq_ok hload with ⟨hsigners, hmarket, hbget, hsget, hnew⟩
  have hne := market_ne_default hdefault hkept.placed hmarket.1
  refine ⟨⟨hsigners, ⟨_, hmarket⟩, hprice, hquantity, hborder, hsorder, hrules, hbhash, hshash,
    ⟨hbsigned, hssigned⟩⟩, ?_⟩
  -- What was loaded and opened is what the book has.
  rw [hderived.buyerBalance] at hbget
  rw [hderived.sellerBalance] at hsget
  rw [hderived.settlementReceipt] at hnew
  rw [hderived.buyerOrderFillState] at hbold
  rw [hderived.sellerOrderFillState] at hsold
  have hamounts := applyBalanceSettlement_isOk.mp ⟨_, hbalances⟩
  rw [quoteAmountU64_eq_ok hquote] at hamounts
  rcases initializeFillState_of_placed hsep hkept.placed hbhashSeeds hne
    (rt.bump (.orderFillState ctx.marketConfig args.buyerOrderHash)) with
    ⟨old, opened, hold, hopened, hbfilled, hbcancelled⟩
  rw [hold, Except.ok.injEq] at hbold
  rw [hbold, hbopened, Except.ok.injEq] at hopened
  rw [← hopened] at hbfilled hbcancelled
  rcases initializeFillState_of_placed hsep hkept.placed hshashSeeds hne
    (rt.bump (.orderFillState ctx.marketConfig args.sellerOrderHash)) with
    ⟨old', opened', hold', hopened', hsfilled, hscancelled⟩
  rw [hold', Except.ok.injEq] at hsold
  rw [hsold, hsopened, Except.ok.injEq] at hopened'
  rw [← hopened'] at hsfilled hscancelled
  have hbapplied := (applyFillState_isOk _ _ _).mp ⟨_, hbnew⟩
  have hsapplied := (applyFillState_isOk _ _ _).mp ⟨_, hsnew⟩
  rw [hbfilled, hbcancelled] at hbapplied
  rw [hsfilled, hscancelled] at hsapplied
  rcases Relayer.validateSignedOrderPayload_eq_ok.mp hborder with ⟨-, hbtrader, -⟩
  rcases Relayer.validateSignedOrderPayload_eq_ok.mp hsorder with ⟨-, hstrader, -⟩
  have hparties := (Relayer.validateSignedFillRules_eq_ok.mp hrules).1
  rw [hbtrader, hstrader] at hparties
  -- What it takes for the book to accept: parties, a fresh id, funds, room, open orders,
  -- limits.
  refine ⟨fun asset => ?_, ?_, fun asset => ?_, fun asset => ?_, ?_, ?_⟩
  · cases asset with
    | base => exact hparties.symm
    | quote => exact hparties
  · change (world.accounts.get? (rt.address (.settlementReceipt ctx.marketConfig
      args.settlementId))).isSome = false
    rw [hnew]
    rfl
  · cases asset with
    | base =>
        change _ ≤ world.available rt .base ctx.marketConfig ctx.seller
        rw [available_of_get? hsget]
        exact hamounts.2.1
    | quote =>
        change _ ≤ world.available rt .quote ctx.marketConfig ctx.buyer
        rw [available_of_get? hbget]
        exact hamounts.1.1
  · cases asset with
    | base =>
        change world.available rt .base ctx.marketConfig ctx.buyer + _ < _
        rw [available_of_get? hbget]
        exact hamounts.1.2
    | quote =>
        change world.available rt .quote ctx.marketConfig ctx.seller + _ < _
        rw [available_of_get? hsget]
        exact hamounts.2.2
  · intro order limit hmem
    simp only [SignedFillArgs.trade, List.mem_cons, Prod.mk.injEq, List.not_mem_nil,
      or_false] at hmem
    rcases hmem with ⟨rfl, -⟩ | ⟨rfl, -⟩
    · exact hbapplied.1
    · exact hsapplied.1
  · intro order limit hmem
    simp only [SignedFillArgs.trade, List.mem_cons, Prod.mk.injEq, List.not_mem_nil,
      or_false] at hmem
    rcases hmem with ⟨rfl, rfl⟩ | ⟨rfl, rfl⟩
    · exact hbapplied.2
    · exact hsapplied.2

/-- A settlement that is in order succeeds if the book takes it as a trade. The
    handler is followed check by check, and each is met by one of the two. -/
theorem settleSignedFillHandler_of_ready (hsep : rt.Separates seeds) (hfinds : rt.Finds seeds)
    (hdefault : rt.AvoidsDefault seeds) (hkept : Kept rt seeds world)
    (hderived : ctx.Derived rt baseMint quoteMint args.settlementId args.buyerOrderHash
      args.sellerOrderHash)
    (hlisted : ∀ s ∈ settlementSeeds baseMint quoteMint ctx args, s ∈ seeds)
    (hready : SettlementReady rt env world ctx args)
    (haccepts : (world.book rt ctx.marketConfig).Accepts (2 ^ 64)
      (args.trade ctx.buyer ctx.seller)) :
    ∃ world', settleSignedFillHandler rt env world ctx args.settlementId args.buyerOrderHash
      args.sellerOrderHash args = .ok world' := by
  simp only [settlementSeeds, List.forall_mem_cons, List.not_mem_nil, false_implies,
    implies_true, and_true] at hlisted
  rcases hlisted with ⟨hmarketSeeds, hbuyerSeeds, hsellerSeeds, -, hbhashSeeds, hshashSeeds⟩
  rcases hready.market with ⟨config, hmarket, hauthority⟩
  have hne := market_ne_default hdefault hkept.placed hmarket
  -- Whoever pays has something, and so a balance.
  have hquotePos : 0 < args.fillPrice.val * args.fillQuantity.val :=
    Nat.mul_pos hready.price hready.quantity
  have hbase : args.fillQuantity.val ≤ world.available rt .base ctx.marketConfig ctx.seller :=
    haccepts.funded .base
  have hquote : args.fillPrice.val * args.fillQuantity.val
      ≤ world.available rt .quote ctx.marketConfig ctx.buyer := haccepts.funded .quote
  have hbaseRoom : world.available rt .base ctx.marketConfig ctx.buyer + args.fillQuantity.val
      < 2 ^ 64 := haccepts.room .base
  have hquoteRoom : world.available rt .quote ctx.marketConfig ctx.seller
      + args.fillPrice.val * args.fillQuantity.val < 2 ^ 64 := haccepts.room .quote
  rcases exists_balance hsep hkept.placed hbuyerSeeds (lt_of_lt_of_le hquotePos hquote) with
    ⟨buyer, hbget, hbowner⟩
  rcases exists_balance hsep hkept.placed hsellerSeeds
    (lt_of_lt_of_le hready.quantity hbase) with ⟨seller, hsget, hsowner⟩
  rw [available_of_get? hsget] at hbase hquoteRoom
  rw [available_of_get? hbget] at hquote hbaseRoom
  have hnew : world.accounts.get? ctx.settlementReceipt = none := by
    rw [hderived.settlementReceipt, ← Option.isNone_iff_eq_none, ← Option.not_isSome,
      Bool.not_eq_true']
    exact haccepts.fresh
  have hmints : config.baseMint = baseMint ∧ config.quoteMint = quoteMint := by
    refine mints_of_placed hsep hkept.placed hmarketSeeds ?_
    rw [← hderived.marketConfig]
    exact hmarket
  -- Different traders have different balances, so the mutable accounts do not coincide.
  have hdistinct : ctx.buyerBalance ≠ ctx.sellerBalance := by
    rw [hderived.buyerBalance, hderived.sellerBalance]
    refine address_ne hsep hbuyerSeeds hsellerSeeds (fun heq => haccepts.parties .quote ?_)
    rw [Seeds.traderBalance.injEq] at heq
    exact heq.2
  have hload : loadSettlementAccounts rt env world.accounts ctx.toSettleFill args.settlementId
      = .ok { market := config, buyerBalance := buyer, sellerBalance := seller } := by
    have hderived' := hderived
    rw [← hmints.1, ← hmints.2] at hderived'
    refine loadSettlementAccounts_of_derived hderived' ?_ hready.signers hmarket hauthority
      (hkept.initialized _ _ hmarket).2 (by rw [hderived.buyerBalance]; exact hbget) hbowner ?_
      (by rw [hderived.sellerBalance]; exact hsget) hsowner ?_ hdistinct hnew
    · intro s hs
      simp only [List.mem_cons, List.not_mem_nil, or_false, hmints.1, hmints.2] at hs
      rcases hs with rfl | rfl | rfl
      · exact hfinds _ hmarketSeeds
      · exact hfinds _ hbuyerSeeds
      · exact hfinds _ hsellerSeeds
    · rw [← hbowner]
      exact hkept.initialized _ _ hbget
    · rw [← hsowner]
      exact hkept.initialized _ _ hsget
  rcases initializeFillState_of_placed hsep hkept.placed hbhashSeeds hne
    (rt.bump (.orderFillState ctx.marketConfig args.buyerOrderHash)) with
    ⟨buyerOld, buyerOpened, hbold, hbopened, hbfilled, hbcancelled⟩
  rcases initializeFillState_of_placed hsep hkept.placed hshashSeeds hne
    (rt.bump (.orderFillState ctx.marketConfig args.sellerOrderHash)) with
    ⟨sellerOld, sellerOpened, hsold, hsopened, hsfilled, hscancelled⟩
  rw [← hderived.buyerOrderFillState] at hbold
  rw [← hderived.sellerOrderFillState] at hsold
  have hborder : (args.buyerOrderHash, args.buyerOrder.quantity.val)
      ∈ (args.trade ctx.buyer ctx.seller).orders := List.mem_cons_self
  have hsorder : (args.sellerOrderHash, args.sellerOrder.quantity.val)
      ∈ (args.trade ctx.buyer ctx.seller).orders := List.mem_cons_of_mem _ List.mem_cons_self
  rcases (applyFillState_isOk buyerOpened args.buyerOrder.quantity args.fillQuantity).mpr
    ⟨hbcancelled.trans (haccepts.opened _ _ hborder),
      by rw [hbfilled]; exact haccepts.limit _ _ hborder⟩ with ⟨buyerNew, hbnew⟩
  rcases (applyFillState_isOk sellerOpened args.sellerOrder.quantity args.fillQuantity).mpr
    ⟨hscancelled.trans (haccepts.opened _ _ hsorder),
      by rw [hsfilled]; exact haccepts.limit _ _ hsorder⟩ with ⟨sellerNew, hsnew⟩
  -- The product fits, because the buyer has as much.
  rcases Relayer.quoteAmountU64_isOk.mpr (lt_of_le_of_lt hquote buyer.availableQuote.isLt) with
    ⟨quoteAmount, hquoteAmount⟩
  rw [← quoteAmountU64_eq_ok hquoteAmount] at hquote hquoteRoom
  rcases applyBalanceSettlement_isOk.mpr ⟨⟨hquote, hbaseRoom⟩, hbase, hquoteRoom⟩ with
    ⟨balances, hbalances⟩
  simp only [settleSignedFillHandler, bind_eq_ok, require_eq_ok, requireCode_eq_ok]
  exact ⟨_, _, hload, buyerOld, hbold, sellerOld, hsold, (), hderived.instructionsSysvar, (),
    (hkept.initialized _ _ hmarket).1, (), hready.price, (), hready.quantity, (),
    ⟨trivial, trivial, trivial⟩, (), hready.buyerOrder, (), hready.sellerOrder, (), hready.rules,
    (), hready.buyerHash, (), hready.sellerHash, (), hready.signatures.1, (),
    hready.signatures.2, buyerOpened, hbopened, sellerOpened, hsopened, buyerNew, hbnew, sellerNew,
    hsnew, quoteAmount, hquoteAmount, balances, hbalances, rfl⟩

/-- An account that a settlement writes nothing over. -/
theorem settled_same {accounts accounts' : Accounts} {ctx : SettleFill}
    {receipt : SettlementReceipt} {fills : List (Pubkey × OrderFillState)} {market : MarketConfig}
    {buyer seller buyer' seller' : TraderMarketBalance}
    (h : Settled rt env accounts ctx receipt fills accounts' market buyer seller buyer' seller')
    {key : Pubkey} (hr : key ≠ ctx.settlementReceipt) (hb : key ≠ ctx.buyerBalance)
    (hs : key ≠ ctx.sellerBalance) (hfills : ∀ fill ∈ fills, key ≠ fill.1) :
    accounts'.get? key = accounts.get? key := by
  rw [h.after, writeSettlement, SortedMap.get?_insert_of_ne _ _ hr, get?_writeFills_of_ne hfills,
    SortedMap.get?_insert_of_ne _ _ hs, SortedMap.get?_insert_of_ne _ _ hb]

/-- Nothing changes at the address of seeds other than the settlement's own. -/
theorem settled_elsewhere (hsep : rt.Separates seeds)
    (hderived : ctx.Derived rt baseMint quoteMint args.settlementId args.buyerOrderHash
      args.sellerOrderHash)
    (hlisted : ∀ s ∈ settlementSeeds baseMint quoteMint ctx args, s ∈ seeds)
    {receipt : SettlementReceipt} {buyerNew sellerNew : OrderFillState} {market : MarketConfig}
    {buyer seller buyer' seller' : TraderMarketBalance}
    (h : Settled rt env world.accounts ctx.toSettleFill receipt
      [(ctx.buyerOrderFillState, buyerNew), (ctx.sellerOrderFillState, sellerNew)]
      world'.accounts market buyer seller buyer' seller') {s : Seeds} (hs : s ∈ seeds)
    (hother : s ∉ settlementSeeds baseMint quoteMint ctx args) :
    world'.accounts.get? (rt.address s) = world.accounts.get? (rt.address s) := by
  have hne : ∀ s' ∈ settlementSeeds baseMint quoteMint ctx args, rt.address s ≠ rt.address s' :=
    fun s' hs' => address_ne hsep hs (hlisted s' hs') (fun heq => hother (heq ▸ hs'))
  simp only [settlementSeeds, List.forall_mem_cons, List.not_mem_nil, false_implies,
    implies_true, and_true] at hne
  rcases hne with ⟨-, hbuyer, hseller, hreceipt, hbhash, hshash⟩
  rw [← hderived.settlementReceipt] at hreceipt
  rw [← hderived.buyerBalance] at hbuyer
  rw [← hderived.sellerBalance] at hseller
  rw [← hderived.buyerOrderFillState] at hbhash
  rw [← hderived.sellerOrderFillState] at hshash
  refine settled_same h hreceipt hbuyer hseller (fun fill hfill => ?_)
  simp only [List.mem_cons, List.not_mem_nil, or_false] at hfill
  rcases hfill with rfl | rfl
  · exact hbhash
  · exact hshash

/-- The orders that a settlement fills are its two. -/
theorem trade_names {buyer seller : Pubkey} {orderHash : Hash} :
    (args.trade buyer seller).Names orderHash ↔
      orderHash = args.buyerOrderHash ∨ orderHash = args.sellerOrderHash := by
  simp only [Clearing.Trade.Names, SignedFillArgs.trade, List.mem_cons, Prod.mk.injEq,
    List.not_mem_nil, or_false, exists_or, exists_and_left, exists_eq, and_true]

/-- The fill state of one of the two orders after a settlement, or of any other
    order. Should both be under one hash, the later write stands. -/
theorem settled_fillStates (hsep : rt.Separates seeds) (hdefault : rt.AvoidsDefault seeds)
    (hkept : Kept rt seeds world)
    (hlisted : ∀ s ∈ settlementSeeds baseMint quoteMint ctx args, s ∈ seeds)
    (hderived : ctx.Derived rt baseMint quoteMint args.settlementId args.buyerOrderHash
      args.sellerOrderHash)
    (h : settleSignedFillHandler rt env world ctx args.settlementId args.buyerOrderHash
      args.sellerOrderHash args = .ok world') {orderHash : Hash}
    (hs : .orderFillState ctx.marketConfig orderHash ∈ seeds) :
    ((args.trade ctx.buyer ctx.seller).Names orderHash →
      ∃ new, world'.fillState rt ctx.marketConfig orderHash = some new ∧
        new.cancelled = false ∧ new.filledQuantity.val
          = world.filledQuantity rt ctx.marketConfig orderHash + args.fillQuantity.val) ∧
    (¬ (args.trade ctx.buyer ctx.seller).Names orderHash →
      world'.fillState rt ctx.marketConfig orderHash
        = world.fillState rt ctx.marketConfig orderHash) := by
  rcases settleSignedFillHandler_eq_ok h with ⟨-, receipt, market, _, _, _, _, buyerOld,
    buyerOpened, buyerNew, sellerOld, sellerOpened, sellerNew, hsettled, hsigned⟩
  have hall := hlisted
  simp only [settlementSeeds, List.forall_mem_cons, List.not_mem_nil, false_implies,
    implies_true, and_true] at hlisted
  rcases hlisted with ⟨-, hbuyerSeeds, hsellerSeeds, hreceiptSeeds, hbhashSeeds, hshashSeeds⟩
  have hne := market_ne_default hdefault hkept.placed hsettled.marketAccount
  rw [trade_names]
  constructor
  · intro hnames
    -- The receipt is written last, at an address of its own.
    have hreceipt : rt.address (.orderFillState ctx.marketConfig orderHash)
        ≠ ctx.settlementReceipt := by
      rw [hderived.settlementReceipt]
      exact address_ne hsep hs hreceiptSeeds (by
        simp only [ne_eq, reduceCtorEq, not_false_eq_true])
    have hget := congrArg (fun accounts : Accounts =>
      accounts.get? (rt.address (.orderFillState ctx.marketConfig orderHash))) hsettled.after
    simp only [writeSettlement, SortedMap.get?_insert_of_ne _ _ hreceipt, writeFills,
      List.foldl_cons, List.foldl_nil, hderived.buyerOrderFillState,
      hderived.sellerOrderFillState] at hget
    by_cases hseller : orderHash = args.sellerOrderHash
    · rw [hseller, SortedMap.get?_insert_self, ← hseller] at hget
      have hopened := fillState_opened hsigned.seller.address hsigned.seller.before
        hsigned.seller.initialized hne hsep hkept.placed hshashSeeds
      refine ⟨sellerNew, fillState_eq_some.mpr hget, ?_, ?_⟩
      · rw [hsigned.seller.unchanged.2.2, hsigned.seller.notCancelled]
      · rw [hsigned.seller.filled, hseller, hopened.1]
    · have hbuyer := hnames.resolve_right hseller
      have hkeys : rt.address (.orderFillState ctx.marketConfig orderHash)
          ≠ rt.address (.orderFillState ctx.marketConfig args.sellerOrderHash) := by
        refine address_ne hsep hs hshashSeeds (fun heq => hseller ?_)
        rw [Seeds.orderFillState.injEq] at heq
        exact heq.2
      rw [SortedMap.get?_insert_of_ne _ _ hkeys, hbuyer, SortedMap.get?_insert_self,
        ← hbuyer] at hget
      have hopened := fillState_opened hsigned.buyer.address hsigned.buyer.before
        hsigned.buyer.initialized hne hsep hkept.placed hbhashSeeds
      refine ⟨buyerNew, fillState_eq_some.mpr hget, ?_, ?_⟩
      · rw [hsigned.buyer.unchanged.2.2, hsigned.buyer.notCancelled]
      · rw [hsigned.buyer.filled, hbuyer, hopened.1]
  -- Any other order's fill state is at an address that is not written.
  · intro hother
    rw [not_or] at hother
    refine fillState_congr (settled_elsewhere hsep hderived hall hsettled hs ?_)
    simp only [settlementSeeds, List.mem_cons, reduceCtorEq, Seeds.orderFillState.injEq, hother,
      and_false, List.not_mem_nil, or_self, not_false_eq_true]

/-- A trade moves what its receipt says. -/
theorem trade_moves {receipt : SettlementReceipt}
    (hparties : receipt.buyer = ctx.buyer ∧ receipt.seller = ctx.seller)
    (hbase : receipt.baseAmount = args.fillQuantity)
    (hquote : receipt.quoteAmount.val = args.fillPrice.val * args.fillQuantity.val)
    (asset : CustodyAsset) (trader : Pubkey) :
    (args.trade ctx.buyer ctx.seller).paid asset trader
        = (if receipt.payer asset = trader then (receipt.amount asset).val else 0) ∧
      (args.trade ctx.buyer ctx.seller).received asset trader
        = if receipt.receiver asset = trader then (receipt.amount asset).val else 0 := by
  have hpayer : receipt.payer asset = (args.trade ctx.buyer ctx.seller).payer asset := by
    cases asset
    · exact hparties.2
    · exact hparties.1
  have hreceiver : receipt.receiver asset = (args.trade ctx.buyer ctx.seller).receiver asset := by
    cases asset
    · exact hparties.1
    · exact hparties.2
  have hamount : (receipt.amount asset).val = (args.trade ctx.buyer ctx.seller).amount asset := by
    cases asset
    · exact congrArg Fin.val hbase
    · exact hquote
  rw [Clearing.Trade.paid, Clearing.Trade.received, hpayer, hreceiver, hamount]
  exact ⟨if_congr eq_comm rfl rfl, if_congr eq_comm rfl rfl⟩

/-- What everyone has available after a settlement. -/
theorem traded_available (hsep : rt.Separates seeds) (hkept : Kept rt seeds world)
    (hlisted : ∀ s ∈ settlementSeeds baseMint quoteMint ctx args, s ∈ seeds)
    (haccepts : (world.book rt ctx.marketConfig).Accepts (2 ^ 64)
      (args.trade ctx.buyer ctx.seller))
    (h : settleSignedFillHandler rt env world ctx args.settlementId args.buyerOrderHash
      args.sellerOrderHash args = .ok world') {trader : Pubkey}
    (ht : .traderBalance ctx.marketConfig trader ∈ seeds) (asset : CustodyAsset) :
    world'.available rt asset ctx.marketConfig trader
      = ((world.book rt ctx.marketConfig).settle
        (args.trade ctx.buyer ctx.seller)).available asset trader := by
  rcases settleSignedFillHandler_eq_ok h with ⟨-, receipt, _, _, _, _, _, _, _, _, _, _, _,
    hsettled, hsigned⟩
  have hp : process rt env world (.settleSignedFill ctx args.settlementId args.buyerOrderHash
    args.sellerOrderHash args) = .ok world' := h
  have hplaced' := process_placed hp hsep (fun s hs => hlisted s (List.mem_cons_of_mem _
    (List.mem_cons_of_mem _ (List.mem_cons_of_mem _ hs)))) hkept.placed
  have hbalance := settled_available hsettled hsep hkept.placed hplaced' ht asset
  have hmoves := trade_moves hsettled.parties.2 hsigned.baseAmount hsigned.quoteAmount asset trader
  have hmoved := Clearing.settle_available haccepts asset trader
  change _ + _ = world.available rt asset ctx.marketConfig trader + _ at hmoved
  rw [hmoves.1, hmoves.2] at hmoved
  simp only [true_and] at hbalance
  omega

/-- Which settlement ids are used after a settlement. -/
theorem settled_ids (hsep : rt.Separates seeds)
    (hderived : ctx.Derived rt baseMint quoteMint args.settlementId args.buyerOrderHash
      args.sellerOrderHash)
    (hlisted : ∀ s ∈ settlementSeeds baseMint quoteMint ctx args, s ∈ seeds)
    (h : settleSignedFillHandler rt env world ctx args.settlementId args.buyerOrderHash
      args.sellerOrderHash args = .ok world') {settlementId : Word 64}
    (hi : .settlementReceipt ctx.marketConfig settlementId ∈ seeds) :
    (world'.book rt ctx.marketConfig).settled settlementId
      = ((world.book rt ctx.marketConfig).settle
        (args.trade ctx.buyer ctx.seller)).settled settlementId := by
  rcases settleSignedFillHandler_eq_ok h with ⟨-, receipt, _, _, _, _, _, _, _, _, _, _, _,
    hsettled, -⟩
  change (world'.accounts.get? (rt.address (.settlementReceipt ctx.marketConfig
    settlementId))).isSome = _
  by_cases hid : settlementId = args.settlementId
  · have hself := Clearing.settle_settled_self (world.book rt ctx.marketConfig)
      (args.trade ctx.buyer ctx.seller)
    rw [hid, ← hderived.settlementReceipt, hsettled.after, writeSettlement,
      SortedMap.get?_insert_self]
    exact hself.symm
  · have hne : settlementId ≠ (args.trade ctx.buyer ctx.seller).id := hid
    rw [Clearing.settle_settled_of_ne _ hne]
    refine congrArg Option.isSome (settled_elsewhere hsep hderived hlisted hsettled hi ?_)
    simp only [settlementSeeds, List.mem_cons, reduceCtorEq, Seeds.settlementReceipt.injEq, hid,
      and_false, List.not_mem_nil, or_self, not_false_eq_true]

/-- A settlement that succeeds leaves the book after its trade. Together with
    the two results above, the program is the book as far as settlements go. -/
theorem settleSignedFillHandler_shows (hsep : rt.Separates seeds)
    (hdefault : rt.AvoidsDefault seeds) (hkept : Kept rt seeds world)
    (hderived : ctx.Derived rt baseMint quoteMint args.settlementId args.buyerOrderHash
      args.sellerOrderHash)
    (hlisted : ∀ s ∈ settlementSeeds baseMint quoteMint ctx args, s ∈ seeds)
    (h : settleSignedFillHandler rt env world ctx args.settlementId args.buyerOrderHash
      args.sellerOrderHash args = .ok world') :
    Shows rt seeds ctx.marketConfig world'
      ((world.book rt ctx.marketConfig).settle (args.trade ctx.buyer ctx.seller)) := by
  have haccepts := (settleSignedFillHandler_ready hsep hdefault hkept hderived hlisted h).2
  have hstates := fun {o} (ho : Seeds.orderFillState ctx.marketConfig o ∈ seeds) =>
    settled_fillStates hsep hdefault hkept hlisted hderived h ho
  refine ⟨fun asset trader ht => traded_available hsep hkept hlisted haccepts h ht asset,
    fun orderHash ho => ?_, fun orderHash ho => ?_,
    fun settlementId hi => settled_ids hsep hderived hlisted h hi⟩
  · have hstate := hstates ho
    change (world'.fillState rt ctx.marketConfig orderHash).elim 0 _
      = world.filledQuantity rt ctx.marketConfig orderHash + Clearing.Trade.fills _ orderHash
    by_cases hnames : (args.trade ctx.buyer ctx.seller).Names orderHash
    · rcases hstate.1 hnames with ⟨new, hnew, -, hfilled⟩
      rw [Clearing.Trade.fills_of_names hnames, hnew]
      exact hfilled
    · rw [Clearing.Trade.fills_of_not_names hnames, hstate.2 hnames]
      rfl
  -- Being open before is what keeps both orders uncancelled here.
  · have hstate := hstates ho
    change (world'.fillState rt ctx.marketConfig orderHash).elim false _
      = (world.book rt ctx.marketConfig).cancelled orderHash
    by_cases hnames : (args.trade ctx.buyer ctx.seller).Names orderHash
    · rcases hstate.1 hnames with ⟨new, hnew, hopen, -⟩
      rcases hnames with ⟨limit, hmem⟩
      rw [hnew, haccepts.opened orderHash limit hmem]
      exact hopen
    · rw [hstate.2 hnames]
      rfl

end Settlement

/-! ### Cancellations -/

/-- A cancellation is in order by itself: the trader and the payer have signed,
    the market is there, and the order is the trader's own with its hash.
    Nothing is asked of the book, which takes any cancellation. -/
structure CancellationReady (rt : Runtime) (env : Env) (world : World) (ctx : CancelSignedOrder)
    (orderHash : Hash) (order : SignedOrderPayload) : Prop where
  signers : ctx.trader ∈ env.signers ∧ ctx.payer ∈ env.signers
  market : ∃ config, world.accounts.get? ctx.marketConfig = some (.marketConfig config)
  payload : validateCancelOrderPayload order ctx.marketConfig ctx.trader = .ok ()
  hash : rt.sha256 order.signingPreimage = orderHash

/-- The accounts of a cancellation are the ones that its constraints derive
    from their seeds, in the market of two mints. -/
structure CancelSignedOrder.Derived (rt : Runtime) (baseMint quoteMint : Pubkey)
    (ctx : CancelSignedOrder) (orderHash : Hash) : Prop where
  marketConfig : ctx.marketConfig = rt.address (.marketConfig baseMint quoteMint)
  orderFillState : ctx.orderFillState = rt.address (.orderFillState ctx.marketConfig orderHash)

/-- The seeds of the accounts of a cancellation in the market of two mints. -/
def cancellationSeeds (baseMint quoteMint : Pubkey) (ctx : CancelSignedOrder)
    (orderHash : Hash) : List Seeds :=
  [.marketConfig baseMint quoteMint, .orderFillState ctx.marketConfig orderHash]

section Cancellation

variable {rt : Runtime} {env : Env} {seeds : List Seeds} {world world' : World}
  {baseMint quoteMint : Pubkey} {ctx : CancelSignedOrder} {orderHash : Hash}
  {order : SignedOrderPayload}

/-- The market at its address loads. -/
theorem loadMarketConfig_of_kept (hsep : rt.Separates seeds) (hfinds : rt.Finds seeds)
    (hkept : Kept rt seeds world) (hs : .marketConfig baseMint quoteMint ∈ seeds)
    {config : MarketConfig}
    (hget : world.accounts.get? (rt.address (.marketConfig baseMint quoteMint))
      = some (.marketConfig config)) :
    loadMarketConfig rt world.accounts (rt.address (.marketConfig baseMint quoteMint))
      = .ok config := by
  have hmints := mints_of_placed hsep hkept.placed hs hget
  have hbump := (hkept.initialized _ _ hget).2
  rw [hmints.1, hmints.2] at hbump
  simp only [loadMarketConfig, bind_eq_ok, load_eq_ok, checkSeeds, require_eq_ok]
  refine ⟨config, ⟨_, hget, rfl⟩, (), ?_, rfl⟩
  rw [hmints.1, hmints.2, hbump]
  exact hfinds _ hs

/-- A cancellation succeeds exactly when it is in order. -/
theorem cancelSignedOrderHandler_iff (hsep : rt.Separates seeds) (hfinds : rt.Finds seeds)
    (hdefault : rt.AvoidsDefault seeds) (hkept : Kept rt seeds world)
    (hderived : ctx.Derived rt baseMint quoteMint orderHash)
    (hlisted : ∀ s ∈ cancellationSeeds baseMint quoteMint ctx orderHash, s ∈ seeds) :
    (∃ world', cancelSignedOrderHandler rt env world ctx orderHash order = .ok world')
      ↔ CancellationReady rt env world ctx orderHash order := by
  have hmarketSeeds := hlisted _ List.mem_cons_self
  have hfillSeeds := hlisted _ (List.mem_cons_of_mem _ List.mem_cons_self)
  simp only [cancelSignedOrderHandler, bind_eq_ok, checkSigner_eq_ok, requireCode_eq_ok]
  constructor
  · intro h
    rcases h with ⟨world', _, hsigner, config, hmarket, _, -, _, hpayer, _, -, ⟨⟩, horder, _, hhash,
      -⟩
    exact ⟨⟨hsigner, hpayer⟩, ⟨config, loadMarketConfig_eq_ok hmarket⟩, horder, hhash⟩
  -- What the handler loads was placed by the program, so the address it is looked for at
  -- is its own.
  · intro h
    rcases h.market with ⟨config, hmarket⟩
    have hne := market_ne_default hdefault hkept.placed hmarket
    rcases initializeFillState_of_placed hsep hkept.placed hfillSeeds hne
      (rt.bump (.orderFillState ctx.marketConfig orderHash)) with
      ⟨old, opened, hold, hopened, -, -⟩
    rw [← hderived.orderFillState] at hold
    have hload : loadMarketConfig rt world.accounts ctx.marketConfig = .ok config := by
      rw [hderived.marketConfig] at hmarket ⊢
      exact loadMarketConfig_of_kept hsep hfinds hkept hmarketSeeds hmarket
    exact ⟨_, (), h.signers.1, config, hload, old, hold, (), h.signers.2, (),
      (hkept.initialized _ _ hmarket).1, (), h.payload, (), h.hash, opened, hopened, rfl⟩

/-- A cancellation that succeeds leaves the book with the order cancelled. -/
theorem cancelSignedOrderHandler_shows (hsep : rt.Separates seeds)
    (hdefault : rt.AvoidsDefault seeds) (hkept : Kept rt seeds world)
    (hderived : ctx.Derived rt baseMint quoteMint orderHash)
    (hlisted : ∀ s ∈ cancellationSeeds baseMint quoteMint ctx orderHash, s ∈ seeds)
    (h : cancelSignedOrderHandler rt env world ctx orderHash order = .ok world') :
    Shows rt seeds ctx.marketConfig world'
      ((world.book rt ctx.marketConfig).cancel orderHash) := by
  rcases cancelSignedOrderHandler_eq_ok h with ⟨-, old, opened, hc⟩
  have hfillSeeds := hlisted _ (List.mem_cons_of_mem _ List.mem_cons_self)
  rcases hc.marketAccount with ⟨config, hmarket⟩
  have hne := market_ne_default hdefault hkept.placed hmarket
  have hopened := fillState_opened hc.address hc.before hc.initialized hne hsep hkept.placed
    hfillSeeds
  -- One account is written, at the address of the fill state.
  have hsame : ∀ s ∈ seeds, s ≠ .orderFillState ctx.marketConfig orderHash →
      world'.accounts.get? (rt.address s) = world.accounts.get? (rt.address s) := by
    intro s hs hother
    rw [hc.after, SortedMap.get?_insert_of_ne]
    rw [hderived.orderFillState]
    exact address_ne hsep hs hfillSeeds hother
  -- The fill state is opened if it was not there, and keeps what was filled.
  have hstate : world'.fillState rt ctx.marketConfig orderHash
      = some { opened with cancelled := true } := by
    rw [fillState_eq_some, ← hderived.orderFillState, hc.after, SortedMap.get?_insert_self]
  refine ⟨fun asset trader ht => ?_, fun o ho => ?_, fun o ho => ?_, fun id hi => ?_⟩
  · exact available_congr (hsame _ ht (by simp only [ne_eq, reduceCtorEq, not_false_eq_true])) asset
  · change (world'.fillState rt ctx.marketConfig o).elim 0 _
      = world.filledQuantity rt ctx.marketConfig o
    by_cases heq : o = orderHash
    · rw [heq, hstate, hopened.1]
      rfl
    · rw [fillState_congr (hsame _ ho (by
        simp only [ne_eq, Seeds.orderFillState.injEq, heq, and_false, not_false_eq_true]))]
      rfl
  · change (world'.fillState rt ctx.marketConfig o).elim false _ = _
    by_cases heq : o = orderHash
    · rw [heq, hstate, Clearing.cancel_cancelled_self]
      rfl
    · rw [fillState_congr (hsame _ ho (by
        simp only [ne_eq, Seeds.orderFillState.injEq, heq, and_false, not_false_eq_true])),
        Clearing.cancel_cancelled_of_ne _ heq]
      rfl
  · exact congrArg Option.isSome (hsame _ hi (by
      simp only [ne_eq, reduceCtorEq, not_false_eq_true]))

end Cancellation

end Settlement

end SolanaLab
