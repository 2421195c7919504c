import SolanaLab.Library.Run
import SolanaLab.Settlement.Settle

/-!
# The Settlement Program

The program takes one instruction at a time. An instruction that fails leaves
the world as it was, and so does one whose transaction the runtime refuses.
Between instructions the token ledger can change in any way: other programs
and the holders of tokens use it too.

A run is a sequence of such inputs from a world without accounts. Its log
pairs every input with its outcome, which is what the results about runs
compare the accounts to.

An instruction writes accounts of a few kinds and leaves all others alone
(`process_frame`). `process_placed` is the invariant that the results about
runs rest on. Every account sits at the address of the seeds its contents
belong to, so the contents decide the address and the address decides the
contents.

Nothing is assumed of who calls the program or in which order. In particular
any instruction may come with any accounts, and it is the handlers that turn
away what does not fit.

## Main definitions

* `Instruction`: The instructions of the program with their arguments.
* `process`: One instruction.
* `Input`: An instruction in its transaction, or a change of the token ledger.
* `step`: One input, with its outcome.
* `seedsOf`: The seeds the instructions of a run derive addresses from.
* `Instruction.writes`: The accounts an instruction may write.

## Theorems

* `step_cases`: What one input can do.
* `process_frame`: An instruction leaves alone what it may not write.
* `deposited_owner`: A deposit is recorded for the trader who made it.
* `process_placed`: An instruction keeps every account at its address.
-/

namespace SolanaLab

namespace Settlement

/-- The instructions of the program with their accounts and arguments. The
    accounts are keys only: what is at them is looked up in the world. -/
inductive Instruction where
  | initializeProtocol (ctx : InitializeProtocol)
  | initializeMarket (ctx : InitializeMarket)
  | deposit (ctx : Deposit) (asset : CustodyAsset) (amount : Checked.Word 64)
  | withdraw (ctx : Withdraw) (asset : CustodyAsset) (amount : Checked.Word 64)
  | settleFill (ctx : SettleFill) (settlementId baseAmount quoteAmount : Checked.Word 64)
  | settleSignedFill (ctx : SettleSignedFill) (settlementId : Checked.Word 64)
      (buyerOrderHash sellerOrderHash : Hash) (args : SignedFillArgs)
  | cancelSignedOrder (ctx : CancelSignedOrder) (orderHash : Hash) (order : SignedOrderPayload)
deriving DecidableEq

/-- The instructions of `spot_settlement`, dispatched as the framework does it. -/
def process (rt : Runtime) (env : Env) (world : World) :
    Instruction → Except ProgramError World
  | .initializeProtocol ctx => initializeProtocolHandler rt env world ctx
  | .initializeMarket ctx => initializeMarketHandler rt env world ctx
  | .deposit ctx asset amount => depositHandler rt env world ctx asset amount
  | .withdraw ctx asset amount => withdrawHandler rt env world ctx asset amount
  | .settleFill ctx settlementId baseAmount quoteAmount =>
    settleFillHandler rt env world ctx settlementId baseAmount quoteAmount
  | .settleSignedFill ctx settlementId buyerOrderHash sellerOrderHash args =>
    settleSignedFillHandler rt env world ctx settlementId buyerOrderHash sellerOrderHash args
  | .cancelSignedOrder ctx orderHash order =>
    cancelSignedOrderHandler rt env world ctx orderHash order

/-- What can happen to the world: an instruction of the program, or a change of
    the token ledger by others. The second is unrestricted, so that the results
    hold however the tokens outside the vaults move. -/
inductive Input where
  | invoke (env : Env) (instruction : Instruction)
  | tokens (ledger : TokenLedger)
deriving DecidableEq

/-- One input. A failed instruction changes nothing. -/
def step (rt : Runtime) (world : World) : Input → Except ProgramError Unit × World
  | .invoke env instruction =>
    -- Signatures listed for the precompile are verified before any program runs.
    if env.refused = true ∨ env.precompilesVerified rt = false then (.error .runtime, world)
    else
      match process rt env world instruction with
      | .ok world' => (.ok (), world')
      | .error e => (.error e, world)
  | .tokens ledger => (.ok (), { world with tokens := ledger })

/-- The inputs of a run with their outcomes. Results compare the accounts with
    it, since the accounts alone do not tell how they came about. -/
abbrev Log := List (Input × Except ProgramError Unit)

/-- The seeds an instruction derives addresses from, those of its own accounts
    that it may create and those whose address it stores. -/
def Instruction.seeds : Instruction → List Seeds
  | .initializeProtocol _ => [.protocolConfig]
  | .initializeMarket ctx =>
    [.marketConfig ctx.baseMint ctx.quoteMint, .vaultAuthority ctx.marketConfig]
  | .deposit ctx _ _ => [.traderBalance ctx.marketConfig ctx.trader]
  | .withdraw _ _ _ => []
  | .settleFill ctx settlementId _ _ => [.settlementReceipt ctx.marketConfig settlementId]
  | .settleSignedFill ctx settlementId buyerOrderHash sellerOrderHash _ =>
    [.settlementReceipt ctx.marketConfig settlementId,
      .orderFillState ctx.marketConfig buyerOrderHash,
      .orderFillState ctx.marketConfig sellerOrderHash]
  | .cancelSignedOrder ctx orderHash _ => [.orderFillState ctx.marketConfig orderHash]

/-- The seeds an input derives addresses from: those of its instruction, if it
    is one. -/
def Input.seeds : Input → List Seeds
  | .invoke _ instruction => instruction.seeds
  | .tokens _ => []

/-- The seeds the instructions of a run derive addresses from. Assumptions about
    the derivation of addresses are made for these only. -/
def seedsOf (inputs : List Input) : List Seeds := inputs.flatMap Input.seeds

/-- What one input can do: fail and change nothing, change the token ledger
    only, or be an instruction that succeeds. -/
theorem step_cases (rt : Runtime) (world : World) (input : Input) :
    (∃ e, step rt world input = (.error e, world)) ∨
    (∃ ledger, input = .tokens ledger ∧
      step rt world input = (.ok (), { world with tokens := ledger })) ∨
    ∃ env instruction world', input = .invoke env instruction ∧
      env.precompilesVerified rt = true ∧ process rt env world instruction = .ok world' ∧
      step rt world input = (.ok (), world') := by
  cases input with
  | tokens ledger => exact Or.inr (Or.inl ⟨ledger, rfl, rfl⟩)
  | invoke env instruction =>
      by_cases hrefused : env.refused = true ∨ env.precompilesVerified rt = false
      · exact Or.inl ⟨.runtime, by rw [step, if_pos hrefused]⟩
      · -- The handler runs, and its failure undoes everything it wrote.
        have hverified : env.precompilesVerified rt = true := by
          rw [not_or, Bool.not_eq_false] at hrefused
          exact hrefused.2
        rcases hp : process rt env world instruction with e | world'
        · left
          exact ⟨e, by rw [step, if_neg hrefused, hp]⟩
        · right
          right
          exact ⟨env, instruction, world', rfl, hverified, hp,
            by rw [step, if_neg hrefused, hp]⟩

/-! ### What stands where an instruction writes -/

section Before

variable {accounts : Accounts} {key : Pubkey} {target : Account}

/-- Where nothing stands, no given account does. -/
theorem ne_some_of_none (h : accounts.get? key = none) : accounts.get? key ≠ some target := by
  rw [h]
  simp only [ne_eq, reduceCtorEq, not_false_eq_true]

/-- Where a balance or nothing stands, nothing else does. -/
theorem ne_some_of_balance {old : TraderMarketBalance}
    (h : (accounts.get? key = none ∧ old = .zeroed) ∨
      accounts.get? key = some (.traderMarketBalance old))
    (htarget : ∀ b, target ≠ .traderMarketBalance b) : accounts.get? key ≠ some target := by
  rcases h with ⟨hnone, -⟩ | hsome
  · exact ne_some_of_none hnone
  · intro hget
    rw [hsome, Option.some.injEq] at hget
    exact htarget old hget.symm

/-- Where a fill state or nothing stands, nothing else does. -/
theorem ne_some_of_fillState {old : OrderFillState}
    (h : (accounts.get? key = none ∧ old = .zeroed) ∨
      accounts.get? key = some (.orderFillState old))
    (htarget : ∀ s, target ≠ .orderFillState s) : accounts.get? key ≠ some target := by
  intro hget
  rcases fillState_of_before h hget with ⟨s, hs⟩
  exact htarget s hs

end Before

/-! ### What an instruction leaves alone -/

/-- The accounts an instruction may write, told by their kind. -/
def Instruction.writes : Instruction → Account → Bool
  | .initializeProtocol _, .protocolConfig _ => true
  | .initializeMarket _, .marketConfig _ => true
  | .deposit _ _ _, .traderMarketBalance _ => true
  | .withdraw _ _ _, .traderMarketBalance _ => true
  | .settleFill _ _ _ _, .traderMarketBalance _ => true
  | .settleFill _ _ _ _, .settlementReceipt _ => true
  | .settleSignedFill _ _ _ _ _, .traderMarketBalance _ => true
  | .settleSignedFill _ _ _ _ _, .settlementReceipt _ => true
  | .settleSignedFill _ _ _ _ _, .orderFillState _ => true
  | .cancelSignedOrder _ _ _, .orderFillState _ => true
  | _, _ => false

section Frame

variable {rt : Runtime} {env : Env} {world world' : World} {instruction : Instruction}

/-- An account an instruction may write is not one that it may not. -/
theorem ne_of_writes {account target : Account} (haccount : instruction.writes account = true)
    (htarget : instruction.writes target = false) : account ≠ target := by
  intro heq
  rw [heq, htarget] at haccount
  exact Bool.noConfusion haccount

/-- An instruction leaves every account alone that it may not write. -/
theorem process_frame (h : process rt env world instruction = .ok world') {target : Account}
    (hwrites : instruction.writes target = false) (key : Pubkey) :
    world'.accounts.get? key = some target ↔ world.accounts.get? key = some target := by
  -- Every account a handler touches is of a kind the instruction may write, before and after.
  cases instruction with
  | initializeProtocol ctx =>
      rcases initializeProtocolHandler_eq_ok h with ⟨-, -, hnew, config, hafter⟩
      rw [hafter]
      exact get?_insert_other (ne_of_writes rfl hwrites) (ne_some_of_none hnew) key
  | initializeMarket ctx =>
      rcases initializeMarketHandler_eq_ok h with ⟨-, config, hmarket⟩
      rw [hmarket.after]
      exact get?_insert_other (ne_of_writes rfl hwrites) (ne_some_of_none hmarket.fresh) key
  | deposit ctx asset amount =>
      rcases depositHandler_eq_ok h with ⟨config, old, new, hd⟩
      have hother : ∀ b, target ≠ .traderMarketBalance b :=
        fun _ => (ne_of_writes rfl hwrites).symm
      rw [hd.after]
      exact get?_insert_other (hother new).symm (ne_some_of_balance hd.before hother) key
  | withdraw ctx asset amount =>
      rcases withdrawHandler_eq_ok h with ⟨config, old, new, _, hw, -, hafter⟩
      have hother : ∀ b, target ≠ .traderMarketBalance b :=
        fun _ => (ne_of_writes rfl hwrites).symm
      rw [hafter]
      exact get?_insert_other (hother new).symm (ne_some_of_balance (Or.inr hw.before) hother) key
  -- A settlement writes several accounts, but each is of a kind it may write.
  | settleFill ctx settlementId baseAmount quoteAmount =>
      rcases settleFillHandler_eq_ok h with ⟨-, receipt, _, _, _, _, _, hs, -⟩
      exact settled_get?_other hs (ne_of_writes rfl hwrites).symm
        (fun _ => (ne_of_writes rfl hwrites).symm)
        (fun fill hfill => absurd hfill List.not_mem_nil) key
  | settleSignedFill ctx settlementId buyerOrderHash sellerOrderHash args =>
      rcases settleSignedFillHandler_eq_ok h with
        ⟨-, receipt, _, _, _, _, _, _, _, _, _, _, _, hs, -⟩
      exact settled_get?_other hs (ne_of_writes rfl hwrites).symm
        (fun _ => (ne_of_writes rfl hwrites).symm)
        (fun _ _ _ => (ne_of_writes rfl hwrites).symm) key
  | cancelSignedOrder ctx orderHash order =>
      rcases cancelSignedOrderHandler_eq_ok h with ⟨-, old, opened, hc⟩
      have hother : ∀ s, target ≠ .orderFillState s := fun _ => (ne_of_writes rfl hwrites).symm
      rw [hc.after]
      exact get?_insert_other (hother _).symm (ne_some_of_fillState hc.before hother) key

/-- A total of what an instruction may not write is left alone. With the frame
    above it spares every result the instructions that do not concern it. -/
theorem process_total (h : process rt env world instruction = .ok world') {f : Account → Nat}
    (hf : ∀ account, instruction.writes account = true → f account = 0) :
    total f world'.accounts = total f world.accounts := by
  refine total_eq_of_get? (fun account hne key => process_frame h ?_ key)
  rw [Bool.eq_false_iff]
  exact fun hwrites => hne (hf account hwrites)

/-- A total of receipts is left alone by what writes none. -/
theorem process_total_receipts (h : process rt env world instruction = .ok world')
    (hwrites : ∀ r, instruction.writes (.settlementReceipt r) = false) {f : Account → Nat}
    (hf : ∀ account, (∀ r, account ≠ .settlementReceipt r) → f account = 0) :
    total f world'.accounts = total f world.accounts := by
  refine process_total h (fun account hwrite => hf account (fun r heq => ?_))
  rw [heq, hwrites r] at hwrite
  exact Bool.noConfusion hwrite

end Frame

/-! ### Every account at its address -/

section Placement

variable {rt : Runtime} {env : Env} {seeds : List Seeds} {world world' : World}

/-- The balance a deposit finds is new or the trader's own. -/
theorem deposited_before {ctx : Deposit} {asset : CustodyAsset} {amount : Checked.Word 64}
    {market : MarketConfig} {old new : TraderMarketBalance}
    (h : Deposited rt env world ctx asset amount world' market old new)
    (hsep : rt.Separates seeds) (hplaced : Placed rt seeds world.accounts)
    (hs : .traderBalance ctx.marketConfig ctx.trader ∈ seeds) :
    old = .zeroed ∨ (old.marketConfig = ctx.marketConfig ∧ old.trader = ctx.trader) := by
  rcases h.before with ⟨-, hzero⟩ | hget
  · exact Or.inl hzero
  · -- The balance existed, so its contents are those of its address.
    rw [h.address] at hget
    have hseeds := get?_of_placed hsep hplaced hs hget
    rw [Account.seeds, Seeds.traderBalance.injEq] at hseeds
    exact Or.inr hseeds

/-- A deposit is recorded in the balance of the trader who made it. -/
theorem deposited_owner {ctx : Deposit} {asset : CustodyAsset} {amount : Checked.Word 64}
    {market : MarketConfig} {old new : TraderMarketBalance}
    (h : Deposited rt env world ctx asset amount world' market old new)
    (hsep : rt.Separates seeds) (hplaced : Placed rt seeds world.accounts)
    (hs : .traderBalance ctx.marketConfig ctx.trader ∈ seeds) :
    new.marketConfig = ctx.marketConfig ∧ new.trader = ctx.trader := by
  rcases h.opened with ⟨-, hm, ht⟩ | ⟨hm, ht, hne⟩
  · exact ⟨hm, ht⟩
  · rcases deposited_before h hsep hplaced hs with hzero | howner
    · exact absurd (by rw [hzero]; rfl) hne
    · rw [hm, ht]
      exact howner

/-- The balances a settlement writes have the contents they had. -/
theorem settled_placed {ctx : SettleFill} {receipt : SettlementReceipt}
    {fills : List (Pubkey × OrderFillState)} {market : MarketConfig}
    {buyer seller buyer' seller' : TraderMarketBalance}
    (h : Settled rt env world.accounts ctx receipt fills world'.accounts market buyer seller buyer'
      seller') (hplaced : Placed rt seeds world.accounts)
    (hreceipt : .settlementReceipt ctx.marketConfig receipt.settlementId ∈ seeds)
    (hfills : ∀ fill ∈ fills, fill.1 = rt.address (Account.orderFillState fill.2).seeds ∧
      (Account.orderFillState fill.2).seeds ∈ seeds) : Placed rt seeds world'.accounts := by
  intro key account hget
  rcases settled_get? h hget with ⟨rfl, rfl⟩ | ⟨-, ⟨fill, hfill, rfl, rfl⟩ | ⟨rfl, rfl⟩ |
    ⟨rfl, rfl⟩ | hold⟩
  · rw [Account.seeds, h.parties.1]
    exact ⟨h.receiptAddress, hreceipt⟩
  · exact hfills fill hfill
  · rw [Account.seeds, h.buyerUnchanged.1, h.buyerUnchanged.2]
    exact hplaced _ _ h.buyerBefore
  · rw [Account.seeds, h.sellerUnchanged.1, h.sellerUnchanged.2]
    exact hplaced _ _ h.sellerBefore
  · exact hplaced key account hold

/-- The fill state a settlement writes goes to the address of its contents. -/
theorem orderFilled_placed {key market trader : Pubkey} {orderHash : Hash}
    {order : SignedOrderPayload} {fillPrice fillQuantity : Checked.Word 64}
    {old opened new : OrderFillState}
    (h : OrderFilled rt env world.accounts key market trader orderHash order fillPrice fillQuantity
      old opened new) (hs : .orderFillState market orderHash ∈ seeds) :
    key = rt.address (Account.orderFillState new).seeds ∧
      (Account.orderFillState new).seeds ∈ seeds := by
  have howner := h.initialized.owner
  rw [Account.seeds, h.unchanged.1, h.unchanged.2.1, howner.1, howner.2]
  exact ⟨h.address, hs⟩

/-- An instruction keeps every account at the address of its contents. New
    accounts are created there, and of old ones the fields in the address are
    not changed. -/
theorem process_placed {instruction : Instruction}
    (h : process rt env world instruction = .ok world') (hsep : rt.Separates seeds)
    (hs : ∀ s ∈ instruction.seeds, s ∈ seeds) (hplaced : Placed rt seeds world.accounts) :
    Placed rt seeds world'.accounts := by
  cases instruction with
  | initializeProtocol ctx =>
      rcases initializeProtocolHandler_eq_ok h with ⟨-, haddress, -, config, hafter⟩
      rw [hafter]
      exact placed_insert hplaced haddress (hs _ (by simp only [Instruction.seeds, Account.seeds,
        List.mem_singleton]))
  | initializeMarket ctx =>
      rcases initializeMarketHandler_eq_ok h with ⟨-, market, hmarket⟩
      rw [hmarket.after]
      refine placed_insert hplaced ?_ ?_
      · rw [Account.seeds, hmarket.mints.1, hmarket.mints.2]
        exact hmarket.address
      · rw [Account.seeds, hmarket.mints.1, hmarket.mints.2]
        exact hs _ List.mem_cons_self
  | deposit ctx asset amount =>
      rcases depositHandler_eq_ok h with ⟨market, old, new, hd⟩
      have hmem : Seeds.traderBalance ctx.marketConfig ctx.trader ∈ seeds :=
        hs _ List.mem_cons_self
      -- The balance may be fresh, so its owner comes from the deposit.
      rcases deposited_owner hd hsep hplaced hmem with ⟨hm, ht⟩
      rw [hd.after]
      refine placed_insert hplaced ?_ ?_
      · rw [Account.seeds, hm, ht]
        exact hd.address
      · rw [Account.seeds, hm, ht]
        exact hmem
  | withdraw ctx asset amount =>
      rcases withdrawHandler_eq_ok h with ⟨market, old, new, _, hw, -, hafter⟩
      -- The balance was there before, at the same address.
      rcases hplaced _ _ hw.before with ⟨haddress, hmem⟩
      rw [Account.seeds] at haddress hmem
      rw [hafter]
      refine placed_insert hplaced ?_ ?_
      · rw [Account.seeds, hw.unchanged.1, hw.unchanged.2]
        exact haddress
      · rw [Account.seeds, hw.unchanged.1, hw.unchanged.2]
        exact hmem
  | settleFill ctx settlementId baseAmount quoteAmount =>
      rcases settleFillHandler_eq_ok h with ⟨-, receipt, _, _, _, _, _, hsettled, hid, -⟩
      refine settled_placed hsettled hplaced ?_ (fun fill hfill => absurd hfill List.not_mem_nil)
      rw [hid]
      exact hs _ List.mem_cons_self
  | settleSignedFill ctx settlementId buyerOrderHash sellerOrderHash args =>
      rcases settleSignedFillHandler_eq_ok h with
        ⟨-, receipt, _, _, _, _, _, _, _, buyerNew, _, _, sellerNew, hsettled, hsigned⟩
      refine settled_placed hsettled hplaced ?_ ?_
      · rw [hsigned.settlementId]
        exact hs _ List.mem_cons_self
      · intro fill hfill
        -- The receipt and both fill states are written.
        rcases List.mem_cons.mp hfill with rfl | hfill
        · exact orderFilled_placed hsigned.buyer (hs _ (List.mem_cons_of_mem _ List.mem_cons_self))
        · rw [List.mem_singleton.mp hfill]
          exact orderFilled_placed hsigned.seller (hs _ (List.mem_cons_of_mem _
            (List.mem_cons_of_mem _ List.mem_cons_self)))
  | cancelSignedOrder ctx orderHash order =>
      rcases cancelSignedOrderHandler_eq_ok h with ⟨-, old, opened, hc⟩
      have howner := hc.initialized.owner
      rw [hc.after]
      refine placed_insert hplaced ?_ ?_
      · rw [Account.seeds, howner.1, howner.2]
        exact hc.address
      · rw [Account.seeds, howner.1, howner.2]
        exact hs _ List.mem_cons_self

end Placement

end Settlement

end SolanaLab
