import SolanaLab.Settlement.Program

/-!
# The Ledger of a Run

What a trader has available is what the history of the run says: deposits and
what settlements gave, less withdrawals and what settlements took.

The history has two parts. Deposits and withdrawals are read off the log of
the run. Settlements are read off the receipts among the accounts, and the
receipts are matched with the log: every successful settlement has left
exactly one, and no settlement id of a market was settled twice, whichever of
the two instructions settled it.

`process_balance` is the equation of one instruction, for either asset.
`LedgerKept` carries it through a run next to the correspondence of log and
receipts.

The equation is stated with sums over receipts rather than over the log because
receipts are on chain: whoever has the accounts and the record of deposits and
withdrawals can check it.

## Main definitions

* `World.available`: What a trader has available of an asset in a market.
* `deposits`, `withdrawals`: What the log says a trader moved in and out.
* `settlements`: The settlements the log says succeeded.
* `LedgerKept`: The invariant of runs.

## Theorems

* `process_balance`: What one instruction does to the equation.
* `process_receipts`: What one instruction does to the receipts.
* `settlement_preserves_total`: A settlement moves nothing in or out.
* `step_ledgerKept`: A step keeps the invariant.
* `run_ledger`: The equation, the totals and the receipts of a run.
-/

namespace SolanaLab

namespace Settlement

namespace SettlementReceipt

/-- What a settlement moved of an asset. With the next two functions, an asset
    at a time is one transfer from a payer to a receiver. -/
def amount (receipt : SettlementReceipt) : CustodyAsset → Checked.Word 64
  | .base => receipt.baseAmount
  | .quote => receipt.quoteAmount

/-- Who receives an asset: the buyer receives base, the seller quote. -/
def receiver (receipt : SettlementReceipt) : CustodyAsset → Pubkey
  | .base => receipt.buyer
  | .quote => receipt.seller

/-- Who pays an asset: the seller pays base, the buyer quote. -/
def payer (receipt : SettlementReceipt) : CustodyAsset → Pubkey
  | .base => receipt.seller
  | .quote => receipt.buyer

end SettlementReceipt

/-! ### Quantities of an account -/

namespace Account

/-- What an account makes available of an asset, if its market and its trader
    are counted. The predicate lets one lemma serve a single trader and a whole
    market. -/
def availableIf (asset : CustodyAsset) (counts : Pubkey → Pubkey → Bool) : Account → Nat
  | .traderMarketBalance balance =>
    if counts balance.marketConfig balance.trader then (balance.available asset).val else 0
  | _ => 0

/-- What an account makes available of an asset to a trader of a market. -/
def availableTo (asset : CustodyAsset) (market trader : Pubkey) : Account → Nat :=
  availableIf asset (fun m t => m = market ∧ t = trader)

/-- What an account makes available of an asset to anyone in a market. -/
def availableIn (asset : CustodyAsset) (market : Pubkey) : Account → Nat :=
  availableIf asset (fun m _ => m = market)

/-- What a trader of a market received of an asset, by a receipt. Summed over
    the accounts it is all that he ever received, since receipts are never
    removed. -/
def receivedBy (asset : CustodyAsset) (market trader : Pubkey) : Account → Nat
  | .settlementReceipt receipt =>
    if receipt.marketConfig = market ∧ receipt.receiver asset = trader then
      (receipt.amount asset).val
    else 0
  | _ => 0

/-- What a trader of a market paid of an asset, by a receipt. -/
def paidBy (asset : CustodyAsset) (market trader : Pubkey) : Account → Nat
  | .settlementReceipt receipt =>
    if receipt.marketConfig = market ∧ receipt.payer asset = trader then
      (receipt.amount asset).val
    else 0
  | _ => 0

end Account

/-- What a trader has available of an asset, by the account at the address of
    the trader's balance: the one place where the program itself would look. -/
def World.available (rt : Runtime) (world : World) (asset : CustodyAsset)
    (market trader : Pubkey) : Nat :=
  match world.accounts.get? (rt.address (.traderBalance market trader)) with
  | some (.traderMarketBalance balance) => (balance.available asset).val
  | _ => 0

/-! ### Quantities of the log -/

/-- What an entry of the log deposits of an asset for a trader of a market. Only
    an instruction that succeeded counts. -/
def depositedBy (asset : CustodyAsset) (market trader : Pubkey) :
    Input × Except ProgramError Unit → Nat
  | (.invoke _ (.deposit ctx a amount), .ok _) =>
    if a = asset ∧ ctx.marketConfig = market ∧ ctx.trader = trader then amount.val else 0
  | _ => 0

/-- What an entry of the log withdraws of an asset for a trader of a market. -/
def withdrawnBy (asset : CustodyAsset) (market trader : Pubkey) :
    Input × Except ProgramError Unit → Nat
  | (.invoke _ (.withdraw ctx a amount), .ok _) =>
    if a = asset ∧ ctx.marketConfig = market ∧ ctx.trader = trader then amount.val else 0
  | _ => 0

/-- All deposits of a trader of a market in an asset, over a log. -/
def deposits (asset : CustodyAsset) (market trader : Pubkey) (past : Log) : Nat :=
  (past.map (depositedBy asset market trader)).sum

/-- All withdrawals of a trader of a market in an asset, over a log. -/
def withdrawals (asset : CustodyAsset) (market trader : Pubkey) (past : Log) : Nat :=
  (past.map (withdrawnBy asset market trader)).sum

/-- A settlement, as its instruction asks for it. Bumps and hashes are left out,
    so that both instructions give one. -/
structure SettlementRecord where
  marketConfig : Pubkey
  settlementId : Checked.Word 64
  buyer : Pubkey
  seller : Pubkey
  baseAmount : Nat
  quoteAmount : Nat
deriving DecidableEq

/-- What identifies a settlement. The id is used once in its market, not once in
    the program. -/
def SettlementRecord.id (record : SettlementRecord) : Pubkey × Checked.Word 64 :=
  (record.marketConfig, record.settlementId)

/-- The settlement a receipt records. -/
def SettlementReceipt.record (receipt : SettlementReceipt) : SettlementRecord where
  marketConfig := receipt.marketConfig
  settlementId := receipt.settlementId
  buyer := receipt.buyer
  seller := receipt.seller
  baseAmount := receipt.baseAmount.val
  quoteAmount := receipt.quoteAmount.val

/-- The settlement an instruction asks for. A signed fill is settled at its
    price. -/
def Instruction.settlement : Instruction → Option SettlementRecord
  | .settleFill ctx settlementId baseAmount quoteAmount => some {
      marketConfig := ctx.marketConfig
      settlementId
      buyer := ctx.buyer
      seller := ctx.seller
      baseAmount := baseAmount.val
      quoteAmount := quoteAmount.val }
  | .settleSignedFill ctx settlementId _ _ args => some {
      marketConfig := ctx.marketConfig
      settlementId
      buyer := ctx.buyer
      seller := ctx.seller
      baseAmount := args.fillQuantity.val
      quoteAmount := args.fillPrice.val * args.fillQuantity.val }
  | _ => none

/-- The settlement an entry of the log made, if it succeeded. -/
def settledBy : Input × Except ProgramError Unit → Option SettlementRecord
  | (.invoke _ instruction, .ok _) => instruction.settlement
  | _ => none

/-- The settlements of a log in their order. -/
def settlements (past : Log) : List SettlementRecord := past.filterMap settledBy

/-- One more entry adds what it deposits. -/
theorem deposits_snoc (asset : CustodyAsset) (market trader : Pubkey) (past : Log)
    (entry : Input × Except ProgramError Unit) :
    deposits asset market trader (past ++ [entry])
      = deposits asset market trader past + depositedBy asset market trader entry := by
  simp only [deposits, List.map_append, List.map_cons, List.map_nil, List.sum_append,
    List.sum_singleton]

/-- One more entry adds what it withdraws. -/
theorem withdrawals_snoc (asset : CustodyAsset) (market trader : Pubkey) (past : Log)
    (entry : Input × Except ProgramError Unit) :
    withdrawals asset market trader (past ++ [entry])
      = withdrawals asset market trader past + withdrawnBy asset market trader entry := by
  simp only [withdrawals, List.map_append, List.map_cons, List.map_nil, List.sum_append,
    List.sum_singleton]

/-- One more entry adds its settlement, if it made one. -/
theorem settlements_snoc (past : Log) (entry : Input × Except ProgramError Unit) :
    settlements (past ++ [entry]) = settlements past ++ (settledBy entry).toList := by
  rw [settlements, List.filterMap_append]
  rfl

/-! ### One instruction -/

section Step

variable {rt : Runtime} {env : Env} {seeds : List Seeds} {world world' : World}
  {instruction : Instruction}

/-- A balance written where a balance or nothing was: a total trades the old one
    for the new one, when a balance just created counts nothing. -/
theorem total_write_balance {f : Account → Nat} {accounts : Accounts} {key : Pubkey}
    {old : TraderMarketBalance} (new : TraderMarketBalance)
    (hzero : f (.traderMarketBalance .zeroed) = 0)
    (hbefore : (accounts.get? key = none ∧ old = .zeroed) ∨
      accounts.get? key = some (.traderMarketBalance old)) :
    total f (accounts.insert key (.traderMarketBalance new)) + f (.traderMarketBalance old)
      = total f accounts + f (.traderMarketBalance new) := by
  rcases hbefore with ⟨hnone, rfl⟩ | hsome
  · rw [hzero, Nat.add_zero]
    exact total_insert_new hnone _
  · exact total_insert_old hsome _

/-- A record of zeros makes nothing available, whoever is counted. -/
theorem availableIf_zeroed (asset : CustodyAsset) (counts : Pubkey → Pubkey → Bool) :
    Account.availableIf asset counts (.traderMarketBalance .zeroed) = 0 := by
  cases asset <;> exact ite_self 0

/-- What an account makes available, for a balance whose owner is known. -/
theorem availableIf_of_owner (asset : CustodyAsset) (counts : Pubkey → Pubkey → Bool)
    {balance : TraderMarketBalance} {m t : Pubkey} (hm : balance.marketConfig = m)
    (ht : balance.trader = t) : Account.availableIf asset counts (.traderMarketBalance balance)
      = if counts m t then (balance.available asset).val else 0 := by
  rw [Account.availableIf, hm, ht]

/-- A deposit adds its amount to what is available, if its trader is counted.
    The balance may be created by it, and then it is nobody's before. -/
theorem deposited_available {ctx : Deposit} {a : CustodyAsset} {amount : Checked.Word 64}
    {config : MarketConfig} {old new : TraderMarketBalance}
    (h : Deposited rt env world ctx a amount world' config old new)
    (hsep : rt.Separates seeds) (hplaced : Placed rt seeds world.accounts)
    (hs : .traderBalance ctx.marketConfig ctx.trader ∈ seeds) (asset : CustodyAsset)
    (counts : Pubkey → Pubkey → Bool) :
    total (Account.availableIf asset counts) world'.accounts
      = total (Account.availableIf asset counts) world.accounts
        + if a = asset ∧ counts ctx.marketConfig ctx.trader then amount.val else 0 := by
  have hsum := total_write_balance new (availableIf_zeroed asset counts) h.before
  rcases deposited_owner h hsep hplaced hs with ⟨hm, ht⟩
  -- A balance just created counts nothing, whoever it is going to belong to.
  have hold : Account.availableIf asset counts (.traderMarketBalance old)
      = if counts ctx.marketConfig ctx.trader then (old.available asset).val else 0 := by
    rcases deposited_before h hsep hplaced hs with hzero | ⟨hm', ht'⟩
    · rw [hzero, availableIf_zeroed]
      cases asset <;> exact (ite_self 0).symm
    · exact availableIf_of_owner asset counts hm' ht'
  rw [availableIf_of_owner asset counts hm ht, hold, h.available asset] at hsum
  rw [h.after]
  by_cases hcounts : counts ctx.marketConfig ctx.trader = true
  · rw [if_pos hcounts, if_pos hcounts] at hsum
    by_cases hasset : a = asset
    · rw [if_pos hasset.symm] at hsum
      rw [if_pos ⟨hasset, hcounts⟩]
      omega
    · rw [if_neg (fun heq => hasset heq.symm)] at hsum
      rw [if_neg (fun hall => hasset hall.1)]
      omega
  · rw [if_neg hcounts, if_neg hcounts] at hsum
    rw [if_neg (fun hall => hcounts hall.2)]
    omega

/-- A withdrawal takes its amount from what is available, if its trader is
    counted. -/
theorem withdrawn_available {ctx : Withdraw} {a : CustodyAsset} {amount : Checked.Word 64}
    {config : MarketConfig} {old new : TraderMarketBalance}
    (h : Withdrawn env world ctx a amount config old new)
    (hafter : world'.accounts
      = world.accounts.insert ctx.traderBalance (.traderMarketBalance new))
    (asset : CustodyAsset) (counts : Pubkey → Pubkey → Bool) :
    total (Account.availableIf asset counts) world'.accounts
        + (if a = asset ∧ counts ctx.marketConfig ctx.trader then amount.val else 0)
      = total (Account.availableIf asset counts) world.accounts := by
  have hsum := total_write_balance new (availableIf_zeroed asset counts) (Or.inr h.before)
  -- The owner of the balance is the same before and after.
  have havailable := h.available asset
  rw [availableIf_of_owner asset counts (h.unchanged.1.trans h.owner.1)
    (h.unchanged.2.trans h.owner.2), availableIf_of_owner asset counts h.owner.1 h.owner.2]
    at hsum
  rw [hafter]
  by_cases hcounts : counts ctx.marketConfig ctx.trader = true
  · rw [if_pos hcounts, if_pos hcounts] at hsum
    by_cases hasset : a = asset
    · rw [if_pos hasset.symm] at havailable
      rw [if_pos ⟨hasset, hcounts⟩]
      omega
    · rw [if_neg (fun heq => hasset heq.symm)] at havailable
      rw [if_neg (fun hall => hasset hall.1)]
      omega
  · rw [if_neg hcounts, if_neg hcounts] at hsum
    rw [if_neg (fun hall => hcounts hall.2)]
    omega

/-- A settlement makes available what its receipt says was received, and takes
    what it says was paid. This is where the four writes of a settlement and the
    two amounts of its receipt are shown to be the same. -/
theorem settled_balance {ctx : SettleFill} {receipt : SettlementReceipt}
    {fills : List (Pubkey × OrderFillState)} {config : MarketConfig}
    {buyer seller buyer' seller' : TraderMarketBalance}
    (h : Settled rt env world.accounts ctx receipt fills world'.accounts config buyer seller buyer'
      seller') (asset : CustodyAsset) (market trader : Pubkey) :
    total (Account.availableTo asset market trader) world'.accounts
        + total (Account.paidBy asset market trader) world'.accounts
        + total (Account.receivedBy asset market trader) world.accounts
      = total (Account.availableTo asset market trader) world.accounts
        + total (Account.paidBy asset market trader) world.accounts
        + total (Account.receivedBy asset market trader) world'.accounts := by
  have hbase := h.buyerBase
  have hquote := h.buyerQuote
  have hbase' := h.sellerBase
  have hquote' := h.sellerQuote
  have havailable := settled_total h (f := Account.availableTo asset market trader) (fun _ => rfl)
  have hpaid := settled_total h (f := Account.paidBy asset market trader) (fun _ => rfl)
  have hreceived := settled_total h (f := Account.receivedBy asset market trader) (fun _ => rfl)
  rw [Account.availableTo, availableIf_of_owner _ _ h.buyerOwner.1 h.buyerOwner.2,
    availableIf_of_owner _ _ h.sellerOwner.1 h.sellerOwner.2,
    availableIf_of_owner _ _ (h.buyerUnchanged.1.trans h.buyerOwner.1)
      (h.buyerUnchanged.2.trans h.buyerOwner.2),
    availableIf_of_owner _ _ (h.sellerUnchanged.1.trans h.sellerOwner.1)
      (h.sellerUnchanged.2.trans h.sellerOwner.2)] at havailable
  rw [Account.availableTo]
  simp only [Account.availableIf, Account.paidBy, Account.receivedBy, h.parties.1, Nat.add_zero,
    decide_eq_true_eq] at havailable hpaid hreceived
  -- One asset goes from seller to buyer, the other the opposite way.
  -- The trader may be either party, both or none, and each asset is a case of its own.
  by_cases hm : ctx.marketConfig = market
  · by_cases hb : ctx.buyer = trader <;> by_cases hsel : ctx.seller = trader <;> cases asset <;>
      simp only [SettlementReceipt.payer, SettlementReceipt.receiver, SettlementReceipt.amount,
        TraderMarketBalance.available, h.parties.2.1, h.parties.2.2, hm, hb, hsel, and_self,
        and_false, if_true, if_false] at havailable hpaid hreceived <;>
      omega
  · simp only [hm, false_and, if_false] at havailable hpaid hreceived
    omega

/-- Only receipts say what was received and what was paid. -/
theorem receivedBy_of_ne (asset : CustodyAsset) (market trader : Pubkey) (account : Account)
    (h : ∀ r, account ≠ .settlementReceipt r) : account.receivedBy asset market trader = 0 := by
  cases account with
  | settlementReceipt r => exact absurd rfl (h r)
  | _ => rfl

/-- The same of what was paid. -/
theorem paidBy_of_ne (asset : CustodyAsset) (market trader : Pubkey) (account : Account)
    (h : ∀ r, account ≠ .settlementReceipt r) : account.paidBy asset market trader = 0 := by
  cases account with
  | settlementReceipt r => exact absurd rfl (h r)
  | _ => rfl

/-- What one instruction does to the equation of a trader: what is available
    and what was paid and withdrawn grows as much as what was received and
    deposited. -/
theorem process_balance (h : process rt env world instruction = .ok world')
    (hsep : rt.Separates seeds) (hs : ∀ s ∈ instruction.seeds, s ∈ seeds)
    (hplaced : Placed rt seeds world.accounts) (asset : CustodyAsset) (market trader : Pubkey) :
    total (Account.availableTo asset market trader) world'.accounts
        + total (Account.paidBy asset market trader) world'.accounts
        + total (Account.receivedBy asset market trader) world.accounts
        + withdrawnBy asset market trader (.invoke env instruction, .ok ())
      = total (Account.availableTo asset market trader) world.accounts
        + total (Account.paidBy asset market trader) world.accounts
        + total (Account.receivedBy asset market trader) world'.accounts
        + depositedBy asset market trader (.invoke env instruction, .ok ()) := by
  -- Only settlements write receipts.
  have hreceived := fun hwrites => process_total_receipts h hwrites
    (receivedBy_of_ne asset market trader)
  have hpaid := fun hwrites => process_total_receipts h hwrites (paidBy_of_ne asset market trader)
  cases instruction with
  | deposit ctx a amount =>
      rcases depositHandler_eq_ok h with ⟨config, old, new, hd⟩
      rw [hpaid (fun _ => rfl), hreceived (fun _ => rfl), Account.availableTo,
        deposited_available hd hsep hplaced (hs _ List.mem_cons_self)]
      simp only [withdrawnBy, depositedBy, decide_eq_true_eq]
      omega
  | withdraw ctx a amount =>
      rcases withdrawHandler_eq_ok h with ⟨config, old, new, _, hw, -, hafter⟩
      have hsum := withdrawn_available hw hafter asset (fun m t => m = market ∧ t = trader)
      rw [hpaid (fun _ => rfl), hreceived (fun _ => rfl), Account.availableTo]
      simp only [decide_eq_true_eq] at hsum
      simp only [withdrawnBy, depositedBy]
      omega
  | settleFill ctx settlementId baseAmount quoteAmount =>
      rcases settleFillHandler_eq_ok h with ⟨-, receipt, _, _, _, _, _, hsettled, -⟩
      exact settled_balance hsettled asset market trader
  | settleSignedFill ctx settlementId buyerOrderHash sellerOrderHash args =>
      rcases settleSignedFillHandler_eq_ok h with
        ⟨-, receipt, _, _, _, _, _, _, _, _, _, _, _, hsettled, -⟩
      exact settled_balance hsettled asset market trader
  | _ =>
      -- What is left writes no balance either.
      rw [hpaid (fun _ => rfl), hreceived (fun _ => rfl),
        process_total h (fun account hwrites => ?_)]
      · rfl
      · cases account with
        | traderMarketBalance b => exact Bool.noConfusion hwrites
        | _ => rfl

/-- What one instruction does to the receipts: a settlement adds its own at a
    new address, and nothing else touches them. New means that no account was
    there. -/
theorem process_receipts (h : process rt env world instruction = .ok world') :
    (instruction.settlement = none ∧ ∀ key r,
      world'.accounts.get? key = some (.settlementReceipt r) ↔
        world.accounts.get? key = some (.settlementReceipt r)) ∨
    ∃ key receipt, instruction.settlement = some receipt.record ∧
      key = rt.address (Account.settlementReceipt receipt).seeds ∧
      world.accounts.get? key = none ∧ ∀ key' r,
        world'.accounts.get? key' = some (.settlementReceipt r) ↔
          (key' = key ∧ r = receipt) ∨ world.accounts.get? key' = some (.settlementReceipt r) := by
  cases instruction with
  -- Either way of settling writes one receipt, and nothing else does.
  | settleFill ctx settlementId baseAmount quoteAmount =>
      rcases settleFillHandler_eq_ok h with
        ⟨-, receipt, _, _, _, _, _, hsettled, hid, hbase, hquote, -⟩
      refine Or.inr ⟨ctx.settlementReceipt, receipt, ?_, ?_, hsettled.receiptNew,
        settled_receipts hsettled⟩
      · rw [Instruction.settlement, SettlementReceipt.record, hid, hbase, hquote,
          hsettled.parties.1, hsettled.parties.2.1, hsettled.parties.2.2]
      · rw [Account.seeds, hsettled.parties.1]
        exact hsettled.receiptAddress
  | settleSignedFill ctx settlementId buyerOrderHash sellerOrderHash args =>
      rcases settleSignedFillHandler_eq_ok h with
        ⟨-, receipt, _, _, _, _, _, _, _, _, _, _, _, hsettled, hsigned⟩
      refine Or.inr ⟨ctx.settlementReceipt, receipt, ?_, ?_, hsettled.receiptNew,
        settled_receipts hsettled⟩
      · rw [Instruction.settlement, SettlementReceipt.record, hsigned.settlementId,
          hsigned.baseAmount, hsigned.quoteAmount, hsettled.parties.1, hsettled.parties.2.1,
          hsettled.parties.2.2]
      · rw [Account.seeds, hsettled.parties.1]
        exact hsettled.receiptAddress
  | _ => exact Or.inl ⟨rfl, fun key r => process_frame h rfl key⟩

/-- A settlement preserves what is available of each asset over all traders of a
    market, in any world, and so does one that fails. -/
theorem settlement_preserves_total (h : instruction.settlement ≠ none) (asset : CustodyAsset)
    (market : Pubkey) :
    total (Account.availableIn asset market) (step rt world (.invoke env instruction)).2.accounts
      = total (Account.availableIn asset market) world.accounts := by
  -- What the buyer gets the seller gives, in each asset.
  have hsettled : ∀ {ctx : SettleFill} {receipt : SettlementReceipt}
      {fills : List (Pubkey × OrderFillState)} {config : MarketConfig}
      {buyer seller buyer' seller' : TraderMarketBalance} {after : World},
      Settled rt env world.accounts ctx receipt fills after.accounts config buyer seller buyer'
        seller' →
      total (Account.availableIn asset market) after.accounts
        = total (Account.availableIn asset market) world.accounts := by
    intro ctx receipt fills config buyer seller buyer' seller' after hs
    have hbase := hs.buyerBase
    have hquote := hs.buyerQuote
    have hbase' := hs.sellerBase
    have hquote' := hs.sellerQuote
    have hsum := settled_total hs (f := Account.availableIn asset market) (fun _ => rfl)
    simp only [Account.availableIn, Account.availableIf, hs.buyerUnchanged.1,
      hs.sellerUnchanged.1, hs.buyerOwner.1, hs.sellerOwner.1, Nat.add_zero, decide_eq_true_eq]
      at hsum
    rw [Account.availableIn]
    by_cases hm : ctx.marketConfig = market
    · cases asset <;> simp only [hm, if_true, TraderMarketBalance.available] at hsum <;> omega
    · simp only [hm, if_false] at hsum
      omega
  -- The two settlements are one as far as balances go; no other instruction is asked.
  rcases step_cases rt world (.invoke env instruction) with ⟨e, he⟩ | ⟨_, hinput, -⟩ |
    ⟨env', instruction', world', hinput, -, hp, hstep⟩
  · rw [he]
  · exact absurd hinput (by simp only [reduceCtorEq, not_false_eq_true])
  · rw [Input.invoke.injEq] at hinput
    rcases hinput with ⟨rfl, rfl⟩
    rw [hstep]
    cases instruction with
    | settleFill ctx settlementId baseAmount quoteAmount =>
        rcases settleFillHandler_eq_ok hp with ⟨-, _, _, _, _, _, _, hs, -⟩
        exact hsettled hs
    | settleSignedFill ctx settlementId buyerOrderHash sellerOrderHash args =>
        rcases settleSignedFillHandler_eq_ok hp with
          ⟨-, _, _, _, _, _, _, _, _, _, _, _, _, hs, -⟩
        exact hsettled hs
    | _ => exact absurd rfl h

end Step

/-! ### Runs -/

/-- What holds of log and world throughout a run, for one trader of one market.
    The last three fields match the settlements of the log with the receipts. -/
structure LedgerKept (rt : Runtime) (seeds : List Seeds) (market trader : Pubkey) (past : Log)
    (world : World) : Prop where
  placed : Placed rt seeds world.accounts
  balance : ∀ asset, total (Account.availableTo asset market trader) world.accounts
      + total (Account.paidBy asset market trader) world.accounts
      + withdrawals asset market trader past
    = total (Account.receivedBy asset market trader) world.accounts
      + deposits asset market trader past
  recorded : ∀ key receipt, world.accounts.get? key = some (.settlementReceipt receipt) →
    receipt.record ∈ settlements past
  kept : ∀ record ∈ settlements past, ∃ key receipt,
    world.accounts.get? key = some (.settlementReceipt receipt) ∧ receipt.record = record
  once : ((settlements past).map SettlementRecord.id).Nodup

/-- With no accounts and no log, both sides of everything are zero or empty. -/
theorem ledgerKept_empty (rt : Runtime) (seeds : List Seeds) (market trader : Pubkey) :
    LedgerKept rt seeds market trader [] World.empty where
  placed := by
    intro key account hget
    exact absurd hget (by simp only [World.empty, SortedMap.get?_empty, reduceCtorEq,
      not_false_eq_true])
  balance := fun _ => rfl
  recorded := by
    intro key receipt hget
    exact absurd hget (by simp only [World.empty, SortedMap.get?_empty, reduceCtorEq,
      not_false_eq_true])
  kept := fun record hrecord => absurd hrecord List.not_mem_nil
  once := List.nodup_nil

section Kept

variable {rt : Runtime} {seeds : List Seeds} {market trader : Pubkey} {past : Log} {world : World}

/-- An entry that says nothing of deposits, withdrawals and settlements leaves
    the invariant to the same accounts. -/
theorem ledgerKept_idle (h : LedgerKept rt seeds market trader past world)
    {entry : Input × Except ProgramError Unit}
    (hd : ∀ asset, depositedBy asset market trader entry = 0)
    (hw : ∀ asset, withdrawnBy asset market trader entry = 0) (hs : settledBy entry = none)
    {world' : World} (hsame : world'.accounts = world.accounts) :
    LedgerKept rt seeds market trader (past ++ [entry]) world' := by
  have hsettlements : settlements (past ++ [entry]) = settlements past := by
    rw [settlements_snoc, hs, Option.toList_none, List.append_nil]
  -- No entry of the kinds that count, so every total is as it was.
  refine ⟨?_, fun asset => ?_, ?_, ?_, ?_⟩
  · rw [hsame]
    exact h.placed
  · rw [hsame, deposits_snoc, withdrawals_snoc, hd, hw, Nat.add_zero, Nat.add_zero]
    exact h.balance asset
  · rw [hsettlements, hsame]
    exact h.recorded
  · rw [hsettlements, hsame]
    exact h.kept
  · rw [hsettlements]
    exact h.once

/-- A settlement whose receipt is new has an id that was not settled before: an
    earlier one would have left its receipt at the same address. -/
theorem id_fresh (h : LedgerKept rt seeds market trader past world) {receipt : SettlementReceipt}
    (hnew : world.accounts.get? (rt.address (Account.settlementReceipt receipt).seeds) = none) :
    receipt.record.id ∉ (settlements past).map SettlementRecord.id := by
  intro hmem
  rcases List.mem_map.mp hmem with ⟨record, hrecord, hid⟩
  rcases h.kept record hrecord with ⟨key, old, hget, rfl⟩
  -- The old receipt sits at the address of the new one.
  have haddress := (h.placed key _ hget).1
  simp only [SettlementRecord.id, SettlementReceipt.record, Prod.mk.injEq] at hid
  rw [Account.seeds, hid.1, hid.2] at haddress
  rw [Account.seeds, ← haddress, hget] at hnew
  exact absurd hnew (by simp only [reduceCtorEq, not_false_eq_true])

/-- A step keeps the invariant. The equation follows from that of the
    instruction, and the rest by whether the step is a settlement. -/
theorem step_ledgerKept (hsep : rt.Separates seeds) {input : Input}
    (hs : ∀ s ∈ input.seeds, s ∈ seeds) (h : LedgerKept rt seeds market trader past world) :
    LedgerKept rt seeds market trader (past ++ [(input, (step rt world input).1)])
      (step rt world input).2 := by
  rcases step_cases rt world input with ⟨e, he⟩ | ⟨ledger, rfl, hstep⟩ |
    ⟨env, instruction, world', rfl, -, hp, hstep⟩
  -- What fails is in the log, but is no deposit, withdrawal or settlement there.
  · rw [he]
    cases input with
    | tokens ledger => exact ledgerKept_idle h (fun _ => rfl) (fun _ => rfl) rfl rfl
    | invoke env instruction =>
        refine ledgerKept_idle h (fun _ => ?_) (fun _ => ?_) rfl rfl <;> cases instruction <;> rfl
  · rw [hstep]
    exact ledgerKept_idle h (fun _ => rfl) (fun _ => rfl) rfl rfl
  · rw [hstep]
    have hplaced := process_placed hp hsep hs h.placed
    -- One step of the balance equation, added to the one so far.
    have hbalance : ∀ asset, total (Account.availableTo asset market trader) world'.accounts
          + total (Account.paidBy asset market trader) world'.accounts
          + withdrawals asset market trader (past ++ [(.invoke env instruction, .ok ())])
        = total (Account.receivedBy asset market trader) world'.accounts
          + deposits asset market trader (past ++ [(.invoke env instruction, .ok ())]) := by
      intro asset
      have hold := h.balance asset
      have hnew := process_balance hp hsep hs h.placed asset market trader
      rw [deposits_snoc, withdrawals_snoc]
      omega
    have hlog : settlements (past ++ [(.invoke env instruction, .ok ())])
        = settlements past ++ instruction.settlement.toList := settlements_snoc past _
    rcases process_receipts hp with ⟨hnone, hreceipts⟩ |
      ⟨key, receipt, hsome, rfl, hnew, hreceipts⟩
    · -- No settlement: receipts and log are what they were.
      rw [hnone, Option.toList_none, List.append_nil] at hlog
      refine ⟨hplaced, hbalance, ?_, ?_, ?_⟩
      · intro key receipt hget
        rw [hlog]
        exact h.recorded key receipt ((hreceipts key receipt).mp hget)
      · intro record hrecord
        rw [hlog] at hrecord
        rcases h.kept record hrecord with ⟨key, receipt, hget, heq⟩
        exact ⟨key, receipt, (hreceipts key receipt).mpr hget, heq⟩
      · rw [hlog]
        exact h.once
    · -- One settlement: its receipt is new, and so is its entry in the log.
      rw [hsome, Option.toList_some] at hlog
      refine ⟨hplaced, hbalance, ?_, ?_, ?_⟩
      · intro key r hget
        rw [hlog]
        rcases (hreceipts key r).mp hget with ⟨-, rfl⟩ | hold
        · exact List.mem_append_right _ (List.mem_singleton_self _)
        · exact List.mem_append_left _ (h.recorded key r hold)
      · intro record hrecord
        rw [hlog] at hrecord
        rcases List.mem_append.mp hrecord with hold | hlast
        · rcases h.kept record hold with ⟨key, r, hget, heq⟩
          exact ⟨key, r, (hreceipts key r).mpr (Or.inr hget), heq⟩
        · rw [List.mem_singleton.mp hlast]
          exact ⟨_, receipt, (hreceipts _ receipt).mpr (Or.inl ⟨rfl, rfl⟩), rfl⟩
      -- No id twice: an earlier one would have left a receipt at the same address.
      · rw [hlog, List.map_append, List.nodup_append]
        refine ⟨h.once, List.nodup_singleton _, ?_⟩
        intro id hid id' hid' heq
        rw [List.map_singleton, List.mem_singleton] at hid'
        rw [heq, hid'] at hid
        exact id_fresh h hnew hid

/-- What a trader has available is counted at the address of the balance: no
    other account is the trader's in this market, because every account is in
    its place. -/
theorem available_eq_total (hsep : rt.Separates seeds) (hplaced : Placed rt seeds world.accounts)
    (hs : .traderBalance market trader ∈ seeds) (asset : CustodyAsset) :
    world.available rt asset market trader
      = total (Account.availableTo asset market trader) world.accounts := by
  rw [total_eq_single (rt.address (.traderBalance market trader)), World.available]
  · rcases hget : world.accounts.get? (rt.address (.traderBalance market trader)) with _ | account
    · rfl
    · -- Only a balance of this trader in this market can sit here.
      have hseeds := get?_of_placed hsep hplaced hs hget
      cases account with
      | traderMarketBalance balance =>
          rw [Account.seeds, Seeds.traderBalance.injEq] at hseeds
          simp only [Option.elim_some, Account.availableTo, Account.availableIf,
            decide_eq_true hseeds, if_true]
      | _ => exact absurd hseeds (by simp only [Account.seeds, reduceCtorEq, not_false_eq_true])
  -- A balance of this trader in this market can be nowhere else.
  · intro key account hget hkey
    cases account with
    | traderMarketBalance balance =>
        have haddress := (hplaced key _ hget).1
        refine if_neg (fun howner => hkey ?_)
        rw [decide_eq_true_eq] at howner
        rw [haddress, Account.seeds, howner.1, howner.2]
    | _ => rfl

end Kept

/-- The runs of the program. What a trader has available of an asset is what the
    trader deposited and received less what the trader withdrew and paid, where
    receipts say what was received and paid. A settlement preserves the total
    over all traders. No settlement id is settled twice, every successful
    settlement has exactly one receipt, and there are no other receipts. -/
theorem run_ledger (rt : Runtime) (inputs : List Input) (market trader : Pubkey)
    (hsep : rt.Separates (.traderBalance market trader :: seedsOf inputs)) :
    let past := Run.log (step rt) World.empty inputs
    let world := Run.after (step rt) World.empty inputs
    (∀ asset, (world.available rt asset market trader : Int)
      = deposits asset market trader past - withdrawals asset market trader past
        + total (Account.receivedBy asset market trader) world.accounts
        - total (Account.paidBy asset market trader) world.accounts) ∧
    (∀ env instruction asset, instruction.settlement ≠ none →
      total (Account.availableIn asset market)
          (step rt world (.invoke env instruction)).2.accounts
        = total (Account.availableIn asset market) world.accounts) ∧
    ((settlements past).map SettlementRecord.id).Nodup ∧
    (∀ record ∈ settlements past, ∃! key, ∃ receipt,
      world.accounts.get? key = some (.settlementReceipt receipt) ∧ receipt.record = record) ∧
    ∀ key receipt, world.accounts.get? key = some (.settlementReceipt receipt) →
      receipt.record ∈ settlements past := by
  intro past world
  have hkept : LedgerKept rt (.traderBalance market trader :: seedsOf inputs) market trader past
      world := by
    refine Run.invariant_along (step rt)
      (C := fun _ input => ∀ s ∈ input.seeds, s ∈ .traderBalance market trader :: seedsOf inputs)
      (ledgerKept_empty rt _ market trader)
      (fun past world input h hs => step_ledgerKept hsep hs h)
      (Run.along_of_forall (step rt) (fun input hinput s hs => ?_) _)
    exact List.mem_cons_of_mem _ (List.mem_flatMap.mpr ⟨input, hinput, hs⟩)
  refine ⟨fun asset => ?_, fun env instruction asset h => settlement_preserves_total h asset market,
    hkept.once, fun record hrecord => ?_, hkept.recorded⟩
  · have hbalance := hkept.balance asset
    rw [available_eq_total hsep hkept.placed List.mem_cons_self]
    omega
  · rcases hkept.kept record hrecord with ⟨key, receipt, hget, heq⟩
    refine ⟨key, ⟨receipt, hget, heq⟩, ?_⟩
    intro key' hkey'
    rcases hkey' with ⟨receipt', hget', heq'⟩
    refine placed_unique hkept.placed hget' hget ?_
    -- Equal records have equal seeds, and seeds decide the address.
    have hrecords := heq'.trans heq.symm
    simp only [SettlementReceipt.record, SettlementRecord.mk.injEq] at hrecords
    rw [Account.seeds, Account.seeds, hrecords.1, hrecords.2.1]

/-! ### A run with two traders -/

/-- A runtime that knows finitely many addresses, hashes and signatures.
    Everything it is not told is the same default, which the runs below never
    ask for. -/
def Runtime.ofTables (addresses : List (Seeds × Pubkey × Checked.Byte))
    (digests : List (List Checked.Byte × Hash))
    (signatures : List (List Checked.Byte × List Checked.Byte × List Checked.Byte)) : Runtime where
  createProgramAddress seeds :=
    (addresses.find? (fun e => e.1.bytes ++ [[e.2.2]] = seeds)).map (fun e => e.2.1)
  findProgramAddress seeds :=
    ((addresses.find? (fun e => e.1.bytes = seeds)).map (fun e => e.2)).getD (0, 0)
  sha256 bytes := ((digests.find? (fun e => e.1 = bytes)).map (fun e => e.2)).getD 0
  ed25519Verify key signature message := decide ((key, signature, message) ∈ signatures)
  ed25519Program := 0x804470cafc648af42749747005ff408d838f42f912befb937cd6467d03
  instructionsSysvar := 0x85fcbbadba57556218fc624c1c0c2fd5504d4da3566d17b1817d5a706

def sampleAdmin : Pubkey := 0xd13787ac1446c13636f9635c3a275929619559903803e9eac6c2d128c62849ed

def sampleAuthority : Pubkey :=
  0x7cbedadb33938726775d573045ece80881fe0effc7837bd67170180517ac93ca

def sampleBuyer : Pubkey := 0x5c6f0fb4018874f31b12941dbf0967ca725dba3c2ddb52fd95f10974dde3888a

def sampleSeller : Pubkey := 0x94b3c98f5b0ff65da237eeb4918a8dcbcc7e4cc36654a3565f177da80e773981

def sampleProtocol : Pubkey :=
  0x76fc9d9991e7fae6a2fd5c820fbf6f51f66d7ee7efdc61344169fc8d20f52a1f

/-- The address of the market with mints 10 and 11. -/
def sampleMarket : Pubkey := 0x2b806b69d4c2c20d026cc93a6e33cdbcd064416f79297fdf99e14ec951317749

def sampleVaultAuthority : Pubkey :=
  0xc652a2b85e5fb60ec68a4962e91898793f4b96e651884b80d77b733fa223cb

def sampleBuyerBalance : Pubkey :=
  0x2ff6125832ab4ad243180a0771c5f4b1713c91d04be4c2f8e865426fe745866e

def sampleSellerBalance : Pubkey :=
  0x127d0a258596ec125668f7cea74dc349f780c7becfa8bf704e83e689afc3c81a

/-- The address of the receipt of settlement 42. -/
def sampleReceipt : Pubkey := 0x8024b1ba53337c9b07da1b9787af0f6c1fb24a703dc5ac6b28a2b5226bbd872a

/-- The addresses the program derives for this market, under its program id.
    They are the ones the real derivation gives. -/
def sampleAddresses : List (Seeds × Pubkey × Checked.Byte) :=
  [(.protocolConfig, sampleProtocol, 254),
    (.marketConfig 10 11, sampleMarket, 255),
    (.vaultAuthority sampleMarket, sampleVaultAuthority, 255),
    (.traderBalance sampleMarket sampleBuyer, sampleBuyerBalance, 255),
    (.traderBalance sampleMarket sampleSeller, sampleSellerBalance, 249),
    (.settlementReceipt sampleMarket 42, sampleReceipt, 254)]

def sampleRuntime : Runtime := Runtime.ofTables sampleAddresses [] []

/-- A transaction with one instruction, signed by the keys given. -/
def sampleEnv (signers : List Pubkey) : Env :=
  { signers, slot := 500, instructions := [], currentIndex := 0, refused := false }

/-- The two mints with a fee, a token account of each trader, and two empty
    vaults. -/
def sampleTokens (transferFee : Option TransferFee) : TokenLedger where
  mints := (SortedMap.empty.insert 10 ⟨6, transferFee⟩).insert 11 ⟨6, transferFee⟩
  accounts := (((SortedMap.empty.insert 20 ⟨11, sampleBuyer, 1000⟩).insert
    21 ⟨10, sampleSeller, 1000⟩).insert 30 ⟨10, sampleVaultAuthority, 0⟩).insert
    31 ⟨11, sampleVaultAuthority, 0⟩

/-- The market set up over mints with a fee, and a deposit of each trader. -/
def sampleDeposits (transferFee : Option TransferFee) : List Input :=
  [.tokens (sampleTokens transferFee),
    .invoke (sampleEnv [sampleAdmin]) (.initializeProtocol
      { admin := sampleAdmin, protocolConfig := sampleProtocol }),
    .invoke (sampleEnv [sampleAdmin]) (.initializeMarket
      { admin := sampleAdmin, protocolConfig := sampleProtocol, marketConfig := sampleMarket,
        baseMint := 10, quoteMint := 11, baseVault := 30, quoteVault := 31,
        vaultAuthority := sampleVaultAuthority, settlementAuthority := sampleAuthority }),
    .invoke (sampleEnv [sampleBuyer]) (.deposit
      { trader := sampleBuyer, marketConfig := sampleMarket, traderBalance := sampleBuyerBalance,
        source := 20, vault := 31, mint := 11 } .quote 1000),
    .invoke (sampleEnv [sampleSeller]) (.deposit
      { trader := sampleSeller, marketConfig := sampleMarket, traderBalance := sampleSellerBalance,
        source := 21, vault := 30, mint := 10 } .base 500)]

/-- A settlement under id 42. -/
def sampleSettlement (baseAmount quoteAmount : Checked.Word 64) : Input :=
  .invoke (sampleEnv [sampleAuthority]) (.settleFill
    { settlementAuthority := sampleAuthority, marketConfig := sampleMarket, buyer := sampleBuyer,
      seller := sampleSeller, buyerBalance := sampleBuyerBalance,
      sellerBalance := sampleSellerBalance, settlementReceipt := sampleReceipt,
      payer := sampleAuthority } 42 baseAmount quoteAmount)

/-- Two deposits and a settlement, asked for twice under one id. -/
theorem run_ledger_fill :
    let inputs := sampleDeposits none ++ [sampleSettlement 125 250, sampleSettlement 1 2]
    let past := Run.log (step sampleRuntime) World.empty inputs
    let world := Run.after (step sampleRuntime) World.empty inputs
    world.available sampleRuntime .base sampleMarket sampleBuyer = 125 ∧
      world.available sampleRuntime .quote sampleMarket sampleBuyer = 750 ∧
      (settlements past).length = 1 ∧
      (∀ asset, (world.available sampleRuntime asset sampleMarket sampleBuyer : Int)
        = deposits asset sampleMarket sampleBuyer past
          - withdrawals asset sampleMarket sampleBuyer past
          + total (Account.receivedBy asset sampleMarket sampleBuyer) world.accounts
          - total (Account.paidBy asset sampleMarket sampleBuyer) world.accounts) ∧
      ((settlements past).map SettlementRecord.id).Nodup := by
  intro inputs past world
  have h := run_ledger sampleRuntime inputs sampleMarket sampleBuyer (by decide +kernel)
  exact ⟨by decide +kernel, by decide +kernel, by decide +kernel, h.1, h.2.2.1⟩

end Settlement

end SolanaLab
