import SolanaLab.Settlement.SignedOrders

/-!
# Who Moves a Balance

What a trader has available goes down in three ways only: the trader withdraws
it, the settlement authority of the market settles a fill, or the authority
settles two signed orders, of which the one that pays is the trader's. In the
last case the order is for the side that pays, it has not expired, it accepts
the price, and the trader's signature over it was verified in the transaction.

What a trader has available goes up when the trader deposits or is paid by a
settlement.

The settlement authority of a market is the one it was set up with. Nothing
changes a market.

Which reason applies is read off the instruction, and the reasons are listed as
constructors of `Takes` and `Gives`, each with the exact amount. So a reader
can see at a glance what a trader consents to when he signs an order or trusts
a settlement authority.

## Main definitions

* `SignedFillArgs.payerOrder`: The order of the side that pays an asset.
* `Takes`: Why an instruction may take from a trader.
* `Gives`: Why an instruction gives to a trader.

## Theorems

* `settled_available`: What a settlement does to what a trader has available.
* `process_takes`, `process_gives`: An instruction moves a balance for one of
  these reasons.
* `process_market`: An instruction leaves the markets as they are.
* `balances_by_consent`: So it is after any run.
-/

namespace SolanaLab

namespace Settlement

open Checked

/-- The order of the side that pays an asset. -/
def SignedFillArgs.payerOrder (args : SignedFillArgs) : CustodyAsset → SignedOrderPayload
  | .base => args.sellerOrder
  | .quote => args.buyerOrder

/-- The side that pays an asset. -/
def CustodyAsset.payerSide : CustodyAsset → SignedOrderSide
  | .base => .ask
  | .quote => .bid

/-- The settlement authority of a market has signed. Whoever holds that key
    decides which fills are settled, and a plain fill needs nothing else. -/
def Authorized (env : Env) (accounts : Accounts) (market : Pubkey) : Prop :=
  ∃ config, accounts.get? market = some (.marketConfig config) ∧
    config.settlementAuthority ∈ env.signers

/-- Who pays an asset, as a settlement is asked for. -/
def SettlementRecord.payer (record : SettlementRecord) : CustodyAsset → Pubkey
  | .base => record.seller
  | .quote => record.buyer

/-- Who receives an asset, as a settlement is asked for. -/
def SettlementRecord.receiver (record : SettlementRecord) : CustodyAsset → Pubkey
  | .base => record.buyer
  | .quote => record.seller

/-- What a settlement moves of an asset, as it is asked for. -/
def SettlementRecord.amount (record : SettlementRecord) : CustodyAsset → Nat
  | .base => record.baseAmount
  | .quote => record.quoteAmount

/-- Why an instruction may take so much of an asset from a trader. The last
    constructor is the only one in which the trader's own signature on an order
    stands against the authority's wishes. -/
inductive Takes (rt : Runtime) (env : Env) (accounts : Accounts) (asset : CustodyAsset)
    (market trader : Pubkey) (taken : Nat) : Instruction → Prop
  | withdrawn {ctx : Withdraw} {amount : Word 64}
      (own : ctx.marketConfig = market ∧ ctx.trader = trader) (signed : trader ∈ env.signers)
      (sum : amount.val = taken) :
      Takes rt env accounts asset market trader taken (.withdraw ctx asset amount)
  | settled {ctx : SettleFill} {settlementId baseAmount quoteAmount : Word 64}
      {record : SettlementRecord} (authorized : Authorized env accounts market)
      (asked : (Instruction.settleFill ctx settlementId baseAmount quoteAmount).settlement
        = some record)
      (inMarket : record.marketConfig = market) (payer : record.payer asset = trader)
      (sum : record.amount asset = taken) :
      Takes rt env accounts asset market trader taken
        (.settleFill ctx settlementId baseAmount quoteAmount)
  | signed {ctx : SettleSignedFill} {settlementId : Word 64} {buyerOrderHash sellerOrderHash : Hash}
      {args : SignedFillArgs} {record : SettlementRecord}
      (authorized : Authorized env accounts market)
      (asked : (Instruction.settleSignedFill ctx settlementId buyerOrderHash sellerOrderHash
        args).settlement = some record)
      (sum : record.amount asset = taken)
      (own : (args.payerOrder asset).marketConfig = market ∧
        (args.payerOrder asset).trader = trader)
      (side : (args.payerOrder asset).side = asset.payerSide)
      (live : env.slot.val ≤ (args.payerOrder asset).expirySlot.val)
      (accepts : (args.payerOrder asset).Accepts args.fillPrice)
      (verified : env.VerifiedBefore rt trader (args.payerOrder asset).signingPreimage) :
      Takes rt env accounts asset market trader taken
        (.settleSignedFill ctx settlementId buyerOrderHash sellerOrderHash args)

/-- Why an instruction gives so much of an asset to a trader. Nobody has to
    agree to being paid. -/
inductive Gives (env : Env) (accounts : Accounts) (asset : CustodyAsset) (market trader : Pubkey)
    (given : Nat) : Instruction → Prop
  | deposited {ctx : Deposit} {amount : Word 64}
      (own : ctx.marketConfig = market ∧ ctx.trader = trader) (signed : trader ∈ env.signers)
      (sum : amount.val = given) :
      Gives env accounts asset market trader given (.deposit ctx asset amount)
  | settled {instruction : Instruction} {record : SettlementRecord}
      (authorized : Authorized env accounts market)
      (asked : instruction.settlement = some record) (inMarket : record.marketConfig = market)
      (receiver : record.receiver asset = trader) (sum : record.amount asset = given) :
      Gives env accounts asset market trader given instruction

section Step

variable {rt : Runtime} {env : Env} {seeds : List Seeds} {world world' : World}
  {instruction : Instruction} {asset : CustodyAsset} {market trader : Pubkey}

/-- Receipt and request name the same payer. -/
theorem SettlementReceipt.record_payer (receipt : SettlementReceipt) (asset : CustodyAsset) :
    receipt.record.payer asset = receipt.payer asset := by cases asset <;> rfl

/-- Receipt and request name the same receiver. -/
theorem SettlementReceipt.record_receiver (receipt : SettlementReceipt) (asset : CustodyAsset) :
    receipt.record.receiver asset = receipt.receiver asset := by cases asset <;> rfl

/-- Receipt and request name the same amount. -/
theorem SettlementReceipt.record_amount (receipt : SettlementReceipt) (asset : CustodyAsset) :
    receipt.record.amount asset = (receipt.amount asset).val := by cases asset <;> rfl

/-- What both settlements declare is checked against the market. -/
theorem authorized_of_load {ctx : SettleFill} {settlementId : Word 64} {loaded : SettlementAccounts}
    (h : loadSettlementAccounts rt env world.accounts ctx settlementId = .ok loaded) :
    Authorized env world.accounts ctx.marketConfig := by
  simp only [loadSettlementAccounts, bind_eq_ok, checkSigner_eq_ok, requireCode_eq_ok] at h
  rcases h with ⟨_, hsigned, config, hconfig, _, hauthority, -⟩
  exact ⟨config, loadMarketConfig_eq_ok hconfig, hauthority ▸ hsigned⟩

/-- A plain settlement was made with the authority's signature. -/
theorem settleFill_authorized {ctx : SettleFill} {settlementId baseAmount quoteAmount : Word 64}
    (h : process rt env world (.settleFill ctx settlementId baseAmount quoteAmount) = .ok world') :
    Authorized env world.accounts ctx.marketConfig := by
  simp only [process, settleFillHandler, bind_eq_ok] at h
  rcases h with ⟨loaded, hloaded, -⟩
  exact authorized_of_load hloaded

/-- So was a signed one. -/
theorem settleSignedFill_authorized {ctx : SettleSignedFill} {settlementId : Word 64}
    {buyerOrderHash sellerOrderHash : Hash} {args : SignedFillArgs}
    (h : process rt env world
      (.settleSignedFill ctx settlementId buyerOrderHash sellerOrderHash args) = .ok world') :
    Authorized env world.accounts ctx.marketConfig := by
  simp only [process, settleSignedFillHandler, bind_eq_ok] at h
  rcases h with ⟨loaded, hloaded, -⟩
  exact authorized_of_load hloaded

/-- What a settlement does to what a trader has available. -/
theorem settled_available {ctx : SettleFill} {receipt : SettlementReceipt}
    {fills : List (Pubkey × OrderFillState)} {config : MarketConfig}
    {buyer seller buyer' seller' : TraderMarketBalance}
    (h : Settled rt env world.accounts ctx receipt fills world'.accounts config buyer seller buyer'
      seller') (hsep : rt.Separates seeds) (hplaced : Placed rt seeds world.accounts)
    (hplaced' : Placed rt seeds world'.accounts) (hs : .traderBalance market trader ∈ seeds)
    (asset : CustodyAsset) :
    world'.available rt asset market trader
        + (if ctx.marketConfig = market ∧ receipt.payer asset = trader then
          (receipt.amount asset).val else 0)
      = world.available rt asset market trader
        + if ctx.marketConfig = market ∧ receipt.receiver asset = trader then
          (receipt.amount asset).val else 0 := by
  have hbalance := settled_balance h asset market trader
  have hpaid := settled_total h (f := Account.paidBy asset market trader) (fun _ => rfl)
  have hreceived := settled_total h (f := Account.receivedBy asset market trader) (fun _ => rfl)
  simp only [Account.paidBy, Account.receivedBy, h.parties.1, Nat.add_zero] at hpaid hreceived
  rw [available_eq_total hsep hplaced hs, available_eq_total hsep hplaced' hs]
  omega

/-- What an instruction that settles nothing does to what a trader has
    available. -/
theorem unsettled_available (h : process rt env world instruction = .ok world')
    (hsep : rt.Separates seeds) (hs : ∀ s ∈ instruction.seeds, s ∈ seeds)
    (hplaced : Placed rt seeds world.accounts) (hmem : .traderBalance market trader ∈ seeds)
    (hwrites : ∀ r, instruction.writes (.settlementReceipt r) = false) (asset : CustodyAsset) :
    world'.available rt asset market trader
        + withdrawnBy asset market trader (.invoke env instruction, .ok ())
      = world.available rt asset market trader
        + depositedBy asset market trader (.invoke env instruction, .ok ()) := by
  have hbalance := process_balance h hsep hs hplaced asset market trader
  have hplaced' := process_placed h hsep hs hplaced
  rw [process_total_receipts h hwrites (paidBy_of_ne asset market trader),
    process_total_receipts h hwrites (receivedBy_of_ne asset market trader)] at hbalance
  rw [available_eq_total hsep hplaced hmem, available_eq_total hsep hplaced' hmem]
  omega

/-- The order of the side that pays was presented, signed and in time. -/
theorem signedSettled_payer {ctx : SettleSignedFill} {settlementId : Word 64}
    {buyerOrderHash sellerOrderHash : Hash} {args : SignedFillArgs} {receipt : SettlementReceipt}
    {buyerOld buyerOpened buyerNew sellerOld sellerOpened sellerNew : OrderFillState}
    (h : SignedSettled rt env world.accounts ctx settlementId buyerOrderHash sellerOrderHash args
      receipt buyerOld buyerOpened buyerNew sellerOld sellerOpened sellerNew)
    (hparties : receipt.buyer = ctx.buyer ∧ receipt.seller = ctx.seller) (asset : CustodyAsset) :
    (args.payerOrder asset).side = asset.payerSide ∧
    ∃ key hash old opened new, OrderFilled rt env world.accounts key ctx.marketConfig
      (receipt.payer asset) hash (args.payerOrder asset) args.fillPrice args.fillQuantity old opened
      new := by
  cases asset with
  | base =>
      have hseller := h.seller
      rw [← hparties.2] at hseller
      exact ⟨h.sides.2, _, _, _, _, _, hseller⟩
  | quote =>
      have hbuyer := h.buyer
      rw [← hparties.1] at hbuyer
      exact ⟨h.sides.1, _, _, _, _, _, hbuyer⟩

/-- An instruction takes from a trader for one of the reasons there are. The
    amount comes out of the equations for the balance, by cases on the
    instruction. -/
theorem process_takes (h : process rt env world instruction = .ok world')
    (hrun : env.precompilesVerified rt = true) (hsep : rt.Separates seeds)
    (hs : ∀ s ∈ instruction.seeds, s ∈ seeds) (hplaced : Placed rt seeds world.accounts)
    (hmem : .traderBalance market trader ∈ seeds) {taken : Nat} (hpos : 0 < taken)
    (htaken : world'.available rt asset market trader + taken
      = world.available rt asset market trader) :
    Takes rt env world.accounts asset market trader taken instruction := by
  have hplaced' := process_placed h hsep hs hplaced
  cases instruction with
  | withdraw ctx a amount =>
      have hsum := unsettled_available h hsep hs hplaced hmem (fun _ => rfl) asset
      rcases withdrawHandler_eq_ok h with ⟨config, old, new, _, hw, -⟩
      simp only [withdrawnBy, depositedBy] at hsum
      -- Only the trader's own withdrawal of this asset in this market touches the amount.
      by_cases hown : a = asset ∧ ctx.marketConfig = market ∧ ctx.trader = trader
      · rw [if_pos hown] at hsum
        rcases hown with ⟨rfl, hmarket, rfl⟩
        exact .withdrawn ⟨hmarket, rfl⟩ hw.signer (by omega)
      · rw [if_neg hown] at hsum
        omega
  | settleFill ctx settlementId baseAmount quoteAmount =>
      rcases settleFillHandler_eq_ok h with
        ⟨-, receipt, _, _, _, _, _, hsettled, hid, hbase, hquote, -⟩
      have hsum := settled_available hsettled hsep hplaced hplaced' hmem asset
      have hauthorized := settleFill_authorized h
      have hasked : (Instruction.settleFill ctx settlementId baseAmount quoteAmount).settlement
          = some receipt.record := by
        rw [SettlementReceipt.record, hsettled.parties.1, hsettled.parties.2.1,
          hsettled.parties.2.2, hid, hbase, hquote]
        rfl
      by_cases hpays : ctx.marketConfig = market ∧ receipt.payer asset = trader
      · rw [if_pos hpays] at hsum
        rcases hpays with ⟨rfl, hpayer⟩
        -- Who pays and receives at once loses nothing.
        by_cases hreceives : receipt.receiver asset = trader
        · rw [if_pos ⟨rfl, hreceives⟩] at hsum
          omega
        · rw [if_neg (fun hall => hreceives hall.2)] at hsum
          refine .settled hauthorized hasked hsettled.parties.1 ?_ ?_
          · rw [receipt.record_payer, hpayer]
          · rw [receipt.record_amount]
            omega
      · rw [if_neg hpays] at hsum
        omega
  | settleSignedFill ctx settlementId buyerOrderHash sellerOrderHash args =>
      rcases settleSignedFillHandler_eq_ok h with ⟨-, receipt, _, _, _, _, _, _, _, _, _, _, _,
        hsettled, hsigned⟩
      have hsum := settled_available hsettled hsep hplaced hplaced' hmem asset
      have hauthorized := settleSignedFill_authorized h
      have hasked : (Instruction.settleSignedFill ctx settlementId buyerOrderHash sellerOrderHash
          args).settlement = some receipt.record := by
        rw [SettlementReceipt.record, hsettled.parties.1, hsettled.parties.2.1,
          hsettled.parties.2.2, hsigned.settlementId, hsigned.baseAmount, hsigned.quoteAmount]
        rfl
      by_cases hpays : ctx.marketConfig = market ∧ receipt.payer asset = trader
      · rw [if_pos hpays] at hsum
        rcases hpays with ⟨rfl, rfl⟩
        by_cases hreceives : receipt.receiver asset = receipt.payer asset
        · rw [if_pos ⟨rfl, hreceives⟩] at hsum
          omega
        · rw [if_neg (fun hall => hreceives hall.2)] at hsum
          -- The order of the side that pays is the trader's, and everything about it was
          -- checked.
          rcases signedSettled_payer hsigned hsettled.parties.2 asset with
            ⟨hside, key, hash, old, opened, new, hfilled⟩
          rcases hfilled.signed with ⟨_, place, _, hplace, hverify⟩
          refine .signed hauthorized hasked ?_ ⟨hfilled.orderMarket, hfilled.orderTrader⟩ hside
            hfilled.live hfilled.accepts (verifiedBefore_of_previous hrun hplace hverify)
          rw [receipt.record_amount]
          omega
      · rw [if_neg hpays] at hsum
        omega
  | deposit ctx a amount =>
      have hsum := unsettled_available h hsep hs hplaced hmem (fun _ => rfl) asset
      simp only [withdrawnBy] at hsum
      omega
  | _ =>
      have hsum := unsettled_available h hsep hs hplaced hmem (fun _ => rfl) asset
      simp only [withdrawnBy, depositedBy] at hsum
      omega

/-- An instruction gives to a trader for one of the reasons there are. Here the
    two settlements need not be told apart. -/
theorem process_gives (h : process rt env world instruction = .ok world')
    (hsep : rt.Separates seeds) (hs : ∀ s ∈ instruction.seeds, s ∈ seeds)
    (hplaced : Placed rt seeds world.accounts) (hmem : .traderBalance market trader ∈ seeds)
    {given : Nat} (hpos : 0 < given)
    (hgiven : world'.available rt asset market trader
      = world.available rt asset market trader + given) :
    Gives env world.accounts asset market trader given instruction := by
  have hplaced' := process_placed h hsep hs hplaced
  -- Both settlements give for the reason their receipt states.
  have hsettles : ∀ {ctx : SettleFill} {receipt : SettlementReceipt}
      {fills : List (Pubkey × OrderFillState)} {config : MarketConfig}
      {buyer seller buyer' seller' : TraderMarketBalance},
      Settled rt env world.accounts ctx receipt fills world'.accounts config buyer seller buyer'
        seller' → Authorized env world.accounts ctx.marketConfig →
      instruction.settlement = some receipt.record →
      Gives env world.accounts asset market trader given instruction := by
    intro ctx receipt fills config buyer seller buyer' seller' hsettled hauthorized hasked
    have hsum := settled_available hsettled hsep hplaced hplaced' hmem asset
    by_cases hreceives : ctx.marketConfig = market ∧ receipt.receiver asset = trader
    · rw [if_pos hreceives] at hsum
      rcases hreceives with ⟨rfl, hreceiver⟩
      -- Who pays and receives at once has no more than before.
      by_cases hpays : receipt.payer asset = trader
      · rw [if_pos ⟨rfl, hpays⟩] at hsum
        omega
      · rw [if_neg (fun hall => hpays hall.2)] at hsum
        refine .settled hauthorized hasked hsettled.parties.1 ?_ ?_
        · rw [receipt.record_receiver, hreceiver]
        · rw [receipt.record_amount]
          omega
    · rw [if_neg hreceives] at hsum
      omega
  cases instruction with
  | deposit ctx a amount =>
      have hsum := unsettled_available h hsep hs hplaced hmem (fun _ => rfl) asset
      rcases depositHandler_eq_ok h with ⟨config, old, new, hd⟩
      simp only [withdrawnBy, depositedBy] at hsum
      by_cases hown : a = asset ∧ ctx.marketConfig = market ∧ ctx.trader = trader
      · rw [if_pos hown] at hsum
        rcases hown with ⟨rfl, hmarket, rfl⟩
        exact .deposited ⟨hmarket, rfl⟩ hd.signer (by omega)
      · rw [if_neg hown] at hsum
        omega
  | settleFill ctx settlementId baseAmount quoteAmount =>
      rcases settleFillHandler_eq_ok h with
        ⟨-, receipt, _, _, _, _, _, hsettled, hid, hbase, hquote, -⟩
      refine hsettles hsettled (settleFill_authorized h) ?_
      rw [SettlementReceipt.record, hsettled.parties.1, hsettled.parties.2.1, hsettled.parties.2.2,
        hid, hbase, hquote]
      rfl
  | settleSignedFill ctx settlementId buyerOrderHash sellerOrderHash args =>
      rcases settleSignedFillHandler_eq_ok h with ⟨-, receipt, _, _, _, _, _, _, _, _, _, _, _,
        hsettled, hsigned⟩
      refine hsettles hsettled (settleSignedFill_authorized h) ?_
      rw [SettlementReceipt.record, hsettled.parties.1, hsettled.parties.2.1, hsettled.parties.2.2,
        hsigned.settlementId, hsigned.baseAmount, hsigned.quoteAmount]
      rfl
  -- The remaining instructions give nobody anything.
  | withdraw ctx a amount =>
      have hsum := unsettled_available h hsep hs hplaced hmem (fun _ => rfl) asset
      simp only [depositedBy] at hsum
      omega
  | _ =>
      have hsum := unsettled_available h hsep hs hplaced hmem (fun _ => rfl) asset
      simp only [withdrawnBy, depositedBy] at hsum
      omega

/-- An instruction leaves the markets that are there as they are. -/
theorem process_market (h : process rt env world instruction = .ok world') {key : Pubkey}
    {config : MarketConfig} (hget : world.accounts.get? key = some (.marketConfig config)) :
    world'.accounts.get? key = some (.marketConfig config) := by
  cases instruction with
  | initializeMarket ctx =>
      rcases initializeMarketHandler_eq_ok h with ⟨-, new, hmarket⟩
      rw [hmarket.after, SortedMap.get?_insert_of_ne]
      · exact hget
      · -- A new market is put where nothing is.
        rintro rfl
        rw [hmarket.fresh] at hget
        exact absurd hget (by simp only [reduceCtorEq, not_false_eq_true])
  | _ => exact (process_frame h rfl key).mpr hget

end Step

/-- What a trader has available, after any run and through any next input. It
    goes down only for a reason that the trader has signed for, or that the
    settlement authority of the market has, and then by as much as that says.
    It goes up only by a deposit of the trader or what a settlement pays. The
    markets stay what they were set up to be, their authorities included. -/
theorem balances_by_consent (rt : Runtime) (inputs : List Input) (market trader : Pubkey)
    (asset : CustodyAsset) (input : Input)
    (hsep : rt.Separates (.traderBalance market trader :: seedsOf (inputs ++ [input]))) :
    let world := Run.after (step rt) World.empty inputs
    let next := (step rt world input).2
    (∀ taken, 0 < taken →
      next.available rt asset market trader + taken = world.available rt asset market trader →
      ∃ env instruction, input = .invoke env instruction ∧
        Takes rt env world.accounts asset market trader taken instruction) ∧
    (∀ given, 0 < given →
      next.available rt asset market trader = world.available rt asset market trader + given →
      ∃ env instruction, input = .invoke env instruction ∧
        Gives env world.accounts asset market trader given instruction) ∧
    ∀ key config, world.accounts.get? key = some (.marketConfig config) →
      next.accounts.get? key = some (.marketConfig config) := by
  intro world next
  have hinput : ∀ i ∈ inputs ++ [input], ∀ s ∈ i.seeds,
      s ∈ .traderBalance market trader :: seedsOf (inputs ++ [input]) :=
    fun i hi s hs => List.mem_cons_of_mem _ (List.mem_flatMap.mpr ⟨i, hi, hs⟩)
  -- All accounts so far are where they belong, whatever has happened.
  have hplaced : Placed rt (.traderBalance market trader :: seedsOf (inputs ++ [input]))
      world.accounts := by
    refine (Run.invariant_along (step rt)
      (C := fun _ i => ∀ s ∈ i.seeds,
        s ∈ .traderBalance market trader :: seedsOf (inputs ++ [input]))
      (ledgerKept_empty rt _ market trader)
      (fun past world input h hs => step_ledgerKept hsep hs h)
      (Run.along_of_forall (step rt) (fun i hi s hs => ?_) _)).placed
    exact hinput i (List.mem_append_left _ hi) s hs
  rcases step_cases rt world input with ⟨e, he⟩ | ⟨ledger, rfl, hstep⟩ |
    ⟨env, instruction, world', rfl, hrun, hp, hstep⟩
  · have hnext : next = world := congrArg Prod.snd he
    rw [hnext]
    exact ⟨fun taken hpos htaken => by omega, fun given hpos hgiven => by omega,
      fun _ _ hget => hget⟩
  · have hnext : next = { world with tokens := ledger } := congrArg Prod.snd hstep
    have hsame : next.available rt asset market trader
        = world.available rt asset market trader := by
      rw [hnext]
      rfl
    refine ⟨fun taken hpos htaken => by omega, fun given hpos hgiven => by omega,
      fun key config hget => ?_⟩
    rw [hnext]
    exact hget
  · have hnext : next = world' := congrArg Prod.snd hstep
    have hs : ∀ s ∈ instruction.seeds, s ∈ .traderBalance market trader ::
        seedsOf (inputs ++ [.invoke env instruction]) :=
      hinput _ (List.mem_append_right _ List.mem_cons_self)
    rw [hnext]
    exact ⟨fun taken hpos htaken => ⟨env, instruction, rfl,
        process_takes hp hrun hsep hs hplaced List.mem_cons_self hpos htaken⟩,
      fun given hpos hgiven => ⟨env, instruction, rfl,
        process_gives hp hsep hs hplaced List.mem_cons_self hpos hgiven⟩,
      fun key config hget => process_market hp hget⟩

/-- A signed fill takes from the buyer of the sample market what its bid
    allows. -/
theorem balances_by_consent_bid :
    let world := Run.after (step sampleSignedRuntime) World.empty (sampleDeposits none)
    let next := (step sampleSignedRuntime world (sampleSignedFill 7 40 sampleReceipt7)).2
    next.available sampleSignedRuntime .quote sampleMarket sampleBuyer + 880
        = world.available sampleSignedRuntime .quote sampleMarket sampleBuyer ∧
      ∃ env instruction, sampleSignedFill 7 40 sampleReceipt7 = .invoke env instruction ∧
        Takes sampleSignedRuntime env world.accounts .quote sampleMarket sampleBuyer 880
          instruction := by
  intro world next
  have h := balances_by_consent sampleSignedRuntime (sampleDeposits none) sampleMarket sampleBuyer
    .quote (sampleSignedFill 7 40 sampleReceipt7) (by decide +kernel)
  have htaken : next.available sampleSignedRuntime .quote sampleMarket sampleBuyer + 880
      = world.available sampleSignedRuntime .quote sampleMarket sampleBuyer := by decide +kernel
  exact ⟨htaken, h.1 880 (by decide) htaken⟩

end Settlement

end SolanaLab
