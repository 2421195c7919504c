import SolanaLab.Settlement.Token

/-!
# Custody

The instructions that set a market up and those that move tokens in and out of
its vaults: `initialize_protocol`, `initialize_market`, `deposit` and
`withdraw`.

A handler takes the accounts of its instruction by address, loads and checks
them in the order they are declared, and returns the world it leaves or the
error it fails with. The world is the program's accounts and the token
ledger.

Two structures say what a successful deposit and a successful withdrawal have
found and done. Later proofs use their fields and never unfold a handler.

Tokens and records move together here and nowhere else. A deposit checks the
token accounts, moves the tokens and then records the amount; a withdrawal
takes the amount off the record first and then moves the tokens, so that the
program fails before it asks for tokens it does not owe.

## Main definitions

* `World`: The accounts and the token ledger.
* `TraderMarketBalance.add`: More of an asset available.
* `TraderMarketBalance.sub`: Less of an asset available.
* `depositHandler`: Tokens moved into a vault and recorded.
* `withdrawHandler`: Recorded tokens moved out of a vault.
* `Deposited`: What a successful deposit found and did.
* `Withdrawn`: What a successful withdrawal found and did.

## Theorems

* `add_eq_ok`, `sub_eq_ok`: What a change of a balance does.
* `depositHandler_eq_ok`: A successful deposit.
* `withdrawHandler_eq_ok`: A successful withdrawal.
* `withdrawHandler_insufficient`: A withdrawal short of vault tokens.
-/

namespace SolanaLab

namespace Settlement

open Checked

/-- The accounts of the program and the token ledger. The ledger is shared with
    everyone else, the accounts are the program's own. -/
structure World where
  accounts : Accounts
  tokens : TokenLedger
deriving DecidableEq

/-- No account of the program exists. -/
def World.empty : World := ⟨SortedMap.empty, TokenLedger.empty⟩

/-- The accounts of `initialize_protocol`. The signer becomes the admin. -/
structure InitializeProtocol where
  admin : Pubkey
  protocolConfig : Pubkey
deriving DecidableEq

/-- The accounts of `initialize_market`. The settlement authority is any key the
    admin names. -/
structure InitializeMarket where
  admin : Pubkey
  protocolConfig : Pubkey
  marketConfig : Pubkey
  baseMint : Pubkey
  quoteMint : Pubkey
  baseVault : Pubkey
  quoteVault : Pubkey
  vaultAuthority : Pubkey
  settlementAuthority : Pubkey
deriving DecidableEq

/-- The accounts of `deposit`. Which asset is meant is an argument, and mint and
    vault have to be that asset's. -/
structure Deposit where
  trader : Pubkey
  marketConfig : Pubkey
  traderBalance : Pubkey
  source : Pubkey
  vault : Pubkey
  mint : Pubkey
deriving DecidableEq

/-- The accounts of `withdraw`. Other than for a deposit the balance has to
    exist. -/
structure Withdraw where
  trader : Pubkey
  marketConfig : Pubkey
  traderBalance : Pubkey
  vault : Pubkey
  destination : Pubkey
  mint : Pubkey
  vaultAuthority : Pubkey
deriving DecidableEq

/-- A market account, with the seeds and the bump it stores. -/
def loadMarketConfig (rt : Runtime) (accounts : Accounts) (key : Pubkey) :
    Except ProgramError MarketConfig := do
  let market ← load Account.marketConfig? accounts key
  checkSeeds rt key (.marketConfig market.baseMint market.quoteMint) market.bump
  return market

/-- `initialize_protocol_handler`. -/
def initializeProtocolHandler (rt : Runtime) (env : Env) (world : World)
    (ctx : InitializeProtocol) : Except ProgramError World := do
  checkSigner env ctx.admin
  init rt world.accounts ctx.protocolConfig .protocolConfig
  let protocolConfig : ProtocolConfig := { admin := ctx.admin, bump := rt.bump .protocolConfig }
  return { world with
    accounts := world.accounts.insert ctx.protocolConfig (.protocolConfig protocolConfig) }

/-- `initialize_market_handler`. -/
def initializeMarketHandler (rt : Runtime) (env : Env) (world : World)
    (ctx : InitializeMarket) : Except ProgramError World := do
  checkSigner env ctx.admin
  let protocolConfig ← load Account.protocolConfig? world.accounts ctx.protocolConfig
  checkSeeds rt ctx.protocolConfig .protocolConfig protocolConfig.bump
  requireCode (protocolConfig.admin = ctx.admin) .unauthorizedAdmin
  init rt world.accounts ctx.marketConfig (.marketConfig ctx.baseMint ctx.quoteMint)
  require (ctx.vaultAuthority = rt.address (.vaultAuthority ctx.marketConfig))
    (.anchor .constraintSeeds)
  requireCode (ctx.baseMint ≠ ctx.quoteMint) .sameMarketMints
  requireCode (ctx.baseVault ≠ ctx.quoteVault) .sameMarketVaults
  let marketConfig : MarketConfig := {
    protocolConfig := ctx.protocolConfig
    admin := ctx.admin
    settlementAuthority := ctx.settlementAuthority
    baseMint := ctx.baseMint
    quoteMint := ctx.quoteMint
    baseVault := ctx.baseVault
    quoteVault := ctx.quoteVault
    vaultAuthority := ctx.vaultAuthority
    vaultAuthorityBump := rt.bump (.vaultAuthority ctx.marketConfig)
    paused := false
    bump := rt.bump (.marketConfig ctx.baseMint ctx.quoteMint) }
  return { world with
    accounts := world.accounts.insert ctx.marketConfig (.marketConfig marketConfig) }

namespace TraderMarketBalance

/-- `checked_add` on the amount of an asset. -/
def add (balance : TraderMarketBalance) (asset : CustodyAsset) (amount : Word 64)
    (e : ErrorCode) : Except ProgramError TraderMarketBalance :=
  match asset with
  | .base => do
    let availableBase ← okOr (checkedAdd balance.availableBase amount) (.code e)
    return { balance with availableBase }
  | .quote => do
    let availableQuote ← okOr (checkedAdd balance.availableQuote amount) (.code e)
    return { balance with availableQuote }

/-- `checked_sub` on the amount of an asset. -/
def sub (balance : TraderMarketBalance) (asset : CustodyAsset) (amount : Word 64)
    (e : ErrorCode) : Except ProgramError TraderMarketBalance :=
  match asset with
  | .base => do
    let availableBase ← okOr (checkedSub balance.availableBase amount) (.code e)
    return { balance with availableBase }
  | .quote => do
    let availableQuote ← okOr (checkedSub balance.availableQuote amount) (.code e)
    return { balance with availableQuote }

end TraderMarketBalance

/-- `deposit_handler`. What is recorded is the amount sent, whatever arrives in
    the vault. -/
def depositHandler (rt : Runtime) (env : Env) (world : World) (ctx : Deposit)
    (asset : CustodyAsset) (amount : Word 64) : Except ProgramError World := do
  checkSigner env ctx.trader
  let market ← loadMarketConfig rt world.accounts ctx.marketConfig
  let traderBalance ← initIfNeeded rt Account.traderMarketBalance? TraderMarketBalance.zeroed
    world.accounts ctx.traderBalance (.traderBalance ctx.marketConfig ctx.trader)
  let source ← world.tokens.loadAccount ctx.source
  let vault ← world.tokens.loadAccount ctx.vault
  let mint ← world.tokens.loadMint ctx.mint
  -- The accounts are valid, and the body of the handler begins.
  requireCode (market.paused = false) .marketPaused
  requireCode (0 < amount.val) .invalidDepositAmount
  requireCode (ctx.mint = market.mint asset) .invalidDepositMint
  requireCode (source.mint = market.mint asset) .invalidDepositSource
  requireCode (source.owner = ctx.trader) .invalidDepositSource
  requireCode (ctx.vault = market.vault asset) .invalidMarketVault
  requireCode (vault.mint = market.mint asset) .invalidMarketVault
  requireCode (vault.owner = market.vaultAuthority) .invalidMarketVaultAuthority
  let tokens ← world.tokens.transferChecked ctx.source ctx.mint ctx.vault ctx.trader amount
    mint.decimals
  -- A balance created by this deposit has no market yet.
  let opened : TraderMarketBalance :=
    if traderBalance.marketConfig = Pubkey.default then
      { traderBalance with
        marketConfig := ctx.marketConfig
        trader := ctx.trader
        bump := rt.bump (.traderBalance ctx.marketConfig ctx.trader) }
    else traderBalance
  let credited ← opened.add asset amount .balanceOverflow
  return {
    accounts := world.accounts.insert ctx.traderBalance (.traderMarketBalance credited)
    tokens }

/-- `withdraw_handler`. The vault authority signs the transfer under the seeds
    its account was checked with, which no one but the program can do. -/
def withdrawHandler (rt : Runtime) (env : Env) (world : World) (ctx : Withdraw)
    (asset : CustodyAsset) (amount : Word 64) : Except ProgramError World := do
  checkSigner env ctx.trader
  let market ← loadMarketConfig rt world.accounts ctx.marketConfig
  let traderBalance ← load Account.traderMarketBalance? world.accounts ctx.traderBalance
  checkSeeds rt ctx.traderBalance (.traderBalance ctx.marketConfig ctx.trader) traderBalance.bump
  require (traderBalance.marketConfig = ctx.marketConfig) (.anchor .constraintHasOne)
  require (traderBalance.trader = ctx.trader) (.anchor .constraintHasOne)
  let vault ← world.tokens.loadAccount ctx.vault
  let destination ← world.tokens.loadAccount ctx.destination
  let mint ← world.tokens.loadMint ctx.mint
  checkSeeds rt ctx.vaultAuthority (.vaultAuthority ctx.marketConfig) market.vaultAuthorityBump
  -- The accounts are valid, and the body of the handler begins.
  requireCode (market.paused = false) .marketPaused
  requireCode (0 < amount.val) .invalidWithdrawAmount
  requireCode (ctx.mint = market.mint asset) .invalidWithdrawMint
  requireCode (destination.mint = market.mint asset) .invalidWithdrawDestination
  requireCode (destination.owner = ctx.trader) .invalidWithdrawDestination
  requireCode (ctx.vault = market.vault asset) .invalidMarketVault
  requireCode (vault.mint = market.mint asset) .invalidMarketVault
  requireCode (vault.owner = market.vaultAuthority) .invalidMarketVaultAuthority
  requireCode (ctx.vaultAuthority = market.vaultAuthority) .invalidMarketVaultAuthority
  -- The record gives first: without enough on it no token moves.
  let debited ← traderBalance.sub asset amount .insufficientAvailableBalance
  let tokens ← world.tokens.transferChecked ctx.vault ctx.mint ctx.destination ctx.vaultAuthority
    amount mint.decimals
  return {
    accounts := world.accounts.insert ctx.traderBalance (.traderMarketBalance debited)
    tokens }

/-! ### What a successful instruction found and did -/

/-- A market that was loaded is there. -/
theorem loadMarketConfig_eq_ok {rt : Runtime} {accounts : Accounts} {key : Pubkey}
    {market : MarketConfig} (h : loadMarketConfig rt accounts key = .ok market) :
    accounts.get? key = some (.marketConfig market) := by
  simp only [loadMarketConfig, bind_eq_ok, load_eq_ok, Account.marketConfig?_eq_some] at h
  rcases h with ⟨_, ⟨account, hget, rfl⟩, _, -, hmarket⟩
  rw [hget, Except.ok.inj hmarket]

/-- A successful initialization of the protocol. -/
theorem initializeProtocolHandler_eq_ok {rt : Runtime} {env : Env} {world world' : World}
    {ctx : InitializeProtocol} (h : initializeProtocolHandler rt env world ctx = .ok world') :
    world'.tokens = world.tokens ∧ ctx.protocolConfig = rt.address .protocolConfig ∧
      world.accounts.get? ctx.protocolConfig = none ∧ ∃ config,
      world'.accounts = world.accounts.insert ctx.protocolConfig (.protocolConfig config) := by
  simp only [initializeProtocolHandler, bind_eq_ok, checkSigner_eq_ok, init_eq_ok] at h
  rcases h with ⟨_, -, _, ⟨haddress, hnew⟩, hworld⟩
  rw [← Except.ok.inj hworld]
  exact ⟨rfl, haddress, hnew, _, rfl⟩

/-- A successful initialization of a market: its two vaults differ, and its
    vault authority is the address derived for it. -/
structure MarketInitialized (rt : Runtime) (accounts : Accounts) (ctx : InitializeMarket)
    (accounts' : Accounts) (market : MarketConfig) : Prop where
  address : ctx.marketConfig = rt.address (.marketConfig ctx.baseMint ctx.quoteMint)
  fresh : accounts.get? ctx.marketConfig = none
  mints : market.baseMint = ctx.baseMint ∧ market.quoteMint = ctx.quoteMint
  vaults : market.baseVault ≠ market.quoteVault
  authority : market.vaultAuthority = rt.address (.vaultAuthority ctx.marketConfig)
  after : accounts' = accounts.insert ctx.marketConfig (.marketConfig market)

/-- A market that was set up is at its address, with two different vaults. -/
theorem initializeMarketHandler_eq_ok {rt : Runtime} {env : Env} {world world' : World}
    {ctx : InitializeMarket} (h : initializeMarketHandler rt env world ctx = .ok world') :
    world'.tokens = world.tokens ∧ ∃ market,
      MarketInitialized rt world.accounts ctx world'.accounts market := by
  simp only [initializeMarketHandler, bind_eq_ok, checkSigner_eq_ok, requireCode_eq_ok,
    require_eq_ok, init_eq_ok] at h
  rcases h with ⟨_, -, _, -, _, -, _, -, _, ⟨haddress, hnew⟩, _, hauthority, _, -, _, hvaults,
    hworld⟩
  rw [← Except.ok.inj hworld]
  exact ⟨rfl, _, haddress, hnew, ⟨rfl, rfl⟩, hvaults, hauthority, rfl⟩

/-- More of one asset, and everything else as it was. -/
theorem add_eq_ok {balance balance' : TraderMarketBalance} {asset : CustodyAsset}
    {amount : Word 64} {e : ErrorCode} (h : balance.add asset amount e = .ok balance') :
    balance'.marketConfig = balance.marketConfig ∧ balance'.trader = balance.trader ∧
      ∀ a, (balance'.available a).val
        = (balance.available a).val + if a = asset then amount.val else 0 := by
  cases asset <;>
    (simp only [TraderMarketBalance.add, bind_eq_ok, okOr_eq_ok, checkedAdd_eq_some] at h
     rcases h with ⟨v, hv, hb⟩
     rw [← Except.ok.inj hb]
     refine ⟨rfl, rfl, fun a => ?_⟩
     cases a <;> simp only [TraderMarketBalance.available, hv, if_true, reduceCtorEq, if_false,
       Nat.add_zero])

/-- Less of one asset, and everything else as it was. -/
theorem sub_eq_ok {balance balance' : TraderMarketBalance} {asset : CustodyAsset}
    {amount : Word 64} {e : ErrorCode} (h : balance.sub asset amount e = .ok balance') :
    balance'.marketConfig = balance.marketConfig ∧ balance'.trader = balance.trader ∧
      ∀ a, (balance'.available a).val + (if a = asset then amount.val else 0)
        = (balance.available a).val := by
  cases asset <;>
    (simp only [TraderMarketBalance.sub, bind_eq_ok, okOr_eq_ok, checkedSub_eq_some] at h
     rcases h with ⟨v, hv, hb⟩
     rw [← Except.ok.inj hb]
     refine ⟨rfl, rfl, fun a => ?_⟩
     cases a <;> simp only [TraderMarketBalance.available, hv, if_true, reduceCtorEq, if_false,
       Nat.add_zero])

/-- A successful deposit: the market it is for, and the trader's balance before
    and after. -/
structure Deposited (rt : Runtime) (env : Env) (world : World) (ctx : Deposit)
    (asset : CustodyAsset) (amount : Word 64) (world' : World) (market : MarketConfig)
    (old new : TraderMarketBalance) : Prop where
  signer : ctx.trader ∈ env.signers
  marketAccount : world.accounts.get? ctx.marketConfig = some (.marketConfig market)
  address : ctx.traderBalance = rt.address (.traderBalance ctx.marketConfig ctx.trader)
  before : (world.accounts.get? ctx.traderBalance = none ∧ old = .zeroed) ∨
    world.accounts.get? ctx.traderBalance = some (.traderMarketBalance old)
  opened : (old.marketConfig = Pubkey.default ∧ new.marketConfig = ctx.marketConfig ∧
      new.trader = ctx.trader) ∨
    (new.marketConfig = old.marketConfig ∧ new.trader = old.trader ∧
      old.marketConfig ≠ Pubkey.default)
  available : ∀ a, (new.available a).val
    = (old.available a).val + if a = asset then amount.val else 0
  vaultKey : ctx.vault = market.vault asset
  mintKey : ctx.mint = market.mint asset
  sourceAccount : ∃ source, world.tokens.accounts.get? ctx.source = some source ∧
    source.owner = ctx.trader
  vaultAccount : ∃ vault, world.tokens.accounts.get? ctx.vault = some vault ∧
    vault.mint = market.mint asset ∧ vault.owner = market.vaultAuthority
  transfer : ∃ decimals, world.tokens.transferChecked ctx.source ctx.mint ctx.vault ctx.trader
    amount decimals = .ok world'.tokens
  after : world'.accounts
    = world.accounts.insert ctx.traderBalance (.traderMarketBalance new)

/-- A deposit that succeeds has moved the tokens to the market's vault of the
    asset and recorded the amount for the trader. -/
theorem depositHandler_eq_ok {rt : Runtime} {env : Env} {world world' : World} {ctx : Deposit}
    {asset : CustodyAsset} {amount : Word 64}
    (h : depositHandler rt env world ctx asset amount = .ok world') :
    ∃ market old new, Deposited rt env world ctx asset amount world' market old new := by
  simp only [depositHandler, bind_eq_ok, checkSigner_eq_ok, initIfNeeded_eq_ok, requireCode_eq_ok,
    TokenLedger.loadAccount_eq_ok, TokenLedger.loadMint_eq_ok,
    Account.traderMarketBalance?_eq_some] at h
  rcases h with ⟨_, hsigner, market, hmarket, old, ⟨haddress, hold⟩, source, hsource, vault, hvault,
    mint, -, _, -, _, -, _, hmint, _, -, _, howner, _, hkey, _, hvmint, _, hvowner, tokens,
    htransfer, new, hnew, hworld⟩
  rw [← Except.ok.inj hworld]
  have hadd := add_eq_ok hnew
  refine ⟨market, old, new, hsigner, loadMarketConfig_eq_ok hmarket, haddress, ?_, ?_, ?_, hkey,
    hmint, ⟨source, hsource, howner⟩, ⟨vault, hvault, hvmint, hvowner⟩, ⟨mint.decimals, htransfer⟩,
    rfl⟩
  · -- The balance is created here or was there already.
    rcases hold with ⟨hnone, hzero⟩ | ⟨account, hget, rfl⟩
    · exact Or.inl ⟨hnone, hzero.symm⟩
    · exact Or.inr hget
  · -- A balance that names no market yet is claimed for this one.
    by_cases hdefault : old.marketConfig = Pubkey.default
    · rw [if_pos hdefault] at hadd
      exact Or.inl ⟨hdefault, hadd.1, hadd.2.1⟩
    · rw [if_neg hdefault] at hadd
      exact Or.inr ⟨hadd.1, hadd.2.1, hdefault⟩
  · intro a
    -- Naming the market leaves both amounts as they are.
    rw [hadd.2.2 a]
    by_cases hdefault : old.marketConfig = Pubkey.default
    · rw [if_pos hdefault]
      cases a <;> rfl
    · rw [if_neg hdefault]

/-- A withdrawal up to its token transfer, whatever becomes of that: the market
    it is for, and the trader's balance before and after. -/
structure Withdrawn (env : Env) (world : World) (ctx : Withdraw) (asset : CustodyAsset)
    (amount : Word 64) (market : MarketConfig) (old new : TraderMarketBalance) : Prop where
  signer : ctx.trader ∈ env.signers
  marketAccount : world.accounts.get? ctx.marketConfig = some (.marketConfig market)
  before : world.accounts.get? ctx.traderBalance = some (.traderMarketBalance old)
  owner : old.marketConfig = ctx.marketConfig ∧ old.trader = ctx.trader
  unchanged : new.marketConfig = old.marketConfig ∧ new.trader = old.trader
  positive : 0 < amount.val
  available : ∀ a, (new.available a).val + (if a = asset then amount.val else 0)
    = (old.available a).val
  vaultKey : ctx.vault = market.vault asset
  mintKey : ctx.mint = market.mint asset
  destinationAccount : ∃ destination,
    world.tokens.accounts.get? ctx.destination = some destination ∧
      destination.owner = ctx.trader
  vaultAccount : ∃ vault, world.tokens.accounts.get? ctx.vault = some vault ∧
    vault.mint = market.mint asset ∧ vault.owner = market.vaultAuthority

/-- A withdrawal that succeeds has taken the amount off the trader's record and
    moved as much out of the vault of the asset. -/
theorem withdrawHandler_eq_ok {rt : Runtime} {env : Env} {world world' : World} {ctx : Withdraw}
    {asset : CustodyAsset} {amount : Word 64}
    (h : withdrawHandler rt env world ctx asset amount = .ok world') :
    ∃ market old new decimals, Withdrawn env world ctx asset amount market old new ∧
      world.tokens.transferChecked ctx.vault ctx.mint ctx.destination ctx.vaultAuthority amount
        decimals = .ok world'.tokens ∧
      world'.accounts = world.accounts.insert ctx.traderBalance (.traderMarketBalance new) := by
  simp only [withdrawHandler, bind_eq_ok, checkSigner_eq_ok, load_eq_ok, require_eq_ok,
    requireCode_eq_ok, TokenLedger.loadAccount_eq_ok, TokenLedger.loadMint_eq_ok,
    Account.traderMarketBalance?_eq_some] at h
  rcases h with ⟨_, hsigner, market, hmarket, old, ⟨_, hget, rfl⟩, _, -, _, hm, _, ht, vault,
    hvault, destination, hdestination, mint, -, _, -, _, -, _, hpos, _, hmint, _, -, _, howner, _,
    hkey, _, hvmint, _, hvowner, _, -, new, hnew, tokens, htransfer, hworld⟩
  rw [← Except.ok.inj hworld]
  have hsub := sub_eq_ok hnew
  exact ⟨market, old, new, mint.decimals, ⟨hsigner, loadMarketConfig_eq_ok hmarket, hget,
    ⟨hm, ht⟩, ⟨hsub.1, hsub.2.1⟩, hpos, hsub.2.2, hkey, hmint, ⟨destination, hdestination, howner⟩,
    ⟨vault, hvault, hvmint, hvowner⟩⟩, htransfer, rfl⟩

/-- Loading an account never fails with an error of a token transfer. -/
theorem load_ne_token {α : Type} {kind : Account → Option α} {accounts : Accounts} {key : Pubkey}
    {e : TokenError} : load kind accounts key ≠ .error (.token e) := by
  unfold load
  cases accounts.get? key with
  | none => simp only [ne_eq, Except.error.injEq, reduceCtorEq, not_false_eq_true]
  | some account => simp only [ne_eq, okOr_eq_error, reduceCtorEq, and_false, not_false_eq_true]

/-- Nor does loading a market. -/
theorem loadMarketConfig_ne_token {rt : Runtime} {accounts : Accounts} {key : Pubkey}
    {e : TokenError} : loadMarketConfig rt accounts key ≠ .error (.token e) := by
  simp only [loadMarketConfig, ne_eq, bind_eq_error, load_ne_token, checkSeeds, require_eq_error,
    pure, Except.pure, reduceCtorEq, and_false, or_self, exists_false, not_false_eq_true]

/-- Nor does a subtraction from a balance. The three are what singles out the
    transfer in `withdrawHandler_insufficient`. -/
theorem sub_ne_token {balance : TraderMarketBalance} {asset : CustodyAsset} {amount : Word 64}
    {e : ErrorCode} {e' : TokenError} : balance.sub asset amount e ≠ .error (.token e') := by
  cases asset <;>
    simp only [TraderMarketBalance.sub, ne_eq, bind_eq_error, okOr_eq_error, pure, Except.pure,
      reduceCtorEq, and_false, or_self, exists_false, not_false_eq_true]

/-- A withdrawal refused for lack of vault tokens was within the recorded
    balance: every check before the transfer has an error of its own. -/
theorem withdrawHandler_insufficient {rt : Runtime} {env : Env} {world : World} {ctx : Withdraw}
    {asset : CustodyAsset} {amount : Word 64}
    (h : withdrawHandler rt env world ctx asset amount = .error (.token .insufficientFunds)) :
    ∃ market old new decimals, Withdrawn env world ctx asset amount market old new ∧
      world.tokens.transferChecked ctx.vault ctx.mint ctx.destination ctx.vaultAuthority amount
        decimals = .error (.token .insufficientFunds) := by
  simp only [withdrawHandler, checkSigner, checkSeeds, requireCode, TokenLedger.loadAccount,
    TokenLedger.loadMint, bind_eq_error, require_eq_error, okOr_eq_error, require_eq_ok,
    okOr_eq_ok, load_ne_token, loadMarketConfig_ne_token, sub_ne_token, load_eq_ok,
    Account.traderMarketBalance?_eq_some, pure, Except.pure, reduceCtorEq, and_false, false_or,
    exists_false, or_false] at h
  rcases h with ⟨_, hsigner, market, hmarket, old, ⟨_, hget, rfl⟩, _, -, _, hm, _, ht, vault,
    hvault, destination, hdestination, mint, -, _, -, _, -, _, hpos, _, hmint, _, -, _, howner, _,
    hkey, _, hvmint, _, hvowner, _, -, new, hnew, htransfer⟩
  have hsub := sub_eq_ok hnew
  exact ⟨market, old, new, mint.decimals, ⟨hsigner, loadMarketConfig_eq_ok hmarket, hget,
    ⟨hm, ht⟩, ⟨hsub.1, hsub.2.1⟩, hpos, hsub.2.2, hkey, hmint, ⟨destination, hdestination, howner⟩,
    ⟨vault, hvault, hvmint, hvowner⟩⟩, htransfer⟩

end Settlement

end SolanaLab
