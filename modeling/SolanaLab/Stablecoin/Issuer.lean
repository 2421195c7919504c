import SolanaLab.Stablecoin.Token

/-!
# The Stablecoin Issuer

The program that lets registered issuers create and destroy tokens of one
stablecoin. It is the mint authority and the permanent delegate of the mint.

Every issuer has a limit and counters of its own, and one record counts the
supply of all. An admin registers issuers, pauses them and moves an issuer to
another authority. Moving writes the counters of the issuer to new records
under the new authority. The records under the old authority stay, with a limit
of zero and paused.

Each instruction has one lemma that says what it has found and written when it
succeeds. The results about runs use nothing else of it.

The records of an issuer and the token ledger are separate worlds that the
program keeps in step only through its own instructions. Holders may transfer,
burn and close accounts at any time through the token program, which these
records do not notice. `World` has both sides, so the difference can be stated.

## Main definitions

* `World`: The records of the program and the token ledger.
* `loadIssuerAccounts`: The accounts that minting and burning share.
* `initializeProtocolHandler`, `createStablecoinMintHandler`,
  `registerIssuerHandler`, `setIssuerPausedHandler`,
  `rotateIssuerAuthorityHandler`, `mintToUserHandler`, `burnFromUserHandler`:
  The instructions.
* `step`: An instruction of the program or of a token holder, in its
  transaction.

## Theorems

* `loadIssuerAccounts_eq_ok`: When the shared accounts are accepted.
* `mintToUserHandler_eq_ok`: When minting succeeds, and what it writes.
* `burnFromUserHandler_eq_ok`: When burning succeeds, and what it writes.
* `rotateIssuerAuthorityHandler_eq_ok`: What moving an issuer writes.
-/

namespace SolanaLab

namespace Stablecoin

namespace Issuer

open Checked

/-- The settings of the protocol: its admin, the cap on the supply of all
    issuers, and the one mint it has, which is the default key until it is
    created. -/
structure ProtocolConfig where
  admin : Pubkey
  pendingAdmin : Pubkey
  stablecoinMint : Pubkey
  globalSupplyCap : Word 64
  paused : Bool
  bump : Byte
deriving DecidableEq

/-- What the program keeps of its mint. The bump of the mint authority is stored
    so that it need not be searched for with each call. -/
structure StablecoinMintConfig where
  protocolConfig : Pubkey
  mint : Pubkey
  mintAuthority : Pubkey
  supplyStats : Pubkey
  decimals : Byte
  mintAuthorityBump : Byte
  bump : Byte
deriving DecidableEq

/-- What all issuers together have created and destroyed by this program. -/
structure GlobalSupplyStats where
  protocolConfig : Pubkey
  mint : Pubkey
  currentSupply : Word 64
  totalMinted : Word 64
  totalBurned : Word 64
  bump : Byte
deriving DecidableEq

/-- An issuer: the authority that signs for it, its limit and whether it is
    paused. -/
structure IssuerConfig where
  protocolConfig : Pubkey
  authority : Pubkey
  stats : Pubkey
  mintLimit : Word 64
  paused : Bool
  bump : Byte
deriving DecidableEq

/-- What an issuer has created and destroyed. Its outstanding amount is what its
    limit is compared with. -/
structure IssuerStats where
  protocolConfig : Pubkey
  issuerConfig : Pubkey
  authority : Pubkey
  currentOutstanding : Word 64
  totalMinted : Word 64
  totalBurned : Word 64
  bump : Byte
deriving DecidableEq

/-- The errors of the program. Checks of the framework have errors of their own. -/
inductive ErrorCode where
  | protocolPaused
  | issuerPaused
  | unauthorizedIssuer
  | issuerLimitExceeded
  | globalSupplyCapExceeded
  | invalidGlobalSupplyCap
  | stablecoinMintAlreadyCreated
  | invalidIssuerMintLimit
  | burnAmountExceedsOutstanding
deriving DecidableEq

abbrev Error := ProgramError ErrorCode TokenError

/-! ### Seeds -/

/-- `PROTOCOL_SEED`: `protocol`. -/
def protocolSeed : List Byte := [112, 114, 111, 116, 111, 99, 111, 108]

/-- `MINT_AUTHORITY_SEED`: `mint-authority`. -/
def mintAuthoritySeed : List Byte :=
  [109, 105, 110, 116, 45, 97, 117, 116, 104, 111, 114, 105, 116, 121]

/-- `STABLECOIN_MINT_SEED`: `stablecoin-mint`. -/
def stablecoinMintSeed : List Byte :=
  [115, 116, 97, 98, 108, 101, 99, 111, 105, 110, 45, 109, 105, 110, 116]

/-- `ISSUER_SEED`: `issuer`. -/
def issuerSeed : List Byte := [105, 115, 115, 117, 101, 114]

/-- `ISSUER_STATS_SEED`: `issuer-stats`. -/
def issuerStatsSeed : List Byte := [105, 115, 115, 117, 101, 114, 45, 115, 116, 97, 116, 115]

/-- `SUPPLY_STATS_SEED`: `supply-stats`. -/
def supplyStatsSeed : List Byte := [115, 117, 112, 112, 108, 121, 45, 115, 116, 97, 116, 115]

/-- What the addresses of the program's accounts are derived from. All but those
    of issuers are without a field: there is one protocol with one mint. -/
inductive Seeds where
  | protocol
  | mintAuthority
  | stablecoinMint
  | issuer (authority : Pubkey)
  | issuerStats (authority : Pubkey)
  | supplyStats
deriving DecidableEq

namespace Seeds

/-- The seeds as the program lists them. -/
def bytes : Seeds → List (List Byte)
  | protocol => [protocolSeed]
  | mintAuthority => [mintAuthoritySeed]
  | stablecoinMint => [stablecoinMintSeed]
  | issuer authority => [issuerSeed, Settlement.Pubkey.bytes authority]
  | issuerStats authority => [issuerStatsSeed, Settlement.Pubkey.bytes authority]
  | supplyStats => [supplyStatsSeed]

/-- How many bytes the seeds spell. No two kinds spell the same number. -/
def width : Seeds → Nat
  | protocol => 8
  | mintAuthority => 14
  | stablecoinMint => 15
  | issuer _ => 38
  | issuerStats _ => 44
  | supplyStats => 12

/-- The width depends on the kind only. -/
theorem length_flatten_bytes (s : Seeds) : s.bytes.flatten.length = s.width := by
  cases s <;> simp only [bytes, List.flatten_cons, List.flatten_nil, List.append_nil,
    List.length_append, Settlement.length_pubkeyBytes] <;> rfl

/-- Seeds of different kinds differ in length, and a kind has at most one
    field. -/
theorem flatten_bytes_injective {s s' : Seeds} (h : s.bytes.flatten = s'.bytes.flatten) :
    s = s' := by
  have hwidth : s.width = s'.width := by
    rw [← length_flatten_bytes, ← length_flatten_bytes, h]
  cases s <;> cases s' <;> simp only [width, Nat.reduceEqDiff] at hwidth <;> try rfl
  · simp only [bytes, List.flatten_cons, List.flatten_nil, List.append_nil] at h
    rw [Settlement.pubkeyBytes_injective (List.append_cancel_left h)]
  · simp only [bytes, List.flatten_cons, List.flatten_nil, List.append_nil] at h
    rw [Settlement.pubkeyBytes_injective (List.append_cancel_left h)]

instance : SeedList Seeds := ⟨bytes, fun _ _ => flatten_bytes_injective⟩

end Seeds

/-! ### The world -/

/-- The records of the program, a map for each kind, and the token ledger, which
    others change too. -/
structure World where
  protocolConfigs : SortedMap Pubkey ProtocolConfig
  mintConfigs : SortedMap Pubkey StablecoinMintConfig
  supplyStats : SortedMap Pubkey GlobalSupplyStats
  issuerConfigs : SortedMap Pubkey IssuerConfig
  issuerStats : SortedMap Pubkey IssuerStats
  tokens : TokenLedger
deriving DecidableEq

namespace World

/-- The state before any instruction: no record, no mint and no token. -/
def empty : World :=
  ⟨SortedMap.empty, SortedMap.empty, SortedMap.empty, SortedMap.empty, SortedMap.empty,
    TokenLedger.empty⟩

/-- Whether an address has a record of any kind. Token accounts are not the
    program's and are not asked for. -/
def occupied (world : World) (key : Pubkey) : Bool :=
  (world.protocolConfigs.get? key).isSome || (world.mintConfigs.get? key).isSome ||
    (world.supplyStats.get? key).isSome || (world.issuerConfigs.get? key).isSome ||
    (world.issuerStats.get? key).isSome

/-- An address is free when no map has it. -/
theorem occupied_eq_false {world : World} {key : Pubkey} :
    world.occupied key = false ↔ world.protocolConfigs.get? key = none ∧
      world.mintConfigs.get? key = none ∧ world.supplyStats.get? key = none ∧
      world.issuerConfigs.get? key = none ∧ world.issuerStats.get? key = none := by
  simp only [occupied, Bool.or_eq_false_iff, Option.isSome_eq_false_iff, Option.isNone_iff_eq_none,
    and_assoc]

/-- A free address has no counters of an issuer. -/
theorem issuerStats_free {world : World} {key : Pubkey} (h : world.occupied key = false) :
    world.issuerStats.get? key = none :=
  (occupied_eq_false.mp h).2.2.2.2

end World

/-! ### Setting up -/

/-- The accounts of `initialize_protocol`. Whoever comes first signs as the
    admin. -/
structure InitializeProtocol where
  admin : Pubkey
  protocolConfig : Pubkey
deriving DecidableEq

/-- `initialize_protocol`. The cap is set here once and for all. -/
def initializeProtocolHandler (rt : Runtime) (env : Env) (world : World)
    (ctx : InitializeProtocol) (globalSupplyCap : Word 64) : Except Error World := do
  checkSigner env ctx.admin
  init rt world.occupied ctx.protocolConfig Seeds.protocol
  requireCode (0 < globalSupplyCap) .invalidGlobalSupplyCap
  return { world with
    protocolConfigs := world.protocolConfigs.insert ctx.protocolConfig
      { admin := ctx.admin
        pendingAdmin := Pubkey.default
        stablecoinMint := Pubkey.default
        globalSupplyCap
        paused := false
        bump := rt.bump Seeds.protocol } }

/-- The accounts of `create_stablecoin_mint`, among them the key of the new
    mint, which signs. -/
structure CreateStablecoinMint where
  admin : Pubkey
  protocolConfig : Pubkey
  mintConfig : Pubkey
  supplyStats : Pubkey
  mintAuthority : Pubkey
  mint : Pubkey
deriving DecidableEq

/-- `create_stablecoin_mint`, without the name, symbol and location it writes
    into the metadata of the mint. The mint authority is also the permanent
    delegate, which is how issuers can burn from anyone. -/
def createStablecoinMintHandler (rt : Runtime) (env : Env) (world : World)
    (ctx : CreateStablecoinMint) (decimals : Byte) : Except Error World := do
  checkSigner env ctx.admin
  let protocol ← load world.occupied world.protocolConfigs ctx.protocolConfig
  checkSeeds rt ctx.protocolConfig Seeds.protocol protocol.bump
  hasOne protocol.admin ctx.admin
  init rt world.occupied ctx.mintConfig Seeds.stablecoinMint
  init rt world.occupied ctx.supplyStats Seeds.supplyStats
  -- The first is created before the second is looked at.
  require (ctx.mintConfig ≠ ctx.supplyStats) (.anchor .accountAlreadyInUse)
  checkAddress rt ctx.mintAuthority Seeds.mintAuthority
  checkSigner env ctx.mint
  requireCode (protocol.stablecoinMint = Pubkey.default) .stablecoinMintAlreadyCreated
  let tokens ← cpi (world.tokens.createMint ctx.admin ctx.mint ctx.mintAuthority
    ctx.mintAuthority decimals)
  return { world with
    tokens
    protocolConfigs := world.protocolConfigs.insert ctx.protocolConfig
      { protocol with stablecoinMint := ctx.mint }
    mintConfigs := world.mintConfigs.insert ctx.mintConfig
      { protocolConfig := ctx.protocolConfig
        mint := ctx.mint
        mintAuthority := ctx.mintAuthority
        supplyStats := ctx.supplyStats
        decimals
        mintAuthorityBump := rt.bump Seeds.mintAuthority
        bump := rt.bump Seeds.stablecoinMint }
    supplyStats := world.supplyStats.insert ctx.supplyStats
      { protocolConfig := ctx.protocolConfig
        mint := ctx.mint
        currentSupply := 0
        totalMinted := 0
        totalBurned := 0
        bump := rt.bump Seeds.supplyStats } }

/-! ### Administration of issuers -/

/-- The accounts of `register_issuer`. The authority to be registered need not
    sign. -/
structure RegisterIssuer where
  admin : Pubkey
  protocolConfig : Pubkey
  issuerConfig : Pubkey
  issuerStats : Pubkey
  issuerAuthority : Pubkey
deriving DecidableEq

/-- `register_issuer`. An authority can be registered once, as its addresses are
    then taken. -/
def registerIssuerHandler (rt : Runtime) (env : Env) (world : World) (ctx : RegisterIssuer)
    (mintLimit : Word 64) : Except Error World := do
  checkSigner env ctx.admin
  let protocol ← load world.occupied world.protocolConfigs ctx.protocolConfig
  checkSeeds rt ctx.protocolConfig Seeds.protocol protocol.bump
  hasOne protocol.admin ctx.admin
  init rt world.occupied ctx.issuerConfig (Seeds.issuer ctx.issuerAuthority)
  init rt world.occupied ctx.issuerStats (Seeds.issuerStats ctx.issuerAuthority)
  -- The two accounts are created one after the other.
  require (ctx.issuerConfig ≠ ctx.issuerStats) (.anchor .accountAlreadyInUse)
  requireCode (0 < mintLimit) .invalidIssuerMintLimit
  return { world with
    issuerConfigs := world.issuerConfigs.insert ctx.issuerConfig
      { protocolConfig := ctx.protocolConfig
        authority := ctx.issuerAuthority
        stats := ctx.issuerStats
        mintLimit
        paused := false
        bump := rt.bump (Seeds.issuer ctx.issuerAuthority) }
    issuerStats := world.issuerStats.insert ctx.issuerStats
      { protocolConfig := ctx.protocolConfig
        issuerConfig := ctx.issuerConfig
        authority := ctx.issuerAuthority
        currentOutstanding := 0
        totalMinted := 0
        totalBurned := 0
        bump := rt.bump (Seeds.issuerStats ctx.issuerAuthority) } }

/-- The accounts of `set_issuer_paused`. -/
structure SetIssuerPaused where
  admin : Pubkey
  protocolConfig : Pubkey
  issuerConfig : Pubkey
  issuerAuthority : Pubkey
deriving DecidableEq

/-- `set_issuer_paused`. It works for every issuer there is, one that was moved
    to another authority included. -/
def setIssuerPausedHandler (rt : Runtime) (env : Env) (world : World) (ctx : SetIssuerPaused)
    (paused : Bool) : Except Error World := do
  checkSigner env ctx.admin
  let protocol ← load world.occupied world.protocolConfigs ctx.protocolConfig
  checkSeeds rt ctx.protocolConfig Seeds.protocol protocol.bump
  hasOne protocol.admin ctx.admin
  let config ← load world.occupied world.issuerConfigs ctx.issuerConfig
  checkSeeds rt ctx.issuerConfig (Seeds.issuer ctx.issuerAuthority) config.bump
  constraint (config.protocolConfig = ctx.protocolConfig)
  constraint (config.authority = ctx.issuerAuthority)
  return { world with
    issuerConfigs := world.issuerConfigs.insert ctx.issuerConfig { config with paused } }

/-- The accounts of `rotate_issuer_authority`: the records under the old
    authority and those to be created under the new one. -/
structure RotateIssuerAuthority where
  admin : Pubkey
  protocolConfig : Pubkey
  currentIssuerConfig : Pubkey
  currentIssuerStats : Pubkey
  newIssuerConfig : Pubkey
  newIssuerStats : Pubkey
  currentAuthority : Pubkey
  newAuthority : Pubkey
deriving DecidableEq

/-- `rotate_issuer_authority`. Limit, pause and counters go over to the new
    authority. What keeps the old one from acting is that it is left paused. -/
def rotateIssuerAuthorityHandler (rt : Runtime) (env : Env) (world : World)
    (ctx : RotateIssuerAuthority) : Except Error World := do
  checkSigner env ctx.admin
  let protocol ← load world.occupied world.protocolConfigs ctx.protocolConfig
  checkSeeds rt ctx.protocolConfig Seeds.protocol protocol.bump
  hasOne protocol.admin ctx.admin
  let config ← load world.occupied world.issuerConfigs ctx.currentIssuerConfig
  checkSeeds rt ctx.currentIssuerConfig (Seeds.issuer ctx.currentAuthority) config.bump
  constraint (config.protocolConfig = ctx.protocolConfig)
  constraint (config.authority = ctx.currentAuthority)
  constraint (config.stats = ctx.currentIssuerStats)
  let stats ← load world.occupied world.issuerStats ctx.currentIssuerStats
  checkSeeds rt ctx.currentIssuerStats (Seeds.issuerStats ctx.currentAuthority) stats.bump
  constraint (stats.protocolConfig = ctx.protocolConfig)
  constraint (stats.issuerConfig = ctx.currentIssuerConfig)
  constraint (stats.authority = ctx.currentAuthority)
  init rt world.occupied ctx.newIssuerConfig (Seeds.issuer ctx.newAuthority)
  init rt world.occupied ctx.newIssuerStats (Seeds.issuerStats ctx.newAuthority)
  require (ctx.newIssuerConfig ≠ ctx.newIssuerStats) (.anchor .accountAlreadyInUse)
  -- The counts are copied; the old issuer keeps them, with a limit of zero.
  return { world with
    issuerConfigs := (world.issuerConfigs.insert ctx.newIssuerConfig
      { protocolConfig := ctx.protocolConfig
        authority := ctx.newAuthority
        stats := ctx.newIssuerStats
        mintLimit := config.mintLimit
        paused := config.paused
        bump := rt.bump (Seeds.issuer ctx.newAuthority) }).insert ctx.currentIssuerConfig
      { config with mintLimit := 0, paused := true }
    issuerStats := world.issuerStats.insert ctx.newIssuerStats
      { protocolConfig := ctx.protocolConfig
        issuerConfig := ctx.newIssuerConfig
        authority := ctx.newAuthority
        currentOutstanding := stats.currentOutstanding
        totalMinted := stats.totalMinted
        totalBurned := stats.totalBurned
        bump := rt.bump (Seeds.issuerStats ctx.newAuthority) } }

/-! ### Minting and burning -/

/-- The accounts that `MintToUser` and `BurnFromUser` declare alike. -/
structure IssuerAccounts where
  issuerAuthority : Pubkey
  protocolConfig : Pubkey
  mintConfig : Pubkey
  supplyStats : Pubkey
  issuerConfig : Pubkey
  issuerStats : Pubkey
  mintAuthority : Pubkey
  mint : Pubkey
deriving DecidableEq

/-- The records in these accounts. -/
structure IssuerRecords where
  protocol : ProtocolConfig
  mintConfig : StablecoinMintConfig
  supply : GlobalSupplyStats
  config : IssuerConfig
  stats : IssuerStats
deriving DecidableEq

/-- The checks on these accounts. Each record names the others it belongs to,
    and every such name is compared with the account given. -/
def loadIssuerAccounts (rt : Runtime) (env : Env) (world : World) (ctx : IssuerAccounts) :
    Except Error IssuerRecords := do
  checkSigner env ctx.issuerAuthority
  let protocol ← load world.occupied world.protocolConfigs ctx.protocolConfig
  checkSeeds rt ctx.protocolConfig Seeds.protocol protocol.bump
  let mintConfig ← load world.occupied world.mintConfigs ctx.mintConfig
  checkSeeds rt ctx.mintConfig Seeds.stablecoinMint mintConfig.bump
  constraint (mintConfig.protocolConfig = ctx.protocolConfig)
  constraint (mintConfig.mint = ctx.mint)
  constraint (mintConfig.mintAuthority = ctx.mintAuthority)
  constraint (mintConfig.supplyStats = ctx.supplyStats)
  let supply ← load world.occupied world.supplyStats ctx.supplyStats
  checkSeeds rt ctx.supplyStats Seeds.supplyStats supply.bump
  constraint (supply.protocolConfig = ctx.protocolConfig)
  constraint (supply.mint = ctx.mint)
  let config ← load world.occupied world.issuerConfigs ctx.issuerConfig
  checkSeeds rt ctx.issuerConfig (Seeds.issuer ctx.issuerAuthority) config.bump
  constraint (config.protocolConfig = ctx.protocolConfig)
  constraint (config.authority = ctx.issuerAuthority)
  constraint (config.stats = ctx.issuerStats)
  let stats ← load world.occupied world.issuerStats ctx.issuerStats
  checkSeeds rt ctx.issuerStats (Seeds.issuerStats ctx.issuerAuthority) stats.bump
  constraint (stats.protocolConfig = ctx.protocolConfig)
  constraint (stats.issuerConfig = ctx.issuerConfig)
  constraint (stats.authority = ctx.issuerAuthority)
  -- The bump comes from the record of the mint, whose constraint was checked above.
  checkSeeds rt ctx.mintAuthority Seeds.mintAuthority mintConfig.mintAuthorityBump
  return ⟨protocol, mintConfig, supply, config, stats⟩

/-- The accounts of `mint_to_user`, with the user and an account created for
    him. -/
structure MintToUser extends IssuerAccounts where
  user : Pubkey
  userTokenAccount : Pubkey
deriving DecidableEq

/-- `mint_to_user`. Both limits are checked on the sums, so that an amount that
    does not fit is refused with the error of the limit it breaks. -/
def mintToUserHandler (rt : Runtime) (env : Env) (world : World) (ctx : MintToUser)
    (amount : Word 64) : Except Error World := do
  let r ← loadIssuerAccounts rt env world ctx.toIssuerAccounts
  -- The token account is created here, so its key signs.
  checkSigner env ctx.userTokenAccount
  requireCode (¬ r.protocol.paused) .protocolPaused
  requireCode (¬ r.config.paused) .issuerPaused
  let newIssuerOutstanding ←
    okOr (checkedAdd r.stats.currentOutstanding amount) (.code .issuerLimitExceeded)
  requireCode (newIssuerOutstanding ≤ r.config.mintLimit) .issuerLimitExceeded
  let newCurrentSupply ←
    okOr (checkedAdd r.supply.currentSupply amount) (.code .globalSupplyCapExceeded)
  requireCode (newCurrentSupply ≤ r.protocol.globalSupplyCap) .globalSupplyCapExceeded
  let tokens ← cpi (world.tokens.createAccount ctx.issuerAuthority ctx.userTokenAccount ctx.mint
    ctx.user)
  let tokens ← cpi (tokens.mintTo ctx.mint ctx.userTokenAccount ctx.mintAuthority amount
    r.mintConfig.decimals)
  -- These come after the tokens; an overflow here would undo them again.
  let issuerTotalMinted ← okOr (checkedAdd r.stats.totalMinted amount) (.code .issuerLimitExceeded)
  let totalMinted ← okOr (checkedAdd r.supply.totalMinted amount) (.code .globalSupplyCapExceeded)
  return { world with
    tokens
    issuerStats := world.issuerStats.insert ctx.issuerStats
      { r.stats with
        currentOutstanding := newIssuerOutstanding
        totalMinted := issuerTotalMinted }
    supplyStats := world.supplyStats.insert ctx.supplyStats
      { r.supply with currentSupply := newCurrentSupply, totalMinted } }

/-- The accounts of `burn_from_user`. The owner of the tokens is not among them. -/
structure BurnFromUser extends IssuerAccounts where
  userTokenAccount : Pubkey
deriving DecidableEq

/-- `burn_from_user`. An issuer can burn as much as it has outstanding, from any
    account of the mint and whoever minted what is in it. -/
def burnFromUserHandler (rt : Runtime) (env : Env) (world : World) (ctx : BurnFromUser)
    (amount : Word 64) : Except Error World := do
  let r ← loadIssuerAccounts rt env world ctx.toIssuerAccounts
  requireCode (¬ r.protocol.paused) .protocolPaused
  requireCode (¬ r.config.paused) .issuerPaused
  let newIssuerOutstanding ←
    okOr (checkedSub r.stats.currentOutstanding amount) (.code .burnAmountExceedsOutstanding)
  let newCurrentSupply ←
    okOr (checkedSub r.supply.currentSupply amount) (.code .burnAmountExceedsOutstanding)
  -- As the permanent delegate the mint authority burns without the owner.
  let tokens ← cpi (world.tokens.burn ctx.userTokenAccount ctx.mint ctx.mintAuthority amount
    (some r.mintConfig.decimals))
  let issuerTotalBurned ←
    okOr (checkedAdd r.stats.totalBurned amount) (.code .burnAmountExceedsOutstanding)
  let totalBurned ←
    okOr (checkedAdd r.supply.totalBurned amount) (.code .burnAmountExceedsOutstanding)
  return { world with
    tokens
    issuerStats := world.issuerStats.insert ctx.issuerStats
      { r.stats with
        currentOutstanding := newIssuerOutstanding
        totalBurned := issuerTotalBurned }
    supplyStats := world.supplyStats.insert ctx.supplyStats
      { r.supply with currentSupply := newCurrentSupply, totalBurned } }

/-! ### Transactions -/

/-- The instructions of the program, and what holders do with their tokens in
    between, as transactions of the same run. -/
inductive Instruction where
  | initializeProtocol (ctx : InitializeProtocol) (globalSupplyCap : Word 64)
  | createStablecoinMint (ctx : CreateStablecoinMint) (decimals : Byte)
  | registerIssuer (ctx : RegisterIssuer) (mintLimit : Word 64)
  | setIssuerPaused (ctx : SetIssuerPaused) (paused : Bool)
  | rotateIssuerAuthority (ctx : RotateIssuerAuthority)
  | mintToUser (ctx : MintToUser) (amount : Word 64)
  | burnFromUser (ctx : BurnFromUser) (amount : Word 64)
  /-- An instruction that a token holder submits to Token-2022. -/
  | holder (instruction : TokenInstruction)
deriving DecidableEq

/-- The instructions of `stablecoin_issuer`, and those of token holders. -/
def process (rt : Runtime) (env : Env) (world : World) : Instruction → Except Error World
  | .initializeProtocol ctx globalSupplyCap =>
    initializeProtocolHandler rt env world ctx globalSupplyCap
  | .createStablecoinMint ctx decimals => createStablecoinMintHandler rt env world ctx decimals
  | .registerIssuer ctx mintLimit => registerIssuerHandler rt env world ctx mintLimit
  | .setIssuerPaused ctx paused => setIssuerPausedHandler rt env world ctx paused
  | .rotateIssuerAuthority ctx => rotateIssuerAuthorityHandler rt env world ctx
  | .mintToUser ctx amount => mintToUserHandler rt env world ctx amount
  | .burnFromUser ctx amount => burnFromUserHandler rt env world ctx amount
  | .holder instruction => do
    checkSigner env instruction.signer
    let tokens ← cpi (instruction.apply world.tokens)
    return { world with tokens }

/-- An instruction with the transaction it comes in. -/
abbrev Input := Env × Instruction

/-- The transactions of a run, each with how it ended. -/
abbrev Log := List (Input × Except Error Unit)

/-- One transaction. If it fails, the runtime undoes all it has written. -/
def step (rt : Runtime) : World → Input → Except Error Unit × World :=
  transact (process rt) .runtime

/-- A transaction that succeeds is one instruction that does. -/
theorem step_ok {rt : Runtime} {world : World} {input : Input}
    (h : (step rt world input).1 = .ok ()) :
    process rt input.1 world input.2 = .ok (step rt world input).2 :=
  transact_ok (process rt) .runtime h

/-! ### What each instruction has found and written -/

section Specifications

variable {rt : Runtime} {env : Env} {world world' : World}

/-- What the checks on the shared accounts have found: each record is at its
    address and names the others. -/
structure IssuerAccounts.Loaded (rt : Runtime) (env : Env) (world : World) (ctx : IssuerAccounts)
    (r : IssuerRecords) : Prop where
  signer : ctx.issuerAuthority ∈ env.signers
  protocol : world.protocolConfigs.get? ctx.protocolConfig = some r.protocol
  protocolSeeds : rt.createProgramAddress (Seeds.bytes .protocol ++ [[r.protocol.bump]])
    = some ctx.protocolConfig
  mintConfig : world.mintConfigs.get? ctx.mintConfig = some r.mintConfig
  mintConfigSeeds : rt.createProgramAddress (Seeds.bytes .stablecoinMint ++ [[r.mintConfig.bump]])
    = some ctx.mintConfig
  mintConfigFields : r.mintConfig.protocolConfig = ctx.protocolConfig ∧
    r.mintConfig.mint = ctx.mint ∧ r.mintConfig.mintAuthority = ctx.mintAuthority ∧
    r.mintConfig.supplyStats = ctx.supplyStats
  supply : world.supplyStats.get? ctx.supplyStats = some r.supply
  supplySeeds : rt.createProgramAddress (Seeds.bytes .supplyStats ++ [[r.supply.bump]])
    = some ctx.supplyStats
  supplyFields : r.supply.protocolConfig = ctx.protocolConfig ∧ r.supply.mint = ctx.mint
  config : world.issuerConfigs.get? ctx.issuerConfig = some r.config
  configSeeds : rt.createProgramAddress
      (Seeds.bytes (.issuer ctx.issuerAuthority) ++ [[r.config.bump]]) = some ctx.issuerConfig
  configFields : r.config.protocolConfig = ctx.protocolConfig ∧
    r.config.authority = ctx.issuerAuthority ∧ r.config.stats = ctx.issuerStats
  stats : world.issuerStats.get? ctx.issuerStats = some r.stats
  statsSeeds : rt.createProgramAddress
      (Seeds.bytes (.issuerStats ctx.issuerAuthority) ++ [[r.stats.bump]]) = some ctx.issuerStats
  statsFields : r.stats.protocolConfig = ctx.protocolConfig ∧
    r.stats.issuerConfig = ctx.issuerConfig ∧ r.stats.authority = ctx.issuerAuthority
  authoritySeeds : rt.createProgramAddress
      (Seeds.bytes .mintAuthority ++ [[r.mintConfig.mintAuthorityBump]]) = some ctx.mintAuthority

/-- When the shared accounts are accepted. -/
theorem loadIssuerAccounts_eq_ok {ctx : IssuerAccounts} {r : IssuerRecords} :
    loadIssuerAccounts rt env world ctx = .ok r ↔ ctx.Loaded rt env world r := by
  simp only [loadIssuerAccounts, bind_eq_ok, checkSigner_eq_ok, load_eq_ok, checkSeeds_eq_ok,
    constraint_eq_ok, exists_const, pure, Except.pure, Except.ok.injEq]
  constructor
  · rintro ⟨hsigner, protocol, hprotocol, hps, mintConfig, hmintConfig, hms, hm1, hm2, hm3, hm4,
      supply, hsupply, hss, hs1, hs2, config, hconfig, hcs, hc1, hc2, hc3, stats, hstats, hts, ht1,
      ht2, ht3, hauthority, rfl⟩
    exact ⟨hsigner, hprotocol, hps, hmintConfig, hms, ⟨hm1, hm2, hm3, hm4⟩, hsupply, hss,
      ⟨hs1, hs2⟩, hconfig, hcs, ⟨hc1, hc2, hc3⟩, hstats, hts, ⟨ht1, ht2, ht3⟩, hauthority⟩
  · intro h
    exact ⟨h.signer, r.protocol, h.protocol, h.protocolSeeds, r.mintConfig, h.mintConfig,
      h.mintConfigSeeds, h.mintConfigFields.1, h.mintConfigFields.2.1, h.mintConfigFields.2.2.1,
      h.mintConfigFields.2.2.2, r.supply, h.supply, h.supplySeeds, h.supplyFields.1,
      h.supplyFields.2, r.config, h.config, h.configSeeds, h.configFields.1, h.configFields.2.1,
      h.configFields.2.2, r.stats, h.stats, h.statsSeeds, h.statsFields.1, h.statsFields.2.1,
      h.statsFields.2.2, h.authoritySeeds, rfl⟩

/-- What `mint_to_user` has found and written. The sums stand as equations over
    the naturals, with the limits they were compared with. -/
structure Minted (rt : Runtime) (env : Env) (world : World) (ctx : MintToUser) (amount : Word 64)
    (world' : World) (r : IssuerRecords) (stats : IssuerStats) (supply : GlobalSupplyStats) :
    Prop where
  loaded : ctx.toIssuerAccounts.Loaded rt env world r
  accountSigner : ctx.userTokenAccount ∈ env.signers
  unpaused : r.protocol.paused = false ∧ r.config.paused = false
  statsFields : stats = { r.stats with
    currentOutstanding := stats.currentOutstanding, totalMinted := stats.totalMinted }
  outstanding : stats.currentOutstanding.val = r.stats.currentOutstanding.val + amount.val
  totalMinted : stats.totalMinted.val = r.stats.totalMinted.val + amount.val
  withinLimit : stats.currentOutstanding ≤ r.config.mintLimit
  supplyFields : supply = { r.supply with
    currentSupply := supply.currentSupply, totalMinted := supply.totalMinted }
  currentSupply : supply.currentSupply.val = r.supply.currentSupply.val + amount.val
  supplyMinted : supply.totalMinted.val = r.supply.totalMinted.val + amount.val
  withinCap : supply.currentSupply ≤ r.protocol.globalSupplyCap
  tokens : ∃ created, world.tokens.createAccount ctx.issuerAuthority ctx.userTokenAccount ctx.mint
      ctx.user = .ok created ∧
    created.mintTo ctx.mint ctx.userTokenAccount ctx.mintAuthority amount r.mintConfig.decimals
      = .ok world'.tokens
  after : world' = { world with
    tokens := world'.tokens
    issuerStats := world.issuerStats.insert ctx.issuerStats stats
    supplyStats := world.supplyStats.insert ctx.supplyStats supply }

/-- When minting succeeds, and what it writes. -/
theorem mintToUserHandler_eq_ok {ctx : MintToUser} {amount : Word 64} :
    mintToUserHandler rt env world ctx amount = .ok world'
      ↔ ∃ r stats supply, Minted rt env world ctx amount world' r stats supply := by
  simp only [mintToUserHandler, bind_eq_ok, loadIssuerAccounts_eq_ok, checkSigner_eq_ok,
    requireCode_eq_ok, okOr_eq_ok, cpi_eq_ok, checkedAdd_eq_some, exists_const, Bool.not_eq_true,
    pure, Except.pure, Except.ok.injEq]
  constructor
  · rintro ⟨r, hloaded, hsigner, hp, hc, outstanding, houtstanding, hlimit, current, hcurrent, hcap,
      created, hcreated, tokens, htokens, issuerTotal, hissuerTotal, total, htotal, rfl⟩
    exact ⟨r, _, _, hloaded, hsigner, ⟨hp, hc⟩, rfl, houtstanding, hissuerTotal, hlimit, rfl,
      hcurrent, htotal, hcap, ⟨created, hcreated, htokens⟩, rfl⟩
  · rintro ⟨r, stats, supply, h⟩
    rcases h.tokens with ⟨created, hcreated, htokens⟩
    refine ⟨r, h.loaded, h.accountSigner, h.unpaused.1, h.unpaused.2, stats.currentOutstanding,
      h.outstanding, h.withinLimit, supply.currentSupply, h.currentSupply, h.withinCap, created,
      hcreated, world'.tokens, htokens, stats.totalMinted, h.totalMinted, supply.totalMinted,
      h.supplyMinted, ?_⟩
    rw [← h.statsFields, ← h.supplyFields]
    exact h.after.symm

/-- What `burn_from_user` has found and written. The account burned from is any
    that the token program accepts. -/
structure Burned (rt : Runtime) (env : Env) (world : World) (ctx : BurnFromUser)
    (amount : Word 64) (world' : World) (r : IssuerRecords) (stats : IssuerStats)
    (supply : GlobalSupplyStats) : Prop where
  loaded : ctx.toIssuerAccounts.Loaded rt env world r
  unpaused : r.protocol.paused = false ∧ r.config.paused = false
  statsFields : stats = { r.stats with
    currentOutstanding := stats.currentOutstanding, totalBurned := stats.totalBurned }
  outstanding : stats.currentOutstanding.val + amount.val = r.stats.currentOutstanding.val
  totalBurned : stats.totalBurned.val = r.stats.totalBurned.val + amount.val
  supplyFields : supply = { r.supply with
    currentSupply := supply.currentSupply, totalBurned := supply.totalBurned }
  currentSupply : supply.currentSupply.val + amount.val = r.supply.currentSupply.val
  supplyBurned : supply.totalBurned.val = r.supply.totalBurned.val + amount.val
  tokens : world.tokens.burn ctx.userTokenAccount ctx.mint ctx.mintAuthority amount
    (some r.mintConfig.decimals) = .ok world'.tokens
  after : world' = { world with
    tokens := world'.tokens
    issuerStats := world.issuerStats.insert ctx.issuerStats stats
    supplyStats := world.supplyStats.insert ctx.supplyStats supply }

/-- When burning succeeds, and what it writes. -/
theorem burnFromUserHandler_eq_ok {ctx : BurnFromUser} {amount : Word 64} :
    burnFromUserHandler rt env world ctx amount = .ok world'
      ↔ ∃ r stats supply, Burned rt env world ctx amount world' r stats supply := by
  simp only [burnFromUserHandler, bind_eq_ok, loadIssuerAccounts_eq_ok, requireCode_eq_ok,
    okOr_eq_ok, cpi_eq_ok, checkedAdd_eq_some, checkedSub_eq_some, exists_const, Bool.not_eq_true,
    pure, Except.pure, Except.ok.injEq]
  constructor
  · rintro ⟨r, hloaded, hp, hc, outstanding, houtstanding, current, hcurrent, tokens, htokens,
      issuerTotal, hissuerTotal, total, htotal, rfl⟩
    exact ⟨r, _, _, hloaded, ⟨hp, hc⟩, rfl, houtstanding, hissuerTotal, rfl, hcurrent, htotal,
      htokens, rfl⟩
  · rintro ⟨r, stats, supply, h⟩
    refine ⟨r, h.loaded, h.unpaused.1, h.unpaused.2, stats.currentOutstanding, h.outstanding,
      supply.currentSupply, h.currentSupply, world'.tokens, h.tokens, stats.totalBurned,
      h.totalBurned, supply.totalBurned, h.supplyBurned, ?_⟩
    rw [← h.statsFields, ← h.supplyFields]
    exact h.after.symm

/-- What the accounts of an admin have found: the protocol is there and its
    admin has signed. The four instructions of the admin share it. -/
structure AdminSigned (rt : Runtime) (env : Env) (world : World) (admin key : Pubkey)
    (protocol : ProtocolConfig) : Prop where
  signer : admin ∈ env.signers
  found : world.protocolConfigs.get? key = some protocol
  seeds : rt.createProgramAddress (Seeds.bytes .protocol ++ [[protocol.bump]]) = some key
  isAdmin : protocol.admin = admin

/-- What `initialize_protocol` has found and written. -/
theorem initializeProtocolHandler_eq_ok {ctx : InitializeProtocol} {globalSupplyCap : Word 64} :
    initializeProtocolHandler rt env world ctx globalSupplyCap = .ok world' ↔
      ctx.admin ∈ env.signers ∧ ctx.protocolConfig = rt.address Seeds.protocol ∧
      world.occupied ctx.protocolConfig = false ∧ 0 < globalSupplyCap ∧
      { world with
        protocolConfigs := world.protocolConfigs.insert ctx.protocolConfig
          ⟨ctx.admin, Pubkey.default, Pubkey.default, globalSupplyCap, false,
            rt.bump Seeds.protocol⟩ } = world' := by
  simp only [initializeProtocolHandler, bind_eq_ok, checkSigner_eq_ok, init_eq_ok,
    requireCode_eq_ok, exists_const, pure, Except.pure, Except.ok.injEq, and_assoc]

/-- What `create_stablecoin_mint` has found and written. That there was no mint
    before is part of it, and so is that there is one now. -/
structure MintCreated (rt : Runtime) (env : Env) (world : World) (ctx : CreateStablecoinMint)
    (decimals : Byte) (world' : World) (protocol : ProtocolConfig) : Prop where
  admin : AdminSigned rt env world ctx.admin ctx.protocolConfig protocol
  mintSigner : ctx.mint ∈ env.signers
  mintConfigAddress : ctx.mintConfig = rt.address Seeds.stablecoinMint
  mintConfigNew : world.occupied ctx.mintConfig = false
  supplyStatsAddress : ctx.supplyStats = rt.address Seeds.supplyStats
  supplyStatsNew : world.occupied ctx.supplyStats = false
  distinct : ctx.mintConfig ≠ ctx.supplyStats
  authorityAddress : ctx.mintAuthority = rt.address Seeds.mintAuthority
  noMint : protocol.stablecoinMint = Pubkey.default
  tokens : world.tokens.createMint ctx.admin ctx.mint ctx.mintAuthority ctx.mintAuthority decimals
    = .ok world'.tokens
  after : world' = { world with
    tokens := world'.tokens
    protocolConfigs := world.protocolConfigs.insert ctx.protocolConfig
      { protocol with stablecoinMint := ctx.mint }
    mintConfigs := world.mintConfigs.insert ctx.mintConfig
      ⟨ctx.protocolConfig, ctx.mint, ctx.mintAuthority, ctx.supplyStats, decimals,
        rt.bump Seeds.mintAuthority, rt.bump Seeds.stablecoinMint⟩
    supplyStats := world.supplyStats.insert ctx.supplyStats
      ⟨ctx.protocolConfig, ctx.mint, 0, 0, 0, rt.bump Seeds.supplyStats⟩ }

/-- A mint that is created is the first. -/
theorem createStablecoinMintHandler_eq_ok {ctx : CreateStablecoinMint} {decimals : Byte}
    (h : createStablecoinMintHandler rt env world ctx decimals = .ok world') :
    ∃ protocol, MintCreated rt env world ctx decimals world' protocol := by
  simp only [createStablecoinMintHandler, bind_eq_ok, checkSigner_eq_ok, load_eq_ok,
    checkSeeds_eq_ok, hasOne_eq_ok, init_eq_ok, require_eq_ok, checkAddress_eq_ok,
    requireCode_eq_ok, cpi_eq_ok, exists_const, pure, Except.pure, Except.ok.injEq] at h
  rcases h with ⟨hsigner, protocol, hprotocol, hseeds, hadmin, ⟨hma, hmn⟩, ⟨hsa, hsn⟩, hne,
    haddress, hmint, hnone, tokens, htokens, rfl⟩
  exact ⟨protocol, ⟨hsigner, hprotocol, hseeds, hadmin⟩, hmint, hma, hmn, hsa, hsn, hne, haddress,
    hnone, htokens, rfl⟩

/-- What `register_issuer` has found and written: an issuer with its limit and
    counters at zero, where there was nothing. -/
structure Registered (rt : Runtime) (env : Env) (world : World) (ctx : RegisterIssuer)
    (mintLimit : Word 64) (world' : World) : Prop where
  admin : ∃ protocol, AdminSigned rt env world ctx.admin ctx.protocolConfig protocol
  configAddress : ctx.issuerConfig = rt.address (Seeds.issuer ctx.issuerAuthority)
  configNew : world.occupied ctx.issuerConfig = false
  statsAddress : ctx.issuerStats = rt.address (Seeds.issuerStats ctx.issuerAuthority)
  statsNew : world.occupied ctx.issuerStats = false
  distinct : ctx.issuerConfig ≠ ctx.issuerStats
  positive : 0 < mintLimit
  after : world' = { world with
    issuerConfigs := world.issuerConfigs.insert ctx.issuerConfig
      ⟨ctx.protocolConfig, ctx.issuerAuthority, ctx.issuerStats, mintLimit, false,
        rt.bump (Seeds.issuer ctx.issuerAuthority)⟩
    issuerStats := world.issuerStats.insert ctx.issuerStats
      ⟨ctx.protocolConfig, ctx.issuerConfig, ctx.issuerAuthority, 0, 0, 0,
        rt.bump (Seeds.issuerStats ctx.issuerAuthority)⟩ }

/-- A registration that succeeds has created both records of the issuer. -/
theorem registerIssuerHandler_eq_ok {ctx : RegisterIssuer} {mintLimit : Word 64}
    (h : registerIssuerHandler rt env world ctx mintLimit = .ok world') :
    Registered rt env world ctx mintLimit world' := by
  simp only [registerIssuerHandler, bind_eq_ok, checkSigner_eq_ok, load_eq_ok, checkSeeds_eq_ok,
    hasOne_eq_ok, init_eq_ok, require_eq_ok, requireCode_eq_ok, exists_const, pure, Except.pure,
    Except.ok.injEq] at h
  rcases h with ⟨hsigner, protocol, hprotocol, hseeds, hadmin, ⟨hca, hcn⟩, ⟨hsa, hsn⟩, hne, hpos,
    rfl⟩
  exact ⟨⟨protocol, hsigner, hprotocol, hseeds, hadmin⟩, hca, hcn, hsa, hsn, hne, hpos, rfl⟩

/-- What `set_issuer_paused` has found and written: the one setting of one
    issuer. -/
structure PausedSet (rt : Runtime) (env : Env) (world : World) (ctx : SetIssuerPaused)
    (paused : Bool) (world' : World) (config : IssuerConfig) : Prop where
  admin : ∃ protocol, AdminSigned rt env world ctx.admin ctx.protocolConfig protocol
  found : world.issuerConfigs.get? ctx.issuerConfig = some config
  authority : config.authority = ctx.issuerAuthority
  after : world' = { world with
    issuerConfigs := world.issuerConfigs.insert ctx.issuerConfig { config with paused } }

/-- Pausing changes the setting and nothing else. -/
theorem setIssuerPausedHandler_eq_ok {ctx : SetIssuerPaused} {paused : Bool}
    (h : setIssuerPausedHandler rt env world ctx paused = .ok world') :
    ∃ config, PausedSet rt env world ctx paused world' config := by
  simp only [setIssuerPausedHandler, bind_eq_ok, checkSigner_eq_ok, load_eq_ok, checkSeeds_eq_ok,
    hasOne_eq_ok, constraint_eq_ok, exists_const, pure, Except.pure, Except.ok.injEq] at h
  rcases h with ⟨hsigner, protocol, hprotocol, hseeds, hadmin, config, hconfig, -, -, hauthority,
    rfl⟩
  exact ⟨config, ⟨protocol, hsigner, hprotocol, hseeds, hadmin⟩, hconfig, hauthority, rfl⟩

/-- What `rotate_issuer_authority` has found and written. The records of the old
    authority are told apart from the new ones by their addresses. -/
structure Rotated (rt : Runtime) (env : Env) (world : World) (ctx : RotateIssuerAuthority)
    (world' : World) (config : IssuerConfig) (stats : IssuerStats) : Prop where
  admin : ∃ protocol, AdminSigned rt env world ctx.admin ctx.protocolConfig protocol
  configFound : world.issuerConfigs.get? ctx.currentIssuerConfig = some config
  configFields : config.authority = ctx.currentAuthority ∧ config.stats = ctx.currentIssuerStats
  statsFound : world.issuerStats.get? ctx.currentIssuerStats = some stats
  statsFields : stats.issuerConfig = ctx.currentIssuerConfig ∧
    stats.authority = ctx.currentAuthority
  newConfigAddress : ctx.newIssuerConfig = rt.address (Seeds.issuer ctx.newAuthority)
  newConfigNew : world.occupied ctx.newIssuerConfig = false
  newStatsAddress : ctx.newIssuerStats = rt.address (Seeds.issuerStats ctx.newAuthority)
  newStatsNew : world.occupied ctx.newIssuerStats = false
  distinct : ctx.newIssuerConfig ≠ ctx.newIssuerStats
  after : world' = { world with
    issuerConfigs := (world.issuerConfigs.insert ctx.newIssuerConfig
      ⟨ctx.protocolConfig, ctx.newAuthority, ctx.newIssuerStats, config.mintLimit, config.paused,
        rt.bump (Seeds.issuer ctx.newAuthority)⟩).insert ctx.currentIssuerConfig
      { config with mintLimit := 0, paused := true }
    issuerStats := world.issuerStats.insert ctx.newIssuerStats
      ⟨ctx.protocolConfig, ctx.newIssuerConfig, ctx.newAuthority, stats.currentOutstanding,
        stats.totalMinted, stats.totalBurned, rt.bump (Seeds.issuerStats ctx.newAuthority)⟩ }

/-- A rotation that succeeds has copied the counters and left the old ones
    behind. -/
theorem rotateIssuerAuthorityHandler_eq_ok {ctx : RotateIssuerAuthority}
    (h : rotateIssuerAuthorityHandler rt env world ctx = .ok world') :
    ∃ config stats, Rotated rt env world ctx world' config stats := by
  simp only [rotateIssuerAuthorityHandler, bind_eq_ok, checkSigner_eq_ok, load_eq_ok,
    checkSeeds_eq_ok, hasOne_eq_ok, constraint_eq_ok, init_eq_ok, require_eq_ok, exists_const,
    pure, Except.pure, Except.ok.injEq] at h
  rcases h with ⟨hsigner, protocol, hprotocol, hseeds, hadmin, config, hconfig, -, -, hc1, hc2,
    stats, hstats, -, -, hs1, hs2, ⟨hca, hcn⟩, ⟨hsa, hsn⟩, hne, rfl⟩
  exact ⟨config, stats, ⟨protocol, hsigner, hprotocol, hseeds, hadmin⟩, hconfig, ⟨hc1, hc2⟩, hstats,
    ⟨hs1, hs2⟩, hca, hcn, hsa, hsn, hne, rfl⟩

/-- What an instruction of a token holder has done: it was signed for, and only
    the token ledger is different. -/
theorem process_holder {instruction : TokenInstruction}
    (h : process rt env world (.holder instruction) = .ok world') :
    instruction.signer ∈ env.signers ∧ instruction.apply world.tokens = .ok world'.tokens ∧
      world' = { world with tokens := world'.tokens } := by
  simp only [process, bind_eq_ok, checkSigner_eq_ok, cpi_eq_ok, exists_const, pure, Except.pure,
    Except.ok.injEq] at h
  rcases h with ⟨hsigner, tokens, htokens, rfl⟩
  exact ⟨hsigner, htokens, rfl⟩

end Specifications

/-! ### A sample

A protocol with a cap of 1000 and one issuer with a limit of 1000. The
addresses are those of the program's id. -/

def sampleAdmin : Pubkey := 0xf718b6e93ccfc93fa27143af174a2785c510f344df76b430a9764ec8c15e7fde

def sampleUser : Pubkey := 0xf7658b8e4d3883a43de0f4c59be0640f473a329506dc786cfde71b101e47ed25

def sampleMint : Pubkey := 0x2c7c42c683e0d4a20db7db6df5ae1ba24b67c29c140c38dde33806e745ba0ba1

/-- A token account of the user. -/
def sampleAccount : Pubkey := 0x8cd5ffd0552ddf4739998039acf88ae789549563826aa45b328c992bf179caeb

def sampleSecondAccount : Pubkey :=
  0x3e6bfb42a56174066918bd4359bac6713ef7036d28e5828291d1058d26dc97e3

def sampleProtocol : Pubkey := 0x80fa0681eca0f32a8bccb8ec518005ccd516672afe7b23cba9d2fc0999dbbb9e

def sampleMintAuthority : Pubkey :=
  0x53f06872b38cef0cdee11c1c19803abbe057c4655e8e92ef24d7e87733588ed4

def sampleMintConfig : Pubkey :=
  0xd029c102ccc5ad3d9c7d2ec2a5162a8768a8851f2479d8edf1eb9c2a0a543dfa

def sampleSupplyStats : Pubkey :=
  0x9ba68a8470b690479d5f8b058b375eb8a6340ff4855eec600834a75dd68ff6b0

/-- The authority that is registered as an issuer. -/
def sampleOldAuthority : Pubkey :=
  0xf2e029ae6ea83c87d1c3a4177a5260edb5f901c0a72e7f9839c84fb6ea85c8b0

def sampleOldConfig : Pubkey := 0x514b6e7a18a494d48141c0d333b280248247df7d179dee06a2facf3a81f95937

def sampleOldStats : Pubkey := 0x41bc6883e846000a546564c1ddb7384db3d93e4bd5d4b0db6b139cf25509f562

/-- The authority the issuer is moved to. -/
def sampleNewAuthority : Pubkey :=
  0x2d0158d940347ed7e343f19d8355cb28716094c7fce506d48542e54b47a1ebf9

def sampleNewConfig : Pubkey := 0x36590dbd7582ed57e4e33ac8ecd63a18c83510fa28e23a0dbd9bba98834d061

def sampleNewStats : Pubkey := 0x9cd8e8ee1fe871e7d31f9fd661d9c6c5d0ae612fd55341d30e0d406abb03bbb2

def sampleRuntime : Runtime := Runtime.ofTable
  [(Seeds.protocol, sampleProtocol, 252),
    (.mintAuthority, sampleMintAuthority, 254),
    (.stablecoinMint, sampleMintConfig, 255),
    (.supplyStats, sampleSupplyStats, 255),
    (.issuer sampleOldAuthority, sampleOldConfig, 254),
    (.issuerStats sampleOldAuthority, sampleOldStats, 254),
    (.issuer sampleNewAuthority, sampleNewConfig, 251),
    (.issuerStats sampleNewAuthority, sampleNewStats, 255)]

/-- A transaction signed by the keys given. -/
def sampleEnv (signers : List Pubkey) : Env :=
  { signers, unixTimestamp := 1700000000, refused := false }

/-- The accounts of the registered issuer. -/
def sampleOldAccounts : IssuerAccounts where
  issuerAuthority := sampleOldAuthority
  protocolConfig := sampleProtocol
  mintConfig := sampleMintConfig
  supplyStats := sampleSupplyStats
  issuerConfig := sampleOldConfig
  issuerStats := sampleOldStats
  mintAuthority := sampleMintAuthority
  mint := sampleMint

def sampleInitialize : Input :=
  (sampleEnv [sampleAdmin],
    .initializeProtocol { admin := sampleAdmin, protocolConfig := sampleProtocol } 1000)

def sampleCreateMint : Input :=
  (sampleEnv [sampleAdmin, sampleMint], .createStablecoinMint
    { admin := sampleAdmin, protocolConfig := sampleProtocol, mintConfig := sampleMintConfig,
      supplyStats := sampleSupplyStats, mintAuthority := sampleMintAuthority,
      mint := sampleMint } 6)

def sampleRegister : Input :=
  (sampleEnv [sampleAdmin], .registerIssuer
    { admin := sampleAdmin, protocolConfig := sampleProtocol, issuerConfig := sampleOldConfig,
      issuerStats := sampleOldStats, issuerAuthority := sampleOldAuthority } 1000)

/-- The issuer mints to the user. -/
def sampleMintTo (amount : Word 64) : Input :=
  (sampleEnv [sampleOldAuthority, sampleAccount], .mintToUser
    { sampleOldAccounts with user := sampleUser, userTokenAccount := sampleAccount } amount)

/-- The issuer burns from the user. -/
def sampleBurnFrom (amount : Word 64) : Input :=
  (sampleEnv [sampleOldAuthority], .burnFromUser
    { sampleOldAccounts with userTokenAccount := sampleAccount } amount)

def sampleRotate : Input :=
  (sampleEnv [sampleAdmin], .rotateIssuerAuthority
    { admin := sampleAdmin, protocolConfig := sampleProtocol,
      currentIssuerConfig := sampleOldConfig, currentIssuerStats := sampleOldStats,
      newIssuerConfig := sampleNewConfig, newIssuerStats := sampleNewStats,
      currentAuthority := sampleOldAuthority, newAuthority := sampleNewAuthority })

end Issuer

end Stablecoin

end SolanaLab
