import SolanaLab.Stablecoin.Anchor

/-!
# Stablecoin Compliance Hook

The program that Token-2022 asks before a transfer of the stablecoin. The admin
of a mint sets limits and a pause in a config, and flags in a profile for each
token account. A transfer is let through if both profiles allow it and the
source has not used up its limit of the day.

What a source has used is counted in its own profile, under the day of its last
transfer, and starts over when the day is another.

The entry point for transfers is the fallback of the program. It takes any list
of accounts and any data, and does its own checks on both. What `unpack` makes
of the data is what the model takes.

Nothing ties an execution to an actual transfer. Token-2022 calls the fallback
with the accounts of a transfer, but anybody else can call it with the same
accounts, and the program does not ask who calls. So what is counted in a
profile is executions. The modules that build on this one say for which of them
there was a transfer.

## Main definitions

* `World`: The records of the program.
* `executeTransferHook`: The checks on a transfer.
* `initializeComplianceConfigHandler`, `initializeExtraAccountMetaListHandler`,
  `setUserComplianceHandler`, `setTransferLimitsHandler`,
  `setProtocolPausedHandler`: The instructions of the admin.
* `Admitted`, `World.executed`: What an execution has found, and what it writes.

## Theorems

* `executeTransferHook_eq_ok`: What an execution has found and written.
* `setUserComplianceHandler_eq_ok`: What setting flags writes.
-/

namespace SolanaLab

namespace Stablecoin

namespace Compliance

open Checked

/-- The limits and the pause of a mint, and the admin who sets them. -/
structure ComplianceConfig where
  admin : Pubkey
  mint : Pubkey
  maxTransferAmount : Word 64
  dailyTransferLimit : Word 64
  paused : Bool
  bump : Byte
deriving DecidableEq

/-- The flags of a token account, and what it has sent on the last day on which
    it sent anything. -/
structure UserCompliance where
  config : Pubkey
  mint : Pubkey
  user : Pubkey
  allowlisted : Bool
  blocked : Bool
  issuerActive : Bool
  transferredToday : Word 64
  currentDay : Int
  bump : Byte
deriving DecidableEq

/-- A seed of an account that a transfer has to bring: bytes, or the key of an
    account that is already there. -/
inductive MetaSeed where
  | literal (bytes : List Byte)
  | accountKey (index : Nat)
deriving DecidableEq

/-- An account that a transfer has to bring, by how its address is derived and
    with its flags. -/
structure ExtraAccountMeta where
  seeds : List MetaSeed
  isSigner : Bool
  isWritable : Bool
deriving DecidableEq

/-- The errors of the program. Whatever is wrong with the accounts of an
    execution has one and the same error. -/
inductive ErrorCode where
  | protocolPaused
  | sourceNotAllowlisted
  | destinationNotAllowlisted
  | sourceBlocked
  | destinationBlocked
  | issuerInactive
  | transferLimitExceeded
  | dailyLimitExceeded
  | invalidTransferLimit
  | invalidTransferHookAccounts
deriving DecidableEq

/-- The errors of the system program, as far as creating an account leads to
    them. -/
inductive SystemError where
  | accountAlreadyInUse
deriving DecidableEq

abbrev Error := ProgramError ErrorCode SystemError

/-- `SECONDS_PER_DAY`. -/
def secondsPerDay : Int := 86400

/-- The day of a time. The division truncates, as Rust's does, so that days
    before 1970 are counted towards zero. -/
def day (unixTimestamp : Int) : Int := unixTimestamp.tdiv secondsPerDay

/-- Time does not go back by days. -/
theorem day_mono {t t' : Int} (h : t ≤ t') : day t ≤ day t' := Int.tdiv_le_tdiv (by decide) h

/-! ### Seeds -/

/-- `COMPLIANCE_CONFIG_SEED`: `config`. -/
def complianceConfigSeed : List Byte := [99, 111, 110, 102, 105, 103]

/-- `USER_COMPLIANCE_SEED`: `user`. -/
def userComplianceSeed : List Byte := [117, 115, 101, 114]

/-- `EXTRA_ACCOUNT_METAS_SEED`: `extra-account-metas`. -/
def extraAccountMetasSeed : List Byte :=
  [101, 120, 116, 114, 97, 45, 97, 99, 99, 111, 117, 110, 116, 45, 109, 101, 116, 97, 115]

/-- What the addresses of the program's accounts are derived from. Every kind
    has the mint in it, so one program serves any number of mints. -/
inductive Seeds where
  | config (mint : Pubkey)
  | user (mint user : Pubkey)
  | extraAccountMetas (mint : Pubkey)
deriving DecidableEq

namespace Seeds

/-- The seeds as the program lists them. -/
def bytes : Seeds → List (List Byte)
  | config mint => [complianceConfigSeed, Settlement.Pubkey.bytes mint]
  | user mint key =>
    [userComplianceSeed, Settlement.Pubkey.bytes mint, Settlement.Pubkey.bytes key]
  | extraAccountMetas mint => [extraAccountMetasSeed, Settlement.Pubkey.bytes mint]

/-- How many bytes the seeds spell. No two kinds spell the same number. -/
def width : Seeds → Nat
  | config _ => 38
  | user _ _ => 68
  | extraAccountMetas _ => 51

/-- The width depends on the kind only. -/
theorem length_flatten_bytes (s : Seeds) : s.bytes.flatten.length = s.width := by
  cases s <;> simp only [bytes, List.flatten_cons, List.flatten_nil, List.append_nil,
    List.length_append, Settlement.length_pubkeyBytes] <;> rfl

/-- Seeds that spell the same bytes are the same: the widths tell the kinds
    apart, and the fields are keys. -/
theorem flatten_bytes_injective {s s' : Seeds} (h : s.bytes.flatten = s'.bytes.flatten) :
    s = s' := by
  have hwidth : s.width = s'.width := by
    rw [← length_flatten_bytes, ← length_flatten_bytes, h]
  cases s <;> cases s' <;> simp only [width, Nat.reduceEqDiff] at hwidth <;>
    simp only [bytes, List.flatten_cons, List.flatten_nil, List.append_nil] at h
  · rw [Settlement.pubkeyBytes_injective (List.append_cancel_left h)]
  · have hkeys := List.append_inj (List.append_cancel_left h) (by
      rw [Settlement.length_pubkeyBytes, Settlement.length_pubkeyBytes])
    rw [Settlement.pubkeyBytes_injective hkeys.1, Settlement.pubkeyBytes_injective hkeys.2]
  · rw [Settlement.pubkeyBytes_injective (List.append_cancel_left h)]

instance : SeedList Seeds := ⟨bytes, fun _ _ => flatten_bytes_injective⟩

end Seeds

/-! ### The world -/

/-- The records of the program, a map for each kind. -/
structure World where
  configs : SortedMap Pubkey ComplianceConfig
  profiles : SortedMap Pubkey UserCompliance
  extraAccountMetaLists : SortedMap Pubkey (List ExtraAccountMeta)
deriving DecidableEq

namespace World

/-- The state before any instruction, with no account of the program. -/
def empty : World := ⟨SortedMap.empty, SortedMap.empty, SortedMap.empty⟩

/-- Whether an address has a record of any kind. -/
def occupied (world : World) (key : Pubkey) : Bool :=
  (world.configs.get? key).isSome || (world.profiles.get? key).isSome ||
    (world.extraAccountMetaLists.get? key).isSome

/-- An address is free when no map has it. -/
theorem occupied_eq_false {world : World} {key : Pubkey} :
    world.occupied key = false ↔ world.configs.get? key = none ∧
      world.profiles.get? key = none ∧ world.extraAccountMetaLists.get? key = none := by
  simp only [occupied, Bool.or_eq_false_iff, Option.isSome_eq_false_iff, Option.isNone_iff_eq_none,
    and_assoc]

end World

/-! ### Instructions of the admin -/

/-- The accounts of `initialize_compliance_config`. The signer becomes the admin
    of the mint, which he need not have anything to do with. -/
structure InitializeComplianceConfig where
  admin : Pubkey
  config : Pubkey
  mint : Pubkey
deriving DecidableEq

/-- `initialize_compliance_config`. It succeeds once for a mint, for whoever
    comes first. -/
def initializeComplianceConfigHandler (rt : Runtime) (env : Env) (world : World)
    (ctx : InitializeComplianceConfig) (maxTransferAmount dailyTransferLimit : Word 64) :
    Except Error World := do
  checkSigner env ctx.admin
  init rt world.occupied ctx.config (Seeds.config ctx.mint)
  requireCode (0 < maxTransferAmount ∧ 0 < dailyTransferLimit) .invalidTransferLimit
  return { world with
    configs := world.configs.insert ctx.config
      { admin := ctx.admin
        mint := ctx.mint
        maxTransferAmount
        dailyTransferLimit
        paused := false
        bump := rt.bump (Seeds.config ctx.mint) } }

/-- A config that its admin signs for. The instructions differ in where they
    take the mint from that the address is derived from. -/
def loadConfig (rt : Runtime) (env : Env) (world : World) (admin config : Pubkey)
    (mint : ComplianceConfig → Pubkey) : Except Error ComplianceConfig := do
  checkSigner env admin
  let record ← load world.occupied world.configs config
  checkSeeds rt config (Seeds.config (mint record)) record.bump
  hasOne record.admin admin
  return record

/-- The accounts of `initialize_extra_account_meta_list`. -/
structure InitializeExtraAccountMetaList where
  admin : Pubkey
  config : Pubkey
  extraAccountMetaList : Pubkey
  mint : Pubkey
deriving DecidableEq

/-- What a transfer has to bring: the config of the mint, and the profiles of
    the source, to be written, and of the destination. -/
def extraAccountMetas : List ExtraAccountMeta :=
  [⟨[.literal complianceConfigSeed, .accountKey 1], false, false⟩,
    ⟨[.literal userComplianceSeed, .accountKey 1, .accountKey 0], false, true⟩,
    ⟨[.literal userComplianceSeed, .accountKey 1, .accountKey 2], false, false⟩]

/-- `initialize_extra_account_meta_list`. Token-2022 reads the list to find the
    accounts of a transfer; the program itself never does. -/
def initializeExtraAccountMetaListHandler (rt : Runtime) (env : Env) (world : World)
    (ctx : InitializeExtraAccountMetaList) : Except Error World := do
  let config ← loadConfig rt env world ctx.admin ctx.config (fun _ => ctx.mint)
  hasOne config.mint ctx.mint
  checkAddress rt ctx.extraAccountMetaList (Seeds.extraAccountMetas ctx.mint)
  require (world.occupied ctx.extraAccountMetaList = false) (.cpi .accountAlreadyInUse)
  return { world with
    extraAccountMetaLists :=
      world.extraAccountMetaLists.insert ctx.extraAccountMetaList extraAccountMetas }

/-- The accounts of `set_user_compliance`. The user is a token account, not its
    owner. -/
structure SetUserCompliance where
  admin : Pubkey
  config : Pubkey
  userCompliance : Pubkey
  user : Pubkey
  mint : Pubkey
deriving DecidableEq

/-- A profile as `init_if_needed` creates it, with all bytes zero. -/
def UserCompliance.zero : UserCompliance :=
  ⟨Pubkey.default, Pubkey.default, Pubkey.default, false, false, false, 0, 0, 0⟩

/-- `init_if_needed`: the profile that is there, or a new one. What was used
    today is in the profile that is there, and this is why it must not be
    replaced. -/
def loadOrInit (rt : Runtime) (world : World) (key : Pubkey) (s : Seeds) :
    Except Error UserCompliance := do
  checkAddress rt key s
  if world.occupied key = false then
    return UserCompliance.zero
  load world.occupied world.profiles key

/-- `set_user_compliance`. It sets the three flags and leaves the count of the
    day as it is. -/
def setUserComplianceHandler (rt : Runtime) (env : Env) (world : World) (ctx : SetUserCompliance)
    (allowlisted blocked issuerActive : Bool) : Except Error World := do
  let config ← loadConfig rt env world ctx.admin ctx.config (fun _ => ctx.mint)
  hasOne config.mint ctx.mint
  let profile ← loadOrInit rt world ctx.userCompliance (Seeds.user ctx.mint ctx.user)
  -- What was transferred today stays on the profile.
  return { world with
    profiles := world.profiles.insert ctx.userCompliance { profile with
      config := ctx.config
      mint := ctx.mint
      user := ctx.user
      allowlisted
      blocked
      issuerActive
      bump := rt.bump (Seeds.user ctx.mint ctx.user) } }

/-- The accounts of `SetTransferLimits` and of `SetProtocolPaused`. -/
structure SetConfig where
  admin : Pubkey
  config : Pubkey
deriving DecidableEq

/-- `set_transfer_limits`. A lower daily limit holds at once, also for what was
    used before on that day. -/
def setTransferLimitsHandler (rt : Runtime) (env : Env) (world : World) (ctx : SetConfig)
    (maxTransferAmount dailyTransferLimit : Word 64) : Except Error World := do
  let config ← loadConfig rt env world ctx.admin ctx.config ComplianceConfig.mint
  requireCode (0 < maxTransferAmount ∧ 0 < dailyTransferLimit) .invalidTransferLimit
  return { world with
    configs := world.configs.insert ctx.config
      { config with maxTransferAmount, dailyTransferLimit } }

/-- `set_protocol_paused`. While it is set, no execution succeeds. -/
def setProtocolPausedHandler (rt : Runtime) (env : Env) (world : World) (ctx : SetConfig)
    (paused : Bool) : Except Error World := do
  let config ← loadConfig rt env world ctx.admin ctx.config ComplianceConfig.mint
  return { world with configs := world.configs.insert ctx.config { config with paused } }

/-! ### The hook -/

/-- An account in the list of an instruction. Whoever sends the instruction
    chooses the list. -/
structure AccountInfo where
  key : Pubkey
  isWritable : Bool
deriving DecidableEq

/-- `TransferHookInstruction`: what data can be unpacked to. Only one of the
    variants is served. -/
inductive TransferHookInstruction where
  | execute (amount : Word 64)
  | initializeExtraAccountMetaList (extraAccountMetas : List ExtraAccountMeta)
  | updateExtraAccountMetaList (extraAccountMetas : List ExtraAccountMeta)
deriving DecidableEq

/-- The accounts of an execution, by their place in the list. That is all the
    program knows of which account is meant as what. -/
structure HookAccounts where
  source : AccountInfo
  mint : AccountInfo
  destination : AccountInfo
  authority : AccountInfo
  validation : AccountInfo
  config : AccountInfo
  sourceCompliance : AccountInfo
  destinationCompliance : AccountInfo
deriving DecidableEq

/-- The first eight accounts, if there are so many. More are ignored. -/
def HookAccounts.ofList : List AccountInfo → Option HookAccounts
  | source :: mint :: destination :: authority :: validation :: config :: sourceCompliance ::
      destinationCompliance :: _ =>
    some ⟨source, mint, destination, authority, validation, config, sourceCompliance,
      destinationCompliance⟩
  | _ => none

/-- `deserialize_account`: an account of the program that holds a record of one
    kind. The owner of the account is checked here, not its address. -/
def deserializeAccount {α : Type} (world : World) (records : SortedMap Pubkey α) (key : Pubkey) :
    Except Error α :=
  match records.get? key with
  | some record => .ok record
  | none =>
    .error (if world.occupied key then .anchor .accountDiscriminatorMismatch
      else .code .invalidTransferHookAccounts)

/-- `validate_profile`: the profile is of this config, mint and token account. -/
def validateProfile (profile : UserCompliance) (configKey : Pubkey) (config : ComplianceConfig)
    (user : Pubkey) : Except Error Unit := do
  requireCode (profile.config = configKey) .invalidTransferHookAccounts
  requireCode (profile.mint = config.mint) .invalidTransferHookAccounts
  requireCode (profile.user = user) .invalidTransferHookAccounts

/-- A profile on a day. What was used on another day is dropped, whether that
    day is in the past or, by a clock that was wrong, in the future. -/
def UserCompliance.onDay (profile : UserCompliance) (currentDay : Int) : UserCompliance :=
  if profile.currentDay ≠ currentDay then { profile with currentDay, transferredToday := 0 }
  else profile

/-- `execute_transfer_hook`. Nothing in it asks whether a transfer is under way,
    or who has signed. -/
def executeTransferHook (rt : Runtime) (env : Env) (world : World) (accounts : List AccountInfo)
    (amount : Word 64) : Except Error World := do
  let ctx ← okOr (HookAccounts.ofList accounts) (.code .invalidTransferHookAccounts)
  -- The accounts come from the caller, so each address is derived anew.
  requireCode (ctx.validation.key = rt.address (Seeds.extraAccountMetas ctx.mint.key))
    .invalidTransferHookAccounts
  requireCode (ctx.config.key = rt.address (Seeds.config ctx.mint.key))
    .invalidTransferHookAccounts
  requireCode (ctx.sourceCompliance.key = rt.address (Seeds.user ctx.mint.key ctx.source.key))
    .invalidTransferHookAccounts
  requireCode
    (ctx.destinationCompliance.key = rt.address (Seeds.user ctx.mint.key ctx.destination.key))
    .invalidTransferHookAccounts
  let config ← deserializeAccount world world.configs ctx.config.key
  -- From here on the checks are on contents.
  requireCode (¬ config.paused) .protocolPaused
  requireCode (config.mint = ctx.mint.key) .invalidTransferHookAccounts
  requireCode (amount ≤ config.maxTransferAmount) .transferLimitExceeded
  let source ← deserializeAccount world world.profiles ctx.sourceCompliance.key
  let destination ← deserializeAccount world world.profiles ctx.destinationCompliance.key
  validateProfile source ctx.config.key config ctx.source.key
  validateProfile destination ctx.config.key config ctx.destination.key
  -- The flags of both sides, and of the source also whether its issuer is active.
  requireCode source.allowlisted .sourceNotAllowlisted
  requireCode destination.allowlisted .destinationNotAllowlisted
  requireCode (¬ source.blocked) .sourceBlocked
  requireCode (¬ destination.blocked) .destinationBlocked
  requireCode source.issuerActive .issuerInactive
  -- The count starts over with the first transfer of a day.
  let today := source.onDay (day env.unixTimestamp)
  let newDailyAmount ← okOr (checkedAdd today.transferredToday amount) (.code .dailyLimitExceeded)
  requireCode (newDailyAmount ≤ config.dailyTransferLimit) .dailyLimitExceeded
  -- The source writes the profile back, which fails for a read-only account.
  requireCode ctx.sourceCompliance.isWritable .invalidTransferHookAccounts
  return { world with
    profiles := world.profiles.insert ctx.sourceCompliance.key
      { today with transferredToday := newDailyAmount } }

/-- `execute_fallback`: any other instruction of the interface is an error. -/
def executeFallback (rt : Runtime) (env : Env) (world : World) (accounts : List AccountInfo)
    (data : Option TransferHookInstruction) : Except Error World :=
  match data with
  | some (.execute amount) => executeTransferHook rt env world accounts amount
  | _ => .error .invalidInstructionData

/-! ### Transactions -/

/-- The instructions of the program. The last is the fallback, with whatever
    list and data the caller gives. -/
inductive Instruction where
  | initializeComplianceConfig (ctx : InitializeComplianceConfig)
      (maxTransferAmount dailyTransferLimit : Word 64)
  | initializeExtraAccountMetaList (ctx : InitializeExtraAccountMetaList)
  | setUserCompliance (ctx : SetUserCompliance) (allowlisted blocked issuerActive : Bool)
  | setTransferLimits (ctx : SetConfig) (maxTransferAmount dailyTransferLimit : Word 64)
  | setProtocolPaused (ctx : SetConfig) (paused : Bool)
  | fallback (accounts : List AccountInfo) (data : Option TransferHookInstruction)
deriving DecidableEq

/-- The instructions of `stablecoin_compliance_hook`. -/
def process (rt : Runtime) (env : Env) (world : World) : Instruction → Except Error World
  | .initializeComplianceConfig ctx maxTransferAmount dailyTransferLimit =>
    initializeComplianceConfigHandler rt env world ctx maxTransferAmount dailyTransferLimit
  | .initializeExtraAccountMetaList ctx => initializeExtraAccountMetaListHandler rt env world ctx
  | .setUserCompliance ctx allowlisted blocked issuerActive =>
    setUserComplianceHandler rt env world ctx allowlisted blocked issuerActive
  | .setTransferLimits ctx maxTransferAmount dailyTransferLimit =>
    setTransferLimitsHandler rt env world ctx maxTransferAmount dailyTransferLimit
  | .setProtocolPaused ctx paused => setProtocolPausedHandler rt env world ctx paused
  | .fallback accounts data => executeFallback rt env world accounts data

/-- An instruction with the transaction it comes in. -/
abbrev Input := Env × Instruction

/-- The transactions of a run, each with how it ended. -/
abbrev Log := List (Input × Except Error Unit)

/-- One transaction. If it fails, the runtime undoes all it has written. -/
def step (rt : Runtime) : World → Input → Except Error Unit × World :=
  transact (process rt) .runtime

/-- A transaction that succeeds is one instruction that does. -/
theorem step_ok {rt : Runtime} {world : World} {input : Input}
    (h : (step rt world input).1 = .ok ()) :
    process rt input.1 world input.2 = .ok (step rt world input).2 :=
  transact_ok (process rt) .runtime h

/-! ### What each instruction has found and written -/

/-- What an execution is about: the mint, both token accounts and the amount.
    The authority in the list plays no part. -/
structure Execution where
  mint : Pubkey
  source : Pubkey
  destination : Pubkey
  amount : Word 64
deriving DecidableEq

/-- What a list of accounts and data ask to execute. -/
def executionOf (accounts : List AccountInfo) (data : Option TransferHookInstruction) :
    Option Execution :=
  match data with
  | some (.execute amount) => (HookAccounts.ofList accounts).map (fun ctx =>
      ⟨ctx.mint.key, ctx.source.key, ctx.destination.key, amount⟩)
  | _ => none

/-- What an instruction asks to execute, if it is the fallback. -/
def Instruction.execution : Instruction → Option Execution
  | .fallback accounts data => executionOf accounts data
  | _ => none

section Specifications

variable {rt : Runtime} {env : Env} {world world' : World}

/-- The accounts of an execution are at the addresses derived from its own mint
    and token accounts. -/
structure HookAccounts.Derived (rt : Runtime) (ctx : HookAccounts) : Prop where
  validation : ctx.validation.key = rt.address (Seeds.extraAccountMetas ctx.mint.key)
  config : ctx.config.key = rt.address (Seeds.config ctx.mint.key)
  sourceCompliance :
    ctx.sourceCompliance.key = rt.address (Seeds.user ctx.mint.key ctx.source.key)
  destinationCompliance :
    ctx.destinationCompliance.key = rt.address (Seeds.user ctx.mint.key ctx.destination.key)
  writable : ctx.sourceCompliance.isWritable = true

/-- A profile of a token account, under the config of its mint. -/
structure UserCompliance.Valid (rt : Runtime) (profile : UserCompliance) (mint user : Pubkey) :
    Prop where
  config : profile.config = rt.address (Seeds.config mint)
  mint : profile.mint = mint
  user : profile.user = user
  allowlisted : profile.allowlisted = true
  unblocked : profile.blocked = false

/-- What an execution has found, and what the source has then used today. The
    sum is with what was used earlier on the same day. -/
structure Admitted (rt : Runtime) (env : Env) (world : World) (e : Execution)
    (config : ComplianceConfig) (source destination : UserCompliance)
    (newDailyAmount : Word 64) : Prop where
  configFound : world.configs.get? (rt.address (Seeds.config e.mint)) = some config
  configMint : config.mint = e.mint
  unpaused : config.paused = false
  withinMax : e.amount ≤ config.maxTransferAmount
  sourceFound : world.profiles.get? (rt.address (Seeds.user e.mint e.source)) = some source
  sourceValid : source.Valid rt e.mint e.source
  issuerActive : source.issuerActive = true
  destinationFound :
    world.profiles.get? (rt.address (Seeds.user e.mint e.destination)) = some destination
  destinationValid : destination.Valid rt e.mint e.destination
  counted : newDailyAmount.val
    = (source.onDay (day env.unixTimestamp)).transferredToday.val + e.amount.val
  withinDaily : newDailyAmount ≤ config.dailyTransferLimit

/-- What an execution writes. -/
def World.executed (rt : Runtime) (env : Env) (world : World) (e : Execution)
    (source : UserCompliance) (newDailyAmount : Word 64) : World :=
  { world with
    profiles := world.profiles.insert (rt.address (Seeds.user e.mint e.source))
      { source.onDay (day env.unixTimestamp) with transferredToday := newDailyAmount } }

/-- An account of the program that holds a record of the kind is one in the map. -/
theorem deserializeAccount_eq_ok {α : Type} {records : SortedMap Pubkey α} {key : Pubkey}
    {record : α} :
    deserializeAccount world records key = .ok record ↔ records.get? key = some record := by
  unfold deserializeAccount
  cases records.get? key with
  | none => simp only [reduceCtorEq]
  | some r => simp only [Except.ok.injEq, Option.some.injEq]

/-- A profile that passes names the config, its mint and the token account. -/
theorem validateProfile_eq_ok {profile : UserCompliance} {configKey user : Pubkey}
    {config : ComplianceConfig} {u : Unit} :
    validateProfile profile configKey config user = .ok u ↔
      profile.config = configKey ∧ profile.mint = config.mint ∧ profile.user = user := by
  simp only [validateProfile, bind_eq_ok, requireCode_eq_ok, exists_const]

/-- When an execution succeeds, and what it writes: the count of the source and
    nothing else. -/
theorem executeTransferHook_eq_ok {accounts : List AccountInfo} {amount : Word 64} :
    executeTransferHook rt env world accounts amount = .ok world' ↔
      ∃ ctx, HookAccounts.ofList accounts = some ctx ∧ ctx.Derived rt ∧
      ∃ config source destination newDailyAmount,
        Admitted rt env world ⟨ctx.mint.key, ctx.source.key, ctx.destination.key, amount⟩ config
          source destination newDailyAmount ∧
        world.executed rt env ⟨ctx.mint.key, ctx.source.key, ctx.destination.key, amount⟩ source
          newDailyAmount = world' := by
  simp only [executeTransferHook, bind_eq_ok, okOr_eq_ok, requireCode_eq_ok,
    deserializeAccount_eq_ok, validateProfile_eq_ok, checkedAdd_eq_some, exists_const, pure,
    Except.pure, Except.ok.injEq, Bool.not_eq_true]
  constructor
  · rintro ⟨ctx, hctx, hvalidation, hconfigKey, hsourceKey, hdestinationKey, config, hconfig,
      hpaused, hmint, hmax, source, hsource, destination, hdestination, ⟨hs1, hs2, hs3⟩,
      ⟨hd1, hd2, hd3⟩, hsa, hda, hsb, hdb, hactive, newDailyAmount, hcounted, hdaily,
      hwritable, hafter⟩
    -- The accounts passed are those derived from mint and parties.
    rw [hsourceKey] at hsource hafter
    rw [hdestinationKey] at hdestination
    rw [hconfigKey] at hconfig hs1 hd1
    rw [hmint] at hs2 hd2
    exact ⟨ctx, hctx, ⟨hvalidation, hconfigKey, hsourceKey, hdestinationKey, hwritable⟩, config,
      source, destination, newDailyAmount, ⟨hconfig, hmint, hpaused, hmax, hsource,
        ⟨hs1, hs2, hs3, hsa, hsb⟩, hactive, hdestination, ⟨hd1, hd2, hd3, hda, hdb⟩, hcounted,
        hdaily⟩, hafter⟩
  -- The other way round, what is found under the derived addresses is found under those
  -- passed.
  · rintro ⟨ctx, hctx, hderived, config, source, destination, newDailyAmount, ha, hafter⟩
    have hconfig := ha.configFound
    have hsource := ha.sourceFound
    have hdestination := ha.destinationFound
    simp only [← hderived.config] at hconfig
    simp only [← hderived.sourceCompliance] at hsource
    simp only [← hderived.destinationCompliance] at hdestination
    refine ⟨ctx, hctx, hderived.validation, hderived.config, hderived.sourceCompliance,
      hderived.destinationCompliance, config, hconfig, ha.unpaused, ha.configMint, ha.withinMax,
      source, hsource, destination, hdestination, ⟨?_, ?_, ha.sourceValid.user⟩,
      ⟨?_, ?_, ha.destinationValid.user⟩, ha.sourceValid.allowlisted,
      ha.destinationValid.allowlisted, ha.sourceValid.unblocked, ha.destinationValid.unblocked,
      ha.issuerActive, newDailyAmount, ha.counted, ha.withinDaily, hderived.writable, ?_⟩
    · rw [hderived.config]
      exact ha.sourceValid.config
    · rw [ha.configMint]
      exact ha.sourceValid.mint
    · rw [hderived.config]
      exact ha.destinationValid.config
    · rw [ha.configMint]
      exact ha.destinationValid.mint
    · rw [hderived.sourceCompliance]
      exact hafter

/-- What a successful execution has found and written. -/
theorem executeFallback_eq_ok {accounts : List AccountInfo}
    {data : Option TransferHookInstruction}
    (h : executeFallback rt env world accounts data = .ok world') :
    ∃ e config source destination newDailyAmount, executionOf accounts data = some e ∧
      Admitted rt env world e config source destination newDailyAmount ∧
      world.executed rt env e source newDailyAmount = world' := by
  match data with
  | some (.execute amount) =>
      rcases executeTransferHook_eq_ok.mp h with
        ⟨ctx, hctx, -, config, source, destination, newDailyAmount, ha, hafter⟩
      refine ⟨_, config, source, destination, newDailyAmount, ?_, ha, hafter⟩
      simp only [executionOf, hctx, Option.map_some]
  | some (.initializeExtraAccountMetaList _) | some (.updateExtraAccountMetaList _) | none =>
      exact absurd h (by simp only [executeFallback, reduceCtorEq, not_false_eq_true])

/-- An execution has found what it checks and written what the source has
    used. -/
theorem process_executed {instruction : Instruction}
    (h : process rt env world instruction = .ok world') {e : Execution}
    (he : instruction.execution = some e) :
    ∃ config source destination newDailyAmount,
      Admitted rt env world e config source destination newDailyAmount ∧
      world.executed rt env e source newDailyAmount = world' := by
  cases instruction with
  | fallback accounts data =>
      rcases executeFallback_eq_ok h with ⟨e', config, source, destination, n, he', ha, hafter⟩
      rw [Instruction.execution, he', Option.some.injEq] at he
      rw [he] at ha hafter
      exact ⟨config, source, destination, n, ha, hafter⟩
  | _ => exact absurd he (by simp only [Instruction.execution, reduceCtorEq, not_false_eq_true])

/-- A config that its admin has signed for. Only such an instruction changes
    limits, pause or flags. -/
structure Administered (env : Env) (world : World) (key : Pubkey) (config : ComplianceConfig) :
    Prop where
  signer : config.admin ∈ env.signers
  found : world.configs.get? key = some config

/-- A config that was loaded is there, and its admin has signed. -/
theorem loadConfig_eq_ok {admin key : Pubkey} {mint : ComplianceConfig → Pubkey}
    {config : ComplianceConfig} (h : loadConfig rt env world admin key mint = .ok config) :
    Administered env world key config := by
  simp only [loadConfig, bind_eq_ok, checkSigner_eq_ok, load_eq_ok, checkSeeds_eq_ok, hasOne_eq_ok,
    exists_const, pure, Except.pure, Except.ok.injEq] at h
  rcases h with ⟨hsigner, record, hfound, -, hadmin, rfl⟩
  exact ⟨by rw [hadmin]; exact hsigner, hfound⟩

/-- When a config is set up, and what it starts with. -/
theorem initializeComplianceConfigHandler_eq_ok {ctx : InitializeComplianceConfig}
    {maxTransferAmount dailyTransferLimit : Word 64} :
    initializeComplianceConfigHandler rt env world ctx maxTransferAmount dailyTransferLimit
      = .ok world' ↔ ctx.admin ∈ env.signers ∧
        (ctx.config = rt.address (Seeds.config ctx.mint) ∧
          world.occupied ctx.config = false) ∧
        (0 < maxTransferAmount ∧ 0 < dailyTransferLimit) ∧
        { world with
          configs := world.configs.insert ctx.config
            ⟨ctx.admin, ctx.mint, maxTransferAmount, dailyTransferLimit, false,
              rt.bump (Seeds.config ctx.mint)⟩ } = world' := by
  simp only [initializeComplianceConfigHandler, bind_eq_ok, checkSigner_eq_ok, init_eq_ok,
    requireCode_eq_ok, exists_const, pure, Except.pure, Except.ok.injEq]

/-- Listing what a transfer has to bring writes no config and no profile. -/
theorem initializeExtraAccountMetaListHandler_eq_ok {ctx : InitializeExtraAccountMetaList}
    (h : initializeExtraAccountMetaListHandler rt env world ctx = .ok world') :
    ∃ config, Administered env world ctx.config config ∧
      { world with
        extraAccountMetaLists :=
          world.extraAccountMetaLists.insert ctx.extraAccountMetaList extraAccountMetas }
        = world' := by
  simp only [initializeExtraAccountMetaListHandler, bind_eq_ok, hasOne_eq_ok, checkAddress_eq_ok,
    require_eq_ok, exists_const, pure, Except.pure, Except.ok.injEq] at h
  rcases h with ⟨config, hconfig, -, -, -, hafter⟩
  exact ⟨config, loadConfig_eq_ok hconfig, hafter⟩

/-- What setting flags has found and written: the profile that was there, with
    what it has used, or a new one. Address and mint of the config are part of
    it. -/
structure Flagged (rt : Runtime) (env : Env) (world : World) (ctx : SetUserCompliance)
    (allowlisted blocked issuerActive : Bool) (world' : World) (config : ComplianceConfig)
    (profile : UserCompliance) : Prop where
  admin : Administered env world ctx.config config
  ofMint : config.mint = ctx.mint
  address : ctx.userCompliance = rt.address (Seeds.user ctx.mint ctx.user)
  found : world.profiles.get? ctx.userCompliance = some profile ∨
    world.profiles.get? ctx.userCompliance = none ∧ profile = UserCompliance.zero
  after : { world with
    profiles := world.profiles.insert ctx.userCompliance
      ⟨ctx.config, ctx.mint, ctx.user, allowlisted, blocked, issuerActive,
        profile.transferredToday, profile.currentDay, rt.bump (Seeds.user ctx.mint ctx.user)⟩ }
    = world'

/-- Setting flags changes one profile and keeps its count. -/
theorem setUserComplianceHandler_eq_ok {ctx : SetUserCompliance}
    {allowlisted blocked issuerActive : Bool}
    (h : setUserComplianceHandler rt env world ctx allowlisted blocked issuerActive
      = .ok world') :
    ∃ config profile,
      Flagged rt env world ctx allowlisted blocked issuerActive world' config profile := by
  simp only [setUserComplianceHandler, loadOrInit, bind_eq_ok, hasOne_eq_ok, checkAddress_eq_ok,
    exists_const, pure, Except.pure, Except.ok.injEq] at h
  rcases h with ⟨config, hconfig, hmint, profile, ⟨haddress, hprofile⟩, hafter⟩
  refine ⟨config, profile, loadConfig_eq_ok hconfig, hmint, haddress, ?_, hafter⟩
  by_cases hnew : world.occupied ctx.userCompliance = false
  · rw [if_pos hnew, Except.ok.injEq] at hprofile
    exact Or.inr ⟨(World.occupied_eq_false.mp hnew).2.1, hprofile.symm⟩
  · rw [if_neg hnew, load_eq_ok] at hprofile
    exact Or.inl hprofile

/-- Setting limits changes these two numbers of one config. -/
theorem setTransferLimitsHandler_eq_ok {ctx : SetConfig}
    {maxTransferAmount dailyTransferLimit : Word 64}
    (h : setTransferLimitsHandler rt env world ctx maxTransferAmount dailyTransferLimit
      = .ok world') :
    ∃ config, Administered env world ctx.config config ∧
      { world with
        configs := world.configs.insert ctx.config
          { config with maxTransferAmount, dailyTransferLimit } } = world' := by
  simp only [setTransferLimitsHandler, bind_eq_ok, requireCode_eq_ok, exists_const, pure,
    Except.pure, Except.ok.injEq] at h
  rcases h with ⟨config, hconfig, -, hafter⟩
  exact ⟨config, loadConfig_eq_ok hconfig, hafter⟩

/-- Pausing changes this one setting of one config. -/
theorem setProtocolPausedHandler_eq_ok {ctx : SetConfig} {paused : Bool}
    (h : setProtocolPausedHandler rt env world ctx paused = .ok world') :
    ∃ config, Administered env world ctx.config config ∧
      { world with configs := world.configs.insert ctx.config { config with paused } }
        = world' := by
  simp only [setProtocolPausedHandler, bind_eq_ok, pure, Except.pure, Except.ok.injEq] at h
  rcases h with ⟨config, hconfig, hafter⟩
  exact ⟨config, loadConfig_eq_ok hconfig, hafter⟩

end Specifications

/-! ### A sample

A mint with limits of 1000 and 2000 and two token accounts that may transfer.
The addresses are those of the program's id. -/

def sampleAdmin : Pubkey := 0xf718b6e93ccfc93fa27143af174a2785c510f344df76b430a9764ec8c15e7fde

def sampleMint : Pubkey := 0x2c7c42c683e0d4a20db7db6df5ae1ba24b67c29c140c38dde33806e745ba0ba1

def sampleSource : Pubkey := 0x8cd5ffd0552ddf4739998039acf88ae789549563826aa45b328c992bf179caeb

def sampleDestination : Pubkey :=
  0x3e6bfb42a56174066918bd4359bac6713ef7036d28e5828291d1058d26dc97e3

/-- Someone who is neither the admin nor the owner of a token account. -/
def sampleStranger : Pubkey := 0xf7658b8e4d3883a43de0f4c59be0640f473a329506dc786cfde71b101e47ed25

def sampleConfig : Pubkey := 0x29817a2a36fbfc65428f6617308b2cc3e6f8342fd7edebe66aed1ef495780e00

def sampleValidation : Pubkey := 0x68945414931efbc0d9d5116fc7a15197c0a50ff874a319c193027c260e950a22

def sampleSourceCompliance : Pubkey :=
  0x24d075a881f2e847ce8ea2ad7ea1b75b930a4bce8e78c4c87667b5427f8a13ae

def sampleDestinationCompliance : Pubkey :=
  0x20f71773b869fd6efe964b2d8a7d09215fb2099aa90aa952c51f212d05ea270a

def sampleRuntime : Runtime := Runtime.ofTable
  [(Seeds.config sampleMint, sampleConfig, 255),
    (.extraAccountMetas sampleMint, sampleValidation, 254),
    (.user sampleMint sampleSource, sampleSourceCompliance, 251),
    (.user sampleMint sampleDestination, sampleDestinationCompliance, 255)]

/-- A transaction signed by one key. -/
def sampleEnv (signer : Pubkey) : Env :=
  { signers := [signer], unixTimestamp := 1700000000, refused := false }

/-- A token account is allowed to transfer. -/
def sampleAllow (userCompliance user : Pubkey) : Instruction :=
  .setUserCompliance
    { admin := sampleAdmin, config := sampleConfig, userCompliance, user, mint := sampleMint }
    true false true

def sampleSetup : List Input :=
  [(sampleEnv sampleAdmin, .initializeComplianceConfig
      { admin := sampleAdmin, config := sampleConfig, mint := sampleMint } 1000 2000),
    (sampleEnv sampleAdmin, .initializeExtraAccountMetaList
      { admin := sampleAdmin, config := sampleConfig, extraAccountMetaList := sampleValidation,
        mint := sampleMint }),
    (sampleEnv sampleAdmin, sampleAllow sampleSourceCompliance sampleSource),
    (sampleEnv sampleAdmin, sampleAllow sampleDestinationCompliance sampleDestination)]

/-- What anybody can send to the hook. -/
def sampleExecute (amount : Word 64) : Input :=
  (sampleEnv sampleStranger, .fallback
    [⟨sampleSource, false⟩, ⟨sampleMint, false⟩, ⟨sampleDestination, false⟩,
      ⟨sampleStranger, false⟩, ⟨sampleValidation, false⟩, ⟨sampleConfig, false⟩,
      ⟨sampleSourceCompliance, true⟩, ⟨sampleDestinationCompliance, false⟩]
    (some (.execute amount)))

end Compliance

end Stablecoin

end SolanaLab
