import SolanaLab.Stablecoin.Anchor

/-!
# Stablecoin Redemption

The program in which holders ask for redemption of what they hold. A request
waits until its owner cancels it or an admin completes or rejects it, and then
stays as it is. A vault record counts what was requested and what became of it.

Every action of the admin leaves an entry in an account of its own, numbered in
the order of the actions. The admin hands over in two steps: it names the new
admin, and the new admin accepts.

What an instruction has found and written is a structure of its own. Settling
is common to cancelling, completing and rejecting, and leaving an entry to all
actions of the admin.

A request and its vault carry no tokens: the program counts amounts and leaves
moving anything to others. What can be asked of it is therefore whether its
counts agree with its requests at all times, and whether every change of the
admin's doing can be read off the entries.

The handlers make their checks in the order in which the framework and the body
of the Rust function make them. That order matters for which error comes out,
and for nothing else, since an instruction that fails leaves the world alone.

## Main definitions

* `World`: The records of the program.
* `requestRedemptionHandler`, `cancelRedemptionHandler`,
  `completeRedemptionHandler`, `rejectRedemptionHandler`,
  `setRedemptionsPausedHandler`, `beginAdminTransferHandler`,
  `acceptAdminTransferHandler`: The instructions.
* `Opened`, `Settled`, `Logged`: What they write.

## Theorems

* `requestRedemptionHandler_eq_ok`: What a request writes.
* `cancelRedemptionHandler_eq_ok`: What cancelling writes.
* `settleRequest_eq_ok`: What completing and rejecting write.
-/

namespace SolanaLab

namespace Stablecoin

namespace Redemption

open Checked

/-- The settings of the program. The two counters number the requests and the
    entries, and an address that is derived from a counter is used only once. -/
structure ProtocolConfig where
  admin : Pubkey
  pendingAdmin : Pubkey
  redemptionsPaused : Bool
  nextRequestId : Word 64
  nextAdminActionId : Word 64
  bump : Byte
deriving DecidableEq

/-- What was requested, and how much of it is still open or has been settled in
    each of the three ways. The amounts only ever move between these totals. -/
structure RedemptionVault where
  protocolConfig : Pubkey
  outstandingAmount : Word 64
  totalRequested : Word 64
  totalCompleted : Word 64
  totalCancelled : Word 64
  totalRejected : Word 64
  bump : Byte
deriving DecidableEq

/-- How far a request has come. Only a pending one can still change. -/
inductive RedemptionStatus where
  | pending
  | cancelled
  | completed
  | rejected
deriving DecidableEq

/-- A request of its owner, at an address derived from its number. It stays
    there for good, so that a settled request cannot be opened again. -/
structure RedemptionRequest where
  protocolConfig : Pubkey
  vault : Pubkey
  requestId : Word 64
  owner : Pubkey
  amount : Word 64
  status : RedemptionStatus
  createdAt : Int
  updatedAt : Int
  bump : Byte
deriving DecidableEq

/-- What an entry is about. Completing and rejecting are told apart, as the
    request alone would show only where it ended up. -/
inductive AdminAction where
  | completeRedemption
  | rejectRedemption
  | setRedemptionsPaused
  | beginAdminTransfer
  | acceptAdminTransfer
deriving DecidableEq

/-- An entry: who did what, to whom or to which request, and when. The meaning
    of target and amount depends on the action. -/
structure AdminActionLog where
  protocolConfig : Pubkey
  actionId : Word 64
  admin : Pubkey
  action : AdminAction
  target : Pubkey
  amount : Word 64
  createdAt : Int
  bump : Byte
deriving DecidableEq

/-- The errors of the program. Checks of the framework have errors of their own. -/
inductive ErrorCode where
  | invalidRedemptionAmount
  | redemptionsPaused
  | requestNotPending
  | unauthorizedRequestOwner
  | unauthorizedAdmin
  | unauthorizedPendingAdmin
  | missingPendingAdmin
  | invalidPendingAdmin
  | vaultOutstandingTooLow
deriving DecidableEq

/-- The program calls none but the system program. -/
abbrev Error := ProgramError ErrorCode Empty

/-! ### Seeds -/

/-- `PROTOCOL_SEED`: `protocol`. -/
def protocolSeed : List Byte := [112, 114, 111, 116, 111, 99, 111, 108]

/-- `REDEMPTION_VAULT_SEED`: `redemption_vault`. -/
def redemptionVaultSeed : List Byte :=
  [114, 101, 100, 101, 109, 112, 116, 105, 111, 110, 95, 118, 97, 117, 108, 116]

/-- `REDEMPTION_REQUEST_SEED`: `redemption_request`. -/
def redemptionRequestSeed : List Byte :=
  [114, 101, 100, 101, 109, 112, 116, 105, 111, 110, 95, 114, 101, 113, 117, 101, 115, 116]

/-- `ADMIN_ACTION_LOG_SEED`: `admin_action_log`. -/
def adminActionLogSeed : List Byte :=
  [97, 100, 109, 105, 110, 95, 97, 99, 116, 105, 111, 110, 95, 108, 111, 103]

/-- What the addresses of the four kinds of records are derived from. There is
    one protocol for the program, and everything else is kept apart by its
    address. -/
inductive Seeds where
  | protocol
  | redemptionVault (protocolConfig : Pubkey)
  | redemptionRequest (protocolConfig : Pubkey) (requestId : Word 64)
  | adminActionLog (protocolConfig : Pubkey) (actionId : Word 64)
deriving DecidableEq

namespace Seeds

/-- The seeds as the program lists them. The framework joins them without
    separators, and so it has to be shown that they can be told apart. -/
def bytes : Seeds → List (List Byte)
  | protocol => [protocolSeed]
  | redemptionVault key => [redemptionVaultSeed, Settlement.Pubkey.bytes key]
  | redemptionRequest key requestId =>
    [redemptionRequestSeed, Settlement.Pubkey.bytes key, Settlement.u64Bytes requestId]
  | adminActionLog key actionId =>
    [adminActionLogSeed, Settlement.Pubkey.bytes key, Settlement.u64Bytes actionId]

/-- How many bytes the seeds spell. No two kinds spell the same number, which is
    what keeps the kinds apart. -/
def width : Seeds → Nat
  | protocol => 8
  | redemptionVault _ => 48
  | redemptionRequest _ _ => 58
  | adminActionLog _ _ => 56

/-- The width depends on the kind only, not on keys or numbers. -/
theorem length_flatten_bytes (s : Seeds) : s.bytes.flatten.length = s.width := by
  cases s <;> simp only [bytes, List.flatten_cons, List.flatten_nil, List.append_nil,
    List.length_append, Settlement.length_pubkeyBytes, Settlement.length_u64Bytes] <;> rfl

/-- Two fields of fixed width after a common prefix can be told apart. Requests
    and entries both have a key and a number. -/
theorem fields_injective {seed : List Byte} {key key' : Pubkey} {id id' : Word 64}
    (h : [seed, Settlement.Pubkey.bytes key, Settlement.u64Bytes id].flatten
      = [seed, Settlement.Pubkey.bytes key', Settlement.u64Bytes id'].flatten) :
    key = key' ∧ id = id' := by
  simp only [List.flatten_cons, List.flatten_nil, List.append_nil] at h
  have hfields := List.append_inj (List.append_cancel_left h) (by
    rw [Settlement.length_pubkeyBytes, Settlement.length_pubkeyBytes])
  exact ⟨Settlement.pubkeyBytes_injective hfields.1, Settlement.u64Bytes_injective hfields.2⟩

/-- Seeds that spell the same bytes are the same. The widths settle it for seeds
    of different kinds, the fields for those of one kind. -/
theorem flatten_bytes_injective {s s' : Seeds} (h : s.bytes.flatten = s'.bytes.flatten) :
    s = s' := by
  have hwidth : s.width = s'.width := by
    rw [← length_flatten_bytes, ← length_flatten_bytes, h]
  cases s <;> cases s' <;> simp only [width, Nat.reduceEqDiff] at hwidth <;> try rfl
  · simp only [bytes, List.flatten_cons, List.flatten_nil, List.append_nil] at h
    rw [Settlement.pubkeyBytes_injective (List.append_cancel_left h)]
  · rcases fields_injective h with ⟨rfl, rfl⟩
    rfl
  · rcases fields_injective h with ⟨rfl, rfl⟩
    rfl

instance : SeedList Seeds := ⟨bytes, fun _ _ => flatten_bytes_injective⟩

end Seeds

/-! ### The world -/

/-- The records of the program, a map for each kind. Keeping the kinds apart
    says that an account of one kind is never read as another, as its
    discriminator ensures on chain. -/
structure World where
  protocolConfigs : SortedMap Pubkey ProtocolConfig
  vaults : SortedMap Pubkey RedemptionVault
  requests : SortedMap Pubkey RedemptionRequest
  adminActionLogs : SortedMap Pubkey AdminActionLog
deriving DecidableEq

namespace World

/-- The state before any instruction, with no account of the program. -/
def empty : World := ⟨SortedMap.empty, SortedMap.empty, SortedMap.empty, SortedMap.empty⟩

/-- Whether an address has a record of any kind. New records may go only where
    there is none. -/
def occupied (world : World) (key : Pubkey) : Bool :=
  (world.protocolConfigs.get? key).isSome || (world.vaults.get? key).isSome ||
    (world.requests.get? key).isSome || (world.adminActionLogs.get? key).isSome

/-- An address is free when no map has it. -/
theorem occupied_eq_false {world : World} {key : Pubkey} :
    world.occupied key = false ↔ world.protocolConfigs.get? key = none ∧
      world.vaults.get? key = none ∧ world.requests.get? key = none ∧
      world.adminActionLogs.get? key = none := by
  simp only [occupied, Bool.or_eq_false_iff, Option.isSome_eq_false_iff, Option.isNone_iff_eq_none,
    and_assoc]

end World

/-! ### Instructions -/

/-- The accounts of `initialize_protocol`. Whoever comes first signs as the
    admin. -/
structure InitializeProtocol where
  admin : Pubkey
  protocolConfig : Pubkey
  redemptionVault : Pubkey
deriving DecidableEq

/-- `initialize_protocol`. It can succeed only once, as both addresses are then
    taken. -/
def initializeProtocolHandler (rt : Runtime) (env : Env) (world : World)
    (ctx : InitializeProtocol) : Except Error World := do
  checkSigner env ctx.admin
  init rt world.occupied ctx.protocolConfig Seeds.protocol
  init rt world.occupied ctx.redemptionVault (Seeds.redemptionVault ctx.protocolConfig)
  -- Both are created in one instruction, and the second creation would find the first.
  require (ctx.protocolConfig ≠ ctx.redemptionVault) (.anchor .accountAlreadyInUse)
  return { world with
    protocolConfigs := world.protocolConfigs.insert ctx.protocolConfig
      { admin := ctx.admin
        pendingAdmin := Pubkey.default
        redemptionsPaused := false
        nextRequestId := 0
        nextAdminActionId := 0
        bump := rt.bump Seeds.protocol }
    vaults := world.vaults.insert ctx.redemptionVault
      { protocolConfig := ctx.protocolConfig
        outstandingAmount := 0
        totalRequested := 0
        totalCompleted := 0
        totalCancelled := 0
        totalRejected := 0
        bump := rt.bump (Seeds.redemptionVault ctx.protocolConfig) } }

/-- The vault, whose address has to be the one derived from the protocol's. -/
def loadVault (rt : Runtime) (world : World) (protocolConfig redemptionVault : Pubkey) :
    Except Error RedemptionVault := do
  let vault ← load world.occupied world.vaults redemptionVault
  checkSeeds rt redemptionVault (Seeds.redemptionVault protocolConfig) vault.bump
  return vault

/-- The protocol, at the one address it can have. -/
def loadProtocol (rt : Runtime) (world : World) (key : Pubkey) : Except Error ProtocolConfig := do
  let protocol ← load world.occupied world.protocolConfigs key
  checkSeeds rt key Seeds.protocol protocol.bump
  return protocol

/-- A request of the protocol and the vault. Its number is read from the record
    itself, which the address then has to be derived from. -/
def loadRequest (rt : Runtime) (world : World) (protocolConfig redemptionVault key : Pubkey) :
    Except Error RedemptionRequest := do
  let request ← load world.occupied world.requests key
  checkSeeds rt key (Seeds.redemptionRequest protocolConfig request.requestId) request.bump
  hasOne request.protocolConfig protocolConfig
  constraint (request.vault = redemptionVault)
  return request

/-- The accounts of `request_redemption`, the last of which is created by it. -/
structure RequestRedemption where
  owner : Pubkey
  protocolConfig : Pubkey
  redemptionVault : Pubkey
  redemptionRequest : Pubkey
deriving DecidableEq

/-- `request_redemption`. Anyone may ask for any amount; that he holds so many
    tokens is not looked at. -/
def requestRedemptionHandler (rt : Runtime) (env : Env) (world : World) (ctx : RequestRedemption)
    (amount : Word 64) : Except Error World := do
  checkSigner env ctx.owner
  let protocol ← loadProtocol rt world ctx.protocolConfig
  let vault ← loadVault rt world ctx.protocolConfig ctx.redemptionVault
  init rt world.occupied ctx.redemptionRequest
    (Seeds.redemptionRequest ctx.protocolConfig protocol.nextRequestId)
  requireCode (0 < amount) .invalidRedemptionAmount
  requireCode (¬ protocol.redemptionsPaused) .redemptionsPaused
  let outstandingAmount ←
    okOr (checkedAdd vault.outstandingAmount amount) (.code .vaultOutstandingTooLow)
  let totalRequested ←
    okOr (checkedAdd vault.totalRequested amount) (.code .vaultOutstandingTooLow)
  -- The source answers an exhausted counter with the error of a bad amount.
  let nextRequestId ← okOr (checkedAdd protocol.nextRequestId 1) (.code .invalidRedemptionAmount)
  return { world with
    requests := world.requests.insert ctx.redemptionRequest
      { protocolConfig := ctx.protocolConfig
        vault := ctx.redemptionVault
        requestId := protocol.nextRequestId
        owner := ctx.owner
        amount
        status := .pending
        createdAt := env.unixTimestamp
        updatedAt := env.unixTimestamp
        bump := rt.bump (Seeds.redemptionRequest ctx.protocolConfig protocol.nextRequestId) }
    vaults := world.vaults.insert ctx.redemptionVault
      { vault with outstandingAmount, totalRequested }
    protocolConfigs := world.protocolConfigs.insert ctx.protocolConfig
      { protocol with nextRequestId } }

/-- The total of a status, with an amount added that has come to it. The source
    writes this out for each of the three; nothing comes back to pending. -/
def RedemptionVault.count (vault : RedemptionVault) (status : RedemptionStatus)
    (amount : Word 64) : Option RedemptionVault :=
  match status with
  | .pending => none
  | .cancelled => (checkedAdd vault.totalCancelled amount).map
      (fun totalCancelled => { vault with totalCancelled })
  | .completed => (checkedAdd vault.totalCompleted amount).map
      (fun totalCompleted => { vault with totalCompleted })
  | .rejected => (checkedAdd vault.totalRejected amount).map
      (fun totalRejected => { vault with totalRejected })

/-- The accounts of `cancel_redemption`, signed by the owner of the request. -/
structure CancelRedemption where
  owner : Pubkey
  protocolConfig : Pubkey
  redemptionVault : Pubkey
  redemptionRequest : Pubkey
deriving DecidableEq

/-- `cancel_redemption`. It leaves no entry, since it is no action of the admin,
    and it works also while redemptions are paused. -/
def cancelRedemptionHandler (rt : Runtime) (env : Env) (world : World) (ctx : CancelRedemption) :
    Except Error World := do
  checkSigner env ctx.owner
  let _ ← loadProtocol rt world ctx.protocolConfig
  let vault ← loadVault rt world ctx.protocolConfig ctx.redemptionVault
  let request ← loadRequest rt world ctx.protocolConfig ctx.redemptionVault ctx.redemptionRequest
  -- A request of another owner that is settled already is reported as settled.
  requireCode (request.status = .pending) .requestNotPending
  requireCode (request.owner = ctx.owner) .unauthorizedRequestOwner
  let outstandingAmount ←
    okOr (checkedSub vault.outstandingAmount request.amount) (.code .vaultOutstandingTooLow)
  let vault ←
    okOr (RedemptionVault.count { vault with outstandingAmount } .cancelled request.amount)
      (.code .vaultOutstandingTooLow)
  return { world with
    vaults := world.vaults.insert ctx.redemptionVault vault
    requests := world.requests.insert ctx.redemptionRequest
      { request with status := .cancelled, updatedAt := env.unixTimestamp } }

/-- `write_admin_log`: the entry of an action, and the protocol with the action
    counted. The entry gets the number from before, so numbers start at zero. -/
def writeAdminLog (rt : Runtime) (env : Env) (world : World)
    (protocolConfig adminActionLog : Pubkey) (protocol : ProtocolConfig) (admin : Pubkey)
    (action : AdminAction) (target : Pubkey) (amount : Word 64) : Except Error World := do
  let nextAdminActionId ←
    okOr (checkedAdd protocol.nextAdminActionId 1) (.code .invalidPendingAdmin)
  return { world with
    protocolConfigs :=
      world.protocolConfigs.insert protocolConfig { protocol with nextAdminActionId }
    adminActionLogs := world.adminActionLogs.insert adminActionLog
      { protocolConfig
        actionId := protocol.nextAdminActionId
        admin
        action
        target
        amount
        createdAt := env.unixTimestamp
        bump := rt.bump (Seeds.adminActionLog protocolConfig protocol.nextAdminActionId) } }

/-- The accounts of `SetRedemptionsPaused` and `BeginAdminTransfer`, which
    `AdminRedemptionAction` has as well. -/
structure AdminAccounts where
  admin : Pubkey
  protocolConfig : Pubkey
  adminActionLog : Pubkey
deriving DecidableEq

/-- The accounts of `accept_admin_transfer`. Here the signer is not the admin
    yet. -/
structure AcceptAdminTransfer where
  pendingAdmin : Pubkey
  protocolConfig : Pubkey
  adminActionLog : Pubkey
deriving DecidableEq

/-- The accounts of completing and rejecting, which need the request and its
    vault on top of the others. -/
structure AdminRedemptionAction extends AdminAccounts where
  redemptionVault : Pubkey
  redemptionRequest : Pubkey
deriving DecidableEq

/-- `complete_redemption` and `reject_redemption` with `settle_request`. The two
    differ in the status, the total and the action, and in nothing else. -/
def settleRequest (rt : Runtime) (env : Env) (world : World) (ctx : AdminRedemptionAction)
    (status : RedemptionStatus) (action : AdminAction) : Except Error World := do
  checkSigner env ctx.admin
  let protocol ← loadProtocol rt world ctx.protocolConfig
  requireCode (protocol.admin = ctx.admin) .unauthorizedAdmin
  let vault ← loadVault rt world ctx.protocolConfig ctx.redemptionVault
  let request ← loadRequest rt world ctx.protocolConfig ctx.redemptionVault ctx.redemptionRequest
  init rt world.occupied ctx.adminActionLog
    (Seeds.adminActionLog ctx.protocolConfig protocol.nextAdminActionId)
  requireCode (request.status = .pending) .requestNotPending
  let outstandingAmount ←
    okOr (checkedSub vault.outstandingAmount request.amount) (.code .vaultOutstandingTooLow)
  let vault ← okOr (RedemptionVault.count { vault with outstandingAmount } status request.amount)
    (.code .vaultOutstandingTooLow)
  let world := { world with
    vaults := world.vaults.insert ctx.redemptionVault vault
    requests := world.requests.insert ctx.redemptionRequest
      { request with status, updatedAt := env.unixTimestamp } }
  -- The entry is written over the world with the request settled.
  writeAdminLog rt env world ctx.protocolConfig ctx.adminActionLog protocol ctx.admin action
    ctx.redemptionRequest request.amount

/-- `complete_redemption`. -/
def completeRedemptionHandler (rt : Runtime) (env : Env) (world : World)
    (ctx : AdminRedemptionAction) : Except Error World :=
  settleRequest rt env world ctx .completed .completeRedemption

/-- `reject_redemption`. -/
def rejectRedemptionHandler (rt : Runtime) (env : Env) (world : World)
    (ctx : AdminRedemptionAction) : Except Error World :=
  settleRequest rt env world ctx .rejected .rejectRedemption

/-- `set_redemptions_paused`. Only new requests are held up by it. The entry
    keeps the new setting as its amount, one for paused. -/
def setRedemptionsPausedHandler (rt : Runtime) (env : Env) (world : World) (ctx : AdminAccounts)
    (paused : Bool) : Except Error World := do
  checkSigner env ctx.admin
  let protocol ← loadProtocol rt world ctx.protocolConfig
  requireCode (protocol.admin = ctx.admin) .unauthorizedAdmin
  init rt world.occupied ctx.adminActionLog
    (Seeds.adminActionLog ctx.protocolConfig protocol.nextAdminActionId)
  writeAdminLog rt env world ctx.protocolConfig ctx.adminActionLog
    { protocol with redemptionsPaused := paused } ctx.admin .setRedemptionsPaused Pubkey.default
    (if paused then 1 else 0)

/-- `begin_admin_transfer`. A second call replaces the admin that was named
    first. -/
def beginAdminTransferHandler (rt : Runtime) (env : Env) (world : World) (ctx : AdminAccounts)
    (newAdmin : Pubkey) : Except Error World := do
  checkSigner env ctx.admin
  let protocol ← loadProtocol rt world ctx.protocolConfig
  requireCode (protocol.admin = ctx.admin) .unauthorizedAdmin
  init rt world.occupied ctx.adminActionLog
    (Seeds.adminActionLog ctx.protocolConfig protocol.nextAdminActionId)
  requireCode (newAdmin ≠ Pubkey.default ∧ newAdmin ≠ protocol.admin) .invalidPendingAdmin
  writeAdminLog rt env world ctx.protocolConfig ctx.adminActionLog
    { protocol with pendingAdmin := newAdmin } ctx.admin .beginAdminTransfer newAdmin 0

/-- `accept_admin_transfer`. Without a pending admin the key of the record is
    the default one, and that is ruled out first. The entry keeps the old admin. -/
def acceptAdminTransferHandler (rt : Runtime) (env : Env) (world : World)
    (ctx : AcceptAdminTransfer) : Except Error World := do
  checkSigner env ctx.pendingAdmin
  let protocol ← loadProtocol rt world ctx.protocolConfig
  init rt world.occupied ctx.adminActionLog
    (Seeds.adminActionLog ctx.protocolConfig protocol.nextAdminActionId)
  requireCode (protocol.pendingAdmin ≠ Pubkey.default) .missingPendingAdmin
  requireCode (protocol.pendingAdmin = ctx.pendingAdmin) .unauthorizedPendingAdmin
  writeAdminLog rt env world ctx.protocolConfig ctx.adminActionLog
    { protocol with admin := ctx.pendingAdmin, pendingAdmin := Pubkey.default } ctx.pendingAdmin
    .acceptAdminTransfer protocol.admin 0

/-! ### Transactions -/

/-- The instructions of the program with their accounts and arguments. -/
inductive Instruction where
  | initializeProtocol (ctx : InitializeProtocol)
  | requestRedemption (ctx : RequestRedemption) (amount : Word 64)
  | cancelRedemption (ctx : CancelRedemption)
  | completeRedemption (ctx : AdminRedemptionAction)
  | rejectRedemption (ctx : AdminRedemptionAction)
  | setRedemptionsPaused (ctx : AdminAccounts) (paused : Bool)
  | beginAdminTransfer (ctx : AdminAccounts) (newAdmin : Pubkey)
  | acceptAdminTransfer (ctx : AcceptAdminTransfer)
deriving DecidableEq

/-- The instructions of `stablecoin_redemption`, dispatched as the framework
    does it by the discriminator. -/
def process (rt : Runtime) (env : Env) (world : World) : Instruction → Except Error World
  | .initializeProtocol ctx => initializeProtocolHandler rt env world ctx
  | .requestRedemption ctx amount => requestRedemptionHandler rt env world ctx amount
  | .cancelRedemption ctx => cancelRedemptionHandler rt env world ctx
  | .completeRedemption ctx => completeRedemptionHandler rt env world ctx
  | .rejectRedemption ctx => rejectRedemptionHandler rt env world ctx
  | .setRedemptionsPaused ctx paused => setRedemptionsPausedHandler rt env world ctx paused
  | .beginAdminTransfer ctx newAdmin => beginAdminTransferHandler rt env world ctx newAdmin
  | .acceptAdminTransfer ctx => acceptAdminTransferHandler rt env world ctx

/-- An instruction with the transaction it comes in. -/
abbrev Input := Env × Instruction

/-- The transactions of a run, each with how it ended. -/
abbrev Log := List (Input × Except Error Unit)

/-- One transaction. If it fails, the runtime undoes all it has written. -/
def step (rt : Runtime) : World → Input → Except Error Unit × World :=
  transact (process rt) .runtime

/-- A transaction that succeeds is one instruction that does. -/
theorem step_ok {rt : Runtime} {world : World} {input : Input}
    (h : (step rt world input).1 = .ok ()) :
    process rt input.1 world input.2 = .ok (step rt world input).2 :=
  transact_ok (process rt) .runtime h

/-! ### What each instruction has found and written -/

/-- What the vault counts for a status: what is outstanding is pending. With it
    the four totals can be treated as one family. -/
def RedemptionVault.total (vault : RedemptionVault) : RedemptionStatus → Word 64
  | .pending => vault.outstandingAmount
  | .cancelled => vault.totalCancelled
  | .completed => vault.totalCompleted
  | .rejected => vault.totalRejected

section Specifications

variable {rt : Runtime} {env : Env} {world world' : World}

/-- What is known of a protocol that passed the checks. -/
theorem loadProtocol_eq_ok {key : Pubkey} {protocol : ProtocolConfig} :
    loadProtocol rt world key = .ok protocol ↔
      world.protocolConfigs.get? key = some protocol ∧
      rt.createProgramAddress (Seeds.bytes .protocol ++ [[protocol.bump]]) = some key := by
  simp only [loadProtocol, bind_eq_ok, load_eq_ok, checkSeeds_eq_ok, exists_const, pure,
    Except.pure, Except.ok.injEq]
  constructor
  · rintro ⟨found, hfound, hseeds, rfl⟩
    exact ⟨hfound, hseeds⟩
  · rintro ⟨hfound, hseeds⟩
    exact ⟨protocol, hfound, hseeds, rfl⟩

/-- What is known of a vault that passed the checks. The derivation ties it to
    its protocol, and no check of a field is needed for that. -/
theorem loadVault_eq_ok {protocolConfig key : Pubkey} {vault : RedemptionVault} :
    loadVault rt world protocolConfig key = .ok vault ↔
      world.vaults.get? key = some vault ∧
      rt.createProgramAddress (Seeds.bytes (.redemptionVault protocolConfig) ++ [[vault.bump]])
        = some key := by
  simp only [loadVault, bind_eq_ok, load_eq_ok, checkSeeds_eq_ok, exists_const, pure, Except.pure,
    Except.ok.injEq]
  constructor
  · rintro ⟨found, hfound, hseeds, rfl⟩
    exact ⟨hfound, hseeds⟩
  · rintro ⟨hfound, hseeds⟩
    exact ⟨vault, hfound, hseeds, rfl⟩

/-- What is known of a request that passed the checks: only what later proofs
    use. -/
theorem loadRequest_eq_ok {protocolConfig vault key : Pubkey} {request : RedemptionRequest}
    (h : loadRequest rt world protocolConfig vault key = .ok request) :
    world.requests.get? key = some request ∧ request.vault = vault := by
  simp only [loadRequest, bind_eq_ok, load_eq_ok, checkSeeds_eq_ok, hasOne_eq_ok, constraint_eq_ok,
    exists_const, pure, Except.pure, Except.ok.injEq] at h
  rcases h with ⟨found, hfound, -, -, hvault, rfl⟩
  exact ⟨hfound, hvault⟩

/-- What `request_redemption` has found and written. The totals are given by an
    equation for every status, so that nothing need be said of each field. -/
structure Opened (rt : Runtime) (env : Env) (world : World) (ctx : RequestRedemption)
    (amount : Word 64) (world' : World) (protocol : ProtocolConfig)
    (vault vault' : RedemptionVault) (next : Word 64) : Prop where
  signer : ctx.owner ∈ env.signers
  protocolFound : world.protocolConfigs.get? ctx.protocolConfig = some protocol
  vaultFound : world.vaults.get? ctx.redemptionVault = some vault
  requestNew : world.occupied ctx.redemptionRequest = false
  total : ∀ s, (vault'.total s).val
    = (vault.total s).val + if .pending = s then amount.val else 0
  totalRequested : vault'.totalRequested.val = vault.totalRequested.val + amount.val
  counted : next.val = protocol.nextRequestId.val + 1
  after : world' = { world with
    requests := world.requests.insert ctx.redemptionRequest
      ⟨ctx.protocolConfig, ctx.redemptionVault, protocol.nextRequestId, ctx.owner, amount, .pending,
        env.unixTimestamp, env.unixTimestamp,
        rt.bump (Seeds.redemptionRequest ctx.protocolConfig protocol.nextRequestId)⟩
    vaults := world.vaults.insert ctx.redemptionVault vault'
    protocolConfigs := world.protocolConfigs.insert ctx.protocolConfig
      { protocol with nextRequestId := next } }

/-- What settling a request has found and written, as cancelled, completed or
    rejected. The amount leaves pending and comes to the status. -/
structure Settled (env : Env) (world : World) (vaultKey requestKey : Pubkey)
    (status : RedemptionStatus) (world' : World) (request : RedemptionRequest)
    (vault vault' : RedemptionVault) : Prop where
  vaultFound : world.vaults.get? vaultKey = some vault
  requestFound : world.requests.get? requestKey = some request
  requestVault : request.vault = vaultKey
  pending : request.status = .pending
  total : ∀ s, (vault'.total s).val + (if .pending = s then request.amount.val else 0)
    = (vault.total s).val + if status = s then request.amount.val else 0
  totalRequested : vault'.totalRequested = vault.totalRequested
  vaults : world'.vaults = world.vaults.insert vaultKey vault'
  requests : world'.requests = world.requests.insert requestKey
    { request with status, updatedAt := env.unixTimestamp }

/-- What an action of the admin has found and written: the protocol, as the
    action changes it and with the action counted, and the entry. The actor is
    the signer, which for a handover accepted is the new admin. -/
structure Logged (rt : Runtime) (env : Env) (world : World) (protocolKey logKey actor : Pubkey)
    (action : AdminAction) (target : Pubkey) (amount : Word 64) (world' : World)
    (protocol changed : ProtocolConfig) (next : Word 64) : Prop where
  signer : actor ∈ env.signers
  protocolFound : world.protocolConfigs.get? protocolKey = some protocol
  logNew : world.occupied logKey = false
  sameCounters : changed.nextAdminActionId = protocol.nextAdminActionId ∧
    changed.nextRequestId = protocol.nextRequestId
  counted : next.val = protocol.nextAdminActionId.val + 1
  protocolConfigs : world'.protocolConfigs = world.protocolConfigs.insert protocolKey
    { changed with nextAdminActionId := next }
  adminActionLogs : world'.adminActionLogs = world.adminActionLogs.insert logKey
    ⟨protocolKey, protocol.nextAdminActionId, actor, action, target, amount, env.unixTimestamp,
      rt.bump (Seeds.adminActionLog protocolKey protocol.nextAdminActionId)⟩

/-- When the protocol is set up, and the two records it starts with. -/
theorem initializeProtocolHandler_eq_ok {ctx : InitializeProtocol} :
    initializeProtocolHandler rt env world ctx = .ok world' ↔
      ctx.admin ∈ env.signers ∧
      (ctx.protocolConfig = rt.address Seeds.protocol ∧
        world.occupied ctx.protocolConfig = false) ∧
      (ctx.redemptionVault = rt.address (Seeds.redemptionVault ctx.protocolConfig) ∧
        world.occupied ctx.redemptionVault = false) ∧
      ctx.protocolConfig ≠ ctx.redemptionVault ∧
      { world with
        protocolConfigs := world.protocolConfigs.insert ctx.protocolConfig
          ⟨ctx.admin, Pubkey.default, false, 0, 0, rt.bump Seeds.protocol⟩
        vaults := world.vaults.insert ctx.redemptionVault
          ⟨ctx.protocolConfig, 0, 0, 0, 0, 0,
            rt.bump (Seeds.redemptionVault ctx.protocolConfig)⟩ } = world' := by
  simp only [initializeProtocolHandler, bind_eq_ok, checkSigner_eq_ok, init_eq_ok, require_eq_ok,
    exists_const, pure, Except.pure, Except.ok.injEq]

/-- A request that succeeds has opened one, under the next number. -/
theorem requestRedemptionHandler_eq_ok {ctx : RequestRedemption} {amount : Word 64}
    (h : requestRedemptionHandler rt env world ctx amount = .ok world') :
    ∃ protocol vault vault' next,
      Opened rt env world ctx amount world' protocol vault vault' next := by
  simp only [requestRedemptionHandler, bind_eq_ok, checkSigner_eq_ok, loadProtocol_eq_ok,
    loadVault_eq_ok, init_eq_ok, requireCode_eq_ok, okOr_eq_ok, checkedAdd_eq_some, exists_const,
    pure, Except.pure, Except.ok.injEq] at h
  rcases h with ⟨hsigner, protocol, ⟨hprotocol, -⟩, vault, ⟨hvault, -⟩, ⟨-, hnew⟩, -, -,
    outstanding, houtstanding, requested, hrequested, next, hnext, rfl⟩
  refine ⟨protocol, vault, _, next, hsigner, hprotocol, hvault, hnew, ?_, hrequested, hnext, rfl⟩
  intro s
  cases s with
  | pending => exact houtstanding
  | _ => rfl

/-- Counting an amount moves it from pending to the status. -/
theorem count_eq_some {vault counted : RedemptionVault} {outstandingAmount amount : Word 64}
    {status : RedemptionStatus}
    (houtstanding : outstandingAmount.val + amount.val = vault.outstandingAmount.val)
    (h : RedemptionVault.count { vault with outstandingAmount } status amount = some counted) :
    (∀ s, (counted.total s).val + (if .pending = s then amount.val else 0)
      = (vault.total s).val + if status = s then amount.val else 0) ∧
    counted.totalRequested = vault.totalRequested := by
  cases status with
  | pending =>
      exact absurd h (by simp only [RedemptionVault.count, reduceCtorEq, not_false_eq_true])
  | _ =>
      simp only [RedemptionVault.count, Option.map_eq_some_iff, checkedAdd_eq_some] at h
      rcases h with ⟨total, htotal, rfl⟩
      refine ⟨fun s => ?_, rfl⟩
      cases s <;>
        simp only [RedemptionVault.total, reduceCtorEq, if_true, if_false, Nat.add_zero] <;>
        omega

/-- A cancellation that succeeds settles a request of the signer's own and
    leaves the protocol and the entries alone. -/
theorem cancelRedemptionHandler_eq_ok {ctx : CancelRedemption}
    (h : cancelRedemptionHandler rt env world ctx = .ok world') :
    (∃ request vault vault', request.owner = ctx.owner ∧ ctx.owner ∈ env.signers ∧
      Settled env world ctx.redemptionVault ctx.redemptionRequest .cancelled world' request vault
        vault') ∧
    (∃ protocol, world.protocolConfigs.get? ctx.protocolConfig = some protocol) ∧
    world'.protocolConfigs = world.protocolConfigs ∧
    world'.adminActionLogs = world.adminActionLogs := by
  simp only [cancelRedemptionHandler, bind_eq_ok, checkSigner_eq_ok, loadProtocol_eq_ok,
    loadVault_eq_ok, requireCode_eq_ok, okOr_eq_ok, checkedSub_eq_some, exists_const, pure,
    Except.pure, Except.ok.injEq] at h
  rcases h with ⟨hsigner, protocol, ⟨hprotocol, -⟩, vault, ⟨hvault, -⟩, request, hload, hpending,
    howner, outstanding, houtstanding, counted, hcounted, rfl⟩
  rcases loadRequest_eq_ok hload with ⟨hrequest, hrv⟩
  rcases count_eq_some houtstanding hcounted with ⟨htotal, hrequested⟩
  exact ⟨⟨request, vault, counted, howner, hsigner, hvault, hrequest, hrv, hpending, htotal,
    hrequested, rfl, rfl⟩, ⟨protocol, hprotocol⟩, rfl, rfl⟩

/-- Writing an entry fails only when there are no numbers left. -/
theorem writeAdminLog_eq_ok {protocolConfig adminActionLog admin target : Pubkey}
    {protocol : ProtocolConfig} {action : AdminAction} {amount : Word 64} :
    writeAdminLog rt env world protocolConfig adminActionLog protocol admin action target amount
      = .ok world' ↔ ∃ next : Word 64, next.val = protocol.nextAdminActionId.val + 1 ∧
        { world with
          protocolConfigs := world.protocolConfigs.insert protocolConfig
            { protocol with nextAdminActionId := next }
          adminActionLogs := world.adminActionLogs.insert adminActionLog
            ⟨protocolConfig, protocol.nextAdminActionId, admin, action, target, amount,
              env.unixTimestamp,
              rt.bump (Seeds.adminActionLog protocolConfig protocol.nextAdminActionId)⟩ }
          = world' := by
  simp only [writeAdminLog, bind_eq_ok, okOr_eq_ok, checkedAdd_eq_some, pure, Except.pure,
    Except.ok.injEq]
  rfl

/-- What `complete_redemption` and `reject_redemption` have found and written:
    the request is settled, and an entry of the admin's names it with its
    amount. -/
theorem settleRequest_eq_ok {ctx : AdminRedemptionAction} {status : RedemptionStatus}
    {action : AdminAction} (h : settleRequest rt env world ctx status action = .ok world') :
    ∃ protocol request vault vault' next, protocol.admin = ctx.admin ∧
      Settled env world ctx.redemptionVault ctx.redemptionRequest status world' request vault
        vault' ∧
      Logged rt env world ctx.protocolConfig ctx.adminActionLog ctx.admin action
        ctx.redemptionRequest request.amount world' protocol protocol next := by
  simp only [settleRequest, bind_eq_ok, checkSigner_eq_ok, loadProtocol_eq_ok, loadVault_eq_ok,
    init_eq_ok, requireCode_eq_ok, okOr_eq_ok, checkedSub_eq_some, writeAdminLog_eq_ok,
    exists_const] at h
  rcases h with ⟨hsigner, protocol, ⟨hprotocol, -⟩, hadmin, vault, ⟨hvault, -⟩, request, hload,
    ⟨-, hnew⟩, hpending, outstanding, houtstanding, counted, hcounted, next, hnext, rfl⟩
  rcases loadRequest_eq_ok hload with ⟨hrequest, hrv⟩
  rcases count_eq_some houtstanding hcounted with ⟨htotal, hrequested⟩
  exact ⟨protocol, request, vault, counted, next, hadmin,
    ⟨hvault, hrequest, hrv, hpending, htotal, hrequested, rfl, rfl⟩,
    ⟨hsigner, hprotocol, hnew, ⟨rfl, rfl⟩, hnext, rfl, rfl⟩⟩

/-- Requests and vault are not touched. The three actions that concern only the
    admin's own settings satisfy it. -/
def SameRequests (world world' : World) : Prop :=
  world'.requests = world.requests ∧ world'.vaults = world.vaults

/-- Pausing changes the one setting and leaves an entry. -/
theorem setRedemptionsPausedHandler_eq_ok {ctx : AdminAccounts} {paused : Bool}
    (h : setRedemptionsPausedHandler rt env world ctx paused = .ok world') :
    ∃ protocol next, protocol.admin = ctx.admin ∧ SameRequests world world' ∧
      Logged rt env world ctx.protocolConfig ctx.adminActionLog ctx.admin .setRedemptionsPaused
        Pubkey.default (if paused then 1 else 0) world' protocol
        { protocol with redemptionsPaused := paused } next := by
  simp only [setRedemptionsPausedHandler, bind_eq_ok, checkSigner_eq_ok, loadProtocol_eq_ok,
    init_eq_ok, requireCode_eq_ok, writeAdminLog_eq_ok, exists_const] at h
  rcases h with ⟨hsigner, protocol, ⟨hprotocol, -⟩, hadmin, ⟨-, hnew⟩, next, hnext, rfl⟩
  exact ⟨protocol, next, hadmin, ⟨rfl, rfl⟩, hsigner, hprotocol, hnew, ⟨rfl, rfl⟩, hnext, rfl, rfl⟩

/-- Naming a new admin changes no more than that, and leaves an entry with its
    key. -/
theorem beginAdminTransferHandler_eq_ok {ctx : AdminAccounts} {newAdmin : Pubkey}
    (h : beginAdminTransferHandler rt env world ctx newAdmin = .ok world') :
    ∃ protocol next, protocol.admin = ctx.admin ∧
      (newAdmin ≠ Pubkey.default ∧ newAdmin ≠ protocol.admin) ∧ SameRequests world world' ∧
      Logged rt env world ctx.protocolConfig ctx.adminActionLog ctx.admin .beginAdminTransfer
        newAdmin 0 world' protocol { protocol with pendingAdmin := newAdmin } next := by
  simp only [beginAdminTransferHandler, bind_eq_ok, checkSigner_eq_ok, loadProtocol_eq_ok,
    init_eq_ok, requireCode_eq_ok, writeAdminLog_eq_ok, exists_const] at h
  rcases h with ⟨hsigner, protocol, ⟨hprotocol, -⟩, hadmin, ⟨-, hnew⟩, hpending, next, hnext, rfl⟩
  exact ⟨protocol, next, hadmin, hpending, ⟨rfl, rfl⟩, hsigner, hprotocol, hnew, ⟨rfl, rfl⟩, hnext,
    rfl, rfl⟩

/-- Accepting makes the signer the admin and clears the key, and its entry names
    the admin before. -/
theorem acceptAdminTransferHandler_eq_ok {ctx : AcceptAdminTransfer}
    (h : acceptAdminTransferHandler rt env world ctx = .ok world') :
    ∃ protocol next, protocol.pendingAdmin ≠ Pubkey.default ∧
      protocol.pendingAdmin = ctx.pendingAdmin ∧ SameRequests world world' ∧
      Logged rt env world ctx.protocolConfig ctx.adminActionLog ctx.pendingAdmin
        .acceptAdminTransfer protocol.admin 0 world' protocol
        { protocol with admin := ctx.pendingAdmin, pendingAdmin := Pubkey.default } next := by
  simp only [acceptAdminTransferHandler, bind_eq_ok, checkSigner_eq_ok, loadProtocol_eq_ok,
    init_eq_ok, requireCode_eq_ok, writeAdminLog_eq_ok, exists_const] at h
  rcases h with ⟨hsigner, protocol, ⟨hprotocol, -⟩, ⟨-, hnew⟩, hsome, hpending, next, hnext, rfl⟩
  exact ⟨protocol, next, hsome, hpending, ⟨rfl, rfl⟩, hsigner, hprotocol, hnew, ⟨rfl, rfl⟩, hnext,
    rfl, rfl⟩

end Specifications

/-! ### A sample

An admin names another one, which completes the request of a user. The addresses
are those of the program's id. -/

def sampleAdmin : Pubkey := 0xf718b6e93ccfc93fa27143af174a2785c510f344df76b430a9764ec8c15e7fde

def sampleUser : Pubkey := 0xf7658b8e4d3883a43de0f4c59be0640f473a329506dc786cfde71b101e47ed25

def sampleNewAdmin : Pubkey := 0xd6279530a581671a77c5dda9d03f4401ed5d7508c56d7a6fa153d626dc434af5

def sampleProtocol : Pubkey := 0x7849d9e45c6fa517a0bb6a4449e45bf1b396762be4dfe514cb8c1d142525c742

def sampleVault : Pubkey := 0x6ab00046d5fb54a8ef0dee1d7353d401f4b934cc480023349dd0f8e9793ce095

def sampleRequest : Pubkey := 0xa8466f5e31120e1c2a575435bea77250a519835b049e4610ac29f3f0eb5e674

/-- The accounts of the first three entries. -/
def sampleLog : Fin 3 → Pubkey
  | 0 => 0xef2189e6a7d6fe215f2531bbfdeacd9f6e69e4de823ec1745d4184418a24ecc1
  | 1 => 0xefeecc38049b96ad2d9ded4eb649759b13d3397641e8144dd76486a7a521294f
  | 2 => 0xb365e446852b9bdf3595c0476df31fe455f14d2a658150841bd23ca1a24cd66e

def sampleRuntime : Runtime := Runtime.ofTable
  [(Seeds.protocol, sampleProtocol, 250),
    (.redemptionVault sampleProtocol, sampleVault, 254),
    (.redemptionRequest sampleProtocol 0, sampleRequest, 255),
    (.adminActionLog sampleProtocol 0, sampleLog 0, 255),
    (.adminActionLog sampleProtocol 1, sampleLog 1, 255),
    (.adminActionLog sampleProtocol 2, sampleLog 2, 253)]

/-- A transaction signed by one key. -/
def sampleEnv (signer : Pubkey) : Env :=
  { signers := [signer], unixTimestamp := 1700000000, refused := false }

/-- A request is made, the admin hands over, and the new admin completes the
    request. All four kinds of records occur. -/
def sampleInputs : List Input :=
  [(sampleEnv sampleAdmin, .initializeProtocol
      { admin := sampleAdmin, protocolConfig := sampleProtocol, redemptionVault := sampleVault }),
    (sampleEnv sampleUser, .requestRedemption
      { owner := sampleUser, protocolConfig := sampleProtocol, redemptionVault := sampleVault,
        redemptionRequest := sampleRequest } 7),
    (sampleEnv sampleAdmin, .beginAdminTransfer
      { admin := sampleAdmin, protocolConfig := sampleProtocol, adminActionLog := sampleLog 0 }
      sampleNewAdmin),
    (sampleEnv sampleNewAdmin, .acceptAdminTransfer
      { pendingAdmin := sampleNewAdmin, protocolConfig := sampleProtocol,
        adminActionLog := sampleLog 1 }),
    (sampleEnv sampleNewAdmin, .completeRedemption
      { admin := sampleNewAdmin, protocolConfig := sampleProtocol, adminActionLog := sampleLog 2,
        redemptionVault := sampleVault, redemptionRequest := sampleRequest })]

end Redemption

end Stablecoin

end SolanaLab
