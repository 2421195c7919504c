import SolanaLab.Library.Amounts
import SolanaLab.Stablecoin.Anchor

/-!
# The Vault Program

A program that keeps lamports for its users. Every user has one vault, an
account of the program at an address derived from the user. The lamports of
the vault are the lamports of that account, next to a counter of what was
deposited, which is the only thing a withdrawal looks at.

The lamports are not the program's alone: they pay for the rent of the
account, and anyone may send more of them to it. So lamports are part of the
world here, and a transfer that is none of the program's business is one more
instruction.

A withdrawal needs no system program, as the program takes the lamports from
its own account. A deposit does, and the system program refuses to take from an
account with data. So a vault never pays a deposit or a rent, which is what
keeps the vaults apart: lamports leave a vault through its own two
instructions.

## Main definitions

* `World`: The lamports of all accounts and the vaults.
* `systemTransfer`: What the system program does.
* `initializeVaultHandler`, `setVaultLimitHandler`, `depositHandler`,
  `withdrawHandler`, `closeVaultHandler`: The instructions.
* `step`: An instruction in its transaction.
* `Does`: What an instruction does when it succeeds.

## Theorems

* `process_does`: An instruction that succeeds does one of these things.
-/

namespace SolanaLab

namespace Vault

open Checked Stablecoin Amounts

/-- `VaultConfig`: whose vault it is, the bump of its address, the most that may
    be deposited, and what was deposited and not withdrawn. -/
structure VaultConfig where
  user : Pubkey
  bump : Byte
  limitLamports : Word 64
  totalDepositedLamports : Word 64
deriving DecidableEq

/-- The errors of the program. None is about lamports: those are the system
    program's. -/
inductive ErrorCode where
  | depositOverflow
  | vaultLimitExceeded
  | insufficientVaultBalance
  | vaultNotEmpty
deriving DecidableEq

/-- The errors of the system program, and those of the framework that only
    concern lamports. -/
inductive SystemError where
  | missingRequiredSignature
  | invalidArgument
  | resultWithNegativeLamports
  | arithmeticOverflow
  | tryingToInitPayerAsProgramAccount
  | constraintClose
deriving DecidableEq

/-- The errors of an instruction, its own and those of the calls it makes. -/
abbrev Error := ProgramError ErrorCode SystemError

/-- `VAULT_SEED`: `vault`. -/
def vaultSeed : List Byte := [118, 97, 117, 108, 116]

/-- The seeds of a vault. -/
structure Seeds where
  user : Pubkey
deriving DecidableEq

namespace Seeds

/-- The seeds as they are hashed. -/
def bytes (s : Seeds) : List (List Byte) := [vaultSeed, Settlement.Pubkey.bytes s.user]

/-- The bytes determine the user. -/
theorem flatten_bytes_injective {s s' : Seeds} (h : s.bytes.flatten = s'.bytes.flatten) :
    s = s' := by
  rcases s with ⟨user⟩
  rcases s' with ⟨user'⟩
  simp only [bytes, List.flatten_cons, List.flatten_nil, List.append_nil] at h
  rw [Settlement.pubkeyBytes_injective (List.append_cancel_left h)]

instance : SeedList Seeds := ⟨bytes, fun _ _ => flatten_bytes_injective⟩

end Seeds

/-! ### The world -/

/-- The lamports of all accounts, and the accounts of the program. An account of
    the program has lamports under the same address. -/
structure World where
  lamports : SortedMap Pubkey (Word 64)
  configs : SortedMap Pubkey VaultConfig
deriving DecidableEq

namespace World

/-- Lamports before the program was ever called. -/
def start (lamports : SortedMap Pubkey (Word 64)) : World := ⟨lamports, SortedMap.empty⟩

/-- Whether an address has an account of the program. -/
def occupied (world : World) (key : Pubkey) : Bool := (world.configs.get? key).isSome

/-- `system_instruction::transfer`. An account with data cannot be a source. -/
def systemTransfer (world : World) (env : Env) (source destination : Pubkey) (lamports : Word 64) :
    Except SystemError (SortedMap Pubkey (Word 64)) := do
  require (source ∈ env.signers) .missingRequiredSignature
  require (world.configs.get? source = none) .invalidArgument
  let taken ← okOr (debit world.lamports source lamports) .resultWithNegativeLamports
  okOr (credit taken destination lamports) .arithmeticOverflow

/-- What `init` pays for a new account, given the least it must have to be
    exempt from rent. An account that has lamports already is topped up. -/
def fund (world : World) (env : Env) (minimumBalance : Word 64) (payer key : Pubkey) :
    Except SystemError (SortedMap Pubkey (Word 64)) :=
  if (amount world.lamports key).val = 0 then world.systemTransfer env payer key minimumBalance
  else do
    require (payer ≠ key) .tryingToInitPayerAsProgramAccount
    match checkedSub (max minimumBalance 1) (amount world.lamports key) with
    | some required =>
      if 0 < required.val then world.systemTransfer env payer key required
      else return world.lamports
    | none => return world.lamports

end World

/-! ### The instructions -/

/-- The accounts of every instruction. -/
structure VaultAccounts where
  user : Pubkey
  vaultConfig : Pubkey
deriving DecidableEq

section Handlers

variable (rt : Runtime) (env : Env) (world : World) (ctx : VaultAccounts)

/-- The checks on the accounts of an instruction for a vault that exists. -/
def loadVault : Except Error VaultConfig := do
  checkSigner env ctx.user
  let config ← load world.occupied world.configs ctx.vaultConfig
  checkSeeds rt ctx.vaultConfig (⟨ctx.user⟩ : Seeds) config.bump
  hasOne config.user ctx.user
  return config

/-- `initialize_vault`. -/
def initializeVaultHandler (minimumBalance limitLamports : Word 64) : Except Error World := do
  checkSigner env ctx.user
  init rt world.occupied ctx.vaultConfig (⟨ctx.user⟩ : Seeds)
  let lamports ← cpi (world.fund env minimumBalance ctx.user ctx.vaultConfig)
  return {
    lamports
    configs := world.configs.insert ctx.vaultConfig
      { user := ctx.user
        bump := rt.bump (⟨ctx.user⟩ : Seeds)
        limitLamports
        totalDepositedLamports := 0 } }

/-- `set_vault_limit`. The new limit may be below what is in the vault already. -/
def setVaultLimitHandler (limitLamports : Word 64) : Except Error World := do
  let config ← loadVault rt env world ctx
  return { world with
    configs := world.configs.insert ctx.vaultConfig { config with limitLamports } }

/-- `deposit`. The limit is on what is recorded, so lamports that were sent to
    the vault otherwise do not count. -/
def depositHandler (amountLamports : Word 64) : Except Error World := do
  let config ← loadVault rt env world ctx
  let newTotal ← okOr (checkedAdd config.totalDepositedLamports amountLamports)
    (.code .depositOverflow)
  requireCode (newTotal ≤ config.limitLamports) .vaultLimitExceeded
  let lamports ← cpi (world.systemTransfer env ctx.user ctx.vaultConfig amountLamports)
  return {
    lamports
    configs := world.configs.insert ctx.vaultConfig
      { config with totalDepositedLamports := newTotal } }

/-- `withdraw`. Arithmetic that does not fit stops the program. -/
def withdrawHandler (amountLamports : Word 64) : Except Error World := do
  let config ← loadVault rt env world ctx
  requireCode (amountLamports ≤ config.totalDepositedLamports) .insufficientVaultBalance
  let taken ← okOr (debit world.lamports ctx.vaultConfig amountLamports) .runtime
  let lamports ← okOr (credit taken ctx.user amountLamports) .runtime
  let totalDepositedLamports ← okOr (checkedSub config.totalDepositedLamports amountLamports)
    .runtime
  return {
    lamports
    configs := world.configs.insert ctx.vaultConfig { config with totalDepositedLamports } }

/-- `close_vault`. All lamports of the account go to the user. -/
def closeVaultHandler : Except Error World := do
  let config ← loadVault rt env world ctx
  require (ctx.vaultConfig ≠ ctx.user) (.cpi .constraintClose)
  requireCode (config.totalDepositedLamports = 0) .vaultNotEmpty
  let given ← okOr (credit world.lamports ctx.user (amount world.lamports ctx.vaultConfig)) .runtime
  return {
    lamports := given.insert ctx.vaultConfig 0
    configs := world.configs.erase ctx.vaultConfig }

end Handlers

/-- The instructions of the program, and the transfers that go on around it. -/
inductive Instruction where
  | initializeVault (ctx : VaultAccounts) (limitLamports : Word 64)
  | setVaultLimit (ctx : VaultAccounts) (limitLamports : Word 64)
  | deposit (ctx : VaultAccounts) (amountLamports : Word 64)
  | withdraw (ctx : VaultAccounts) (amountLamports : Word 64)
  | closeVault (ctx : VaultAccounts)
  /-- A transfer that has nothing to do with the program. -/
  | systemTransfer (source destination : Pubkey) (lamports : Word 64)
deriving DecidableEq

/-- One instruction. -/
def process (rt : Runtime) (minimumBalance : Word 64) (env : Env) (world : World) :
    Instruction → Except Error World
  | .initializeVault ctx limit => initializeVaultHandler rt env world ctx minimumBalance limit
  | .setVaultLimit ctx limit => setVaultLimitHandler rt env world ctx limit
  | .deposit ctx lamports => depositHandler rt env world ctx lamports
  | .withdraw ctx lamports => withdrawHandler rt env world ctx lamports
  | .closeVault ctx => closeVaultHandler rt env world ctx
  | .systemTransfer source destination lamports =>
    (cpi (world.systemTransfer env source destination lamports)).map
      (fun lamports => { world with lamports })

/-- An instruction in its transaction. -/
def step (rt : Runtime) (minimumBalance : Word 64) (world : World) (input : Env × Instruction) :
    Except Error Unit × World :=
  transact (process rt minimumBalance) .runtime world input

/-! ### What an instruction does -/

section Does

variable {rt : Runtime} {env : Env} {world world' : World} {ctx : VaultAccounts}

/-- The vault of a user who has signed. -/
structure Opens (rt : Runtime) (env : Env) (world : World) (ctx : VaultAccounts)
    (config : VaultConfig) : Prop where
  signed : ctx.user ∈ env.signers
  found : world.configs.get? ctx.vaultConfig = some config
  seeds : rt.createProgramAddress (SeedList.bytes (⟨ctx.user⟩ : Seeds) ++ [[config.bump]])
    = some ctx.vaultConfig
  owner : config.user = ctx.user

/-- What an instruction does when it succeeds. The lamports are told by how they
    move, and the records by what is written, which is all that an invariant
    needs. -/
inductive Does (rt : Runtime) (minimumBalance : Word 64) (env : Env) (world : World) :
    Instruction → World → Prop
  | initialized {ctx : VaultAccounts} {limit : Word 64} {lamports : SortedMap Pubkey (Word 64)}
      (signed : ctx.user ∈ env.signers)
      (address : ctx.vaultConfig = rt.address (⟨ctx.user⟩ : Seeds))
      (free : world.configs.get? ctx.vaultConfig = none)
      (payer : lamports ≠ world.lamports → world.configs.get? ctx.user = none)
      (paid : lamports = world.lamports ∨
        ∃ n, move world.lamports ctx.user ctx.vaultConfig n = some lamports)
      (rent : minimumBalance.val ≤ (amount lamports ctx.vaultConfig).val) :
      Does rt minimumBalance env world (.initializeVault ctx limit) {
        lamports
        configs := world.configs.insert ctx.vaultConfig
          ⟨ctx.user, rt.bump (⟨ctx.user⟩ : Seeds), limit, 0⟩ }
  | limited {ctx : VaultAccounts} {limit : Word 64} {config : VaultConfig}
      (opens : Opens rt env world ctx config) :
      Does rt minimumBalance env world (.setVaultLimit ctx limit) { world with
        configs := world.configs.insert ctx.vaultConfig { config with limitLamports := limit } }
  | deposited {ctx : VaultAccounts} {n newTotal : Word 64} {config : VaultConfig}
      {lamports : SortedMap Pubkey (Word 64)} (opens : Opens rt env world ctx config)
      (sum : newTotal.val = config.totalDepositedLamports.val + n.val)
      (within : newTotal ≤ config.limitLamports) (payer : world.configs.get? ctx.user = none)
      (paid : move world.lamports ctx.user ctx.vaultConfig n = some lamports) :
      Does rt minimumBalance env world (.deposit ctx n) {
        lamports
        configs := world.configs.insert ctx.vaultConfig
          { config with totalDepositedLamports := newTotal } }
  | withdrawn {ctx : VaultAccounts} {n rest : Word 64} {config : VaultConfig}
      {lamports : SortedMap Pubkey (Word 64)} (opens : Opens rt env world ctx config)
      (difference : rest.val + n.val = config.totalDepositedLamports.val)
      (paid : move world.lamports ctx.vaultConfig ctx.user n = some lamports) :
      Does rt minimumBalance env world (.withdraw ctx n) {
        lamports
        configs := world.configs.insert ctx.vaultConfig
          { config with totalDepositedLamports := rest } }
  | closed {ctx : VaultAccounts} {config : VaultConfig} {given : SortedMap Pubkey (Word 64)}
      (opens : Opens rt env world ctx config) (different : ctx.vaultConfig ≠ ctx.user)
      (empty : config.totalDepositedLamports = 0)
      (paid : credit world.lamports ctx.user (amount world.lamports ctx.vaultConfig) = some given) :
      Does rt minimumBalance env world (.closeVault ctx) {
        lamports := given.insert ctx.vaultConfig 0
        configs := world.configs.erase ctx.vaultConfig }
  | transferred {source destination : Pubkey} {n : Word 64}
      {lamports : SortedMap Pubkey (Word 64)} (signed : source ∈ env.signers)
      (payer : world.configs.get? source = none)
      (paid : move world.lamports source destination n = some lamports) :
      Does rt minimumBalance env world (.systemTransfer source destination n)
        { world with lamports }

/-- The checks pass for a vault that is there, at the address of its user, who
    has signed. -/
theorem loadVault_eq_ok {config : VaultConfig} :
    loadVault rt env world ctx = .ok config ↔ Opens rt env world ctx config := by
  simp only [loadVault, bind_eq_ok, checkSigner_eq_ok, load_eq_ok, checkSeeds_eq_ok, hasOne_eq_ok,
    exists_const, pure, Except.pure, Except.ok.injEq]
  constructor
  · rintro ⟨hsigned, config', hfound, hseeds, howner, rfl⟩
    exact ⟨hsigned, hfound, hseeds, howner⟩
  · rintro ⟨hsigned, hfound, hseeds, howner⟩
    exact ⟨hsigned, config, hfound, hseeds, howner, rfl⟩

/-- A transfer takes the lamports of an account without data that has signed. -/
theorem systemTransfer_eq_ok {source destination : Pubkey} {n : Word 64}
    {lamports : SortedMap Pubkey (Word 64)} :
    world.systemTransfer env source destination n = .ok lamports ↔
      source ∈ env.signers ∧ world.configs.get? source = none ∧
      move world.lamports source destination n = some lamports := by
  simp only [World.systemTransfer, bind_eq_ok, require_eq_ok, okOr_eq_ok, exists_const,
    move_eq_some]

/-- A new account is paid for by a transfer, or has enough already. -/
theorem fund_eq_ok {minimumBalance : Word 64} {payer key : Pubkey}
    {lamports : SortedMap Pubkey (Word 64)}
    (h : world.fund env minimumBalance payer key = .ok lamports) :
    (lamports ≠ world.lamports → world.configs.get? payer = none) ∧
    (lamports = world.lamports ∨ ∃ n, move world.lamports payer key n = some lamports) ∧
    minimumBalance.val ≤ (amount lamports key).val := by
  unfold World.fund at h
  by_cases hzero : (amount world.lamports key).val = 0
  · rw [if_pos hzero] at h
    rcases systemTransfer_eq_ok.mp h with ⟨-, hpayer, hmove⟩
    have hamount := move_amount hmove key
    refine ⟨fun _ => hpayer, Or.inr ⟨_, hmove⟩, ?_⟩
    -- An account that pays for itself would have nothing to pay with.
    by_cases hself : key = payer
    · rcases move_eq_some.mp hmove with ⟨between, hdebit, -⟩
      have hdebited := debit_amount hdebit key
      rw [if_pos hself] at hdebited
      omega
    · rw [if_neg hself, if_pos rfl] at hamount
      omega
  · rw [if_neg hzero] at h
    simp only [bind_eq_ok, require_eq_ok, exists_const] at h
    rcases h with ⟨hne, h⟩
    -- What is there already counts towards the rent.
    have hmax : minimumBalance.val ≤ (max minimumBalance (1 : Word 64)).val :=
      Fin.le_def.mp (le_max_left _ _)
    cases hrequired : checkedSub (max minimumBalance (1 : Word 64)) (amount world.lamports key) with
    | none =>
        rw [hrequired] at h
        rw [← Except.ok.inj h]
        have hlt := checkedSub_eq_none.mp hrequired
        exact ⟨fun hself => absurd rfl hself, Or.inl rfl, by omega⟩
    | some required =>
        have hsum := checkedSub_eq_some.mp hrequired
        rw [hrequired] at h
        simp only at h
        by_cases hpos : 0 < required.val
        · rw [if_pos hpos] at h
          rcases systemTransfer_eq_ok.mp h with ⟨-, hpayer, hmove⟩
          have hamount := move_amount hmove key
          rw [if_neg (Ne.symm hne), if_pos rfl] at hamount
          exact ⟨fun _ => hpayer, Or.inr ⟨_, hmove⟩, by omega⟩
        · rw [if_neg hpos] at h
          rw [← Except.ok.inj h]
          exact ⟨fun hself => absurd rfl hself, Or.inl rfl, by omega⟩

/-- An instruction that succeeds does what it is there for. -/
theorem process_does {minimumBalance : Word 64} {instruction : Instruction}
    (h : process rt minimumBalance env world instruction = .ok world') :
    Does rt minimumBalance env world instruction world' := by
  cases instruction with
  | initializeVault ctx limit =>
      simp only [process, initializeVaultHandler, bind_eq_ok, checkSigner_eq_ok, init_eq_ok,
        cpi_eq_ok, exists_const, pure, Except.pure, Except.ok.injEq] at h
      rcases h with ⟨hsigned, ⟨haddress, hfree⟩, lamports, hfund, rfl⟩
      rcases fund_eq_ok hfund with ⟨hpayer, hpaid, hrent⟩
      rw [World.occupied, Option.isSome_eq_false_iff, Option.isNone_iff_eq_none] at hfree
      exact .initialized hsigned haddress hfree hpayer hpaid hrent
  | setVaultLimit ctx limit =>
      simp only [process, setVaultLimitHandler, bind_eq_ok, loadVault_eq_ok, pure, Except.pure,
        Except.ok.injEq] at h
      rcases h with ⟨config, hopens, rfl⟩
      exact .limited hopens
  | deposit ctx n =>
      simp only [process, depositHandler, bind_eq_ok, loadVault_eq_ok, okOr_eq_ok,
        checkedAdd_eq_some, requireCode_eq_ok, cpi_eq_ok, systemTransfer_eq_ok, exists_const, pure,
        Except.pure, Except.ok.injEq] at h
      rcases h with ⟨config, hopens, newTotal, hsum, hwithin, lamports, ⟨-, hpayer, hpaid⟩, rfl⟩
      exact .deposited hopens hsum hwithin hpayer hpaid
  -- The debit and the credit are the two halves of a move.
  | withdraw ctx n =>
      simp only [process, withdrawHandler, bind_eq_ok, loadVault_eq_ok, okOr_eq_ok,
        checkedSub_eq_some, requireCode_eq_ok, exists_const, pure, Except.pure,
        Except.ok.injEq] at h
      rcases h with ⟨config, hopens, -, taken, htaken, lamports, hgiven, rest, hrest, rfl⟩
      exact .withdrawn hopens hrest (move_eq_some.mpr ⟨taken, htaken, hgiven⟩)
  | closeVault ctx =>
      simp only [process, closeVaultHandler, bind_eq_ok, loadVault_eq_ok, okOr_eq_ok,
        require_eq_ok, requireCode_eq_ok, exists_const, pure, Except.pure, Except.ok.injEq] at h
      rcases h with ⟨config, hopens, hdifferent, hempty, given, hpaid, rfl⟩
      exact .closed hopens hdifferent hempty hpaid
  | systemTransfer source destination n =>
      rw [process, map_eq_ok] at h
      rcases h with ⟨lamports, htransfer, rfl⟩
      rcases systemTransfer_eq_ok.mp (cpi_eq_ok.mp htransfer) with ⟨hsigned, hpayer, hpaid⟩
      exact .transferred hsigned hpayer hpaid

end Does

end Vault

end SolanaLab
