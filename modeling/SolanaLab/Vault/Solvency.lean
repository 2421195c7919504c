import SolanaLab.Vault.Program

/-!
# The Vaults Are Solvent

What the counter of a vault says is there, on top of the rent. The program does
not check this when it pays out: it takes lamports from the account and trusts
the counter. So this is an invariant of all instructions together, with anyone
free to send lamports to a vault in between.

It is also what lets users out. A user can withdraw everything that was
deposited and close the vault, and then has all lamports that were in it, those
for the rent and those that were only sent to it included. No other user and no
limit can be in the way.

## Main definitions

* `Solvent`: Every vault is where it belongs and has what it says.
* `depositOf`, `withdrawalOf`, `counted`: What the log says of a vault.

## Theorems

* `does_solvent`: An instruction keeps the vaults solvent.
* `does_owner`: Only the user of a vault takes from it.
* `vaults_solvent`: What holds of the vaults after any run.
* `exit_solvent`: What taking everything out leads to.
* `vault_exit`: A user can always take everything out.
-/

namespace SolanaLab

namespace Vault

open Checked Stablecoin Amounts

/-- Every vault is at the address of its user and has its rent and what was
    deposited. -/
structure Solvent (rt : Runtime) (minimumBalance : Word 64) (world : World) : Prop where
  address : world.configs.Everywhere (fun key config =>
    key = rt.address (⟨config.user⟩ : Seeds) ∧ config.bump = rt.bump (⟨config.user⟩ : Seeds))
  backed : world.configs.Everywhere (fun key config =>
    minimumBalance.val + config.totalDepositedLamports.val ≤ (amount world.lamports key).val)

/-- What an instruction deposits in a vault. -/
def depositOf (key : Pubkey) : Instruction → Nat
  | .deposit ctx n => if ctx.vaultConfig = key then n.val else 0
  | _ => 0

/-- What an instruction withdraws from a vault. -/
def withdrawalOf (key : Pubkey) : Instruction → Nat
  | .withdraw ctx n => if ctx.vaultConfig = key then n.val else 0
  | _ => 0

/-- What a log says of the instructions that succeeded. -/
def counted (f : Instruction → Nat) : (Env × Instruction) × Except Error Unit → Nat
  | ((_, instruction), .ok _) => f instruction
  | (_, .error _) => 0

/-- What the counter of a vault stands at, nothing if there is no vault. -/
def World.recorded (world : World) (key : Pubkey) : Nat :=
  (world.configs.get? key).elim 0 (fun config => config.totalDepositedLamports.val)

section Steps

variable {rt : Runtime} {minimumBalance : Word 64} {env : Env} {world world' : World}
  {instruction : Instruction}

/-- Writing a vault changes what is recorded of this one. -/
theorem recorded_insert (lamports : SortedMap Pubkey (Word 64)) (key key' : Pubkey)
    (config : VaultConfig) :
    (⟨lamports, world.configs.insert key config⟩ : World).recorded key'
      = if key' = key then config.totalDepositedLamports.val else world.recorded key' := by
  rw [World.recorded, SortedMap.get?_insert]
  by_cases h : key' = key
  · rw [if_pos h, if_pos h]
    rfl
  · rw [if_neg h, if_neg h]
    rfl

/-- What is recorded of a vault is its counter. -/
theorem recorded_of_get? {key : Pubkey} {config : VaultConfig}
    (h : world.configs.get? key = some config) :
    world.recorded key = config.totalDepositedLamports.val := by
  rw [World.recorded, h]
  rfl

/-- A vault that is written anew stays solvent with all others, if none of
    them is taken from. -/
theorem Solvent.insert (h : Solvent rt minimumBalance world) {key : Pubkey} {config : VaultConfig}
    {lamports : SortedMap Pubkey (Word 64)}
    (haddress : key = rt.address (⟨config.user⟩ : Seeds) ∧
      config.bump = rt.bump (⟨config.user⟩ : Seeds))
    (hbacked : minimumBalance.val + config.totalDepositedLamports.val ≤ (amount lamports key).val)
    (hothers : ∀ key' config', key' ≠ key → world.configs.get? key' = some config' →
      (amount world.lamports key').val ≤ (amount lamports key').val) :
    Solvent rt minimumBalance ⟨lamports, world.configs.insert key config⟩ := by
  refine ⟨h.address.insert haddress, SortedMap.everywhere_insert hbacked ?_⟩
  intro key' config' hne hget
  exact (h.backed key' config' hget).trans (hothers key' config' hne hget)

/-- A move takes from its source only. -/
theorem amount_le_of_move {m m' : SortedMap Pubkey (Word 64)} {source destination key : Pubkey}
    {n : Word 64} (h : move m source destination n = some m') (hne : key ≠ source) :
    (amount m key).val ≤ (amount m' key).val := by
  have hamount := move_amount h key
  rw [if_neg hne] at hamount
  omega

/-- An instruction keeps the vaults solvent. -/
theorem does_solvent (h : Solvent rt minimumBalance world)
    (hdoes : Does rt minimumBalance env world instruction world') :
    Solvent rt minimumBalance world' := by
  cases hdoes with
  | @initialized ctx limit lamports signed address free payer paid rent =>
      refine h.insert ⟨address, rfl⟩ rent (fun key' config' hne hget => ?_)
      -- Whoever pays has no data, so is no vault.
      rcases paid with rfl | ⟨n, hmove⟩
      · exact Nat.le_refl _
      · by_cases hsame : lamports = world.lamports
        · rw [hsame]
        · exact amount_le_of_move hmove (SortedMap.ne_of_get? hget (payer hsame))
  | limited opens =>
      have haddress := h.address _ _ opens.found
      have hbacked := h.backed _ _ opens.found
      exact h.insert ⟨haddress.1, haddress.2⟩ hbacked (fun _ _ _ _ => Nat.le_refl _)
  | @deposited ctx n newTotal config lamports opens sum within payer paid =>
      have hconfig := opens.found
      have haddress := h.address _ _ hconfig
      have hbacked := h.backed _ _ hconfig
      have hamount := move_amount paid ctx.vaultConfig
      rw [if_neg (SortedMap.ne_of_get? hconfig payer), if_pos rfl] at hamount
      refine h.insert ⟨haddress.1, haddress.2⟩ ?_ (fun key' config' _ hget =>
        amount_le_of_move paid (SortedMap.ne_of_get? hget payer))
      simp only
      omega
  -- The counter and the lamports go down by the same amount.
  | @withdrawn ctx n rest config lamports opens difference paid =>
      have hconfig := opens.found
      have haddress := h.address _ _ hconfig
      have hbacked := h.backed _ _ hconfig
      have hamount := move_amount paid ctx.vaultConfig
      rw [if_pos rfl] at hamount
      refine h.insert ⟨haddress.1, haddress.2⟩ ?_ (fun key' _ hne _ => amount_le_of_move paid hne)
      simp only
      omega
  | @closed ctx config given opens different empty paid =>
      refine ⟨h.address.erase _, fun key' config' hget => ?_⟩
      -- The vault that is closed is gone, and no other has less.
      have hne : key' ≠ ctx.vaultConfig := by
        rintro rfl
        rw [SortedMap.get?_erase_self] at hget
        exact absurd hget (by simp only [reduceCtorEq, not_false_eq_true])
      rw [SortedMap.get?_erase_of_ne _ hne] at hget
      have hbacked := h.backed _ _ hget
      have hcredit := credit_amount paid key'
      simp only [amount_insert, if_neg hne]
      omega
  | @transferred source destination n lamports signed payer paid =>
      exact ⟨h.address, fun key' config' hget => (h.backed _ _ hget).trans
        (amount_le_of_move paid (SortedMap.ne_of_get? hget payer))⟩

/-- Lamports are neither made nor lost. Closing a vault takes two steps in the
    program, a credit and a zero, which together are a move. -/
theorem does_total (hdoes : Does rt minimumBalance env world instruction world') :
    total world'.lamports = total world.lamports := by
  cases hdoes with
  | initialized signed address free payer paid rent =>
      rcases paid with rfl | ⟨n, hmove⟩
      · rfl
      · exact move_total hmove
  | limited opens => rfl
  | deposited opens sum within payer paid => exact move_total paid
  | withdrawn opens difference paid => exact move_total paid
  | @closed ctx config given opens different empty paid =>
      have hcredit := credit_total paid
      have hamount := credit_amount paid ctx.vaultConfig
      have hinsert := total_insert given ctx.vaultConfig 0
      rw [if_neg different] at hamount
      change total (given.insert ctx.vaultConfig 0) = _
      have hzero : (0 : Word 64).val = 0 := rfl
      omega
  | transferred signed payer paid => exact move_total paid

/-- What the counter of a vault does is what the instruction says. -/
theorem does_recorded (hdoes : Does rt minimumBalance env world instruction world')
    (key : Pubkey) :
    world'.recorded key + withdrawalOf key instruction
      = world.recorded key + depositOf key instruction := by
  cases hdoes with
  | @initialized ctx limit lamports signed address free payer paid rent =>
      rw [recorded_insert]
      by_cases hkey : key = ctx.vaultConfig
      · rw [if_pos hkey, hkey, World.recorded, free]
        rfl
      · rw [if_neg hkey]
        rfl
  | @limited ctx limit config opens =>
      rw [recorded_insert]
      by_cases hkey : key = ctx.vaultConfig
      · rw [if_pos hkey, hkey, recorded_of_get? opens.found]
        rfl
      · rw [if_neg hkey]
        rfl
  | @deposited ctx n newTotal config lamports opens sum within payer paid =>
      rw [recorded_insert]
      by_cases hkey : key = ctx.vaultConfig
      · rw [if_pos hkey, hkey, recorded_of_get? opens.found, depositOf, if_pos rfl]
        exact sum
      · rw [if_neg hkey, depositOf, if_neg (Ne.symm hkey)]
        rfl
  | @withdrawn ctx n rest config lamports opens difference paid =>
      rw [recorded_insert]
      by_cases hkey : key = ctx.vaultConfig
      · rw [if_pos hkey, hkey, recorded_of_get? opens.found, withdrawalOf, if_pos rfl]
        exact difference
      · rw [if_neg hkey, withdrawalOf, if_neg (Ne.symm hkey)]
        rfl
  -- A vault is closed with a counter of zero, and without a vault it counts as zero.
  | @closed ctx config given opens different empty paid =>
      by_cases hkey : key = ctx.vaultConfig
      · rw [hkey, recorded_of_get? opens.found, empty, World.recorded, SortedMap.get?_erase_self]
        rfl
      · rw [World.recorded, SortedMap.get?_erase_of_ne _ hkey]
        rfl
  | transferred signed payer paid => rfl

/-- Only the user of a vault changes it or takes from it. -/
theorem does_owner (hdoes : Does rt minimumBalance env world instruction world') {key : Pubkey}
    {config : VaultConfig} (hconfig : world.configs.get? key = some config)
    (hchange : world'.configs.get? key ≠ some config ∨
      (amount world'.lamports key).val < (amount world.lamports key).val) :
    config.user ∈ env.signers := by
  -- An instruction for another vault leaves this one alone and takes nothing from it.
  have hopens : ∀ {ctx : VaultAccounts} {found written : VaultConfig}
      {lamports : SortedMap Pubkey (Word 64)}, Opens rt env world ctx found →
      world' = ⟨lamports, world.configs.insert ctx.vaultConfig written⟩ →
      (key ≠ ctx.vaultConfig → (amount world.lamports key).val ≤ (amount lamports key).val) →
      config.user ∈ env.signers := by
    rintro ctx found written lamports hopens rfl hkeeps
    by_cases hkey : key = ctx.vaultConfig
    · rw [hkey, hopens.found, Option.some.injEq] at hconfig
      rw [← hconfig, hopens.owner]
      exact hopens.signed
    · rcases hchange with hnot | hless
      · rw [SortedMap.get?_insert_of_ne _ _ hkey] at hnot
        exact absurd hconfig hnot
      · exact absurd (hkeeps hkey) (by simp only at hless ⊢; omega)
  cases hdoes with
  | @initialized ctx limit lamports signed address free payer paid rent =>
      have hne := SortedMap.ne_of_get? hconfig free
      rcases hchange with hnot | hless
      · rw [SortedMap.get?_insert_of_ne _ _ hne] at hnot
        exact absurd hconfig hnot
      · rcases paid with rfl | ⟨n, hmove⟩
        · exact absurd hless (lt_irrefl _)
        · have hsame : lamports ≠ world.lamports := by
            rintro rfl
            exact absurd hless (lt_irrefl _)
          have hle := amount_le_of_move hmove (SortedMap.ne_of_get? hconfig (payer hsame))
          exact absurd hle (by simp only at hless ⊢; omega)
  | limited opens => exact hopens opens rfl (fun _ => Nat.le_refl _)
  | deposited opens sum within payer paid =>
      exact hopens opens rfl
        (fun _ => amount_le_of_move paid (SortedMap.ne_of_get? hconfig payer))
  | withdrawn opens difference paid =>
      exact hopens opens rfl (fun hne => amount_le_of_move paid hne)
  -- The lamports of another vault can only have grown, if it is the user's account.
  | @closed ctx found given opens different empty paid =>
      by_cases hkey : key = ctx.vaultConfig
      · rw [hkey, opens.found, Option.some.injEq] at hconfig
        rw [← hconfig, opens.owner]
        exact opens.signed
      · rcases hchange with hnot | hless
        · rw [SortedMap.get?_erase_of_ne _ hkey] at hnot
          exact absurd hconfig hnot
        · have hcredit := credit_amount paid key
          simp only [amount_insert, if_neg hkey] at hless
          omega
  | transferred signed payer paid =>
      rcases hchange with hnot | hless
      · exact absurd hconfig hnot
      · have hle := amount_le_of_move paid (SortedMap.ne_of_get? hconfig payer)
        exact absurd hle (by simp only at hless ⊢; omega)

end Steps

/-! ### Runs -/

section Runs

variable (rt : Runtime) (minimumBalance : Word 64) (lamports : SortedMap Pubkey (Word 64))
  (inputs : List (Env × Instruction))

/-- What holds of the vaults after a run: they are solvent, all lamports are
    still there, and each counter is what the log says. -/
structure Held (rt : Runtime) (minimumBalance : Word 64) (lamports : SortedMap Pubkey (Word 64))
    (past : List ((Env × Instruction) × Except Error Unit)) (world : World) : Prop where
  solvent : Solvent rt minimumBalance world
  total : total world.lamports = total lamports
  recorded : ∀ key, Run.total (counted (depositOf key)) past
    = Run.total (counted (withdrawalOf key)) past + world.recorded key

/-- The vaults stay solvent in every run. No instruction looks at both the
    counter and the lamports of a vault, so this is the one place that says they
    go together. -/
theorem run_held :
    Held rt minimumBalance lamports (Run.log (step rt minimumBalance) (.start lamports) inputs)
      (Run.after (step rt minimumBalance) (.start lamports) inputs) := by
  refine Run.invariant (step rt minimumBalance)
    (P := fun past world => Held rt minimumBalance lamports past world)
    ⟨⟨SortedMap.everywhere_empty _, SortedMap.everywhere_empty _⟩, rfl, fun _ => rfl⟩
    (fun past world input h => ?_) inputs
  rcases transact_cases (process rt minimumBalance) ProgramError.runtime world input with
    ⟨e, he⟩ | ⟨world', hp, hok⟩
  -- A transaction that fails changes nothing and counts for nothing.
  · rw [step, he]
    refine ⟨h.solvent, h.total, fun key => ?_⟩
    rw [Run.total_snoc, Run.total_snoc]
    exact h.recorded key
  · have hdoes := process_does hp
    rw [step, hok]
    refine ⟨does_solvent h.solvent hdoes, (does_total hdoes).trans h.total, fun key => ?_⟩
    have hrecorded := does_recorded hdoes key
    have hpast := h.recorded key
    rw [Run.total_snoc, Run.total_snoc]
    change _ + depositOf key input.2 = _ + withdrawalOf key input.2 + world'.recorded key
    omega

/-- The vaults after any run, with anyone sending lamports to them in between.
    Lamports are neither made nor lost. Every vault is at the address of its
    user and has its rent and what its counter says, which is what was
    deposited less what was withdrawn. And only a transaction signed by its
    user changes a vault or takes lamports from it. -/
theorem vaults_solvent (inputs : List (Env × Instruction)) :
    let past := Run.log (step rt minimumBalance) (.start lamports) inputs
    let world := Run.after (step rt minimumBalance) (.start lamports) inputs
    total world.lamports = total lamports ∧
    (∀ key config, world.configs.get? key = some config →
      key = rt.address (⟨config.user⟩ : Seeds) ∧
      minimumBalance.val + config.totalDepositedLamports.val ≤ (amount world.lamports key).val) ∧
    (∀ key, Run.total (counted (depositOf key)) past
      = Run.total (counted (withdrawalOf key)) past + world.recorded key) ∧
    ∀ input key config, world.configs.get? key = some config →
      let next := (step rt minimumBalance world input).2
      (next.configs.get? key ≠ some config ∨
        (amount next.lamports key).val < (amount world.lamports key).val) →
      config.user ∈ input.1.signers := by
  intro past world
  have h := run_held rt minimumBalance lamports inputs
  refine ⟨h.total, fun key config hget => ⟨(h.solvent.address key config hget).1,
    h.solvent.backed key config hget⟩, h.recorded, ?_⟩
  intro input key config hconfig next hchange
  rcases transact_cases (process rt minimumBalance) ProgramError.runtime world input with
    ⟨e, he⟩ | ⟨world', hp, hok⟩
  · have hnext : next = world := congrArg Prod.snd he
    rw [hnext] at hchange
    exact (hchange.elim (fun hnot => hnot hconfig) (lt_irrefl _)).elim
  · have hnext : next = world' := congrArg Prod.snd hok
    rw [hnext] at hchange
    exact does_owner (process_does hp) hconfig hchange

end Runs

/-! ### The way out -/

section Exit

variable {rt : Runtime} {minimumBalance : Word 64} {env : Env} {world : World} {key : Pubkey}
  {config : VaultConfig}

/-- The user of a solvent vault opens it. -/
theorem Solvent.opens (h : Solvent rt minimumBalance world)
    (hconfig : world.configs.get? key = some config)
    (hcanonical : rt.Canonical [(⟨config.user⟩ : Seeds)]) (hsigned : config.user ∈ env.signers) :
    Opens rt env world ⟨config.user, key⟩ config := by
  rcases h.address key config hconfig with ⟨hkey, hbump⟩
  refine ⟨hsigned, hconfig, ?_, rfl⟩
  rw [hbump, hkey]
  exact hcanonical _ List.mem_cons_self

/-- A user can withdraw everything. -/
theorem withdraw_all (h : Solvent rt minimumBalance world)
    (hconfig : world.configs.get? key = some config)
    (hopens : Opens rt env world ⟨config.user, key⟩ config)
    (hfits : total world.lamports < 2 ^ 64) :
    ∃ paid, move world.lamports key config.user config.totalDepositedLamports = some paid ∧
      process rt minimumBalance env world
        (.withdraw ⟨config.user, key⟩ config.totalDepositedLamports) = .ok {
          lamports := paid
          configs := world.configs.insert key { config with totalDepositedLamports := 0 } } := by
  have hbacked := h.backed key config hconfig
  have hle : config.totalDepositedLamports.val ≤ (amount world.lamports key).val := by omega
  rcases move_isSome config.user hle hfits with ⟨paid, hpaid⟩
  rcases move_eq_some.mp hpaid with ⟨taken, htaken, hgiven⟩
  refine ⟨paid, hpaid, ?_⟩
  simp only [process, withdrawHandler, bind_eq_ok, loadVault_eq_ok, okOr_eq_ok,
    checkedSub_eq_some, requireCode_eq_ok, exists_const, pure, Except.pure, Except.ok.injEq]
  exact ⟨config, hopens, le_refl _, taken, htaken, paid, hgiven, 0, Nat.zero_add _, rfl⟩

/-- An empty vault can be closed. -/
theorem close_empty (minimumBalance : Word 64) {user : Pubkey}
    (hopens : Opens rt env world ⟨user, key⟩ config) (hempty : config.totalDepositedLamports = 0)
    (hne : key ≠ user) (hfits : total world.lamports < 2 ^ 64) :
    ∃ given, credit world.lamports user (amount world.lamports key) = some given ∧
      process rt minimumBalance env world (.closeVault ⟨user, key⟩) = .ok {
        lamports := given.insert key 0, configs := world.configs.erase key } := by
  have hle := amount_add_le_total world.lamports hne
  rcases credit_isSome (m := world.lamports) (k := user) (n := amount world.lamports key)
    (by omega) with ⟨given, hgiven⟩
  refine ⟨given, hgiven, ?_⟩
  simp only [process, closeVaultHandler, bind_eq_ok, loadVault_eq_ok, okOr_eq_ok, require_eq_ok,
    requireCode_eq_ok, exists_const, pure, Except.pure, Except.ok.injEq]
  exact ⟨config, hopens, hne, hempty, given, hgiven, rfl⟩

/-- What withdrawing everything and closing the vault answers and leads to. -/
theorem exit_solvent (h : Solvent rt minimumBalance world)
    (hconfig : world.configs.get? key = some config)
    (hopens : Opens rt env world ⟨config.user, key⟩ config) (hne : key ≠ config.user)
    (hfits : total world.lamports < 2 ^ 64) (hrefused : env.refused = false) :
    ∃ between after, step rt minimumBalance world
        (env, .withdraw ⟨config.user, key⟩ config.totalDepositedLamports) = (.ok (), between) ∧
      step rt minimumBalance between (env, .closeVault ⟨config.user, key⟩) = (.ok (), after) ∧
      after.configs.get? key = none ∧ (amount after.lamports key).val = 0 ∧
      (amount after.lamports config.user).val
        = (amount world.lamports config.user).val + (amount world.lamports key).val := by
  rcases withdraw_all h hconfig hopens hfits with ⟨paid, hpaid, hwithdraw⟩
  -- The vault is as before, except that nothing is recorded any more.
  let between : World :=
    ⟨paid, world.configs.insert key { config with totalDepositedLamports := 0 }⟩
  have hopens' : Opens rt env between ⟨config.user, key⟩
      { config with totalDepositedLamports := 0 } :=
    ⟨hopens.signed, SortedMap.get?_insert_self _ _ _, hopens.seeds, hopens.owner⟩
  have hfits' : total between.lamports < 2 ^ 64 := move_total hpaid ▸ hfits
  rcases close_empty minimumBalance hopens' rfl hne hfits' with ⟨given, hgiven, hclose⟩
  refine ⟨between, _, transact_of_ok (process rt minimumBalance) _ hrefused hwithdraw,
    transact_of_ok (process rt minimumBalance) _ hrefused hclose, ?_⟩
  -- What is left after the withdrawal is paid out in full when the vault is closed.
  have hmoved := move_amount hpaid key
  have hmoved' := move_amount hpaid config.user
  have hcredited := credit_amount hgiven config.user
  rw [if_pos rfl, if_neg hne] at hmoved
  rw [if_neg (Ne.symm hne), if_pos rfl] at hmoved'
  rw [if_pos rfl] at hcredited
  refine ⟨SortedMap.get?_erase_self _ _, ?_, ?_⟩
  · rw [amount_insert, if_pos rfl]
    rfl
  · rw [amount_insert, if_neg (Ne.symm hne)]
    simp only [between] at hcredited
    omega

end Exit

/-- Whatever has happened before, the user of a vault can withdraw everything
    and close the vault, and then has all lamports that were in it. It takes
    no more than the user's signature: both transactions succeed, also where
    nothing is recorded and the withdrawal is of nothing, and whatever limit
    the vault has. -/
theorem vault_exit (rt : Runtime) (minimumBalance : Word 64)
    (lamports : SortedMap Pubkey (Word 64)) (hfits : total lamports < 2 ^ 64)
    (inputs : List (Env × Instruction)) (env : Env) (hrefused : env.refused = false)
    (key : Pubkey) (config : VaultConfig)
    (hconfig : (Run.after (step rt minimumBalance) (.start lamports) inputs).configs.get? key
      = some config)
    (hcanonical : rt.Canonical [(⟨config.user⟩ : Seeds)]) (hsigned : config.user ∈ env.signers)
    (hne : key ≠ config.user) :
    let world := Run.after (step rt minimumBalance) (.start lamports) inputs
    let exit := [(env, .withdraw ⟨config.user, key⟩ config.totalDepositedLamports),
      (env, .closeVault ⟨config.user, key⟩)]
    let after := Run.after (step rt minimumBalance) world exit
    (Run.log (step rt minimumBalance) world exit).map Prod.snd = [.ok (), .ok ()] ∧
    after.configs.get? key = none ∧ (amount after.lamports key).val = 0 ∧
    (amount after.lamports config.user).val
      = (amount world.lamports config.user).val + (amount world.lamports key).val := by
  intro world exit after
  have h := run_held rt minimumBalance lamports inputs
  rcases exit_solvent h.solvent hconfig (h.solvent.opens hconfig hcanonical hsigned) hne
    (h.total ▸ hfits) hrefused with ⟨between, last, hwithdraw, hclose, hexit⟩
  have hlast : after = last := by
    simp only [after, exit, Run.after, List.foldl_cons, List.foldl_nil]
    rw [hwithdraw, hclose]
  refine ⟨?_, hlast ▸ hexit⟩
  simp only [exit, Run.log, List.map_cons, List.map_nil]
  rw [hwithdraw, hclose]

/-- User one, whose vault is at address two. -/
def sampleRuntime : Runtime := .ofTable [((⟨1⟩ : Seeds), 2, 255)]

/-- A hundred lamports of user one. -/
def sampleLamports : SortedMap Pubkey (Word 64) := SortedMap.empty.insert 1 100

/-- User one has signed. -/
def sampleEnv : Env := ⟨[1], 0, false⟩

/-- User one deposits thirty, lowers the limit and sends five more. -/
def sampleInputs : List (Env × Instruction) :=
  [(sampleEnv, .initializeVault ⟨1, 2⟩ 50), (sampleEnv, .deposit ⟨1, 2⟩ 30),
    (sampleEnv, .setVaultLimit ⟨1, 2⟩ 0), (sampleEnv, .systemTransfer 1 2 5)]

/-- The user gets all of it back. -/
theorem vault_exit_hundred :
    let world := Run.after (step sampleRuntime 10) (.start sampleLamports) sampleInputs
    let exit := [(sampleEnv, .withdraw ⟨1, 2⟩ 30), (sampleEnv, .closeVault ⟨1, 2⟩)]
    let after := Run.after (step sampleRuntime 10) world exit
    (Run.log (step sampleRuntime 10) world exit).map Prod.snd = [.ok (), .ok ()] ∧
    after.configs.get? 2 = none ∧ (amount after.lamports 2).val = 0 ∧
    (amount after.lamports 1).val
      = (amount world.lamports 1).val + (amount world.lamports 2).val :=
  vault_exit sampleRuntime 10 sampleLamports (by decide +kernel) sampleInputs sampleEnv rfl 2
    ⟨1, 255, 0, 30⟩ (by decide +kernel) (by decide +kernel) (by decide) (by decide)

end Vault

end SolanaLab
