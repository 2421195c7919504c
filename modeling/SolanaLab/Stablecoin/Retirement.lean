import SolanaLab.Stablecoin.Supply

/-!
# Retirement of an Authority

An issuer is moved to another authority to take its key out of use. From then
on the old authority should neither mint nor burn.

What remains of the old issuer is a limit of zero and a pause. The limit is
final: no instruction writes it again, and with it nothing can be minted. The
pause is not: an admin can lift it, and then the old authority can burn whatever
its counters still say is outstanding. So an authority stays retired as long as
no such pause is lifted.

`RetiredAs` is what a run keeps of a retired authority. It names the counters
through the issuer's own record, so no other issuer's minting or burning is
about them.

## Main definitions

* `retired`, `issued`: Who an entry of the log retires, and who mints or burns.
* `StaysRetired`: Nobody mints or burns after being retired.
* `RetiredAs`: What is left of a retired issuer.
* `KeepsRetired`: No pause is lifted that keeps a retired authority from
  burning.

## Theorems

* `process_retired`: An instruction keeps an authority retired.
* `process_retires`: Moving an issuer retires its authority.
* `process_issued`: A retired authority neither mints nor burns.
* `run_staysRetired`: Throughout a run nobody mints or burns after being
  retired.
-/

namespace SolanaLab

namespace Stablecoin

namespace Issuer

open Checked

/-- Who an instruction retires, if it succeeds. -/
def Instruction.retires : Instruction → Option Pubkey
  | .rotateIssuerAuthority ctx => some ctx.currentAuthority
  | _ => none

/-- Who mints or burns a positive amount, if the instruction succeeds. -/
def Instruction.issues : Instruction → Option Pubkey
  | .mintToUser ctx amount => if 0 < amount then some ctx.issuerAuthority else none
  | .burnFromUser ctx amount => if 0 < amount then some ctx.issuerAuthority else none
  | _ => none

/-- Who is retired by an entry of the log. -/
def retired : Input × Except Error Unit → Option Pubkey
  | (input, .ok _) => input.2.retires
  | (_, .error _) => none

/-- Who has minted or burned by an entry of the log. -/
def issued : Input × Except Error Unit → Option Pubkey
  | (input, .ok _) => input.2.issues
  | (_, .error _) => none

/-- Nobody mints or burns after being retired. The log is split at the entry
    that retires, and nothing after it may issue. -/
def StaysRetired (past : Log) : Prop :=
  past.Pairwise (fun earlier later => ∀ authority ∈ retired earlier, issued later ≠ some authority)

/-- What the counters of the issuer at an address say is outstanding. The
    counters are those that the record of the issuer names, and nothing is
    outstanding without a record. -/
def World.outstandingAt (world : World) (key : Pubkey) : Nat :=
  ((world.issuerConfigs.get? key).bind (fun config => world.issuerStats.get? config.stats)).elim 0
    (fun stats => stats.currentOutstanding.val)

/-- The accounts of an instruction that lifts a pause. -/
def Instruction.unpaused : Instruction → Option SetIssuerPaused
  | .setIssuerPaused ctx false => some ctx
  | _ => none

/-- What is left of a retired issuer: a limit of zero, and a pause or nothing to
    burn. The record stays at the address of the old authority's seeds, which it
    keeps as its authority, so the old key still passes the checks on the
    accounts. -/
structure RetiredAs (rt : Runtime) (world : World) (authority : Pubkey) (config : IssuerConfig)
    (stats : IssuerStats) : Prop where
  configFound : world.issuerConfigs.get? (rt.address (Seeds.issuer authority)) = some config
  configAuthority : config.authority = authority
  noLimit : config.mintLimit = 0
  statsFound : world.issuerStats.get? config.stats = some stats
  statsConfig : stats.issuerConfig = rt.address (Seeds.issuer authority)
  stopped : config.paused = true ∨ stats.currentOutstanding.val = 0

/-- An authority is retired. -/
def Retired (rt : Runtime) (world : World) (authority : Pubkey) : Prop :=
  ∃ config stats, RetiredAs rt world authority config stats

section Steps

variable {rt : Runtime} {env : Env} {world world' : World} {authority : Pubkey}

/-- A new issuer and new counters leave a retired issuer alone, as they are put
    at addresses that were free. -/
theorem RetiredAs.insert_issuer {config : IssuerConfig} {stats : IssuerStats}
    (h : RetiredAs rt world authority config stats) {configKey statsKey : Pubkey}
    (hconfig : world.occupied configKey = false) (hstats : world.occupied statsKey = false)
    (config' : IssuerConfig) (stats' : IssuerStats) :
    RetiredAs rt { world with
      issuerConfigs := world.issuerConfigs.insert configKey config'
      issuerStats := world.issuerStats.insert statsKey stats' } authority config stats := by
  have hc := (World.occupied_eq_false.mp hconfig).2.2.2.1
  have hs := World.issuerStats_free hstats
  exact { h with
    configFound := SortedMap.get?_insert_of_some h.configFound hc
    statsFound := SortedMap.get?_insert_of_some h.statsFound hs }

/-- Minting and burning are about a retired issuer's counters only when it
    signs, and then they must leave nothing to burn. Another issuer's counters
    are at another address. -/
theorem Recounted.retired {ctx : IssuerAccounts} {r : IssuerRecords} {stats : IssuerStats}
    {supply : GlobalSupplyStats} (h : Recounted world ctx world' r stats supply)
    (hr : Retired rt world authority)
    (hzero : ctx.issuerConfig = rt.address (Seeds.issuer authority) →
      r.stats.currentOutstanding.val = 0 → stats.currentOutstanding.val = 0) :
    Retired rt world' authority := by
  rcases hr with ⟨config, old, hr⟩
  rw [h.after]
  by_cases hk : config.stats = ctx.issuerStats
  · have hfound := hr.statsFound
    rw [hk, h.statsFound, Option.some.injEq] at hfound
    have hconfig : stats.issuerConfig = rt.address (Seeds.issuer authority) := by
      rw [h.statsKept.1, hfound]
      exact hr.statsConfig
    refine ⟨config, stats, { hr with statsFound := ?_, statsConfig := hconfig, stopped := ?_ }⟩
    · simp only [hk, SortedMap.get?_insert_self]
    · refine hr.stopped.imp_right (fun hold => ?_)
      rw [h.statsConfig] at hconfig
      rw [← hfound] at hold
      exact hzero hconfig hold
  · refine ⟨config, old, { hr with statsFound := ?_ }⟩
    simp only [SortedMap.get?_insert_of_ne _ _ hk]
    exact hr.statsFound

/-- A retired issuer that mints or burns does so with its record and its
    counters. -/
theorem IssuerAccounts.Loaded.retired {ctx : IssuerAccounts} {r : IssuerRecords}
    (h : ctx.Loaded rt env world r) {config : IssuerConfig} {stats : IssuerStats}
    (hr : RetiredAs rt world authority config stats)
    (hkey : ctx.issuerConfig = rt.address (Seeds.issuer authority)) :
    r.config = config ∧ r.stats = stats := by
  have hconfig := h.config
  rw [hkey, hr.configFound, Option.some.injEq] at hconfig
  have hstats := hr.statsFound
  rw [hconfig, h.configFields.2.2, h.stats, Option.some.injEq] at hstats
  exact ⟨hconfig.symm, hstats⟩

/-- A retired authority can only mint nothing, since what is outstanding after a
    mint must be within a limit of zero. -/
theorem Minted.amount_eq_zero {ctx : MintToUser} {amount : Word 64} {r : IssuerRecords}
    {stats : IssuerStats} {supply : GlobalSupplyStats}
    (h : Minted rt env world ctx amount world' r stats supply) (hr : Retired rt world authority)
    (hkey : ctx.issuerConfig = rt.address (Seeds.issuer authority)) :
    stats.currentOutstanding.val = 0 ∧ amount.val = 0 := by
  rcases hr with ⟨config, old, hr⟩
  have hlimit := h.withinLimit
  rw [(h.loaded.retired hr hkey).1, hr.noLimit, nonpos_iff_eq_zero] at hlimit
  have houtstanding := h.outstanding
  rw [hlimit] at houtstanding
  rw [hlimit]
  rw [Fin.val_zero] at houtstanding
  exact ⟨rfl, by omega⟩

/-- A retired authority can only burn nothing. -/
theorem Burned.amount_eq_zero {ctx : BurnFromUser} {amount : Word 64} {r : IssuerRecords}
    {stats : IssuerStats} {supply : GlobalSupplyStats}
    (h : Burned rt env world ctx amount world' r stats supply) (hr : Retired rt world authority)
    (hkey : ctx.issuerConfig = rt.address (Seeds.issuer authority)) : amount.val = 0 := by
  rcases hr with ⟨config, old, hr⟩
  have hsame := h.loaded.retired hr hkey
  have hunpaused := h.unpaused.2
  have houtstanding := h.outstanding
  rcases hr.stopped with hpaused | hzero
  · rw [hsame.1, hpaused] at hunpaused
    exact absurd hunpaused (by simp only [Bool.true_eq_false, not_false_eq_true])
  · rw [hsame.2] at houtstanding
    omega

/-- An instruction keeps an authority retired, if it does not let it burn again.
    The condition is only about lifting its own pause. If the issuer is moved
    once more, its limit stays zero and it is paused again. -/
theorem process_retired {instruction : Instruction}
    (h : process rt env world instruction = .ok world') (hr : Retired rt world authority)
    (hkeeps : ∀ ctx ∈ instruction.unpaused, ctx.issuerAuthority = authority →
      world.outstandingAt ctx.issuerConfig = 0) : Retired rt world' authority := by
  cases instruction with
  | initializeProtocol ctx globalSupplyCap =>
      rcases initializeProtocolHandler_eq_ok.mp h with ⟨-, -, -, -, rfl⟩
      rcases hr with ⟨config, stats, hr⟩
      exact ⟨config, stats, { hr with }⟩
  | createStablecoinMint ctx decimals =>
      rcases createStablecoinMintHandler_eq_ok h with ⟨protocol, hm⟩
      rcases hr with ⟨config, stats, hr⟩
      rw [hm.after]
      exact ⟨config, stats, { hr with }⟩
  | registerIssuer ctx mintLimit =>
      have hreg := registerIssuerHandler_eq_ok h
      rcases hr with ⟨config, stats, hr⟩
      rw [hreg.after]
      exact ⟨config, stats, hr.insert_issuer hreg.configNew hreg.statsNew _ _⟩
  | setIssuerPaused ctx paused =>
      rcases setIssuerPausedHandler_eq_ok h with ⟨found, hs⟩
      rcases hr with ⟨config, stats, hr⟩
      rw [hs.after]
      by_cases hk : rt.address (Seeds.issuer authority) = ctx.issuerConfig
      · have hconfig := hr.configFound
        rw [hk, hs.found, Option.some.injEq] at hconfig
        refine ⟨{ found with paused }, stats, { hr with
          configFound := ?_, configAuthority := ?_, noLimit := ?_, statsFound := ?_,
          stopped := ?_ }⟩
        · simp only [hk, SortedMap.get?_insert_self]
        · rw [hconfig]
          exact hr.configAuthority
        · rw [hconfig]
          exact hr.noLimit
        · rw [hconfig]
          exact hr.statsFound
        · -- Lifting the pause is harmless if there is nothing to burn.
          cases paused with
          | true => exact Or.inl rfl
          | false =>
              have hauthority : ctx.issuerAuthority = authority := by
                rw [← hs.authority, hconfig]
                exact hr.configAuthority
              have hzero := hkeeps ctx rfl hauthority
              rw [World.outstandingAt, ← hk, hr.configFound, Option.bind_some, hr.statsFound]
                at hzero
              exact Or.inr hzero
      · refine ⟨config, stats, { hr with configFound := ?_ }⟩
        simp only [SortedMap.get?_insert_of_ne _ _ hk]
        exact hr.configFound
  -- The move may be of this very issuer, or of another one to a new key.
  | rotateIssuerAuthority ctx =>
      rcases rotateIssuerAuthorityHandler_eq_ok h with ⟨found, old, hro⟩
      rcases hr with ⟨config, stats, hr⟩
      have hnew := hr.insert_issuer hro.newConfigNew hro.newStatsNew
        ⟨ctx.protocolConfig, ctx.newAuthority, ctx.newIssuerStats, found.mintLimit, found.paused,
          rt.bump (Seeds.issuer ctx.newAuthority)⟩
        ⟨ctx.protocolConfig, ctx.newIssuerConfig, ctx.newAuthority, old.currentOutstanding,
          old.totalMinted, old.totalBurned, rt.bump (Seeds.issuerStats ctx.newAuthority)⟩
      rw [hro.after]
      by_cases hk : rt.address (Seeds.issuer authority) = ctx.currentIssuerConfig
      · have hconfig := hr.configFound
        rw [hk, hro.configFound, Option.some.injEq] at hconfig
        rw [← hconfig] at hnew
        refine ⟨{ found with mintLimit := 0, paused := true }, stats, { hnew with
          configFound := ?_, noLimit := rfl, stopped := Or.inl rfl }⟩
        simp only [hk, SortedMap.get?_insert_self]
      · refine ⟨config, stats, { hnew with configFound := ?_ }⟩
        simp only [SortedMap.get?_insert_of_ne _ _ hk]
        exact hnew.configFound
  -- If the retired authority signs, the amount is nothing.
  | mintToUser ctx amount =>
      rcases mintToUserHandler_eq_ok.mp h with ⟨r, stats, supply, hm⟩
      exact hm.recounted.retired hr (fun hkey _ => (hm.amount_eq_zero hr hkey).1)
  | burnFromUser ctx amount =>
      rcases burnFromUserHandler_eq_ok.mp h with ⟨r, stats, supply, hb⟩
      have houtstanding := hb.outstanding
      exact hb.recounted.retired hr (fun _ hzero => by omega)
  | holder instruction =>
      rw [(process_holder h).2.2]
      rcases hr with ⟨config, stats, hr⟩
      exact ⟨config, stats, { hr with }⟩

/-- Moving an issuer retires its authority. -/
theorem process_retires {instruction : Instruction}
    (h : process rt env world instruction = .ok world') (hp : Placed rt world)
    (hretires : instruction.retires = some authority) : Retired rt world' authority := by
  -- Only moving an issuer retires anybody.
  cases instruction with
  | rotateIssuerAuthority ctx =>
      rcases rotateIssuerAuthorityHandler_eq_ok h with ⟨config, stats, hr⟩
      -- The old record stays behind, paused and with a limit of zero.
      have hkey : ctx.currentIssuerConfig = rt.address (Seeds.issuer config.authority) :=
        hp.configs _ _ hr.configFound
      rw [hr.configFields.1, Option.some.inj hretires] at hkey
      have hauthority : config.authority = authority :=
        hr.configFields.1.trans (Option.some.inj hretires)
      have hnone := World.issuerStats_free hr.newStatsNew
      rw [hr.after]
      refine ⟨{ config with mintLimit := 0, paused := true }, stats, ?_, hauthority, rfl, ?_, ?_,
        Or.inl rfl⟩
      · simp only [← hkey, SortedMap.get?_insert_self]
      · simp only [hr.configFields.2]
        exact SortedMap.get?_insert_of_some hr.statsFound hnone
      · rw [hr.statsFields.1]
        exact hkey
  | _ => exact absurd hretires (by simp only [Instruction.retires, reduceCtorEq,
      not_false_eq_true])

/-- The record of an issuer that mints or burns is at the address of its
    key. -/
theorem IssuerAccounts.Loaded.configAddress {ctx : IssuerAccounts} {r : IssuerRecords}
    (h : ctx.Loaded rt env world r) (hp : Placed rt world) :
    ctx.issuerConfig = rt.address (Seeds.issuer ctx.issuerAuthority) := by
  have hkey : ctx.issuerConfig = rt.address (Seeds.issuer r.config.authority) :=
    hp.configs _ _ h.config
  rw [h.configFields.2.1] at hkey
  exact hkey

/-- A retired authority neither mints nor burns. Minting needs a positive limit
    and burning needs something outstanding and no pause, and `RetiredAs` leaves
    it neither. -/
theorem process_issued {instruction : Instruction}
    (h : process rt env world instruction = .ok world') (hp : Placed rt world)
    (hr : Retired rt world authority) : instruction.issues ≠ some authority := by
  cases instruction with
  | mintToUser ctx amount =>
      rcases mintToUserHandler_eq_ok.mp h with ⟨r, stats, supply, hm⟩
      intro hissues
      rw [Instruction.issues, Option.ite_none_right_eq_some, Option.some.injEq] at hissues
      rcases hissues with ⟨hpos, rfl⟩
      -- The limit of a retired issuer is zero, and so is what it mints.
      have hzero := (hm.amount_eq_zero hr (hm.loaded.configAddress hp)).2
      rw [Fin.lt_def, Fin.val_zero] at hpos
      omega
  | burnFromUser ctx amount =>
      rcases burnFromUserHandler_eq_ok.mp h with ⟨r, stats, supply, hb⟩
      intro hissues
      rw [Instruction.issues, Option.ite_none_right_eq_some, Option.some.injEq] at hissues
      rcases hissues with ⟨hpos, rfl⟩
      -- It is paused or has nothing outstanding that it could burn.
      have hzero := hb.amount_eq_zero hr (hb.loaded.configAddress hp)
      rw [Fin.lt_def, Fin.val_zero] at hpos
      omega
  | _ => simp only [Instruction.issues, ne_eq, reduceCtorEq, not_false_eq_true]

end Steps

/-! ### Runs -/

/-- No pause is lifted of a retired issuer that has something outstanding,
    unless the transaction fails. Lifting the pause of an issuer that has
    nothing left to burn does no harm and is allowed. -/
def KeepsRetired (rt : Runtime) (past : Log) (world : World) (input : Input) : Prop :=
  ∀ ctx ∈ input.2.unpaused, (step rt world input).1 = .ok () →
    (∃ entry ∈ past, retired entry = some ctx.issuerAuthority) →
    world.outstandingAt ctx.issuerConfig = 0

instance (rt : Runtime) (past : Log) (world : World) (input : Input) :
    Decidable (KeepsRetired rt past world input) :=
  inferInstanceAs (Decidable (∀ ctx ∈ input.2.unpaused, (step rt world input).1 = .ok () →
    (∃ entry ∈ past, retired entry = some ctx.issuerAuthority) →
    world.outstandingAt ctx.issuerConfig = 0))

/-- Throughout a run nobody mints or burns after being retired, if no pause of
    a retired issuer is lifted while it has something outstanding. -/
theorem run_staysRetired (rt : Runtime) (inputs : List Input)
    (h : ∀ pre input, pre ++ [input] <+: inputs →
      KeepsRetired rt (Run.log (step rt) World.empty pre) (Run.after (step rt) World.empty pre)
        input) :
    StaysRetired (Run.log (step rt) World.empty inputs) := by
  -- Whoever the log has retired is retired in the state.
  suffices hinv : Placed rt (Run.after (step rt) World.empty inputs) ∧
      StaysRetired (Run.log (step rt) World.empty inputs) ∧
      ∀ authority, (∃ entry ∈ Run.log (step rt) World.empty inputs,
        retired entry = some authority) →
        Retired rt (Run.after (step rt) World.empty inputs) authority from hinv.2.1
  refine Run.invariant_prefixes (step rt)
    (P := fun past world => Placed rt world ∧ StaysRetired past ∧
      ∀ authority, (∃ entry ∈ past, retired entry = some authority) → Retired rt world authority)
    ⟨placed_empty rt, List.Pairwise.nil, ?_⟩ ?_ h
  · rintro authority ⟨entry, hmem, -⟩
    exact absurd hmem List.not_mem_nil
  · rintro past world input ⟨hp, hstays, hretired⟩ hkeeps
    rcases transact_cases (process rt) .runtime world input with ⟨e, he⟩ | ⟨world', hok, hstep⟩
    · simp only [step, he]
      refine ⟨hp, List.pairwise_append.mpr ⟨hstays, List.pairwise_singleton _ _, ?_⟩, ?_⟩
      · intro earlier _ later hlater authority _
        rw [List.mem_singleton.mp hlater, issued]
        simp only [ne_eq, reduceCtorEq, not_false_eq_true]
      · rintro authority ⟨entry, hmem, hentry⟩
        rcases List.mem_append.mp hmem with hmem | hmem
        · exact hretired authority ⟨entry, hmem, hentry⟩
        · rw [List.mem_singleton.mp hmem, retired] at hentry
          exact absurd hentry (by simp only [reduceCtorEq, not_false_eq_true])
    · have hanswer : (step rt world input).1 = .ok () := by rw [step, hstep]
      simp only [step, hstep]
      refine ⟨process_placed hok hp,
        List.pairwise_append.mpr ⟨hstays, List.pairwise_singleton _ _, ?_⟩, ?_⟩
      · intro earlier hearlier later hlater authority hauthority
        rw [List.mem_singleton.mp hlater]
        exact process_issued hok hp (hretired authority ⟨earlier, hearlier, hauthority⟩)
      · rintro authority ⟨entry, hmem, hentry⟩
        rcases List.mem_append.mp hmem with hmem | hmem
        · refine process_retired hok (hretired authority ⟨entry, hmem, hentry⟩) ?_
          intro ctx hctx hauthority
          exact hkeeps ctx hctx hanswer ⟨entry, hmem, by rw [hauthority]; exact hentry⟩
        · rw [List.mem_singleton.mp hmem] at hentry
          exact process_retires hok hp hentry

/-- An admin lifts or sets the pause of the issuer that is moved. -/
def sampleSetPaused (paused : Bool) : Input :=
  (sampleEnv [sampleAdmin], .setIssuerPaused
    { admin := sampleAdmin, protocolConfig := sampleProtocol, issuerConfig := sampleOldConfig,
      issuerAuthority := sampleOldAuthority } paused)

/-- An issuer that has burned all it minted is moved and its pause is lifted.
    Its authority can then mint and burn nothing. -/
theorem run_staysRetired_burned :
    StaysRetired (Run.log (step sampleRuntime) World.empty
      [sampleInitialize, sampleCreateMint, sampleRegister, sampleMintTo 400, sampleBurnFrom 400,
        sampleRotate, sampleSetPaused false, sampleBurnFrom 150]) :=
  run_staysRetired sampleRuntime _ (Run.prefixes_of_inits (by decide +kernel))

/-- An issuer with 400 outstanding is moved and its pause is lifted. Its
    authority burns 150 of them. -/
theorem run_unretired :
    let inputs := [sampleInitialize, sampleCreateMint, sampleRegister, sampleMintTo 400,
      sampleRotate, sampleSetPaused false, sampleBurnFrom 150]
    (∀ entry ∈ Run.log (step sampleRuntime) World.empty inputs, entry.2 = .ok ()) ∧
      ¬ StaysRetired (Run.log (step sampleRuntime) World.empty inputs) := by
  refine ⟨by decide +kernel, fun h => ?_⟩
  have hlater := List.pairwise_iff_getElem.mp h 4 6 (by decide +kernel) (by decide +kernel)
    (by decide)
  exact hlater sampleOldAuthority (by decide +kernel) (by decide +kernel)

end Issuer

end Stablecoin

end SolanaLab
