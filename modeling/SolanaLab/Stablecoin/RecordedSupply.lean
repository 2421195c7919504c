import SolanaLab.Stablecoin.Accounts

/-!
# Recorded Supply and Token Supply

The program counts what it mints and burns. The token program counts what there
is. Only the issuer program can mint, but whoever holds tokens can burn them
without it, and the program does not hear of that.

So the recorded supply is the token supply together with what holders have
burned directly. The two are equal exactly as long as no holder has burned
anything. What a holder burns stays recorded as outstanding of an issuer, and
takes up the issuer's limit for good.

What is recorded can be burned as far as there are tokens: an issuer that is
not paused can burn any amount that it has outstanding and that an account
holds. The counters allow it because there are never more tokens than recorded
supply.

Direct burns are by design: Token-2022 lets every holder burn, and no extension
of the mint forbids it. The equation therefore counts them next to the supply
and does not try to exclude them.

## Main definitions

* `directlyBurned`: What the log says holders have burned of a mint.
* `Recorded`: Recorded supply is token supply and what holders have burned.

## Theorems

* `process_recorded`: An instruction keeps the recorded supply right.
* `canonical_burn`: An issuer can burn what is outstanding and held.
* `run_recordedSupply`: Recorded supply, token supply and burning after any run.
-/

namespace SolanaLab

namespace Stablecoin

namespace Issuer

open Checked

/-- What a holder burns of a mint by an instruction. -/
def Instruction.directlyBurned (mint : Pubkey) : Instruction → Nat
  | .holder instruction => instruction.burned mint
  | _ => 0

/-- What a holder has burned of a mint by an entry of the log. A transaction
    that failed has burned nothing. -/
def directlyBurned (mint : Pubkey) : Input × Except Error Unit → Nat
  | (input, .ok _) => input.2.directlyBurned mint
  | (_, .error _) => 0

/-- Recorded supply is token supply and what holders have burned, counted for
    each mint. A mint that does not exist has no burns either, so that a mint
    starts even. The ledger must also be backed: no account holds more than
    there is. -/
structure Recorded (burned : Pubkey → Nat) (world : World) : Prop where
  supplies : world.supplyStats.Everywhere (fun _ supply =>
    supply.currentSupply.val = world.tokens.supply supply.mint + burned supply.mint)
  unmade : ∀ mint, world.tokens.settings mint = none → burned mint = 0
  backed : world.tokens.Backed

/-- Nothing is recorded and nothing has been burned. -/
theorem recorded_empty : Recorded (fun _ => 0) World.empty :=
  ⟨SortedMap.everywhere_empty _, fun _ _ => rfl, TokenLedger.backed_empty⟩

section Steps

variable {rt : Runtime} {env : Env} {world world' : World} {burned : Pubkey → Nat}

/-- Minting and burning write the only record of a supply. If that one agrees
    with its mint afterwards, and the settings of the mints are kept, all of
    `Recorded` is kept. -/
theorem Recounted.recorded {ctx : IssuerAccounts} {r : IssuerRecords} {stats : IssuerStats}
    {supply : GlobalSupplyStats} (h : Recounted world ctx world' r stats supply)
    (hp : Placed rt world) (hr : Recorded burned world)
    (hsettings : ∀ mint, world'.tokens.settings mint = world.tokens.settings mint)
    (hbacked : world'.tokens.Backed)
    (hsupply : supply.currentSupply.val = world'.tokens.supply supply.mint + burned supply.mint) :
    Recorded burned world' := by
  have hother : ∀ key old, key ≠ ctx.supplyStats →
      world.supplyStats.get? key = some old → False := by
    intro key old hne hget
    exact hne ((hp.supplies _ _ hget).trans (hp.supplies _ _ h.supplyFound).symm)
  refine ⟨?_, fun mint hnone => hr.unmade mint ((hsettings mint).symm.trans hnone), hbacked⟩
  rw [h.after]
  exact SortedMap.everywhere_insert hsupply
    (fun key old hne hget => (hother key old hne hget).elim)

/-- An instruction keeps the recorded supply right. Minting adds to both sides,
    the burn of the program takes from both, and a direct burn moves its amount
    from the token supply to what holders have burned. -/
theorem process_recorded {instruction : Instruction}
    (h : process rt env world instruction = .ok world') (hp : Placed rt world)
    (hr : Recorded burned world) :
    Recorded (fun mint => burned mint + instruction.directlyBurned mint) world' := by
  cases instruction with
  | initializeProtocol ctx globalSupplyCap =>
      rcases initializeProtocolHandler_eq_ok.mp h with ⟨-, -, -, -, rfl⟩
      exact ⟨hr.supplies, hr.unmade, hr.backed⟩
  | createStablecoinMint ctx decimals =>
      rcases createStablecoinMintHandler_eq_ok h with ⟨protocol, hm⟩
      have hsettings := TokenLedger.settings_createMint hm.tokens
      have hsupply := TokenLedger.supply_createMint hm.tokens
      -- There was no mint at this key, so nobody can have burned of it.
      have hnew : world.tokens.settings ctx.mint = none := by
        rw [TokenLedger.settings, (TokenLedger.createMint_eq_ok.mp hm.tokens).1.2.1]
        rfl
      have hother : ∀ key old, key ≠ ctx.supplyStats →
          world.supplyStats.get? key = some old → False := by
        intro key old hne hget
        exact hne ((hp.supplies _ _ hget).trans hm.supplyStatsAddress.symm)
      refine ⟨?_, fun mint hnone => ?_, TokenLedger.backed_createMint hm.tokens hr.backed⟩
      · rw [hm.after]
        refine SortedMap.everywhere_insert ?_
          (fun key old hne hget => (hother key old hne hget).elim)
        simp only [hsupply, TokenLedger.supply_of_settings_none hnew, hr.unmade _ hnew]
        rfl
      · rw [hsettings] at hnone
        by_cases hmint : mint = ctx.mint
        · rw [hmint]
          exact hr.unmade _ hnew
        · rw [if_neg hmint] at hnone
          exact hr.unmade _ hnone
  | registerIssuer ctx mintLimit =>
      rw [(registerIssuerHandler_eq_ok h).after]
      exact ⟨hr.supplies, hr.unmade, hr.backed⟩
  | setIssuerPaused ctx paused =>
      rcases setIssuerPausedHandler_eq_ok h with ⟨config, hs⟩
      rw [hs.after]
      exact ⟨hr.supplies, hr.unmade, hr.backed⟩
  | rotateIssuerAuthority ctx =>
      rcases rotateIssuerAuthorityHandler_eq_ok h with ⟨config, stats, hro⟩
      rw [hro.after]
      exact ⟨hr.supplies, hr.unmade, hr.backed⟩
  -- The amount is added to the record and to the supply of the mint alike.
  | mintToUser ctx amount =>
      rcases mintToUserHandler_eq_ok.mp h with ⟨r, stats, supply, hm⟩
      rcases hm.tokens with ⟨created, hcreated, hminted⟩
      have hbefore : r.supply.currentSupply.val
          = world.tokens.supply r.supply.mint + burned r.supply.mint :=
        hr.supplies _ _ hm.loaded.supply
      have hmint : supply.mint = r.supply.mint := hm.recounted.supplyKept.2
      refine hm.recounted.recorded hp hr (fun mint => ?_)
        (TokenLedger.backed_mintTo hminted (TokenLedger.backed_createAccount hcreated hr.backed)) ?_
      · rw [TokenLedger.settings_mintTo hminted, TokenLedger.settings_createAccount hcreated]
      · rw [TokenLedger.supply_mintTo hminted, TokenLedger.supply_createAccount hcreated, hmint,
          hm.currentSupply, hbefore, if_pos hm.loaded.supplyFields.2]
        exact Nat.add_right_comm _ _ _
  -- The program's burn is no direct burn: it takes the amount from both sides.
  | burnFromUser ctx amount =>
      rcases burnFromUserHandler_eq_ok.mp h with ⟨r, stats, supply, hb⟩
      have hbefore : r.supply.currentSupply.val
          = world.tokens.supply r.supply.mint + burned r.supply.mint :=
        hr.supplies _ _ hb.loaded.supply
      have hmint : supply.mint = r.supply.mint := hb.recounted.supplyKept.2
      refine hb.recounted.recorded hp hr (TokenLedger.settings_burn hb.tokens)
        (TokenLedger.backed_burn hb.tokens hr.backed) ?_
      have hsupply := TokenLedger.supply_burn hb.tokens r.supply.mint
      rw [if_pos hb.loaded.supplyFields.2] at hsupply
      have hcurrent := hb.currentSupply
      rw [hmint]
      simp only [Instruction.directlyBurned]
      omega
  -- Only here do the two supplies part, by what the holder burns.
  | holder instruction =>
      rcases process_holder h with ⟨-, happly, hafter⟩
      have hsupply := TokenInstruction.apply_supply happly
      refine ⟨?_, fun mint hnone => ?_, TokenInstruction.apply_backed happly hr.backed⟩
      · have hbefore := hr.supplies
        rw [hafter]
        refine hbefore.imp (fun key supply hold => ?_)
        have hburned := hsupply supply.mint
        simp only [Instruction.directlyBurned]
        omega
      · rw [TokenInstruction.apply_settings happly] at hnone
        have hburned := hsupply mint
        rw [TokenLedger.supply_of_settings_none hnone] at hburned
        have hunmade := hr.unmade mint hnone
        simp only [Instruction.directlyBurned]
        omega

/-- An issuer that is not paused can burn what it has outstanding and what an
    account of the mint holds. The two subtractions of the tokens cannot fail
    because the account holds the amount, the two of the counters because the
    amount is outstanding and no more than the supply, and the two additions
    because what is minted fits in 64 bits. -/
theorem canonical_burn {authority : Pubkey} (hcanonical : rt.Canonical (canonicalSeeds authority))
    (hl : Linked rt world) (hc : Counted world) (hrec : Recorded burned world) {r : IssuerRecords}
    (hr : InPlace rt world authority r) (hsigner : authority ∈ env.signers)
    (hpaused : r.config.paused = false) {key : Pubkey} {account : TokenAccount}
    (haccount : world.tokens.accounts.get? key = some account)
    (hmint : account.mint = r.mintConfig.mint) {amount : Word 64}
    (houtstanding : amount ≤ r.stats.currentOutstanding) (hheld : amount ≤ account.amount) :
    ∃ world' stats supply, Burned rt env world (canonicalBurn rt authority r.mintConfig.mint key)
      amount world' r stats supply := by
  have hloaded := canonical_loaded hcanonical hl hr hsigner
  rcases (hl.mints _ _ hr.mintConfig).mintFound with ⟨left, hrecord⟩
  -- What the account holds is part of the token supply, which is part of the recorded one.
  have hheldSupply : account.amount.val ≤ left.val := by
    have hle := TokenLedger.amount_le_supply hrec.backed haccount
    rw [hmint, TokenLedger.supply_of_get? hrecord] at hle
    exact hle
  have hsupply : left.val ≤ r.supply.currentSupply.val := by
    have hrecorded := hrec.supplies _ _ hr.supply
    simp only [hloaded.supplyFields.2, canonicalAccounts, TokenLedger.supply_of_get? hrecord]
      at hrecorded
    omega
  have hburnedStats : r.stats.totalMinted.val
      = r.stats.totalBurned.val + r.stats.currentOutstanding.val := hc.statsCounts _ _ hr.stats
  have hburnedSupply : r.supply.totalMinted.val
      = r.supply.totalBurned.val + r.supply.currentSupply.val := hc.supplyCounts _ _ hr.supply
  have hmintedStats := r.stats.totalMinted.isLt
  have hmintedSupply := r.supply.totalMinted.isLt
  -- The six checked operations of the handler, each with the bound that lets it pass.
  rw [Fin.le_def] at houtstanding hheld
  rcases exists_sub houtstanding with ⟨outstanding, houtstanding'⟩
  rcases exists_sub (show amount.val ≤ r.supply.currentSupply.val by omega) with
    ⟨current, hcurrent⟩
  rcases exists_sub hheld with ⟨debited, hdebited⟩
  rcases exists_sub (show amount.val ≤ left.val by omega) with ⟨rest, hrest⟩
  rcases exists_add (show r.stats.totalBurned.val + amount.val < 2 ^ 64 by omega) with
    ⟨issuerTotal, hissuerTotal⟩
  rcases exists_add (show r.supply.totalBurned.val + amount.val < 2 ^ 64 by omega) with
    ⟨total, htotal⟩
  have hdelegate : some r.mintConfig.mintAuthority = some (rt.address Seeds.mintAuthority) := by
    rw [(hl.mintConfigs _ _ hr.mintConfig).mintAuthority]
  have htokens : ∃ tokens, world.tokens.burn key r.mintConfig.mint (rt.address Seeds.mintAuthority)
      amount (some r.mintConfig.decimals) = .ok tokens :=
    ⟨_, TokenLedger.burn_eq_ok.mpr ⟨account, _, debited, rest, haccount, hrecord, hmint,
      fun d hd => Option.some.inj hd, Or.inr hdelegate, hdebited, hrest, rfl⟩⟩
  rcases htokens with ⟨tokens, htokens⟩
  exact ⟨{ world with
      tokens
      issuerStats := world.issuerStats.insert (rt.address (Seeds.issuerStats authority))
        { r.stats with currentOutstanding := outstanding, totalBurned := issuerTotal }
      supplyStats := world.supplyStats.insert (rt.address Seeds.supplyStats)
        { r.supply with currentSupply := current, totalBurned := total } },
    { r.stats with currentOutstanding := outstanding, totalBurned := issuerTotal },
    { r.supply with currentSupply := current, totalBurned := total },
    hloaded, ⟨(hl.protocols _ _ hr.protocol).1, hpaused⟩, rfl, houtstanding', hissuerTotal, rfl,
    hcurrent, htotal, htokens, rfl⟩

end Steps

/-- Recorded supply is token supply and what holders have burned directly, and
    an issuer that is not paused can burn what it has outstanding and what an
    account of the mint holds. -/
theorem run_recordedSupply {rt : Runtime} {authority : Pubkey}
    (hcanonical : rt.Canonical (canonicalSeeds authority)) (inputs : List Input) :
    let world := Run.after (step rt) World.empty inputs
    let past := Run.log (step rt) World.empty inputs
    world.supplyStats.Everywhere (fun _ supply =>
      supply.currentSupply.val
        = world.tokens.supply supply.mint + Run.total (directlyBurned supply.mint) past) ∧
    ∀ r env key account amount, InPlace rt world authority r → r.config.paused = false →
      authority ∈ env.signers → env.refused = false →
      world.tokens.accounts.get? key = some account → account.mint = r.mintConfig.mint →
      amount ≤ r.stats.currentOutstanding → amount ≤ account.amount →
      let burn : Input :=
        (env, .burnFromUser (canonicalBurn rt authority r.mintConfig.mint key) amount)
      (step rt world burn).1 = .ok () ∧
      ∃ stats, (step rt world burn).2.issuerStats.get? (rt.address (Seeds.issuerStats authority))
          = some stats ∧
        stats.currentOutstanding.val + amount.val = r.stats.currentOutstanding.val := by
  intro world past
  -- Along the run the recorded supply is what is left plus what was burned.
  have hinv :
      Placed rt world ∧ Recorded (fun mint => Run.total (directlyBurned mint) past) world := by
    refine Run.invariant (step rt) (P := fun past world => Placed rt world ∧
      Recorded (fun mint => Run.total (directlyBurned mint) past) world)
      ⟨placed_empty rt, recorded_empty⟩ ?_ inputs
    rintro past world input ⟨hp, hr⟩
    rcases transact_cases (process rt) .runtime world input with ⟨e, he⟩ | ⟨world', hok, hstep⟩
    · simp only [step, he, Run.total_snoc, directlyBurned, Nat.add_zero]
      exact ⟨hp, hr⟩
    · simp only [step, hstep, Run.total_snoc, directlyBurned]
      exact ⟨process_placed hok hp, process_recorded hok hp hr⟩
  -- The second part is one more transaction after the run.
  refine ⟨hinv.2.supplies, ?_⟩
  intro r env key account amount hr hpaused hsigner hrefused haccount hmint houtstanding hheld
  rcases canonical_burn hcanonical (run_linked rt inputs) (run_counted rt inputs) hinv.2 hr hsigner
    hpaused haccount hmint houtstanding hheld with ⟨world', stats, supply, hb⟩
  have hstep : step rt world
      (env, .burnFromUser (canonicalBurn rt authority r.mintConfig.mint key) amount)
      = (.ok (), world') :=
    transact_of_ok (process rt) .runtime hrefused
      (burnFromUserHandler_eq_ok.mpr ⟨r, stats, supply, hb⟩)
  simp only [hstep, true_and]
  refine ⟨stats, ?_, hb.outstanding⟩
  rw [hb.after]
  exact SortedMap.get?_insert_self _ _ _

/-- The user burns directly. -/
def sampleHolderBurn (amount : Word 64) : Input :=
  (sampleEnv [sampleUser], .holder (.burn sampleAccount sampleMint sampleUser amount none))

/-- Five are minted and the user burns two of them: five are recorded. -/
theorem run_recordedSupply_burned :
    let world := Run.after (step sampleRuntime) World.empty
      [sampleInitialize, sampleCreateMint, sampleRegister, sampleMintTo 5, sampleHolderBurn 2]
    world.tokens.supply sampleMint = 3 ∧ ∀ supply,
      world.supplyStats.get? sampleSupplyStats = some supply → supply.mint = sampleMint →
      supply.currentSupply.val = 3 + 2 := by
  intro world
  have h := (@run_recordedSupply sampleRuntime sampleOldAuthority
    (by decide +kernel) [sampleInitialize, sampleCreateMint, sampleRegister, sampleMintTo 5,
      sampleHolderBurn 2]).1
  refine ⟨by decide +kernel, fun supply hget hmint => (h _ supply hget).trans ?_⟩
  rw [hmint]
  decide +kernel

/-- What is recorded is then more than there is, and the issuer cannot burn
    it. -/
theorem run_unrecordedBurn :
    let inputs := [sampleInitialize, sampleCreateMint, sampleRegister, sampleMintTo 5,
      sampleHolderBurn 2]
    let world := Run.after (step sampleRuntime) World.empty inputs
    (∀ entry ∈ Run.log (step sampleRuntime) World.empty inputs, entry.2 = .ok ()) ∧
      (world.supplyStats.get? sampleSupplyStats).map (fun s => s.currentSupply) = some 5 ∧
      world.tokens.supply sampleMint = 3 ∧
      (step sampleRuntime world (sampleBurnFrom 5)).1 = .error (.cpi .insufficientFunds) := by
  decide +kernel

end Issuer

end Stablecoin

end SolanaLab
