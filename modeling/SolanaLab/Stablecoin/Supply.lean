import SolanaLab.Stablecoin.Issuer

/-!
# The Counters of the Issuer

The supply is counted twice: once for all, and once for each issuer. This
module is about how every count agrees with itself and with its limit.

A count is minted less burned, and what is left is within the cap of the
protocol or the limit of the issuer. So adding to what was burned cannot
overflow, and burning never fails for that reason.

What keeps the limits is that the counters name their issuer and the issuer
names its counters. Minting and burning check both, so the counters they write
are those of no other issuer.

`Placed` comes first. Records are found by the address of their seeds, so two
instructions that pass the same authority mean the same record, and a record
that is created is not in the place of another one.

## Main definitions

* `Recounted`: What minting and burning write.
* `Placed`: Every record is at the address of its seeds.
* `WithinCap`, `WithinLimit`: A count is within its cap, or its limit.
* `Counted`: Every count is in order.

## Theorems

* `process_placed`: An instruction keeps the records at their addresses.
* `process_counted`: An instruction keeps the counts in order.
* `checkedAdd_burned`: What is outstanding can be added to what was burned.
* `caps_and_counters`: Caps, limits and counters after any run.
-/

namespace SolanaLab

namespace Stablecoin

namespace Issuer

open Checked

section Specifications

variable {rt : Runtime} {env : Env} {world world' : World}

/-- What minting and burning write: the counters of one issuer and of the
    supply, and no other field. The two handlers differ in the amounts and in
    the tokens they move, but every invariant of this program about records
    needs of them only what is here. -/
structure Recounted (world : World) (ctx : IssuerAccounts) (world' : World) (r : IssuerRecords)
    (stats : IssuerStats) (supply : GlobalSupplyStats) : Prop where
  configFound : world.issuerConfigs.get? ctx.issuerConfig = some r.config
  statsFound : world.issuerStats.get? ctx.issuerStats = some r.stats
  supplyFound : world.supplyStats.get? ctx.supplyStats = some r.supply
  statsConfig : stats.issuerConfig = ctx.issuerConfig
  statsAuthority : stats.authority = ctx.issuerAuthority
  statsKept : stats.issuerConfig = r.stats.issuerConfig ∧ stats.authority = r.stats.authority
  statsProtocol : stats.protocolConfig = r.stats.protocolConfig
  statsBump : stats.bump = r.stats.bump
  supplyKept : supply.protocolConfig = r.supply.protocolConfig ∧ supply.mint = r.supply.mint
  supplyBump : supply.bump = r.supply.bump
  after : world' = { world with
    tokens := world'.tokens
    issuerStats := world.issuerStats.insert ctx.issuerStats stats
    supplyStats := world.supplyStats.insert ctx.supplyStats supply }

/-- Minting writes the two counters. -/
theorem Minted.recounted {ctx : MintToUser} {amount : Word 64} {r : IssuerRecords}
    {stats : IssuerStats} {supply : GlobalSupplyStats}
    (h : Minted rt env world ctx amount world' r stats supply) :
    Recounted world ctx.toIssuerAccounts world' r stats supply where
  configFound := h.loaded.config
  statsFound := h.loaded.stats
  supplyFound := h.loaded.supply
  statsConfig := by rw [h.statsFields]; exact h.loaded.statsFields.2.1
  statsAuthority := by rw [h.statsFields]; exact h.loaded.statsFields.2.2
  statsKept := by rw [h.statsFields]; exact ⟨rfl, rfl⟩
  statsProtocol := by rw [h.statsFields]
  statsBump := by rw [h.statsFields]
  supplyKept := by rw [h.supplyFields]; exact ⟨rfl, rfl⟩
  supplyBump := by rw [h.supplyFields]
  after := h.after

/-- Burning writes the same two counters. -/
theorem Burned.recounted {ctx : BurnFromUser} {amount : Word 64} {r : IssuerRecords}
    {stats : IssuerStats} {supply : GlobalSupplyStats}
    (h : Burned rt env world ctx amount world' r stats supply) :
    Recounted world ctx.toIssuerAccounts world' r stats supply where
  configFound := h.loaded.config
  statsFound := h.loaded.stats
  supplyFound := h.loaded.supply
  statsConfig := by rw [h.statsFields]; exact h.loaded.statsFields.2.1
  statsAuthority := by rw [h.statsFields]; exact h.loaded.statsFields.2.2
  statsKept := by rw [h.statsFields]; exact ⟨rfl, rfl⟩
  statsProtocol := by rw [h.statsFields]
  statsBump := by rw [h.statsFields]
  supplyKept := by rw [h.supplyFields]; exact ⟨rfl, rfl⟩
  supplyBump := by rw [h.supplyFields]
  after := h.after

end Specifications

/-! ### Where records are -/

/-- Every record is at the address of its seeds. The program derives these
    addresses itself whenever it creates a record, so whoever sends the
    transaction has no say in it. -/
structure Placed (rt : Runtime) (world : World) : Prop where
  protocols : world.protocolConfigs.Everywhere (fun key _ => key = rt.address Seeds.protocol)
  mintConfigs : world.mintConfigs.Everywhere (fun key _ => key = rt.address Seeds.stablecoinMint)
  supplies : world.supplyStats.Everywhere (fun key _ => key = rt.address Seeds.supplyStats)
  configs : world.issuerConfigs.Everywhere
    (fun key config => key = rt.address (Seeds.issuer config.authority))
  stats : world.issuerStats.Everywhere
    (fun key stats => key = rt.address (Seeds.issuerStats stats.authority))

/-- There is no record that could be elsewhere. -/
theorem placed_empty (rt : Runtime) : Placed rt World.empty :=
  ⟨SortedMap.everywhere_empty _, SortedMap.everywhere_empty _, SortedMap.everywhere_empty _,
    SortedMap.everywhere_empty _, SortedMap.everywhere_empty _⟩

section Steps

variable {rt : Runtime} {env : Env} {world world' : World}

/-- The counters are written where they were found, and their authority is not
    changed. -/
theorem Recounted.placed {ctx : IssuerAccounts} {r : IssuerRecords} {stats : IssuerStats}
    {supply : GlobalSupplyStats} (h : Recounted world ctx world' r stats supply)
    (hp : Placed rt world) : Placed rt world' := by
  have hstats : ctx.issuerStats = rt.address (Seeds.issuerStats stats.authority) := by
    rw [h.statsKept.2]
    exact hp.stats _ _ h.statsFound
  rw [h.after]
  exact ⟨hp.protocols, hp.mintConfigs, hp.supplies.insert (hp.supplies _ _ h.supplyFound),
    hp.configs, hp.stats.insert hstats⟩

/-- An instruction keeps every record at the address of its seeds. New records
    are created there, and a record that is rewritten keeps the field its seeds
    are made of. -/
theorem process_placed {instruction : Instruction}
    (h : process rt env world instruction = .ok world') (hp : Placed rt world) :
    Placed rt world' := by
  cases instruction with
  | initializeProtocol ctx globalSupplyCap =>
      rcases initializeProtocolHandler_eq_ok.mp h with ⟨-, hkey, -, -, rfl⟩
      exact { hp with protocols := hp.protocols.insert hkey }
  | createStablecoinMint ctx decimals =>
      rcases createStablecoinMintHandler_eq_ok h with ⟨protocol, hc⟩
      rw [hc.after]
      exact { hp with
        protocols := hp.protocols.insert (hp.protocols _ _ hc.admin.found)
        mintConfigs := hp.mintConfigs.insert hc.mintConfigAddress
        supplies := hp.supplies.insert hc.supplyStatsAddress }
  | registerIssuer ctx mintLimit =>
      have hr := registerIssuerHandler_eq_ok h
      rw [hr.after]
      exact { hp with
        configs := hp.configs.insert hr.configAddress
        stats := hp.stats.insert hr.statsAddress }
  | setIssuerPaused ctx paused =>
      rcases setIssuerPausedHandler_eq_ok h with ⟨config, hs⟩
      have hkey : ctx.issuerConfig = rt.address (Seeds.issuer config.authority) :=
        hp.configs _ _ hs.found
      rw [hs.after]
      exact { hp with configs := hp.configs.insert hkey }
  -- The old issuer keeps its address, and the new one is at that of the new authority.
  | rotateIssuerAuthority ctx =>
      rcases rotateIssuerAuthorityHandler_eq_ok h with ⟨config, stats, hr⟩
      have hkey : ctx.currentIssuerConfig = rt.address (Seeds.issuer config.authority) :=
        hp.configs _ _ hr.configFound
      rw [hr.after]
      exact { hp with
        configs := (hp.configs.insert hr.newConfigAddress).insert hkey
        stats := hp.stats.insert hr.newStatsAddress }
  | mintToUser ctx amount =>
      rcases mintToUserHandler_eq_ok.mp h with ⟨r, stats, supply, hm⟩
      exact hm.recounted.placed hp
  | burnFromUser ctx amount =>
      rcases burnFromUserHandler_eq_ok.mp h with ⟨r, stats, supply, hb⟩
      exact hb.recounted.placed hp
  | holder instruction =>
      rw [(process_holder h).2.2]
      exact { hp with }

end Steps

/-! ### Counters and their limits -/

/-- A supply within the cap of its protocol. -/
def GlobalSupplyStats.WithinCap (protocols : SortedMap Pubkey ProtocolConfig)
    (supply : GlobalSupplyStats) : Prop :=
  ∃ protocol, protocols.get? supply.protocolConfig = some protocol ∧
    supply.currentSupply ≤ protocol.globalSupplyCap

/-- An issuer has counters, and what is outstanding is within its limit. The
    limit is zero once the issuer was moved to another authority, and then its
    counters may be above it. -/
def IssuerConfig.WithinLimit (allStats : SortedMap Pubkey IssuerStats) (key : Pubkey)
    (config : IssuerConfig) : Prop :=
  ∃ stats, allStats.get? config.stats = some stats ∧ stats.issuerConfig = key ∧
    (0 < config.mintLimit → stats.currentOutstanding ≤ config.mintLimit)

/-- Every count is what was minted less what was burned, and is within its cap
    or limit. The counts are stated as sums, and the limit is claimed as far as
    it was not taken away by moving the issuer. -/
structure Counted (world : World) : Prop where
  supplyCounts : world.supplyStats.Everywhere (fun _ supply =>
    supply.totalMinted.val = supply.totalBurned.val + supply.currentSupply.val)
  withinCap : world.supplyStats.Everywhere
    (fun _ supply => supply.WithinCap world.protocolConfigs)
  statsCounts : world.issuerStats.Everywhere (fun _ stats =>
    stats.totalMinted.val = stats.totalBurned.val + stats.currentOutstanding.val)
  withinLimit : world.issuerConfigs.Everywhere
    (fun key config => config.WithinLimit world.issuerStats key)

/-- Nothing has been counted. -/
theorem counted_empty : Counted World.empty :=
  ⟨SortedMap.everywhere_empty _, SortedMap.everywhere_empty _, SortedMap.everywhere_empty _,
    SortedMap.everywhere_empty _⟩

/-- Writing a protocol that was not there, or writing it with the cap it had,
    keeps every supply within its cap. -/
theorem GlobalSupplyStats.WithinCap.insert {protocols : SortedMap Pubkey ProtocolConfig}
    {supply : GlobalSupplyStats} (h : supply.WithinCap protocols) {key : Pubkey}
    {protocol : ProtocolConfig}
    (hcap : ∀ old, protocols.get? key = some old →
      old.globalSupplyCap = protocol.globalSupplyCap) :
    supply.WithinCap (protocols.insert key protocol) := by
  rcases h with ⟨old, hold, hle⟩
  by_cases hk : supply.protocolConfig = key
  · rw [hk] at hold
    refine ⟨protocol, by rw [hk, SortedMap.get?_insert_self], ?_⟩
    rw [← hcap old hold]
    exact hle
  · exact ⟨old, by rw [SortedMap.get?_insert_of_ne _ _ hk]; exact hold, hle⟩

/-- Counters at a new address are those of no issuer yet. -/
theorem IssuerConfig.WithinLimit.insert_new {allStats : SortedMap Pubkey IssuerStats}
    {key statsKey : Pubkey} {config : IssuerConfig} (h : config.WithinLimit allStats key)
    (hnew : allStats.get? statsKey = none) (stats : IssuerStats) :
    config.WithinLimit (allStats.insert statsKey stats) key := by
  rcases h with ⟨old, hold, hrest⟩
  exact ⟨old, SortedMap.get?_insert_of_some hold hnew, hrest⟩

/-- A new issuer comes with counters at a new address. -/
theorem withinLimit_insert_issuer {configs : SortedMap Pubkey IssuerConfig}
    {allStats : SortedMap Pubkey IssuerStats}
    (h : configs.Everywhere (fun key config => config.WithinLimit allStats key))
    {key statsKey : Pubkey} {config : IssuerConfig} {stats : IssuerStats}
    (hnew : allStats.get? statsKey = none) (hstats : config.stats = statsKey)
    (hconfig : stats.issuerConfig = key)
    (hle : 0 < config.mintLimit → stats.currentOutstanding ≤ config.mintLimit) :
    (configs.insert key config).Everywhere
      (fun k c => c.WithinLimit (allStats.insert statsKey stats) k) := by
  have hothers : configs.Everywhere
      (fun k c => c.WithinLimit (allStats.insert statsKey stats) k) :=
    h.imp (fun _ _ hc => hc.insert_new hnew stats)
  have hfound : (allStats.insert statsKey stats).get? config.stats = some stats := by
    rw [hstats, SortedMap.get?_insert_self]
  exact hothers.insert ⟨stats, hfound, hconfig, hle⟩

section Steps

variable {rt : Runtime} {env : Env} {world world' : World}

/-- Minting and burning keep the counters in order if what they write is. -/
theorem Recounted.counted {ctx : IssuerAccounts} {r : IssuerRecords} {stats : IssuerStats}
    {supply : GlobalSupplyStats} (h : Recounted world ctx world' r stats supply)
    (hc : Counted world)
    (hsupply : supply.totalMinted.val = supply.totalBurned.val + supply.currentSupply.val)
    (hcap : supply.WithinCap world.protocolConfigs)
    (hstats : stats.totalMinted.val = stats.totalBurned.val + stats.currentOutstanding.val)
    (hlimit : 0 < r.config.mintLimit → stats.currentOutstanding ≤ r.config.mintLimit) :
    Counted world' := by
  rw [h.after]
  refine ⟨hc.supplyCounts.insert hsupply, hc.withinCap.insert hcap, hc.statsCounts.insert hstats,
    fun key config hget => ?_⟩
  rcases hc.withinLimit key config hget with ⟨old, hold, hkey, hle⟩
  by_cases hk : config.stats = ctx.issuerStats
  · -- Counters say whose they are, so this is the issuer that mints or burns.
    rw [hk, h.statsFound, Option.some.injEq] at hold
    rw [← hold, ← h.statsKept.1, h.statsConfig] at hkey
    rw [← hkey, h.configFound, Option.some.injEq] at hget
    refine ⟨stats, by rw [hk, SortedMap.get?_insert_self], h.statsConfig.trans hkey, ?_⟩
    rw [← hget]
    exact hlimit
  · exact ⟨old, by rw [SortedMap.get?_insert_of_ne _ _ hk]; exact hold, hkey, hle⟩

/-- What an issuer has outstanding is within its limit when its accounts are
    accepted. -/
theorem Counted.outstanding_le (hc : Counted world) {ctx : IssuerAccounts} {r : IssuerRecords}
    (h : ctx.Loaded rt env world r) (hpos : 0 < r.config.mintLimit) :
    r.stats.currentOutstanding ≤ r.config.mintLimit := by
  rcases hc.withinLimit _ _ h.config with ⟨stats, hstats, -, hle⟩
  rw [h.configFields.2.2, h.stats, Option.some.injEq] at hstats
  rw [hstats]
  exact hle hpos

/-- Minting adds the same to what was minted and to what is left, and has
    checked the cap and the limit. -/
theorem Minted.counted {ctx : MintToUser} {amount : Word 64} {r : IssuerRecords}
    {stats : IssuerStats} {supply : GlobalSupplyStats}
    (h : Minted rt env world ctx amount world' r stats supply) (hc : Counted world) :
    Counted world' := by
  have hsupply := hc.supplyCounts _ _ h.loaded.supply
  have hstats := hc.statsCounts _ _ h.loaded.stats
  have hsb : supply.totalBurned = r.supply.totalBurned := by rw [h.supplyFields]
  have htb : stats.totalBurned = r.stats.totalBurned := by rw [h.statsFields]
  have hprotocol : supply.protocolConfig = ctx.protocolConfig :=
    h.recounted.supplyKept.1.trans h.loaded.supplyFields.1
  refine h.recounted.counted hc ?_ ⟨r.protocol, ?_, h.withinCap⟩ ?_ (fun _ => h.withinLimit)
  · rw [hsb, h.supplyMinted, h.currentSupply, hsupply]
    omega
  · rw [hprotocol]
    exact h.loaded.protocol
  · rw [htb, h.totalMinted, h.outstanding, hstats]
    omega

/-- Burning moves an amount from what is left to what was burned, so no cap and
    no limit is passed. -/
theorem Burned.counted {ctx : BurnFromUser} {amount : Word 64} {r : IssuerRecords}
    {stats : IssuerStats} {supply : GlobalSupplyStats}
    (h : Burned rt env world ctx amount world' r stats supply) (hc : Counted world) :
    Counted world' := by
  -- Burning takes the same amount from what is outstanding and adds it to what was
  -- burned.
  have hsupply := hc.supplyCounts _ _ h.loaded.supply
  have hstats := hc.statsCounts _ _ h.loaded.stats
  have hsm : supply.totalMinted = r.supply.totalMinted := by rw [h.supplyFields]
  have htm : stats.totalMinted = r.stats.totalMinted := by rw [h.statsFields]
  have hcurrent := h.currentSupply
  have houtstanding := h.outstanding
  refine h.recounted.counted hc ?_ ?_ ?_ (fun hpos => ?_)
  · rw [hsm, h.supplyBurned, hsupply]
    omega
  · rcases hc.withinCap _ _ h.loaded.supply with ⟨protocol, hprotocol, hle⟩
    rw [← h.recounted.supplyKept.1] at hprotocol
    refine ⟨protocol, hprotocol, le_trans ?_ hle⟩
    rw [Fin.le_def]
    omega
  · rw [htm, h.totalBurned, hstats]
    omega
  · refine le_trans ?_ (hc.outstanding_le h.loaded hpos)
    rw [Fin.le_def]
    omega

/-- An instruction keeps every count in order. The one to look at is the move of
    an issuer: the counters are copied to the new authority with the limit, and
    the old issuer, whose counters stay, is left with a limit of zero. -/
theorem process_counted {instruction : Instruction}
    (h : process rt env world instruction = .ok world') (hc : Counted world) : Counted world' := by
  cases instruction with
  | initializeProtocol ctx globalSupplyCap =>
      rcases initializeProtocolHandler_eq_ok.mp h with ⟨-, -, hnew, -, rfl⟩
      have hnone := (World.occupied_eq_false.mp hnew).1
      refine { hc with withinCap := hc.withinCap.imp (fun _ supply hcap => hcap.insert ?_) }
      intro old hold
      rw [hnone] at hold
      exact absurd hold (by simp only [reduceCtorEq, not_false_eq_true])
  | createStablecoinMint ctx decimals =>
      rcases createStablecoinMintHandler_eq_ok h with ⟨protocol, hm⟩
      have hcap : ∀ old, world.protocolConfigs.get? ctx.protocolConfig = some old →
          old.globalSupplyCap
            = ({ protocol with stablecoinMint := ctx.mint } : ProtocolConfig).globalSupplyCap := by
        intro old hold
        rw [hm.admin.found, Option.some.injEq] at hold
        rw [← hold]
      rw [hm.after]
      exact { hc with
        supplyCounts := hc.supplyCounts.insert rfl
        withinCap := (hc.withinCap.imp (fun _ supply h => h.insert hcap)).insert
          ⟨_, SortedMap.get?_insert_self _ _ _, Fin.zero_le _⟩ }
  -- New statistics count nothing, and nothing is within every limit.
  | registerIssuer ctx mintLimit =>
      have hr := registerIssuerHandler_eq_ok h
      have hnone := World.issuerStats_free hr.statsNew
      rw [hr.after]
      exact { hc with
        statsCounts := hc.statsCounts.insert rfl
        withinLimit := withinLimit_insert_issuer hc.withinLimit hnone rfl rfl
          (fun _ => Fin.zero_le _) }
  | setIssuerPaused ctx paused =>
      rcases setIssuerPausedHandler_eq_ok h with ⟨config, hs⟩
      have hlimit : config.WithinLimit world.issuerStats ctx.issuerConfig :=
        hc.withinLimit _ _ hs.found
      rw [hs.after]
      exact { hc with withinLimit := hc.withinLimit.insert hlimit }
  | rotateIssuerAuthority ctx =>
      rcases rotateIssuerAuthorityHandler_eq_ok h with ⟨config, stats, hr⟩
      have hnone := World.issuerStats_free hr.newStatsNew
      rcases hc.withinLimit _ _ hr.configFound with ⟨old, hold, hkey, hle⟩
      rw [hr.configFields.2, hr.statsFound, Option.some.injEq] at hold
      rw [← hold] at hle
      have hcount : stats.totalMinted.val = stats.totalBurned.val + stats.currentOutstanding.val :=
        hc.statsCounts _ _ hr.statsFound
      rw [hr.after]
      -- The new issuer has what the old one had; the limit of the old one is zero.
      refine { hc with
        statsCounts := hc.statsCounts.insert hcount
        withinLimit := SortedMap.Everywhere.insert
          (withinLimit_insert_issuer hc.withinLimit hnone rfl rfl ?_)
          ⟨stats, ?_, hr.statsFields.1, ?_⟩ }
      · exact hle
      · simp only [hr.configFields.2]
        exact SortedMap.get?_insert_of_some hr.statsFound hnone
      · exact fun hpos => absurd hpos (lt_irrefl _)
  | mintToUser ctx amount =>
      rcases mintToUserHandler_eq_ok.mp h with ⟨r, stats, supply, hm⟩
      exact hm.counted hc
  | burnFromUser ctx amount =>
      rcases burnFromUserHandler_eq_ok.mp h with ⟨r, stats, supply, hb⟩
      exact hb.counted hc
  | holder instruction =>
      rw [(process_holder h).2.2]
      exact { hc with }

end Steps

/-- Every run keeps the records at their addresses. -/
theorem run_placed (rt : Runtime) (inputs : List Input) :
    Placed rt (Run.after (step rt) World.empty inputs) := by
  refine Run.invariant (step rt) (P := fun _ world => Placed rt world) (placed_empty rt)
    (fun _ world input hp => ?_) inputs
  rcases transact_cases (process rt) .runtime world input with ⟨e, he⟩ | ⟨world', hok, hstep⟩
  · rw [step, he]
    exact hp
  · rw [step, hstep]
    exact process_placed hok hp

/-- Every run keeps the counters in order. -/
theorem run_counted (rt : Runtime) (inputs : List Input) :
    Counted (Run.after (step rt) World.empty inputs) := by
  refine Run.invariant (step rt) (P := fun _ world => Counted world) counted_empty
    (fun _ world input hc => ?_) inputs
  rcases transact_cases (process rt) .runtime world input with ⟨e, he⟩ | ⟨world', hok, hstep⟩
  · rw [step, he]
    exact hc
  · rw [step, hstep]
    exact process_counted hok hc

/-- Burned counts have room for what is still outstanding. Together they are
    what was minted, and that is a 64-bit number. -/
theorem checkedAdd_burned {minted burned left rest amount : Word 64}
    (hcount : minted.val = burned.val + left.val) (hsub : checkedSub left amount = some rest) :
    ∃ total, checkedAdd burned amount = some total := by
  rw [checkedSub_eq_some] at hsub
  have := minted.isLt
  exact ⟨⟨burned.val + amount.val, by omega⟩, checkedAdd_eq_some.mpr rfl⟩

/-- Caps, limits and counters after any run, and that counting what is burned
    never fails a burn that the counters allow. The last part is why the handler
    may add after it has subtracted: `checked_add` is there, but it cannot fail. -/
theorem caps_and_counters (rt : Runtime) (inputs : List Input) :
    let world := Run.after (step rt) World.empty inputs
    world.supplyStats.Everywhere (fun _ supply =>
      supply.totalMinted.val = supply.totalBurned.val + supply.currentSupply.val ∧
      ∃ protocol, world.protocolConfigs.get? supply.protocolConfig = some protocol ∧
        supply.currentSupply ≤ protocol.globalSupplyCap) ∧
    world.issuerStats.Everywhere (fun _ stats =>
      stats.totalMinted.val = stats.totalBurned.val + stats.currentOutstanding.val) ∧
    world.issuerConfigs.Everywhere (fun _ config => ∃ stats,
      world.issuerStats.get? config.stats = some stats ∧
      (0 < config.mintLimit → stats.currentOutstanding ≤ config.mintLimit)) ∧
    ∀ env (ctx : BurnFromUser) amount r outstanding supply,
      loadIssuerAccounts rt env world ctx.toIssuerAccounts = .ok r →
      checkedSub r.stats.currentOutstanding amount = some outstanding →
      checkedSub r.supply.currentSupply amount = some supply →
      (∃ total, checkedAdd r.stats.totalBurned amount = some total) ∧
      (∃ total, checkedAdd r.supply.totalBurned amount = some total) ∧
      burnFromUserHandler rt env world ctx amount
        ≠ .error (.code .burnAmountExceedsOutstanding) := by
  intro world
  have hc : Counted world := run_counted rt inputs
  refine ⟨fun key supply hget => ⟨hc.supplyCounts _ _ hget, hc.withinCap _ _ hget⟩, hc.statsCounts,
    fun key config hget => ?_, ?_⟩
  · rcases hc.withinLimit _ _ hget with ⟨stats, hstats, -, hle⟩
    exact ⟨stats, hstats, hle⟩
  · intro env ctx amount r outstanding supply hload hsubStats hsubSupply
    have hloaded := loadIssuerAccounts_eq_ok.mp hload
    -- Both additions have room, by the counts of the issuer and of the supply.
    rcases checkedAdd_burned (hc.statsCounts _ _ hloaded.stats) hsubStats with ⟨t, ht⟩
    rcases checkedAdd_burned (hc.supplyCounts _ _ hloaded.supply) hsubSupply with ⟨t', ht'⟩
    refine ⟨⟨t, ht⟩, ⟨t', ht'⟩, ?_⟩
    -- What is left of the handler are the two pauses and the call of the token program.
    simp only [ne_eq, burnFromUserHandler, hload, hsubStats, hsubSupply, ht, ht', okOr_some,
      bind_eq_error, requireCode_eq_error, cpi_eq_error, pure, Except.pure, Except.ok.injEq,
      exists_eq_left', ProgramError.code.injEq, reduceCtorEq, and_false, false_or, exists_false,
      not_false_eq_true]

end Issuer

end Stablecoin

end SolanaLab
