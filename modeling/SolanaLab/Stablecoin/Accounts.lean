import SolanaLab.Stablecoin.Supply

/-!
# The Accounts of an Issuer

The records of the issuer program name one another: an issuer names its
counters and they name it, and all name the protocol. `Linked` says that they
do so at the addresses of their seeds and carry the bumps of these addresses,
and that the mint is set up as the record of it says.

So an issuer that passes the accounts at these addresses passes the checks on
them. `canonical_loaded` says so, and what minting and burning can then still
fail for are their own conditions.

The links are what the checks of the program are about. An instruction gets its
accounts from whoever sends it, and the program compares addresses, bumps and
the fields by which records name one another. Since the records were written
with these links and no instruction changes them, the checks come down to
passing the accounts at their own addresses.

## Main definitions

* `Linked`: The records name one another, and the mint is set up for them.
* `canonicalAccounts`, `canonicalMint`, `canonicalBurn`: The accounts of an
  issuer, at their addresses.
* `InPlace`: An issuer with its records, and the mint it issues.
* `canonicalSeeds`: The seeds of these accounts.

## Theorems

* `process_linked`: An instruction keeps the records linked.
* `canonical_loaded`: The accounts at their addresses are accepted.
-/

namespace SolanaLab

namespace Stablecoin

namespace Issuer

open Checked

/-- The record of the mint says what the mint is, and so does the supply. Only
    the program's own address can mint, it is also the permanent delegate, and
    the mint has the decimals of the record. No instruction can change this,
    since the program never gives the authority away. -/
structure StablecoinMintConfig.SetUp (rt : Runtime) (world : World)
    (config : StablecoinMintConfig) : Prop where
  settings : world.tokens.settings config.mint
    = some ⟨config.mintAuthority, some config.mintAuthority, config.decimals, 0⟩
  supply : ∃ supply, world.supplyStats.get? (rt.address Seeds.supplyStats) = some supply ∧
    supply.mint = config.mint

/-- The mint is there, with the authority and the decimals of its record. -/
theorem StablecoinMintConfig.SetUp.mintFound {rt : Runtime} {world : World}
    {config : StablecoinMintConfig} (h : config.SetUp rt world) :
    ∃ supply, world.tokens.mints.get? config.mint
      = some ⟨config.mintAuthority, some config.mintAuthority, config.decimals, supply⟩ :=
  TokenLedger.get?_of_settings h.settings

/-- A protocol as it is created. It is never paused, since no instruction of the
    program writes that field, and its bump is that of its address. -/
def ProtocolConfig.Linked (rt : Runtime) (protocol : ProtocolConfig) : Prop :=
  protocol.paused = false ∧ protocol.bump = rt.bump Seeds.protocol

/-- The record of the mint names the protocol, the address that may mint and the
    record of the supply, and has the bumps of its own address and of the
    address that may mint. -/
structure StablecoinMintConfig.Linked (rt : Runtime) (config : StablecoinMintConfig) : Prop where
  protocolConfig : config.protocolConfig = rt.address Seeds.protocol
  mintAuthority : config.mintAuthority = rt.address Seeds.mintAuthority
  supplyStats : config.supplyStats = rt.address Seeds.supplyStats
  mintAuthorityBump : config.mintAuthorityBump = rt.bump Seeds.mintAuthority
  bump : config.bump = rt.bump Seeds.stablecoinMint

/-- The record of the supply names the protocol and has the bump of its address.
    That it also names the mint is part of `SetUp`, which relates it to the
    record of the mint. -/
structure GlobalSupplyStats.Linked (rt : Runtime) (supply : GlobalSupplyStats) : Prop where
  protocolConfig : supply.protocolConfig = rt.address Seeds.protocol
  bump : supply.bump = rt.bump Seeds.supplyStats

/-- An issuer names the protocol and the counters at the address of its own
    authority. -/
structure IssuerConfig.Linked (rt : Runtime) (config : IssuerConfig) : Prop where
  protocolConfig : config.protocolConfig = rt.address Seeds.protocol
  stats : config.stats = rt.address (Seeds.issuerStats config.authority)
  bump : config.bump = rt.bump (Seeds.issuer config.authority)

/-- Counters name the protocol, and the issuer at the address of the authority
    they are kept for. -/
structure IssuerStats.Linked (rt : Runtime) (stats : IssuerStats) : Prop where
  protocolConfig : stats.protocolConfig = rt.address Seeds.protocol
  issuerConfig : stats.issuerConfig = rt.address (Seeds.issuer stats.authority)
  bump : stats.bump = rt.bump (Seeds.issuerStats stats.authority)

/-- The records name one another, and the mint is set up for them. Each field is
    about one kind of record, so an instruction only has to answer for the kinds
    it writes. -/
structure Linked (rt : Runtime) (world : World) : Prop where
  protocols : world.protocolConfigs.Everywhere (fun _ protocol => protocol.Linked rt)
  mintConfigs : world.mintConfigs.Everywhere (fun _ config => config.Linked rt)
  mints : world.mintConfigs.Everywhere (fun _ config => config.SetUp rt world)
  supplies : world.supplyStats.Everywhere (fun _ supply => supply.Linked rt)
  configs : world.issuerConfigs.Everywhere (fun _ config => config.Linked rt)
  stats : world.issuerStats.Everywhere (fun _ stats => stats.Linked rt)

/-- A program without records has none that could be linked wrongly. -/
theorem linked_empty (rt : Runtime) : Linked rt World.empty :=
  ⟨SortedMap.everywhere_empty _, SortedMap.everywhere_empty _, SortedMap.everywhere_empty _,
    SortedMap.everywhere_empty _, SortedMap.everywhere_empty _, SortedMap.everywhere_empty _⟩

section Steps

variable {rt : Runtime} {env : Env} {world world' : World}

/-- Minting and burning keep the records linked, if the token program keeps the
    settings of the mint. They write the two counters only, and of these no
    field that is a link. -/
theorem Recounted.linked {ctx : IssuerAccounts} {r : IssuerRecords} {stats : IssuerStats}
    {supply : GlobalSupplyStats} (h : Recounted world ctx world' r stats supply)
    (hp : Placed rt world) (hl : Linked rt world)
    (hsettings : ∀ mint, world'.tokens.settings mint = world.tokens.settings mint) :
    Linked rt world' := by
  have hstats : stats.Linked rt := by
    rcases hl.stats _ _ h.statsFound with ⟨hprotocol, hconfig, hbump⟩
    rw [← h.statsKept.2] at hconfig hbump
    exact ⟨h.statsProtocol.trans hprotocol, h.statsKept.1.trans hconfig, h.statsBump.trans hbump⟩
  have hsupply : supply.Linked rt := by
    rcases hl.supplies _ _ h.supplyFound with ⟨hprotocol, hbump⟩
    exact ⟨h.supplyKept.1.trans hprotocol, h.supplyBump.trans hbump⟩
  have hkey : ctx.supplyStats = rt.address Seeds.supplyStats := hp.supplies _ _ h.supplyFound
  rw [h.after]
  refine { hl with
    mints := hl.mints.imp (fun _ config hset => ⟨?_, ?_⟩)
    supplies := hl.supplies.insert hsupply
    stats := hl.stats.insert hstats }
  -- The settings of the mint are those of before, by the hypothesis on the token program.
  · rw [hsettings]
    exact hset.settings
  -- The record of the mint still finds its supply, which now has other counts.
  · rcases hset.supply with ⟨old, hold, hmint⟩
    rw [← hkey, h.supplyFound, Option.some.injEq] at hold
    refine ⟨supply, ?_, ?_⟩
    · simp only [← hkey, SortedMap.get?_insert_self]
    · rw [h.supplyKept.2, hold]
      exact hmint

/-- The protocol an admin has signed for is at its address. -/
theorem AdminSigned.key {admin key : Pubkey} {protocol : ProtocolConfig}
    (h : AdminSigned rt env world admin key protocol) (hp : Placed rt world) :
    key = rt.address Seeds.protocol :=
  hp.protocols _ _ h.found

/-- An instruction keeps the records linked. Records are written where they did
    not exist or rewritten with their links kept. The case by itself is the
    creation of a mint, where all records of a mint there could be must be the
    new one. -/
theorem process_linked {instruction : Instruction}
    (h : process rt env world instruction = .ok world') (hp : Placed rt world)
    (hl : Linked rt world) : Linked rt world' := by
  cases instruction with
  | initializeProtocol ctx globalSupplyCap =>
      rcases initializeProtocolHandler_eq_ok.mp h with ⟨-, -, -, -, rfl⟩
      exact { hl with
        protocols := hl.protocols.insert ⟨rfl, rfl⟩
        mints := hl.mints.imp (fun _ config hset => ⟨hset.settings, hset.supply⟩) }
  | createStablecoinMint ctx decimals =>
      rcases createStablecoinMintHandler_eq_ok h with ⟨protocol, hm⟩
      have hprotocol : protocol.Linked rt := hl.protocols _ _ hm.admin.found
      have hsettings := TokenLedger.settings_createMint hm.tokens ctx.mint
      rw [if_pos rfl] at hsettings
      have hkey := hm.admin.key hp
      -- No mint was recorded before, the record being at the address of its seeds.
      have hnone : ∀ key config, key ≠ ctx.mintConfig →
          world.mintConfigs.get? key = some config → False := by
        intro key config hne hget
        exact hne ((hp.mintConfigs _ _ hget).trans hm.mintConfigAddress.symm)
      rw [hm.after]
      exact { hl with
        protocols := hl.protocols.insert ⟨hprotocol.1, hprotocol.2⟩
        mintConfigs := hl.mintConfigs.insert
          ⟨hkey, hm.authorityAddress, hm.supplyStatsAddress, rfl, rfl⟩
        mints := SortedMap.everywhere_insert
          ⟨hsettings, _, by rw [hm.supplyStatsAddress]; exact SortedMap.get?_insert_self _ _ _, rfl⟩
          (fun key config hne hget => (hnone key config hne hget).elim)
        supplies := hl.supplies.insert ⟨hkey, rfl⟩ }
  | registerIssuer ctx mintLimit =>
      have hr := registerIssuerHandler_eq_ok h
      rcases hr.admin with ⟨protocol, hadmin⟩
      have hkey := hadmin.key hp
      rw [hr.after]
      exact { hl with
        mints := hl.mints.imp (fun _ config hset => ⟨hset.settings, hset.supply⟩)
        configs := hl.configs.insert ⟨hkey, hr.statsAddress, rfl⟩
        stats := hl.stats.insert ⟨hkey, hr.configAddress, rfl⟩ }
  | setIssuerPaused ctx paused =>
      rcases setIssuerPausedHandler_eq_ok h with ⟨config, hs⟩
      have hconfig := hl.configs _ _ hs.found
      rw [hs.after]
      exact { hl with
        mints := hl.mints.imp (fun _ config hset => ⟨hset.settings, hset.supply⟩)
        configs := hl.configs.insert ⟨hconfig.protocolConfig, hconfig.stats, hconfig.bump⟩ }
  -- Two issuers are written: the new one, linked to its new counters, and the old one,
  -- which keeps the links it had.
  | rotateIssuerAuthority ctx =>
      rcases rotateIssuerAuthorityHandler_eq_ok h with ⟨config, stats, hr⟩
      rcases hr.admin with ⟨protocol, hadmin⟩
      have hkey := hadmin.key hp
      have hconfig := hl.configs _ _ hr.configFound
      rw [hr.after]
      exact { hl with
        mints := hl.mints.imp (fun _ config hset => ⟨hset.settings, hset.supply⟩)
        configs := (hl.configs.insert ⟨hkey, hr.newStatsAddress, rfl⟩).insert
          ⟨hconfig.protocolConfig, hconfig.stats, hconfig.bump⟩
        stats := hl.stats.insert ⟨hkey, hr.newConfigAddress, rfl⟩ }
  | mintToUser ctx amount =>
      rcases mintToUserHandler_eq_ok.mp h with ⟨r, stats, supply, hm⟩
      rcases hm.tokens with ⟨created, hcreated, hminted⟩
      refine hm.recounted.linked hp hl (fun mint => ?_)
      rw [TokenLedger.settings_mintTo hminted, TokenLedger.settings_createAccount hcreated]
  | burnFromUser ctx amount =>
      rcases burnFromUserHandler_eq_ok.mp h with ⟨r, stats, supply, hb⟩
      exact hb.recounted.linked hp hl (TokenLedger.settings_burn hb.tokens)
  | holder instruction =>
      rcases process_holder h with ⟨-, happly, hafter⟩
      have hsettings := TokenInstruction.apply_settings happly
      rw [hafter]
      refine { hl with mints := hl.mints.imp (fun _ config hset => ⟨?_, hset.supply⟩) }
      rw [hsettings]
      exact hset.settings

end Steps

/-- Every run keeps the records linked. The induction carries along that records
    are at the addresses of their seeds, because that is what says which record
    an instruction has written. -/
theorem run_linked (rt : Runtime) (inputs : List Input) :
    Linked rt (Run.after (step rt) World.empty inputs) := by
  suffices hinv : Placed rt (Run.after (step rt) World.empty inputs) ∧
      Linked rt (Run.after (step rt) World.empty inputs) from hinv.2
  refine Run.invariant (step rt) (P := fun _ world => Placed rt world ∧ Linked rt world)
    ⟨placed_empty rt, linked_empty rt⟩ ?_ inputs
  rintro _ world input ⟨hp, hl⟩
  rcases transact_cases (process rt) .runtime world input with ⟨e, he⟩ | ⟨world', hok, hstep⟩
  · rw [step, he]
    exact ⟨hp, hl⟩
  · rw [step, hstep]
    exact ⟨process_placed hok hp, process_linked hok hp hl⟩

/-! ### The accounts at their addresses -/

/-- The accounts of an issuer, at their addresses. A client finds these by
    `find_program_address` and passes no others. -/
def canonicalAccounts (rt : Runtime) (authority mint : Pubkey) : IssuerAccounts where
  issuerAuthority := authority
  protocolConfig := rt.address Seeds.protocol
  mintConfig := rt.address Seeds.stablecoinMint
  supplyStats := rt.address Seeds.supplyStats
  issuerConfig := rt.address (Seeds.issuer authority)
  issuerStats := rt.address (Seeds.issuerStats authority)
  mintAuthority := rt.address Seeds.mintAuthority
  mint

/-- Minting to a new account of a user. -/
def canonicalMint (rt : Runtime) (authority mint user key : Pubkey) : MintToUser :=
  ⟨canonicalAccounts rt authority mint, user, key⟩

/-- Burning from an account. -/
def canonicalBurn (rt : Runtime) (authority mint key : Pubkey) : BurnFromUser :=
  ⟨canonicalAccounts rt authority mint, key⟩

/-- The seeds of these accounts. -/
def canonicalSeeds (authority : Pubkey) : List Seeds :=
  [.protocol, .stablecoinMint, .supplyStats, .issuer authority, .issuerStats authority,
    .mintAuthority]

/-- An issuer with its records, and the mint it issues. All five records are
    there, at the addresses of their seeds, and the issuer and its counters are
    those of this authority. -/
structure InPlace (rt : Runtime) (world : World) (authority : Pubkey) (r : IssuerRecords) :
    Prop where
  protocol : world.protocolConfigs.get? (rt.address Seeds.protocol) = some r.protocol
  mintConfig : world.mintConfigs.get? (rt.address Seeds.stablecoinMint) = some r.mintConfig
  supply : world.supplyStats.get? (rt.address Seeds.supplyStats) = some r.supply
  config : world.issuerConfigs.get? (rt.address (Seeds.issuer authority)) = some r.config
  configAuthority : r.config.authority = authority
  stats : world.issuerStats.get? (rt.address (Seeds.issuerStats authority)) = some r.stats
  statsAuthority : r.stats.authority = authority

/-- The accounts at their addresses are accepted of whoever signs for them.
    Every check that loading the accounts makes is answered by a link, by the
    record that is in place, or by `Canonical`, which says that the bumps found
    for these seeds give the addresses back. -/
theorem canonical_loaded {rt : Runtime} {env : Env} {world : World} {authority : Pubkey}
    (hcanonical : rt.Canonical (canonicalSeeds authority)) (hl : Linked rt world)
    {r : IssuerRecords} (hr : InPlace rt world authority r) (hsigner : authority ∈ env.signers) :
    (canonicalAccounts rt authority r.mintConfig.mint).Loaded rt env world r := by
  have hcreate : ∀ s ∈ canonicalSeeds authority, ∀ bump, bump = rt.bump s →
      rt.createProgramAddress (Seeds.bytes s ++ [[bump]]) = some (rt.address s) := by
    rintro s hs bump rfl
    exact hcanonical s hs
  have hprotocol := hl.protocols _ _ hr.protocol
  have hmintConfig := hl.mintConfigs _ _ hr.mintConfig
  have hsupply := hl.supplies _ _ hr.supply
  have hconfig := hl.configs _ _ hr.config
  have hstats := hl.stats _ _ hr.stats
  -- The supply names the mint of the record, because the record of the mint is set up
  -- with it.
  have hmint : r.supply.mint = r.mintConfig.mint := by
    rcases (hl.mints _ _ hr.mintConfig).supply with ⟨supply, hfound, hmint⟩
    rw [hr.supply, Option.some.injEq] at hfound
    rw [hfound]
    exact hmint
  rcases hconfig with ⟨hcp, hcs, hcb⟩
  rcases hstats with ⟨htp, htc, htb⟩
  rw [hr.configAuthority] at hcs hcb
  rw [hr.statsAuthority] at htc htb
  exact {
    signer := hsigner
    protocol := hr.protocol
    protocolSeeds := hcreate .protocol (by simp [canonicalSeeds]) _ hprotocol.2
    mintConfig := hr.mintConfig
    mintConfigSeeds := hcreate .stablecoinMint (by simp [canonicalSeeds]) _ hmintConfig.bump
    mintConfigFields := ⟨hmintConfig.protocolConfig, rfl, hmintConfig.mintAuthority,
      hmintConfig.supplyStats⟩
    supply := hr.supply
    supplySeeds := hcreate .supplyStats (by simp [canonicalSeeds]) _ hsupply.bump
    supplyFields := ⟨hsupply.protocolConfig, hmint⟩
    config := hr.config
    configSeeds := hcreate (.issuer authority) (by simp [canonicalSeeds]) _ hcb
    configFields := ⟨hcp, hr.configAuthority, hcs⟩
    stats := hr.stats
    statsSeeds := hcreate (.issuerStats authority) (by simp [canonicalSeeds]) _ htb
    statsFields := ⟨htp, htc, hr.statsAuthority⟩
    authoritySeeds := hcreate .mintAuthority (by simp [canonicalSeeds]) _
      hmintConfig.mintAuthorityBump }

end Issuer

end Stablecoin

end SolanaLab
