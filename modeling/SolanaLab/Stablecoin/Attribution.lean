import SolanaLab.Stablecoin.Supply

/-!
# Attribution of the Supply

Every minted token is counted for the issuer that minted it, so the counts of
the issuers should add up to the supply, and an issuer should be able to burn
what it has minted and no more.

Both hold until an issuer with something outstanding is moved to another
authority. Moving copies the counts and leaves the old ones in place, so from
then on the issuers have more outstanding than there is, and what is left over
can be burned twice. `counted_once_iff` is exact about it: the counts add up
and belong to whoever minted throughout a run precisely when no move copies
anything.

## Main definitions

* `World.currentSupply`, `World.outstanding`: The two counts of the supply.
* `Instruction.copied`: What an instruction counts a second time.
* `Counting`: What an instruction can do to the counters.
* `mintedBy`, `burnedBy`: What the log says an authority minted and burned.
* `CountedOnce`: Supply is attributed once, to whoever minted it.

## Theorems

* `process_counting`: What an instruction does to the counters.
* `process_outstanding`: What an instruction does to the two counts.
* `process_attributed`: What an instruction does to the count of an issuer.
* `counted_once_iff`: When supply is attributed once.
-/

namespace SolanaLab

namespace Stablecoin

namespace Issuer

open Checked

/-- The supply that is recorded for all, none before there is a mint. There is
    one mint, so the record is the one at the address of its seeds. -/
def World.currentSupply (rt : Runtime) (world : World) : Nat :=
  (world.supplyStats.get? (rt.address Seeds.supplyStats)).elim 0
    (fun supply => supply.currentSupply.val)

/-- What the issuers have outstanding together. -/
def World.outstanding (world : World) : Nat :=
  world.issuerStats.sumBy (fun _ stats => stats.currentOutstanding.val)

/-- What an instruction would count a second time: when an issuer is moved to
    another authority, what the counters of the old authority have outstanding. -/
def Instruction.copied (world : World) : Instruction → Nat
  | .rotateIssuerAuthority ctx =>
    (world.issuerStats.get? ctx.currentIssuerStats).elim 0
      (fun stats => stats.currentOutstanding.val)
  | _ => 0

/-- What an instruction mints by an authority. -/
def Instruction.minted (authority : Pubkey) : Instruction → Nat
  | .mintToUser ctx amount => if ctx.issuerAuthority = authority then amount.val else 0
  | _ => 0

/-- What an instruction burns by an authority. -/
def Instruction.burned (authority : Pubkey) : Instruction → Nat
  | .burnFromUser ctx amount => if ctx.issuerAuthority = authority then amount.val else 0
  | _ => 0

/-- What an entry of the log has minted by an authority. -/
def mintedBy (authority : Pubkey) : Input × Except Error Unit → Nat
  | (input, .ok _) => input.2.minted authority
  | (_, .error _) => 0

/-- What an entry of the log has burned by an authority. -/
def burnedBy (authority : Pubkey) : Input × Except Error Unit → Nat
  | (input, .ok _) => input.2.burned authority
  | (_, .error _) => 0

/-! ### The two counts -/

section Steps

variable {rt : Runtime} {env : Env} {world world' : World}

/-- Writing the record of the supply is writing the count for all. -/
theorem currentSupply_insert (hp : Placed rt world) {key : Pubkey} {old : GlobalSupplyStats}
    (h : world.supplyStats.get? key = some old) (supply : GlobalSupplyStats) :
    world.currentSupply rt = old.currentSupply.val ∧
      World.currentSupply rt { world with supplyStats := world.supplyStats.insert key supply }
        = supply.currentSupply.val := by
  have hkey : key = rt.address Seeds.supplyStats := hp.supplies _ _ h
  rw [hkey] at h
  rw [World.currentSupply, World.currentSupply, hkey, h, SortedMap.get?_insert_self]
  exact ⟨rfl, rfl⟩

/-- Minting and burning change the sum over all issuers by the change of the one
    issuer they count for, and the recorded supply is the one they have loaded
    and written. -/
theorem Recounted.outstanding {ctx : IssuerAccounts} {r : IssuerRecords} {stats : IssuerStats}
    {supply : GlobalSupplyStats} (h : Recounted world ctx world' r stats supply)
    (hp : Placed rt world) :
    world'.outstanding + r.stats.currentOutstanding.val
        = world.outstanding + stats.currentOutstanding.val ∧
      world.currentSupply rt = r.supply.currentSupply.val ∧
      world'.currentSupply rt = supply.currentSupply.val := by
  have hsum := SortedMap.sumBy_insert_of_some (fun _ (s : IssuerStats) => s.currentOutstanding.val)
    world.issuerStats stats h.statsFound
  have hsupply := currentSupply_insert hp h.supplyFound supply
  rw [h.after]
  exact ⟨hsum, hsupply⟩

/-- What an instruction can do to the counters: leave them alone, write those of
    an issuer that had none, or count what an issuer mints or burns. The two
    counts of this module are derived from this alone, so the eight instructions
    are gone through once. -/
inductive Counting (rt : Runtime) (world : World) (instruction : Instruction) (world' : World) :
    Prop
  | kept (stats : world'.issuerStats = world.issuerStats)
      (supply : world'.currentSupply rt = world.currentSupply rt)
      (copied : instruction.copied world = 0)
      (moved : ∀ a, instruction.minted a = 0 ∧ instruction.burned a = 0)
  | opened (key : Pubkey) (stats : IssuerStats) (free : world.issuerStats.get? key = none)
      (address : key = rt.address (Seeds.issuerStats stats.authority))
      (after : world'.issuerStats = world.issuerStats.insert key stats)
      (supply : world'.currentSupply rt = world.currentSupply rt)
      (copied : instruction.copied world = stats.currentOutstanding.val)
      (moved : ∀ a, instruction.minted a = 0 ∧ instruction.burned a = 0)
  | counted (ctx : IssuerAccounts) (r : IssuerRecords) (stats : IssuerStats)
      (supply : GlobalSupplyStats) (recounted : Recounted world ctx world' r stats supply)
      (copied : instruction.copied world = 0)
      (signer : stats.currentOutstanding.val + instruction.burned ctx.issuerAuthority
        = r.stats.currentOutstanding.val + instruction.minted ctx.issuerAuthority)
      (together : supply.currentSupply.val + r.stats.currentOutstanding.val
        = r.supply.currentSupply.val + stats.currentOutstanding.val)
      (others : ∀ a, ctx.issuerAuthority ≠ a →
        instruction.minted a = 0 ∧ instruction.burned a = 0)

/-- A mint counts for the authority that has signed it. -/
theorem Minted.counting {ctx : MintToUser} {amount : Word 64} {r : IssuerRecords}
    {stats : IssuerStats} {supply : GlobalSupplyStats}
    (h : Minted rt env world ctx amount world' r stats supply) :
    Counting rt world (.mintToUser ctx amount) world' := by
  have hstats := h.outstanding
  have hsupply := h.currentSupply
  refine .counted ctx.toIssuerAccounts r stats supply h.recounted rfl ?_ (by omega)
    (fun a hne => ⟨if_neg hne, rfl⟩)
  simp only [Instruction.minted, if_true]
  exact hstats

/-- A burn counts for the authority that has signed it, whoever has held the
    tokens. -/
theorem Burned.counting {ctx : BurnFromUser} {amount : Word 64} {r : IssuerRecords}
    {stats : IssuerStats} {supply : GlobalSupplyStats}
    (h : Burned rt env world ctx amount world' r stats supply) :
    Counting rt world (.burnFromUser ctx amount) world' := by
  have hstats := h.outstanding
  have hsupply := h.currentSupply
  refine .counted ctx.toIssuerAccounts r stats supply h.recounted rfl ?_ (by omega)
    (fun a hne => ⟨rfl, if_neg hne⟩)
  simp only [Instruction.burned, if_true]
  simp only [Instruction.minted]
  omega

/-- What an instruction does to the counters. -/
theorem process_counting {instruction : Instruction}
    (h : process rt env world instruction = .ok world') :
    Counting rt world instruction world' := by
  cases instruction with
  | initializeProtocol ctx globalSupplyCap =>
      rcases initializeProtocolHandler_eq_ok.mp h with ⟨-, -, -, -, rfl⟩
      exact .kept rfl rfl rfl (fun _ => ⟨rfl, rfl⟩)
  | createStablecoinMint ctx decimals =>
      rcases createStablecoinMintHandler_eq_ok h with ⟨protocol, hm⟩
      -- The record of the supply is new, and counts nothing as no record does.
      have hnone := (World.occupied_eq_false.mp hm.supplyStatsNew).2.2.1
      rw [hm.supplyStatsAddress] at hnone
      have hsupply : world'.currentSupply rt = world.currentSupply rt := by
        rw [hm.after, World.currentSupply, World.currentSupply, hm.supplyStatsAddress, hnone]
        simp only [SortedMap.get?_insert_self]
        rfl
      exact .kept (by rw [hm.after]) hsupply rfl (fun _ => ⟨rfl, rfl⟩)
  | registerIssuer ctx mintLimit =>
      have hr := registerIssuerHandler_eq_ok h
      rw [hr.after]
      exact .opened _ _ (World.issuerStats_free hr.statsNew) hr.statsAddress rfl rfl rfl
        (fun _ => ⟨rfl, rfl⟩)
  | setIssuerPaused ctx paused =>
      rcases setIssuerPausedHandler_eq_ok h with ⟨config, hs⟩
      rw [hs.after]
      exact .kept rfl rfl rfl (fun _ => ⟨rfl, rfl⟩)
  -- The new statistics start with what the old ones have, which is what the log counts as
  -- copied.
  | rotateIssuerAuthority ctx =>
      rcases rotateIssuerAuthorityHandler_eq_ok h with ⟨config, stats, hr⟩
      have hcopied : Instruction.copied world (.rotateIssuerAuthority ctx)
          = stats.currentOutstanding.val := by
        rw [Instruction.copied, hr.statsFound]
        rfl
      rw [hr.after]
      exact .opened _ _ (World.issuerStats_free hr.newStatsNew) hr.newStatsAddress rfl rfl hcopied
        (fun _ => ⟨rfl, rfl⟩)
  | mintToUser ctx amount =>
      rcases mintToUserHandler_eq_ok.mp h with ⟨r, stats, supply, hm⟩
      exact hm.counting
  | burnFromUser ctx amount =>
      rcases burnFromUserHandler_eq_ok.mp h with ⟨r, stats, supply, hb⟩
      exact hb.counting
  | holder instruction =>
      rw [(process_holder h).2.2]
      exact .kept rfl rfl rfl (fun _ => ⟨rfl, rfl⟩)

/-- What an instruction does to the two counts: they move together, but for what
    it copies. Stated as one sum, so that a run can add it up without
    subtraction. -/
theorem process_outstanding {instruction : Instruction}
    (h : process rt env world instruction = .ok world') (hp : Placed rt world) :
    world'.outstanding + world.currentSupply rt
      = world.outstanding + world'.currentSupply rt + instruction.copied world := by
  cases process_counting h with
  | kept stats supply copied _ =>
      rw [World.outstanding, stats, supply, copied]
      rfl
  | opened key stats free _ after supply copied _ =>
      have hsum := SortedMap.sumBy_insert_of_none
        (fun _ (s : IssuerStats) => s.currentOutstanding.val) world.issuerStats stats free
      rw [World.outstanding, after, hsum, supply, copied]
      exact Nat.add_right_comm _ _ _
  | counted ctx r stats supply recounted copied _ together _ =>
      rcases recounted.outstanding hp with ⟨hsum, hbefore, hafter⟩
      omega

end Steps

/-! ### The count of an issuer -/

/-- What an issuer has outstanding is what its authority has minted and not
    burned. Written as a sum, since natural subtraction would hide a burn
    without a mint. -/
def Attributed (minted burned : Pubkey → Nat) (world : World) : Prop :=
  world.issuerStats.Everywhere (fun _ stats =>
    stats.currentOutstanding.val + burned stats.authority = minted stats.authority)

/-- An authority without counters has not minted or burned anything. This is
    what lets a new issuer start at nothing, and it holds in every run, also
    when issuers are moved. -/
def Unregistered (rt : Runtime) (minted burned : Pubkey → Nat) (world : World) : Prop :=
  ∀ authority, world.issuerStats.get? (rt.address (Seeds.issuerStats authority)) = none →
    minted authority = 0 ∧ burned authority = 0

section Steps

variable {rt : Runtime} {env : Env} {world world' : World} {minted burned : Pubkey → Nat}

/-- Counters are never removed. -/
theorem process_issuerStats_none {instruction : Instruction}
    (h : process rt env world instruction = .ok world') {key : Pubkey}
    (hnone : world'.issuerStats.get? key = none) : world.issuerStats.get? key = none := by
  cases process_counting h with
  | kept stats _ _ _ =>
      rw [stats] at hnone
      exact hnone
  | opened _ _ _ _ after _ _ _ =>
      rw [after] at hnone
      exact ((SortedMap.get?_insert_eq_none _).mp hnone).2
  | counted _ _ _ _ recounted _ _ _ _ =>
      rw [recounted.after] at hnone
      exact ((SortedMap.get?_insert_eq_none _).mp hnone).2

/-- Whoever mints or burns has counters at the address of its key. -/
theorem Recounted.found {ctx : IssuerAccounts} {r : IssuerRecords} {stats : IssuerStats}
    {supply : GlobalSupplyStats} (h : Recounted world ctx world' r stats supply)
    (hp : Placed rt world) :
    world.issuerStats.get? (rt.address (Seeds.issuerStats ctx.issuerAuthority)) = some r.stats := by
  have hkey : ctx.issuerStats = rt.address (Seeds.issuerStats r.stats.authority) :=
    hp.stats _ _ h.statsFound
  rw [← h.statsAuthority, h.statsKept.2, ← hkey]
  exact h.statsFound

/-- An authority without counters mints and burns nothing. -/
theorem process_unregistered {instruction : Instruction}
    (h : process rt env world instruction = .ok world') (hp : Placed rt world)
    (hu : Unregistered rt minted burned world) :
    Unregistered rt (fun a => minted a + instruction.minted a)
      (fun a => burned a + instruction.burned a) world' := by
  intro authority hnone'
  have hnone := process_issuerStats_none h hnone'
  rcases hu authority hnone with ⟨hminted, hburned⟩
  have hnothing : instruction.minted authority = 0 ∧ instruction.burned authority = 0 := by
    cases process_counting h with
    | kept _ _ _ moved => exact moved authority
    | opened _ _ _ _ _ _ _ moved => exact moved authority
    | counted ctx r stats supply recounted _ _ _ others =>
        -- Whoever is counted for has counters.
        refine others authority (fun heq => ?_)
        exact SortedMap.ne_of_get? (recounted.found hp) hnone (by rw [heq])
  simp only
  omega

/-- Counters at another address than those written are of another
    authority. -/
theorem Recounted.authority_ne {ctx : IssuerAccounts} {r : IssuerRecords} {stats : IssuerStats}
    {supply : GlobalSupplyStats} (h : Recounted world ctx world' r stats supply)
    (hp : Placed rt world) {key : Pubkey} {s : IssuerStats} (hne : key ≠ ctx.issuerStats)
    (hget : world.issuerStats.get? key = some s) : ctx.issuerAuthority ≠ s.authority := by
  intro heq
  have hkey : key = rt.address (Seeds.issuerStats s.authority) := hp.stats _ _ hget
  have hctx : ctx.issuerStats = rt.address (Seeds.issuerStats r.stats.authority) :=
    hp.stats _ _ h.statsFound
  rw [← h.statsKept.2, h.statsAuthority, heq, ← hkey] at hctx
  exact hne hctx.symm

/-- An instruction that copies nothing keeps what is outstanding with who
    minted it. -/
theorem process_attributed {instruction : Instruction}
    (h : process rt env world instruction = .ok world') (hp : Placed rt world)
    (hu : Unregistered rt minted burned world) (ha : Attributed minted burned world)
    (hcopied : instruction.copied world = 0) :
    Attributed (fun a => minted a + instruction.minted a)
      (fun a => burned a + instruction.burned a) world' := by
  cases process_counting h with
  | kept stats _ _ moved =>
      rw [Attributed, stats]
      simp only [(moved _).1, (moved _).2, Nat.add_zero]
      exact ha
  | opened key stats free address after _ copied moved =>
      -- The authority of new counters has not minted, and nothing is copied.
      rw [address] at free
      rw [hcopied] at copied
      rw [Attributed, after]
      simp only [(moved _).1, (moved _).2, Nat.add_zero]
      refine SortedMap.Everywhere.insert ha ?_
      rw [(hu _ free).1, (hu _ free).2, ← copied]
  -- The counters of the signer move by the amount, and all others are of other
  -- authorities.
  | counted ctx r stats supply recounted _ signer _ others =>
      have hbefore : r.stats.currentOutstanding.val + burned r.stats.authority
          = minted r.stats.authority := ha _ _ recounted.statsFound
      rw [← recounted.statsKept.2, recounted.statsAuthority] at hbefore
      rw [recounted.after]
      refine SortedMap.everywhere_insert ?_ (fun key s hne hget => ?_)
      · simp only [recounted.statsAuthority]
        omega
      · have hsame := others _ (recounted.authority_ne hp hne hget)
        simp only [hsame.1, hsame.2, Nat.add_zero]
        exact ha key s hget

end Steps

/-! ### Runs -/

/-- Supply is attributed once: what the issuers have outstanding adds up to the
    supply, and each has outstanding what it has minted and not burned. -/
def CountedOnce (rt : Runtime) (past : Log) (world : World) : Prop :=
  world.outstanding = world.currentSupply rt ∧
    Attributed (fun a => Run.total (mintedBy a) past) (fun a => Run.total (burnedBy a) past) world

/-- A transaction moves no issuer with something outstanding, unless it
    fails. -/
def CopiesNothing (rt : Runtime) (world : World) (input : Input) : Prop :=
  (step rt world input).1 = .ok () → input.2.copied world = 0

/-- Supply is attributed once throughout a run exactly when no issuer is moved
    that has something outstanding. One direction is the sum: a move that copies
    something makes the issuers have more outstanding than the supply. The other
    is the invariant of `process_attributed`. -/
theorem counted_once_iff (rt : Runtime) (inputs : List Input) :
    (∀ pre, pre <+: inputs →
      CountedOnce rt (Run.log (step rt) World.empty pre) (Run.after (step rt) World.empty pre)) ↔
    Run.Along (step rt) (CopiesNothing rt) World.empty inputs := by
  -- Whatever is moved, records stay in place and strangers have no counts.
  refine Run.always_iff_along (step rt)
    (I := fun past world => Placed rt world ∧
      Unregistered rt (fun a => Run.total (mintedBy a) past)
        (fun a => Run.total (burnedBy a) past) world)
    ⟨placed_empty rt, fun _ _ => ⟨rfl, rfl⟩⟩ ?_
    ⟨rfl, SortedMap.everywhere_empty _⟩ ?_ inputs
  · rintro past world input ⟨hp, hu⟩
    rcases transact_cases (process rt) .runtime world input with ⟨e, he⟩ | ⟨world', hok, hstep⟩
    · simp only [step, he, Run.total_snoc, mintedBy, burnedBy, Nat.add_zero]
      exact ⟨hp, hu⟩
    · simp only [step, hstep, Run.total_snoc, mintedBy, burnedBy]
      exact ⟨process_placed hok hp, process_unregistered hok hp hu⟩
  -- From a state where supply is attributed once, a step keeps it so exactly when it
  -- copies nothing.
  · rintro past world input ⟨hp, hu⟩ ⟨hsum, ha⟩
    rcases transact_cases (process rt) .runtime world input with ⟨e, he⟩ | ⟨world', hok, hstep⟩
    · simp only [step, he, Run.total_snoc, mintedBy, burnedBy, Nat.add_zero, CountedOnce,
        CopiesNothing, reduceCtorEq, false_implies, iff_true]
      exact ⟨hsum, ha⟩
    · have hcounts := process_outstanding hok hp
      simp only [step, hstep, Run.total_snoc, mintedBy, burnedBy, CountedOnce, CopiesNothing,
        true_implies]
      constructor
      -- Both sums hold before and after, so the amount copied between them is nothing.
      · rintro ⟨hsum', -⟩
        omega
      · intro hcopied
        exact ⟨by omega, process_attributed hok hp hu ha hcopied⟩

/-- An issuer with 400 outstanding is moved: 800 are outstanding of a supply of
    400. -/
theorem counted_twice :
    let inputs := [sampleInitialize, sampleCreateMint, sampleRegister, sampleMintTo 400,
      sampleRotate]
    let world := Run.after (step sampleRuntime) World.empty inputs
    (∀ entry ∈ Run.log (step sampleRuntime) World.empty inputs, entry.2 = .ok ()) ∧
      world.currentSupply sampleRuntime = 400 ∧ world.outstanding = 800 := by
  decide +kernel

end Issuer

end Stablecoin

end SolanaLab
