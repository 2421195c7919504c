import SolanaLab.Stablecoin.HookTransfers

/-!
# The Allowance of a Day

A profile counts what its token account has transferred today, so that the rest
of the limit of the day is left to its owner. This module is about when the
count is right.

The hook does not ask who calls it. Whoever sends it an execution directly, with
the accounts of somebody else's transfer, has it counted without anything being
transferred. So the count is what was really transferred exactly as long as no
such execution with a positive amount passes the checks of the hook. One with
amount zero does no harm: at most it starts the day over, as the next transfer
would.

That the count is right cannot be seen from one day alone. `Tallied` says of a
profile that its count is right both for the day it is of and for today, and of
a token account without a profile that it has never transferred anything.

The clock is part of the inputs. It may stand still between transactions but
not go back, as the clock of the chain does not; otherwise a past day could be
entered again with a count that was started over.

## Main definitions

* `Exact`: Every profile counts what was really transferred.
* `Passes`: An execution passes the checks of the hook.
* `Harmless`: An execution sent directly that passes is of nothing.
* `Accountable`: What a run keeps of profiles and transfers.

## Theorems

* `process_accountable`: A harmless instruction keeps every count right.
* `process_exposes`: A count that stays right was not touched by a direct
  execution.
* `run_exact_iff`: The counts are right throughout exactly the harmless runs.
-/

namespace SolanaLab

namespace Stablecoin

namespace Compliance

open Checked

/-- Every profile counts what its token account has really transferred on the
    day it is of. The right side is read from the log of the token program's
    transfers, not from the hook. -/
def Exact (past : ChainLog) (chain : Chain) : Prop :=
  chain.hook.profiles.Everywhere (fun _ profile => profile.transferredToday.val
    = Run.total (transferred profile.mint profile.user profile.currentDay) past)

instance (past : ChainLog) (chain : Chain) : Decidable (Exact past chain) :=
  inferInstanceAs (Decidable (SortedMap.Everywhere _ _))

/-- An execution passes the checks of the hook. Stated through the checks
    themselves and not through the result of the instruction. -/
def Passes (rt : Runtime) (env : Env) (world : World) (accounts : List AccountInfo)
    (amount : Word 64) : Prop :=
  ∃ ctx, HookAccounts.ofList accounts = some ctx ∧ ctx.Derived rt ∧
    ∃ config source destination newDailyAmount,
      Admitted rt env world ⟨ctx.mint.key, ctx.source.key, ctx.destination.key, amount⟩ config
        source destination newDailyAmount

/-- An execution that is sent to the hook directly and passes its checks is of
    nothing. It is a condition on the state before and the input; a run may hold
    any number of executions that are refused. -/
def Harmless (rt : Runtime) (chain : Chain) (input : ChainInput) : Prop :=
  ∀ accounts amount, input.2 = .hook (.fallback accounts (some (.execute amount))) →
    input.1.refused = false → Passes rt input.1 chain.hook accounts amount → amount.val = 0

/-- What asks to execute nothing is harmless. -/
theorem harmless_of_zero {rt : Runtime} {chain : Chain} {input : ChainInput}
    (h : ∀ e ∈ input.2.execution, e.amount.val = 0) : Harmless rt chain input := by
  intro accounts amount hdirect _ hpasses
  rcases hpasses with ⟨ctx, hctx, -⟩
  refine h ⟨ctx.mint.key, ctx.source.key, ctx.destination.key, amount⟩ ?_
  rw [hdirect]
  simp only [Operation.execution, Instruction.execution, executionOf, hctx, Option.map_some,
    Option.mem_def]

/-- The seeds of the profile whose flags an operation sets. -/
def Operation.flags : Operation → Option Seeds
  | .hook (.setUserCompliance ctx _ _ _) => some (.user ctx.mint ctx.user)
  | _ => none

/-- The seeds of the profiles whose flags are set in a run. -/
def profileSeeds (inputs : List ChainInput) : List Seeds :=
  inputs.filterMap (fun input => input.2.flags)

/-! ### What a run keeps -/

/-- The count of a token account is right. If it has a profile, the count is
    right for the day the profile is of and for today. If it has none, nothing
    was ever transferred from it, so that a profile may start at zero. -/
structure Tallied (rt : Runtime) (past : ChainLog) (world : World) (now : Int)
    (mint source : Pubkey) : Prop where
  unprofiled : world.profiles.get? (rt.address (Seeds.user mint source)) = none →
    ∀ d, Run.total (transferred mint source d) past = 0
  ownDay : ∀ profile, world.profiles.get? (rt.address (Seeds.user mint source)) = some profile →
    profile.transferredToday.val = Run.total (transferred mint source profile.currentDay) past
  today : ∀ profile, world.profiles.get? (rt.address (Seeds.user mint source)) = some profile →
    (profile.onDay (day now)).transferredToday.val
      = Run.total (transferred mint source (day now)) past

/-- The count of every token account that has been given flags is right.
    Profiles are at the addresses of their seeds, and nothing was transferred on
    a day still to come. -/
structure Accountable (rt : Runtime) (seeds : List Seeds) (past : ChainLog) (world : World)
    (now : Int) : Prop where
  placed : world.profiles.Everywhere (fun key profile =>
    key = rt.address (Seeds.user profile.mint profile.user) ∧
    Seeds.user profile.mint profile.user ∈ seeds)
  future : ∀ mint source d, day now < d → Run.total (transferred mint source d) past = 0
  tallied : ∀ mint source, Seeds.user mint source ∈ seeds → Tallied rt past world now mint source

/-- There are no profiles and nothing was transferred. -/
theorem accountable_empty (rt : Runtime) (seeds : List Seeds) (now : Int) :
    Accountable rt seeds [] World.empty now := by
  have hnone : ∀ mint source profile,
      World.empty.profiles.get? (rt.address (Seeds.user mint source)) ≠ some profile := by
    intro mint source profile hget
    exact absurd hget (by simp only [World.empty, SortedMap.get?_empty, reduceCtorEq,
      not_false_eq_true])
  exact ⟨SortedMap.everywhere_empty _, fun _ _ _ _ => rfl, fun mint source _ =>
    ⟨fun _ _ => rfl, fun profile hget => absurd hget (hnone mint source profile),
      fun profile hget => absurd hget (hnone mint source profile)⟩⟩

section Steps

variable {rt : Runtime} {env : Env} {seeds : List Seeds} {past : ChainLog}
  {chain chain' : Chain} {world world' : World} {operation : Operation} {now : Int}

/-- A profile that is there is of a token account whose count is right. -/
theorem Accountable.exact (h : Accountable rt seeds past chain.hook now) : Exact past chain := by
  intro key profile hget
  rcases h.placed key profile hget with ⟨hkey, hseeds⟩
  rw [hkey] at hget
  exact (h.tallied _ _ hseeds).ownDay profile hget

/-- Time passes. If a new day comes, nothing was transferred on it yet. -/
theorem Accountable.later (h : Accountable rt seeds past world now) {t : Int} (hle : now ≤ t) :
    Accountable rt seeds past world t := by
  refine ⟨h.placed, fun mint source d hd =>
    h.future mint source d (lt_of_le_of_lt (day_mono hle) hd), fun mint source hs => ?_⟩
  have ht := h.tallied mint source hs
  refine { ht with today := fun profile hget => ?_ }
  -- On the same day nothing changes; a later day has nothing counted.
  rcases eq_or_lt_of_le (day_mono hle) with heq | hlt
  · rw [← heq]
    exact ht.today profile hget
  · have hzero := h.future mint source _ hlt
    rw [hzero]
    by_cases hday : profile.currentDay = day t
    · rw [profile.onDay_self _ hday, ht.ownDay profile hget, hday]
      exact hzero
    · rw [profile.onDay_of_ne _ hday]
      rfl

/-- An entry that transfers nothing leaves all sums as they are. -/
theorem Accountable.snoc (h : Accountable rt seeds past world now)
    {entry : ChainInput × Except ChainError Unit}
    (hzero : ∀ mint source d, transferred mint source d entry = 0)
    (hprofiles : world'.profiles = world.profiles) :
    Accountable rt seeds (past ++ [entry]) world' now := by
  -- The entry transfers nothing, and the profiles are as before.
  have htotal : ∀ mint source d, Run.total (transferred mint source d) (past ++ [entry])
      = Run.total (transferred mint source d) past := by
    intro mint source d
    rw [Run.total_snoc, hzero, Nat.add_zero]
  refine ⟨by rw [hprofiles]; exact h.placed, fun mint source d hd => ?_, fun mint source hs => ?_⟩
  · rw [htotal]
    exact h.future mint source d hd
  · have ht := h.tallied mint source hs
    refine ⟨?_, ?_, ?_⟩
    · rw [hprofiles]
      intro hnone d
      rw [htotal]
      exact ht.unprofiled hnone d
    · rw [hprofiles]
      intro profile hget
      rw [htotal]
      exact ht.ownDay profile hget
    · rw [hprofiles]
      intro profile hget
      rw [htotal]
      exact ht.today profile hget

/-- Setting flags keeps the count, and a new profile is of a token account that
    has never transferred anything. Here the addresses of the profiles must
    differ, or the flags of one account would be written into the profile of
    another. -/
theorem Accountable.flagged (h : Accountable rt seeds past world now)
    (hseparates : rt.Separates seeds) {ctx : SetUserCompliance}
    {allowlisted blocked issuerActive : Bool} {config : ComplianceConfig}
    {profile : UserCompliance}
    (hf : Flagged rt env world ctx allowlisted blocked issuerActive world' config profile)
    (hmem : Seeds.user ctx.mint ctx.user ∈ seeds) : Accountable rt seeds past world' now := by
  rw [← hf.after]
  refine ⟨h.placed.insert ⟨hf.address, hmem⟩, h.future, fun mint source hs => ?_⟩
  -- Each token account in turn: the one whose flags are set, or another.
  have ht := h.tallied mint source hs
  by_cases hkey : rt.address (Seeds.user mint source) = ctx.userCompliance
  · -- The flags are those of this token account.
    have hseeds := Runtime.address_injective hseparates hs hmem (hkey.trans hf.address)
    rw [Seeds.user.injEq] at hseeds
    refine ⟨fun hnone => ?_, fun profile' hget => ?_, fun profile' hget => ?_⟩
    · rw [hkey, SortedMap.get?_insert_self] at hnone
      exact absurd hnone (by simp only [reduceCtorEq, not_false_eq_true])
    · rw [hkey, SortedMap.get?_insert_self, Option.some.injEq] at hget
      rw [← hget]
      rcases hf.found with hfound | ⟨hnone, rfl⟩
      · exact ht.ownDay profile (by rw [hkey]; exact hfound)
      · exact (ht.unprofiled (by rw [hkey]; exact hnone) _).symm
    · rw [hkey, SortedMap.get?_insert_self, Option.some.injEq] at hget
      rw [← hget]
      rcases hf.found with hfound | ⟨hnone, rfl⟩
      · rw [← ht.today profile (by rw [hkey]; exact hfound)]
        unfold UserCompliance.onDay
        split <;> rfl
      · rw [ht.unprofiled (by rw [hkey]; exact hnone) _]
        unfold UserCompliance.onDay
        split <;> rfl
  · refine ⟨fun hnone => ht.unprofiled ?_, fun profile' hget => ht.ownDay profile' ?_,
      fun profile' hget => ht.today profile' ?_⟩
    · rw [SortedMap.get?_insert_of_ne _ _ hkey] at hnone
      exact hnone
    · rw [SortedMap.get?_insert_of_ne _ _ hkey] at hget
      exact hget
    · rw [SortedMap.get?_insert_of_ne _ _ hkey] at hget
      exact hget

/-- The seeds of the profile that an execution finds for its source. -/
theorem Accountable.source_mem (h : Accountable rt seeds past world now) {e : Execution}
    {config : ComplianceConfig} {source destination : UserCompliance} {n : Word 64}
    (ha : Admitted rt env world e config source destination n) :
    Seeds.user e.mint e.source ∈ seeds := by
  have hplaced := (h.placed _ _ ha.sourceFound).2
  rw [ha.sourceValid.mint, ha.sourceValid.user] at hplaced
  exact hplaced

/-- An execution whose amount is what was really transferred is counted right.
    It is used for the transfers of Token-2022 and for direct executions of
    nothing, which both meet this. -/
theorem Accountable.executed (h : Accountable rt seeds past world env.unixTimestamp)
    (hseparates : rt.Separates seeds) {e : Execution} {config : ComplianceConfig}
    {source destination : UserCompliance} {n : Word 64}
    (ha : Admitted rt env world e config source destination n)
    {entry : ChainInput × Except ChainError Unit}
    (hentry : ∀ mint user d, transferred mint user d entry
      = e.amountOn env.unixTimestamp mint user d) :
    Accountable rt seeds (past ++ [entry]) (world.executed rt env e source n)
      env.unixTimestamp := by
  have hmem := h.source_mem ha
  -- Days to come have seen no transfer, as this one is of today.
  refine ⟨h.placed.insert ?_, fun mint user d hd => ?_, fun mint user hs => ?_⟩
  · simp only [UserCompliance.onDay_mint, UserCompliance.onDay_user, ha.sourceValid.mint,
      ha.sourceValid.user, true_and]
    exact hmem
  · rw [Run.total_snoc, h.future mint user d hd, hentry, Execution.amountOn,
      if_neg (fun heq => absurd heq.2.2 (ne_of_lt hd))]
  have ht := h.tallied mint user hs
  by_cases hkey : rt.address (Seeds.user mint user) = rt.address (Seeds.user e.mint e.source)
  · -- The profile of the source is of today from now on.
    have hseeds := Runtime.address_injective hseparates hs hmem hkey
    rw [Seeds.user.injEq] at hseeds
    rcases hseeds with ⟨rfl, rfl⟩
    have hcount : n.val = Run.total (transferred e.mint e.source (day env.unixTimestamp))
        (past ++ [entry]) := by
      rw [Run.total_snoc, hentry, Execution.amountOn, if_pos ⟨rfl, rfl, rfl⟩,
        ← ht.today source ha.sourceFound]
      exact ha.counted
    have hget := SortedMap.get?_insert_self world.profiles (rt.address (Seeds.user e.mint e.source))
      { source.onDay (day env.unixTimestamp) with transferredToday := n }
    refine ⟨fun hnone => ?_, fun profile hprofile => ?_, fun profile hprofile => ?_⟩
    · exact absurd (hget.symm.trans hnone) (by simp only [reduceCtorEq, not_false_eq_true])
    · rw [← Option.some.inj (hget.symm.trans hprofile)]
      simp only [UserCompliance.onDay_currentDay]
      exact hcount
    · have hself := UserCompliance.onDay_self
        { source.onDay (day env.unixTimestamp) with transferredToday := n } (day env.unixTimestamp)
        (source.onDay_currentDay (day env.unixTimestamp))
      rw [← Option.some.inj (hget.symm.trans hprofile), hself]
      exact hcount
  -- Other profiles are as they were, and the transfer does not count for them.
  · have hzero : ∀ d, Run.total (transferred mint user d) (past ++ [entry])
        = Run.total (transferred mint user d) past := by
      intro d
      rw [Run.total_snoc, hentry, Execution.amountOn,
        if_neg (fun heq => hkey (by rw [heq.1, heq.2.1])), Nat.add_zero]
    have hget := SortedMap.get?_insert_of_ne world.profiles
      { source.onDay (day env.unixTimestamp) with transferredToday := n } hkey
    refine ⟨fun hnone d => ?_, fun profile hprofile => ?_, fun profile hprofile => ?_⟩
    · rw [hzero]
      exact ht.unprofiled (hget.symm.trans hnone) d
    · rw [hzero]
      exact ht.ownDay profile (hget.symm.trans hprofile)
    · rw [hzero]
      exact ht.today profile (hget.symm.trans hprofile)

/-- An execution sent directly that succeeds has passed the checks. -/
theorem executeFallback_passes {accounts : List AccountInfo} {data : Option TransferHookInstruction}
    (h : executeFallback rt env world accounts data = .ok world') :
    ∃ amount, data = some (.execute amount) ∧ Passes rt env world accounts amount ∧
      ∃ e config source destination n, e.amount = amount ∧
        Admitted rt env world e config source destination n ∧
        world.executed rt env e source n = world' := by
  match data with
  | some (.execute amount) =>
      rcases executeTransferHook_eq_ok.mp h with
        ⟨ctx, hctx, hderived, config, source, destination, n, ha, hafter⟩
      exact ⟨amount, rfl, ⟨ctx, hctx, hderived, config, source, destination, n, ha⟩, _, config,
        source, destination, n, rfl, ha, hafter⟩
  | some (.initializeExtraAccountMetaList _) | some (.updateExtraAccountMetaList _) | none =>
      exact absurd h (by simp only [executeFallback, reduceCtorEq, not_false_eq_true])

/-- A harmless instruction keeps every count right. Transfers are counted with
    what they transfer, and a direct execution that passes is of nothing. -/
theorem process_accountable (h : chain.process rt env operation = .ok chain')
    (hrefused : env.refused = false) (hharmless : Harmless rt chain (env, operation))
    (hseparates : rt.Separates seeds) (hmem : ∀ s ∈ operation.flags, s ∈ seeds)
    (hacc : Accountable rt seeds past chain.hook env.unixTimestamp) :
    Accountable rt seeds (past ++ [((env, operation), .ok ())]) chain'.hook env.unixTimestamp := by
  cases operation with
  | hook instruction =>
      rcases processHook_eq_ok.mp h with ⟨hook, hprocess, rfl⟩
      cases instruction with
      | initializeComplianceConfig ctx maxTransferAmount dailyTransferLimit =>
          rcases initializeComplianceConfigHandler_eq_ok.mp hprocess with ⟨-, -, -, rfl⟩
          exact hacc.snoc (fun _ _ _ => rfl) rfl
      | initializeExtraAccountMetaList ctx =>
          rcases initializeExtraAccountMetaListHandler_eq_ok hprocess with ⟨config, -, rfl⟩
          exact hacc.snoc (fun _ _ _ => rfl) rfl
      | setUserCompliance ctx allowlisted blocked issuerActive =>
          rcases setUserComplianceHandler_eq_ok hprocess with ⟨config, profile, hf⟩
          exact (hacc.flagged hseparates hf (hmem _ rfl)).snoc (fun _ _ _ => rfl) rfl
      | setTransferLimits ctx maxTransferAmount dailyTransferLimit =>
          rcases setTransferLimitsHandler_eq_ok hprocess with ⟨config, -, rfl⟩
          exact hacc.snoc (fun _ _ _ => rfl) rfl
      | setProtocolPaused ctx paused =>
          rcases setProtocolPausedHandler_eq_ok hprocess with ⟨config, -, rfl⟩
          exact hacc.snoc (fun _ _ _ => rfl) rfl
      | fallback accounts data =>
          rcases executeFallback_passes hprocess with
            ⟨amount, rfl, hpasses, e, config, source, destination, n, heq, ha, rfl⟩
          have hzero : amount.val = 0 := hharmless accounts amount rfl hrefused hpasses
          refine hacc.executed hseparates ha (fun mint user d => ?_)
          -- Nothing was transferred, and nothing is what it was of.
          rw [Execution.amountOn, heq, hzero, ite_self]
          rfl
  | token instruction =>
      rcases processToken_eq_ok h with ⟨hnone, hhook⟩ |
        ⟨e, he, config, source, destination, n, ha, hhook⟩
      · refine hacc.snoc (fun mint source d => ?_) (congrArg World.profiles hhook)
        simp only [transferred, hnone, Option.elim_none]
      -- A transfer with the hook counts the amount it moves.
      · rw [hhook]
        refine hacc.executed hseparates ha (fun mint user d => ?_)
        simp only [transferred, he, Option.elim_some]

/-- If the counts are right after an execution, so is that of its source. -/
theorem Exact.executed {tokens : TokenLedger} {e : Execution} {config : ComplianceConfig}
    {source destination : UserCompliance} {n : Word 64}
    (h : Exact past ⟨world.executed rt env e source n, tokens⟩)
    (ha : Admitted rt env world e config source destination n) :
    n.val = Run.total (transferred e.mint e.source (day env.unixTimestamp)) past := by
  have hcount := h _ _ (SortedMap.get?_insert_self _ _ _)
  simp only [UserCompliance.onDay_mint, UserCompliance.onDay_user, UserCompliance.onDay_currentDay,
    ha.sourceValid.mint, ha.sourceValid.user] at hcount
  exact hcount

/-- A count that is right after an execution sent directly was not raised by it.
    This is the direction of the equivalence that makes the condition necessary:
    the first execution that is not harmless leaves a count that is too high. -/
theorem process_exposes {accounts : List AccountInfo} {amount : Word 64}
    (h : chain.process rt env (.hook (.fallback accounts (some (.execute amount)))) = .ok chain')
    (hacc : Accountable rt seeds past chain.hook env.unixTimestamp)
    (hexact : Exact (past ++ [((env, .hook (.fallback accounts (some (.execute amount)))), .ok ())])
      chain') : amount.val = 0 := by
  rcases processHook_eq_ok.mp h with ⟨hook, hprocess, rfl⟩
  have hfallback : executeFallback rt env chain.hook accounts (some (.execute amount)) = .ok hook :=
    hprocess
  rcases executeFallback_passes hfallback with
    ⟨_, hdata, -, e, config, source, destination, n, rfl, ha, rfl⟩
  rw [Option.some.injEq, TransferHookInstruction.execute.injEq] at hdata
  have hcount := hexact.executed ha
  have htoday := (hacc.tallied _ _ (hacc.source_mem ha)).today source ha.sourceFound
  have hdirect : transferred e.mint e.source (day env.unixTimestamp)
      ((env, Operation.hook (.fallback accounts (some (.execute amount)))), .ok ()) = 0 := rfl
  -- The profile counts the amount that the ledger does not.
  rw [Run.total_snoc, hdirect, ← htoday, ha.counted] at hcount
  rw [hdata]
  omega

end Steps

/-! ### Runs -/

section Runs

variable {rt : Runtime} {seeds : List Seeds} {tokens : TokenLedger} {inputs : List ChainInput}

/-- A transaction that fails transfers nothing. -/
theorem Accountable.failed {past : ChainLog} {world : World} {now : Int}
    (h : Accountable rt seeds past world now) (input : ChainInput) (e : ChainError) :
    Accountable rt seeds (past ++ [(input, .error e)]) world now := h.snoc (fun _ _ _ => rfl) rfl

/-- A harmless run whose clock does not go back keeps every count right, at any
    time that is not before its last input. -/
theorem run_accountable (hseparates : rt.Separates seeds) (hclock : ClockForward inputs)
    (hmem : ∀ input ∈ inputs, ∀ s ∈ input.2.flags, s ∈ seeds)
    (hharmless : Run.Along (Chain.step rt) (Harmless rt) (Chain.start tokens) inputs) {now : Int}
    (hnow : ∀ input ∈ inputs, input.1.unixTimestamp ≤ now) :
    Accountable rt seeds (Run.log (Chain.step rt) (Chain.start tokens) inputs)
      (Run.after (Chain.step rt) (Chain.start tokens) inputs).hook now := by
  induction inputs using List.reverseRecOn generalizing now with
  | nil => exact accountable_empty rt seeds now
  | append_singleton inputs input ih =>
      rw [Run.along_snoc] at hharmless
      have hshort := (List.pairwise_append.mp hclock).1
      have hbefore := ih hshort (fun i hi => hmem i (List.mem_append_left _ hi)) hharmless.1
        (fun i hi => now_of_last hclock i (List.mem_append_left _ hi))
      have hlast : input ∈ inputs ++ [input] := List.mem_append_right _ List.mem_cons_self
      -- The clock does not go back, so the day of the last input is as good as that of
      -- the others.
      rw [Run.log_snoc, Run.after_snoc]
      rcases hstep : (Chain.step rt (Run.after (Chain.step rt) (Chain.start tokens) inputs) input).1
        with e | u
      · -- A transaction that fails leaves the state, only time has passed.
        have hsame : (Chain.step rt _ input).2 = _ :=
          transact_error (Chain.process rt) .runtime hstep
        rw [hsame]
        exact (hbefore.failed input e).later (hnow input hlast)
      · have hok := transact_ok (Chain.process rt) .runtime hstep
        have haccepted := transact_accepted (Chain.process rt) .runtime hstep
        exact (process_accountable hok haccepted hharmless.2 hseparates (hmem input hlast)
          hbefore).later (hnow input hlast)

/-- The seeds of the flags that are set in a run are among those collected of
    it. -/
theorem mem_profileSeeds : ∀ input ∈ inputs, ∀ s ∈ input.2.flags, s ∈ profileSeeds inputs :=
  fun input hinput _ hs => List.mem_filterMap.mpr ⟨input, hinput, hs⟩

/-- A run whose clock does not go back has a latest time. -/
theorem exists_now (hclock : ClockForward inputs) :
    ∃ now, ∀ input ∈ inputs, input.1.unixTimestamp ≤ now := by
  rcases List.eq_nil_or_concat' inputs with rfl | ⟨before, last, rfl⟩
  · exact ⟨0, fun input hinput => absurd hinput List.not_mem_nil⟩
  · exact ⟨last.1.unixTimestamp, now_of_last hclock⟩

/-- An execution that passes the checks of the hook succeeds, unless the runtime
    refuses it. -/
theorem Passes.step {chain : Chain} {env : Env} {accounts : List AccountInfo} {amount : Word 64}
    (h : Passes rt env chain.hook accounts amount) (hrefused : env.refused = false) :
    (Chain.step rt chain (env, .hook (.fallback accounts (some (.execute amount))))).1
      = .ok () := by
  rcases h with ⟨ctx, hctx, hderived, config, source, destination, n, ha⟩
  have hfallback : Compliance.process rt env chain.hook
      (.fallback accounts (some (.execute amount))) = .ok _ := executeTransferHook_eq_ok.mpr
    ⟨ctx, hctx, hderived, config, source, destination, n, ha, rfl⟩
  have hprocess : chain.process rt env (.hook (.fallback accounts (some (.execute amount))))
      = .ok _ := processHook_eq_ok.mpr ⟨_, hfallback, rfl⟩
  have hstep : Chain.step rt chain (env, .hook (.fallback accounts (some (.execute amount)))) = _ :=
    transact_of_ok (Chain.process rt) .runtime hrefused hprocess
  rw [hstep]

/-- In a run whose clock does not go back, the counts are right throughout
    exactly if it is harmless. -/
theorem run_exact_iff (hseparates : rt.Separates seeds) (hclock : ClockForward inputs)
    (hmem : ∀ input ∈ inputs, ∀ s ∈ input.2.flags, s ∈ seeds) :
    (∀ pre, pre <+: inputs → Exact (Run.log (Chain.step rt) (Chain.start tokens) pre)
      (Run.after (Chain.step rt) (Chain.start tokens) pre)) ↔
    Run.Along (Chain.step rt) (Harmless rt) (Chain.start tokens) inputs := by
  constructor
  -- By induction on the run: the shorter run is harmless, so its counts are right.
  · intro hexact
    induction inputs using List.reverseRecOn with
    | nil => trivial
    | append_singleton inputs input ih =>
        have hshort := (List.pairwise_append.mp hclock).1
        have hmemShort := fun i hi => hmem i (List.mem_append_left _ hi)
        have hbefore := ih hshort hmemShort
          (fun pre hpre => hexact pre (hpre.trans (List.prefix_append _ _)))
        -- The counts were right so far, so the last execution would be seen.
        have hacc := run_accountable hseparates hshort hmemShort hbefore
          (fun i hi => now_of_last hclock i (List.mem_append_left _ hi))
        refine (Run.along_snoc _ _ _ _ _).mpr
          ⟨hbefore, fun accounts amount hdirect hrefused hpasses => ?_⟩
        rcases input with ⟨env, operation⟩
        cases hdirect
        have hok := hpasses.step hrefused
        have hlast := hexact _ (List.prefix_refl _)
        rw [Run.log_snoc, Run.after_snoc, hok] at hlast
        exact process_exposes (transact_ok (Chain.process rt) .runtime hok) hacc hlast
  · intro hharmless pre hpre
    have hshort : ClockForward pre := hclock.sublist hpre.sublist
    rcases exists_now hshort with ⟨now, hnow⟩
    exact (run_accountable hseparates hshort (fun i hi => hmem i (hpre.subset hi))
      (Run.along_of_prefix _ hpre hharmless) hnow).exact

end Runs

end Compliance

end Stablecoin

end SolanaLab
