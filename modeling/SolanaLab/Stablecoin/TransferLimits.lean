import SolanaLab.Stablecoin.Compliance

/-!
# Limits on Transfers

What the compliance hook promises over a whole run: every transfer it lets
through was allowed by what the admin had set last, and what a source has
transferred on a day stays within the limit of the day.

The sum over a day is not stored. A profile counts for one day only and starts
over on another, whenever the next transfer comes. What makes the count large
enough is that the clock never goes back: nothing was transferred on a day that
is still to come, so starting over forgets nothing that matters.

Setting flags writes the same account as a transfer does. It keeps the count,
and for a token account that had no profile nothing was transferred.

What the admin has set is read from the log: the latest instruction that set a
flag, a limit or the pause, among those that succeeded. `Governed` says that
the records are just that, so a transfer that goes through was allowed by the
last word of the admin and not by an earlier one.

## Main definitions

* `executed`: What an entry of the log has transferred from a source on a day.
* `setsLimits`, `setsPaused`, `setsFlags`: What an instruction of the admin sets.
* `Governed`: The records are what the admin has set last.
* `World.usedOn`: What a source has used on a day, as its profile has it.
* `Metered`: What was transferred today is part of what is used today.

## Theorems

* `process_governed`: An instruction keeps the records as the admin sets them.
* `process_metered`: An instruction keeps the count of the day large enough.
* `transfer_limits`: Limits, flags and sums over any run.
-/

namespace SolanaLab

namespace Stablecoin

namespace Compliance

open Checked

/-! ### What the log says -/

/-- The flags of a profile. -/
structure Flags where
  allowlisted : Bool
  blocked : Bool
  issuerActive : Bool
deriving DecidableEq

def UserCompliance.flags (profile : UserCompliance) : Flags :=
  ⟨profile.allowlisted, profile.blocked, profile.issuerActive⟩

/-- The limits that an instruction sets in a config, on one transfer and on a
    day. -/
def Instruction.setsLimits (config : Pubkey) : Instruction → Option (Word 64 × Word 64)
  | .initializeComplianceConfig ctx maxTransferAmount dailyTransferLimit =>
    if ctx.config = config then some (maxTransferAmount, dailyTransferLimit) else none
  | .setTransferLimits ctx maxTransferAmount dailyTransferLimit =>
    if ctx.config = config then some (maxTransferAmount, dailyTransferLimit) else none
  | _ => none

/-- Whether an instruction sets a pause in a config. -/
def Instruction.setsPaused (config : Pubkey) : Instruction → Option Bool
  | .initializeComplianceConfig ctx _ _ => if ctx.config = config then some false else none
  | .setProtocolPaused ctx paused => if ctx.config = config then some paused else none
  | _ => none

/-- The flags that an instruction sets for a token account of a mint. All three
    are set at once. -/
def Instruction.setsFlags (mint user : Pubkey) : Instruction → Option Flags
  | .setUserCompliance ctx allowlisted blocked issuerActive =>
    if ctx.mint = mint ∧ ctx.user = user then some ⟨allowlisted, blocked, issuerActive⟩ else none
  | _ => none

/-- The config whose admin an instruction needs. Executions need none, and the
    first config of a mint is given to whoever asks for it and signs. -/
def Instruction.administers : Instruction → Option Pubkey
  | .initializeComplianceConfig ctx _ _ => some ctx.config
  | .initializeExtraAccountMetaList ctx => some ctx.config
  | .setUserCompliance ctx _ _ _ => some ctx.config
  | .setTransferLimits ctx _ _ => some ctx.config
  | .setProtocolPaused ctx _ => some ctx.config
  | .fallback _ _ => none

/-- What an execution transfers from a source at a time on a day. -/
def Execution.amountOn (e : Execution) (unixTimestamp : Int) (mint source : Pubkey) (d : Int) :
    Nat :=
  if e.mint = mint ∧ e.source = source ∧ day unixTimestamp = d then e.amount.val else 0

/-- What an entry of the log has transferred from a source on a day. -/
def executed (mint source : Pubkey) (d : Int) : Input × Except Error Unit → Nat
  | (input, .ok _) =>
    input.2.execution.elim 0 (fun e => e.amountOn input.1.unixTimestamp mint source d)
  | (_, .error _) => 0

/-! ### Profiles -/

namespace UserCompliance

variable (profile : UserCompliance) (d : Int)

/-- The config, the mint, the user and the flags of a profile are the same on
    all days. -/
@[simp] theorem onDay_config : (profile.onDay d).config = profile.config := by
  unfold onDay
  split <;> rfl

@[simp] theorem onDay_mint : (profile.onDay d).mint = profile.mint := by
  unfold onDay
  split <;> rfl

@[simp] theorem onDay_user : (profile.onDay d).user = profile.user := by
  unfold onDay
  split <;> rfl

@[simp] theorem onDay_flags : (profile.onDay d).flags = profile.flags := by
  unfold onDay
  split <;> rfl

@[simp] theorem onDay_currentDay : (profile.onDay d).currentDay = d := by
  unfold onDay
  by_cases h : profile.currentDay = d
  · rw [if_neg (not_not.mpr h), h]
  · rw [if_pos h]

/-- On its own day a profile is as it is, so a second transfer of the day adds
    to the first. -/
theorem onDay_self (h : profile.currentDay = d) : profile.onDay d = profile :=
  if_neg (not_not.mpr h)

/-- On another day nothing is used. -/
theorem onDay_of_ne (h : profile.currentDay ≠ d) :
    profile.onDay d = { profile with currentDay := d, transferredToday := 0 } := if_pos h

end UserCompliance

/-- What a source has used on a day, as its profile has it. Without a profile
    nothing is used. -/
def World.usedOn (rt : Runtime) (world : World) (mint source : Pubkey) (d : Int) : Nat :=
  (world.profiles.get? (rt.address (Seeds.user mint source))).elim 0
    (fun profile => (profile.onDay d).transferredToday.val)

/-! ### What the admin has set -/

/-- The records are what the admin has set last. A config stands at the address
    of its mint from the start, and its mint never changes, so the admin of a
    config is the one admin of its mint. -/
structure Governed (rt : Runtime) (past : Log) (world : World) : Prop where
  limits : world.configs.Everywhere (fun key config =>
    latest (Instruction.setsLimits key) past
      = some (config.maxTransferAmount, config.dailyTransferLimit))
  pauses : world.configs.Everywhere (fun key config =>
    latest (Instruction.setsPaused key) past = some config.paused)
  located : world.configs.Everywhere (fun key config =>
    key = rt.address (Seeds.config config.mint))
  placed : world.profiles.Everywhere (fun key profile =>
    key = rt.address (Seeds.user profile.mint profile.user))
  flags : world.profiles.Everywhere (fun _ profile =>
    latest (Instruction.setsFlags profile.mint profile.user) past = some profile.flags)

/-- Nothing has been set. -/
theorem governed_empty (rt : Runtime) : Governed rt [] World.empty :=
  ⟨SortedMap.everywhere_empty _, SortedMap.everywhere_empty _, SortedMap.everywhere_empty _,
    SortedMap.everywhere_empty _, SortedMap.everywhere_empty _⟩

/-- A transaction that fails sets nothing. -/
theorem Governed.failed {rt : Runtime} {past : Log} {world : World} {input : Input}
    (h : Governed rt past world) (e : Error) : Governed rt (past ++ [(input, .error e)]) world where
  limits := h.limits.imp (fun _ _ hset => (latest_snoc_error e).trans hset)
  pauses := h.pauses.imp (fun _ _ hset => (latest_snoc_error e).trans hset)
  located := h.located
  placed := h.placed
  flags := h.flags.imp (fun _ _ hset => (latest_snoc_error e).trans hset)

section Steps

variable {rt : Runtime} {env : Env} {world world' : World} {past : Log} {instruction : Instruction}

/-- An instruction that sets no flags leaves every profile as the admin has set
    it. -/
theorem Governed.flags_same (hg : Governed rt past world)
    (hnone : ∀ mint user, instruction.setsFlags mint user = none) :
    world.profiles.Everywhere (fun _ profile =>
      latest (Instruction.setsFlags profile.mint profile.user)
        (past ++ [((env, instruction), .ok ())]) = some profile.flags) :=
  hg.flags.imp (fun _ profile hset =>
    (latest_snoc_none (hnone profile.mint profile.user)).trans hset)

/-- An instruction keeps the records as the admin sets them. An execution writes
    a profile too, but only its day and its count. -/
theorem process_governed (h : process rt env world instruction = .ok world')
    (hg : Governed rt past world) :
    Governed rt (past ++ [((env, instruction), .ok ())]) world' := by
  cases instruction with
  | initializeComplianceConfig ctx maxTransferAmount dailyTransferLimit =>
      rcases initializeComplianceConfigHandler_eq_ok.mp h with ⟨-, ⟨haddress, -⟩, -, rfl⟩
      exact ⟨everywhere_latest_insert hg.limits (if_pos rfl) (fun _ hne => if_neg (Ne.symm hne)),
        everywhere_latest_insert hg.pauses (if_pos rfl) (fun _ hne => if_neg (Ne.symm hne)),
        hg.located.insert haddress, hg.placed, hg.flags_same (fun _ _ => rfl)⟩
  | initializeExtraAccountMetaList ctx =>
      rcases initializeExtraAccountMetaListHandler_eq_ok h with ⟨config, -, rfl⟩
      exact ⟨everywhere_latest_same hg.limits (fun _ => rfl),
        everywhere_latest_same hg.pauses (fun _ => rfl), hg.located, hg.placed,
        hg.flags_same (fun _ _ => rfl)⟩
  | setUserCompliance ctx allowlisted blocked issuerActive =>
      rcases setUserComplianceHandler_eq_ok h with ⟨config, profile, hf⟩
      rw [← hf.after]
      refine ⟨everywhere_latest_same hg.limits (fun _ => rfl),
        everywhere_latest_same hg.pauses (fun _ => rfl), hg.located, hg.placed.insert hf.address,
        SortedMap.everywhere_insert (latest_snoc_some (if_pos ⟨rfl, rfl⟩))
          (fun key other hne hget => ?_)⟩
      -- A profile at another address is not of this token account.
      have hother : ¬ (ctx.mint = other.mint ∧ ctx.user = other.user) := by
        rintro ⟨hmint, huser⟩
        refine hne ?_
        rw [hf.address, hmint, huser]
        exact hg.placed key other hget
      have hnone : (Instruction.setUserCompliance ctx allowlisted blocked issuerActive).setsFlags
          other.mint other.user = none := if_neg hother
      exact (latest_snoc_none hnone).trans (hg.flags key other hget)
  -- The limits are set and the pause is left, and further down the other way round.
  | setTransferLimits ctx maxTransferAmount dailyTransferLimit =>
      rcases setTransferLimitsHandler_eq_ok h with ⟨config, ha, rfl⟩
      have hpaused : latest (Instruction.setsPaused ctx.config) past = some config.paused :=
        hg.pauses _ _ ha.found
      have hlocated : ctx.config = rt.address (Seeds.config config.mint) :=
        hg.located _ _ ha.found
      exact ⟨everywhere_latest_insert hg.limits (if_pos rfl) (fun _ hne => if_neg (Ne.symm hne)),
        (everywhere_latest_same hg.pauses (fun _ => rfl)).insert
          ((latest_snoc_none rfl).trans hpaused), hg.located.insert hlocated, hg.placed,
        hg.flags_same (fun _ _ => rfl)⟩
  | setProtocolPaused ctx paused =>
      rcases setProtocolPausedHandler_eq_ok h with ⟨config, ha, rfl⟩
      have hlimits : latest (Instruction.setsLimits ctx.config) past
          = some (config.maxTransferAmount, config.dailyTransferLimit) := hg.limits _ _ ha.found
      have hlocated : ctx.config = rt.address (Seeds.config config.mint) :=
        hg.located _ _ ha.found
      exact ⟨(everywhere_latest_same hg.limits (fun _ => rfl)).insert
          ((latest_snoc_none rfl).trans hlimits),
        everywhere_latest_insert hg.pauses (if_pos rfl) (fun _ hne => if_neg (Ne.symm hne)),
        hg.located.insert hlocated, hg.placed, hg.flags_same (fun _ _ => rfl)⟩
  -- An execution writes the profile of the source, with the flags it had.
  | fallback accounts data =>
      rcases executeFallback_eq_ok h with ⟨e, config, source, destination, n, -, ha, rfl⟩
      have hplaced := hg.placed _ _ ha.sourceFound
      have hflags : latest (Instruction.setsFlags source.mint source.user) past
          = some source.flags := hg.flags _ _ ha.sourceFound
      have hkept := source.onDay_flags (day env.unixTimestamp)
      refine ⟨everywhere_latest_same hg.limits (fun _ => rfl),
        everywhere_latest_same hg.pauses (fun _ => rfl), hg.located, hg.placed.insert ?_,
        (hg.flags_same (fun _ _ => rfl)).insert ((latest_snoc_none rfl).trans ?_)⟩
      · simp only [UserCompliance.onDay_mint, UserCompliance.onDay_user]
        exact hplaced
      · simp only [UserCompliance.onDay_mint, UserCompliance.onDay_user]
        exact hflags.trans (congrArg some hkept.symm)

/-- A profile that lets a transfer through is one the admin has set so. -/
theorem Governed.flags_of (hg : Governed rt past world) {mint user : Pubkey}
    {profile : UserCompliance}
    (hfound : world.profiles.get? (rt.address (Seeds.user mint user)) = some profile)
    (hvalid : profile.Valid rt mint user) {issuerActive : Bool}
    (hactive : profile.issuerActive = issuerActive) :
    latest (Instruction.setsFlags mint user) past = some ⟨true, false, issuerActive⟩ := by
  have hset : latest (Instruction.setsFlags profile.mint profile.user) past = some profile.flags :=
    hg.flags _ _ hfound
  rw [hvalid.mint, hvalid.user, UserCompliance.flags, hvalid.allowlisted, hvalid.unblocked,
    hactive] at hset
  exact hset

/-! ### What is used on a day -/

/-- Nothing was transferred on a day still to come, and what was transferred
    today is part of what is used today. Only part, because nothing is assumed
    here of the addresses of profiles: token accounts whose profiles share an
    address would share its count. -/
structure Metered (rt : Runtime) (past : Log) (world : World) (now : Int) : Prop where
  future : ∀ mint source d, day now < d → Run.total (executed mint source d) past = 0
  today : ∀ mint source, Run.total (executed mint source (day now)) past
    ≤ world.usedOn rt mint source (day now)

/-- Nothing was transferred. -/
theorem metered_empty (rt : Runtime) (now : Int) : Metered rt [] World.empty now :=
  ⟨fun _ _ _ _ => rfl, fun _ _ => Nat.zero_le _⟩

/-- Time passes. If a new day comes, nothing was transferred on it yet. -/
theorem Metered.later {now t : Int} (hm : Metered rt past world now) (hle : now ≤ t) :
    Metered rt past world t where
  future := fun mint source d hd => hm.future mint source d (lt_of_le_of_lt (day_mono hle) hd)
  today := by
    intro mint source
    rcases eq_or_lt_of_le (day_mono hle) with heq | hlt
    · rw [← heq]
      exact hm.today mint source
    · rw [hm.future mint source _ hlt]
      exact Nat.zero_le _

/-- A transaction that fails transfers nothing. -/
theorem Metered.failed {now : Int} {input : Input} (hm : Metered rt past world now) (e : Error) :
    Metered rt (past ++ [(input, .error e)]) world now where
  future := by
    intro mint source d hd
    rw [Run.total_snoc, hm.future mint source d hd]
    rfl
  today := by
    intro mint source
    rw [Run.total_snoc]
    exact hm.today mint source

/-- An instruction that executes nothing and leaves what is used alone. -/
theorem Metered.same (hm : Metered rt past world env.unixTimestamp)
    (hnone : instruction.execution = none)
    (hused : ∀ mint source d, world'.usedOn rt mint source d = world.usedOn rt mint source d) :
    Metered rt (past ++ [((env, instruction), .ok ())]) world' env.unixTimestamp := by
  have hzero : ∀ mint source d, executed mint source d ((env, instruction), .ok ()) = 0 := by
    intro mint source d
    simp only [executed, hnone, Option.elim_none]
  refine ⟨fun mint source d hd => ?_, fun mint source => ?_⟩
  · rw [Run.total_snoc, hm.future mint source d hd, hzero]
  · rw [Run.total_snoc, hzero, hused, Nat.add_zero]
    exact hm.today mint source

/-- Setting flags keeps what is used, and a new profile has used nothing. So an
    admin cannot give an allowance back by setting the flags again. -/
theorem Flagged.usedOn {ctx : SetUserCompliance} {allowlisted blocked issuerActive : Bool}
    {config : ComplianceConfig} {profile : UserCompliance}
    (h : Flagged rt env world ctx allowlisted blocked issuerActive world' config profile)
    (mint source : Pubkey) (d : Int) :
    world'.usedOn rt mint source d = world.usedOn rt mint source d := by
  rw [← h.after]
  simp only [World.usedOn, SortedMap.get?_insert]
  by_cases hk : rt.address (Seeds.user mint source) = ctx.userCompliance
  · rw [if_pos hk, hk]
    rcases h.found with hfound | ⟨hnone, hzero⟩
    · rw [hfound]
      simp only [Option.elim_some, UserCompliance.onDay]
      split <;> rfl
    · rw [hnone, hzero]
      simp only [Option.elim_some, Option.elim_none, UserCompliance.onDay]
      split <;> rfl
  · rw [if_neg hk]

/-- What an execution adds is counted in the profile of its source. -/
theorem Admitted.usedOn {e : Execution} {config : ComplianceConfig}
    {source destination : UserCompliance} {n : Word 64}
    (ha : Admitted rt env world e config source destination n) (mint user : Pubkey) :
    (world.executed rt env e source n).usedOn rt mint user (day env.unixTimestamp)
      = world.usedOn rt mint user (day env.unixTimestamp)
        + if rt.address (Seeds.user mint user) = rt.address (Seeds.user e.mint e.source)
          then e.amount.val else 0 := by
  simp only [World.usedOn, World.executed, SortedMap.get?_insert]
  by_cases hk : rt.address (Seeds.user mint user) = rt.address (Seeds.user e.mint e.source)
  · rw [if_pos hk, if_pos hk, hk, ha.sourceFound]
    simp only [Option.elim_some]
    have hself := UserCompliance.onDay_self
      { source.onDay (day env.unixTimestamp) with transferredToday := n } (day env.unixTimestamp)
      (source.onDay_currentDay (day env.unixTimestamp))
    rw [hself]
    exact ha.counted
  · rw [if_neg hk, if_neg hk, Nat.add_zero]

/-- What the profile of the source counts after an execution is the sum that was
    checked against the limit. -/
theorem Admitted.usedOn_source {e : Execution} {config : ComplianceConfig}
    {source destination : UserCompliance} {n : Word 64}
    (ha : Admitted rt env world e config source destination n) :
    (world.executed rt env e source n).usedOn rt e.mint e.source (day env.unixTimestamp)
      = n.val := by
  rw [ha.usedOn, if_pos rfl, World.usedOn, ha.sourceFound]
  exact ha.counted.symm

/-- An execution keeps the count of the day large enough. -/
theorem Admitted.metered {e : Execution} {config : ComplianceConfig}
    {source destination : UserCompliance} {n : Word 64}
    (ha : Admitted rt env world e config source destination n)
    (he : instruction.execution = some e) (hm : Metered rt past world env.unixTimestamp) :
    Metered rt (past ++ [((env, instruction), .ok ())]) (world.executed rt env e source n)
      env.unixTimestamp := by
  have hentry : ∀ mint user d, executed mint user d ((env, instruction), .ok ())
      = e.amountOn env.unixTimestamp mint user d := by
    intro mint user d
    simp only [executed, he, Option.elim_some]
  refine ⟨fun mint user d hd => ?_, fun mint user => ?_⟩
  · rw [Run.total_snoc, hm.future mint user d hd, hentry, Execution.amountOn,
      if_neg (fun h => absurd h.2.2 (ne_of_lt hd))]
  · have hbefore := hm.today mint user
    rw [Run.total_snoc, hentry, ha.usedOn, Execution.amountOn]
    -- The one that sends is charged, for the day it is.
    by_cases hsame : e.mint = mint ∧ e.source = user
    · rw [if_pos ⟨hsame.1, hsame.2, rfl⟩, if_pos (by rw [hsame.1, hsame.2])]
      omega
    · rw [if_neg (fun h => hsame ⟨h.1, h.2.1⟩)]
      omega

/-- An instruction keeps the count of the day large enough. Executions add to
    both sides, setting flags keeps them, and the others are not about profiles. -/
theorem process_metered (h : process rt env world instruction = .ok world')
    (hm : Metered rt past world env.unixTimestamp) :
    Metered rt (past ++ [((env, instruction), .ok ())]) world' env.unixTimestamp := by
  cases instruction with
  | initializeComplianceConfig ctx maxTransferAmount dailyTransferLimit =>
      rcases initializeComplianceConfigHandler_eq_ok.mp h with ⟨-, -, -, rfl⟩
      exact hm.same rfl (fun _ _ _ => rfl)
  | initializeExtraAccountMetaList ctx =>
      rcases initializeExtraAccountMetaListHandler_eq_ok h with ⟨config, -, rfl⟩
      exact hm.same rfl (fun _ _ _ => rfl)
  -- Setting flags leaves the count of the day.
  | setUserCompliance ctx allowlisted blocked issuerActive =>
      rcases setUserComplianceHandler_eq_ok h with ⟨config, profile, hf⟩
      exact hm.same rfl hf.usedOn
  | setTransferLimits ctx maxTransferAmount dailyTransferLimit =>
      rcases setTransferLimitsHandler_eq_ok h with ⟨config, -, rfl⟩
      exact hm.same rfl (fun _ _ _ => rfl)
  | setProtocolPaused ctx paused =>
      rcases setProtocolPausedHandler_eq_ok h with ⟨config, -, rfl⟩
      exact hm.same rfl (fun _ _ _ => rfl)
  | fallback accounts data =>
      rcases executeFallback_eq_ok h with ⟨e, config, source, destination, n, he, ha, rfl⟩
      exact ha.metered he hm

/-- An instruction of the admin is signed by the admin of the config. -/
theorem process_administered (h : process rt env world instruction = .ok world') {key : Pubkey}
    (hkey : instruction.administers = some key) :
    ∃ config, world'.configs.get? key = some config ∧ config.admin ∈ env.signers := by
  cases instruction with
  | initializeComplianceConfig ctx maxTransferAmount dailyTransferLimit =>
      rcases initializeComplianceConfigHandler_eq_ok.mp h with ⟨hsigner, -, -, rfl⟩
      cases hkey
      exact ⟨_, SortedMap.get?_insert_self _ _ _, hsigner⟩
  -- The others load the configuration and ask for the signature of its admin.
  | initializeExtraAccountMetaList ctx =>
      rcases initializeExtraAccountMetaListHandler_eq_ok h with ⟨config, ha, rfl⟩
      cases hkey
      exact ⟨config, ha.found, ha.signer⟩
  | setUserCompliance ctx allowlisted blocked issuerActive =>
      rcases setUserComplianceHandler_eq_ok h with ⟨config, profile, hf⟩
      cases hkey
      rw [← hf.after]
      exact ⟨config, hf.admin.found, hf.admin.signer⟩
  | setTransferLimits ctx maxTransferAmount dailyTransferLimit =>
      rcases setTransferLimitsHandler_eq_ok h with ⟨config, ha, rfl⟩
      cases hkey
      exact ⟨_, SortedMap.get?_insert_self _ _ _, ha.signer⟩
  | setProtocolPaused ctx paused =>
      rcases setProtocolPausedHandler_eq_ok h with ⟨config, ha, rfl⟩
      cases hkey
      exact ⟨_, SortedMap.get?_insert_self _ _ _, ha.signer⟩
  | fallback accounts data =>
      exact absurd hkey (by simp only [Instruction.administers, reduceCtorEq, not_false_eq_true])

end Steps

/-- Every run keeps the records as the admin sets them. -/
theorem run_governed (rt : Runtime) (inputs : List Input) :
    Governed rt (Run.log (step rt) World.empty inputs)
      (Run.after (step rt) World.empty inputs) := by
  refine Run.invariant (step rt) (P := Governed rt) (governed_empty rt)
    (fun past world input hg => ?_) inputs
  rcases transact_cases (process rt) .runtime world input with ⟨e, he⟩ | ⟨world', hok, hstep⟩
  · rw [step, he]
    exact hg.failed e
  · rw [step, hstep]
    exact process_governed hok hg

/-- The clock of a run does not go back. It may stand still, as it does within a
    slot. -/
def ClockForward {I : Type} (inputs : List (Env × I)) : Prop :=
  inputs.Pairwise (fun earlier later => earlier.1.unixTimestamp ≤ later.1.unixTimestamp)

/-- The last input comes at the latest time. -/
theorem now_of_last {I : Type} {inputs : List (Env × I)} {input : Env × I}
    (hclock : ClockForward (inputs ++ [input])) :
    ∀ i ∈ inputs ++ [input], i.1.unixTimestamp ≤ input.1.unixTimestamp := by
  intro i hi
  rcases List.mem_append.mp hi with hbefore | hlast
  · exact (List.pairwise_append.mp hclock).2.2 i hbefore input List.mem_cons_self
  · rw [List.mem_singleton.mp hlast]

/-- In a run whose clock does not go back, the count of the day is large enough
    at any time that is not before the last input. The time is let go forward
    between the inputs by `Metered.later`. -/
theorem run_metered (rt : Runtime) {inputs : List Input} (hclock : ClockForward inputs) {now : Int}
    (hnow : ∀ input ∈ inputs, input.1.unixTimestamp ≤ now) :
    Metered rt (Run.log (step rt) World.empty inputs) (Run.after (step rt) World.empty inputs)
      now := by
  induction inputs using List.reverseRecOn generalizing now with
  | nil => exact metered_empty rt now
  | append_singleton inputs input ih =>
      have hshort := (List.pairwise_append.mp hclock).1
      have hbefore := ih hshort (fun i hi => now_of_last hclock i (List.mem_append_left _ hi))
      have hle := hnow input (List.mem_append_right _ List.mem_cons_self)
      rw [Run.log_snoc, Run.after_snoc]
      rcases transact_cases (process rt) .runtime (Run.after (step rt) World.empty inputs) input
        with ⟨e, he⟩ | ⟨world', hok, hstep⟩
      · -- A transaction that fails leaves the state, only time has passed.
        have hfailed : step rt (Run.after (step rt) World.empty inputs) input = _ := he
        rw [hfailed]
        exact (hbefore.failed e).later hle
      · have hdone : step rt (Run.after (step rt) World.empty inputs) input = _ := hstep
        rw [hdone]
        exact (process_metered hok hbefore).later hle

/-- Every execution that succeeds was unpaused, within the limit on one transfer
    and between token accounts that are allowed to, as the admin had set it last,
    and with it the source is within its limit of the day. What fails changes
    nothing. What the admin sets is signed for by the admin of a config at the
    address of its mint, and for the flags of a token account that is the mint
    of the account; setting them keeps what is used. -/
theorem transfer_limits {rt : Runtime} {inputs : List Input} (hclock : ClockForward inputs) :
    let world := fun pre => Run.after (step rt) World.empty pre
    let past := fun pre => Run.log (step rt) World.empty pre
    ∀ pre input, pre ++ [input] <+: inputs →
      ((step rt (world pre) input).1 = .ok () → ∀ e, input.2.execution = some e →
        ∃ maxTransferAmount dailyTransferLimit issuerActive,
          latest (Instruction.setsPaused (rt.address (Seeds.config e.mint))) (past pre)
            = some false ∧
          latest (Instruction.setsLimits (rt.address (Seeds.config e.mint))) (past pre)
            = some (maxTransferAmount, dailyTransferLimit) ∧
          e.amount ≤ maxTransferAmount ∧
          latest (Instruction.setsFlags e.mint e.source) (past pre) = some ⟨true, false, true⟩ ∧
          latest (Instruction.setsFlags e.mint e.destination) (past pre)
            = some ⟨true, false, issuerActive⟩ ∧
          Run.total (executed e.mint e.source (day input.1.unixTimestamp)) (past (pre ++ [input]))
            ≤ dailyTransferLimit.val) ∧
      (∀ e, (step rt (world pre) input).1 = .error e → world (pre ++ [input]) = world pre) ∧
      ((step rt (world pre) input).1 = .ok () → ∀ key, input.2.administers = some key →
        ∃ config, (world (pre ++ [input])).configs.get? key = some config ∧
          key = rt.address (Seeds.config config.mint) ∧ config.admin ∈ input.1.signers) ∧
      ((step rt (world pre) input).1 = .ok () → ∀ ctx allowlisted blocked issuerActive,
        input.2 = .setUserCompliance ctx allowlisted blocked issuerActive →
        ctx.config = rt.address (Seeds.config ctx.mint) ∧
        ∀ profile, (world pre).profiles.get? ctx.userCompliance = some profile →
        ∃ profile', (world (pre ++ [input])).profiles.get? ctx.userCompliance = some profile' ∧
          profile'.transferredToday = profile.transferredToday ∧
          profile'.currentDay = profile.currentDay) := by
  intro world past pre input hpre
  have hforward : ClockForward (pre ++ [input]) := hclock.sublist hpre.sublist
  simp only [world, past, Run.after_snoc]
  refine ⟨fun hok e he => ?_, fun e he => transact_error (process rt) .runtime he,
    fun hok key hkey => ?_, fun hok ctx allowlisted blocked issuerActive hinstruction => ?_⟩
  · rcases process_executed (step_ok hok) he with ⟨config, source, destination, n, ha, hafter⟩
    have hg : Governed rt (past pre) (world pre) := run_governed rt pre
    have hpaused : latest (Instruction.setsPaused (rt.address (Seeds.config e.mint))) (past pre)
        = some config.paused := hg.pauses _ _ ha.configFound
    rw [ha.unpaused] at hpaused
    -- What the profile has counted is what the log has executed today.
    have hm := (run_metered rt hforward (now_of_last hforward)).today e.mint e.source
    simp only [Run.after_snoc, ← hafter, ha.usedOn_source] at hm
    exact ⟨config.maxTransferAmount, config.dailyTransferLimit, destination.issuerActive, hpaused,
      hg.limits _ _ ha.configFound, ha.withinMax,
      hg.flags_of ha.sourceFound ha.sourceValid ha.issuerActive,
      hg.flags_of ha.destinationFound ha.destinationValid rfl, hm.trans ha.withinDaily⟩
  · rcases process_administered (step_ok hok) hkey with ⟨config, hget, hsigner⟩
    have hg := run_governed rt (pre ++ [input])
    rw [Run.after_snoc] at hg
    exact ⟨config, hget, hg.located _ _ hget, hsigner⟩
  · have hprocess := step_ok hok
    rw [hinstruction] at hprocess
    rcases setUserComplianceHandler_eq_ok hprocess with ⟨config, found, hf⟩
    -- The config was created for its mint, and the handler compares it with the mint given.
    have hlocated : ctx.config = rt.address (Seeds.config config.mint) :=
      (run_governed rt pre).located _ _ hf.admin.found
    rw [hf.ofMint] at hlocated
    refine ⟨hlocated, fun profile hget => ?_⟩
    rcases hf.found with hfound | ⟨hnone, -⟩
    · rw [hfound, Option.some.injEq] at hget
      rw [← hf.after, hget]
      exact ⟨_, SortedMap.get?_insert_self _ _ _, rfl, rfl⟩
    · rw [hnone] at hget
      exact absurd hget (by simp only [reduceCtorEq, not_false_eq_true])

/-- Two transfers of a day are within the limit that is set, and a third is not
    let through. -/
theorem transfer_limits_sample :
    let pre := sampleSetup ++ [sampleExecute 1000]
    let past := Run.log (step sampleRuntime) World.empty (pre ++ [sampleExecute 900])
    Run.total (executed sampleMint sampleSource (day 1700000000)) past = 1900 ∧
    (step sampleRuntime (Run.after (step sampleRuntime) World.empty (pre ++ [sampleExecute 900]))
      (sampleExecute 200)).1 = .error (.code .dailyLimitExceeded) ∧
    ∃ maxTransferAmount dailyTransferLimit,
      latest (Instruction.setsLimits sampleConfig)
          (Run.log (step sampleRuntime) World.empty pre)
        = some (maxTransferAmount, dailyTransferLimit) ∧
      Run.total (executed sampleMint sampleSource (day 1700000000)) past
        ≤ dailyTransferLimit.val := by
  intro pre past
  have hclock : ClockForward (pre ++ [sampleExecute 900]) :=
    List.pairwise_of_forall_mem_list (by decide +kernel)
  have hok : (step sampleRuntime (Run.after (step sampleRuntime) World.empty pre)
      (sampleExecute 900)).1 = .ok () := by decide +kernel
  have h := (@transfer_limits sampleRuntime _ hclock pre (sampleExecute 900) (List.prefix_refl _)).1
    hok ⟨sampleMint, sampleSource, sampleDestination, 900⟩ (by decide +kernel)
  rcases h with ⟨maxTransferAmount, dailyTransferLimit, -, -, hlimits, -, -, -, htotal⟩
  have hconfig : sampleRuntime.address (Seeds.config sampleMint) = sampleConfig := by
    decide +kernel
  rw [hconfig] at hlimits
  exact ⟨by decide +kernel, by decide +kernel, maxTransferAmount, dailyTransferLimit, hlimits,
    htotal⟩

end Compliance

end Stablecoin

end SolanaLab
