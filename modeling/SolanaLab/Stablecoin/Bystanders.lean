import SolanaLab.Stablecoin.Allowance

/-!
# Bystanders

What those who administer nothing can do to the transfers of others by sending
instructions to the hook: in a harmless run, nothing. The run without their
instructions answers everybody else alike.

The two runs are not in the same state. An execution of nothing starts the day
of a profile over, so that profiles may be of different days. `Alike` compares
two profiles by what they are from today on, which is all that a transfer sees
of them.

An administrator is who was given a config. Anybody can ask for one, first come
first served, and who gets it is not a bystander.

## Main definitions

* `Bystander`: An instruction sent to the hook without an administrator.
* `UserCompliance.Alike`, `World.Alike`, `Chain.Alike`: The same from today on.

## Theorems

* `process_alike`: What is alike answers alike, and stays alike.
* `process_bystander`: A harmless bystander leaves everything alike.
* `run_bystanders`: Leaving bystanders out does not change the other answers.
* `allowance_untouched`: The counts of all profiles, and two runs with bystanders.
-/

namespace SolanaLab

namespace Stablecoin

namespace Compliance

open Checked

/-- Who asks for a config. -/
def Operation.founder : Operation → Option Pubkey
  | .hook (.initializeComplianceConfig ctx _ _) => some ctx.admin
  | _ => none

/-- The administrators of a run: who was given a config in it. Asking in vain
    makes nobody an administrator. -/
def founders (rt : Runtime) (tokens : TokenLedger) (inputs : List ChainInput) : List Pubkey :=
  successes Operation.founder (Run.log (Chain.step rt) (Chain.start tokens) inputs)

/-- An instruction is sent to the hook directly. -/
def Operation.direct : Operation → Bool
  | .hook _ => true
  | .token _ => false

/-- An instruction is sent to the hook without an administrator. Its signers are
    none of them, and it does not go through Token-2022, so it may be about
    anybody's profiles but moves no tokens. -/
def Bystander (admins : List Pubkey) (input : ChainInput) : Prop :=
  input.2.direct = true ∧ ∀ signer ∈ input.1.signers, signer ∉ admins

instance (admins : List Pubkey) (input : ChainInput) : Decidable (Bystander admins input) :=
  have := List.decidableBAll (fun signer => signer ∉ admins) input.1.signers
  inferInstanceAs (Decidable (_ ∧ _))

/-! ### The same from today on -/

namespace UserCompliance

/-- Two profiles are the same on every day from today on. What they were on past
    days does not matter, since the clock does not go back and the hook starts a
    day over when it finds another one. -/
def Alike (now : Int) (profile profile' : UserCompliance) : Prop :=
  ∀ d, day now ≤ d → profile.onDay d = profile'.onDay d

variable {now : Int} {profile profile' : UserCompliance}

/-- Only the day and the count of a profile depend on the day it is looked at. -/
theorem onDay_eq (profile : UserCompliance) (d : Int) : profile.onDay d = { profile with
    currentDay := d, transferredToday := (profile.onDay d).transferredToday } := by
  by_cases h : profile.currentDay = d
  · rw [profile.onDay_self d h, ← h]
  · rw [profile.onDay_of_ne d h]

/-- Profiles that agree in what does not depend on the day, and in what is used,
    are the same on the day. -/
theorem onDay_congr {d : Int}
    (hfields : { profile with currentDay := d, transferredToday := 0 }
      = { profile' with currentDay := d, transferredToday := 0 })
    (hused : (profile.onDay d).transferredToday = (profile'.onDay d).transferredToday) :
    profile.onDay d = profile'.onDay d := by
  rw [profile.onDay_eq, profile'.onDay_eq, hused]
  exact congrArg (fun p : UserCompliance =>
    { p with transferredToday := (profile'.onDay d).transferredToday }) hfields

/-- What is used on a day depends on what was used, and when. -/
theorem onDay_transferredToday (d : Int)
    (hamount : profile.transferredToday = profile'.transferredToday)
    (hday : profile.currentDay = profile'.currentDay) :
    (profile.onDay d).transferredToday = (profile'.onDay d).transferredToday := by
  unfold onDay
  rw [hday]
  by_cases h : profile'.currentDay = d
  · rw [if_neg (not_not.mpr h), if_neg (not_not.mpr h), hamount]
  · rw [if_pos h, if_pos h]

/-- A profile that counts nothing for a day to come is the same after starting
    the day over. -/
theorem alike_onDay (profile : UserCompliance)
    (h : day now < profile.currentDay → profile.transferredToday = 0) :
    (profile.onDay (day now)).Alike now profile := by
  intro d hd
  by_cases hnow : profile.currentDay = day now
  · rw [profile.onDay_self _ hnow]
  rw [profile.onDay_of_ne _ hnow, profile.onDay_eq d]
  -- Neither counts anything on a day other than the recorded one.
  have hright : (profile.onDay d).transferredToday = 0 := by
    by_cases hday : profile.currentDay = d
    · rw [profile.onDay_self d hday]
      exact h (by omega)
    · rw [profile.onDay_of_ne d hday]
  rw [hright]
  by_cases hday : day now = d
  · rw [← hday]
    exact onDay_self _ _ rfl
  · exact onDay_of_ne _ d hday

theorem Alike.refl (now : Int) (profile : UserCompliance) : profile.Alike now profile :=
  fun _ _ => rfl

theorem Alike.symm (h : Alike now profile profile') : Alike now profile' profile :=
  fun d hd => (h d hd).symm

theorem Alike.trans {profile'' : UserCompliance} (h : Alike now profile profile')
    (h' : Alike now profile' profile'') : Alike now profile profile'' :=
  fun d hd => (h d hd).trans (h' d hd)

theorem Alike.later (h : Alike now profile profile') {t : Int} (hle : now ≤ t) :
    Alike t profile profile' := fun d hd => h d ((day_mono hle).trans hd)

namespace Alike

variable (h : Alike now profile profile')
include h

theorem today : profile.onDay (day now) = profile'.onDay (day now) := h _ le_rfl

theorem config : profile.config = profile'.config := by
  have heq := congrArg UserCompliance.config h.today
  rwa [onDay_config, onDay_config] at heq

theorem mint : profile.mint = profile'.mint := by
  have heq := congrArg UserCompliance.mint h.today
  rwa [onDay_mint, onDay_mint] at heq

theorem user : profile.user = profile'.user := by
  have heq := congrArg UserCompliance.user h.today
  rwa [onDay_user, onDay_user] at heq

theorem flags : profile.flags = profile'.flags := by
  have heq := congrArg UserCompliance.flags h.today
  rwa [onDay_flags, onDay_flags] at heq

theorem allowlisted : profile.allowlisted = profile'.allowlisted :=
  congrArg Flags.allowlisted h.flags

theorem blocked : profile.blocked = profile'.blocked := congrArg Flags.blocked h.flags

theorem issuerActive : profile.issuerActive = profile'.issuerActive :=
  congrArg Flags.issuerActive h.flags

theorem validate (configKey : Pubkey) (record : ComplianceConfig) (key : Pubkey) :
    validateProfile profile configKey record key
      = validateProfile profile' configKey record key := by
  rw [validateProfile, validateProfile, h.config, h.mint, h.user]

/-- The flags, and what is named, are written into both. -/
theorem flagged (config mint user : Pubkey) (allowlisted blocked issuerActive : Bool)
    (bump : Byte) :
    Alike now
      ⟨config, mint, user, allowlisted, blocked, issuerActive, profile.transferredToday,
        profile.currentDay, bump⟩
      ⟨config, mint, user, allowlisted, blocked, issuerActive, profile'.transferredToday,
        profile'.currentDay, bump⟩ := by
  intro d hd
  have hused := congrArg UserCompliance.transferredToday (h d hd)
  refine onDay_congr rfl ((onDay_transferredToday d ?_ ?_).trans
    (hused.trans (onDay_transferredToday d ?_ ?_)))
  iterate 4 rfl

end Alike

end UserCompliance

/-- Two worlds are the same from today on: they have the same configs and the
    same validation accounts, and profiles at the same addresses that are alike. -/
structure World.Alike (now : Int) (world world' : World) : Prop where
  configs : world.configs = world'.configs
  extraAccountMetaLists : world.extraAccountMetaLists = world'.extraAccountMetaLists
  profiles : ∀ key, Option.Rel (UserCompliance.Alike now) (world.profiles.get? key)
    (world'.profiles.get? key)

namespace World.Alike

variable {now : Int} {world world' world'' : World}

theorem refl (now : Int) (world : World) : world.Alike now world where
  configs := rfl
  extraAccountMetaLists := rfl
  profiles := by
    intro key
    cases world.profiles.get? key with
    | none => exact Option.Rel.none
    | some profile => exact Option.Rel.some (UserCompliance.Alike.refl now profile)

theorem symm (h : world.Alike now world') : world'.Alike now world where
  configs := h.configs.symm
  extraAccountMetaLists := h.extraAccountMetaLists.symm
  profiles := by
    intro key
    have hprofiles := h.profiles key
    match world.profiles.get? key, world'.profiles.get? key, hprofiles with
    | _, _, .none => exact Option.Rel.none
    | _, _, .some halike => exact Option.Rel.some halike.symm

theorem trans (h : world.Alike now world') (h' : world'.Alike now world'') :
    world.Alike now world'' where
  configs := h.configs.trans h'.configs
  extraAccountMetaLists := h.extraAccountMetaLists.trans h'.extraAccountMetaLists
  profiles := by
    intro key
    have hfirst := h.profiles key
    have hsecond := h'.profiles key
    match world.profiles.get? key, world'.profiles.get? key, world''.profiles.get? key, hfirst,
      hsecond with
    | _, _, _, .none, .none => exact Option.Rel.none
    | _, _, _, .some halike, .some halike' => exact Option.Rel.some (halike.trans halike')

theorem later (h : world.Alike now world') {t : Int} (hle : now ≤ t) : world.Alike t world' where
  configs := h.configs
  extraAccountMetaLists := h.extraAccountMetaLists
  profiles := by
    intro key
    have hprofiles := h.profiles key
    match world.profiles.get? key, world'.profiles.get? key, hprofiles with
    | _, _, .none => exact Option.Rel.none
    | _, _, .some halike => exact Option.Rel.some (halike.later hle)

/-- The same addresses are occupied. So what one world creates the other can
    create. -/
theorem occupied (h : world.Alike now world') : world.occupied = world'.occupied := by
  funext key
  have hprofiles : (world.profiles.get? key).isSome = (world'.profiles.get? key).isSome := by
    have hrel := h.profiles key
    match world.profiles.get? key, world'.profiles.get? key, hrel with
    | _, _, .none => rfl
    | _, _, .some _ => rfl
  simp only [World.occupied, h.configs, h.extraAccountMetaLists, hprofiles]

/-- Profiles that are alike are written. -/
theorem insert (h : world.Alike now world') (key : Pubkey) {profile profile' : UserCompliance}
    (halike : profile.Alike now profile') :
    World.Alike now { world with profiles := world.profiles.insert key profile }
      { world' with profiles := world'.profiles.insert key profile' } where
  configs := h.configs
  extraAccountMetaLists := h.extraAccountMetaLists
  profiles := by
    intro key'
    simp only [SortedMap.get?_insert]
    by_cases hkey : key' = key
    · rw [if_pos hkey, if_pos hkey]
      exact Option.Rel.some halike
    · rw [if_neg hkey, if_neg hkey]
      exact h.profiles key'

/-- Profiles that are read are alike. -/
theorem deserialize (h : world.Alike now world') (key : Pubkey) :
    Related (UserCompliance.Alike now) (deserializeAccount world world.profiles key)
      (deserializeAccount world' world'.profiles key) := by
  unfold deserializeAccount
  rw [h.occupied]
  have hprofiles := h.profiles key
  match world.profiles.get? key, world'.profiles.get? key, hprofiles with
  | _, _, .none => exact rfl
  | _, _, .some halike => exact halike

/-- Configs that are read are the same. -/
theorem deserialize_config (h : world.Alike now world') (key : Pubkey) :
    deserializeAccount world world.configs key = deserializeAccount world' world'.configs key := by
  rw [deserializeAccount, deserializeAccount, h.occupied, h.configs]

/-- A config is loaded alike. -/
theorem loadConfig (h : world.Alike now world') (rt : Runtime) (env : Env) (admin key : Pubkey)
    (mint : ComplianceConfig → Pubkey) :
    loadConfig rt env world admin key mint = loadConfig rt env world' admin key mint := by
  rw [Compliance.loadConfig, Compliance.loadConfig, h.occupied, h.configs]

/-- A profile is loaded, or created, alike. -/
theorem loadOrInit (h : world.Alike now world') (rt : Runtime) (key : Pubkey) (s : Seeds) :
    Related (UserCompliance.Alike now) (loadOrInit rt world key s)
      (loadOrInit rt world' key s) := by
  rw [Compliance.loadOrInit, Compliance.loadOrInit, h.occupied]
  refine Related.bind_same (fun _ _ => ?_)
  by_cases hnew : world'.occupied key = false
  · rw [if_pos hnew, if_pos hnew]
    exact UserCompliance.Alike.refl now _
  · rw [if_neg hnew, if_neg hnew]
    unfold load
    have hprofiles := h.profiles key
    generalize world.profiles.get? key = found, world'.profiles.get? key = found' at hprofiles ⊢
    cases hprofiles with
    | none => exact rfl
    | some halike => exact halike

end World.Alike

/-! ### What is alike answers alike -/

section Steps

variable {rt : Runtime} {env : Env} {world world' : World} {chain chain' : Chain}

/-- A transfer sees of a profile what it is from today on. -/
theorem executeTransferHook_alike (h : world.Alike env.unixTimestamp world')
    (accounts : List AccountInfo) (amount : Word 64) :
    Related (World.Alike env.unixTimestamp)
      (executeTransferHook rt env world accounts amount)
      (executeTransferHook rt env world' accounts amount) := by
  unfold executeTransferHook
  refine Related.bind_same (fun ctx _ => ?_)
  iterate 4 refine Related.bind_same (fun _ _ => ?_)
  rw [h.deserialize_config]
  refine Related.bind_same (fun config _ => ?_)
  iterate 3 refine Related.bind_same (fun _ _ => ?_)
  refine Related.bind (h.deserialize _) (fun source source' hs => ?_)
  refine Related.bind (h.deserialize _) (fun destination destination' hd => ?_)
  -- From here on the profiles are only asked for what is the same.
  simp only [hs.validate, hd.validate, hs.allowlisted, hd.allowlisted, hs.blocked, hd.blocked,
    hs.issuerActive, hs.today]
  iterate 7 refine Related.bind_same (fun _ _ => ?_)
  refine Related.bind_same (fun newDailyAmount _ => ?_)
  iterate 2 refine Related.bind_same (fun _ _ => ?_)
  exact h.insert _ (UserCompliance.Alike.refl _ _)

/-- The fallback only unpacks the data and the accounts, which do not depend on
    the world. -/
theorem executeFallback_alike (h : world.Alike env.unixTimestamp world')
    (accounts : List AccountInfo) (data : Option TransferHookInstruction) :
    Related (World.Alike env.unixTimestamp) (executeFallback rt env world accounts data)
      (executeFallback rt env world' accounts data) := by
  match data with
  | some (.execute amount) => exact executeTransferHook_alike h accounts amount
  | some (.initializeExtraAccountMetaList _) | some (.updateExtraAccountMetaList _) | none =>
      exact rfl

/-- Setting flags keeps what is the same. -/
theorem setUserComplianceHandler_alike {now : Int} (h : world.Alike now world')
    (ctx : SetUserCompliance) (allowlisted blocked issuerActive : Bool) :
    Related (World.Alike now)
      (setUserComplianceHandler rt env world ctx allowlisted blocked issuerActive)
      (setUserComplianceHandler rt env world' ctx allowlisted blocked issuerActive) := by
  unfold setUserComplianceHandler
  rw [h.loadConfig]
  refine Related.bind_same (fun config _ => ?_)
  refine Related.bind_same (fun _ _ => ?_)
  refine Related.bind (h.loadOrInit _ _ _) (fun profile profile' hprofile => ?_)
  exact h.insert _ (hprofile.flagged _ _ _ _ _ _ _)

/-- What is alike answers alike, and stays alike. Every handler reads profiles
    only as they are today, writes the same to both, and so keeps them related. -/
theorem process_alike (h : world.Alike env.unixTimestamp world') (instruction : Instruction) :
    Related (World.Alike env.unixTimestamp) (process rt env world instruction)
      (process rt env world' instruction) := by
  cases instruction with
  | initializeComplianceConfig ctx maxTransferAmount dailyTransferLimit =>
      simp only [process, initializeComplianceConfigHandler, h.occupied, h.configs]
      iterate 3 refine Related.bind_same (fun _ _ => ?_)
      exact { h with configs := rfl }
  | initializeExtraAccountMetaList ctx =>
      simp only [process, initializeExtraAccountMetaListHandler, h.loadConfig, h.occupied,
        h.extraAccountMetaLists]
      refine Related.bind_same (fun config _ => ?_)
      iterate 3 refine Related.bind_same (fun _ _ => ?_)
      exact { h with extraAccountMetaLists := rfl }
  | setUserCompliance ctx allowlisted blocked issuerActive =>
      exact setUserComplianceHandler_alike h ctx allowlisted blocked issuerActive
  -- What an administrator changes is the same in both worlds.
  | setTransferLimits ctx maxTransferAmount dailyTransferLimit =>
      simp only [process, setTransferLimitsHandler, h.loadConfig, h.configs]
      refine Related.bind_same (fun config _ => ?_)
      refine Related.bind_same (fun _ _ => ?_)
      exact { h with configs := rfl }
  | setProtocolPaused ctx paused =>
      simp only [process, setProtocolPausedHandler, h.loadConfig, h.configs]
      refine Related.bind_same (fun config _ => ?_)
      exact { h with configs := rfl }
  | fallback accounts data => exact executeFallback_alike h accounts data

/-- Two chains are the same from today on. The tokens are the same altogether. -/
structure Chain.Alike (now : Int) (chain chain' : Chain) : Prop where
  hook : chain.hook.Alike now chain'.hook
  tokens : chain.tokens = chain'.tokens

/-- A chain is the same as itself. -/
theorem Chain.Alike.refl (now : Int) (chain : Chain) : chain.Alike now chain :=
  ⟨World.Alike.refl now chain.hook, rfl⟩

/-- What is the same from today on is so from a later day on. -/
theorem Chain.Alike.later {now t : Int} (h : chain.Alike now chain') (hle : now ≤ t) :
    chain.Alike t chain' := ⟨h.hook.later hle, h.tokens⟩

/-- Chains that are the same as a third are the same as each other. -/
theorem Chain.Alike.trans {now : Int} {chain'' : Chain} (h : chain.Alike now chain')
    (h' : chain'.Alike now chain'') : chain.Alike now chain'' :=
  ⟨h.hook.trans h'.hook, h.tokens.trans h'.tokens⟩

/-- The hook finds the same accounts for both, and they answer alike. -/
theorem invokeExecute_alike (h : world.Alike env.unixTimestamp world')
    (source mint destination authority : Pubkey) (amount : Word 64) :
    Related (World.Alike env.unixTimestamp)
      (invokeExecute rt env world source mint destination authority amount)
      (invokeExecute rt env world' source mint destination authority amount) := by
  unfold invokeExecute
  rw [h.extraAccountMetaLists]
  refine Related.bind_same (fun accounts _ => ?_)
  exact (executeFallback_alike h accounts _).mapError ChainError.hook

/-- The tokens move alike, and then the hook is called alike. -/
theorem transferWithHook_alike (h : chain.Alike env.unixTimestamp chain')
    (source destination authority : Pubkey) (amount : Word 64) (mint : Option (Pubkey × Byte)) :
    Related (Chain.Alike env.unixTimestamp)
      (transferWithHook rt env chain source destination authority amount mint)
      (transferWithHook rt env chain' source destination authority amount mint) := by
  unfold transferWithHook
  rw [h.tokens]
  refine Related.bind_same (fun key _ => ?_)
  refine Related.bind_same (fun tokens _ => ?_)
  by_cases hself : source = destination
  · rw [if_pos hself, if_pos hself]
    exact ⟨h.hook, rfl⟩
  · rw [if_neg hself, if_neg hself]
    refine Related.bind (invokeExecute_alike h.hook _ _ _ _ _) (fun hook hook' hhook => ?_)
    exact ⟨hhook, rfl⟩

/-- An instruction to either program answers alike on chains that are alike. -/
theorem chain_process_alike (h : chain.Alike env.unixTimestamp chain') (operation : Operation) :
    Related (Chain.Alike env.unixTimestamp) (chain.process rt env operation)
      (chain'.process rt env operation) := by
  cases operation with
  | hook instruction =>
      simp only [Chain.process, Chain.processHook]
      refine Related.bind ((process_alike h.hook instruction).mapError _)
        (fun hook hook' hhook => ?_)
      exact ⟨hhook, h.tokens⟩
  | token instruction =>
      simp only [Chain.process, Chain.processToken]
      refine Related.bind_same (fun _ _ => ?_)
      cases instruction with
      -- Only a transfer looks at the hook.
      | transfer source destination authority amount mint =>
          exact transferWithHook_alike h source destination authority amount mint
      | _ =>
          simp only [h.tokens]
          refine Related.bind_same (fun tokens _ => ?_)
          exact ⟨h.hook, rfl⟩

/-- One transaction of two chains that are alike. -/
theorem step_alike {input : ChainInput} (h : chain.Alike input.1.unixTimestamp chain') :
    (Chain.step rt chain input).1 = (Chain.step rt chain' input).1 ∧
    (Chain.step rt chain input).2.Alike input.1.unixTimestamp (Chain.step rt chain' input).2 :=
  transact_related (Chain.process rt) .runtime h (chain_process_alike h input.2)

/-- A harmless bystander leaves everything alike: it is no administrator, and an
    execution of nothing only starts a day over. The handlers of administrators
    fail for it, since each asks for a signature of the admin of a config. -/
theorem process_bystander {admins : List Pubkey} {instruction : Instruction} {world' : World}
    (h : process rt env world instruction = .ok world')
    (hbystander : ∀ signer ∈ env.signers, signer ∉ admins)
    (hfounders : ∀ admin ∈ Operation.founder (.hook instruction), admin ∈ admins)
    (hadmins : world.configs.Everywhere (fun _ config => config.admin ∈ admins))
    (hharmless : ∀ accounts amount, instruction = .fallback accounts (some (.execute amount)) →
      Passes rt env world accounts amount → amount.val = 0)
    (hdated : world.profiles.Everywhere (fun _ profile =>
      day env.unixTimestamp < profile.currentDay → profile.transferredToday = 0)) :
    world'.Alike env.unixTimestamp world := by
  cases instruction with
  | initializeComplianceConfig ctx maxTransferAmount dailyTransferLimit =>
      -- Everything but a transfer needs the signature of an admin.
      rcases initializeComplianceConfigHandler_eq_ok.mp h with ⟨hsigner, -, -, -⟩
      exact absurd (hfounders _ rfl) (hbystander _ hsigner)
  | initializeExtraAccountMetaList ctx =>
      rcases initializeExtraAccountMetaListHandler_eq_ok h with ⟨config, ha, -⟩
      exact absurd (hadmins _ _ ha.found) (hbystander _ ha.signer)
  | setUserCompliance ctx allowlisted blocked issuerActive =>
      rcases setUserComplianceHandler_eq_ok h with ⟨config, profile, hf⟩
      exact absurd (hadmins _ _ hf.admin.found) (hbystander _ hf.admin.signer)
  | setTransferLimits ctx maxTransferAmount dailyTransferLimit =>
      rcases setTransferLimitsHandler_eq_ok h with ⟨config, ha, -⟩
      exact absurd (hadmins _ _ ha.found) (hbystander _ ha.signer)
  | setProtocolPaused ctx paused =>
      rcases setProtocolPausedHandler_eq_ok h with ⟨config, ha, -⟩
      exact absurd (hadmins _ _ ha.found) (hbystander _ ha.signer)
  | fallback accounts data =>
      rcases executeFallback_passes h with
        ⟨amount, rfl, hpasses, e, config, source, destination, n, heq, ha, rfl⟩
      have hzero := hharmless accounts amount rfl hpasses
      -- The transfer was of nothing, so the count of the day is written back.
      have hn : n = (source.onDay (day env.unixTimestamp)).transferredToday := by
        rw [Fin.ext_iff, ha.counted, heq, hzero, Nat.add_zero]
      have halike := (World.Alike.refl env.unixTimestamp world).insert
        (rt.address (Seeds.user e.mint e.source))
        (source.alike_onDay (hdated _ _ ha.sourceFound))
      rw [SortedMap.insert_get? _ ha.sourceFound] at halike
      rw [hn]
      exact halike

/-- Every config has an administrator of the run. -/
theorem process_admins {admins : List Pubkey} {operation : Operation}
    (h : chain.process rt env operation = .ok chain')
    (hfounders : ∀ admin ∈ operation.founder, admin ∈ admins)
    (hadmins : chain.hook.configs.Everywhere (fun _ config => config.admin ∈ admins)) :
    chain'.hook.configs.Everywhere (fun _ config => config.admin ∈ admins) := by
  cases operation with
  -- Only configurations that are written anew could have a new admin.
  | hook instruction =>
      rcases processHook_eq_ok.mp h with ⟨hook, hprocess, rfl⟩
      cases instruction with
      | initializeComplianceConfig ctx maxTransferAmount dailyTransferLimit =>
          rcases initializeComplianceConfigHandler_eq_ok.mp hprocess with ⟨-, -, -, rfl⟩
          exact hadmins.insert (hfounders _ rfl)
      | initializeExtraAccountMetaList ctx =>
          rcases initializeExtraAccountMetaListHandler_eq_ok hprocess with ⟨config, -, rfl⟩
          exact hadmins
      | setUserCompliance ctx allowlisted blocked issuerActive =>
          rcases setUserComplianceHandler_eq_ok hprocess with ⟨config, profile, hf⟩
          rw [← hf.after]
          exact hadmins
      | setTransferLimits ctx maxTransferAmount dailyTransferLimit =>
          rcases setTransferLimitsHandler_eq_ok hprocess with ⟨config, ha, rfl⟩
          have hadmin : config.admin ∈ admins := hadmins _ _ ha.found
          exact hadmins.insert hadmin
      | setProtocolPaused ctx paused =>
          rcases setProtocolPausedHandler_eq_ok hprocess with ⟨config, ha, rfl⟩
          have hadmin : config.admin ∈ admins := hadmins _ _ ha.found
          exact hadmins.insert hadmin
      | fallback accounts data =>
          rcases executeFallback_eq_ok hprocess with ⟨e, config, source, destination, n, -, -, rfl⟩
          exact hadmins
  | token instruction =>
      rcases processToken_eq_ok h with ⟨-, hhook⟩ | ⟨e, -, config, source, destination, n, -, hhook⟩
      · rw [hhook]
        exact hadmins
      · rw [hhook]
        exact hadmins

end Steps

/-! ### Runs -/

section Runs

variable {rt : Runtime} {tokens : TokenLedger} {inputs : List ChainInput} {admins : List Pubkey}

/-- Every config of a run has one of its administrators. -/
theorem run_admins (rt : Runtime) (tokens : TokenLedger) (inputs : List ChainInput) :
    (Run.after (Chain.step rt) (Chain.start tokens) inputs).hook.configs.Everywhere
      (fun _ config => config.admin ∈ founders rt tokens inputs) := by
  refine Run.invariant (Chain.step rt) (s := Chain.start tokens)
    (P := fun past chain => chain.hook.configs.Everywhere (fun _ config =>
      config.admin ∈ successes Operation.founder past))
    (SortedMap.everywhere_empty _) (fun past chain input hadmins => ?_) inputs
  have hkept : ∀ entry, chain.hook.configs.Everywhere (fun _ config =>
      config.admin ∈ successes Operation.founder (past ++ [(input, entry)])) := by
    intro entry
    rw [successes_append]
    exact hadmins.imp (fun _ _ h => List.mem_append_left _ h)
  rcases transact_cases (Chain.process rt) .runtime chain input with ⟨e, he⟩ | ⟨chain', hok, hstep⟩
  · rw [Chain.step, he]
    exact hkept _
  · rw [Chain.step, hstep]
    refine process_admins hok (fun admin hfounder => ?_) (hkept _)
    rw [successes_snoc_some hfounder]
    exact List.mem_append_right _ List.mem_cons_self

/-- What a profile counts for a day to come is nothing. -/
theorem Accountable.dated {seeds : List Seeds} {past : ChainLog} {world : World} {now : Int}
    (h : Accountable rt seeds past world now) : world.profiles.Everywhere (fun _ profile =>
      day now < profile.currentDay → profile.transferredToday = 0) := by
  intro key profile hget hday
  have hexact : Exact past ⟨world, TokenLedger.empty⟩ := h.exact
  have hcount : profile.transferredToday.val = _ := hexact key profile hget
  rw [h.future _ _ _ hday] at hcount
  exact Fin.ext hcount

/-- A harmless bystander leaves the chain alike. If it fails nothing is written,
    and the two runs go on from the same chain. -/
theorem step_bystander {past : ChainLog} {seeds : List Seeds} {chain : Chain} {input : ChainInput}
    (hbystander : Bystander admins input) (hharmless : Harmless rt chain input)
    (hfounders : (Chain.step rt chain input).1 = .ok () →
      ∀ admin ∈ input.2.founder, admin ∈ admins)
    (hadmins : chain.hook.configs.Everywhere (fun _ config => config.admin ∈ admins))
    (hacc : Accountable rt seeds past chain.hook input.1.unixTimestamp) :
    (Chain.step rt chain input).2.Alike input.1.unixTimestamp chain := by
  rcases input with ⟨env, operation⟩
  rcases hstep : (Chain.step rt chain (env, operation)).1 with e | u
  · have hsame : (Chain.step rt chain (env, operation)).2 = _ :=
      transact_error (Chain.process rt) .runtime hstep
    rw [hsame]
    exact Chain.Alike.refl _ chain
  · have hok := transact_ok (Chain.process rt) .runtime hstep
    have haccepted := transact_accepted (Chain.process rt) .runtime hstep
    cases operation with
    | token instruction => exact absurd hbystander.1 Bool.false_ne_true
    -- An instruction of the hook that succeeds for a bystander changes no more than a
    -- date.
    | hook instruction =>
        rcases processHook_eq_ok.mp hok with ⟨hook, hprocess, hafter⟩
        have halike := process_bystander hprocess hbystander.2 (hfounders hstep) hadmins
          (fun accounts amount hdirect =>
            hharmless accounts amount (congrArg Operation.hook hdirect) haccepted) hacc.dated
        have hdone : (Chain.step rt chain (env, .hook instruction)).2 = _ := hafter.symm
        rw [hdone]
        exact ⟨halike, rfl⟩

/-- In a harmless run whose clock does not go back, leaving out the bystanders
    changes no other answer, and nothing that matters from now on. The induction
    is on the run: either the last input is left out, and the chain was left
    alike by it, or both runs take it and answer alike. -/
theorem run_bystanders {seeds : List Seeds} (hseparates : rt.Separates seeds)
    (hclock : ClockForward inputs) (hmem : ∀ input ∈ inputs, ∀ s ∈ input.2.flags, s ∈ seeds)
    (hharmless : Run.Along (Chain.step rt) (Harmless rt) (Chain.start tokens) inputs)
    (hfounders : ∀ admin ∈ founders rt tokens inputs, admin ∈ admins) {now : Int}
    (hnow : ∀ input ∈ inputs, input.1.unixTimestamp ≤ now) :
    (Run.log (Chain.step rt) (Chain.start tokens) inputs).filter
        (fun entry => ¬ Bystander admins entry.1)
      = Run.log (Chain.step rt) (Chain.start tokens)
        (inputs.filter (fun input => ¬ Bystander admins input)) ∧
    (Run.after (Chain.step rt) (Chain.start tokens) inputs).Alike now
      (Run.after (Chain.step rt) (Chain.start tokens)
        (inputs.filter (fun input => ¬ Bystander admins input))) := by
  induction inputs using List.reverseRecOn generalizing now with
  | nil => exact ⟨rfl, World.Alike.refl _ _, rfl⟩
  | append_singleton inputs input ih =>
      rw [Run.along_snoc] at hharmless
      have hshort := (List.pairwise_append.mp hclock).1
      have hmemShort := fun i hi => hmem i (List.mem_append_left _ hi)
      rw [founders, Run.log_snoc, successes_append] at hfounders
      have hfoundersShort := fun admin ha => hfounders admin (List.mem_append_left _ ha)
      have hbefore := fun i hi => now_of_last hclock i (List.mem_append_left _ hi)
      have hlast : input ∈ inputs ++ [input] := List.mem_append_right _ List.mem_cons_self
      -- An admin that this input founds is among the admins.
      have hfounder :
          (Chain.step rt (Run.after (Chain.step rt) (Chain.start tokens) inputs) input).1 = .ok () →
          ∀ admin ∈ input.2.founder, admin ∈ admins := by
        intro hok admin ha
        refine hfounders admin (List.mem_append_right _
          (List.mem_filterMap.mpr ⟨_, List.mem_cons_self, ?_⟩))
        rw [hok]
        exact ha
      rcases ih hshort hmemShort hharmless.1 hfoundersShort hbefore with ⟨hlog, halike⟩
      simp only [Run.log_snoc, Run.after_snoc, List.filter_append, hlog]
      by_cases hbystander : Bystander admins input
      · have hacc := run_accountable hseparates hshort hmemShort hharmless.1 hbefore
        have hadmins :=
          (run_admins rt tokens inputs).imp (fun _ config => hfoundersShort config.admin)
        have hstep := step_bystander hbystander hharmless.2 hfounder hadmins hacc
        simp only [List.filter_cons, List.filter_nil, hbystander, not_true_eq_false, decide_false,
          Bool.false_eq_true, if_false, List.append_nil, true_and]
        exact (hstep.trans halike).later (hnow input hlast)
      -- Everybody else finds the same on both sides, and is answered alike.
      · have hstep := @step_alike rt _ _ _ halike
        simp only [List.filter_cons, List.filter_nil, hbystander, not_false_eq_true, decide_true,
          if_true, Run.log_snoc, Run.after_snoc]
        rw [hstep.1]
        exact ⟨rfl, hstep.2.later (hnow input hlast)⟩

/-- In a run whose clock does not go back and whose profiles have addresses of
    their own, the count of every profile is always what its token account has
    really transferred on the day, exactly if the run is harmless. Two harmless
    runs that differ in bystanders answer everybody else alike. -/
theorem allowance_untouched (hseparates : rt.Separates (profileSeeds inputs))
    (hclock : ClockForward inputs) :
    ((∀ pre, pre <+: inputs → Exact (Run.log (Chain.step rt) (Chain.start tokens) pre)
        (Run.after (Chain.step rt) (Chain.start tokens) pre)) ↔
      Run.Along (Chain.step rt) (Harmless rt) (Chain.start tokens) inputs) ∧
    ∀ inputs', rt.Separates (profileSeeds inputs') → ClockForward inputs' →
      Run.Along (Chain.step rt) (Harmless rt) (Chain.start tokens) inputs →
      Run.Along (Chain.step rt) (Harmless rt) (Chain.start tokens) inputs' →
      let admins := founders rt tokens inputs ++ founders rt tokens inputs'
      inputs.filter (fun input => ¬ Bystander admins input)
        = inputs'.filter (fun input => ¬ Bystander admins input) →
      (Run.log (Chain.step rt) (Chain.start tokens) inputs).filter
          (fun entry => ¬ Bystander admins entry.1)
        = (Run.log (Chain.step rt) (Chain.start tokens) inputs').filter
          (fun entry => ¬ Bystander admins entry.1) := by
  refine ⟨run_exact_iff hseparates hclock mem_profileSeeds, ?_⟩
  intro inputs' hseparates' hclock' hharmless hharmless' admins hshared
  rcases exists_now hclock with ⟨now, hnow⟩
  rcases exists_now hclock' with ⟨now', hnow'⟩
  have hfirst := run_bystanders hseparates hclock mem_profileSeeds hharmless
    (fun admin ha => List.mem_append_left (founders rt tokens inputs') ha) hnow
  have hsecond := run_bystanders hseparates' hclock' mem_profileSeeds hharmless'
    (fun admin ha => List.mem_append_right (founders rt tokens inputs) ha) hnow'
  rw [hfirst.1, hsecond.1, hshared]

end Runs

/-! ### A sample

The mint and the token accounts of the hook, with tokens in the source. -/

/-- Whoever owns the source. -/
def sampleOwner : Pubkey := 0x6ba35f1f27d1c2a08a9b41ee2a4cf7d3902be0f5c7a4b7d84be36a1c91d05f42

/-- The token accounts of the sample profiles, with tokens in the source. -/
def sampleTokens : TokenLedger where
  mints := SortedMap.empty.insert sampleMint ⟨sampleAdmin, none, 6, 5000⟩
  accounts := (SortedMap.empty.insert sampleSource ⟨sampleMint, sampleOwner, 5000⟩).insert
    sampleDestination ⟨sampleMint, sampleAdmin, 0⟩

/-- What is sent to the hook. -/
def sampleDirect (input : Input) : ChainInput := (input.1, .hook input.2)

/-- The owner transfers from the source. -/
def sampleTransfer (amount : Word 64) : ChainInput :=
  (sampleEnv sampleOwner,
    .token (.transfer sampleSource sampleDestination sampleOwner amount (some (sampleMint, 6))))

/-- The mint and the profiles are set up by the admin. -/
def sampleStart : List ChainInput := sampleSetup.map sampleDirect

/-- A stranger has nothing executed. The owner transfers as without it, and the
    count is what was transferred. The execution of the stranger does succeed,
    and is one that a harmless run may hold. -/
theorem allowance_untouched_sample :
    let before := Run.after (Chain.step sampleRuntime) (Chain.start sampleTokens)
    let run := Run.log (Chain.step sampleRuntime) (Chain.start sampleTokens)
    let inputs := sampleStart ++ [sampleDirect (sampleExecute 0), sampleTransfer 700]
    let inputs' := sampleStart ++ [sampleTransfer 700]
    let admins := founders sampleRuntime sampleTokens inputs
      ++ founders sampleRuntime sampleTokens inputs'
    Exact (run inputs) (before inputs) ∧
    (run inputs).filter (fun entry => ¬ Bystander admins entry.1)
      = (run inputs').filter (fun entry => ¬ Bystander admins entry.1) := by
  intro before run inputs inputs' admins
  have hclock : ClockForward inputs := List.pairwise_of_forall_mem_list (by decide +kernel)
  have hclock' : ClockForward inputs' := List.pairwise_of_forall_mem_list (by decide +kernel)
  have hharmless : ∀ more, (∀ input ∈ more, ∀ e ∈ input.2.execution, e.amount.val = 0) →
      Run.Along (Chain.step sampleRuntime) (Harmless sampleRuntime) (Chain.start sampleTokens)
        more :=
    fun more hzero => (Run.along_iff _).mpr (fun pre input hpre =>
      harmless_of_zero (hzero input (hpre.subset (List.mem_append_right _ List.mem_cons_self))))
  have hrun := hharmless inputs (by decide +kernel)
  have h := @allowance_untouched sampleRuntime sampleTokens inputs (by decide +kernel) hclock
  have hsame := h.2 inputs' (by decide +kernel) hclock' hrun (hharmless inputs' (by decide +kernel))
    (by decide +kernel)
  exact ⟨h.1.mpr hrun inputs (List.prefix_refl _), hsame⟩

/-- A stranger sends two executions of 1000 for the source of somebody else.
    Nothing is transferred, but the allowance of the day is used up: without the
    stranger the owner could transfer. -/
theorem allowance_consumed :
    let before := Run.after (Chain.step sampleRuntime) (Chain.start sampleTokens)
    let attack := [sampleDirect (sampleExecute 1000), sampleDirect (sampleExecute 1000)]
    let inputs := sampleStart ++ attack
    sampleRuntime.Separates (profileSeeds inputs) ∧ ClockForward inputs ∧
    (∀ input ∈ attack, Bystander (founders sampleRuntime sampleTokens inputs) input) ∧
    ¬ Exact (Run.log (Chain.step sampleRuntime) (Chain.start sampleTokens) inputs)
      (before inputs) ∧
    (Chain.step sampleRuntime (before sampleStart) (sampleTransfer 1)).1 = .ok () ∧
    (Chain.step sampleRuntime (before inputs) (sampleTransfer 1)).1
      = .error (.hook (.code .dailyLimitExceeded)) := by
  intro before attack inputs
  exact ⟨by decide +kernel, List.pairwise_of_forall_mem_list (by decide +kernel),
    by decide +kernel, by decide +kernel, by decide +kernel, by decide +kernel⟩

end Compliance

end Stablecoin

end SolanaLab
