import SolanaLab.Stablecoin.Redemption

/-!
# The Counters of the Redemption Vault

The vault counts amounts and the requests are what it counts. This module is
about how the two agree after any run, and why a request that waits can always
be settled as far as the counters go.

For each status the vault has the sum over the requests of that status. What
was requested is the sum of the four, so each of them has room for whatever is
still outstanding: settling a request takes away what is there and adds what
fits.

Requests are never taken back and keep their amount and owner. Their ids are
the numbers below the next one.

## Main definitions

* `World.sumOf`: A quantity added up over the requests of a status.
* `World.requestIds`: The ids of the requests.
* `Accounted`: The vault counts what the requests say.
* `Kept`: A request as it was, or settled meanwhile.

## Theorems

* `process_accounted`: An instruction keeps the vault in step with the requests.
* `process_kept`: An instruction keeps every request.
* `Accounted.exists_count`: The counters have room to settle a request.
* `vault_accounts`: Vault and requests after any run.
-/

namespace SolanaLab

namespace Stablecoin

namespace Redemption

open Checked

namespace World

variable {M : Type} [AddCommMonoid M]

/-- A quantity added up over the requests of a status. The quantity may be a
    number or a multiset, so that the totals of the vault and the lists of
    settled requests are the same sum. -/
def sumOf (world : World) (status : RedemptionStatus) (f : Pubkey → Word 64 → M) : M :=
  world.requests.sumBy (fun key request =>
    if request.status = status then f key request.amount else 0)

/-- What the requests of a status add up to. -/
def totalOf (world : World) (status : RedemptionStatus) : Nat :=
  world.sumOf status (fun _ amount => amount.val)

/-- The ids of the requests, each as often as a request has it. -/
def requestIds (world : World) : Multiset Nat :=
  world.requests.sumBy (fun _ request => {request.requestId.val})

end World

/-- A vault counts what the requests say, and what was requested is what became
    of it. The five counters of the vault are all determined by the requests. -/
structure RedemptionVault.Counts (world : World) (vault : RedemptionVault) : Prop where
  totals : ∀ s, (vault.total s).val = world.totalOf s
  requested : vault.totalRequested.val = vault.outstandingAmount.val + vault.totalCompleted.val
    + vault.totalCancelled.val + vault.totalRejected.val

/-- There is one protocol and one vault, the vault counts what the requests say
    and the protocol numbers them. There can be only one of each, because their
    addresses are those of fixed seeds. -/
structure Accounted (rt : Runtime) (world : World) : Prop where
  protocols : world.protocolConfigs.Everywhere (fun key _ => key = rt.address Seeds.protocol)
  vaults : world.vaults.Everywhere
    (fun key _ => key = rt.address (Seeds.redemptionVault (rt.address Seeds.protocol)))
  vaultFound : world.protocolConfigs.Everywhere
    (fun key _ => ∃ vault, world.vaults.get? (rt.address (Seeds.redemptionVault key)) = some vault)
  unmade : world.protocolConfigs.get? (rt.address Seeds.protocol) = none →
    world.requests = SortedMap.empty
  counts : world.vaults.Everywhere (fun _ vault => vault.Counts world)
  ids : world.protocolConfigs.Everywhere
    (fun _ protocol => world.requestIds = Multiset.range protocol.nextRequestId.val)

/-- There is nothing to count. -/
theorem accounted_empty (rt : Runtime) : Accounted rt World.empty :=
  ⟨SortedMap.everywhere_empty _, SortedMap.everywhere_empty _, SortedMap.everywhere_empty _,
    fun _ => rfl, SortedMap.everywhere_empty _, SortedMap.everywhere_empty _⟩

/-- A request as it was, or settled meanwhile. Only the status and the time of
    the change can differ, and the status only if the request waited. -/
structure Kept (request request' : RedemptionRequest) : Prop where
  requestId : request'.requestId = request.requestId
  owner : request'.owner = request.owner
  amount : request'.amount = request.amount
  status : request.status ≠ .pending → request'.status = request.status

/-- A request is kept as it is. -/
theorem Kept.refl (request : RedemptionRequest) : Kept request request :=
  ⟨rfl, rfl, rfl, fun _ => rfl⟩

/-- What is kept twice is kept: once the status is final the second step cannot
    change it. -/
theorem Kept.trans {r r' r'' : RedemptionRequest} (h : Kept r r') (h' : Kept r' r'') :
    Kept r r'' where
  requestId := h'.requestId.trans h.requestId
  owner := h'.owner.trans h.owner
  amount := h'.amount.trans h.amount
  status := by
    intro hne
    have hstatus := h.status hne
    rw [← hstatus] at hne
    exact (h'.status hne).trans hstatus

section Steps

variable {rt : Runtime} {env : Env} {world world' : World} {M : Type} [AddCommMonoid M]

/-- There is one protocol and one vault, so what is written of them is all
    there is. -/
theorem Accounted.rewrite (ha : Accounted rt world) {protocolKey vaultKey : Pubkey}
    {protocol : ProtocolConfig} {vault : RedemptionVault}
    (hprotocols : world'.protocolConfigs = world.protocolConfigs.insert protocolKey protocol)
    (hvaults : world'.vaults = world.vaults.insert vaultKey vault)
    (hprotocol : protocolKey = rt.address Seeds.protocol)
    (hvault : vaultKey = rt.address (Seeds.redemptionVault (rt.address Seeds.protocol)))
    (hcounts : vault.Counts world')
    (hids : world'.requestIds = Multiset.range protocol.nextRequestId.val) :
    Accounted rt world' := by
  subst hprotocol hvault
  -- There is one protocol and one vault, so writing them is all there is.
  refine ⟨?_, ?_, ?_, fun hnone => ?_, ?_, ?_⟩
  · rw [hprotocols]
    exact ha.protocols.insert rfl
  · rw [hvaults]
    exact ha.vaults.insert rfl
  · rw [hprotocols, hvaults]
    exact SortedMap.everywhere_insert_only ⟨vault, SortedMap.get?_insert_self _ _ _⟩ ha.protocols
  · rw [hprotocols, SortedMap.get?_insert_self] at hnone
    exact absurd hnone (by simp only [reduceCtorEq, not_false_eq_true])
  · rw [hvaults]
    exact SortedMap.everywhere_insert_only hcounts ha.vaults
  · rw [hprotocols]
    exact SortedMap.everywhere_insert_only hids ha.protocols

/-! ### Sums over the requests -/

/-- A new request adds its amount to those that wait. -/
theorem Opened.sumOf {ctx : RequestRedemption} {amount : Word 64} {protocol : ProtocolConfig}
    {vault vault' : RedemptionVault} {next : Word 64}
    (h : Opened rt env world ctx amount world' protocol vault vault' next)
    (status : RedemptionStatus) (f : Pubkey → Word 64 → M) :
    world'.sumOf status f = world.sumOf status f
      + if .pending = status then f ctx.redemptionRequest amount else 0 := by
  have hnew := (World.occupied_eq_false.mp h.requestNew).2.2.1
  rw [h.after]
  exact SortedMap.sumBy_insert_of_none _ _ _ hnew

/-- A request that is settled moves from those that wait to those of its new
    status. -/
theorem Settled.sumOf {vaultKey requestKey : Pubkey} {status : RedemptionStatus}
    {request : RedemptionRequest} {vault vault' : RedemptionVault}
    (h : Settled env world vaultKey requestKey status world' request vault vault')
    (s : RedemptionStatus) (f : Pubkey → Word 64 → M) :
    world'.sumOf s f + (if .pending = s then f requestKey request.amount else 0)
      = world.sumOf s f + if status = s then f requestKey request.amount else 0 := by
  have hsum := SortedMap.sumBy_insert_of_some
    (fun key (r : RedemptionRequest) => if r.status = s then f key r.amount else 0) world.requests
    { request with status, updatedAt := env.unixTimestamp } h.requestFound
  rw [h.pending] at hsum
  rw [World.sumOf, h.requests]
  exact hsum

/-- A new request has the next id. -/
theorem Opened.requestIds {ctx : RequestRedemption} {amount : Word 64} {protocol : ProtocolConfig}
    {vault vault' : RedemptionVault} {next : Word 64}
    (h : Opened rt env world ctx amount world' protocol vault vault' next) :
    world'.requestIds = world.requestIds + {protocol.nextRequestId.val} := by
  have hnew := (World.occupied_eq_false.mp h.requestNew).2.2.1
  rw [h.after]
  exact SortedMap.sumBy_insert_of_none _ _ _ hnew

/-- Settling changes no id. -/
theorem Settled.requestIds {vaultKey requestKey : Pubkey} {status : RedemptionStatus}
    {request : RedemptionRequest} {vault vault' : RedemptionVault}
    (h : Settled env world vaultKey requestKey status world' request vault vault') :
    world'.requestIds = world.requestIds := by
  have hsum := SortedMap.sumBy_insert_of_some
    (fun _ (r : RedemptionRequest) => ({r.requestId.val} : Multiset Nat)) world.requests
    { request with status, updatedAt := env.unixTimestamp } h.requestFound
  rw [World.requestIds, h.requests]
  exact add_right_cancel hsum

/-! ### What one instruction keeps -/

/-- A new request is counted as requested and as outstanding. -/
theorem Opened.counts {ctx : RequestRedemption} {amount : Word 64} {protocol : ProtocolConfig}
    {vault vault' : RedemptionVault} {next : Word 64}
    (h : Opened rt env world ctx amount world' protocol vault vault' next)
    (hc : vault.Counts world) : vault'.Counts world' := by
  refine ⟨fun s => ?_, ?_⟩
  · have hsum := h.sumOf s (fun _ amount => amount.val)
    rw [h.total, hc.totals, World.totalOf, World.totalOf, hsum]
  · have hpending := h.total .pending
    have hcompleted := h.total .completed
    have hcancelled := h.total .cancelled
    have hrejected := h.total .rejected
    have hrequested := hc.requested
    simp only [RedemptionVault.total, reduceCtorEq, if_true, if_false]
      at hpending hcompleted hcancelled hrejected
    rw [h.totalRequested]
    omega

/-- A settled request is counted under its status and no longer as outstanding. -/
theorem Settled.counts {vaultKey requestKey : Pubkey} {status : RedemptionStatus}
    {request : RedemptionRequest} {vault vault' : RedemptionVault}
    (h : Settled env world vaultKey requestKey status world' request vault vault')
    (hc : vault.Counts world) : vault'.Counts world' := by
  refine ⟨fun s => ?_, ?_⟩
  · have hsum := h.sumOf s (fun _ amount => amount.val)
    have htotal := h.total s
    rw [hc.totals] at htotal
    exact Nat.add_right_cancel (htotal.trans hsum.symm)
  · have hpending := h.total .pending
    have hcompleted := h.total .completed
    have hcancelled := h.total .cancelled
    have hrejected := h.total .rejected
    have hrequested := hc.requested
    simp only [RedemptionVault.total, reduceCtorEq, if_true, if_false]
      at hpending hcompleted hcancelled hrejected
    rw [h.totalRequested]
    -- The amount leaves what is outstanding and comes to one of the others.
    cases status <;> simp only [reduceCtorEq, if_true, if_false]
      at hpending hcompleted hcancelled hrejected <;> omega

/-- A new request keeps the vault in step: the vault counts it and the protocol
    has given it the next number. -/
theorem Opened.accounted {ctx : RequestRedemption} {amount : Word 64} {protocol : ProtocolConfig}
    {vault vault' : RedemptionVault} {next : Word 64}
    (h : Opened rt env world ctx amount world' protocol vault vault' next)
    (ha : Accounted rt world) : Accounted rt world' := by
  have hprotocol : ctx.protocolConfig = rt.address Seeds.protocol :=
    ha.protocols _ _ h.protocolFound
  have hvault : ctx.redemptionVault
      = rt.address (Seeds.redemptionVault (rt.address Seeds.protocol)) :=
    ha.vaults _ _ h.vaultFound
  have hcounts := h.counts (ha.counts _ _ h.vaultFound)
  -- The new request has the id that comes next.
  have hids : world'.requestIds = Multiset.range next.val := by
    have hbefore : world.requestIds = Multiset.range protocol.nextRequestId.val :=
      ha.ids _ _ h.protocolFound
    rw [h.requestIds, hbefore, h.counted, Multiset.range_succ, add_comm, Multiset.singleton_add]
  have hprotocols : world'.protocolConfigs = world.protocolConfigs.insert ctx.protocolConfig
      { protocol with nextRequestId := next } := by rw [h.after]
  have hvaults : world'.vaults = world.vaults.insert ctx.redemptionVault vault' := by rw [h.after]
  exact ha.rewrite hprotocols hvaults hprotocol hvault hcounts hids

/-- Settling keeps the vault in step, whatever else is written of the
    protocol. -/
theorem Settled.accounted {vaultKey requestKey protocolKey : Pubkey} {status : RedemptionStatus}
    {request : RedemptionRequest} {vault vault' : RedemptionVault}
    (h : Settled env world vaultKey requestKey status world' request vault vault')
    (ha : Accounted rt world) {protocol protocol' : ProtocolConfig}
    (hfound : world.protocolConfigs.get? protocolKey = some protocol)
    (hprotocols : world'.protocolConfigs = world.protocolConfigs.insert protocolKey protocol')
    (hcounter : protocol'.nextRequestId = protocol.nextRequestId) : Accounted rt world' := by
  have hids : world.requestIds = Multiset.range protocol.nextRequestId.val := ha.ids _ _ hfound
  refine ha.rewrite hprotocols h.vaults (ha.protocols _ _ hfound) (ha.vaults _ _ h.vaultFound)
    (h.counts (ha.counts _ _ h.vaultFound)) ?_
  rw [h.requestIds, hids, hcounter]

/-- An action that is not about a request keeps the vault in step. -/
theorem Logged.accounted {protocolKey logKey actor target : Pubkey} {action : AdminAction}
    {amount next : Word 64} {protocol changed : ProtocolConfig}
    (h : Logged rt env world protocolKey logKey actor action target amount world' protocol changed
      next) (hsame : SameRequests world world') (ha : Accounted rt world) :
    Accounted rt world' := by
  have hprotocol : protocolKey = rt.address Seeds.protocol := ha.protocols _ _ h.protocolFound
  rcases ha.vaultFound _ _ h.protocolFound with ⟨vault, hvault⟩
  have hids : world.requestIds = Multiset.range protocol.nextRequestId.val :=
    ha.ids _ _ h.protocolFound
  have hcounts : vault.Counts world := ha.counts _ _ hvault
  refine ha.rewrite h.protocolConfigs ?_ hprotocol (ha.vaults _ _ hvault)
    ⟨fun s => ?_, hcounts.requested⟩ ?_
  · rw [hsame.2, SortedMap.insert_get? _ hvault]
  · rw [World.totalOf, World.sumOf, hsame.1]
    exact hcounts.totals s
  · rw [World.requestIds, hsame.1, h.sameCounters.2]
    exact hids

/-- An instruction keeps the vault in step with the requests. Opening and
    settling requests are the cases with content. All others write the protocol,
    and leave vault and requests as they are. -/
theorem process_accounted {instruction : Instruction}
    (h : process rt env world instruction = .ok world') (ha : Accounted rt world) :
    Accounted rt world' := by
  cases instruction with
  | initializeProtocol ctx =>
      rcases initializeProtocolHandler_eq_ok.mp h with
        ⟨-, ⟨hprotocol, hnew⟩, ⟨hvault, -⟩, -, rfl⟩
      -- Without a protocol there are no requests yet.
      have hempty : world.requests = SortedMap.empty :=
        ha.unmade (by rw [← hprotocol]; exact (World.occupied_eq_false.mp hnew).1)
      rw [hprotocol] at hvault
      refine ha.rewrite rfl rfl hprotocol hvault ⟨fun s => ?_, rfl⟩ ?_
      · rw [World.totalOf, World.sumOf, hempty]
        cases s <;> rfl
      · rw [World.requestIds, hempty]
        rfl
  | requestRedemption ctx amount =>
      rcases requestRedemptionHandler_eq_ok h with ⟨protocol, vault, vault', next, ho⟩
      exact ho.accounted ha
  | cancelRedemption ctx =>
      rcases cancelRedemptionHandler_eq_ok h with
        ⟨⟨request, vault, vault', -, -, hs⟩, ⟨protocol, hfound⟩, hprotocols, -⟩
      refine hs.accounted ha hfound ?_ rfl
      rw [hprotocols, SortedMap.insert_get? _ hfound]
  | completeRedemption ctx =>
      rcases settleRequest_eq_ok h with ⟨protocol, request, vault, vault', next, -, hs, hl⟩
      exact hs.accounted ha hl.protocolFound hl.protocolConfigs rfl
  | rejectRedemption ctx =>
      rcases settleRequest_eq_ok h with ⟨protocol, request, vault, vault', next, -, hs, hl⟩
      exact hs.accounted ha hl.protocolFound hl.protocolConfigs rfl
  -- The instructions of the admin touch no request and no sum.
  | setRedemptionsPaused ctx paused =>
      rcases setRedemptionsPausedHandler_eq_ok h with ⟨protocol, next, -, hsame, hl⟩
      exact hl.accounted hsame ha
  | beginAdminTransfer ctx newAdmin =>
      rcases beginAdminTransferHandler_eq_ok h with ⟨protocol, next, -, -, hsame, hl⟩
      exact hl.accounted hsame ha
  | acceptAdminTransfer ctx =>
      rcases acceptAdminTransferHandler_eq_ok h with ⟨protocol, next, -, -, hsame, hl⟩
      exact hl.accounted hsame ha

/-! ### What becomes of a request -/

/-- A new request is at a free address, so the earlier ones are as they were. -/
theorem Opened.kept {ctx : RequestRedemption} {amount : Word 64} {protocol : ProtocolConfig}
    {vault vault' : RedemptionVault} {next : Word 64}
    (h : Opened rt env world ctx amount world' protocol vault vault' next) {key : Pubkey}
    {request : RedemptionRequest} (hget : world.requests.get? key = some request) :
    world'.requests.get? key = some request := by
  rw [h.after]
  exact SortedMap.get?_insert_of_some hget (World.occupied_eq_false.mp h.requestNew).2.2.1

/-- Settling a request keeps it, and leaves all others as they were. -/
theorem Settled.kept {vaultKey requestKey : Pubkey} {status : RedemptionStatus}
    {settled : RedemptionRequest} {vault vault' : RedemptionVault}
    (h : Settled env world vaultKey requestKey status world' settled vault vault') {key : Pubkey}
    {request : RedemptionRequest} (hget : world.requests.get? key = some request) :
    ∃ request', world'.requests.get? key = some request' ∧ Kept request request' := by
  rw [h.requests]
  by_cases hk : key = requestKey
  · rw [hk, h.requestFound, Option.some.injEq] at hget
    rw [hk, SortedMap.get?_insert_self, ← hget]
    exact ⟨_, rfl, rfl, rfl, rfl, fun hne => absurd h.pending hne⟩
  · rw [SortedMap.get?_insert_of_ne _ _ hk]
    exact ⟨request, hget, Kept.refl request⟩

/-- An instruction keeps every request, and settles none that is settled. No
    instruction removes a request. -/
theorem process_kept {instruction : Instruction} (h : process rt env world instruction = .ok world')
    {key : Pubkey} {request : RedemptionRequest} (hget : world.requests.get? key = some request) :
    ∃ request', world'.requests.get? key = some request' ∧ Kept request request' := by
  -- Only settling changes a request, and not what it is about.
  have hsame : world'.requests = world.requests →
      ∃ request', world'.requests.get? key = some request' ∧ Kept request request' := by
    intro heq
    exact ⟨request, by rw [heq]; exact hget, Kept.refl request⟩
  cases instruction with
  | initializeProtocol ctx =>
      rcases initializeProtocolHandler_eq_ok.mp h with ⟨-, -, -, -, rfl⟩
      exact hsame rfl
  | requestRedemption ctx amount =>
      rcases requestRedemptionHandler_eq_ok h with ⟨protocol, vault, vault', next, ho⟩
      exact ⟨request, ho.kept hget, Kept.refl request⟩
  | cancelRedemption ctx =>
      rcases cancelRedemptionHandler_eq_ok h with ⟨⟨settled, vault, vault', -, -, hs⟩, -, -, -⟩
      exact hs.kept hget
  | completeRedemption ctx =>
      rcases settleRequest_eq_ok h with ⟨protocol, settled, vault, vault', next, -, hs, -⟩
      exact hs.kept hget
  | rejectRedemption ctx =>
      rcases settleRequest_eq_ok h with ⟨protocol, settled, vault, vault', next, -, hs, -⟩
      exact hs.kept hget
  | setRedemptionsPaused ctx paused =>
      rcases setRedemptionsPausedHandler_eq_ok h with ⟨protocol, next, -, hs, -⟩
      exact hsame hs.1
  | beginAdminTransfer ctx newAdmin =>
      rcases beginAdminTransferHandler_eq_ok h with ⟨protocol, next, -, -, hs, -⟩
      exact hsame hs.1
  | acceptAdminTransfer ctx =>
      rcases acceptAdminTransferHandler_eq_ok h with ⟨protocol, next, -, -, hs, -⟩
      exact hsame hs.1

/-! ### Settling -/

/-- Loading the protocol fails with an error of the framework, not of the
    program. -/
theorem loadProtocol_ne_code {key : Pubkey} (e : ErrorCode) :
    loadProtocol rt world key ≠ .error (.code e) := by
  simp only [ne_eq, loadProtocol, bind_eq_error, load_ne_code, checkSeeds_ne_code, pure,
    Except.pure, reduceCtorEq, and_false, exists_false, or_false, not_false_eq_true]

/-- So does loading the vault. -/
theorem loadVault_ne_code {protocolConfig key : Pubkey} (e : ErrorCode) :
    loadVault rt world protocolConfig key ≠ .error (.code e) := by
  simp only [ne_eq, loadVault, bind_eq_error, load_ne_code, checkSeeds_ne_code, pure,
    Except.pure, reduceCtorEq, and_false, exists_false, or_false, not_false_eq_true]

/-- And so does loading a request. -/
theorem loadRequest_ne_code {protocolConfig vault key : Pubkey} (e : ErrorCode) :
    loadRequest rt world protocolConfig vault key ≠ .error (.code e) := by
  simp only [ne_eq, loadRequest, bind_eq_error, load_ne_code, checkSeeds_ne_code, hasOne_ne_code,
    constraint_ne_code, pure, Except.pure, reduceCtorEq, and_false, exists_false,
    or_false, not_false_eq_true]

/-- The counters have room to settle a request that waits: its amount is part of
    what is outstanding, and what is outstanding is part of what was
    requested. -/
theorem Accounted.exists_count (ha : Accounted rt world) {vaultKey requestKey : Pubkey}
    {vault : RedemptionVault} {request : RedemptionRequest}
    (hvault : world.vaults.get? vaultKey = some vault)
    (hrequest : world.requests.get? requestKey = some request)
    (hpending : request.status = .pending) {status : RedemptionStatus}
    (hstatus : status ≠ .pending) :
    ∃ outstandingAmount counted,
      checkedSub vault.outstandingAmount request.amount = some outstandingAmount ∧
      RedemptionVault.count { vault with outstandingAmount } status request.amount
        = some counted := by
  have hc : vault.Counts world := ha.counts _ _ hvault
  -- A pending amount is part of what the vault has outstanding.
  have hle : request.amount.val ≤ vault.outstandingAmount.val := by
    have hpart := SortedMap.le_sumBy
      (fun _ (r : RedemptionRequest) => if r.status = .pending then r.amount.val else 0) _ hrequest
    rw [if_pos hpending] at hpart
    exact hpart.trans (le_of_eq (hc.totals .pending).symm)
  have hroom := hc.requested
  have hmax := vault.totalRequested.isLt
  rcases exists_sub hle with ⟨outstanding, houtstanding⟩
  refine ⟨outstanding, ?_⟩
  simp only [checkedSub_eq_some.mpr houtstanding, true_and, RedemptionVault.count]
  -- What was requested is a word, and the total of a status with the amount is part of
  -- it.
  cases status with
  | pending => exact absurd rfl hstatus
  | cancelled =>
      rcases exists_add (show vault.totalCancelled.val + request.amount.val < 2 ^ 64 by omega) with
        ⟨total, htotal⟩
      exact ⟨_, by rw [checkedAdd_eq_some.mpr htotal]; rfl⟩
  | completed =>
      rcases exists_add (show vault.totalCompleted.val + request.amount.val < 2 ^ 64 by omega) with
        ⟨total, htotal⟩
      exact ⟨_, by rw [checkedAdd_eq_some.mpr htotal]; rfl⟩
  | rejected =>
      rcases exists_add (show vault.totalRejected.val + request.amount.val < 2 ^ 64 by omega) with
        ⟨total, htotal⟩
      exact ⟨_, by rw [checkedAdd_eq_some.mpr htotal]; rfl⟩

/-- Cancelling never fails for want of what is outstanding. -/
theorem Accounted.cancel_ne (ha : Accounted rt world) (ctx : CancelRedemption) :
    cancelRedemptionHandler rt env world ctx ≠ .error (.code .vaultOutstandingTooLow) := by
  simp only [ne_eq, cancelRedemptionHandler, bind_eq_error, checkSigner_ne_code,
    loadProtocol_ne_code, loadVault_ne_code, loadRequest_ne_code, requireCode_eq_error,
    ProgramError.code.injEq, reduceCtorEq, and_false, false_or, okOr_eq_error, and_true,
    loadVault_eq_ok, requireCode_eq_ok, okOr_eq_ok, pure, Except.pure, exists_false, or_false]
  rintro ⟨-, -, -, -, vault, ⟨hvault, -⟩, request, hload, -, hpending, -, -, hfull⟩
  rcases ha.exists_count hvault (loadRequest_eq_ok hload).1 hpending
    (show RedemptionStatus.cancelled ≠ .pending by decide) with ⟨outstanding, counted, hsub, hcount⟩
  simp only [hsub, hcount, reduceCtorEq, Option.some.injEq, exists_eq_left', or_false] at hfull

/-- Completing and rejecting never fail for want of what is outstanding. -/
theorem Accounted.settle_ne (ha : Accounted rt world) (ctx : AdminRedemptionAction)
    {status : RedemptionStatus} (hstatus : status ≠ .pending) (action : AdminAction) :
    settleRequest rt env world ctx status action ≠ .error (.code .vaultOutstandingTooLow) := by
  simp only [ne_eq, settleRequest, bind_eq_error, checkSigner_ne_code, loadProtocol_ne_code,
    loadVault_ne_code, loadRequest_ne_code, init_ne_code, requireCode_eq_error,
    ProgramError.code.injEq, reduceCtorEq, and_false, false_or, okOr_eq_error, and_true,
    loadVault_eq_ok, requireCode_eq_ok, okOr_eq_ok, writeAdminLog, pure, Except.pure, exists_false,
    or_false]
  rintro ⟨-, -, -, -, -, -, vault, ⟨hvault, -⟩, request, hload, -, -, -, hpending, hfull⟩
  rcases ha.exists_count hvault (loadRequest_eq_ok hload).1 hpending hstatus with
    ⟨outstanding, counted, hsub, hcount⟩
  simp only [hsub, hcount, reduceCtorEq, Option.some.injEq, exists_eq_left', or_false] at hfull

end Steps

/-- Every run keeps the vault in step with the requests. -/
theorem run_accounted (rt : Runtime) (inputs : List Input) :
    Accounted rt (Run.after (step rt) World.empty inputs) := by
  refine Run.invariant (step rt) (P := fun _ world => Accounted rt world) (accounted_empty rt)
    (fun _ world input ha => ?_) inputs
  rcases transact_cases (process rt) .runtime world input with ⟨e, he⟩ | ⟨world', hok, hstep⟩
  · rw [step, he]
    exact ha
  · rw [step, hstep]
    exact process_accounted hok ha

/-- Whatever is done, a request stays and keeps its id, owner and amount, and
    its status once it is settled. This holds from any world in which the
    request is found, not only from those a run reaches. -/
theorem run_kept (rt : Runtime) {world : World} {key : Pubkey} {request : RedemptionRequest}
    (hget : world.requests.get? key = some request) (inputs : List Input) :
    ∃ request', (Run.after (step rt) world inputs).requests.get? key = some request' ∧
      Kept request request' := by
  refine Run.invariant (step rt)
    (P := fun _ w => ∃ request', w.requests.get? key = some request' ∧ Kept request request')
    ⟨request, hget, Kept.refl request⟩ (fun _ w input hkept => ?_) inputs
  rcases hkept with ⟨request', hget', hkept⟩
  rcases transact_cases (process rt) .runtime w input with ⟨e, he⟩ | ⟨w', hok, hstep⟩
  · rw [step, he]
    exact ⟨request', hget', hkept⟩
  · rcases process_kept hok hget' with ⟨request'', hget'', hkept'⟩
    rw [step, hstep]
    exact ⟨request'', hget'', hkept.trans hkept'⟩

/-- Vault and requests after any run, and that no request that waits is ever
    stuck for want of what the vault counts. -/
theorem vault_accounts (rt : Runtime) (inputs : List Input) :
    let world := Run.after (step rt) World.empty inputs
    world.protocolConfigs.Everywhere (fun key protocol =>
      world.requestIds = Multiset.range protocol.nextRequestId.val ∧
      ∃ vault, world.vaults.get? (rt.address (Seeds.redemptionVault key)) = some vault) ∧
    world.vaults.Everywhere (fun _ vault =>
      vault.outstandingAmount.val = world.totalOf .pending ∧
      vault.totalCompleted.val = world.totalOf .completed ∧
      vault.totalCancelled.val = world.totalOf .cancelled ∧
      vault.totalRejected.val = world.totalOf .rejected ∧
      vault.totalRequested.val = vault.outstandingAmount.val + vault.totalCompleted.val
        + vault.totalCancelled.val + vault.totalRejected.val) ∧
    world.requests.Everywhere (fun key request => ∀ more, ∃ request',
      (Run.after (step rt) World.empty (inputs ++ more)).requests.get? key = some request' ∧
      request'.requestId = request.requestId ∧ request'.owner = request.owner ∧
      request'.amount = request.amount ∧
      (request.status ≠ .pending → request'.status = request.status)) ∧
    ∀ env,
      (∀ ctx, (step rt world (env, .cancelRedemption ctx)).1
        ≠ .error (.code .vaultOutstandingTooLow)) ∧
      (∀ ctx, (step rt world (env, .completeRedemption ctx)).1
        ≠ .error (.code .vaultOutstandingTooLow)) ∧
      ∀ ctx, (step rt world (env, .rejectRedemption ctx)).1
        ≠ .error (.code .vaultOutstandingTooLow) := by
  intro world
  have ha : Accounted rt world := run_accounted rt inputs
  have hne : (ProgramError.runtime : Error) ≠ .code .vaultOutstandingTooLow := by
    simp only [ne_eq, reduceCtorEq, not_false_eq_true]
  refine ⟨fun key protocol hget => ⟨ha.ids _ _ hget, ha.vaultFound _ _ hget⟩,
    fun key vault hget => ?_, fun key request hget more => ?_, fun env => ⟨?_, ?_, ?_⟩⟩
  · -- The totals are those of the requests in each status.
    have hc : vault.Counts world := ha.counts _ _ hget
    exact ⟨hc.totals .pending, hc.totals .completed, hc.totals .cancelled, hc.totals .rejected,
      hc.requested⟩
  -- A request is kept through whatever comes after.
  · rcases run_kept rt hget more with ⟨request', hget', hkept⟩
    rw [Run.after_append]
    exact ⟨request', hget', hkept.requestId, hkept.owner, hkept.amount, hkept.status⟩
  · intro ctx
    exact transact_ne_error (process rt) .runtime hne (ha.cancel_ne ctx)
  · intro ctx
    exact transact_ne_error (process rt) .runtime hne (ha.settle_ne ctx (by decide) _)
  · intro ctx
    exact transact_ne_error (process rt) .runtime hne (ha.settle_ne ctx (by decide) _)

end Redemption

end Stablecoin

end SolanaLab
