import SolanaLab.Stablecoin.RedemptionVault

/-!
# The Audit Log of the Admins

Every action of an admin leaves an entry. This module is about what the entries
tell: whoever reads them in the order of their ids, starting from the first
admin, arrives at the present admin, the transfer under way, the pause, and the
requests that were completed and rejected.

Nothing else writes any of these, so each is recovered from the entries alone.
The five handlers put different things in the target and the amount of an entry,
and `Audit.apply` reads them back.

An admin changes in two steps. The second is signed by whoever the then admin
has named last, and `Latest` is what a run keeps of that.

The order of the entries is not in the accounts, which are found by address,
but in their ids. `Audited` therefore keeps a list of entries next to the
world: as a multiset it is what the accounts hold, its ids are counted from
zero, and folding `Audit.apply` over it gives the present state.

## Main definitions

* `Audit`: What the entries tell.
* `adminAction`: Which action of an admin an entry of the run's log is.
* `HoldsRole`: Who may do which action.
* `Audited`: The entries tell what the records say.
* `Latest`: A transfer under way is the latest that the admin began.

## Theorems

* `Logged.audited`: An action and its entry do the same.
* `process_audited`: An instruction keeps entries and records in step.
* `process_acted`: An action is signed by whoever has the role.
* `process_admin`: Only accepting a transfer changes the admin.
* `audit_log`: The audit log after any run.
-/

namespace SolanaLab

namespace Stablecoin

namespace Redemption

open Checked

/-- What the entries of the log tell: the state of the protocol as far as admins
    change it, and the settled requests with their amounts. Cancelled requests
    are missing because owners cancel, and that leaves no entry. -/
structure Audit where
  admin : Pubkey
  pendingAdmin : Pubkey
  redemptionsPaused : Bool
  completed : Multiset (Pubkey × Word 64)
  rejected : Multiset (Pubkey × Word 64)

namespace Audit

/-- The audit of a protocol that an admin has just made. -/
def initial (admin : Pubkey) : Audit := ⟨admin, Pubkey.default, false, 0, 0⟩

/-- What one more entry tells. The pause is read from the amount, which is one
    or zero, and the new admin of a transfer from the target. An accepted
    transfer makes its signer the admin and leaves nobody pending. -/
def apply (audit : Audit) (entry : AdminActionLog) : Audit :=
  match entry.action with
  | .completeRedemption =>
    { audit with completed := audit.completed + {(entry.target, entry.amount)} }
  | .rejectRedemption =>
    { audit with rejected := audit.rejected + {(entry.target, entry.amount)} }
  | .setRedemptionsPaused => { audit with redemptionsPaused := decide (entry.amount ≠ 0) }
  | .beginAdminTransfer => { audit with pendingAdmin := entry.target }
  | .acceptAdminTransfer => { audit with admin := entry.admin, pendingAdmin := Pubkey.default }

end Audit

namespace World

/-- The requests of a status with their amounts. -/
def requestsOf (world : World) (status : RedemptionStatus) : Multiset (Pubkey × Word 64) :=
  world.sumOf status (fun key amount => {(key, amount)})

/-- What the records say of a protocol and its requests. -/
def audit (world : World) (protocol : ProtocolConfig) : Audit :=
  ⟨protocol.admin, protocol.pendingAdmin, protocol.redemptionsPaused, world.requestsOf .completed,
    world.requestsOf .rejected⟩

/-- The entries of the audit log, each as often as an account has it. A
    multiset, so that an entry that was written twice would show. -/
def auditEntries (world : World) : Multiset AdminActionLog :=
  world.adminActionLogs.sumBy (fun _ entry => {entry})

end World

/-! ### What the log of a run says -/

/-- Who does which action of an admin. -/
def Instruction.adminAction : Instruction → Option (Pubkey × AdminAction)
  | .completeRedemption ctx => some (ctx.admin, .completeRedemption)
  | .rejectRedemption ctx => some (ctx.admin, .rejectRedemption)
  | .setRedemptionsPaused ctx _ => some (ctx.admin, .setRedemptionsPaused)
  | .beginAdminTransfer ctx _ => some (ctx.admin, .beginAdminTransfer)
  | .acceptAdminTransfer ctx => some (ctx.pendingAdmin, .acceptAdminTransfer)
  | _ => none

/-- Who makes the protocol. -/
def Instruction.initializes : Instruction → Option Pubkey
  | .initializeProtocol ctx => some ctx.admin
  | _ => none

/-- Who begins a transfer, and to whom. -/
def Instruction.begins : Instruction → Option (Pubkey × Pubkey)
  | .beginAdminTransfer ctx newAdmin => some (ctx.admin, newAdmin)
  | _ => none

/-- The actions of admins that succeeded, in their order, as the instructions
    say it and not the entries. -/
def adminActions (past : Log) : List (Pubkey × AdminAction) :=
  successes Instruction.adminAction past

/-- Who made the protocol. -/
def initialAdmin (past : Log) : Option Pubkey :=
  (successes Instruction.initializes past).head?

/-- Who has begun a transfer last, and to whom. -/
def latestBegin (past : Log) : Option (Pubkey × Pubkey) :=
  latest Instruction.begins past

/-- Whether a key may do an action: the pending admin accepts, and the admin
    does everything else. -/
def ProtocolConfig.HoldsRole (protocol : ProtocolConfig) (key : Pubkey) : AdminAction → Prop
  | .acceptAdminTransfer => protocol.pendingAdmin = key
  | _ => protocol.admin = key

/-! ### Entries and records -/

/-- The entries tell what the records say. They are all there is, they are
    numbered in their order, they name the actions of the log, and folding them
    from the first admin gives the audit of the records. Before there is a
    protocol there are none. -/
structure Audited (rt : Runtime) (past : Log) (world : World) (entries : List AdminActionLog) :
    Prop where
  listed : (entries : Multiset AdminActionLog) = world.auditEntries
  actions : entries.map (fun entry => (entry.admin, entry.action)) = adminActions past
  ids : world.protocolConfigs.Everywhere (fun _ protocol =>
    entries.map (fun entry => entry.actionId.val) = List.range protocol.nextAdminActionId.val)
  told : world.protocolConfigs.Everywhere (fun _ protocol => ∃ admin,
    initialAdmin past = some admin ∧
    entries.foldl Audit.apply (Audit.initial admin) = world.audit protocol)
  unmade : world.protocolConfigs.get? (rt.address Seeds.protocol) = none →
    world.adminActionLogs = SortedMap.empty ∧ initialAdmin past = none

/-- A transfer under way is the latest that the admin began, and is not to
    itself. This is what makes accepting a transfer the act of somebody the
    admin has named, also when several were named in turn. -/
structure Latest (past : Log) (protocol : ProtocolConfig) : Prop where
  begun : protocol.pendingAdmin ≠ Pubkey.default →
    latestBegin past = some (protocol.admin, protocol.pendingAdmin)
  other : protocol.pendingAdmin ≠ protocol.admin

/-- A transaction that fails leaves no entry and changes nothing. -/
theorem Audited.failed {rt : Runtime} {past : Log} {world : World} {entries : List AdminActionLog}
    {input : Input} (hA : Audited rt past world entries) (e : Error) :
    Audited rt (past ++ [(input, .error e)]) world entries := by
  have hactions : adminActions (past ++ [(input, .error e)]) = adminActions past :=
    successes_snoc_error e
  have hinitial : initialAdmin (past ++ [(input, .error e)]) = initialAdmin past := by
    rw [initialAdmin, successes_snoc_error, initialAdmin]
  exact ⟨hA.listed, hactions ▸ hA.actions, hA.ids, hinitial ▸ hA.told, hinitial ▸ hA.unmade⟩

/-- A transaction that fails begins no transfer. -/
theorem Latest.failed {past : Log} {protocol : ProtocolConfig} {input : Input}
    (hl : Latest past protocol) (e : Error) :
    Latest (past ++ [(input, .error e)]) protocol := by
  refine ⟨?_, hl.other⟩
  rw [latestBegin, latest_snoc_error]
  exact hl.begun

/-- Without a protocol there are no entries, and nothing they would have to
    tell. -/
theorem audited_empty (rt : Runtime) : Audited rt [] World.empty [] :=
  ⟨rfl, rfl, SortedMap.everywhere_empty _, SortedMap.everywhere_empty _, fun _ => ⟨rfl, rfl⟩⟩

section Steps

variable {rt : Runtime} {env : Env} {world world' : World} {past : Log}
  {entries : List AdminActionLog} {instruction : Instruction}

/-- An action and its entry do the same, so entries and records stay in step.
    What the entry tells on top of the earlier ones is the hypothesis `htold`,
    which each of the five actions has to show. -/
theorem Logged.audited {protocolKey logKey actor target : Pubkey} {action : AdminAction}
    {amount next : Word 64} {protocol changed : ProtocolConfig}
    (h : Logged rt env world protocolKey logKey actor action target amount world' protocol changed
      next) (ha : Accounted rt world) (hA : Audited rt past world entries)
    (hactor : instruction.adminAction = some (actor, action))
    (hmade : instruction.initializes = none)
    (htold : world'.audit changed = (world.audit protocol).apply
      ⟨protocolKey, protocol.nextAdminActionId, actor, action, target, amount, env.unixTimestamp,
        rt.bump (Seeds.adminActionLog protocolKey protocol.nextAdminActionId)⟩) :
    ∃ entries', Audited rt (past ++ [((env, instruction), .ok ())]) world' entries' := by
  have hprotocol : protocolKey = rt.address Seeds.protocol := ha.protocols _ _ h.protocolFound
  have hinitial : initialAdmin (past ++ [((env, instruction), .ok ())]) = initialAdmin past :=
    congrArg List.head? (successes_snoc_none hmade)
  have hactions : adminActions (past ++ [((env, instruction), .ok ())])
      = adminActions past ++ [(actor, action)] := successes_snoc_some hactor
  have hids : entries.map (fun entry => entry.actionId.val)
      = List.range protocol.nextAdminActionId.val := hA.ids _ _ h.protocolFound
  rcases hA.told _ _ h.protocolFound with ⟨admin, hadmin, hfold⟩
  -- The action is listed last, with the id that the counter was at.
  refine ⟨entries ++ [⟨protocolKey, protocol.nextAdminActionId, actor, action, target, amount,
    env.unixTimestamp, rt.bump (Seeds.adminActionLog protocolKey protocol.nextAdminActionId)⟩],
    ?_, ?_, ?_, ?_, fun hnone => ?_⟩
  -- The account of the entry is new, so no other entry is overwritten.
  · have hnew := (World.occupied_eq_false.mp h.logNew).2.2.2
    rw [World.auditEntries, h.adminActionLogs, SortedMap.sumBy_insert_of_none _ _ _ hnew,
      ← Multiset.coe_add, hA.listed]
    rfl
  · rw [List.map_append, hA.actions, hactions]
    rfl
  · rw [h.protocolConfigs]
    refine SortedMap.everywhere_insert_only ?_ (hprotocol ▸ ha.protocols)
    simp only [List.map_append, List.map_singleton, hids, h.counted, List.range_succ]
  · rw [h.protocolConfigs]
    refine SortedMap.everywhere_insert_only ⟨admin, hinitial.trans hadmin, ?_⟩
      (hprotocol ▸ ha.protocols)
    rw [List.foldl_append, hfold]
    exact htold.symm
  · rw [h.protocolConfigs, hprotocol, SortedMap.get?_insert_self] at hnone
    exact absurd hnone (by simp only [reduceCtorEq, not_false_eq_true])

/-- An instruction that is no action of an admin leaves the entries, and what
    they tell, alone. -/
theorem Audited.same (hA : Audited rt past world entries) (ha : Accounted rt world)
    (hlogs : world'.adminActionLogs = world.adminActionLogs) {protocolKey : Pubkey}
    {protocol protocol' : ProtocolConfig}
    (hfound : world.protocolConfigs.get? protocolKey = some protocol)
    (hprotocols : world'.protocolConfigs = world.protocolConfigs.insert protocolKey protocol')
    (hcounter : protocol'.nextAdminActionId = protocol.nextAdminActionId)
    (haudit : world'.audit protocol' = world.audit protocol)
    (hactor : instruction.adminAction = none) (hmade : instruction.initializes = none) :
    Audited rt (past ++ [((env, instruction), .ok ())]) world' entries := by
  have hkey : protocolKey = rt.address Seeds.protocol := ha.protocols _ _ hfound
  have hids : entries.map (fun entry => entry.actionId.val)
      = List.range protocol.nextAdminActionId.val := hA.ids _ _ hfound
  rcases hA.told _ _ hfound with ⟨admin, hadmin, hfold⟩
  -- Nothing an entry tells about is written.
  refine ⟨?_, ?_, ?_, ?_, fun hnone => ?_⟩
  · rw [World.auditEntries, hlogs]
    exact hA.listed
  · exact hA.actions.trans (successes_snoc_none hactor).symm
  · rw [hprotocols]
    refine SortedMap.everywhere_insert_only ?_ (hkey ▸ ha.protocols)
    rw [hcounter]
    exact hids
  · rw [hprotocols]
    refine SortedMap.everywhere_insert_only ⟨admin, ?_, ?_⟩ (hkey ▸ ha.protocols)
    · exact (congrArg List.head? (successes_snoc_none hmade)).trans hadmin
    · rw [haudit]
      exact hfold
  · rw [hprotocols, hkey, SortedMap.get?_insert_self] at hnone
    exact absurd hnone (by simp only [reduceCtorEq, not_false_eq_true])

/-- What does not write requests leaves those of a status alone. -/
theorem SameRequests.requestsOf (h : SameRequests world world') (status : RedemptionStatus) :
    world'.requestsOf status = world.requestsOf status := by
  rw [World.requestsOf, World.requestsOf, World.sumOf, World.sumOf, h.1]

/-- A request that is settled joins those of its new status and leaves those
    that wait. -/
theorem Settled.requestsOf {vaultKey requestKey : Pubkey} {status : RedemptionStatus}
    {request : RedemptionRequest} {vault vault' : RedemptionVault}
    (h : Settled env world vaultKey requestKey status world' request vault vault')
    {s : RedemptionStatus} (hs : .pending ≠ s) :
    world'.requestsOf s = world.requestsOf s
      + if status = s then {(requestKey, request.amount)} else 0 := by
  have hsum := h.sumOf s (fun key amount => ({(key, amount)} : Multiset (Pubkey × Word 64)))
  rw [if_neg hs, add_zero] at hsum
  exact hsum

/-- An instruction keeps entries and records in step. The three that are no
    action of an admin write no entry and change nothing that entries tell,
    except that the first makes the protocol. -/
theorem process_audited (h : process rt env world instruction = .ok world')
    (ha : Accounted rt world) (hA : Audited rt past world entries) :
    ∃ entries', Audited rt (past ++ [((env, instruction), .ok ())]) world' entries' := by
  cases instruction with
  | initializeProtocol ctx =>
      rcases initializeProtocolHandler_eq_ok.mp h with ⟨-, ⟨hprotocol, hnew⟩, -, -, rfl⟩
      have hnone : world.protocolConfigs.get? (rt.address Seeds.protocol) = none := by
        rw [← hprotocol]
        exact (World.occupied_eq_false.mp hnew).1
      rcases hA.unmade hnone with ⟨hlogs, hinitial⟩
      have hempty := ha.unmade hnone
      -- There are no entries yet, and the audit begins with this admin.
      have hentries : entries = [] := by
        have hlisted := hA.listed
        rw [World.auditEntries, hlogs] at hlisted
        exact Multiset.coe_eq_zero _ |>.mp hlisted
      rw [hentries] at hA
      refine ⟨[], hA.listed, ?_, ?_, ?_, fun hnone' => ?_⟩
      · have hactor : (Instruction.initializeProtocol ctx).adminAction = none := rfl
        exact hA.actions.trans (successes_snoc_none hactor).symm
      · exact SortedMap.everywhere_insert_only rfl (hprotocol ▸ ha.protocols)
      · refine SortedMap.everywhere_insert_only ⟨ctx.admin, ?_, ?_⟩ (hprotocol ▸ ha.protocols)
        · have hmade : (Instruction.initializeProtocol ctx).initializes = some ctx.admin := rfl
          refine (congrArg List.head? (successes_snoc_some hmade)).trans ?_
          rw [List.head?_append]
          rw [initialAdmin] at hinitial
          rw [hinitial]
          rfl
        · simp only [World.audit, World.requestsOf, World.sumOf, hempty]
          rfl
      · simp only [hprotocol, SortedMap.get?_insert_self, reduceCtorEq] at hnone'
  -- A new request is pending, and the audit is about those that were completed or
  -- rejected.
  | requestRedemption ctx amount =>
      rcases requestRedemptionHandler_eq_ok h with ⟨protocol, vault, vault', next, ho⟩
      have hprotocols : world'.protocolConfigs = world.protocolConfigs.insert ctx.protocolConfig
          { protocol with nextRequestId := next } := by rw [ho.after]
      refine ⟨entries, hA.same ha (by rw [ho.after]) ho.protocolFound hprotocols rfl ?_ rfl rfl⟩
      have hcompleted := ho.sumOf .completed
        (fun key amount => ({(key, amount)} : Multiset (Pubkey × Word 64)))
      have hrejected := ho.sumOf .rejected
        (fun key amount => ({(key, amount)} : Multiset (Pubkey × Word 64)))
      rw [if_neg (by decide), add_zero] at hcompleted hrejected
      simp only [World.audit, World.requestsOf, hcompleted, hrejected]
  | cancelRedemption ctx =>
      rcases cancelRedemptionHandler_eq_ok h with
        ⟨⟨request, vault, vault', -, -, hs⟩, ⟨protocol, hfound⟩, hprotocols, hlogs⟩
      have hwritten : world'.protocolConfigs
          = world.protocolConfigs.insert ctx.protocolConfig protocol := by
        rw [hprotocols, SortedMap.insert_get? _ hfound]
      refine ⟨entries, hA.same ha hlogs hfound hwritten rfl ?_ rfl rfl⟩
      simp only [World.audit, hs.requestsOf (show RedemptionStatus.pending ≠ .completed by decide),
        hs.requestsOf (show RedemptionStatus.pending ≠ .rejected by decide), reduceCtorEq,
        if_false, add_zero]
  -- The entry has the request as its target and the amount of the request as its amount.
  | completeRedemption ctx =>
      rcases settleRequest_eq_ok h with ⟨protocol, request, vault, vault', next, -, hs, hl⟩
      refine hl.audited ha hA rfl rfl ?_
      simp only [World.audit, Audit.apply, reduceCtorEq, if_true, if_false, add_zero,
        hs.requestsOf (show RedemptionStatus.pending ≠ .completed by decide),
        hs.requestsOf (show RedemptionStatus.pending ≠ .rejected by decide)]
  | rejectRedemption ctx =>
      rcases settleRequest_eq_ok h with ⟨protocol, request, vault, vault', next, -, hs, hl⟩
      refine hl.audited ha hA rfl rfl ?_
      simp only [World.audit, Audit.apply, reduceCtorEq, if_true, if_false, add_zero,
        hs.requestsOf (show RedemptionStatus.pending ≠ .completed by decide),
        hs.requestsOf (show RedemptionStatus.pending ≠ .rejected by decide)]
  | setRedemptionsPaused ctx paused =>
      rcases setRedemptionsPausedHandler_eq_ok h with ⟨protocol, next, -, hsame, hl⟩
      refine hl.audited ha hA rfl rfl ?_
      -- The amount of the entry is the pause as a number.
      have hpaused : paused = decide ((if paused then 1 else 0 : Word 64) ≠ 0) := by
        cases paused <;> rfl
      simp only [World.audit, Audit.apply, hsame.requestsOf, ← hpaused]
  | beginAdminTransfer ctx newAdmin =>
      rcases beginAdminTransferHandler_eq_ok h with ⟨protocol, next, -, -, hsame, hl⟩
      refine hl.audited ha hA rfl rfl ?_
      simp only [World.audit, Audit.apply, hsame.requestsOf]
  | acceptAdminTransfer ctx =>
      rcases acceptAdminTransferHandler_eq_ok h with ⟨protocol, next, -, -, hsame, hl⟩
      refine hl.audited ha hA rfl rfl ?_
      simp only [World.audit, Audit.apply, hsame.requestsOf]

/-! ### Who acts -/

/-- An action of an admin is signed by whoever has the role, and leaves an entry
    that says so. -/
theorem process_acted (h : process rt env world instruction = .ok world') {actor : Pubkey}
    {action : AdminAction} (hactor : instruction.adminAction = some (actor, action)) :
    ∃ protocolKey logKey target amount protocol changed next,
      Logged rt env world protocolKey logKey actor action target amount world' protocol changed
        next ∧ protocol.HoldsRole actor action := by
  cases instruction with
  -- These three are not actions of an admin.
  | initializeProtocol ctx | requestRedemption ctx amount | cancelRedemption ctx =>
      exact absurd hactor (by simp only [Instruction.adminAction, reduceCtorEq, not_false_eq_true])
  | completeRedemption ctx =>
      rcases settleRequest_eq_ok h with ⟨protocol, request, vault, vault', next, hadmin, -, hl⟩
      cases hactor
      exact ⟨_, _, _, _, _, _, _, hl, hadmin⟩
  | rejectRedemption ctx =>
      rcases settleRequest_eq_ok h with ⟨protocol, request, vault, vault', next, hadmin, -, hl⟩
      cases hactor
      exact ⟨_, _, _, _, _, _, _, hl, hadmin⟩
  | setRedemptionsPaused ctx paused =>
      rcases setRedemptionsPausedHandler_eq_ok h with ⟨protocol, next, hadmin, -, hl⟩
      cases hactor
      exact ⟨_, _, _, _, _, _, _, hl, hadmin⟩
  | beginAdminTransfer ctx newAdmin =>
      rcases beginAdminTransferHandler_eq_ok h with ⟨protocol, next, hadmin, -, -, hl⟩
      cases hactor
      exact ⟨_, _, _, _, _, _, _, hl, hadmin⟩
  | acceptAdminTransfer ctx =>
      rcases acceptAdminTransferHandler_eq_ok h with ⟨protocol, next, -, hpending, -, hl⟩
      cases hactor
      exact ⟨_, _, _, _, _, _, _, hl, hpending⟩

/-- An instruction that begins no transfer and changes neither admin leaves a
    transfer under way the latest. -/
theorem Latest.same {protocol protocol' : ProtocolConfig} (hl : Latest past protocol)
    (hadmin : protocol'.admin = protocol.admin)
    (hpending : protocol'.pendingAdmin = protocol.pendingAdmin)
    (hbegins : instruction.begins = none) :
    Latest (past ++ [((env, instruction), .ok ())]) protocol' where
  begun := by
    rw [hadmin, hpending]
    intro hne
    exact (latest_snoc_none hbegins).trans (hl.begun hne)
  other := by
    rw [hadmin, hpending]
    exact hl.other

/-- An action of an admin writes the one protocol there is. -/
theorem Logged.latest {protocolKey logKey actor target : Pubkey} {action : AdminAction}
    {amount next : Word 64} {protocol changed : ProtocolConfig} {now : Log}
    (h : Logged rt env world protocolKey logKey actor action target amount world' protocol changed
      next) (ha : Accounted rt world)
    (hl : Latest now { changed with nextAdminActionId := next }) :
    world'.protocolConfigs.Everywhere (fun _ protocol => Latest now protocol) := by
  have hkey : protocolKey = rt.address Seeds.protocol := ha.protocols _ _ h.protocolFound
  rw [h.protocolConfigs]
  exact SortedMap.everywhere_insert_only hl (hkey ▸ ha.protocols)

/-- An instruction keeps a transfer under way the latest. -/
theorem process_latest (h : process rt env world instruction = .ok world')
    (hdefault : Pubkey.default ∉ env.signers) (ha : Accounted rt world)
    (hl : world.protocolConfigs.Everywhere (fun _ protocol => Latest past protocol)) :
    world'.protocolConfigs.Everywhere
      (fun _ protocol => Latest (past ++ [((env, instruction), .ok ())]) protocol) := by
  cases instruction with
  -- Nobody is pending, which the default key says. It is not the admin, since it never
  -- signs.
  | initializeProtocol ctx =>
      rcases initializeProtocolHandler_eq_ok.mp h with ⟨hsigner, ⟨hprotocol, -⟩, -, -, rfl⟩
      refine SortedMap.everywhere_insert_only ⟨fun hne => absurd rfl hne, ?_⟩
        (hprotocol ▸ ha.protocols)
      intro heq
      have hadmin : Pubkey.default = ctx.admin := heq
      rw [hadmin] at hdefault
      exact hdefault hsigner
  | requestRedemption ctx amount =>
      rcases requestRedemptionHandler_eq_ok h with ⟨protocol, vault, vault', next, ho⟩
      have hkey : ctx.protocolConfig = rt.address Seeds.protocol :=
        ha.protocols _ _ ho.protocolFound
      have hbefore : Latest past protocol := hl _ _ ho.protocolFound
      rw [ho.after]
      exact SortedMap.everywhere_insert_only (hbefore.same rfl rfl rfl) (hkey ▸ ha.protocols)
  | cancelRedemption ctx =>
      rcases cancelRedemptionHandler_eq_ok h with ⟨-, -, hprotocols, -⟩
      rw [hprotocols]
      exact hl.imp (fun _ protocol hbefore => hbefore.same rfl rfl rfl)
  | completeRedemption ctx =>
      rcases settleRequest_eq_ok h with ⟨protocol, request, vault, vault', next, -, -, hlog⟩
      exact hlog.latest ha ((hl _ _ hlog.protocolFound).same rfl rfl rfl)
  | rejectRedemption ctx =>
      rcases settleRequest_eq_ok h with ⟨protocol, request, vault, vault', next, -, -, hlog⟩
      exact hlog.latest ha ((hl _ _ hlog.protocolFound).same rfl rfl rfl)
  | setRedemptionsPaused ctx paused =>
      rcases setRedemptionsPausedHandler_eq_ok h with ⟨protocol, next, -, -, hlog⟩
      exact hlog.latest ha ((hl _ _ hlog.protocolFound).same rfl rfl rfl)
  -- The transfer just begun is the latest, and the program refuses to name the admin
  -- himself.
  | beginAdminTransfer ctx newAdmin =>
      rcases beginAdminTransferHandler_eq_ok h with ⟨protocol, next, hadmin, hnew, -, hlog⟩
      have hbegins : (Instruction.beginAdminTransfer ctx newAdmin).begins
          = some (ctx.admin, newAdmin) := rfl
      refine hlog.latest ha ⟨fun _ => ?_, hnew.2⟩
      rw [hadmin]
      exact latest_snoc_some hbegins
  | acceptAdminTransfer ctx =>
      rcases acceptAdminTransferHandler_eq_ok h with ⟨protocol, next, hsome, hpending, -, hlog⟩
      -- The transfer is over, and the new admin is a key that was named.
      refine hlog.latest ha ⟨fun hne => absurd rfl hne, ?_⟩
      rw [hpending] at hsome
      exact hsome.symm

/-- Only accepting a transfer changes the admin, to whoever was named and signs.
    All other instructions write the protocol with the admin it had. -/
theorem process_admin (h : process rt env world instruction = .ok world') {key : Pubkey}
    {before after : ProtocolConfig} (hbefore : world.protocolConfigs.get? key = some before)
    (hafter : world'.protocolConfigs.get? key = some after) (hne : after.admin ≠ before.admin) :
    ∃ ctx, instruction = .acceptAdminTransfer ctx ∧ ctx.pendingAdmin ∈ env.signers ∧
      after.admin = ctx.pendingAdmin ∧ before.pendingAdmin = ctx.pendingAdmin ∧
      before.pendingAdmin ≠ Pubkey.default := by
  -- What is written of a protocol keeps its admin, but for the accepting.
  have hwrite : ∀ (written : Pubkey) (old new : ProtocolConfig),
      world.protocolConfigs.get? written = some old →
      world'.protocolConfigs = world.protocolConfigs.insert written new →
      new.admin = old.admin → False := by
    intro written old new hfound hinsert hadmin
    rw [hinsert, SortedMap.get?_insert] at hafter
    by_cases hk : key = written
    · rw [hk, hfound, Option.some.injEq] at hbefore
      rw [if_pos hk, Option.some.injEq] at hafter
      exact hne (by rw [← hafter, ← hbefore, hadmin])
    · rw [if_neg hk, hbefore, Option.some.injEq] at hafter
      exact hne (by rw [hafter])
  cases instruction with
  | initializeProtocol ctx =>
      rcases initializeProtocolHandler_eq_ok.mp h with ⟨-, ⟨-, hnew⟩, -, -, rfl⟩
      simp only [SortedMap.get?_insert_of_some hbefore (World.occupied_eq_false.mp hnew).1,
        Option.some.injEq] at hafter
      exact absurd (by rw [hafter]) hne
  | requestRedemption ctx amount =>
      rcases requestRedemptionHandler_eq_ok h with ⟨protocol, vault, vault', next, ho⟩
      have hinsert : world'.protocolConfigs = world.protocolConfigs.insert ctx.protocolConfig
          { protocol with nextRequestId := next } := by rw [ho.after]
      exact (hwrite _ _ _ ho.protocolFound hinsert rfl).elim
  | cancelRedemption ctx =>
      rcases cancelRedemptionHandler_eq_ok h with ⟨-, -, hprotocols, -⟩
      rw [hprotocols, hbefore, Option.some.injEq] at hafter
      exact absurd (by rw [hafter]) hne
  | completeRedemption ctx =>
      rcases settleRequest_eq_ok h with ⟨protocol, request, vault, vault', next, -, -, hl⟩
      exact (hwrite _ _ _ hl.protocolFound hl.protocolConfigs rfl).elim
  | rejectRedemption ctx =>
      rcases settleRequest_eq_ok h with ⟨protocol, request, vault, vault', next, -, -, hl⟩
      exact (hwrite _ _ _ hl.protocolFound hl.protocolConfigs rfl).elim
  | setRedemptionsPaused ctx paused =>
      rcases setRedemptionsPausedHandler_eq_ok h with ⟨protocol, next, -, -, hl⟩
      exact (hwrite _ _ _ hl.protocolFound hl.protocolConfigs rfl).elim
  | beginAdminTransfer ctx newAdmin =>
      rcases beginAdminTransferHandler_eq_ok h with ⟨protocol, next, -, -, -, hl⟩
      exact (hwrite _ _ _ hl.protocolFound hl.protocolConfigs rfl).elim
  -- The one that changes the admin: to whoever was named before, and has signed now.
  | acceptAdminTransfer ctx =>
      rcases acceptAdminTransferHandler_eq_ok h with ⟨protocol, next, hsome, hpending, -, hl⟩
      rw [hl.protocolConfigs, SortedMap.get?_insert] at hafter
      by_cases hk : key = ctx.protocolConfig
      · rw [hk, hl.protocolFound, Option.some.injEq] at hbefore
        rw [if_pos hk, Option.some.injEq] at hafter
        rw [hbefore] at hsome hpending
        exact ⟨ctx, rfl, hl.signer, by rw [← hafter], hpending, hsome⟩
      · rw [if_neg hk, hbefore, Option.some.injEq] at hafter
        exact absurd (by rw [hafter]) hne

end Steps

/-- Every run keeps entries and records in step. -/
theorem run_audited (rt : Runtime) (inputs : List Input) :
    ∃ entries, Audited rt (Run.log (step rt) World.empty inputs)
      (Run.after (step rt) World.empty inputs) entries := by
  have hinv := Run.invariant (step rt)
    (P := fun past world => Accounted rt world ∧ ∃ entries, Audited rt past world entries)
    ⟨accounted_empty rt, [], audited_empty rt⟩ ?_ inputs
  · exact hinv.2
  · rintro past world input ⟨ha, entries, hA⟩
    rcases transact_cases (process rt) .runtime world input with ⟨e, he⟩ | ⟨world', hok, hstep⟩
    · rw [step, he]
      exact ⟨ha, entries, hA.failed e⟩
    · rw [step, hstep]
      exact ⟨process_accounted hok ha, process_audited hok ha hA⟩

/-- Every run keeps a transfer under way the latest. -/
theorem run_latest (rt : Runtime) {inputs : List Input}
    (hsigners : ∀ input ∈ inputs, Pubkey.default ∉ input.1.signers) :
    (Run.after (step rt) World.empty inputs).protocolConfigs.Everywhere
      (fun _ protocol => Latest (Run.log (step rt) World.empty inputs) protocol) := by
  have hinv := Run.invariant_along (step rt)
    (P := fun past world => Accounted rt world ∧
      world.protocolConfigs.Everywhere (fun _ protocol => Latest past protocol))
    ⟨accounted_empty rt, SortedMap.everywhere_empty _⟩ ?_
    (Run.along_of_forall (step rt) hsigners World.empty)
  · exact hinv.2
  · rintro past world input ⟨ha, hl⟩ hdefault
    rcases transact_cases (process rt) .runtime world input with ⟨e, he⟩ | ⟨world', hok, hstep⟩
    · rw [step, he]
      exact ⟨ha, hl.imp (fun _ _ hbefore => hbefore.failed e)⟩
    · rw [step, hstep]
      exact ⟨process_accounted hok ha, process_latest hok hdefault ha hl⟩

/-- The entries, in the order of their ids, are the actions of admins in their
    order, each by whoever signed it and had the role; they tell what the
    records say of the protocol and of the settled requests; and only accepting
    the transfer that the then admin began last changes the admin. -/
theorem audit_log {rt : Runtime} {inputs : List Input}
    (hsigners : ∀ input ∈ inputs, Pubkey.default ∉ input.1.signers) :
    let world := fun pre => Run.after (step rt) World.empty pre
    let past := fun pre => Run.log (step rt) World.empty pre
    (world inputs).protocolConfigs.Everywhere (fun _ protocol =>
      protocol.pendingAdmin ≠ protocol.admin ∧
      ∃ (entries : List AdminActionLog) (admin : Pubkey),
        (entries : Multiset AdminActionLog) = (world inputs).auditEntries ∧
        entries.map (fun entry => entry.actionId.val)
          = List.range protocol.nextAdminActionId.val ∧
        entries.map (fun entry => (entry.admin, entry.action)) = adminActions (past inputs) ∧
        initialAdmin (past inputs) = some admin ∧
        entries.foldl Audit.apply (Audit.initial admin) = (world inputs).audit protocol) ∧
    (∀ pre input, pre ++ [input] <+: inputs → (step rt (world pre) input).1 = .ok () →
      ∀ actor action, input.2.adminAction = some (actor, action) →
        actor ∈ input.1.signers ∧
        ∃ protocolKey protocol logKey entry,
          (world pre).protocolConfigs.get? protocolKey = some protocol ∧
          protocol.HoldsRole actor action ∧
          (world (pre ++ [input])).adminActionLogs.get? logKey = some entry ∧
          entry.actionId = protocol.nextAdminActionId ∧ entry.admin = actor ∧
          entry.action = action) ∧
    ∀ pre input, pre ++ [input] <+: inputs → ∀ key before after,
      (world pre).protocolConfigs.get? key = some before →
      (world (pre ++ [input])).protocolConfigs.get? key = some after →
      after.admin ≠ before.admin →
      ∃ ctx, input.2 = .acceptAdminTransfer ctx ∧ ctx.pendingAdmin ∈ input.1.signers ∧
        after.admin = ctx.pendingAdmin ∧
        latestBegin (past pre) = some (before.admin, ctx.pendingAdmin) := by
  intro world past
  refine ⟨fun key protocol hget => ?_, ?_, ?_⟩
  -- The entries of the whole run and what they tell.
  · rcases run_audited rt inputs with ⟨entries, hA⟩
    have hl : Latest _ protocol := run_latest rt hsigners _ _ hget
    rcases hA.told _ _ hget with ⟨admin, hadmin, hfold⟩
    exact ⟨hl.other, entries, admin, hA.listed, hA.ids _ _ hget, hA.actions, hadmin, hfold⟩
  -- Whoever acts has signed and has the role at that moment, and the entry is written
  -- then.
  · intro pre input hpre hok actor action hactor
    rcases process_acted (step_ok hok) hactor with
      ⟨protocolKey, logKey, target, amount, protocol, changed, next, hl, hrole⟩
    refine ⟨hl.signer, protocolKey, protocol, logKey,
      ⟨protocolKey, protocol.nextAdminActionId, actor, action, target, amount,
        input.1.unixTimestamp,
        rt.bump (Seeds.adminActionLog protocolKey protocol.nextAdminActionId)⟩,
      hl.protocolFound, hrole, ?_, rfl, rfl, rfl⟩
    simp only [world, Run.after_snoc]
    rw [hl.adminActionLogs]
    exact SortedMap.get?_insert_self _ _ _
  · intro pre input hpre key before after hbefore hafter hne
    have hlatest : Latest (past pre) before := by
      refine run_latest rt (fun i hi => hsigners i ?_) _ _ hbefore
      exact hpre.subset (List.mem_append_left _ hi)
    have hstep : (step rt (world pre) input).2.protocolConfigs.get? key = some after := by
      rw [← Run.after_snoc]
      exact hafter
    -- The admin changed, so the transaction has not failed.
    rcases transact_cases (process rt) .runtime (world pre) input with ⟨e, he⟩ | ⟨w, hok, hw⟩
    · rw [step, he, hbefore, Option.some.injEq] at hstep
      exact absurd (by rw [hstep]) hne
    · rw [step, hw] at hstep
      rcases process_admin hok hbefore hstep hne with ⟨ctx, hctx, hsigner, hadmin, hpending, hsome⟩
      refine ⟨ctx, hctx, hsigner, hadmin, ?_⟩
      rw [← hpending]
      exact hlatest.begun hsome

/-- The new admin is told by three entries, and only accepting has made it one.
    Before that the key is pending and the old admin is still the one that acts. -/
theorem audit_log_handover :
    let world := Run.after (step sampleRuntime) World.empty sampleInputs
    (∀ entry ∈ Run.log (step sampleRuntime) World.empty sampleInputs, entry.2 = .ok ()) ∧
    adminActions (Run.log (step sampleRuntime) World.empty sampleInputs)
      = [(sampleAdmin, .beginAdminTransfer), (sampleNewAdmin, .acceptAdminTransfer),
          (sampleNewAdmin, .completeRedemption)] ∧
    ∀ protocol, world.protocolConfigs.get? sampleProtocol = some protocol →
      protocol.pendingAdmin ≠ protocol.admin ∧
      ∃ entries : List AdminActionLog, (entries : Multiset AdminActionLog) = world.auditEntries ∧
        entries.foldl Audit.apply (Audit.initial sampleAdmin) = world.audit protocol := by
  intro world
  refine ⟨by decide +kernel, by decide +kernel, fun protocol hget => ?_⟩
  have h := (@audit_log sampleRuntime sampleInputs (by decide +kernel)).1
  rcases h _ _ hget with ⟨hother, entries, admin, hlisted, -, -, hadmin, hfold⟩
  have hinitial : initialAdmin (Run.log (step sampleRuntime) World.empty sampleInputs)
      = some sampleAdmin := by decide +kernel
  rw [hinitial, Option.some.injEq] at hadmin
  rw [hadmin]
  exact ⟨hother, entries, hlisted, hfold⟩

end Redemption

end Stablecoin

end SolanaLab
