import SolanaLab.Stablecoin.AuditLog

/-!
# The Admin Model of the Property Tests

The property tests have a second model of the redemption program, of how one
admin gives way to the next: the admin names a key, and the key accepts.

The program keeps more than the model does. It has no key for nobody, so the
default key stands for it, and it refuses to name that key or the admin himself.
It counts what admins do, and what it cannot count it refuses. Apart from this
the two agree in every run.

The comparison is made call by call. `handOverOf` says which instructions are
calls of the model, and `process_protocols` that all others leave admin and
pending key alone, so that the log of the program can be read as a list of
calls.

## Main definitions

* `AdminTransferModel`: The model, with `begin` and `accept`.
* `ProtocolConfig.handOver`: The model a protocol stands for.
* `handOverOf`: The call of the model that an instruction stands for.
* `HandedOver`: A protocol follows its model.

## Theorems

* `begin_call`, `accept_call`: The two instructions are calls of the model.
* `process_protocols`: What an instruction does to a protocol.
* `handOver_error`: Where the program is stricter than the model.
* `admins_follow_model`: The protocol follows its model in every run.
-/

namespace SolanaLab

namespace Stablecoin

namespace Redemption

open Checked

/-! ### The model of an admin -/

/-- The model, for keys of any kind. In the property tests they are numbers.
    Where the program writes the default key for nobody, the model has an
    option. -/
structure AdminTransferModel (κ : Type) where
  admin : κ
  pendingAdmin : Option κ
deriving DecidableEq

/-- The calls of the model that change it. -/
inductive HandOver (κ : Type) where
  | begin (signer newAdmin : κ)
  | accept (signer : κ)
deriving DecidableEq

namespace AdminTransferModel

/-- Those of the errors of the models that this one gives. -/
inductive ProtocolError where
  | unauthorized
  | missingPendingAdmin
deriving DecidableEq

variable {κ : Type} [DecidableEq κ]

/-- A model with its first admin and nobody named. -/
def new (admin : κ) : AdminTransferModel κ := ⟨admin, none⟩

/-- `begin`. Whoever is the admin may name any key, the admin's own included. -/
def begin (model : AdminTransferModel κ) (signer newAdmin : κ) :
    Except ProtocolError (AdminTransferModel κ) := do
  require (signer = model.admin) .unauthorized
  return { model with pendingAdmin := some newAdmin }

/-- `accept`. Only the key that was named last can accept, and accepting ends
    the transfer. -/
def accept (model : AdminTransferModel κ) (signer : κ) :
    Except ProtocolError (AdminTransferModel κ) := do
  let pendingAdmin ← okOr model.pendingAdmin .missingPendingAdmin
  require (signer = pendingAdmin) .unauthorized
  return ⟨signer, none⟩

/-- What a call comes to. -/
def call (model : AdminTransferModel κ) : HandOver κ → Except ProtocolError (AdminTransferModel κ)
  | .begin signer newAdmin => model.begin signer newAdmin
  | .accept signer => model.accept signer

/-- A model called several times over. -/
def callAll (model : AdminTransferModel κ) (calls : List (HandOver κ)) :
    Except ProtocolError (AdminTransferModel κ) := calls.foldlM call model

/-- One more call, after those that have succeeded. -/
theorem callAll_snoc {model model' : AdminTransferModel κ} {calls : List (HandOver κ)}
    (h : model.callAll calls = .ok model') (c : HandOver κ) :
    model.callAll (calls ++ [c]) = model'.call c := by
  unfold callAll at h ⊢
  rw [List.foldlM_append, h]
  exact bind_pure (model'.call c)

/-- Naming succeeds for the admin, and only then. -/
theorem begin_eq_ok {model model' : AdminTransferModel κ} {signer newAdmin : κ} :
    model.begin signer newAdmin = .ok model' ↔
      signer = model.admin ∧ { model with pendingAdmin := some newAdmin } = model' := by
  simp only [begin, bind_eq_ok, require_eq_ok, exists_const, pure, Except.pure, Except.ok.injEq]

/-- Accepting succeeds for the key that was named, and only then. -/
theorem accept_eq_ok {model model' : AdminTransferModel κ} {signer : κ} :
    model.accept signer = .ok model' ↔
      model.pendingAdmin = some signer ∧ ⟨signer, none⟩ = model' := by
  simp only [accept, bind_eq_ok, okOr_eq_ok, require_eq_ok, exists_const, pure, Except.pure,
    Except.ok.injEq]
  constructor
  · rintro ⟨pendingAdmin, hpending, rfl, hmodel⟩
    exact ⟨hpending, hmodel⟩
  · rintro ⟨hpending, hmodel⟩
    exact ⟨signer, hpending, rfl, hmodel⟩

end AdminTransferModel

/-- The model a protocol stands for. The default key is read as nobody. -/
def ProtocolConfig.handOver (protocol : ProtocolConfig) : AdminTransferModel Pubkey where
  admin := protocol.admin
  pendingAdmin :=
    if protocol.pendingAdmin = Pubkey.default then none else some protocol.pendingAdmin

/-- The call of the model that an instruction stands for. -/
def handOverOf : Instruction → Option (HandOver Pubkey)
  | .beginAdminTransfer ctx newAdmin => some (.begin ctx.admin newAdmin)
  | .acceptAdminTransfer ctx => some (.accept ctx.pendingAdmin)
  | _ => none

/-! ### The program and the model -/

/-- Naming a key, as the program does it, names it in the model. -/
theorem begin_call {protocol : ProtocolConfig} {signer newAdmin : Pubkey} (next : Word 64)
    (hadmin : protocol.admin = signer) (hsome : newAdmin ≠ Pubkey.default) :
    protocol.handOver.call (.begin signer newAdmin)
      = .ok ({ protocol with pendingAdmin := newAdmin, nextAdminActionId := next }
          : ProtocolConfig).handOver := by
  refine AdminTransferModel.begin_eq_ok.mpr ⟨hadmin.symm, ?_⟩
  simp only [ProtocolConfig.handOver, if_neg hsome]

/-- And so does accepting. -/
theorem accept_call {protocol : ProtocolConfig} {signer : Pubkey} (next : Word 64)
    (hsome : protocol.pendingAdmin ≠ Pubkey.default) (hpending : protocol.pendingAdmin = signer) :
    protocol.handOver.call (.accept signer)
      = .ok ({ protocol with
          admin := signer, pendingAdmin := Pubkey.default, nextAdminActionId := next }
            : ProtocolConfig).handOver := by
  rw [← hpending]
  exact AdminTransferModel.accept_eq_ok.mpr ⟨if_neg hsome, rfl⟩

/-- A key that is pending in the model is so in the program. -/
theorem named_of_pending {protocol : ProtocolConfig} {key : Pubkey}
    (h : protocol.handOver.pendingAdmin = some key) :
    protocol.pendingAdmin = key ∧ protocol.pendingAdmin ≠ Pubkey.default := by
  by_cases hdefault : protocol.pendingAdmin = Pubkey.default
  · simp only [ProtocolConfig.handOver, if_pos hdefault, reduceCtorEq] at h
  · simp only [ProtocolConfig.handOver, if_neg hdefault, Option.some.injEq] at h
    exact ⟨h, hdefault⟩

/-- A protocol follows the model that the log calls, which starts with the key
    that made the protocol. While there is no protocol, nothing has been called. -/
structure HandedOver (rt : Runtime) (past : Log) (world : World) : Prop where
  follows : world.protocolConfigs.Everywhere (fun _ protocol => ∃ admin,
    initialAdmin past = some admin ∧
    (AdminTransferModel.new admin).callAll (successes handOverOf past) = .ok protocol.handOver)
  unmade : world.protocolConfigs.get? (rt.address Seeds.protocol) = none →
    initialAdmin past = none ∧ successes handOverOf past = []

/-- There is no protocol and nothing was called. -/
theorem handedOver_empty (rt : Runtime) : HandedOver rt [] World.empty :=
  ⟨SortedMap.everywhere_empty _, fun _ => ⟨rfl, rfl⟩⟩

/-- A transaction that fails is no call. -/
theorem HandedOver.failed {rt : Runtime} {past : Log} {world : World} {input : Input}
    (h : HandedOver rt past world) (e : Error) :
    HandedOver rt (past ++ [(input, .error e)]) world := by
  have hcalls : successes handOverOf (past ++ [(input, .error e)]) = successes handOverOf past :=
    successes_snoc_error e
  have hinitial : initialAdmin (past ++ [(input, .error e)]) = initialAdmin past :=
    congrArg List.head? (successes_snoc_error e)
  exact ⟨hcalls ▸ hinitial ▸ h.follows, hcalls ▸ hinitial ▸ h.unmade⟩

section Steps

variable {rt : Runtime} {env : Env} {world world' : World} {past : Log}
  {instruction : Instruction}

/-- What an instruction does to the protocol. It makes it, or it changes it as
    the model says, and not at all if it is no call of the model. In the second
    case the protocol may be written with other counters, which the model does
    not have. -/
theorem process_protocols (h : process rt env world instruction = .ok world') :
    (∃ key admin made, key = rt.address Seeds.protocol ∧ world.protocolConfigs.get? key = none ∧
      instruction.initializes = some admin ∧ handOverOf instruction = none ∧
      world'.protocolConfigs = world.protocolConfigs.insert key made ∧
      made.handOver = AdminTransferModel.new admin) ∨
    ∃ key before after, instruction.initializes = none ∧
      world.protocolConfigs.get? key = some before ∧
      world'.protocolConfigs = world.protocolConfigs.insert key after ∧
      match handOverOf instruction with
      | none => after.handOver = before.handOver
      | some c => before.handOver.call c = .ok after.handOver := by
  cases instruction with
  | initializeProtocol ctx =>
      rcases initializeProtocolHandler_eq_ok.mp h with ⟨-, ⟨hprotocol, hnew⟩, -, -, rfl⟩
      exact Or.inl ⟨ctx.protocolConfig, ctx.admin, _, hprotocol,
        (World.occupied_eq_false.mp hnew).1, rfl, rfl, rfl, rfl⟩
  -- The next five write the protocol with the admins it had, or do not write it.
  | requestRedemption ctx amount =>
      rcases requestRedemptionHandler_eq_ok h with ⟨protocol, vault, vault', next, ho⟩
      have hafter : world'.protocolConfigs = world.protocolConfigs.insert ctx.protocolConfig
          { protocol with nextRequestId := next } := by rw [ho.after]
      exact Or.inr ⟨_, protocol, _, rfl, ho.protocolFound, hafter, rfl⟩
  | cancelRedemption ctx =>
      rcases cancelRedemptionHandler_eq_ok h with ⟨-, ⟨protocol, hfound⟩, hprotocols, -⟩
      have hafter : world'.protocolConfigs
          = world.protocolConfigs.insert ctx.protocolConfig protocol := by
        rw [hprotocols, SortedMap.insert_get? _ hfound]
      exact Or.inr ⟨_, protocol, _, rfl, hfound, hafter, rfl⟩
  | completeRedemption ctx =>
      rcases settleRequest_eq_ok h with ⟨protocol, request, vault, vault', next, -, -, hl⟩
      exact Or.inr ⟨_, protocol, _, rfl, hl.protocolFound, hl.protocolConfigs, rfl⟩
  | rejectRedemption ctx =>
      rcases settleRequest_eq_ok h with ⟨protocol, request, vault, vault', next, -, -, hl⟩
      exact Or.inr ⟨_, protocol, _, rfl, hl.protocolFound, hl.protocolConfigs, rfl⟩
  | setRedemptionsPaused ctx paused =>
      rcases setRedemptionsPausedHandler_eq_ok h with ⟨protocol, next, -, -, hl⟩
      exact Or.inr ⟨_, protocol, _, rfl, hl.protocolFound, hl.protocolConfigs, rfl⟩
  -- The last two are the calls of the model.
  | beginAdminTransfer ctx newAdmin =>
      rcases beginAdminTransferHandler_eq_ok h with ⟨protocol, next, hadmin, hnamed, -, hl⟩
      exact Or.inr ⟨_, protocol, _, rfl, hl.protocolFound, hl.protocolConfigs,
        begin_call next hadmin hnamed.1⟩
  | acceptAdminTransfer ctx =>
      rcases acceptAdminTransferHandler_eq_ok h with ⟨protocol, next, hsome, hpending, -, hl⟩
      exact Or.inr ⟨_, protocol, _, rfl, hl.protocolFound, hl.protocolConfigs,
        accept_call next hsome hpending⟩

/-- An instruction keeps the protocol with its model. -/
theorem process_handedOver (h : process rt env world instruction = .ok world')
    (ha : Accounted rt world) (hh : HandedOver rt past world) :
    HandedOver rt (past ++ [((env, instruction), .ok ())]) world' := by
  rcases process_protocols h with
    ⟨key, admin, made, hkey, hnone, hmade, hcall, hafter, hmodel⟩ |
    ⟨key, before, after, hmade, hfound, hafter, hcall⟩
  · rw [hkey] at hnone
    rcases hh.unmade hnone with ⟨hinitial, hcalls⟩
    -- There was no protocol, so nothing was called.
    refine ⟨?_, fun hnone' => ?_⟩
    · rw [hafter]
      refine SortedMap.everywhere_insert_only ⟨admin, ?_, ?_⟩ (hkey ▸ ha.protocols)
      · rw [initialAdmin] at hinitial
        refine (congrArg List.head? (successes_snoc_some hmade)).trans ?_
        rw [List.head?_append, hinitial]
        rfl
      · rw [successes_snoc_none hcall, hcalls, hmodel]
        rfl
    · rw [hafter, hkey, SortedMap.get?_insert_self] at hnone'
      exact absurd hnone' (by simp only [reduceCtorEq, not_false_eq_true])
  -- The one protocol is written, and the model has made the call that the instruction is.
  · have hkey : key = rt.address Seeds.protocol := ha.protocols _ _ hfound
    rcases hh.follows _ _ hfound with ⟨admin, hadmin, hmodel⟩
    refine ⟨?_, fun hnone' => ?_⟩
    · rw [hafter]
      refine SortedMap.everywhere_insert_only ⟨admin, ?_, ?_⟩ (hkey ▸ ha.protocols)
      · exact (congrArg List.head? (successes_snoc_none hmade)).trans hadmin
      · cases hc : handOverOf instruction with
        | none =>
            simp only [hc] at hcall
            rw [successes_snoc_none hc, hmodel, hcall]
        | some c =>
            simp only [hc] at hcall
            rw [successes_snoc_some hc, AdminTransferModel.callAll_snoc hmodel, hcall]
    · rw [hafter, hkey, SortedMap.get?_insert_self] at hnone'
      exact absurd hnone' (by simp only [reduceCtorEq, not_false_eq_true])

/-- An action fails with its entry only when it cannot be counted. -/
theorem writeAdminLog_error {protocolConfig adminActionLog admin target : Pubkey}
    {protocol : ProtocolConfig} {action : AdminAction} {amount : Word 64} {e : Error}
    (h : writeAdminLog rt env world protocolConfig adminActionLog protocol admin action target
      amount = .error e) :
    e = .code .invalidPendingAdmin ∧ protocol.nextAdminActionId.val + 1 = 2 ^ 64 := by
  simp only [writeAdminLog, bind_eq_error, okOr_eq_error, checkedAdd_eq_none, pure, Except.pure,
    reduceCtorEq, and_false, exists_false, or_false] at h
  have hfits := protocol.nextAdminActionId.isLt
  have hone : (1 : Word 64).val = 1 := rfl
  exact ⟨h.2.symm, by omega⟩

/-- Where the model does what it is asked and the program does not, for a reason
    of its own: the key named is nobody's or the admin's, or what admins do
    cannot be counted any more. Errors of the accounts passed are not in this
    list, since they have no code of the program. -/
theorem handOver_error (ha : Accounted rt world) {key : Pubkey} {protocol : ProtocolConfig}
    (hfound : world.protocolConfigs.get? key = some protocol) {c : HandOver Pubkey}
    (hc : handOverOf instruction = some c) {model : AdminTransferModel Pubkey}
    (hcall : protocol.handOver.call c = .ok model) {e : ErrorCode}
    (herror : process rt env world instruction = .error (.code e)) :
    e = .invalidPendingAdmin ∧
      ((∃ newAdmin, c = .begin protocol.admin newAdmin ∧
        (newAdmin = Pubkey.default ∨ newAdmin = protocol.admin)) ∨
      protocol.nextAdminActionId.val + 1 = 2 ^ 64) := by
  -- There is but one protocol to load.
  have honly : ∀ {key' : Pubkey} {protocol' : ProtocolConfig},
      loadProtocol rt world key' = .ok protocol' → protocol' = protocol := by
    intro key' protocol' hload
    have hfound' := (loadProtocol_eq_ok.mp hload).1
    rw [ha.protocols _ _ hfound', ← ha.protocols _ _ hfound, hfound, Option.some.injEq] at hfound'
    exact hfound'.symm
  cases instruction with
  | beginAdminTransfer ctx newAdmin =>
      cases hc
      have hadmin := (AdminTransferModel.begin_eq_ok.mp hcall).1
      simp only [process, beginAdminTransferHandler, bind_eq_error, checkSigner_ne_code,
        loadProtocol_ne_code, init_ne_code, requireCode_eq_error, ProgramError.code.injEq,
        requireCode_eq_ok, exists_const, false_or] at herror
      rcases herror with ⟨-, -, found, hload, ⟨hother, -⟩ | ⟨-, -, -, ⟨hnamed, rfl⟩ | ⟨-, hlog⟩⟩⟩
      · rw [honly hload] at hother
        exact absurd hadmin.symm hother
      · rw [honly hload] at hnamed
        refine ⟨rfl, Or.inl ⟨newAdmin, ?_, ?_⟩⟩
        · rw [hadmin]
          rfl
        · by_contra hne
          exact hnamed (not_or.mp hne)
      · rw [honly hload] at hlog
        rcases writeAdminLog_error hlog with ⟨hcode, hcount⟩
        exact ⟨ProgramError.code.inj hcode, Or.inr hcount⟩
  -- Whom the model takes to be named is the pending admin, so only the log can still
  -- refuse.
  | acceptAdminTransfer ctx =>
      cases hc
      have hpending := (AdminTransferModel.accept_eq_ok.mp hcall).1
      simp only [process, acceptAdminTransferHandler, bind_eq_error, checkSigner_ne_code,
        loadProtocol_ne_code, init_ne_code, requireCode_eq_error, ProgramError.code.injEq,
        requireCode_eq_ok, exists_const, false_or] at herror
      rcases named_of_pending hpending with ⟨hkey, hsome⟩
      rcases herror with ⟨-, -, found, hload, -, -, ⟨hnone, -⟩ | ⟨-, ⟨hother, -⟩ | ⟨-, hlog⟩⟩⟩
      · rw [honly hload] at hnone
        exact absurd hsome hnone
      · rw [honly hload] at hother
        exact absurd hkey hother
      · rw [honly hload] at hlog
        rcases writeAdminLog_error hlog with ⟨hcode, hcount⟩
        exact ⟨ProgramError.code.inj hcode, Or.inr hcount⟩
  | _ => exact absurd hc (by simp only [handOverOf, reduceCtorEq, not_false_eq_true])

end Steps

/-- Every run keeps the protocol with its model. -/
theorem run_handedOver (rt : Runtime) (inputs : List Input) :
    HandedOver rt (Run.log (step rt) World.empty inputs)
      (Run.after (step rt) World.empty inputs) := by
  suffices h : Accounted rt (Run.after (step rt) World.empty inputs) ∧
      HandedOver rt (Run.log (step rt) World.empty inputs)
        (Run.after (step rt) World.empty inputs) from h.2
  refine Run.invariant (step rt) (P := fun past world => Accounted rt world ∧
    HandedOver rt past world) ⟨accounted_empty rt, handedOver_empty rt⟩
    (fun past world input h => ?_) inputs
  rcases transact_cases (process rt) .runtime world input with ⟨e, he⟩ | ⟨world', hok, hstep⟩
  · rw [step, he]
    exact ⟨h.1, h.2.failed e⟩
  · rw [step, hstep]
    exact ⟨process_accounted hok h.1, process_handedOver hok h.1 h.2⟩

/-- The admin after any run. Whoever made the protocol was the first, and from
    then on the admin and the key that is pending are those of a model on which
    every transfer that succeeded was a call. What succeeds in the program does so
    in the model. What succeeds in the model and is an error of the program is one
    for its own reasons: the key named is nobody's or the admin's, or the count of
    actions is at its end. -/
theorem admins_follow_model (rt : Runtime) (inputs : List Input) :
    let past := Run.log (step rt) World.empty inputs
    let world := Run.after (step rt) World.empty inputs
    ∀ key protocol, world.protocolConfigs.get? key = some protocol →
      (∃ admin, initialAdmin past = some admin ∧
        (AdminTransferModel.new admin).callAll (successes handOverOf past)
          = .ok protocol.handOver) ∧
      ∀ env instruction c, handOverOf instruction = some c →
        ((step rt world (env, instruction)).1 = .ok () →
          ∃ protocol', (step rt world (env, instruction)).2.protocolConfigs.get? key
            = some protocol' ∧ protocol.handOver.call c = .ok protocol'.handOver) ∧
        ∀ model e, protocol.handOver.call c = .ok model →
          (step rt world (env, instruction)).1 = .error (.code e) → e = .invalidPendingAdmin ∧
            ((∃ newAdmin, c = .begin protocol.admin newAdmin ∧
              (newAdmin = Pubkey.default ∨ newAdmin = protocol.admin)) ∨
            protocol.nextAdminActionId.val + 1 = 2 ^ 64) := by
  intro past world key protocol hfound
  have ha : Accounted rt world := run_accounted rt inputs
  have hh : HandedOver rt past world := run_handedOver rt inputs
  refine ⟨hh.follows _ _ hfound, fun env instruction c hc => ⟨fun hok => ?_,
    fun model e hcall herror => ?_⟩⟩
  · rcases process_protocols (step_ok hok) with ⟨-, -, -, -, -, -, hnone, -⟩ |
      ⟨key', before, after, -, hbefore, hafter, hcall⟩
    · exact absurd (hnone.symm.trans hc) (by simp only [reduceCtorEq, not_false_eq_true])
    · -- There is but one protocol.
      have hkey : key' = key := (ha.protocols _ _ hbefore).trans (ha.protocols _ _ hfound).symm
      rw [hkey, hfound, Option.some.injEq] at hbefore
      simp only [hc, ← hbefore] at hcall
      rw [hafter, hkey]
      exact ⟨after, SortedMap.get?_insert_self _ _ _, hcall⟩
  -- An error with a code of the program is one of the instruction itself.
  · have hprocess : process rt env world instruction = .error (.code e) := by
      by_contra hne
      have hruntime : (ProgramError.runtime : Error) ≠ .code e := nofun
      exact transact_ne_error (process rt) .runtime hruntime hne herror
    exact handOver_error ha hfound hc hcall hprocess

end Redemption

end Stablecoin

end SolanaLab
