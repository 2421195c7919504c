import SolanaLab.Stablecoin.RedemptionVault

/-!
# The Redemption Model of the Property Tests

The property tests of the stablecoin run a small model in place of the
redemption program. It is about a single request, with totals of its own.

Every request of the program lives the life of a model of its own, from the
moment it is made: what settles the one settles the other, and what the one
refuses for its status so does the other. The vault of the program is the sum of
all these models.

`Follows` is the relation. For each request it takes from the log what settled
it, calls the model of the request with that, and asks that the call succeeds
and gives what the request says now. Since a settled model refuses, a request
is settled at most once.

## Main definitions

* `RedemptionModel`: The model, with `settle` and `assertInvariants`.
* `RedemptionRequest.model`: The model a request stands for.
* `outcomeOf`: What an instruction settles a request as.
* `Follows`: The requests follow their models.

## Theorems

* `settle_model`: Settling a request settles its model.
* `process_requests`: What an instruction does to a request.
* `totalOf_models`: What the models of all requests count.
* `settles_ne`: A request that waits is not refused.
* `requests_follow_model`: Requests and vault follow the models in every run.
-/

namespace SolanaLab

namespace Stablecoin

namespace Redemption

open Checked

/-- Those of the errors of the models that this one gives. -/
inductive ProtocolError where
  | outstandingExceeded
  | requestNotPending
deriving DecidableEq

/-! ### The model of a request -/

/-- The amount and status of one request, and what is counted for it. -/
structure RedemptionModel where
  amount : Word 64
  status : RedemptionStatus
  outstanding : Word 64
  totalCompleted : Word 64
  totalCancelled : Word 64
  totalRejected : Word 64
deriving DecidableEq

/-- What a request can be settled as. The model panics on `Pending`, with which
    `settle` is never called. -/
inductive Outcome where
  | cancelled
  | completed
  | rejected
deriving DecidableEq

/-- The status a request has afterwards. -/
def Outcome.status : Outcome → RedemptionStatus
  | .cancelled => .cancelled
  | .completed => .completed
  | .rejected => .rejected

namespace RedemptionModel

/-- A request that waits, with its amount outstanding. -/
def new (amount : Word 64) : RedemptionModel := ⟨amount, .pending, amount, 0, 0, 0⟩

/-- `settle`, and so `cancel`, `complete` and `reject`. Nothing is written
    before the last check. A request that is settled is refused, and otherwise
    its amount moves from what is outstanding to the total of the outcome. -/
def settle (model : RedemptionModel) (next : Outcome) : Except ProtocolError RedemptionModel := do
  require (model.status = .pending) .requestNotPending
  let outstanding ← okOr (checkedSub model.outstanding model.amount) .outstandingExceeded
  let model := { model with outstanding, status := next.status }
  match next with
  | .cancelled => return { model with totalCancelled := model.amount }
  | .completed => return { model with totalCompleted := model.amount }
  | .rejected => return { model with totalRejected := model.amount }

/-- A model settled several times over. -/
def settleAll (model : RedemptionModel) (outcomes : List Outcome) :
    Except ProtocolError RedemptionModel := outcomes.foldlM settle model

/-- What the model counts for a status: what is outstanding is pending. -/
def total (model : RedemptionModel) : RedemptionStatus → Word 64
  | .pending => model.outstanding
  | .cancelled => model.totalCancelled
  | .completed => model.totalCompleted
  | .rejected => model.totalRejected

/-- What the model has counted as settled, whichever way. -/
def terminalTotal (model : RedemptionModel) : Nat :=
  model.totalCompleted.val + model.totalCancelled.val + model.totalRejected.val

/-- `assert_invariants` does not panic, neither by an assertion nor by the
    addition. -/
def assertInvariants (model : RedemptionModel) : Prop :=
  model.terminalTotal < 2 ^ 64 ∧ model.terminalTotal ≤ model.amount.val ∧
    if model.status = .pending then model.outstanding = model.amount ∧ model.terminalTotal = 0
    else model.outstanding = 0 ∧ model.terminalTotal = model.amount.val

/-- One more outcome, after those that have succeeded. -/
theorem settleAll_snoc {model model' : RedemptionModel} {outcomes : List Outcome}
    (h : model.settleAll outcomes = .ok model') (outcome : Outcome) :
    model.settleAll (outcomes ++ [outcome]) = model'.settle outcome := by
  unfold settleAll at h ⊢
  rw [List.foldlM_append, h]
  exact bind_pure (model'.settle outcome)

end RedemptionModel

/-- The model a request stands for: its amount is counted under its status, and
    nothing under the others. -/
def RedemptionRequest.model (request : RedemptionRequest) : RedemptionModel where
  amount := request.amount
  status := request.status
  outstanding := if request.status = .pending then request.amount else 0
  totalCompleted := if request.status = .completed then request.amount else 0
  totalCancelled := if request.status = .cancelled then request.amount else 0
  totalRejected := if request.status = .rejected then request.amount else 0

/-- What an instruction settles a request as. The instructions name the request
    they settle, so for every other request they are nothing. -/
def outcomeOf (key : Pubkey) : Instruction → Option Outcome
  | .cancelRedemption ctx => if ctx.redemptionRequest = key then some .cancelled else none
  | .completeRedemption ctx => if ctx.redemptionRequest = key then some .completed else none
  | .rejectRedemption ctx => if ctx.redemptionRequest = key then some .rejected else none
  | _ => none

section Requests

variable {rt : Runtime} {env : Env} {world world' : World} {instruction : Instruction}

/-- Settling a request settles its model. -/
theorem settle_model {request : RedemptionRequest} (h : request.status = .pending)
    (outcome : Outcome) (updatedAt : Int) :
    request.model.settle outcome
      = .ok ({ request with status := outcome.status, updatedAt } : RedemptionRequest).model := by
  rcases request with ⟨protocolConfig, vault, requestId, owner, amount, status, createdAt, updated,
    bump⟩
  have hpending : status = .pending := h
  have hnone : checkedSub amount amount = some 0 := checkedSub_eq_some.mpr (Nat.zero_add _)
  subst hpending
  cases outcome <;>
    simp only [RedemptionModel.settle, RedemptionRequest.model, Outcome.status, if_true, hnone,
      okOr_some, require, reduceCtorEq, if_false, bind, Except.bind, pure, Except.pure]

/-- The model of a settled request refuses. -/
theorem settle_settled {request : RedemptionRequest} (h : request.status ≠ .pending)
    (outcome : Outcome) : request.model.settle outcome = .error .requestNotPending := by
  have hstatus : request.model.status ≠ .pending := h
  simp only [RedemptionModel.settle, require, if_neg hstatus, bind, Except.bind]

/-- The assertions of the model hold of every request, since one of its counts
    is the amount and the others are zero. -/
theorem model_invariants (request : RedemptionRequest) : request.model.assertInvariants := by
  have hfits := request.amount.isLt
  have hzero : (0 : Word 64).val = 0 := rfl
  unfold RedemptionModel.assertInvariants RedemptionModel.terminalTotal
  cases hstatus : request.status <;>
    simp only [RedemptionRequest.model, hstatus, reduceCtorEq, if_true, if_false, hzero,
      true_and, and_true] <;>
    omega

/-- What an instruction does to a request. It makes it, or leaves it alone, or
    it settles it, and then the request was waiting. The time of the change is
    the only other field that is written. -/
theorem process_requests (h : process rt env world instruction = .ok world') (key : Pubkey) :
    (outcomeOf key instruction = none ∧ (world'.requests.get? key = world.requests.get? key ∨
      (world.requests.get? key = none ∧ ∃ request, request.status = .pending ∧
        world'.requests.get? key = some request))) ∨
    ∃ outcome request, outcomeOf key instruction = some outcome ∧
      world.requests.get? key = some request ∧ request.status = .pending ∧
      world'.requests.get? key
        = some { request with status := outcome.status, updatedAt := env.unixTimestamp } := by
  -- Settling is the same for all three instructions that do it.
  have hsettles : ∀ {vaultKey requestKey : Pubkey} {outcome : Outcome}
      {request : RedemptionRequest} {vault vault' : RedemptionVault},
      Settled env world vaultKey requestKey outcome.status world' request vault vault' →
      outcomeOf key instruction = (if requestKey = key then some outcome else none) →
      (outcomeOf key instruction = none ∧ (world'.requests.get? key = world.requests.get? key ∨
        (world.requests.get? key = none ∧ ∃ request, request.status = .pending ∧
          world'.requests.get? key = some request))) ∨
      ∃ outcome request, outcomeOf key instruction = some outcome ∧
        world.requests.get? key = some request ∧ request.status = .pending ∧
        world'.requests.get? key
          = some { request with status := outcome.status, updatedAt := env.unixTimestamp } := by
    intro vaultKey requestKey outcome request vault vault' hs houtcome
    rw [hs.requests]
    by_cases hkey : requestKey = key
    · rw [if_pos hkey] at houtcome
      rw [← hkey, SortedMap.get?_insert_self]
      rw [← hkey] at houtcome
      exact Or.inr ⟨outcome, request, houtcome, hs.requestFound, hs.pending, rfl⟩
    · rw [if_neg hkey] at houtcome
      rw [SortedMap.get?_insert_of_ne _ _ (Ne.symm hkey)]
      exact Or.inl ⟨houtcome, Or.inl rfl⟩
  cases instruction with
  | initializeProtocol ctx =>
      rcases initializeProtocolHandler_eq_ok.mp h with ⟨-, -, -, -, rfl⟩
      exact Or.inl ⟨rfl, Or.inl rfl⟩
  -- The new request is at an address that was free.
  | requestRedemption ctx amount =>
      rcases requestRedemptionHandler_eq_ok h with ⟨protocol, vault, vault', next, ho⟩
      have hnew := (World.occupied_eq_false.mp ho.requestNew).2.2.1
      rw [ho.after]
      by_cases hkey : key = ctx.redemptionRequest
      · rw [hkey, SortedMap.get?_insert_self]
        exact Or.inl ⟨rfl, Or.inr ⟨hnew, _, rfl, rfl⟩⟩
      · rw [SortedMap.get?_insert_of_ne _ _ hkey]
        exact Or.inl ⟨rfl, Or.inl rfl⟩
  | cancelRedemption ctx =>
      rcases cancelRedemptionHandler_eq_ok h with ⟨⟨request, vault, vault', -, -, hs⟩, -⟩
      have hs' : Settled env world _ _ (Outcome.status .cancelled) world' _ _ _ := hs
      exact hsettles hs' rfl
  | completeRedemption ctx =>
      rcases settleRequest_eq_ok h with ⟨protocol, request, vault, vault', next, -, hs, -⟩
      have hs' : Settled env world _ _ (Outcome.status .completed) world' _ _ _ := hs
      exact hsettles hs' rfl
  | rejectRedemption ctx =>
      rcases settleRequest_eq_ok h with ⟨protocol, request, vault, vault', next, -, hs, -⟩
      have hs' : Settled env world _ _ (Outcome.status .rejected) world' _ _ _ := hs
      exact hsettles hs' rfl
  | setRedemptionsPaused ctx paused =>
      rcases setRedemptionsPausedHandler_eq_ok h with ⟨protocol, next, -, hsame, -⟩
      exact Or.inl ⟨rfl, Or.inl (by rw [hsame.1])⟩
  | beginAdminTransfer ctx newAdmin =>
      rcases beginAdminTransferHandler_eq_ok h with ⟨protocol, next, -, -, hsame, -⟩
      exact Or.inl ⟨rfl, Or.inl (by rw [hsame.1])⟩
  | acceptAdminTransfer ctx =>
      rcases acceptAdminTransferHandler_eq_ok h with ⟨protocol, next, -, -, hsame, -⟩
      exact Or.inl ⟨rfl, Or.inl (by rw [hsame.1])⟩

/-- The requests follow the models that the log settles. Nothing in the log
    settles a request that is not there yet. -/
structure Follows (past : Log) (world : World) : Prop where
  absent : ∀ key, world.requests.get? key = none → successes (outcomeOf key) past = []
  follows : world.requests.Everywhere (fun key request =>
    (RedemptionModel.new request.amount).settleAll (successes (outcomeOf key) past)
      = .ok request.model)

/-- There are no requests and nothing was settled. -/
theorem follows_empty : Follows [] World.empty :=
  ⟨fun _ _ => rfl, SortedMap.everywhere_empty _⟩

/-- A transaction that fails settles nothing. -/
theorem Follows.failed {past : Log} (h : Follows past world) {input : Input} (e : Error) :
    Follows (past ++ [(input, .error e)]) world := by
  refine ⟨fun key hnone => ?_, fun key request hget => ?_⟩
  · rw [successes_snoc_error]
    exact h.absent key hnone
  · change (RedemptionModel.new request.amount).settleAll (successes _ _) = .ok request.model
    rw [successes_snoc_error]
    exact h.follows key request hget

/-- A request that was just made is the new model. -/
theorem model_of_pending {request : RedemptionRequest} (h : request.status = .pending) :
    request.model = RedemptionModel.new request.amount := by
  simp only [RedemptionRequest.model, h, if_true, reduceCtorEq, if_false, RedemptionModel.new]

/-- An instruction keeps the requests with their models. The request in question
    is left alone, made or settled, as `process_requests` has it. -/
theorem process_follows (h : process rt env world instruction = .ok world') {past : Log}
    (hf : Follows past world) : Follows (past ++ [((env, instruction), .ok ())]) world' := by
  refine ⟨fun key hnone => ?_, fun key request hget => ?_⟩
  · rcases process_requests h key with ⟨houtcome, hsame | ⟨-, made, -, hmade⟩⟩ |
      ⟨outcome, request, -, -, -, hsettled⟩
    · rw [successes_snoc_none houtcome]
      exact hf.absent key (hsame.symm.trans hnone)
    · rw [hmade] at hnone
      exact absurd hnone (by simp only [reduceCtorEq, not_false_eq_true])
    · rw [hsettled] at hnone
      exact absurd hnone (by simp only [reduceCtorEq, not_false_eq_true])
  · change (RedemptionModel.new request.amount).settleAll (successes _ _) = .ok request.model
    rcases process_requests h key with ⟨houtcome, hsame | ⟨hnone, made, hpending, hmade⟩⟩ |
      ⟨outcome, before, houtcome, hbefore, hpending, hsettled⟩
    · rw [successes_snoc_none houtcome]
      exact hf.follows key request (hsame.symm.trans hget)
    · -- Nothing was settled before there was a request.
      rw [hmade, Option.some.injEq] at hget
      rw [← hget, successes_snoc_none houtcome, hf.absent key hnone, model_of_pending hpending]
      rfl
    -- It waited, so the model settles it too, and becomes what the request is now.
    · rw [hsettled, Option.some.injEq] at hget
      rw [← hget, successes_snoc_some houtcome,
        RedemptionModel.settleAll_snoc (hf.follows key before hbefore)]
      exact settle_model hpending outcome env.unixTimestamp

/-- Every run keeps the requests with their models. -/
theorem run_follows (rt : Runtime) (inputs : List Input) :
    Follows (Run.log (step rt) World.empty inputs) (Run.after (step rt) World.empty inputs) := by
  refine Run.invariant (step rt) (P := Follows) follows_empty (fun past world input h => ?_) inputs
  rcases transact_cases (process rt) .runtime world input with ⟨e, he⟩ | ⟨world', hok, hstep⟩
  · rw [step, he]
    exact h.failed e
  · rw [step, hstep]
    exact process_follows hok h

/-- What the models of all requests count for a status. A model counts its
    amount under the status of its request only, so the sum over all models is
    the sum over the requests of that status. -/
theorem totalOf_models (world : World) (status : RedemptionStatus) :
    world.totalOf status
      = world.requests.sumBy (fun _ request => (request.model.total status).val) := by
  unfold World.totalOf World.sumOf
  refine SortedMap.sumBy_congr _ (fun _ request _ => ?_)
  by_cases hstatus : request.status = status
  · rw [if_pos hstatus, ← hstatus]
    cases hs : request.status <;>
      simp only [RedemptionModel.total, RedemptionRequest.model, hs, if_true]
  · rw [if_neg hstatus]
    cases status <;>
      simp only [RedemptionModel.total, RedemptionRequest.model, if_neg hstatus] <;> rfl

/-- Cancelling does not fail for the status of a request that waits. -/
theorem cancel_ne_notPending {ctx : CancelRedemption} {request : RedemptionRequest}
    (hget : world.requests.get? ctx.redemptionRequest = some request)
    (hpending : request.status = .pending) :
    cancelRedemptionHandler rt env world ctx ≠ .error (.code .requestNotPending) := by
  simp only [ne_eq, cancelRedemptionHandler, bind_eq_error, checkSigner_ne_code,
    loadProtocol_ne_code, loadVault_ne_code, loadRequest_ne_code, requireCode_eq_error,
    ProgramError.code.injEq, reduceCtorEq, and_false, false_or, okOr_eq_error, and_true, pure,
    Except.pure, exists_false, or_false]
  rintro ⟨-, -, -, -, -, -, found, hload, hne⟩
  rw [(loadRequest_eq_ok hload).1, Option.some.injEq] at hget
  rw [hget] at hne
  exact hne hpending

/-- Nor do completing and rejecting. -/
theorem settle_ne_notPending {ctx : AdminRedemptionAction} {status : RedemptionStatus}
    {action : AdminAction} {request : RedemptionRequest}
    (hget : world.requests.get? ctx.redemptionRequest = some request)
    (hpending : request.status = .pending) :
    settleRequest rt env world ctx status action ≠ .error (.code .requestNotPending) := by
  simp only [ne_eq, settleRequest, bind_eq_error, checkSigner_ne_code, loadProtocol_ne_code,
    loadVault_ne_code, loadRequest_ne_code, init_ne_code, requireCode_eq_error,
    ProgramError.code.injEq, reduceCtorEq, and_false, false_or, okOr_eq_error, and_true,
    writeAdminLog, pure, Except.pure, exists_false, or_false]
  rintro ⟨-, -, -, -, -, -, -, -, found, hload, -, -, hne⟩
  rw [(loadRequest_eq_ok hload).1, Option.some.injEq] at hget
  rw [hget] at hne
  exact hne hpending

/-- An instruction that settles a request that waits does not fail for its
    status, or for want of what is outstanding. It may still fail for who signs
    or which accounts are passed, of which the model knows nothing. -/
theorem settles_ne (ha : Accounted rt world) {key : Pubkey} {outcome : Outcome}
    (houtcome : outcomeOf key instruction = some outcome) {request : RedemptionRequest}
    (hget : world.requests.get? key = some request) (hpending : request.status = .pending) :
    process rt env world instruction ≠ .error (.code .requestNotPending) ∧
    process rt env world instruction ≠ .error (.code .vaultOutstandingTooLow) := by
  -- The instruction names the request.
  have hnames : ∀ {requestKey : Pubkey} {o : Outcome},
      (if requestKey = key then some o else none) = some outcome →
      world.requests.get? requestKey = some request := by
    intro requestKey o hif
    by_cases hkey : requestKey = key
    · rw [hkey]
      exact hget
    · rw [if_neg hkey] at hif
      exact absurd hif (by simp only [reduceCtorEq, not_false_eq_true])
  cases instruction with
  | cancelRedemption ctx =>
      exact ⟨cancel_ne_notPending (hnames houtcome) hpending, ha.cancel_ne ctx⟩
  | completeRedemption ctx =>
      exact ⟨settle_ne_notPending (hnames houtcome) hpending, ha.settle_ne ctx (by decide) _⟩
  | rejectRedemption ctx =>
      exact ⟨settle_ne_notPending (hnames houtcome) hpending, ha.settle_ne ctx (by decide) _⟩
  | _ => exact absurd houtcome (by simp only [outcomeOf, reduceCtorEq, not_false_eq_true])

end Requests

/-- The requests after any run. Each follows a model of its own, from the moment
    it is made through all that settled it, and no assertion of the model fails.
    The vault is the sum of the models. What a transaction settles the model
    settles too, and one that the model would settle is not refused for the
    status of the request or for want of what is outstanding. -/
theorem requests_follow_model (rt : Runtime) (inputs : List Input) :
    let past := Run.log (step rt) World.empty inputs
    let world := Run.after (step rt) World.empty inputs
    (∀ key request, world.requests.get? key = some request →
      (RedemptionModel.new request.amount).settleAll (successes (outcomeOf key) past)
        = .ok request.model ∧ request.model.assertInvariants) ∧
    (∀ key vault, world.vaults.get? key = some vault → ∀ status, (vault.total status).val
      = world.requests.sumBy (fun _ request => (request.model.total status).val)) ∧
    ∀ env instruction key outcome request, outcomeOf key instruction = some outcome →
      world.requests.get? key = some request →
      ((step rt world (env, instruction)).1 = .ok () →
        ∃ model, request.model.settle outcome = .ok model) ∧
      ∀ model, request.model.settle outcome = .ok model →
        (step rt world (env, instruction)).1 ≠ .error (.code .requestNotPending) ∧
        (step rt world (env, instruction)).1 ≠ .error (.code .vaultOutstandingTooLow) := by
  intro past world
  have hf : Follows past world := run_follows rt inputs
  have ha : Accounted rt world := run_accounted rt inputs
  refine ⟨fun key request hget => ⟨hf.follows key request hget, model_invariants request⟩,
    fun key vault hget status => ?_,
    fun env instruction key outcome request houtcome hget =>
      ⟨fun hok => ?_, fun model hmodel => ?_⟩⟩
  · have hc : vault.Counts world := ha.counts _ _ hget
    exact (hc.totals status).trans (totalOf_models world status)
  -- A transaction that succeeds has settled the request, so it was waiting.
  · rcases process_requests (step_ok hok) key with ⟨hnone, -⟩ |
      ⟨outcome', found, -, hfound, hpending, -⟩
    · rw [houtcome] at hnone
      exact absurd hnone (by simp only [reduceCtorEq, not_false_eq_true])
    · rw [hget, Option.some.injEq] at hfound
      rw [← hfound] at hpending
      exact ⟨_, settle_model hpending outcome 0⟩
  -- The model settles only what waits.
  · have hpending : request.status = .pending := by
      by_contra hne
      rw [settle_settled hne] at hmodel
      exact absurd hmodel (by simp only [reduceCtorEq, not_false_eq_true])
    rcases settles_ne ha houtcome hget hpending with ⟨hstatus, hvault⟩
    have hruntime : ∀ e, (ProgramError.runtime : Error) ≠ .code e := fun _ => nofun
    exact ⟨transact_ne_error (process rt) .runtime (hruntime _) hstatus,
      transact_ne_error (process rt) .runtime (hruntime _) hvault⟩

end Redemption

end Stablecoin

end SolanaLab
