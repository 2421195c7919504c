import SolanaLab.Library.Tries
import SolanaLab.Relayer.Outbox
import SolanaLab.Settlement.Client

/-!
# The Submission Pipeline

What the relayer puts between a request and the chain: a worker that plans and
submits one request after the other, over a submitter that records dead
letters, over one that tries again, over one that confirms by polling.

Each layer is a submitter over another one, as in the source, and the chain at
the bottom is any submitter and any poller. `Recorded` notes what they were
asked and what they answered. `Handled` is the account of one request, the
attempts made for it with their polls, and `submitRequests_accounted` says that
the report, the dead letters and the two records are what such accounts add up
to, one for each request.

The type classes are the traits of the source. An instance for a layer needs
one for the layer below it, so a pipeline is put together by types as it is
there, and any submitter can stand at the bottom.

## Main definitions

* `InstructionPlan`: What is to be submitted.
* `SolanaSubmitter`, `TransactionConfirmer`, `ConfirmationPoller`: What the
  layers are made of.
* `PollingConfirmer`, `ConfirmingSubmitter`, `RetryingSubmitter`,
  `DeadLetteringSubmitter`: The layers.
* `SettlementRequestWorker`: The worker on top.
* `Attempt`: One submission with its polls.
* `Handled`: What was done for a request.

## Theorems

* `pollLoop_polls`: What polling does and answers.
* `confirming_submit`: One attempt.
* `retryLoop_attempts`: The attempts for a plan.
* `submitRequests_accounted`: What a list of requests leads to.
-/

namespace SolanaLab

namespace Relayer

open Checked Settlement

/-- The instructions of a transaction, who pays for it and who signs. -/
structure InstructionPlan where
  instructions : List TransactionInstruction
  requiredSigners : List Pubkey
  feePayer : Pubkey
deriving DecidableEq

/-- The signature by which a transaction is known. -/
abbrev TransactionSignature := Settlement.Signature

/-- A transaction that was handed to the chain. -/
structure SubmittedTransaction where
  signature : TransactionSignature
deriving DecidableEq

/-! ### Planning -/

/-- `unique_signers`. -/
def uniqueSigners (signers : List Pubkey) : List Pubkey :=
  signers.foldl (fun unique signer => if signer ∈ unique then unique else unique ++ [signer]) []

/-- Makes plans, with the compute budget it puts in front of them. -/
structure SettlementInstructionPlanner where
  signedSettlementComputeBudget : ComputeBudgetPreset
  cancelComputeBudget : ComputeBudgetPreset
deriving DecidableEq

/-- `SettlementInstructionPlanner::default`. -/
def SettlementInstructionPlanner.default : SettlementInstructionPlanner :=
  ⟨.signedSettlement, .cancelSignedOrder⟩

/-- `SettlementInstructionPlanner::plan_signed_settlement`. The two signature
    instructions stand right before the settlement, where the program looks for
    them. -/
def SettlementInstructionPlanner.planSignedSettlement (planner : SettlementInstructionPlanner)
    (rt : ClientRuntime) (request : SignedSettlementRequest) : InstructionPlan where
  instructions := signedSettlementFlowTransactionInstructions rt
    { settlementAuthority := request.settlementAuthority, baseMint := request.baseMint
      quoteMint := request.quoteMint, buyer := request.buyer, seller := request.seller
      payer := request.payer }
    request.args planner.signedSettlementComputeBudget
  requiredSigners := uniqueSigners [request.settlementAuthority, request.payer]
  feePayer := request.payer

/-! ### The layers -/

/-- What a confirmation has come to. -/
inductive ConfirmationStatus where
  | confirmed
  | failed (error : String)
  | uncertain (error : String)
deriving DecidableEq

/-- A plan that was given up, with the error. -/
structure DeadLetter where
  plan : InstructionPlan
  error : SubmissionError
deriving DecidableEq

/-- Whatever submits a plan. It may change by it, as the mocks of the tests do
    and as a connection would. -/
class SolanaSubmitter (S : Type) where
  submit : S → InstructionPlan → Except SubmissionError SubmittedTransaction × S

/-- Whatever says whether a transaction was confirmed. -/
class TransactionConfirmer (C : Type) where
  confirm : C → TransactionSignature → Except SubmissionError ConfirmationStatus × C

/-- Whatever is asked once. -/
class ConfirmationPoller (P : Type) where
  poll : P → TransactionSignature → Except SubmissionError ConfirmationStatus × P

/-- Wherever dead letters go. -/
class DeadLetterSink (D : Type) where
  record : D → DeadLetter → Except SubmissionError Unit × D

/-- How often is asked. -/
structure PollingPolicy where
  maxPolls : Nat
deriving DecidableEq

/-- `PollingPolicy::default`. -/
def PollingPolicy.default : PollingPolicy := ⟨20⟩

/-- Confirms by asking a poller until it decides. -/
structure PollingConfirmer (P : Type) where
  poller : P
  policy : PollingPolicy
deriving DecidableEq

/-- The loop of `PollingConfirmer::confirm`, with the polls left. -/
def pollLoop {P : Type} [ConfirmationPoller P] (signature : TransactionSignature) :
    Nat → P → Except SubmissionError ConfirmationStatus × P
  | 0, poller => (.ok (.uncertain "confirmation polling exhausted"), poller)
  | polls + 1, poller =>
    match ConfirmationPoller.poll poller signature with
    | (.error error, poller) => (.error error, poller)
    | (.ok (.uncertain _), poller) => pollLoop signature polls poller
    | (.ok status, poller) => (.ok status, poller)

/-- `PollingConfirmer::confirm`. -/
def PollingConfirmer.confirm {P : Type} [ConfirmationPoller P] (confirmer : PollingConfirmer P)
    (signature : TransactionSignature) :
    Except SubmissionError ConfirmationStatus × PollingConfirmer P :=
  let (status, poller) := pollLoop signature confirmer.policy.maxPolls confirmer.poller
  (status, { confirmer with poller })

instance {P : Type} [ConfirmationPoller P] : TransactionConfirmer (PollingConfirmer P) :=
  ⟨PollingConfirmer.confirm⟩

/-- Submits, and then waits for the confirmation. -/
structure ConfirmingSubmitter (S C : Type) where
  submitter : S
  confirmer : C
deriving DecidableEq

/-- `ConfirmingSubmitter::submit`. A transaction that was sent and whose
    confirmation stays open is an error that could pass, so the layer above
    sends it again. -/
def ConfirmingSubmitter.submit {S C : Type} [SolanaSubmitter S] [TransactionConfirmer C]
    (s : ConfirmingSubmitter S C) (plan : InstructionPlan) :
    Except SubmissionError SubmittedTransaction × ConfirmingSubmitter S C :=
  match SolanaSubmitter.submit s.submitter plan with
  | (.error error, submitter) => (.error error, { s with submitter })
  | (.ok submitted, submitter) =>
    match TransactionConfirmer.confirm s.confirmer submitted.signature with
    | (.error error, confirmer) => (.error error, ⟨submitter, confirmer⟩)
    | (.ok .confirmed, confirmer) => (.ok submitted, ⟨submitter, confirmer⟩)
    | (.ok (.failed error), confirmer) => (.error (.rejected error), ⟨submitter, confirmer⟩)
    | (.ok (.uncertain error), confirmer) => (.error (.uncertain error), ⟨submitter, confirmer⟩)

instance {S C : Type} [SolanaSubmitter S] [TransactionConfirmer C] :
    SolanaSubmitter (ConfirmingSubmitter S C) :=
  ⟨ConfirmingSubmitter.submit⟩

/-- How often a plan is submitted. -/
structure RetryPolicy where
  maxAttempts : Nat
deriving DecidableEq

/-- `RetryPolicy::default`, with `DEFAULT_MAX_SUBMIT_ATTEMPTS`. -/
def RetryPolicy.default : RetryPolicy := ⟨3⟩

/-- Submits again after an error that could pass. -/
structure RetryingSubmitter (S : Type) where
  submitter : S
  policy : RetryPolicy
deriving DecidableEq

/-- The loop of `RetryingSubmitter::submit`, with the attempts left and the
    last error. -/
def retryLoop {S : Type} [SolanaSubmitter S] (plan : InstructionPlan) :
    Nat → Option SubmissionError → S → Except SubmissionError SubmittedTransaction × S
  | 0, lastError, submitter =>
    (.error (lastError.getD (.uncertain "retry attempts exhausted")), submitter)
  | attempts + 1, _, submitter =>
    match SolanaSubmitter.submit submitter plan with
    | (.ok submitted, submitter) => (.ok submitted, submitter)
    | (.error error, submitter) =>
      if error.isRetryable then retryLoop plan attempts (some error) submitter
      else (.error error, submitter)

/-- `RetryingSubmitter::submit`. There is at least one attempt, whatever the
    policy says. -/
def RetryingSubmitter.submit {S : Type} [SolanaSubmitter S] (s : RetryingSubmitter S)
    (plan : InstructionPlan) : Except SubmissionError SubmittedTransaction × RetryingSubmitter S :=
  let (result, submitter) := retryLoop plan (max s.policy.maxAttempts 1) none s.submitter
  (result, { s with submitter })

instance {S : Type} [SolanaSubmitter S] : SolanaSubmitter (RetryingSubmitter S) :=
  ⟨RetryingSubmitter.submit⟩

/-- Keeps the dead letters in a list. -/
structure RecordingDeadLetterSink where
  deadLetters : List DeadLetter
deriving DecidableEq

/-- `RecordingDeadLetterSink::new`. -/
def RecordingDeadLetterSink.new : RecordingDeadLetterSink := ⟨[]⟩

/-- `RecordingDeadLetterSink::record`. -/
def RecordingDeadLetterSink.record (sink : RecordingDeadLetterSink) (deadLetter : DeadLetter) :
    Except SubmissionError Unit × RecordingDeadLetterSink :=
  (.ok (), ⟨sink.deadLetters ++ [deadLetter]⟩)

instance : DeadLetterSink RecordingDeadLetterSink := ⟨RecordingDeadLetterSink.record⟩

/-- Records what could not be submitted. -/
structure DeadLetteringSubmitter (S D : Type) where
  submitter : S
  deadLetters : D
deriving DecidableEq

/-- `DeadLetteringSubmitter::submit`. -/
def DeadLetteringSubmitter.submit {S D : Type} [SolanaSubmitter S] [DeadLetterSink D]
    (s : DeadLetteringSubmitter S D) (plan : InstructionPlan) :
    Except SubmissionError SubmittedTransaction × DeadLetteringSubmitter S D :=
  match SolanaSubmitter.submit s.submitter plan with
  | (.ok submitted, submitter) => (.ok submitted, { s with submitter })
  | (.error error, submitter) =>
    match DeadLetterSink.record s.deadLetters { plan, error } with
    | (.error failure, deadLetters) => (.error failure, ⟨submitter, deadLetters⟩)
    | (.ok _, deadLetters) => (.error error, ⟨submitter, deadLetters⟩)

instance {S D : Type} [SolanaSubmitter S] [DeadLetterSink D] :
    SolanaSubmitter (DeadLetteringSubmitter S D) :=
  ⟨DeadLetteringSubmitter.submit⟩

/-! ### The worker -/

/-- A request that was not submitted, with the error. -/
structure SettlementSubmissionFailure where
  request : SignedSettlementRequest
  error : SubmissionError
deriving DecidableEq

/-- What came of the requests, submitted ones and failed ones apart. -/
structure SettlementWorkerReport where
  submitted : List SubmittedTransaction
  failed : List SettlementSubmissionFailure
deriving DecidableEq

/-- Plans and submits one request after the other. -/
structure SettlementRequestWorker (S : Type) where
  planner : SettlementInstructionPlanner
  submitter : S
deriving DecidableEq

/-- The loop of `SettlementRequestWorker::submit_requests`, with the report so
    far. -/
def submitLoop {S : Type} [SolanaSubmitter S] (rt : ClientRuntime)
    (planner : SettlementInstructionPlanner) :
    List SignedSettlementRequest → SettlementWorkerReport → S → SettlementWorkerReport × S
  | [], report, submitter => (report, submitter)
  | request :: requests, report, submitter =>
    match SolanaSubmitter.submit submitter (planner.planSignedSettlement rt request) with
    | (.ok transaction, submitter) =>
      submitLoop rt planner requests
        { report with submitted := report.submitted ++ [transaction] } submitter
    | (.error error, submitter) =>
      submitLoop rt planner requests
        { report with failed := report.failed ++ [{ request, error }] } submitter

/-- `SettlementRequestWorker::submit_requests`. -/
def SettlementRequestWorker.submitRequests {S : Type} [SolanaSubmitter S] (rt : ClientRuntime)
    (worker : SettlementRequestWorker S) (requests : List SignedSettlementRequest) :
    SettlementWorkerReport × SettlementRequestWorker S :=
  let (report, submitter) := submitLoop rt worker.planner requests ⟨[], []⟩ worker.submitter
  (report, { worker with submitter })

/-! ### What the chain was asked -/

/-- A submitter or poller, with what it was asked and what it answered. -/
structure Recorded (S Question Answer : Type) where
  inner : S
  calls : List (Question × Answer)
deriving DecidableEq

/-- A submitter with a record of the plans. -/
abbrev Sender (S : Type) :=
  Recorded S InstructionPlan (Except SubmissionError SubmittedTransaction)

/-- A poller with a record of the signatures. -/
abbrev Poller (P : Type) :=
  Recorded P TransactionSignature (Except SubmissionError ConfirmationStatus)

instance {S : Type} [SolanaSubmitter S] : SolanaSubmitter (Sender S) where
  submit s plan :=
    let (result, inner) := SolanaSubmitter.submit s.inner plan
    (result, ⟨inner, s.calls ++ [(plan, result)]⟩)

instance {P : Type} [ConfirmationPoller P] : ConfirmationPoller (Poller P) where
  poll p signature :=
    let (result, inner) := ConfirmationPoller.poll p.inner signature
    (result, ⟨inner, p.calls ++ [(signature, result)]⟩)

/-! ### The account of a request -/

/-- A poll that leaves the confirmation open. -/
def Undecided (poll : Except SubmissionError ConfirmationStatus) : Prop :=
  ∃ error, poll = .ok (.uncertain error)

/-- What polls say in the end: the last one decides, unless all were open. -/
def verdict (polls : List (Except SubmissionError ConfirmationStatus)) :
    Except SubmissionError ConfirmationStatus :=
  match polls.getLast? with
  | some (.error error) => .error error
  | some (.ok .confirmed) => .ok .confirmed
  | some (.ok (.failed error)) => .ok (.failed error)
  | _ => .ok (.uncertain "confirmation polling exhausted")

/-- One call of the submitter at the bottom, with the polls that follow it. -/
structure Attempt where
  sent : Except SubmissionError SubmittedTransaction
  polls : List (Except SubmissionError ConfirmationStatus)
deriving DecidableEq

namespace Attempt

/-- What comes of an attempt. -/
def outcome (attempt : Attempt) : Except SubmissionError SubmittedTransaction :=
  match attempt.sent with
  | .error error => .error error
  | .ok submitted =>
    match verdict attempt.polls with
    | .error error => .error error
    | .ok .confirmed => .ok submitted
    | .ok (.failed error) => .error (.rejected error)
    | .ok (.uncertain error) => .error (.uncertain error)

/-- The polls of an attempt: none when nothing was sent, else up to the bound
    while they leave the confirmation open. -/
def Made (maxPolls : Nat) (attempt : Attempt) : Prop :=
  match attempt.sent with
  | .error _ => attempt.polls = []
  | .ok _ => Tried Undecided maxPolls attempt.polls

/-- What the poller is asked in an attempt, and answers. -/
def pollCalls (attempt : Attempt) :
    List (TransactionSignature × Except SubmissionError ConfirmationStatus) :=
  match attempt.sent with
  | .error _ => []
  | .ok submitted => attempt.polls.map (fun poll => (submitted.signature, poll))

/-- An attempt that asks for another one. -/
def Retryable (attempt : Attempt) : Prop :=
  ∃ error, attempt.outcome = .error error ∧ error.isRetryable = true

/-- The transaction of an attempt was confirmed. -/
def Confirmed (attempt : Attempt) (submitted : SubmittedTransaction) : Prop :=
  attempt.sent = .ok submitted ∧ attempt.polls.getLast? = some (.ok .confirmed)

end Attempt

/-- What comes of the last attempt, or an error when there was none. -/
def lastOutcome (error : SubmissionError) (attempts : List Attempt) :
    Except SubmissionError SubmittedTransaction :=
  match attempts.getLast? with
  | some attempt => attempt.outcome
  | none => .error error

/-- A request with the attempts made for it. -/
structure Handled where
  request : SignedSettlementRequest
  attempts : List Attempt
deriving DecidableEq

namespace Handled

/-- What comes of a request is what comes of its last attempt. -/
def outcome (handled : Handled) : Except SubmissionError SubmittedTransaction :=
  lastOutcome (.uncertain "retry attempts exhausted") handled.attempts

/-- A request is pursued with at least one attempt, up to the bound while they
    ask for another one. The polls of each attempt are bounded too. -/
structure Pursued (maxAttempts maxPolls : Nat) (handled : Handled) : Prop where
  started : 1 ≤ handled.attempts.length
  tried : Tried Attempt.Retryable (max maxAttempts 1) handled.attempts
  made : ∀ attempt ∈ handled.attempts, attempt.Made maxPolls

/-- The failure that a request is reported with. -/
def failure? (handled : Handled) : Option SettlementSubmissionFailure :=
  match handled.outcome with
  | .ok _ => none
  | .error error => some ⟨handled.request, error⟩

end Handled

/-- Requests are accounted for: each was pursued, the submitter and the poller
    at the bottom were asked what the attempts say, in this order, and the
    report and the dead letters are what came of the requests. So nothing is
    sent that belongs to no request, and no request goes unreported. -/
structure Accounted (plan : SignedSettlementRequest → InstructionPlan) (retries : RetryPolicy)
    (polling : PollingPolicy) (requests : List SignedSettlementRequest) (handled : List Handled)
    (sends : List (InstructionPlan × Except SubmissionError SubmittedTransaction))
    (polls : List (TransactionSignature × Except SubmissionError ConfirmationStatus))
    (deadLetters : List DeadLetter) (report : SettlementWorkerReport) : Prop where
  requests : handled.map Handled.request = requests
  pursued : ∀ h ∈ handled, h.Pursued retries.maxAttempts polling.maxPolls
  sends : sends = handled.flatMap (fun h => h.attempts.map (fun a => (plan h.request, a.sent)))
  polls : polls = handled.flatMap (fun h => h.attempts.flatMap Attempt.pollCalls)
  submitted : report.submitted = handled.filterMap (fun h => h.outcome.toOption)
  failed : report.failed = handled.filterMap Handled.failure?
  deadLetters : deadLetters = report.failed.map (fun f => ⟨plan f.request, f.error⟩)
  confirmed : ∀ h ∈ handled, ∀ submitted, h.outcome = .ok submitted →
    ∃ attempt, h.attempts.getLast? = some attempt ∧ attempt.Confirmed submitted ∧
      attempt.polls.length ≤ polling.maxPolls

/-! ### One attempt -/

section Attempts

variable {S P : Type} [SolanaSubmitter S] [ConfirmationPoller P]

/-- A poll that leaves the confirmation open does not decide. -/
theorem verdict_cons {poll : Except SubmissionError ConfirmationStatus} (h : Undecided poll)
    (polls : List (Except SubmissionError ConfirmationStatus)) :
    verdict (poll :: polls) = verdict polls := by
  rcases h with ⟨error, rfl⟩
  cases polls with
  | nil => rfl
  | cons second rest => rfl

/-- A poll is added to the record of the poller. -/
theorem poll_calls (poller : Poller P) (signature : TransactionSignature) :
    (ConfirmationPoller.poll poller signature).2.calls
      = poller.calls ++ [(signature, (ConfirmationPoller.poll poller signature).1)] := rfl

/-- A plan is added to the record of the submitter. -/
theorem send_calls (sender : Sender S) (plan : InstructionPlan) :
    (SolanaSubmitter.submit sender plan).2.calls
      = sender.calls ++ [(plan, (SolanaSubmitter.submit sender plan).1)] := rfl

/-- Polling goes on while the answers leave the confirmation open, and answers
    what the last one says. By induction on the polls left. -/
theorem pollLoop_polls (signature : TransactionSignature) (maxPolls : Nat) (poller : Poller P) :
    ∃ polls, Tried Undecided maxPolls polls ∧
      (pollLoop signature maxPolls poller).1 = verdict polls ∧
      (pollLoop signature maxPolls poller).2.calls
        = poller.calls ++ polls.map (fun poll => (signature, poll)) := by
  induction maxPolls generalizing poller with
  | zero => exact ⟨[], .nil, rfl, (List.append_nil _).symm⟩
  | succ maxPolls ih =>
      -- One poll is made, and its answer says whether there are more.
      have hcalls := poll_calls poller signature
      rw [pollLoop]
      generalize ConfirmationPoller.poll poller signature = answered at hcalls ⊢
      rcases answered with ⟨error | _ | error | error, poller'⟩
      · -- An error, a confirmation and a failure each end the polling.
        exact ⟨[.error error], .stop (fun h => by rcases h with ⟨_, h⟩; cases h), rfl, hcalls⟩
      · exact ⟨[.ok .confirmed], .stop (fun h => by rcases h with ⟨_, h⟩; cases h), rfl, hcalls⟩
      · exact ⟨[.ok (.failed error)], .stop (fun h => by rcases h with ⟨_, h⟩; cases h), rfl,
          hcalls⟩
      · -- An uncertain answer is asked again, with one poll less to make.
        rcases ih poller' with ⟨polls, htried, hverdict, hrest⟩
        have hopen : Undecided (.ok (.uncertain error)) := ⟨error, rfl⟩
        refine ⟨.ok (.uncertain error) :: polls, htried.again hopen, ?_, ?_⟩
        · rw [verdict_cons hopen]
          exact hverdict
        · refine hrest.trans ?_
          rw [show poller'.calls = _ from hcalls, List.append_assoc]
          rfl

/-- The submitter that confirms, over the two records. -/
abbrev Confirming (S P : Type) := ConfirmingSubmitter (Sender S) (PollingConfirmer (Poller P))

/-- Submitting and confirming is one attempt. -/
theorem confirming_submit (s : Confirming S P) (plan : InstructionPlan) :
    ∃ attempt : Attempt, attempt.Made s.confirmer.policy.maxPolls ∧
      (s.submit plan).1 = attempt.outcome ∧
      (s.submit plan).2.submitter.calls = s.submitter.calls ++ [(plan, attempt.sent)] ∧
      (s.submit plan).2.confirmer.poller.calls
        = s.confirmer.poller.calls ++ attempt.pollCalls ∧
      (s.submit plan).2.confirmer.policy = s.confirmer.policy := by
  have hcalls := send_calls s.submitter plan
  rw [ConfirmingSubmitter.submit]
  generalize SolanaSubmitter.submit s.submitter plan = answered at hcalls ⊢
  rcases answered with ⟨error | submitted, submitter⟩
  · exact ⟨⟨.error error, []⟩, rfl, rfl, hcalls, (List.append_nil _).symm, rfl⟩
  · rcases pollLoop_polls submitted.signature s.confirmer.policy.maxPolls s.confirmer.poller with
      ⟨polls, htried, hverdict, hpolls⟩
    have hconfirm : TransactionConfirmer.confirm s.confirmer submitted.signature
        = (verdict polls, ⟨(pollLoop submitted.signature s.confirmer.policy.maxPolls
          s.confirmer.poller).2, s.confirmer.policy⟩) := by
      rw [← hverdict]
      rfl
    -- What the polls say decides the outcome, and nothing else.
    refine ⟨⟨.ok submitted, polls⟩, htried, ?_⟩
    simp only [hconfirm, Attempt.outcome, Attempt.pollCalls]
    rcases verdict polls with error | _ | error | error <;>
      exact ⟨rfl, hcalls, hpolls, rfl⟩

/-! ### The attempts for a plan -/

/-- After an error the last outcome is that of the attempts after it. -/
theorem lastOutcome_cons {attempt : Attempt} {error : SubmissionError}
    (h : attempt.outcome = .error error) (default : SubmissionError) (attempts : List Attempt) :
    lastOutcome default (attempt :: attempts) = lastOutcome error attempts := by
  cases attempts with
  | nil => exact h
  | cons second rest => rfl

/-- An attempt with this outcome does not ask for another one. -/
theorem not_retryable {attempt : Attempt} {result : Except SubmissionError SubmittedTransaction}
    (h : result = attempt.outcome)
    (hends : ∀ error, result = .error error → error.isRetryable = false) :
    ¬ attempt.Retryable := by
  intro hretryable
  rcases hretryable with ⟨error, houtcome, hagain⟩
  rw [hends error (h.trans houtcome)] at hagain
  exact absurd hagain Bool.false_ne_true

/-- Attempts are made up to the bound while they ask for it, all with the plan,
    and the last one decides. -/
theorem retryLoop_attempts (plan : InstructionPlan) (maxAttempts : Nat)
    (lastError : Option SubmissionError) (s : Confirming S P) :
    ∃ attempts : List Attempt, Tried Attempt.Retryable maxAttempts attempts ∧
      (∀ attempt ∈ attempts, attempt.Made s.confirmer.policy.maxPolls) ∧
      (retryLoop plan maxAttempts lastError s).1
        = lastOutcome (lastError.getD (.uncertain "retry attempts exhausted")) attempts ∧
      (retryLoop plan maxAttempts lastError s).2.submitter.calls
        = s.submitter.calls ++ attempts.map (fun attempt => (plan, attempt.sent)) ∧
      (retryLoop plan maxAttempts lastError s).2.confirmer.poller.calls
        = s.confirmer.poller.calls ++ attempts.flatMap Attempt.pollCalls ∧
      (retryLoop plan maxAttempts lastError s).2.confirmer.policy = s.confirmer.policy := by
  induction maxAttempts generalizing lastError s with
  -- No attempts are left: the last error is the answer.
  | zero =>
      exact ⟨[], .nil, fun _ h => absurd h List.not_mem_nil, rfl, (List.append_nil _).symm,
        (List.append_nil _).symm, rfl⟩
  | succ maxAttempts ih =>
      rcases confirming_submit s plan with ⟨attempt, hmade, houtcome, hsends, hpolls, hpolicy⟩
      rw [retryLoop, show SolanaSubmitter.submit s plan = s.submit plan from rfl]
      generalize s.submit plan = answered at houtcome hsends hpolls hpolicy ⊢
      rcases answered with ⟨error | submitted, s'⟩
      · have houtcome' : attempt.outcome = .error error := houtcome.symm
        -- An error is tried again when it is worth it, and is the answer otherwise.
        by_cases hagain : error.isRetryable = true
        · -- The attempt and those that follow it, in the order made.
          simp only [hagain, if_true]
          rcases ih (some error) s' with
            ⟨attempts, htried, hall, hresult, hsends', hpolls', hpolicy'⟩
          simp only at hsends hpolls hpolicy
          rw [hpolicy] at hall
          refine ⟨attempt :: attempts, htried.again ⟨error, houtcome', hagain⟩, ?_, ?_, ?_, ?_,
            hpolicy'.trans hpolicy⟩
          · intro other hother
            rcases List.mem_cons.mp hother with rfl | hother
            · exact hmade
            · exact hall other hother
          · rw [hresult, lastOutcome_cons houtcome']
            rfl
          · rw [hsends', hsends, List.append_assoc]
            rfl
          · rw [hpolls', hpolls, List.append_assoc]
            rfl
        · rw [Bool.not_eq_true] at hagain
          simp only [hagain, Bool.false_eq_true, if_false]
          refine ⟨[attempt], .stop (not_retryable houtcome (fun _ h => ?_)), ?_, houtcome, hsends,
            ?_, hpolicy⟩
          · rw [← Except.error.inj h]
            exact hagain
          · intro other hother
            rw [List.mem_singleton.mp hother]
            exact hmade
          · rw [List.flatMap_singleton]
            exact hpolls
      · -- A confirmed submission is not tried again.
        refine ⟨[attempt], .stop (not_retryable houtcome (fun _ h => by cases h)), ?_, houtcome,
          hsends, ?_, hpolicy⟩
        · intro other hother
          rw [List.mem_singleton.mp hother]
          exact hmade
        · rw [List.flatMap_singleton]
          exact hpolls

end Attempts

/-! ### The pipeline over a list of requests -/

/-- The submitters that the worker is put over. -/
abbrev Pipeline (S P : Type) :=
  DeadLetteringSubmitter (RetryingSubmitter (Confirming S P)) RecordingDeadLetterSink

namespace Pipeline

section Handling

variable {S P : Type}

/-- The pipeline over a submitter and a poller, with nothing recorded. -/
def new (retries : RetryPolicy) (polling : PollingPolicy) (inner : S) (poller : P) :
    Pipeline S P :=
  ⟨⟨⟨⟨inner, []⟩, ⟨⟨poller, []⟩, polling⟩⟩, retries⟩, .new⟩

/-- What the submitter at the bottom was asked. -/
def sends (s : Pipeline S P) :
    List (InstructionPlan × Except SubmissionError SubmittedTransaction) :=
  s.submitter.submitter.submitter.calls

/-- What the poller at the bottom was asked. -/
def polls (s : Pipeline S P) :
    List (TransactionSignature × Except SubmissionError ConfirmationStatus) :=
  s.submitter.submitter.confirmer.poller.calls

/-- How often a plan is submitted by this pipeline. -/
def retries (s : Pipeline S P) : RetryPolicy := s.submitter.policy

/-- How often it asks. -/
def polling (s : Pipeline S P) : PollingPolicy := s.submitter.submitter.confirmer.policy

/-- A pipeline has handled requests since another state of it: its policies are
    as before, and the two records and the dead letters have grown by what was
    handled. -/
structure Since (plan : SignedSettlementRequest → InstructionPlan) (s s' : Pipeline S P)
    (handled : List Handled) : Prop where
  retries : s'.retries = s.retries
  polling : s'.polling = s.polling
  pursued : ∀ h ∈ handled, h.Pursued s.retries.maxAttempts s.polling.maxPolls
  sends : s'.sends = s.sends
    ++ handled.flatMap (fun h => h.attempts.map (fun a => (plan h.request, a.sent)))
  polls : s'.polls = s.polls ++ handled.flatMap (fun h => h.attempts.flatMap Attempt.pollCalls)
  deadLetters : s'.deadLetters.deadLetters = s.deadLetters.deadLetters
    ++ (handled.filterMap Handled.failure?).map (fun f => ⟨plan f.request, f.error⟩)

variable {plan : SignedSettlementRequest → InstructionPlan} {s s' s'' : Pipeline S P}
  {handled handled' : List Handled}

/-- Nothing was handled since then. -/
theorem Since.refl (s : Pipeline S P) : Since plan s s [] :=
  ⟨rfl, rfl, fun _ h => absurd h List.not_mem_nil, (List.append_nil _).symm,
    (List.append_nil _).symm, (List.append_nil _).symm⟩

/-- What was handled adds up. -/
theorem Since.trans (h : Since plan s s' handled) (h' : Since plan s' s'' handled') :
    Since plan s s'' (handled ++ handled') where
  retries := h'.retries.trans h.retries
  polling := h'.polling.trans h.polling
  pursued other hother := by
    rcases List.mem_append.mp hother with hother | hother
    · exact h.pursued other hother
    · have hpursued := h'.pursued other hother
      rw [h.retries, h.polling] at hpursued
      exact hpursued
  sends := by rw [h'.sends, h.sends, List.flatMap_append, List.append_assoc]
  polls := by rw [h'.polls, h.polls, List.flatMap_append, List.append_assoc]
  deadLetters := by
    rw [h'.deadLetters, h.deadLetters, List.filterMap_append, List.map_append, List.append_assoc]

end Handling

section Submitting

variable {S P : Type} [SolanaSubmitter S] [ConfirmationPoller P]

/-- The submission of one plan handles its request. -/
theorem submit_handled (plan : SignedSettlementRequest → InstructionPlan) (s : Pipeline S P)
    (request : SignedSettlementRequest) :
    ∃ handled : Handled, handled.request = request ∧
      (s.submit (plan request)).1 = handled.outcome ∧
      Since plan s (s.submit (plan request)).2 [handled] := by
  rcases retryLoop_attempts (plan request) (max s.retries.maxAttempts 1) none
    s.submitter.submitter with ⟨attempts, htried, hmade, hresult, hsends, hpolls, hpolicy⟩
  -- The account of the request is the list of its attempts.
  have hpursued : (⟨request, attempts⟩ : Handled).Pursued s.retries.maxAttempts
      s.polling.maxPolls :=
    ⟨htried.length_pos (Nat.lt_of_lt_of_le Nat.one_pos (Nat.le_max_right _ 1)), htried, hmade⟩
  have hall : ∀ h ∈ [(⟨request, attempts⟩ : Handled)],
      h.Pursued s.retries.maxAttempts s.polling.maxPolls := by
    intro h hmem
    rw [List.mem_singleton.mp hmem]
    exact hpursued
  have hretry : SolanaSubmitter.submit s.submitter (plan request)
      = ((retryLoop (plan request) (max s.retries.maxAttempts 1) none s.submitter.submitter).1,
        ⟨(retryLoop (plan request) (max s.retries.maxAttempts 1) none s.submitter.submitter).2,
          s.submitter.policy⟩) := rfl
  refine ⟨⟨request, attempts⟩, rfl, ?_⟩
  rw [DeadLetteringSubmitter.submit, hretry]
  generalize retryLoop (plan request) (max s.retries.maxAttempts 1) none s.submitter.submitter
    = answered at hresult hsends hpolls hpolicy ⊢
  have houtcome : answered.1 = (⟨request, attempts⟩ : Handled).outcome := hresult
  rcases answered with ⟨error | submitted, submitter⟩
  · -- The sink records the plan with the error.
    refine ⟨houtcome, rfl, hpolicy, hall, ?_, ?_, ?_⟩
    · rw [List.flatMap_singleton]
      exact hsends
    · rw [List.flatMap_singleton]
      exact hpolls
    · rw [List.filterMap_cons, Handled.failure?, ← houtcome]
      rfl
  -- Submitted, so there is no dead letter.
  · refine ⟨houtcome, rfl, hpolicy, hall, ?_, ?_, ?_⟩
    · rw [List.flatMap_singleton]
      exact hsends
    · rw [List.flatMap_singleton]
      exact hpolls
    · rw [List.filterMap_cons, Handled.failure?, ← houtcome]
      exact (List.append_nil _).symm

/-- The loop over requests handles them one after the other, and reports what
    comes of each. -/
theorem submitLoop_handled (rt : ClientRuntime) (planner : SettlementInstructionPlanner)
    (requests : List SignedSettlementRequest) (report : SettlementWorkerReport)
    (s : Pipeline S P) :
    ∃ handled : List Handled, handled.map Handled.request = requests ∧
      (submitLoop rt planner requests report s).1.submitted
        = report.submitted ++ handled.filterMap (fun h => h.outcome.toOption) ∧
      (submitLoop rt planner requests report s).1.failed
        = report.failed ++ handled.filterMap Handled.failure? ∧
      Since (planner.planSignedSettlement rt) s (submitLoop rt planner requests report s).2
        handled := by
  induction requests generalizing report s with
  | nil => exact ⟨[], rfl, (List.append_nil _).symm, (List.append_nil _).symm, .refl s⟩
  | cons request requests ih =>
      rcases submit_handled (planner.planSignedSettlement rt) s request with
        ⟨first, hrequest, houtcome, hsince⟩
      rw [submitLoop, show SolanaSubmitter.submit s (planner.planSignedSettlement rt request)
        = s.submit (planner.planSignedSettlement rt request) from rfl]
      generalize s.submit (planner.planSignedSettlement rt request) = answered
        at houtcome hsince ⊢
      -- The report grows by the failure or by the submission.
      rcases answered with ⟨error | submitted, s'⟩
      · rcases ih { report with failed := report.failed ++ [{ request, error }] } s' with
          ⟨handled, hrequests, hsubmitted, hfailed, hrest⟩
        refine ⟨first :: handled, ?_, ?_, ?_, hsince.trans hrest⟩
        · rw [List.map_cons, hrequest, hrequests]
        · rw [hsubmitted, List.filterMap_cons, ← houtcome]
          rfl
        · rw [hfailed, List.filterMap_cons, Handled.failure?, ← houtcome, hrequest,
            List.append_assoc]
          rfl
      · rcases ih { report with submitted := report.submitted ++ [submitted] } s' with
          ⟨handled, hrequests, hsubmitted, hfailed, hrest⟩
        refine ⟨first :: handled, ?_, ?_, ?_, hsince.trans hrest⟩
        · rw [List.map_cons, hrequest, hrequests]
        · rw [hsubmitted, List.filterMap_cons, ← houtcome, List.append_assoc]
          rfl
        · rw [hfailed, List.filterMap_cons, Handled.failure?, ← houtcome]

end Submitting

end Pipeline

/-! ### What a list of requests leads to -/

/-- A request that succeeds has the transaction of its last attempt, which was
    confirmed. -/
theorem confirmed_of_outcome {maxAttempts maxPolls : Nat} {handled : Handled}
    (h : handled.Pursued maxAttempts maxPolls) {submitted : SubmittedTransaction}
    (hok : handled.outcome = .ok submitted) :
    ∃ attempt, handled.attempts.getLast? = some attempt ∧ attempt.Confirmed submitted ∧
      attempt.polls.length ≤ maxPolls := by
  rw [Handled.outcome, lastOutcome] at hok
  rcases hlast : handled.attempts.getLast? with _ | attempt
  · rw [hlast] at hok
    exact absurd hok (by simp only [reduceCtorEq, not_false_eq_true])
  rw [hlast] at hok
  have hmade := h.made attempt (List.mem_of_getLast? hlast)
  rcases attempt with ⟨error | sent, polls⟩
  · exact absurd hok (by simp only [Attempt.outcome, reduceCtorEq, not_false_eq_true])
  · refine ⟨_, rfl, ?_, hmade.bounded⟩
    -- Only a confirmation at the end of the polls makes the outcome a success.
    rw [Attempt.Confirmed]
    simp only [Attempt.outcome, verdict] at hok
    rcases hend : polls.getLast? with _ | (error | _ | error | error) <;> rw [hend] at hok <;>
      simp only [reduceCtorEq, Except.ok.injEq] at hok
    exact ⟨congrArg Except.ok hok, rfl⟩

/-- Whatever the submitter and the poller at the bottom answer, the requests
    are accounted for. -/
theorem submitRequests_accounted {S P : Type} [SolanaSubmitter S] [ConfirmationPoller P]
    (rt : ClientRuntime) (planner : SettlementInstructionPlanner) (retries : RetryPolicy)
    (polling : PollingPolicy) (inner : S) (poller : P) (requests : List SignedSettlementRequest) :
    let worker : SettlementRequestWorker (Pipeline S P) :=
      ⟨planner, .new retries polling inner poller⟩
    let (report, worker') := worker.submitRequests rt requests
    ∃ handled, Accounted (planner.planSignedSettlement rt) retries polling requests handled
      worker'.submitter.sends worker'.submitter.polls worker'.submitter.deadLetters.deadLetters
      report := by
  intro worker
  rcases Pipeline.submitLoop_handled rt planner requests ⟨[], []⟩
    (Pipeline.new retries polling inner poller) with
    ⟨handled, hrequests, hsubmitted, hfailed, hsince⟩
  rw [List.nil_append] at hsubmitted hfailed
  exact ⟨handled, hrequests, hsince.pursued, hsince.sends, hsince.polls, hsubmitted, hfailed,
    hfailed ▸ hsince.deadLetters, fun h hmem submitted hok =>
      confirmed_of_outcome (hsince.pursued h hmem) hok⟩

end Relayer

end SolanaLab
