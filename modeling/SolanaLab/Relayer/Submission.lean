import SolanaLab.Relayer.Pipeline

/-!
# The Submission of a Settlement

One worker takes items off the outbox and submits them to the chain.

A submission is up to three attempts. An attempt fetches a blockhash, signs and
sends, and polls for the transaction it has sent up to twenty times. Its errors
are sorted into those worth another attempt and the others, and the error of
the last attempt is the verdict on the item. `Phase` is where a submission
stands between two answers of the network.

The network is two lists: the settlement ids of the transactions that may still
land, and of those that have been executed. Nothing is assumed of its answers.
In particular a transaction can have reached the network although sending it
failed, so the two say different things, and the verdict goes by the answers.
`FailsQuietly` names the steps at which this matters, and `run_failedUnsettled`
says that they are all that matters.

The phases are the retrying, the confirming and the polling layer of
`Pipeline`, cut open where they wait for the network, because between two of
its answers the worker may die and other transactions may land. A phase stands
for what is left of the three loops, and `Phase.outcome` runs it to the end on
a network whose answers are known. Each answer taken in leaves the outcome as
it is, so that `verdict_reported` can say that the verdict on an item is what
the layers themselves, in the stack that the service builds, would report.

## Main definitions

* `RpcAnswer`: What one attempt to send meets.
* `PollAnswer`: What one poll meets.
* `Phase`: Where a submission stands.
* `Submission`: The outbox, the worker and the chain.
* `FailedUnsettled`: No failed row has been settled.
* `Quiet`: A settlement has not happened and cannot happen any more.
* `FailsQuietly`: A row is marked failed when its settlement is quiet.
* `Network`: Answers to come, which the layers of the pipeline can be put over.
* `Phase.outcome`: What the layers come to from a phase on.

## Theorems

* `step_outcome`: A step takes a phase on by the answer it takes in.
* `verdict_reported`: The verdict on an item is that of the layers.
* `step_rows`: Items are of rows with their request.
* `step_quiet`: Which steps keep failed rows quiet.
* `run_failedUnsettled`: The runs in which no failed row is settled.
-/

namespace SolanaLab

namespace Relayer

open Checked SettlementOutbox

/-! ### One submission -/

/-- What one `RpcSubmitter::submit` meets: no blockhash, no signature, an error
    from sending, whether the transaction got through or not, or a signature. A
    send that fails says nothing about the network, so both are possible. -/
inductive RpcAnswer where
  | blockhashFails (error : String)
  | signerMissing (signer : Settlement.Pubkey)
  | signingFails (error : String)
  | sendFails (error : String) (reached : Bool)
  | sent (signature : Settlement.Signature)
deriving DecidableEq

/-- `RpcSubmitter::submit`. -/
def RpcAnswer.submitted : RpcAnswer → Except SubmissionError Settlement.Signature
  | blockhashFails error => .error (.blockhashUnavailable error)
  | signerMissing signer => .error (.missingRequiredSigner signer)
  | signingFails error => .error (.buildTransaction error)
  | sendFails error _ => .error (.rejected error)
  | sent signature => .ok signature

/-- The transaction can land. -/
def RpcAnswer.reaches : RpcAnswer → Bool
  | sendFails _ reached => reached
  | sent _ => true
  | _ => false

/-- What one `get_signature_status` meets. -/
inductive PollAnswer where
  | fails (error : String)
  | confirmed
  | failed (error : String)
  | notFound
deriving DecidableEq

/-- Where the submission of an item stands. The counts are of the attempts and
    polls left after the current one, so that a phase with none left is the
    last. -/
inductive Phase where
  | submitting (attempts : Nat)
  | confirming (attempts polls : Nat) (signature : Settlement.Signature)
  | finished (verdict : Except SubmissionError Settlement.Signature)

/-- The turn of the loop of `RetryingSubmitter::submit` after an attempt. -/
def retry (attempts : Nat) (attempt : Except SubmissionError Settlement.Signature) : Phase :=
  match attempt with
  | .ok signature => .finished (.ok signature)
  | .error error =>
    match error.isRetryable, attempts with
    | true, attempts + 1 => .submitting attempts
    | _, _ => .finished (.error error)

/-- `ConfirmingSubmitter::submit` once the transaction is submitted or not. -/
def confirm (attempts : Nat) (submitted : Except SubmissionError Settlement.Signature) : Phase :=
  match submitted with
  | .error error => retry attempts (.error error)
  | .ok signature => .confirming attempts (PollingPolicy.default.maxPolls - 1) signature

/-- The turn of the loop of `PollingConfirmer::confirm`, with what
    `ConfirmingSubmitter::submit` makes of its result. -/
def polled (attempts polls : Nat) (signature : Settlement.Signature) : PollAnswer → Phase
  | .fails error => retry attempts (.error (.uncertain error))
  | .confirmed => retry attempts (.ok signature)
  | .failed error => retry attempts (.error (.rejected error))
  | .notFound =>
    match polls with
    | 0 => retry attempts (.error (.uncertain "confirmation polling exhausted"))
    | polls + 1 => .confirming attempts polls signature

/-! ### The worker and the chain -/

/-- The outbox, what the worker has claimed, the item it is at, and the
    settlement ids of the transactions in flight and of those executed. -/
structure Submission where
  outbox : SettlementOutbox
  items : List SettlementOutboxItem
  current : Option (SettlementOutboxItem × Phase)
  inFlight : List (Word 64)
  executed : List (Word 64)

/-- What happens to the worker, to its table and to the chain. The answers of
    the network are in the step that takes them in, and `land` is a step of the
    chain, which does not wait for the worker. -/
inductive SubmissionStep where
  | enqueue (request : SignedSettlementRequest)
  /-- The claim of the idle worker. The answer may be lost. -/
  | claim (answered : Bool)
  /-- The next item, of those claimed. -/
  | start (outboxId : OutboxId)
  | submit (answer : RpcAnswer)
  | poll (answer : PollAnswer)
  /-- The update for the verdict. It may fail. -/
  | report (updated : Bool)
  /-- The end of the worker, and the start of a new one. -/
  | stop
  /-- A transaction in flight lands or is dropped. -/
  | land (index : Nat) (succeeds : Bool)

namespace Submission

/-- An empty outbox, an idle worker and a chain without settlements. -/
def initial : Submission := ⟨SettlementOutbox.empty, [], none, [], []⟩

/-- One round of `spawn_settlement_worker` in pieces, with the steps of the
    chain. The receipt of a settlement can be created once, so the program
    executes a settlement id at most once. -/
def step (s : Submission) : SubmissionStep → Unit × Submission
  | .enqueue request => ((), { s with outbox := s.outbox.enqueue request })
  | .claim answered =>
    match s.items, s.current with
    | [], none =>
      match s.outbox.claimPendingSettlements settlementWorkerBatchLimit with
      | none => ((), s)
      -- The rows count as claimed even when the answer is lost.
      | some (items, outbox) => ((), { s with outbox, items := if answered then items else [] })
    | _, _ => ((), s)
  | .start outboxId =>
    match s.current, s.items.find? (fun item => item.outboxId = outboxId) with
    | none, some item =>
      ((), { s with
        items := s.items.filter (fun item => item.outboxId ≠ outboxId)
        current := some (item, .submitting (RetryPolicy.default.maxAttempts - 1)) })
    | _, _ => ((), s)
  | .submit answer =>
    match s.current with
    | some (item, .submitting attempts) =>
      ((), { s with
        current := some (item, confirm attempts answer.submitted)
        inFlight := if answer.reaches then item.settlementId :: s.inFlight else s.inFlight })
    | _ => ((), s)
  | .poll answer =>
    match s.current with
    | some (item, .confirming attempts polls signature) =>
      ((), { s with current := some (item, polled attempts polls signature answer) })
    | _ => ((), s)
  | .report updated =>
    match s.current with
    | some (item, .finished verdict) =>
      ((), { s with
        outbox := if updated then s.outbox.report item verdict else s.outbox
        current := none })
    | _ => ((), s)
  | .stop => ((), { s with items := [], current := none })
  | .land index succeeds =>
    match s.inFlight[index]? with
    | none => ((), s)
    | some settlementId =>
      ((), { s with
        inFlight := s.inFlight.eraseIdx index
        -- The receipt of a settlement can be created once.
        executed := if succeeds ∧ settlementId ∉ s.executed then settlementId :: s.executed
          else s.executed })

/-- No failed row has been settled. -/
def FailedUnsettled (s : Submission) : Prop :=
  ∀ id row, s.outbox.rows.get? id = some row → row.status = .failed →
    row.settlementId ∉ s.executed

/-- A settlement has not happened and none of its transactions can land. -/
def Quiet (s : Submission) (settlementId : Word 64) : Prop :=
  settlementId ∉ s.executed ∧ settlementId ∉ s.inFlight

/-- When a step marks a row failed, its settlement is quiet, and when a step
    sends a transaction, no failed row is for its settlement. Both are about the
    state before the step. The second is needed because two rows can be for one
    settlement id, of which one has failed already. -/
def FailsQuietly (s : Submission) : SubmissionStep → Prop
  | .report true => ∀ item verdict, s.current = some (item, .finished verdict) →
    item.outcome verdict = .failed → s.Quiet item.settlementId
  | .submit answer => ∀ item attempts, s.current = some (item, .submitting attempts) →
    answer.reaches = true → ∀ id row, s.outbox.rows.get? id = some row → row.status = .failed →
    row.settlementId ≠ item.settlementId
  | _ => True

/-- The settlements of failed rows are quiet. `FailedUnsettled` says it of the
    present and this of everything that can still land. -/
def FailedQuiet (s : Submission) : Prop :=
  ∀ id row, s.outbox.rows.get? id = some row → row.status = .failed → s.Quiet row.settlementId

/-- The items claimed, the current one included, are of rows with their
    request. -/
def ItemsOfRows (s : Submission) : Prop :=
  ∀ item, (item ∈ s.items ∨ ∃ phase, s.current = some (item, phase)) →
    ∃ row, s.outbox.rows.get? item.outboxId = some row ∧ row.request = item.request

/-! ### The layers of the pipeline -/

end Submission

/-- What the network is about to answer, to the attempts and to the polls. -/
structure Network where
  sends : Stream' RpcAnswer
  polls : Stream' PollAnswer

/-- `RpcConfirmationPoller::poll`. -/
def PollAnswer.polled : PollAnswer → Except SubmissionError ConfirmationStatus
  | fails error => .error (.uncertain error)
  | confirmed => .ok .confirmed
  | failed error => .ok (.failed error)
  | notFound => .ok (.uncertain "signature status not found")

instance : SolanaSubmitter (Stream' RpcAnswer) where
  submit answers _ := (answers.head.submitted.map SubmittedTransaction.mk, answers.tail)

instance : ConfirmationPoller (Stream' PollAnswer) where
  poll answers _ := (answers.head.polled, answers.tail)

namespace Network

/-- The two layers that make an attempt. -/
def confirming (network : Network) :
    ConfirmingSubmitter (Stream' RpcAnswer) (PollingConfirmer (Stream' PollAnswer)) :=
  ⟨network.sends, ⟨network.polls, PollingPolicy.default⟩⟩

/-- The submitter that `spawn_settlement_worker` builds its worker on. -/
def submitter (network : Network) (deadLetters : RecordingDeadLetterSink) :
    DeadLetteringSubmitter (RetryingSubmitter (ConfirmingSubmitter (Stream' RpcAnswer)
      (PollingConfirmer (Stream' PollAnswer)))) RecordingDeadLetterSink :=
  ⟨⟨network.confirming, RetryPolicy.default⟩, deadLetters⟩

/-- A network that gives some answers first. -/
def preceded (network : Network) (answers : List (RpcAnswer ⊕ PollAnswer)) : Network :=
  answers.foldr (fun answer later =>
    match answer with
    | .inl answer => { later with sends := Stream'.cons answer later.sends }
    | .inr answer => { later with polls := Stream'.cons answer later.polls }) network

/-- Answers given first come before answers given later. -/
theorem preceded_append (network : Network) (answers more : List (RpcAnswer ⊕ PollAnswer)) :
    network.preceded (answers ++ more) = (network.preceded more).preceded answers :=
  List.foldr_append

end Network

namespace Phase

/-- What `RetryingSubmitter::submit` makes of the result of an attempt, with
    the attempts left. -/
def pursued (plan : InstructionPlan) (attempts : Nat) (network : Network) :
    Except SubmissionError SubmittedTransaction → Except SubmissionError SubmittedTransaction
  | .ok submitted => .ok submitted
  | .error error =>
    if error.isRetryable then (retryLoop plan attempts (some error) network.confirming).1
    else .error error

/-- What `ConfirmingSubmitter::submit` makes of a confirmation. -/
def confirmation (submitted : SubmittedTransaction) :
    Except SubmissionError ConfirmationStatus → Except SubmissionError SubmittedTransaction
  | .error error => .error error
  | .ok .confirmed => .ok submitted
  | .ok (.failed error) => .error (.rejected error)
  | .ok (.uncertain error) => .error (.uncertain error)

/-- A phase stands for what is left of the loops of the layers. This is what
    they come to when the network goes on to answer like this. -/
def outcome (plan : InstructionPlan) (network : Network) :
    Phase → Except SubmissionError Settlement.Signature
  | .submitting attempts =>
    (retryLoop plan (attempts + 1) none network.confirming).1.map SubmittedTransaction.signature
  | .confirming attempts polls signature =>
    let (status, poller) := pollLoop signature (polls + 1) network.polls
    (pursued plan attempts ⟨network.sends, poller⟩ (confirmation ⟨signature⟩ status)).map
      SubmittedTransaction.signature
  | .finished verdict => verdict

variable {plan : InstructionPlan} {network : Network}

/-- The turn of the retry loop is one of its recursion. -/
theorem outcome_retry (attempts : Nat) (result : Except SubmissionError Settlement.Signature) :
    (retry attempts result).outcome plan network
      = (pursued plan attempts network (result.map SubmittedTransaction.mk)).map
        SubmittedTransaction.signature := by
  cases result with
  | ok signature => rfl
  | error error =>
      cases attempts with
      | zero =>
          -- No attempt is left, and the loop gives back the error it has kept.
          cases hagain : error.isRetryable <;>
            simp only [retry, hagain, outcome, pursued, Except.map, retryLoop, Option.getD_some,
              Bool.false_eq_true, if_true, if_false]
      | succ attempts =>
          cases hagain : error.isRetryable <;>
            simp only [retry, hagain, outcome, pursued, Except.map, Bool.false_eq_true, if_true,
              if_false]
          -- The error kept is overwritten by the next attempt's.
          rfl

/-- One round of the retry loop makes an attempt and pursues its result. -/
theorem retryLoop_pursued {attempts : Nat} {lastError : Option SubmissionError} {s later : Network}
    {result : Except SubmissionError SubmittedTransaction}
    (h : SolanaSubmitter.submit s.confirming plan = (result, later.confirming)) :
    (retryLoop plan (attempts + 1) lastError s.confirming).1
      = pursued plan attempts later result := by
  rw [retryLoop, h]
  cases result with
  | ok submitted => rfl
  | error error => cases hagain : error.isRetryable <;> simp only [pursued, hagain] <;> rfl

/-- An attempt sends, and polls for what it has sent. -/
theorem submit_confirming (network : Network) (plan : InstructionPlan) :
    SolanaSubmitter.submit network.confirming plan
      = match network.sends.head.submitted with
        | .error error => (.error error, Network.confirming ⟨network.sends.tail, network.polls⟩)
        | .ok signature =>
          let (status, polls) := pollLoop signature PollingPolicy.default.maxPolls network.polls
          (confirmation ⟨signature⟩ status, Network.confirming ⟨network.sends.tail, polls⟩) := by
  change network.confirming.submit plan = _
  rw [ConfirmingSubmitter.submit, show SolanaSubmitter.submit network.confirming.submitter plan
    = (network.sends.head.submitted.map SubmittedTransaction.mk, network.sends.tail) from rfl]
  cases network.sends.head.submitted with
  | error error => rfl
  | ok signature =>
      simp only [Except.map, show TransactionConfirmer.confirm network.confirming.confirmer
        signature = ((pollLoop signature PollingPolicy.default.maxPolls network.polls).1,
          ⟨(pollLoop signature PollingPolicy.default.maxPolls network.polls).2,
            PollingPolicy.default⟩) from rfl]
      -- What the polls say is the result, one case for each thing they can say.
      rcases (pollLoop signature PollingPolicy.default.maxPolls network.polls).1 with
        error | _ | error | error <;> rfl

/-- An attempt takes one answer off the network. -/
theorem outcome_confirm (attempts : Nat) (answer : RpcAnswer) :
    (confirm attempts answer.submitted).outcome plan network
      = (submitting attempts).outcome plan (network.preceded [.inl answer]) := by
  have hsubmit := submit_confirming (network.preceded [.inl answer]) plan
  rw [show (network.preceded [.inl answer]).sends.head = answer from rfl] at hsubmit
  cases hsubmitted : answer.submitted with
  | error error =>
      -- Nothing was sent, and nothing is polled for.
      rw [hsubmitted] at hsubmit
      rw [confirm, outcome_retry, outcome, retryLoop_pursued hsubmit]
      rfl
  | ok signature =>
      rw [hsubmitted] at hsubmit
      rw [confirm, outcome, outcome, retryLoop_pursued hsubmit]
      rfl

/-- A poll takes one answer off the network. -/
theorem outcome_polled (attempts polls : Nat) (signature : Settlement.Signature)
    (answer : PollAnswer) :
    (polled attempts polls signature answer).outcome plan network
      = (confirming attempts polls signature).outcome plan (network.preceded [.inr answer]) := by
  have hpoll : ConfirmationPoller.poll (Stream'.cons answer network.polls) signature
      = (answer.polled, network.polls) := rfl
  have hpolls : (network.preceded [.inr answer]).polls = Stream'.cons answer network.polls := rfl
  -- The loop asks once, and asks again only where the answer leaves it open.
  rw [outcome, hpolls, pollLoop, hpoll]
  cases answer with
  | fails error => exact outcome_retry attempts (.error (.uncertain error))
  | confirmed => exact outcome_retry attempts (.ok signature)
  | failed error => exact outcome_retry attempts (.error (.rejected error))
  | notFound =>
      cases polls with
      | zero =>
          exact outcome_retry attempts (.error (.uncertain "confirmation polling exhausted"))
      | succ polls => rfl

end Phase

namespace Submission

/-- The answer of the network that a step takes in. -/
def answered (s : Submission) : SubmissionStep → List (RpcAnswer ⊕ PollAnswer)
  | .submit answer =>
    match s.current with
    | some (_, .submitting _) => [.inl answer]
    | _ => []
  | .poll answer =>
    match s.current with
    | some (_, .confirming _ _ _) => [.inr answer]
    | _ => []
  | _ => []

/-- A step that leaves the worker at its item takes its phase on by the answer
    it takes in. -/
theorem step_outcome {s : Submission} {item : SettlementOutboxItem} {phase : Phase}
    (h : s.current = some (item, phase)) {i : SubmissionStep}
    (hstays : (s.step i).2.current.isSome = true) :
    ∃ phase', (s.step i).2.current = some (item, phase') ∧
      ∀ plan network, phase'.outcome plan network
        = phase.outcome plan (network.preceded (s.answered i)) := by
  cases i with
  | enqueue request => exact ⟨phase, h, fun _ _ => rfl⟩
  | claim answered =>
      -- The worker is not idle.
      have hsame : (s.step (.claim answered)).2 = s := by
        simp only [step, h]
        cases s.items <;> rfl
      rw [hsame]
      exact ⟨phase, h, fun _ _ => rfl⟩
  | start outboxId =>
      have hsame : (s.step (.start outboxId)).2 = s := by
        simp only [step, h]
      rw [hsame]
      exact ⟨phase, h, fun _ _ => rfl⟩
  -- Only these two take in an answer, each in its own phase and in no other.
  | submit answer =>
      simp only [step, answered, h]
      cases phase with
      | submitting attempts =>
          exact ⟨_, rfl, fun _ _ => Phase.outcome_confirm attempts answer⟩
      | confirming attempts polls signature => exact ⟨_, h, fun _ _ => rfl⟩
      | finished verdict => exact ⟨_, h, fun _ _ => rfl⟩
  | poll answer =>
      simp only [step, answered, h]
      cases phase with
      | submitting attempts => exact ⟨_, h, fun _ _ => rfl⟩
      | confirming attempts polls signature =>
          exact ⟨_, rfl, fun _ _ => Phase.outcome_polled attempts polls signature answer⟩
      | finished verdict => exact ⟨_, h, fun _ _ => rfl⟩
  -- A verdict that is reported ends the work on the item, and before there is one nothing
  -- happens.
  | report updated =>
      simp only [step, h] at hstays ⊢
      cases phase with
      | submitting attempts => exact ⟨_, h, fun _ _ => rfl⟩
      | confirming attempts polls signature => exact ⟨_, h, fun _ _ => rfl⟩
      | finished verdict => exact absurd hstays Bool.false_ne_true
  | stop => exact absurd hstays Bool.false_ne_true
  -- What lands does not tell the worker.
  | land index succeeds =>
      refine ⟨phase, ?_, fun _ _ => rfl⟩
      simp only [step]
      split <;> exact h

/-- However a run goes that leaves the worker at its item, its phase has gone
    on by the answers taken in, in their order. -/
theorem run_outcome {s : Submission} {item : SettlementOutboxItem} {phase : Phase}
    (h : s.current = some (item, phase)) {inputs : List SubmissionStep}
    (hstays : Run.Along step (fun s i => (s.step i).2.current.isSome = true) s inputs) :
    ∃ phase', (Run.after step s inputs).current = some (item, phase') ∧
      ∀ plan network, phase'.outcome plan network
        = phase.outcome plan (network.preceded (Run.gather step answered s inputs)) := by
  induction inputs generalizing s phase with
  | nil => exact ⟨phase, h, fun _ _ => rfl⟩
  | cons i rest ih =>
      rcases step_outcome h hstays.1 with ⟨between, hbetween, hstep⟩
      rcases ih hbetween hstays.2 with ⟨phase', hphase', hrest⟩
      refine ⟨phase', hphase', fun plan network => ?_⟩
      rw [hrest, hstep, Run.gather, Network.preceded_append]

/-- How a worker reports the verdict on a request. -/
def reported (request : SignedSettlementRequest) :
    Except SubmissionError Settlement.Signature → SettlementWorkerReport
  | .ok signature => ⟨[⟨signature⟩], []⟩
  | .error error => ⟨[], [⟨request, error⟩]⟩

/-- The submitter of the worker records a failure and answers with it, so the
    worker reports what the retry loop comes to. -/
theorem submitRequests_report (rt : Settlement.ClientRuntime)
    (planner : SettlementInstructionPlanner) (network : Network)
    (deadLetters : RecordingDeadLetterSink) (request : SignedSettlementRequest) :
    (SettlementRequestWorker.submitRequests rt ⟨planner, network.submitter deadLetters⟩
        [request]).1
      = reported request ((Phase.submitting (RetryPolicy.default.maxAttempts - 1)).outcome
        (planner.planSignedSettlement rt request) network) := by
  -- The retrying submitter runs its loop with the attempts of the default policy.
  have hretry : SolanaSubmitter.submit (network.submitter deadLetters).submitter
      (planner.planSignedSettlement rt request)
      = ((retryLoop (planner.planSignedSettlement rt request) RetryPolicy.default.maxAttempts none
          network.confirming).1,
        ⟨(retryLoop (planner.planSignedSettlement rt request) RetryPolicy.default.maxAttempts none
          network.confirming).2, RetryPolicy.default⟩) := rfl
  have hsubmit : SolanaSubmitter.submit (network.submitter deadLetters)
      (planner.planSignedSettlement rt request)
      = (network.submitter deadLetters).submit (planner.planSignedSettlement rt request) := rfl
  simp only [SettlementRequestWorker.submitRequests, submitLoop, hsubmit,
    DeadLetteringSubmitter.submit, hretry, Phase.outcome]
  -- The first phase counts the attempts left after the one it is at.
  rw [show RetryPolicy.default.maxAttempts - 1 + 1 = RetryPolicy.default.maxAttempts from rfl]
  cases (retryLoop (planner.planSignedSettlement rt request) RetryPolicy.default.maxAttempts none
    network.confirming).1 <;> rfl

/-- The phases are the layers of the pipeline, cut where they wait for the
    network. When an item has come from its first attempt to a verdict,
    whatever happened around it, the worker over the layers reports just this
    verdict of a network that gives the same answers. -/
theorem verdict_reported (rt : Settlement.ClientRuntime) (planner : SettlementInstructionPlanner)
    (deadLetters : RecordingDeadLetterSink) {s : Submission} {item item' : SettlementOutboxItem}
    (hstart : s.current = some (item, .submitting (RetryPolicy.default.maxAttempts - 1)))
    {inputs : List SubmissionStep}
    (hstays : Run.Along step (fun s i => (s.step i).2.current.isSome = true) s inputs)
    {verdict : Except SubmissionError Settlement.Signature}
    (hend : (Run.after step s inputs).current = some (item', .finished verdict))
    (network : Network) :
    item' = item ∧
      (SettlementRequestWorker.submitRequests rt
        ⟨planner, (network.preceded (Run.gather step answered s inputs)).submitter deadLetters⟩
        [item.request]).1 = reported item.request verdict := by
  rcases run_outcome hstart hstays with ⟨phase, hphase, houtcome⟩
  rw [hend, Option.some.injEq, Prod.mk.injEq] at hphase
  rcases hphase with ⟨hitem, rfl⟩
  refine ⟨hitem, ?_⟩
  rw [submitRequests_report, ← houtcome]
  rfl

/-! ### What a step can do -/

/-- A step leaves the table alone or is one statement on it. -/
theorem outbox_step (s : Submission) (i : SubmissionStep) :
    (s.step i).2.outbox = s.outbox ∨
    (∃ request, (s.step i).2.outbox = s.outbox.enqueue request) ∨
    (∃ items, s.outbox.claimPendingSettlements settlementWorkerBatchLimit
      = some (items, (s.step i).2.outbox)) ∨
    ∃ item verdict, i = .report true ∧ s.current = some (item, .finished verdict) ∧
      (s.step i).2.outbox = s.outbox.report item verdict := by
  cases i with
  | enqueue request => exact Or.inr (Or.inl ⟨request, rfl⟩)
  -- The outbox changes when the worker claims and when it reports.
  | claim answered =>
      simp only [step]
      split
      · split
        · exact Or.inl rfl
        · next hclaim => exact Or.inr (Or.inr (Or.inl ⟨_, hclaim⟩))
      · exact Or.inl rfl
  | start outboxId =>
      simp only [step]
      split <;> exact Or.inl rfl
  | submit answer =>
      simp only [step]
      split <;> exact Or.inl rfl
  | poll answer =>
      simp only [step]
      split <;> exact Or.inl rfl
  | report updated =>
      simp only [step]
      split
      · next item verdict hcurrent =>
          cases updated with
          | false => exact Or.inl rfl
          | true => exact Or.inr (Or.inr (Or.inr ⟨item, verdict, rfl, hcurrent, rfl⟩))
      · exact Or.inl rfl
  | stop => exact Or.inl rfl
  | land index succeeds =>
      simp only [step]
      split <;> exact Or.inl rfl

/-- A row stays, with its request. -/
theorem rows_step {s : Submission} (i : SubmissionStep) {id : OutboxId} {row : OutboxRow}
    (h : s.outbox.rows.get? id = some row) :
    ∃ row', (s.step i).2.outbox.rows.get? id = some row' ∧ row'.request = row.request := by
  -- Updates rewrite rows, and an insertion takes an id of its own.
  rcases outbox_step s i with heq | ⟨request, heq⟩ | ⟨items, hclaim⟩ | ⟨item, verdict, -, -, heq⟩
  · rw [heq]
    exact ⟨row, h, rfl⟩
  · rw [heq, get?_enqueue, if_neg (Nat.ne_of_lt (s.outbox.fresh id row h))]
    exact ⟨row, h, rfl⟩
  · rcases get?_claim hclaim id with ⟨count, hget⟩
    rw [hget, h]
    exact ⟨_, rfl, rfl⟩
  · rcases get?_report s.outbox item verdict with ⟨change, hchange, hget⟩
    rw [heq, hget, h]
    by_cases hid : id = item.outboxId
    · rw [if_pos hid]
      exact ⟨_, rfl, (hchange row).2.1⟩
    · rw [if_neg hid]
      exact ⟨row, rfl, rfl⟩

/-- A row is failed because it was before or because the update for a verdict
    has just marked it. -/
theorem failed_step {s : Submission} {i : SubmissionStep} {id : OutboxId} {row' : OutboxRow}
    (h : (s.step i).2.outbox.rows.get? id = some row') (hfailed : row'.status = .failed) :
    ∃ row, s.outbox.rows.get? id = some row ∧ row.request = row'.request ∧
      (row.status = .failed ∨ ∃ item verdict, i = .report true ∧ item.outboxId = id ∧
        s.current = some (item, .finished verdict) ∧ item.outcome verdict = .failed) := by
  -- Neither an insertion nor a claim marks a row failed.
  rcases outbox_step s i with heq | ⟨request, heq⟩ | ⟨items, hclaim⟩ |
    ⟨item, verdict, hi, hcurrent, heq⟩
  · rw [heq] at h
    exact ⟨row', h, rfl, Or.inl hfailed⟩
  · rw [heq, get?_enqueue] at h
    by_cases hid : id = s.outbox.nextId
    · rw [if_pos hid, Option.some.injEq] at h
      rw [← h, OutboxRow.inserted] at hfailed
      exact absurd hfailed (by simp only [reduceCtorEq, not_false_eq_true])
    · rw [if_neg hid] at h
      exact ⟨row', h, rfl, Or.inl hfailed⟩
  · rcases get?_claim hclaim id with ⟨count, hget⟩
    rw [hget] at h
    rcases Option.map_eq_some_iff.mp h with ⟨row, hrow, rfl⟩
    exact ⟨row, hrow, rfl, Or.inl hfailed⟩
  -- The update is of one row. That one has the status of the verdict, the others what
  -- they had.
  · rcases get?_report s.outbox item verdict with ⟨change, hchange, hget⟩
    rw [heq, hget] at h
    by_cases hid : id = item.outboxId
    · rw [if_pos hid] at h
      rcases Option.map_eq_some_iff.mp h with ⟨row, hrow, rfl⟩
      refine ⟨row, hrow, (hchange row).2.1.symm, Or.inr ⟨item, verdict, hi, hid.symm, hcurrent, ?_⟩⟩
      rw [← (hchange row).1]
      exact hfailed
    · rw [if_neg hid] at h
      exact ⟨row', h, rfl, Or.inl hfailed⟩

/-- What was quiet stays so unless a transaction for it is sent. -/
theorem quiet_step {s : Submission} (i : SubmissionStep) {settlementId : Word 64}
    (h : s.Quiet settlementId) :
    (s.step i).2.Quiet settlementId ∨ ∃ answer item attempts, i = .submit answer ∧
      s.current = some (item, .submitting attempts) ∧ answer.reaches = true ∧
      item.settlementId = settlementId := by
  cases i with
  -- Sending adds a transaction, landing executes one that was in flight, and nothing else
  -- touches the network.
  | enqueue request => exact Or.inl h
  | claim answered =>
      simp only [step]
      split
      · split <;> exact Or.inl h
      · exact Or.inl h
  | start outboxId =>
      simp only [step]
      split <;> exact Or.inl h
  | submit answer =>
      simp only [step]
      split
      · next item attempts hcurrent =>
          -- The transaction sent is for the settlement, or for another one.
          by_cases hsent : answer.reaches = true ∧ item.settlementId = settlementId
          · exact Or.inr ⟨answer, item, attempts, rfl, hcurrent, hsent.1, hsent.2⟩
          · refine Or.inl ⟨h.1, fun hin => ?_⟩
            by_cases hreaches : answer.reaches = true
            · simp only [hreaches, if_true] at hin
              rcases List.mem_cons.mp hin with heq | hin
              · exact hsent ⟨hreaches, heq.symm⟩
              · exact h.2 hin
            · simp only [hreaches, Bool.false_eq_true, if_false] at hin
              exact h.2 hin
      · exact Or.inl h
  | poll answer =>
      simp only [step]
      split <;> exact Or.inl h
  | report updated =>
      simp only [step]
      split <;> exact Or.inl h
  | stop => exact Or.inl h
  | land index succeeds =>
      simp only [step]
      split
      · exact Or.inl h
      · next landed hget =>
          refine Or.inl ⟨fun hin => ?_, fun hin => h.2 (List.mem_of_mem_eraseIdx hin)⟩
          -- What lands was in flight.
          by_cases hexec : succeeds ∧ landed ∉ s.executed
          · simp only [if_pos hexec] at hin
            rcases List.mem_cons.mp hin with heq | hin
            · rw [heq] at h
              exact h.2 (List.mem_of_getElem? hget)
            · exact h.1 hin
          · simp only [if_neg hexec] at hin
            exact h.1 hin

/-- An item is held because it was before or because it is claimed now. -/
theorem items_step {s : Submission} {i : SubmissionStep} {item : SettlementOutboxItem}
    (h : item ∈ (s.step i).2.items ∨ ∃ phase, (s.step i).2.current = some (item, phase)) :
    (item ∈ s.items ∨ ∃ phase, s.current = some (item, phase)) ∨
      ∃ items, item ∈ items ∧ s.outbox.claimPendingSettlements settlementWorkerBatchLimit
        = some (items, (s.step i).2.outbox) := by
  cases i with
  | enqueue request => exact Or.inl h
  -- What is claimed comes from the table, even when the answer with it is lost.
  | claim answered =>
      simp only [step] at h ⊢
      split at h
      · next hitems hcurrent =>
          split at h
          · exact Or.inl h
          · next items outbox hclaim =>
              rw [hclaim]
              cases answered with
              | false =>
                  rcases h with hin | hin
                  · exact absurd hin List.not_mem_nil
                  · exact Or.inl (Or.inr hin)
              | true =>
                  rcases h with hin | hin
                  · exact Or.inr ⟨items, hin, rfl⟩
                  · exact Or.inl (Or.inr hin)
      · exact Or.inl h
  | start outboxId =>
      simp only [step] at h
      split at h
      · -- The item started was among those claimed.
        next found hcurrent hfind =>
          rcases h with hin | ⟨phase, heq⟩
          · exact Or.inl (Or.inl (List.mem_of_mem_filter hin))
          · rw [Option.some.injEq, Prod.mk.injEq] at heq
            rw [← heq.1]
            exact Or.inl (Or.inl (List.mem_of_find?_eq_some hfind))
      · exact Or.inl h
  | submit answer =>
      simp only [step] at h
      split at h
      · next found attempts hcurrent =>
          rcases h with hin | ⟨phase, heq⟩
          · exact Or.inl (Or.inl hin)
          · rw [Option.some.injEq, Prod.mk.injEq] at heq
            rw [← heq.1]
            exact Or.inl (Or.inr ⟨_, hcurrent⟩)
      · exact Or.inl h
  | poll answer =>
      simp only [step] at h
      split at h
      · next found attempts polls signature hcurrent =>
          rcases h with hin | ⟨phase, heq⟩
          · exact Or.inl (Or.inl hin)
          · rw [Option.some.injEq, Prod.mk.injEq] at heq
            rw [← heq.1]
            exact Or.inl (Or.inr ⟨_, hcurrent⟩)
      · exact Or.inl h
  -- The worker lets go of its item, and keeps the others.
  | report updated =>
      simp only [step] at h
      split at h
      · rcases h with hin | ⟨phase, heq⟩
        · exact Or.inl (Or.inl hin)
        · exact absurd heq (by simp only [reduceCtorEq, not_false_eq_true])
      · exact Or.inl h
  | stop =>
      rcases h with hin | ⟨phase, heq⟩
      · exact absurd hin List.not_mem_nil
      · exact absurd heq (by simp only [step, reduceCtorEq, not_false_eq_true])
  | land index succeeds =>
      simp only [step] at h
      split at h <;> exact Or.inl h

/-- Every step keeps the items those of rows with their requests: what is
    claimed is read off a row, and a row stays with its request. -/
theorem step_rows {s : Submission} (h : s.ItemsOfRows) (i : SubmissionStep) :
    (s.step i).2.ItemsOfRows := by
  intro item hitem
  rcases items_step hitem with hold | ⟨items, hin, hclaim⟩
  · rcases h item hold with ⟨row, hrow, hrequest⟩
    rcases rows_step i hrow with ⟨row', hrow', hrequest'⟩
    exact ⟨row', hrow', hrequest'.trans hrequest⟩
  · rcases mem_claimed hclaim hin with ⟨row, hrow, -, heq⟩
    rcases rows_step i hrow with ⟨row', hrow', hrequest'⟩
    exact ⟨row', hrow', by rw [hrequest', heq]; rfl⟩

/-- The failed rows stay quiet in the steps that fail quietly, and in no
    others. -/
theorem step_quiet {s : Submission} (hrows : s.ItemsOfRows) (hquiet : s.FailedQuiet)
    (i : SubmissionStep) : (s.step i).2.FailedQuiet ↔ s.FailsQuietly i := by
  constructor
  · intro hnext
    cases i with
    | report updated =>
        cases updated with
        | false => trivial
        | true =>
            -- The row marked is there, and the chain has not moved.
            intro item verdict hcurrent hfailed
            rcases hrows item (Or.inr ⟨_, hcurrent⟩) with ⟨row, hrow, hrequest⟩
            rcases get?_report s.outbox item verdict with ⟨change, hchange, hget⟩
            have hmarked := hnext item.outboxId (change row) (by
              simp only [step, hcurrent, if_true, hget, hrow, Option.map_some])
              ((hchange row).1.trans hfailed)
            simp only [step, hcurrent] at hmarked
            rw [OutboxRow.settlementId, (hchange row).2.1, hrequest] at hmarked
            exact hmarked
    | submit answer =>
        intro item attempts hcurrent hreaches id row hrow hfailed heq
        have hsent := (hnext id row (by simp only [step, hcurrent]; exact hrow) hfailed).2
        simp only [step, hcurrent, hreaches, if_true, heq] at hsent
        exact hsent List.mem_cons_self
    | _ => trivial
  · intro hfails id row' hrow' hfailed'
    -- The row was failed before, or the step has marked it.
    rcases failed_step hrow' hfailed' with ⟨row, hrow, hrequest, hcause⟩
    have hid : row'.settlementId = row.settlementId := by
      rw [OutboxRow.settlementId, ← hrequest]
      rfl
    have hq : s.Quiet row.settlementId := by
      rcases hcause with hfailed | ⟨item, verdict, rfl, hitem, hcurrent, houtcome⟩
      · exact hquiet id row hrow hfailed
      · rcases hrows item (Or.inr ⟨_, hcurrent⟩) with ⟨row'', hrow'', hrequest''⟩
        rw [hitem, hrow, Option.some.injEq] at hrow''
        have hsame := hfails item verdict hcurrent houtcome
        rw [SettlementOutboxItem.settlementId, ← hrequest'', ← hrow''] at hsame
        exact hsame
    rw [hid]
    -- Either way its settlement was quiet, and the step does not send for it.
    rcases quiet_step i hq with hkept | ⟨answer, item, attempts, rfl, hcurrent, hreaches, heq⟩
    · exact hkept
    · rcases hcause with hfailed | ⟨_, _, hi, -⟩
      · exact absurd heq.symm (hfails item attempts hcurrent hreaches id row hrow hfailed)
      · exact absurd hi (by simp only [reduceCtorEq, not_false_eq_true])

/-- The transactions in flight landing, whatever becomes of them. -/
def landings (lands : List (Nat × Bool)) : List SubmissionStep :=
  lands.map (fun l => .land l.1 l.2)

/-- Landings keep failed rows quiet. -/
theorem landings_quiet {s : Submission} (hrows : s.ItemsOfRows) (hquiet : s.FailedQuiet)
    (lands : List (Nat × Bool)) : (Run.after step s (landings lands)).FailedQuiet := by
  induction lands generalizing s with
  | nil => exact hquiet
  | cons l lands ih =>
      exact ih (step_rows hrows (.land l.1 l.2)) ((step_quiet hrows hquiet (.land l.1 l.2)).mpr
        trivial)

/-- Whatever lands later, no failed row is settled, exactly when the
    settlements of failed rows are quiet. -/
theorem failedQuiet_iff {s : Submission} (hrows : s.ItemsOfRows) :
    s.FailedQuiet ↔ ∀ lands, (Run.after step s (landings lands)).FailedUnsettled := by
  constructor
  · intro hquiet lands id row hrow hfailed
    exact (landings_quiet hrows hquiet lands id row hrow hfailed).1
  · intro h id row hrow hfailed
    refine ⟨h [] id row hrow hfailed, fun hflight => ?_⟩
    -- The transaction in flight lands, and is executed unless another one was.
    rcases List.getElem?_of_mem hflight with ⟨index, hindex⟩
    have hland := h [(index, true)] id row (by
      simp only [landings, List.map_cons, List.map_nil, Run.after, List.foldl_cons,
        List.foldl_nil, step, hindex]
      exact hrow) hfailed
    simp only [landings, List.map_cons, List.map_nil, Run.after, List.foldl_cons,
      List.foldl_nil, step, hindex, true_and] at hland
    by_cases hexec : row.settlementId ∉ s.executed
    · rw [if_pos hexec] at hland
      exact hland List.mem_cons_self
    · rw [if_neg hexec] at hland
      exact hexec hland

/-- Whatever lands and whenever, no failed row is settled, throughout exactly
    the runs in which rows are marked failed when their settlement is quiet and
    nothing is sent for them afterwards. -/
theorem run_failedUnsettled (inputs : List SubmissionStep) :
    (∀ pre, pre <+: inputs → ∀ lands,
      (Run.after step initial (pre ++ landings lands)).FailedUnsettled)
      ↔ Run.Along step FailsQuietly initial inputs := by
  -- What the worker holds is always of rows that are there.
  have hrows : ∀ pre, (Run.after step initial pre).ItemsOfRows := by
    intro pre
    refine Run.invariant step (P := fun _ s => s.ItemsOfRows) ?_
      (fun _ s i h => step_rows h i) pre
    rintro item (hin | ⟨phase, heq⟩)
    · exact absurd hin List.not_mem_nil
    · exact absurd heq (by simp only [initial, reduceCtorEq, not_false_eq_true])
  have hstart : initial.FailedQuiet := fun _ _ hrow => absurd hrow (by
    simp only [initial, empty, SortedMap.get?_empty, reduceCtorEq, not_false_eq_true])
  rw [← Run.always_iff_along step (s := initial) (I := fun _ s => s.ItemsOfRows)
    (P := fun _ s => s.FailedQuiet) (hrows []) (fun _ s i h => step_rows h i) hstart
    (fun _ s i hI hP => step_quiet hI hP i) inputs]
  refine forall_congr' (fun pre => imp_congr_right (fun _ => ?_))
  rw [failedQuiet_iff (hrows pre)]
  simp only [Run.after_append]

/-- Sending times out and the row is marked failed, but the transaction had
    reached the network, and lands. -/
theorem run_failedUnsettled_timeout :
    let inputs := [.enqueue (ApplicationSettlementBridge.sampleRequest Settlement.sampleAsk),
      .claim true, .start 1, .submit (.sendFails "operation timed out" true), .report true,
      .land 0 true]
    (¬ ∀ steps, (Run.after step initial steps).FailedUnsettled) ∧
    ((Run.after step initial inputs).outbox.rows.get? 1).map OutboxRow.status = some .failed ∧
    (Run.after step initial inputs).executed = [7] := by
  intro inputs
  have hstatus : ((Run.after step initial inputs).outbox.rows.get? 1).map OutboxRow.status
      = some .failed := by decide +kernel
  have hid : ((Run.after step initial inputs).outbox.rows.get? 1).map OutboxRow.settlementId
      = some 7 := by decide +kernel
  have hexecuted : (Run.after step initial inputs).executed = [7] := by decide +kernel
  -- The failed row and the settlement executed are for one id.
  refine ⟨fun h => ?_, hstatus, hexecuted⟩
  rcases Option.map_eq_some_iff.mp hstatus with ⟨row, hrow, hfailed⟩
  rw [hrow, Option.map_some, Option.some.injEq] at hid
  refine h inputs 1 row hrow hfailed ?_
  rw [hid, hexecuted]
  exact List.mem_singleton_self 7

end Submission

end Relayer

end SolanaLab
