import SolanaLab.Relayer.Bridge

/-!
# The Settlement Outbox

The table that settlement requests wait in, and the statements that change it.

A row is inserted as pending and is never deleted. A worker claims rows, which
counts an attempt for each of them and leaves them pending, submits them and
updates each by what came of it. Every statement is one step on the table. The
three updates name the row they are for and nothing else: none of them looks
at the status the row has.

Each statement has one equation that says what every row becomes, and
`get?_report` is the one for the update a worker makes.

Times are left out. The columns `created_at` and `updated_at` are written and
shown to operators, and no statement selects or updates by them: rows are
claimed in the order of their ids.

## Main definitions

* `SubmissionError`: Why a submission failed, and whether to try again.
* `OutboxRow`: A row of the table.
* `SettlementOutbox`: The table.
* `claimPendingSettlements`: The claim of a worker.
* `report`: The update for what came of an item.

## Theorems

* `get?_enqueue`: An insertion adds one pending row.
* `claimPendingSettlements_eq_some`: What a claim selects and counts.
* `mem_claimed`: Claimed items are of pending rows.
* `get?_claimed`: What a claim makes of each row.
* `get?_report`: What an update makes of each row.
-/

namespace SolanaLab

namespace Relayer

open Checked Exchange Settlement

/-- `relayer::SubmissionError`. Each variant has the text that the RPC client or
    a layer has given. -/
inductive SubmissionError where
  | blockhashExpired (error : String)
  | blockhashUnavailable (error : String)
  | buildTransaction (error : String)
  | missingRequiredSigner (signer : Pubkey)
  | rejected (error : String)
  | uncertain (error : String)
deriving DecidableEq

/-- `SubmissionError::is_retryable`. -/
def SubmissionError.isRetryable : SubmissionError → Bool
  | .blockhashExpired _ | .blockhashUnavailable _ | .uncertain _ => true
  | .buildTransaction _ | .missingRequiredSigner _ | .rejected _ => false

/-- `outbox_id`. -/
abbrev OutboxId := Nat

/-- The values of the column `status`. -/
inductive OutboxStatus where
  | pending
  | submitted
  | failed
deriving DecidableEq

/-- A row of `settlement_outbox`. The text of the last error is kept as the
    error it is printed from. The columns of the submission are empty until a
    worker has reported success. -/
structure OutboxRow where
  status : OutboxStatus
  request : SignedSettlementRequest
  attempts : Nat
  maxAttempts : Nat
  transactionSignature : Option Settlement.Signature
  lastError : Option SubmissionError
deriving DecidableEq

/-- `SettlementOutboxItem`. -/
structure SettlementOutboxItem where
  outboxId : OutboxId
  attempts : Nat
  maxAttempts : Nat
  request : SignedSettlementRequest
deriving DecidableEq

/-- `settlement_id` of a row's request. -/
def OutboxRow.settlementId (row : OutboxRow) : Word 64 := row.request.args.settlementId

/-- `settlement_id` of an item's request. -/
def SettlementOutboxItem.settlementId (item : SettlementOutboxItem) : Word 64 :=
  item.request.args.settlementId

/-- The largest value of the column `attempts`. -/
def maxInteger : Nat := 2 ^ 31 - 1

/-- `SETTLEMENT_WORKER_BATCH_LIMIT`. -/
def settlementWorkerBatchLimit : Int := 32

/-- `settlement_outbox`, with the sequence its ids come from. Rows are kept in
    the order of their ids, and every id in the table is below the next one. -/
structure SettlementOutbox where
  rows : SortedMap OutboxId OutboxRow
  nextId : OutboxId
  fresh : ∀ id row, rows.get? id = some row → id < nextId

/-- A row as it is inserted, with the defaults of the table. -/
def OutboxRow.inserted (request : SignedSettlementRequest) : OutboxRow where
  status := .pending
  request
  attempts := 0
  maxAttempts := 5
  transactionSignature := none
  lastError := none

/-- The row a claim answers with: the attempt is counted. -/
def OutboxRow.claimed (id : OutboxId) (row : OutboxRow) : SettlementOutboxItem :=
  ⟨id, row.attempts + 1, row.maxAttempts, row.request⟩

namespace SettlementOutbox

/-- The table of a fresh database. -/
def empty : SettlementOutbox :=
  ⟨SortedMap.empty, 1, fun _ _ h => absurd h (by
    simp only [SortedMap.get?_empty, reduceCtorEq, not_false_eq_true])⟩

/-- An update of every row. -/
def updateRows (outbox : SettlementOutbox) (f : OutboxId → OutboxRow → OutboxRow) :
    SettlementOutbox where
  rows := outbox.rows.mapEntries f
  nextId := outbox.nextId
  fresh id row h := by
    rw [SortedMap.get?_mapEntries] at h
    rcases Option.map_eq_some_iff.mp h with ⟨old, hold, -⟩
    exact outbox.fresh id old hold

/-- An update of the row with an id. -/
def updateRow (outbox : SettlementOutbox) (outboxId : OutboxId) (f : OutboxRow → OutboxRow) :
    SettlementOutbox :=
  outbox.updateRows (fun id row => if id = outboxId then f row else row)

/-- One insertion of `enqueue_settlement_requests`. -/
def enqueue (outbox : SettlementOutbox) (request : SignedSettlementRequest) :
    SettlementOutbox where
  rows := outbox.rows.insert outbox.nextId (.inserted request)
  nextId := outbox.nextId + 1
  fresh id row h := by
    rw [SortedMap.get?_insert] at h
    by_cases hid : id = outbox.nextId
    · rw [hid]
      exact Nat.lt_succ_self _
    · rw [if_neg hid] at h
      exact (outbox.fresh id row h).trans (Nat.lt_succ_self _)

/-- The rows a claim selects: the first pending ones, and at least one of them
    whatever the limit. -/
def pendingRows (outbox : SettlementOutbox) (limit : Int) : List (OutboxId × OutboxRow) :=
  (outbox.rows.entries.filter (fun e => e.2.status = .pending)).take (max limit 1).toNat

/-- One more attempt of each row selected fits into the column. PostgreSQL
    reports an overflow of an integer and does not wrap around. -/
def Countable (outbox : SettlementOutbox) (limit : Int) : Prop :=
  ∀ e ∈ outbox.pendingRows limit, e.2.attempts < maxInteger

instance (outbox : SettlementOutbox) (limit : Int) : Decidable (outbox.Countable limit) :=
  inferInstanceAs (Decidable (∀ e ∈ outbox.pendingRows limit, e.2.attempts < maxInteger))

/-- `claim_pending_settlements`: the items claimed and the table afterwards.
    The statement fails as a whole when a count does not fit. -/
def claimPendingSettlements (outbox : SettlementOutbox) (limit : Int) :
    Option (List SettlementOutboxItem × SettlementOutbox) :=
  let selected := outbox.pendingRows limit
  if outbox.Countable limit then
    some (selected.map (fun e => e.2.claimed e.1),
      outbox.updateRows (fun id row =>
        if id ∈ selected.map Prod.fst then { row with attempts := row.attempts + 1 } else row))
  else none

/-- `keep_settlement_pending`. -/
def keepSettlementPending (outbox : SettlementOutbox) (outboxId : OutboxId)
    (error : SubmissionError) : SettlementOutbox :=
  outbox.updateRow outboxId (fun row => { row with status := .pending, lastError := some error })

/-- `mark_settlement_submitted`. -/
def markSettlementSubmitted (outbox : SettlementOutbox) (outboxId : OutboxId)
    (signature : Settlement.Signature) : SettlementOutbox :=
  outbox.updateRow outboxId (fun row =>
    { row with status := .submitted, transactionSignature := some signature, lastError := none })

/-- `mark_settlement_failed`. -/
def markSettlementFailed (outbox : SettlementOutbox) (outboxId : OutboxId)
    (error : SubmissionError) : SettlementOutbox :=
  outbox.updateRow outboxId (fun row => { row with status := .failed, lastError := some error })

/-- The update `spawn_settlement_worker` makes for what came of an item. An
    error that could pass is kept pending as long as attempts are left, and
    every other error fails the row. -/
def report (outbox : SettlementOutbox) (item : SettlementOutboxItem)
    (verdict : Except SubmissionError Settlement.Signature) : SettlementOutbox :=
  match verdict with
  | .ok signature => outbox.markSettlementSubmitted item.outboxId signature
  | .error error =>
    if error.isRetryable ∧ item.attempts < item.maxAttempts then
      outbox.keepSettlementPending item.outboxId error
    else outbox.markSettlementFailed item.outboxId error

/-! ### What each statement does to a row -/

/-- An update of every row is made of every row. -/
theorem get?_updateRows (outbox : SettlementOutbox) (f : OutboxId → OutboxRow → OutboxRow)
    (id : OutboxId) : (outbox.updateRows f).rows.get? id = (outbox.rows.get? id).map (f id) :=
  SortedMap.get?_mapEntries f outbox.rows id

/-- An update of one row leaves the others. -/
theorem get?_updateRow (outbox : SettlementOutbox) (outboxId id : OutboxId)
    (f : OutboxRow → OutboxRow) :
    (outbox.updateRow outboxId f).rows.get? id
      = if id = outboxId then (outbox.rows.get? id).map f else outbox.rows.get? id := by
  rw [updateRow, get?_updateRows]
  by_cases h : id = outboxId
  · simp only [h, if_true]
  · simp only [h, if_false]
    exact Option.map_id'

/-- An insertion adds one pending row and leaves the others. -/
theorem get?_enqueue (outbox : SettlementOutbox) (request : SignedSettlementRequest)
    (id : OutboxId) :
    (outbox.enqueue request).rows.get? id
      = if id = outbox.nextId then some (.inserted request) else outbox.rows.get? id :=
  SortedMap.get?_insert outbox.rows outbox.nextId id _

/-- The new row is the last. -/
theorem entries_enqueue (outbox : SettlementOutbox) (request : SignedSettlementRequest) :
    (outbox.enqueue request).rows.entries
      = outbox.rows.entries ++ [(outbox.nextId, .inserted request)] := by
  refine SortedMap.insertEntry_last _ _ (fun e he => ?_)
  exact outbox.fresh e.1 e.2 ((outbox.rows.mem_entries e.1 e.2).mp he)

/-- What is selected is in the table and pending. -/
theorem mem_pendingRows {outbox : SettlementOutbox} {limit : Int} {e : OutboxId × OutboxRow}
    (h : e ∈ outbox.pendingRows limit) :
    outbox.rows.get? e.1 = some e.2 ∧ e.2.status = .pending := by
  rcases List.mem_filter.mp (List.mem_of_mem_take h) with ⟨he, hstatus⟩
  exact ⟨(outbox.rows.mem_entries e.1 e.2).mp he, of_decide_eq_true hstatus⟩

/-- When a claim is carried out, what it answers and what it leaves. -/
theorem claimPendingSettlements_eq_some {outbox outbox' : SettlementOutbox} {limit : Int}
    {items : List SettlementOutboxItem} :
    outbox.claimPendingSettlements limit = some (items, outbox')
      ↔ outbox.Countable limit ∧
        (outbox.pendingRows limit).map (fun e => e.2.claimed e.1) = items ∧
        outbox.updateRows (fun id row => if id ∈ (outbox.pendingRows limit).map Prod.fst then
          { row with attempts := row.attempts + 1 } else row) = outbox' := by
  rw [claimPendingSettlements]
  by_cases h : outbox.Countable limit
  · rw [if_pos h, Option.some.injEq, Prod.mk.injEq]
    exact ⟨fun heq => ⟨h, heq⟩, fun heq => heq.2⟩
  · rw [if_neg h]
    exact iff_of_false (by simp only [reduceCtorEq, not_false_eq_true]) (fun heq => h heq.1)

/-- Claimed items are of pending rows, with the attempt counted. -/
theorem mem_claimed {outbox outbox' : SettlementOutbox} {limit : Int}
    {items : List SettlementOutboxItem} {item : SettlementOutboxItem}
    (h : outbox.claimPendingSettlements limit = some (items, outbox')) (hitem : item ∈ items) :
    ∃ row, outbox.rows.get? item.outboxId = some row ∧ row.status = .pending ∧
      item = row.claimed item.outboxId := by
  rcases claimPendingSettlements_eq_some.mp h with ⟨-, rfl, -⟩
  rcases List.mem_map.mp hitem with ⟨e, he, rfl⟩
  rcases mem_pendingRows he with ⟨hget, hstatus⟩
  exact ⟨e.2, hget, hstatus, rfl⟩

/-- A claim counts an attempt of each row it selects. -/
theorem get?_claimed {outbox outbox' : SettlementOutbox} {limit : Int}
    {items : List SettlementOutboxItem}
    (h : outbox.claimPendingSettlements limit = some (items, outbox')) (id : OutboxId) :
    outbox'.rows.get? id = (outbox.rows.get? id).map (fun row => { row with
      attempts :=
        row.attempts + if id ∈ (outbox.pendingRows limit).map Prod.fst then 1 else 0 }) := by
  rcases claimPendingSettlements_eq_some.mp h with ⟨-, -, rfl⟩
  rw [get?_updateRows]
  by_cases hid : id ∈ (outbox.pendingRows limit).map Prod.fst
  · simp only [hid, if_true]
  · simp only [hid, if_false, Nat.add_zero]

/-- A claim leaves what rows are for and where they stand. -/
theorem get?_claim {outbox outbox' : SettlementOutbox} {limit : Int}
    {items : List SettlementOutboxItem}
    (h : outbox.claimPendingSettlements limit = some (items, outbox')) (id : OutboxId) :
    ∃ count, outbox'.rows.get? id
      = (outbox.rows.get? id).map (fun row => { row with attempts := row.attempts + count }) :=
  ⟨_, get?_claimed h id⟩

end SettlementOutbox

/-- The status an item's row is given. It stays pending when the error could
    pass and attempts are left. -/
def SettlementOutboxItem.outcome (item : SettlementOutboxItem)
    (verdict : Except SubmissionError Settlement.Signature) : OutboxStatus :=
  match verdict with
  | .ok _ => .submitted
  | .error error =>
    if error.isRetryable ∧ item.attempts < item.maxAttempts then .pending else .failed

namespace SettlementOutbox

/-- An update changes the row it names, whatever its status is, and leaves what
    the row is for and its attempts. -/
theorem get?_report (outbox : SettlementOutbox) (item : SettlementOutboxItem)
    (verdict : Except SubmissionError Settlement.Signature) :
    ∃ change : OutboxRow → OutboxRow,
      (∀ row, (change row).status = item.outcome verdict ∧ (change row).request = row.request ∧
        (change row).attempts = row.attempts ∧ (change row).maxAttempts = row.maxAttempts) ∧
      ∀ id, (outbox.report item verdict).rows.get? id
        = if id = item.outboxId then (outbox.rows.get? id).map change
          else outbox.rows.get? id := by
  unfold report SettlementOutboxItem.outcome
  -- Each of the three updates is of one row, found by its id.
  cases verdict with
  | ok signature =>
      refine ⟨_, ?_, fun id => get?_updateRow outbox item.outboxId id _⟩
      exact fun row => ⟨rfl, rfl, rfl, rfl⟩
  | error error =>
      by_cases h : error.isRetryable ∧ item.attempts < item.maxAttempts
      · simp only [if_pos h]
        refine ⟨_, ?_, fun id => get?_updateRow outbox item.outboxId id _⟩
        exact fun row => ⟨rfl, rfl, rfl, rfl⟩
      · simp only [if_neg h]
        refine ⟨_, ?_, fun id => get?_updateRow outbox item.outboxId id _⟩
        exact fun row => ⟨rfl, rfl, rfl, rfl⟩

end SettlementOutbox

end Relayer

end SolanaLab
