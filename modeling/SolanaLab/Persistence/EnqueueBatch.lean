import SolanaLab.Persistence.SettlementPayload

/-!
# Enqueueing a Batch

What `enqueue_settlement_requests` leaves in the outbox when an insertion
fails.

Each request is inserted by a statement of its own, outside of any
transaction, and the first failure ends the loop. The rows inserted before it
stay. So a batch is all or nothing when the only insertion that fails is the
first one, and only then: `enqueue_allOrNothing`.

Failures are numbered by insertion and are otherwise free, so the theorem
covers a lost connection, a full disk and a constraint alike. The caller
retries nothing and is told of the first error only.

## Main definitions

* `enqueueSettlementRequests`: The loop over a batch.
* `AllOrNothing`: An error changes nothing, success appends every request.

## Theorems

* `enqueue_stored`: A batch without a failure.
* `enqueue_failed`: A batch up to its first failure.
* `enqueue_allOrNothing`: When a batch is all or nothing.
-/

namespace SolanaLab

namespace Persistence

open Checked Relayer
open ApplicationSettlementBridge (sampleRequest)
open Settlement (sampleAsk)

/-- `enqueue_settlement_requests`. What `failures` gives for the number of an
    insertion is the error it fails with. The row holds the request that its
    payload stands for. -/
def enqueueSettlementRequests (keys : PubkeyText) :
    (Nat → Option PersistenceError) → SettlementOutbox → List SignedSettlementRequest →
      Except PersistenceError Unit × SettlementOutbox
  | _, outbox, [] => (.ok (), outbox)
  | failures, outbox, request :: rest =>
    match toValue SettlementRequestPayload.codec (.fromRequest keys request) with
    | .error e => (.error e, outbox)
    | .ok _ =>
      match failures 0 with
      | some e => (.error e, outbox)
      | none =>
        enqueueSettlementRequests keys (fun k => failures (k + 1)) (outbox.enqueue request) rest

/-- The outbox with a row for each request. -/
def enqueueAll (outbox : SettlementOutbox) (requests : List SignedSettlementRequest) :
    SettlementOutbox :=
  requests.foldl SettlementOutbox.enqueue outbox

/-- The pending rows of requests, numbered from an id on. -/
def insertedRows (nextId : OutboxId) :
    List SignedSettlementRequest → List (OutboxId × OutboxRow)
  | [] => []
  | request :: rest => (nextId, .inserted request) :: insertedRows (nextId + 1) rest

/-- An error has left the rows as they were, and success has appended one
    pending row for each request, in order. The sequence of ids is not asked
    about, since a sequence has gaps anyway. -/
def AllOrNothing (outbox : SettlementOutbox) (requests : List SignedSettlementRequest) :
    Except PersistenceError Unit × SettlementOutbox → Prop
  | (.error _, outbox') => outbox'.rows = outbox.rows
  | (.ok (), outbox') =>
    outbox'.rows.entries = outbox.rows.entries ++ insertedRows outbox.nextId requests

variable {keys : PubkeyText} {outbox : SettlementOutbox}

/-! ### The rows -/

/-- The rows of a stored batch are the old ones and one for each request. -/
theorem entries_enqueueAll (outbox : SettlementOutbox)
    (requests : List SignedSettlementRequest) :
    (enqueueAll outbox requests).rows.entries
      = outbox.rows.entries ++ insertedRows outbox.nextId requests := by
  induction requests generalizing outbox with
  | nil => exact (List.append_nil _).symm
  | cons request rest ih =>
      rw [enqueueAll, List.foldl_cons]
      refine (ih (outbox.enqueue request)).trans ?_
      rw [SettlementOutbox.entries_enqueue, List.append_assoc]
      rfl

/-- There are as many of them as requests. -/
theorem length_insertedRows (nextId : OutboxId) (requests : List SignedSettlementRequest) :
    (insertedRows nextId requests).length = requests.length := by
  induction requests generalizing nextId with
  | nil => rfl
  | cons request rest ih => rw [insertedRows, List.length_cons, ih, List.length_cons]

/-! ### The loop -/

/-- Every payload can be written, so only insertions fail. -/
theorem enqueue_cons (failures : Nat → Option PersistenceError)
    (request : SignedSettlementRequest) (rest : List SignedSettlementRequest) :
    enqueueSettlementRequests keys failures outbox (request :: rest)
      = match failures 0 with
        | some e => (.error e, outbox)
        | none => enqueueSettlementRequests keys (fun k => failures (k + 1))
            (outbox.enqueue request) rest := by
  rcases exists_toValue keys request with ⟨json, hvalue⟩
  rw [enqueueSettlementRequests, hvalue]

/-- A batch without a failure is stored. -/
theorem enqueue_stored {failures : Nat → Option PersistenceError}
    {requests : List SignedSettlementRequest} (h : ∀ k < requests.length, failures k = none) :
    enqueueSettlementRequests keys failures outbox requests
      = (.ok (), enqueueAll outbox requests) := by
  induction requests generalizing outbox failures with
  | nil => rfl
  | cons request rest ih =>
      have hfirst : failures 0 = none := h 0 (Nat.zero_lt_succ _)
      rw [enqueue_cons, hfirst]
      exact ih (fun k hk => h (k + 1) (Nat.succ_lt_succ hk))

/-- A batch is stored up to its first failure. By induction on the list, with
    the failures counted from the head. -/
theorem enqueue_failed {failures : Nat → Option PersistenceError}
    {requests : List SignedSettlementRequest} {n : Nat} {e : PersistenceError}
    (hn : n < requests.length) (he : failures n = some e) (h : ∀ k < n, failures k = none) :
    enqueueSettlementRequests keys failures outbox requests
      = (.error e, enqueueAll outbox (requests.take n)) := by
  induction requests generalizing outbox failures n with
  | nil => exact absurd hn (Nat.not_lt_zero n)
  | cons request rest ih =>
      cases n with
      | zero =>
          rw [enqueue_cons, he]
          rfl
      | succ n =>
          have hfirst : failures 0 = none := h 0 (Nat.zero_lt_succ n)
          rw [enqueue_cons, hfirst]
          exact ih (Nat.lt_of_succ_lt_succ hn) he (fun k hk => h (k + 1) (Nat.succ_lt_succ hk))

/-- A batch is all or nothing exactly when no insertion fails after one that
    has not. -/
theorem enqueue_allOrNothing (keys : PubkeyText) (outbox : SettlementOutbox)
    (requests : List SignedSettlementRequest) (failures : Nat → Option PersistenceError) :
    AllOrNothing outbox requests (enqueueSettlementRequests keys failures outbox requests)
      ↔ ∀ k < requests.length, (failures k).isSome → (failures 0).isSome := by
  by_cases hnone : ∀ k < requests.length, failures k = none
  · rw [enqueue_stored hnone]
    refine iff_of_true (entries_enqueueAll outbox requests) (fun k hk hsome => ?_)
    rw [hnone k hk] at hsome
    exact absurd hsome Bool.false_ne_true
  · -- There is a first failure, and what comes before it stays.
    have hfails : ∃ n, n < requests.length ∧ failures n ≠ none := by
      rcases not_forall.mp hnone with ⟨n, hn⟩
      exact ⟨n, Classical.not_imp.mp hn⟩
    rcases Nat.find_spec hfails with ⟨hlt, hne⟩
    have hbefore : ∀ k < Nat.find hfails, failures k = none := by
      intro k hk
      by_contra hk'
      exact Nat.find_min hfails hk ⟨hk.trans hlt, hk'⟩
    rcases Option.ne_none_iff_exists'.mp hne with ⟨e, he⟩
    rw [enqueue_failed hlt he hbefore]
    cases hn : Nat.find hfails with
    -- The first insertion has failed, so nothing was inserted.
    | zero =>
        rw [hn] at he
        refine iff_of_true rfl (fun k _ _ => ?_)
        rw [he]
        rfl
    -- Rows stand in the table, and the caller was given an error.
    | succ n =>
        rw [hn] at hlt he
        refine iff_of_false (fun hsame => ?_) (fun h => ?_)
        · have hlen := congrArg (fun rows : SortedMap OutboxId OutboxRow => rows.entries.length)
            (show (enqueueAll outbox (requests.take (n + 1))).rows = outbox.rows from hsame)
          simp only [entries_enqueueAll, List.length_append, length_insertedRows,
            List.length_take] at hlen
          omega
        · have hfirst := h (n + 1) hlt (by rw [he]; rfl)
          rw [hbefore 0 (by omega)] at hfirst
          exact absurd hfirst Bool.false_ne_true

/-- The second of two insertions fails, and the first row stays. -/
theorem enqueue_allOrNothing_partial :
    ¬ ∀ (keys : PubkeyText) (outbox : SettlementOutbox)
      (requests : List SignedSettlementRequest) (failures : Nat → Option PersistenceError),
      AllOrNothing outbox requests (enqueueSettlementRequests keys failures outbox requests) := by
  intro h
  have hsame := h base58 .empty [sampleRequest sampleAsk, sampleRequest sampleAsk]
    (fun k => if k = 1 then some (.sql "connection lost") else none)
  rw [enqueue_cons, if_neg Nat.zero_ne_one, enqueue_cons, if_pos rfl] at hsame
  have hentries := congrArg (fun rows : SortedMap OutboxId OutboxRow => rows.entries.length)
    (show (enqueueAll .empty [sampleRequest sampleAsk]).rows = SettlementOutbox.empty.rows
      from hsame)
  exact absurd hentries (by decide +kernel)

end Persistence

end SolanaLab
