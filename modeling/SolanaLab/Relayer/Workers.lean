import SolanaLab.Relayer.Outbox

/-!
# Workers on One Outbox

Any number of workers share the settlement outbox. A worker claims rows when it
has none, submits them and updates each by what came of it. Claims and updates
of different workers come in any order, an answer of the database can be lost
and a worker can stop at any point, leaving its rows as they are.

The claim takes its rows `FOR UPDATE SKIP LOCKED`, which keeps two claims from
selecting a row at once. The locks end with the statement, and the claim leaves
the rows pending: the next claim selects them again while the first worker is
still at them. `ClaimsUnheld` is what is missing, and `run_statusesFinal` says
that it is exactly what is missing. While no row is held twice, the row a
worker holds is pending and only this worker can change it, so what it becomes
is final.

## Main definitions

* `Workers`: The outbox and what each worker holds.
* `WorkerStep`: A statement of a worker, or its end.
* `Exclusive`: No row is held by two workers.
* `HeldPending`: Every row held is pending.
* `ClaimsUnheld`: A claim selects no row that another worker holds.

## Theorems

* `heldIds_step`: Where the rows a worker holds come from.
* `status_step`: What changes the status of a row.
* `step_exclusive`: What one step keeps.
* `run_statusesFinal`: The runs in which statuses are final.
-/

namespace SolanaLab

namespace Relayer

open SettlementOutbox

/-- Which worker. -/
abbrev WorkerId := Nat

/-- The table and the items each worker has claimed and not yet updated. -/
structure Workers where
  outbox : SettlementOutbox
  held : WorkerId → List SettlementOutboxItem

/-- What can happen: a request comes in, a worker claims or reports, or it
    stops. A claim says whether its answer has arrived, and a report whether its
    update was carried out. -/
inductive WorkerStep where
  | enqueue (request : SignedSettlementRequest)
  /-- The claim of an idle worker. The answer may be lost. -/
  | claim (worker : WorkerId) (answered : Bool)
  /-- The update for what came of an item. It may fail. -/
  | report (worker : WorkerId) (outboxId : OutboxId)
      (verdict : Except SubmissionError Settlement.Signature) (updated : Bool)
  | stop (worker : WorkerId)

namespace Workers

/-- An empty table and idle workers. -/
def start : Workers := ⟨SettlementOutbox.empty, fun _ => []⟩

/-- The rows a worker holds. -/
def heldIds (s : Workers) (worker : WorkerId) : List OutboxId :=
  (s.held worker).map SettlementOutboxItem.outboxId

/-- One round of `spawn_settlement_worker` in pieces, for one of the workers. -/
def step (s : Workers) : WorkerStep → Unit × Workers
  | .enqueue request => ((), { s with outbox := s.outbox.enqueue request })
  | .claim worker answered =>
    if s.held worker = [] then
      match s.outbox.claimPendingSettlements settlementWorkerBatchLimit with
      | none => ((), s)
      -- The rows count as claimed even when the answer is lost.
      | some (items, outbox) =>
        ((), { outbox, held := Function.update s.held worker (if answered then items else []) })
    else ((), s)
  | .report worker outboxId verdict updated =>
    match (s.held worker).find? (fun item => item.outboxId = outboxId) with
    | none => ((), s)
    | some item =>
      ((), { outbox := if updated then s.outbox.report item verdict else s.outbox
             held := Function.update s.held worker
               ((s.held worker).filter (fun item => item.outboxId ≠ outboxId)) })
  | .stop worker => ((), { s with held := Function.update s.held worker [] })

/-- No row is held by two workers. -/
def Exclusive (s : Workers) : Prop :=
  ∀ w w', w ≠ w' → ∀ id ∈ s.heldIds w, id ∉ s.heldIds w'

/-- Every row held is pending. -/
def HeldPending (s : Workers) : Prop :=
  ∀ w, ∀ id ∈ s.heldIds w, ∃ row, s.outbox.rows.get? id = some row ∧ row.status = .pending

/-- When a step is the claim of an idle worker, none of the rows it selects is
    held by another worker. It is a condition on the state before the step, and
    the rows selected are those of the query. -/
def ClaimsUnheld (s : Workers) : WorkerStep → Prop
  | .claim worker true => s.held worker = [] → s.outbox.Countable settlementWorkerBatchLimit →
    ∀ e ∈ s.outbox.pendingRows settlementWorkerBatchLimit, ∀ w, w ≠ worker → e.1 ∉ s.heldIds w
  | _ => True

/-- What a worker holds after a claim that is answered. -/
theorem heldIds_claim {s : Workers} {worker : WorkerId} (hidle : s.held worker = [])
    (hcount : s.outbox.Countable settlementWorkerBatchLimit) (w : WorkerId) :
    (s.step (.claim worker true)).2.heldIds w
      = if w = worker then (s.outbox.pendingRows settlementWorkerBatchLimit).map Prod.fst
        else s.heldIds w := by
  have hclaim := claimPendingSettlements_eq_some.mpr ⟨hcount, rfl, rfl⟩
  simp only [step, if_pos hidle, hclaim, heldIds, if_true]
  by_cases hw : w = worker
  · rw [if_pos hw, hw, Function.update_self, List.map_map]
    rfl
  · rw [if_neg hw, Function.update_of_ne hw]

/-- A worker holds a row because it did before or because it claims it now. -/
theorem heldIds_step {s : Workers} {i : WorkerStep} {w : WorkerId} {id : OutboxId}
    (h : id ∈ (s.step i).2.heldIds w) :
    id ∈ s.heldIds w ∨ i = .claim w true ∧ s.held w = [] ∧
      s.outbox.Countable settlementWorkerBatchLimit ∧
      ∃ e ∈ s.outbox.pendingRows settlementWorkerBatchLimit, e.1 = id := by
  cases i with
  | enqueue request => exact Or.inl h
  | claim worker answered =>
      by_cases hidle : s.held worker = []
      · by_cases hcount : s.outbox.Countable settlementWorkerBatchLimit
        · cases answered with
          | false =>
              have hclaim := claimPendingSettlements_eq_some.mpr ⟨hcount, rfl, rfl⟩
              simp only [step, if_pos hidle, hclaim, heldIds] at h
              by_cases hw : w = worker
              · rw [hw, Function.update_self] at h
                exact absurd h List.not_mem_nil
              · rw [Function.update_of_ne hw] at h
                exact Or.inl h
          | true =>
              -- The claim is answered, and the worker has what it selects.
              rw [heldIds_claim hidle hcount] at h
              by_cases hw : w = worker
              · rw [if_pos hw] at h
                rw [← hw] at hidle
                exact Or.inr ⟨by rw [hw], hidle, hcount, List.mem_map.mp h⟩
              · rw [if_neg hw] at h
                exact Or.inl h
        · -- The statement fails, and nobody has anything new.
          have hclaim : s.outbox.claimPendingSettlements settlementWorkerBatchLimit = none := by
            rw [claimPendingSettlements, if_neg hcount]
          simp only [step, if_pos hidle, hclaim] at h
          exact Or.inl h
      · simp only [step, if_neg hidle] at h
        exact Or.inl h
  -- A report takes a row away, and a worker that stops has none.
  | report worker outboxId verdict updated =>
      rcases hfind : (s.held worker).find? (fun item => item.outboxId = outboxId) with _ | item
      · simp only [step, hfind] at h
        exact Or.inl h
      · simp only [step, hfind, heldIds] at h
        by_cases hw : w = worker
        · rw [hw, Function.update_self] at h
          rw [hw]
          exact Or.inl (List.map_subset _ (List.filter_subset_self _) h)
        · rw [Function.update_of_ne hw] at h
          exact Or.inl h
  | stop worker =>
      simp only [step, heldIds] at h
      by_cases hw : w = worker
      · rw [hw, Function.update_self] at h
        exact absurd h List.not_mem_nil
      · rw [Function.update_of_ne hw] at h
        exact Or.inl h

/-- A report gives the row up. -/
theorem heldIds_report {s : Workers} {worker : WorkerId} {id : OutboxId}
    {verdict : Except SubmissionError Settlement.Signature} {updated : Bool} :
    id ∉ (s.step (.report worker id verdict updated)).2.heldIds worker := by
  intro h
  rcases hfind : (s.held worker).find? (fun item => item.outboxId = id) with _ | item
  · simp only [step, hfind, heldIds] at h
    rcases List.mem_map.mp h with ⟨item, hitem, rfl⟩
    exact absurd (List.find?_eq_none.mp hfind item hitem) (by
      simp only [decide_true, not_true_eq_false, not_false_eq_true])
  · simp only [step, hfind, heldIds, Function.update_self] at h
    rcases List.mem_map.mp h with ⟨item, hitem, rfl⟩
    exact absurd (List.mem_filter.mp hitem).2 (by
      simp only [ne_eq, not_true_eq_false, decide_false, Bool.false_eq_true, not_false_eq_true])

/-- The status of a row changes by the report of a worker that holds it. Claims
    count attempts and insertions add rows, and neither writes a status. -/
theorem status_step (s : Workers) (i : WorkerStep) {id : OutboxId} {row : OutboxRow}
    (h : s.outbox.rows.get? id = some row) :
    ∃ row', (s.step i).2.outbox.rows.get? id = some row' ∧
      (row'.status = row.status ∨
        ∃ w verdict updated, i = .report w id verdict updated ∧ id ∈ s.heldIds w) := by
  cases i with
  | enqueue request =>
      refine ⟨row, ?_, Or.inl rfl⟩
      rw [step, get?_enqueue, if_neg (Nat.ne_of_lt (s.outbox.fresh id row h))]
      exact h
  -- A claim selects pending rows and leaves them pending.
  | claim worker answered =>
      by_cases hidle : s.held worker = []
      · rcases hclaim : s.outbox.claimPendingSettlements settlementWorkerBatchLimit with
          _ | ⟨items, outbox⟩
        · simp only [step, if_pos hidle, hclaim]
          exact ⟨row, h, Or.inl rfl⟩
        · -- A claim counts an attempt and leaves the status.
          rcases get?_claim hclaim id with ⟨count, hget⟩
          simp only [step, if_pos hidle, hclaim]
          rw [h, Option.map_some] at hget
          exact ⟨_, hget, Or.inl rfl⟩
      · simp only [step, if_neg hidle]
        exact ⟨row, h, Or.inl rfl⟩
  | report worker outboxId verdict updated =>
      rcases hfind : (s.held worker).find? (fun item => item.outboxId = outboxId) with _ | item
      · simp only [step, hfind]
        exact ⟨row, h, Or.inl rfl⟩
      · have hitem : item.outboxId = outboxId := by
          simpa only [decide_eq_true_eq] using List.find?_some hfind
        simp only [step, hfind]
        cases updated with
        | false => exact ⟨row, h, Or.inl rfl⟩
        | true =>
            -- The update is of the row of the item, which the worker holds.
            rcases get?_report s.outbox item verdict with ⟨change, -, hget⟩
            rw [if_pos rfl, hget, hitem]
            by_cases hid : id = outboxId
            · rw [if_pos hid, h, Option.map_some]
              refine ⟨_, rfl, Or.inr ⟨worker, verdict, true, by rw [hid], ?_⟩⟩
              rw [hid, ← hitem]
              exact List.mem_map_of_mem (List.mem_of_find?_eq_some hfind)
            · rw [if_neg hid]
              exact ⟨row, h, Or.inl rfl⟩
  | stop worker => exact ⟨row, h, Or.inl rfl⟩

/-- Nobody holds anything at the start. -/
theorem start_exclusive : Exclusive start :=
  fun _ _ _ _ h => absurd h List.not_mem_nil

/-- So whatever is held is pending. -/
theorem start_heldPending : HeldPending start :=
  fun _ _ h => absurd h List.not_mem_nil

/-- A claim that selects no row of another worker keeps the rows held apart and
    pending. All other steps give rows up, and a report changes only a row that
    is given up with it. -/
theorem step_exclusive {s : Workers} (hex : s.Exclusive) (hpending : s.HeldPending)
    {i : WorkerStep} (hclaim : s.ClaimsUnheld i) :
    (s.step i).2.Exclusive ∧ (s.step i).2.HeldPending := by
  constructor
  · intro w w' hne id hw hw'
    -- Two workers hold a row: both did before, or one of them claims it from the other.
    rcases heldIds_step hw with hold | ⟨rfl, hidle, hcount, e, he, rfl⟩
    · rcases heldIds_step hw' with hold' | ⟨rfl, hidle, hcount, e, he, rfl⟩
      · exact hex w w' hne id hold hold'
      · exact hclaim hidle hcount e he w hne hold
    · rcases heldIds_step hw' with hold' | ⟨heq, -⟩
      · exact hclaim hidle hcount e he w' hne.symm hold'
      · rw [WorkerStep.claim.injEq] at heq
        exact hne heq.1
  · intro w id hw
    rcases heldIds_step hw with hold | ⟨rfl, -, -, e, he, rfl⟩
    · rcases hpending w id hold with ⟨row, hrow, hstatus⟩
      rcases status_step s i hrow with ⟨row', hrow', hkept | ⟨w', verdict, updated, rfl, hholds⟩⟩
      · exact ⟨row', hrow', hkept.trans hstatus⟩
      · -- The worker that gives the row up is the only one that held it.
        by_cases hworker : w = w'
        · rw [hworker] at hw
          exact absurd hw heldIds_report
        · exact absurd hholds (hex w w' hworker id hold)
    · rcases mem_pendingRows he with ⟨hrow, hstatus⟩
      rcases status_step s (.claim w true) hrow with ⟨row', hrow', hkept | ⟨_, _, _, heq, -⟩⟩
      · exact ⟨row', hrow', hkept.trans hstatus⟩
      · exact absurd heq (by simp only [reduceCtorEq, not_false_eq_true])

/-- A claim that selects a row of another worker has the row held twice. -/
theorem claimsUnheld_of_exclusive {s : Workers} {i : WorkerStep} (h : (s.step i).2.Exclusive) :
    s.ClaimsUnheld i := by
  cases i with
  | claim worker answered =>
      cases answered with
      | false => trivial
      | true =>
          intro hidle hcount e he w hne hholds
          refine h w worker hne e.1 ?_ ?_
          · rw [heldIds_claim hidle hcount, if_neg hne]
            exact hholds
          · rw [heldIds_claim hidle hcount, if_pos rfl]
            exact List.mem_map_of_mem he
  | _ => trivial

/-- While rows are held apart and pending, a status that is final stays. -/
theorem step_final {s : Workers} (hpending : s.HeldPending) (i : WorkerStep) {id : OutboxId}
    {row : OutboxRow} (h : s.outbox.rows.get? id = some row) (hfinal : row.status ≠ .pending) :
    ∃ row', (s.step i).2.outbox.rows.get? id = some row' ∧ row'.status = row.status := by
  rcases status_step s i h with ⟨row', hrow', hkept | ⟨w, verdict, updated, rfl, hholds⟩⟩
  · exact ⟨row', hrow', hkept⟩
  · rcases hpending w id hholds with ⟨held, hheld, hstatus⟩
    rw [h, Option.some.injEq] at hheld
    rw [hheld] at hfinal
    exact absurd hstatus hfinal

/-- Statuses are final, and no row is held by two workers, throughout exactly
    the runs in which no claim selects a row that another worker holds. -/
theorem run_statusesFinal (inputs : List WorkerStep) :
    ((∀ pre, pre <+: inputs → (Run.after step start pre).Exclusive) ∧
      ∀ pre later, pre <+: later → later <+: inputs → ∀ id row,
        (Run.after step start pre).outbox.rows.get? id = some row → row.status ≠ .pending →
        ∃ row', (Run.after step start later).outbox.rows.get? id = some row' ∧
          row'.status = row.status)
      ↔ Run.Along step ClaimsUnheld start inputs := by
  rw [Run.along_iff]
  constructor
  · rintro ⟨hex, -⟩ pre i hpre
    have hnext := hex _ hpre
    rw [Run.after_snoc] at hnext
    exact claimsUnheld_of_exclusive hnext
  · intro hclaims
    -- Along such a run the rows held stay apart and pending.
    have hkept : ∀ pre, pre <+: inputs → (Run.after step start pre).Exclusive ∧
        (Run.after step start pre).HeldPending := by
      intro pre hpre
      refine Run.invariant_along step (P := fun _ s => s.Exclusive ∧ s.HeldPending)
        ⟨start_exclusive, start_heldPending⟩
        (fun _ s i h hclaim => step_exclusive h.1 h.2 hclaim) ((Run.along_iff step).mpr ?_)
      exact fun pre' i hpre' => hclaims pre' i (hpre'.trans hpre)
    refine ⟨fun pre hpre => (hkept pre hpre).1, ?_⟩
    -- By induction on the steps taken since the status became final.
    rintro pre later ⟨steps, rfl⟩ hlater id row hrow hfinal
    induction steps using List.reverseRecOn with
    | nil =>
        rw [List.append_nil]
        exact ⟨row, hrow, rfl⟩
    | append_singleton steps i ih =>
        rw [← List.append_assoc] at hlater ⊢
        have hshort := (List.prefix_append (pre ++ steps) [i]).trans hlater
        rcases ih hshort with ⟨mid, hmid, hstatus⟩
        rw [Run.after_snoc, ← hstatus]
        exact step_final (hkept _ hshort).2 i hmid (hstatus ▸ hfinal)

/-- Two workers claim one row. The first confirms it, and the second then marks
    it failed or puts it back. -/
theorem run_statusesFinal_twoWorkers :
    let inputs := [.enqueue (ApplicationSettlementBridge.sampleRequest Settlement.sampleAsk),
      .claim 0 true, .claim 1 true, .report 0 1 (.ok 7) true]
    let failed := inputs ++ [.report 1 1 (.error (.rejected "receipt exists")) true]
    let kept := inputs ++ [.report 1 1 (.error (.uncertain "no status")) true]
    (¬ ∀ steps, ∀ pre, pre <+: steps → (Run.after step start pre).Exclusive) ∧
    ((Run.after step start inputs).outbox.rows.get? 1).map OutboxRow.status = some .submitted ∧
    ((Run.after step start failed).outbox.rows.get? 1).map OutboxRow.status = some .failed ∧
    ((Run.after step start kept).outbox.rows.get? 1).map OutboxRow.status = some .pending := by
  intro inputs failed kept
  refine ⟨fun h => ?_, by decide +kernel, by decide +kernel, by decide +kernel⟩
  have hheld : ∀ w, w = 0 ∨ w = 1 → 1 ∈ (Run.after step start (inputs.take 3)).heldIds w := by
    rintro w (rfl | rfl) <;> decide +kernel
  exact h inputs (inputs.take 3) (List.take_prefix 3 inputs) 0 1 (by decide) 1
    (hheld 0 (Or.inl rfl)) (hheld 1 (Or.inr rfl))

end Workers

end Relayer

end SolanaLab
