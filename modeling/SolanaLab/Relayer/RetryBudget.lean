import SolanaLab.Relayer.Workers

/-!
# The Retry Budget

How many attempts the outbox gives a settlement.

Each row has a number of attempts and a maximum. The claim counts, and the
worker compares: after an error worth another attempt it puts the row back as
pending while the attempts it was given are below the maximum. Nothing compares
when a row is claimed. A worker that stops, an answer or an update that is
lost, and an update made on an old count each leave a row pending that has had
all its attempts, and the next claim counts one more.

`KeepsBudget` says of a step that it does none of this, and `run_retryBudget`
says that the runs of such steps are exactly those in which every row stays
within its maximum and a row without attempts left is pending only while a
worker holds it. `claimsOf` counts the claims themselves, so that the bound is
one on how often a settlement is tried.

## Main definitions

* `Claims`: A step claims a row.
* `claimsOf`: How often a run claims a row.
* `WithinBudget`: Rows stay within their attempts.
* `Releases`: A row may be let go of as pending.
* `KeepsBudget`: A step that keeps rows within their attempts.

## Theorems

* `row_step`: What a step makes of a row.
* `attempts_eq_claims`: Attempts count claims.
* `step_withinBudget`, `keepsBudget_of_withinBudget`: What one step keeps, and
  why only such steps keep it.
* `run_retryBudget`: The runs within the budget.
-/

namespace SolanaLab

namespace Relayer

namespace Workers

open SettlementOutbox

/-- A step claims a row. -/
def Claims (s : Workers) (i : WorkerStep) (id : OutboxId) : Prop :=
  match i with
  | .claim worker _ => s.held worker = [] ∧ s.outbox.Countable settlementWorkerBatchLimit ∧
    id ∈ (s.outbox.pendingRows settlementWorkerBatchLimit).map Prod.fst
  | _ => False

instance (s : Workers) (i : WorkerStep) (id : OutboxId) : Decidable (s.Claims i id) :=
  match i with
  | .claim worker _ => inferInstanceAs (Decidable (s.held worker = [] ∧
    s.outbox.Countable settlementWorkerBatchLimit ∧
    id ∈ (s.outbox.pendingRows settlementWorkerBatchLimit).map Prod.fst))
  | .enqueue _ => isFalse (fun h => h)
  | .report _ _ _ _ => isFalse (fun h => h)
  | .stop _ => isFalse (fun h => h)

/-- How often a run claims a row. -/
def claimsOf (id : OutboxId) (inputs : List WorkerStep) : Nat :=
  (Run.gather step (fun s i => if s.Claims i id then [i] else []) start inputs).length

/-- No row has more attempts than it may have, and a row that has had them all
    is pending only while a worker holds it. The second part is what keeps the
    next claim from counting one attempt too many, since the claim does not
    look. -/
def WithinBudget (s : Workers) : Prop :=
  ∀ id row, s.outbox.rows.get? id = some row → row.attempts ≤ row.maxAttempts ∧
    (row.status = .pending → row.attempts < row.maxAttempts ∨ ∃ w, id ∈ s.heldIds w)

/-- A worker may let go of a row as pending: it has attempts left, or another
    worker holds it. -/
def Releases (s : Workers) (worker : WorkerId) (id : OutboxId) : Prop :=
  ∀ row, s.outbox.rows.get? id = some row →
    row.attempts < row.maxAttempts ∨ ∃ w, w ≠ worker ∧ id ∈ s.heldIds w

/-- A row is there and pending. -/
def Pending (s : Workers) (id : OutboxId) : Prop :=
  ∃ row, s.outbox.rows.get? id = some row ∧ row.status = .pending

/-- A claim selects only rows with attempts left. A row that is let go of as
    pending, by a claim whose answer is lost, an update that fails, an update
    that puts it back or a worker that stops, has attempts left then, or another
    worker holds it. -/
def KeepsBudget (s : Workers) : WorkerStep → Prop
  | .enqueue _ => True
  | .claim worker answered => s.held worker = [] →
    s.outbox.Countable settlementWorkerBatchLimit →
    ∀ e ∈ s.outbox.pendingRows settlementWorkerBatchLimit,
      e.2.attempts < e.2.maxAttempts ∧ (answered = false →
        e.2.attempts + 1 < e.2.maxAttempts ∨ ∃ w, w ≠ worker ∧ e.1 ∈ s.heldIds w)
  | .report worker id verdict true => ∀ item,
    (s.held worker).find? (fun item => item.outboxId = id) = some item →
    item.outcome verdict = .pending → s.Releases worker id
  | .report worker id _ false => id ∈ s.heldIds worker → s.Pending id → s.Releases worker id
  | .stop worker => ∀ id ∈ s.heldIds worker, s.Pending id → s.Releases worker id

/-! ### What a step makes of a row -/

/-- The status that a step gives a row. -/
def statusAfter (s : Workers) (i : WorkerStep) (id : OutboxId) (status : OutboxStatus) :
    OutboxStatus :=
  match i with
  | .report worker outboxId verdict true =>
    if id = outboxId then
      match (s.held worker).find? (fun item => item.outboxId = outboxId) with
      | some item => item.outcome verdict
      | none => status
    else status
  | _ => status

/-- A row stays, with its maximum. Its attempts count the claim of it, and its
    status is what an update makes of it. -/
theorem row_step (s : Workers) (i : WorkerStep) {id : OutboxId} {row : OutboxRow}
    (h : s.outbox.rows.get? id = some row) :
    ∃ row', (s.step i).2.outbox.rows.get? id = some row' ∧ row'.maxAttempts = row.maxAttempts ∧
      row'.attempts = row.attempts + (if s.Claims i id then 1 else 0) ∧
      row'.status = s.statusAfter i id row.status := by
  cases i with
  | enqueue request =>
      refine ⟨row, ?_, rfl, rfl, rfl⟩
      rw [step, get?_enqueue, if_neg (Nat.ne_of_lt (s.outbox.fresh id row h))]
      exact h
  -- The attempts go up for the rows selected, when the worker is idle and the counts have
  -- room. Whether the answer arrives makes no difference to the table.
  | claim worker answered =>
      by_cases hidle : s.held worker = []
      · by_cases hcount : s.outbox.Countable settlementWorkerBatchLimit
        · have hclaim := claimPendingSettlements_eq_some.mpr ⟨hcount, rfl, rfl⟩
          have hselected : s.Claims (.claim worker answered) id ↔
              id ∈ (s.outbox.pendingRows settlementWorkerBatchLimit).map Prod.fst :=
            ⟨fun hclaims => hclaims.2.2, fun hid => ⟨hidle, hcount, hid⟩⟩
          have hcounted := get?_claimed hclaim id
          rw [h, Option.map_some] at hcounted
          refine ⟨_, Eq.trans ?_ hcounted, rfl, ?_, rfl⟩
          · simp only [step, if_pos hidle, hclaim]
          · simp only [hselected]
        · refine ⟨row, ?_, rfl, ?_, rfl⟩
          · have hclaim : s.outbox.claimPendingSettlements settlementWorkerBatchLimit = none := by
              rw [claimPendingSettlements, if_neg hcount]
            simp only [step, if_pos hidle, hclaim]
            exact h
          · rw [if_neg (fun hclaims => hcount hclaims.2.1)]
            rfl
      · refine ⟨row, ?_, rfl, ?_, rfl⟩
        · simp only [step, if_neg hidle]
          exact h
        · rw [if_neg (fun hclaims => hidle hclaims.1)]
          rfl
  -- An update changes the status, and neither the attempts nor the maximum.
  | report worker outboxId verdict updated =>
      rcases hfind : (s.held worker).find? (fun item => item.outboxId = outboxId) with _ | item
      · refine ⟨row, ?_, rfl, rfl, ?_⟩
        · simp only [step, hfind]
          exact h
        · cases updated <;> simp only [statusAfter, hfind, ite_self]
      · have hitem : item.outboxId = outboxId := by
          simpa only [decide_eq_true_eq] using List.find?_some hfind
        cases updated with
        | false =>
            refine ⟨row, ?_, rfl, rfl, rfl⟩
            simp only [step, hfind]
            exact h
        | true =>
            -- The update is of the row of the item.
            rcases get?_report s.outbox item verdict with ⟨change, hchange, hget⟩
            have hafter := hget id
            rw [hitem, h, Option.map_some] at hafter
            by_cases hid : id = outboxId
            · rw [if_pos hid] at hafter
              refine ⟨_, ?_, (hchange row).2.2.2, (hchange row).2.2.1, ?_⟩
              · simp only [step, hfind, if_true]
                exact hafter
              · simp only [statusAfter, if_pos hid, hfind]
                exact (hchange row).1
            · rw [if_neg hid] at hafter
              refine ⟨row, ?_, rfl, rfl, ?_⟩
              · simp only [step, hfind, if_true]
                exact hafter
              · simp only [statusAfter, if_neg hid]
  | stop worker => exact ⟨row, h, rfl, rfl, rfl⟩

/-- A row that is new was inserted, and is not claimed yet. -/
theorem row_new {s : Workers} {i : WorkerStep} {id : OutboxId} {row : OutboxRow}
    (h : s.outbox.rows.get? id = none) (h' : (s.step i).2.outbox.rows.get? id = some row) :
    ∃ request, row = .inserted request := by
  cases i with
  -- The new row is the one inserted.
  | enqueue request =>
      rw [step, get?_enqueue] at h'
      by_cases hid : id = s.outbox.nextId
      · rw [if_pos hid, Option.some.injEq] at h'
        exact ⟨request, h'.symm⟩
      · rw [if_neg hid, h] at h'
        exact absurd h' (by simp only [reduceCtorEq, not_false_eq_true])
  -- Claims and reports change rows that are there; none appears.
  | claim worker answered =>
      exfalso
      by_cases hidle : s.held worker = []
      · rcases hclaim : s.outbox.claimPendingSettlements settlementWorkerBatchLimit with
          _ | ⟨items, outbox⟩
        · simp only [step, if_pos hidle, hclaim, h, reduceCtorEq] at h'
        · simp only [step, if_pos hidle, hclaim, get?_claimed hclaim id, h, Option.map_none,
            reduceCtorEq] at h'
      · simp only [step, if_neg hidle, h, reduceCtorEq] at h'
  | report worker outboxId verdict updated =>
      exfalso
      rcases hfind : (s.held worker).find? (fun item => item.outboxId = outboxId) with _ | item
      · simp only [step, hfind, h, reduceCtorEq] at h'
      · rcases get?_report s.outbox item verdict with ⟨change, -, hget⟩
        cases updated with
        | false => simp only [step, hfind, Bool.false_eq_true, if_false, h, reduceCtorEq] at h'
        | true =>
            simp only [step, hfind, if_true, hget, h, Option.map_none, ite_self, reduceCtorEq] at h'
  | stop worker =>
      exfalso
      simp only [step, h, reduceCtorEq] at h'

/-- A row that a step claims is there and pending. -/
theorem pending_of_claims {s : Workers} {i : WorkerStep} {id : OutboxId} (h : s.Claims i id) :
    s.Pending id := by
  cases i with
  | claim worker answered =>
      rcases List.mem_map.mp h.2.2 with ⟨e, he, rfl⟩
      rcases mem_pendingRows he with ⟨hget, hstatus⟩
      exact ⟨e.2, hget, hstatus⟩
  | _ => exact absurd h (fun h => h)

/-! ### What a step leaves held -/

/-- A worker keeps a row it holds, unless it reports it or stops. -/
theorem heldIds_kept {s : Workers} (i : WorkerStep) {w : WorkerId} {id : OutboxId}
    (h : id ∈ s.heldIds w) : id ∈ (s.step i).2.heldIds w ∨ i = .stop w ∨
      ∃ verdict updated, i = .report w id verdict updated := by
  cases i with
  | enqueue request => exact Or.inl h
  | claim worker answered =>
      left
      by_cases hidle : s.held worker = []
      · -- The worker that claims held nothing, so it is another one.
        have hne : w ≠ worker := by
          rintro rfl
          rw [heldIds, hidle] at h
          exact absurd h List.not_mem_nil
        rcases hclaim : s.outbox.claimPendingSettlements settlementWorkerBatchLimit with
          _ | ⟨items, outbox⟩
        · simp only [step, if_pos hidle, hclaim]
          exact h
        · simp only [step, if_pos hidle, hclaim, heldIds, Function.update_of_ne hne]
          exact h
      · simp only [step, if_neg hidle]
        exact h
  | report worker outboxId verdict updated =>
      -- A report lets go of one row of one worker.
      by_cases hown : w = worker ∧ id = outboxId
      · rw [hown.1, hown.2]
        exact Or.inr (Or.inr ⟨verdict, updated, rfl⟩)
      · left
        rcases hfind : (s.held worker).find? (fun item => item.outboxId = outboxId) with _ | item
        · simp only [step, hfind]
          exact h
        · simp only [step, hfind, heldIds]
          by_cases hw : w = worker
          · rw [hw, Function.update_self]
            rw [heldIds, hw] at h
            rcases List.mem_map.mp h with ⟨other, hother, rfl⟩
            exact List.mem_map_of_mem (List.mem_filter.mpr
              ⟨hother, decide_eq_true (fun heq => hown ⟨hw, heq⟩)⟩)
          · rw [Function.update_of_ne hw]
            exact h
  | stop worker =>
      by_cases hw : w = worker
      · rw [hw]
        exact Or.inr (Or.inl rfl)
      · simp only [step, heldIds, Function.update_of_ne hw]
        exact Or.inl h

/-- A worker that has stopped holds nothing. -/
theorem heldIds_stop (s : Workers) (worker : WorkerId) :
    (s.step (.stop worker)).2.heldIds worker = [] := by
  simp only [step, heldIds, Function.update_self, List.map_nil]

/-- After a claim whose answer is lost, the worker holds nothing. -/
theorem heldIds_lost {s : Workers} {worker : WorkerId} {id : OutboxId}
    (hidle : s.held worker = []) : id ∉ (s.step (.claim worker false)).2.heldIds worker := by
  intro h
  rcases heldIds_step h with hold | ⟨heq, -⟩
  · rw [heldIds, hidle] at hold
    exact absurd hold List.not_mem_nil
  · exact absurd heq (by simp only [WorkerStep.claim.injEq, Bool.false_eq_true, and_false,
      not_false_eq_true])

/-- A row that is held after its worker let go of it was held by another one
    before. -/
theorem heldElsewhere_of_step {s : Workers} {i : WorkerStep} {worker : WorkerId} {id : OutboxId}
    (hclaim : ∀ w, i ≠ .claim w true) (hgone : id ∉ (s.step i).2.heldIds worker)
    (h : ∃ w, id ∈ (s.step i).2.heldIds w) : ∃ w, w ≠ worker ∧ id ∈ s.heldIds w := by
  rcases h with ⟨w, hheld⟩
  refine ⟨w, ?_, ?_⟩
  · rintro rfl
    exact hgone hheld
  · rcases heldIds_step hheld with hold | ⟨heq, -⟩
    · exact hold
    · exact absurd heq (hclaim w)

/-! ### One step -/

/-- A row that was let go of rightly has attempts left or is held. -/
theorem releases_step {s : Workers} {i : WorkerStep} {worker : WorkerId} {id : OutboxId}
    {row : OutboxRow} (h : s.Releases worker id) (hrow : s.outbox.rows.get? id = some row)
    (hother : ∀ w, w ≠ worker → id ∈ s.heldIds w → id ∈ (s.step i).2.heldIds w) :
    row.attempts < row.maxAttempts ∨ ∃ w, id ∈ (s.step i).2.heldIds w := by
  rcases h row hrow with hleft | ⟨w, hne, hheld⟩
  · exact Or.inl hleft
  · exact Or.inr ⟨w, hother w hne hheld⟩

/-- Other workers keep what they hold when a worker reports or stops. -/
theorem heldIds_others {s : Workers} {i : WorkerStep} {worker : WorkerId} {id : OutboxId}
    (hi : i = .stop worker ∨ ∃ verdict updated, i = .report worker id verdict updated) :
    ∀ w, w ≠ worker → id ∈ s.heldIds w → id ∈ (s.step i).2.heldIds w := by
  intro w hne hheld
  rcases heldIds_kept i hheld with hkept | hstop | ⟨verdict, updated, hreport⟩
  · exact hkept
  · rcases hi with rfl | ⟨_, _, rfl⟩
    · exact absurd (WorkerStep.stop.inj hstop) hne.symm
    · exact absurd hstop (by simp only [reduceCtorEq, not_false_eq_true])
  · rcases hi with rfl | ⟨_, _, rfl⟩
    · exact absurd hreport (by simp only [reduceCtorEq, not_false_eq_true])
    · rw [WorkerStep.report.injEq] at hreport
      exact absurd hreport.1 hne.symm

/-- A pending row that no step has claimed has attempts left or is held. -/
theorem unclaimed_step {s : Workers} {i : WorkerStep} {id : OutboxId} {row : OutboxRow}
    (hrow : s.outbox.rows.get? id = some row) (hkeeps : s.KeepsBudget i)
    (hbudget : row.status = .pending → row.attempts < row.maxAttempts ∨ ∃ w, id ∈ s.heldIds w)
    (hpending : s.statusAfter i id row.status = .pending) :
    row.attempts < row.maxAttempts ∨ ∃ w, id ∈ (s.step i).2.heldIds w := by
  -- An update that puts the row back may be of any row, so it comes first.
  by_cases hback : ∃ worker verdict item, i = .report worker id verdict true ∧
      (s.held worker).find? (fun item => item.outboxId = id) = some item
  · rcases hback with ⟨worker, verdict, item, rfl, hfind⟩
    simp only [statusAfter, if_true, hfind] at hpending
    exact releases_step (hkeeps item hfind hpending) hrow
      (heldIds_others (Or.inr ⟨verdict, true, rfl⟩))
  -- Any other step leaves the status of the row as it is.
  · have hstatus : s.statusAfter i id row.status = row.status := by
      cases i with
      | report worker outboxId verdict updated =>
          cases updated with
          | false => rfl
          | true =>
              by_cases hid : id = outboxId
              · subst hid
                rcases hfind : (s.held worker).find? (fun item => item.outboxId = id) with _ | item
                · simp only [statusAfter, if_true, hfind]
                · exact absurd ⟨worker, verdict, item, rfl, hfind⟩ hback
              · simp only [statusAfter, if_neg hid]
      | _ => rfl
    rw [hstatus] at hpending
    rcases hbudget hpending with hleft | ⟨w, hheld⟩
    · exact Or.inl hleft
    -- The worker that held the row keeps it, or stops, or reports it without an effect on
    -- it.
    · rcases heldIds_kept i hheld with hkept | rfl | ⟨verdict, updated, rfl⟩
      · exact Or.inr ⟨w, hkept⟩
      · exact releases_step (hkeeps id hheld ⟨row, hrow, hpending⟩) hrow
          (heldIds_others (Or.inl rfl))
      · cases updated with
        | false =>
            exact releases_step (hkeeps hheld ⟨row, hrow, hpending⟩) hrow
              (heldIds_others (Or.inr ⟨verdict, false, rfl⟩))
        | true =>
            exfalso
            rcases hfind : (s.held w).find? (fun item => item.outboxId = id) with _ | item
            · rcases List.mem_map.mp hheld with ⟨item, hitem, rfl⟩
              exact absurd (List.find?_eq_none.mp hfind item hitem) (by
                simp only [decide_true, not_true_eq_false, not_false_eq_true])
            · exact hback ⟨w, verdict, item, rfl, hfind⟩

/-- A step that keeps the budget leaves rows within it. -/
theorem step_withinBudget {s : Workers} (h : s.WithinBudget) {i : WorkerStep}
    (hkeeps : s.KeepsBudget i) : (s.step i).2.WithinBudget := by
  intro id row' hrow'
  rcases hold : s.outbox.rows.get? id with _ | row
  · rcases row_new hold hrow' with ⟨request, rfl⟩
    exact ⟨Nat.zero_le _, fun _ => Or.inl (Nat.succ_pos 4)⟩
  rcases row_step s i hold with ⟨after, hafter, hmax, hattempts, hstatus⟩
  rw [hrow', Option.some.injEq] at hafter
  rw [← hafter] at hmax hattempts hstatus
  rcases h id row hold with ⟨hle, hheld⟩
  -- Only a claim counts an attempt; without one the bound is kept.
  by_cases hclaims : s.Claims i id
  · rw [if_pos hclaims] at hattempts
    cases i with
    | claim worker answered =>
        rcases hclaims with ⟨hidle, hcount, hid⟩
        rcases List.mem_map.mp hid with ⟨e, he, rfl⟩
        have hrow : e.2 = row := Option.some.inj ((mem_pendingRows he).1.symm.trans hold)
        rcases hkeeps hidle hcount e he with ⟨hleft, hlost⟩
        rw [hrow] at hleft hlost
        refine ⟨by omega, fun _ => ?_⟩
        cases answered with
        | true =>
            right
            refine ⟨worker, ?_⟩
            rw [heldIds_claim hidle hcount, if_pos rfl]
            exact hid
        | false =>
            -- The answer is lost: a retry is left, or another worker has the row.
            rcases hlost rfl with hroom | ⟨w, hne, hother⟩
            · exact Or.inl (by omega)
            · rcases heldIds_kept (.claim worker false) hother with hkept | hstop | ⟨_, _, hreport⟩
              · exact Or.inr ⟨w, hkept⟩
              · exact absurd hstop (by simp only [reduceCtorEq, not_false_eq_true])
              · exact absurd hreport (by simp only [reduceCtorEq, not_false_eq_true])
    | _ => exact absurd hclaims (fun h => h)
  · rw [if_neg hclaims, Nat.add_zero] at hattempts
    rw [hattempts, hmax]
    refine ⟨hle, fun hpending => ?_⟩
    rw [hstatus] at hpending
    exact unclaimed_step hold hkeeps hheld hpending

/-- A row that is let go of as pending, in a step that leaves rows within the
    budget, was let go of rightly. -/
theorem releases_of_withinBudget {s : Workers} {i : WorkerStep} (h : (s.step i).2.WithinBudget)
    {worker : WorkerId} {id : OutboxId} (hclaim : ∀ w answered, i ≠ .claim w answered)
    (hgone : id ∉ (s.step i).2.heldIds worker)
    (hpending : ∀ row, s.outbox.rows.get? id = some row →
      s.statusAfter i id row.status = .pending) : s.Releases worker id := by
  intro row hrow
  rcases row_step s i hrow with ⟨row', hrow', hmax, hattempts, hstatus⟩
  have hunclaimed : ¬ s.Claims i id := by
    intro hclaims
    cases i with
    | claim w answered => exact hclaim w answered rfl
    | _ => exact hclaims
  rw [if_neg hunclaimed, Nat.add_zero] at hattempts
  rcases (h id row' hrow').2 (hstatus.trans (hpending row hrow)) with hleft | hheld
  · rw [hattempts, hmax] at hleft
    exact Or.inl hleft
  · exact Or.inr (heldElsewhere_of_step (fun w => hclaim w true) hgone hheld)

/-- Only steps that keep the budget leave rows within it. -/
theorem keepsBudget_of_withinBudget {s : Workers} {i : WorkerStep}
    (h : (s.step i).2.WithinBudget) : s.KeepsBudget i := by
  cases i with
  | enqueue request => trivial
  | claim worker answered =>
      intro hidle hcount e he
      rcases mem_pendingRows he with ⟨hrow, hpending⟩
      rcases row_step s (.claim worker answered) hrow with
        ⟨row', hrow', hmax, hattempts, hstatus⟩
      have hclaims : s.Claims (.claim worker answered) e.1 :=
        ⟨hidle, hcount, List.mem_map_of_mem he⟩
      rw [if_pos hclaims] at hattempts
      rcases h e.1 row' hrow' with ⟨hle, hheld⟩
      -- The claim counts one more attempt, which the bound has room for.
      rw [hattempts, hmax] at hle
      refine ⟨hle, fun hlost => ?_⟩
      rw [hlost] at hheld
      rcases hheld (hstatus.trans hpending) with hleft | hheld
      · rw [hattempts, hmax] at hleft
        exact Or.inl hleft
      · exact Or.inr (heldElsewhere_of_step (fun w heq => by
          simp only [WorkerStep.claim.injEq, Bool.false_eq_true, and_false] at heq)
          (heldIds_lost hidle) hheld)
  | report worker id verdict updated =>
      cases updated with
      | true =>
          intro item hfind hback
          refine releases_of_withinBudget h (fun w answered heq => by cases heq) heldIds_report
            (fun row hrow => ?_)
          simp only [statusAfter, if_true, hfind]
          exact hback
      | false =>
          intro hheld hpending
          rcases hpending with ⟨row, hrow, hstatus⟩
          refine releases_of_withinBudget h (fun w answered heq => by cases heq) heldIds_report
            (fun row' hrow' => ?_)
          rw [hrow, Option.some.injEq] at hrow'
          rw [← hrow']
          exact hstatus
  -- What the worker held is pending afterwards, and it holds nothing.
  | stop worker =>
      intro id hheld hpending
      rcases hpending with ⟨row, hrow, hstatus⟩
      refine releases_of_withinBudget h (fun w answered heq => by cases heq) ?_
        (fun row' hrow' => ?_)
      · rw [heldIds_stop]
        exact List.not_mem_nil
      · rw [hrow, Option.some.injEq] at hrow'
        rw [← hrow']
        exact hstatus

/-! ### Whole runs -/

/-- One more step is one more claim when it claims the row. -/
theorem claimsOf_snoc (id : OutboxId) (inputs : List WorkerStep) (i : WorkerStep) :
    claimsOf id (inputs ++ [i])
      = claimsOf id inputs + if (Run.after step start inputs).Claims i id then 1 else 0 := by
  rw [claimsOf, Run.gather_append, List.length_append, claimsOf]
  by_cases h : (Run.after step start inputs).Claims i id
  · simp only [Run.gather, h, if_true, List.append_nil, List.length_singleton]
  · simp only [Run.gather, h, if_false, List.append_nil, List.length_nil]

/-- The attempts of a row are the claims of it, and there are none of a row
    that is not there. -/
theorem attempts_eq_claims (inputs : List WorkerStep) (id : OutboxId) :
    ((Run.after step start inputs).outbox.rows.get? id).elim 0 OutboxRow.attempts
      = claimsOf id inputs := by
  induction inputs using List.reverseRecOn with
  | nil => rfl
  | append_singleton inputs i ih =>
      rw [claimsOf_snoc, ← ih, Run.after_snoc]
      rcases hold : (Run.after step start inputs).outbox.rows.get? id with _ | row
      · -- A claim is of a row that is there.
        have hunclaimed : ¬ (Run.after step start inputs).Claims i id := by
          intro hclaims
          rcases pending_of_claims hclaims with ⟨row, hrow, -⟩
          rw [hold] at hrow
          exact absurd hrow (by simp only [reduceCtorEq, not_false_eq_true])
        rw [if_neg hunclaimed]
        rcases hnew : ((Run.after step start inputs).step i).2.outbox.rows.get? id with _ | row'
        · rfl
        · rcases row_new hold hnew with ⟨request, rfl⟩
          rfl
      -- A row that is there counts the claims of it as they are made.
      · rcases row_step _ i hold with ⟨row', hrow', -, hattempts, -⟩
        rw [hrow']
        exact hattempts

/-- An empty outbox has no row over its budget. -/
theorem start_withinBudget : WithinBudget start := by
  intro id row h
  exact absurd h (by
    simp only [start, SettlementOutbox.empty, SortedMap.get?_empty, reduceCtorEq,
      not_false_eq_true])

/-- No row is claimed more often than it may be, and a row claimed that often is
    pending only while a worker holds it, throughout exactly the runs of steps
    that keep the budget. -/
theorem run_retryBudget (inputs : List WorkerStep) :
    (∀ pre, pre <+: inputs → (Run.after step start pre).WithinBudget ∧
      ∀ id row, (Run.after step start pre).outbox.rows.get? id = some row →
        row.attempts = claimsOf id pre)
      ↔ Run.Along step KeepsBudget start inputs := by
  constructor
  · intro h
    refine (Run.along_iff step).mpr (fun pre i hpre => ?_)
    have hnext := (h _ hpre).1
    rw [Run.after_snoc] at hnext
    exact keepsBudget_of_withinBudget hnext
  · -- Every prefix of a run whose steps keep the budget is such a run.
    intro hkeeps pre hpre
    refine ⟨?_, fun id row hrow => ?_⟩
    · refine Run.invariant_along step (P := fun _ s => s.WithinBudget) start_withinBudget
        (fun _ s i h hkeep => step_withinBudget h hkeep) (Run.along_of_prefix step hpre hkeeps)
    · have hclaims := attempts_eq_claims pre id
      rw [hrow] at hclaims
      exact hclaims

/-- A worker stops after each claim of a row. The sixth claim gives it one
    attempt more than it may have. -/
theorem run_retryBudget_crashes :
    ¬ ∀ inputs, ∀ pre, pre <+: inputs → (Run.after step start pre).WithinBudget := by
  intro h
  have hbudget := h (.enqueue (ApplicationSettlementBridge.sampleRequest Settlement.sampleAsk) ::
    (List.replicate 6 [WorkerStep.claim 0 true, .stop 0]).flatten) _ (List.prefix_refl _) 1
    { OutboxRow.inserted (ApplicationSettlementBridge.sampleRequest Settlement.sampleAsk) with
      attempts := 6 } (by decide +kernel)
  exact absurd hbudget.1 (by decide)

end Workers

end Relayer

end SolanaLab
