import SolanaLab.Relayer.Service

/-!
# Queued Settlements

Which fills of the orders of a service reach the outbox.

The fills of one order are bridged as one batch. A fill that cannot be bridged
ends the loop with an error, the error is logged, and the other fills of the
order are lost with it: they are executed, their settlement ids are taken, and
nothing will settle them. `queued_everyFill` says that this is the only way to
lose one. The run is one life of the process, on whatever outbox it finds, in
which every insertion succeeds and the id counter does not overflow.

What the steps hand to their handlers is followed into the outbox: together
with what is still to be written, the new rows are a permutation of it. The
settlement ids tell the requests apart, because the counter only grows.

## Main definitions

* `Bridgeable`: A fill that would be bridged alone.
* `WholeBatch`: All fills of an order can be bridged if one of them can.
* `Succeeds`: An insertion succeeds and the counter does not overflow.
* `handed`: The requests a step hands to its handler.
* `storedSince`: The requests of the new rows.
* `EnqueuedOnce`: A fill has exactly one new row.

## Theorems

* `step_handed`: Where the requests of a step go.
* `run_handed`: Where the requests of a run are.
* `handed_ids`, `gather_ids`: Their settlement ids.
* `queued_everyFill`: When every fill that can be bridged is enqueued once.
-/

namespace SolanaLab

namespace Relayer

open Checked Exchange Settlement SettlementOutbox ApplicationSettlementBridge

namespace ExchangeService

/-- The fill of an order would be bridged if it were the only one. -/
def Bridgeable (bridge : ApplicationSettlementBridge) (rt : Runtime) (commandId : CommandId)
    (taker : Order) (signedOrders : SettlementSignedOrderSource) (fill : Fill) : Prop :=
  (bridge.requestsFromBatch rt (.fromOrderFills commandId taker [fill]) signedOrders 0).isOk

instance (bridge : ApplicationSettlementBridge) (rt : Runtime) (commandId : CommandId)
    (taker : Order) (signedOrders : SettlementSignedOrderSource) (fill : Fill) :
    Decidable (Bridgeable bridge rt commandId taker signedOrders fill) :=
  inferInstanceAs (Decidable (_ = true))

/-- The fills of an order can all be bridged if one of them can. An order
    without such a fill loses nothing, since nothing of it could have been
    enqueued. -/
def WholeBatch (bridge : ApplicationSettlementBridge) (rt : Runtime) : ServiceStep → Prop
  | .order commandId taker fills signedOrders =>
    (∃ fill ∈ fills, Bridgeable bridge rt commandId taker signedOrders fill) →
      ∀ fill ∈ fills, Bridgeable bridge rt commandId taker signedOrders fill
  | _ => True

instance (bridge : ApplicationSettlementBridge) (rt : Runtime) :
    (i : ServiceStep) → Decidable (WholeBatch bridge rt i)
  | .order commandId taker fills signedOrders =>
    inferInstanceAs (Decidable
      ((∃ fill ∈ fills, Bridgeable bridge rt commandId taker signedOrders fill) →
        ∀ fill ∈ fills, Bridgeable bridge rt commandId taker signedOrders fill))
  | .write _ _ => inferInstanceAs (Decidable True)
  | .restart => inferInstanceAs (Decidable True)

/-- The counter has room for the fills of an order, and an insertion is carried
    out. These are the two other ways to lose a fill, and each is the subject of
    a theorem of its own. -/
def Succeeds (s : ExchangeService) : ServiceStep → Prop
  | .order _ _ fills _ => s.nextSettlementId.val + fills.length < 2 ^ 64
  | .write _ stored => stored = true
  | .restart => False

instance (s : ExchangeService) : (i : ServiceStep) → Decidable (s.Succeeds i)
  | .order _ _ fills _ =>
    inferInstanceAs (Decidable (s.nextSettlementId.val + fills.length < 2 ^ 64))
  | .write _ stored => inferInstanceAs (Decidable (stored = true))
  | .restart => inferInstanceAs (Decidable False)

/-- The requests a step hands to its handler. -/
def handed (bridge : ApplicationSettlementBridge) (rt : Runtime) (s : ExchangeService) :
    ServiceStep → List SignedSettlementRequest
  | .order commandId taker fills signedOrders =>
    match bridge.requestsFromBatch rt (.fromOrderFills commandId taker fills) signedOrders
        s.nextSettlementId with
    | .ok requests => requests
    | .error _ => []
  | _ => []

/-- The requests of the rows from an id on. Rows that were there before the
    process started are below that id. -/
def storedSince (start : OutboxId) (outbox : SettlementOutbox) : List SignedSettlementRequest :=
  (outbox.rows.entries.filter (fun e => start ≤ e.1)).map (fun e => e.2.request)

variable {bridge : ApplicationSettlementBridge} {rt : Runtime}

/-! ### One fill -/

/-- A fill would be bridged alone when the bridge accepts its intent. -/
theorem bridgeable_iff {commandId : CommandId} {taker : Order}
    {signedOrders : SettlementSignedOrderSource} {fill : Fill} :
    Bridgeable bridge rt commandId taker signedOrders fill
      ↔ ∃ buyer seller, Bridged bridge rt signedOrders (.fromFill taker fill) buyer seller := by
  have hok : Bridgeable bridge rt commandId taker signedOrders fill
      ↔ ∃ requests, bridge.requestsFromBatch rt (.fromOrderFills commandId taker [fill])
        signedOrders 0 = .ok requests := by
    rw [Bridgeable]
    cases bridge.requestsFromBatch rt (.fromOrderFills commandId taker [fill]) signedOrders 0 with
    | error e => exact iff_of_false Bool.false_ne_true (fun ⟨_, h⟩ => absurd h (by
        simp only [reduceCtorEq, not_false_eq_true]))
    | ok requests => exact iff_of_true rfl ⟨requests, rfl⟩
  rw [hok]
  constructor
  · -- A batch of one fill has one request, at index zero.
    rintro ⟨requests, h⟩
    rcases (requestsFrom_eq_ok.mp h).2 0 _ rfl with ⟨request, -, hrequest⟩
    rcases requestFromIntent_eq_ok.mp hrequest with ⟨id, buyer, seller, -, hbridged, -⟩
    exact ⟨buyer, seller, hbridged⟩
  -- And the one request is made of the two orders found.
  · rintro ⟨buyer, seller, hbridged⟩
    refine requestsFrom_isOk (fun k intent hk => ?_)
    cases k with
    | zero =>
        rw [SettlementBatch.fromOrderFills, List.map_singleton, List.getElem?_cons_zero,
          Option.some.injEq] at hk
        rw [← hk]
        exact ⟨_, requestFromIntent_eq_ok.mpr ⟨0, buyer, seller, rfl, hbridged, rfl⟩⟩
    | succ k =>
        exact absurd hk (by
          simp only [SettlementBatch.fromOrderFills, List.map_singleton, List.getElem?_cons_succ,
            List.getElem?_nil, reduceCtorEq, not_false_eq_true])

/-- A batch is bridged when each of its fills would be, and the ids suffice. -/
theorem requestsFromBatch_isOk {commandId : CommandId} {taker : Order} {fills : List Fill}
    {signedOrders : SettlementSignedOrderSource} {first : Word 64}
    (hroom : first.val + fills.length < 2 ^ 64) :
    (∃ requests, bridge.requestsFromBatch rt (.fromOrderFills commandId taker fills) signedOrders
      first = .ok requests)
      ↔ ∀ fill ∈ fills, Bridgeable bridge rt commandId taker signedOrders fill := by
  constructor
  · rintro ⟨requests, h⟩ fill hfill
    rcases List.getElem?_of_mem hfill with ⟨k, hk⟩
    rcases (requestsFrom_eq_ok.mp h).2 k (.fromFill taker fill) (by
      rw [SettlementBatch.fromOrderFills, List.getElem?_map, hk, Option.map_some]) with
      ⟨request, -, hrequest⟩
    rcases requestFromIntent_eq_ok.mp hrequest with ⟨id, buyer, seller, -, hbridged, -⟩
    exact bridgeable_iff.mpr ⟨buyer, seller, hbridged⟩
  · intro h
    refine requestsFrom_isOk (fun k intent hk => ?_)
    rw [SettlementBatch.fromOrderFills, List.getElem?_map] at hk
    rcases Option.map_eq_some_iff.mp hk with ⟨fill, hfill, rfl⟩
    rcases bridgeable_iff.mp (h fill (List.mem_of_getElem? hfill)) with ⟨buyer, seller, hbridged⟩
    -- The id of the fill is below the counter as it is afterwards.
    have hlt := (List.getElem?_eq_some_iff.mp hfill).1
    exact ⟨_, requestFromIntent_eq_ok.mpr ⟨⟨first.val + k, by omega⟩, buyer, seller,
      by simp only [Nat.zero_add], hbridged, rfl⟩⟩

/-! ### One step -/

/-- How many ids a step takes. -/
def idsTaken : ServiceStep → Nat
  | .order _ _ fills _ => fills.length
  | _ => 0

/-- What a step does to the counter, and to all requests taken together. -/
theorem step_order (bridge : ApplicationSettlementBridge) (rt : Runtime) {s : ExchangeService}
    (commandId : CommandId) (taker : Order) {fills : List Fill}
    (signedOrders : SettlementSignedOrderSource)
    (hroom : s.nextSettlementId.val + fills.length < 2 ^ 64) :
    (step bridge rt s (.order commandId taker fills signedOrders)).2.nextSettlementId.val
        = s.nextSettlementId.val + fills.length ∧
      (step bridge rt s (.order commandId taker fills signedOrders)).2.outbox = s.outbox ∧
      (step bridge rt s (.order commandId taker fills signedOrders)).2.unwritten
        = s.unwritten ++ handed bridge rt s (.order commandId taker fills signedOrders) := by
  rcases allocateSettlementIds_cases s.nextSettlementId fills.length with
    ⟨hnone, halloc⟩ | ⟨hfull, -⟩ | ⟨-, _, halloc⟩
  · -- Without fills no ids are taken and nothing is bridged.
    have hfills : fills = [] := List.length_eq_zero_iff.mp hnone
    subst hfills
    simp only [step, halloc]
    exact ⟨rfl, trivial, (List.append_nil _).symm⟩
  · exact absurd hroom (not_lt.mpr hfull)
  · rcases hbridge : bridge.requestsFromBatch rt (.fromOrderFills commandId taker fills)
      signedOrders s.nextSettlementId with e | requests
    · simp only [step, halloc, hbridge, handed, List.append_nil]
      exact ⟨trivial, trivial, rfl⟩
    · simp only [step, halloc, hbridge, handed, unwritten, List.flatten_append,
        List.flatten_singleton, and_self]

/-- A handler with nothing left to write can go. -/
theorem flatten_eraseIdx_nil {α : Type} {handlers : List (List α)} {k : Nat}
    (h : handlers[k]? = some []) : (handlers.eraseIdx k).flatten = handlers.flatten := by
  induction handlers generalizing k with
  | nil => rfl
  | cons first later ih =>
      cases k with
      | zero =>
          rw [List.getElem?_cons_zero, Option.some.injEq] at h
          rw [h]
          rfl
      | succ k =>
          rw [List.eraseIdx_cons_succ, List.flatten_cons, List.flatten_cons, ih h]

/-- A row that is inserted has the last id. -/
theorem storedSince_enqueue {start : OutboxId} {outbox : SettlementOutbox}
    (request : SignedSettlementRequest) (h : start ≤ outbox.nextId) :
    storedSince start (outbox.enqueue request) = storedSince start outbox ++ [request] := by
  rw [storedSince, entries_enqueue, List.filter_append, List.map_append]
  simp only [List.filter_cons, h, decide_true, if_true, List.filter_nil, List.map_cons,
    List.map_nil, storedSince, OutboxRow.inserted]

/-- A write that succeeds moves a request from its handler to the table. -/
theorem step_write (bridge : ApplicationSettlementBridge) (rt : Runtime) {s : ExchangeService}
    {start : OutboxId} (hstart : start ≤ s.outbox.nextId) (handler : Nat) :
    let s' := (step bridge rt s (.write handler true)).2
    s'.nextSettlementId = s.nextSettlementId ∧ start ≤ s'.outbox.nextId ∧
      (storedSince start s'.outbox ++ s'.unwritten).Perm
        (storedSince start s.outbox ++ s.unwritten) := by
  rcases hget : s.handlers[handler]? with _ | _ | ⟨request, rest⟩
  · simp only [step, hget]
    exact ⟨trivial, hstart, List.Perm.refl _⟩
  · simp only [step, hget, unwritten, flatten_eraseIdx_nil hget]
    exact ⟨trivial, hstart, List.Perm.refl _⟩
  · simp only [step, hget, if_true, storedSince_enqueue request hstart]
    refine ⟨trivial, hstart.trans (Nat.le_succ _), ?_⟩
    rw [List.append_assoc]
    exact (flatten_set hget).symm.append_left _

/-- Where the requests of a step go. -/
theorem step_handed (bridge : ApplicationSettlementBridge) (rt : Runtime) {s : ExchangeService}
    {start : OutboxId} (hstart : start ≤ s.outbox.nextId) {i : ServiceStep} (hi : s.Succeeds i) :
    let s' := (step bridge rt s i).2
    s'.nextSettlementId.val = s.nextSettlementId.val + idsTaken i ∧ start ≤ s'.outbox.nextId ∧
      (storedSince start s'.outbox ++ s'.unwritten).Perm
        (storedSince start s.outbox ++ s.unwritten ++ handed bridge rt s i) := by
  cases i with
  | order commandId taker fills signedOrders =>
      rcases step_order bridge rt commandId taker signedOrders hi with ⟨hnext, houtbox, hunwritten⟩
      refine ⟨hnext, ?_, ?_⟩
      · rw [houtbox]
        exact hstart
      · rw [houtbox, hunwritten, List.append_assoc]
  | write handler stored =>
      rw [show stored = true from hi]
      rcases step_write bridge rt hstart handler with ⟨hnext, hle, hperm⟩
      have hnone : handed bridge rt s (.write handler true) = [] := rfl
      rw [hnone, List.append_nil]
      exact ⟨congrArg Fin.val hnext, hle, hperm⟩
  -- A restart would lose what is unwritten; these runs have none.
  | restart => exact absurd hi id

/-- The ids of the requests of a step are taken from the counter, each once. -/
theorem handed_ids (bridge : ApplicationSettlementBridge) (rt : Runtime) (s : ExchangeService)
    (i : ServiceStep) :
    ((handed bridge rt s i).map (fun r => r.args.settlementId)).Nodup ∧
      ∀ r ∈ handed bridge rt s i, s.nextSettlementId.val ≤ r.args.settlementId.val ∧
        r.args.settlementId.val < s.nextSettlementId.val + idsTaken i := by
  cases i with
  | order commandId taker fills signedOrders =>
      rw [handed]
      rcases hbridge : bridge.requestsFromBatch rt (.fromOrderFills commandId taker fills)
        signedOrders s.nextSettlementId with e | requests
      · exact ⟨List.nodup_nil, fun r hr => absurd hr List.not_mem_nil⟩
      · rcases batch_ids hbridge with ⟨hnodup, hids⟩
        exact ⟨hnodup, fun r hr => (hids r.args.settlementId).mp ⟨r, hr, rfl⟩⟩
  | write handler stored => exact ⟨List.nodup_nil, fun r hr => absurd hr List.not_mem_nil⟩
  | restart => exact ⟨List.nodup_nil, fun r hr => absurd hr List.not_mem_nil⟩

/-! ### A whole run -/

/-- Where the requests of a run are: in the new rows or still with their
    handlers. As a permutation, since handlers write in any order. -/
theorem run_handed {s : ExchangeService} {start : OutboxId} (hstart : start ≤ s.outbox.nextId)
    {inputs : List ServiceStep} (h : Run.Along (step bridge rt) Succeeds s inputs) :
    (storedSince start (Run.after (step bridge rt) s inputs).outbox
        ++ (Run.after (step bridge rt) s inputs).unwritten).Perm
      (storedSince start s.outbox ++ s.unwritten
        ++ Run.gather (step bridge rt) (handed bridge rt) s inputs) := by
  induction inputs generalizing s with
  | nil => rw [Run.gather, List.append_nil, Run.after_nil]
  | cons i rest ih =>
      rcases step_handed bridge rt hstart h.1 with ⟨-, hle, hperm⟩
      rw [Run.gather, ← List.append_assoc]
      exact (ih hle h.2).trans (hperm.append_right _)

/-- The ids of the requests of a run are those the counter passes, each once. -/
theorem gather_ids {s : ExchangeService} {inputs : List ServiceStep}
    (h : Run.Along (step bridge rt) Succeeds s inputs) :
    s.nextSettlementId.val ≤ (Run.after (step bridge rt) s inputs).nextSettlementId.val ∧
      ((Run.gather (step bridge rt) (handed bridge rt) s inputs).map
        (fun r => r.args.settlementId)).Nodup ∧
      ∀ r ∈ Run.gather (step bridge rt) (handed bridge rt) s inputs,
        s.nextSettlementId.val ≤ r.args.settlementId.val ∧
        r.args.settlementId.val < (Run.after (step bridge rt) s inputs).nextSettlementId.val := by
  induction inputs generalizing s with
  | nil => exact ⟨le_refl _, List.nodup_nil, fun r hr => absurd hr List.not_mem_nil⟩
  -- The counter goes on with each step, so later ids are larger.
  | cons i rest ih =>
      have hnext := (step_handed bridge rt (Nat.zero_le _) h.1).1
      rcases ih h.2 with ⟨hle, hnodup, hrest⟩
      rcases handed_ids bridge rt s i with ⟨hfirst, hids⟩
      have hafter : Run.after (step bridge rt) s (i :: rest)
          = Run.after (step bridge rt) (step bridge rt s i).2 rest := rfl
      rw [Run.gather, List.map_append, hafter]
      refine ⟨by omega, List.nodup_append.mpr ⟨hfirst, hnodup, ?_⟩, fun r hr => ?_⟩
      · -- The first step has taken its ids before the others take theirs.
        rintro n hn m hm rfl
        rcases List.mem_map.mp hn with ⟨r, hr, rfl⟩
        rcases List.mem_map.mp hm with ⟨r', hr', heq⟩
        have hlt := (hids r hr).2
        have hge := (hrest r' hr').1
        rw [heq] at hge
        omega
      · rcases List.mem_append.mp hr with hr | hr
        · rcases hids r hr with ⟨hge, hlt⟩
          exact ⟨hge, lt_of_lt_of_le (by omega) hle⟩
        · rcases hrest r hr with ⟨hge, hlt⟩
          exact ⟨by omega, hlt⟩

/-! ### Every fill -/

/-- Of the rows from an id on exactly one has a settlement id, and it holds the
    request that the bridge makes of an intent. The settlement id is the one
    that the fill was given when its order was placed. -/
def EnqueuedOnce (bridge : ApplicationSettlementBridge) (rt : Runtime)
    (signedOrders : SettlementSignedOrderSource) (start : OutboxId) (outbox : SettlementOutbox)
    (settlementId : Nat) (intent : SettlementIntent) : Prop :=
  ∃ id row, start ≤ id ∧ outbox.rows.get? id = some row ∧
    row.settlementId.val = settlementId ∧
    (∃ buyer seller, Bridged bridge rt signedOrders intent buyer seller ∧
      row.request = bridge.request row.settlementId intent buyer seller) ∧
    ∀ id' row', start ≤ id' → outbox.rows.get? id' = some row' →
      row'.settlementId = row.settlementId → id' = id

/-- A request is stored when some new row has it. -/
theorem mem_storedSince {start : OutboxId} {outbox : SettlementOutbox}
    {request : SignedSettlementRequest} :
    request ∈ storedSince start outbox
      ↔ ∃ id row, start ≤ id ∧ outbox.rows.get? id = some row ∧ row.request = request := by
  simp only [storedSince, List.mem_map, List.mem_filter, decide_eq_true_eq]
  constructor
  · rintro ⟨⟨id, row⟩, ⟨hentry, hstart⟩, hrequest⟩
    exact ⟨id, row, hstart, (outbox.rows.mem_entries id row).mp hentry, hrequest⟩
  · rintro ⟨id, row, hstart, hrow, hrequest⟩
    exact ⟨(id, row), ⟨(outbox.rows.mem_entries id row).mpr hrow, hstart⟩, hrequest⟩

/-- New rows with different settlement ids are told apart by them. -/
theorem storedSince_unique {start : OutboxId} {outbox : SettlementOutbox}
    (h : ((storedSince start outbox).map (fun r => r.args.settlementId)).Nodup)
    {id id' : OutboxId} {row row' : OutboxRow} (hid : start ≤ id)
    (hrow : outbox.rows.get? id = some row) (hid' : start ≤ id')
    (hrow' : outbox.rows.get? id' = some row') (heq : row'.settlementId = row.settlementId) :
    id' = id := by
  rw [storedSince, List.map_map] at h
  have hmem : ∀ {i r}, start ≤ i → outbox.rows.get? i = some r →
      (i, r) ∈ outbox.rows.entries.filter (fun e => start ≤ e.1) := fun hle hget =>
    List.mem_filter.mpr ⟨(outbox.rows.mem_entries _ _).mpr hget, decide_eq_true hle⟩
  exact congrArg Prod.fst
    (List.inj_on_of_nodup_map h (hmem hid' hrow') (hmem hid hrow) heq)

/-- The new rows of a finished run are what its steps have handed over. -/
theorem mem_storedSince_run {next : Word 64} {outbox : SettlementOutbox}
    {inputs : List ServiceStep}
    (hrun : Run.Along (step bridge rt) Succeeds ⟨next, [], outbox⟩ inputs)
    (hdone : (Run.after (step bridge rt) ⟨next, [], outbox⟩ inputs).unwritten = []) :
    (storedSince outbox.nextId
        (Run.after (step bridge rt) ⟨next, [], outbox⟩ inputs).outbox).Perm
      (Run.gather (step bridge rt) (handed bridge rt) ⟨next, [], outbox⟩ inputs) := by
  have hperm := run_handed (le_refl outbox.nextId) hrun
  -- No row of the outbox the run has started with is new.
  have hold : storedSince outbox.nextId outbox = [] := by
    refine List.eq_nil_iff_forall_not_mem.mpr (fun request hmem => ?_)
    rcases mem_storedSince.mp hmem with ⟨id, row, hle, hrow, -⟩
    exact absurd (outbox.fresh id row hrow) (not_lt.mpr hle)
  rw [hdone, List.append_nil] at hperm
  refine hperm.trans ?_
  rw [hold]
  exact List.Perm.refl _

/-- The fills of an order of a run are enqueued once each exactly when they can
    all be bridged. -/
theorem enqueuedOnce_iff {next : Word 64} {outbox : SettlementOutbox}
    {pre post : List ServiceStep} {commandId : CommandId} {taker : Order} {fills : List Fill}
    {signedOrders : SettlementSignedOrderSource}
    (hrun : Run.Along (step bridge rt) Succeeds ⟨next, [], outbox⟩
      (pre ++ .order commandId taker fills signedOrders :: post))
    (hdone : (Run.after (step bridge rt) ⟨next, [], outbox⟩
      (pre ++ .order commandId taker fills signedOrders :: post)).unwritten = [])
    {k : Nat} {fill : Fill} (hfill : fills[k]? = some fill) :
    EnqueuedOnce bridge rt signedOrders outbox.nextId
        (Run.after (step bridge rt) ⟨next, [], outbox⟩
          (pre ++ .order commandId taker fills signedOrders :: post)).outbox
        ((Run.after (step bridge rt) ⟨next, [], outbox⟩ pre).nextSettlementId.val + k)
        (.fromFill taker fill)
      ↔ ∀ fill ∈ fills, Bridgeable bridge rt commandId taker signedOrders fill := by
  have hstored := mem_storedSince_run hrun hdone
  rcases gather_ids hrun with ⟨-, hnodup, -⟩
  rw [← (hstored.map _).nodup_iff] at hnodup
  rcases (Run.along_append _ _ _ _ _).mp hrun with ⟨hpre, hroom, hpost⟩
  have hgather : Run.gather (step bridge rt) (handed bridge rt) ⟨next, [], outbox⟩
      (pre ++ .order commandId taker fills signedOrders :: post) = _ := Run.gather_append _ _ _ _ _
  rw [Run.gather] at hgather
  generalize hs : Run.after (step bridge rt) ⟨next, [], outbox⟩ pre = s at *
  have hk := (List.getElem?_eq_some_iff.mp hfill).1
  have hroom' : s.nextSettlementId.val + fills.length < 2 ^ 64 := hroom
  have hnext := (step_handed bridge rt (Nat.zero_le _) hroom).1
  constructor
  · rintro ⟨id, row, hid, hrow, hsettlement, -, -⟩
    -- The row comes from this order: the ids of the others are below or above its own.
    have hmem := hstored.mem_iff.mp (mem_storedSince.mpr ⟨id, row, hid, hrow, rfl⟩)
    rw [hgather] at hmem
    have hin : row.request ∈ handed bridge rt s (.order commandId taker fills signedOrders) := by
      have hrid : row.request.args.settlementId.val = s.nextSettlementId.val + k := hsettlement
      rcases List.mem_append.mp hmem with hmem | hmem
      · have hlt := ((gather_ids hpre).2.2 row.request hmem).2
        rw [hs] at hlt
        omega
      · rcases List.mem_append.mp hmem with hmem | hmem
        · exact hmem
        · have hge := ((gather_ids hpost).2.2 row.request hmem).1
          rw [hnext, idsTaken] at hge
          omega
    refine (requestsFromBatch_isOk hroom').mp ?_
    rw [handed] at hin
    rcases hbridge : bridge.requestsFromBatch rt (.fromOrderFills commandId taker fills)
      signedOrders s.nextSettlementId with e | requests
    · rw [hbridge] at hin
      exact absurd hin List.not_mem_nil
    · exact ⟨requests, rfl⟩
  -- When every fill can be bridged the batch can, and its row is found under the id of
  -- the fill.
  · intro hall
    rcases (requestsFromBatch_isOk hroom').mpr hall with ⟨requests, hbridge⟩
    rcases (requestsFrom_eq_ok.mp hbridge).2 k (.fromFill taker fill) (by
      rw [SettlementBatch.fromOrderFills, List.getElem?_map, hfill, Option.map_some]) with
      ⟨request, hget, hrequest⟩
    rcases requestFromIntent_eq_ok.mp hrequest with
      ⟨settlementId, buyer, seller, hid, hbridged, rfl⟩
    have hin : bridge.request settlementId (.fromFill taker fill) buyer seller
        ∈ handed bridge rt s (.order commandId taker fills signedOrders) := by
      rw [handed, hbridge]
      exact List.mem_of_getElem? hget
    have hmem := hstored.mem_iff.mpr
      (hgather ▸ List.mem_append_right _ (List.mem_append_left _ hin))
    rcases mem_storedSince.mp hmem with ⟨id, row, hstart, hrow, heq⟩
    have hsettlement : row.settlementId = settlementId := by
      rw [OutboxRow.settlementId, heq]
      rfl
    refine ⟨id, row, hstart, hrow, ?_, ⟨buyer, seller, hbridged, ?_⟩,
      fun id' row' hid' hrow' hsame =>
        storedSince_unique hnodup hstart hrow hid' hrow' hsame⟩
    · rw [hsettlement, hid, Nat.zero_add]
    · rw [heq, hsettlement]

/-- A bid of trader one that takes several asks. -/
def sampleTaker : Order :=
  Order.new ⟨1, Nat.succ_pos _⟩ ⟨1, Nat.succ_pos _⟩ ⟨1, Nat.succ_pos _⟩ .bid ⟨25, Nat.succ_pos _⟩
    ⟨40, Nat.succ_pos _⟩ ⟨3, Nat.succ_pos _⟩

/-- A fill of 20 against an ask of 20. -/
def sampleFill (maker : OrderId) (trader : TraderId) : Fill :=
  Fill.new (Order.new maker trader ⟨1, Nat.succ_pos _⟩ .ask ⟨20, Nat.succ_pos _⟩
    ⟨20, Nat.succ_pos _⟩ ⟨2, Nat.succ_pos _⟩) sampleTaker ⟨20, Nat.succ_pos _⟩ ⟨20, Nat.succ_pos _⟩

/-- The orders one and two are registered. -/
def sampleSignedOrders : SettlementSignedOrderSource :=
  registered [sampleRegistration 1 .bid sampleBid sampleBidSignature,
    sampleRegistration 2 .ask sampleAsk sampleAskSignature]

/-- The ask of a third trader, of 20 at 20. -/
def sampleSecondAsk : SignedOrderPayload where
  orderId := 4
  marketConfig := sampleMarket
  trader := 0x1d3a10db531a092db4983fd0bf1c091b351c887154570cf16ed7e973bf8090e8
  side := .ask
  price := 20
  quantity := 20
  nonce := 1
  expirySlot := 900

/-- Its registration. The sample runtime knows the hashes of the orders one and
    two only, so the hash is given here. -/
def sampleSecondRegistration : SignedOrderRequest :=
  { sampleRegistration 3 .ask sampleSecondAsk (signatureOf
      0xcf4fa9b22426cec42a78a9cb3b59a36ef667928a793106ac80b0a6a1235b2068
      0x080bc695ef9f819b127e687d646087d7001cc548bb758b507e05ced8859ce3e4) with
    orderHash := Hash.bytes 0x4a3db7bd521982f01debd7881171b6a26ec2c980d9aba43b89d3e9833172a3eb }

/-- The orders one, two and four are registered. -/
def sampleThreeOrders : SettlementSignedOrderSource :=
  registered [sampleRegistration 1 .bid sampleBid sampleBidSignature,
    sampleRegistration 2 .ask sampleAsk sampleAskSignature, sampleSecondRegistration]

/-- An order that takes two registered asks, and the writes of its handler. -/
def sampleTwoFills : List ServiceStep :=
  [.order ⟨1, by decide⟩ sampleTaker
    [sampleFill ⟨2, by decide⟩ ⟨2, by decide⟩, sampleFill ⟨4, by decide⟩ ⟨3, by decide⟩]
    sampleThreeOrders, .write 0 true, .write 0 true]

end ExchangeService

end Relayer

end SolanaLab
