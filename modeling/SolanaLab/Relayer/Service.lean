import SolanaLab.Relayer.Outbox

/-!
# Settlement Ids of the Service

Where the settlement ids of the outbox come from.

The service hands ids out of a counter in memory. Every order that is filled
takes as many ids as it has fills, in one step. Its handler then bridges the
fills and writes the requests to the outbox one statement at a time, so the
writes of several handlers mix, and a handler that cannot bridge or write
leaves its ids unused.

Within one life of the process this is enough: an id is handed out once.
The outbox outlives the process and the counter does not, which starts at zero
with every start. `IdsUnused` asks of the ids that are handed out what nobody
checks, and `run_settlementIds` says that it is exactly what is needed.
`idsUnused_of_fresh` is the part of it that the counter by itself ensures.

## Main definitions

* `allocateSettlementIds`: The ids handed out for a number of fills.
* `ExchangeService`: The counter, the handlers at work and the outbox.
* `DistinctIds`: The rows of the outbox have different settlement ids.
* `Apart`: So they have together with the requests still to be written.
* `IdsUnused`: The ids handed out are not in use.

## Theorems

* `allocateSettlementIds_cases`: What is handed out, and to which counter.
* `step_apart`: Which steps keep the ids apart.
* `apart_iff`: The ids are apart when they stay different while all is written.
* `run_settlementIds`: The runs in which settlement ids are not reused.
* `idsUnused_of_fresh`: A counter ahead of all ids hands out unused ones.
* `run_settlementIds_oneLife`: Ids are not reused without a restart.
-/

namespace SolanaLab

namespace Relayer

open Checked Exchange Settlement SettlementOutbox ApplicationSettlementBridge

/-- `SettlementEdgeState::allocate_settlement_ids`, with the counter before and
    afterwards. -/
def allocateSettlementIds (nextSettlementId : Word 64) (count : Nat) :
    Except ApiError (Option (Word 64)) × Word 64 :=
  if count = 0 then (.ok none, nextSettlementId)
  else
    match (toWord 64 count).bind (checkedAdd nextSettlementId) with
    | none => (.error (.internal "settlement id allocation overflow"), nextSettlementId)
    | some next => (.ok (some nextSettlementId), next)

/-- No ids are asked for, too few are left, or the next ones are handed out. -/
theorem allocateSettlementIds_cases (nextSettlementId : Word 64) (count : Nat) :
    (count = 0 ∧ allocateSettlementIds nextSettlementId count = (.ok none, nextSettlementId)) ∨
    (2 ^ 64 ≤ nextSettlementId.val + count ∧ ∃ e,
      allocateSettlementIds nextSettlementId count = (.error e, nextSettlementId)) ∨
    (count ≠ 0 ∧ ∃ hroom : nextSettlementId.val + count < 2 ^ 64,
      allocateSettlementIds nextSettlementId count
        = (.ok (some nextSettlementId), ⟨nextSettlementId.val + count, hroom⟩)) := by
  unfold allocateSettlementIds
  by_cases hcount : count = 0
  · exact Or.inl ⟨hcount, if_pos hcount⟩
  rw [if_neg hcount]
  by_cases hroom : nextSettlementId.val + count < 2 ^ 64
  · -- The count fits into a word, as even the sum does.
    have hadd : (toWord 64 count).bind (checkedAdd nextSettlementId)
        = some ⟨nextSettlementId.val + count, hroom⟩ :=
      Option.bind_eq_some_iff.mpr ⟨⟨count, by omega⟩, toWord_eq_some.mpr rfl,
        checkedAdd_eq_some.mpr rfl⟩
    rw [hadd]
    exact Or.inr (Or.inr ⟨hcount, hroom, rfl⟩)
  · rcases hadd : (toWord 64 count).bind (checkedAdd nextSettlementId) with _ | after
    · exact Or.inr (Or.inl ⟨not_lt.mp hroom, _, rfl⟩)
    · rcases Option.bind_eq_some_iff.mp hadd with ⟨n, hn, hsum⟩
      have hafter := after.isLt
      rw [checkedAdd_eq_some.mp hsum, toWord_eq_some.mp hn] at hafter
      exact absurd hafter hroom

/-- The counter, the requests each handler has yet to write, and the outbox. The
    counter is in memory only, and nothing sets it from the rows of the outbox. -/
structure ExchangeService where
  nextSettlementId : Word 64
  handlers : List (List SignedSettlementRequest)
  outbox : SettlementOutbox

/-- What happens to the process and its outbox. Handlers of different orders are
    at work at the same time, so their insertions are steps of their own. -/
inductive ServiceStep where
  /-- An order was answered with fills, and its handler has bridged them. The
      source is what the handler has found registered. -/
  | order (commandId : CommandId) (taker : Order) (fills : List Fill)
      (signedOrders : SettlementSignedOrderSource)
  /-- The next insertion of a handler. When it fails the handler gives up. -/
  | write (handler : Nat) (stored : Bool)
  /-- The process ends and boots again. An insertion that is under way may
      still be carried out. -/
  | restart

namespace ExchangeService

/-- The first boot, on an empty outbox. -/
def boot : ExchangeService := ⟨0, [], SettlementOutbox.empty⟩

/-- The requests still to be written. -/
def unwritten (s : ExchangeService) : List SignedSettlementRequest := s.handlers.flatten

/-- `queue_settlement_requests` in pieces, with the restart of the process. The
    ids are taken and the batch is bridged before the first insertion, and each
    insertion is a statement by itself. -/
def step (bridge : ApplicationSettlementBridge) (rt : Runtime) (s : ExchangeService) :
    ServiceStep → Unit × ExchangeService
  | .order commandId taker fills signedOrders =>
    match allocateSettlementIds s.nextSettlementId fills.length with
    | (.ok (some first), next) =>
      match bridge.requestsFromBatch rt (.fromOrderFills commandId taker fills) signedOrders
          first with
      | .ok requests =>
        ((), { s with nextSettlementId := next, handlers := s.handlers ++ [requests] })
      -- The ids have been taken, and are not given back.
      | .error _ => ((), { s with nextSettlementId := next })
    | (_, next) => ((), { s with nextSettlementId := next })
  -- A handler with nothing left to write is done.
  | .write handler stored =>
    match s.handlers[handler]? with
    | none => ((), s)
    | some [] => ((), { s with handlers := s.handlers.eraseIdx handler })
    | some (request :: rest) =>
      if stored then
        ((), { s with outbox := s.outbox.enqueue request, handlers := s.handlers.set handler rest })
      else ((), { s with handlers := s.handlers.eraseIdx handler })
  -- The counter starts at zero again, the outbox is as it was.
  | .restart => ((), { s with nextSettlementId := 0, handlers := s.handlers.map (List.take 1) })

/-- The rows of the outbox have different settlement ids. The table does not ask
    for it: its key is the id of the row. -/
def DistinctIds (outbox : SettlementOutbox) : Prop :=
  ∀ id id' row row', outbox.rows.get? id = some row → outbox.rows.get? id' = some row' →
    row.settlementId = row'.settlementId → id = id'

/-- A settlement id is in no row. -/
def Unwritten (outbox : SettlementOutbox) (settlementId : Word 64) : Prop :=
  ∀ id row, outbox.rows.get? id = some row → row.settlementId ≠ settlementId

/-- The rows and the requests still to be written have different settlement ids.
    It is more than `DistinctIds`, as a run that stops here has not reused an id
    yet but will when the handlers go on. -/
structure Apart (s : ExchangeService) : Prop where
  rows : DistinctIds s.outbox
  pending : (s.unwritten.map (fun r => r.args.settlementId)).Nodup
  disjoint : ∀ r ∈ s.unwritten, Unwritten s.outbox r.args.settlementId

/-- When a step bridges the fills of an order, no id it hands out is in a row
    or in a request still to be written. -/
def IdsUnused (bridge : ApplicationSettlementBridge) (rt : Runtime) (s : ExchangeService) :
    ServiceStep → Prop
  | .order commandId taker fills signedOrders => ∀ first next requests,
    allocateSettlementIds s.nextSettlementId fills.length = (.ok (some first), next) →
    bridge.requestsFromBatch rt (.fromOrderFills commandId taker fills) signedOrders first
      = .ok requests →
    ∀ settlementId : Word 64, first.val ≤ settlementId.val →
      settlementId.val < first.val + fills.length →
      Unwritten s.outbox settlementId ∧ ∀ r ∈ s.unwritten, r.args.settlementId ≠ settlementId
  | _ => True

variable {bridge : ApplicationSettlementBridge} {rt : Runtime}

/-- A handler writes its first request: the others are those left. -/
theorem flatten_set {α : Type} {handlers : List (List α)} {k : Nat} {request : α} {rest : List α}
    (h : handlers[k]? = some (request :: rest)) :
    handlers.flatten.Perm (request :: (handlers.set k rest).flatten) := by
  induction handlers generalizing k with
  | nil => exact absurd h (by simp only [List.getElem?_nil, reduceCtorEq, not_false_eq_true])
  | cons first later ih =>
      cases k with
      | zero =>
          rw [List.getElem?_cons_zero, Option.some.injEq] at h
          rw [h]
          exact List.Perm.refl _
      | succ k =>
          rw [List.set_cons_succ, List.flatten_cons, List.flatten_cons]
          exact ((ih h).append_left first).trans List.perm_middle

/-- What is left of every handler is a part of all they had. -/
theorem flatten_take {α : Type} (handlers : List (List α)) :
    ((handlers.map (List.take 1)).flatten).Sublist handlers.flatten := by
  induction handlers with
  | nil => exact List.Sublist.refl _
  | cons first later ih =>
      rw [List.map_cons, List.flatten_cons, List.flatten_cons]
      exact (List.take_sublist 1 first).append ih

/-- Fewer requests to write leave ids apart. -/
theorem Apart.of_sublist {s : ExchangeService} (h : s.Apart)
    {handlers : List (List SignedSettlementRequest)} (hsub : handlers.flatten.Sublist s.unwritten)
    (next : Word 64) : Apart { s with nextSettlementId := next, handlers } :=
  ⟨h.rows, h.pending.sublist (hsub.map _), fun r hr => h.disjoint r (hsub.subset hr)⟩

/-- An id is in no row of a longer table when it is in none of the rows before
    and is not the id of the new one. -/
theorem unwritten_enqueue {outbox : SettlementOutbox} {request : SignedSettlementRequest}
    {settlementId : Word 64} :
    Unwritten (outbox.enqueue request) settlementId
      ↔ Unwritten outbox settlementId ∧ request.args.settlementId ≠ settlementId := by
  constructor
  · intro h
    refine ⟨fun id row hrow => h id row ?_, h outbox.nextId (.inserted request) ?_⟩
    · rw [get?_enqueue, if_neg (Nat.ne_of_lt (outbox.fresh id row hrow))]
      exact hrow
    · rw [get?_enqueue, if_pos rfl]
  · -- The new row is the request, the others are the rows before.
    rintro ⟨hold, hnew⟩ id row hrow
    rw [get?_enqueue] at hrow
    by_cases hid : id = outbox.nextId
    · rw [if_pos hid, Option.some.injEq] at hrow
      rw [← hrow]
      exact hnew
    · rw [if_neg hid] at hrow
      exact hold id row hrow

/-- An insertion keeps ids different exactly when no row has the id of the
    request yet. -/
theorem distinctIds_enqueue {outbox : SettlementOutbox} {request : SignedSettlementRequest} :
    DistinctIds (outbox.enqueue request)
      ↔ DistinctIds outbox ∧ Unwritten outbox request.args.settlementId := by
  constructor
  · intro h
    -- The rows that were there still are.
    have hlift : ∀ {id row}, outbox.rows.get? id = some row →
        (outbox.enqueue request).rows.get? id = some row := by
      intro id row hrow
      rw [get?_enqueue, if_neg (Nat.ne_of_lt (outbox.fresh id row hrow))]
      exact hrow
    refine ⟨fun id id' row row' hrow hrow' => h id id' row row' (hlift hrow) (hlift hrow'), ?_⟩
    intro id row hrow heq
    -- A row with the id of the request would be the new row itself, which is not there.
    have hnew := h id outbox.nextId row (.inserted request) (hlift hrow)
      (by rw [get?_enqueue, if_pos rfl]) heq
    have hlt := outbox.fresh id row hrow
    rw [hnew] at hlt
    exact Nat.lt_irrefl _ hlt
  · rintro ⟨hold, hnew⟩ id id' row row' hrow hrow' heq
    rw [get?_enqueue] at hrow hrow'
    -- The new row is one of the two, both, or neither.
    by_cases hid : id = outbox.nextId <;> by_cases hid' : id' = outbox.nextId
    · rw [hid, hid']
    · rw [if_pos hid, Option.some.injEq] at hrow
      rw [if_neg hid'] at hrow'
      rw [← hrow] at heq
      exact absurd heq.symm (hnew id' row' hrow')
    · rw [if_neg hid] at hrow
      rw [if_pos hid', Option.some.injEq] at hrow'
      rw [← hrow'] at heq
      exact absurd heq (hnew id row hrow)
    · rw [if_neg hid] at hrow
      rw [if_neg hid'] at hrow'
      exact hold id id' row row' hrow hrow' heq

/-- The ids of a batch are those from the first on, each once. -/
theorem batch_ids {commandId : CommandId} {taker : Order} {fills : List Fill}
    {signedOrders : SettlementSignedOrderSource} {first : Word 64}
    {requests : List SignedSettlementRequest}
    (h : bridge.requestsFromBatch rt (.fromOrderFills commandId taker fills) signedOrders first
      = .ok requests) :
    (requests.map (fun r => r.args.settlementId)).Nodup ∧
      ∀ settlementId : Word 64, (∃ r ∈ requests, r.args.settlementId = settlementId)
        ↔ first.val ≤ settlementId.val ∧ settlementId.val < first.val + fills.length := by
  -- The ids are consecutive from the first one on.
  have hids := requestsFrom_settlementIds h
  rw [Nat.add_zero, SettlementBatch.fromOrderFills, List.length_map] at hids
  constructor
  · have hnodup : (requests.map (fun r => r.args.settlementId.val)).Nodup := by
      rw [hids]
      exact List.nodup_range'
    rw [← Function.comp_def Fin.val, ← List.map_map] at hnodup
    exact hnodup.of_map Fin.val
  · intro settlementId
    have hmem := congrArg (settlementId.val ∈ ·) hids
    simp only [List.mem_map, List.mem_range'_1, eq_iff_iff] at hmem
    rw [← hmem]
    simp only [Fin.ext_iff]

/-- The ids stay apart in the steps that hand out unused ids, and in no
    others. -/
theorem step_apart {s : ExchangeService} (h : s.Apart) (i : ServiceStep) :
    (step bridge rt s i).2.Apart ↔ IdsUnused bridge rt s i := by
  cases i with
  | order commandId taker fills signedOrders =>
      rcases halloc : allocateSettlementIds s.nextSettlementId fills.length with
        ⟨_ | _ | first, next⟩
      -- Without an allocation no request is added.
      · simp only [step, halloc, IdsUnused]
        exact iff_of_true (h.of_sublist (List.Sublist.refl _) next)
          (fun _ _ _ heq => absurd heq (by
            simp only [Prod.mk.injEq, reduceCtorEq, false_and, not_false_eq_true]))
      · simp only [step, halloc, IdsUnused]
        exact iff_of_true (h.of_sublist (List.Sublist.refl _) next)
          (fun _ _ _ heq => absurd heq (by
            simp only [Prod.mk.injEq, Except.ok.injEq, reduceCtorEq, false_and,
              not_false_eq_true]))
      · rcases hbridge : bridge.requestsFromBatch rt (.fromOrderFills commandId taker fills)
          signedOrders first with error | requests
        · simp only [step, halloc, hbridge, IdsUnused]
          refine iff_of_true (h.of_sublist (List.Sublist.refl _) next) ?_
          rintro first' next' requests heq
          simp only [Prod.mk.injEq, Except.ok.injEq, Option.some.injEq] at heq
          rw [← heq.1, hbridge]
          exact fun hok => absurd hok (by simp only [reduceCtorEq, not_false_eq_true])
        · -- The requests bridged are the ids handed out, each once.
          rcases batch_ids hbridge with ⟨hnodup, hids⟩
          have hunwritten : (s.handlers ++ [requests]).flatten = s.unwritten ++ requests := by
            rw [List.flatten_append, List.flatten_singleton]
            rfl
          simp only [step, halloc, hbridge]
          constructor
          -- An id handed out belongs to one of the new requests, and these are apart from
          -- the rest.
          · intro hnext first' next' requests' heq hok settlementId hle hlt
            rw [halloc, Prod.mk.injEq, Except.ok.injEq, Option.some.injEq] at heq
            rw [← heq.1] at hle hlt
            rcases (hids settlementId).mpr ⟨hle, hlt⟩ with ⟨r, hr, hid⟩
            have hpending := hnext.pending
            simp only [unwritten, hunwritten, List.map_append] at hpending
            refine ⟨?_, fun r' hr' hsame => ?_⟩
            · rw [← hid]
              refine hnext.disjoint r ?_
              simp only [unwritten, hunwritten]
              exact List.mem_append_right _ hr
            · exact (List.nodup_append.mp hpending).2.2 _ (List.mem_map_of_mem hr') _
                (List.mem_map_of_mem hr) (hsame.trans hid.symm)
          -- The ids of the new requests are among those handed out.
          · intro hunused
            have hfree := hunused first next requests halloc hbridge
            refine ⟨h.rows, ?_, fun r hr => ?_⟩
            · simp only [unwritten, hunwritten, List.map_append]
              refine List.nodup_append.mpr ⟨h.pending, hnodup, ?_⟩
              rintro n hn m hm rfl
              rcases List.mem_map.mp hn with ⟨r', hr', rfl⟩
              rcases (hids r'.args.settlementId).mp (List.mem_map.mp hm) with ⟨hle, hlt⟩
              exact (hfree _ hle hlt).2 r' hr' rfl
            · simp only [unwritten, hunwritten] at hr
              rcases List.mem_append.mp hr with hold | hnew
              · exact h.disjoint r hold
              · rcases (hids r.args.settlementId).mp ⟨r, hnew, rfl⟩ with ⟨hle, hlt⟩
                exact (hfree _ hle hlt).1
  | write handler stored =>
      refine iff_of_true ?_ trivial
      rcases hget : s.handlers[handler]? with _ | _ | ⟨request, rest⟩
      · simp only [step, hget]
        exact h
      · simp only [step, hget]
        exact h.of_sublist (List.eraseIdx_sublist _ _).flatten _
      · cases stored with
        | false =>
            simp only [step, hget]
            exact h.of_sublist (List.eraseIdx_sublist _ _).flatten _
        | true =>
            simp only [step, hget, if_true]
            -- A request moves from the handler to the table.
            have hperm := flatten_set hget
            have hin : request ∈ s.unwritten := hperm.mem_iff.mpr List.mem_cons_self
            have hnodup := (hperm.map (fun r => r.args.settlementId)).nodup_iff.mp h.pending
            rw [List.map_cons, List.nodup_cons] at hnodup
            refine ⟨distinctIds_enqueue.mpr ⟨h.rows, h.disjoint request hin⟩, hnodup.2, ?_⟩
            intro r hr
            refine unwritten_enqueue.mpr ⟨h.disjoint r ?_, fun heq => hnodup.1 ?_⟩
            · exact hperm.mem_iff.mpr (List.mem_cons_of_mem _ hr)
            · rw [heq]
              exact List.mem_map_of_mem hr
  -- The counter does not matter to the ids, and of the handlers less is left.
  | restart =>
      exact iff_of_true (h.of_sublist (flatten_take s.handlers) 0) trivial

/-- Insertions of the handlers, carried out or not. -/
def writes (ws : List (Nat × Bool)) : List ServiceStep :=
  ws.map (fun w => .write w.1 w.2)

/-- Insertions keep the ids apart, in whatever order the handlers make them. -/
theorem writes_apart {s : ExchangeService} (h : s.Apart) (ws : List (Nat × Bool)) :
    (Run.after (step bridge rt) s (writes ws)).Apart := by
  induction ws generalizing s with
  | nil => exact h
  | cons w ws ih => exact ih ((step_apart h (.write w.1 w.2)).mpr trivial)

/-- When the rows have different ids whatever is written next, they have with
    everything that is still to be written. -/
theorem apart_of_writes {handlers : List (List SignedSettlementRequest)}
    {outbox : SettlementOutbox} {next : Word 64}
    (h : ∀ ws, DistinctIds
      (Run.after (step bridge rt) ⟨next, handlers, outbox⟩ (writes ws)).outbox) :
    Apart ⟨next, handlers, outbox⟩ := by
  -- The handlers write one after the other, each all it has.
  induction handlers generalizing outbox with
  | nil => exact ⟨h [], List.nodup_nil, fun r hr => absurd hr List.not_mem_nil⟩
  | cons first later ih =>
      induction first generalizing outbox with
      | nil =>
          have hnext := ih (fun ws => h ((0, true) :: ws))
          exact ⟨hnext.rows, hnext.pending, hnext.disjoint⟩
      | cons request rest ihfirst =>
          -- The first handler writes its first request, and is in the same position with
          -- one less.
          have hnext : Apart ⟨next, rest :: later, outbox.enqueue request⟩ :=
            ihfirst (fun ws => h ((0, true) :: ws))
          rcases distinctIds_enqueue.mp hnext.rows with ⟨hrows, hrequest⟩
          refine ⟨hrows, ?_, fun r hr => ?_⟩
          · refine List.nodup_cons.mpr ⟨fun hin => ?_, hnext.pending⟩
            rcases List.mem_map.mp hin with ⟨r, hr, hsame⟩
            exact (unwritten_enqueue.mp (hnext.disjoint r hr)).2 hsame.symm
          · rcases List.mem_cons.mp hr with rfl | hr
            · exact hrequest
            · exact (unwritten_enqueue.mp (hnext.disjoint r hr)).1

/-- The ids are apart exactly when rows stay different whatever the handlers
    write. So `Apart` asks for no more than what can be seen in the outbox
    later. -/
theorem apart_iff (bridge : ApplicationSettlementBridge) (rt : Runtime) {s : ExchangeService} :
    s.Apart ↔ ∀ ws, DistinctIds (Run.after (step bridge rt) s (writes ws)).outbox :=
  ⟨fun h ws => (writes_apart h ws).rows, fun h => apart_of_writes h⟩

/-- The first boot has neither rows nor requests. -/
theorem boot_apart : boot.Apart :=
  ⟨fun _ _ _ _ h => absurd h (by
      simp only [boot, empty, SortedMap.get?_empty, reduceCtorEq, not_false_eq_true]),
    List.nodup_nil, fun r hr => absurd hr List.not_mem_nil⟩

/-- Settlement ids are not reused, whatever the handlers at work still write,
    throughout exactly the runs in which every order is bridged under unused
    ids. -/
theorem run_settlementIds (bridge : ApplicationSettlementBridge) (rt : Runtime)
    (inputs : List ServiceStep) :
    (∀ pre, pre <+: inputs → ∀ ws,
      DistinctIds (Run.after (step bridge rt) boot (pre ++ writes ws)).outbox)
      ↔ Run.Along (step bridge rt) (IdsUnused bridge rt) boot inputs := by
  rw [← Run.always_iff_along (step bridge rt) (s := boot) (I := fun _ _ => True)
    (P := fun _ s => s.Apart) trivial (fun _ _ _ _ => trivial) boot_apart
    (fun _ s i _ h => step_apart h i) inputs]
  refine forall_congr' (fun pre => imp_congr_right (fun _ => ?_))
  rw [apart_iff bridge rt]
  simp only [Run.after_append]

/-- A fill of 20 between the sample ask and a bid, for which both are
    registered. -/
def sampleOrder (id : OrderId) (bid : SignedOrderPayload) : ServiceStep :=
  let maker := Order.new ⟨2, Nat.succ_pos _⟩ ⟨2, Nat.succ_pos _⟩ ⟨1, Nat.succ_pos _⟩ .ask
    ⟨20, Nat.succ_pos _⟩ ⟨60, Nat.succ_pos _⟩ ⟨1, Nat.succ_pos _⟩
  let taker := Order.new id ⟨1, Nat.succ_pos _⟩ ⟨1, Nat.succ_pos _⟩ .bid ⟨25, Nat.succ_pos _⟩
    ⟨20, Nat.succ_pos _⟩ ⟨2, Nat.succ_pos _⟩
  .order ⟨1, Nat.succ_pos _⟩ taker [Fill.new maker taker ⟨20, Nat.succ_pos _⟩ ⟨20, Nat.succ_pos _⟩]
    (registered [sampleRegistration 1 .bid bid sampleBidSignature,
      sampleRegistration 2 .ask sampleAsk sampleAskSignature])

/-- An order is settled before a restart and another one after it, both under
    id zero. -/
theorem run_settlementIds_restart :
    let inputs := [sampleOrder ⟨1, by decide⟩ sampleBid, .write 0 true, .restart,
      sampleOrder ⟨3, by decide⟩ { sampleBid with orderId := 3, nonce := 2 }, .write 1 true]
    let outbox := (Run.after (step sampleBridge sampleSignedRuntime) boot inputs).outbox
    (¬ ∀ steps, DistinctIds (Run.after (step sampleBridge sampleSignedRuntime) boot steps).outbox) ∧
    (outbox.rows.get? 1).map OutboxRow.settlementId = some 0 ∧
    (outbox.rows.get? 2).map OutboxRow.settlementId = some 0 := by
  intro inputs outbox
  have hfirst : (outbox.rows.get? 1).map OutboxRow.settlementId = some 0 := by decide +kernel
  have hsecond : (outbox.rows.get? 2).map OutboxRow.settlementId = some 0 := by decide +kernel
  refine ⟨fun h => ?_, hfirst, hsecond⟩
  rcases Option.map_eq_some_iff.mp hfirst with ⟨row, hrow, hid⟩
  rcases Option.map_eq_some_iff.mp hsecond with ⟨row', hrow', hid'⟩
  exact absurd (h inputs 1 2 row row' hrow hrow' (hid.trans hid'.symm)) (by decide)

/-! ### One life of the process -/

/-- The counter is ahead of every id handed out. -/
structure Fresh (s : ExchangeService) : Prop where
  rows : ∀ id row, s.outbox.rows.get? id = some row → row.settlementId.val < s.nextSettlementId.val
  pending : ∀ r ∈ s.unwritten, r.args.settlementId.val < s.nextSettlementId.val

/-- The ids handed out start at the counter, which goes on to behind them. -/
theorem allocateSettlementIds_eq_ok {nextSettlementId first next : Word 64} {count : Nat}
    (h : allocateSettlementIds nextSettlementId count = (.ok (some first), next)) :
    first = nextSettlementId ∧ next.val = nextSettlementId.val + count := by
  rcases allocateSettlementIds_cases nextSettlementId count with
    ⟨-, heq⟩ | ⟨-, e, heq⟩ | ⟨-, hroom, heq⟩
  · exact absurd (congrArg Prod.fst (heq.symm.trans h)) (by
      simp only [Except.ok.injEq, reduceCtorEq, not_false_eq_true])
  · exact absurd (congrArg Prod.fst (heq.symm.trans h)) (by
      simp only [reduceCtorEq, not_false_eq_true])
  · rw [heq, Prod.mk.injEq, Except.ok.injEq, Option.some.injEq] at h
    rw [← h.1, ← h.2]
    exact ⟨rfl, rfl⟩

/-- The counter never goes back. -/
theorem le_allocateSettlementIds {nextSettlementId next : Word 64} {count : Nat}
    {answer : Except ApiError (Option (Word 64))}
    (halloc : allocateSettlementIds nextSettlementId count = (answer, next)) :
    nextSettlementId.val ≤ next.val := by
  rcases allocateSettlementIds_cases nextSettlementId count with
    ⟨-, heq⟩ | ⟨-, e, heq⟩ | ⟨-, hroom, heq⟩ <;>
    rw [heq, Prod.mk.injEq] at halloc <;> rw [← halloc.2]
  exact Nat.le_add_right _ _

/-- A counter that goes ahead stays ahead. -/
theorem Fresh.mono {s : ExchangeService} (h : s.Fresh) {next : Word 64}
    (hle : s.nextSettlementId.val ≤ next.val) : Fresh { s with nextSettlementId := next } :=
  ⟨fun id row hrow => lt_of_lt_of_le (h.rows id row hrow) hle,
    fun r hr => lt_of_lt_of_le (h.pending r hr) hle⟩

/-- A counter ahead of all ids hands out unused ones. Nothing else of the state
    is needed, so within one life the rows need not be looked at. -/
theorem idsUnused_of_fresh {s : ExchangeService} (h : s.Fresh) (i : ServiceStep) :
    IdsUnused bridge rt s i := by
  cases i with
  | order commandId taker fills signedOrders =>
      intro first next requests halloc _ settlementId hle _
      rw [(allocateSettlementIds_eq_ok halloc).1] at hle
      refine ⟨fun id row hrow heq => ?_, fun r hr heq => ?_⟩
      · have hlt := h.rows id row hrow
        rw [heq] at hlt
        omega
      · have hlt := h.pending r hr
        rw [heq] at hlt
        omega
  | _ => trivial

/-- The counter stays ahead as long as the process lives. -/
theorem step_fresh {s : ExchangeService} (h : s.Fresh) {i : ServiceStep} (hi : i ≠ .restart) :
    (step bridge rt s i).2.Fresh := by
  cases i with
  | order commandId taker fills signedOrders =>
      rcases halloc : allocateSettlementIds s.nextSettlementId fills.length with
        ⟨_ | _ | first, next⟩
      · simp only [step, halloc]
        exact h.mono (le_allocateSettlementIds halloc)
      · simp only [step, halloc]
        exact h.mono (le_allocateSettlementIds halloc)
      · rcases hbridge : bridge.requestsFromBatch rt (.fromOrderFills commandId taker fills)
          signedOrders first with error | requests
        · simp only [step, halloc, hbridge]
          exact h.mono (le_allocateSettlementIds halloc)
        · simp only [step, halloc, hbridge]
          -- The requests bridged are below the counter as it is afterwards.
          have hmono : Fresh { s with nextSettlementId := next } :=
            h.mono (le_allocateSettlementIds halloc)
          refine ⟨hmono.rows, fun r hr => ?_⟩
          rw [unwritten, List.flatten_append, List.flatten_singleton] at hr
          rcases List.mem_append.mp hr with hold | hnew
          · exact hmono.pending r hold
          · rcases allocateSettlementIds_eq_ok halloc with ⟨hfirst, hnext⟩
            rcases ((batch_ids hbridge).2 r.args.settlementId).mp ⟨r, hnew, rfl⟩ with ⟨-, hlt⟩
            rw [hfirst] at hlt
            exact lt_of_lt_of_eq hlt hnext.symm
  -- A request that is written had its id below the counter already.
  | write handler stored =>
      rcases hget : s.handlers[handler]? with _ | _ | ⟨request, rest⟩
      · simp only [step, hget]
        exact h
      · simp only [step, hget]
        exact ⟨h.rows, fun r hr => h.pending r ((List.eraseIdx_sublist _ _).flatten.subset hr)⟩
      · cases stored with
        | false =>
            simp only [step, hget]
            exact ⟨h.rows, fun r hr => h.pending r ((List.eraseIdx_sublist _ _).flatten.subset hr)⟩
        | true =>
            simp only [step, hget, if_true]
            have hperm := flatten_set hget
            refine ⟨fun id row hrow => ?_, fun r hr => ?_⟩
            · rw [get?_enqueue] at hrow
              by_cases hid : id = s.outbox.nextId
              · rw [if_pos hid, Option.some.injEq] at hrow
                rw [← hrow]
                exact h.pending request (hperm.mem_iff.mpr List.mem_cons_self)
              · rw [if_neg hid] at hrow
                exact h.rows id row hrow
            · exact h.pending r (hperm.mem_iff.mpr (List.mem_cons_of_mem _ hr))
  | restart => exact absurd rfl hi

/-- A process that is never restarted does not reuse a settlement id. -/
theorem run_settlementIds_oneLife {inputs : List ServiceStep} (h : ServiceStep.restart ∉ inputs) :
    DistinctIds (Run.after (step bridge rt) boot inputs).outbox := by
  have hlife : Run.Along (step bridge rt) (fun _ i => i ≠ .restart) boot inputs :=
    Run.along_of_forall (step bridge rt) (C := fun i => i ≠ .restart)
      (fun i hi heq => h (heq ▸ hi)) boot
  have hboot : boot.Fresh := ⟨fun _ _ hrow => absurd hrow (by
      simp only [boot, empty, SortedMap.get?_empty, reduceCtorEq, not_false_eq_true]),
    fun r hr => absurd hr List.not_mem_nil⟩
  -- A fresh counter hands out unused ids, which keep the ids apart.
  have hrun := Run.invariant_along (step bridge rt) (P := fun _ s => s.Fresh ∧ s.Apart)
    ⟨hboot, boot_apart⟩ (fun _ s i hs hi =>
      ⟨step_fresh hs.1 hi, (step_apart hs.2 i).mpr (idsUnused_of_fresh hs.1 i)⟩) hlife
  exact hrun.2.rows

end ExchangeService

end Relayer

end SolanaLab
