import SolanaLab.Exchange.ActorMetrics
import SolanaLab.Service.Edge

/-!
# What the Service Settles

From the fills of an order to the chain, in a service without an outbox.

The task of an order takes settlement ids out of a counter, looks the two
orders of each fill up, and puts all its requests into the queue at once or
none of them. The worker takes whatever is in the queue and tries every
request once. Tasks are interleaved, so the lookups of one see registrations
made in the middle of it, and batches of several tasks reach the queue in any
order.

`Settling` is what all of this keeps, and `settlements_accounted` reads off it
what matters. Every request that was queued is submitted, held by the worker or
in the queue, in this order and once; no two have the same settlement id; and
each batch is the fills of one order that the actor placed, in their order,
each with two orders that were registered under the ids of its maker and its
taker. No order is settled by two batches.

Ids and calls are kept apart by one argument. What has reached the queue and
what tasks still have in their hands is one list without repetitions.
`Handler.reserved` and `Handler.unqueued` say what each task has of it. A step
takes something new into the list, moves what a task has to the queue or drops
it, and `flatMap_set_perm` is the rule for one task among the others.

## Main definitions

* `batches`, `queued`, `submitted`: What the log says of settlements.
* `Registered`: A signed order was registered.
* `Settles`: A request is one for an intent.
* `Batch`: Requests are those for an order.
* `Settling`: What every run keeps.

## Theorems

* `steps_settling`: Every step keeps it.
* `settlements_accounted`: What becomes of the fills of orders.
-/

namespace SolanaLab

namespace Service

open Checked Exchange Relayer Settlement

/-! ### The log -/

/-- The batches put into the queue, with the calls they are for. -/
def batches (past : List (Move × Effect)) : List (Nat × List SignedSettlementRequest) :=
  past.filterMap (fun e => match e.2 with
    | .queued call requests => some (call, requests)
    | _ => none)

/-- The requests put into the queue. -/
def queued (past : List (Move × Effect)) : List SignedSettlementRequest :=
  (batches past).flatMap Prod.snd

/-- The requests submitted. -/
def submitted (past : List (Move × Effect)) : List SignedSettlementRequest :=
  past.filterMap (fun e => match e.2 with
    | .submitted request _ => some request
    | _ => none)

/-- A batch more when the effect is one. -/
theorem batches_snoc (past : List (Move × Effect)) (move : Move) (effect : Effect) :
    batches (past ++ [(move, effect)]) = batches past ++ (match effect with
      | .queued call requests => [(call, requests)]
      | _ => []) := by
  rw [batches, List.filterMap_append]
  cases effect <;> rfl

/-- A request more when the effect is its submission. -/
theorem submitted_snoc (past : List (Move × Effect)) (move : Move) (effect : Effect) :
    submitted (past ++ [(move, effect)]) = submitted past ++ (match effect with
      | .submitted request _ => [request]
      | _ => []) := by
  rw [submitted, List.filterMap_append]
  cases effect <;> rfl

/-- An accepted request has registered a signed order for an order id. Later
    ones may have replaced it, which does not undo that it was registered. -/
def Registered (config : Config) (past : List (Move × Effect)) (orderId : OrderId)
    (signedOrder : SettlementSignedOrder) : Prop :=
  ∃ header body replaced, (Move.receive header (.registerSignedOrder body),
      Effect.responded (.registerSignedOrder body) (.ok (.signedOrder true replaced))) ∈ past ∧
    authorizeApiKey config.apiKey header = .ok () ∧
    signedOrderFromRequest body = .ok (orderId, signedOrder)

/-- A request is one for an intent: it is what the bridge makes of it with two
    registered orders, one found for its maker and one for its taker. The two
    need not be the orders registered at one moment: the service looks them up
    one after the other, and a client may register another order in between,
    under the same id where an intent names one id twice. -/
def Settles (config : Config) (rt : Runtime) (past : List (Move × Effect))
    (intent : SettlementIntent) (settlementId : Nat) (request : SignedSettlementRequest) : Prop :=
  ∃ settlementConfig maker taker buyer seller id, config.settlementConfig = some settlementConfig ∧
    Registered config past intent.makerOrderId maker ∧
    Registered config past intent.takerOrderId taker ∧
    ApplicationSettlementBridge.BridgedOrders settlementConfig.bridge rt intent maker taker buyer
      seller ∧
    id.val = settlementId ∧ request = settlementConfig.bridge.request id intent buyer seller

/-- Requests are those for intents, with the ids from a first one on. There may
    be fewer of them than intents: these are the requests made so far. -/
def Made (config : Config) (rt : Runtime) (past : List (Move × Effect))
    (intents : List SettlementIntent) (first : Nat) (made : List SignedSettlementRequest) : Prop :=
  made.length ≤ intents.length ∧ ∀ k request, made[k]? = some request →
    ∃ intent, intents[k]? = some intent ∧ Settles config rt past intent (first + k) request

/-- Requests are those for the order that a call has placed. -/
def Batch (config : Config) (rt : Runtime) (past : List (Move × Effect)) (actor : Actor)
    (call : Nat) (requests : List SignedSettlementRequest) : Prop :=
  ∃ (p : PlacedOrder) (first : Nat), p.call = call ∧
    actor.calls[call]? = some (.answered (.ok (.orderPlaced p.fills))) ∧
    .orderPlaced p.commandId p.order p.fills ∈ actor.state.app.events ∧
    requests.length = p.fills.length ∧ Made config rt past p.intents first requests

section Log

variable {config : Config} {rt : Runtime} {past more : List (Move × Effect)}

/-- What was registered stays registered in a longer log. -/
theorem Registered.mono {orderId : OrderId} {signedOrder : SettlementSignedOrder}
    (h : Registered config past orderId signedOrder) :
    Registered config (past ++ more) orderId signedOrder := by
  rcases h with ⟨header, body, replaced, hmem, hauth, hbody⟩
  exact ⟨header, body, replaced, List.mem_append_left _ hmem, hauth, hbody⟩

/-- So a request stays one for its intent. -/
theorem Settles.mono {intent : SettlementIntent} {settlementId : Nat}
    {request : SignedSettlementRequest} (h : Settles config rt past intent settlementId request) :
    Settles config rt (past ++ more) intent settlementId request := by
  rcases h with ⟨settlementConfig, maker, taker, buyer, seller, id, hconfig, hm, ht, hrest⟩
  exact ⟨settlementConfig, maker, taker, buyer, seller, id, hconfig, hm.mono, ht.mono, hrest⟩

/-- So requests stay those for their intents. -/
theorem Made.mono {intents : List SettlementIntent} {first : Nat}
    {made : List SignedSettlementRequest} (h : Made config rt past intents first made) :
    Made config rt (past ++ more) intents first made := by
  refine ⟨h.1, fun k request hk => ?_⟩
  rcases h.2 k request hk with ⟨intent, hintent, hsettles⟩
  exact ⟨intent, hintent, hsettles.mono⟩

/-- The ids of requests that were made are consecutive. -/
theorem Made.ids {intents : List SettlementIntent} {first : Nat}
    {made : List SignedSettlementRequest} (h : Made config rt past intents first made) :
    made.map (fun r => r.args.settlementId.val) = List.range' first made.length := by
  refine List.ext_getElem? (fun k => ?_)
  rw [List.getElem?_map]
  by_cases hk : k < made.length
  -- The request at a position has the id at that position.
  · rcases h.2 k made[k] (List.getElem?_eq_getElem hk) with
      ⟨intent, -, settlementConfig, maker, taker, buyer, seller, id, -, -, -, -, hid, hrequest⟩
    rw [List.getElem?_eq_getElem hk, List.getElem?_range' hk, Option.map_some, hrequest,
      Nat.one_mul]
    exact congrArg some hid
  · have hlen : made.length ≤ k := not_lt.mp hk
    rw [List.getElem?_eq_none hlen, List.getElem?_eq_none]
    · rfl
    · rw [List.length_range']
      exact hlen

/-- One more request is made. -/
theorem Made.snoc {intents : List SettlementIntent} {first : Nat}
    {made : List SignedSettlementRequest} (h : Made config rt past intents first made)
    {intent : SettlementIntent} (hintent : intents[made.length]? = some intent)
    {request : SignedSettlementRequest}
    (hsettles : Settles config rt past intent (first + made.length) request) :
    Made config rt past intents first (made ++ [request]) := by
  have hlt := (List.getElem?_eq_some_iff.mp hintent).1
  refine ⟨?_, fun k r hk => ?_⟩
  · rw [List.length_append]
    exact hlt
  -- The new request is the last one, and for the next intent.
  · by_cases hold : k < made.length
    · rw [List.getElem?_append_left hold] at hk
      exact h.2 k r hk
    · have hlast : k = made.length := by
        have hbound := (List.getElem?_eq_some_iff.mp hk).1
        rw [List.length_append, List.length_singleton] at hbound
        omega
      rw [hlast, List.getElem?_concat_length, Option.some.injEq] at hk
      rw [hlast, ← hk]
      exact ⟨intent, hintent, hsettles⟩

end Log

/-! ### What every run keeps -/

/-- The settlement ids that a task has taken and not yet put into the queue. It
    has as many as there are fills, whether it gets to use them or not. -/
def Handler.reserved : Handler → List Nat
  | .placed p (.bridging _ first _ _) => List.range' first.val p.fills.length
  | .placed _ (.queueing requests) => requests.map (fun r => r.args.settlementId.val)
  | _ => []

/-- The call of a task that may yet put requests into the queue. -/
def Handler.unqueued : Handler → List Nat
  | .waiting call _ _ => [call]
  | .placed _ (.counting _) => []
  | .placed _ .answering => []
  | .placed p _ => [p.call]
  | .done => []

/-- What a task has found and made so far. What it looked up was registered
    then, and the requests in its hands are made of such lookups. -/
def Handler.Staged (config : Config) (rt : Runtime) (past : List (Move × Effect)) :
    Handler → Prop
  | .placed p (.bridging bridge first made maker) =>
    (∃ settlementConfig, config.settlementConfig = some settlementConfig ∧
      bridge = settlementConfig.bridge) ∧
    Made config rt past p.intents first.val made ∧
    ∀ signedOrder, maker = some (some signedOrder) → ∀ intent,
      p.intents[made.length]? = some intent →
      Registered config past intent.makerOrderId signedOrder
  | .placed p (.queueing requests) =>
    requests.length = p.fills.length ∧ ∃ first, Made config rt past p.intents first requests
  | _ => True

/-- What a task has found stays found. -/
theorem Handler.Staged.mono {config : Config} {rt : Runtime} {past more : List (Move × Effect)}
    {h : Handler} (hstaged : h.Staged config rt past) : h.Staged config rt (past ++ more) := by
  cases h with
  | waiting call request command => trivial
  | done => trivial
  | placed p stage =>
      cases stage with
      | allocating => trivial
      -- Only here does a task hold on to what it has looked up.
      | bridging bridge first made maker =>
          exact ⟨hstaged.1, hstaged.2.1.mono, fun so hso intent hintent =>
            (hstaged.2.2 so hso intent hintent).mono⟩
      | queueing requests =>
          rcases hstaged with ⟨hlen, first, hmade⟩
          exact ⟨hlen, first, hmade.mono⟩
      | counting n => trivial
      | answering => trivial

/-- What every run keeps of the way from fills to submissions. -/
structure Settling (config : Config) (rt : Runtime) (past : List (Move × Effect))
    (s : ServiceState) : Prop where
  kept : queued past
    = submitted past ++ s.work.map SettlementWorkItem.request ++ s.queuedRequests
  ids : ((queued past).map (fun r => r.args.settlementId.val)
    ++ s.handlers.flatMap Handler.reserved).Nodup
  below : ∀ id ∈ (queued past).map (fun r => r.args.settlementId.val)
    ++ s.handlers.flatMap Handler.reserved, id < s.nextSettlementId.val
  once : ((batches past).map Prod.fst ++ s.handlers.flatMap Handler.unqueued).Nodup
  begun : ∀ call ∈ (batches past).map Prod.fst ++ s.handlers.flatMap Handler.unqueued,
    call < s.actor.calls.length
  registered : ∀ orderId signedOrder, s.signedOrders.get? orderId = some signedOrder →
    Registered config past orderId signedOrder
  staged : ∀ h ∈ s.handlers, h.Staged config rt past
  made : ∀ batch ∈ batches past, Batch config rt past s.actor batch.1 batch.2

/-- A task among others, as a permutation. -/
theorem flatMap_set_perm {α β : Type} {f : α → List β} {l : List α} {i : Nat} {a : α}
    (h : l[i]? = some a) :
    ∃ rest, (l.flatMap f).Perm (f a ++ rest) ∧
      ∀ b, ((l.set i b).flatMap f).Perm (f b ++ rest) := by
  -- The others are the entries before the task and those after it.
  induction l generalizing i with
  | nil => exact absurd h (by simp only [List.getElem?_nil, reduceCtorEq, not_false_eq_true])
  | cons x l ih =>
      cases i with
      | zero =>
          rw [List.getElem?_cons_zero, Option.some.injEq] at h
          refine ⟨l.flatMap f, ?_, fun b => ?_⟩
          · rw [List.flatMap_cons, h]
          · rw [List.set_cons_zero, List.flatMap_cons]
      | succ i =>
          rcases ih h with ⟨rest, hold, hnew⟩
          refine ⟨f x ++ rest, ?_, fun b => ?_⟩
          · rw [List.flatMap_cons]
            exact (hold.append_left _).trans (List.perm_append_comm_assoc _ _ _)
          · rw [List.set_cons_succ, List.flatMap_cons]
            exact ((hnew b).append_left _).trans (List.perm_append_comm_assoc _ _ _)

/-! ### What a step keeps -/

/-- An actor at a later moment: no call is forgotten, an answer given stays
    given, and the log has only grown. -/
structure Later (actor actor' : Actor) : Prop where
  calls : actor.calls.length ≤ actor'.calls.length
  answered : ∀ (i : Nat) (answer : Except ApplicationError MarketReply),
    actor.calls[i]? = some (.answered answer) → actor'.calls[i]? = some (.answered answer)
  events : actor.state.app.events <+: actor'.state.app.events

/-- An actor is no later than itself. -/
theorem Later.refl (actor : Actor) : Later actor actor :=
  ⟨Nat.le_refl _, fun _ _ h => h, List.prefix_refl _⟩

/-- A move of the mailbox leads to a later moment. -/
theorem mailbox_later (config : Config) (actor : Actor)
    (move : Mailbox.Move MarketCommand AppendOutcome) :
    Later actor (mailbox config actor move) :=
  ⟨Mailbox.length_calls_step actor move, fun _ _ h => Mailbox.answered_step h move,
    MarketActorHandle.events_grow config.mailboxCapacity actor move⟩

section Steps

variable {config : Config} {rt : Runtime} {app : ExchangeApplication} {journal : List Event}
  {past : List (Move × Effect)} {s s' : ServiceState}
  {moves : List (Mailbox.Move MarketCommand AppendOutcome)}

/-- And a batch stays one of the order its call has placed, while the actor goes
    on. -/
theorem Batch.mono {actor actor' : Actor} {call : Nat} {requests : List SignedSettlementRequest}
    (h : Batch config rt past actor call requests) (hlater : Later actor actor')
    (more : List (Move × Effect)) : Batch config rt (past ++ more) actor' call requests := by
  rcases h with ⟨p, first, hcall, hanswer, hevent, hlen, hmade⟩
  exact ⟨p, first, hcall, hlater.answered _ _ hanswer, hlater.events.subset hevent, hlen,
    hmade.mono⟩

/-- An effect that is not about settlements. -/
def Effect.Other : Effect → Prop
  | .quiet => True
  | .responded _ _ => True
  | .queued _ _ => False
  | .submitted _ _ => False

/-- An effect that is not about settlements is no batch and no submission. -/
theorem other_log {effect : Effect} (h : effect.Other) (move : Move) :
    batches (past ++ [(move, effect)]) = batches past ∧
      submitted (past ++ [(move, effect)]) = submitted past := by
  rw [batches_snoc, submitted_snoc]
  cases effect with
  | quiet => exact ⟨List.append_nil _, List.append_nil _⟩
  | responded request response => exact ⟨List.append_nil _, List.append_nil _⟩
  | queued call requests => exact absurd h id
  | submitted request result => exact absurd h id

/-- A step that neither fills nor empties the queue. -/
theorem Settling.other (h : Settling config rt past s) {move : Move} {effect : Effect}
    (hother : effect.Other) (hwork : s'.work = s.work)
    (hqueue : s'.queuedRequests = s.queuedRequests) (hlater : Later s.actor s'.actor)
    (hids : ((queued past).map (fun r => r.args.settlementId.val)
      ++ s'.handlers.flatMap Handler.reserved).Nodup)
    (hbelow : ∀ id ∈ (queued past).map (fun r => r.args.settlementId.val)
      ++ s'.handlers.flatMap Handler.reserved, id < s'.nextSettlementId.val)
    (honce : ((batches past).map Prod.fst ++ s'.handlers.flatMap Handler.unqueued).Nodup)
    (hbegun : ∀ call ∈ (batches past).map Prod.fst ++ s'.handlers.flatMap Handler.unqueued,
      call < s'.actor.calls.length)
    (hregistered : ∀ orderId signedOrder, s'.signedOrders.get? orderId = some signedOrder →
      Registered config (past ++ [(move, effect)]) orderId signedOrder)
    (hstaged : ∀ handler ∈ s'.handlers, handler.Staged config rt past) :
    Settling config rt (past ++ [(move, effect)]) s' := by
  rcases other_log hother move with ⟨hbatches, hsubmitted⟩
  -- The queue and the worker are as they were, so what matters is what the tasks make of
  -- theirs.
  have hqueued : queued (past ++ [(move, effect)]) = queued past := by
    rw [queued, queued, hbatches]
  refine ⟨?_, ?_, ?_, ?_, ?_, hregistered, fun handler hmem => (hstaged handler hmem).mono, ?_⟩
  · rw [hqueued, hsubmitted, hwork, hqueue]
    exact h.kept
  · rw [hqueued]
    exact hids
  · rw [hqueued]
    exact hbelow
  · rw [hbatches]
    exact honce
  · rw [hbatches]
    exact hbegun
  · rw [hbatches]
    exact fun batch hmem => (h.made batch hmem).mono hlater _

/-- A task goes on with the ids and the call it has, or with fewer. What it
    gives up is not used by another task either. -/
theorem Settling.put (h : Settling config rt past s) {i : Nat} {old : Handler}
    (hi : s.handlers[i]? = some old) (new : Handler) (hreserved : new.reserved.Sublist old.reserved)
    (hunqueued : new.unqueued.Sublist old.unqueued) (hnew : new.Staged config rt past)
    {move : Move} {effect : Effect} (hother : effect.Other)
    (hhandlers : s'.handlers = s.handlers.set i new) (hwork : s'.work = s.work)
    (hqueue : s'.queuedRequests = s.queuedRequests) (hlater : Later s.actor s'.actor)
    (hnext : s.nextSettlementId.val ≤ s'.nextSettlementId.val)
    (hsigned : s'.signedOrders = s.signedOrders) :
    Settling config rt (past ++ [(move, effect)]) s' := by
  -- What the task has now is part of what it had.
  have hids := (flatMap_set_sublist hi hreserved).append_left
    ((queued past).map (fun r => r.args.settlementId.val))
  have hcalls := (flatMap_set_sublist hi hunqueued).append_left
    ((batches past).map Prod.fst)
  refine h.other hother hwork hqueue hlater ?_ ?_ ?_ ?_ ?_ ?_
  · rw [hhandlers]
    exact h.ids.sublist hids
  · rw [hhandlers]
    exact fun id hmem => lt_of_lt_of_le (h.below id (hids.subset hmem)) hnext
  · rw [hhandlers]
    exact h.once.sublist hcalls
  · rw [hhandlers]
    exact fun call hmem => lt_of_lt_of_le (h.begun call (hcalls.subset hmem)) hlater.calls
  · rw [hsigned]
    exact fun orderId signedOrder hget => (h.registered orderId signedOrder hget).mono
  · rw [hhandlers]
    intro handler hmem
    rcases List.mem_or_eq_of_mem_set hmem with hold | rfl
    · exact h.staged handler hold
    · exact hnew

/-- The tasks stay as they are. -/
theorem Settling.stay (h : Settling config rt past s) {move : Move} {effect : Effect}
    (hother : effect.Other) (hhandlers : s'.handlers = s.handlers) (hwork : s'.work = s.work)
    (hqueue : s'.queuedRequests = s.queuedRequests) (hlater : Later s.actor s'.actor)
    (hnext : s'.nextSettlementId = s.nextSettlementId)
    (hregistered : ∀ orderId signedOrder, s'.signedOrders.get? orderId = some signedOrder →
      Registered config (past ++ [(move, effect)]) orderId signedOrder) :
    Settling config rt (past ++ [(move, effect)]) s' := by
  refine h.other hother hwork hqueue hlater ?_ ?_ ?_ ?_ hregistered ?_
  · rw [hhandlers]
    exact h.ids
  · rw [hhandlers, hnext]
    exact h.below
  · rw [hhandlers]
    exact h.once
  · rw [hhandlers]
    exact fun call hmem => lt_of_lt_of_le (h.begun call hmem) hlater.calls
  · rw [hhandlers]
    exact h.staged

/-- A new task has a call of its own. The calls are numbered as they are made,
    so the next number is no other task's. -/
theorem Settling.call (h : Settling config rt past s) {header : Option String} {request : Request}
    (command : MarketCommand) (metrics : ServiceMetrics) :
    Settling config rt (past ++ [(.receive header request, .quiet)]) { s with
      metrics
      actor := mailbox config s.actor (.invoke command)
      handlers := s.handlers ++ [.waiting s.actor.calls.length request command] } := by
  have hreserved : (s.handlers ++ [Handler.waiting s.actor.calls.length request command]).flatMap
      Handler.reserved = s.handlers.flatMap Handler.reserved := by
    rw [List.flatMap_append]
    exact List.append_nil _
  -- The list of calls is longer by a number that no call has had.
  have hunqueued : (s.handlers ++ [Handler.waiting s.actor.calls.length request command]).flatMap
      Handler.unqueued = s.handlers.flatMap Handler.unqueued ++ [s.actor.calls.length] := by
    rw [List.flatMap_append]
    rfl
  have hlen : (mailbox config s.actor (.invoke command)).calls.length
      = s.actor.calls.length + 1 := by
    rw [mailbox, Mailbox.step, List.length_append]
    rfl
  refine h.other trivial rfl rfl (mailbox_later config s.actor _) ?_ ?_ ?_ ?_
    (fun orderId signedOrder hget => (h.registered orderId signedOrder hget).mono) ?_
  · simp only [hreserved]
    exact h.ids
  · simp only [hreserved]
    exact h.below
  · simp only [hunqueued]
    rw [← List.append_assoc, List.nodup_append]
    refine ⟨h.once, List.nodup_singleton _, fun call hmem call' hmem' heq => ?_⟩
    have hlt := h.begun call hmem
    have hnew := List.mem_singleton.mp hmem'
    omega
  · simp only [hunqueued]
    rw [← List.append_assoc]
    intro call hmem
    rw [hlen]
    rcases List.mem_append.mp hmem with hold | hnew
    · exact (h.begun call hold).trans (Nat.lt_succ_self _)
    · rw [List.mem_singleton.mp hnew]
      exact Nat.lt_succ_self _
  · intro handler hmem
    rcases List.mem_append.mp hmem with hold | hnew
    · exact h.staged handler hold
    · rw [List.mem_singleton.mp hnew]
      trivial

/-- An order comes to its next stage before its requests are queued. -/
theorem Settling.progress (h : Settling config rt past s) {i : Nat} {p : PlacedOrder}
    {stage stage' : Stage} {next : Word 64} (hi : s.handlers[i]? = some (.placed p stage))
    (hprogress : Progress config rt s p stage stage' next) :
    Settling config rt (past ++ [(.advance i, .quiet)])
      { s.put i (.placed p stage') with nextSettlementId := next } := by
  have hold := h.staged _ (List.mem_of_getElem? hi)
  have hintents : p.intents.length = p.fills.length := List.length_map _
  cases hprogress with
  | skip =>
      exact h.put hi (.placed p .answering) (List.Sublist.refl _) (List.nil_sublist _) trivial
        trivial rfl rfl rfl (Later.refl _) (Nat.le_refl _) rfl
  | @allocate settlementConfig first _ hconfig halloc =>
      -- The ids handed out are those from the counter on.
      rcases ExchangeService.allocateSettlementIds_eq_ok halloc with ⟨hfirst, hnext⟩
      rcases flatMap_set_perm (f := Handler.reserved) hi with ⟨rest, hperm, hset⟩
      have hset := hset (.placed p (.bridging settlementConfig.bridge first [] none))
      have hold' : (s.handlers.flatMap Handler.reserved).Perm rest := hperm
      -- The ids of all tasks are those handed out now and those they had.
      have hall : ((queued past).map (fun r => r.args.settlementId.val)
          ++ (s.handlers.set i
            (.placed p (.bridging settlementConfig.bridge first [] none))).flatMap
              Handler.reserved).Perm
          (List.range' first.val p.fills.length
            ++ ((queued past).map (fun r => r.args.settlementId.val)
              ++ s.handlers.flatMap Handler.reserved)) :=
        (hset.append_left _).trans ((List.perm_append_comm_assoc _ _ _).trans
          ((hold'.symm.append_left _).append_left _))
      have hcalls : ((s.handlers.set i (.placed p (.bridging settlementConfig.bridge first []
          none))).flatMap Handler.unqueued).Sublist (s.handlers.flatMap Handler.unqueued) :=
        flatMap_set_sublist hi (List.Sublist.refl [p.call])
      -- All ids there were are below the counter, where the new ones start.
      refine h.other trivial rfl rfl (Later.refl _) ?_ ?_ ?_ ?_
        (fun orderId signedOrder hget => (h.registered orderId signedOrder hget).mono) ?_
      · refine hall.nodup_iff.mpr (List.nodup_append.mpr ⟨List.nodup_range', h.ids, ?_⟩)
        intro id hid id' hid' heq
        have hlt := h.below id' hid'
        rw [List.mem_range'_1, hfirst] at hid
        omega
      · intro id hid
        rcases List.mem_append.mp (hall.mem_iff.mp hid) with hnew | hold
        · rw [List.mem_range'_1, hfirst, ← hnext] at hnew
          exact hnew.2
        · have hlt := h.below id hold
          simp only
          omega
      · exact h.once.sublist (hcalls.append_left _)
      · exact fun call hmem => h.begun call ((hcalls.append_left _).subset hmem)
      · intro handler hmem
        rcases List.mem_or_eq_of_mem_set hmem with hmem | rfl
        · exact h.staged handler hmem
        · exact ⟨⟨settlementConfig, hconfig, rfl⟩, ⟨Nat.zero_le _, fun k r hk => absurd hk (by
            simp only [List.getElem?_nil, reduceCtorEq, not_false_eq_true])⟩,
            fun so hso => absurd hso (by simp only [reduceCtorEq, not_false_eq_true])⟩
  | @lookup bridge first made intent hintent =>
      refine h.put hi (.placed p (.bridging bridge first made
        (some (s.signedOrders.get? intent.makerOrderId)))) (List.Sublist.refl _)
        (List.Sublist.refl _) ⟨hold.1, hold.2.1, ?_⟩ trivial rfl rfl rfl (Later.refl _)
        (Nat.le_refl _) rfl
      intro signedOrder hso intent' hintent'
      rw [hintent, Option.some.injEq] at hintent'
      rw [Option.some.injEq] at hso
      rw [← hintent']
      exact h.registered _ _ hso
  | @make bridge first made intent maker request hintent hrequest =>
      refine h.put hi (.placed p (.bridging bridge first (made ++ [request]) none))
        (List.Sublist.refl _) (List.Sublist.refl _) ⟨hold.1, ?_, fun so hso => ?_⟩ trivial rfl rfl
        rfl (Later.refl _) (Nat.le_refl _) rfl
      swap
      · exact absurd hso (by simp only [reduceCtorEq, not_false_eq_true])
      rcases hold.1 with ⟨settlementConfig, hconfig, rfl⟩
      rcases ApplicationSettlementBridge.requestFromOrders_eq_ok.mp hrequest with
        ⟨id, m, t, buyer, seller, hid, hmaker, htaker, hbridged, hrequest⟩
      -- The maker's order was registered when it was looked up, the taker's is registered now.
      exact hold.2.1.snoc hintent ⟨settlementConfig, m, t, buyer, seller, id, hconfig,
        hold.2.2 m (congrArg some hmaker) intent hintent, h.registered _ _ htaker, hbridged, hid,
        hrequest⟩
  | @giveUp bridge first made maker =>
      exact h.put hi (.placed p .answering) (List.nil_sublist _) (List.nil_sublist _) trivial
        trivial rfl rfl rfl (Later.refl _) (Nat.le_refl _) rfl
  -- There is no intent left, so there are as many requests as fills.
  | @finish bridge first made maker hintent =>
      have hlen : made.length = p.fills.length := by
        rw [← hintents]
        exact Nat.le_antisymm hold.2.1.1 (List.getElem?_eq_none_iff.mp hintent)
      refine h.put hi (.placed p (.queueing made)) ?_ (List.Sublist.refl _) ⟨hlen, _, hold.2.1⟩
        trivial rfl rfl rfl (Later.refl _) (Nat.le_refl _) rfl
      change (made.map (fun r => r.args.settlementId.val)).Sublist
        (List.range' first.val p.fills.length)
      rw [hold.2.1.ids, hlen]

/-- What a task had is with the others now. -/
theorem flatMap_set_moved {α β : Type} {f : α → List β} {l : List α} {i : Nat} {a b : α}
    (h : l[i]? = some a) (hb : f b = []) (others : List β) :
    ((others ++ f a) ++ (l.set i b).flatMap f).Perm (others ++ l.flatMap f) := by
  rcases flatMap_set_perm (f := f) h with ⟨rest, hold, hnew⟩
  have hnew := hnew b
  rw [hb, List.nil_append] at hnew
  rw [List.append_assoc]
  exact ((hnew.append_left _).trans hold.symm).append_left _

/-- A task puts its requests into the queue. Its ids go from those taken to
    those queued, and its call to those with a batch, so neither appears twice. -/
theorem Settling.queue (h : Settling config rt past s)
    (hlinked : Linked config app journal past s moves) {i : Nat} {p : PlacedOrder}
    {requests : List SignedSettlementRequest}
    (hi : s.handlers[i]? = some (.placed p (.queueing requests))) :
    Settling config rt (past ++ [(.advance i, .queued p.call requests)])
      { s.put i (.placed p (.counting requests.length)) with
        queuedRequests := s.queuedRequests ++ requests } := by
  rcases h.staged _ (List.mem_of_getElem? hi) with ⟨hlen, first, hmade⟩
  rcases hlinked.links _ (List.mem_of_getElem? hi) with ⟨hcommand, hanswer, -⟩
  have hbatches : batches (past ++ [(.advance i, .queued p.call requests)])
      = batches past ++ [(p.call, requests)] := batches_snoc past _ _
  have hqueued : queued (past ++ [(.advance i, .queued p.call requests)])
      = queued past ++ requests := by
    rw [queued, queued, hbatches, List.flatMap_append, List.flatMap_singleton]
  have hsubmitted : submitted (past ++ [(.advance i, .queued p.call requests)])
      = submitted past := by
    rw [submitted_snoc, List.append_nil]
  -- The order is in the log of events.
  have hevent : .orderPlaced p.commandId p.order p.fills ∈ s.actor.state.app.events := by
    rw [hlinked.actor] at hanswer ⊢
    exact MarketActorHandle.answered_event hanswer hcommand (fun _ => rfl)
  -- The ids and the call change places.
  have hids := flatMap_set_moved (f := Handler.reserved)
    (b := .placed p (.counting requests.length)) hi rfl
    ((queued past).map (fun r => r.args.settlementId.val))
  have hcalls := flatMap_set_moved (f := Handler.unqueued)
    (b := .placed p (.counting requests.length)) hi rfl ((batches past).map Prod.fst)
  refine ⟨?_, ?_, ?_, ?_, ?_, fun orderId signedOrder hget =>
    (h.registered orderId signedOrder hget).mono, fun handler hmem => ?_, fun batch hmem => ?_⟩
  · rw [hqueued, hsubmitted, h.kept, List.append_assoc]
    rfl
  · rw [hqueued, List.map_append]
    exact hids.nodup_iff.mpr h.ids
  · rw [hqueued, List.map_append]
    exact fun id hmem => h.below id (hids.mem_iff.mp hmem)
  · rw [hbatches, List.map_append]
    exact hcalls.nodup_iff.mpr h.once
  · rw [hbatches, List.map_append]
    exact fun call hmem => h.begun call (hcalls.mem_iff.mp hmem)
  · rcases List.mem_or_eq_of_mem_set hmem with hold | rfl
    · exact (h.staged handler hold).mono
    · trivial
  · rw [hbatches] at hmem
    rcases List.mem_append.mp hmem with hold | hnew
    · exact (h.made batch hold).mono (Later.refl _) _
    · rw [List.mem_singleton.mp hnew]
      exact ⟨p, first, rfl, hanswer, hevent, hlen, hmade.mono⟩

/-- Requests go from the queue to the worker, or from the worker to the
    chain. -/
theorem Settling.moved (h : Settling config rt past s) {move : Move} {effect : Effect}
    (hbatches : batches (past ++ [(move, effect)]) = batches past)
    (hkept : submitted past ++ s.work.map SettlementWorkItem.request ++ s.queuedRequests
      = submitted (past ++ [(move, effect)]) ++ s'.work.map SettlementWorkItem.request
        ++ s'.queuedRequests)
    (hhandlers : s'.handlers = s.handlers) (hactor : s'.actor = s.actor)
    (hnext : s'.nextSettlementId = s.nextSettlementId)
    (hsigned : s'.signedOrders = s.signedOrders) :
    Settling config rt (past ++ [(move, effect)]) s' := by
  -- What was queued does not change, only where it is.
  have hqueued : queued (past ++ [(move, effect)]) = queued past := by
    rw [queued, queued, hbatches]
  refine ⟨?_, ?_, ?_, ?_, ?_, ?_, ?_, ?_⟩
  · rw [hqueued, h.kept, hkept]
  · rw [hqueued, hhandlers]
    exact h.ids
  · rw [hqueued, hhandlers, hnext]
    exact h.below
  · rw [hbatches, hhandlers]
    exact h.once
  · rw [hbatches, hhandlers, hactor]
    exact h.begun
  · rw [hsigned]
    exact fun orderId signedOrder hget => (h.registered orderId signedOrder hget).mono
  · rw [hhandlers]
    exact fun handler hmem => (h.staged handler hmem).mono
  · rw [hbatches, hactor]
    exact fun batch hmem => (h.made batch hmem).mono (Later.refl _) _

/-- Every step keeps what holds of settlements. -/
theorem steps_settling (h : Settling config rt past s)
    (hlinked : Linked config app journal past s moves) {move : Move} {effect : Effect}
    (hsteps : Steps config rt s move effect s') :
    Settling config rt (past ++ [(move, effect)]) s' := by
  have hsame : ∀ entry : Move × Effect, ∀ orderId signedOrder,
      s.signedOrders.get? orderId = some signedOrder →
      Registered config (past ++ [entry]) orderId signedOrder :=
    fun entry orderId signedOrder hget => (h.registered orderId signedOrder hget).mono
  cases hsteps with
  | idle _ => exact h.stay trivial rfl rfl rfl (Later.refl _) rfl (hsame _)
  | answer _ _ => exact h.stay trivial rfl rfl rfl (Later.refl _) rfl (hsame _)
  | refuse => exact h.stay trivial rfl rfl rfl (Later.refl _) rfl (hsame _)
  | @register header body orderId signedOrder hauth hbody =>
      refine h.stay trivial rfl rfl rfl (Later.refl _) rfl (fun orderId' signedOrder' hget => ?_)
      -- What is registered is the newest order under its id, or was before.
      by_cases hid : orderId' = orderId
      · rw [hid, SortedMap.get?_insert_self, Option.some.injEq] at hget
        rw [hid, ← hget]
        exact ⟨header, body, _, List.mem_append_right _ List.mem_cons_self, hauth, hbody⟩
      · rw [SortedMap.get?_insert_of_ne _ _ hid] at hget
        exact hsame _ orderId' signedOrder' hget
  | call _ _ => exact h.call _ _
  | send hi => exact h.stay trivial rfl rfl rfl (mailbox_later config s.actor _) rfl (hsame _)
  | disconnect hi =>
      exact h.put hi .done (List.nil_sublist _) (List.nil_sublist _) trivial trivial rfl rfl rfl
        (mailbox_later config s.actor _) (Nat.le_refl _) rfl
  | serve => exact h.stay trivial rfl rfl rfl (mailbox_later config s.actor _) rfl (hsame _)
  | fail hi =>
      exact h.put hi .done (List.nil_sublist _) (List.nil_sublist _) trivial trivial rfl rfl rfl
        (Later.refl _) (Nat.le_refl _) rfl
  | complete hi _ _ =>
      exact h.put hi .done (List.nil_sublist _) (List.nil_sublist _) trivial trivial rfl rfl rfl
        (Later.refl _) (Nat.le_refl _) rfl
  | place hi _ =>
      exact h.put hi (.placed ⟨_, _, _, _, _⟩ .allocating) (List.Sublist.refl _)
        (List.Sublist.refl _) trivial trivial rfl rfl rfl (Later.refl _) (Nat.le_refl _) rfl
  | unexpected hi hcall hnot hnot' =>
      rcases hlinked.expected hi hcall hnot with ⟨body, c, o, fills, rfl, rfl, rfl⟩
      exact absurd rfl (hnot' body c o fills rfl rfl)
  | settle hi hprogress => exact h.progress hi hprogress
  | queue hi => exact h.queue hlinked hi
  | @count _ n p hi =>
      exact h.put hi (.placed p .answering) (List.Sublist.refl _) (List.Sublist.refl _) trivial
        trivial rfl rfl rfl (Later.refl _) (Nat.le_refl _) rfl
  | respond hi =>
      exact h.put hi .done (List.nil_sublist _) (List.nil_sublist _) trivial trivial rfl rfl rfl
        (Later.refl _) (Nat.le_refl _) rfl
  | claim hidle =>
      refine h.moved (by rw [batches_snoc, List.append_nil]) ?_ rfl rfl rfl rfl
      rw [hidle, submitted_snoc, List.append_nil, List.map_map, List.map_nil, List.append_nil]
      change _ = submitted past ++ s.queuedRequests.map id
      rw [List.map_id]
  -- The first request the worker holds becomes the last one submitted.
  | @submit item rest result hwork =>
      refine h.moved (by rw [batches_snoc, List.append_nil]) ?_ rfl rfl rfl rfl
      rw [hwork, submitted_snoc, List.map_cons, List.append_assoc (submitted past) [item.request]]
      rfl

end Steps

/-- At boot nothing is queued, and no id has been handed out. -/
theorem boot_settling (config : Config) (rt : Runtime) (app : ExchangeApplication)
    (journal : List Event) : Settling config rt [] (.boot app journal) where
  kept := rfl
  ids := List.nodup_nil
  below _ h := absurd h List.not_mem_nil
  once := List.nodup_nil
  begun _ h := absurd h List.not_mem_nil
  registered _ _ h := absurd h (by
    simp only [ServiceState.boot, SortedMap.get?_empty, reduceCtorEq, not_false_eq_true])
  staged _ h := absurd h List.not_mem_nil
  made _ h := absurd h List.not_mem_nil

/-- What every run keeps of settlements. -/
theorem run_settling (config : Config) (rt : Runtime) (app : ExchangeApplication)
    (journal : List Event) (inputs : List Move) :
    Settling config rt
      (Run.log (ServiceState.step config rt) (ServiceState.boot app journal) inputs)
      (Run.after (ServiceState.step config rt) (ServiceState.boot app journal) inputs) := by
  refine (Run.invariant (ServiceState.step config rt)
    (P := fun past s => (∃ moves, Linked config app journal past s moves) ∧
      Settling config rt past s)
    ⟨⟨[], boot_linked config app journal⟩, boot_settling config rt app journal⟩
    (fun past s move h => ?_) inputs).2
  rcases h with ⟨⟨moves, hlinked⟩, h⟩
  have hsteps := ServiceState.step_steps config rt s move
  rcases steps_linked hlinked hsteps with ⟨more, hmore⟩
  exact ⟨⟨_, hmore⟩, steps_settling h hlinked hsteps⟩

/-- The requests of a batch are those for the fills of one order, and the event
    of this order is in the log with these fills. -/
theorem settlements_batches (config : Config) (rt : Runtime) (app : ExchangeApplication)
    (journal : List Event) (inputs : List Move) :
    let past := Run.log (ServiceState.step config rt) (ServiceState.boot app journal) inputs
    let s := Run.after (ServiceState.step config rt) (ServiceState.boot app journal) inputs
    ∀ call requests, (call, requests) ∈ batches past → ∃ commandId order fills first,
      s.actor.calls[call]? = some (.answered (.ok (.orderPlaced fills))) ∧
      .orderPlaced commandId order fills ∈ s.actor.state.app.events ∧
      requests.length = fills.length ∧
      ∀ k fill, fills[k]? = some fill → ∃ request, requests[k]? = some request ∧
        Settles config rt past (.fromFill order fill) (first + k) request := by
  intro past s call requests hmem
  rcases (run_settling config rt app journal inputs).made _ hmem with
    ⟨p, first, hcall, hanswer, hevent, hlen, hmade⟩
  refine ⟨p.commandId, p.order, p.fills, first, hanswer, hevent, hlen, fun k fill hfill => ?_⟩
  have hlt : k < requests.length := by
    rw [hlen]
    exact (List.getElem?_eq_some_iff.mp hfill).1
  have hrequest := List.getElem?_eq_getElem hlt
  rcases hmade.2 k _ hrequest with ⟨intent, hintent, hsettles⟩
  -- The intents are those of the fills, one for each and in their order.
  have hsame : p.intents[k]? = some (.fromFill p.order fill) := by
    rw [PlacedOrder.intents, SettlementBatch.fromOrderFills, List.getElem?_map, hfill]
    rfl
  rw [hsame, Option.some.injEq] at hintent
  rw [hintent]
  exact ⟨_, hrequest, hsettles⟩

/-- What becomes of the fills of orders in a service without an outbox,
    whatever the requests to it, their clients, the journal and the chain do.
    The requests put into the queue are, in their order, those submitted,
    those the worker holds and those in the queue: none is submitted twice and
    none is lost. They have different settlement ids. They came in batches,
    one at most for a call of the actor, and the requests of a batch are those
    for the fills of the order that its call has placed, one for each fill and
    in their order, with consecutive settlement ids. The event of the order is
    in the log, and each request is made of two orders that authorized clients
    have registered under the ids of the fill's maker and taker. -/
theorem settlements_accounted (config : Config) (rt : Runtime) (app : ExchangeApplication)
    (journal : List Event) (inputs : List Move) :
    let past := Run.log (ServiceState.step config rt) (ServiceState.boot app journal) inputs
    let s := Run.after (ServiceState.step config rt) (ServiceState.boot app journal) inputs
    queued past = submitted past ++ s.work.map SettlementWorkItem.request ++ s.queuedRequests ∧
    ((queued past).map (fun r => r.args.settlementId)).Nodup ∧
    ((batches past).map Prod.fst).Nodup ∧
    ∀ call requests, (call, requests) ∈ batches past → ∃ commandId order fills first,
      s.actor.calls[call]? = some (.answered (.ok (.orderPlaced fills))) ∧
      .orderPlaced commandId order fills ∈ s.actor.state.app.events ∧
      requests.length = fills.length ∧
      ∀ k fill, fills[k]? = some fill → ∃ request, requests[k]? = some request ∧
        Settles config rt past (.fromFill order fill) (first + k) request := by
  intro past s
  have h := run_settling config rt app journal inputs
  refine ⟨h.kept, ?_, (List.nodup_append.mp h.once).1,
    settlements_batches config rt app journal inputs⟩
  -- Ids that differ as numbers differ as words.
  have hnodup := (List.nodup_append.mp h.ids).1
  rw [← Function.comp_def Fin.val, ← List.map_map] at hnodup
  exact hnodup.of_map Fin.val

end Service

end SolanaLab
