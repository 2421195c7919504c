import SolanaLab.Relayer.Pipeline
import SolanaLab.Service.Api

/-!
# The Exchange Service without an Outbox

The service as it boots without a database: the HTTP handlers, the market
actor behind its mailbox, the registered orders, the queue of settlement
requests in memory and the worker that empties it.

Every request is handled by a task of its own. A task runs until it waits for
the actor, and from there step by step: it looks registered orders up one at a
time, and the queue and the counters are each behind a lock or an atomic of
their own. `step` is one such piece, so a list of moves is an interleaving of
all tasks, the actor and the worker. The client of a task may go away, and the
task is dropped where it waits for the actor, and nowhere else.

What a task does to the actor are moves of its mailbox, so what is known of
the actor behind its mailbox is known here. `Linked` keeps account of which
task waits for which call, and `run_linked` says that it always does. It
follows that the answers a handler gives up on as unexpected do not occur.

Three things make the pieces hard to follow, and each has a place of its own. A
task can be anywhere when another one moves, which is why a task carries with
it all it has found so far. A call can be given up, answered or lost, which the
mailbox keeps account of. And a handler has branches for replies that no actor
gives, which are in `Steps` too and only ruled out by `Linked.expected`.

## Main definitions

* `Config`: The fields of the service that stay as they are.
* `Handler`: How far the task of a request has come.
* `ServiceState`: The state of the service.
* `step`: One piece of a task, of the actor or of the worker.
* `Linked`: Tasks and calls belong together.

## Theorems

* `step_steps`: What a step can do, with the state it leads to.
* `Linked.expected`: The reply to a task is one for its request.
* `steps_linked`: Every step keeps tasks and calls together.
* `run_linked`: Tasks and calls belong together in every run.
-/

namespace SolanaLab

namespace Service

open Checked Exchange Relayer Settlement Mailbox

/-! ### The state -/

/-- `SettlementBridgeConfig`. -/
structure SettlementBridgeConfig where
  marketId : MarketId
  settlementAuthority : Pubkey
  baseMint : Pubkey
  quoteMint : Pubkey
  payer : Pubkey
deriving DecidableEq

/-- The bridge of a configuration. -/
def SettlementBridgeConfig.bridge (config : SettlementBridgeConfig) :
    ApplicationSettlementBridge :=
  ⟨config.marketId, config.settlementAuthority, config.baseMint, config.quoteMint, config.payer⟩

/-- The fields of `ServiceState` that stay as they are, and the size of the
    mailbox. Only the last is not read by a handler. -/
structure Config where
  marketId : String
  bootMode : ReadyBootMode
  journalMode : JournalMode
  market : MarketSpec
  apiKey : Option String
  settlementConfig : Option SettlementBridgeConfig
  mailboxCapacity : Nat

/-- An order that the actor has placed, with the call it was placed by. Two
    orders with one command id cannot both be placed, but two tasks may ask for
    it, so the call is what tells tasks apart. -/
structure PlacedOrder where
  call : Nat
  request : Request
  commandId : CommandId
  order : Order
  fills : List Fill
deriving DecidableEq

/-- The intents to be bridged. -/
def PlacedOrder.intents (p : PlacedOrder) : List SettlementIntent :=
  (SettlementBatch.fromOrderFills p.commandId p.order p.fills).intents

/-- How far `queue_settlement_requests` has come. -/
inductive Stage where
  | allocating
  /-- The requests made so far, and the lookup of the maker of the next one. -/
  | bridging (bridge : ApplicationSettlementBridge) (first : Word 64)
      (made : List SignedSettlementRequest) (maker : Option (Option SettlementSignedOrder))
  | queueing (requests : List SignedSettlementRequest)
  | counting (settlementCount : Nat)
  | answering
deriving DecidableEq

/-- The task of a request that did not end at once. Requests that need no actor
    are answered in the move in which they arrive. -/
inductive Handler where
  /-- It waits for the actor. -/
  | waiting (call : Nat) (request : Request) (command : MarketCommand)
  | placed (order : PlacedOrder) (stage : Stage)
  /-- It has answered, or was dropped. -/
  | done
deriving DecidableEq

/-- `SettlementWorkItem`, of a service without an outbox. The queue in memory
    gives every item one attempt, and a row of an outbox more. -/
structure SettlementWorkItem where
  attempts : Nat
  maxAttempts : Nat
  request : SignedSettlementRequest
deriving DecidableEq

/-- The actor behind its mailbox, with the calls made of it. -/
abbrev Actor := System MarketActor MarketCommand (Except ApplicationError MarketReply)

/-- The state that tasks share, and the tasks. What is behind a lock of its own
    in the source is a field of its own here, and no piece of a task touches two
    locks where the source releases the first before it takes the second. -/
structure ServiceState where
  actor : Actor
  signedOrders : SignedOrderStore
  queuedRequests : List SignedSettlementRequest
  nextSettlementId : Word 64
  metrics : ServiceMetrics
  handlers : List Handler
  /-- What the worker has claimed and not yet submitted. -/
  work : List SettlementWorkItem

/-- What a piece of a task or of the worker shows to the outside. -/
inductive Effect where
  | quiet
  | responded (request : Request) (response : Except ApiError Response)
  /-- A task has put the requests for the order of a call into the queue. -/
  | queued (call : Nat) (requests : List SignedSettlementRequest)
  | submitted (request : SignedSettlementRequest)
      (result : Except SubmissionError TransactionSignature)

/-- Whose turn it is. Any order of moves is possible, and a move of a task that
    cannot go on does nothing. -/
inductive Move where
  /-- A request arrives, with the api key it carries. -/
  | receive (header : Option String) (request : Request)
  /-- A task sends its command to the actor, if there is room. -/
  | send (handler : Nat)
  | advance (handler : Nat)
  /-- The client of a task goes away. -/
  | disconnect (handler : Nat)
  /-- The actor takes the next command. -/
  | serve (outcome : AppendOutcome)
  | claim
  /-- The worker submits the next request, and the chain answers. -/
  | submit (result : Except SubmissionError TransactionSignature)

/-! ### The counters -/

namespace ServiceMetrics

/-- `ServiceMetrics::default`. -/
def default : ServiceMetrics := ⟨0, 0, 0, 0, 0, 0, 0, 0, 0⟩

/-- `ServiceMetrics::record_http_request`. -/
def recordHttpRequest (m : ServiceMetrics) : ServiceMetrics :=
  { m with httpRequestsTotal := m.httpRequestsTotal + 1 }

/-- `ServiceMetrics::record_ready_check`. -/
def recordReadyCheck (m : ServiceMetrics) : ServiceMetrics :=
  { m with readyChecksTotal := m.readyChecksTotal + 1 }

/-- `ServiceMetrics::record_snapshot_request`. -/
def recordSnapshotRequest (m : ServiceMetrics) : ServiceMetrics :=
  { m with snapshotRequestsTotal := m.snapshotRequestsTotal + 1 }

/-- `ServiceMetrics::record_deposit_accepted`. -/
def recordDepositAccepted (m : ServiceMetrics) : ServiceMetrics :=
  { m with depositsAcceptedTotal := m.depositsAcceptedTotal + 1 }

/-- `ServiceMetrics::record_order_accepted`. -/
def recordOrderAccepted (m : ServiceMetrics) : ServiceMetrics :=
  { m with ordersAcceptedTotal := m.ordersAcceptedTotal + 1 }

/-- `ServiceMetrics::record_settlement_requests_queued`. -/
def recordSettlementRequestsQueued (m : ServiceMetrics) (count : Nat) : ServiceMetrics :=
  { m with
    settlementRequestsQueuedTotal := m.settlementRequestsQueuedTotal + Fin.ofNat (2 ^ 64) count }

/-- `ServiceMetrics::record_settlement_requests_submitted`, of one. -/
def recordSettlementRequestSubmitted (m : ServiceMetrics) : ServiceMetrics :=
  { m with settlementRequestsSubmittedTotal := m.settlementRequestsSubmittedTotal + 1 }

/-- `ServiceMetrics::record_settlement_requests_failed`, of one. -/
def recordSettlementRequestFailed (m : ServiceMetrics) : ServiceMetrics :=
  { m with settlementRequestsFailedTotal := m.settlementRequestsFailedTotal + 1 }

/-- `ServiceMetrics::record_api_error`. -/
def recordApiError (m : ServiceMetrics) : ServiceMetrics :=
  { m with apiErrorsTotal := m.apiErrorsTotal + 1 }

end ServiceMetrics

/-! ### The pieces of a task -/

/-- One move of the actor's mailbox. -/
def mailbox (config : Config) (actor : Actor) (move : Mailbox.Move MarketCommand AppendOutcome) :
    Actor :=
  (Mailbox.step MarketActorHandle.server config.mailboxCapacity actor move).2

namespace ServiceState

/-- The service after boot. The log and the journal are what was read, and
    nothing else is left of an earlier life. -/
def boot (app : ExchangeApplication) (journal : List Event) : ServiceState where
  actor := .start (MarketActor.spawnFromApp app journal)
  signedOrders := SortedMap.empty
  queuedRequests := []
  nextSettlementId := 0
  metrics := ServiceMetrics.default
  handlers := []
  work := []

/-- `record_api_error`, with the answer to the client. An error is counted once,
    by the handler that answers with it. -/
def reject (s : ServiceState) (request : Request) (error : ApiError) : Effect × ServiceState :=
  (.responded request (.error error), { s with metrics := s.metrics.recordApiError })

/-- A task that calls the actor. Its command is made here and waits with it
    until there is room in the mailbox. -/
def call (config : Config) (s : ServiceState) (request : Request) (command : MarketCommand) :
    Effect × ServiceState :=
  (.quiet, { s with
    actor := mailbox config s.actor (.invoke command)
    handlers := s.handlers ++ [.waiting s.actor.calls.length request command] })

/-- A task comes to its next piece. -/
def put (s : ServiceState) (i : Nat) (handler : Handler) : ServiceState :=
  { s with handlers := s.handlers.set i handler }

/-- A request arrives: `metrics_middleware` and its handler, up to where it
    answers or waits for the actor. -/
def receive (config : Config) (s : ServiceState) (header : Option String) (request : Request) :
    Effect × ServiceState :=
  let s := { s with metrics := s.metrics.recordHttpRequest }
  match request with
  | .health => (.responded request (.ok (.health "ok")), s)
  | .ready => { s with metrics := s.metrics.recordReadyCheck }.call config request .snapshot
  | .metrics =>
    (.responded request (.ok (.metrics
      (s.metrics.snapshot s.actor.state.metrics s.queuedRequests.length))), s)
  | .creditDeposit body =>
    -- The key comes before the body, so a client without it does not learn what is wrong
    -- there.
    match authorizeApiKey config.apiKey header >>= fun _ => depositFromRequest body with
    | .error error => s.reject request error
    | .ok command => s.call config request command
  | .placeOrder body =>
    match authorizeApiKey config.apiKey header >>= fun _ => orderFromRequest config.market body with
    | .error error => s.reject request error
    | .ok (commandId, order) => s.call config request (.placeOrder commandId order)
  -- A registration is answered at once. It goes to the store, not to the actor.
  | .registerSignedOrder body =>
    match authorizeApiKey config.apiKey header with
    | .error error => s.reject request error
    | .ok () =>
      match registerSignedOrder s.signedOrders body with
      | (.error error, _) => s.reject request (.fromRegistration error)
      | (.ok replaced, signedOrders) =>
        (.responded request (.ok (.signedOrder true replaced)), { s with signedOrders })
  | .pendingSettlements =>
    (.responded request (.ok (.pendingSettlements s.queuedRequests.length)), s)
  | .listSettlementOutbox =>
    match authorizeApiKey config.apiKey header with
    | .error error => s.reject request error
    | .ok () => (.responded request (.ok .settlementOutbox), s)
  | .snapshot marketId =>
    let s := { s with metrics := s.metrics.recordSnapshotRequest }
    -- The market of a snapshot is compared here, where that of an order is not.
    if marketId ≠ config.marketId then s.reject request .notFound
    else s.call config request .snapshot

/-- A task goes on with the answer of the actor. -/
def resume (config : Config) (s : ServiceState) (i call : Nat) (request : Request)
    (command : MarketCommand) : Except ApplicationError MarketReply → Effect × ServiceState
  | .error error => (s.put i .done).reject request (.fromApplication error)
  | .ok reply =>
    match request, command, reply with
    | .ready, _, .snapshot eventCount =>
      (.responded request (.ok (.ready "ready" config.marketId config.bootMode config.journalMode
        eventCount)), s.put i .done)
    | .snapshot marketId, _, .snapshot eventCount =>
      (.responded request (.ok (.snapshot marketId eventCount)), s.put i .done)
    | .creditDeposit _, _, .depositCredited =>
      (.responded request (.ok (.deposit true)),
        { s.put i .done with metrics := s.metrics.recordDepositAccepted })
    -- The order is counted when it is placed, and answered when its fills are in the
    -- queue.
    | .placeOrder _, .placeOrder commandId order, .orderPlaced fills =>
      (.quiet, { s.put i (.placed ⟨call, request, commandId, order, fills⟩ .allocating) with
        metrics := s.metrics.recordOrderAccepted })
    | .ready, _, _ => (s.put i .done).reject request (.internal "unexpected snapshot reply")
    | .snapshot _, _, _ => (s.put i .done).reject request (.internal "unexpected snapshot reply")
    -- These two are not counted as errors.
    | .creditDeposit _, _, _ =>
      (.responded request (.error (.internal "unexpected deposit reply")), s.put i .done)
    | _, _, _ =>
      (.responded request (.error (.internal "unexpected order reply")), s.put i .done)

/-- `queue_settlement_requests` in pieces, and the answer after it. Errors are
    logged and the order is answered all the same. -/
def settle (config : Config) (rt : Runtime) (s : ServiceState) (i : Nat) (p : PlacedOrder) :
    Stage → Effect × ServiceState
  | .allocating =>
    match config.settlementConfig with
    | none => (.quiet, s.put i (.placed p .answering))
    | some settlementConfig =>
      match allocateSettlementIds s.nextSettlementId p.fills.length with
      | (.ok (some first), nextSettlementId) =>
        (.quiet, { s.put i (.placed p (.bridging settlementConfig.bridge first [] none)) with
          nextSettlementId })
      -- No fills, or no ids left: there is nothing to queue.
      | (_, nextSettlementId) =>
        (.quiet, { s.put i (.placed p .answering) with nextSettlementId })
  | .bridging bridge first made maker =>
    match p.intents[made.length]? with
    | none => (.quiet, s.put i (.placed p (.queueing made)))
    | some intent =>
      match maker with
      | none =>
        (.quiet, s.put i (.placed p (.bridging bridge first made
          (some (s.signedOrders.get? intent.makerOrderId)))))
      | some maker =>
        -- The lock was released after the first lookup: the taker's order is
        -- looked up among what is registered by now.
        match bridge.requestFromOrders rt maker (s.signedOrders.get? intent.takerOrderId) first
            made.length intent with
        | .ok request =>
          (.quiet, s.put i (.placed p (.bridging bridge first (made ++ [request]) none)))
        | .error _ => (.quiet, s.put i (.placed p .answering))
  -- One lock for all requests of the order, so they are next to each other in the queue.
  | .queueing requests =>
    (.queued p.call requests, { s.put i (.placed p (.counting requests.length)) with
      queuedRequests := s.queuedRequests ++ requests })
  | .counting settlementCount =>
    (.quiet, { s.put i (.placed p .answering) with
      metrics := s.metrics.recordSettlementRequestsQueued settlementCount })
  | .answering =>
    (.responded p.request (.ok (.order true (p.fills.map FillResponse.ofFill))), s.put i .done)

/-- The next piece of a task. -/
def advance (config : Config) (rt : Runtime) (s : ServiceState) (i : Nat) :
    Effect × ServiceState :=
  match s.handlers[i]? with
  | some (.waiting call request command) =>
    match s.actor.calls[call]?.bind MarketActorHandle.reply with
    | none => (.quiet, s)
    | some reply => s.resume config i call request command reply
  | some (.placed p stage) => s.settle config rt i p stage
  | some .done => (.quiet, s)
  | none => (.quiet, s)

/-- The move of the mailbox that a waiting task makes, with what becomes of the
    task. -/
def act (config : Config) (s : ServiceState) (i : Nat)
    (move : Nat → Mailbox.Move MarketCommand AppendOutcome) (next : Handler → Handler) :
    Effect × ServiceState :=
  match s.handlers[i]? with
  | some (.waiting call request command) =>
    (.quiet, { s.put i (next (.waiting call request command)) with
      actor := mailbox config s.actor (move call) })
  | _ => (.quiet, s)

/-- The end of one submission in `spawn_settlement_worker`. -/
def report (s : ServiceState) (item : SettlementWorkItem) (rest : List SettlementWorkItem)
    (result : Except SubmissionError TransactionSignature) : Effect × ServiceState :=
  (.submitted item.request result, { s with
    work := rest
    metrics := match result with
      | .ok _ => s.metrics.recordSettlementRequestSubmitted
      | .error error =>
        -- An error worth another attempt is not a failure while there is one left.
        if error.isRetryable ∧ item.attempts < item.maxAttempts then s.metrics
        else s.metrics.recordSettlementRequestFailed })

/-- One piece of a task, of the actor or of the worker. -/
def step (config : Config) (rt : Runtime) (s : ServiceState) : Move → Effect × ServiceState
  | .receive header request => s.receive config header request
  | .send i => s.act config i .send id
  | .advance i => s.advance config rt i
  | .disconnect i => s.act config i .abandon (fun _ => .done)
  | .serve outcome => (.quiet, { s with actor := mailbox config s.actor (.serve outcome) })
  -- `claim_settlement_work`, which takes all there is for one attempt each.
  | .claim =>
    match s.work with
    | [] => (.quiet, { s with work := s.queuedRequests.map (⟨1, 1, ·⟩), queuedRequests := [] })
    | _ :: _ => (.quiet, s)
  | .submit result =>
    match s.work with
    | [] => (.quiet, s)
    | item :: rest => s.report item rest result

end ServiceState

/-! ### What a step can do -/

/-- A command is what a request asks of the actor. A request that asks nothing
    of it has no command. -/
def Asks (config : Config) : Request → MarketCommand → Prop
  | .ready, command => command = .snapshot
  | .snapshot marketId, command => command = .snapshot ∧ marketId = config.marketId
  | .creditDeposit body, command => depositFromRequest body = .ok command
  | .placeOrder body, command =>
    ∃ c o, orderFromRequest config.market body = .ok (c, o) ∧ command = .placeOrder c o
  | _, _ => False

/-- The counters after a request has arrived. -/
def ServiceMetrics.arrive (m : ServiceMetrics) : Request → ServiceMetrics
  | .ready => m.recordHttpRequest.recordReadyCheck
  | .snapshot _ => m.recordHttpRequest.recordSnapshotRequest
  | _ => m.recordHttpRequest

/-- The answer to a request that is not an order, for a reply of the actor.
    There is none for a reply of another kind. -/
def answerTo (config : Config) : Request → MarketReply → Option Response
  | .ready, .snapshot eventCount =>
    some (.ready "ready" config.marketId config.bootMode config.journalMode eventCount)
  | .snapshot marketId, .snapshot eventCount => some (.snapshot marketId eventCount)
  | .creditDeposit _, .depositCredited => some (.deposit true)
  | _, _ => none

/-- The counters after an answer. -/
def ServiceMetrics.complete (m : ServiceMetrics) : Response → ServiceMetrics
  | .deposit _ => m.recordDepositAccepted
  | _ => m

/-- The stages an order goes through before its requests are queued. -/
inductive Progress (config : Config) (rt : Runtime) (s : ServiceState) (p : PlacedOrder) :
    Stage → Stage → Word 64 → Prop
  /-- There is nothing to settle, or there are no ids left. -/
  | skip : Progress config rt s p .allocating .answering s.nextSettlementId
  | allocate {settlementConfig : SettlementBridgeConfig} {first next : Word 64}
      (hconfig : config.settlementConfig = some settlementConfig)
      (halloc : allocateSettlementIds s.nextSettlementId p.fills.length
        = (.ok (some first), next)) :
      Progress config rt s p .allocating (.bridging settlementConfig.bridge first [] none) next
  | lookup {bridge : ApplicationSettlementBridge} {first : Word 64}
      {made : List SignedSettlementRequest} {intent : SettlementIntent}
      (hintent : p.intents[made.length]? = some intent) :
      Progress config rt s p (.bridging bridge first made none)
        (.bridging bridge first made (some (s.signedOrders.get? intent.makerOrderId)))
        s.nextSettlementId
  | make {bridge : ApplicationSettlementBridge} {first : Word 64}
      {made : List SignedSettlementRequest} {intent : SettlementIntent}
      {maker : Option SettlementSignedOrder} {request : SignedSettlementRequest}
      (hintent : p.intents[made.length]? = some intent)
      (hrequest : bridge.requestFromOrders rt maker
        (s.signedOrders.get? intent.takerOrderId) first made.length intent = .ok request) :
      Progress config rt s p (.bridging bridge first made (some maker))
        (.bridging bridge first (made ++ [request]) none) s.nextSettlementId
  | giveUp {bridge : ApplicationSettlementBridge} {first : Word 64}
      {made : List SignedSettlementRequest} {maker : Option (Option SettlementSignedOrder)} :
      Progress config rt s p (.bridging bridge first made maker) .answering s.nextSettlementId
  | finish {bridge : ApplicationSettlementBridge} {first : Word 64}
      {made : List SignedSettlementRequest} {maker : Option (Option SettlementSignedOrder)}
      (hintent : p.intents[made.length]? = none) :
      Progress config rt s p (.bridging bridge first made maker) (.queueing made)
        s.nextSettlementId

/-- The answers that change nothing and need no actor. -/
def ServiceState.Immediate (s : ServiceState) : Request → Response → Prop
  | .health, response => response = .health "ok"
  | .metrics, response => response = .metrics ((s.metrics.arrive .metrics).snapshot
      s.actor.state.metrics s.queuedRequests.length)
  | .pendingSettlements, response => response = .pendingSettlements s.queuedRequests.length
  | .listSettlementOutbox, response => response = .settlementOutbox
  | _, _ => False

/-- What a step can do, with the state it leads to. The proofs about runs go
    through its cases and never through the handlers: a case says which fields
    it changes, and the state it leads to is written as an update of these. -/
inductive Steps (config : Config) (rt : Runtime) (s : ServiceState) :
    Move → Effect → ServiceState → Prop
  | idle {move : Move} (h : ∀ header request, move ≠ .receive header request) :
      Steps config rt s move .quiet s
  | answer {header : Option String} {request : Request} {response : Response}
      (h : s.Immediate request response)
      (hauth : request = .listSettlementOutbox → authorizeApiKey config.apiKey header = .ok ()) :
      Steps config rt s (.receive header request) (.responded request (.ok response))
        { s with metrics := s.metrics.arrive request }
  | refuse {header : Option String} {request : Request} {error : ApiError} :
      Steps config rt s (.receive header request) (.responded request (.error error))
        { s with metrics := (s.metrics.arrive request).recordApiError }
  | register {header : Option String} {body : SignedOrderRequest} {orderId : OrderId}
      {signedOrder : SettlementSignedOrder}
      (hauth : authorizeApiKey config.apiKey header = .ok ())
      (hbody : signedOrderFromRequest body = .ok (orderId, signedOrder)) :
      Steps config rt s (.receive header (.registerSignedOrder body))
        (.responded (.registerSignedOrder body)
          (.ok (.signedOrder true (s.signedOrders.get? orderId).isSome)))
        { s with
          metrics := s.metrics.recordHttpRequest
          signedOrders := s.signedOrders.insert orderId signedOrder }
  | call {header : Option String} {request : Request} {command : MarketCommand}
      (hasks : Asks config request command)
      (hauth : command.Changes → authorizeApiKey config.apiKey header = .ok ()) :
      Steps config rt s (.receive header request) .quiet { s with
        metrics := s.metrics.arrive request
        actor := mailbox config s.actor (.invoke command)
        handlers := s.handlers ++ [.waiting s.actor.calls.length request command] }
  | send {i call : Nat} {request : Request} {command : MarketCommand}
      (hi : s.handlers[i]? = some (.waiting call request command)) :
      Steps config rt s (.send i) .quiet { s with actor := mailbox config s.actor (.send call) }
  | disconnect {i call : Nat} {request : Request} {command : MarketCommand}
      (hi : s.handlers[i]? = some (.waiting call request command)) :
      Steps config rt s (.disconnect i) .quiet { s.put i .done with
        actor := mailbox config s.actor (.abandon call) }
  | serve {outcome : AppendOutcome} :
      Steps config rt s (.serve outcome) .quiet
        { s with actor := mailbox config s.actor (.serve outcome) }
  | fail {i call : Nat} {request : Request} {command : MarketCommand} {error : ApplicationError}
      (hi : s.handlers[i]? = some (.waiting call request command)) :
      Steps config rt s (.advance i) (.responded request (.error (.fromApplication error)))
        { s.put i .done with metrics := s.metrics.recordApiError }
  | complete {i call : Nat} {request : Request} {command : MarketCommand} {reply : MarketReply}
      {response : Response}
      (hi : s.handlers[i]? = some (.waiting call request command))
      (hcall : s.actor.calls[call]? = some (.answered (.ok reply)))
      (hresponse : answerTo config request reply = some response) :
      Steps config rt s (.advance i) (.responded request (.ok response))
        { s.put i .done with metrics := s.metrics.complete response }
  | place {i call : Nat} {body : OrderRequest} {commandId : CommandId} {order : Order}
      {fills : List Fill}
      (hi : s.handlers[i]? = some (.waiting call (.placeOrder body)
        (.placeOrder commandId order)))
      (hcall : s.actor.calls[call]? = some (.answered (.ok (.orderPlaced fills)))) :
      Steps config rt s (.advance i) .quiet
        { s.put i (.placed ⟨call, .placeOrder body, commandId, order, fills⟩ .allocating) with
          metrics := s.metrics.recordOrderAccepted }
  /-- The reply is not one for the request. -/
  | unexpected {i call : Nat} {request : Request} {command : MarketCommand} {reply : MarketReply}
      {effect : Effect} {s' : ServiceState}
      (hi : s.handlers[i]? = some (.waiting call request command))
      (hcall : s.actor.calls[call]? = some (.answered (.ok reply)))
      (hnot : answerTo config request reply = none)
      (hnot' : ∀ body c o fills, request = .placeOrder body → command = .placeOrder c o →
        reply ≠ .orderPlaced fills) :
      Steps config rt s (.advance i) effect s'
  | settle {i : Nat} {p : PlacedOrder} {stage stage' : Stage} {next : Word 64}
      (hi : s.handlers[i]? = some (.placed p stage))
      (hprogress : Progress config rt s p stage stage' next) :
      Steps config rt s (.advance i) .quiet
        { s.put i (.placed p stage') with nextSettlementId := next }
  | queue {i : Nat} {p : PlacedOrder} {requests : List SignedSettlementRequest}
      (hi : s.handlers[i]? = some (.placed p (.queueing requests))) :
      Steps config rt s (.advance i) (.queued p.call requests)
        { s.put i (.placed p (.counting requests.length)) with
          queuedRequests := s.queuedRequests ++ requests }
  | count {i n : Nat} {p : PlacedOrder}
      (hi : s.handlers[i]? = some (.placed p (.counting n))) :
      Steps config rt s (.advance i) .quiet
        { s.put i (.placed p .answering) with
          metrics := s.metrics.recordSettlementRequestsQueued n }
  | respond {i : Nat} {p : PlacedOrder}
      (hi : s.handlers[i]? = some (.placed p .answering)) :
      Steps config rt s (.advance i)
        (.responded p.request (.ok (.order true (p.fills.map FillResponse.ofFill))))
        (s.put i .done)
  | claim (hidle : s.work = []) :
      Steps config rt s .claim .quiet
        { s with work := s.queuedRequests.map (⟨1, 1, ·⟩), queuedRequests := [] }
  | submit {item : SettlementWorkItem} {rest : List SettlementWorkItem}
      {result : Except SubmissionError TransactionSignature} (hwork : s.work = item :: rest) :
      Steps config rt s (.submit result) (.submitted item.request result)
        (s.report item rest result).2

namespace ServiceState

variable {config : Config} {rt : Runtime} {s : ServiceState}

/-- What `reply` reads off a call. -/
theorem reply_eq_some {actor : Actor} {call : Nat} {answer : Except ApplicationError MarketReply}
    (h : actor.calls[call]?.bind MarketActorHandle.reply = some answer) :
    actor.calls[call]? = some (.answered answer) ∨ answer = .error .actorClosed := by
  rcases Option.bind_eq_some_iff.mp h with ⟨c, hc, hreply⟩
  cases c with
  | answered a =>
      rw [MarketActorHandle.reply, Option.some.injEq] at hreply
      rw [hc, hreply]
      exact Or.inl rfl
  | closed =>
      rw [MarketActorHandle.reply, Option.some.injEq] at hreply
      exact Or.inr hreply.symm
  | sending command => exact absurd hreply (by
      simp only [MarketActorHandle.reply, reduceCtorEq, not_false_eq_true])
  | waiting => exact absurd hreply (by
      simp only [MarketActorHandle.reply, reduceCtorEq, not_false_eq_true])
  | abandoned => exact absurd hreply (by
      simp only [MarketActorHandle.reply, reduceCtorEq, not_false_eq_true])

/-- Writing what is there already changes nothing. -/
theorem set_self {α : Type} {l : List α} {i : Nat} {a : α} (h : l[i]? = some a) :
    l.set i a = l := by
  rcases List.getElem?_eq_some_iff.mp h with ⟨hlt, rfl⟩
  exact List.set_getElem_self hlt

/-- A request that arrives is answered, turned away, registered or passed on. -/
theorem receive_steps (header : Option String) (request : Request) :
    Steps config rt s (.receive header request) (s.receive config header request).1
      (s.receive config header request).2 := by
  cases request with
  | health => exact .answer rfl (by simp)
  | ready => exact .call rfl (fun h => absurd h id)
  | metrics => exact .answer rfl (by simp)
  | pendingSettlements => exact .answer rfl (by simp)
  -- A body with the key and without a zero is a command, and anything else is turned
  -- away.
  | creditDeposit body =>
      unfold receive
      cases hcommand : authorizeApiKey config.apiKey header >>= fun _ =>
          depositFromRequest body with
      | error error =>
          simp only [hcommand]
          exact .refuse
      | ok command =>
          simp only [hcommand]
          rcases bind_eq_ok.mp hcommand with ⟨⟨⟩, hauth, hdeposit⟩
          exact .call hdeposit (fun _ => hauth)
  | placeOrder body =>
      unfold receive
      cases hcommand : authorizeApiKey config.apiKey header >>= fun _ =>
          orderFromRequest config.market body with
      | error error =>
          simp only [hcommand]
          exact .refuse
      | ok command =>
          rcases command with ⟨c, o⟩
          simp only [hcommand]
          rcases bind_eq_ok.mp hcommand with ⟨⟨⟩, hauth, horder⟩
          exact .call ⟨c, o, horder, rfl⟩ (fun _ => hauth)
  | registerSignedOrder body =>
      unfold receive
      cases hauth : authorizeApiKey config.apiKey header with
      | error error =>
          simp only
          exact .refuse
      | ok u =>
          cases hbody : signedOrderFromRequest body with
          | error error =>
              simp only [registerSignedOrder, hbody]
              exact .refuse
          | ok found =>
              simp only [registerSignedOrder, hbody]
              exact .register hauth hbody
  | listSettlementOutbox =>
      unfold receive
      cases hauth : authorizeApiKey config.apiKey header with
      | error error =>
          simp only
          exact .refuse
      | ok u =>
          simp only
          exact .answer rfl (fun _ => hauth)
  -- No key is asked for where nothing is changed.
  | snapshot marketId =>
      unfold receive
      by_cases hmarket : marketId = config.marketId
      · simp only [hmarket, ne_eq, not_true_eq_false, if_false]
        exact .call ⟨rfl, rfl⟩ (fun h => absurd h id)
      · simp only [ne_eq, hmarket, not_false_eq_true, if_true]
        exact .refuse

/-- A placed order comes to its next stage, is queued, counted or answered. -/
theorem settle_steps {i : Nat} {p : PlacedOrder} {stage : Stage}
    (hi : s.handlers[i]? = some (.placed p stage)) :
    Steps config rt s (.advance i) (s.settle config rt i p stage).1
      (s.settle config rt i p stage).2 := by
  cases stage with
  | allocating =>
      unfold settle
      cases hconfig : config.settlementConfig with
      | none => exact .settle hi .skip
      | some settlementConfig =>
          -- A refusal leaves the counter as it is.
          have hcases := allocateSettlementIds_cases s.nextSettlementId p.fills.length
          rcases hcases with ⟨-, halloc⟩ | ⟨-, e, halloc⟩ | ⟨-, hroom, halloc⟩ <;>
            simp only [halloc]
          · exact .settle hi .skip
          · exact .settle hi .skip
          · exact .settle hi (.allocate hconfig halloc)
  -- The two lookups of a fill are steps of their own.
  | bridging bridge first made maker =>
      cases hintent : p.intents[made.length]? with
      | none =>
          simp only [settle, hintent]
          exact .settle hi (.finish hintent)
      | some intent =>
          cases maker with
          | none =>
              simp only [settle, hintent]
              exact .settle hi (.lookup hintent)
          | some maker =>
              cases hrequest : bridge.requestFromOrders rt maker
                  (s.signedOrders.get? intent.takerOrderId) first made.length intent with
              | error error =>
                  simp only [settle, hintent, hrequest]
                  exact .settle hi .giveUp
              | ok request =>
                  simp only [settle, hintent, hrequest]
                  exact .settle hi (.make hintent hrequest)
  | queueing requests => exact .queue hi
  | counting n => exact .count hi
  | answering => exact .respond hi

/-- A task that has its reply answers it, goes on to settle, or does not know
    it. -/
theorem resume_steps {i call : Nat} {request : Request} {command : MarketCommand}
    (hi : s.handlers[i]? = some (.waiting call request command))
    {reply : Except ApplicationError MarketReply}
    (hreply : s.actor.calls[call]?.bind MarketActorHandle.reply = some reply) :
    Steps config rt s (.advance i) (s.resume config i call request command reply).1
      (s.resume config i call request command reply).2 := by
  cases reply with
  | error error => exact .fail hi
  | ok reply =>
      have hcall : s.actor.calls[call]? = some (.answered (.ok reply)) := by
        rcases reply_eq_some hreply with hcall | hclosed
        · exact hcall
        · exact absurd hclosed (by simp only [reduceCtorEq, not_false_eq_true])
      cases hanswer : answerTo config request reply with
      | some response =>
          -- The request is a snapshot of one kind or a deposit.
          unfold answerTo at hanswer
          split at hanswer <;> simp only [Option.some.injEq, reduceCtorEq] at hanswer
          · exact .complete hi hcall rfl
          · exact .complete hi hcall rfl
          · exact .complete hi hcall rfl
      | none =>
          by_cases horder : ∃ body c o fills, request = .placeOrder body ∧
              command = .placeOrder c o ∧ reply = .orderPlaced fills
          · rcases horder with ⟨body, c, o, fills, rfl, rfl, rfl⟩
            exact .place hi hcall
          · exact .unexpected hi hcall hanswer
              (fun body c o fills hr hc he => horder ⟨body, c, o, fills, hr, hc, he⟩)

/-- What a step can do. The moves that a task makes by itself are those of
    `resume_steps` and `settle_steps`, and an entry that is not there does
    nothing. -/
theorem step_steps (config : Config) (rt : Runtime) (s : ServiceState) (move : Move) :
    Steps config rt s move (s.step config rt move).1 (s.step config rt move).2 := by
  have hidle : ∀ {move : Move}, (∀ header request, move ≠ .receive header request) →
      Steps config rt s move .quiet s := fun h => .idle h
  cases move with
  | receive header request => exact receive_steps header request
  -- A task that sends is where it was. Only the mailbox knows that its command is in.
  | send i =>
      rw [step, act]
      split
      · rename_i call request command hi
        have hput : s.put i (.waiting call request command) = s := by
          rw [put, set_self hi]
        simp only [id_eq, hput]
        exact .send hi
      · exact hidle (by simp)
  | advance i =>
      rw [step, advance]
      split
      · rename_i call request command hi
        cases hreply : s.actor.calls[call]?.bind MarketActorHandle.reply with
        | none => exact hidle (by simp)
        | some reply => exact resume_steps hi hreply
      · rename_i p stage hi
        exact settle_steps hi
      · exact hidle (by simp)
      · exact hidle (by simp)
  | disconnect i =>
      rw [step, act]
      split
      · rename_i call request command hi
        exact .disconnect hi
      · exact hidle (by simp)
  | serve outcome => exact .serve
  -- The worker claims when it has nothing left to submit.
  | claim =>
      rw [step]
      cases hwork : s.work with
      | nil => exact .claim hwork
      | cons item rest => exact hidle (by simp)
  | submit result =>
      rw [step]
      cases hwork : s.work with
      | nil => exact hidle (by simp)
      | cons item rest => exact .submit hwork

end ServiceState

/-! ### Tasks and calls -/

/-- The calls that the task of a request has made. A task that has ended has
    made one too, but nothing asks for it any more. -/
def Handler.calls : Handler → List Nat
  | .waiting call _ _ => [call]
  | .placed p _ => [p.call]
  | .done => []

/-- What the mailbox says of the call of a task. A task that waits has called
    with its command, which is what its request asks for. When its order is
    placed, the call has moreover been answered, with the fills the task goes on
    with. -/
def Handler.Link (config : Config) (commands : List MarketCommand)
    (calls : List (Call MarketCommand (Except ApplicationError MarketReply))) : Handler → Prop
  | .waiting call request command =>
    commands[call]? = some command ∧ Asks config request command
  | .placed p _ =>
    commands[p.call]? = some (.placeOrder p.commandId p.order) ∧
    calls[p.call]? = some (.answered (.ok (.orderPlaced p.fills))) ∧
    Asks config p.request (.placeOrder p.commandId p.order)
  | .done => True

/-- The moves that the mailbox has seen. -/
abbrev history (config : Config) (app : ExchangeApplication) (journal : List Event)
    (moves : List (Mailbox.Move MarketCommand AppendOutcome)) :=
  Run.log (Mailbox.step MarketActorHandle.server config.mailboxCapacity)
    (.start (MarketActor.spawnFromApp app journal)) moves

/-- Tasks and calls belong together. The actor is where the moves of its
    mailbox lead, every task has a call of its own, and every command was
    asked for by a request that was let in. -/
structure Linked (config : Config) (app : ExchangeApplication) (journal : List Event)
    (past : List (Move × Effect)) (s : ServiceState)
    (moves : List (Mailbox.Move MarketCommand AppendOutcome)) : Prop where
  actor : s.actor = Run.after (Mailbox.step MarketActorHandle.server config.mailboxCapacity)
    (.start (MarketActor.spawnFromApp app journal)) moves
  links : ∀ h ∈ s.handlers, h.Link config (invoked (history config app journal moves))
    s.actor.calls
  own : (s.handlers.flatMap Handler.calls).Nodup
  begun : ∀ call ∈ s.handlers.flatMap Handler.calls, call < s.actor.calls.length
  asked : ∀ command ∈ invoked (history config app journal moves), ∃ header request,
    (Move.receive header request, Effect.quiet) ∈ past ∧ Asks config request command ∧
    (command.Changes → authorizeApiKey config.apiKey header = .ok ())

variable {config : Config} {rt : Runtime} {app : ExchangeApplication} {journal : List Event}
  {past : List (Move × Effect)} {s : ServiceState}
  {moves : List (Mailbox.Move MarketCommand AppendOutcome)}

/-- A part of what one entry stands for leaves a part of what all stand for. -/
theorem flatMap_set_sublist {α β : Type} {f : α → List β} {l : List α} {i : Nat} {a a' : α}
    (h : l[i]? = some a) (hsub : (f a').Sublist (f a)) :
    ((l.set i a').flatMap f).Sublist (l.flatMap f) := by
  induction l generalizing i with
  | nil => exact absurd h (by simp only [List.getElem?_nil, reduceCtorEq, not_false_eq_true])
  | cons b rest ih =>
      cases i with
      | zero =>
          rw [List.getElem?_cons_zero, Option.some.injEq] at h
          rw [List.set_cons_zero, List.flatMap_cons, List.flatMap_cons, h]
          exact hsub.append_right _
      | succ i =>
          rw [List.set_cons_succ, List.flatMap_cons, List.flatMap_cons]
          exact (ih h).append_left _

/-- What is known of a task stays true. -/
theorem Handler.Link.mono {commands more : List MarketCommand}
    {calls calls' : List (Call MarketCommand (Except ApplicationError MarketReply))} {h : Handler}
    (hlink : h.Link config commands calls)
    (hcalls : ∀ (i : Nat) (answer : Except ApplicationError MarketReply),
      calls[i]? = some (.answered answer) → calls'[i]? = some (.answered answer)) :
    h.Link config (commands ++ more) calls' := by
  have hgrow : ∀ {i : Nat} {c : MarketCommand}, commands[i]? = some c →
      (commands ++ more)[i]? = some c := fun hi => by
    rw [List.getElem?_append_left (List.getElem?_eq_some_iff.mp hi).1]
    exact hi
  cases h with
  | waiting call request command => exact ⟨hgrow hlink.1, hlink.2⟩
  | placed p stage => exact ⟨hgrow hlink.1, hcalls _ _ hlink.2.1, hlink.2.2⟩
  | done => trivial

/-- The log goes on, and nothing else changes. -/
theorem Linked.later (h : Linked config app journal past s moves) (entry : Move × Effect)
    {s' : ServiceState} (hactor : s'.actor = s.actor) (hhandlers : s'.handlers = s.handlers) :
    Linked config app journal (past ++ [entry]) s' moves := by
  refine ⟨hactor.trans h.actor, ?_, ?_, ?_, fun command hc => ?_⟩
  · rw [hhandlers, hactor]
    exact h.links
  · rw [hhandlers]
    exact h.own
  · rw [hhandlers, hactor]
    exact h.begun
  · rcases h.asked command hc with ⟨header, request, hmem, hasks⟩
    exact ⟨header, request, List.mem_append_left _ hmem, hasks⟩

/-- The mailbox makes a move that is no new call. -/
theorem Linked.mailbox (h : Linked config app journal past s moves)
    (move : Mailbox.Move MarketCommand AppendOutcome) (hmove : ∀ command, move ≠ .invoke command) :
    Linked config app journal past { s with actor := Service.mailbox config s.actor move }
      (moves ++ [move]) := by
  -- Neither the commands called for nor the tasks change, so each link stays what it was.
  have hinvoked : invoked (history config app journal (moves ++ [move]))
      = invoked (history config app journal moves) ++ [] := by
    rw [history, Run.log_snoc, invoked_snoc]
    congr 1
    cases move with
    | invoke command => exact absurd rfl (hmove command)
    | send call => rfl
    | abandon call => rfl
    | serve outcome => rfl
  -- A move that is no call leaves their number as it is.
  have hlen : (Service.mailbox config s.actor move).calls.length = s.actor.calls.length := by
    have hold := run_kept MarketActorHandle.server config.mailboxCapacity
      (MarketActor.spawnFromApp app journal) moves
    have hnew := run_kept MarketActorHandle.server config.mailboxCapacity
      (MarketActor.spawnFromApp app journal) (moves ++ [move])
    have hcount := hnew.count
    rw [Run.after_snoc, ← h.actor] at hcount
    change (Service.mailbox config s.actor move).calls.length = _ at hcount
    have hinvoked' := congrArg List.length hinvoked
    rw [List.append_nil] at hinvoked'
    rw [hcount, h.actor, hold.count]
    exact hinvoked'
  refine ⟨?_, ?_, h.own, ?_, ?_⟩
  · rw [Run.after_snoc, ← h.actor]
    rfl
  · intro handler hmem
    rw [hinvoked]
    exact Handler.Link.mono (h.links handler hmem) (fun i answer hi => answered_step hi move)
  · simp only [hlen]
    exact h.begun
  · rw [hinvoked, List.append_nil]
    exact h.asked

/-- A task comes to its next piece, with the call it has or without one. -/
theorem Linked.put (h : Linked config app journal past s moves) {i : Nat} {old : Handler}
    (hi : s.handlers[i]? = some old) (new : Handler)
    (hlink : new.Link config (invoked (history config app journal moves)) s.actor.calls)
    (hcalls : new.calls.Sublist old.calls) :
    Linked config app journal past (s.put i new) moves := by
  have hsub := flatMap_set_sublist (f := Handler.calls) hi hcalls
  refine ⟨h.actor, fun handler hmem => ?_, h.own.sublist hsub, fun call hmem => ?_, h.asked⟩
  · rcases List.mem_or_eq_of_mem_set hmem with hold | rfl
    · exact h.links handler hold
    · exact hlink
  · exact h.begun call (hsub.subset hmem)

/-- An order that was placed comes to its next stage. -/
theorem Linked.stage (h : Linked config app journal past s moves) {i : Nat} {p : PlacedOrder}
    {old : Stage} (hi : s.handlers[i]? = some (.placed p old)) (new : Stage) :
    Linked config app journal past (s.put i (.placed p new)) moves := by
  have hlink := h.links _ (List.mem_of_getElem? hi)
  exact h.put hi _ hlink (List.Sublist.refl _)

/-- A new task calls the actor. -/
theorem Linked.call (h : Linked config app journal past s moves) {header : Option String}
    {request : Request} {command : MarketCommand} (hasks : Asks config request command)
    (hauth : command.Changes → authorizeApiKey config.apiKey header = .ok ())
    (metrics : ServiceMetrics) :
    Linked config app journal (past ++ [(.receive header request, .quiet)]) { s with
      metrics
      actor := Service.mailbox config s.actor (.invoke command)
      handlers := s.handlers ++ [.waiting s.actor.calls.length request command] }
      (moves ++ [.invoke command]) := by
  -- Commands and calls are numbered alike, so the new command is the one of the new call.
  have hcount := (run_kept MarketActorHandle.server config.mailboxCapacity
    (MarketActor.spawnFromApp app journal) moves).count
  rw [← h.actor] at hcount
  have hinvoked : invoked (history config app journal (moves ++ [.invoke command]))
      = invoked (history config app journal moves) ++ [command] := by
    rw [history, Run.log_snoc, invoked_snoc]
  have hlen : (Service.mailbox config s.actor (.invoke command)).calls.length
      = s.actor.calls.length + 1 := by
    rw [Service.mailbox, Mailbox.step, List.length_append]
    rfl
  refine ⟨?_, ?_, ?_, ?_, ?_⟩
  · rw [Run.after_snoc, ← h.actor]
    rfl
  · intro handler hmem
    rw [hinvoked]
    rcases List.mem_append.mp hmem with hold | hnew
    · exact Handler.Link.mono (h.links handler hold) (fun i answer hi => answered_step hi _)
    · rw [List.mem_singleton.mp hnew]
      refine ⟨?_, hasks⟩
      rw [hcount]
      exact List.getElem?_concat_length
  · rw [List.flatMap_append, List.nodup_append]
    refine ⟨h.own, List.nodup_singleton _, ?_⟩
    -- The new call is the next one.
    intro call hmem call' hmem' heq
    have hlt := h.begun call hmem
    have hnew : call' = s.actor.calls.length := List.mem_singleton.mp hmem'
    omega
  · intro call hmem
    rw [hlen]
    rw [List.flatMap_append] at hmem
    rcases List.mem_append.mp hmem with hold | hnew
    · exact (h.begun call hold).trans (Nat.lt_succ_self _)
    · have hcall : call = s.actor.calls.length := List.mem_singleton.mp hnew
      omega
  · intro c hc
    rw [hinvoked] at hc
    rcases List.mem_append.mp hc with hold | hnew
    · rcases h.asked c hold with ⟨header', request', hmem, hasked⟩
      exact ⟨header', request', List.mem_append_left _ hmem, hasked⟩
    · rw [List.mem_singleton.mp hnew]
      exact ⟨header, request, List.mem_append_right _ List.mem_cons_self, hasks, hauth⟩

/-- The reply to the call of a task is one for its request. The command of the
    task was made of the request, and the actor answers a command with a reply
    of its kind, so the two agree. -/
theorem Linked.expected (h : Linked config app journal past s moves) {i call : Nat}
    {request : Request} {command : MarketCommand} {reply : MarketReply}
    (hi : s.handlers[i]? = some (.waiting call request command))
    (hcall : s.actor.calls[call]? = some (.answered (.ok reply)))
    (hnot : answerTo config request reply = none) :
    ∃ body c o fills, request = .placeOrder body ∧ command = .placeOrder c o ∧
      reply = .orderPlaced fills := by
  rcases h.links _ (List.mem_of_getElem? hi) with ⟨hcommand, hasks⟩
  have hfits : MarketActorHandle.Fits command reply := by
    rw [h.actor] at hcall
    exact MarketActorHandle.answered_fits hcall hcommand
  -- The reply fits the command, and the command is what the request asks for.
  cases request with
  | ready =>
      have hsnapshot : command = .snapshot := hasks
      rw [hsnapshot] at hfits
      rcases hfits with ⟨n, rfl⟩
      exact absurd hnot (by simp only [answerTo, reduceCtorEq, not_false_eq_true])
  | snapshot marketId =>
      rw [hasks.1] at hfits
      rcases hfits with ⟨n, rfl⟩
      exact absurd hnot (by simp only [answerTo, reduceCtorEq, not_false_eq_true])
  | creditDeposit body =>
      rcases depositFromRequest_eq_ok.mp hasks with ⟨c, t, a, -, -, -, rfl⟩
      have hreply : reply = .depositCredited := hfits
      rw [hreply] at hnot
      exact absurd hnot (by simp only [answerTo, reduceCtorEq, not_false_eq_true])
  | placeOrder body =>
      rcases hasks with ⟨c, o, -, rfl⟩
      rcases hfits with ⟨fills, rfl⟩
      exact ⟨body, c, o, fills, rfl, rfl, rfl⟩
  | health => exact absurd hasks id
  | metrics => exact absurd hasks id
  | registerSignedOrder body => exact absurd hasks id
  | pendingSettlements => exact absurd hasks id
  | listSettlementOutbox => exact absurd hasks id

/-- At boot there are no tasks and no calls. -/
theorem boot_linked (config : Config) (app : ExchangeApplication) (journal : List Event) :
    Linked config app journal [] (.boot app journal) [] where
  actor := rfl
  links _ h := absurd h List.not_mem_nil
  own := List.nodup_nil
  begun _ h := absurd h List.not_mem_nil
  asked _ h := absurd h List.not_mem_nil

/-- Every step keeps tasks and calls together. The moves of the mailbox that a
    step makes are appended to those it has made. -/
theorem steps_linked (h : Linked config app journal past s moves) {move : Move} {effect : Effect}
    {s' : ServiceState} (hsteps : Steps config rt s move effect s') :
    ∃ more, Linked config app journal (past ++ [(move, effect)]) s' (moves ++ more) := by
  have hstay : ∀ {t : ServiceState}, Linked config app journal past t moves →
      ∃ more, Linked config app journal past t (moves ++ more) := fun ht =>
    ⟨[], by rw [List.append_nil]; exact ht⟩
  have hlog : ∀ {t t' : ServiceState} {more : List (Mailbox.Move MarketCommand AppendOutcome)},
      Linked config app journal past t (moves ++ more) → t'.actor = t.actor →
      t'.handlers = t.handlers →
      ∃ more, Linked config app journal (past ++ [(move, effect)]) t' (moves ++ more) :=
    fun ht hactor hhandlers => ⟨_, ht.later _ hactor hhandlers⟩
  -- A step is one move of the mailbox, or the next piece of one task, or touches neither.
  cases hsteps with
  | idle _ => exact ⟨[], by rw [List.append_nil]; exact h.later _ rfl rfl⟩
  | answer _ _ => exact ⟨[], by rw [List.append_nil]; exact h.later _ rfl rfl⟩
  | refuse => exact ⟨[], by rw [List.append_nil]; exact h.later _ rfl rfl⟩
  | register _ _ => exact ⟨[], by rw [List.append_nil]; exact h.later _ rfl rfl⟩
  | call hasks hauth => exact ⟨_, h.call hasks hauth _⟩
  | send hi =>
      exact hlog (h.mailbox (.send _)
        (fun _ => by simp only [ne_eq, reduceCtorEq, not_false_eq_true])) rfl rfl
  | @disconnect _ call _ _ hi =>
      have hmoved := h.mailbox (.abandon call)
        (fun _ => by simp only [ne_eq, reduceCtorEq, not_false_eq_true])
      exact hlog (hmoved.put hi .done trivial (List.nil_sublist _)) rfl rfl
  | serve =>
      exact hlog (h.mailbox (.serve _)
        (fun _ => by simp only [ne_eq, reduceCtorEq, not_false_eq_true])) rfl rfl
  | fail hi =>
      rcases hstay (h.put hi .done trivial (List.nil_sublist _)) with ⟨more, hmore⟩
      exact hlog hmore rfl rfl
  | complete hi _ _ =>
      rcases hstay (h.put hi .done trivial (List.nil_sublist _)) with ⟨more, hmore⟩
      exact hlog hmore rfl rfl
  | place hi hcall =>
      rcases h.links _ (List.mem_of_getElem? hi) with ⟨hcommand, hasks⟩
      rcases hstay (h.put hi (.placed ⟨_, _, _, _, _⟩ .allocating)
        ⟨hcommand, hcall, hasks⟩ (List.Sublist.refl _)) with ⟨more, hmore⟩
      exact hlog hmore rfl rfl
  | unexpected hi hcall hnot hnot' =>
      rcases h.expected hi hcall hnot with ⟨body, c, o, fills, rfl, rfl, rfl⟩
      exact absurd rfl (hnot' body c o fills rfl rfl)
  | settle hi _ =>
      rcases hstay (h.stage hi _) with ⟨more, hmore⟩
      exact hlog hmore rfl rfl
  | queue hi =>
      rcases hstay (h.stage hi _) with ⟨more, hmore⟩
      exact hlog hmore rfl rfl
  | count hi =>
      rcases hstay (h.stage hi _) with ⟨more, hmore⟩
      exact hlog hmore rfl rfl
  | respond hi =>
      rcases hstay (h.put hi .done trivial (List.nil_sublist _)) with ⟨more, hmore⟩
      exact hlog hmore rfl rfl
  | claim _ => exact ⟨[], by rw [List.append_nil]; exact h.later _ rfl rfl⟩
  | submit _ => exact ⟨[], by rw [List.append_nil]; exact h.later _ rfl rfl⟩

/-- Tasks and calls belong together in every run. -/
theorem run_linked (config : Config) (rt : Runtime) (app : ExchangeApplication)
    (journal : List Event) (inputs : List Move) :
    ∃ moves, Linked config app journal
      (Run.log (ServiceState.step config rt) (ServiceState.boot app journal) inputs)
      (Run.after (ServiceState.step config rt) (ServiceState.boot app journal) inputs) moves := by
  refine Run.invariant (ServiceState.step config rt)
    (P := fun past s => ∃ moves, Linked config app journal past s moves)
    ⟨[], boot_linked config app journal⟩ (fun past s move h => ?_) inputs
  rcases h with ⟨moves, h⟩
  rcases steps_linked h (ServiceState.step_steps config rt s move) with ⟨more, hmore⟩
  exact ⟨_, hmore⟩

end Service

end SolanaLab
