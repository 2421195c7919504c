import SolanaLab.Service.Settlements
import SolanaLab.Library.Counter

/-!
# What the Service's Counters Count

The service keeps nine counters and reports them. Each is moved by whoever
comes past, at a moment of its own: an arrival is counted before its handler
runs, an order when the actor has placed it and not when its client is told,
and the requests for its fills after they are in the queue and not with it.

`Gauge` names the counters, so that one statement covers them. What a counter
has counted is what the log shows, up to the tasks that are between the two:
`ahead` are those already counted, `behind` those not counted yet. A task that
runs on closes both gaps, so a service at rest has counted its log.

The counters of the worker rest on every item having one attempt. A failure is
then always the last, and is counted.

The tallies are additions, so a step is judged by what it adds. `Balances`
compares that with what its entry in the log counts for, and the differences
are exactly the gaps that the step opens or closes. Counters wrap around and
gaps do not, which is why `Adds` speaks of what is added and not of values.

## Main definitions

* `Gauge`: The counters of the service.
* `Gauge.counts`: What an entry of the log is counted as.
* `Tallied`: The counters against the log.

## Theorems

* `steps_adds`: What a step adds to the counters.
* `run_tallied`: The counters agree with the log in every run.
* `responses_counted`: They do, and no request is answered twice.
-/

namespace SolanaLab

namespace Service

open Checked Counter Exchange Relayer Settlement

open Mailbox hiding step Effect Move

/-- The counters of `ServiceMetrics`. -/
inductive Gauge where
  | httpRequests
  | readyChecks
  | snapshotRequests
  | depositsAccepted
  | ordersAccepted
  | settlementRequestsQueued
  | settlementRequestsSubmitted
  | settlementRequestsFailed
  | apiErrors
deriving DecidableEq

/-- What a counter stands at. -/
def ServiceMetrics.read (m : ServiceMetrics) : Gauge → Word 64
  | .httpRequests => m.httpRequestsTotal
  | .readyChecks => m.readyChecksTotal
  | .snapshotRequests => m.snapshotRequestsTotal
  | .depositsAccepted => m.depositsAcceptedTotal
  | .ordersAccepted => m.ordersAcceptedTotal
  | .settlementRequestsQueued => m.settlementRequestsQueuedTotal
  | .settlementRequestsSubmitted => m.settlementRequestsSubmittedTotal
  | .settlementRequestsFailed => m.settlementRequestsFailedTotal
  | .apiErrors => m.apiErrorsTotal

namespace Gauge

/-- What an entry of the log is counted as. An arrival is counted by its move,
    an answer and a submission by its effect. -/
def counts (g : Gauge) (entry : Move × Effect) : Nat :=
  match g, entry with
  | .httpRequests, (.receive _ _, _) => 1
  | .readyChecks, (.receive _ .ready, _) => 1
  | .snapshotRequests, (.receive _ (.snapshot _), _) => 1
  | .depositsAccepted, (_, .responded _ (.ok (.deposit _))) => 1
  | .ordersAccepted, (_, .responded _ (.ok (.order _ _))) => 1
  | .settlementRequestsQueued, (_, .queued _ requests) => requests.length
  | .settlementRequestsSubmitted, (_, .submitted _ (.ok _)) => 1
  | .settlementRequestsFailed, (_, .submitted _ (.error _)) => 1
  | .apiErrors, (_, .responded _ (.error _)) => 1
  | _, _ => 0

/-- What is counted of a task before the log shows it. An order is counted when
    it is placed and shown when it is answered. -/
def ahead (g : Gauge) (h : Handler) : Nat :=
  match g, h with
  | .ordersAccepted, .placed _ _ => 1
  | _, _ => 0

/-- What the log shows of a task before it is counted. The requests are shown
    when they are put into the queue and counted in a piece of their own. -/
def behind (g : Gauge) (h : Handler) : Nat :=
  match g, h with
  | .settlementRequestsQueued, .placed _ (.counting n) => n
  | _, _ => 0

/-- What one `record_` function adds. Only one of them is given a number. -/
def one (count : Nat) (g g' : Gauge) : Nat :=
  if g' = g then (if g = .settlementRequestsQueued then count else 1) else 0

end Gauge

/-- The `record_` function of a counter. -/
def ServiceMetrics.record (m : ServiceMetrics) (count : Nat) : Gauge → ServiceMetrics
  | .httpRequests => m.recordHttpRequest
  | .readyChecks => m.recordReadyCheck
  | .snapshotRequests => m.recordSnapshotRequest
  | .depositsAccepted => m.recordDepositAccepted
  | .ordersAccepted => m.recordOrderAccepted
  | .settlementRequestsQueued => m.recordSettlementRequestsQueued count
  | .settlementRequestsSubmitted => m.recordSettlementRequestSubmitted
  | .settlementRequestsFailed => m.recordSettlementRequestFailed
  | .apiErrors => m.recordApiError

/-- How often an entry of the log is a request's arrival. -/
def arrivals (request : Request) : Move × Effect → Nat
  | (.receive _ request', _) => if request' = request then 1 else 0
  | _ => 0

/-- How often an entry of the log is an answer to a request. -/
def answers (request : Request) : Move × Effect → Nat
  | (_, .responded request' _) => if request' = request then 1 else 0
  | _ => 0

/-- How many answers to a request a task still owes. -/
def Handler.owes (request : Request) : Handler → Nat
  | .waiting _ request' _ => if request' = request then 1 else 0
  | .placed p _ => if p.request = request then 1 else 0
  | .done => 0

/-! ### One addition -/

/-- Counters that have been added to. It holds from every value they may have
    stood at, so it can be used however far they have wrapped around. -/
def Adds (m m' : ServiceMetrics) (k : Gauge → Nat) : Prop :=
  ∀ g, m'.read g = m.read g + Fin.ofNat (2 ^ 64) (k g)

/-- Nothing is added. -/
theorem Adds.refl (m : ServiceMetrics) : Adds m m (fun _ => 0) :=
  fun g => (Fin.add_zero (m.read g)).symm

/-- What is added in two goes is added together. -/
theorem Adds.trans {m m' m'' : ServiceMetrics} {k k' : Gauge → Nat} (h : Adds m m' k)
    (h' : Adds m' m'' k') : Adds m m'' (fun g => k g + k' g) := by
  intro g
  rw [h' g, h g, add_assoc]
  congr 1
  exact Fin.ext (Nat.add_mod _ _ _).symm

/-- A counter that has counted `n` things counts the new ones on top. -/
theorem Adds.counts {m m' : ServiceMetrics} {k : Gauge → Nat} (h : Adds m m' k) {g : Gauge}
    {n : Nat} (hn : Counts (m.read g) n) : Counts (m'.read g) (n + k g) := by
  rw [h g]
  exact hn.add rfl

/-- Every `record_` function adds to its own counter. -/
theorem record_adds (m : ServiceMetrics) (count : Nat) (g : Gauge) :
    Adds m (m.record count g) (g.one count) := by
  intro g'
  cases g <;> cases g' <;> first | rfl | exact (Fin.add_zero _).symm

/-- An arrival is counted by what has arrived. -/
theorem arrive_adds (m : ServiceMetrics) (header : Option String) (request : Request) :
    Adds m (m.arrive request) (fun g => g.counts (.receive header request, .quiet)) := by
  intro g
  cases request <;> cases g <;> first | rfl | exact (Fin.add_zero _).symm

/-! ### One step -/

/-- The gaps between a counter and the log, over all tasks. -/
def ServiceState.ahead (s : ServiceState) (g : Gauge) : Nat := (s.handlers.map g.ahead).sum

/-- What the log shows of all tasks before it is counted. -/
def ServiceState.behind (s : ServiceState) (g : Gauge) : Nat := (s.handlers.map g.behind).sum

/-- What a step adds to the counters is what its entry counts for, up to the
    gaps it opens and closes. -/
structure Balances (s s' : ServiceState) (entry : Move × Effect) (k : Gauge → Nat) : Prop where
  adds : Adds s.metrics s'.metrics k
  gaps : ∀ g, k g + s'.behind g + s.ahead g = g.counts entry + s'.ahead g + s.behind g

/-- Replacing one entry takes its value out of the sum and puts the new one in. -/
theorem sum_set {α : Type} {f : α → Nat} {l : List α} {i : Nat} {a : α} (h : l[i]? = some a)
    (b : α) : ((l.set i b).map f).sum + f a = (l.map f).sum + f b := by
  induction l generalizing i with
  | nil => exact absurd h (by simp only [List.getElem?_nil, reduceCtorEq, not_false_eq_true])
  | cons x rest ih =>
      cases i with
      | zero =>
          rw [List.getElem?_cons_zero, Option.some.injEq] at h
          simp only [List.set_cons_zero, List.map_cons, List.sum_cons, h]
          omega
      | succ i =>
          have hrest := ih h
          simp only [List.set_cons_succ, List.map_cons, List.sum_cons]
          omega

variable {config : Config} {rt : Runtime} {s s' : ServiceState} {entry : Move × Effect}
  {k : Gauge → Nat}

/-- A step that leaves the tasks alone. -/
theorem Balances.stay (hadds : Adds s.metrics s'.metrics k) (hhandlers : s'.handlers = s.handlers)
    (hcounts : ∀ g : Gauge, k g = g.counts entry) : Balances s s' entry k := by
  refine ⟨hadds, fun g => ?_⟩
  unfold ServiceState.ahead ServiceState.behind
  rw [hhandlers, hcounts g]
  omega

/-- A step of one task, whose gaps say what is added. -/
theorem Balances.put {i : Nat} {old new : Handler} (hi : s.handlers[i]? = some old)
    (hadds : Adds s.metrics s'.metrics k) (hhandlers : s'.handlers = s.handlers.set i new)
    (hcounts : ∀ g : Gauge,
      k g + g.behind new + g.ahead old = g.counts entry + g.ahead new + g.behind old) :
    Balances s s' entry k := by
  refine ⟨hadds, fun g => ?_⟩
  have hahead := sum_set (f := g.ahead) hi new
  have hbehind := sum_set (f := g.behind) hi new
  have hlocal := hcounts g
  unfold ServiceState.ahead ServiceState.behind
  rw [hhandlers]
  omega

variable {app : ExchangeApplication} {journal : List Event} {past : List (Move × Effect)}
  {moves : List (Mailbox.Move MarketCommand AppendOutcome)} {move : Move} {effect : Effect}

/-- What a step adds to the counters. The items of the worker have had their one
    attempt, so every failure is counted as one. -/
theorem steps_adds (hlinked : Linked config app journal past s moves)
    (hwork : ∀ item ∈ s.work, item.attempts = item.maxAttempts)
    (hsteps : Steps config rt s move effect s') : ∃ k, Balances s s' (move, effect) k := by
  have hquiet : ∀ m : Move, (∀ header request, m ≠ .receive header request) →
      ∀ g : Gauge, g.counts (m, .quiet) = 0 := fun m hm g => by
    cases m with
    | receive header request => exact absurd rfl (hm header request)
    | _ => cases g <;> rfl
  cases hsteps with
  | idle h => exact ⟨_, .stay (Adds.refl _) rfl (fun g => (hquiet move h g).symm)⟩
  | @answer header request response h hauth =>
      refine ⟨_, .stay (arrive_adds s.metrics header request) rfl (fun g => ?_)⟩
      -- None of the answers given at once is one that is counted.
      cases request <;> first | exact absurd h id | (rw [h]; cases g <;> rfl)
  | @refuse header request error =>
      refine ⟨_, .stay ((arrive_adds s.metrics header request).trans
        (record_adds _ 1 .apiErrors)) rfl (fun g => ?_)⟩
      cases g <;> cases request <;> rfl
  | @register header body orderId signedOrder hauth hbody =>
      refine ⟨_, .stay (record_adds s.metrics 1 .httpRequests) rfl (fun g => ?_)⟩
      cases g <;> rfl
  | @call header request command hasks hauth =>
      refine ⟨_, arrive_adds s.metrics header request, fun g => ?_⟩
      -- A task that has just begun has no gaps.
      unfold ServiceState.ahead ServiceState.behind
      rw [List.map_append, List.map_append, List.sum_append, List.sum_append]
      have hnew : g.ahead (.waiting s.actor.calls.length request command) = 0 ∧
          g.behind (.waiting s.actor.calls.length request command) = 0 := by
        cases g <;> exact ⟨rfl, rfl⟩
      rw [List.map_singleton, List.map_singleton, List.sum_singleton, List.sum_singleton, hnew.1,
        hnew.2]
      omega
  | @send i =>
      exact ⟨_, .stay (Adds.refl _) rfl (fun g => by cases g <;> rfl)⟩
  | disconnect hi =>
      exact ⟨_, .put hi (Adds.refl _) rfl (fun g => by cases g <;> rfl)⟩
  | serve => exact ⟨_, .stay (Adds.refl _) rfl (fun g => by cases g <;> rfl)⟩
  | fail hi =>
      refine ⟨_, .put hi (record_adds s.metrics 1 .apiErrors) rfl (fun g => ?_)⟩
      cases g <;> rfl
  | @complete i call request command reply response hi hcall hresponse =>
      -- An answer that waited for the actor is a deposit's or a snapshot's.
      unfold answerTo at hresponse
      split at hresponse
      · rw [Option.some.injEq] at hresponse
        rw [← hresponse]
        exact ⟨_, .put hi (Adds.refl _) rfl (fun g => by cases g <;> rfl)⟩
      · rw [Option.some.injEq] at hresponse
        rw [← hresponse]
        exact ⟨_, .put hi (Adds.refl _) rfl (fun g => by cases g <;> rfl)⟩
      · rw [Option.some.injEq] at hresponse
        rw [← hresponse]
        exact ⟨_, .put hi (record_adds s.metrics 1 .depositsAccepted) rfl
          (fun g => by cases g <;> rfl)⟩
      · exact absurd hresponse (by simp only [reduceCtorEq, not_false_eq_true])
  | place hi hcall =>
      refine ⟨_, .put hi (record_adds s.metrics 1 .ordersAccepted) rfl (fun g => ?_)⟩
      cases g <;> rfl
  | unexpected hi hcall hnot hnot' =>
      rcases hlinked.expected hi hcall hnot with ⟨body, c, o, fills, rfl, rfl, rfl⟩
      exact absurd rfl (hnot' body c o fills rfl rfl)
  | @settle i p stage stage' next hi hprogress =>
      refine ⟨_, .put hi (Adds.refl _) rfl (fun g => ?_)⟩
      cases hprogress <;> cases g <;> rfl
  | queue hi =>
      refine ⟨_, .put hi (Adds.refl _) rfl (fun g => ?_)⟩
      cases g <;> simp [Gauge.behind, Gauge.ahead, Gauge.counts]
  | @count i n p hi =>
      refine ⟨_, .put hi (record_adds s.metrics n .settlementRequestsQueued) rfl (fun g => ?_)⟩
      cases g <;> simp [Gauge.behind, Gauge.ahead, Gauge.counts, Gauge.one]
  | respond hi =>
      refine ⟨_, .put hi (Adds.refl _) rfl (fun g => ?_)⟩
      cases g <;> rfl
  | claim _ => exact ⟨_, .stay (Adds.refl _) rfl (fun g => by cases g <;> rfl)⟩
  | @submit item rest result hitem =>
      cases result with
      | ok signature =>
          refine ⟨_, .stay (record_adds s.metrics 1 .settlementRequestsSubmitted) rfl (fun g => ?_)⟩
          cases g <;> rfl
      | error error =>
          -- The one attempt was the last.
          have hlast : item.attempts = item.maxAttempts := hwork item (hitem ▸ List.mem_cons_self)
          have hmetrics : (s.report item rest (.error error)).2.metrics
              = s.metrics.recordSettlementRequestFailed := by
            simp only [ServiceState.report, hlast, lt_irrefl, and_false, if_false]
          refine ⟨_, .stay (k := Gauge.one 1 .settlementRequestsFailed) ?_ rfl (fun g => ?_)⟩
          · rw [hmetrics]
            exact record_adds s.metrics 1 .settlementRequestsFailed
          · cases g <;> rfl

/-! ### Whole runs -/

/-- What the counters and the answers are held to. -/
structure Tallied (past : List (Move × Effect)) (s : ServiceState) : Prop where
  tally : ∀ g, ∃ n, Counts (s.metrics.read g) n ∧
    n + s.behind g = Run.total g.counts past + s.ahead g
  once : ∀ request, Run.total (answers request) past + (s.handlers.map (Handler.owes request)).sum
    ≤ Run.total (arrivals request) past
  /-- Every item has one attempt. -/
  work : ∀ item ∈ s.work, item.attempts = item.maxAttempts

/-- A task that goes on answers what it no longer owes. A task owes one answer
    at most, and none when it is done. -/
theorem owes_put {request : Request} {i : Nat} {old : Handler} (hi : s.handlers[i]? = some old)
    (new : Handler) (hhandlers : s'.handlers = s.handlers.set i new)
    (hle : answers request entry + new.owes request ≤ old.owes request) :
    answers request entry + (s'.handlers.map (Handler.owes request)).sum
      ≤ arrivals request entry + (s.handlers.map (Handler.owes request)).sum := by
  have hset := sum_set (f := Handler.owes request) hi new
  rw [hhandlers]
  omega

/-- What a step answers, it owed or has just been asked. -/
theorem steps_owes (hlinked : Linked config app journal past s moves)
    (hsteps : Steps config rt s move effect s') (request : Request) :
    answers request (move, effect) + (s'.handlers.map (Handler.owes request)).sum
      ≤ arrivals request (move, effect) + (s.handlers.map (Handler.owes request)).sum := by
  cases hsteps with
  | idle h =>
      have hzero : answers request (move, .quiet) = 0 := rfl
      omega
  | answer h hauth => exact Nat.le_refl _
  | refuse => exact Nat.le_refl _
  | register hauth hbody => exact Nat.le_refl _
  -- A request that waits is owed an answer from now on.
  | @call header request' command hasks hauth =>
      simp only [List.map_append, List.sum_append, List.map_cons, List.map_nil, List.sum_cons,
        List.sum_nil, answers, arrivals, Handler.owes]
      omega
  | send hi => exact Nat.le_of_eq rfl
  -- A task that is dropped does not answer.
  | disconnect hi => exact owes_put hi .done rfl (Nat.zero_le _)
  | serve => exact Nat.le_of_eq rfl
  | fail hi => exact owes_put hi .done rfl (Nat.le_refl _)
  | complete hi hcall hresponse => exact owes_put hi .done rfl (Nat.le_refl _)
  -- An order that is placed still owes its answer.
  | place hi hcall =>
      exact owes_put hi (.placed ⟨_, _, _, _, _⟩ .allocating) rfl (Nat.le_of_eq (Nat.zero_add _))
  | unexpected hi hcall hnot hnot' =>
      rcases hlinked.expected hi hcall hnot with ⟨body, c, o, fills, rfl, rfl, rfl⟩
      exact absurd rfl (hnot' body c o fills rfl rfl)
  | @settle _ p stage stage' _ hi hprogress =>
      exact owes_put hi (.placed p stage') rfl (Nat.le_of_eq (Nat.zero_add _))
  | @queue _ p _ hi =>
      exact owes_put hi (.placed p (.counting _)) rfl (Nat.le_of_eq (Nat.zero_add _))
  | @count _ _ p hi => exact owes_put hi (.placed p .answering) rfl (Nat.le_of_eq (Nat.zero_add _))
  | respond hi => exact owes_put hi .done rfl (Nat.le_refl _)
  | claim _ => exact Nat.le_of_eq rfl
  | submit hitem => exact Nat.le_of_eq rfl

/-- The worker claims items of one attempt, so what it holds has no attempt
    left. -/
theorem steps_work (hlinked : Linked config app journal past s moves)
    (hwork : ∀ item ∈ s.work, item.attempts = item.maxAttempts)
    (hsteps : Steps config rt s move effect s') :
    ∀ item ∈ s'.work, item.attempts = item.maxAttempts := by
  cases hsteps with
  | claim _ =>
      intro item hmem
      rcases List.mem_map.mp hmem with ⟨request, -, rfl⟩
      rfl
  | submit hitem => exact fun item hmem => hwork item (hitem ▸ List.mem_cons_of_mem _ hmem)
  | unexpected hi hcall hnot hnot' =>
      rcases hlinked.expected hi hcall hnot with ⟨body, c, o, fills, rfl, rfl, rfl⟩
      exact absurd rfl (hnot' body c o fills rfl rfl)
  | _ => exact hwork

/-- Every step keeps the counters in agreement with the log. -/
theorem steps_tallied (h : Tallied past s) (hlinked : Linked config app journal past s moves)
    (hsteps : Steps config rt s move effect s') : Tallied (past ++ [(move, effect)]) s' := by
  refine ⟨fun g => ?_, fun request => ?_, steps_work hlinked h.work hsteps⟩
  · rcases steps_adds hlinked h.work hsteps with ⟨k, hbalances⟩
    rcases h.tally g with ⟨n, hn, htally⟩
    refine ⟨n + k g, hbalances.adds.counts hn, ?_⟩
    have hgaps := hbalances.gaps g
    rw [Run.total_snoc]
    omega
  · have howes := steps_owes hlinked hsteps request
    have honce := h.once request
    rw [Run.total_snoc, Run.total_snoc]
    omega

/-- At boot nothing is counted and nothing has happened. -/
theorem boot_tallied (app : ExchangeApplication) (journal : List Event) :
    Tallied [] (.boot app journal) where
  tally g := ⟨0, by cases g <;> exact counts_zero, rfl⟩
  once _ := Nat.le_refl _
  work _ h := absurd h List.not_mem_nil

/-- The counters agree with the log in every run. -/
theorem run_tallied (config : Config) (rt : Runtime) (app : ExchangeApplication)
    (journal : List Event) (inputs : List Move) :
    Tallied (Run.log (ServiceState.step config rt) (.boot app journal) inputs)
      (Run.after (ServiceState.step config rt) (.boot app journal) inputs) := by
  refine (Run.invariant (ServiceState.step config rt)
    (P := fun past s => (∃ moves, Linked config app journal past s moves) ∧ Tallied past s)
    ⟨⟨[], boot_linked config app journal⟩, boot_tallied app journal⟩
    (fun past s move h => ?_) inputs).2
  rcases h with ⟨⟨moves, hlinked⟩, h⟩
  have hsteps := ServiceState.step_steps config rt s move
  rcases steps_linked hlinked hsteps with ⟨more, hmore⟩
  exact ⟨⟨_, hmore⟩, steps_tallied h hlinked hsteps⟩

/-- The counters tell the requests put into the queue and those submitted. A
    batch is counted by its length and a submission by its result. -/
theorem total_settlements (past : List (Move × Effect)) :
    Run.total Gauge.settlementRequestsQueued.counts past = (queued past).length ∧
    Run.total Gauge.settlementRequestsSubmitted.counts past
      + Run.total Gauge.settlementRequestsFailed.counts past = (submitted past).length := by
  induction past using List.reverseRecOn with
  | nil => exact ⟨rfl, rfl⟩
  | append_singleton past entry ih =>
      rcases entry with ⟨move, effect⟩
      rw [Run.total_snoc, Run.total_snoc, Run.total_snoc, queued, batches_snoc, submitted_snoc,
        List.flatMap_append, List.length_append, List.length_append, ih.1, ← ih.2]
      cases effect with
      | quiet => exact ⟨rfl, rfl⟩
      | responded request response => cases response <;> exact ⟨rfl, rfl⟩
      | queued call requests =>
          exact ⟨congrArg (_ + List.length ·) (List.append_nil requests).symm, rfl⟩
      | submitted request result =>
          cases result with
          | ok signature => exact ⟨rfl, Nat.add_right_comm _ _ _⟩
          | error error => exact ⟨rfl, (Nat.add_assoc _ _ _).symm⟩

/-- The counters of the service, whatever the requests to it, their clients,
    the journal and the chain do. Each has counted, up to wrapping around,
    what the log shows, with the orders that are placed and not yet answered
    and without the requests that are in the queue and not yet counted. The
    requests put into the queue are those submitted, those that failed, and
    those still pending. No request is answered more often than it arrives,
    not even by the tasks that still owe an answer. -/
theorem responses_counted (config : Config) (rt : Runtime) (app : ExchangeApplication)
    (journal : List Event) (inputs : List Move) :
    let past := Run.log (ServiceState.step config rt) (.boot app journal) inputs
    let s := Run.after (ServiceState.step config rt) (.boot app journal) inputs
    (∀ g : Gauge, ∃ n, Counts (s.metrics.read g) n ∧
      n + s.behind g = Run.total g.counts past + s.ahead g) ∧
    Run.total Gauge.settlementRequestsQueued.counts past
      = Run.total Gauge.settlementRequestsSubmitted.counts past
        + Run.total Gauge.settlementRequestsFailed.counts past
        + s.work.length + s.queuedRequests.length ∧
    ∀ request, Run.total (answers request) past + (s.handlers.map (Handler.owes request)).sum
      ≤ Run.total (arrivals request) past := by
  intro past s
  have h := run_tallied config rt app journal inputs
  refine ⟨h.tally, ?_, h.once⟩
  have hkept := congrArg List.length (run_settling config rt app journal inputs).kept
  rw [List.length_append, List.length_append, List.length_map] at hkept
  rw [(total_settlements past).1, (total_settlements past).2]
  exact hkept

end Service

end SolanaLab
