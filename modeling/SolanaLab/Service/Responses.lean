import SolanaLab.Service.Settlements

/-!
# What the Service Answers

An accepted deposit or order is a promise: it is in the log of events, as the
client has asked for it. The other way round the log should hold nothing that
nobody has asked for, and with an api key nothing that an authorized client has
not asked for.

Neither can be read off a handler. It answers with what the actor says to a
call, and the promise rests on the call being its own, on the command being
the one made of its request, and on nothing behind the actor changing the log.

## Main definitions

* `Truthful`: What an accepted answer promises.
* `RequestedBy`: An event is what a request has asked for.

## Theorems

* `Linked.truthful`: A reply of the actor makes a truthful answer.
* `run_answering`: Every answer of a run is truthful.
* `responses_recorded`: Answers are in the log, and the log was asked for.
-/

namespace SolanaLab

namespace Service

open Checked Exchange Relayer Settlement

open Mailbox hiding step Effect Move

/-- What an accepted answer promises, given the log of events. A deposit and an
    order promise an event of the log, and a snapshot or a ready check that the
    log has as many events as it shows. The others are only of their form. -/
def Truthful (config : Config) (events : List Event) : Request → Response → Prop
  | .creditDeposit body, response => response = .deposit true ∧
    ∃ (c : CommandId) (t : TraderId) (a : AssetId), c.get = body.commandId ∧
      t.get = body.traderId ∧ a.get = body.assetId ∧ .depositCredited c t a body.amount ∈ events
  | .placeOrder body, response => ∃ c o fills, orderFromRequest config.market body = .ok (c, o) ∧
    .orderPlaced c o fills ∈ events ∧ response = .order true (fills.map FillResponse.ofFill)
  | .registerSignedOrder body, response => ∃ replaced found,
    signedOrderFromRequest body = .ok found ∧ response = .signedOrder true replaced
  | .snapshot marketId, response => marketId = config.marketId ∧
    ∃ n ≤ events.length, response = .snapshot marketId n
  | .ready, response => ∃ n ≤ events.length,
    response = .ready "ready" config.marketId config.bootMode config.journalMode n
  | .health, response => response = .health "ok"
  | .metrics, response => ∃ metrics, response = .metrics metrics
  | .pendingSettlements, response => ∃ n, response = .pendingSettlements n
  | .listSettlementOutbox, response => response = .settlementOutbox

/-- An event is what a request has asked for. The fills of an order are the
    actor's, and all else in an event is made of the body. -/
def RequestedBy (config : Config) : Event → Request → Prop
  | .depositCredited c t a amount, request => ∃ body, request = .creditDeposit body ∧
    depositFromRequest body = .ok (.creditDeposit c t a amount)
  | .orderPlaced c o _, request => ∃ body, request = .placeOrder body ∧
    orderFromRequest config.market body = .ok (c, o)

/-- What was promised stays true while the log grows. A snapshot shows a number
    of events that there are, and later there are no fewer. -/
theorem Truthful.mono {config : Config} {events events' : List Event} {request : Request}
    {response : Response} (h : Truthful config events request response)
    (hgrow : events <+: events') : Truthful config events' request response := by
  cases request with
  | creditDeposit body =>
      rcases h with ⟨hr, c, t, a, hc, ht, ha, hevent⟩
      exact ⟨hr, c, t, a, hc, ht, ha, hgrow.subset hevent⟩
  | placeOrder body =>
      rcases h with ⟨c, o, fills, horder, hevent, hr⟩
      exact ⟨c, o, fills, horder, hgrow.subset hevent, hr⟩
  | snapshot marketId =>
      rcases h with ⟨hmarket, n, hn, hr⟩
      exact ⟨hmarket, n, hn.trans hgrow.length_le, hr⟩
  | ready =>
      rcases h with ⟨n, hn, hr⟩
      exact ⟨n, hn.trans hgrow.length_le, hr⟩
  | registerSignedOrder body => exact h
  | health => exact h
  | metrics => exact h
  | pendingSettlements => exact h
  | listSettlementOutbox => exact h

variable {config : Config} {rt : Runtime} {app : ExchangeApplication} {journal : List Event}
  {past : List (Move × Effect)} {s s' : ServiceState}
  {moves : List (Mailbox.Move MarketCommand AppendOutcome)} {move : Move} {effect : Effect}

/-- An answer given at once is truthful. -/
theorem ServiceState.Immediate.truthful {request : Request} {response : Response}
    (h : s.Immediate request response) (events : List Event) :
    Truthful config events request response := by
  cases request with
  | health => exact h
  | metrics => exact ⟨_, h⟩
  | pendingSettlements => exact ⟨_, h⟩
  | listSettlementOutbox => exact h
  | ready => exact absurd h id
  | creditDeposit body => exact absurd h id
  | placeOrder body => exact absurd h id
  | registerSignedOrder body => exact absurd h id
  | snapshot marketId => exact absurd h id

/-- A reply of the actor to a request that is no order makes a truthful answer.
    The reply is of the task's own call, whose command is what its request asks
    for. -/
theorem Linked.truthful (h : Linked config app journal past s moves) {i call : Nat}
    {request : Request} {command : MarketCommand} {reply : MarketReply} {response : Response}
    (hi : s.handlers[i]? = some (.waiting call request command))
    (hcall : s.actor.calls[call]? = some (.answered (.ok reply)))
    (hresponse : answerTo config request reply = some response) :
    Truthful config s.actor.state.app.events request response := by
  rcases h.links _ (List.mem_of_getElem? hi) with ⟨hcommand, hasks⟩
  have hsnapshot : ∀ n, reply = .snapshot n → n ≤ s.actor.state.app.events.length := by
    rintro n rfl
    rw [h.actor] at hcall ⊢
    exact MarketActorHandle.answered_snapshot hcall
  unfold answerTo at hresponse
  split at hresponse
  · rw [Option.some.injEq] at hresponse
    exact ⟨_, hsnapshot _ rfl, hresponse.symm⟩
  · rw [Option.some.injEq] at hresponse
    exact ⟨hasks.2, _, hsnapshot _ rfl, hresponse.symm⟩
  · rename_i body
    rw [Option.some.injEq] at hresponse
    -- The command is the one made of the body.
    rcases depositFromRequest_eq_ok.mp hasks with ⟨c, t, a, hc, ht, ha, rfl⟩
    refine ⟨hresponse.symm, c, t, a, hc, ht, ha, ?_⟩
    rw [h.actor] at hcall ⊢
    exact MarketActorHandle.answered_event hcall hcommand (fun _ => rfl)
  · exact absurd hresponse (by simp only [reduceCtorEq, not_false_eq_true])

/-- Only a request for an order asks to place one, and the order is the one made
    of its body. -/
theorem asks_placeOrder {request : Request} {c : CommandId} {o : Order}
    (h : Asks config request (.placeOrder c o)) :
    ∃ body, request = .placeOrder body ∧ orderFromRequest config.market body = .ok (c, o) := by
  cases request with
  | placeOrder body =>
      rcases h with ⟨c', o', horder, heq⟩
      rw [MarketCommand.placeOrder.injEq] at heq
      rw [← heq.1, ← heq.2] at horder
      exact ⟨body, rfl, horder⟩
  -- The other requests ask for another command, or for none.
  | creditDeposit body =>
      rcases depositFromRequest_eq_ok.mp h with ⟨c, t, a, -, -, -, heq⟩
      exact absurd heq (by simp only [reduceCtorEq, not_false_eq_true])
  | ready => exact absurd h (by simp only [Asks, reduceCtorEq, not_false_eq_true])
  | snapshot marketId => exact absurd h.1 (by simp only [reduceCtorEq, not_false_eq_true])
  | health => exact absurd h id
  | metrics => exact absurd h id
  | registerSignedOrder body => exact absurd h id
  | pendingSettlements => exact absurd h id
  | listSettlementOutbox => exact absurd h id

/-- The answer to an order that was placed is truthful. -/
theorem Linked.truthful_order (h : Linked config app journal past s moves) {i : Nat}
    {p : PlacedOrder} {stage : Stage} (hi : s.handlers[i]? = some (.placed p stage)) :
    Truthful config s.actor.state.app.events p.request
      (.order true (p.fills.map FillResponse.ofFill)) := by
  rcases h.links _ (List.mem_of_getElem? hi) with ⟨hcommand, hcall, hasks⟩
  have hevent : .orderPlaced p.commandId p.order p.fills ∈ s.actor.state.app.events := by
    rw [h.actor] at hcall ⊢
    exact MarketActorHandle.answered_event hcall hcommand (fun _ => rfl)
  rcases asks_placeOrder hasks with ⟨body, hrequest, horder⟩
  rw [hrequest]
  exact ⟨_, _, _, horder, hevent, rfl⟩

/-- What was answered in a run, given the log of events. The log is that of the
    actor, which may be ahead of what was answered. -/
structure Answering (config : Config) (past : List (Move × Effect)) (events : List Event) :
    Prop where
  accepted : ∀ move request response, (move, .responded request (.ok response)) ∈ past →
    Truthful config events request response
  failed : ∀ i request error, (.advance i, .responded request (.error error)) ∈ past →
    ∃ e, error = .fromApplication e

/-- Every step answers truthfully. Only the steps that end a task answer
    anything, and the others leave all answers true as the log only grows. -/
theorem steps_answering (h : Answering config past s.actor.state.app.events)
    (hlinked : Linked config app journal past s moves)
    (hsteps : Steps config rt s move effect s') :
    Answering config (past ++ [(move, effect)]) s'.actor.state.app.events := by
  have hgrow : ∀ m, s.actor.state.app.events
      <+: (Service.mailbox config s.actor m).state.app.events :=
    MarketActorHandle.events_grow config.mailboxCapacity s.actor
  -- Only moves of the mailbox reach the actor, and those let its log only grow.
  have hevents : s.actor.state.app.events <+: s'.actor.state.app.events := by
    cases hsteps with
    | call _ _ => exact hgrow _
    | send _ => exact hgrow _
    | disconnect _ => exact hgrow _
    | serve => exact hgrow _
    | unexpected hi hcall hnot hnot' =>
        rcases hlinked.expected hi hcall hnot with ⟨body, c, o, fills, rfl, rfl, rfl⟩
        exact absurd rfl (hnot' body c o fills rfl rfl)
    | _ => exact List.prefix_refl _
  -- An answer that is new comes from one of four kinds of steps.
  have hnew : ∀ request answer, effect = .responded request answer →
      (∀ response, answer = .ok response →
        Truthful config s'.actor.state.app.events request response) ∧
      (∀ i error, move = .advance i → answer = .error error → ∃ e, error = .fromApplication e) := by
    intro request answer heffect
    cases hsteps with
    | answer himmediate _ =>
        rw [Effect.responded.injEq] at heffect
        rcases heffect with ⟨rfl, rfl⟩
        exact ⟨fun response hok => Except.ok.inj hok ▸ himmediate.truthful _, fun _ _ _ herr =>
          absurd herr (by simp only [reduceCtorEq, not_false_eq_true])⟩
    | refuse =>
        rw [Effect.responded.injEq] at heffect
        rcases heffect with ⟨rfl, rfl⟩
        exact ⟨fun _ hok => absurd hok (by simp only [reduceCtorEq, not_false_eq_true]),
          fun _ _ hmove _ => absurd hmove (by simp only [reduceCtorEq, not_false_eq_true])⟩
    | register hauth hbody =>
        rw [Effect.responded.injEq] at heffect
        rcases heffect with ⟨rfl, rfl⟩
        exact ⟨fun response hok => ⟨_, _, hbody, (Except.ok.inj hok).symm⟩,
          fun _ _ hmove _ => absurd hmove (by simp only [reduceCtorEq, not_false_eq_true])⟩
    | fail _ =>
        rw [Effect.responded.injEq] at heffect
        rcases heffect with ⟨rfl, rfl⟩
        exact ⟨fun _ hok => absurd hok (by simp only [reduceCtorEq, not_false_eq_true]),
          fun _ _ _ herr => ⟨_, (Except.error.inj herr).symm⟩⟩
    | complete hi hcall hresponse =>
        rw [Effect.responded.injEq] at heffect
        rcases heffect with ⟨rfl, rfl⟩
        exact ⟨fun response hok => Except.ok.inj hok ▸ hlinked.truthful hi hcall hresponse,
          fun _ _ _ herr => absurd herr (by simp only [reduceCtorEq, not_false_eq_true])⟩
    | respond hi =>
        rw [Effect.responded.injEq] at heffect
        rcases heffect with ⟨rfl, rfl⟩
        exact ⟨fun response hok => Except.ok.inj hok ▸ hlinked.truthful_order hi,
          fun _ _ _ herr => absurd herr (by simp only [reduceCtorEq, not_false_eq_true])⟩
    | unexpected hi hcall hnot hnot' =>
        rcases hlinked.expected hi hcall hnot with ⟨body, c, o, fills, rfl, rfl, rfl⟩
        exact absurd rfl (hnot' body c o fills rfl rfl)
    | _ => exact absurd heffect (by simp only [reduceCtorEq, not_false_eq_true])
  -- What was promised before stays true, and the new answer is true now.
  refine ⟨fun m request response hmem => ?_, fun i request error hmem => ?_⟩
  · rcases List.mem_append.mp hmem with hold | hlast
    · exact (h.accepted m request response hold).mono hevents
    · rw [List.mem_singleton, Prod.mk.injEq] at hlast
      exact (hnew request _ hlast.2.symm).1 response rfl
  · rcases List.mem_append.mp hmem with hold | hlast
    · exact h.failed i request error hold
    · rw [List.mem_singleton, Prod.mk.injEq] at hlast
      exact (hnew request _ hlast.2.symm).2 i error hlast.1.symm rfl

/-- Every answer of a run is truthful. -/
theorem run_answering (config : Config) (rt : Runtime) (app : ExchangeApplication)
    (journal : List Event) (inputs : List Move) :
    Answering config (Run.log (ServiceState.step config rt) (.boot app journal) inputs)
      (Run.after (ServiceState.step config rt) (.boot app journal)
        inputs).actor.state.app.events := by
  refine (Run.invariant (ServiceState.step config rt)
    (P := fun past s => (∃ moves, Linked config app journal past s moves) ∧
      Answering config past s.actor.state.app.events)
    ⟨⟨[], boot_linked config app journal⟩, fun _ _ _ h => absurd h List.not_mem_nil,
      fun _ _ _ h => absurd h List.not_mem_nil⟩
    (fun past s move h => ?_) inputs).2
  rcases h with ⟨⟨moves, hlinked⟩, h⟩
  have hsteps := ServiceState.step_steps config rt s move
  rcases steps_linked hlinked hsteps with ⟨more, hmore⟩
  exact ⟨⟨_, hmore⟩, steps_answering h hlinked hsteps⟩

/-- An event that a command announces was asked for by the request that the
    command is made of. -/
theorem requestedBy_of_announced {request : Request} {command : MarketCommand}
    {outcome : AppendOutcome} {answer : Except ApplicationError MarketReply} {event : Event}
    (hasks : Asks config request command)
    (h : MarketActorHandle.announced ((command, outcome), answer) = some event) :
    command.Changes ∧ RequestedBy config event request := by
  -- A command that changes nothing announces nothing.
  by_cases hchanges : command.Changes
  · refine ⟨hchanges, ?_⟩
    cases answer with
    | error e =>
        rw [MarketActorHandle.announced_error] at h
        exact absurd h (by simp only [reduceCtorEq, not_false_eq_true])
    | ok reply =>
        cases request with
        | creditDeposit body =>
            rcases depositFromRequest_eq_ok.mp hasks with ⟨c, t, a, hc, ht, ha, rfl⟩
            rw [MarketActorHandle.announced, Option.some.injEq] at h
            rw [← h]
            exact ⟨body, rfl, hasks⟩
        | placeOrder body =>
            rcases hasks with ⟨c, o, horder, rfl⟩
            cases reply with
            | orderPlaced fills =>
                rw [MarketActorHandle.announced, Option.some.injEq] at h
                rw [← h]
                exact ⟨body, rfl, horder⟩
            | _ => exact absurd h (by
                simp only [MarketActorHandle.announced, reduceCtorEq, not_false_eq_true])
        | ready =>
            have hsnapshot : command = .snapshot := hasks
            exact absurd hchanges (hsnapshot ▸ id)
        | snapshot marketId => exact absurd hchanges (hasks.1 ▸ id)
        | health => exact absurd hasks id
        | metrics => exact absurd hasks id
        | registerSignedOrder body => exact absurd hasks id
        | pendingSettlements => exact absurd hasks id
        | listSettlementOutbox => exact absurd hasks id
  · rw [MarketActorHandle.announced_of_not_changes hchanges] at h
    exact absurd h (by simp only [reduceCtorEq, not_false_eq_true])

/-- An event that is new in the log was asked for by an authorized client. The
    event was announced by the answer to a call, the call has a command, and the
    command was made of a request that had been let in. -/
theorem Linked.requested (h : Linked config app journal past s moves) {event : Event}
    (hevent : event ∈ s.actor.state.app.events) :
    event ∈ app.events ∨ ∃ header request, (Move.receive header request, Effect.quiet) ∈ past ∧
      authorizeApiKey config.apiKey header = .ok () ∧ RequestedBy config event request := by
  rw [h.actor] at hevent
  rcases MarketActorHandle.event_announced hevent with
    hold | ⟨command, hcommand, outcome, answer, hannounced⟩
  · exact Or.inl hold
  · rcases h.asked command hcommand with ⟨header, request, hmem, hasks, hauth⟩
    have hrequested := requestedBy_of_announced hasks hannounced
    exact Or.inr ⟨header, request, hmem, hauth hrequested.1, hrequested.2⟩

/-- What the service answers and what it records, whatever the requests to it,
    their clients, the journal and the chain do. A deposit or an order that is
    answered as accepted is in the log, as its request has asked and with the
    fills that the answer shows, and a snapshot shows no more events than
    there are. A task that waits for the actor fails only with an error of the
    actor, so no reply is ever unexpected. And every event of the log was
    there at boot or was asked for by a request that carried the api key. -/
theorem responses_recorded (config : Config) (rt : Runtime) (app : ExchangeApplication)
    (journal : List Event) (inputs : List Move) :
    let past := Run.log (ServiceState.step config rt) (.boot app journal) inputs
    let events := (Run.after (ServiceState.step config rt) (.boot app journal)
      inputs).actor.state.app.events
    (∀ move request response, (move, .responded request (.ok response)) ∈ past →
      Truthful config events request response) ∧
    (∀ i request error, (.advance i, .responded request (.error error)) ∈ past →
      ∃ e, error = .fromApplication e) ∧
    ∀ event ∈ events, event ∈ app.events ∨ ∃ header request,
      (Move.receive header request, Effect.quiet) ∈ past ∧
      authorizeApiKey config.apiKey header = .ok () ∧ RequestedBy config event request := by
  intro past events
  have h := run_answering config rt app journal inputs
  rcases run_linked config rt app journal inputs with ⟨moves, hlinked⟩
  exact ⟨h.accepted, h.failed, fun event hevent => hlinked.requested hevent⟩

end Service

end SolanaLab
