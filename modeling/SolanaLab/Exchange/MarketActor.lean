import SolanaLab.Exchange.Application

/-!
# The Market Actor

One actor owns an application and a journal and handles the commands of its
mailbox one by one. A deposit or an order derives its event, appends it to the
journal and only then applies it.

Two of these three steps can fail after the first. When the append reports an
error the actor answers with an error and goes on; when the event does not
apply, the journal holds an event the application does not, and the actor
stops. Whether an append that reports an error has recorded its event is not
the actor's to know: `AppendOutcome` says what the journal does, and a run is
a sequence of commands with an outcome for each.

`step_cases` says once what one step of a running actor can do. `Consistent`
is the invariant of runs in which an append that reports an error records
nothing: journal and log are equal while the actor runs, and differ by one
trailing event at most when it has stopped.

An actor that has stopped keeps its application and its journal, and answers
everything with `ActorClosed`. In the source the task has ended and the channel
is closed, so the answer comes from the handle.

## Main definitions

* `AppendOutcome`: What the journal does with an append.
* `MarketActor`: The application, the journal, the counters and whether the
  actor runs.
* `MarketActor.persistAndApply`: An event journaled and then applied.
* `MarketActor.handleCommand`: One command of a running actor.
* `MarketActor.step`: One command sent to the mailbox.
* `MarketCommand.derive`: The event a command derives, with its reply.
* `Consistent`: Journal and log agree, up to a trailing event of an actor that
  has stopped.

## Theorems

* `step_cases`: What one step of a running actor can do.
* `step_consistent`: A step keeps journal and log consistent.
* `actor_writeAhead`: The journal is ahead of the log by nothing the actor
  survives.
-/

namespace SolanaLab

namespace Exchange

open Checked

/-- What a command is answered with when it succeeds. -/
inductive MarketReply where
  | depositCredited
  | orderPlaced (fills : List Fill)
  | snapshot (eventCount : Nat)
  | shutdown
deriving DecidableEq

/-- The counters, which wrap around. -/
structure RuntimeMetrics where
  commandsReceived : Word 64
  commandsAccepted : Word 64
  commandsRejected : Word 64
  journalAppendFailures : Word 64
  applyAfterAppendFailures : Word 64
deriving DecidableEq

namespace RuntimeMetrics

/-- `RuntimeMetrics::default`. -/
def default : RuntimeMetrics := ⟨0, 0, 0, 0, 0⟩

/-- `RuntimeMetrics::record_command_received`. -/
def recordCommandReceived (m : RuntimeMetrics) : RuntimeMetrics :=
  { m with commandsReceived := m.commandsReceived + 1 }

/-- `RuntimeMetrics::record_command_accepted`. -/
def recordCommandAccepted (m : RuntimeMetrics) : RuntimeMetrics :=
  { m with commandsAccepted := m.commandsAccepted + 1 }

/-- `RuntimeMetrics::record_command_rejected`. -/
def recordCommandRejected (m : RuntimeMetrics) : RuntimeMetrics :=
  { m with commandsRejected := m.commandsRejected + 1 }

/-- `RuntimeMetrics::record_journal_append_failure`. -/
def recordJournalAppendFailure (m : RuntimeMetrics) : RuntimeMetrics :=
  { m with journalAppendFailures := m.journalAppendFailures + 1 }

/-- `RuntimeMetrics::record_apply_after_append_failure`. -/
def recordApplyAfterAppendFailure (m : RuntimeMetrics) : RuntimeMetrics :=
  { m with applyAfterAppendFailures := m.applyAfterAppendFailures + 1 }

end RuntimeMetrics

/-- What can be sent to the mailbox, without the channel on which the answer
    goes back. -/
inductive MarketCommand where
  | creditDeposit (commandId : CommandId) (traderId : TraderId) (assetId : AssetId)
      (amount : BalanceAmount)
  | placeOrder (commandId : CommandId) (order : Order)
  | snapshot
  | shutdown
deriving DecidableEq

/-- What the journal does with an append: it records the event and says so, it
    fails and records nothing, or it records the event and fails to say so. The
    last one is a database whose answer is lost, or an error after the write. -/
inductive AppendOutcome where
  | recorded
  | failed
  | ambiguous
deriving DecidableEq

/-- `EventJournal::append`, with the outcome given. -/
def AppendOutcome.append (outcome : AppendOutcome) (journal : List Event) (event : Event) :
    Except ApplicationError Unit × List Event :=
  match outcome with
  | .recorded => (.ok (), journal ++ [event])
  | .failed => (.error .journalAppendFailed, journal)
  | .ambiguous => (.error .journalAppendFailed, journal ++ [event])

/-- The application, the journal and the counters of an actor, and whether it
    still takes commands. -/
structure MarketActor where
  app : ExchangeApplication
  journal : List Event
  metrics : RuntimeMetrics
  running : Bool
deriving DecidableEq

namespace MarketActor

/-- `MarketActorHandle::spawn_from_app`. -/
def spawnFromApp (app : ExchangeApplication) (journal : List Event) : MarketActor :=
  { app, journal, metrics := RuntimeMetrics.default, running := true }

/-- The counters after an answer to a deposit or an order. -/
def recordReply (m : RuntimeMetrics) : Except ApplicationError MarketReply → RuntimeMetrics
  | .ok _ => m.recordCommandAccepted
  | .error _ => m.recordCommandRejected

/-- `persist_and_apply`: the answer, whether to stop, and the actor. The append
    comes first, so an event that is applied is always in the journal. -/
def persistAndApply (outcome : AppendOutcome) (actor : MarketActor) (event : Event)
    (successReply : MarketReply) :
    (Except ApplicationError MarketReply × Bool) × MarketActor :=
  match outcome.append actor.journal event with
  -- An append that fails may have been carried out all the same.
  | (.error _, journal) =>
    ((.error .journalAppendFailed, false),
      { actor with journal, metrics := actor.metrics.recordJournalAppendFailure })
  | (.ok (), journal) =>
    -- The event is recorded; if it cannot be applied the actor stops.
    match actor.app.applyEvent event with
    | (.ok (), app) => ((.ok successReply, false), { actor with journal, app })
    | (.error e, app) =>
      ((.error e, true),
        { actor with journal, app, metrics := actor.metrics.recordApplyAfterAppendFailure })

/-- `handle_command`: the answer, whether to stop, and the actor. -/
def handleCommand (outcome : AppendOutcome) (actor : MarketActor) :
    MarketCommand → (Except ApplicationError MarketReply × Bool) × MarketActor
  | .creditDeposit commandId traderId assetId amount =>
    match actor.app.creditDepositEvent commandId traderId assetId amount with
    | .ok event =>
      let r := actor.persistAndApply outcome event .depositCredited
      (r.1, { r.2 with metrics := recordReply r.2.metrics r.1.1 })
    | .error e =>
      ((.error e, false), { actor with metrics := actor.metrics.recordCommandRejected })
  | .placeOrder commandId order =>
    match actor.app.placeOrderEvent commandId order with
    | .ok (event, fills) =>
      let r := actor.persistAndApply outcome event (.orderPlaced fills)
      (r.1, { r.2 with metrics := recordReply r.2.metrics r.1.1 })
    | .error e =>
      ((.error e, false), { actor with metrics := actor.metrics.recordCommandRejected })
  | .snapshot =>
    ((.ok (.snapshot actor.app.events.length), false),
      { actor with metrics := actor.metrics.recordCommandAccepted })
  | .shutdown =>
    ((.ok .shutdown, true), { actor with metrics := actor.metrics.recordCommandAccepted })

/-- A command sent to the mailbox, as `run_market_actor` takes it. The mailbox
    of an actor that has stopped is closed. -/
def step (actor : MarketActor) (input : MarketCommand × AppendOutcome) :
    Except ApplicationError MarketReply × MarketActor :=
  if actor.running then
    let received := { actor with metrics := actor.metrics.recordCommandReceived }
    let r := received.handleCommand input.2 input.1
    (r.1.1, { r.2 with running := !r.1.2 })
  else (.error .actorClosed, actor)

end MarketActor

/-- The event a command derives in a state, with the reply that announces it.
    Snapshots and shutdowns derive none. -/
def MarketCommand.derive (app : ExchangeApplication) :
    MarketCommand → Option (Except ApplicationError (Event × MarketReply))
  | .creditDeposit commandId traderId assetId amount =>
    some ((app.creditDepositEvent commandId traderId assetId amount).map
      (fun event => (event, .depositCredited)))
  | .placeOrder commandId order =>
    some ((app.placeOrderEvent commandId order).map (fun r => (r.1, .orderPlaced r.2)))
  | .snapshot => none
  | .shutdown => none

/-- A deposit or an order. These are the commands that can write. -/
def MarketCommand.Changes : MarketCommand → Prop
  | .creditDeposit _ _ _ _ => True
  | .placeOrder _ _ => True
  | .snapshot => False
  | .shutdown => False

instance : (command : MarketCommand) → Decidable command.Changes
  | .creditDeposit _ _ _ _ => inferInstanceAs (Decidable True)
  | .placeOrder _ _ => inferInstanceAs (Decidable True)
  | .snapshot => inferInstanceAs (Decidable False)
  | .shutdown => inferInstanceAs (Decidable False)

namespace MarketActor

open ExchangeApplication

/-- A stopped actor changes nothing and answers that it is closed. -/
theorem step_stopped {actor : MarketActor} (h : actor.running = false)
    (input : MarketCommand × AppendOutcome) : actor.step input = (.error .actorClosed, actor) := by
  rw [step, h]
  rfl

/-- What journaling and applying an event can do. -/
theorem persistAndApply_cases (outcome : AppendOutcome) (actor : MarketActor) (event : Event)
    (success : MarketReply) :
    let r := actor.persistAndApply outcome event success
    (outcome = .failed ∧ r.1 = (.error .journalAppendFailed, false) ∧
      r.2.app = actor.app ∧ r.2.journal = actor.journal) ∨
    (outcome = .ambiguous ∧ r.1 = (.error .journalAppendFailed, false) ∧
      r.2.app = actor.app ∧ r.2.journal = actor.journal ++ [event]) ∨
    (outcome = .recorded ∧ r.1 = (.ok success, false) ∧
      actor.app.applyEvent event = (.ok (), r.2.app) ∧
      r.2.journal = actor.journal ++ [event]) ∨
    ∃ e, outcome = .recorded ∧ r.1 = (.error e, true) ∧
      actor.app.applyEvent event = (.error e, r.2.app) ∧
      r.2.journal = actor.journal ++ [event] := by
  intro r
  cases outcome with
  | failed => exact Or.inl ⟨rfl, rfl, rfl, rfl⟩
  | ambiguous => exact Or.inr (Or.inl ⟨rfl, rfl, rfl, rfl⟩)
  | recorded =>
      right
      right
      -- The event is on disk; what is left is to apply it.
      rcases ha : actor.app.applyEvent event with ⟨e | ⟨⟩, app⟩
      · right
        have hr : r = ((.error e, true), { actor with
            journal := actor.journal ++ [event], app := app,
            metrics := actor.metrics.recordApplyAfterAppendFailure }) := by
          simp only [r, persistAndApply, AppendOutcome.append, ha]
        rw [hr]
        exact ⟨e, rfl, rfl, rfl, rfl⟩
      · left
        have hr : r = ((.ok success, false),
            { actor with journal := actor.journal ++ [event], app := app }) := by
          simp only [r, persistAndApply, AppendOutcome.append, ha]
        rw [hr]
        exact ⟨rfl, rfl, rfl, rfl⟩

/-- A deposit or an order derives an event or an error, and is answered from it.
    Both commands are the same from here on, which saves every later proof the
    distinction. -/
theorem handleCommand_derive (outcome : AppendOutcome) (actor : MarketActor)
    {command : MarketCommand} (h : command.Changes) :
    (∃ e, command.derive actor.app = some (.error e) ∧
      actor.handleCommand outcome command = ((.error e, false),
        { actor with metrics := actor.metrics.recordCommandRejected })) ∨
    ∃ event success, command.derive actor.app = some (.ok (event, success)) ∧
      let r := actor.persistAndApply outcome event success
      actor.handleCommand outcome command
        = (r.1, { r.2 with metrics := recordReply r.2.metrics r.1.1 }) := by
  cases command with
  | creditDeposit c t a amount =>
      cases hevent : actor.app.creditDepositEvent c t a amount with
      | error e =>
          left
          refine ⟨e, ?_, ?_⟩
          · rw [MarketCommand.derive, hevent]
            rfl
          · rw [handleCommand, hevent]
      | ok event =>
          right
          refine ⟨event, .depositCredited, ?_, ?_⟩
          · rw [MarketCommand.derive, hevent]
            rfl
          · rw [handleCommand, hevent]
  -- An order is handled as a deposit is, except that its reply has the fills.
  | placeOrder c order =>
      cases hevent : actor.app.placeOrderEvent c order with
      | error e =>
          left
          refine ⟨e, ?_, ?_⟩
          · rw [MarketCommand.derive, hevent]
            rfl
          · rw [handleCommand, hevent]
      | ok r =>
          right
          refine ⟨r.1, .orderPlaced r.2, ?_, ?_⟩
          · rw [MarketCommand.derive, hevent]
            rfl
          · rw [handleCommand, hevent]
  -- The remaining commands change nothing.
  | snapshot => exact absurd h id
  | shutdown => exact absurd h id

/-- What one step of a running actor can do. It leaves application and journal
    alone; or an event is derived and the append fails with the event
    recorded; or the event is recorded and applied; or it is recorded and does
    not apply, and the actor stops. -/
theorem step_cases {actor : MarketActor} (hrun : actor.running = true) (command : MarketCommand)
    (outcome : AppendOutcome) :
    let r := actor.step (command, outcome)
    (r.2.app = actor.app ∧ r.2.journal = actor.journal ∧
      (command.Changes → (∃ e, r.1 = .error e) ∧ r.2.running = true) ∧
      (¬ command.Changes → ∃ reply, r.1 = .ok reply)) ∨
    ∃ event success, command.Changes ∧ command.derive actor.app = some (.ok (event, success)) ∧
      ((outcome = .ambiguous ∧ r.1 = .error .journalAppendFailed ∧ r.2.app = actor.app ∧
        r.2.journal = actor.journal ++ [event] ∧ r.2.running = true) ∨
      (outcome = .recorded ∧ r.1 = .ok success ∧
        actor.app.applyEvent event = (.ok (), r.2.app) ∧
        r.2.journal = actor.journal ++ [event] ∧ r.2.running = true) ∨
      ∃ e, outcome = .recorded ∧ r.1 = .error e ∧
        actor.app.applyEvent event = (.error e, r.2.app) ∧
        r.2.journal = actor.journal ++ [event] ∧ r.2.running = false) := by
  intro r
  -- Receiving a command only counts it.
  let received := { actor with metrics := actor.metrics.recordCommandReceived }
  have hstep : r = ((received.handleCommand outcome command).1.1,
      { (received.handleCommand outcome command).2 with
        running := !(received.handleCommand outcome command).1.2 }) := by
    simp only [r, step, hrun, if_true, received]
  by_cases hchanges : command.Changes
  · -- Either no event is derived, or the answer of the journal decides.
    rcases handleCommand_derive outcome received hchanges with
      ⟨e, hderive, hhandle⟩ | ⟨event, success, hderive, hhandle⟩
    · left
      rw [hstep, hhandle]
      exact ⟨rfl, rfl, fun _ => ⟨⟨e, rfl⟩, rfl⟩, fun hn => absurd hchanges hn⟩
    · simp only at hhandle
      rcases persistAndApply_cases outcome received event success with
        ⟨-, hr, happ, hjournal⟩ | ⟨hout, hr, happ, hjournal⟩ | ⟨hout, hr, happ, hjournal⟩ |
        ⟨e, hout, hr, happ, hjournal⟩ <;> rw [hr] at hhandle <;> rw [hstep, hhandle]
      · exact Or.inl ⟨happ, hjournal, fun _ => ⟨⟨_, rfl⟩, rfl⟩, fun hn => absurd hchanges hn⟩
      · exact Or.inr ⟨event, success, hchanges, hderive,
          Or.inl ⟨hout, rfl, happ, hjournal, rfl⟩⟩
      · exact Or.inr ⟨event, success, hchanges, hderive,
          Or.inr (Or.inl ⟨hout, rfl, happ, hjournal, rfl⟩)⟩
      · exact Or.inr ⟨event, success, hchanges, hderive,
          Or.inr (Or.inr ⟨e, hout, rfl, happ, hjournal, rfl⟩)⟩
  -- A snapshot and a shutdown touch neither journal nor application.
  · left
    rw [hstep]
    cases command with
    | creditDeposit c t a amount => exact absurd trivial hchanges
    | placeOrder c order => exact absurd trivial hchanges
    | snapshot => exact ⟨rfl, rfl, fun h => absurd h hchanges, fun _ => ⟨_, rfl⟩⟩
    | shutdown => exact ⟨rfl, rfl, fun h => absurd h hchanges, fun _ => ⟨_, rfl⟩⟩

/-- The event a command derives, spelled out. -/
theorem derive_eq_ok {app : ExchangeApplication} {command : MarketCommand} {event : Event}
    {success : MarketReply} (h : command.derive app = some (.ok (event, success))) :
    (∃ c t a amount, command = .creditDeposit c t a amount ∧
      event = .depositCredited c t a amount ∧ success = .depositCredited ∧
      c ∉ app.seenCommands) ∨
    ∃ c order fills placed, command = .placeOrder c order ∧
      event = .orderPlaced c order fills ∧ success = .orderPlaced fills ∧
      c ∉ app.seenCommands ∧ app.placeOrderInDomain order = (.ok fills, placed) := by
  cases command with
  | creditDeposit c t a amount =>
      left
      cases hevent : app.creditDepositEvent c t a amount with
      | error e =>
          rw [MarketCommand.derive, hevent] at h
          exact absurd h (by simp only [Except.map, Option.some.injEq, reduceCtorEq,
            not_false_eq_true])
      | ok event' =>
          rw [MarketCommand.derive, hevent] at h
          simp only [Except.map, Option.some.injEq, Except.ok.injEq, Prod.mk.injEq] at h
          -- The event carries the command's own fields.
          rcases creditDepositEvent_eq_ok.mp hevent with ⟨hc, heq⟩
          exact ⟨c, t, a, amount, rfl, h.1.symm.trans heq, h.2.symm, hc⟩
  | placeOrder c order =>
      right
      cases hevent : app.placeOrderEvent c order with
      | error e =>
          rw [MarketCommand.derive, hevent] at h
          exact absurd h (by simp only [Except.map, Option.some.injEq, reduceCtorEq,
            not_false_eq_true])
      | ok r =>
          rcases r with ⟨event', fills⟩
          rw [MarketCommand.derive, hevent] at h
          simp only [Except.map, Option.some.injEq, Except.ok.injEq, Prod.mk.injEq] at h
          -- The fills recorded are those the copy of the application produced.
          rcases placeOrderEvent_eq_ok.mp hevent with ⟨hc, heq, placed, hplaced⟩
          exact ⟨c, order, fills, placed, rfl, h.1.symm.trans heq, h.2.symm, hc, hplaced⟩
  | snapshot => exact absurd h (by simp only [MarketCommand.derive, reduceCtorEq,
      not_false_eq_true])
  | shutdown => exact absurd h (by simp only [MarketCommand.derive, reduceCtorEq,
      not_false_eq_true])

/-- A derived event has a new command id, and one that does not apply leaves
    the application as it was. -/
theorem derive_ok {app : ExchangeApplication} {command : MarketCommand} {event : Event}
    {success : MarketReply} (h : command.derive app = some (.ok (event, success))) :
    event.commandId ∉ app.seenCommands ∧
      ∀ e, (app.applyEvent event).1 = .error e → (app.applyEvent event).2 = app := by
  rcases derive_eq_ok h with
    ⟨c, t, a, amount, -, rfl, -, hc⟩ | ⟨c, order, fills, placed, -, rfl, -, hc, hplaced⟩
  · exact ⟨hc, fun e he => applyEvent_deposit_error he⟩
  · refine ⟨hc, fun e he => ?_⟩
    rw [applyEvent_order.mpr ⟨hc, placed, hplaced, rfl⟩] at he
    exact absurd he (by simp only [reduceCtorEq, not_false_eq_true])

/-! ### Write-ahead -/

/-- The log rebuilds the application, and the journal is the log, with one
    trailing event of a new command id at most in an actor that has stopped. The
    trailing event is one that was journaled and then did not apply. -/
structure Consistent (actor : MarketActor) : Prop where
  logged : actor.app.Logged
  journal : actor.journal = actor.app.events ∨
    actor.running = false ∧ ∃ event, event.commandId ∉ actor.app.seenCommands ∧
      actor.journal = actor.app.events ++ [event]

/-- An actor spawned from the replay of its journal is consistent: the log of
    the application is that journal. -/
theorem spawnFromApp_consistent {market : MarketSpec} {journal : List Event}
    {app : ExchangeApplication} (h : replay market journal = .ok app) :
    (spawnFromApp app journal).Consistent := by
  rcases replay_logged h with ⟨hlogged, -, hevents⟩
  exact ⟨hlogged, Or.inl hevents.symm⟩

/-- A step whose append is not ambiguous keeps journal and log consistent. -/
theorem step_consistent {actor : MarketActor} (h : actor.Consistent) (command : MarketCommand)
    {outcome : AppendOutcome} (hout : outcome ≠ .ambiguous) :
    (actor.step (command, outcome)).2.Consistent := by
  by_cases hrun : actor.running = true
  · -- A running actor has applied all it recorded.
    have heq : actor.journal = actor.app.events := by
      rcases h.journal with heq | ⟨hstop, -⟩
      · exact heq
      · rw [hrun] at hstop
        exact absurd hstop (by simp only [Bool.true_eq_false, not_false_eq_true])
    rcases step_cases hrun command outcome with
      ⟨happ, hjournal, -, -⟩ | ⟨event, success, -, hderive, hamb | hrec | ⟨e, hrec⟩⟩
    · exact ⟨by rw [happ]; exact h.logged, Or.inl (by rw [happ, hjournal, heq])⟩
    · exact absurd hamb.1 hout
    · rcases hrec with ⟨-, -, ha, hjournal, -⟩
      refine ⟨applyEvent_logged h.logged ha, Or.inl ?_⟩
      rw [hjournal, (applyEvent_ok ha).2.2.1, heq]
    · rcases hrec with ⟨-, -, ha, hjournal, hstop⟩
      -- Recorded but not applied: the actor stops one event behind its journal.
      have hsame := (derive_ok hderive).2 e (congrArg Prod.fst ha)
      rw [ha] at hsame
      simp only at hsame
      refine ⟨by rw [hsame]; exact h.logged, Or.inr ⟨hstop, event, ?_, ?_⟩⟩
      · rw [hsame]
        exact (derive_ok hderive).1
      · rw [hjournal, hsame, heq]
  · rw [Bool.not_eq_true] at hrun
    rw [step_stopped hrun]
    exact h

/-- No id is journaled twice, the trailing event included. -/
theorem Consistent.nodup {actor : MarketActor} (h : actor.Consistent) :
    (actor.journal.map Event.commandId).Nodup := by
  rcases h.journal with heq | ⟨-, event, hnew, heq⟩
  · rw [heq]
    exact h.logged.distinct
  · rw [heq, List.map_append, List.nodup_append]
    refine ⟨h.logged.distinct, List.nodup_singleton _, fun x hx y hy => ?_⟩
    rw [List.mem_singleton.mp hy]
    rintro rfl
    exact hnew ((h.logged.seen _).mpr hx)

/-- What the answer to a command says, when its append is not ambiguous. An
    error leaves the application as it was. A deposit or an order is answered
    with success exactly when the event it derives is added to journal and
    log, and then with the reply of that event. -/
theorem step_answer {actor : MarketActor} (command : MarketCommand) {outcome : AppendOutcome}
    (hout : outcome ≠ .ambiguous) :
    let r := actor.step (command, outcome)
    (∀ e, r.1 = .error e → r.2.app = actor.app) ∧
    (command.Changes → ((∃ reply, r.1 = .ok reply) ↔
      ∃ event success, command.derive actor.app = some (.ok (event, success)) ∧
        r.2.journal = actor.journal ++ [event] ∧
        r.2.app.events = actor.app.events ++ [event])) ∧
    (command.Changes → ∀ reply, r.1 = .ok reply →
      ∃ event, command.derive actor.app = some (.ok (event, reply))) := by
  intro r
  -- An answer is told apart by whether the log grew.
  have hne : ∀ (l : List Event) (event : Event), l ≠ l ++ [event] := fun l event heq => by
    have := congrArg List.length heq
    rw [List.length_append, List.length_singleton] at this
    omega
  by_cases hrun : actor.running = true
  · rcases step_cases hrun command outcome with
      ⟨happ, hjournal, hfail, -⟩ | ⟨event, success, -, hderive, hamb | hrec | ⟨e, hrec⟩⟩
    · refine ⟨fun e _ => happ, fun hchanges => ?_, fun hchanges reply hreply => ?_⟩
      · -- Nothing was derived or written, and the caller was told so.
        rcases hfail hchanges with ⟨⟨e, he⟩, -⟩
        constructor
        · rintro ⟨reply, hreply⟩
          exact absurd (he.symm.trans hreply) (by simp only [reduceCtorEq, not_false_eq_true])
        · rintro ⟨event, -, -, hboth, -⟩
          exact absurd (hjournal.symm.trans hboth) (hne _ event)
      · rcases hfail hchanges with ⟨⟨e, he⟩, -⟩
        exact absurd (he.symm.trans hreply) (by simp only [reduceCtorEq, not_false_eq_true])
    · exact absurd hamb.1 hout
    · rcases hrec with ⟨-, hok, ha, hjournal, -⟩
      refine ⟨fun e he => ?_, fun _ => ?_, fun _ reply hreply => ?_⟩
      · exact absurd (hok.symm.trans he) (by simp only [reduceCtorEq, not_false_eq_true])
      · exact iff_of_true ⟨success, hok⟩
          ⟨event, success, hderive, hjournal, (applyEvent_ok ha).2.2.1⟩
      · have heq := hok.symm.trans hreply
        rw [Except.ok.injEq] at heq
        exact ⟨event, by rw [← heq]; exact hderive⟩
    -- The event was journaled and did not apply, which leaves the application as it was.
    · rcases hrec with ⟨-, herr, ha, -, -⟩
      have hsame := (derive_ok hderive).2 e (congrArg Prod.fst ha)
      rw [ha] at hsame
      refine ⟨fun _ _ => hsame, fun _ => ?_, fun _ reply hreply => ?_⟩
      · constructor
        · rintro ⟨reply, hreply⟩
          exact absurd (herr.symm.trans hreply) (by simp only [reduceCtorEq, not_false_eq_true])
        · rintro ⟨event', -, -, -, hboth⟩
          have hevents : r.2.app.events = actor.app.events :=
            congrArg ExchangeApplication.events hsame
          exact absurd (hevents.symm.trans hboth) (hne _ event')
      · exact absurd (herr.symm.trans hreply) (by simp only [reduceCtorEq, not_false_eq_true])
  -- A stopped actor answers that it is closed.
  · rw [Bool.not_eq_true] at hrun
    have hr : r = (.error .actorClosed, actor) := step_stopped hrun (command, outcome)
    rw [hr]
    refine ⟨fun _ _ => rfl, fun _ => ?_, fun _ reply hreply => ?_⟩
    · constructor
      · rintro ⟨reply, hreply⟩
        exact absurd hreply (by simp only [reduceCtorEq, not_false_eq_true])
      · rintro ⟨event, -, -, hboth, -⟩
        exact absurd hboth (hne _ event)
    · exact absurd hreply (by simp only [reduceCtorEq, not_false_eq_true])

/-- The runs of an actor spawned from its journal, with appends that record
    nothing when they report an error. While the actor runs, journal and log
    are equal; they differ by one trailing event at most, and then the actor
    has stopped and handles nothing more. No command id is journaled twice. A
    deposit or an order is answered with success exactly when its event has
    been added to both, and an error leaves the application as it was. -/
theorem actor_writeAhead (market : MarketSpec) (journal : List Event) (app : ExchangeApplication)
    (hreplay : replay market journal = .ok app) (inputs : List (MarketCommand × AppendOutcome))
    (hinputs : ∀ input ∈ inputs, input.2 ≠ .ambiguous) :
    let actor := Run.after step (spawnFromApp app journal) inputs
    (actor.running = true → actor.journal = actor.app.events) ∧
    (actor.journal = actor.app.events ∨ actor.running = false ∧
      ∃ event, actor.journal = actor.app.events ++ [event]) ∧
    (actor.running = false → ∀ input, actor.step input = (.error .actorClosed, actor)) ∧
    (actor.journal.map Event.commandId).Nodup ∧
    ∀ command outcome, outcome ≠ .ambiguous →
      let r := actor.step (command, outcome)
      (∀ e, r.1 = .error e → r.2.app = actor.app) ∧
      (command.Changes → ((∃ reply, r.1 = .ok reply) ↔
        ∃ event success, command.derive actor.app = some (.ok (event, success)) ∧
          r.2.journal = actor.journal ++ [event] ∧
          r.2.app.events = actor.app.events ++ [event])) ∧
      (command.Changes → ∀ reply, r.1 = .ok reply →
        ∃ event, command.derive actor.app = some (.ok (event, reply))) := by
  intro actor
  -- Consistency holds at the spawn and every step that is not ambiguous keeps it.
  have hconsistent : actor.Consistent :=
    Run.invariant_along step (P := fun _ actor => actor.Consistent)
      (spawnFromApp_consistent hreplay)
      (fun _ actor input h hinput => step_consistent h input.1 hinput)
      (Run.along_of_forall step hinputs _)
  refine ⟨fun hrun => ?_, ?_, fun hstop input => step_stopped hstop input, hconsistent.nodup,
    fun command outcome hout => step_answer command hout⟩
  · rcases hconsistent.journal with heq | ⟨hstop, -⟩
    · exact heq
    · rw [hrun] at hstop
      exact absurd hstop (by simp only [Bool.true_eq_false, not_false_eq_true])
  · rcases hconsistent.journal with heq | ⟨hstop, event, -, heq⟩
    · exact Or.inl heq
    · exact Or.inr ⟨hstop, event, heq⟩

/-- A deposit that fills the balance, one whose append fails, and one that is
    journaled, does not fit and stops the actor. -/
theorem actor_writeAhead_stops :
    let deposit := fun (commandId : CommandId) (amount : BalanceAmount) =>
      MarketCommand.creditDeposit commandId ⟨1, by decide⟩ ⟨1, by decide⟩ amount
    let actor := Run.after step (spawnFromApp (new sampleMarket) [])
      [(deposit ⟨1, by decide⟩ (Word.maxValue 64), .recorded),
        (deposit ⟨2, by decide⟩ 1, .failed), (deposit ⟨3, by decide⟩ 1, .recorded)]
    actor.running = false ∧ (actor.journal.map Event.commandId).Nodup ∧
      ∀ input, actor.step input = (.error .actorClosed, actor) := by
  intro deposit actor
  have h := actor_writeAhead sampleMarket [] (new sampleMarket) rfl
    [(deposit ⟨1, by decide⟩ (Word.maxValue 64), .recorded),
      (deposit ⟨2, by decide⟩ 1, .failed), (deposit ⟨3, by decide⟩ 1, .recorded)] (by decide)
  have hstop : actor.running = false := by decide
  exact ⟨hstop, h.2.2.2.1, h.2.2.1 hstop⟩

end MarketActor

end Exchange

end SolanaLab
