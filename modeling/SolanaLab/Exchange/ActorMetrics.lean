import SolanaLab.Exchange.MarketActorHandle
import SolanaLab.Library.Counter

/-!
# What the Actor's Counters Count

The actor keeps five counters that anybody may read, and answers snapshots
with the length of its event log. Both are meant to say what has happened at
the mailbox, and `calls_counted` says that they do: after any interleaving
each counter has counted the answers it is named for, up to wrapping around,
and a snapshot counts exactly the events that were announced before it.

Which counters a command moves can be read off its answer alone, with one
exception: a failure to apply is told from a refusal only by the actor
stopping after it. So it happens at most once.

The counters are atomics with relaxed ordering in the source. Only the actor
writes them, so each has the value that its writes give in their order, and a
reader sees some prefix of them.

## Main definitions

* `Moves`: What one command does to the counters.
* `Counted`: What the counters have counted after a run.

## Theorems

* `step_moves`: A command moves the counters its answer says.
* `step_events`: A command adds to the log the event its answer announces.
* `step_counted`: The counters agree with the answers after a step as before.
* `calls_counted`: They have, whatever the interleaving.
-/

namespace SolanaLab

namespace Exchange

namespace MarketActorHandle

open MarketActor ExchangeApplication Checked Counter

open Mailbox hiding step

/-- A counter moves by one when something happened, and stays otherwise. The sum
    is one of words, so a counter at its end starts at zero again. -/
def Advances (before after : Word 64) (happened : Prop) : Prop :=
  (happened → after = before + 1) ∧ (¬ happened → after = before)

/-- What one command does to the counters of the actor. Four of them follow from
    the answer. The fifth is told from the actor stopping without having been
    asked to. -/
structure Moves (before after : RuntimeMetrics) (running : Bool)
    (answer : Except ApplicationError MarketReply) : Prop where
  received : after.commandsReceived = before.commandsReceived + 1
  accepted : Advances before.commandsAccepted after.commandsAccepted (∃ r, answer = .ok r)
  rejected : Advances before.commandsRejected after.commandsRejected (∃ e, answer = .error e)
  append : Advances before.journalAppendFailures after.journalAppendFailures
    (answer = .error .journalAppendFailed)
  apply : Advances before.applyAfterAppendFailures after.applyAfterAppendFailures
    (running = false ∧ ∃ e, answer = .error e)
  /-- A command that is accepted stops the actor when it is a shutdown. -/
  stops : ∀ r, answer = .ok r → (running = false ↔ r = .shutdown)

/-- A command that is accepted. -/
theorem Moves.of_ok {before : RuntimeMetrics} {running : Bool} {r : MarketReply}
    (hstops : running = false ↔ r = .shutdown) :
    Moves before before.recordCommandReceived.recordCommandAccepted running (.ok r) where
  received := rfl
  accepted := ⟨fun _ => rfl, fun h => absurd ⟨r, rfl⟩ h⟩
  rejected := ⟨fun ⟨e, he⟩ => absurd he (by simp only [reduceCtorEq, not_false_eq_true]),
    fun _ => rfl⟩
  append := ⟨fun h => absurd h (by simp only [reduceCtorEq, not_false_eq_true]), fun _ => rfl⟩
  apply := ⟨fun ⟨_, e, he⟩ => absurd he (by simp only [reduceCtorEq, not_false_eq_true]),
    fun _ => rfl⟩
  stops r' h := Except.ok.inj h ▸ hstops

/-- A command that is rejected, with what it says of the journal and of the
    application before that. -/
theorem Moves.of_error {before between : RuntimeMetrics} {running : Bool} {e : ApplicationError}
    (hreceived : between.commandsReceived = before.commandsReceived + 1)
    (haccepted : between.commandsAccepted = before.commandsAccepted)
    (hrejected : between.commandsRejected = before.commandsRejected)
    (happend : Advances before.journalAppendFailures between.journalAppendFailures
      (e = .journalAppendFailed))
    (happly : Advances before.applyAfterAppendFailures between.applyAfterAppendFailures
      (running = false)) :
    Moves before between.recordCommandRejected running (.error e) where
  received := hreceived
  accepted := ⟨fun ⟨r, hr⟩ => absurd hr (by simp only [reduceCtorEq, not_false_eq_true]),
    fun _ => haccepted⟩
  rejected := ⟨fun _ => congrArg (· + 1) hrejected, fun h => absurd ⟨e, rfl⟩ h⟩
  append := ⟨fun h => happend.1 (Except.error.inj h), fun h => happend.2 (fun he => h (he ▸ rfl))⟩
  apply := ⟨fun h => happly.1 h.1, fun h => happly.2 (fun hrun => h ⟨hrun, e, rfl⟩)⟩
  stops r h := absurd h (by simp only [reduceCtorEq, not_false_eq_true])

/-- What the domain refuses is no failure of the journal. -/
theorem placeOrderInDomain_ne_append (app : ExchangeApplication) (order : Order) :
    (app.placeOrderInDomain order).1 ≠ .error .journalAppendFailed := by
  unfold placeOrderInDomain
  by_cases hterm : order.isTerminal
  · rw [if_pos hterm]
    simp only [ne_eq, Except.error.injEq, reduceCtorEq, not_false_eq_true]
  rw [if_neg hterm]
  cases hr : Reservation.forOrder order app.market with
  | error e => simp only [ne_eq, Except.error.injEq, reduceCtorEq, not_false_eq_true]
  | ok reservation =>
      simp only
      rcases hb : app.balances.reserve reservation with ⟨e | ⟨⟩, balances⟩
      · simp only [ne_eq, Except.error.injEq, reduceCtorEq, not_false_eq_true]
      · simp only
        rcases hm : app.matching.placeOrder order with ⟨e | fs, matching⟩
        · simp only [ne_eq, Except.error.injEq, reduceCtorEq, not_false_eq_true]
        · simp only [ne_eq, reduceCtorEq, not_false_eq_true]

/-- The refusal of a command is no failure of the journal. So the counter of
    failed appends counts the answers that name them and no others. -/
theorem derive_ne_append {app : ExchangeApplication} {command : MarketCommand}
    {e : ApplicationError} (h : command.derive app = some (.error e)) :
    e ≠ .journalAppendFailed := by
  rintro rfl
  -- A command id seen before is the first thing a refusal can be for.
  have hdup : ∀ c : CommandId, app.rejectDuplicate c = .error .duplicateCommand ∨
      app.rejectDuplicate c = .ok () := fun c => by
    by_cases hc : c ∈ app.seenCommands
    · exact Or.inl (rejectDuplicate_of_mem hc)
    · exact Or.inr (rejectDuplicate_of_not_mem hc)
  cases command with
  | creditDeposit c t a amount =>
      rcases hdup c with hd | hd <;>
        simp only [MarketCommand.derive, creditDepositEvent, hd, Except.map, Option.some.injEq,
          Except.error.injEq, reduceCtorEq] at h
  | placeOrder c order =>
      rcases hdup c with hd | hd
      · simp only [MarketCommand.derive, placeOrderEvent, hd, Except.map, Option.some.injEq,
          Except.error.injEq, reduceCtorEq] at h
      · rcases hp : app.placeOrderInDomain order with ⟨e | fills, placed⟩
        · simp only [MarketCommand.derive, placeOrderEvent, hd, hp, Except.map, Option.some.injEq,
            Except.error.injEq] at h
          refine absurd (congrArg Prod.fst hp) ?_
          rw [h]
          exact placeOrderInDomain_ne_append app order
        · simp only [MarketCommand.derive, placeOrderEvent, hd, hp, Except.map, Option.some.injEq,
            reduceCtorEq] at h
  | snapshot => exact absurd h (by simp only [MarketCommand.derive, reduceCtorEq,
      not_false_eq_true])
  | shutdown => exact absurd h (by simp only [MarketCommand.derive, reduceCtorEq,
      not_false_eq_true])

/-- An event that does not apply is no failure of the journal. -/
theorem applyEvent_ne_append {app : ExchangeApplication} {event : Event} :
    (app.applyEvent event).1 ≠ .error .journalAppendFailed := by
  have hrecord : ∀ (app : ExchangeApplication) (event : Event),
      (app.recordAppliedEvent event).1 ≠ .error .journalAppendFailed := fun app event => by
    unfold recordAppliedEvent
    by_cases hc : event.commandId ∈ app.seenCommands
    · rw [if_pos hc]
      simp only [ne_eq, Except.error.injEq, reduceCtorEq, not_false_eq_true]
    · rw [if_neg hc]
      simp only [ne_eq, reduceCtorEq, not_false_eq_true]
  unfold applyEvent
  by_cases hc : event.commandId ∈ app.seenCommands
  · simp only [rejectDuplicate_of_mem hc, ne_eq, Except.error.injEq, reduceCtorEq,
      not_false_eq_true]
  -- The error of a journal is none that applying an event can end in.
  cases event with
  | depositCredited c t a amount =>
      rcases hb : app.balances.creditAvailable t a amount with ⟨e | ⟨⟩, balances⟩
      · simp only [rejectDuplicate_of_not_mem hc, hb, ne_eq, Except.error.injEq, reduceCtorEq,
          not_false_eq_true]
      · simp only [rejectDuplicate_of_not_mem hc, hb]
        exact hrecord _ _
  | orderPlaced c order fills =>
      have hplace := placeOrderInDomain_ne_append app order
      rcases hp : app.placeOrderInDomain order with ⟨e | replayed, placed⟩
      · rw [hp] at hplace
        simp only [rejectDuplicate_of_not_mem hc, hp]
        exact fun h => hplace (congrArg Except.error (Except.error.inj h))
      · simp only [rejectDuplicate_of_not_mem hc, hp]
        by_cases hfills : replayed = fills
        · rw [if_neg (not_not.mpr hfills)]
          exact hrecord _ _
        · rw [if_pos hfills]
          simp only [ne_eq, Except.error.injEq, reduceCtorEq, not_false_eq_true]

/-- A command moves the counters its answer says. The cases are those of the
    handler: a refusal, a failed append, an event that does not apply, a
    success, and the two commands that change nothing. -/
theorem step_moves {actor : MarketActor} (hrun : actor.running = true)
    (input : MarketCommand × AppendOutcome) :
    Moves actor.metrics (actor.step input).2.metrics (actor.step input).2.running
      (actor.step input).1 := by
  rcases input with ⟨command, outcome⟩
  let received := { actor with metrics := actor.metrics.recordCommandReceived }
  have hstep : actor.step (command, outcome) = ((received.handleCommand outcome command).1.1,
      { (received.handleCommand outcome command).2 with
        running := !(received.handleCommand outcome command).1.2 }) :=
    if_pos hrun
  by_cases hchanges : command.Changes
  · rcases handleCommand_derive outcome received hchanges with
      ⟨e, hderive, hhandle⟩ | ⟨event, success, hderive, hhandle⟩
    · -- The command is refused.
      have hne := derive_ne_append hderive
      rw [hstep, hhandle]
      exact Moves.of_error rfl rfl rfl ⟨fun h => absurd h hne, fun _ => rfl⟩
        ⟨fun h => absurd h Bool.true_eq_false.mp, fun _ => rfl⟩
    -- The journal and the application decide.
    rcases happend : outcome.append actor.journal event with ⟨e | ⟨⟩, journal⟩
    · have hr : received.persistAndApply outcome event success
          = ((.error .journalAppendFailed, false), { received with
              journal := journal, metrics := received.metrics.recordJournalAppendFailure }) := by
        simp only [persistAndApply, received, happend]
      rw [hr] at hhandle
      rw [hstep, hhandle]
      exact Moves.of_error rfl rfl rfl ⟨fun _ => rfl, fun h => absurd rfl h⟩
        ⟨fun h => absurd h Bool.true_eq_false.mp, fun _ => rfl⟩
    -- The event is in the journal. If it does not apply, the actor counts it and stops.
    rcases ha : actor.app.applyEvent event with ⟨e | ⟨⟩, app⟩
    · have hne : e ≠ .journalAppendFailed := by
        rintro rfl
        exact applyEvent_ne_append (congrArg Prod.fst ha)
      have hr : received.persistAndApply outcome event success
          = ((.error e, true), { received with
              journal := journal, app := app,
              metrics := received.metrics.recordApplyAfterAppendFailure }) := by
        simp only [persistAndApply, received, happend, ha]
      rw [hr] at hhandle
      rw [hstep, hhandle]
      exact Moves.of_error rfl rfl rfl ⟨fun h => absurd h hne, fun _ => rfl⟩
        ⟨fun _ => rfl, fun h => absurd rfl h⟩
    · have hr : received.persistAndApply outcome event success
          = ((.ok success, false), { received with journal := journal, app := app }) := by
        simp only [persistAndApply, received, happend, ha]
      rw [hr] at hhandle
      rw [hstep, hhandle]
      refine Moves.of_ok (iff_of_false Bool.true_eq_false.mp ?_)
      rcases derive_eq_ok hderive with
        ⟨_, _, _, _, -, -, rfl, -⟩ | ⟨_, _, _, _, -, -, rfl, -⟩
      · simp only [reduceCtorEq, not_false_eq_true]
      · simp only [reduceCtorEq, not_false_eq_true]
  · rw [hstep]
    cases command with
    | creditDeposit c t a amount => exact absurd trivial hchanges
    | placeOrder c order => exact absurd trivial hchanges
    | snapshot =>
        exact Moves.of_ok (iff_of_false Bool.true_eq_false.mp (by
          simp only [reduceCtorEq, not_false_eq_true]))
    | shutdown => exact Moves.of_ok (iff_of_true rfl rfl)

/-- A command adds to the log the event its answer announces, and a snapshot
    answers with the length of the log. -/
theorem step_events (actor : MarketActor) (input : MarketCommand × AppendOutcome) :
    (actor.step input).2.app.events
      = actor.app.events ++ (announced (input, (actor.step input).1)).toList ∧
    ∀ n, (actor.step input).1 = .ok (.snapshot n) → n = actor.app.events.length := by
  rcases input with ⟨command, outcome⟩
  have hsilent : ∀ {answer : Except ApplicationError MarketReply},
      announced ((command, outcome), answer) = none →
      actor.app.events
        = actor.app.events ++ (announced ((command, outcome), answer)).toList := by
    intro answer h
    rw [h, Option.toList_none, List.append_nil]
  by_cases hrun : actor.running = true
  · rcases step_cases hrun command outcome with
      ⟨happ, -, hfail, -⟩ | ⟨event, success, -, hderive, ⟨-, herr, happ, -⟩ |
        ⟨-, hok, ha, -⟩ | ⟨e, -, herr, ha, -⟩⟩
    · rw [happ]
      by_cases hchanges : command.Changes
      · rcases (hfail hchanges).1 with ⟨e, he⟩
        rw [he]
        exact ⟨hsilent (announced_error _ e),
          fun n h => absurd h (by simp only [reduceCtorEq, not_false_eq_true])⟩
      · refine ⟨hsilent (announced_of_not_changes hchanges outcome _), fun n h => ?_⟩
        -- What is left is a snapshot or a shutdown.
        cases command with
        | creditDeposit c t a amount => exact absurd trivial hchanges
        | placeOrder c order => exact absurd trivial hchanges
        | snapshot =>
            simp only [MarketActor.step, hrun, if_true, handleCommand, Except.ok.injEq,
              MarketReply.snapshot.injEq] at h
            exact h.symm
        | shutdown =>
            simp only [MarketActor.step, hrun, if_true, handleCommand, Except.ok.injEq,
              reduceCtorEq] at h
    · rw [herr, happ]
      exact ⟨hsilent (announced_error _ _),
        fun n h => absurd h (by simp only [reduceCtorEq, not_false_eq_true])⟩
    -- The event was recorded and applied, and the answer announces just this event.
    · rw [hok, announced_of_derive hderive outcome, (applyEvent_ok ha).2.2.1]
      refine ⟨rfl, fun n h => ?_⟩
      rcases derive_eq_ok hderive with
        ⟨_, _, _, _, -, -, rfl, -⟩ | ⟨_, _, _, _, -, -, rfl, -⟩
      · exact absurd h (by simp only [Except.ok.injEq, reduceCtorEq, not_false_eq_true])
      · exact absurd h (by simp only [Except.ok.injEq, reduceCtorEq, not_false_eq_true])
    -- The event was recorded and not applied, which left the log as it was.
    · have hsame := (derive_ok hderive).2 e (congrArg Prod.fst ha)
      rw [ha] at hsame
      simp only at hsame
      rw [herr, hsame]
      exact ⟨hsilent (announced_error _ _),
        fun n h => absurd h (by simp only [reduceCtorEq, not_false_eq_true])⟩
  · rw [Bool.not_eq_true] at hrun
    rw [step_stopped hrun]
    exact ⟨hsilent (announced_error _ _),
      fun n h => absurd h (by simp only [reduceCtorEq, not_false_eq_true])⟩

/-- What the counters have counted after a run. The last field is about
    stopping: the actor runs and has counted no failure to apply, or it has
    stopped after one, or after a shutdown. -/
structure Counted
    (past : List ((MarketCommand × AppendOutcome) × Except ApplicationError MarketReply))
    (actor : MarketActor) : Prop where
  received : Counts actor.metrics.commandsReceived past.length
  accepted : Counts actor.metrics.commandsAccepted (past.countP (fun e => e.2.isOk))
  rejected : Counts actor.metrics.commandsRejected (past.countP (fun e => !e.2.isOk))
  append : Counts actor.metrics.journalAppendFailures
    (past.countP (fun e => e.2 = .error .journalAppendFailed))
  /-- The actor has stopped because of one failure or because of a shutdown. -/
  apply : actor.running = true ∧ actor.metrics.applyAfterAppendFailures = 0 ∧
      (∀ e ∈ past, e.2 ≠ .ok .shutdown) ∨
    actor.running = false ∧ actor.metrics.applyAfterAppendFailures = 1 ∧
      (∀ e ∈ past, e.2 ≠ .ok .shutdown) ∨
    actor.running = false ∧ actor.metrics.applyAfterAppendFailures = 0 ∧
      ∃ e ∈ past, e.2 = .ok .shutdown

/-- A counter that has counted `n` has counted `n` or one more after a step. -/
theorem Advances.counts {before after : Word 64} {happened : Prop} {n k : Nat}
    (h : Advances before after happened) (hn : Counts before n)
    (hyes : happened → k = n + 1) (hno : ¬ happened → k = n) : Counts after k := by
  by_cases hap : happened
  · rw [h.1 hap, hyes hap]
    exact hn.succ
  · rw [h.2 hap, hno hap]
    exact hn

/-- One more entry is counted if it is of the kind. -/
theorem countP_snoc {α : Type} (p : α → Bool) (l : List α) (a : α) :
    (l ++ [a]).countP p = l.countP p + if p a then 1 else 0 := by
  rw [List.countP_append, List.countP_singleton]

/-- A command handled by a running actor keeps the counters right. -/
theorem step_counted
    {past : List ((MarketCommand × AppendOutcome) × Except ApplicationError MarketReply)}
    {actor : MarketActor} (h : Counted past actor) (input : MarketCommand × AppendOutcome)
    (hrun : actor.running = true) :
    Counted (past ++ [(input, (actor.step input).1)]) (actor.step input).2 := by
  have hmoves := step_moves hrun input
  generalize (actor.step input).1 = answer at hmoves ⊢
  -- The counters are told by whether the answer is one of success.
  have hok : (∃ r, answer = .ok r) ↔ answer.isOk = true := by
    cases answer with
    | error e => simp only [reduceCtorEq, exists_false, Except.isOk, Except.toBool,
        Bool.false_eq_true]
    | ok r => exact iff_of_true ⟨r, rfl⟩ rfl
  have herr : (∃ e, answer = .error e) ↔ ¬ answer.isOk = true := by
    cases answer with
    | error e => exact iff_of_true ⟨e, rfl⟩ Bool.false_ne_true
    | ok r => simp only [reduceCtorEq, exists_false, Except.isOk, Except.toBool,
        not_true_eq_false]
  refine ⟨?_, ?_, ?_, ?_, ?_⟩
  · rw [hmoves.received, List.length_append]
    exact h.received.succ
  · refine hmoves.accepted.counts h.accepted (fun hyes => ?_) (fun hno => ?_)
    · rw [countP_snoc, if_pos (hok.mp hyes)]
    · rw [countP_snoc, if_neg (fun hs => hno (hok.mpr hs)), Nat.add_zero]
  · refine hmoves.rejected.counts h.rejected (fun hyes => ?_) (fun hno => ?_)
    · rw [countP_snoc, if_pos (by rw [Bool.not_eq_true_eq_eq_false, ← Bool.not_eq_true]
                                  exact herr.mp hyes)]
    · rw [countP_snoc, if_neg (by rw [Bool.not_eq_true_eq_eq_false, ← Bool.not_eq_true]
                                  exact fun hs => hno (herr.mpr hs)), Nat.add_zero]
  · refine hmoves.append.counts h.append (fun hyes => ?_) (fun hno => ?_)
    · rw [countP_snoc, if_pos (decide_eq_true hyes)]
    · rw [countP_snoc, if_neg (by rw [decide_eq_true_eq]; exact hno), Nat.add_zero]
  · -- Only a running actor handles a command, so nothing had gone wrong before.
    rcases h.apply with ⟨-, hzero, hnone⟩ | ⟨hstop, -⟩ | ⟨hstop, -⟩
    · cases answer with
      | error e =>
          have hnone' : ∀ entry ∈ past ++ [(input, .error e)], entry.2 ≠ .ok .shutdown := by
            intro entry hmem
            rcases List.mem_append.mp hmem with hold | hlast
            · exact hnone entry hold
            · rw [List.mem_singleton.mp hlast]
              simp only [ne_eq, reduceCtorEq, not_false_eq_true]
          cases hgoes : (actor.step input).2.running with
          | true =>
              refine Or.inl ⟨rfl, ?_, hnone'⟩
              rw [hmoves.apply.2 (fun hboth => absurd (hgoes.symm.trans hboth.1)
                Bool.true_eq_false.mp)]
              exact hzero
          | false =>
              refine Or.inr (Or.inl ⟨rfl, ?_, hnone'⟩)
              rw [hmoves.apply.1 ⟨hgoes, e, rfl⟩, hzero]
              rfl
      | ok r =>
          have hsame : (actor.step input).2.metrics.applyAfterAppendFailures = 0 := by
            rw [hmoves.apply.2 (fun hboth => by
              rcases hboth.2 with ⟨e, he⟩
              exact absurd he (by simp only [reduceCtorEq, not_false_eq_true]))]
            exact hzero
          -- A success stops the actor only when it is the shutdown.
          by_cases hr : r = .shutdown
          · refine Or.inr (Or.inr ⟨(hmoves.stops r rfl).mpr hr, hsame, (input, .ok r),
              List.mem_append_right _ List.mem_cons_self, congrArg Except.ok hr⟩)
          · refine Or.inl ⟨?_, hsame, fun entry hmem => ?_⟩
            · rw [← Bool.not_eq_false]
              exact fun hstop => hr ((hmoves.stops r rfl).mp hstop)
            · rcases List.mem_append.mp hmem with hold | hlast
              · exact hnone entry hold
              · rw [List.mem_singleton.mp hlast]
                exact fun heq => hr (Except.ok.inj heq)
    · exact absurd (hrun.symm.trans hstop) Bool.true_eq_false.mp
    · exact absurd (hrun.symm.trans hstop) Bool.true_eq_false.mp

/-- An actor that was just spawned has counted nothing. -/
theorem spawnFromApp_counted (app : ExchangeApplication) (journal : List Event) :
    Counted [] (spawnFromApp app journal) :=
  ⟨counts_zero, counts_zero, counts_zero, counts_zero,
    Or.inl ⟨rfl, rfl, fun _ he => absurd he List.not_mem_nil⟩⟩

/-- After any commands handled by a running actor, the log is what it was and
    what was announced. -/
theorem run_events (app : ExchangeApplication) (journal : List Event)
    (inputs : List (MarketCommand × AppendOutcome)) :
    (Run.after MarketActor.step (spawnFromApp app journal) inputs).app.events
      = app.events ++ (Run.log MarketActor.step (spawnFromApp app journal) inputs).filterMap
        announced := by
  refine Run.invariant MarketActor.step
    (P := fun past actor => actor.app.events = app.events ++ past.filterMap announced)
    (List.append_nil _).symm (fun past actor input h => ?_) inputs
  rw [(step_events actor input).1, h, List.filterMap_append, List.append_assoc]
  cases hnew : announced (input, (actor.step input).1) with
  | none => rw [List.filterMap_cons_none hnew, List.filterMap_nil, Option.toList_none]
  | some event => rw [List.filterMap_cons_some hnew, List.filterMap_nil, Option.toList_some]

/-- The events of the log are those of the start and those announced since. -/
theorem events_eq (app : ExchangeApplication) (journal : List Event) (capacity : Nat)
    (moves : List (Move MarketCommand AppendOutcome)) :
    (Run.after (Mailbox.step server capacity) (.start (spawnFromApp app journal))
      moves).state.app.events
      = app.events ++ (served (Run.log (Mailbox.step server capacity)
        (.start (spawnFromApp app journal)) moves)).filterMap
          (fun e => announced (e.input, e.answer)) := by
  have hkept := run_kept server capacity (spawnFromApp app journal) moves
  have hstate := hkept.state
  have hlog := hkept.replies
  change _ = Run.after MarketActor.step _ _ at hstate
  change Run.log MarketActor.step _ _ = _ at hlog
  rw [hstate, run_events, hlog, List.filterMap_map]
  rfl

/-- The event of a call that was answered with success is in the log. -/
theorem answered_event {app : ExchangeApplication} {journal : List Event} {capacity : Nat}
    {moves : List (Move MarketCommand AppendOutcome)} {i : Nat} {command : MarketCommand}
    {r : MarketReply} {event : Event}
    (hcall : (Run.after (Mailbox.step server capacity) (.start (spawnFromApp app journal))
      moves).calls[i]? = some (.answered (.ok r)))
    (hcommand : (invoked (Run.log (Mailbox.step server capacity)
      (.start (spawnFromApp app journal)) moves))[i]? = some command)
    (hevent : ∀ outcome, announced ((command, outcome), .ok r) = some event) :
    event ∈ (Run.after (Mailbox.step server capacity) (.start (spawnFromApp app journal))
      moves).state.app.events := by
  have hkept := run_kept server capacity (spawnFromApp app journal) moves
  rcases hkept.fate i _ hcall with ⟨e, he, rfl, hanswer⟩
  have hinput := Option.some.inj ((hkept.commands e he).symm.trans hcommand)
  rw [events_eq]
  refine List.mem_append_right _ (List.mem_filterMap.mpr ⟨e, he, ?_⟩)
  have hannounced := hevent e.input.2
  rw [← hinput, ← hanswer] at hannounced
  exact hannounced

/-- A snapshot counts the events of the start and those announced before it. -/
theorem snapshot_events {app : ExchangeApplication} {journal : List Event} {capacity : Nat}
    {moves : List (Move MarketCommand AppendOutcome)}
    {before after : List (Served MarketCommand AppendOutcome (Except ApplicationError MarketReply))}
    {e : Served MarketCommand AppendOutcome (Except ApplicationError MarketReply)} {n : Nat}
    (hsplit : served (Run.log (Mailbox.step server capacity) (.start (spawnFromApp app journal))
      moves) = before ++ e :: after)
    (hsnapshot : e.answer = .ok (.snapshot n)) :
    n = app.events.length
      + (before.filterMap (fun e => announced (e.input, e.answer))).length := by
  have hlog := (run_kept server capacity (spawnFromApp app journal) moves).replies
  change Run.log MarketActor.step _ _ = _ at hlog
  -- The snapshot is answered in the state that the commands before it lead to.
  rw [hsplit, List.map_append, List.map_cons, Run.log_append, List.map_append] at hlog
  have hparts := List.append_inj hlog (by
    rw [← List.length_map (f := Prod.fst), Run.log_inputs, List.length_map, List.length_map])
  have hhead := hparts.2
  rw [Run.log, List.map_cons, List.cons.injEq, Prod.mk.injEq] at hhead
  have hlength := (step_events _ e.input).2 n (hhead.1.2.trans hsnapshot)
  rw [hlength, run_events, hparts.1, List.filterMap_map, List.length_append]
  rfl

/-- A snapshot that was answered counts events that are in the log. -/
theorem answered_snapshot {app : ExchangeApplication} {journal : List Event} {capacity : Nat}
    {moves : List (Move MarketCommand AppendOutcome)} {i n : Nat}
    (hcall : (Run.after (Mailbox.step server capacity) (.start (spawnFromApp app journal))
      moves).calls[i]? = some (.answered (.ok (.snapshot n)))) :
    n ≤ (Run.after (Mailbox.step server capacity) (.start (spawnFromApp app journal))
      moves).state.app.events.length := by
  rcases (run_kept server capacity (spawnFromApp app journal) moves).fate i _ hcall with
    ⟨e, he, -, hanswer⟩
  rcases List.append_of_mem he with ⟨before, after, hsplit⟩
  rw [snapshot_events hsplit hanswer, events_eq, hsplit, List.filterMap_append,
    List.length_append, List.length_append]
  omega

/-- An event that is new in the log is the answer to a call. -/
theorem event_announced {app : ExchangeApplication} {journal : List Event} {capacity : Nat}
    {moves : List (Move MarketCommand AppendOutcome)} {event : Event}
    (hevent : event ∈ (Run.after (Mailbox.step server capacity)
      (.start (spawnFromApp app journal)) moves).state.app.events) :
    event ∈ app.events ∨ ∃ command ∈ invoked (Run.log (Mailbox.step server capacity)
      (.start (spawnFromApp app journal)) moves), ∃ outcome answer,
        announced ((command, outcome), answer) = some event := by
  rw [events_eq] at hevent
  rcases List.mem_append.mp hevent with hold | hnew
  · exact Or.inl hold
  · rcases List.mem_filterMap.mp hnew with ⟨e, he, hannounced⟩
    have hcommand := (run_kept server capacity (spawnFromApp app journal) moves).commands e he
    exact Or.inr ⟨e.input.1, List.mem_of_getElem? hcommand, e.input.2, e.answer, hannounced⟩

/-- The log of events only grows, whatever move is made at the mailbox: only
    handling a command touches the actor, and that adds an event at most. -/
theorem events_grow (capacity : Nat)
    (m : System MarketActor MarketCommand (Except ApplicationError MarketReply))
    (move : Move MarketCommand AppendOutcome) :
    m.state.app.events <+: (Mailbox.step server capacity m move).2.state.app.events := by
  cases move with
  | invoke command => exact List.prefix_refl _
  | send call =>
      rw [Mailbox.step]
      split
      · split
        · split <;> exact List.prefix_refl _
        · exact List.prefix_refl _
      · exact List.prefix_refl _
  | abandon call =>
      rw [Mailbox.step]
      split <;> exact List.prefix_refl _
  -- The log belongs to the server, and callers do not touch it.
  | serve outcome =>
      rw [Mailbox.step]
      split
      · rename_i call command rest _ _
        have hgrows : m.state.app.events
            <+: (server.serve m.state (command, outcome)).2.app.events := by
          change _ <+: (MarketActor.step m.state (command, outcome)).2.app.events
          rw [(step_events m.state (command, outcome)).1]
          exact List.prefix_append _ _
        simp only
        split <;> exact hgrows
      · exact List.prefix_refl _

/-- The counters of the actor after any interleaving of its callers. It has
    received the commands it took, and accepted and rejected those it answered
    with success and with an error; the failures of the journal are the
    answers that say so. There is one failure to apply at most, and it or a
    shutdown is what stops the actor. A snapshot counts the events of the
    start and those announced before it. -/
theorem calls_counted (app : ExchangeApplication) (journal : List Event) (capacity : Nat)
    (moves : List (Move MarketCommand AppendOutcome)) :
    let start : System MarketActor MarketCommand (Except ApplicationError MarketReply) :=
      .start (spawnFromApp app journal)
    let past := Run.log (Mailbox.step server capacity) start moves
    let actor := (Run.after (Mailbox.step server capacity) start moves).state
    let answers := (served past).map Served.answer
    Counts actor.metrics.commandsReceived answers.length ∧
    Counts actor.metrics.commandsAccepted (answers.countP Except.isOk) ∧
    Counts actor.metrics.commandsRejected (answers.countP (fun a => !a.isOk)) ∧
    Counts actor.metrics.journalAppendFailures
      (answers.countP (fun a => a = .error .journalAppendFailed)) ∧
    actor.metrics.applyAfterAppendFailures.val ≤ 1 ∧
    (actor.running = false ↔
      actor.metrics.applyAfterAppendFailures.val = 1 ∨ .ok .shutdown ∈ answers) ∧
    ∀ before e after n, served past = before ++ e :: after → e.answer = .ok (.snapshot n) →
      n = app.events.length
        + (before.filterMap (fun e => announced (e.input, e.answer))).length := by
  intro start past actor answers
  have hkept := run_kept server capacity (spawnFromApp app journal) moves
  have hlog : Run.log MarketActor.step (spawnFromApp app journal)
      ((served past).map Served.input) = (served past).map (fun e => (e.input, e.answer)) :=
    hkept.replies
  -- The commands handled are a run of the actor on its own, and the counters count its
  -- answers.
  have hcounted : Counted ((served past).map (fun e => (e.input, e.answer))) actor := by
    have h := Run.invariant_along MarketActor.step (P := Counted) (spawnFromApp_counted app journal)
      (fun past actor input h hrun => step_counted h input hrun) hkept.ran
    have hstate : actor = Run.after MarketActor.step (spawnFromApp app journal)
      ((served past).map Served.input) := hkept.state
    rw [hstate, ← hlog]
    exact h
  have hanswers : ∀ p : Except ApplicationError MarketReply → Bool,
      ((served past).map (fun e => (e.input, e.answer))).countP (fun e => p e.2)
        = answers.countP p := fun p => by
    rw [List.countP_map, List.countP_map]
    rfl
  refine ⟨?_, ?_, ?_, ?_, ?_, ?_, ?_⟩
  · have h := hcounted.received
    rw [List.length_map] at h
    rw [List.length_map]
    exact h
  · rw [← hanswers]
    exact hcounted.accepted
  · rw [← hanswers (fun a => !a.isOk)]
    exact hcounted.rejected
  · rw [← hanswers (fun a => decide (a = .error .journalAppendFailed))]
    exact hcounted.append
  · rcases hcounted.apply with ⟨-, h, -⟩ | ⟨-, h, -⟩ | ⟨-, h, -⟩ <;> rw [h] <;> decide
  · have hmem : (.ok .shutdown ∈ answers) ↔
        ∃ e ∈ (served past).map (fun e => (e.input, e.answer)), e.2 = .ok .shutdown := by
      rw [List.mem_map]
      constructor
      · rintro ⟨e, he, hshut⟩
        exact ⟨_, List.mem_map.mpr ⟨e, he, rfl⟩, hshut⟩
      · rintro ⟨_, he, hshut⟩
        rcases List.mem_map.mp he with ⟨e, hserved, rfl⟩
        exact ⟨e, hserved, hshut⟩
    -- It runs, or it has stopped for the one reason or the other.
    rw [hmem]
    rcases hcounted.apply with ⟨hrun, hzero, hnone⟩ | ⟨hstop, hone, -⟩ | ⟨hstop, -, hshut⟩
    · rw [hrun, hzero]
      refine iff_of_false Bool.true_eq_false.mp ?_
      rintro (h | ⟨e, he, hshut⟩)
      · exact absurd h (by decide)
      · exact hnone e he hshut
    · exact iff_of_true hstop (Or.inl (by rw [hone]; rfl))
    · exact iff_of_true hstop (Or.inr hshut)
  · exact fun before e after n hsplit hsnapshot => snapshot_events hsplit hsnapshot

end MarketActorHandle

end Exchange

end SolanaLab
