import SolanaLab.Exchange.Restart
import SolanaLab.Library.Mailbox

/-!
# Callers of the Market Actor

The handle of the market actor is cloned freely, so requests reach the actor
from many tasks at once. A call puts its command into the bounded mailbox,
waits for the answer on a channel of its own, and can be dropped at any point.
When the actor stops, what is still in the mailbox is dropped with it, and
these calls report that the actor is closed.

This is a server behind a mailbox, with the journal's outcomes for chance.
`calls_linearizable` therefore says what a caller may conclude from an answer
whatever the other callers do. `calls_acknowledged` is about the event log: it
is made of the events that callers were told of, in the order in which the
actor took their commands, and a command id is acknowledged to one call at
most.

The mailbox itself is a module of its own, since nothing in it is about
markets. What is added here is what the actor does with a command, read off
`step_cases`, and what a handle makes of the state of a call.

## Main definitions

* `server`: The market actor as a server of commands.
* `reply`: What a call returns.
* `announced`: The event that an answer tells of.
* `Announced`: The log is what was announced.
* `Fits`: A reply is one to a command.

## Theorems

* `step_announced`: A command adds to the log what its answer announces.
* `answered_fits`: A call is answered with a reply to its command.
* `calls_linearizable`: Answers are those of the actor on its own.
* `calls_acknowledged`: The log is what callers were told, each command once.
-/

namespace SolanaLab

namespace Exchange

namespace MarketActorHandle

open MarketActor ExchangeApplication Mailbox

/-- `run_market_actor`, which takes one command at a time. -/
def server : Server MarketActor MarketCommand AppendOutcome
    (Except ApplicationError MarketReply) where
  serve := MarketActor.step
  running := MarketActor.running

/-- What a call of the handle returns. A command that cannot be sent, and one
    that is dropped with the mailbox, find the actor closed. -/
def reply : Call MarketCommand (Except ApplicationError MarketReply) →
    Option (Except ApplicationError MarketReply)
  | .answered answer => some answer
  | .closed => some (.error .actorClosed)
  | .sending _ => none
  | .waiting => none
  | .abandoned => none

/-- The event that the answer to a command tells of. It is put together from the
    command and the answer alone, which is all a caller has: a deposit says its
    event itself, and an order says all but the fills. -/
def announced : (MarketCommand × AppendOutcome) × Except ApplicationError MarketReply →
    Option Event
  | ((.creditDeposit commandId traderId assetId amount, _), .ok _) =>
    some (.depositCredited commandId traderId assetId amount)
  | ((.placeOrder commandId order, _), .ok (.orderPlaced fills)) =>
    some (.orderPlaced commandId order fills)
  | _ => none

/-- `MarketCommand`'s command id, for those that have one. -/
def commandId? : MarketCommand → Option CommandId
  | .creditDeposit commandId _ _ _ => some commandId
  | .placeOrder commandId _ => some commandId
  | .snapshot => none
  | .shutdown => none

/-- An error announces nothing, whatever was written before it. -/
theorem announced_error (input : MarketCommand × AppendOutcome) (e : ApplicationError) :
    announced (input, .error e) = none := by
  rcases input with ⟨command, outcome⟩
  cases command <;> rfl

/-- Snapshots and shutdowns announce nothing. -/
theorem announced_of_not_changes {command : MarketCommand} (h : ¬ command.Changes)
    (outcome : AppendOutcome) (answer : Except ApplicationError MarketReply) :
    announced ((command, outcome), answer) = none := by
  cases command with
  | creditDeposit c t a amount => exact absurd trivial h
  | placeOrder c order => exact absurd trivial h
  | snapshot => rfl
  | shutdown => rfl

/-- The event derived from a command is the one its success announces. -/
theorem announced_of_derive {app : ExchangeApplication} {command : MarketCommand} {event : Event}
    {success : MarketReply} (h : command.derive app = some (.ok (event, success)))
    (outcome : AppendOutcome) : announced ((command, outcome), .ok success) = some event := by
  rcases derive_eq_ok h with
    ⟨c, t, a, amount, rfl, rfl, rfl, -⟩ | ⟨c, order, fills, placed, rfl, rfl, rfl, -⟩
  · rfl
  · rfl

/-- What is announced is the command's own. -/
theorem announced_commandId {input : MarketCommand × AppendOutcome}
    {answer : Except ApplicationError MarketReply} {event : Event}
    (h : announced (input, answer) = some event) : commandId? input.1 = some event.commandId := by
  rcases input with ⟨command, outcome⟩
  cases command with
  | creditDeposit c t a amount =>
      cases answer with
      | error e => exact absurd h (by simp only [announced, reduceCtorEq, not_false_eq_true])
      | ok r =>
          rw [announced, Option.some.injEq] at h
          rw [← h]
          rfl
  -- Only the reply that belongs to the command announces its event.
  | placeOrder c order =>
      cases answer with
      | error e => exact absurd h (by simp only [announced, reduceCtorEq, not_false_eq_true])
      | ok r =>
          cases r with
          | orderPlaced fills =>
              rw [announced, Option.some.injEq] at h
              rw [← h]
              rfl
          | depositCredited => exact absurd h (by
              simp only [announced, reduceCtorEq, not_false_eq_true])
          | snapshot n => exact absurd h (by
              simp only [announced, reduceCtorEq, not_false_eq_true])
          | shutdown => exact absurd h (by
              simp only [announced, reduceCtorEq, not_false_eq_true])
  | snapshot => exact absurd h (by simp only [announced, reduceCtorEq, not_false_eq_true])
  | shutdown => exact absurd h (by simp only [announced, reduceCtorEq, not_false_eq_true])

/-- The log is what it was at the start and what was announced since, and all of
    it is in the journal. The journal may hold more, after an append that was
    recorded and reported as failed. -/
structure Announced (journal : List Event)
    (past : List ((MarketCommand × AppendOutcome) × Except ApplicationError MarketReply))
    (actor : MarketActor) : Prop where
  logged : actor.app.Logged
  events : actor.app.events = journal ++ past.filterMap announced
  kept : actor.app.events.Sublist actor.journal
  /-- A deposit or an order that succeeded was announced. -/
  told : ∀ entry ∈ past, entry.1.1.Changes → ∀ r, entry.2 = .ok r →
    (announced entry).isSome = true

/-- At the start the log is the journal, and nothing was announced. -/
theorem spawnFromApp_announced {market : MarketSpec} {journal : List Event}
    {app : ExchangeApplication} (h : replay market journal = .ok app) :
    Announced journal [] (spawnFromApp app journal) := by
  rcases replay_logged h with ⟨hlogged, -, hevents⟩
  refine ⟨hlogged, ?_, ?_, fun _ hmem => absurd hmem List.not_mem_nil⟩
  · rw [List.filterMap_nil, List.append_nil]
    exact hevents
  · change app.events.Sublist journal
    rw [hevents]

/-- A step that leaves the log alone and announces nothing. It covers refusals,
    failed appends and stopped actors alike. -/
theorem Announced.silent {journal : List Event}
    {past : List ((MarketCommand × AppendOutcome) × Except ApplicationError MarketReply)}
    {actor actor' : MarketActor} (h : Announced journal past actor)
    {input : MarketCommand × AppendOutcome} {answer : Except ApplicationError MarketReply}
    (happ : actor'.app = actor.app) (hjournal : actor.journal <+: actor'.journal)
    (hnone : announced (input, answer) = none) (hfail : input.1.Changes → ∃ e, answer = .error e) :
    Announced journal (past ++ [(input, answer)]) actor' := by
  refine ⟨?_, ?_, ?_, fun entry hmem hchanges r hr => ?_⟩
  · rw [happ]
    exact h.logged
  · rw [happ, List.filterMap_append, List.filterMap_cons_none hnone, List.filterMap_nil,
      List.append_nil]
    exact h.events
  · rw [happ]
    exact h.kept.trans hjournal.sublist
  · rcases List.mem_append.mp hmem with hold | hlast
    · exact h.told entry hold hchanges r hr
    · rw [List.mem_singleton.mp hlast] at hchanges hr
      rcases hfail hchanges with ⟨e, he⟩
      rw [he] at hr
      exact absurd hr (by simp only [reduceCtorEq, not_false_eq_true])

/-- A command adds to the log what its answer announces, and nothing else. -/
theorem step_announced {journal : List Event}
    {past : List ((MarketCommand × AppendOutcome) × Except ApplicationError MarketReply)}
    {actor : MarketActor} (h : Announced journal past actor)
    (input : MarketCommand × AppendOutcome) :
    Announced journal (past ++ [(input, (actor.step input).1)]) (actor.step input).2 := by
  have hgrows := journal_grows actor input
  rcases input with ⟨command, outcome⟩
  by_cases hrun : actor.running = true
  · rcases step_cases hrun command outcome with
      ⟨happ, -, hfail, -⟩ | ⟨event, success, -, hderive, ⟨-, herr, happ, -⟩ |
        ⟨-, hok, ha, hjournal, -⟩ | ⟨e, -, herr, ha, -⟩⟩
    -- Nothing was derived: a refusal, a snapshot or a shutdown.
    · refine h.silent happ hgrows ?_ (fun hchanges => (hfail hchanges).1)
      by_cases hchanges : command.Changes
      · rcases (hfail hchanges).1 with ⟨e, he⟩
        rw [he]
        exact announced_error _ e
      · exact announced_of_not_changes hchanges outcome _
    -- The append has failed or was ambiguous, and the application was not asked.
    · rw [herr]
      exact h.silent happ hgrows (announced_error _ _) (fun _ => ⟨_, rfl⟩)
    · -- The event is recorded, applied and announced.
      have hsome := announced_of_derive hderive outcome
      rw [hok]
      refine ⟨applyEvent_logged h.logged ha, ?_, sublist_step h.kept hjournal (Or.inr ha),
        fun entry hmem hchanges r hr => ?_⟩
      · rw [(applyEvent_ok ha).2.2.1, h.events, List.filterMap_append,
          List.filterMap_cons_some hsome, List.filterMap_nil, List.append_assoc]
      · rcases List.mem_append.mp hmem with hold | hlast
        · exact h.told entry hold hchanges r hr
        · rw [List.mem_singleton.mp hlast, hsome]
          rfl
    · -- A derived event that does not apply leaves the application as it was.
      have hsame := (derive_ok hderive).2 e (congrArg Prod.fst ha)
      rw [ha] at hsame
      rw [herr]
      exact h.silent hsame hgrows (announced_error _ _) (fun _ => ⟨_, rfl⟩)
  · rw [Bool.not_eq_true] at hrun
    rw [step_stopped hrun]
    exact h.silent rfl (List.prefix_refl _) (announced_error _ _) (fun _ => ⟨_, rfl⟩)

/-- After any interleaving, the log is what was announced. -/
theorem run_announced {market : MarketSpec} {journal : List Event} {app : ExchangeApplication}
    (hreplay : replay market journal = .ok app)
    (inputs : List (MarketCommand × AppendOutcome)) :
    Announced journal (Run.log MarketActor.step (spawnFromApp app journal) inputs)
      (Run.after MarketActor.step (spawnFromApp app journal) inputs) :=
  Run.invariant MarketActor.step (P := Announced journal) (spawnFromApp_announced hreplay)
    (fun _ _ input h => step_announced h input) inputs

/-! ### Replies -/

/-- A reply is one to a command. -/
def Fits : MarketCommand → MarketReply → Prop
  | .creditDeposit _ _ _ _, reply => reply = .depositCredited
  | .placeOrder _ _, reply => ∃ fills, reply = .orderPlaced fills
  | .snapshot, reply => ∃ eventCount, reply = .snapshot eventCount
  | .shutdown, reply => reply = .shutdown

/-- The actor answers a command with a reply to it. -/
theorem step_fits {actor : MarketActor} {input : MarketCommand × AppendOutcome} {r : MarketReply}
    (h : (actor.step input).1 = .ok r) : Fits input.1 r := by
  rcases input with ⟨command, outcome⟩
  by_cases hrun : actor.running = true
  · rcases step_cases hrun command outcome with
      ⟨-, -, hfail, -⟩ | ⟨event, success, -, hderive, ⟨-, herr, -⟩ | ⟨-, hok, -⟩ | ⟨e, -, herr, -⟩⟩
    -- A command that derives nothing and succeeds is a snapshot or a shutdown.
    · by_cases hchanges : command.Changes
      · rcases (hfail hchanges).1 with ⟨e, he⟩
        exact absurd (he.symm.trans h) (by simp only [reduceCtorEq, not_false_eq_true])
      · cases command with
        | creditDeposit c t a amount => exact absurd trivial hchanges
        | placeOrder c order => exact absurd trivial hchanges
        | snapshot =>
            simp only [MarketActor.step, hrun, if_true, handleCommand, Except.ok.injEq] at h
            exact ⟨_, h.symm⟩
        | shutdown =>
            simp only [MarketActor.step, hrun, if_true, handleCommand, Except.ok.injEq] at h
            exact h.symm
    · exact absurd (herr.symm.trans h) (by simp only [reduceCtorEq, not_false_eq_true])
    · -- A derived event is announced by the reply derived with it.
      rw [hok, Except.ok.injEq] at h
      rcases derive_eq_ok hderive with
        ⟨_, _, _, _, rfl, -, rfl, -⟩ | ⟨_, _, fills, _, rfl, -, rfl, -⟩
      · exact h.symm
      · exact ⟨fills, h.symm⟩
    · exact absurd (herr.symm.trans h) (by simp only [reduceCtorEq, not_false_eq_true])
  · rw [Bool.not_eq_true] at hrun
    rw [step_stopped hrun] at h
    exact absurd h (by simp only [reduceCtorEq, not_false_eq_true])

/-- A call is answered with a reply to its command. -/
theorem answered_fits {app : ExchangeApplication} {journal : List Event} {capacity : Nat}
    {moves : List (Move MarketCommand AppendOutcome)} {i : Nat} {command : MarketCommand}
    {r : MarketReply}
    (hcall : (Run.after (Mailbox.step server capacity) (.start (spawnFromApp app journal))
      moves).calls[i]? = some (.answered (.ok r)))
    (hcommand : (invoked (Run.log (Mailbox.step server capacity)
      (.start (spawnFromApp app journal)) moves))[i]? = some command) : Fits command r := by
  have hkept := run_kept server capacity (spawnFromApp app journal) moves
  rcases hkept.fate i _ hcall with ⟨e, he, rfl, hanswer⟩
  have hinput := Option.some.inj ((hkept.commands e he).symm.trans hcommand)
  -- The answer was given by the actor in some state.
  have hlogged : (e.input, e.answer) ∈ Run.log server.serve (spawnFromApp app journal)
      ((served (Run.log (Mailbox.step server capacity) (.start (spawnFromApp app journal))
        moves)).map Served.input) := by
    rw [hkept.replies]
    exact List.mem_map.mpr ⟨e, he, rfl⟩
  rcases Run.exists_of_mem_log server.serve hlogged with ⟨actor, hstep⟩
  rw [← hinput]
  exact step_fits (hstep.symm.trans hanswer)

/-- Entries that give different keys are found by their keys. -/
theorem eq_of_filterMap_key {α β κ : Type} {f : α → Option β} {key : β → κ} {l : List α}
    (hnodup : ((l.filterMap f).map key).Nodup) {a a' : α} {b b' : β} (ha : a ∈ l) (ha' : a' ∈ l)
    (hb : f a = some b) (hb' : f a' = some b') (hkey : key b = key b') : a = a' := by
  induction l with
  | nil => exact absurd ha List.not_mem_nil
  | cons x rest ih =>
      have hrest : ((rest.filterMap f).map key).Nodup := by
        cases hx : f x with
        | none =>
            rw [List.filterMap_cons_none hx] at hnodup
            exact hnodup
        | some c =>
            rw [List.filterMap_cons_some hx, List.map_cons] at hnodup
            exact (List.nodup_cons.mp hnodup).2
      -- The head has a key that the others do not have.
      have hhead : ∀ {c c' : β} {y : α}, f x = some c → y ∈ rest → f y = some c' →
          key c ≠ key c' := by
        intro c c' y hx hy hc' heq
        rw [List.filterMap_cons_some hx, List.map_cons] at hnodup
        refine (List.nodup_cons.mp hnodup).1 ?_
        rw [heq]
        exact List.mem_map_of_mem (List.mem_filterMap.mpr ⟨y, hy, hc'⟩)
      rcases List.mem_cons.mp ha with rfl | hmem
      · rcases List.mem_cons.mp ha' with rfl | hmem'
        · rfl
        · exact absurd hkey (hhead hb hmem' hb')
      · rcases List.mem_cons.mp ha' with rfl | hmem'
        · exact absurd hkey.symm (hhead hb' hmem hb)
        · exact ih hrest hmem hmem'

/-- The calls of any number of tasks, in any interleaving with the actor, with
    each other, with their own end and with the outcomes of the journal. What
    they return is what the actor answers on its own to the commands in the
    order in which it took them, which is the order in which they were sent.
    No command is handled twice, and one that was answered before another
    was issued is handled before it. A call that finds the actor closed
    without an answer from it was not handled, and no call waits once the
    actor has had as many turns as there are commands in its mailbox. -/
theorem calls_linearizable (app : ExchangeApplication) (journal : List Event) (capacity : Nat)
    (moves : List (Move MarketCommand AppendOutcome)) :
    let step := Mailbox.step server capacity
    let start : System MarketActor MarketCommand (Except ApplicationError MarketReply) :=
      .start (spawnFromApp app journal)
    let past := Run.log step start moves
    let m := Run.after step start moves
    let handled := (served past).map Served.input
    m.state = Run.after MarketActor.step (spawnFromApp app journal) handled ∧
    Run.log MarketActor.step (spawnFromApp app journal) handled
      = (served past).map (fun e => (e.input, e.answer)) ∧
    (sent past).Nodup ∧ (served past).map Served.call <+: sent past ∧
    (∀ e ∈ served past, (invoked past)[e.call]? = some e.input.1) ∧
    (∀ (i : Nat) call r, m.calls[i]? = some call → reply call = some r →
      (∃ e ∈ served past, e.call = i ∧ e.answer = r) ∨
        r = .error .actorClosed ∧ i ∉ (served past).map Served.call) ∧
    (∀ first rest (i j : Nat) answer, moves = first ++ rest →
      (Run.after step start first).calls[i]? = some (.answered answer) →
      (Run.after step start first).calls.length ≤ j →
      ∃ before after, (served past).map Served.call = before ++ after ∧
        i ∈ before ∧ j ∉ before) ∧
    ∀ (outcomes : List AppendOutcome) (i : Nat), m.queue.length ≤ outcomes.length →
      (Run.after step start (moves ++ outcomes.map .serve)).calls[i]? ≠ some .waiting := by
  intro step start past m handled
  rcases linearizable server capacity (spawnFromApp app journal) moves with
    ⟨hstate, hreplies, hdistinct, horder, hcommands, -, hfate⟩
  refine ⟨hstate, hreplies, hdistinct, horder, hcommands, ?_, ?_, ?_⟩
  · intro i call r hcall hr
    have hfate := hfate i call hcall
    -- What the call has come to decides what it returns, if it returns at all.
    cases call with
    | answered answer =>
        rw [reply, Option.some.injEq] at hr
        rw [← hr]
        exact Or.inl hfate
    | closed =>
        rw [reply, Option.some.injEq] at hr
        exact Or.inr ⟨hr.symm, hfate.1⟩
    | sending command => exact absurd hr (by simp only [reply, reduceCtorEq, not_false_eq_true])
    | waiting => exact absurd hr (by simp only [reply, reduceCtorEq, not_false_eq_true])
    | abandoned => exact absurd hr (by simp only [reply, reduceCtorEq, not_false_eq_true])
  -- What holds of all servers behind a mailbox holds of the actor behind its own.
  · rintro first rest i j answer hmoves hi hj
    have htime := linearizable_realTime server capacity (spawnFromApp app journal) first rest hi hj
    rw [← hmoves] at htime
    exact htime
  · intro outcomes i hlen
    exact settles server capacity (spawnFromApp app journal) moves hlen i

/-- The calls of an actor spawned from its journal. The event log is what was
    in the journal and then the events that successful calls were told of, in
    the order in which they were handled, and all of it is in the journal. A
    deposit or an order that succeeded was told of its own event, and no two
    successful calls have the same command id. -/
theorem calls_acknowledged (market : MarketSpec) (journal : List Event)
    (app : ExchangeApplication) (hreplay : replay market journal = .ok app) (capacity : Nat)
    (moves : List (Move MarketCommand AppendOutcome)) :
    let start : System MarketActor MarketCommand (Except ApplicationError MarketReply) :=
      .start (spawnFromApp app journal)
    let past := Run.log (Mailbox.step server capacity) start moves
    let m := Run.after (Mailbox.step server capacity) start moves
    m.state.app.events
      = journal ++ (served past).filterMap (fun e => announced (e.input, e.answer)) ∧
    m.state.app.events.Sublist m.state.journal ∧
    (∀ (i : Nat) command r, m.calls[i]? = some (.answered (.ok r)) →
      (invoked past)[i]? = some command → command.Changes →
      ∃ event ∈ m.state.app.events, commandId? command = some event.commandId ∧
        ∃ outcome, announced ((command, outcome), .ok r) = some event) ∧
    ∀ (i j : Nat) command command' r r', m.calls[i]? = some (.answered (.ok r)) →
      m.calls[j]? = some (.answered (.ok r')) → (invoked past)[i]? = some command →
      (invoked past)[j]? = some command' → command.Changes → command'.Changes →
      commandId? command = commandId? command' → i = j := by
  intro start past m
  rcases linearizable server capacity (spawnFromApp app journal) moves with
    ⟨hstate, hreplies, -, -, hcommands, -, hfate⟩
  have hrun : Announced journal ((served past).map (fun e => (e.input, e.answer))) m.state := by
    have h := run_announced hreplay ((served past).map Served.input)
    have hafter : m.state = Run.after MarketActor.step (spawnFromApp app journal)
      ((served past).map Served.input) := hstate
    have hlog : Run.log MarketActor.step (spawnFromApp app journal)
      ((served past).map Served.input)
        = (served past).map (fun e => (e.input, e.answer)) := hreplies
    rw [← hafter, hlog] at h
    exact h
  have hevents := hrun.events
  rw [List.filterMap_map] at hevents
  -- A successful call was handled, and its event is among those announced.
  have htold : ∀ (i : Nat) command r, m.calls[i]? = some (.answered (.ok r)) →
      (invoked past)[i]? = some command → command.Changes →
      ∃ e ∈ served past, e.call = i ∧ e.input.1 = command ∧ e.answer = .ok r ∧
        ∃ event, announced (e.input, e.answer) = some event := by
    intro i command r hcall hinvoked hchanges
    rcases hfate i _ hcall with ⟨e, he, rfl, hanswer⟩
    have hcommand : e.input.1 = command :=
      Option.some.inj ((hcommands e he).symm.trans hinvoked)
    rw [← hcommand] at hchanges
    have hsome := hrun.told (e.input, e.answer)
      (List.mem_map.mpr ⟨e, he, rfl⟩) hchanges r hanswer
    exact ⟨e, he, rfl, hcommand, hanswer, Option.isSome_iff_exists.mp hsome⟩
  -- Each id is in the log once, so each announced event is.
  have hnodup : (((served past).filterMap (fun e => announced (e.input, e.answer))).map
      Event.commandId).Nodup := by
    have hdistinct := hrun.logged.distinct
    rw [hevents, List.map_append] at hdistinct
    exact (List.nodup_append.mp hdistinct).2.1
  refine ⟨hevents, hrun.kept, ?_, ?_⟩
  · intro i command r hcall hinvoked hchanges
    rcases htold i command r hcall hinvoked hchanges with
      ⟨e, he, -, hcommand, hanswer, event, hevent⟩
    refine ⟨event, ?_, ?_, e.input.2, ?_⟩
    · rw [hevents]
      exact List.mem_append_right _ (List.mem_filterMap.mpr ⟨e, he, hevent⟩)
    · rw [← hcommand]
      exact announced_commandId hevent
    · rw [← hcommand, ← hanswer]
      exact hevent
  -- Two calls with one id would have announced two events with it.
  · intro i j command command' r r' hi hj hinvoked hinvoked' hchanges hchanges' hid
    rcases htold i command r hi hinvoked hchanges with
      ⟨e, he, hcall, hcommand, -, event, hevent⟩
    rcases htold j command' r' hj hinvoked' hchanges' with
      ⟨e', he', hcall', hcommand', -, event', hevent'⟩
    have hkey : event.commandId = event'.commandId := by
      rw [← hcommand, ← hcommand', announced_commandId hevent, announced_commandId hevent',
        Option.some.injEq] at hid
      exact hid
    rw [← hcall, ← hcall', eq_of_filterMap_key hnodup he he' hevent hevent' hkey]

/-- Two tasks issue the same deposit, and a third gives its call up. -/
def sampleMoves : List (Move MarketCommand AppendOutcome) :=
  [.invoke (.creditDeposit ⟨1, Nat.succ_pos _⟩ ⟨1, Nat.succ_pos _⟩ ⟨1, Nat.succ_pos _⟩ 5),
    .invoke (.creditDeposit ⟨1, Nat.succ_pos _⟩ ⟨1, Nat.succ_pos _⟩ ⟨1, Nat.succ_pos _⟩ 5),
    .invoke .snapshot, .send 1, .send 0, .send 2, .abandon 2, .serve .recorded,
    .serve .recorded, .serve .failed]

/-- The command sent first is acknowledged, and its repetition is not. -/
theorem calls_acknowledged_repeated :
    (Run.after (Mailbox.step server 3) (.start (spawnFromApp (new sampleMarket) []))
        sampleMoves).calls
      = [.answered (.error .duplicateCommand), .answered (.ok .depositCredited), .abandoned] ∧
    (Run.after (Mailbox.step server 3) (.start (spawnFromApp (new sampleMarket) []))
        sampleMoves).state.app.events.Sublist
      (Run.after (Mailbox.step server 3) (.start (spawnFromApp (new sampleMarket) []))
        sampleMoves).state.journal :=
  ⟨by decide +kernel, (calls_acknowledged sampleMarket [] (new sampleMarket) rfl 3 sampleMoves).2.1⟩

end MarketActorHandle

end Exchange

end SolanaLab
