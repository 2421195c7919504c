import SolanaLab.Exchange.Balances
import SolanaLab.Exchange.Matching
import SolanaLab.Library.Replay

/-!
# The Exchange Application

`ExchangeApplication` is event sourced. A command derives an event, the event
is applied, and the log of applied events rebuilds the application.

Deriving and applying are separate in the source, because the market actor
writes the event to its journal in between. For an order the derivation runs
the whole operation on a clone and the application compares its fills with
those of the event; for a deposit the derivation looks at the command id only.
`applyEvent` gives the state afterwards in every case, since an event that is
refused for its fills has already changed balances and books.

`execute_cases` says once what a command can do: it fails and leaves the
application as it was, or it applies the one event it derives. Everything
about runs follows from it and from `applyEvent_ok`.

## Main definitions

* `Event`: What the log records.
* `ExchangeApplication`: Balances, books, log and the command ids seen.
* `ExchangeApplication.applyEvent`: An event applied.
* `ExchangeApplication.creditDepositEvent`,
  `ExchangeApplication.placeOrderEvent`: The events of the two commands.
* `ExchangeApplication.execute`: A command carried out.
* `ExchangeApplication.replay`: The application a log leads to.
* `Logged`: The log rebuilds the application.

## Theorems

* `placeOrderInDomain_eq_ok`: When an order is placed, and what it changes.
* `applyEvent_ok`: What every applied event does to log and command ids.
* `applyEvent_deposit`: When a deposit applies, and what it changes.
* `applyEvent_order`: When an order applies, and what it changes.
* `execute_cases`: What a command can do.
* `execute_logged`: A command keeps the log able to rebuild the application.
* `run_logged`: After any commands the log rebuilds the application.
* `replay_events`: Replaying the log gives the application back.
* `applyEvent_derived`: Which derived events apply.
-/

namespace SolanaLab

namespace Exchange

/-- `application::Error`. Errors of the domain are passed on, and two of the
    others are those of the market actor. -/
inductive ApplicationError where
  | domain (error : Error)
  | duplicateCommand
  | replayMismatch
  | actorClosed
  | journalAppendFailed
deriving DecidableEq, Repr

/-- The id by which a command is applied at most once. -/
abbrev CommandId := NonZero 128

/-- What can happen to the application. The event of an order has the fills it
    produced, so that a replay can compare them. -/
inductive Event where
  | depositCredited (commandId : CommandId) (traderId : TraderId) (assetId : AssetId)
      (amount : BalanceAmount)
  | orderPlaced (commandId : CommandId) (order : Order) (fills : List Fill)
deriving DecidableEq

/-- `Event::command_id`. -/
def Event.commandId : Event → CommandId
  | .depositCredited commandId _ _ _ => commandId
  | .orderPlaced commandId _ _ => commandId

/-- The market, the balances, the books, the events applied so far and the ids
    of their commands. -/
structure ExchangeApplication where
  market : MarketSpec
  balances : BalanceSheet
  matching : MatchingEngine
  events : List Event
  seenCommands : Finset CommandId
deriving DecidableEq

namespace ExchangeApplication

/-- `ExchangeApplication::new`. -/
def new (market : MarketSpec) : ExchangeApplication :=
  { market, balances := BalanceSheet.new, matching := MatchingEngine.new, events := [],
    seenCommands := ∅ }

/-- `ExchangeApplication::reject_duplicate`. -/
def rejectDuplicate (app : ExchangeApplication) (commandId : CommandId) :
    Except ApplicationError Unit :=
  if commandId ∈ app.seenCommands then .error .duplicateCommand else .ok ()

/-- The log and the command ids with one event more. -/
def record (app : ExchangeApplication) (event : Event) : ExchangeApplication :=
  { app with
    events := app.events ++ [event]
    seenCommands := insert event.commandId app.seenCommands }

/-- `ExchangeApplication::record_applied_event`. -/
def recordAppliedEvent (app : ExchangeApplication) (event : Event) :
    Except ApplicationError Unit × ExchangeApplication :=
  if event.commandId ∈ app.seenCommands then (.error .duplicateCommand, app)
  else (.ok (), app.record event)

/-- `ExchangeApplication::place_order_in_domain`. It works on copies of the
    balances and the books and keeps them when everything has succeeded. So an
    order whose reservation does not fit leaves no trace. -/
def placeOrderInDomain (app : ExchangeApplication) (order : Order) :
    Except ApplicationError (List Fill) × ExchangeApplication :=
  if order.isTerminal then (.error (.domain .orderAlreadyTerminal), app)
  else
    match Reservation.forOrder order app.market with
    | .error e => (.error (.domain e), app)
    | .ok reservation =>
      -- Balances and book are changed as copies, kept when both have succeeded.
      match app.balances.reserve reservation with
      | (.error e, _) => (.error (.domain e), app)
      | (.ok (), balances) =>
        match app.matching.placeOrder order with
        | (.error e, _) => (.error (.domain e), app)
        | (.ok fills, matching) => (.ok fills, { app with balances, matching })

/-- `ExchangeApplication::apply_event`. An order refused for its fills leaves
    balances and books as placing it has made them. Such an event comes from a
    journal that does not fit, never from a command. -/
def applyEvent (app : ExchangeApplication) (event : Event) :
    Except ApplicationError Unit × ExchangeApplication :=
  match app.rejectDuplicate event.commandId with
  | .error e => (.error e, app)
  | .ok () =>
    match event with
    | .depositCredited _ traderId assetId amount =>
      match app.balances.creditAvailable traderId assetId amount with
      | (.error e, balances) => (.error (.domain e), { app with balances })
      | (.ok (), balances) => { app with balances }.recordAppliedEvent event
    | .orderPlaced _ order fills =>
      match app.placeOrderInDomain order with
      | (.error e, app) => (.error e, app)
      -- The order has been placed by the time the fills are compared.
      | (.ok replayedFills, app) =>
        if replayedFills ≠ fills then (.error .replayMismatch, app)
        else app.recordAppliedEvent event

/-- `ExchangeApplication::replay`. -/
def replay (market : MarketSpec) (events : List Event) :
    Except ApplicationError ExchangeApplication :=
  Replay.replay applyEvent (new market) events

/-- `ExchangeApplication::credit_deposit_event`. It checks the id and nothing
    else, so the credit can still overflow when the event is applied. -/
def creditDepositEvent (app : ExchangeApplication) (commandId : CommandId) (traderId : TraderId)
    (assetId : AssetId) (amount : BalanceAmount) : Except ApplicationError Event :=
  match app.rejectDuplicate commandId with
  | .error e => .error e
  | .ok () => .ok (.depositCredited commandId traderId assetId amount)

/-- `ExchangeApplication::credit_deposit`. -/
def creditDeposit (app : ExchangeApplication) (commandId : CommandId) (traderId : TraderId)
    (assetId : AssetId) (amount : BalanceAmount) :
    Except ApplicationError Unit × ExchangeApplication :=
  match app.creditDepositEvent commandId traderId assetId amount with
  | .error e => (.error e, app)
  | .ok event => app.applyEvent event

/-- `ExchangeApplication::place_order_event`. The order is placed on a clone,
    which is dropped. -/
def placeOrderEvent (app : ExchangeApplication) (commandId : CommandId) (order : Order) :
    Except ApplicationError (Event × List Fill) :=
  match app.rejectDuplicate commandId with
  | .error e => .error e
  | .ok () =>
    match app.placeOrderInDomain order with
    | (.error e, _) => .error e
    | (.ok fills, _) => .ok (.orderPlaced commandId order fills, fills)

/-- `ExchangeApplication::place_order`. -/
def placeOrder (app : ExchangeApplication) (commandId : CommandId) (order : Order) :
    Except ApplicationError (List Fill) × ExchangeApplication :=
  match app.placeOrderEvent commandId order with
  | .error e => (.error e, app)
  | .ok (event, fills) =>
    match app.applyEvent event with
    | (.error e, app) => (.error e, app)
    | (.ok (), app) => (.ok fills, app)

end ExchangeApplication

/-- A command to the application. -/
inductive Command where
  | creditDeposit (commandId : CommandId) (traderId : TraderId) (assetId : AssetId)
      (amount : BalanceAmount)
  | placeOrder (commandId : CommandId) (order : Order)
deriving DecidableEq

namespace ExchangeApplication

/-- A command carried out: its fills, of which a deposit has none. -/
def execute (app : ExchangeApplication) :
    Command → Except ApplicationError (List Fill) × ExchangeApplication
  | .creditDeposit commandId traderId assetId amount =>
    let r := app.creditDeposit commandId traderId assetId amount
    (r.1.map (fun _ => []), r.2)
  | .placeOrder commandId order => app.placeOrder commandId order

/-- The event a command derives, without the fills returned next to it. -/
def eventOf (app : ExchangeApplication) : Command → Except ApplicationError Event
  | .creditDeposit commandId traderId assetId amount =>
    app.creditDepositEvent commandId traderId assetId amount
  | .placeOrder commandId order => (app.placeOrderEvent commandId order).map Prod.fst

variable {app app' : ExchangeApplication}

/-! ### One event -/

/-- A new id is accepted. -/
theorem rejectDuplicate_of_not_mem {c : CommandId} (h : c ∉ app.seenCommands) :
    app.rejectDuplicate c = .ok () :=
  if_neg h

/-- An id that was seen is not. -/
theorem rejectDuplicate_of_mem {c : CommandId} (h : c ∈ app.seenCommands) :
    app.rejectDuplicate c = .error .duplicateCommand :=
  if_pos h

/-- When an order is placed, and what it changes: the balances by its
    reservation, the books by the matching engine, nothing else. -/
theorem placeOrderInDomain_eq_ok {order : Order} {fills : List Fill} :
    app.placeOrderInDomain order = (.ok fills, app')
      ↔ ¬ order.isTerminal ∧ ∃ reservation balances matching,
        Reservation.forOrder order app.market = .ok reservation ∧
        app.balances.reserve reservation = (.ok (), balances) ∧
        app.matching.placeOrder order = (.ok fills, matching) ∧
        app' = { app with balances, matching } := by
  unfold placeOrderInDomain
  -- The three things that can fail, in the order in which they are tried.
  by_cases hterm : order.isTerminal
  · rw [if_pos hterm]
    simp only [Prod.mk.injEq, reduceCtorEq, false_and, hterm, not_true_eq_false]
  rw [if_neg hterm]
  cases hr : Reservation.forOrder order app.market with
  | error e => simp only [Prod.mk.injEq, reduceCtorEq, false_and, exists_false, and_false]
  | ok reservation =>
      simp only [Except.ok.injEq]
      rcases hb : app.balances.reserve reservation with ⟨e | ⟨⟩, balances⟩
      · simp only [Prod.mk.injEq, reduceCtorEq, false_and, false_iff, not_and, not_exists]
        rintro _ r b m rfl hb'
        rw [hb, Prod.mk.injEq] at hb'
        exact absurd hb'.1 (by simp only [reduceCtorEq, not_false_eq_true])
      · -- Matching runs last, so its answer is the answer of the whole.
        rcases hm : app.matching.placeOrder order with ⟨e | fs, matching⟩
        · simp only [Prod.mk.injEq, reduceCtorEq, false_and, and_false, exists_false]
        · simp only [Prod.mk.injEq, Except.ok.injEq]
          constructor
          · rintro ⟨rfl, rfl⟩
            exact ⟨hterm, reservation, balances, matching, rfl, hb, ⟨rfl, rfl⟩, rfl⟩
          · rintro ⟨-, r, b, m, rfl, hb', ⟨rfl, rfl⟩, rfl⟩
            rw [hb, Prod.mk.injEq] at hb'
            rw [hb'.2]
            exact ⟨rfl, rfl⟩

/-- An order that is not placed changes nothing. -/
theorem placeOrderInDomain_error {order : Order} {e : ApplicationError}
    (h : (app.placeOrderInDomain order).1 = .error e) :
    (app.placeOrderInDomain order).2 = app := by
  unfold placeOrderInDomain at h ⊢
  by_cases hterm : order.isTerminal
  · rw [if_pos hterm]
  rw [if_neg hterm] at h ⊢
  cases hr : Reservation.forOrder order app.market with
  | error e => rfl
  | ok reservation =>
      simp only [hr] at h ⊢
      rcases hb : app.balances.reserve reservation with ⟨e | ⟨⟩, balances⟩
      · rfl
      · simp only [hb] at h ⊢
        rcases hm : app.matching.placeOrder order with ⟨e | fs, matching⟩
        · rfl
        · -- A matching that answers leaves no failure to speak of.
          simp only [hm] at h
          exact absurd h (by simp only [reduceCtorEq, not_false_eq_true])

/-- When a deposit applies, and what it changes. -/
theorem applyEvent_deposit {c : CommandId} {t : TraderId} {a : AssetId} {amount : BalanceAmount} :
    app.applyEvent (.depositCredited c t a amount) = (.ok (), app')
      ↔ c ∉ app.seenCommands ∧ ∃ balances,
        app.balances.creditAvailable t a amount = (.ok (), balances) ∧
        app' = { app with balances }.record (.depositCredited c t a amount) := by
  unfold applyEvent
  by_cases hc : c ∈ app.seenCommands
  · simp only [Event.commandId, rejectDuplicate_of_mem hc, Prod.mk.injEq, reduceCtorEq, false_and,
      hc, not_true_eq_false]
  -- A command seen before is turned away at the start.
  simp only [Event.commandId, rejectDuplicate_of_not_mem hc]
  rcases hb : app.balances.creditAvailable t a amount with ⟨e | ⟨⟩, balances⟩
  · simp only [Prod.mk.injEq, reduceCtorEq, false_and, exists_false, and_false]
  · simp only [recordAppliedEvent, Event.commandId, hc, if_false, Prod.mk.injEq, true_and,
      not_false_eq_true]
    constructor
    · rintro rfl
      exact ⟨balances, rfl, rfl⟩
    · rintro ⟨b, rfl, rfl⟩
      rfl

/-- When an order applies, and what it changes. The fills of the event must be
    those that placing the order gives here. -/
theorem applyEvent_order {c : CommandId} {order : Order} {fills : List Fill} :
    app.applyEvent (.orderPlaced c order fills) = (.ok (), app')
      ↔ c ∉ app.seenCommands ∧ ∃ placed,
        app.placeOrderInDomain order = (.ok fills, placed) ∧
        app' = placed.record (.orderPlaced c order fills) := by
  unfold applyEvent
  by_cases hc : c ∈ app.seenCommands
  · simp only [Event.commandId, rejectDuplicate_of_mem hc, Prod.mk.injEq, reduceCtorEq, false_and,
      hc, not_true_eq_false]
  simp only [Event.commandId, rejectDuplicate_of_not_mem hc]
  rcases hp : app.placeOrderInDomain order with ⟨e | fs, placed⟩
  · simp only [Prod.mk.injEq, reduceCtorEq, false_and, exists_false, and_false]
  · -- Placing an order leaves the command ids alone, so the record goes through.
    rcases placeOrderInDomain_eq_ok.mp hp with ⟨-, -, balances, matching, -, -, -, heq⟩
    have hc' : c ∉ placed.seenCommands := by
      rw [heq]
      exact hc
    by_cases hfills : fs = fills
    · simp only [hfills, ne_eq, not_true_eq_false, if_false, recordAppliedEvent, Event.commandId,
        hc', Prod.mk.injEq, true_and]
      constructor
      · rintro rfl
        exact ⟨hc, placed, rfl, rfl⟩
      · rintro ⟨-, p, rfl, rfl⟩
        rfl
    · simp only [ne_eq, hfills, not_false_eq_true, if_true, Prod.mk.injEq, reduceCtorEq,
        false_and, Except.ok.injEq, exists_false, and_false]

/-- What every applied event does: its command id was new, and it is added to
    the log and its id to the ids seen. -/
theorem applyEvent_ok {event : Event} (h : app.applyEvent event = (.ok (), app')) :
    event.commandId ∉ app.seenCommands ∧ app'.market = app.market ∧
      app'.events = app.events ++ [event] ∧
      app'.seenCommands = insert event.commandId app.seenCommands := by
  cases event with
  | depositCredited c t a amount =>
      rcases applyEvent_deposit.mp h with ⟨hc, balances, -, rfl⟩
      exact ⟨hc, rfl, rfl, rfl⟩
  | orderPlaced c order fills =>
      rcases applyEvent_order.mp h with ⟨hc, placed, hp, rfl⟩
      rcases placeOrderInDomain_eq_ok.mp hp with ⟨-, -, balances, matching, -, -, -, rfl⟩
      exact ⟨hc, rfl, rfl, rfl⟩

/-! ### One command -/

/-- A deposit derives its event whenever its id is new. The balance is not
    looked at. -/
theorem creditDepositEvent_eq_ok {c : CommandId} {t : TraderId} {a : AssetId}
    {amount : BalanceAmount} {event : Event} :
    app.creditDepositEvent c t a amount = .ok event
      ↔ c ∉ app.seenCommands ∧ event = .depositCredited c t a amount := by
  unfold creditDepositEvent
  by_cases hc : c ∈ app.seenCommands
  · simp only [rejectDuplicate_of_mem hc, reduceCtorEq, hc, not_true_eq_false, false_and]
  · simp only [rejectDuplicate_of_not_mem hc, Except.ok.injEq, hc, not_false_eq_true, true_and]
    exact eq_comm

/-- An order derives its event when its id is new and it could be placed, with
    the fills this gives. -/
theorem placeOrderEvent_eq_ok {c : CommandId} {order : Order} {event : Event}
    {fills : List Fill} :
    app.placeOrderEvent c order = .ok (event, fills)
      ↔ c ∉ app.seenCommands ∧ event = .orderPlaced c order fills ∧
        ∃ placed, app.placeOrderInDomain order = (.ok fills, placed) := by
  unfold placeOrderEvent
  by_cases hc : c ∈ app.seenCommands
  · simp only [rejectDuplicate_of_mem hc, reduceCtorEq, hc, not_true_eq_false, false_and]
  · simp only [rejectDuplicate_of_not_mem hc, hc, not_false_eq_true, true_and]
    rcases hp : app.placeOrderInDomain order with ⟨e | fs, placed⟩
    · simp only [reduceCtorEq, Prod.mk.injEq, false_and, exists_false, and_false]
    · simp only [Except.ok.injEq, Prod.mk.injEq, exists_and_left, exists_eq', and_true]
      constructor
      · rintro ⟨rfl, rfl⟩
        exact ⟨rfl, rfl⟩
      · rintro ⟨rfl, rfl⟩
        exact ⟨rfl, rfl⟩

/-- An event derived for an order applies in the state it was derived in. -/
theorem applyEvent_placeOrderEvent {c : CommandId} {order : Order} {event : Event}
    {fills : List Fill} (h : app.placeOrderEvent c order = .ok (event, fills)) :
    ∃ app', app.applyEvent event = (.ok (), app') := by
  rcases placeOrderEvent_eq_ok.mp h with ⟨hc, rfl, placed, hp⟩
  exact ⟨_, applyEvent_order.mpr ⟨hc, placed, hp, rfl⟩⟩

/-- An event derived for a deposit applies exactly when the credit fits. -/
theorem applyEvent_creditDepositEvent {c : CommandId} {t : TraderId} {a : AssetId}
    {amount : BalanceAmount} {event : Event}
    (h : app.creditDepositEvent c t a amount = .ok event) :
    (app.applyEvent event).1 = .ok () ↔ app.balances.Creditable t a amount := by
  rcases creditDepositEvent_eq_ok.mp h with ⟨hc, rfl⟩
  -- What applying does to a deposit is what crediting does to the sheet.
  rw [← BalanceSheet.creditAvailable_isOk]
  constructor
  · intro hok
    rcases ha : app.applyEvent (.depositCredited c t a amount) with ⟨r, app'⟩
    rw [ha] at hok
    rw [show r = .ok () from hok] at ha
    rcases applyEvent_deposit.mp ha with ⟨-, balances, hb, -⟩
    rw [hb]
  · intro hok
    rcases hb : app.balances.creditAvailable t a amount with ⟨r, balances⟩
    rw [hb] at hok
    rw [show r = .ok () from hok] at hb
    rw [applyEvent_deposit.mpr ⟨hc, balances, hb, rfl⟩]

/-- A deposit event that does not apply leaves the application as it was. -/
theorem applyEvent_deposit_error {c : CommandId} {t : TraderId} {a : AssetId}
    {amount : BalanceAmount} {e : ApplicationError}
    (h : (app.applyEvent (.depositCredited c t a amount)).1 = .error e) :
    (app.applyEvent (.depositCredited c t a amount)).2 = app := by
  unfold applyEvent at h ⊢
  by_cases hc : c ∈ app.seenCommands
  · simp only [Event.commandId, rejectDuplicate_of_mem hc]
  simp only [Event.commandId, rejectDuplicate_of_not_mem hc] at h ⊢
  rcases hb : app.balances.creditAvailable t a amount with ⟨e' | ⟨⟩, balances⟩
  · have hsame := BalanceSheet.creditAvailable_error (congrArg Prod.fst hb)
    rw [hb] at hsame
    rw [show balances = app.balances from hsame]
  · simp only [hb, recordAppliedEvent, Event.commandId, hc, if_false, reduceCtorEq] at h

/-- What a command can do: fail and leave the application as it was, or apply
    the one event it derives. -/
theorem execute_cases (app : ExchangeApplication) (command : Command) :
    (∃ e, (app.execute command).1 = .error e ∧ (app.execute command).2 = app) ∨
      ∃ event, app.eventOf command = .ok event ∧
        app.applyEvent event = (.ok (), (app.execute command).2) ∧
        ∃ fills, (app.execute command).1 = .ok fills := by
  cases command with
  | creditDeposit c t a amount =>
      cases hevent : app.creditDepositEvent c t a amount with
      | error e =>
          simp only [execute, creditDeposit, hevent]
          exact Or.inl ⟨e, rfl, trivial⟩
      | ok event =>
          simp only [execute, creditDeposit, eventOf, hevent]
          rcases ha : app.applyEvent event with ⟨e | ⟨⟩, app'⟩
          · -- The event was derived but its amount overflows the balance: nothing is recorded.
            rcases creditDepositEvent_eq_ok.mp hevent with ⟨-, rfl⟩
            have hsame := applyEvent_deposit_error (congrArg Prod.fst ha)
            rw [ha] at hsame
            exact Or.inl ⟨e, rfl, hsame⟩
          · exact Or.inr ⟨event, rfl, ha, [], rfl⟩
  | placeOrder c order =>
      cases hevent : app.placeOrderEvent c order with
      | error e =>
          simp only [execute, placeOrder, hevent]
          exact Or.inl ⟨e, rfl, trivial⟩
      | ok r =>
          rcases r with ⟨event, fills⟩
          -- Deriving the event already placed the order on a copy, so applying it cannot fail.
          rcases applyEvent_placeOrderEvent hevent with ⟨app', ha⟩
          simp only [execute, placeOrder, eventOf, hevent, ha]
          exact Or.inr ⟨event, rfl, ha, fills, rfl⟩

/-! ### Replaying -/

/-- The log rebuilds the application, and its command ids are the ids seen, each
    once. This is the invariant of everything that is event sourced here. -/
structure Logged (app : ExchangeApplication) : Prop where
  replayed : replay app.market app.events = .ok app
  distinct : (app.events.map Event.commandId).Nodup
  seen : ∀ c, c ∈ app.seenCommands ↔ c ∈ app.events.map Event.commandId

/-- An application without events is what an empty log rebuilds. -/
theorem new_logged (market : MarketSpec) : (new market).Logged where
  replayed := rfl
  distinct := List.nodup_nil
  seen c := by simp only [new, Finset.notMem_empty, List.map_nil, List.not_mem_nil]

/-- Applying an event keeps the log able to rebuild the application. -/
theorem applyEvent_logged {event : Event} (h : app.Logged)
    (ha : app.applyEvent event = (.ok (), app')) : app'.Logged := by
  rcases applyEvent_ok ha with ⟨hnew, hmarket, hevents, hseen⟩
  refine ⟨?_, ?_, fun c => ?_⟩
  · rw [hmarket, hevents]
    exact Replay.replay_snoc applyEvent h.replayed ha
  · rw [hevents, List.map_append, List.nodup_append]
    refine ⟨h.distinct, List.nodup_singleton _, fun x hx y hy => ?_⟩
    rw [List.mem_singleton.mp hy]
    rintro rfl
    exact hnew ((h.seen _).mpr hx)
  · rw [hevents, hseen, List.map_append, List.mem_append, Finset.mem_insert, h.seen, List.map_cons,
      List.map_nil, List.mem_singleton, or_comm]

/-- A log that replays leads to an application with that log. -/
theorem replay_logged {market : MarketSpec} {events : List Event}
    (h : replay market events = .ok app) :
    app.Logged ∧ app.market = market ∧ app.events = events := by
  refine Replay.replay_invariant applyEvent (s := new market)
    (P := fun past app => app.Logged ∧ app.market = market ∧ app.events = past)
    ⟨new_logged market, rfl, rfl⟩ ?_ h
  intro past app e app' ⟨hlogged, hmarket, hevents⟩ ha
  rcases applyEvent_ok ha with ⟨-, hm, he, -⟩
  exact ⟨applyEvent_logged hlogged ha, hm.trans hmarket, by rw [he, hevents]⟩

/-- A command keeps the log able to rebuild the application. -/
theorem execute_logged (h : app.Logged) (command : Command) :
    (app.execute command).2.Logged ∧ (app.execute command).2.market = app.market := by
  rcases app.execute_cases command with ⟨e, -, hsame⟩ | ⟨event, -, ha, -⟩
  · rw [hsame]
    exact ⟨h, rfl⟩
  · exact ⟨applyEvent_logged h ha, (applyEvent_ok ha).2.1⟩

/-- After any commands the log rebuilds the application. -/
theorem run_logged (market : MarketSpec) (commands : List Command) :
    (Run.after execute (new market) commands).Logged ∧
      (Run.after execute (new market) commands).market = market := by
  -- The log of a fresh application describes it, and the market never changes.
  refine Run.invariant execute (s := new market)
    (P := fun _ app => app.Logged ∧ app.market = market) ⟨new_logged market, rfl⟩ ?_ commands
  intro _ app command ⟨hlogged, hmarket⟩
  rcases execute_logged hlogged command with ⟨hlogged', hmarket'⟩
  exact ⟨hlogged', hmarket'.trans hmarket⟩

/-- After any commands, replaying the log gives the application back in every
    field, the logged command ids are the ids seen, each once, and a command
    that fails leaves the application as it was. -/
theorem replay_events (market : MarketSpec) (commands : List Command) :
    let app := Run.after execute (new market) commands
    replay market app.events = .ok app ∧
    (app.events.map Event.commandId).Nodup ∧
    (∀ c, c ∈ app.seenCommands ↔ c ∈ app.events.map Event.commandId) ∧
    ∀ command e, (app.execute command).1 = .error e → (app.execute command).2 = app := by
  intro app
  have hrun := run_logged market commands
  refine ⟨?_, hrun.1.distinct, hrun.1.seen, fun command e he => ?_⟩
  · rw [← hrun.2]
    exact hrun.1.replayed
  · rcases app.execute_cases command with ⟨-, -, hsame⟩ | ⟨-, -, -, fills, hok⟩
    · exact hsame
    · rw [he] at hok
      exact absurd hok (by simp only [reduceCtorEq, not_false_eq_true])

/-! ### Derived events -/

/-- What applying checks and deriving does not: a deposit fits its balance. -/
def Fits (app : ExchangeApplication) : Command → Prop
  | .creditDeposit _ traderId assetId amount => app.balances.Creditable traderId assetId amount
  | .placeOrder _ _ => True

instance (app : ExchangeApplication) : (command : Command) → Decidable (app.Fits command)
  | .creditDeposit _ traderId assetId amount =>
    inferInstanceAs (Decidable (app.balances.Creditable traderId assetId amount))
  | .placeOrder _ _ => inferInstanceAs (Decidable True)

/-- In every state, an event derived there applies there exactly when it is an
    order's, or a deposit's that fits its balance. An order has already been
    placed on a clone when its event is derived, and a deposit has not been
    tried. -/
theorem applyEvent_derived (app : ExchangeApplication) (command : Command) (event : Event)
    (h : app.eventOf command = .ok event) :
    (app.applyEvent event).1 = .ok () ↔ app.Fits command := by
  cases command with
  -- Only a deposit can overflow; an order moves what is already there.
  | creditDeposit c t a amount => exact applyEvent_creditDepositEvent h
  | placeOrder c order =>
      simp only [eventOf] at h
      cases hevent : app.placeOrderEvent c order with
      | error e =>
          rw [hevent] at h
          exact absurd h (by simp only [Except.map, reduceCtorEq, not_false_eq_true])
      | ok r =>
          rw [hevent] at h
          rcases r with ⟨event', fills⟩
          rcases applyEvent_placeOrderEvent hevent with ⟨app', ha⟩
          simp only [Except.map, Except.ok.injEq] at h
          rw [← h, ha]
          exact iff_of_true rfl trivial

/-- The market of assets one and two, which is the `default_market` of the
    service. -/
def sampleMarket : MarketSpec :=
  (MarketSpec.new ⟨1, Nat.succ_pos _⟩ ⟨2, Nat.succ_pos _⟩ ⟨1, Nat.succ_pos _⟩
    ⟨1, Nat.succ_pos _⟩).toOption.get (by decide)

/-- A deposit by trader one of the base asset of `sampleMarket`. -/
def sampleDeposit (commandId : CommandId) (amount : BalanceAmount) : Command :=
  .creditDeposit commandId ⟨1, Nat.succ_pos _⟩ ⟨1, Nat.succ_pos _⟩ amount

/-- A deposit of everything there is room for. -/
theorem applyEvent_derived_largest :
    ((new sampleMarket).applyEvent (.depositCredited ⟨1, by decide⟩ ⟨1, by decide⟩
      ⟨1, by decide⟩ (Checked.Word.maxValue 64))).1 = .ok () :=
  (applyEvent_derived (new sampleMarket)
    (sampleDeposit ⟨1, by decide⟩ (Checked.Word.maxValue 64)) _ rfl).mpr (by decide)

/-- A second deposit of one unit is derived and does not apply. -/
theorem applyEvent_derived_overflow :
    ¬ ∀ (market : MarketSpec) (commands : List Command) (command : Command) (event : Event),
      (Run.after execute (new market) commands).eventOf command = .ok event →
      ((Run.after execute (new market) commands).applyEvent event).1 = .ok () := by
  intro h
  have hpoison := h sampleMarket [sampleDeposit ⟨1, by decide⟩ (Checked.Word.maxValue 64)]
    (sampleDeposit ⟨2, by decide⟩ 1)
    (.depositCredited ⟨2, by decide⟩ ⟨1, by decide⟩ ⟨1, by decide⟩ 1) (by decide)
  exact absurd hpoison (by decide)

end ExchangeApplication

end Exchange

end SolanaLab
