import SolanaLab.Exchange.Application
import SolanaLab.Exchange.Conservation

/-!
# Placed Orders

What a run of the application has done to its books and its balances. A
command is rejected and changes nothing, credits a deposit, or places an
order: `Executed` has one constructor for each, with all that the command has
found and done.

The orders placed are a history of the matching engine. `Traced` says so: the
books of the application are those the engine reaches by these orders, and
what the application has answered to them is the log of that history. So
whatever holds of the engine over every history holds of the books of the
application over every run.

An event that comes from elsewhere than the command is another matter. One
that is refused for its fills has already changed books and balances.

The balances are added up the other way, from the log of the commands. What
has been credited is the sum of the deposits accepted, and what is reserved is
the sum of what the orders placed have needed.

## Main definitions

* `Executed`: What a command found and did.
* `ExchangeApplication.Derives`: The event holds the fills derived for it.
* `ordersOf`: The orders placed, oldest first.
* `engineLog`: What they were answered, as a log of the engine.
* `credited`: What was credited to a trader in an asset.
* `Order.cost`: What an order needs reserved.
* `needed`: What a list of orders needs reserved of a trader and an asset.
* `Traced`: What a log says about books and balances.
* `CommandLog.reference`: The reference of the orders placed.

## Theorems

* `execute_executed`: A command does one of the three things.
* `forOrder_eq_ok`: When a reservation can be made, and what it says.
* `applyEvent_order_cases`: What an order event does.
* `applyEvent_refused`: When a refused event changes nothing.
* `run_traced`: Every run is traced by its log.
* `Traced.represents`: The books represent the reference of the orders placed.
* `Traced.served`: An order placed has been served by that reference.
-/

namespace SolanaLab

namespace Exchange

open Checked
open ExchangeApplication (sampleMarket sampleDeposit)

/-! ### One command -/

/-- What a command found in an application and did to it. The fields of an order
    placed are the reservation made, the balances and books after it, and the
    fills. -/
inductive Executed (app : ExchangeApplication) :
    Command → Except ApplicationError (List Fill) → ExchangeApplication → Prop where
  | rejected (command : Command) (e : ApplicationError) : Executed app command (.error e) app
  | credited {c : CommandId} {t : TraderId} {a : AssetId} {amount : BalanceAmount}
      {balances : BalanceSheet} (new : c ∉ app.seenCommands)
      (credit : app.balances.creditAvailable t a amount = (.ok (), balances)) :
      Executed app (.creditDeposit c t a amount) (.ok [])
        ({ app with balances }.record (.depositCredited c t a amount))
  | placed {c : CommandId} {order : Order} {reservation : Reservation}
      {balances : BalanceSheet} {matching : MatchingEngine} {fills : List Fill}
      (new : c ∉ app.seenCommands) (live : ¬ order.isTerminal)
      (needs : Reservation.forOrder order app.market = .ok reservation)
      (reserve : app.balances.reserve reservation = (.ok (), balances))
      (matched : app.matching.placeOrder order = (.ok fills, matching)) :
      Executed app (.placeOrder c order) (.ok fills)
        ({ app with balances, matching }.record (.orderPlaced c order fills))

/-- Every command is one of the three. What a rejected command leaves is the
    application it found. -/
theorem execute_executed (app : ExchangeApplication) (command : Command) :
    Executed app command (app.execute command).1 (app.execute command).2 := by
  -- A command that fails changes nothing, and one that succeeds applies its event.
  rcases app.execute_cases command with ⟨e, he, hsame⟩ | ⟨event, hevent, ha, fills, hok⟩
  · rw [he, hsame]
    exact .rejected command e
  cases command with
  | creditDeposit c t a amount =>
      rcases ExchangeApplication.creditDepositEvent_eq_ok.mp hevent with ⟨hc, rfl⟩
      rcases ExchangeApplication.applyEvent_deposit.mp ha with ⟨-, balances, hb, happ⟩
      have hanswer : ((app.execute (.creditDeposit c t a amount)).1) = .ok [] := by
        have hcredit : (app.creditDeposit c t a amount).1 = .ok () := by
          rw [ExchangeApplication.creditDeposit,
            show app.creditDepositEvent c t a amount = _ from hevent]
          exact congrArg Prod.fst ha
        exact congrArg (Except.map (fun _ => [])) hcredit
      rw [hanswer, happ]
      exact .credited hc hb
  | placeOrder c order =>
      rw [ExchangeApplication.eventOf] at hevent
      cases hplace : app.placeOrderEvent c order with
      | error e =>
          rw [hplace] at hevent
          exact absurd hevent (by simp only [Except.map, reduceCtorEq, not_false_eq_true])
      | ok r =>
          rcases r with ⟨event', fills'⟩
          rw [hplace] at hevent
          simp only [Except.map, Except.ok.injEq] at hevent
          subst hevent
          -- The event holds the fills that applying it to the same state gives again.
          rcases ExchangeApplication.placeOrderEvent_eq_ok.mp hplace with ⟨hc, rfl, -⟩
          rcases ExchangeApplication.applyEvent_order.mp ha with ⟨-, placed, hp, happ⟩
          rcases ExchangeApplication.placeOrderInDomain_eq_ok.mp hp with
            ⟨hlive, reservation, balances, matching, hr, hb, hm, rfl⟩
          have hanswer : (app.execute (.placeOrder c order)).1 = .ok fills' := by
            generalize (app.execute (.placeOrder c order)).2 = app' at ha
            simp only [ExchangeApplication.execute, ExchangeApplication.placeOrder, hplace, ha]
          rw [hanswer, happ]
          exact .placed hc hlive hr hb hm

/-! ### What an order needs -/

/-- The asset an order needs: a bid pays quote, an ask delivers base. -/
def Order.asset (o : Order) (market : MarketSpec) : AssetId :=
  match o.side with
  | .bid => market.quoteAsset
  | .ask => market.baseAsset

/-- What one unit of an order needs at its own limit. -/
def Order.unitCost (o : Order) : Nat :=
  match o.side with
  | .bid => o.price.get.val
  | .ask => 1

/-- What an order needs reserved: its limit price times its original quantity
    for a bid, its original quantity for an ask. -/
def Order.cost (o : Order) : Nat := o.unitCost * o.original

/-- A unit costs something, since prices are not zero. -/
theorem Order.unitCost_pos (o : Order) : 0 < o.unitCost := by
  unfold Order.unitCost
  cases o.side with
  | bid => exact o.price.pos
  | ask => exact Nat.one_pos

/-- A fill does not change which asset an order needs, nor its cost for each
    unit. -/
@[simp] theorem Order.fill_asset (o : Order) (q : Quantity) (market : MarketSpec) :
    (o.fill q).asset market = o.asset market := rfl

@[simp] theorem Order.fill_unitCost (o : Order) (q : Quantity) :
    (o.fill q).unitCost = o.unitCost := rfl

/-- A reservation can be made when its amount fits into 64 bits, and is for the
    trader, the asset and the cost of the order. A bid multiplies in 128 bits
    and the product may be too large for a balance. -/
theorem forOrder_eq_ok {order : Order} {market : MarketSpec} {r : Reservation} :
    Reservation.forOrder order market = .ok r
      ↔ r.traderId = order.traderId ∧ r.assetId = order.asset market ∧
        r.amount.val = order.cost := by
  rcases r with ⟨t, a, amount⟩
  unfold Reservation.forOrder Order.asset Order.cost Order.unitCost
  cases hside : order.side with
  | bid =>
      -- The cost of a bid is a product of 128 bits, which has to fit into 64.
      rcases order.price.quoteCost_eq order.originalQuantity with ⟨cost, hcost, hval⟩
      simp only [hcost]
      cases hn : BalanceAmount.fromU128 cost with
      | error e =>
          simp only [reduceCtorEq, false_iff]
          rintro ⟨-, -, hamount⟩
          have hfit : BalanceAmount.fromU128 cost = .ok amount := by
            rw [BalanceAmount.fromU128, okOr_eq_ok, narrow_eq_some, hamount, hval]
            rfl
          rw [hfit] at hn
          exact absurd hn (by simp only [reduceCtorEq, not_false_eq_true])
      | ok amount' =>
          rw [BalanceAmount.fromU128, okOr_eq_ok, narrow_eq_some, hval] at hn
          simp only [Except.ok.injEq, Reservation.mk.injEq]
          constructor
          · rintro ⟨rfl, rfl, rfl⟩
            exact ⟨rfl, rfl, hn⟩
          · rintro ⟨rfl, rfl, hamount⟩
            exact ⟨rfl, rfl, Fin.ext (hn.trans hamount.symm)⟩
  | ask =>
      -- An ask needs its own quantity, which fits.
      simp only [Except.ok.injEq, Reservation.mk.injEq, Nat.one_mul]
      constructor
      · rintro ⟨rfl, rfl, rfl⟩
        exact ⟨rfl, rfl, rfl⟩
      · rintro ⟨rfl, rfl, hamount⟩
        exact ⟨rfl, rfl, Fin.ext hamount.symm⟩

/-- What an amount of one trader and asset adds to the balance of another. Sums
    over a log are sums of shares, so that one equation holds for every trader
    and asset. -/
def share (t t' : TraderId) (a a' : AssetId) (n : Nat) : Nat := if t' = t ∧ a' = a then n else 0

/-- A credit adds to what is available and to nothing else. -/
theorem creditAvailable_amounts {sheet sheet' : BalanceSheet} {t : TraderId} {a : AssetId}
    {amount : BalanceAmount} (h : sheet.creditAvailable t a amount = (.ok (), sheet'))
    (t' : TraderId) (a' : AssetId) :
    (sheet'.balance t' a').available.val
        = (sheet.balance t' a').available.val + share t t' a a' amount.val ∧
      (sheet'.balance t' a').reserved = (sheet.balance t' a').reserved := by
  rcases BalanceSheet.update_eq_ok h with ⟨hop, hother⟩
  unfold share
  by_cases hkey : t' = t ∧ a' = a
  · rw [if_pos hkey, hkey.1, hkey.2]
    exact Balance.creditAvailable_eq_ok.mp hop
  · rw [if_neg hkey, hother t' a' hkey]
    exact ⟨rfl, rfl⟩

/-- A reservation moves its amount from available to reserved. -/
theorem reserve_amounts {sheet sheet' : BalanceSheet} {r : Reservation}
    (h : sheet.reserve r = (.ok (), sheet')) (t : TraderId) (a : AssetId) :
    (sheet'.balance t a).available.val + share r.traderId t r.assetId a r.amount.val
        = (sheet.balance t a).available.val ∧
      (sheet'.balance t a).reserved.val
        = (sheet.balance t a).reserved.val + share r.traderId t r.assetId a r.amount.val := by
  rcases BalanceSheet.update_eq_ok h with ⟨hop, hother⟩
  unfold share
  by_cases hkey : t = r.traderId ∧ a = r.assetId
  · rw [if_pos hkey, hkey.1, hkey.2]
    exact Balance.reserve_eq_ok.mp hop
  · rw [if_neg hkey, hother t a hkey]
    exact ⟨rfl, rfl⟩

/-! ### Refused events -/

/-- A placed order has changed the balances: its reservation is not zero. -/
theorem placeOrderInDomain_ne {app app' : ExchangeApplication} {order : Order}
    {fills : List Fill} (h : app.placeOrderInDomain order = (.ok fills, app')) : app' ≠ app := by
  rcases ExchangeApplication.placeOrderInDomain_eq_ok.mp h with
    ⟨-, reservation, balances, matching, needs, reserve, -, rfl⟩
  intro heq
  rw [show balances = app.balances from congrArg ExchangeApplication.balances heq] at reserve
  have hmoved := (reserve_amounts reserve reservation.traderId reservation.assetId).1
  have hpos : 0 < reservation.amount.val := by
    rw [(forOrder_eq_ok.mp needs).2.2]
    exact Nat.mul_pos order.unitCost_pos order.original_pos
  rw [share, if_pos ⟨rfl, rfl⟩] at hmoved
  omega

/-- What an order event does where its order derives nothing, where it derives
    the fills of the event, and where it derives others. Only in the last case
    is it refused after it has changed something. -/
theorem applyEvent_order_cases (app : ExchangeApplication) (c : CommandId) (order : Order)
    (fills : List Fill) :
    (∃ e, (∀ r, app.placeOrderEvent c order ≠ .ok r) ∧
        app.applyEvent (.orderPlaced c order fills) = (.error e, app)) ∨
      ∃ replayed placed, placed ≠ app ∧
        app.placeOrderEvent c order = .ok (.orderPlaced c order replayed, replayed) ∧
        app.applyEvent (.orderPlaced c order fills)
          = if replayed = fills then (.ok (), placed.record (.orderPlaced c order fills))
            else (.error .replayMismatch, placed) := by
  by_cases hc : c ∈ app.seenCommands
  · -- A command seen before is refused first.
    refine Or.inl ⟨.duplicateCommand, fun r hr => ?_, ?_⟩
    · exact absurd hc (ExchangeApplication.placeOrderEvent_eq_ok.mp hr).1
    · simp only [ExchangeApplication.applyEvent, Event.commandId,
        ExchangeApplication.rejectDuplicate_of_mem hc]
  have hfresh := ExchangeApplication.rejectDuplicate_of_not_mem hc
  rcases hp : app.placeOrderInDomain order with ⟨e | replayed, placed⟩
  -- What cannot be placed leaves the application as it was, in the event as in the
  -- command.
  · have hsame := ExchangeApplication.placeOrderInDomain_error (congrArg Prod.fst hp)
    rw [hp] at hsame
    refine Or.inl ⟨e, fun r hr => ?_, ?_⟩
    · rcases (ExchangeApplication.placeOrderEvent_eq_ok.mp hr).2.2 with ⟨placed', hok⟩
      rw [hp] at hok
      exact absurd (congrArg Prod.fst hok) (by simp only [reduceCtorEq, not_false_eq_true])
    · simp only [ExchangeApplication.applyEvent, Event.commandId, hfresh, hp]
      rw [show placed = app from hsame]
  · refine Or.inr ⟨replayed, placed, placeOrderInDomain_ne hp,
      ExchangeApplication.placeOrderEvent_eq_ok.mpr ⟨hc, rfl, placed, hp⟩, ?_⟩
    by_cases hfills : replayed = fills
    · rw [if_pos hfills]
      rw [hfills] at hp
      exact ExchangeApplication.applyEvent_order.mpr ⟨hc, placed, hp, rfl⟩
    · -- The fills are compared after balances and books have been replaced.
      rw [if_neg hfills]
      simp only [ExchangeApplication.applyEvent, Event.commandId, hfresh, hp, ne_eq, hfills,
        not_false_eq_true, if_true]

/-- What applying an event does not check before it changes anything: an order
    event holds the fills that the application derives for its order, if it
    derives any. -/
def ExchangeApplication.Derives (app : ExchangeApplication) : Event → Prop
  | .depositCredited _ _ _ _ => True
  | .orderPlaced c order fills =>
    ∀ event replayed, app.placeOrderEvent c order = .ok (event, replayed) → replayed = fills

/-- In every state that events lead to, an event that is refused leaves the
    application as it was exactly when it is not an order event with other
    fills than the application derives. -/
theorem applyEvent_refused (market : MarketSpec) (events : List Event) (event : Event) :
    let app := Run.after ExchangeApplication.applyEvent (.new market) events
    (∀ e, (app.applyEvent event).1 = .error e → (app.applyEvent event).2 = app)
      ↔ app.Derives event := by
  intro app
  cases event with
  | depositCredited c t a amount =>
      exact iff_of_true (fun e => ExchangeApplication.applyEvent_deposit_error) trivial
  | orderPlaced c order fills =>
      rcases applyEvent_order_cases app c order fills with
        ⟨e, hnone, happly⟩ | ⟨replayed, placed, hne, hderived, happly⟩
      · rw [happly]
        exact iff_of_true (fun _ _ => rfl) (fun event replayed h => absurd h (hnone _))
      · rw [happly]
        by_cases hfills : replayed = fills
        · rw [if_pos hfills]
          refine iff_of_true (fun e he => ?_) (fun event replayed' h => ?_)
          · exact absurd he (by simp only [reduceCtorEq, not_false_eq_true])
          · rw [hderived, Except.ok.injEq, Prod.mk.injEq] at h
            exact h.2.symm.trans hfills
        · -- The fills were found to differ after the order was placed.
          rw [if_neg hfills]
          exact iff_of_false (fun h => hne (h _ rfl)) (fun h => hfills (h _ _ hderived))

/-- An order of trader one that reserves all there is, recorded with a fill
    that no engine gives on empty books. -/
theorem applyEvent_refused_mismatch :
    ¬ ∀ (market : MarketSpec) (events : List Event) (event : Event) (e : ApplicationError),
      ((Run.after ExchangeApplication.applyEvent (.new market) events).applyEvent event).1
        = .error e →
      ((Run.after ExchangeApplication.applyEvent (.new market) events).applyEvent event).2
        = Run.after ExchangeApplication.applyEvent (.new market) events := by
  intro h
  have hkept := h sampleMarket
    [.depositCredited ⟨1, by decide⟩ ⟨1, by decide⟩ ⟨1, by decide⟩ 5]
    (.orderPlaced ⟨2, by decide⟩ (Order.sample ⟨1, by decide⟩ .ask ⟨1, by decide⟩ ⟨5, by decide⟩)
      [⟨⟨1, by decide⟩, ⟨1, by decide⟩, ⟨1, by decide⟩, ⟨1, by decide⟩, ⟨1, by decide⟩,
        ⟨5, by decide⟩⟩]) .replayMismatch (by decide +kernel)
  exact absurd hkept (by decide +kernel)

/-! ### A whole run -/

/-- The log of the commands of a run. -/
abbrev CommandLog := List (Command × Except ApplicationError (List Fill))

/-- The order an entry has placed, with its fills. -/
def placement : Command × Except ApplicationError (List Fill) → Option (Order × List Fill)
  | (.placeOrder _ order, .ok fills) => some (order, fills)
  | _ => none

/-- The orders placed, each with the fills it was answered. -/
def placements (past : CommandLog) : List (Order × List Fill) := past.filterMap placement

/-- The orders placed, oldest first. -/
def ordersOf (past : CommandLog) : List Order := (placements past).map Prod.fst

/-- The orders placed and their fills, as a log of the matching engine. -/
def engineLog (past : CommandLog) : List (Order × Except Error (List Fill)) :=
  (placements past).map (fun p => (p.1, .ok p.2))

/-- What an entry has credited to a trader in an asset. -/
def credit (t : TraderId) (a : AssetId) : Command × Except ApplicationError (List Fill) → Nat
  | (.creditDeposit _ t' a' amount, .ok _) => share t' t a' a amount.val
  | _ => 0

/-- What was credited to a trader in an asset. -/
def credited (past : CommandLog) (t : TraderId) (a : AssetId) : Nat :=
  (past.map (credit t a)).sum

/-- What a list of orders needs reserved of a trader and an asset. -/
def needed (market : MarketSpec) (t : TraderId) (a : AssetId) (orders : List Order) : Nat :=
  (orders.map (fun o => share o.traderId t (o.asset market) a o.cost)).sum

/-- A command that was rejected has placed nothing. -/
theorem placement_error (command : Command) (e : ApplicationError) :
    placement (command, .error e) = none := by
  cases command <;> rfl

/-- And has credited nothing. -/
theorem credit_error (t : TraderId) (a : AssetId) (command : Command) (e : ApplicationError) :
    credit t a (command, .error e) = 0 := by
  cases command <;> rfl

/-- An entry that places nothing adds nothing to the orders placed. -/
theorem placements_snoc_none {past : CommandLog}
    {e : Command × Except ApplicationError (List Fill)} (h : placement e = none) :
    placements (past ++ [e]) = placements past := by
  rw [placements, List.filterMap_append, List.filterMap_cons_none h]
  exact List.append_nil _

/-- An order placed is the last of the orders placed. -/
theorem placements_snoc_some {past : CommandLog} (c : CommandId) (o : Order)
    (fills : List Fill) :
    placements (past ++ [(.placeOrder c o, .ok fills)]) = placements past ++ [(o, fills)] := by
  rw [placements, List.filterMap_append]
  rfl

/-- The same for the orders without their fills. -/
theorem ordersOf_snoc (past : CommandLog) (c : CommandId) (o : Order) (fills : List Fill) :
    ordersOf (past ++ [(.placeOrder c o, .ok fills)]) = ordersOf past ++ [o] := by
  rw [ordersOf, placements_snoc_some, List.map_append]
  rfl

/-- For the engine an order placed is an order it has accepted. -/
theorem engineLog_snoc (past : CommandLog) (c : CommandId) (o : Order) (fills : List Fill) :
    engineLog (past ++ [(.placeOrder c o, .ok fills)]) = engineLog past ++ [(o, .ok fills)] := by
  rw [engineLog, placements_snoc_some, List.map_append]
  rfl

/-- An entry that places nothing leaves the orders placed as they are. -/
theorem ordersOf_snoc_none {past : CommandLog}
    {e : Command × Except ApplicationError (List Fill)} (h : placement e = none) :
    ordersOf (past ++ [e]) = ordersOf past :=
  congrArg (List.map Prod.fst) (placements_snoc_none h)

/-- And nothing else is in its log. -/
theorem engineLog_snoc_none {past : CommandLog}
    {e : Command × Except ApplicationError (List Fill)} (h : placement e = none) :
    engineLog (past ++ [e]) = engineLog past := by
  rw [engineLog, placements_snoc_none h]
  rfl

/-- What was credited is added up entry by entry. -/
theorem credited_snoc (past : CommandLog) (e : Command × Except ApplicationError (List Fill))
    (t : TraderId) (a : AssetId) :
    credited (past ++ [e]) t a = credited past t a + credit t a e := by
  rw [credited, List.map_append, List.sum_append]
  exact congrArg (_ + ·) (List.sum_singleton)

/-- What orders have needed is added up order by order. -/
theorem needed_snoc (market : MarketSpec) (t : TraderId) (a : AssetId) (orders : List Order)
    (o : Order) :
    needed market t a (orders ++ [o])
      = needed market t a orders + share o.traderId t (o.asset market) a o.cost := by
  rw [needed, List.map_append, List.sum_append]
  exact congrArg (_ + ·) (List.sum_singleton)

/-- Every entry of an engine log was accepted. -/
theorem accepted_engineLog (past : CommandLog) : accepted (engineLog past) = ordersOf past := by
  unfold accepted engineLog ordersOf
  rw [List.filter_eq_self.mpr, List.map_map]
  · rfl
  · intro e he
    rcases List.mem_map.mp he with ⟨p, -, rfl⟩
    rfl

/-- The fills of an engine log are those the application has answered. -/
theorem fillsOf_engineLog (past : CommandLog) :
    fillsOf (engineLog past) = (placements past).flatMap Prod.snd := by
  unfold fillsOf engineLog
  rw [List.flatMap_map]
  rfl

/-- What the log of a run says about the application reached: its books are
    those of the engine after the orders placed, which the engine has answered
    as the application has; what is reserved is what these orders have needed;
    and what is available and reserved is what was credited. Since nothing is
    ever released, the reservations only add up. -/
structure Traced (market : MarketSpec) (past : CommandLog) (app : ExchangeApplication) : Prop where
  market_eq : app.market = market
  matching : app.matching = MatchingEngine.new.placeAll (ordersOf past)
  log : Run.log MatchingEngine.placeOrder MatchingEngine.new (ordersOf past) = engineLog past
  reserved : ∀ t a, (app.balances.balance t a).reserved.val = needed market t a (ordersOf past)
  total : ∀ t a, (app.balances.balance t a).available.val
    + (app.balances.balance t a).reserved.val = credited past t a

/-- Before any command there is nothing to trace. -/
theorem new_traced (market : MarketSpec) : Traced market [] (.new market) :=
  ⟨rfl, rfl, rfl, fun _ _ => rfl, fun _ _ => rfl⟩

/-- A command keeps the trace. An order placed is appended to the history of the
    engine, and its reservation to what was needed. The amounts are words, and
    each equation is one of naturals. -/
theorem executed_traced {market : MarketSpec} {past : CommandLog}
    {app app' : ExchangeApplication} {command : Command}
    {answer : Except ApplicationError (List Fill)} (h : Traced market past app)
    (hx : Executed app command answer app') : Traced market (past ++ [(command, answer)]) app' := by
  cases hx with
  | rejected command e =>
      -- Nothing was placed and nothing credited.
      have hnone := placement_error command e
      refine ⟨h.market_eq, ?_, ?_, ?_, fun t a => ?_⟩
      · rw [ordersOf_snoc_none hnone]
        exact h.matching
      · rw [ordersOf_snoc_none hnone, engineLog_snoc_none hnone]
        exact h.log
      · rw [ordersOf_snoc_none hnone]
        exact h.reserved
      · rw [credited_snoc, credit_error]
        exact h.total t a
  | @credited c t a amount balances new credit =>
      have hamounts := creditAvailable_amounts credit
      have hnone : placement (.creditDeposit c t a amount, .ok []) = none := rfl
      refine ⟨h.market_eq, ?_, ?_, fun t' a' => ?_, fun t' a' => ?_⟩
      · rw [ordersOf_snoc_none hnone]
        exact h.matching
      · rw [ordersOf_snoc_none hnone, engineLog_snoc_none hnone]
        exact h.log
      · rw [ordersOf_snoc_none hnone, ← h.reserved t' a']
        exact congrArg Fin.val (hamounts t' a').2
      · rw [credited_snoc, ← h.total t' a']
        -- The credit goes to what is available.
        change (balances.balance t' a').available.val + (balances.balance t' a').reserved.val
          = _ + share t t' a a' amount.val
        rw [(hamounts t' a').1, (hamounts t' a').2]
        omega
  | @placed c order reservation balances matching fills new live needs reserve matched =>
      have hamounts := reserve_amounts reserve
      rw [h.market_eq] at needs
      rcases forOrder_eq_ok.mp needs with ⟨htrader, hasset, hcost⟩
      -- The engine of the application is the engine that has placed the orders of the log.
      have hplace := matched
      rw [h.matching] at hplace
      refine ⟨h.market_eq, ?_, ?_, fun t a => ?_, fun t a => ?_⟩
      · rw [ordersOf_snoc, MatchingEngine.placeAll, Run.after_snoc]
        exact (congrArg Prod.snd hplace).symm
      · -- The engine answers the order as the application does.
        rw [ordersOf_snoc, engineLog_snoc, Run.log_snoc, h.log]
        exact congrArg (fun r => engineLog past ++ [(order, r)]) (congrArg Prod.fst hplace)
      · rw [ordersOf_snoc, needed_snoc, ← h.reserved t a, ← htrader, ← hasset, ← hcost]
        exact (hamounts t a).2
      · rw [credited_snoc, ← h.total t a]
        -- The reservation leaves the sum of the two amounts alone.
        change (balances.balance t a).available.val + (balances.balance t a).reserved.val = _ + 0
        rw [(hamounts t a).2, ← (hamounts t a).1]
        omega

/-- Every run is traced by its log. -/
theorem run_traced (market : MarketSpec) (commands : List Command) :
    Traced market (Run.log ExchangeApplication.execute (.new market) commands)
      (Run.after ExchangeApplication.execute (.new market) commands) :=
  Run.invariant ExchangeApplication.execute (new_traced market)
    (fun _ app command h => executed_traced h (execute_executed app command)) commands

/-- The reference of the orders placed in a run. -/
def CommandLog.reference (past : CommandLog) : Reference := Reference.new.placeAll (ordersOf past)

/-- The books of a traced application represent the reference of the orders
    placed, and the reference has answered these orders alike. -/
theorem Traced.represents {market : MarketSpec} {past : CommandLog} {app : ExchangeApplication}
    (h : Traced market past app) :
    Represents app.matching past.reference ∧ past.reference.Sound ∧
      Run.log Reference.place Reference.new (ordersOf past) = engineLog past := by
  rcases placeAll_simulation (ordersOf past) with ⟨hlog, hrep, hsound⟩
  rw [h.matching, ← h.log, ← hlog]
  exact ⟨hrep, hsound, rfl⟩

/-- An order placed has been served by the reference. -/
theorem Traced.served {market : MarketSpec} {past : CommandLog} {app app' : ExchangeApplication}
    (h : Traced market past app) {c : CommandId} {order : Order} {fills : List Fill}
    (hx : Executed app (.placeOrder c order) (.ok fills) app') :
    ¬ order.isTerminal ∧ fills = (serve (past.reference.queue order.side.opposite) order).1 ∧
      CommandLog.reference (past ++ [(.placeOrder c order, .ok fills)])
        = (past.reference.place order).2 := by
  rcases h.represents with ⟨hrep, hsound, -⟩
  cases hx with
  | placed new live needs reserve matched =>
      refine ⟨live, ?_, ?_⟩
      · have hanswer := (placeOrder_spec hrep hsound.past order).1
        rw [matched, place_answer _ live] at hanswer
        exact Except.ok.inj hanswer
      · rw [CommandLog.reference, ordersOf_snoc, Reference.placeAll, Run.after_snoc]
        rfl

/-! ### Two orders -/

/-- An ask of trader one in market one. -/
def sampleMaker : Order :=
  Order.sample ⟨1, Nat.succ_pos _⟩ .ask ⟨10, Nat.succ_pos _⟩ ⟨5, Nat.succ_pos _⟩

/-- A bid for part of it. -/
def sampleTaker (t : TraderId) (m : MarketId) : Order :=
  Order.new ⟨2, Nat.succ_pos _⟩ t m .bid ⟨12, Nat.succ_pos _⟩ ⟨3, Nat.succ_pos _⟩
    ⟨2, Nat.succ_pos _⟩

/-- The fill of the two. -/
def sampleFill (t : TraderId) (m : MarketId) : Fill :=
  Fill.new sampleMaker (sampleTaker t m) ⟨10, Nat.succ_pos _⟩ ⟨3, Nat.succ_pos _⟩

/-- Deposits for the two, and the ask placed. -/
def sampleCommands (t : TraderId) : List Command :=
  [sampleDeposit ⟨1, Nat.succ_pos _⟩ 5, .creditDeposit ⟨2, Nat.succ_pos _⟩ t ⟨2, Nat.succ_pos _⟩ 50,
    .placeOrder ⟨3, Nat.succ_pos _⟩ sampleMaker]

end Exchange

end SolanaLab
