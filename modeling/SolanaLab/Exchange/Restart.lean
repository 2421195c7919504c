import SolanaLab.Exchange.MarketActor

/-!
# Restarting from the Journal

What a restart finds when an append may have recorded its event and reported
an error. The actor goes on after such an append, with a journal that holds an
event its application does not. A restart replays the journal, and the replay
compares the fills of every order with those it computes itself.

`RestartSafe` is what a restart should find: the journal replays, and every
order answered with success has in the replay the fills it was answered with.
It fails on a short run: an ask is recorded by an ambiguous append, the actor
then answers a crossing bid with no fills, and the replay finds the ask.

`Agreed` is the condition under which it holds. An event may be recorded when
its command id is new to the journal and when journal and application agree
on the events of its kind: on all orders if it is an order, on the deposits to
its balance if it is a deposit. The proof runs the application next to the
application replayed from the journal. As long as they agree on orders they
have the same books and reserve the same amounts, and the replayed one has no
less available; as long as they agree on the deposits to a balance, the
replayed one has no more available there. The first lets every order replay
with its fills, the second lets every deposit replay without overflow.

## Main definitions

* `RestartSafe`: The journal replays and reproduces the fills answered.
* `Agrees`: Journal and application hold the same events of a kind.
* `Agreed`: The condition on one step.
* `Follows`: The replayed application, next to the live one.

## Theorems

* `placeOrderInDomain_follows`: An order placed live is placed in the replayed
  application with the same fills.
* `step_follows`: A step that meets the condition keeps the journal
  replayable.
* `actor_restartSafe`: Runs whose steps meet the condition are safe to
  restart.
* `actor_restart_mismatch`: Not every run is.
-/

namespace SolanaLab

namespace Exchange

open ExchangeApplication

/-- A deposit fits the balance the application has. -/
def MarketCommand.Fits (app : ExchangeApplication) : MarketCommand → Prop
  | .creditDeposit _ traderId assetId amount => app.balances.Creditable traderId assetId amount
  | .placeOrder _ _ => True
  | .snapshot => True
  | .shutdown => True

instance (app : ExchangeApplication) : (command : MarketCommand) → Decidable (command.Fits app)
  | .creditDeposit _ traderId assetId amount =>
    inferInstanceAs (Decidable (app.balances.Creditable traderId assetId amount))
  | .placeOrder _ _ => inferInstanceAs (Decidable True)
  | .snapshot => inferInstanceAs (Decidable True)
  | .shutdown => inferInstanceAs (Decidable True)

namespace Event

/-- The kind of all orders. -/
def isOrder : Event → Bool
  | .depositCredited _ _ _ _ => false
  | .orderPlaced _ _ _ => true

/-- The kind of the deposits to one balance. -/
def isDepositTo (traderId : TraderId) (assetId : AssetId) : Event → Bool
  | .depositCredited _ t a _ => decide (t = traderId ∧ a = assetId)
  | .orderPlaced _ _ _ => false

/-- The events of the same kind: all orders for an order, the deposits to the
    same balance for a deposit. -/
def kind : Event → Event → Bool
  | .depositCredited _ traderId assetId _ => isDepositTo traderId assetId
  | .orderPlaced _ _ _ => isOrder

end Event

/-! ### The live and the replayed application -/

/-- The replayed balance has the same amount reserved and no less available.
    More can be available, by deposits that were recorded and not applied. -/
def Covers (live replayed : Balance) : Prop :=
  replayed.reserved = live.reserved ∧ live.available ≤ replayed.available

/-- A reservation made live is made in a covering balance, and it keeps what
    is known of the available amounts. -/
theorem reserve_covers {live live' replayed : Balance} {amount : BalanceAmount}
    (h : Covers live replayed) (hlive : live.reserve amount = (.ok (), live')) :
    ∃ replayed', replayed.reserve amount = (.ok (), replayed') ∧ Covers live' replayed' ∧
      (replayed.available ≤ live.available → replayed'.available ≤ live'.available) ∧
      replayed'.available ≤ replayed.available := by
  rcases Balance.reserve_eq_ok.mp hlive with ⟨hav, hres⟩
  have hle : live.available.val ≤ replayed.available.val := h.2
  have hlt := replayed.available.isLt
  -- The replayed balance has at least as much to reserve from.
  have hexists : ∃ b : Balance, b.available.val + amount.val = replayed.available.val ∧
      b.reserved = live'.reserved := by
    refine ⟨⟨⟨replayed.available.val - amount.val, by omega⟩, live'.reserved⟩, ?_, rfl⟩
    simp only
    omega
  rcases hexists with ⟨b, hbav, hbres⟩
  refine ⟨b, ?_, ⟨hbres, Fin.le_def.mpr (by omega)⟩, fun hback => ?_, Fin.le_def.mpr (by omega)⟩
  · rw [Balance.reserve_eq_ok, hbres, h.1]
    exact ⟨hbav, hres⟩
  · have hback' : replayed.available.val ≤ live.available.val := hback
    exact Fin.le_def.mpr (by omega)

/-- The reservation on the sheets, balance by balance. -/
theorem sheet_reserve_covers {live live' replayed : BalanceSheet} {r : Reservation}
    (h : ∀ t a, Covers (live.balance t a) (replayed.balance t a))
    (hlive : live.reserve r = (.ok (), live')) :
    ∃ replayed', replayed.reserve r = (.ok (), replayed') ∧ ∀ t a,
      Covers (live'.balance t a) (replayed'.balance t a) ∧
      ((replayed.balance t a).available ≤ (live.balance t a).available →
        (replayed'.balance t a).available ≤ (live'.balance t a).available) ∧
      (replayed'.balance t a).available ≤ (replayed.balance t a).available := by
  rcases BalanceSheet.update_eq_ok hlive with ⟨hone, hothers⟩
  rcases reserve_covers (h r.traderId r.assetId) hone with ⟨b, hb, hcovers, hback, hless⟩
  rcases BalanceSheet.update_of_ok (fun b => b.reserve r.amount) hb with
    ⟨replayed', hreplayed⟩
  rcases BalanceSheet.update_eq_ok hreplayed with ⟨hone', hothers'⟩
  rw [hb, Prod.mk.injEq] at hone'
  refine ⟨replayed', hreplayed, fun t a => ?_⟩
  by_cases hta : t = r.traderId ∧ a = r.assetId
  · rw [hta.1, hta.2, ← hone'.2]
    exact ⟨hcovers, hback, hless⟩
  · rw [hothers t a hta, hothers' t a hta]
    exact ⟨h t a, id, le_refl _⟩

/-- An order placed live is placed in an application with the same books and
    covering balances, with the same fills. The books decide the fills, and the
    balances only decide whether the order is placed at all. -/
theorem placeOrderInDomain_follows {live live' replayed : ExchangeApplication} {order : Order}
    {fills : List Fill} (hmarket : replayed.market = live.market)
    (hmatching : replayed.matching = live.matching)
    (h : ∀ t a, Covers (live.balances.balance t a) (replayed.balances.balance t a))
    (hlive : live.placeOrderInDomain order = (.ok fills, live')) :
    ∃ replayed', replayed.placeOrderInDomain order = (.ok fills, replayed') ∧
      replayed'.matching = live'.matching ∧ ∀ t a,
        Covers (live'.balances.balance t a) (replayed'.balances.balance t a) ∧
        ((replayed.balances.balance t a).available ≤ (live.balances.balance t a).available →
          (replayed'.balances.balance t a).available
            ≤ (live'.balances.balance t a).available) ∧
        (replayed'.balances.balance t a).available
          ≤ (replayed.balances.balance t a).available := by
  rcases placeOrderInDomain_eq_ok.mp hlive with
    ⟨hterm, reservation, balances, matching, hres, hreserve, hplace, rfl⟩
  -- The replayed balances cover the live ones, so the reservation succeeds there as well.
  rcases sheet_reserve_covers h hreserve with ⟨balances', hreserve', hbalances⟩
  refine ⟨{ replayed with balances := balances', matching }, ?_, rfl, hbalances⟩
  exact placeOrderInDomain_eq_ok.mpr ⟨hterm, reservation, balances', matching,
    by rw [hmarket]; exact hres, hreserve', by rw [hmatching]; exact hplace, rfl⟩

/-- A deposit that fits live fits where no more is available, and adds the same
    amount. Here the comparison must be the other way round, which is why
    agreement on deposits is asked for separately. -/
theorem credit_follows {live replayed : BalanceSheet} {t : TraderId} {a : AssetId}
    {amount : BalanceAmount}
    (hle : (replayed.balance t a).available ≤ (live.balance t a).available)
    (hfits : live.Creditable t a amount) :
    ∃ replayed', replayed.creditAvailable t a amount = (.ok (), replayed') := by
  have hle' : (replayed.balance t a).available.val ≤ (live.balance t a).available.val := hle
  have hfits' : replayed.Creditable t a amount := by
    unfold BalanceSheet.Creditable at hfits ⊢
    omega
  rcases hr : replayed.creditAvailable t a amount with ⟨r, replayed'⟩
  have hok := BalanceSheet.creditAvailable_isOk.mpr hfits'
  rw [hr] at hok
  exact ⟨replayed', by rw [show r = .ok () from hok]⟩

/-- What a credit does to the balances. -/
theorem credit_balance {sheet sheet' : BalanceSheet} {t : TraderId} {a : AssetId}
    {amount : BalanceAmount} (h : sheet.creditAvailable t a amount = (.ok (), sheet'))
    (t' : TraderId) (a' : AssetId) :
    (sheet'.balance t' a').reserved = (sheet.balance t' a').reserved ∧
      (sheet'.balance t' a').available.val = (sheet.balance t' a').available.val
        + if t' = t ∧ a' = a then amount.val else 0 := by
  rcases BalanceSheet.update_eq_ok h with ⟨hone, hothers⟩
  by_cases hta : t' = t ∧ a' = a
  · rcases Balance.creditAvailable_eq_ok.mp hone with ⟨hav, hres⟩
    rw [if_pos hta, hta.1, hta.2]
    exact ⟨hres, hav⟩
  · rw [if_neg hta, hothers t' a' hta, Nat.add_zero]
    exact ⟨rfl, rfl⟩

namespace MarketActor

/-- The inputs of a run with the answers given. -/
abbrev ActorLog :=
  List ((MarketCommand × AppendOutcome) × Except ApplicationError MarketReply)

/-- The journal replays, and each order answered with success stands in it at
    a place where the replay computes the fills it was answered with. -/
def RestartSafe (market : MarketSpec) (past : ActorLog) (actor : MarketActor) : Prop :=
  (∃ app, replay market actor.journal = .ok app) ∧
    ∀ c order outcome fills,
      ((MarketCommand.placeOrder c order, outcome), .ok (.orderPlaced fills)) ∈ past →
      ∃ before after state, actor.journal = before ++ .orderPlaced c order fills :: after ∧
        replay market before = .ok state ∧ (state.placeOrderInDomain order).1 = .ok fills

/-- Journal and application hold the same events of a kind. -/
def Agrees (actor : MarketActor) (kind : Event → Bool) : Prop :=
  actor.journal.filter kind = actor.app.events.filter kind

/-- An event that may be recorded has a command id new to the journal, and
    journal and application agree on the events of its kind. Only a running
    actor records anything: what is sent to one that has stopped is answered
    with an error and meets the condition whatever it is. -/
def Agreed (actor : MarketActor) (input : MarketCommand × AppendOutcome) : Prop :=
  actor.running = true →
    ∀ event success, input.1.derive actor.app = some (.ok (event, success)) →
      input.2 ≠ .failed →
      event.commandId ∉ actor.journal.map Event.commandId ∧ actor.Agrees event.kind

instance (actor : MarketActor) (kind : Event → Bool) : Decidable (actor.Agrees kind) :=
  inferInstanceAs (Decidable (_ = _))

instance (actor : MarketActor) (input : MarketCommand × AppendOutcome) :
    Decidable (actor.Agreed input) :=
  match h : input.1.derive actor.app with
  | some (.ok (event, success)) =>
    decidable_of_iff (actor.running = true → input.2 ≠ .failed →
      event.commandId ∉ actor.journal.map Event.commandId ∧ actor.Agrees event.kind) (by
        -- The command derives one event, so the condition is about that one.
        unfold Agreed
        rw [h]
        constructor
        · rintro hagreed hrun _ _ ⟨rfl, rfl⟩
          exact hagreed hrun
        · intro hagreed hrun
          exact hagreed hrun event success rfl)
  | some (.error e) => isTrue (by
      unfold Agreed
      rw [h]
      exact fun _ _ _ heq => absurd heq (by simp only [Option.some.injEq, reduceCtorEq,
        not_false_eq_true]))
  | none => isTrue (by
      unfold Agreed
      rw [h]
      exact fun _ _ _ heq => absurd heq (by simp only [reduceCtorEq, not_false_eq_true]))

/-- The application replayed from the journal, next to the live one. It is in
    the relation by kinds: if journal and log agree on orders the books are the
    same and the balances cover, and if they agree on the deposits to a balance
    no more is available there. -/
structure Follows (market : MarketSpec) (actor : MarketActor) (replayed : ExchangeApplication) :
    Prop where
  replays : replay market actor.journal = .ok replayed
  market_eq : actor.app.market = market
  sublist : List.Sublist actor.app.events actor.journal
  orders : actor.Agrees Event.isOrder → replayed.matching = actor.app.matching ∧
    ∀ t a, Covers (actor.app.balances.balance t a) (replayed.balances.balance t a)
  deposits : ∀ t a, actor.Agrees (Event.isDepositTo t a) →
    (replayed.balances.balance t a).available ≤ (actor.app.balances.balance t a).available

/-- At the start the two are one. -/
theorem spawnFromApp_follows {market : MarketSpec} {journal : List Event}
    {app : ExchangeApplication} (h : replay market journal = .ok app) :
    Follows market (spawnFromApp app journal) app := by
  rcases replay_logged h with ⟨-, hmarket, hevents⟩
  refine ⟨h, hmarket, ?_, fun _ => ⟨rfl, fun _ _ => ⟨rfl, le_refl _⟩⟩, fun _ _ _ => le_refl _⟩
  change List.Sublist app.events journal
  rw [hevents]

/-- An event added to both changes no agreement. -/
theorem agrees_both {actor actor' : MarketActor} {event : Event} {kind : Event → Bool}
    (hjournal : actor'.journal = actor.journal ++ [event])
    (hevents : actor'.app.events = actor.app.events ++ [event]) :
    actor'.Agrees kind ↔ actor.Agrees kind := by
  rw [Agrees, Agrees, hjournal, hevents, List.filter_append, List.filter_append,
    List.append_cancel_right_eq]

/-- An event added to the journal alone leaves an agreement only on kinds it
    is not of, because the journal never holds fewer events. -/
theorem agrees_journal {actor actor' : MarketActor} {event : Event} {kind : Event → Bool}
    (hsub : List.Sublist actor.app.events actor.journal)
    (hjournal : actor'.journal = actor.journal ++ [event]) (happ : actor'.app = actor.app)
    (h : actor'.Agrees kind) : kind event = false ∧ actor.Agrees kind := by
  rw [Agrees, hjournal, happ, List.filter_append] at h
  have hlength := congrArg List.length h
  have hle := (hsub.filter kind).length_le
  cases hk : kind event with
  | false =>
      rw [List.filter_cons_of_neg (by rw [hk]; exact Bool.false_ne_true), List.filter_nil,
        List.append_nil] at h
      exact ⟨rfl, h⟩
  | true =>
      rw [List.filter_cons_of_pos hk, List.filter_nil, List.length_append,
        List.length_singleton] at hlength
      omega

/-- The journal never holds less than the log. -/
theorem sublist_step {actor actor' : MarketActor} {event : Event}
    (hsub : List.Sublist actor.app.events actor.journal)
    (hjournal : actor'.journal = actor.journal ++ [event])
    (happ : actor'.app = actor.app ∨ actor.app.applyEvent event = (.ok (), actor'.app)) :
    List.Sublist actor'.app.events actor'.journal := by
  rw [hjournal]
  rcases happ with happ | ha
  · rw [happ]
    exact hsub.trans (List.sublist_append_left _ _)
  · rw [(applyEvent_ok ha).2.2.1]
    exact hsub.append (List.Sublist.refl _)

/-- Neither way of going on changes the market. -/
theorem market_step {actor actor' : MarketActor} {event : Event}
    (happ : actor'.app = actor.app ∨ actor.app.applyEvent event = (.ok (), actor'.app)) :
    actor'.app.market = actor.app.market := by
  rcases happ with happ | ha
  · rw [happ]
  · exact (applyEvent_ok ha).2.1

/-- What an applied deposit does to books and balances. -/
theorem deposit_applied {app app' : ExchangeApplication} {c : CommandId} {t : TraderId}
    {a : AssetId} {amount : BalanceAmount}
    (h : app.applyEvent (.depositCredited c t a amount) = (.ok (), app')) :
    app'.matching = app.matching ∧ ∀ t' a',
      (app'.balances.balance t' a').reserved = (app.balances.balance t' a').reserved ∧
        (app'.balances.balance t' a').available.val
          = (app.balances.balance t' a').available.val
            + if t' = t ∧ a' = a then amount.val else 0 := by
  rcases applyEvent_deposit.mp h with ⟨-, balances, hcredit, rfl⟩
  exact ⟨rfl, credit_balance hcredit⟩

/-- A deposit recorded while the deposits to its balance agree. The live
    application applies it or not. -/
theorem deposit_follows {market : MarketSpec} {actor actor' : MarketActor}
    {replayed : ExchangeApplication} {c : CommandId} {t : TraderId} {a : AssetId}
    {amount : BalanceAmount} (h : Follows market actor replayed)
    (hnew : c ∉ actor.journal.map Event.commandId) (hagrees : actor.Agrees (Event.isDepositTo t a))
    (hfits : actor.app.balances.Creditable t a amount)
    (hjournal : actor'.journal = actor.journal ++ [.depositCredited c t a amount])
    (happ : actor'.app = actor.app ∨
      actor.app.applyEvent (.depositCredited c t a amount) = (.ok (), actor'.app)) :
    ∃ replayed', Follows market actor' replayed' := by
  rcases replay_logged h.replays with ⟨hlogged, -, hevents⟩
  rcases credit_follows (h.deposits t a hagrees) hfits with ⟨balances, hcredit⟩
  have hseen : c ∉ replayed.seenCommands := by
    rw [hlogged.seen, hevents]
    exact hnew
  have happly := applyEvent_deposit.mpr ⟨hseen, balances, hcredit, rfl⟩
  rcases deposit_applied happly with ⟨hmatching', hbalance⟩
  generalize ({ replayed with balances }.record (.depositCredited c t a amount)) = replayed'
    at happly hmatching' hbalance
  refine ⟨replayed', ⟨?_, (market_step happ).trans h.market_eq,
    sublist_step h.sublist hjournal happ, fun horders => ?_, fun t' a' hdeposits => ?_⟩⟩
  · rw [hjournal]
    exact Replay.replay_snoc applyEvent h.replays happly
  -- The books and what is reserved are those of before, in both applications.
  · rcases happ with happ | ha
    · rcases h.orders (agrees_journal h.sublist hjournal happ horders).2 with ⟨hmatching, hcovers⟩
      rw [happ]
      refine ⟨hmatching'.trans hmatching, fun t' a' =>
        ⟨(hbalance t' a').1.trans (hcovers t' a').1, Fin.le_def.mpr ?_⟩⟩
      have hav := (hbalance t' a').2
      have hle := Fin.le_def.mp (hcovers t' a').2
      omega
    · rcases h.orders ((agrees_both hjournal (applyEvent_ok ha).2.2.1).mp horders) with
        ⟨hmatching, hcovers⟩
      rcases deposit_applied ha with ⟨hmatching'', hbalance'⟩
      refine ⟨hmatching'.trans (hmatching.trans hmatching''.symm), fun t' a' => ⟨?_, ?_⟩⟩
      · exact (hbalance t' a').1.trans ((hcovers t' a').1.trans (hbalance' t' a').1.symm)
      · have hav := (hbalance t' a').2
        have hav' := (hbalance' t' a').2
        have hle := Fin.le_def.mp (hcovers t' a').2
        exact Fin.le_def.mpr (by omega)
  -- Where the deposits agree, the replayed balance must not have more.
  · have hav := (hbalance t' a').2
    rcases happ with happ | ha
    · -- Recorded in the journal alone, it ends the agreement on its balance.
      rcases agrees_journal h.sublist hjournal happ hdeposits with ⟨hkind, hdeposits'⟩
      have hne : ¬ (t' = t ∧ a' = a) := by
        rintro ⟨rfl, rfl⟩
        simp only [Event.isDepositTo, and_self, decide_true, Bool.true_eq_false] at hkind
      have hle := Fin.le_def.mp (h.deposits t' a' hdeposits')
      rw [if_neg hne] at hav
      rw [happ]
      exact Fin.le_def.mpr (by omega)
    · have hdeposits' := (agrees_both hjournal (applyEvent_ok ha).2.2.1).mp hdeposits
      have hav' := ((deposit_applied ha).2 t' a').2
      have hle := Fin.le_def.mp (h.deposits t' a' hdeposits')
      exact Fin.le_def.mpr (by omega)

/-- An order recorded while the orders agree. The live application applies it
    or not. -/
theorem order_follows {market : MarketSpec} {actor actor' : MarketActor}
    {replayed : ExchangeApplication} {c : CommandId} {order : Order} {fills : List Fill}
    (h : Follows market actor replayed) (hnew : c ∉ actor.journal.map Event.commandId)
    (hagrees : actor.Agrees Event.isOrder) {placed : ExchangeApplication}
    (hplaced : actor.app.placeOrderInDomain order = (.ok fills, placed))
    (hjournal : actor'.journal = actor.journal ++ [.orderPlaced c order fills])
    (happ : actor'.app = actor.app ∨
      actor.app.applyEvent (.orderPlaced c order fills) = (.ok (), actor'.app)) :
    ∃ replayed', Follows market actor' replayed' := by
  rcases replay_logged h.replays with ⟨hlogged, hmarket, hevents⟩
  rcases h.orders hagrees with ⟨hmatching, hcovers⟩
  rcases placeOrderInDomain_follows (hmarket.trans h.market_eq.symm) hmatching hcovers hplaced with
    ⟨placed', hplaced', hmatching', hbalances⟩
  have hseen : c ∉ replayed.seenCommands := by
    rw [hlogged.seen, hevents]
    exact hnew
  have happly := applyEvent_order.mpr ⟨hseen, placed', hplaced', rfl⟩
  -- If the live application applies the order, it does what placing it does.
  have hlive : actor.app.applyEvent (.orderPlaced c order fills) = (.ok (), actor'.app) →
      actor'.app.matching = placed.matching ∧ actor'.app.balances = placed.balances := by
    intro ha
    rcases applyEvent_order.mp ha with ⟨-, p, hp, heq⟩
    rw [hplaced, Prod.mk.injEq] at hp
    rw [heq, ← hp.2]
    exact ⟨rfl, rfl⟩
  refine ⟨placed'.record (.orderPlaced c order fills),
    ⟨?_, (market_step happ).trans h.market_eq, sublist_step h.sublist hjournal happ,
      fun horders => ?_, fun t a hdeposits => ?_⟩⟩
  · rw [hjournal]
    exact Replay.replay_snoc applyEvent h.replays happly
  · rcases happ with happ | ha
    · -- Recorded in the journal alone, it ends the agreement on orders.
      have hkind := (agrees_journal h.sublist hjournal happ horders).1
      exact absurd hkind (by simp only [Event.isOrder, Bool.true_eq_false, not_false_eq_true])
    · rw [(hlive ha).1, (hlive ha).2]
      exact ⟨hmatching', fun t a => (hbalances t a).1⟩
  -- The reservation is taken from both, or from the replayed balance only.
  · change (placed'.balances.balance t a).available ≤ _
    rcases happ with happ | ha
    · have hle := h.deposits t a (agrees_journal h.sublist hjournal happ hdeposits).2
      rw [happ]
      exact le_trans (hbalances t a).2.2 hle
    · have hdeposits' := (agrees_both hjournal (applyEvent_ok ha).2.2.1).mp hdeposits
      rw [(hlive ha).2]
      exact (hbalances t a).2.1 (h.deposits t a hdeposits')

/-- An event of either command recorded while the events of its kind agree. -/
theorem event_follows {market : MarketSpec} {actor actor' : MarketActor}
    {replayed : ExchangeApplication} (h : Follows market actor replayed)
    {command : MarketCommand} {event : Event} {success : MarketReply}
    (hderive : command.derive actor.app = some (.ok (event, success)))
    (hfits : command.Fits actor.app) (hnew : event.commandId ∉ actor.journal.map Event.commandId)
    (hagrees : actor.Agrees event.kind) (hjournal : actor'.journal = actor.journal ++ [event])
    (happ : actor'.app = actor.app ∨ actor.app.applyEvent event = (.ok (), actor'.app)) :
    ∃ replayed', Follows market actor' replayed' := by
  rcases derive_eq_ok hderive with
    ⟨c, t, a, amount, rfl, rfl, -, -⟩ | ⟨c, order, fills, placed, rfl, rfl, -, -, hplaced⟩
  · exact deposit_follows h hnew hagrees hfits hjournal happ
  · exact order_follows h hnew hagrees hplaced hjournal happ

/-- A derived event applies when it fits. -/
theorem derive_applies {app : ExchangeApplication} {command : MarketCommand} {event : Event}
    {success : MarketReply} (h : command.derive app = some (.ok (event, success)))
    (hfits : command.Fits app) : (app.applyEvent event).1 = .ok () := by
  rcases derive_eq_ok h with
    ⟨c, t, a, amount, rfl, rfl, -, hc⟩ | ⟨c, order, fills, placed, rfl, rfl, -, hc, hplaced⟩
  · exact (applyEvent_creditDepositEvent (creditDepositEvent_eq_ok.mpr ⟨hc, rfl⟩)).mpr hfits
  · rw [applyEvent_order.mpr ⟨hc, placed, hplaced, rfl⟩]

/-- A step that meets the condition keeps the journal replayable. Either nothing
    was recorded, or one event, and this event replays because the two
    applications agree on its kind. -/
theorem step_follows {market : MarketSpec} {actor : MarketActor}
    {replayed : ExchangeApplication} (h : Follows market actor replayed)
    {input : MarketCommand × AppendOutcome} (hfits : input.1.Fits actor.app)
    (hagreed : actor.Agreed input) :
    ∃ replayed', Follows market (actor.step input).2 replayed' := by
  by_cases hrun : actor.running = true
  · rcases step_cases hrun input.1 input.2 with
      ⟨happ, hjournal, -, -⟩ | ⟨event, success, -, hderive, hrec⟩
    · -- The journal is what it was, so its replay is too.
      refine ⟨replayed, ⟨?_, ?_, ?_, ?_, ?_⟩⟩
      · rw [hjournal]
        exact h.replays
      · rw [happ]
        exact h.market_eq
      · rw [happ, hjournal]
        exact h.sublist
      · rw [Agrees, happ, hjournal]
        exact h.orders
      · intro t a
        rw [Agrees, happ, hjournal]
        exact h.deposits t a
    · -- The journal grew by the event, whether the actor was told or not.
      have hout : input.2 ≠ .failed := by
        rcases hrec with ⟨hout, -⟩ | ⟨hout, -⟩ | ⟨e, hout, -⟩ <;>
          rw [hout] <;> simp only [ne_eq, reduceCtorEq, not_false_eq_true]
      rcases hagreed hrun event success hderive hout with ⟨hnew, hagrees⟩
      rcases hrec with ⟨-, -, happ, hjournal, -⟩ | ⟨-, -, ha, hjournal, -⟩ |
        ⟨e, -, -, ha, hjournal, -⟩
      · exact event_follows h hderive hfits hnew hagrees hjournal (Or.inl happ)
      · exact event_follows h hderive hfits hnew hagrees hjournal (Or.inr ha)
      · -- A derived event whose amounts fit does apply.
        exact absurd (derive_applies hderive hfits) (by
          rw [ha]
          simp only [reduceCtorEq, not_false_eq_true])
  · rw [Bool.not_eq_true] at hrun
    rw [step_stopped hrun]
    exact ⟨replayed, h⟩

/-- An order answered with success has its event in the journal. -/
theorem step_placed {actor : MarketActor} {c : CommandId} {order : Order}
    {outcome : AppendOutcome} {fills : List Fill}
    (h : (actor.step (.placeOrder c order, outcome)).1 = .ok (.orderPlaced fills)) :
    Event.orderPlaced c order fills ∈ (actor.step (.placeOrder c order, outcome)).2.journal := by
  by_cases hrun : actor.running = true
  · rcases step_cases hrun (.placeOrder c order) outcome with
      ⟨-, -, hfail, -⟩ | ⟨event, success, -, hderive, ⟨-, herr, -⟩ | ⟨-, hok, -, hjournal, -⟩ |
        ⟨e, -, herr, -⟩⟩
    -- Of the four outcomes only the third answers with success.
    · rcases (hfail trivial).1 with ⟨e, he⟩
      exact absurd (he.symm.trans h) (by simp only [reduceCtorEq, not_false_eq_true])
    · exact absurd (herr.symm.trans h) (by simp only [reduceCtorEq, not_false_eq_true])
    · have hsuccess := hok.symm.trans h
      rw [Except.ok.injEq] at hsuccess
      -- The answer shows which event was written.
      rcases derive_eq_ok hderive with
        ⟨_, _, _, _, hc, -, -, -⟩ | ⟨c', order', fills', _, hc, hevent, hs, -, -⟩
      · exact absurd hc (by simp only [reduceCtorEq, not_false_eq_true])
      · rw [MarketCommand.placeOrder.injEq] at hc
        rw [hsuccess, MarketReply.orderPlaced.injEq] at hs
        rw [hjournal, hevent, ← hc.1, ← hc.2, ← hs]
        exact List.mem_append_right _ List.mem_cons_self
    · exact absurd (herr.symm.trans h) (by simp only [reduceCtorEq, not_false_eq_true])
  · rw [Bool.not_eq_true] at hrun
    rw [step_stopped hrun] at h
    exact absurd h (by simp only [reduceCtorEq, not_false_eq_true])

/-- A journal only grows. -/
theorem journal_grows (actor : MarketActor) (input : MarketCommand × AppendOutcome) :
    actor.journal <+: (actor.step input).2.journal := by
  by_cases hrun : actor.running = true
  · rcases step_cases hrun input.1 input.2 with
      ⟨-, hjournal, -, -⟩ | ⟨event, success, -, -, hrec⟩
    · rw [hjournal]
    · rcases hrec with ⟨-, -, -, hjournal, -⟩ | ⟨-, -, -, hjournal, -⟩ |
        ⟨-, -, -, -, hjournal, -⟩ <;>
        rw [hjournal] <;> exact List.prefix_append _ _
  · rw [Bool.not_eq_true] at hrun
    rw [step_stopped hrun]

/-- An order in a log that replays is placed there with its fills. -/
theorem replay_places {market : MarketSpec} {before after : List Event} {c : CommandId}
    {order : Order} {fills : List Fill} {app : ExchangeApplication}
    (h : replay market (before ++ .orderPlaced c order fills :: after) = .ok app) :
    ∃ state, replay market before = .ok state ∧
      (state.placeOrderInDomain order).1 = .ok fills := by
  rcases Replay.replay_split applyEvent h with ⟨state, state', hstate, happly⟩
  rcases applyEvent_order.mp happly with ⟨-, placed, hplaced, -⟩
  exact ⟨state, hstate, by rw [hplaced]⟩

/-- A run is safe to restart when every deposit fits the balance the actor has
    and every event that may be recorded is recorded while journal and
    application agree on the events of its kind. -/
theorem actor_restartSafe (market : MarketSpec) (journal : List Event)
    (app : ExchangeApplication) (hreplay : replay market journal = .ok app)
    (inputs : List (MarketCommand × AppendOutcome))
    (hfits : Run.Along step (fun actor input => input.1.Fits actor.app)
      (spawnFromApp app journal) inputs)
    (hagreed : Run.Along step Agreed (spawnFromApp app journal) inputs) :
    RestartSafe market (Run.log step (spawnFromApp app journal) inputs)
      (Run.after step (spawnFromApp app journal) inputs) := by
  have hrun := Run.invariant_along step
    (P := fun past actor => (∃ replayed, Follows market actor replayed) ∧
      ∀ c order outcome fills,
        ((MarketCommand.placeOrder c order, outcome), .ok (.orderPlaced fills)) ∈ past →
        Event.orderPlaced c order fills ∈ actor.journal)
    ⟨⟨app, spawnFromApp_follows hreplay⟩, fun _ _ _ _ hmem => absurd hmem List.not_mem_nil⟩
    ?_ (Run.along_and step hfits hagreed)
  · -- An acknowledged order is in the journal, and its replay finds the same fills there.
    rcases hrun with ⟨⟨replayed, hfollows⟩, hplaced⟩
    refine ⟨⟨replayed, hfollows.replays⟩, fun c order outcome fills hmem => ?_⟩
    rcases List.append_of_mem (hplaced c order outcome fills hmem) with ⟨before, after, heq⟩
    have hreplays := hfollows.replays
    rw [heq] at hreplays
    rcases replay_places hreplays with ⟨state, hstate, hfills⟩
    exact ⟨before, after, state, heq, hstate, hfills⟩
  · intro past actor input ⟨⟨replayed, hfollows⟩, hplaced⟩ ⟨hfit, hagree⟩
    refine ⟨step_follows hfollows hfit hagree, fun c order outcome fills hmem => ?_⟩
    rcases List.mem_append.mp hmem with hmem | hmem
    · -- Nothing ever leaves the journal.
      exact (journal_grows actor input).subset (hplaced c order outcome fills hmem)
    · rcases Prod.mk.injEq _ _ _ _ ▸ List.mem_singleton.mp hmem with ⟨rfl, hanswer⟩
      exact step_placed hanswer.symm

/-- Trader one deposits base and quote asset. -/
def sampleFunding : List (MarketCommand × AppendOutcome) :=
  [(.creditDeposit ⟨1, Nat.succ_pos _⟩ ⟨1, Nat.succ_pos _⟩ ⟨1, Nat.succ_pos _⟩ 5, .recorded),
    (.creditDeposit ⟨2, Nat.succ_pos _⟩ ⟨1, Nat.succ_pos _⟩ ⟨2, Nat.succ_pos _⟩ 100, .ambiguous),
    (.creditDeposit ⟨3, Nat.succ_pos _⟩ ⟨1, Nat.succ_pos _⟩ ⟨2, Nat.succ_pos _⟩ 100, .failed),
    (.creditDeposit ⟨4, Nat.succ_pos _⟩ ⟨1, Nat.succ_pos _⟩ ⟨1, Nat.succ_pos _⟩ 7, .recorded)]

/-- The ask that an ambiguous append records. -/
def sampleAsk : Order :=
  Order.sample ⟨1, Nat.succ_pos _⟩ .ask ⟨10, Nat.succ_pos _⟩ ⟨5, Nat.succ_pos _⟩

/-- The bid that crosses it. -/
def sampleBid : Order :=
  Order.sample ⟨2, Nat.succ_pos _⟩ .bid ⟨10, Nat.succ_pos _⟩ ⟨5, Nat.succ_pos _⟩

/-- An ambiguous deposit, then deposits elsewhere and an order. -/
theorem actor_restartSafe_deposit :
    let inputs := sampleFunding ++ [(.placeOrder ⟨5, by decide⟩ sampleAsk, .ambiguous)]
    let actor := Run.after step (spawnFromApp (new sampleMarket) []) inputs
    actor.journal ≠ actor.app.events ∧ ∃ app, replay sampleMarket actor.journal = .ok app := by
  intro inputs actor
  exact ⟨by decide, (actor_restartSafe sampleMarket [] (new sampleMarket) rfl inputs (by decide)
    (by decide)).1⟩

/-- An ask recorded by an ambiguous append, and a bid that would have met it. -/
theorem actor_restart_mismatch :
    ¬ ∀ (market : MarketSpec) (inputs : List (MarketCommand × AppendOutcome)),
      Run.Along step (fun actor input => input.1.Fits actor.app)
        (spawnFromApp (new market) []) inputs →
      RestartSafe market (Run.log step (spawnFromApp (new market) []) inputs)
        (Run.after step (spawnFromApp (new market) []) inputs) := by
  intro h
  let inputs : List (MarketCommand × AppendOutcome) :=
    [(.creditDeposit ⟨1, by decide⟩ ⟨1, by decide⟩ ⟨1, by decide⟩ 5, .recorded),
      (.creditDeposit ⟨2, by decide⟩ ⟨1, by decide⟩ ⟨2, by decide⟩ 100, .recorded),
      (.placeOrder ⟨3, by decide⟩ sampleAsk, .ambiguous),
      (.placeOrder ⟨4, by decide⟩ sampleBid, .recorded)]
  rcases (h sampleMarket inputs (by decide)).1 with ⟨app, happ⟩
  have hmismatch : replay sampleMarket
      (Run.after step (spawnFromApp (new sampleMarket) []) inputs).journal
        = .error .replayMismatch := by decide
  rw [hmismatch] at happ
  exact absurd happ (by simp only [reduceCtorEq, not_false_eq_true])

end MarketActor

end Exchange

end SolanaLab
