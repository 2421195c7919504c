import SolanaLab.Exchange.Placements

/-!
# Backing

What is reserved against what is owed. An order that rests owes what is left
of it at its own limit. Placing it has reserved its cost once, and takers that
come later lower what it owes. Nothing in the application lowers what is
reserved.

`Reference.total` adds a quantity of orders up over both queues. A quantity
that a fill never raises is never raised by serving, so placing an order adds
at most the quantity of the order itself, and exactly that when the order
finds nothing to trade with. Both halves of the comparison follow: what rests
is always covered by what is reserved, and more than that stays reserved from
the first fill on.

What fills have cost an order is bounded by its limit. `Limited` keeps for
every fill the two orders that were placed for it and says that its price is
the maker's and within the taker's limit. Together with the accounts of
quantities, the cost of the fills and what is left at the limit are within
what was reserved.

## Main definitions

* `Order.obligation`: What is left of an order at its limit.
* `MatchingEngine.obligations`: What the resting orders of a trader owe.
* `Order.spent`: What fills have cost an order.
* `Reference.total`: A quantity of orders, added up over both queues.
* `Limited`: Every fill is within the limits of its two orders.
* `ExchangeApplication.Accepts`: An order that will be placed.
* `ExchangeApplication.Untouched`: A step that trades nothing.

## Theorems

* `place_total_le`: Placing an order adds at most its own quantity.
* `place_total_eq`: It adds exactly that when nothing crosses.
* `run_backed`: Every order is backed and no credit is lost.
* `run_released`: When no funds stay reserved for nothing.
-/

namespace SolanaLab

namespace Exchange

open Checked PriorityQueue
open ExchangeApplication (sampleMarket sampleDeposit)

/-- What is left of an order at its limit: limit price times remaining
    quantity for a bid, remaining quantity for an ask. -/
def Order.obligation (o : Order) : Nat := o.unitCost * o.remaining

/-- What an order owes of a trader's asset. -/
def owes (market : MarketSpec) (t : TraderId) (a : AssetId) (o : Order) : Nat :=
  share o.traderId t (o.asset market) a o.obligation

/-- What the resting orders of a trader owe of an asset. -/
def MatchingEngine.obligations (e : MatchingEngine) (market : MarketSpec) (t : TraderId)
    (a : AssetId) : Nat :=
  ((e.bids.orders ++ e.asks.orders).map (owes market t a)).sum

/-- What a fill has cost an order: quote for a bid, base for an ask. The quote
    is at the price of the fill, which is the maker's and may be better than the
    limit. -/
def Order.fillCost (o : Order) (f : Fill) : Nat :=
  match o.side with
  | .bid => f.price.get.val * f.quantity.get.val
  | .ask => f.quantity.get.val

/-- What fills have cost an order. -/
def Order.spent (o : Order) (fills : List Fill) : Nat :=
  (fills.map (fun f => if f.Names o.id then o.fillCost f else 0)).sum

/-! ### Totals over the queues -/

/-- A quantity of orders, added up over a queue. -/
def queueTotal (w : Order → Nat) (queue : List (Stamped Order)) : Nat :=
  (queue.map (fun m => w m.item)).sum

/-- A quantity of orders, added up over both queues. -/
def Reference.total (w : Order → Nat) (r : Reference) : Nat :=
  queueTotal w (r.queue .bid) + queueTotal w (r.queue .ask)

/-- A total is added up along the queue. -/
theorem queueTotal_cons (w : Order → Nat) (m : Stamped Order) (queue : List (Stamped Order)) :
    queueTotal w (m :: queue) = w m.item + queueTotal w queue :=
  List.sum_cons

/-- The two queues can be named from either side. -/
theorem Reference.total_eq (w : Order → Nat) (r : Reference) (s : Side) :
    r.total w = queueTotal w (r.queue s) + queueTotal w (r.queue s.opposite) := by
  cases s with
  | bid => rfl
  | ask => exact Nat.add_comm _ _

/-- A shorter queue has no larger total. -/
theorem queueTotal_suffix {w : Order → Nat} {queue queue' : List (Stamped Order)}
    (h : queue' <:+ queue) : queueTotal w queue' ≤ queueTotal w queue := by
  rcases h with ⟨front, rfl⟩
  unfold queueTotal
  rw [List.map_append, List.sum_append]
  exact Nat.le_add_left _ _

/-- Serving raises no total of what fills never raise. -/
theorem serve_total_le {w : Order → Nat} (hw : ∀ o q, w (o.fill q) ≤ w o)
    (queue : List (Stamped Order)) (taker : Order) :
    queueTotal w (serve queue taker).2.1 ≤ queueTotal w queue := by
  rcases serve_queue queue taker with hsuff | ⟨m, rest, q, hsuff, -, heq⟩
  · exact queueTotal_suffix hsuff
  · -- The head that is left was filled in part.
    have hhead := hw m.item q
    have hrest := queueTotal_suffix (w := w) hsuff
    rw [queueTotal_cons] at hrest
    rw [heq, queueTotal_cons]
    simp only
    omega

/-- Nor does a taker gain by being served. -/
theorem serve_taker_le {w : Order → Nat} (hw : ∀ o q, w (o.fill q) ≤ w o)
    (queue : List (Stamped Order)) (taker : Order) : w (serve queue taker).2.2 ≤ w taker :=
  serve_taker (P := fun o => w o ≤ w taker) (fun o q h => (hw o q).trans h) queue taker
    (Nat.le_refl _)

/-- An order that rests adds its quantity. -/
theorem queueTotal_join (w : Order → Nat) (s : Side) (clock : Nat) {left : Order}
    (queue : List (Stamped Order)) (h : left.remaining ≠ 0) :
    queueTotal w (Reference.join s clock left queue) = w left + queueTotal w queue := by
  unfold queueTotal
  rw [Reference.join, if_neg h, ((stampedInsert_perm _ queue).map _).sum_eq]
  exact List.sum_cons

/-- An order that joins or is spent adds at most its quantity. -/
theorem queueTotal_join_le (w : Order → Nat) (s : Side) (clock : Nat) (left : Order)
    (queue : List (Stamped Order)) :
    queueTotal w (Reference.join s clock left queue) ≤ w left + queueTotal w queue := by
  by_cases h : left.remaining = 0
  · rw [Reference.join, if_pos h]
    exact Nat.le_add_left _ _
  · exact Nat.le_of_eq (queueTotal_join w s clock queue h)

/-- Placing an order adds at most the quantity of what is left of it. -/
theorem place_total_left {w : Order → Nat} (hw : ∀ o q, w (o.fill q) ≤ w o) (r : Reference)
    {o : Order} (hlive : ¬ o.isTerminal) :
    (r.place o).2.total w
      ≤ r.total w + w (serve (r.queue o.side.opposite) o).2.2 := by
  have hopp := serve_total_le hw (r.queue o.side.opposite) o
  have hown := queueTotal_join_le w o.side r.clock (serve (r.queue o.side.opposite) o).2.2
    (r.queue o.side)
  rw [Reference.total_eq w _ o.side, Reference.total_eq w r o.side, place_own r hlive,
    place_opposite r hlive]
  omega

/-- Placing an order adds at most its own quantity. -/
theorem place_total_le {w : Order → Nat} (hw : ∀ o q, w (o.fill q) ≤ w o) (r : Reference)
    {o : Order} (hlive : ¬ o.isTerminal) : (r.place o).2.total w ≤ r.total w + w o :=
  (place_total_left hw r hlive).trans
    (Nat.add_le_add_left (serve_taker_le hw (r.queue o.side.opposite) o) _)

/-- A queue with a head that the taker does not cross serves nothing. Otherwise
    the taker loses quantity. -/
theorem serve_head {queue : List (Stamped Order)} {taker : Order}
    (hlive : ∀ m ∈ queue, ¬ m.item.isTerminal) (ht : ¬ taker.isTerminal) :
    ((∀ m ∈ queue.head?, ¬ Crosses taker m.item) ∧ serve queue taker = ([], queue, taker)) ∨
      ((∃ m ∈ queue.head?, Crosses taker m.item) ∧
        (serve queue taker).2.2.remaining < taker.remaining) := by
  cases queue with
  | nil => exact Or.inl ⟨fun m hm => absurd hm (by
      simp only [List.head?_nil, Option.mem_def, reduceCtorEq, not_false_eq_true]), rfl⟩
  | cons m rest =>
      simp only [List.head?_cons, Option.mem_def, Option.some.injEq, forall_eq', exists_eq_left']
      have hmaker := m.item.remaining_pos (hlive m List.mem_cons_self)
      have htaker := taker.remaining_pos ht
      by_cases hc : Crosses taker m.item
      · right
        refine ⟨hc, ?_⟩
        -- Both have quantity left, so the two trade.
        cases hs : tradeSize taker m.item with
        | none => exact absurd ⟨by omega, hc⟩ (tradeSize_eq_none.mp hs)
        | some q =>
            have hsize := (tradeSize_eq_some.mp hs).1
            by_cases hq : q.get.val = m.item.remaining
            · -- What follows takes no more than this fill has left.
              have hle := serve_taker_le (w := Order.remaining)
                (fun o q => Nat.sub_le _ _) rest (taker.fill q)
              rw [serve_exhaust hs hq]
              rw [Order.fill_remaining] at hle
              simp only
              omega
            · rw [serve_partly hs hq]
              change taker.remaining - q.get.val < taker.remaining
              omega
      · left
        refine ⟨hc, serve_stop (tradeSize_eq_none.mpr (fun h => hc h.2))⟩

/-- An order that finds nothing to trade with adds its own quantity. -/
theorem place_total_eq (w : Order → Nat) (r : Reference) {o : Order} (hlive : ¬ o.isTerminal)
    (hserve : serve (r.queue o.side.opposite) o = ([], r.queue o.side.opposite, o)) :
    (r.place o).2.total w = r.total w + w o := by
  have hpos := o.remaining_pos hlive
  rw [Reference.total_eq w _ o.side, Reference.total_eq w r o.side, place_own r hlive,
    place_opposite r hlive, hserve, queueTotal_join w _ _ _ (by simp only; omega)]
  simp only
  omega

/-! ### Obligations -/

/-- A smaller amount has a smaller share. -/
theorem share_le_share {t t' : TraderId} {a a' : AssetId} {n n' : Nat} (h : n ≤ n') :
    share t t' a a' n ≤ share t t' a a' n' := by
  unfold share
  by_cases hkey : t' = t ∧ a' = a
  · rw [if_pos hkey, if_pos hkey]
    exact h
  · rw [if_neg hkey, if_neg hkey]

/-- A trader's own share of an asset is the amount. -/
@[simp] theorem share_self (t : TraderId) (a : AssetId) (n : Nat) : share t t a a n = n :=
  if_pos ⟨rfl, rfl⟩

/-- An order never owes more than it has needed. -/
theorem Order.obligation_le_cost (o : Order) : o.obligation ≤ o.cost :=
  Nat.mul_le_mul_left _ o.remaining_le

/-- A fill does not raise what an order owes. -/
theorem owes_fill_le (market : MarketSpec) (t : TraderId) (a : AssetId) (o : Order)
    (q : Quantity) : owes market t a (o.fill q) ≤ owes market t a o :=
  share_le_share (Nat.mul_le_mul_left o.unitCost (Nat.sub_le o.remaining q.get.val))

/-- The obligations in the books are those of the reference. -/
theorem obligations_eq_total {e : MatchingEngine} {r : Reference} (h : Represents e r)
    (market : MarketSpec) (t : TraderId) (a : AssetId) :
    e.obligations market t a = r.total (owes market t a) := by
  have hbids : e.bids.orders = (r.queue .bid).map Stamped.item := (h .bid).2
  have hasks : e.asks.orders = (r.queue .ask).map Stamped.item := (h .ask).2
  rw [MatchingEngine.obligations, hbids, hasks, List.map_append, List.map_map, List.map_map,
    List.sum_append]
  rfl

/-- What the orders of a history owe is at most what they have needed. -/
theorem total_owes_le_needed (market : MarketSpec) (t : TraderId) (a : AssetId)
    (orders : List Order) :
    (Reference.new.placeAll orders).total (owes market t a) ≤ needed market t a orders := by
  induction orders using List.reverseRecOn with
  | nil => exact Nat.le_refl _
  | append_singleton orders o ih =>
      rw [Reference.placeAll, Run.after_snoc, needed_snoc]
      by_cases hterm : o.isTerminal
      · rw [place_terminal _ hterm]
        exact Nat.le_add_right_of_le ih
      · have hstep := place_total_le (owes_fill_le market t a)
          (Run.after Reference.place Reference.new orders) hterm
        have hcost : owes market t a o ≤ share o.traderId t (o.asset market) a o.cost :=
          share_le_share o.obligation_le_cost
        exact hstep.trans (Nat.add_le_add ih hcost)

/-- What rests is covered by what is reserved. -/
theorem Traced.obligations_le {market : MarketSpec} {past : CommandLog}
    {app : ExchangeApplication} (h : Traced market past app) (t : TraderId) (a : AssetId) :
    app.matching.obligations market t a ≤ (app.balances.balance t a).reserved.val := by
  rw [obligations_eq_total h.represents.1, h.reserved]
  exact total_owes_le_needed market t a (ordersOf past)

/-! ### Limits -/

/-- Every resting order was accepted at its price, and every fill is between two
    accepted orders, at the price of the maker and within the limit of the
    taker. The maker is known under an order with its id, since it may have been
    filled in part since. -/
structure Limited (past : List (Order × Except Error (List Fill))) (r : Reference) : Prop where
  known : ∀ s, ∀ m ∈ r.queue s, ∃ o ∈ accepted past, o.id = m.item.id ∧ o.side = s ∧
    o.price = m.item.price
  fills : ∀ f ∈ fillsOf past, ∃ maker ∈ accepted past, ∃ taker ∈ accepted past,
    f.makerOrderId = maker.id ∧ f.takerOrderId = taker.id ∧
      maker.side = taker.side.opposite ∧ f.price = maker.price ∧ Crosses taker maker

/-- Whether two orders cross depends on the maker's price only. -/
theorem crosses_congr {taker maker maker' : Order} (h : maker'.price = maker.price) :
    Crosses taker maker' ↔ Crosses taker maker := by
  unfold Crosses
  rw [h]

/-- Placing an order keeps every fill within its limits. -/
theorem place_limited {past : List (Order × Except Error (List Fill))} {r : Reference}
    (h : Limited past r) (o : Order) :
    Limited (past ++ [(o, (r.place o).1)]) (r.place o).2 := by
  by_cases hlive : o.isTerminal
  · rw [place_terminal r hlive]
    refine ⟨?_, ?_⟩
    · rw [accepted_snoc_error]
      exact h.known
    · rw [fillsOf_snoc_error, accepted_snoc_error]
      exact h.fills
  -- What is left of the taker keeps its id and its price.
  have hid := serve_taker_field Order.id Order.fill_id (r.queue o.side.opposite) o
  have hprice := serve_taker_field Order.price Order.fill_price (r.queue o.side.opposite) o
  rw [place_answer r hlive]
  have hacc := accepted_snoc_ok past o (serve (r.queue o.side.opposite) o).1
  have hfills := fillsOf_snoc_ok past o (serve (r.queue o.side.opposite) o).1
  refine ⟨fun s m hm => ?_, fun f hf => ?_⟩
  · rw [hacc]
    by_cases hs : s = o.side
    · rw [hs, place_own r hlive] at hm
      rcases mem_join hm with ⟨rfl, -⟩ | hm
      · exact ⟨o, List.mem_append_right _ List.mem_cons_self, hid.symm, hs.symm, hprice.symm⟩
      · rcases h.known o.side m hm with ⟨x, hx, hxid, hxs, hxp⟩
        exact ⟨x, List.mem_append_left _ hx, hxid, hxs.trans hs.symm, hxp⟩
    · rw [Side.eq_opposite_of_ne hs, place_opposite r hlive] at hm
      -- What is left of the other side was there before, its head perhaps filled in part.
      rcases serve_queue_mem hm with ⟨m', hm', -, hitem⟩
      rcases h.known _ m' hm' with ⟨x, hx, hxid, hxs, hxp⟩
      have hs' := hxs.trans (Side.eq_opposite_of_ne hs).symm
      rcases hitem with heq | ⟨q, -, heq⟩
      · exact ⟨x, List.mem_append_left _ hx, by rw [heq, hxid], hs', by rw [heq, hxp]⟩
      · exact ⟨x, List.mem_append_left _ hx, by rw [heq, Order.fill_id, hxid], hs',
          by rw [heq, Order.fill_price, hxp]⟩
  · rw [hfills] at hf
    rw [hacc]
    rcases List.mem_append.mp hf with hf | hf
    · rcases h.fills f hf with ⟨maker, hmaker, taker, htaker, hterms⟩
      exact ⟨maker, List.mem_append_left _ hmaker, taker, List.mem_append_left _ htaker, hterms⟩
    · -- A new fill is between the new order and one that rests on the other side.
      rcases List.getElem?_of_mem hf with ⟨k, hk⟩
      rcases serve_priority _ o k f hk with ⟨m, hm, heq, hcross, -⟩
      rcases h.known _ m (List.mem_of_getElem? hm) with ⟨x, hx, hxid, hxs, hxp⟩
      refine ⟨x, List.mem_append_left _ hx, o, List.mem_append_right _ List.mem_cons_self, ?_, ?_,
        hxs, ?_, (crosses_congr hxp).mpr hcross⟩
      · rw [hxid]
        exact congrArg Fill.makerOrderId heq
      · exact congrArg Fill.takerOrderId heq
      · rw [hxp]
        exact congrArg Fill.price heq

/-- Every fill of a run is within its limits. -/
theorem placeAll_limited (orders : List Order) :
    Limited (Run.log Reference.place Reference.new orders) (Reference.new.placeAll orders) :=
  Run.invariant Reference.place (P := Limited)
    ⟨fun _ _ hm => absurd hm List.not_mem_nil, fun _ hf => absurd hf List.not_mem_nil⟩
    (fun _ _ o h => place_limited h o) orders

/-- A fill costs each of its two orders at most its limit. -/
theorem Limited.fillCost_le {past : List (Order × Except Error (List Fill))} {r : Reference}
    (h : Limited past r)
    (hinj : ∀ x ∈ accepted past, ∀ y ∈ accepted past, x.id = y.id → x = y) {o : Order}
    (ho : o ∈ accepted past) {f : Fill} (hf : f ∈ fillsOf past) (hnames : f.Names o.id) :
    o.fillCost f ≤ o.unitCost * f.quantity.get.val := by
  rcases h.fills f hf with ⟨maker, hmaker, taker, htaker, hm, ht, -, hprice, hcross⟩
  unfold Order.fillCost Order.unitCost
  cases hs : o.side with
  | ask => exact Nat.le_of_eq (Nat.one_mul _).symm
  | bid =>
      refine Nat.mul_le_mul_right _ ?_
      rcases hnames with heq | heq
      · -- The bid was the maker, and the price is its own.
        rw [hprice, hinj o ho maker hmaker (heq.symm.trans hm)]
      · -- The bid was the taker, and the price is within its limit.
        have hto := hinj o ho taker htaker (heq.symm.trans ht)
        rw [hprice, hto]
        exact hcross.1 (by rw [← hto, hs])

/-- So what the fills have cost an order is at most its limit for each unit they
    took. -/
theorem Limited.spent_le {past : List (Order × Except Error (List Fill))} {r : Reference}
    (h : Limited past r)
    (hinj : ∀ x ∈ accepted past, ∀ y ∈ accepted past, x.id = y.id → x = y) {o : Order}
    (ho : o ∈ accepted past) :
    o.spent (fillsOf past) ≤ o.unitCost * taken (fillsOf past) o.id := by
  rw [Order.spent, taken, ← List.sum_map_mul_left]
  refine List.sum_le_sum (fun f hf => ?_)
  unfold Fill.takes
  by_cases hnames : f.Names o.id
  · rw [if_pos hnames, if_pos hnames]
    exact h.fillCost_le hinj ho hf hnames
  · rw [if_neg hnames]
    exact Nat.zero_le _

/-- What one order has needed is part of what all have. -/
theorem cost_le_needed (market : MarketSpec) {orders : List Order} {o : Order}
    (h : o ∈ orders) : o.cost ≤ needed market o.traderId (o.asset market) orders := by
  have hmem := List.le_sum_of_mem (List.mem_map_of_mem
    (f := fun x => share x.traderId o.traderId (x.asset market) (o.asset market) x.cost) h)
  rw [share_self] at hmem
  exact hmem

/-- Every order placed had its cost reserved. -/
theorem Traced.reservation {market : MarketSpec} {past : CommandLog} {app : ExchangeApplication}
    (h : Traced market past app) {o : Order} (ho : o ∈ ordersOf past) :
    ∃ reservation, Reservation.forOrder o market = .ok reservation ∧
      reservation.amount.val = o.cost := by
  have hcost := cost_le_needed market ho
  rw [← h.reserved] at hcost
  have hfit : o.cost < 2 ^ 64 := Nat.lt_of_le_of_lt hcost (Fin.isLt _)
  exact ⟨⟨o.traderId, o.asset market, ⟨o.cost, hfit⟩⟩, forOrder_eq_ok.mpr ⟨rfl, rfl, rfl⟩, rfl⟩

/-- Every order is backed and no credit is lost. In every application reached,
    what a trader has available and reserved of an asset is the sum of what
    was credited, and what the trader's resting orders owe of it is reserved.
    If the ids of the orders placed differ, what fills have cost each of them
    and what is left of it at its limit are within what was reserved when it
    was placed. -/
theorem run_backed (market : MarketSpec) (commands : List Command) :
    let app := Run.after ExchangeApplication.execute (.new market) commands
    let past := Run.log ExchangeApplication.execute (.new market) commands
    (∀ t a, (app.balances.balance t a).available.val + (app.balances.balance t a).reserved.val
      = credited past t a) ∧
    (∀ t a, app.matching.obligations market t a ≤ (app.balances.balance t a).reserved.val) ∧
    (((ordersOf past).map Order.id).Nodup → ∀ o ∈ ordersOf past, ∃ reservation,
      Reservation.forOrder o market = .ok reservation ∧
      o.spent ((placements past).flatMap Prod.snd) + o.unitCost * app.matching.resting o.id
        ≤ reservation.amount.val) := by
  intro app past
  have htraced := run_traced market commands
  refine ⟨htraced.total, htraced.obligations_le, fun hids o ho => ?_⟩
  rcases htraced.represents with ⟨hrep, -, hlog⟩
  rcases htraced.reservation ho with ⟨reservation, hr, hamount⟩
  -- The orders of the log are accounted for fill by fill.
  have haccounts := placeAll_accounts (ordersOf past) hids
  have hlimited := placeAll_limited (ordersOf past)
  rw [hlog] at haccounts hlimited
  rw [← accepted_engineLog] at ho
  have hinj : ∀ x ∈ accepted (engineLog past), ∀ y ∈ accepted (engineLog past),
      x.id = y.id → x = y := by
    rw [accepted_engineLog]
    exact fun x hx y hy hid => List.inj_on_of_nodup_map hids hx hy hid
  -- What is spent is at most the limit on what is taken, and taken and held make up what the
  -- order came with.
  refine ⟨reservation, hr, ?_⟩
  rw [resting_eq_held hrep, hamount, ← fillsOf_engineLog]
  calc o.spent (fillsOf (engineLog past)) + o.unitCost * (CommandLog.reference past).held o.id
      ≤ o.unitCost * taken (fillsOf (engineLog past)) o.id
          + o.unitCost * (CommandLog.reference past).held o.id :=
        Nat.add_le_add_right (hlimited.spent_le hinj ho) _
    _ = o.unitCost * o.remaining := by
        rw [← Nat.mul_add]
        exact congrArg (o.unitCost * ·) (haccounts.balanced o ho)
    _ ≤ o.cost := o.obligation_le_cost

/-- A bid filled below its limit: 36 were reserved and 30 are spent. -/
theorem run_backed_improved :
    let commands := sampleCommands ⟨2, by decide⟩ ++
      [.placeOrder ⟨4, by decide⟩ (sampleTaker ⟨2, by decide⟩ ⟨1, by decide⟩)]
    let past := Run.log ExchangeApplication.execute (.new sampleMarket) commands
    let bid := sampleTaker ⟨2, by decide⟩ ⟨1, by decide⟩
    bid.spent ((placements past).flatMap Prod.snd) = 30 ∧ ∃ reservation,
      Reservation.forOrder bid sampleMarket = .ok reservation ∧ 30 ≤ reservation.amount.val := by
  intro commands past bid
  have hspent : bid.spent ((placements past).flatMap Prod.snd) = 30 := by decide
  rcases (run_backed sampleMarket commands).2.2 (by decide) bid (by decide) with
    ⟨reservation, hr, hle⟩
  change bid.spent ((placements past).flatMap Prod.snd) + _ ≤ _ at hle
  rw [hspent] at hle
  exact ⟨hspent, reservation, hr, by omega⟩

/-! ### Releasing -/

namespace ExchangeApplication

/-- An order that will be placed: its command is new, it is live, and its cost
    is available and leaves the reserved amount within 64 bits. -/
def Accepts (app : ExchangeApplication) (c : CommandId) (o : Order) : Prop :=
  c ∉ app.seenCommands ∧ ¬ o.isTerminal ∧
    o.cost ≤ (app.balances.balance o.traderId (o.asset app.market)).available.val ∧
    (app.balances.balance o.traderId (o.asset app.market)).reserved.val + o.cost < 2 ^ 64

instance (app : ExchangeApplication) (c : CommandId) (o : Order) : Decidable (app.Accepts c o) :=
  inferInstanceAs (Decidable (_ ∧ _))

/-- A step that trades nothing: an order that will be placed comes in whole
    and does not cross the best order of the other side. -/
def Untouched (app : ExchangeApplication) : Command → Prop
  | .creditDeposit _ _ _ _ => True
  | .placeOrder c o => app.Accepts c o → o.remaining = o.original ∧
      o.side.crosses o (app.matching.book o.side.opposite).bestOrder = false

instance (app : ExchangeApplication) : (command : Command) → Decidable (app.Untouched command)
  | .creditDeposit _ _ _ _ => inferInstanceAs (Decidable True)
  | .placeOrder _ _ => inferInstanceAs (Decidable (_ → _))

end ExchangeApplication

/-- A reservation succeeds when the amount is available and there is room for
    it. -/
theorem reserve_isOk {sheet : BalanceSheet} {r : Reservation}
    (havailable : r.amount.val ≤ (sheet.balance r.traderId r.assetId).available.val)
    (hreserved : (sheet.balance r.traderId r.assetId).reserved.val + r.amount.val < 2 ^ 64) :
    ∃ sheet', sheet.reserve r = (.ok (), sheet') := by
  have hlt := (sheet.balance r.traderId r.assetId).available.isLt
  have hop : (sheet.balance r.traderId r.assetId).reserve r.amount
      = (.ok (), ⟨⟨(sheet.balance r.traderId r.assetId).available.val - r.amount.val, by omega⟩,
          ⟨_, hreserved⟩⟩) :=
    Balance.reserve_eq_ok.mpr ⟨by simp only; omega, rfl⟩
  exact BalanceSheet.update_of_ok (fun b => b.reserve r.amount) hop

/-- An order is placed exactly when it is one that will be. -/
theorem Traced.accepts_iff {market : MarketSpec} {past : CommandLog} {app : ExchangeApplication}
    (h : Traced market past app) (c : CommandId) (o : Order) :
    (∃ fills, (app.execute (.placeOrder c o)).1 = .ok fills) ↔ app.Accepts c o := by
  have hx := execute_executed app (.placeOrder c o)
  constructor
  · rintro ⟨fills, hok⟩
    rw [hok] at hx
    generalize (app.execute (.placeOrder c o)).2 = app' at hx
    cases hx with
    | placed new live needs reserve matched =>
        -- The balances have paid for the reservation.
        have hamounts := reserve_amounts reserve o.traderId (o.asset app.market)
        rcases forOrder_eq_ok.mp needs with ⟨htrader, hasset, hcost⟩
        rw [htrader, hasset, share_self, hcost] at hamounts
        refine ⟨new, live, by omega, ?_⟩
        rw [← hamounts.2]
        exact Fin.isLt _
  · rintro ⟨hnew, hlive, havailable, hreserved⟩
    have hfit : o.cost < 2 ^ 64 := Nat.lt_of_le_of_lt (Nat.le_add_left _ _) hreserved
    have hneeds : Reservation.forOrder o app.market
        = .ok ⟨o.traderId, o.asset app.market, ⟨o.cost, hfit⟩⟩ :=
      forOrder_eq_ok.mpr ⟨rfl, rfl, rfl⟩
    rcases reserve_isOk (r := ⟨o.traderId, o.asset app.market, ⟨o.cost, hfit⟩⟩) havailable
      hreserved with ⟨balances, hreserve⟩
    -- A live order is never turned away by the books.
    rcases h.represents with ⟨hrep, hsound, -⟩
    have hanswer := (placeOrder_spec hrep hsound.past o).1
    rw [place_answer _ hlive] at hanswer
    have hplaced := ExchangeApplication.placeOrderInDomain_eq_ok.mpr
      ⟨hlive, _, balances, (app.matching.placeOrder o).2, hneeds, hreserve,
        Prod.ext hanswer rfl, rfl⟩
    have hevent := ExchangeApplication.placeOrderEvent_eq_ok.mpr ⟨hnew, rfl, _, hplaced⟩
    rcases ExchangeApplication.applyEvent_placeOrderEvent hevent with ⟨app', ha⟩
    refine ⟨(serve (CommandLog.reference past |>.queue o.side.opposite) o).1, ?_⟩
    simp only [ExchangeApplication.execute, ExchangeApplication.placeOrder, hevent, ha]

/-- A live order does not cross the best order of the other side, and is served
    nothing, or crosses it and loses quantity. This reads the service off the
    book, where the condition of the theorem is stated. -/
theorem crosses_best {e : MatchingEngine} {r : Reference} (h : Represents e r) (hsound : r.Sound)
    {o : Order} (hlive : ¬ o.isTerminal) :
    (o.side.crosses o (e.book o.side.opposite).bestOrder = false ∧
        serve (r.queue o.side.opposite) o = ([], r.queue o.side.opposite, o)) ∨
      (o.side.crosses o (e.book o.side.opposite).bestOrder = true ∧
        (serve (r.queue o.side.opposite) o).2.2.remaining < o.remaining) := by
  have htests := o.side.tests
  rw [OrderBookSide.bestOrder_eq_head (h o.side.opposite).1, (h o.side.opposite).2,
    List.head?_map]
  have hhead := serve_head (fun m hm => (hsound.resting o.side.opposite m hm).2) hlive
  -- The test of the loop looks at the head of the queue and at nothing else.
  cases hq : (r.queue o.side.opposite).head? with
  | none =>
      rw [hq] at hhead
      rcases hhead with ⟨-, hserve⟩ | ⟨⟨m, hm, -⟩, -⟩
      · exact Or.inl ⟨htests.none o, hserve⟩
      · exact absurd hm (by simp only [Option.mem_def, reduceCtorEq, not_false_eq_true])
  | some m =>
      rw [hq] at hhead
      simp only [Option.mem_def, Option.some.injEq, forall_eq', exists_eq_left'] at hhead
      rw [Option.map_some, ← Bool.not_eq_true, htests.some o m.item rfl]
      exact hhead

/-- An order placed leaves no more reserved than owed, for every trader and
    asset for which there was not, exactly when it comes in whole and trades
    nothing. Whatever it trades lowers what is owed, its own or the maker's, and
    the reservation stays. -/
theorem place_released (market : MarketSpec) {r : Reference} {e : MatchingEngine}
    (hrep : Represents e r) (hsound : r.Sound) {o : Order} (hlive : ¬ o.isTerminal) :
    (∀ t a, r.total (owes market t a) + share o.traderId t (o.asset market) a o.cost
        ≤ (r.place o).2.total (owes market t a))
      ↔ o.remaining = o.original ∧
        o.side.crosses o (e.book o.side.opposite).bestOrder = false := by
  have hown : owes market o.traderId (o.asset market) o = o.obligation := share_self _ _ _
  have hremaining := o.remaining_le
  constructor
  · intro h
    have hself := h o.traderId (o.asset market)
    rw [share_self] at hself
    rcases crosses_best hrep hsound hlive with ⟨hno, -⟩ | ⟨-, hlt⟩
    · refine ⟨?_, hno⟩
      -- An order that came with less than its quantity owes less than its cost.
      have hle := place_total_le (owes_fill_le market o.traderId (o.asset market)) r hlive
      rw [hown] at hle
      by_contra hne
      have hless : o.obligation < o.cost :=
        Nat.mul_lt_mul_of_pos_left (by omega) o.unitCost_pos
      omega
    · -- The taker owes its own limit on less than it came with.
      have hle := place_total_left (owes_fill_le market o.traderId (o.asset market)) r hlive
      have hleft : owes market o.traderId (o.asset market)
          (serve (r.queue o.side.opposite) o).2.2 < o.cost := by
        have htrader := serve_taker_field Order.traderId Order.fill_traderId
          (r.queue o.side.opposite) o
        have hasset := serve_taker_field (fun x => x.asset market)
          (fun x q => x.fill_asset q market) (r.queue o.side.opposite) o
        have hunit := serve_taker_field Order.unitCost Order.fill_unitCost
          (r.queue o.side.opposite) o
        rw [owes, htrader, hasset, share_self, Order.obligation, hunit]
        exact Nat.mul_lt_mul_of_pos_left (by omega) o.unitCost_pos
      omega
  · rintro ⟨hwhole, hno⟩ t a
    rcases crosses_best hrep hsound hlive with ⟨-, hserve⟩ | ⟨hyes, -⟩
    · rw [place_total_eq _ r hlive hserve, owes, Order.obligation, hwhole]
      exact Nat.le_refl _
    · rw [hno] at hyes
      exact absurd hyes Bool.false_ne_true

/-- No funds stay reserved for nothing exactly as long as nothing trades. The
    books owe all that is reserved, for every trader and asset and in every
    application that a run passes through, exactly when every order placed in
    the run came in whole and did not cross the best order of the other side. -/
theorem run_released (market : MarketSpec) (commands : List Command) :
    (∀ pre, pre <+: commands → ∀ t a,
      ((Run.after ExchangeApplication.execute (.new market) pre).balances.balance t a).reserved.val
        ≤ (Run.after ExchangeApplication.execute (.new market) pre).matching.obligations
            market t a)
      ↔ Run.Along ExchangeApplication.execute ExchangeApplication.Untouched (.new market)
          commands := by
  refine Run.always_iff_along ExchangeApplication.execute (I := Traced market)
    (P := fun _ app => ∀ t a,
      (app.balances.balance t a).reserved.val ≤ app.matching.obligations market t a)
    (new_traced market)
    (fun past app command h => executed_traced h (execute_executed app command))
    (fun t a => Nat.le_refl 0) ?_ commands
  intro past app command hI hP
  have hx := execute_executed app command
  have hI' := executed_traced hI hx
  have haccepts := hI.accepts_iff
  generalize hanswer : (app.execute command).1 = answer at hx hI'
  generalize (app.execute command).2 = app' at hx hI' ⊢
  cases hx with
  | rejected command e =>
      -- A command that fails places nothing, so the condition asks nothing of it.
      refine iff_of_true hP ?_
      cases command with
      | creditDeposit c t a amount => trivial
      | placeOrder c o =>
          intro hacc
          rcases (haccepts c o).mpr hacc with ⟨fills, hok⟩
          rw [hok] at hanswer
          exact absurd hanswer (by simp only [reduceCtorEq, not_false_eq_true])
  | @credited c t a amount balances new credit =>
      refine iff_of_true (fun t' a' => ?_) trivial
      -- A credit reserves nothing.
      have hsame := (creditAvailable_amounts credit t' a').2
      exact (Nat.le_of_eq (congrArg Fin.val hsame)).trans (hP t' a')
  | @placed c o reservation balances matching fills new live needs reserve matched =>
      have hacc := (haccepts c o).mp ⟨fills, hanswer⟩
      have hserved := (hI.served (.placed new live needs reserve matched)).2.2
      rcases hI.represents with ⟨hrep, hsound, -⟩
      -- What was reserved is what was owed, and the step adds to both.
      have hbefore : ∀ t a, needed market t a (ordersOf past)
          = (CommandLog.reference past).total (owes market t a) := by
        intro t a
        have hle := hP t a
        rw [hI.reserved, obligations_eq_total hrep] at hle
        exact Nat.le_antisymm hle (total_owes_le_needed market t a (ordersOf past))
      have hafter : ∀ t a, needed market t a (ordersOf (past ++ [(.placeOrder c o, .ok fills)]))
          = (CommandLog.reference past).total (owes market t a)
            + share o.traderId t (o.asset market) a o.cost := by
        intro t a
        rw [ordersOf_snoc, needed_snoc, hbefore]
      have hreleased := place_released market hrep hsound live
      constructor
      · intro h _
        refine hreleased.mp (fun t a => ?_)
        have hle := h t a
        rw [hI'.reserved, obligations_eq_total hI'.represents.1, hafter, hserved] at hle
        exact hle
      · intro h t a
        rw [hI'.reserved, obligations_eq_total hI'.represents.1, hafter, hserved]
        exact hreleased.mpr (h hacc) t a

/-- A bid that was filled completely, and still has 36 reserved. Nothing rests
    of it, so nothing is owed. -/
theorem run_released_filled :
    ¬ ∀ (market : MarketSpec) (commands : List Command) (t : TraderId) (a : AssetId),
      ((Run.after ExchangeApplication.execute (.new market) commands).balances.balance t
          a).reserved.val
        ≤ (Run.after ExchangeApplication.execute (.new market) commands).matching.obligations
            market t a := by
  intro h
  have hfilled := h sampleMarket (sampleCommands ⟨2, by decide⟩ ++
    [.placeOrder ⟨4, by decide⟩ (sampleTaker ⟨2, by decide⟩ ⟨1, by decide⟩)])
    ⟨2, by decide⟩ ⟨2, by decide⟩
  exact absurd hfilled (by decide)

end Exchange

end SolanaLab
