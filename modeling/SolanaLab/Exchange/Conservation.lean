import SolanaLab.Exchange.PriceTime

/-!
# Conservation of Quantity

Where the quantity of an order goes. Over any sequence of orders with
different ids, what an order was placed with is what fills have taken from it
and what of it rests.

Serving one taker moves quantity out of two places at once, the queue of
makers and the taker, and each fill records how much. `serve_conserves` is
that equation for one order id, by induction on the queue; it needs the taker
to be no maker of its own. `Accounts` is the invariant of a whole run over its
log: every resting order was accepted under its id and side, no id rests
twice, every fill names an accepted maker and an accepted taker of opposite
sides, and the books balance for every accepted order.

Orders are told apart by their ids here, and the ids of a run must differ for
that. The domain does not see to it, which is the subject of another module.

## Main definitions

* `Fill.Names`: A fill has an order on one of its ends.
* `taken`: What a list of fills has taken from an order.
* `remainingOf`: What of an order a list of orders holds.
* `accepted`: The orders of a log that were not turned away.
* `fillsOf`: The fills of a log.
* `Accounts`: What holds of the log of a run and the reference reached.

## Theorems

* `serve_conserves`: Fills take what queue and taker lose.
* `serve_makers`: The makers named are the first of the queue.
* `place_conserves`: Placing an order moves its quantity and no other.
* `place_accounts`: Placing an order keeps the accounts.
* `placeAll_conserves`: The quantity of every order over every run.
-/

namespace SolanaLab

namespace Exchange

open PriorityQueue

/-- A fill has the order on one of its ends. -/
def Fill.Names (f : Fill) (id : OrderId) : Prop := f.makerOrderId = id ∨ f.takerOrderId = id

instance (f : Fill) (id : OrderId) : Decidable (f.Names id) :=
  inferInstanceAs (Decidable (_ ∨ _))

/-- What a fill has taken from an order. -/
def Fill.takes (f : Fill) (id : OrderId) : Nat := if f.Names id then f.quantity.get.val else 0

/-- What a list of fills has taken from an order. -/
def taken (fills : List Fill) (id : OrderId) : Nat := (fills.map (fun f => f.takes id)).sum

/-- What of an order a list of orders holds. -/
def remainingOf (id : OrderId) (orders : List Order) : Nat :=
  (orders.map (fun o => if o.id = id then o.remaining else 0)).sum

/-- No fills take nothing. -/
theorem taken_nil (id : OrderId) : taken [] id = 0 := rfl

/-- Fills take what each of them takes. -/
theorem taken_cons (f : Fill) (fills : List Fill) (id : OrderId) :
    taken (f :: fills) id = f.takes id + taken fills id :=
  List.sum_cons

/-- And so do two lists of fills. -/
theorem taken_append (fills fills' : List Fill) (id : OrderId) :
    taken (fills ++ fills') id = taken fills id + taken fills' id := by
  rw [taken, List.map_append, List.sum_append]
  rfl

/-- Fills that do not name an order take nothing from it. -/
theorem taken_eq_zero {fills : List Fill} {id : OrderId} (h : ∀ f ∈ fills, ¬ f.Names id) :
    taken fills id = 0 := by
  refine List.sum_eq_zero (fun n hn => ?_)
  rcases List.mem_map.mp hn with ⟨f, hf, rfl⟩
  exact if_neg (h f hf)

/-- What is held of an order is added up along the list. -/
theorem remainingOf_cons (id : OrderId) (o : Order) (orders : List Order) :
    remainingOf id (o :: orders)
      = (if o.id = id then o.remaining else 0) + remainingOf id orders :=
  List.sum_cons

/-- A list without the id holds nothing of it. -/
theorem remainingOf_eq_zero {id : OrderId} {orders : List Order}
    (h : ∀ o ∈ orders, o.id ≠ id) : remainingOf id orders = 0 := by
  refine List.sum_eq_zero (fun n hn => ?_)
  rcases List.mem_map.mp hn with ⟨o, ho, rfl⟩
  exact if_neg (h o ho)

/-- What is held does not depend on the order of the list. -/
theorem remainingOf_perm (id : OrderId) {orders orders' : List Order}
    (h : orders.Perm orders') : remainingOf id orders = remainingOf id orders' :=
  (h.map _).sum_eq

/-! ### One taker -/

/-- One fill takes the same quantity from the maker and from the taker. -/
theorem fill_conserves {maker taker : Order} {q : Quantity} (id : OrderId)
    (hne : maker.id ≠ taker.id) (hmaker : q.get.val ≤ maker.remaining)
    (htaker : q.get.val ≤ taker.remaining) :
    (Fill.new maker taker maker.price q).takes id
        + (if maker.id = id then (maker.fill q).remaining else 0)
        + (if taker.id = id then (taker.fill q).remaining else 0)
      = (if maker.id = id then maker.remaining else 0)
        + (if taker.id = id then taker.remaining else 0) := by
  rw [Order.fill_remaining, Order.fill_remaining, Fill.takes]
  have hquantity : (Fill.new maker taker maker.price q).quantity = q := rfl
  rw [hquantity]
  -- The maker, the taker or neither: the two have different ids.
  by_cases hm : maker.id = id
  · have ht : taker.id ≠ id := fun ht => hne (hm.trans ht.symm)
    have hnames : (Fill.new maker taker maker.price q).Names id := Or.inl hm
    rw [if_pos hnames, if_pos hm, if_pos hm, if_neg ht, if_neg ht]
    omega
  · by_cases ht : taker.id = id
    · have hnames : (Fill.new maker taker maker.price q).Names id := Or.inr ht
      rw [if_pos hnames, if_neg hm, if_neg hm, if_pos ht, if_pos ht]
      omega
    · have hnames : ¬ (Fill.new maker taker maker.price q).Names id := not_or.mpr ⟨hm, ht⟩
      rw [if_neg hnames, if_neg hm, if_neg hm, if_neg ht, if_neg ht]

/-- What a service takes from an order it has from the queue or from the taker.
    By induction on the service, with one fill at each step. -/
theorem serve_conserves (id : OrderId) (queue : List (Stamped Order)) (taker : Order)
    (hne : ∀ m ∈ queue, m.item.id ≠ taker.id) :
    taken (serve queue taker).1 id + remainingOf id ((serve queue taker).2.1.map Stamped.item)
        + (if taker.id = id then (serve queue taker).2.2.remaining else 0)
      = remainingOf id (queue.map Stamped.item)
        + (if taker.id = id then taker.remaining else 0) := by
  induction queue, taker using serve_induction with
  | nil taker => exact congrArg (· + _) (Nat.zero_add _)
  | stop m rest taker ht =>
      rw [serve_stop ht]
      exact congrArg (· + _) (Nat.zero_add _)
  | exhaust m rest taker q ht hq ih =>
      have hsize := (tradeSize_eq_some.mp ht).1
      have hfill := fill_conserves id (hne m List.mem_cons_self) (q := q) (by omega) (by omega)
      -- An exhausted maker leaves the queue with nothing remaining.
      have hzero : (m.item.fill q).remaining = 0 := by
        rw [Order.fill_remaining]
        omega
      rw [hzero, ite_self] at hfill
      have hrest := ih (fun x hx => hne x (List.mem_cons_of_mem m hx))
      rw [Order.fill_id] at hrest
      rw [serve_exhaust ht hq, List.map_cons, remainingOf_cons, taken_cons]
      simp only
      omega
  | partly m rest taker q ht hq =>
      have hsize := (tradeSize_eq_some.mp ht).1
      have hfill := fill_conserves id (hne m List.mem_cons_self) (q := q) (by omega) (by omega)
      -- The maker keeps its place, and the orders behind it are untouched.
      rw [serve_partly ht hq, List.map_cons, List.map_cons, remainingOf_cons, remainingOf_cons,
        taken_cons, Order.fill_id, taken_nil]
      simp only
      omega

/-- The makers named are the first of the queue, each once. -/
theorem serve_makers (queue : List (Stamped Order)) (taker : Order) :
    (serve queue taker).1.map Fill.makerOrderId <+: queue.map (fun m => m.item.id) := by
  induction queue, taker using serve_induction with
  | nil taker => exact List.prefix_refl []
  | stop m rest taker ht =>
      rw [serve_stop ht]
      exact List.nil_prefix
  | exhaust m rest taker q ht hq ih =>
      rw [serve_exhaust ht hq]
      exact (List.prefix_cons_inj m.item.id).mpr ih
  | partly m rest taker q ht hq =>
      rw [serve_partly ht hq]
      exact (List.prefix_cons_inj m.item.id).mpr List.nil_prefix

/-- Every fill of a service has the same taker. -/
theorem serve_takers {queue : List (Stamped Order)} {taker : Order} {f : Fill}
    (h : f ∈ (serve queue taker).1) : f.takerOrderId = taker.id := by
  rcases List.getElem?_of_mem h with ⟨k, hk⟩
  rcases serve_priority queue taker k f hk with ⟨m, -, heq, -⟩
  rw [heq]
  rfl

/-- The ids left in the queue are the last of those that were in it. -/
theorem serve_ids (queue : List (Stamped Order)) (taker : Order) :
    (serve queue taker).2.1.map (fun m => m.item.id) <:+ queue.map (fun m => m.item.id) := by
  rcases serve_queue queue taker with hsuff | ⟨m, rest, q, hsuff, -, heq⟩
  · exact hsuff.map _
  · rw [heq]
    exact hsuff.map (fun m => m.item.id)

/-! ### One order -/

/-- What of an order the reference holds. -/
def Reference.held (r : Reference) (id : OrderId) : Nat :=
  remainingOf id ((r.queue .bid).map Stamped.item)
    + remainingOf id ((r.queue .ask).map Stamped.item)

/-- The two queues can be named from either side. -/
theorem Reference.held_eq (r : Reference) (s : Side) (id : OrderId) :
    r.held id = remainingOf id ((r.queue s).map Stamped.item)
      + remainingOf id ((r.queue s.opposite).map Stamped.item) := by
  cases s with
  | bid => rfl
  | ask => exact Nat.add_comm _ _

/-- An order that is inserted is added, wherever it goes. -/
theorem stampedInsert_perm {s : Side} (x : Stamped Order) (queue : List (Stamped Order)) :
    (stampedInsert (Order.rankOn s) x queue).Perm (x :: queue) :=
  List.perm_orderedInsert _ x queue

/-- Joining a queue adds what is left. -/
theorem remainingOf_join (id : OrderId) (s : Side) (clock : Nat) (left : Order)
    (queue : List (Stamped Order)) :
    remainingOf id ((Reference.join s clock left queue).map Stamped.item)
      = (if left.id = id then left.remaining else 0)
        + remainingOf id (queue.map Stamped.item) := by
  unfold Reference.join
  by_cases hspent : left.remaining = 0
  · rw [if_pos hspent, hspent, ite_self, Nat.zero_add]
  · rw [if_neg hspent, remainingOf_perm id ((stampedInsert_perm _ queue).map Stamped.item)]
    exact remainingOf_cons id left _

/-- Placing an order moves its quantity into fills and the book, and the
    quantity of every other order out of the book into fills. -/
theorem place_conserves {r : Reference} {o : Order} (hlive : ¬ o.isTerminal)
    (hnew : ∀ m ∈ r.queue o.side.opposite, m.item.id ≠ o.id) (id : OrderId) :
    taken (serve (r.queue o.side.opposite) o).1 id + (r.place o).2.held id
      = r.held id + (if o.id = id then o.remaining else 0) := by
  have hserve := serve_conserves id (r.queue o.side.opposite) o hnew
  have hid := serve_taker_field Order.id Order.fill_id (r.queue o.side.opposite) o
  rw [Reference.held_eq _ o.side, Reference.held_eq r o.side, place_own r hlive,
    place_opposite r hlive, remainingOf_join, hid]
  omega

/-! ### A whole run -/

/-- The orders of a log that were not turned away. -/
def accepted (past : List (Order × Except Error (List Fill))) : List Order :=
  (past.filter (fun e => e.2.isOk)).map Prod.fst

/-- The fills of a log. -/
def fillsOf (past : List (Order × Except Error (List Fill))) : List Fill :=
  past.flatMap (fun e => e.2.toOption.getD [])

/-- An order that was answered with fills was accepted. -/
theorem accepted_snoc_ok (past : List (Order × Except Error (List Fill))) (o : Order)
    (fills : List Fill) : accepted (past ++ [(o, .ok fills)]) = accepted past ++ [o] := by
  rw [accepted, List.filter_append, List.map_append]
  rfl

/-- One that was answered with an error was not. -/
theorem accepted_snoc_error (past : List (Order × Except Error (List Fill))) (o : Order)
    (err : Error) : accepted (past ++ [(o, .error err)]) = accepted past := by
  rw [accepted, List.filter_append, List.map_append]
  exact List.append_nil _

/-- The fills of an order are added to those of the log. -/
theorem fillsOf_snoc_ok (past : List (Order × Except Error (List Fill))) (o : Order)
    (fills : List Fill) : fillsOf (past ++ [(o, .ok fills)]) = fillsOf past ++ fills := by
  rw [fillsOf, List.flatMap_append, List.flatMap_singleton]
  rfl

/-- An error adds none. -/
theorem fillsOf_snoc_error (past : List (Order × Except Error (List Fill))) (o : Order)
    (err : Error) : fillsOf (past ++ [(o, .error err)]) = fillsOf past := by
  rw [fillsOf, List.flatMap_append, List.flatMap_singleton]
  exact List.append_nil _

/-- An accepted order was placed. -/
theorem mem_of_accepted {past : List (Order × Except Error (List Fill))} {o : Order}
    (h : o ∈ accepted past) : o ∈ past.map Prod.fst := by
  rcases List.mem_map.mp h with ⟨e, he, rfl⟩
  exact List.mem_map_of_mem (List.mem_of_mem_filter he)

/-- What holds of the log of a run and the reference it has led to: every
    resting order is known, no id rests twice on a side, every fill names two
    accepted orders, and for every accepted order the quantities add up. -/
structure Accounts (past : List (Order × Except Error (List Fill))) (r : Reference) : Prop where
  known : ∀ s, ∀ m ∈ r.queue s, ∃ o ∈ accepted past, o.id = m.item.id ∧ o.side = s
  distinct : ∀ s, ((r.queue s).map (fun m => m.item.id)).Nodup
  named : ∀ f ∈ fillsOf past, ∃ maker ∈ accepted past, ∃ taker ∈ accepted past,
    f.makerOrderId = maker.id ∧ f.takerOrderId = taker.id ∧ maker.side = taker.side.opposite
  balanced : ∀ o ∈ accepted past, taken (fillsOf past) o.id + r.held o.id = o.remaining

/-- An order no queue knows is not held. -/
theorem Accounts.held_eq_zero {past : List (Order × Except Error (List Fill))} {r : Reference}
    (h : Accounts past r) {id : OrderId} (hnew : ∀ o ∈ accepted past, o.id ≠ id) :
    r.held id = 0 := by
  have hside : ∀ s, remainingOf id ((r.queue s).map Stamped.item) = 0 := by
    intro s
    refine remainingOf_eq_zero (fun o ho => ?_)
    rcases List.mem_map.mp ho with ⟨m, hm, rfl⟩
    rcases h.known s m hm with ⟨x, hx, hid, -⟩
    rw [← hid]
    exact hnew x hx
  rw [Reference.held, hside, hside]

/-- Nor has anything been taken from an order no queue knows. -/
theorem Accounts.taken_eq_zero {past : List (Order × Except Error (List Fill))} {r : Reference}
    (h : Accounts past r) {id : OrderId} (hnew : ∀ o ∈ accepted past, o.id ≠ id) :
    taken (fillsOf past) id = 0 := by
  refine Exchange.taken_eq_zero (fun f hf hnames => ?_)
  rcases h.named f hf with ⟨maker, hmaker, taker, htaker, hm, ht, -⟩
  rcases hnames with hid | hid
  · exact hnew maker hmaker (hm.symm.trans hid)
  · exact hnew taker htaker (ht.symm.trans hid)

/-- The maker of a fill rests on the opposite side of its taker. -/
theorem maker_rests {queue : List (Stamped Order)} {o : Order} {f : Fill}
    (h : f ∈ (serve queue o).1) : ∃ m ∈ queue, f.makerOrderId = m.item.id := by
  have hmem := (serve_makers queue o).subset (List.mem_map_of_mem h)
  rcases List.mem_map.mp hmem with ⟨m, hm, hid⟩
  exact ⟨m, hm, hid.symm⟩

/-- A newcomer with a new id keeps the ids of a queue different. -/
theorem nodup_join {s : Side} {clock : Nat} {left : Order} {queue : List (Stamped Order)}
    (h : (queue.map (fun m => m.item.id)).Nodup) (hnew : ∀ m ∈ queue, m.item.id ≠ left.id) :
    ((Reference.join s clock left queue).map (fun m => m.item.id)).Nodup := by
  unfold Reference.join
  by_cases hspent : left.remaining = 0
  · rw [if_pos hspent]
    exact h
  · rw [if_neg hspent,
      ((stampedInsert_perm _ queue).map (fun m : Stamped Order => m.item.id)).nodup_iff,
      List.map_cons, List.nodup_cons]
    refine ⟨fun hmem => ?_, h⟩
    rcases List.mem_map.mp hmem with ⟨m, hm, hid⟩
    exact hnew m hm hid

/-- Placing an order with a new id keeps the accounts. The new id makes the
    order differ from all makers, so the fills take from it and from them
    separately. -/
theorem place_accounts {past : List (Order × Except Error (List Fill))} {r : Reference}
    (h : Accounts past r) {o : Order} (hnew : ∀ x ∈ accepted past, x.id ≠ o.id) :
    Accounts (past ++ [(o, (r.place o).1)]) (r.place o).2 := by
  by_cases hlive : o.isTerminal
  · rw [place_terminal r hlive]
    refine ⟨?_, h.distinct, ?_, ?_⟩
    · rw [accepted_snoc_error]
      exact h.known
    · rw [fillsOf_snoc_error, accepted_snoc_error]
      exact h.named
    · rw [fillsOf_snoc_error, accepted_snoc_error]
      exact h.balanced
  have hown := place_own r hlive
  have hopp := place_opposite r hlive
  have hid := serve_taker_field Order.id Order.fill_id (r.queue o.side.opposite) o
  have hfresh : ∀ s, ∀ m ∈ r.queue s, m.item.id ≠ o.id := by
    intro s m hm
    rcases h.known s m hm with ⟨x, hx, hxid, -⟩
    rw [← hxid]
    exact hnew x hx
  have hmove := place_conserves hlive (hfresh o.side.opposite)
  rw [place_answer r hlive]
  have hacc := accepted_snoc_ok past o (serve (r.queue o.side.opposite) o).1
  have hfills := fillsOf_snoc_ok past o (serve (r.queue o.side.opposite) o).1
  refine ⟨fun s m hm => ?_, fun s => ?_, fun f hf => ?_, fun x hx => ?_⟩
  · -- A resting order is what is left of the taker or was known before.
    rw [hacc]
    by_cases hs : s = o.side
    · rw [hs, hown] at hm
      rcases mem_join hm with ⟨rfl, -⟩ | hm
      · exact ⟨o, List.mem_append_right _ List.mem_cons_self, hid.symm, hs.symm⟩
      · rcases h.known o.side m hm with ⟨x, hx, hxid, hxs⟩
        exact ⟨x, List.mem_append_left _ hx, hxid, hxs.trans hs.symm⟩
    · rw [Side.eq_opposite_of_ne hs, hopp] at hm
      rcases serve_queue_mem hm with ⟨m', hm', -, hitem⟩
      rcases h.known _ m' hm' with ⟨x, hx, hxid, hxs⟩
      refine ⟨x, List.mem_append_left _ hx, ?_, hxs.trans (Side.eq_opposite_of_ne hs).symm⟩
      rcases hitem with heq | ⟨q, -, heq⟩
      · rw [hxid, heq]
      · rw [hxid, heq, Order.fill_id]
  -- Neither queue gets an id that it has: the one is joined by a new id, the other only
  -- loses.
  · by_cases hs : s = o.side
    · rw [hs, hown]
      exact nodup_join (h.distinct o.side) (fun m hm => by rw [hid]; exact hfresh o.side m hm)
    · rw [Side.eq_opposite_of_ne hs, hopp]
      exact (h.distinct _).sublist (serve_ids _ o).sublist
  -- An earlier fill names the orders it named, and a new one the taker and a maker that
  -- rested.
  · rw [hfills] at hf
    rw [hacc]
    rcases List.mem_append.mp hf with hf | hf
    · rcases h.named f hf with ⟨maker, hmaker, taker, htaker, hm, ht, hside⟩
      exact ⟨maker, List.mem_append_left _ hmaker, taker, List.mem_append_left _ htaker, hm, ht,
        hside⟩
    · rcases maker_rests hf with ⟨m, hm, hmid⟩
      rcases h.known _ m hm with ⟨x, hx, hxid, hxs⟩
      exact ⟨x, List.mem_append_left _ hx, o, List.mem_append_right _ List.mem_cons_self,
        hmid.trans hxid.symm, serve_takers hf, hxs⟩
  -- The equation of an order moves by what `place_conserves` says, and for the new one it
  -- starts.
  · rw [hacc] at hx
    rw [hfills, taken_append, Nat.add_assoc, hmove]
    rcases List.mem_append.mp hx with hx | hx
    · rw [if_neg (Ne.symm (hnew x hx))]
      exact h.balanced x hx
    · rw [List.mem_singleton.mp hx, if_pos rfl, h.taken_eq_zero hnew, h.held_eq_zero hnew]
      omega

/-- The accounts hold of every run over orders with different ids. -/
theorem placeAll_accounts (orders : List Order) (hids : (orders.map Order.id).Nodup) :
    Accounts (Run.log Reference.place Reference.new orders)
      (Reference.new.placeAll orders) := by
  -- The ids of a prefix are distinct too, so the step lemma applies throughout.
  have hrun := Run.invariant Reference.place (s := Reference.new)
    (P := fun past r => (past.map (fun e => e.1.id)).Nodup → Accounts past r) ?_ ?_ orders
  · refine hrun ?_
    have hinputs :=
      congrArg (List.map Order.id) (Run.log_inputs Reference.place Reference.new orders)
    rw [List.map_map] at hinputs
    exact hinputs ▸ hids
  · exact fun _ => ⟨fun _ _ hm => absurd hm List.not_mem_nil, fun _ => List.nodup_nil,
      fun _ hf => absurd hf List.not_mem_nil, fun _ ho => absurd ho List.not_mem_nil⟩
  · intro past r o ih hnd
    rw [List.map_append, List.nodup_append] at hnd
    refine place_accounts (ih hnd.1) (fun x hx => ?_)
    rcases List.mem_map.mp (mem_of_accepted hx) with ⟨e, he, rfl⟩
    exact hnd.2.2 _ (List.mem_map_of_mem he) _ List.mem_cons_self

/-- What of an order the books hold. -/
def MatchingEngine.resting (e : MatchingEngine) (id : OrderId) : Nat :=
  remainingOf id e.bids.orders + remainingOf id e.asks.orders

/-- The books hold what the queues hold. -/
theorem resting_eq_held {e : MatchingEngine} {r : Reference} (h : Represents e r)
    (id : OrderId) : e.resting id = r.held id := by
  have hbids : e.bids.orders = (r.queue .bid).map Stamped.item := (h .bid).2
  have hasks : e.asks.orders = (r.queue .ask).map Stamped.item := (h .ask).2
  rw [MatchingEngine.resting, hbids, hasks]
  rfl

/-- An accepted order is determined by its id. -/
theorem accepted_inj {e : MatchingEngine} {orders : List Order}
    (hids : (orders.map Order.id).Nodup) {x y : Order}
    (hx : x ∈ accepted (Run.log MatchingEngine.placeOrder e orders))
    (hy : y ∈ accepted (Run.log MatchingEngine.placeOrder e orders)) (h : x.id = y.id) :
    x = y := by
  have hx' := mem_of_accepted hx
  have hy' := mem_of_accepted hy
  rw [Run.log_inputs] at hx' hy'
  exact List.inj_on_of_nodup_map hids hx' hy' h

/-- A bid and an ask share no id when the books account for both. -/
theorem Accounts.ids_ne {past : List (Order × Except Error (List Fill))} {r : Reference}
    (h : Accounts past r)
    (hinj : ∀ x ∈ accepted past, ∀ y ∈ accepted past, x.id = y.id → x = y)
    {b a : Stamped Order} (hb : b ∈ r.queue .bid) (ha : a ∈ r.queue .ask) :
    b.item.id ≠ a.item.id := by
  intro heq
  rcases h.known .bid b hb with ⟨x, hx, hxid, hxs⟩
  rcases h.known .ask a ha with ⟨y, hy, hyid, hys⟩
  have hxy := hinj x hx y hy (by rw [hxid, hyid, heq])
  rw [hxy, hys] at hxs
  exact absurd hxs (by simp only [reduceCtorEq, not_false_eq_true])

/-- Every fill names one accepted bid and one accepted ask. -/
theorem Accounts.names_two {past : List (Order × Except Error (List Fill))} {r : Reference}
    (h : Accounts past r)
    (hinj : ∀ x ∈ accepted past, ∀ y ∈ accepted past, x.id = y.id → x = y) {f : Fill}
    (hf : f ∈ fillsOf past) :
    ∃ bid ∈ accepted past, ∃ ask ∈ accepted past, bid.side = .bid ∧ ask.side = .ask ∧
      ∀ o ∈ accepted past, f.Names o.id ↔ o = bid ∨ o = ask := by
  rcases h.named f hf with ⟨maker, hmaker, taker, htaker, hm, ht, hside⟩
  have hnames : ∀ o ∈ accepted past, f.Names o.id ↔ o = maker ∨ o = taker := by
    intro o ho
    rw [Fill.Names, hm, ht]
    refine or_congr ⟨fun heq => ?_, fun heq => ?_⟩ ⟨fun heq => ?_, fun heq => ?_⟩
    · exact (hinj maker hmaker o ho heq).symm
    · rw [heq]
    · exact (hinj taker htaker o ho heq).symm
    · rw [heq]
  -- The maker rests on the other side, so the taker's side tells which of the two is the bid.
  cases hs : taker.side with
  | bid =>
      rw [hs] at hside
      exact ⟨taker, htaker, maker, hmaker, hs, hside, fun o ho => (hnames o ho).trans or_comm⟩
  | ask =>
      rw [hs] at hside
      exact ⟨maker, hmaker, taker, htaker, hside, hs, hnames⟩

/-- A maker named in a call loses the quantity of that fill and no other. -/
theorem taken_of_maker {queue : List (Stamped Order)} {o : Order}
    (hdistinct : (queue.map (fun m => m.item.id)).Nodup) (hnew : ∀ m ∈ queue, m.item.id ≠ o.id)
    {f : Fill} (hf : f ∈ (serve queue o).1) :
    taken (serve queue o).1 f.makerOrderId = f.quantity.get.val := by
  have hnd := hdistinct.sublist (serve_makers queue o).sublist
  rcases maker_rests hf with ⟨m, hm, hid⟩
  have htaker : ∀ g ∈ (serve queue o).1, g.takerOrderId ≠ f.makerOrderId := by
    intro g hg heq
    rw [serve_takers hg, hid] at heq
    exact hnew m hm heq.symm
  -- Only who is named matters from here on, so forget where the fills come from.
  generalize (serve queue o).1 = fills at hf hnd htaker
  induction fills with
  | nil => exact absurd hf List.not_mem_nil
  | cons g rest ih =>
      rw [List.map_cons, List.nodup_cons] at hnd
      rw [taken_cons]
      rcases List.mem_cons.mp hf with rfl | hf
      · -- The first fill is the one asked about, and no later fill names its maker.
        have hzero : taken rest f.makerOrderId = 0 := by
          refine taken_eq_zero (fun x hx hnames => ?_)
          rcases hnames with heq | heq
          · exact hnd.1 (heq ▸ List.mem_map_of_mem hx)
          · exact htaker x (List.mem_cons_of_mem f hx) heq
        have hself : f.Names f.makerOrderId := Or.inl rfl
        rw [hzero, Fill.takes, if_pos hself, Nat.add_zero]
      · -- The first fill is another's, and takes nothing.
        have hother : ¬ g.Names f.makerOrderId := by
          rintro (heq | heq)
          · exact hnd.1 (heq ▸ List.mem_map_of_mem hf)
          · exact htaker g List.mem_cons_self heq
        rw [Fill.takes, if_neg hother, Nat.zero_add]
        exact ih hf hnd.2 (fun x hx => htaker x (List.mem_cons_of_mem g hx))

/-- The quantity of every order over every run. What an accepted order was
    placed with is what fills have taken from it and what of it rests; no
    order rests twice. Every fill names exactly one accepted bid and one
    accepted ask. The makers of a call are different orders that rest on the
    opposite side when it starts, and each loses there what its fill says. -/
theorem placeAll_conserves (orders : List Order) (hids : (orders.map Order.id).Nodup) :
    let e := MatchingEngine.new.placeAll orders
    let past := Run.log MatchingEngine.placeOrder MatchingEngine.new orders
    (∀ o ∈ accepted past, taken (fillsOf past) o.id + e.resting o.id = o.remaining) ∧
    ((e.bids.orders ++ e.asks.orders).map Order.id).Nodup ∧
    (∀ f ∈ fillsOf past, ∃ bid ∈ accepted past, ∃ ask ∈ accepted past,
      bid.side = .bid ∧ ask.side = .ask ∧
        ∀ o ∈ accepted past, f.Names o.id ↔ o = bid ∨ o = ask) ∧
    ∀ o, (∀ x ∈ orders, x.id ≠ o.id) → ∀ fills, (e.placeOrder o).1 = .ok fills →
      (fills.map Fill.makerOrderId).Nodup ∧
      ∀ f ∈ fills, f.takerOrderId = o.id ∧
        (∃ m ∈ (e.book o.side.opposite).orders, m.id = f.makerOrderId) ∧
        (e.placeOrder o).2.resting f.makerOrderId + f.quantity.get.val
          = e.resting f.makerOrderId := by
  intro e past
  rcases placeAll_simulation orders with ⟨hlog, hrep, hsound⟩
  have hinj : ∀ x ∈ accepted past, ∀ y ∈ accepted past, x.id = y.id → x = y :=
    fun x hx y hy hid => accepted_inj hids hx hy hid
  have haccounts := placeAll_accounts orders hids
  rw [← hlog] at haccounts
  -- The books list what the queues of the reference hold.
  have hbids : e.bids.orders = _ := (hrep .bid).2
  have hasks : e.asks.orders = _ := (hrep .ask).2
  refine ⟨fun o ho => ?_, ?_, fun f hf => haccounts.names_two hinj hf, ?_⟩
  · rw [resting_eq_held hrep]
    exact haccounts.balanced o ho
  -- On a side by the accounts, and across the two because an accepted order has one side.
  · rw [hbids, hasks, List.map_append, List.map_map, List.map_map, List.nodup_append]
    refine ⟨haccounts.distinct .bid, haccounts.distinct .ask, fun x hx y hy => ?_⟩
    rcases List.mem_map.mp hx with ⟨b, hb, rfl⟩
    rcases List.mem_map.mp hy with ⟨a, ha, rfl⟩
    exact haccounts.ids_ne hinj hb ha
  · -- What one more order with a new id does.
    intro o hnew fills hfills
    have hspec := placeOrder_spec hrep hsound.past o
    have hlive : ¬ o.isTerminal := by
      intro hterm
      rw [hspec.1, place_terminal _ hterm] at hfills
      exact absurd hfills (by simp only [reduceCtorEq, not_false_eq_true])
    rw [hspec.1, place_answer _ hlive, Except.ok.injEq] at hfills
    have hfresh : ∀ m ∈ (Reference.new.placeAll orders).queue o.side.opposite,
        m.item.id ≠ o.id := by
      intro m hm
      rcases haccounts.known _ m hm with ⟨x, hx, hxid, -⟩
      have hmem := mem_of_accepted hx
      rw [Run.log_inputs] at hmem
      rw [← hxid]
      exact hnew x hmem
    rw [← hfills]
    refine ⟨(haccounts.distinct _).sublist (serve_makers _ o).sublist, fun f hf => ?_⟩
    refine ⟨serve_takers hf, ?_, ?_⟩
    · rcases maker_rests hf with ⟨m, hm, hid⟩
      rw [(hrep o.side.opposite).2]
      exact ⟨m.item, List.mem_map_of_mem hm, hid.symm⟩
    · -- What leaves the queue goes into fills, and this maker is in one fill only.
      have hmove := place_conserves hlive hfresh f.makerOrderId
      have hne : o.id ≠ f.makerOrderId := by
        rcases maker_rests hf with ⟨m, hm, hid⟩
        rw [hid]
        exact Ne.symm (hfresh m hm)
      rw [taken_of_maker (haccounts.distinct _) hfresh hf, if_neg hne] at hmove
      rw [resting_eq_held hspec.2, resting_eq_held hrep]
      omega

/-- An ask, a bid that takes part of it and rests nothing, and a bid for the
    remainder and more. -/
theorem placeAll_conserves_split :
    let ask := Order.sample ⟨1, by decide⟩ .ask ⟨10, by decide⟩ ⟨5, by decide⟩
    let small := Order.sample ⟨2, by decide⟩ .bid ⟨10, by decide⟩ ⟨2, by decide⟩
    let large := Order.sample ⟨3, by decide⟩ .bid ⟨12, by decide⟩ ⟨7, by decide⟩
    let orders := [ask, small, large]
    let past := Run.log MatchingEngine.placeOrder MatchingEngine.new orders
    large ∈ accepted past ∧
      taken (fillsOf past) large.id + (MatchingEngine.new.placeAll orders).resting large.id
        = 7 := by
  intro ask small large orders past
  have hmem : large ∈ accepted past := by decide
  exact ⟨hmem, (placeAll_conserves orders (by decide)).1 large hmem⟩

end Exchange

end SolanaLab
