import SolanaLab.Exchange.Matching

/-!
# Price-Time Priority

What the matching engine is for, and that it does it.

The purpose is stated by a reference exchange that has no price levels. It
stamps every order with the number of orders placed before it and keeps the
two sides as lists, best price first and earliest arrival first among equal
prices. An arriving order is served from the head of the opposite list:
`serve` trades with one maker after the other at the maker's price until the
taker is spent or the next maker's price is beyond its limit, and what is
left of the taker is inserted by price and time.

`Represents` relates an engine to a reference, and `placeOrder_spec` is the
simulation: on engines that represent a reference, placing an order answers
what the reference answers and leaves an engine that represents what the
reference has become. `matchLoop_spec` is its core. The loop is followed by
induction on the reference's queue, and the invariant carried along is that
the side listed by `orders` is valid and is what remains of that queue.

The second half is about the reference alone: its queues stay in order, no
bid reaches an ask, and fills are made in order of priority. An engine
reached by placing orders represents a reference with these properties.

A stamp is not a time. It counts the orders placed before, the rejected ones
included, so it orders arrivals as the calls did and no two orders share one.

## Main definitions

* `Crosses`: The taker's limit admits the maker's price.
* `tradeSize`: The quantity of the next fill, if there is one.
* `serve`: A taker against the queue of makers.
* `Reference`: The exchange without price levels.
* `Reference.place`: An order placed in it.
* `Represents`: The books list what the reference queues hold.
* `Reference.Sound`: What holds of every reference reached.

## Theorems

* `matchLoop_spec`: The matching loop serves the taker.
* `placeOrder_spec`: The engine simulates the reference.
* `Represents.unique`: A reference has one engine that represents it.
* `place_sound`: Placing an order keeps a reference sound.
* `placeAll_simulation`: Both over a whole history.
* `serve_priority`: Makers are filled in order of priority.
* `serve_overtakes`: A taker that trades is better than its own side.
* `placeOrder_priceTime`: The engine is a price-time matcher.
-/

namespace SolanaLab

namespace Exchange

open PriorityQueue

/-! ### The reference -/

/-- The taker's limit admits the maker's price. -/
def Crosses (taker maker : Order) : Prop :=
  (taker.side = .bid → maker.price ≤ taker.price) ∧
    (taker.side = .ask → taker.price ≤ maker.price)

instance (taker maker : Order) : Decidable (Crosses taker maker) :=
  inferInstanceAs (Decidable (_ ∧ _))

/-- The quantity of the next fill: what both orders have, if they cross. -/
def tradeSize (taker maker : Order) : Option Quantity :=
  if h : 0 < min maker.remaining taker.remaining ∧ Crosses taker maker then
    some ⟨⟨min maker.remaining taker.remaining,
      Nat.lt_of_le_of_lt (Nat.min_le_left _ _) maker.remaining_lt⟩, h.1⟩
  else none

/-- A taker against the queue of makers: the fills, what is left of the queue
    and what is left of the taker. A maker with quantity left stays at the head
    under the stamp it had, so a partial fill does not cost it its place. -/
def serve : List (Stamped Order) → Order → List Fill × List (Stamped Order) × Order
  | [], taker => ([], [], taker)
  | m :: rest, taker =>
    match tradeSize taker m.item with
    | none => ([], m :: rest, taker)
    | some q =>
      let fill := Fill.new m.item taker m.item.price q
      if q.get.val = m.item.remaining then
        let r := serve rest (taker.fill q)
        (fill :: r.1, r.2)
      else ([fill], { m with item := m.item.fill q } :: rest, taker.fill q)

/-- The exchange without price levels: how many orders were placed, and the
    resting orders of each side in order of priority. -/
structure Reference where
  clock : Nat
  queue : Side → List (Stamped Order)

namespace Reference

/-- A reference before any order. -/
def new : Reference := ⟨0, fun _ => []⟩

/-- What is left of an order, behind every earlier order at its price. -/
def join (s : Side) (clock : Nat) (left : Order) (queue : List (Stamped Order)) :
    List (Stamped Order) :=
  if left.remaining = 0 then queue else stampedInsert (Order.rankOn s) ⟨clock, left⟩ queue

/-- An order placed. -/
def place (r : Reference) (o : Order) : Except Error (List Fill) × Reference :=
  if o.isTerminal then (.error .orderAlreadyTerminal, { r with clock := r.clock + 1 })
  else
    let served := serve (r.queue o.side.opposite) o
    (.ok served.1,
      { clock := r.clock + 1
        queue := fun s =>
          if s = o.side then join s r.clock served.2.2 (r.queue s) else served.2.1 })

/-- The reference after a sequence of orders. -/
def placeAll (r : Reference) (orders : List Order) : Reference := Run.after place r orders

end Reference

/-- The books of the engine list what the queues of the reference hold. -/
def Represents (e : MatchingEngine) (r : Reference) : Prop :=
  ∀ s, (e.book s).Valid s ∧ (e.book s).orders = (r.queue s).map Stamped.item

/-- A reference has at most one engine that represents it. -/
theorem Represents.unique {e e' : MatchingEngine} {r : Reference} (h : Represents e r)
    (h' : Represents e' r) : e = e' := by
  have hbook : ∀ s, e.book s = e'.book s := fun s =>
    OrderBookSide.orders_injective (h s).1 (h' s).1 ((h s).2.trans (h' s).2.symm)
  have hbids : e.bids = e'.bids := hbook .bid
  have hasks : e.asks = e'.asks := hbook .ask
  cases e
  cases e'
  rw [MatchingEngine.mk.injEq]
  exact ⟨hbids, hasks⟩

/-! ### Serving a taker -/

/-- Crossing is having no worse a limit than the maker's price, in the ranks of
    the maker's side. -/
theorem crosses_iff_rankOn {taker maker : Order} :
    Crosses taker maker
      ↔ maker.rankOn taker.side.opposite ≤ taker.rankOn taker.side.opposite := by
  unfold Crosses
  cases taker.side with
  | bid =>
      simp only [Side.opposite, Order.rankOn_ask_le, forall_const, reduceCtorEq, false_implies,
        and_true]
  | ask =>
      simp only [Side.opposite, Order.rankOn_bid_le, forall_const, reduceCtorEq, false_implies,
        true_and]

/-- Two orders trade what both of them have, when they cross. -/
theorem tradeSize_eq_some {taker maker : Order} {q : Quantity} :
    tradeSize taker maker = some q
      ↔ q.get.val = min maker.remaining taker.remaining ∧ Crosses taker maker := by
  unfold tradeSize
  by_cases h : 0 < min maker.remaining taker.remaining ∧ Crosses taker maker
  · rw [dif_pos h, Option.some.injEq, NonZero.ext_iff, Fin.ext_iff]
    constructor
    · intro heq
      exact ⟨heq.symm, h.2⟩
    · rintro ⟨heq, -⟩
      exact heq.symm
  · rw [dif_neg h]
    simp only [reduceCtorEq, false_iff]
    rintro ⟨heq, hc⟩
    have hq := q.pos
    exact h ⟨by omega, hc⟩

/-- They trade nothing when one of them has nothing or they do not cross. -/
theorem tradeSize_eq_none {taker maker : Order} :
    tradeSize taker maker = none
      ↔ ¬ (0 < min maker.remaining taker.remaining ∧ Crosses taker maker) := by
  unfold tradeSize
  by_cases h : 0 < min maker.remaining taker.remaining ∧ Crosses taker maker
  · rw [dif_pos h]
    simp only [reduceCtorEq, false_iff, not_not]
    exact h
  · rw [dif_neg h]
    simp only [true_iff]
    exact h

/-- A head that does not trade ends the service. -/
theorem serve_stop {m : Stamped Order} {rest : List (Stamped Order)} {taker : Order}
    (h : tradeSize taker m.item = none) : serve (m :: rest) taker = ([], m :: rest, taker) := by
  rw [serve, h]

/-- A head that is filled completely leaves the queue, and the service goes on
    with what the taker has left. -/
theorem serve_exhaust {m : Stamped Order} {rest : List (Stamped Order)} {taker : Order}
    {q : Quantity} (h : tradeSize taker m.item = some q) (hq : q.get.val = m.item.remaining) :
    serve (m :: rest) taker
      = (Fill.new m.item taker m.item.price q :: (serve rest (taker.fill q)).1,
          (serve rest (taker.fill q)).2) := by
  rw [serve, h]
  exact if_pos hq

/-- A head that is filled in part stays where it is, and the taker is spent. -/
theorem serve_partly {m : Stamped Order} {rest : List (Stamped Order)} {taker : Order}
    {q : Quantity} (h : tradeSize taker m.item = some q) (hq : q.get.val ≠ m.item.remaining) :
    serve (m :: rest) taker
      = ([Fill.new m.item taker m.item.price q],
          { m with item := m.item.fill q } :: rest, taker.fill q) := by
  rw [serve, h]
  exact if_neg hq

/-- The three ways to serve the head of a queue. Every induction over `serve`
    below goes through them. -/
theorem serve_induction {P : List (Stamped Order) → Order → Prop}
    (nil : ∀ taker, P [] taker)
    (stop : ∀ m rest taker, tradeSize taker m.item = none → P (m :: rest) taker)
    (exhaust : ∀ m rest taker q, tradeSize taker m.item = some q →
      q.get.val = m.item.remaining → P rest (taker.fill q) → P (m :: rest) taker)
    (partly : ∀ m rest taker q, tradeSize taker m.item = some q →
      q.get.val ≠ m.item.remaining → P (m :: rest) taker)
    (queue : List (Stamped Order)) (taker : Order) : P queue taker := by
  induction queue generalizing taker with
  | nil => exact nil taker
  | cons m rest ih =>
      cases ht : tradeSize taker m.item with
      | none => exact stop m rest taker ht
      | some q =>
          by_cases hq : q.get.val = m.item.remaining
          · exact exhaust m rest taker q ht hq (ih (taker.fill q))
          · exact partly m rest taker q ht hq

/-- What every fill keeps true of an order, serving keeps true of the taker. -/
theorem serve_taker {P : Order → Prop} (hfill : ∀ o q, P o → P (o.fill q))
    (queue : List (Stamped Order)) (taker : Order) (h : P taker) :
    P (serve queue taker).2.2 := by
  induction queue, taker using serve_induction with
  | nil taker => exact h
  | stop m rest taker ht =>
      rw [serve_stop ht]
      exact h
  | exhaust m rest taker q ht hq ih =>
      rw [serve_exhaust ht hq]
      exact ih (hfill taker q h)
  | partly m rest taker q ht hq =>
      rw [serve_partly ht hq]
      exact hfill taker q h

/-- What a fill leaves alone in an order, serving leaves alone in the taker. -/
theorem serve_taker_field {β : Type} (field : Order → β)
    (hfill : ∀ o q, field (o.fill q) = field o) (queue : List (Stamped Order)) (taker : Order) :
    field (serve queue taker).2.2 = field taker :=
  serve_taker (P := fun o => field o = field taker)
    (fun o q h => (hfill o q).trans h) queue taker rfl

/-- What is left of a taker that came in live is live unless it is nothing. -/
theorem serve_taker_isTerminal (queue : List (Stamped Order)) {taker : Order}
    (h : ¬ taker.isTerminal) :
    (serve queue taker).2.2.isTerminal = true ↔ (serve queue taker).2.2.remaining = 0 := by
  refine serve_taker (P := fun o => o.isTerminal = true ↔ o.remaining = 0) ?_ queue taker ?_
  · intro o q _
    rw [o.fill_isTerminal, Order.fill_remaining]
    omega
  · have hpos := taker.remaining_pos h
    constructor
    · intro hterm
      exact absurd hterm h
    · omega

/-- What is left of the queue is a tail of it, the head perhaps filled in
    part. -/
theorem serve_queue (queue : List (Stamped Order)) (taker : Order) :
    (serve queue taker).2.1 <:+ queue ∨
      ∃ m rest q, m :: rest <:+ queue ∧ q.get.val < m.item.remaining ∧
        (serve queue taker).2.1 = { m with item := m.item.fill q } :: rest := by
  induction queue, taker using serve_induction with
  | nil taker => exact Or.inl (List.suffix_refl [])
  | stop m rest taker ht =>
      rw [serve_stop ht]
      exact Or.inl (List.suffix_refl _)
  | exhaust m rest taker q ht hq ih =>
      rw [serve_exhaust ht hq]
      rcases ih with ih | ⟨m', rest', q', hsuff, hlt, heq⟩
      · exact Or.inl (ih.trans (List.suffix_cons m rest))
      · exact Or.inr ⟨m', rest', q', hsuff.trans (List.suffix_cons m rest), hlt, heq⟩
  -- The one maker that keeps a remainder ends the round.
  | partly m rest taker q ht hq =>
      rw [serve_partly ht hq]
      have hmin := (tradeSize_eq_some.mp ht).1
      exact Or.inr ⟨m, rest, q, List.suffix_refl _, by omega, rfl⟩

/-- An order left in the queue was there before with the same terms. -/
theorem serve_queue_mem {queue : List (Stamped Order)} {taker : Order} {m : Stamped Order}
    (h : m ∈ (serve queue taker).2.1) :
    ∃ m' ∈ queue, m.arrival = m'.arrival ∧
      (m.item = m'.item ∨ ∃ q, q.get.val < m'.item.remaining ∧ m.item = m'.item.fill q) := by
  rcases serve_queue queue taker with hsuff | ⟨m', rest, q, hsuff, hlt, heq⟩
  · exact ⟨m, hsuff.subset h, rfl, Or.inl rfl⟩
  · rw [heq] at h
    rcases List.mem_cons.mp h with rfl | h
    · exact ⟨m', hsuff.subset List.mem_cons_self, rfl, Or.inr ⟨q, hlt, rfl⟩⟩
    · exact ⟨m, hsuff.subset (List.mem_cons_of_mem m' h), rfl, Or.inl rfl⟩

/-! ### The engine simulates the reference -/

/-- A turn on a valid side trades with the head of its listing and leaves the
    head there if anything is left of it. -/
theorem turn_spec {m : Matching} {maker : Order} {rest : List Order} {q : Quantity} {s : Side}
    (hvalid : m.makers.Valid s) (horders : m.makers.orders = maker :: rest)
    (hlive : ¬ m.taker.isTerminal)
    (hq : q.get.val = min maker.remaining m.taker.remaining) :
    ∃ makers, turn m = .ok ⟨makers, m.taker.fill q,
        m.fills ++ [Fill.new maker m.taker maker.price q]⟩ ∧ makers.Valid s ∧
      makers.orders = if q.get.val = maker.remaining then rest else maker.fill q :: rest := by
  rcases OrderBookSide.popBestOrder_spec hvalid horders with ⟨popped, hpop, hvalid', horders'⟩
  have hmaker := hvalid.of_mem (o := maker) (by rw [horders]; exact List.mem_cons_self)
  -- None of the checked steps of a turn can fail: the size is at most what either has
  -- left.
  have hsize : minRemainingQuantity m.taker maker = .ok q :=
    minRemainingQuantity_eq_ok.mpr (by omega)
  have hfillMaker := maker.applyFill_eq_ok q hmaker.2.1 (by omega)
  have hfillTaker := m.taker.applyFill_eq_ok q hlive (by omega)
  simp only [turn, hpop, hsize, hfillMaker, hfillTaker]
  by_cases hspent : q.get.val = maker.remaining
  · rw [if_pos ((maker.fill_isTerminal q).mpr (by omega)), if_pos hspent]
    exact ⟨popped, rfl, hvalid', horders'⟩
  · -- The maker had the better of the trade: it goes back to the head.
    have hleft : ¬ (maker.fill q).isTerminal := by
      rw [maker.fill_isTerminal]
      omega
    have hbest : ∀ x ∈ popped.orders, (maker.fill q).rankOn s ≤ x.rankOn s := by
      intro x hx
      have hin := OrderBookSide.orders_inOrder hvalid
      rw [horders] at hin
      rw [horders'] at hx
      exact List.rel_of_pairwise_cons hin hx
    rcases OrderBookSide.reinsertFront_spec hvalid' (o := maker.fill q) hmaker.1 hleft hbest with
      ⟨back, hback, hvalid'', horders''⟩
    rw [if_neg hleft, if_neg hspent, hback]
    exact ⟨back, rfl, hvalid'', by rw [horders'', horders']⟩

/-- What `crosses_bid` and `crosses_ask` test, each for takers of its side. An
    empty side never crosses, which ends the loop there. -/
structure Tests (side : Side) (crosses : Order → Option Order → Bool) : Prop where
  none : ∀ taker, crosses taker none = false
  some : ∀ taker maker, taker.side = side →
    (crosses taker (some maker) = true ↔ Crosses taker maker)

/-- A bid crosses an ask that asks for no more than its limit. -/
theorem tests_bid : Tests .bid crossesBid where
  none _ := rfl
  some taker maker hside := by
    simp only [crossesBid, Option.any_some, decide_eq_true_eq, Crosses, hside, forall_const,
      reduceCtorEq, false_implies, and_true, ge_iff_le]

/-- An ask crosses a bid that offers no less than its limit. -/
theorem tests_ask : Tests .ask crossesAsk where
  none _ := rfl
  some taker maker hside := by
    simp only [crossesAsk, Option.any_some, decide_eq_true_eq, Crosses, hside, forall_const,
      reduceCtorEq, false_implies, true_and]

/-- The loop goes on exactly when there is a trade to make with the head. -/
theorem continues_iff {side s : Side} {crosses : Order → Option Order → Bool}
    (htests : Tests side crosses) {m : Matching} (hvalid : m.makers.Valid s)
    (hside : m.taker.side = side) :
    m.continues crosses = true
      ↔ ∃ maker q, m.makers.orders.head? = some maker ∧ tradeSize m.taker maker = some q := by
  rw [Matching.continues, OrderBookSide.bestOrder_eq_head hvalid]
  cases horders : m.makers.orders with
  | nil =>
      simp only [List.head?_nil, htests.none, Bool.and_false, Bool.false_eq_true, reduceCtorEq,
        false_and, exists_false]
  | cons maker rest =>
      -- A resting order has something left, so the sizes and prices alone decide.
      have hpos := maker.remaining_pos
        (hvalid.of_mem (by rw [horders]; exact List.mem_cons_self)).2.1
      rw [List.head?_cons, Bool.and_eq_true, decide_eq_true_eq, htests.some m.taker maker hside]
      constructor
      · rintro ⟨hleft, hc⟩
        cases ht : tradeSize m.taker maker with
        | none => exact absurd ⟨by omega, hc⟩ (tradeSize_eq_none.mp ht)
        | some q => exact ⟨maker, q, rfl, ht⟩
      · rintro ⟨maker', q, heq, ht⟩
        rw [Option.some.injEq] at heq
        rcases tradeSize_eq_some.mp ht with ⟨hsize, hc⟩
        have hq := q.pos
        exact ⟨by omega, by rw [heq]; exact hc⟩

/-- One turn of fuel is enough to see that the loop is over. -/
theorem matchLoop_stop {crosses : Order → Option Order → Bool} {m : Matching}
    (h : ¬ m.continues crosses) (fuel : Nat) : matchLoop crosses (fuel + 1) m = some (.ok m) := by
  rw [matchLoop, if_neg h]

/-- A turn that succeeds is followed by the rest of the loop. -/
theorem matchLoop_turn {crosses : Order → Option Order → Bool} {m m' : Matching}
    (h : m.continues crosses) (hturn : turn m = .ok m') (fuel : Nat) :
    matchLoop crosses (fuel + 1) m = matchLoop crosses fuel m' := by
  rw [matchLoop, if_pos h, hturn]

/-- The matching loop serves the taker: from a valid side that lists the queue
    it ends with the fills of `serve`, what it leaves of the taker, and a valid
    side that lists what it leaves of the queue. By induction on the service. In
    each of its cases the loop stops, or makes one turn and is at the next case. -/
theorem matchLoop_spec {side s : Side} {crosses : Order → Option Order → Bool}
    (htests : Tests side crosses) (queue : List (Stamped Order)) (taker : Order)
    (hside : taker.side = side) (hlive : taker.remaining ≠ 0 → ¬ taker.isTerminal)
    (makers : OrderBookSide) (fills : List Fill) (fuel : Nat) (hvalid : makers.Valid s)
    (horders : makers.orders = queue.map Stamped.item) (hfuel : queue.length < fuel) :
    ∃ makers', matchLoop crosses (fuel + 1) ⟨makers, taker, fills⟩
        = some (.ok ⟨makers', (serve queue taker).2.2, fills ++ (serve queue taker).1⟩) ∧
      makers'.Valid s ∧ makers'.orders = (serve queue taker).2.1.map Stamped.item := by
  induction queue, taker using serve_induction generalizing makers fills fuel with
  | nil taker =>
      refine ⟨makers, ?_, hvalid, horders⟩
      rw [matchLoop_stop (fun hc => ?_), serve, List.append_nil]
      rcases (continues_iff htests hvalid hside).mp hc with ⟨maker, q, hhead, -⟩
      rw [horders] at hhead
      exact absurd hhead (by simp only [List.map_nil, List.head?_nil, reduceCtorEq,
        not_false_eq_true])
  | stop m rest taker ht =>
      rw [serve_stop ht]
      refine ⟨makers, ?_, hvalid, horders⟩
      rw [matchLoop_stop (fun hc => ?_), List.append_nil]
      rcases (continues_iff htests hvalid hside).mp hc with ⟨maker, q, hhead, hq⟩
      rw [horders, List.map_cons, List.head?_cons, Option.some.injEq] at hhead
      rw [← hhead, ht] at hq
      exact absurd hq (by simp only [reduceCtorEq, not_false_eq_true])
  | exhaust m rest taker q ht hq ih =>
      rcases tradeSize_eq_some.mp ht with ⟨hsize, -⟩
      have hpos := q.pos
      rw [List.map_cons] at horders
      rw [List.length_cons] at hfuel
      -- The head trades, so the loop goes on, and the turn takes the head off.
      have hgo : Matching.continues crosses ⟨makers, taker, fills⟩ = true :=
        (continues_iff htests hvalid hside).mpr
          ⟨m.item, q, by rw [horders, List.head?_cons], ht⟩
      rcases turn_spec (m := ⟨makers, taker, fills⟩) hvalid horders (hlive (by omega)) hsize with
        ⟨makers', hturn, hvalid', horders'⟩
      rw [if_pos hq] at horders'
      rcases fuel with _ | fuel
      · omega
      have hlive' : (taker.fill q).remaining ≠ 0 → ¬ (taker.fill q).isTerminal := by
        rw [taker.fill_isTerminal, Order.fill_remaining]
        omega
      rcases ih hside hlive' makers' (fills ++ [Fill.new m.item taker m.item.price q]) fuel
        hvalid' horders' (by omega) with ⟨makers'', hloop, hvalid'', horders''⟩
      rw [serve_exhaust ht hq]
      refine ⟨makers'', ?_, hvalid'', horders''⟩
      rw [matchLoop_turn hgo hturn, hloop, List.append_assoc, List.singleton_append]
  | partly m rest taker q ht hq =>
      rcases tradeSize_eq_some.mp ht with ⟨hsize, -⟩
      have hpos := q.pos
      rw [List.map_cons] at horders
      have hgo : Matching.continues crosses ⟨makers, taker, fills⟩ = true :=
        (continues_iff htests hvalid hside).mpr
          ⟨m.item, q, by rw [horders, List.head?_cons], ht⟩
      rcases turn_spec (m := ⟨makers, taker, fills⟩) hvalid horders (hlive (by omega)) hsize with
        ⟨makers', hturn, hvalid', horders'⟩
      rw [if_neg hq] at horders'
      rcases fuel with _ | fuel
      · omega
      -- The maker has quantity left, so it took all the taker had.
      have hspent : (taker.fill q).remaining = 0 := by
        rw [Order.fill_remaining]
        omega
      rw [serve_partly ht hq]
      refine ⟨makers', ?_, hvalid', horders'⟩
      rw [matchLoop_turn hgo hturn, matchLoop_spent crosses fuel _ hspent]

/-- The crossing test used for takers of a side. -/
def Side.crosses : Side → Order → Option Order → Bool
  | .bid => crossesBid
  | .ask => crossesAsk

/-- The crossing test used for takers of a side tests that. -/
theorem Side.tests (s : Side) : Tests s s.crosses := by
  cases s with
  | bid => exact tests_bid
  | ask => exact tests_ask

/-- Placing a live order is the loop on its two books, whichever they are. -/
theorem placeOrderWithin_book (e : MatchingEngine) {o : Order} (hlive : ¬ o.isTerminal)
    {fuel : Nat} {answer : Except Error (List Fill)} {makers resting : OrderBookSide}
    (h : matchTaker o.side.crosses fuel (e.book o.side.opposite) (e.book o.side) o
      = some (answer, makers, resting)) :
    ∃ e', MatchingEngine.placeOrderWithin fuel e o = some (answer, e') ∧
      e'.book o.side = resting ∧ e'.book o.side.opposite = makers := by
  rw [MatchingEngine.placeOrderWithin, if_neg hlive]
  cases hs : o.side with
  | bid =>
      rw [hs] at h
      change matchTaker crossesBid fuel e.asks e.bids o = _ at h
      refine ⟨{ bids := resting, asks := makers }, ?_, rfl, rfl⟩
      simp only [MatchingEngine.matchBid, h, Option.map_some]
  | ask =>
      rw [hs] at h
      change matchTaker crossesAsk fuel e.bids e.asks o = _ at h
      refine ⟨{ bids := makers, asks := resting }, ?_, rfl, rfl⟩
      simp only [MatchingEngine.matchAsk, h, Option.map_some]

/-- Resting what is left of an order joins the queue of its side. -/
theorem insert_join {s : Side} {b : OrderBookSide} {queue : List (Stamped Order)} {clock : Nat}
    {left : Order} (hvalid : b.Valid s) (horders : b.orders = queue.map Stamped.item)
    (hpast : ∀ m ∈ queue, m.arrival < clock) (hside : left.side = s)
    (hlive : ¬ left.isTerminal) (hleft : left.remaining ≠ 0) :
    ∃ b', b.insert left = (.ok (), b') ∧ b'.Valid s ∧
      b'.orders = (Reference.join s clock left queue).map Stamped.item := by
  rcases OrderBookSide.insert_spec hvalid hside hlive with ⟨b', hins, hvalid', horders'⟩
  refine ⟨b', hins, hvalid', ?_⟩
  rw [horders', horders, Reference.join, if_neg hleft]
  exact (item_stampedInsert (Order.rankOn s) (x := ⟨clock, left⟩) hpast).symm

/-- A live taker against a valid book is served and what is left of it joins
    its own side. -/
theorem matchTaker_spec {o : Order} (hlive : ¬ o.isTerminal) {makers resting : OrderBookSide}
    {queue own : List (Stamped Order)} (clock fuel : Nat)
    (hmakers : makers.Valid o.side.opposite) (hqueue : makers.orders = queue.map Stamped.item)
    (hresting : resting.Valid o.side) (hown : resting.orders = own.map Stamped.item)
    (hpast : ∀ m ∈ own, m.arrival < clock) (hfuel : queue.length < fuel) :
    ∃ makers' resting', matchTaker o.side.crosses (fuel + 1) makers resting o
        = some (.ok (serve queue o).1, makers', resting') ∧
      makers'.Valid o.side.opposite ∧
      makers'.orders = (serve queue o).2.1.map Stamped.item ∧ resting'.Valid o.side ∧
      resting'.orders
        = (Reference.join o.side clock (serve queue o).2.2 own).map Stamped.item := by
  rcases matchLoop_spec o.side.tests queue o rfl (fun _ => hlive) makers [] fuel hmakers hqueue
    hfuel with ⟨makers', hloop, hmakers', hqueue'⟩
  rw [List.nil_append] at hloop
  -- The taker rests exactly when the loop leaves something of it.
  have hterm := serve_taker_isTerminal queue hlive
  simp only [matchTaker, hloop]
  by_cases hspent : (serve queue o).2.2.remaining = 0
  · rw [if_pos (hterm.mpr hspent), Reference.join, if_pos hspent]
    exact ⟨makers', resting, rfl, hmakers', hqueue', hresting, hown⟩
  · have hleft : ¬ (serve queue o).2.2.isTerminal := fun h => hspent (hterm.mp h)
    have hside := serve_taker_field Order.side Order.fill_side queue o
    rcases insert_join hresting hown hpast hside hleft hspent with
      ⟨resting', hins, hresting', hown'⟩
    rw [if_neg hleft, hins]
    exact ⟨makers', resting', rfl, hmakers', hqueue', hresting', hown'⟩

/-- A terminal order is turned away before either book is touched. -/
theorem placeOrder_terminal (e : MatchingEngine) {o : Order} (h : o.isTerminal) :
    e.placeOrder o = (.error .orderAlreadyTerminal, e) := by
  have hwithin := e.placeOrderWithin_eq o (Nat.le_refl e.turns)
  rw [MatchingEngine.placeOrderWithin, if_pos h, Option.some.injEq] at hwithin
  exact hwithin.symm

/-- And so it is by the reference, which counts it nevertheless. -/
theorem place_terminal (r : Reference) {o : Order} (h : o.isTerminal) :
    r.place o = (.error .orderAlreadyTerminal, { r with clock := r.clock + 1 }) := by
  rw [Reference.place, if_pos h]

/-- There are two sides. -/
theorem Side.eq_opposite_of_ne {s t : Side} (h : s ≠ t) : s = t.opposite := by
  cases s <;> cases t <;> first | rfl | exact absurd rfl h

/-- And each is the opposite of its opposite. -/
theorem Side.opposite_opposite (s : Side) : s.opposite.opposite = s := by
  cases s <;> rfl

/-- No side is its own opposite. -/
theorem Side.opposite_ne (s : Side) : s.opposite ≠ s := by
  cases s <;> simp only [Side.opposite, ne_eq, reduceCtorEq, not_false_eq_true]

/-- A live order is answered the fills of its service. -/
theorem place_answer (r : Reference) {o : Order} (h : ¬ o.isTerminal) :
    (r.place o).1 = .ok (serve (r.queue o.side.opposite) o).1 := by
  rw [Reference.place, if_neg h]

/-- Every order moves the clock on by one. -/
theorem place_clock (r : Reference) (o : Order) : (r.place o).2.clock = r.clock + 1 := by
  unfold Reference.place
  by_cases h : o.isTerminal
  · rw [if_pos h]
  · rw [if_neg h]

/-- What is left of an order joins the queue of its own side. -/
theorem place_own (r : Reference) {o : Order} (h : ¬ o.isTerminal) :
    (r.place o).2.queue o.side
      = Reference.join o.side r.clock (serve (r.queue o.side.opposite) o).2.2
          (r.queue o.side) := by
  rw [Reference.place, if_neg h]
  exact if_pos rfl

/-- The other queue is what the service has left of it. -/
theorem place_opposite (r : Reference) {o : Order} (h : ¬ o.isTerminal) :
    (r.place o).2.queue o.side.opposite = (serve (r.queue o.side.opposite) o).2.1 := by
  rw [Reference.place, if_neg h]
  exact if_neg o.side.opposite_ne

/-- The engine simulates the reference. The two books are those the reference
    has as queues, and what the order does to the one and to the other is
    `matchTaker_spec`. -/
theorem placeOrder_spec {e : MatchingEngine} {r : Reference} (h : Represents e r)
    (hpast : ∀ s, ∀ m ∈ r.queue s, m.arrival < r.clock) (o : Order) :
    (e.placeOrder o).1 = (r.place o).1 ∧ Represents (e.placeOrder o).2 (r.place o).2 := by
  by_cases hlive : o.isTerminal
  · rw [placeOrder_terminal e hlive, place_terminal r hlive]
    exact ⟨rfl, h⟩
  · have hopp := h o.side.opposite
    have hown := h o.side
    rcases matchTaker_spec hlive r.clock (e.turns + (r.queue o.side.opposite).length + 1)
      hopp.1 hopp.2 hown.1 hown.2 (hpast o.side) (by omega) with
      ⟨makers, resting, hmatch, hmakers, hqueue, hresting, hown'⟩
    rcases placeOrderWithin_book e hlive hmatch with ⟨e', hwithin, hbook, hbook'⟩
    rw [e.placeOrderWithin_eq o (by omega), Option.some.injEq] at hwithin
    rw [hwithin, place_answer r hlive]
    refine ⟨rfl, fun s => ?_⟩
    -- The taker joins its own side; the other side is what the loop left.
    by_cases hs : s = o.side
    · rw [hs, place_own r hlive, hbook]
      exact ⟨hresting, hown'⟩
    · rw [Side.eq_opposite_of_ne hs, place_opposite r hlive, hbook']
      exact ⟨hmakers, hqueue⟩

/-! ### What holds of the reference -/

/-- Every queue is in order of priority, every stamp is in the past, every order
    is live and rests on its own side, and no two orders cross. The last one is
    what makes a taker stop at the right maker. -/
structure Reference.Sound (r : Reference) : Prop where
  ordered : ∀ s, (r.queue s).Pairwise (Ahead (Order.rankOn s))
  past : ∀ s, ∀ m ∈ r.queue s, m.arrival < r.clock
  resting : ∀ s, ∀ m ∈ r.queue s, m.item.side = s ∧ ¬ m.item.isTerminal
  uncrossed : ∀ s, ∀ x ∈ r.queue s, ∀ y ∈ r.queue s.opposite, ¬ Crosses x.item y.item

/-- Nothing rests, so there is nothing to be wrong. -/
theorem Reference.new_sound : Reference.new.Sound where
  ordered _ := List.Pairwise.nil
  past _ _ h := absurd h List.not_mem_nil
  resting _ _ h := absurd h List.not_mem_nil
  uncrossed _ _ h := absurd h List.not_mem_nil

/-- An engine without orders represents a reference without orders. -/
theorem new_represents : Represents MatchingEngine.new Reference.new := by
  intro s
  cases s with
  | bid => exact ⟨OrderBookSide.new_valid .bid, OrderBookSide.new_orders .bid⟩
  | ask => exact ⟨OrderBookSide.new_valid .ask, OrderBookSide.new_orders .ask⟩

/-- Serving keeps the order of priority: a maker filled in part keeps both
    its price and its stamp. -/
theorem ordered_serve {s : Side} {queue : List (Stamped Order)} (taker : Order)
    (h : queue.Pairwise (Ahead (Order.rankOn s))) :
    (serve queue taker).2.1.Pairwise (Ahead (Order.rankOn s)) := by
  rcases serve_queue queue taker with hsuff | ⟨m, rest, q, hsuff, -, heq⟩
  · exact h.sublist hsuff.sublist
  · have hm := h.sublist hsuff.sublist
    rw [heq]
    exact List.Pairwise.cons (fun x hx => List.rel_of_pairwise_cons hm hx) hm.of_cons

/-- The taker stops when it is spent or when no maker left is within its limit.
    The first maker that is not within it decides, since those behind are no
    better. -/
theorem serve_done {queue : List (Stamped Order)} {taker : Order}
    (hordered : queue.Pairwise (Ahead (Order.rankOn taker.side.opposite)))
    (hlive : ∀ m ∈ queue, ¬ m.item.isTerminal) (hleft : (serve queue taker).2.2.remaining ≠ 0) :
    ∀ m ∈ (serve queue taker).2.1, ¬ Crosses taker m.item := by
  induction queue, taker using serve_induction with
  | nil taker => exact fun m hm => absurd hm List.not_mem_nil
  | stop m rest taker ht =>
      rw [serve_stop ht] at hleft ⊢
      have hpos := m.item.remaining_pos (hlive m List.mem_cons_self)
      have hhead : ¬ Crosses taker m.item := fun hc =>
        tradeSize_eq_none.mp ht ⟨by simp only at hleft; omega, hc⟩
      intro x hx hc
      rcases List.mem_cons.mp hx with rfl | hx
      · exact hhead hc
      · -- The rest of the queue is no better than the head.
        rw [crosses_iff_rankOn] at hhead hc
        rcases List.rel_of_pairwise_cons hordered hx with hlt | ⟨heq, -⟩ <;> omega
  -- The head is spent, and the rest of the queue is as well ordered as the whole.
  | exhaust m rest taker q ht hq ih =>
      rw [serve_exhaust ht hq] at hleft ⊢
      exact ih hordered.of_cons (fun x hx => hlive x (List.mem_cons_of_mem m hx)) hleft
  | partly m rest taker q ht hq =>
      rw [serve_partly ht hq] at hleft
      have hsize := (tradeSize_eq_some.mp ht).1
      rw [Order.fill_remaining] at hleft
      omega

/-- Who is in the queue after an order has joined it. -/
theorem mem_join {s : Side} {clock : Nat} {left : Order} {queue : List (Stamped Order)}
    {m : Stamped Order} (h : m ∈ Reference.join s clock left queue) :
    (m = ⟨clock, left⟩ ∧ left.remaining ≠ 0) ∨ m ∈ queue := by
  unfold Reference.join at h
  by_cases hspent : left.remaining = 0
  · rw [if_pos hspent] at h
    exact Or.inr h
  · rw [if_neg hspent] at h
    rcases (mem_stampedInsert _).mp h with rfl | h
    · exact Or.inl ⟨rfl, hspent⟩
    · exact Or.inr h

/-- Whether two orders cross is seen from either side alike. -/
theorem crosses_comm {a b : Order} (h : b.side = a.side.opposite) :
    Crosses a b ↔ Crosses b a := by
  unfold Crosses
  cases hs : a.side with
  | bid =>
      rw [hs] at h
      simp only [h, Side.opposite, forall_const, reduceCtorEq, false_implies, and_true, true_and]
  | ask =>
      rw [hs] at h
      simp only [h, Side.opposite, forall_const, reduceCtorEq, false_implies, and_true, true_and]

/-- A bid and an ask that do not cross leave a spread. -/
theorem spread_of_not_crosses {bid ask : Order} (hside : bid.side = .bid)
    (h : ¬ Crosses bid ask) : bid.price < ask.price := by
  refine not_le.mp (fun hle => h ?_)
  unfold Crosses
  exact ⟨fun _ => hle, fun hask => absurd (hside.symm.trans hask) (by
    simp only [reduceCtorEq, not_false_eq_true])⟩

/-- What is left of a taker crosses whom the taker crossed, having the same
    limit. -/
theorem crosses_serve_taker (queue : List (Stamped Order)) {taker maker : Order} :
    Crosses (serve queue taker).2.2 maker ↔ Crosses taker maker := by
  unfold Crosses
  rw [serve_taker_field Order.side Order.fill_side, serve_taker_field Order.price Order.fill_price]

/-- Placing an order keeps a reference sound. Its own queue is joined by what is
    left of the order, and the other one loses its head and perhaps part of the
    next. That the two still do not cross is `serve_done` for what joined, and
    what held before for the rest. -/
theorem place_sound {r : Reference} (h : r.Sound) (o : Order) : (r.place o).2.Sound := by
  by_cases hlive : o.isTerminal
  · rw [place_terminal r hlive]
    exact ⟨h.ordered, fun s m hm => Nat.lt_succ_of_lt (h.past s m hm), h.resting, h.uncrossed⟩
  have hown := place_own r hlive
  have hopp := place_opposite r hlive
  have hfield := serve_taker_field Order.side Order.fill_side (r.queue o.side.opposite) o
  have hterm := serve_taker_isTerminal (r.queue o.side.opposite) hlive
  -- A statement about both queues is one about the own and one about the opposite queue.
  have hsides : ∀ {P : Side → List (Stamped Order) → Prop},
      P o.side ((r.place o).2.queue o.side) →
      P o.side.opposite ((r.place o).2.queue o.side.opposite) →
      ∀ s, P s ((r.place o).2.queue s) := by
    intro P h1 h2 s
    by_cases hs : s = o.side
    · rw [hs]
      exact h1
    · rw [Side.eq_opposite_of_ne hs]
      exact h2
  -- What joined was served until nothing crossed it; what was there did not cross before.
  have hcross : ∀ x ∈ (r.place o).2.queue o.side, ∀ y ∈ (r.place o).2.queue o.side.opposite,
      ¬ Crosses x.item y.item := by
    intro x hx y hy
    rw [hown] at hx
    rw [hopp] at hy
    rcases mem_join hx with ⟨rfl, hleft⟩ | hx
    · rw [crosses_serve_taker]
      exact serve_done (h.ordered _) (fun m hm => (h.resting _ m hm).2) hleft y hy
    · rcases serve_queue_mem hy with ⟨y', hy', -, heq | ⟨q, -, heq⟩⟩
      · rw [heq]
        exact h.uncrossed o.side x hx y' hy'
      · rw [heq]
        exact h.uncrossed o.side x hx y' hy'
  -- A maker filled in part has something left, so it is still live.
  have hrest : ∀ s, ∀ m ∈ (r.place o).2.queue s, m.item.side = s ∧ ¬ m.item.isTerminal := by
    refine hsides (P := fun s queue => ∀ m ∈ queue, m.item.side = s ∧ ¬ m.item.isTerminal) ?_ ?_
    · intro m hm
      rw [hown] at hm
      rcases mem_join hm with ⟨rfl, hleft⟩ | hm
      · exact ⟨hfield, fun ht => hleft (hterm.mp ht)⟩
      · exact h.resting o.side m hm
    · intro m hm
      rw [hopp] at hm
      rcases serve_queue_mem hm with ⟨m', hm', -, heq | ⟨q, hq, heq⟩⟩
      · rw [heq]
        exact h.resting _ m' hm'
      · rw [heq, Order.fill_isTerminal]
        exact ⟨(h.resting _ m' hm').1, by omega⟩
  refine ⟨?_, ?_, hrest, ?_⟩
  · refine hsides (P := fun s queue => queue.Pairwise (Ahead (Order.rankOn s))) ?_ ?_
    · rw [hown, Reference.join]
      by_cases hspent : (serve (r.queue o.side.opposite) o).2.2.remaining = 0
      · rw [if_pos hspent]
        exact h.ordered o.side
      · rw [if_neg hspent]
        exact ahead_stampedInsert _ (h.ordered o.side)
    · rw [hopp]
      exact ordered_serve o (h.ordered _)
  · rw [place_clock]
    refine hsides (P := fun _ queue => ∀ m ∈ queue, m.arrival < r.clock + 1) ?_ ?_
    · intro m hm
      rw [hown] at hm
      rcases mem_join hm with ⟨rfl, -⟩ | hm
      · exact Nat.lt_succ_self r.clock
      · exact Nat.lt_succ_of_lt (h.past _ m hm)
    · intro m hm
      rw [hopp] at hm
      rcases serve_queue_mem hm with ⟨m', hm', heq, -⟩
      rw [heq]
      exact Nat.lt_succ_of_lt (h.past _ m' hm')
  · intro s x hx y hy
    by_cases hs : s = o.side
    · rw [hs] at hx hy
      exact hcross x hx y hy
    · -- Seen from the other side.
      have hside := (hrest s x hx).1
      have hside' := (hrest _ y hy).1
      rw [crosses_comm (by rw [hside, hside'])]
      have hso := Side.eq_opposite_of_ne hs
      rw [hso] at hx hy
      rw [Side.opposite_opposite] at hy
      exact hcross y hy x hx

/-- An engine reached by placing orders has answered as the reference does and
    represents the reference reached by the same orders, which is sound. -/
theorem placeAll_simulation (history : List Order) :
    Run.log MatchingEngine.placeOrder MatchingEngine.new history
        = Run.log Reference.place Reference.new history ∧
      Represents (MatchingEngine.new.placeAll history) (Reference.new.placeAll history) ∧
      (Reference.new.placeAll history).Sound := by
  refine Run.simulation MatchingEngine.placeOrder (R := fun e r => Represents e r ∧ r.Sound)
    ⟨new_represents, Reference.new_sound⟩ ?_ history
  intro e r o ⟨hrep, hsound⟩
  rcases placeOrder_spec hrep hsound.past o with ⟨hanswer, hrep'⟩
  exact ⟨hanswer, hrep', place_sound hsound o⟩

/-- The simulation and the soundness after any history. -/
theorem placeAll_spec (history : List Order) :
    Represents (MatchingEngine.new.placeAll history) (Reference.new.placeAll history) ∧
      (Reference.new.placeAll history).Sound :=
  (placeAll_simulation history).2

/-! ### Priority -/

/-- The fills name the makers in the order of the queue, each within the
    taker's limit and at its own price. Before the next maker is reached the
    one ahead of it has been filled completely. -/
theorem serve_priority (queue : List (Stamped Order)) (taker : Order) (k : Nat) (f : Fill)
    (h : (serve queue taker).1[k]? = some f) :
    ∃ m, queue[k]? = some m ∧ f = Fill.new m.item taker m.item.price f.quantity ∧
      Crosses taker m.item ∧ ∀ j < k, ∃ g x, (serve queue taker).1[j]? = some g ∧
        queue[j]? = some x ∧ g.quantity.get.val = x.item.remaining := by
  induction queue, taker using serve_induction generalizing k with
  | nil taker => exact absurd h (by simp only [serve, List.getElem?_nil, reduceCtorEq,
      not_false_eq_true])
  | stop m rest taker ht =>
      rw [serve_stop ht] at h
      exact absurd h (by simp only [List.getElem?_nil, reduceCtorEq, not_false_eq_true])
  | exhaust m rest taker q ht hq ih =>
      rw [serve_exhaust ht hq] at h ⊢
      cases k with
      | zero =>
          rw [List.getElem?_cons_zero, Option.some.injEq] at h
          rw [← h]
          exact ⟨m, rfl, rfl, (tradeSize_eq_some.mp ht).2,
            fun j hj => absurd hj (Nat.not_lt_zero j)⟩
      | succ k =>
          rw [List.getElem?_cons_succ] at h
          rcases ih k h with ⟨m', hm', hf, hc, hbefore⟩
          refine ⟨m', hm', hf, hc, fun j hj => ?_⟩
          -- The makers before this one are the exhausted head and those before it in the rest.
          cases j with
          | zero => exact ⟨_, m, rfl, rfl, hq⟩
          | succ j => exact hbefore j (by omega)
  | partly m rest taker q ht hq =>
      rw [serve_partly ht hq] at h ⊢
      cases k with
      | zero =>
          rw [List.getElem?_cons_zero, Option.some.injEq] at h
          rw [← h]
          exact ⟨m, rfl, rfl, (tradeSize_eq_some.mp ht).2,
            fun j hj => absurd hj (Nat.not_lt_zero j)⟩
      -- A maker served in part ends the fills.
      | succ k => exact absurd h (by simp only [List.getElem?_cons_succ, List.getElem?_nil,
          reduceCtorEq, not_false_eq_true])

/-- A taker that trades is better priced than every order resting on its own
    side: one no worse would have crossed the maker before. -/
theorem serve_overtakes {r : Reference} (h : r.Sound) {o : Order} {f : Fill}
    (hf : f ∈ (serve (r.queue o.side.opposite) o).1) :
    ∀ x ∈ r.queue o.side, o.rankOn o.side < x.item.rankOn o.side := by
  intro x hx
  rcases List.getElem?_of_mem hf with ⟨k, hk⟩
  rcases serve_priority _ o k f hk with ⟨m, hm, -, hc, -⟩
  have hno := h.uncrossed o.side x hx m (List.mem_of_getElem? hm)
  have hside := (h.resting o.side x hx).1
  -- The taker crosses this maker, and nothing that rests beside it does.
  rw [crosses_iff_rankOn] at hc hno
  rw [hside] at hno
  cases hs : o.side with
  | bid =>
      simp only [hs, Side.opposite, Order.rankOn, Side.rank] at hc hno ⊢
      omega
  | ask =>
      simp only [hs, Side.opposite, Order.rankOn, Side.rank] at hc hno ⊢
      omega

/-- No maker is passed over: an order no worse than the one being filled that
    arrived earlier has been filled completely by an earlier fill. It is ahead
    in the queue, and what is ahead in the queue is filled first. -/
theorem serve_fifo {s : Side} {queue : List (Stamped Order)} {taker : Order} {k : Nat} {f : Fill}
    {m x : Stamped Order} (hordered : queue.Pairwise (Ahead (Order.rankOn s)))
    (hf : (serve queue taker).1[k]? = some f) (hm : queue[k]? = some m) (hx : x ∈ queue)
    (harrival : x.arrival < m.arrival) (hrank : x.item.rankOn s ≤ m.item.rankOn s) :
    ∃ j < k, ∃ g, queue[j]? = some x ∧ (serve queue taker).1[j]? = some g ∧
      g.quantity.get.val = x.item.remaining := by
  rcases List.getElem?_of_mem hx with ⟨j, hj⟩
  have hjk : j < k := by
    rcases Nat.lt_trichotomy j k with hlt | rfl | hgt
    · exact hlt
    · rw [hj, Option.some.injEq] at hm
      rw [hm] at harrival
      exact absurd harrival (Nat.lt_irrefl _)
    · -- Behind the maker in the queue nothing is both earlier and no worse.
      rcases List.getElem?_eq_some_iff.mp hm with ⟨hk', hmk⟩
      rcases List.getElem?_eq_some_iff.mp hj with ⟨hj', hxj⟩
      have hahead := List.pairwise_iff_getElem.mp hordered k j hk' hj' hgt
      rw [hmk, hxj] at hahead
      rcases hahead with hlt | ⟨-, hle⟩ <;> omega
  -- Everything ahead of the maker in the queue was traded with before it, and in full.
  rcases serve_priority queue taker k f hf with ⟨-, -, -, -, hbefore⟩
  rcases hbefore j hjk with ⟨g, x', hg, hx', hq⟩
  rw [hj, Option.some.injEq] at hx'
  exact ⟨j, hjk, g, hj, hg, by rw [hx', hq]⟩

/-- The reference has one error only, for an order that came in terminal. -/
theorem place_error {r : Reference} {o : Order} {err : Error} (h : (r.place o).1 = .error err) :
    err = .orderAlreadyTerminal ∧ o.isTerminal := by
  by_cases hlive : o.isTerminal
  · rw [place_terminal r hlive, Except.error.injEq] at h
    exact ⟨h.symm, hlive⟩
  · rw [place_answer r hlive] at h
    exact absurd h (by simp only [reduceCtorEq, not_false_eq_true])

/-- The engine is a price-time matcher. After any history, placing a live
    order terminates and succeeds with the fills of the reference, and the
    books it leaves are the ones that represent the reference afterwards. No
    order is filled while an earlier one of its side at an equal or better
    price rests, makers by the order of their fills and the taker because its
    own side holds nothing as good. A terminal order is turned away, and that
    is the only error there is. -/
theorem placeOrder_priceTime (history : List Order) (o : Order) (hlive : ¬ o.isTerminal) :
    let e := MatchingEngine.new.placeAll history
    let r := Reference.new.placeAll history
    let queue : List (Stamped Order) := r.queue o.side.opposite
    let fills : List Fill := (serve queue o).1
    (∀ fuel, e.turns ≤ fuel →
      MatchingEngine.placeOrderWithin fuel e o = some (e.placeOrder o)) ∧
    (e.placeOrder o).1 = .ok fills ∧
    (∀ e', Represents e' (r.place o).2 ↔ e' = (e.placeOrder o).2) ∧
    (∀ s, (r.queue s).Pairwise (Ahead (Order.rankOn s))) ∧
    (∀ (k : Nat) (f : Fill), fills[k]? = some f → ∃ m, queue[k]? = some m ∧
      f = Fill.new m.item o m.item.price f.quantity ∧
      (∀ x ∈ queue, x.arrival < m.arrival →
        x.item.rankOn o.side.opposite ≤ m.item.rankOn o.side.opposite →
        ∃ j < k, ∃ g, queue[j]? = some x ∧ fills[j]? = some g ∧
          g.quantity.get.val = x.item.remaining) ∧
      ∀ x ∈ r.queue o.side, o.rankOn o.side < x.item.rankOn o.side) ∧
    ∀ o' err, (e.placeOrder o').1 = .error err →
      err = .orderAlreadyTerminal ∧ o'.isTerminal := by
  intro e r queue fills
  rcases placeAll_spec history with ⟨hrep, hsound⟩
  have hspec := placeOrder_spec hrep hsound.past o
  refine ⟨fun fuel hfuel => e.placeOrderWithin_eq o hfuel, ?_, fun e' => ?_, hsound.ordered, ?_,
    ?_⟩
  · rw [hspec.1]
    exact place_answer r hlive
  · -- The engine after the order represents one reference book only.
    constructor
    · intro h
      exact h.unique hspec.2
    · rintro rfl
      exact hspec.2
  -- Priority among the makers is the order of the queue, and for the taker that of its
  -- own side.
  · intro k f hf
    rcases serve_priority queue o k f hf with ⟨m, hm, heq, -, -⟩
    exact ⟨m, hm, heq,
      fun x hx harrival hrank => serve_fifo (hsound.ordered _) hf hm hx harrival hrank,
      serve_overtakes hsound (List.mem_of_getElem? hf)⟩
  · intro o' err herr
    rw [(placeOrder_spec hrep hsound.past o').1] at herr
    exact place_error herr

/-- Two asks at one price and a bid for more than both. -/
theorem placeOrder_priceTime_sweep :
    let first := Order.sample ⟨1, by decide⟩ .ask ⟨10, by decide⟩ ⟨2, by decide⟩
    let second := Order.sample ⟨2, by decide⟩ .ask ⟨10, by decide⟩ ⟨3, by decide⟩
    let taker := Order.sample ⟨3, by decide⟩ .bid ⟨11, by decide⟩ ⟨7, by decide⟩
    ((MatchingEngine.new.placeAll [first, second]).placeOrder taker).1
      = .ok [Fill.new first taker ⟨10, by decide⟩ ⟨2, by decide⟩,
          Fill.new second taker ⟨10, by decide⟩ ⟨3, by decide⟩] := by
  intro first second taker
  have h := placeOrder_priceTime [first, second] taker (by decide)
  exact h.2.1

/-! ### The books -/

/-- The books of every engine reached: the best bid is below the best ask,
    every order rests live at its own price with a status that says how much
    of it is left, no level is empty, and the answers of a side about itself
    agree with what it holds. -/
theorem placeAll_books (history : List Order) :
    let e := MatchingEngine.new.placeAll history
    (e.bids.isEmpty = false → e.asks.isEmpty = false → ∃ bid ask,
      e.bids.bestPrice = some bid ∧ e.asks.bestPrice = some ask ∧ bid < ask) ∧
    (∀ s p queue, (e.book s).levels.get? p = some queue → queue ≠ [] ∧ ∀ o ∈ queue,
      o.side = s ∧ o.price = p ∧ ¬ o.isTerminal ∧ 0 < o.remaining ∧
        o.remaining ≤ o.original ∧ (o.status = .open ↔ o.remaining = o.original)) ∧
    ∀ s, (e.book s).side = s ∧
      ((e.book s).isEmpty = true ↔ ∀ p, (e.book s).level p = []) ∧
      (e.book s).bestOrder = (e.book s).popBestOrder.1 := by
  intro e
  rcases placeAll_spec history with ⟨hrep, hsound⟩
  have hvalid := fun s => (hrep s).1
  refine ⟨fun hbids hasks => ?_, fun s p queue hg => ?_, fun s => ?_⟩
  · -- The best prices belong to resting orders of the two sides, and no such pair crosses.
    rcases OrderBookSide.bestPrice_of_not_isEmpty (hvalid .bid) hbids with ⟨b, hb, hbp⟩
    rcases OrderBookSide.bestPrice_of_not_isEmpty (hvalid .ask) hasks with ⟨a, ha, hap⟩
    refine ⟨b.price, a.price, hbp, hap, ?_⟩
    have hside := ((hvalid .bid).of_mem hb).1
    rw [(hrep .bid).2] at hb
    rw [(hrep .ask).2] at ha
    rcases List.mem_map.mp hb with ⟨x, hx, rfl⟩
    rcases List.mem_map.mp ha with ⟨y, hy, rfl⟩
    exact spread_of_not_crosses hside (hsound.uncrossed .bid x hx y hy)
  -- The other parts are what a valid side says of its levels.
  · refine ⟨(hvalid s).level_ne p queue hg, fun o ho => ?_⟩
    rcases (hvalid s).resting p queue hg o ho with ⟨hside, hprice, hlive⟩
    exact ⟨hside, hprice, hlive, o.remaining_pos hlive, o.remaining_le,
      o.status_open_iff hlive⟩
  · refine ⟨(hvalid s).side_eq, ?_, ((e.book s).popBestOrder_fst).symm⟩
    rw [OrderBookSide.isEmpty_iff (hvalid s), OrderBookSide.orders_eq_nil_iff]

end Exchange

end SolanaLab
