import SolanaLab.Exchange.OrderBook
import SolanaLab.Library.Run

/-!
# The Matching Engine

`MatchingEngine::place_order` runs a taker against the opposite side of the
book and rests what is left of it. `match_bid` and `match_ask` are one loop
with the sides exchanged: `matchTaker` is that loop, parameterized by the
crossing test and the two sides, and the two source functions are its
instances.

The loop is a `while` with six ways to leave it early. `turn` is one pass
through its body; on an early return it hands back the opposite side as the
body had left it, because the source mutates the side in place and `?` does
not undo that. `matchLoop` repeats `turn` under a fuel argument, so that it
evaluates, and answers `none` when the fuel runs out.

`matchLoop_isSome` shows that it never does with the fuel `place_order` is
given here, on any engine at all: a turn that goes on either takes an order
off the side for good or puts it back with the taker spent. `placeOrder` is
therefore a total function, and `placeOrderWithin_eq` says that more fuel
changes nothing.

## Main definitions

* `MatchingEngine`: The two sides.
* `Matching`: The variables of the matching loop.
* `turn`: One pass through the loop body.
* `matchLoop`: The loop, with fuel.
* `matchBid`: A bid against the asks.
* `matchAsk`: An ask against the bids.
* `MatchingEngine.placeOrder`: An order placed in the book.
* `MatchingEngine.placeAll`: A sequence of orders placed one by one.

## Theorems

* `matchLoop_spent`: With the taker spent the loop stops at once.
* `matchLoop_mono`: More fuel gives the same result.
* `matchLoop_isSome`: Fuel for every resting order is enough.
* `placeOrderWithin_eq`: Placing an order terminates, on every engine.
-/

namespace SolanaLab

namespace Exchange

/-- The two sides of the book. -/
structure MatchingEngine where
  bids : OrderBookSide
  asks : OrderBookSide
deriving DecidableEq

/-- `crosses_bid`. -/
def crossesBid (taker : Order) (bestAsk : Option Order) : Bool :=
  bestAsk.any (fun ask => decide (taker.price ≥ ask.price))

/-- `crosses_ask`. -/
def crossesAsk (taker : Order) (bestBid : Option Order) : Bool :=
  bestBid.any (fun bid => decide (taker.price ≤ bid.price))

/-- `min_remaining_quantity`. -/
def minRemainingQuantity (lhs rhs : Order) : Except Error Quantity :=
  NonZero.new (min lhs.remainingQuantity rhs.remainingQuantity)

/-- The variables of the matching loop: the opposite side, the taker and the
    fills so far. The resting side is not among them, since the loop does not
    touch it. -/
structure Matching where
  makers : OrderBookSide
  taker : Order
  fills : List Fill

/-- The condition of the loop. -/
def Matching.continues (crosses : Order → Option Order → Bool) (m : Matching) : Bool :=
  decide (m.taker.remaining ≠ 0) && crosses m.taker m.makers.bestOrder

/-- One pass through the loop body. An early return keeps the opposite side as
    the body has left it: a popped maker is not put back. On success the maker
    has either been dropped, being filled, or been put back at the front. -/
def turn (m : Matching) : Except (Error × OrderBookSide) Matching :=
  match m.makers.popBestOrder with
  | (none, makers) => .error (.noMatchingOrder, makers)
  | (some maker, makers) =>
    match minRemainingQuantity m.taker maker with
    | .error e => .error (e, makers)
    | .ok fillQuantity =>
      match maker.applyFill fillQuantity, m.taker.applyFill fillQuantity with
      | .error e, _ => .error (e, makers)
      | .ok _, .error e => .error (e, makers)
      | .ok maker', .ok taker' =>
        let fills := m.fills ++ [Fill.new maker m.taker maker.price fillQuantity]
        -- A maker with something left goes back to the front of its level.
        if maker'.isTerminal then .ok ⟨makers, taker', fills⟩
        else
          match makers.reinsertFront maker' with
          | (.error e, makers) => .error (e, makers)
          | (.ok (), makers) => .ok ⟨makers, taker', fills⟩

/-- The loop, or nothing when the fuel runs out. -/
def matchLoop (crosses : Order → Option Order → Bool) :
    Nat → Matching → Option (Except (Error × OrderBookSide) Matching)
  | 0, _ => none
  | fuel + 1, m =>
    if m.continues crosses then
      match turn m with
      | .error e => some (.error e)
      | .ok m' => matchLoop crosses fuel m'
    else some (.ok m)

/-- What `match_bid` and `match_ask` share: the loop against `makers`, then what
    is left of the taker rests on `resting`. An error of the loop leaves before
    the taker can rest. -/
def matchTaker (crosses : Order → Option Order → Bool) (fuel : Nat)
    (makers resting : OrderBookSide) (taker : Order) :
    Option (Except Error (List Fill) × OrderBookSide × OrderBookSide) :=
  match matchLoop crosses fuel ⟨makers, taker, []⟩ with
  | none => none
  | some (.error (e, makers)) => some (.error e, makers, resting)
  | some (.ok m) =>
    if m.taker.isTerminal then some (.ok m.fills, m.makers, resting)
    else
      match resting.insert m.taker with
      | (.error e, resting) => some (.error e, m.makers, resting)
      | (.ok (), resting) => some (.ok m.fills, m.makers, resting)

namespace MatchingEngine

/-- `MatchingEngine::new`. -/
def new : MatchingEngine := ⟨OrderBookSide.new .bid, OrderBookSide.new .ask⟩

/-- One side of the book. -/
def book (e : MatchingEngine) : Side → OrderBookSide
  | .bid => e.bids
  | .ask => e.asks

/-- `MatchingEngine::match_bid`. -/
def matchBid (fuel : Nat) (e : MatchingEngine) (taker : Order) :
    Option (Except Error (List Fill) × MatchingEngine) :=
  (matchTaker crossesBid fuel e.asks e.bids taker).map
    (fun r => (r.1, { bids := r.2.2, asks := r.2.1 }))

/-- `MatchingEngine::match_ask`. -/
def matchAsk (fuel : Nat) (e : MatchingEngine) (taker : Order) :
    Option (Except Error (List Fill) × MatchingEngine) :=
  (matchTaker crossesAsk fuel e.bids e.asks taker).map
    (fun r => (r.1, { bids := r.2.1, asks := r.2.2 }))

/-- `MatchingEngine::place_order`, or nothing when the fuel runs out. -/
def placeOrderWithin (fuel : Nat) (e : MatchingEngine) (order : Order) :
    Option (Except Error (List Fill) × MatchingEngine) :=
  if order.isTerminal then some (.error .orderAlreadyTerminal, e)
  else
    match order.side with
    | .bid => matchBid fuel e order
    | .ask => matchAsk fuel e order

/-- Enough turns for any order: one for each resting order and two more. -/
def turns (e : MatchingEngine) : Nat := e.bids.orderCount + e.asks.orderCount + 2

end MatchingEngine

/-! ### Termination -/

/-- With the taker spent the loop stops at once. -/
theorem matchLoop_spent (crosses : Order → Option Order → Bool) (fuel : Nat) (m : Matching)
    (h : m.taker.remaining = 0) : matchLoop crosses (fuel + 1) m = some (.ok m) := by
  have hstop : m.continues crosses = false := by
    rw [Matching.continues, decide_eq_false (not_not_intro h), Bool.false_and]
  rw [matchLoop, hstop]
  rfl

/-- More fuel gives the same result. Needed because the result is stated with a
    fuel that depends on the engine, and proofs about the loop count other
    turns. -/
theorem matchLoop_mono (crosses : Order → Option Order → Bool) {fuel fuel' : Nat}
    (hle : fuel ≤ fuel') {m : Matching} {r : Except (Error × OrderBookSide) Matching}
    (h : matchLoop crosses fuel m = some r) : matchLoop crosses fuel' m = some r := by
  induction fuel generalizing fuel' m with
  | zero => exact absurd h (by simp only [matchLoop, reduceCtorEq, not_false_eq_true])
  -- One unit of fuel for each turn, so what is left over stays ordered.
  | succ fuel ih =>
      rcases fuel' with _ | fuel'
      · omega
      · rw [matchLoop] at h ⊢
        by_cases hc : m.continues crosses
        · rw [if_pos hc] at h ⊢
          cases ht : turn m with
          | error e =>
              rw [ht] at h
              exact h
          | ok m' =>
              rw [ht] at h
              exact ih (by omega) h
        · rw [if_neg hc] at h ⊢
          exact h

/-- The quantity of a fill is the smaller of what the two have left. It is never
    zero in the source, and `NonZero` excludes it here. -/
theorem minRemainingQuantity_eq_ok {lhs rhs : Order} {q : Quantity} :
    minRemainingQuantity lhs rhs = .ok q ↔ q.get.val = min lhs.remaining rhs.remaining := by
  have hmin : (min lhs.remainingQuantity rhs.remainingQuantity).val
      = min lhs.remaining rhs.remaining := by
    rw [Order.remaining, Order.remaining]
    rcases le_total lhs.remainingQuantity rhs.remainingQuantity with hle | hle
    · rw [min_eq_left hle, Nat.min_eq_left hle]
    · rw [min_eq_right hle, Nat.min_eq_right hle]
  rw [minRemainingQuantity, NonZero.new_eq_ok, ← hmin]
  exact Fin.ext_iff

/-- When a fill is applied, and what comes of it. -/
theorem applyFill_eq_ok_iff {o o' : Order} {q : Quantity} :
    o.applyFill q = .ok o' ↔ ¬ o.isTerminal ∧ q.get.val ≤ o.remaining ∧ o' = o.fill q := by
  unfold Order.applyFill
  by_cases hlive : o.isTerminal
  · rw [if_pos hlive]
    simp only [reduceCtorEq, hlive, not_true_eq_false, false_and]
  · rw [if_neg hlive]
    -- The source checks that the order is live, then the quantity.
    by_cases hq : q.get.val > o.remaining
    · rw [if_pos hq]
      simp only [reduceCtorEq, false_iff]
      rintro ⟨-, hle, -⟩
      omega
    · rw [if_neg hq, Except.ok.injEq]
      constructor
      · rintro rfl
        exact ⟨hlive, by omega, rfl⟩
      · rintro ⟨-, -, rfl⟩
        rfl

/-- What a turn that goes on has done: the best maker is off the side for good,
    or it is back and the taker is spent. This is the measure of the loop, since
    the taker can be spent only once. -/
theorem turn_progress {m m' : Matching} {o : Order} (hbest : m.makers.bestOrder = some o)
    (h : turn m = .ok m') :
    m'.makers.orderCount + 1 = m.makers.orderCount ∨ m'.taker.remaining = 0 := by
  rcases OrderBookSide.popBestOrder_count hbest with ⟨makers, hpop, hcount⟩
  simp only [turn, hpop] at h
  -- The four places the body can return early are gone through in their order.
  cases hq : minRemainingQuantity m.taker o with
  | error e => simp only [hq, reduceCtorEq] at h
  | ok q =>
      cases hm : o.applyFill q with
      | error e => simp only [hq, hm, reduceCtorEq] at h
      | ok maker' =>
          cases ht : m.taker.applyFill q with
          | error e => simp only [hq, hm, ht, reduceCtorEq] at h
          | ok taker' =>
              simp only [hq, hm, ht] at h
              by_cases hterm : maker'.isTerminal
              -- A maker that was filled is not put back.
              · rw [if_pos hterm, Except.ok.injEq] at h
                rw [← h]
                exact Or.inl hcount
              · -- A maker with something left took all the taker had.
                rw [if_neg hterm] at h
                right
                have hmin := minRemainingQuantity_eq_ok.mp hq
                have htaker : m'.taker = taker' := by
                  rcases hr : makers.reinsertFront maker' with ⟨_ | _, b⟩
                  · simp only [hr, reduceCtorEq] at h
                  · simp only [hr, Except.ok.injEq] at h
                    rw [← h]
                rcases applyFill_eq_ok_iff.mp hm with ⟨-, -, rfl⟩
                rcases applyFill_eq_ok_iff.mp ht with ⟨-, -, rfl⟩
                rw [Order.fill_isTerminal] at hterm
                rw [htaker, Order.fill_remaining]
                omega

/-- The loop ends within one turn for each order on the side and two more. By
    induction on the fuel, with the number of orders on the side below it. One
    more turn is for finding the taker spent, and one for finding the side
    empty. -/
theorem matchLoop_isSome (crosses : Order → Option Order → Bool)
    (hnone : ∀ taker, crosses taker none = false) (fuel : Nat) (m : Matching)
    (h : m.makers.orderCount + 1 < fuel) : (matchLoop crosses fuel m).isSome := by
  induction fuel generalizing m with
  | zero => omega
  | succ fuel ih =>
      rw [matchLoop]
      by_cases hc : m.continues crosses
      · rw [if_pos hc]
        cases hbest : m.makers.bestOrder with
        | none =>
            rw [Matching.continues, hbest, hnone, Bool.and_false] at hc
            exact absurd hc Bool.false_ne_true
        | some o =>
            cases ht : turn m with
            | error e => rfl
            | ok m' =>
                simp only
                -- A turn that goes on removes a maker or spends the taker, which ends the loop.
                rcases turn_progress hbest ht with hcount | hspent
                · exact ih m' (by omega)
                · rcases fuel with _ | fuel
                  · omega
                  · rw [matchLoop_spent crosses fuel m' hspent]
                    rfl
      · rw [if_neg hc]
        rfl

/-- With enough fuel for the loop there is a result, whether the taker rests or
    not. -/
theorem matchTaker_isSome (crosses : Order → Option Order → Bool)
    (hnone : ∀ taker, crosses taker none = false) {fuel : Nat} {makers resting : OrderBookSide}
    {taker : Order} (h : makers.orderCount + 1 < fuel) :
    (matchTaker crosses fuel makers resting taker).isSome := by
  rcases Option.isSome_iff_exists.mp
    (matchLoop_isSome crosses hnone fuel ⟨makers, taker, []⟩ h) with ⟨r, hr⟩
  rw [matchTaker, hr]
  rcases r with ⟨e, b⟩ | m
  · rfl
  · simp only
    by_cases hterm : m.taker.isTerminal
    · rw [if_pos hterm]
      rfl
    · rw [if_neg hterm]
      rcases resting.insert m.taker with ⟨_ | _, b⟩ <;> rfl

/-- More fuel gives the same result for the whole of a side, as it does for the
    loop. -/
theorem matchTaker_mono (crosses : Order → Option Order → Bool) {fuel fuel' : Nat}
    (hle : fuel ≤ fuel') {makers resting : OrderBookSide} {taker : Order}
    {r : Except Error (List Fill) × OrderBookSide × OrderBookSide}
    (h : matchTaker crosses fuel makers resting taker = some r) :
    matchTaker crosses fuel' makers resting taker = some r := by
  unfold matchTaker at h ⊢
  cases hl : matchLoop crosses fuel ⟨makers, taker, []⟩ with
  | none =>
      rw [hl] at h
      exact absurd h (by simp only [reduceCtorEq, not_false_eq_true])
  | some x =>
      rw [matchLoop_mono crosses hle hl]
      rw [hl] at h
      exact h

namespace MatchingEngine

/-- With `turns` for fuel there is always a result. Each side is matched against
    the other, and `turns` counts both. -/
theorem placeOrderWithin_isSome (e : MatchingEngine) (order : Order) :
    (placeOrderWithin e.turns e order).isSome := by
  unfold placeOrderWithin
  by_cases hterm : order.isTerminal
  · rw [if_pos hterm]
    rfl
  · rw [if_neg hterm]
    cases order.side with
    | bid =>
        rw [matchBid, Option.isSome_map]
        exact matchTaker_isSome crossesBid (fun _ => rfl) (by unfold turns; omega)
    | ask =>
        rw [matchAsk, Option.isSome_map]
        exact matchTaker_isSome crossesAsk (fun _ => rfl) (by unfold turns; omega)

/-- `MatchingEngine::place_order`: the result and the engine afterwards. -/
def placeOrder (e : MatchingEngine) (order : Order) :
    Except Error (List Fill) × MatchingEngine :=
  (placeOrderWithin e.turns e order).get (placeOrderWithin_isSome e order)

/-- Placing an order terminates on every engine: any fuel from `turns` on
    gives its result. -/
theorem placeOrderWithin_eq (e : MatchingEngine) (order : Order) {fuel : Nat}
    (h : e.turns ≤ fuel) : placeOrderWithin fuel e order = some (e.placeOrder order) := by
  have hsome : placeOrderWithin e.turns e order = some (e.placeOrder order) :=
    (Option.some_get _).symm
  unfold placeOrderWithin at hsome ⊢
  by_cases hterm : order.isTerminal
  · rw [if_pos hterm] at hsome ⊢
    exact hsome
  · rw [if_neg hterm] at hsome ⊢
    -- The two matching functions differ in the side that they cross.
    cases hs : order.side with
    | bid =>
        rw [hs] at hsome
        rcases Option.map_eq_some_iff.mp hsome with ⟨r, hr, heq⟩
        simp only [matchBid, matchTaker_mono crossesBid h hr, Option.map_some, heq]
    | ask =>
        rw [hs] at hsome
        rcases Option.map_eq_some_iff.mp hsome with ⟨r, hr, heq⟩
        simp only [matchAsk, matchTaker_mono crossesAsk h hr, Option.map_some, heq]

/-- The engine after a sequence of orders, rejected ones included. -/
def placeAll (e : MatchingEngine) (orders : List Order) : MatchingEngine :=
  Run.after placeOrder e orders

end MatchingEngine

end Exchange

end SolanaLab
