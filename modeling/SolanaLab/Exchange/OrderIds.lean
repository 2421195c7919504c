import SolanaLab.Exchange.Backing

/-!
# Order Ids

When an order id stands for one order. The application turns a command away
whose id it has seen; the id of an order is not looked at.

An order placed under an id that rests is not always seen. It is spent before
it reaches the other order of its name, and nothing of it rests, when the
orders ahead of that one have enough. `ahead` adds these up: the orders of the
other side from the best on, as long as the taker crosses them and they have
another id. `serve_ahead` and `serve_behind` are the two cases, and together
they say exactly which orders leave every id with one order.

A command id and an order id are independent. A client that repeats a command
repeats both, and the command id protects it; two commands that use one order
id are both accepted.

## Main definitions

* `ahead`: What a taker can get before it reaches its own id.
* `MatchingEngine.restingIds`: The ids that rest.
* `ExchangeApplication.KeepsIds`: A step that leaves every id with one order.

## Theorems

* `serve_ahead`: A taker with enough ahead is spent on other orders.
* `serve_behind`: A taker with less ahead meets its own id or rests next to it.
* `place_ids`: Which orders leave every id with one order.
* `run_orderIds`: When order ids identify orders.
-/

namespace SolanaLab

namespace Exchange

open PriorityQueue
open ExchangeApplication (sampleMarket sampleDeposit)

/-- A resting order that a taker would trade with under another id. -/
def passes (taker maker : Order) : Bool :=
  taker.side.crosses taker (some maker) && decide (maker.id ≠ taker.id)

/-- What a taker can get from a list of resting orders before it reaches one
    that it does not cross or one with its own id. -/
def ahead (taker : Order) (orders : List Order) : Nat :=
  ((orders.takeWhile (passes taker)).map Order.remaining).sum

/-- The ids of the orders that rest. -/
def MatchingEngine.restingIds (e : MatchingEngine) : List OrderId :=
  (e.bids.orders ++ e.asks.orders).map Order.id

/-! ### One taker -/

/-- The taker crosses it, and it has another id. -/
theorem passes_iff {taker maker : Order} :
    passes taker maker = true ↔ Crosses taker maker ∧ maker.id ≠ taker.id := by
  rw [passes, Bool.and_eq_true, taker.side.tests.some taker maker rfl, decide_eq_true_eq]

/-- A fill of the taker changes neither its limit nor its id. -/
theorem passes_fill (taker : Order) (q : Quantity) : passes (taker.fill q) = passes taker := by
  funext maker
  rw [Bool.eq_iff_iff, passes_iff, passes_iff]
  exact Iff.rfl

/-- An order that is passed adds what it has. -/
theorem ahead_cons {taker maker : Order} {rest : List Order} (h : passes taker maker = true) :
    ahead taker (maker :: rest) = maker.remaining + ahead taker rest := by
  rw [ahead, List.takeWhile_cons_of_pos h]
  exact List.sum_cons

/-- The first that is not passed ends the sum. -/
theorem ahead_cons_of_not {taker maker : Order} {rest : List Order}
    (h : ¬ passes taker maker = true) : ahead taker (maker :: rest) = 0 := by
  rw [ahead, List.takeWhile_cons_of_neg h]
  rfl

/-- What is ahead of a taker does not depend on how much is left of it. -/
theorem ahead_fill (taker : Order) (q : Quantity) (orders : List Order) :
    ahead (taker.fill q) orders = ahead taker orders := by
  rw [ahead, passes_fill]
  rfl

/-- A taker with enough ahead of it is spent on orders with other ids. -/
theorem serve_ahead (queue : List (Stamped Order)) (taker : Order)
    (hlive : ∀ m ∈ queue, ¬ m.item.isTerminal)
    (h : taker.remaining ≤ ahead taker (queue.map Stamped.item)) :
    (∀ f ∈ (serve queue taker).1, f.makerOrderId ≠ taker.id) ∧
      (serve queue taker).2.2.remaining = 0 := by
  induction queue, taker using serve_induction with
  | nil taker => exact ⟨fun f hf => absurd hf List.not_mem_nil, Nat.le_zero.mp h⟩
  | stop m rest taker ht =>
      rw [serve_stop ht]
      refine ⟨fun f hf => absurd hf List.not_mem_nil, ?_⟩
      have hmaker := m.item.remaining_pos (hlive m List.mem_cons_self)
      -- The loop stops at an order that it does not cross, which has nothing ahead of it.
      by_contra hleft
      simp only at hleft
      rw [List.map_cons] at h
      by_cases hp : passes taker m.item = true
      · exact tradeSize_eq_none.mp ht ⟨by omega, (passes_iff.mp hp).1⟩
      · rw [ahead_cons_of_not hp] at h
        omega
  | exhaust m rest taker q ht hq ih =>
      rcases tradeSize_eq_some.mp ht with ⟨hsize, hc⟩
      have hpos := q.pos
      rw [List.map_cons] at h
      -- Something is ahead, so the head is not the end of it.
      have hp : passes taker m.item = true := by
        by_contra hn
        rw [ahead_cons_of_not hn] at h
        omega
      rw [ahead_cons hp] at h
      have hrest := fun x hx => hlive x (List.mem_cons_of_mem m hx)
      -- The head is spent, and what is left of the taker has the rest ahead of it.
      rcases ih hrest (by rw [ahead_fill, Order.fill_remaining]; omega) with ⟨hothers, hspent⟩
      rw [serve_exhaust ht hq]
      refine ⟨fun f hf => ?_, hspent⟩
      rcases List.mem_cons.mp hf with rfl | hf
      · exact (passes_iff.mp hp).2
      · exact hothers f hf
  | partly m rest taker q ht hq =>
      rcases tradeSize_eq_some.mp ht with ⟨hsize, hc⟩
      have hpos := q.pos
      rw [List.map_cons] at h
      have hp : passes taker m.item = true := by
        by_contra hn
        rw [ahead_cons_of_not hn] at h
        omega
      rw [serve_partly ht hq]
      refine ⟨fun f hf => ?_, ?_⟩
      · rw [List.mem_singleton.mp hf]
        exact (passes_iff.mp hp).2
      · rw [Order.fill_remaining]
        omega

/-- A taker with less ahead of it trades with an order that has its own id, or
    something is left of it, and of the orders with its id as well. -/
theorem serve_behind (queue : List (Stamped Order)) (taker : Order)
    (hlive : ∀ m ∈ queue, ¬ m.item.isTerminal)
    (h : ahead taker (queue.map Stamped.item) < taker.remaining) :
    (∃ f ∈ (serve queue taker).1, f.makerOrderId = taker.id) ∨
      ((serve queue taker).2.2.remaining ≠ 0 ∧ ∀ m ∈ queue, m.item.id = taker.id →
        m ∈ (serve queue taker).2.1) := by
  induction queue, taker using serve_induction with
  | nil taker =>
      refine Or.inr ⟨?_, fun m hm => absurd hm List.not_mem_nil⟩
      change taker.remaining ≠ 0
      omega
  -- Service stops with quantity left, and nothing has been taken out of the queue.
  | stop m rest taker ht =>
      rw [serve_stop ht]
      refine Or.inr ⟨?_, fun x hx _ => hx⟩
      simp only
      omega
  | exhaust m rest taker q ht hq ih =>
      rcases tradeSize_eq_some.mp ht with ⟨hsize, hc⟩
      rw [serve_exhaust ht hq]
      by_cases hid : m.item.id = taker.id
      · exact Or.inl ⟨_, List.mem_cons_self, hid⟩
      · rw [List.map_cons, ahead_cons (passes_iff.mpr ⟨hc, hid⟩)] at h
        have hrest := fun x hx => hlive x (List.mem_cons_of_mem m hx)
        -- The head has another id and is spent, so it is the rest that falls short.
        rcases ih hrest (by rw [ahead_fill, Order.fill_remaining]; omega) with
          ⟨f, hf, heq⟩ | ⟨hleft, hkept⟩
        · exact Or.inl ⟨f, List.mem_cons_of_mem _ hf, heq⟩
        · refine Or.inr ⟨hleft, fun x hx hxid => ?_⟩
          rcases List.mem_cons.mp hx with rfl | hx
          · exact absurd hxid hid
          · exact hkept x hx hxid
  | partly m rest taker q ht hq =>
      rcases tradeSize_eq_some.mp ht with ⟨hsize, hc⟩
      rw [serve_partly ht hq]
      by_cases hid : m.item.id = taker.id
      · exact Or.inl ⟨_, List.mem_cons_self, hid⟩
      · -- A maker with quantity left had the whole taker, and was ahead of it.
        rw [List.map_cons, ahead_cons (passes_iff.mpr ⟨hc, hid⟩)] at h
        omega

/-! ### Both queues -/

/-- The ids that rest in a reference. -/
def Reference.ids (r : Reference) : List OrderId :=
  (r.queue .bid).map (fun m => m.item.id) ++ (r.queue .ask).map (fun m => m.item.id)

/-- The ids that rest in the books are those of the queues. -/
theorem restingIds_eq {e : MatchingEngine} {r : Reference} (h : Represents e r) :
    e.restingIds = r.ids := by
  have hbids : e.bids.orders = (r.queue .bid).map Stamped.item := (h .bid).2
  have hasks : e.asks.orders = (r.queue .ask).map Stamped.item := (h .ask).2
  rw [MatchingEngine.restingIds, hbids, hasks, List.map_append, List.map_map, List.map_map]
  rfl

/-- The ids, with the queues named from either side. -/
theorem Reference.ids_perm (r : Reference) (s : Side) :
    r.ids.Perm ((r.queue s).map (fun m => m.item.id)
      ++ (r.queue s.opposite).map (fun m => m.item.id)) := by
  cases s with
  | bid => exact List.Perm.refl _
  | ask => exact List.perm_append_comm

/-- An order that rests adds its id. -/
theorem join_ids (s : Side) (clock : Nat) {left : Order} (queue : List (Stamped Order))
    (h : left.remaining ≠ 0) :
    ((Reference.join s clock left queue).map (fun m => m.item.id)).Perm
      (left.id :: queue.map (fun m => m.item.id)) := by
  rw [Reference.join, if_neg h]
  exact (stampedInsert_perm _ queue).map (fun m : Stamped Order => m.item.id)

/-- In a reference whose ids differ, placing an order leaves them different and
    fills it against orders with other ids only, exactly when its id does not
    rest or it has enough ahead. If the id rests and too little is ahead, either
    the taker reaches the other order of its name, or it rests beside it. -/
theorem place_ids {r : Reference} (hsound : r.Sound) (hdistinct : r.ids.Nodup) {o : Order}
    (hlive : ¬ o.isTerminal) :
    ((r.place o).2.ids.Nodup ∧
        ∀ f ∈ (serve (r.queue o.side.opposite) o).1, f.makerOrderId ≠ o.id)
      ↔ (o.id ∈ r.ids → o.remaining ≤ ahead o ((r.queue o.side.opposite).map Stamped.item)) := by
  have hresting := fun m hm => (hsound.resting o.side.opposite m hm).2
  -- What is left of the order has its id, and fills only take ids away.
  have hid := serve_taker_field Order.id Order.fill_id (r.queue o.side.opposite) o
  have hopp := (serve_ids (r.queue o.side.opposite) o).sublist
  have hperm := r.ids_perm o.side
  have hperm' := (r.place o).2.ids_perm o.side
  rw [place_own r hlive, place_opposite r hlive] at hperm'
  rw [hperm.nodup_iff] at hdistinct
  constructor
  · rintro ⟨hnodup, hothers⟩ hrests
    by_contra hshort
    rcases serve_behind _ o hresting (not_le.mp hshort) with ⟨f, hf, heq⟩ | ⟨hleft, hkept⟩
    · exact hothers f hf heq
    · -- What is left of the order rests next to the one that had its id.
      rw [hperm'.nodup_iff, List.nodup_append] at hnodup
      have hjoin := join_ids o.side r.clock (r.queue o.side) hleft
      rw [hid] at hjoin
      have hmine := hjoin.mem_iff.mpr (List.mem_cons_self)
      rcases List.mem_append.mp (hperm.mem_iff.mp hrests) with hown | hother
      · exact (List.nodup_cons.mp (hjoin.nodup_iff.mp hnodup.1)).1 hown
      · rcases List.mem_map.mp hother with ⟨m, hm, hmid⟩
        exact hnodup.2.2 _ hmine _ (List.mem_map.mpr ⟨m, hkept m hm hmid, hmid⟩) rfl
  -- The other way round, either the id rests and service ends before it, or no order has
  -- it.
  · intro h
    by_cases hrests : o.id ∈ r.ids
    · rcases serve_ahead _ o hresting (h hrests) with ⟨hothers, hspent⟩
      refine ⟨?_, hothers⟩
      rw [hperm'.nodup_iff, Reference.join, if_pos hspent]
      exact hdistinct.sublist (List.Sublist.append (List.Sublist.refl _) hopp)
    · -- No resting order has the id, so the order may rest, and no fill names the id twice.
      have hfresh : ∀ s, ∀ m ∈ r.queue s, m.item.id ≠ o.id := by
        intro s m hm heq
        refine hrests ((r.ids_perm s).mem_iff.mpr (List.mem_append_left _ ?_))
        exact List.mem_map.mpr ⟨m, hm, heq⟩
      refine ⟨?_, fun f hf heq => ?_⟩
      · rw [hperm'.nodup_iff, List.nodup_append]
        rw [List.nodup_append] at hdistinct
        refine ⟨nodup_join hdistinct.1 (fun m hm => by rw [hid]; exact hfresh o.side m hm),
          hdistinct.2.1.sublist hopp, fun x hx y hy heq => ?_⟩
        have hy' := hopp.subset hy
        rcases List.mem_map.mp hx with ⟨m, hm, rfl⟩
        rcases mem_join hm with ⟨rfl, -⟩ | hm
        · rcases List.mem_map.mp hy' with ⟨n, hn, rfl⟩
          exact hfresh _ n hn (heq.symm.trans hid)
        · exact hdistinct.2.2 _ (List.mem_map_of_mem hm) _ hy' heq
      · rcases maker_rests hf with ⟨m, hm, hmid⟩
        exact hfresh _ m hm (hmid.symm.trans heq)

/-! ### Runs -/

namespace ExchangeApplication

/-- A step that leaves every id with one order: an order that will be placed
    has an id that does not rest, or enough on the other side ahead of any
    order with its id. -/
def KeepsIds (app : ExchangeApplication) : Command → Prop
  | .creditDeposit _ _ _ _ => True
  | .placeOrder c o => app.Accepts c o → o.id ∈ app.matching.restingIds →
      o.remaining ≤ ahead o (app.matching.book o.side.opposite).orders

instance (app : ExchangeApplication) : (command : Command) → Decidable (app.KeepsIds command)
  | .creditDeposit _ _ _ _ => inferInstanceAs (Decidable True)
  | .placeOrder _ _ => inferInstanceAs (Decidable (_ → _))

end ExchangeApplication

/-- No two resting orders share an id, and no fill names one id twice. Both go
    wrong together in one step or separately, and the condition is about either. -/
def Identified (past : CommandLog) (app : ExchangeApplication) : Prop :=
  app.matching.restingIds.Nodup ∧
    ∀ f ∈ (placements past).flatMap Prod.snd, f.makerOrderId ≠ f.takerOrderId

instance (past : CommandLog) (app : ExchangeApplication) : Decidable (Identified past app) :=
  inferInstanceAs (Decidable (_ ∧ _))

/-- An order placed leaves every id with one order exactly when its id does
    not rest or it has enough ahead. -/
theorem placed_identified {market : MarketSpec} {past : CommandLog}
    {app app' : ExchangeApplication} {c : CommandId} {o : Order} {fills : List Fill}
    (hI : Traced market past app) (hP : Identified past app)
    (hx : Executed app (.placeOrder c o) (.ok fills) app') :
    Identified (past ++ [(.placeOrder c o, .ok fills)]) app'
      ↔ (o.id ∈ app.matching.restingIds →
        o.remaining ≤ ahead o (app.matching.book o.side.opposite).orders) := by
  rcases hI.served hx with ⟨live, hserve, hreference⟩
  rcases hI.represents with ⟨hrep, hsound, -⟩
  have hrep' := (executed_traced hI hx).represents.1
  rcases hP with ⟨hdistinct, hpast⟩
  rw [restingIds_eq hrep] at hdistinct
  have hplace := place_ids hsound hdistinct live
  -- The taker of every new fill is the order placed.
  have hnew : (∀ f ∈ fills, f.makerOrderId ≠ f.takerOrderId)
      ↔ ∀ f ∈ fills, f.makerOrderId ≠ o.id := by
    refine forall₂_congr (fun f hf => ?_)
    rw [hserve] at hf
    rw [serve_takers hf]
  rw [restingIds_eq hrep, (hrep o.side.opposite).2, ← hplace, Identified, restingIds_eq hrep',
    hreference, placements_snoc_some, List.flatMap_append, ← hserve, ← hnew]
  refine and_congr_right (fun _ => ⟨fun h f hf => ?_, fun h f hf => ?_⟩)
  · exact h f (List.mem_append_right _ (by rw [List.flatMap_singleton]; exact hf))
  · rcases List.mem_append.mp hf with hf | hf
    · exact hpast f hf
    · rw [List.flatMap_singleton] at hf
      exact h f hf

/-- Order ids identify orders as long as every order placed keeps them apart.
    In every application that a run passes through no two resting orders share
    an id and no fill so far names one id twice, exactly when every order
    placed in the run had an id that did not rest, or was spent ahead of the
    order with its id. Command ids make no difference. -/
theorem run_orderIds (market : MarketSpec) (commands : List Command) :
    (∀ pre, pre <+: commands →
      Identified (Run.log ExchangeApplication.execute (.new market) pre)
        (Run.after ExchangeApplication.execute (.new market) pre))
      ↔ Run.Along ExchangeApplication.execute ExchangeApplication.KeepsIds (.new market)
          commands := by
  refine Run.always_iff_along ExchangeApplication.execute (I := Traced market) (P := Identified)
    (new_traced market)
    (fun past app command h => executed_traced h (execute_executed app command))
    ⟨List.nodup_nil, fun f hf => absurd hf List.not_mem_nil⟩ ?_ commands
  -- One step: of the commands that succeed only an order can bring an id in.
  intro past app command hI hP
  have hx := execute_executed app command
  have haccepts := hI.accepts_iff
  generalize hanswer : (app.execute command).1 = answer at hx ⊢
  generalize (app.execute command).2 = app' at hx ⊢
  cases hx with
  | rejected command e =>
      -- A command that fails places nothing.
      refine iff_of_true ⟨hP.1, ?_⟩ ?_
      · rw [placements_snoc_none (placement_error command e)]
        exact hP.2
      · cases command with
        | creditDeposit c t a amount => trivial
        | placeOrder c o =>
            intro hacc
            rcases (haccepts c o).mpr hacc with ⟨fills, hok⟩
            rw [hok] at hanswer
            exact absurd hanswer (by simp only [reduceCtorEq, not_false_eq_true])
  | @credited c t a amount balances new credit =>
      refine iff_of_true ⟨hP.1, ?_⟩ trivial
      rw [placements_snoc_none rfl]
      exact hP.2
  | @placed c o reservation balances matching fills new live needs reserve matched =>
      have hacc := (haccepts c o).mp ⟨fills, hanswer⟩
      rw [placed_identified hI hP (.placed new live needs reserve matched)]
      exact ⟨fun h _ => h, fun h => h hacc⟩

/-- The command id of a command. -/
def Command.commandId : Command → CommandId
  | .creditDeposit c _ _ _ => c
  | .placeOrder c _ => c

/-- Two asks under one id, placed by two commands. -/
theorem run_orderIds_twice :
    ¬ ∀ (market : MarketSpec) (commands : List Command),
      (commands.map Command.commandId).Nodup →
      Identified (Run.log ExchangeApplication.execute (.new market) commands)
        (Run.after ExchangeApplication.execute (.new market) commands) := by
  intro h
  have htwice := h sampleMarket [sampleDeposit ⟨1, by decide⟩ 10,
    .placeOrder ⟨2, by decide⟩ sampleMaker, .placeOrder ⟨3, by decide⟩ sampleMaker] (by decide)
  exact absurd htwice (by decide)

end Exchange

end SolanaLab
