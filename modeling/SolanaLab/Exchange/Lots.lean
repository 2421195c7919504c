import SolanaLab.Exchange.MarketActor
import SolanaLab.Exchange.PriceTime

/-!
# Ticks and Lots

A market has a tick size and a lot size, and an order should be made of whole
ticks and whole lots. The matching engine knows neither: it takes the smaller
of two remaining quantities and the price of the maker. So the books stay in
whole ticks and lots as long as every order that comes in is, and nothing else
is needed. That is what this module proves, from one round of the reference up
to the actor.

The two checks of the market are made where orders come in from outside, not
where they are matched. `Aligned` is therefore a hypothesis about the commands
of a run here, and the service is where it is met.

## Main definitions

* `Aligned`: An order fits the ticks and lots of a market.
* `Fill.Aligned`, `Event.Aligned`: So does a fill, and all of an event.
* `InLots`: All of an application does.

## Theorems

* `serve_aligned`: Aligned orders trade in whole ticks and lots.
* `applyEvent_inLots`: An aligned order keeps the application aligned.
* `run_inLots`: So do all commands of an actor.
-/

namespace SolanaLab

namespace Exchange

open Checked PriorityQueue

/-- `MarketSpec::validate_price`. The tick size is not zero, so the remainder is
    defined. -/
def MarketSpec.validatePrice (market : MarketSpec) (price : Price) : Except Error Unit :=
  require (market.tickSize.get.val ∣ price.get.val) .priceNotTickAligned

/-- `MarketSpec::validate_quantity`. -/
def MarketSpec.validateQuantity (market : MarketSpec) (quantity : Quantity) : Except Error Unit :=
  require (market.lotSize.get.val ∣ quantity.get.val) .quantityNotLotAligned

/-- Price and quantities of an order are whole ticks and lots of a market. What
    remains is asked for too, because the engine trades what remains. -/
structure Aligned (market : MarketSpec) (o : Order) : Prop where
  price : market.tickSize.get.val ∣ o.price.get.val
  original : market.lotSize.get.val ∣ o.original
  remaining : market.lotSize.get.val ∣ o.remaining

/-- Price and quantity of a fill are whole ticks and lots of a market. -/
structure Fill.Aligned (market : MarketSpec) (f : Fill) : Prop where
  price : market.tickSize.get.val ∣ f.price.get.val
  quantity : market.lotSize.get.val ∣ f.quantity.get.val

/-- Everything an event says is in whole ticks and lots. -/
def Event.Aligned (market : MarketSpec) : Event → Prop
  | .depositCredited _ _ _ _ => True
  | .orderPlaced _ order fills =>
    Exchange.Aligned market order ∧ ∀ f ∈ fills, Fill.Aligned market f

/-- What a command brings in is in whole ticks and lots. -/
def MarketCommand.Aligned (market : MarketSpec) : MarketCommand → Prop
  | .placeOrder _ order => Exchange.Aligned market order
  | _ => True

variable {market : MarketSpec}

/-- A fill of whole lots leaves whole lots. -/
theorem Aligned.fill {o : Order} (h : Aligned market o) {q : Quantity}
    (hq : market.lotSize.get.val ∣ q.get.val) : Aligned market (o.fill q) where
  price := h.price
  original := h.original
  remaining := by
    rw [Order.fill_remaining]
    exact Nat.dvd_sub h.remaining hq

/-- What two aligned orders trade is in whole lots, being what one of them has
    left. -/
theorem tradeSize_aligned {taker maker : Order} {q : Quantity} (htaker : Aligned market taker)
    (hmaker : Aligned market maker) (h : tradeSize taker maker = some q) :
    market.lotSize.get.val ∣ q.get.val := by
  rw [(tradeSize_eq_some.mp h).1]
  rcases Nat.le_total maker.remaining taker.remaining with hle | hle
  · rw [Nat.min_eq_left hle]
    exact hmaker.remaining
  · rw [Nat.min_eq_right hle]
    exact htaker.remaining

/-- Aligned orders trade in whole ticks and lots, and what is left of them is
    aligned. By induction along the queue, as the taker goes through it. -/
theorem serve_aligned (queue : List (Stamped Order)) (taker : Order)
    (hqueue : ∀ m ∈ queue, Aligned market m.item) (htaker : Aligned market taker) :
    (∀ f ∈ (serve queue taker).1, f.Aligned market) ∧
    (∀ m ∈ (serve queue taker).2.1, Aligned market m.item) ∧
    Aligned market (serve queue taker).2.2 := by
  induction queue, taker using serve_induction with
  | nil taker => exact ⟨fun f hf => absurd hf List.not_mem_nil, hqueue, htaker⟩
  | stop m rest taker ht =>
      rw [serve_stop ht]
      exact ⟨fun f hf => absurd hf List.not_mem_nil, hqueue, htaker⟩
  | exhaust m rest taker q ht hq ih =>
      have hmaker := hqueue m List.mem_cons_self
      have hlots := tradeSize_aligned htaker hmaker ht
      rcases ih (fun x hx => hqueue x (List.mem_cons_of_mem m hx)) (htaker.fill hlots) with
        ⟨hfills, hleft, hrest⟩
      rw [serve_exhaust ht hq]
      refine ⟨fun f hf => ?_, hleft, hrest⟩
      rcases List.mem_cons.mp hf with rfl | hf
      -- A fill has the price of its maker.
      · exact ⟨hmaker.price, hlots⟩
      · exact hfills f hf
  | partly m rest taker q ht hq =>
      have hmaker := hqueue m List.mem_cons_self
      have hlots := tradeSize_aligned htaker hmaker ht
      rw [serve_partly ht hq]
      refine ⟨fun f hf => ?_, fun x hx => ?_, htaker.fill hlots⟩
      · rw [List.mem_singleton.mp hf]
        exact ⟨hmaker.price, hlots⟩
      · -- The maker that keeps a remainder keeps whole lots.
        rcases List.mem_cons.mp hx with rfl | hx
        · exact hmaker.fill hlots
        · exact hqueue x (List.mem_cons_of_mem m hx)

/-- An aligned order keeps the reference aligned, and its fills are aligned. -/
theorem place_aligned {r : Reference} (h : ∀ s, ∀ m ∈ r.queue s, Aligned market m.item)
    {o : Order} (ho : Aligned market o) :
    (∀ s, ∀ m ∈ (r.place o).2.queue s, Aligned market m.item) ∧
    ∀ fills, (r.place o).1 = .ok fills → ∀ f ∈ fills, f.Aligned market := by
  by_cases hlive : o.isTerminal
  · rw [place_terminal r hlive]
    exact ⟨h, fun fills hok => absurd hok (by simp only [reduceCtorEq, not_false_eq_true])⟩
  · rcases serve_aligned (r.queue o.side.opposite) o (h _) ho with ⟨hfills, hleft, hrest⟩
    refine ⟨fun s m hm => ?_, fun fills hok f hf => ?_⟩
    · by_cases hs : s = o.side
      · rw [hs, place_own r hlive] at hm
        rcases mem_join hm with ⟨rfl, -⟩ | hm
        · exact hrest
        · exact h _ m hm
      · rw [Side.eq_opposite_of_ne hs, place_opposite r hlive] at hm
        exact hleft m hm
    · rw [place_answer r hlive] at hok
      exact hfills f (Except.ok.inj hok ▸ hf)

/-- Everything in an application is in whole ticks and lots: the orders that
    rest in its books, and the orders and fills in its log. The books are taken
    through the reference they represent, which lists them by side. -/
structure InLots (market : MarketSpec) (app : ExchangeApplication) : Prop where
  books : ∃ r, Represents app.matching r ∧ r.Sound ∧
    ∀ s, ∀ m ∈ r.queue s, Aligned market m.item
  events : ∀ event ∈ app.events, event.Aligned market

/-- A new application has neither orders nor events. -/
theorem new_inLots (market : MarketSpec) : InLots market (.new market) :=
  ⟨⟨Reference.new, new_represents, Reference.new_sound, fun _ _ h => absurd h List.not_mem_nil⟩,
    fun _ h => absurd h List.not_mem_nil⟩

/-- The orders in the books are aligned. -/
theorem InLots.resting {app : ExchangeApplication} (h : InLots market app) (s : Side) {o : Order}
    (ho : o ∈ (app.matching.book s).orders) : Aligned market o := by
  rcases h.books with ⟨r, hrep, -, haligned⟩
  rw [(hrep s).2] at ho
  rcases List.mem_map.mp ho with ⟨m, hm, rfl⟩
  exact haligned s m hm

/-- An event whose order is aligned keeps the application aligned. -/
theorem applyEvent_inLots {app app' : ExchangeApplication} (h : InLots market app)
    {event : Event} (happly : app.applyEvent event = (.ok (), app'))
    (hevent : ∀ c o fills, event = .orderPlaced c o fills → Aligned market o) :
    InLots market app' := by
  cases event with
  | depositCredited c t a amount =>
      rcases ExchangeApplication.applyEvent_deposit.mp happly with ⟨-, balances, -, rfl⟩
      refine ⟨h.books, fun event hmem => ?_⟩
      rcases List.mem_append.mp hmem with hold | hlast
      · exact h.events event hold
      · rw [List.mem_singleton.mp hlast]
        trivial
  | orderPlaced c o fills =>
      have ho := hevent c o fills rfl
      rcases ExchangeApplication.applyEvent_order.mp happly with ⟨-, placed, hp, rfl⟩
      rcases ExchangeApplication.placeOrderInDomain_eq_ok.mp hp with
        ⟨hlive, reservation, balances, matching, -, -, hm, rfl⟩
      rcases h.books with ⟨r, hrep, hsound, haligned⟩
      -- The engine does what the reference does.
      have hspec := placeOrder_spec hrep hsound.past o
      rw [hm] at hspec
      rcases place_aligned haligned ho with ⟨hbooks, hfills⟩
      refine ⟨⟨_, hspec.2, place_sound hsound o, hbooks⟩, fun event hmem => ?_⟩
      rcases List.mem_append.mp hmem with hold | hlast
      · exact h.events event hold
      · rw [List.mem_singleton.mp hlast]
        exact ⟨ho, hfills fills hspec.1.symm⟩

/-- A command leaves the application alone, or its event applies. -/
theorem step_applied (actor : MarketActor) (input : MarketCommand × AppendOutcome) :
    (actor.step input).2.app = actor.app ∨ ∃ event success,
      input.1.derive actor.app = some (.ok (event, success)) ∧
      actor.app.applyEvent event = (.ok (), (actor.step input).2.app) := by
  cases hrun : actor.running with
  | false =>
      rw [MarketActor.step_stopped hrun]
      exact Or.inl rfl
  | true =>
      rcases MarketActor.step_cases hrun input.1 input.2 with ⟨happ, -⟩ |
        ⟨event, success, -, hderive, ⟨-, -, happ, -⟩ | ⟨-, -, happ, -⟩ | ⟨e, -, -, happ, -⟩⟩
      · exact Or.inl happ
      · exact Or.inl happ
      · exact Or.inr ⟨event, success, hderive, happ⟩
      · -- An event that was derived and does not apply changes nothing.
        have hsame := (MarketActor.derive_ok hderive).2 e (congrArg Prod.fst happ)
        rw [happ] at hsame
        exact Or.inl hsame

/-- After commands whose orders are aligned, all of the application is. -/
theorem run_inLots (market : MarketSpec) (journal : List Event)
    (inputs : List (MarketCommand × AppendOutcome))
    (h : ∀ input ∈ inputs, input.1.Aligned market) :
    InLots market
      (Run.after MarketActor.step (MarketActor.spawnFromApp (.new market) journal) inputs).app := by
  refine Run.invariant_along MarketActor.step (C := fun _ input => input.1.Aligned market)
    (P := fun _ actor => InLots market actor.app) (new_inLots market)
    (fun past actor input hlots haligned => ?_) (Run.along_of_forall MarketActor.step h _)
  rcases step_applied actor input with hsame | ⟨event, success, hderive, happly⟩
  · rw [hsame]
    exact hlots
  · refine applyEvent_inLots hlots happly (fun c o fills heq => ?_)
    -- The order of the event is the order of the command.
    rcases MarketActor.derive_eq_ok hderive with
      ⟨c', t, a, amount, -, hevent, -⟩ | ⟨c', order, fills', placed, hcommand, hevent, -⟩
    · rw [heq] at hevent
      exact absurd hevent (by simp only [reduceCtorEq, not_false_eq_true])
    · rw [heq, Event.orderPlaced.injEq] at hevent
      rw [hcommand] at haligned
      rw [hevent.2.1]
      exact haligned

end Exchange

end SolanaLab
