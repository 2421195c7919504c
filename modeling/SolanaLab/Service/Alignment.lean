import SolanaLab.Service.Responses

/-!
# Ticks and Lots from End to End

The handler of an order checks it against the tick size and the lot size of the
market. Nothing after it does: not the actor, not the matching engine, and not
the bridge that turns fills into settlement requests. So this one check has to
do for all of them, in any interleaving. It does, because no command reaches
the actor but through it.

The ticks and lots of a fill are another matter than those of its orders. A
fill has the price of its maker and the quantity that was left of one of the
two, so `InLots`, which is about what is left of orders too, carries them over.

## Theorems

* `Linked.inLots`: What is in the actor is in whole ticks and lots.
* `everything_aligned`: So is everything a fresh service makes of it.
-/

namespace SolanaLab

namespace Service

open Checked Exchange Relayer Settlement

open Mailbox hiding step Effect Move

/-- A command that was asked for is in whole ticks and lots. A deposit has no
    price, and an order has passed the checks of its handler. -/
theorem asks_aligned {config : Config} {request : Request} {command : MarketCommand}
    (h : Asks config request command) : command.Aligned config.market := by
  cases command with
  | placeOrder c o =>
      rcases asks_placeOrder h with ⟨body, -, horder⟩
      exact (orderFromRequest_eq_ok.mp horder).2.1
  | creditDeposit c t a amount => trivial
  | snapshot => trivial
  | shutdown => trivial

/-- What is in the actor of a fresh service is in whole ticks and lots. Its
    commands are those of the calls, and each was asked for. -/
theorem Linked.inLots {config : Config} {journal : List Event} {past : List (Move × Effect)}
    {s : ServiceState} {moves : List (Mailbox.Move MarketCommand AppendOutcome)}
    (h : Linked config (.new config.market) journal past s moves) :
    InLots config.market s.actor.state.app := by
  have hkept := run_kept MarketActorHandle.server config.mailboxCapacity
    (MarketActor.spawnFromApp (.new config.market) journal) moves
  have hstate := hkept.state
  rw [← h.actor] at hstate
  rw [hstate]
  refine run_inLots config.market journal _ (fun input hinput => ?_)
  -- Every command that was served is one that was asked for.
  rcases List.mem_map.mp hinput with ⟨e, he, rfl⟩
  rcases h.asked e.input.1 (List.mem_of_getElem? (hkept.commands e he)) with
    ⟨header, request, -, hasks, -⟩
  exact asks_aligned hasks

/-- A fresh service keeps to the ticks and lots of its market, whatever the
    requests to it, their clients, the journal and the chain do: every order
    that rests in a book and every order and fill in the log, and the price
    and quantity of every request for settlement, whether it is submitted or
    not. -/
theorem everything_aligned (config : Config) (rt : Runtime) (journal : List Event)
    (inputs : List Move) :
    let past := Run.log (ServiceState.step config rt) (.boot (.new config.market) journal) inputs
    let app := (Run.after (ServiceState.step config rt) (.boot (.new config.market) journal)
      inputs).actor.state.app
    (∀ side, ∀ o ∈ (app.matching.book side).orders, Aligned config.market o) ∧
    (∀ event ∈ app.events, event.Aligned config.market) ∧
    ∀ request ∈ queued past,
      config.market.tickSize.get.val ∣ request.args.fillPrice.val ∧
      config.market.lotSize.get.val ∣ request.args.fillQuantity.val := by
  intro past app
  rcases run_linked config rt (.new config.market) journal inputs with ⟨moves, hlinked⟩
  have hlots : InLots config.market app := hlinked.inLots
  refine ⟨fun side o ho => hlots.resting side ho, hlots.events, fun request hrequest => ?_⟩
  -- The request is in a batch, the batch is for an order in the log, and so is its fill.
  rcases List.mem_flatMap.mp hrequest with ⟨⟨call, requests⟩, hbatch, hmem⟩
  rcases (settlements_batches config rt (.new config.market) journal inputs) call requests hbatch
    with ⟨commandId, order, fills, first, -, hevent, hlen, hfills⟩
  rcases List.getElem_of_mem hmem with ⟨k, hk, rfl⟩
  have hfill : fills[k]? = some fills[k] := List.getElem?_eq_getElem (hlen ▸ hk)
  rcases hfills k _ hfill with ⟨request, hrequest, hsettles⟩
  rw [List.getElem?_eq_getElem hk, Option.some.injEq] at hrequest
  rcases hsettles with ⟨_, _, _, _, _, _, -, -, -, -, -, heq⟩
  -- The request has the price and the quantity of its fill.
  have hfill := (hlots.events _ hevent).2 fills[k] (List.getElem_mem _)
  rw [hrequest, heq]
  exact ⟨hfill.price, hfill.quantity⟩

end Service

end SolanaLab
