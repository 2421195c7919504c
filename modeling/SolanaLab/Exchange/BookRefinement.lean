import SolanaLab.Exchange.OrderBook
import SolanaLab.Library.Run

/-!
# A Side as a Sorted List

What a side of the order book does, said of its listing alone. A side keeps a
map of queues, and each of its operations rebuilds a part of it and drops
levels that become empty. The listing is a list in order of rank, and each
operation does one thing to it: a newcomer is placed behind or ahead of the
orders of its price, the head is taken, or one order is removed.

`SortedOrders.call` is a machine on such lists, and `call_refines` that a side
is this machine seen through `orders`. The relation needs nothing but
`Valid`, which every operation keeps. Cancelling is where that matters most: an
order leaves its level before it is cancelled, and the cancellation of a
terminal order fails. No terminal order rests on a valid side.

Ids need not be different for any of this. `cancel` searches the levels from
the lowest price on, on either side, and so takes the first order of the lowest
price that has the id; `toCancel` is that order. When the ids are different it
is the order with the id.

## Main definitions

* `toCancel`: The order that a cancellation takes.
* `SideCall`, `SideAnswer`: The calls of a side and their answers.
* `OrderBookSide.call`: A call on a side.
* `SortedOrders.call`: The call on a list in order.
* `OrderBookSide.ListedBy`: What each operation does to the listing.

## Theorems

* `toCancel_firstLevel`: Where the search of a cancellation stops.
* `cancel_spec`: What a cancellation does to the listing.
* `call_refines`: A side does what the list machine does to its listing.
* `priceLevelCount_eq`: The levels are the resting prices.
* `toCancel_of_nodup`: What is cancelled when the ids are different.
* `run_listedBy`: All of this over every run.
-/

namespace SolanaLab

namespace Exchange

open PriorityQueue

/-! ### Removing from a list -/

section Lists

variable {α : Type} [DecidableEq α]

/-- What is found is at the index found, and taking it out there removes it. -/
theorem findIdx?_of_find? {p : α → Bool} {l : List α} {a : α} (h : l.find? p = some a) :
    ∃ i, l.findIdx? p = some i ∧ l[i]? = some a ∧ l.eraseIdx i = l.erase a := by
  induction l with
  | nil => exact absurd h (by simp only [List.find?_nil, reduceCtorEq, not_false_eq_true])
  | cons b l ih =>
      rw [List.findIdx?_cons]
      by_cases hb : p b = true
      · rw [List.find?_cons_of_pos hb, Option.some.injEq] at h
        rw [if_pos hb, ← h, List.erase_cons_head]
        exact ⟨0, rfl, rfl, rfl⟩
      · rw [List.find?_cons_of_neg hb] at h
        rcases ih h with ⟨i, hi, hat, herase⟩
        -- The head does not pass the test, so it is not what was found.
        have hne : b ≠ a := fun heq => hb (heq ▸ List.find?_some h)
        rw [if_neg hb, hi, Option.map_some, List.erase_cons_tail (by rw [beq_iff_eq]; exact hne),
          ← herase]
        exact ⟨i + 1, rfl, hat, rfl⟩

/-- Removing an element from a list of different keys leaves the others. -/
theorem erase_eq_filter_of_key {β : Type} [DecidableEq β] {key : α → β} {l : List α} {a : α}
    (hnd : (l.map key).Nodup) (ha : a ∈ l) :
    l.erase a = l.filter (fun b => key b ≠ key a) := by
  rw [hnd.of_map.erase_eq_filter]
  refine List.filter_congr (fun b hb => ?_)
  have hkey : b = a ↔ key b = key a :=
    ⟨congrArg key, fun heq => List.inj_on_of_nodup_map hnd hb ha heq⟩
  rw [Bool.eq_iff_iff, bne_iff_ne, decide_eq_true_eq, ne_eq, ne_eq, hkey]

end Lists

/-! ### Cancelling -/

/-- The order that a cancellation takes: of those with the id, the first at the
    lowest price. -/
def toCancel (orderId : OrderId) (l : List Order) : Option Order :=
  l.find? (fun o => o.id = orderId ∧ ∀ x ∈ l, x.id = orderId → o.price ≤ x.price)

/-- Without an order of the id there is none to cancel. -/
theorem toCancel_eq_none {orderId : OrderId} {l : List Order} (h : ∀ o ∈ l, o.id ≠ orderId) :
    toCancel orderId l = none := by
  refine List.find?_eq_none.mpr (fun o ho hmatch => ?_)
  exact h o ho (of_decide_eq_true hmatch).1

/-- The order that is cancelled is in the list and has the id. -/
theorem toCancel_eq_some {orderId : OrderId} {l : List Order} {o : Order}
    (h : toCancel orderId l = some o) : o ∈ l ∧ o.id = orderId := by
  have hmatch := List.find?_some h
  exact ⟨List.mem_of_find?_eq_some h, (of_decide_eq_true hmatch).1⟩

/-- What is cancelled when the ids are different: the order with the id. -/
theorem toCancel_of_nodup {orderId : OrderId} {l : List Order} {o : Order}
    (hnd : (l.map Order.id).Nodup) (ho : o ∈ l) (hid : o.id = orderId) :
    toCancel orderId l = some o := by
  have hunique : ∀ x ∈ l, x.id = orderId → x = o := fun x hx hxid =>
    List.inj_on_of_nodup_map hnd hx ho (hxid.trans hid.symm)
  cases hfind : toCancel orderId l with
  | none =>
      have hno := List.find?_eq_none.mp hfind o ho
      refine absurd (decide_eq_true ⟨hid, fun x hx hxid => ?_⟩) hno
      rw [hunique x hx hxid]
  | some x =>
      rcases toCancel_eq_some hfind with ⟨hx, hxid⟩
      rw [hunique x hx hxid]

/-- Cancelling a live order keeps everything of it but the status. -/
theorem Order.cancel_eq_ok (o : Order) (h : ¬ o.isTerminal) :
    ∃ cancelled, o.cancel = .ok cancelled ∧ cancelled.status = .cancelled ∧
      cancelled.remainingQuantity = o.remainingQuantity := by
  rw [cancel, dif_neg h]
  exact ⟨_, rfl, rfl, rfl⟩

namespace OrderBookSide

variable {s : Side} {b : OrderBookSide}

/-- The search skips levels without the id. -/
theorem cancelLoop_append (b : OrderBookSide) {orderId : OrderId}
    {before : List (Price × List Order)} (h : ∀ e ∈ before, ∀ o ∈ e.2, o.id ≠ orderId)
    (rest : List (Price × List Order)) :
    b.cancelLoop orderId (before ++ rest) = b.cancelLoop orderId rest := by
  induction before with
  | nil => rfl
  | cons e before ih =>
      rw [List.forall_mem_cons] at h
      have hnone : e.2.findIdx? (fun o => o.id = orderId) = none :=
        List.findIdx?_eq_none_iff.mpr (fun o ho => decide_eq_false (h.1 o ho))
      rw [List.cons_append, cancelLoop, hnone]
      exact ih h.2

/-- The levels up to the first one with an order of the id. The map is walked
    from its first entry, and the split is at the first level whose queue has
    the id. -/
theorem exists_firstLevel (b : OrderBookSide) {orderId : OrderId} {x : Order} (hx : x ∈ b.orders)
    (hid : x.id = orderId) :
    ∃ before p queue after o, b.levels.entries = before ++ (p, queue) :: after ∧
      (∀ e ∈ before, ∀ o ∈ e.2, o.id ≠ orderId) ∧
      queue.find? (fun o => o.id = orderId) = some o := by
  rcases (b.mem_orders x).mp hx with ⟨price, level, hlevel, hmem⟩
  have hsome : (b.levels.entries.find? (fun e => (e.2.find? (fun o => o.id = orderId)).isSome)
      ).isSome = true := by
    rw [List.find?_isSome]
    refine ⟨(price, level), (b.levels.mem_entries price level).mpr hlevel, ?_⟩
    rw [List.find?_isSome]
    exact ⟨x, hmem, decide_eq_true hid⟩
  -- The first level that has the order, and the first order of it that is.
  rcases Option.isSome_iff_exists.mp hsome with ⟨⟨p, queue⟩, hfirst⟩
  rcases List.find?_eq_some_iff_append.mp hfirst with ⟨hfound, before, after, hsplit, hbefore⟩
  rcases Option.isSome_iff_exists.mp hfound with ⟨o, ho⟩
  refine ⟨before, p, queue, after, o, hsplit, fun e he y hy hyid => ?_, ho⟩
  have hnone := hbefore e he
  rw [Bool.not_eq_true', Option.isSome_eq_false_iff, Option.isNone_iff_eq_none,
    List.find?_eq_none] at hnone
  exact hnone y hy (decide_eq_true hyid)

/-- The first order with the id in the first level that has one is the one to
    cancel: the levels after it are at higher prices. -/
theorem toCancel_firstLevel (h : b.Valid s) {orderId : OrderId}
    {before after : List (Price × List Order)} {p : Price} {queue : List Order} {o : Order}
    (hsplit : b.levels.entries = before ++ (p, queue) :: after)
    (hbefore : ∀ e ∈ before, ∀ o ∈ e.2, o.id ≠ orderId)
    (hfind : queue.find? (fun o => o.id = orderId) = some o) :
    toCancel orderId b.orders = some o ∧ b.levels.get? p = some queue ∧ o.price = p := by
  have hget : b.levels.get? p = some queue := by
    rw [← b.levels.mem_entries, hsplit]
    exact List.mem_append_right before List.mem_cons_self
  have hoprice : o.price = p := (h.resting p queue hget o (List.mem_of_find?_eq_some hfind)).2.1
  -- No order with the id rests at a lower price.
  have hlowest : ∀ x ∈ b.orders, x.id = orderId → p ≤ x.price := by
    intro x hx hid
    rcases h.of_mem hx with ⟨-, -, level, hlevel, hmem⟩
    have hentry := (b.levels.mem_entries x.price level).mpr hlevel
    have hsorted := b.levels.sorted
    rw [hsplit] at hentry hsorted
    rcases List.mem_append.mp hentry with hearly | hlate
    · exact absurd hid (hbefore _ hearly x hmem)
    · rcases List.mem_cons.mp hlate with hsame | hlater
      · exact (Prod.mk.inj hsame).1.symm.le
      · exact (List.rel_of_pairwise_cons (List.pairwise_append.mp hsorted).2.1 hlater).le
  have hmem : o ∈ b.orders := (b.mem_orders o).mpr ⟨p, queue, hget, List.mem_of_find?_eq_some hfind⟩
  have hoid : o.id = orderId := by
    have hmatch := List.find?_some hfind
    exact of_decide_eq_true hmatch
  refine ⟨?_, hget, hoprice⟩
  -- Only the orders of the level can be the one to cancel.
  have hcongr : toCancel orderId b.orders
      = (group (Order.rankOn s) (s.rank p) b.orders).find? (fun x => x.id = orderId) := by
    rw [group, List.find?_filter]
    refine List.find?_congr (fun x hx => ?_)
    rw [Bool.eq_iff_iff, decide_eq_true_eq, decide_eq_true_eq, decide_eq_true_eq,
      decide_eq_true_eq, Order.rankOn, s.rank_inj]
    constructor
    · rintro ⟨hid, hleast⟩
      exact ⟨le_antisymm (hoprice ▸ hleast o hmem hoid) (hlowest x hx hid), hid⟩
    · rintro ⟨hprice, hid⟩
      exact ⟨hid, fun y hy hyid => hprice ▸ hlowest y hy hyid⟩
  rw [hcongr, group_orders h p, level_of_get? hget]
  exact hfind

/-- A level without one of its orders, or no level when it was the only one. -/
theorem Valid.eraseAt (h : b.Valid s) {p : Price} {queue : List Order} {o : Order}
    (hget : b.levels.get? p = some queue) (ho : o.price = p) :
    let b' := if (queue.erase o).isEmpty then { b with levels := b.levels.erase p }
      else { b with levels := b.levels.insert p (queue.erase o) }
    b'.Valid s ∧ b'.orders = b.orders.erase o := by
  -- Away from the order's price nothing is removed from a group.
  have hgroup : ∀ p', group (Order.rankOn s) (s.rank p') (b.orders.erase o)
      = if p' = p then queue.erase o else b.level p' := by
    intro p'
    rw [group_erase, group_orders h]
    by_cases hp : p' = p
    · rw [if_pos hp, hp, level_of_get? hget]
    · rw [if_neg hp]
      exact List.erase_of_not_mem (fun hmem => hp ((h.level_rest hmem).2.1.symm.trans ho))
  have hin := inOrder_erase (Order.rankOn s) o (orders_inOrder h)
  by_cases hempty : (queue.erase o).isEmpty = true
  · rw [if_pos hempty]
    have hvalid := h.removeLevel p
    refine ⟨hvalid, eq_of_level hvalid hin (fun p' => ?_)⟩
    rw [hgroup, level_removeLevel, List.isEmpty_iff.mp hempty]
  · rw [if_neg hempty]
    have hvalid := h.setLevel p (fun hnil => hempty (List.isEmpty_iff.mpr hnil))
      (fun x hx => h.resting p queue hget x (List.mem_of_mem_erase hx))
    refine ⟨hvalid, eq_of_level hvalid hin (fun p' => ?_)⟩
    rw [hgroup, level_setLevel]

/-- A cancellation finds no order with the id and leaves the side, or it takes
    one order off the listing and cancels it. The cancellation itself cannot
    fail, since the orders of a valid side are live. -/
theorem cancel_spec (h : b.Valid s) (orderId : OrderId) :
    (toCancel orderId b.orders = none ∧ b.cancel orderId = (.error .orderNotFound, b)) ∨
    ∃ o cancelled b', toCancel orderId b.orders = some o ∧ o.cancel = .ok cancelled ∧
      b.cancel orderId = (.ok cancelled, b') ∧ b'.Valid s ∧ b'.orders = b.orders.erase o := by
  by_cases hid : ∃ x ∈ b.orders, x.id = orderId
  · rcases hid with ⟨x, hx, hxid⟩
    rcases exists_firstLevel b hx hxid with ⟨before, p, queue, after, o, hsplit, hbefore, hfind⟩
    rcases toCancel_firstLevel h hsplit hbefore hfind with ⟨hcancel, hget, hprice⟩
    rcases findIdx?_of_find? hfind with ⟨i, hi, hat, herase⟩
    -- A resting order is live, so cancelling it succeeds.
    rcases o.cancel_eq_ok (h.resting p queue hget o (List.mem_of_find?_eq_some hfind)).2.2 with
      ⟨cancelled, hok, -⟩
    rcases h.eraseAt hget hprice with ⟨hvalid, horders⟩
    refine Or.inr ⟨o, cancelled, _, hcancel, hok, ?_, hvalid, horders⟩
    rw [cancel, hsplit, cancelLoop_append b hbefore, cancelLoop, hi]
    simp only [cancelAt, hat, hok, herase]
  · have hnone : ∀ x ∈ b.orders, x.id ≠ orderId := fun x hx hxid => hid ⟨x, hx, hxid⟩
    refine Or.inl ⟨toCancel_eq_none hnone, ?_⟩
    have hskip : b.cancelLoop orderId (b.levels.entries ++ []) = b.cancelLoop orderId [] :=
      cancelLoop_append b (fun e he o ho =>
        hnone o ((b.mem_orders o).mpr ⟨e.1, e.2, (b.levels.mem_entries e.1 e.2).mp he, ho⟩)) []
    rw [List.append_nil] at hskip
    exact hskip

end OrderBookSide

/-! ### The list machine -/

/-- A call on a side: the four operations that change it. -/
inductive SideCall where
  | insert (order : Order)
  | reinsertFront (order : Order)
  | popBestOrder
  | cancel (orderId : OrderId)
deriving DecidableEq

/-- What a call answers. -/
inductive SideAnswer where
  | placed (result : Except Error Unit)
  | popped (order : Option Order)
  | cancelled (result : Except Error Order)

/-- A call on a side. -/
def OrderBookSide.call (b : OrderBookSide) : SideCall → SideAnswer × OrderBookSide
  | .insert order => ((b.insert order).map .placed id)
  | .reinsertFront order => ((b.reinsertFront order).map .placed id)
  | .popBestOrder => (b.popBestOrder.map .popped id)
  | .cancel orderId => ((b.cancel orderId).map .cancelled id)

namespace SortedOrders

/-- A live order of the side goes where it is put, any other nowhere. -/
def place (s : Side) (l : List Order) (o : Order) (put : Order → List Order → List Order) :
    Except Error Unit × List Order :=
  if o.side ≠ s then (.error .wrongOrderSide, l)
  else if o.isTerminal then (.error .orderAlreadyTerminal, l)
  else (.ok (), put o l)

/-- A call on the list of orders in order of rank. It is the specification of a
    side: a sorted list and four operations on it. -/
def call (s : Side) (l : List Order) : SideCall → SideAnswer × List Order
  | .insert order => ((place s l order (enqueue (Order.rankOn s))).map .placed id)
  | .reinsertFront order => ((place s l order (enqueueFront (Order.rankOn s))).map .placed id)
  | .popBestOrder => (.popped l.head?, l.tail)
  | .cancel orderId =>
    match toCancel orderId l with
    | none => (.cancelled (.error .orderNotFound), l)
    | some order => (.cancelled order.cancel, l.erase order)

end SortedOrders

namespace OrderBookSide

variable {s : Side} {b : OrderBookSide}

/-- An order is refused as the list refuses it, and the side is left, or it is
    a live order of the side. -/
theorem insertWith_cases (h : b.Valid s) (o : Order) (ins : List Order → Order → List Order)
    (put : Order → List Order → List Order) :
    (∃ e, b.insertWith o ins = (.error e, b) ∧
      SortedOrders.place s b.orders o put = (.error e, b.orders)) ∨
    (o.side = s ∧ ¬ o.isTerminal ∧
      SortedOrders.place s b.orders o put = (.ok (), put o b.orders)) := by
  rw [insertWith, SortedOrders.place, h.side_eq]
  by_cases hside : o.side = s
  · rw [if_neg (not_not_intro hside), if_neg (not_not_intro hside)]
    by_cases hlive : o.isTerminal = true
    · rw [if_pos hlive, if_pos hlive]
      exact Or.inl ⟨_, rfl, rfl⟩
    · rw [if_neg hlive, if_neg hlive]
      exact Or.inr ⟨hside, hlive, rfl⟩
  · rw [if_pos hside, if_pos hside]
    exact Or.inl ⟨_, rfl, rfl⟩

/-- Placing an order on a side places it in the listing. -/
theorem insertWith_refines (h : b.Valid s) {o : Order} {ins : List Order → Order → List Order}
    {put : Order → List Order → List Order}
    (hput : o.side = s → ¬ o.isTerminal →
      ∃ b', b.insertWith o ins = (.ok (), b') ∧ b'.Valid s ∧ b'.orders = put o b.orders) :
    (b.insertWith o ins).1 = (SortedOrders.place s b.orders o put).1 ∧
      (b.insertWith o ins).2.Valid s ∧
      (b.insertWith o ins).2.orders = (SortedOrders.place s b.orders o put).2 := by
  rcases b.insertWith_cases h o ins put with ⟨e, hins, hplace⟩ | ⟨hside, hlive, hplace⟩
  · rw [hins, hplace]
    exact ⟨rfl, h, rfl⟩
  · rcases hput hside hlive with ⟨b', hins, hvalid, horders⟩
    rw [hins, hplace]
    exact ⟨rfl, hvalid, horders⟩

/-- Popping takes the head of the listing, if there is one. -/
theorem popBestOrder_refines (h : b.Valid s) :
    b.popBestOrder.1 = b.orders.head? ∧ b.popBestOrder.2.Valid s ∧
      b.popBestOrder.2.orders = b.orders.tail := by
  cases hl : b.orders with
  | nil =>
      -- No orders, no levels: there is no best price to take from.
      have hentries : b.levels.entries = [] := List.isEmpty_iff.mp ((isEmpty_iff h).mpr hl)
      have hbest : b.bestLevel = none := by
        rw [bestLevel_eq_head, ranked, hentries]
        cases b.side <;> rfl
      have hpop : b.popBestOrder = (none, b) := by
        rw [popBestOrder, bestPrice, hbest, Option.map_none]
      rw [hpop]
      exact ⟨rfl, h, hl⟩
  | cons o rest =>
      rcases popBestOrder_spec h hl with ⟨b', hpop, hvalid, horders⟩
      rw [hpop]
      exact ⟨rfl, hvalid, horders⟩

/-- A side answers a call as its listing does, and leads to a side whose listing
    is the one reached. -/
theorem call_refines (h : b.Valid s) (c : SideCall) :
    (b.call c).1 = (SortedOrders.call s b.orders c).1 ∧
      (b.call c).2.Valid s ∧ (b.call c).2.orders = (SortedOrders.call s b.orders c).2 := by
  cases c with
  | insert o =>
      -- Both insertions are one refinement, of two ways to join a level.
      rcases insertWith_refines h (fun hside hlive => insert_spec h hside hlive) with
        ⟨hanswer, hvalid, horders⟩
      exact ⟨congrArg SideAnswer.placed hanswer, hvalid, horders⟩
  | reinsertFront o =>
      rcases insertWith_refines h (fun hside hlive => reinsertFront_enqueues h hside hlive) with
        ⟨hanswer, hvalid, horders⟩
      exact ⟨congrArg SideAnswer.placed hanswer, hvalid, horders⟩
  | popBestOrder =>
      rcases popBestOrder_refines h with ⟨hanswer, hvalid, horders⟩
      exact ⟨congrArg SideAnswer.popped hanswer, hvalid, horders⟩
  | cancel orderId =>
      rw [call, SortedOrders.call]
      rcases cancel_spec h orderId with ⟨hnone, hcancel⟩ | ⟨o, cancelled, b', hsome, hok, hcancel,
        hvalid, horders⟩
      · rw [hnone, hcancel]
        exact ⟨rfl, h, rfl⟩
      · rw [hsome, hcancel]
        exact ⟨congrArg SideAnswer.cancelled hok.symm, hvalid, horders⟩

/-! ### The levels -/

/-- The levels are the resting prices: each is there once, and none is empty. -/
theorem priceLevelCount_eq (h : b.Valid s) :
    b.priceLevelCount = (b.orders.map Order.price).toFinset.card := by
  have hnodup : (b.levels.entries.map Prod.fst).Nodup := by
    rw [List.Nodup, List.pairwise_map]
    exact b.levels.sorted.imp (fun hlt => ne_of_lt hlt)
  -- No level is empty, so the levels are the prices of the orders.
  have hsame : (b.levels.entries.map Prod.fst).toFinset = (b.orders.map Order.price).toFinset := by
    ext p
    rw [List.mem_toFinset, List.mem_toFinset, List.mem_map, List.mem_map]
    constructor
    · rintro ⟨⟨q, queue⟩, he, rfl⟩
      have hget := (b.levels.mem_entries q queue).mp he
      rcases List.exists_mem_of_ne_nil queue (h.level_ne q queue hget) with ⟨o, ho⟩
      exact ⟨o, (b.mem_orders o).mpr ⟨q, queue, hget, ho⟩, (h.resting q queue hget o ho).2.1⟩
    · rintro ⟨o, ho, rfl⟩
      rcases h.of_mem ho with ⟨-, -, queue, hget, -⟩
      exact ⟨(o.price, queue), (b.levels.mem_entries _ _).mpr hget, rfl⟩
  rw [← hsame, List.toFinset_card_of_nodup hnodup, List.length_map]
  rfl

/-! ### What the operations do to the listing -/

/-- What each operation of a side does to the list of its orders, from the best
    to the worst price. The fields are the statements one would make about a
    sorted list, one for each method of the source. -/
structure ListedBy (s : Side) (b : OrderBookSide) : Prop where
  inOrder : InOrder (Order.rankOn s) b.orders
  accepted : ∀ o, (b.insert o).1 = .ok () ↔ o.side = s ∧ ¬ o.isTerminal
  inserted : ∀ o b', b.insert o = (.ok (), b') → ∃ before after, b.orders = before ++ after ∧
    b'.orders = before ++ o :: after ∧ (∀ x ∈ before, x.rankOn s ≤ o.rankOn s) ∧
    ∀ x ∈ after, o.rankOn s < x.rankOn s
  insertFailed : ∀ o e b', b.insert o = (.error e, b') → b' = b
  reinserted : ∀ o b', b.reinsertFront o = (.ok (), b') → ∃ before after,
    b.orders = before ++ after ∧ b'.orders = before ++ o :: after ∧
    (∀ x ∈ before, x.rankOn s < o.rankOn s) ∧ ∀ x ∈ after, o.rankOn s ≤ x.rankOn s
  reinsertFailed : ∀ o e b', b.reinsertFront o = (.error e, b') → b' = b
  best : b.bestOrder = b.orders.head?
  popped : b.popBestOrder.1 = b.orders.head? ∧ b.popBestOrder.2.orders = b.orders.tail
  cancelled : (b.orders.map Order.id).Nodup → ∀ o ∈ b.orders, ∃ cancelled b',
    b.cancel o.id = (.ok cancelled, b') ∧ o.cancel = .ok cancelled ∧
    cancelled.status = .cancelled ∧ cancelled.remainingQuantity = o.remainingQuantity ∧
    b'.orders = b.orders.filter (fun x => x.id ≠ o.id)
  notFound : ∀ orderId, (∀ o ∈ b.orders, o.id ≠ orderId) →
    b.cancel orderId = (.error .orderNotFound, b)
  cancelFailed : ∀ orderId e b', b.cancel orderId = (.error e, b') → b' = b
  level_ne : ∀ p queue, b.levels.get? p = some queue → queue ≠ []
  levelCount : b.priceLevelCount = (b.orders.map Order.price).toFinset.card

/-- What a placement of an order does when it succeeds, and that it does
    nothing when it fails. -/
theorem insertWith_split (h : b.Valid s) {ins : List Order → Order → List Order}
    {put : Order → List Order → List Order}
    (hput : ∀ o : Order, o.side = s → ¬ o.isTerminal →
      ∃ b', b.insertWith o ins = (.ok (), b') ∧ b'.Valid s ∧ b'.orders = put o b.orders) :
    (∀ o, (b.insertWith o ins).1 = .ok () ↔ o.side = s ∧ ¬ o.isTerminal) ∧
      (∀ o b', b.insertWith o ins = (.ok (), b') → b'.orders = put o b.orders) ∧
      ∀ o e b', b.insertWith o ins = (.error e, b') → b' = b := by
  refine ⟨fun o => ?_, fun o b' hok => ?_, fun o e b' herror => ?_⟩
  · constructor
    · intro hok
      rcases b.insertWith_cases h o ins put with ⟨e, hins, -⟩ | ⟨hside, hlive, -⟩
      · rw [hins] at hok
        exact absurd hok (by simp only [reduceCtorEq, not_false_eq_true])
      · exact ⟨hside, hlive⟩
    · -- With the side right and the order live nothing can fail.
      intro hlive
      rcases hput o hlive.1 hlive.2 with ⟨b', hins, -⟩
      rw [hins]
  -- A success has put the order into the listing.
  · have horders := (insertWith_refines h (hput o)).2.2
    rcases b.insertWith_cases h o ins put with ⟨e, hins, -⟩ | ⟨-, -, hplace⟩
    · rw [hins] at hok
      exact absurd (congrArg Prod.fst hok) (by simp only [reduceCtorEq, not_false_eq_true])
    · rw [hok, hplace] at horders
      exact horders
  · rcases b.insertWith_cases h o ins put with ⟨e', hins, -⟩ | ⟨hside, hlive, -⟩
    · exact (congrArg Prod.snd (hins.symm.trans herror)).symm
    · rcases hput o hside hlive with ⟨b'', hins, -⟩
      rw [hins] at herror
      exact absurd (congrArg Prod.fst herror) (by simp only [reduceCtorEq, not_false_eq_true])

/-- A valid side is the list of its orders, as far as its operations show. -/
theorem Valid.listedBy (h : b.Valid s) : b.ListedBy s where
  inOrder := orders_inOrder h
  accepted := (insertWith_split h (fun o => insert_spec h)).1
  inserted o b' hok := by
    rw [(insertWith_split h (fun o => insert_spec h)).2.1 o b' hok]
    exact enqueue_split (Order.rankOn s) o (orders_inOrder h)
  insertFailed := (insertWith_split h (fun o => insert_spec h)).2.2
  reinserted o b' hok := by
    rw [(insertWith_split h (fun o => reinsertFront_enqueues h)).2.1 o b' hok]
    exact enqueueFront_split (Order.rankOn s) o (orders_inOrder h)
  reinsertFailed := (insertWith_split h (fun o => reinsertFront_enqueues h)).2.2
  best := bestOrder_eq_head h
  popped := ⟨(popBestOrder_refines h).1, (popBestOrder_refines h).2.2⟩
  -- With each id once, the order found under an id is the one that was asked for.
  cancelled hnodup o ho := by
    rcases cancel_spec h o.id with ⟨hnone, -⟩ | ⟨x, cancelled, b', hsome, hok, hcancel, -, horders⟩
    · rw [toCancel_of_nodup hnodup ho rfl] at hnone
      exact absurd hnone (by simp only [reduceCtorEq, not_false_eq_true])
    · rw [toCancel_of_nodup hnodup ho rfl, Option.some.injEq] at hsome
      subst hsome
      rcases o.cancel_eq_ok (h.of_mem ho).2.1 with ⟨cancelled', hok', hstatus, hremaining⟩
      rw [hok, Except.ok.injEq] at hok'
      subst hok'
      refine ⟨cancelled, b', hcancel, hok, hstatus, hremaining, ?_⟩
      rw [horders, erase_eq_filter_of_key hnodup ho]
  notFound orderId hno := by
    rcases cancel_spec h orderId with ⟨-, hcancel⟩ | ⟨o, -, -, hsome, -⟩
    · exact hcancel
    · rw [toCancel_eq_none hno] at hsome
      exact absurd hsome (by simp only [reduceCtorEq, not_false_eq_true])
  cancelFailed orderId e b' herror := by
    rcases cancel_spec h orderId with ⟨-, hcancel⟩ | ⟨o, cancelled, b'', -, -, hcancel, -⟩
    · exact (congrArg Prod.snd (hcancel.symm.trans herror)).symm
    · rw [hcancel] at herror
      exact absurd (congrArg Prod.fst herror) (by simp only [reduceCtorEq, not_false_eq_true])
  level_ne := h.level_ne
  levelCount := priceLevelCount_eq h

/-- Over every run of calls a side is valid, and answers as the list machine
    does on its listing. -/
theorem run_refines (s : Side) (calls : List SideCall) :
    Run.log call (new s) calls = Run.log (SortedOrders.call s) [] calls ∧
      (Run.after call (new s) calls).Valid s ∧
      (Run.after call (new s) calls).orders = Run.after (SortedOrders.call s) [] calls := by
  refine Run.simulation call (R := fun b l => b.Valid s ∧ b.orders = l)
    ⟨new_valid s, new_orders s⟩ (fun b l c hrel => ?_) calls
  rcases hrel with ⟨hvalid, rfl⟩
  rcases call_refines hvalid c with ⟨hanswer, hnext, horders⟩
  exact ⟨hanswer, hnext, horders⟩

end OrderBookSide

/-- Over every run of calls a side is a sorted list of orders. Flattened, it is
    the list that the same calls make of an empty list, with the same answers,
    and each call does to that list what its name says. -/
theorem run_listedBy (s : Side) (calls : List SideCall) :
    let b := Run.after OrderBookSide.call (.new s) calls
    b.ListedBy s ∧ b.orders = Run.after (SortedOrders.call s) [] calls ∧
      Run.log OrderBookSide.call (.new s) calls = Run.log (SortedOrders.call s) [] calls := by
  intro b
  rcases OrderBookSide.run_refines s calls with ⟨hlog, hvalid, horders⟩
  exact ⟨hvalid.listedBy, horders, hlog⟩

end Exchange

end SolanaLab
