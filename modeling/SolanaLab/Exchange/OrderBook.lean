import SolanaLab.Exchange.Domain
import SolanaLab.Library.PriorityQueue
import SolanaLab.Library.SortedMap

/-!
# One Side of the Order Book

`OrderBookSide` keeps its resting orders in a `BTreeMap` from price to a
queue of orders. The two sides differ in one place only: the best level of an
ask side is the first, and of a bid side the last.

`Side.rank` takes that difference out of the way. It numbers prices so that a
smaller rank is a better price on either side, and `orders` lists the resting
orders by rank, level by level. A valid side is then a queue served by rank
with ties in order of arrival: inserting is `enqueue`, the best order is the
head, popping removes it and re-inserting at the front puts it back. Each of
these is one lemma about `orders`, and nothing above this module looks at the
levels again.

The lemmas go through the groups of the list. A level is the group of its
price, so an operation that changes one level changes one group, and
`PriorityQueue.eq_of_group` turns that into an equation between lists.

## Main definitions

* `OrderBookSide`: A side and its price levels.
* `OrderBookSide.insert`: A resting order behind its price level.
* `OrderBookSide.reinsertFront`: A resting order ahead of its price level.
* `OrderBookSide.popBestOrder`: The best order, removed.
* `OrderBookSide.cancel`: The order with an id, removed and cancelled.
* `Side.rank`: The priority of a price on a side, smaller being better.
* `OrderBookSide.orders`: The resting orders from best to worst.
* `OrderBookSide.Valid`: No level is empty and every order is where it
  belongs.

## Theorems

* `orders_inOrder`: The listing is in order of rank.
* `group_orders`: The orders at one price are its level.
* `bestOrder_eq_head`: The best order is the head of the listing.
* `isEmpty_iff`: A side is empty exactly when no order rests.
* `insert_spec`: Inserting enqueues by rank.
* `popBestOrder_spec`: Popping removes the head.
* `reinsertFront_enqueues`: Re-inserting places ahead of the orders of the
  price.
* `reinsertFront_spec`: Re-inserting a best order puts it at the head.
* `orders_injective`: A valid side is determined by its listing.
-/

namespace SolanaLab

namespace Exchange

/-- A side and its price levels, each a queue in order of arrival. -/
structure OrderBookSide where
  side : Side
  levels : SortedMap Price (List Order)
deriving DecidableEq

namespace OrderBookSide

/-- `OrderBookSide::new`. -/
def new (side : Side) : OrderBookSide := ⟨side, SortedMap.empty⟩

/-- `OrderBookSide::is_empty`. -/
def isEmpty (b : OrderBookSide) : Bool := b.levels.isEmpty

/-- `OrderBookSide::price_level_count`. -/
def priceLevelCount (b : OrderBookSide) : Nat := b.levels.size

/-- The queue at a price, empty when there is no level. -/
def level (b : OrderBookSide) (price : Price) : List Order := (b.levels.get? price).getD []

/-- `OrderBookSide::insert_with`. Both checks come before the level is
    touched. -/
def insertWith (b : OrderBookSide) (order : Order) (insert : List Order → Order → List Order) :
    Except Error Unit × OrderBookSide :=
  if order.side ≠ b.side then (.error .wrongOrderSide, b)
  else if order.isTerminal then (.error .orderAlreadyTerminal, b)
  else (.ok (),
    { b with levels := b.levels.insert order.price (insert (b.level order.price) order) })

/-- `OrderBookSide::insert`: `VecDeque::push_back`. -/
def insert (b : OrderBookSide) (order : Order) : Except Error Unit × OrderBookSide :=
  b.insertWith order (fun queue o => queue ++ [o])

/-- `OrderBookSide::reinsert_front`: `VecDeque::push_front`. -/
def reinsertFront (b : OrderBookSide) (order : Order) : Except Error Unit × OrderBookSide :=
  b.insertWith order (fun queue o => o :: queue)

/-- `OrderBookSide::best_level`. -/
def bestLevel (b : OrderBookSide) : Option (Price × List Order) :=
  match b.side with
  | .bid => b.levels.last?
  | .ask => b.levels.first?

/-- `OrderBookSide::best_price`. -/
def bestPrice (b : OrderBookSide) : Option Price := b.bestLevel.map Prod.fst

/-- `OrderBookSide::best_order`. -/
def bestOrder (b : OrderBookSide) : Option Order := b.bestLevel.bind (fun e => e.2.head?)

/-- `OrderBookSide::pop_best_order`. A level left empty is removed. -/
def popBestOrder (b : OrderBookSide) : Option Order × OrderBookSide :=
  match b.bestPrice with
  | none => (none, b)
  | some price =>
    match b.levels.get? price with
    | none => (none, b)
    | some queue =>
      (queue.head?,
        if queue.tail.isEmpty then { b with levels := b.levels.erase price }
        else { b with levels := b.levels.insert price queue.tail })

/-- The order of one level, and the level without it. An order is taken out of
    its level before it is cancelled. The failure of `cancel` then leaves it
    removed, which on a valid side cannot happen. -/
def cancelAt (b : OrderBookSide) (price : Price) (orders : List Order) (index : Nat) :
    Except Error Order × OrderBookSide :=
  match orders[index]? with
  | none => (.error .orderNotFound, b)
  | some order =>
    let left := orders.eraseIdx index
    match order.cancel with
    | .error e => (.error e, { b with levels := b.levels.insert price left })
    | .ok cancelled =>
      (.ok cancelled,
        if left.isEmpty then { b with levels := b.levels.erase price }
        else { b with levels := b.levels.insert price left })

/-- The loop of `OrderBookSide::cancel` over the levels that are left. -/
def cancelLoop (b : OrderBookSide) (orderId : OrderId) :
    List (Price × List Order) → Except Error Order × OrderBookSide
  | [] => (.error .orderNotFound, b)
  | (price, orders) :: rest =>
    match orders.findIdx? (fun order => order.id = orderId) with
    | some index => b.cancelAt price orders index
    | none => b.cancelLoop orderId rest

/-- `OrderBookSide::cancel`. The levels are searched from the lowest price on,
    on either side. -/
def cancel (b : OrderBookSide) (orderId : OrderId) : Except Error Order × OrderBookSide :=
  b.cancelLoop orderId b.levels.entries

end OrderBookSide

/-! ### Priority -/

/-- The priority of a price on a side: smaller is better. A bid has the negative
    of its price, which is why a rank is an integer. -/
def Side.rank (s : Side) (price : Price) : Int :=
  match s with
  | .bid => -(price.get.val : Int)
  | .ask => (price.get.val : Int)

/-- Different prices have different ranks. -/
theorem Side.rank_injective (s : Side) : Function.Injective s.rank := by
  intro p q h
  refine NonZero.ext (Fin.ext ?_)
  cases s <;> simp only [Side.rank] at h <;> omega

/-- So equal ranks are equal prices. -/
theorem Side.rank_inj (s : Side) {p q : Price} : s.rank p = s.rank q ↔ p = q :=
  s.rank_injective.eq_iff

/-- The priority of an order among the orders of a side. -/
def Order.rankOn (s : Side) (o : Order) : Int := s.rank o.price

/-- Among bids the higher price goes first. -/
theorem Order.rankOn_bid_le {o o' : Order} :
    o.rankOn .bid ≤ o'.rankOn .bid ↔ o'.price ≤ o.price := by
  rw [NonZero.le_iff, Order.rankOn, Order.rankOn, Side.rank, Side.rank]
  omega

/-- Among asks the lower price goes first. -/
theorem Order.rankOn_ask_le {o o' : Order} :
    o.rankOn .ask ≤ o'.rankOn .ask ↔ o.price ≤ o'.price := by
  rw [NonZero.le_iff, Order.rankOn, Order.rankOn, Side.rank, Side.rank]
  omega

/-- A fill does not change the priority of an order. -/
@[simp] theorem Order.rankOn_fill (s : Side) (o : Order) (q : Quantity) :
    (o.fill q).rankOn s = o.rankOn s := rfl

namespace OrderBookSide

open PriorityQueue

/-- The levels from best to worst. For asks this is the order of the map and for
    bids the reverse of it. -/
def ranked (b : OrderBookSide) : List (Price × List Order) :=
  match b.side with
  | .bid => b.levels.entries.reverse
  | .ask => b.levels.entries

/-- The resting orders from best to worst. -/
def orders (b : OrderBookSide) : List Order := b.ranked.flatMap Prod.snd

/-- No level is empty, and every order is live and rests on its own side at its
    own price. A cancelled or filled order would break the first comparison the
    matching loop makes with it. -/
structure Valid (s : Side) (b : OrderBookSide) : Prop where
  side_eq : b.side = s
  level_ne : ∀ p queue, b.levels.get? p = some queue → queue ≠ []
  resting : ∀ p queue, b.levels.get? p = some queue → ∀ o ∈ queue,
    o.side = s ∧ o.price = p ∧ ¬ o.isTerminal

/-- The ranked levels are those of the map. -/
theorem mem_ranked (b : OrderBookSide) (p : Price) (queue : List Order) :
    (p, queue) ∈ b.ranked ↔ b.levels.get? p = some queue := by
  rw [← SortedMap.mem_entries]
  unfold ranked
  cases b.side with
  | bid => exact List.mem_reverse
  | ask => exact Iff.rfl

/-- The levels are ranked strictly, since each price has one level. -/
theorem ranked_pairwise (b : OrderBookSide) :
    b.ranked.Pairwise (fun e d => b.side.rank e.1 < b.side.rank d.1) := by
  have hs := b.levels.sorted
  unfold ranked
  cases b.side with
  -- Bids are ranked from the highest price, asks from the lowest.
  | bid =>
      refine List.pairwise_reverse.mpr (hs.imp (fun h => ?_))
      rw [NonZero.lt_iff] at h
      simp only [Side.rank]
      omega
  | ask =>
      refine hs.imp (fun h => ?_)
      rw [NonZero.lt_iff] at h
      simp only [Side.rank]
      omega

/-- The best level is the first of the ranked ones, on either side. -/
theorem bestLevel_eq_head (b : OrderBookSide) : b.bestLevel = b.ranked.head? := by
  unfold bestLevel ranked
  cases b.side with
  | bid => exact List.head?_reverse.symm
  | ask => rfl

/-- A level that is there is the queue at its price. -/
theorem level_of_get? {b : OrderBookSide} {p : Price} {queue : List Order}
    (h : b.levels.get? p = some queue) : b.level p = queue := by
  rw [level, h, Option.getD_some]

/-- An order rests on a side when it is in the queue of some level. -/
theorem mem_orders (b : OrderBookSide) (o : Order) :
    o ∈ b.orders ↔ ∃ p queue, b.levels.get? p = some queue ∧ o ∈ queue := by
  rw [orders, List.mem_flatMap]
  constructor
  · rintro ⟨⟨p, queue⟩, he, ho⟩
    exact ⟨p, queue, (b.mem_ranked p queue).mp he, ho⟩
  · rintro ⟨p, queue, he, ho⟩
    exact ⟨(p, queue), (b.mem_ranked p queue).mpr he, ho⟩

variable {s : Side} {b : OrderBookSide}

/-- An order of a valid side is of that side, live, and in the queue of its own
    price. -/
theorem Valid.of_mem (h : b.Valid s) {o : Order} (ho : o ∈ b.orders) :
    o.side = s ∧ ¬ o.isTerminal ∧ ∃ queue, b.levels.get? o.price = some queue ∧ o ∈ queue := by
  rcases (b.mem_orders o).mp ho with ⟨p, queue, hg, hq⟩
  rcases h.resting p queue hg o hq with ⟨hside, hprice, hlive⟩
  refine ⟨hside, hlive, queue, ?_, hq⟩
  rw [hprice]
  exact hg

/-- The orders of a level are of its price. -/
theorem Valid.level_rest (h : b.Valid s) {p : Price} {o : Order} (ho : o ∈ b.level p) :
    o.side = s ∧ o.price = p ∧ ¬ o.isTerminal := by
  cases hg : b.levels.get? p with
  | none =>
      rw [level, hg] at ho
      exact absurd ho List.not_mem_nil
  | some queue =>
      rw [level_of_get? hg] at ho
      exact h.resting p queue hg o ho

/-- The orders of a listing at one price, when the entries have different
    keys and each holds orders of its own price only. -/
theorem flatMap_of_key {l : List (Price × List Order)} {p : Price} {queue : List Order}
    (hnd : l.Pairwise (fun e d => e.1 ≠ d.1)) (hmem : (p, queue) ∈ l) :
    l.flatMap (fun e => if e.1 = p then e.2 else []) = queue := by
  induction l with
  | nil => exact absurd hmem List.not_mem_nil
  | cons e rest ih =>
      rw [List.flatMap_cons]
      -- Keys differ, so once the entry is found no other contributes.
      rcases List.mem_cons.mp hmem with heq | hmem
      · have hrest : rest.flatMap (fun e => if e.1 = p then e.2 else []) = [] := by
          refine List.flatMap_eq_nil_iff.mpr (fun d hd => ?_)
          have := List.rel_of_pairwise_cons hnd hd
          rw [← heq] at this
          rw [if_neg (Ne.symm this)]
        rw [hrest, ← heq, if_pos rfl, List.append_nil]
      · have hne : e.1 ≠ p := List.rel_of_pairwise_cons hnd hmem
        rw [if_neg hne, List.nil_append, ih hnd.of_cons hmem]

/-- The orders at one price, in the order they stand, are its level. -/
theorem group_orders (h : b.Valid s) (p : Price) :
    group (Order.rankOn s) (s.rank p) b.orders = b.level p := by
  -- Filtering by rank keeps the level at that price whole and drops the others.
  have hsplit : group (Order.rankOn s) (s.rank p) b.orders
      = b.ranked.flatMap (fun e => if e.1 = p then e.2 else []) := by
    rw [group, orders, List.filter_flatMap]
    refine List.flatMap_congr (fun e he => ?_)
    have hrest := h.resting e.1 e.2 ((b.mem_ranked e.1 e.2).mp he)
    by_cases hp : e.1 = p
    · rw [if_pos hp]
      refine List.filter_eq_self.mpr (fun o ho => ?_)
      rw [decide_eq_true_eq, Order.rankOn, (hrest o ho).2.1, hp]
    · rw [if_neg hp]
      refine List.filter_eq_nil_iff.mpr (fun o ho => ?_)
      rw [decide_eq_true_eq, Order.rankOn, (hrest o ho).2.1, s.rank_inj]
      exact hp
  rw [hsplit]
  cases hg : b.levels.get? p with
  | some queue =>
      rw [level_of_get? hg]
      refine flatMap_of_key (b.ranked_pairwise.imp (fun hlt heq => ?_))
        ((b.mem_ranked p queue).mpr hg)
      rw [heq] at hlt
      exact lt_irrefl _ hlt
  -- No level at that price, so nothing was kept.
  | none =>
      rw [level, hg, Option.getD_none]
      refine List.flatMap_eq_nil_iff.mpr (fun e he => if_neg (fun hp => ?_))
      have := (b.mem_ranked e.1 e.2).mp he
      rw [hp, hg] at this
      exact absurd this (by simp only [reduceCtorEq, not_false_eq_true])

/-- The listing is in order of rank: levels are, and inside a level every
    price is the same. -/
theorem orders_inOrder (h : b.Valid s) : InOrder (Order.rankOn s) b.orders := by
  have hprice : ∀ e ∈ b.ranked, ∀ o ∈ e.2, o.price = e.1 := fun e he o ho =>
    (h.resting e.1 e.2 ((b.mem_ranked e.1 e.2).mp he) o ho).2.1
  have hlt := b.ranked_pairwise
  rw [h.side_eq] at hlt
  rw [InOrder, orders, List.pairwise_flatMap]
  constructor
  -- Inside a level all have the same price.
  · intro e he
    refine List.pairwise_of_forall_mem_list (fun o ho o' ho' => ?_)
    rw [Order.rankOn, Order.rankOn, hprice e he o ho, hprice e he o' ho']
  -- Of two levels the first has the better rank.
  · refine hlt.imp_of_mem (fun {e d} he hd hed o ho o' ho' => ?_)
    rw [Order.rankOn, Order.rankOn, hprice e he o ho, hprice d hd o' ho']
    exact le_of_lt hed

/-- Listings of valid sides are compared level by level. -/
theorem eq_of_level {l : List Order} (h : b.Valid s) (hl : InOrder (Order.rankOn s) l)
    (hg : ∀ p, group (Order.rankOn s) (s.rank p) l = b.level p) : b.orders = l := by
  refine eq_of_group (Order.rankOn s) (orders_inOrder h) hl (fun k => ?_)
  by_cases hk : ∃ p, s.rank p = k
  · rcases hk with ⟨p, rfl⟩
    rw [group_orders h, hg]
  · -- No price has this rank, so neither listing has an order of it.
    have hnil : ∀ m : List Order, group (Order.rankOn s) k m = [] := fun m =>
      List.filter_eq_nil_iff.mpr (fun o _ => by
        rw [decide_eq_true_eq]
        exact fun heq => hk ⟨o.price, heq⟩)
    rw [hnil, hnil]

/-- A valid side is determined by its listing. With it, an equation between
    sides is one between lists. -/
theorem orders_injective {b' : OrderBookSide} (h : b.Valid s) (h' : b'.Valid s)
    (ho : b.orders = b'.orders) : b = b' := by
  -- The order list determines each level, and a stored level is never empty.
  have hlevel : ∀ p, b.level p = b'.level p := fun p => by
    rw [← group_orders h, ho, group_orders h']
  have hget : ∀ p, b.levels.get? p = b'.levels.get? p := by
    intro p
    have hp := hlevel p
    rw [level, level] at hp
    cases hg : b.levels.get? p with
    | none =>
        cases hg' : b'.levels.get? p with
        | none => rfl
        | some queue =>
            rw [hg, hg', Option.getD_none, Option.getD_some] at hp
            exact absurd hp.symm (h'.level_ne p queue hg')
    | some queue =>
        cases hg' : b'.levels.get? p with
        | none =>
            rw [hg, hg', Option.getD_none, Option.getD_some] at hp
            exact absurd hp (h.level_ne p queue hg)
        | some queue' =>
            rw [hg, hg', Option.getD_some, Option.getD_some] at hp
            rw [hp]
  have hlevels := SortedMap.ext_get? hget
  have hside : b.side = b'.side := h.side_eq.trans h'.side_eq.symm
  cases b
  cases b'
  simp only at hlevels hside
  rw [hlevels, hside]

/-! ### The operations -/

/-- A new side has no level that could be empty. -/
theorem new_valid (s : Side) : (new s).Valid s where
  side_eq := rfl
  level_ne p queue hg := by
    rw [new, SortedMap.get?_empty] at hg
    exact absurd hg (by simp only [reduceCtorEq, not_false_eq_true])
  resting p queue hg := by
    rw [new, SortedMap.get?_empty] at hg
    exact absurd hg (by simp only [reduceCtorEq, not_false_eq_true])

/-- And no order. -/
theorem new_orders (s : Side) : (new s).orders = [] := by
  cases s <;> rfl

/-- The best order is the head of the listing. -/
theorem bestOrder_eq_head (h : b.Valid s) : b.bestOrder = b.orders.head? := by
  rw [bestOrder, bestLevel_eq_head, orders]
  cases hr : b.ranked with
  | nil => rfl
  | cons e rest =>
      have hne : e.2 ≠ [] := by
        refine h.level_ne e.1 e.2 ((b.mem_ranked e.1 e.2).mp ?_)
        rw [hr]
        exact List.mem_cons_self
      rcases List.exists_cons_of_ne_nil hne with ⟨o, queue, he⟩
      simp only [List.head?_cons, Option.bind_some, List.flatMap_cons, he, List.cons_append]

/-- A valid side is empty exactly when no order rests on it. An empty level
    would make the two differ. -/
theorem isEmpty_iff (h : b.Valid s) : b.isEmpty = true ↔ b.orders = [] := by
  rw [isEmpty, SortedMap.isEmpty_iff]
  constructor
  · intro hnone
    refine List.eq_nil_iff_forall_not_mem.mpr (fun o ho => ?_)
    rcases (b.mem_orders o).mp ho with ⟨p, queue, hg, -⟩
    rw [hnone p] at hg
    exact absurd hg (by simp only [reduceCtorEq, not_false_eq_true])
  · intro hnil p
    cases hg : b.levels.get? p with
    | none => rfl
    | some queue =>
        -- A level holds an order, so a side without orders has no level.
        rcases List.exists_cons_of_ne_nil (h.level_ne p queue hg) with ⟨o, rest, hq⟩
        have : o ∈ b.orders := (b.mem_orders o).mpr ⟨p, queue, hg, by
          rw [hq]; exact List.mem_cons_self⟩
        rw [hnil] at this
        exact absurd this List.not_mem_nil

/-- Setting one level to live orders of its own side and price keeps a side
    valid. -/
theorem Valid.setLevel (h : b.Valid s) (p : Price) {queue : List Order} (hne : queue ≠ [])
    (hrest : ∀ o ∈ queue, o.side = s ∧ o.price = p ∧ ¬ o.isTerminal) :
    ({ b with levels := b.levels.insert p queue } : OrderBookSide).Valid s where
  side_eq := h.side_eq
  level_ne p' queue' hg := by
    rw [SortedMap.get?_insert] at hg
    by_cases hp : p' = p
    · rw [if_pos hp, Option.some.injEq] at hg
      rw [← hg]
      exact hne
    · rw [if_neg hp] at hg
      exact h.level_ne p' queue' hg
  resting p' queue' hg := by
    rw [SortedMap.get?_insert] at hg
    by_cases hp : p' = p
    · rw [if_pos hp, Option.some.injEq] at hg
      rw [← hg, hp]
      exact hrest
    · rw [if_neg hp] at hg
      exact h.resting p' queue' hg

/-- Removing a level keeps a side valid. -/
theorem Valid.removeLevel (h : b.Valid s) (p : Price) :
    ({ b with levels := b.levels.erase p } : OrderBookSide).Valid s := by
  have hget : ∀ p' queue, (b.levels.erase p).get? p' = some queue →
      b.levels.get? p' = some queue := by
    intro p' queue hg
    by_cases hp : p' = p
    · rw [hp, SortedMap.get?_erase_self] at hg
      exact absurd hg (by simp only [reduceCtorEq, not_false_eq_true])
    · rwa [SortedMap.get?_erase_of_ne _ hp] at hg
  exact ⟨h.side_eq, fun p' queue hg => h.level_ne p' queue (hget p' queue hg),
    fun p' queue hg => h.resting p' queue (hget p' queue hg)⟩

/-- Setting a level changes the queue at its price only. -/
theorem level_setLevel (b : OrderBookSide) (p p' : Price) (queue : List Order) :
    ({ b with levels := b.levels.insert p queue } : OrderBookSide).level p'
      = if p' = p then queue else b.level p' := by
  by_cases hp : p' = p
  · rw [if_pos hp, hp, level, SortedMap.get?_insert_self, Option.getD_some]
  · rw [if_neg hp, level, SortedMap.get?_insert_of_ne _ _ hp]
    rfl

/-- And so does removing one. -/
theorem level_removeLevel (b : OrderBookSide) (p p' : Price) :
    ({ b with levels := b.levels.erase p } : OrderBookSide).level p'
      = if p' = p then [] else b.level p' := by
  by_cases hp : p' = p
  · rw [if_pos hp, hp, level, SortedMap.get?_erase_self, Option.getD_none]
  · rw [if_neg hp, level, SortedMap.get?_erase_of_ne _ hp]
    rfl

/-- A live order of the side's own is accepted into the level of its price. -/
theorem insertWith_eq (h : b.Valid s) {o : Order} (hside : o.side = s) (hlive : ¬ o.isTerminal)
    (ins : List Order → Order → List Order) :
    b.insertWith o ins
      = (.ok (), { b with levels := b.levels.insert o.price (ins (b.level o.price) o) }) := by
  rw [insertWith, if_neg (by rw [hside, h.side_eq]; exact not_not_intro rfl), if_neg hlive]

/-- Inserting a live order enqueues it by rank. -/
theorem insert_spec (h : b.Valid s) {o : Order} (hside : o.side = s) (hlive : ¬ o.isTerminal) :
    ∃ b', b.insert o = (.ok (), b') ∧ b'.Valid s ∧
      b'.orders = enqueue (Order.rankOn s) o b.orders := by
  have hvalid := h.setLevel o.price
    (List.append_ne_nil_of_right_ne_nil (b.level o.price) (List.cons_ne_nil o [])) (by
      intro x hx
      rcases List.mem_append.mp hx with hx | hx
      · exact h.level_rest hx
      · rw [List.mem_singleton.mp hx]
        exact ⟨hside, rfl, hlive⟩)
  refine ⟨_, insertWith_eq h hside hlive _, hvalid, ?_⟩
  -- Two sorted lists are equal when they agree at every price.
  refine eq_of_level hvalid (inOrder_enqueue _ (orders_inOrder h)) (fun p => ?_)
  rw [group_enqueue _ (orders_inOrder h), group_orders h, level_setLevel, Order.rankOn]
  by_cases hp : p = o.price
  · rw [if_pos hp, if_pos (by rw [hp]), hp]
  · rw [if_neg hp, if_neg (by rw [s.rank_inj]; exact Ne.symm hp)]

/-- Re-inserting a live order places it ahead of the orders of its price. -/
theorem reinsertFront_enqueues (h : b.Valid s) {o : Order} (hside : o.side = s)
    (hlive : ¬ o.isTerminal) :
    ∃ b', b.reinsertFront o = (.ok (), b') ∧ b'.Valid s ∧
      b'.orders = enqueueFront (Order.rankOn s) o b.orders := by
  have hvalid := h.setLevel o.price (List.cons_ne_nil o (b.level o.price)) (by
    intro x hx
    rcases List.mem_cons.mp hx with rfl | hx
    · exact ⟨hside, rfl, hlive⟩
    · exact h.level_rest hx)
  refine ⟨_, insertWith_eq h hside hlive _, hvalid, ?_⟩
  refine eq_of_level hvalid (inOrder_enqueueFront _ (orders_inOrder h)) (fun p => ?_)
  rw [group_enqueueFront _ (orders_inOrder h), group_orders h, level_setLevel, Order.rankOn]
  by_cases hp : p = o.price
  · rw [if_pos hp, if_pos (by rw [hp]), hp]
  · rw [if_neg hp, if_neg (by rw [s.rank_inj]; exact Ne.symm hp)]

/-- Re-inserting a live order no worse than any other puts it at the head. -/
theorem reinsertFront_spec (h : b.Valid s) {o : Order} (hside : o.side = s)
    (hlive : ¬ o.isTerminal) (hbest : ∀ x ∈ b.orders, o.rankOn s ≤ x.rankOn s) :
    ∃ b', b.reinsertFront o = (.ok (), b') ∧ b'.Valid s ∧ b'.orders = o :: b.orders := by
  rcases reinsertFront_enqueues h hside hlive with ⟨b', hreinsert, hvalid, horders⟩
  rw [enqueueFront_of_le _ hbest] at horders
  exact ⟨b', hreinsert, hvalid, horders⟩

/-- The head of the listing is the front of the best level, which is stored
    under its price. -/
theorem bestLevel_of_head (h : b.Valid s) {o : Order} {rest : List Order}
    (hl : b.orders = o :: rest) :
    ∃ tail, b.bestPrice = some o.price ∧ b.levels.get? o.price = some (o :: tail) := by
  have hhead := bestOrder_eq_head h
  rw [hl, List.head?_cons, bestOrder, bestLevel_eq_head] at hhead
  rcases Option.bind_eq_some_iff.mp hhead with ⟨⟨p, queue⟩, he, hq⟩
  rcases List.head?_eq_some_iff.mp hq with ⟨tail, rfl⟩
  have hg := (b.mem_ranked p (o :: tail)).mp (List.mem_of_mem_head? he)
  have hp : o.price = p := (h.resting p _ hg o List.mem_cons_self).2.1
  refine ⟨tail, ?_, ?_⟩
  · rw [bestPrice, bestLevel_eq_head, he, Option.map_some, hp]
  · rw [hp, hg]

/-- Popping the only order of the best level removes the level. -/
theorem popBestOrder_single {b : OrderBookSide} {p : Price} {o : Order}
    (hp : b.bestPrice = some p) (hg : b.levels.get? p = some [o]) :
    b.popBestOrder = (some o, { b with levels := b.levels.erase p }) := by
  simp only [popBestOrder, hp, hg]
  rfl

/-- Popping one order of several leaves the rest of the level. -/
theorem popBestOrder_several {b : OrderBookSide} {p : Price} {o x : Order} {tail : List Order}
    (hp : b.bestPrice = some p) (hg : b.levels.get? p = some (o :: x :: tail)) :
    b.popBestOrder = (some o, { b with levels := b.levels.insert p (x :: tail) }) := by
  simp only [popBestOrder, hp, hg]
  rfl

/-- Popping a side with an order on it takes the head of the listing. What is
    left of the best level is either nothing, and the level goes, or a shorter
    queue. -/
theorem popBestOrder_spec (h : b.Valid s) {o : Order} {rest : List Order}
    (hl : b.orders = o :: rest) :
    ∃ b', b.popBestOrder = (some o, b') ∧ b'.Valid s ∧ b'.orders = rest := by
  rcases bestLevel_of_head h hl with ⟨tail, hprice, hg⟩
  have hin : InOrder (Order.rankOn s) rest := by
    have := orders_inOrder h
    rw [hl] at this
    exact this.of_cons
  -- Below the head, the groups of the listing are the levels without it.
  have hgroup : ∀ p, group (Order.rankOn s) (s.rank p) rest
      = if p = o.price then tail else b.level p := by
    intro p
    have hp := group_orders h p
    rw [hl] at hp
    by_cases heq : p = o.price
    · rw [group, List.filter_cons_of_pos (by rw [decide_eq_true_eq, heq]; rfl), heq,
        level_of_get? hg, List.cons.injEq] at hp
      rw [if_pos heq, heq]
      exact hp.2
    · rw [group, List.filter_cons_of_neg (by
        rw [decide_eq_true_eq, Order.rankOn, s.rank_inj]
        exact Ne.symm heq)] at hp
      rw [if_neg heq]
      exact hp
  -- The level of the head is removed when the head was alone in it, and set to the rest
  -- otherwise.
  cases tail with
  | nil =>
      have hvalid := h.removeLevel o.price
      refine ⟨_, popBestOrder_single hprice hg, hvalid, eq_of_level hvalid hin (fun p => ?_)⟩
      rw [hgroup, level_removeLevel]
  | cons x tail =>
      have hvalid := h.setLevel o.price (List.cons_ne_nil x tail) (fun y hy =>
        h.resting o.price _ hg y (List.mem_cons_of_mem o hy))
      refine ⟨_, popBestOrder_several hprice hg, hvalid, eq_of_level hvalid hin (fun p => ?_)⟩
      rw [hgroup, level_setLevel]

/-- What is popped is the best order. -/
theorem popBestOrder_fst (b : OrderBookSide) : b.popBestOrder.1 = b.bestOrder := by
  rw [popBestOrder, bestOrder, bestPrice]
  cases hl : b.bestLevel with
  | none => rfl
  | some e =>
      rw [bestLevel_eq_head] at hl
      have hg : b.levels.get? e.1 = some e.2 := (b.mem_ranked _ _).mp (List.mem_of_mem_head? hl)
      simp only [Option.map_some, Option.bind_some, hg]

/-- A side that is not empty has a best price, that of its best order. -/
theorem bestPrice_of_not_isEmpty (h : b.Valid s) (hne : b.isEmpty = false) :
    ∃ o ∈ b.orders, b.bestPrice = some o.price := by
  cases hl : b.orders with
  | nil =>
      rw [(isEmpty_iff h).mpr hl] at hne
      exact absurd hne (by simp only [Bool.true_eq_false, not_false_eq_true])
  | cons o rest =>
      rcases bestLevel_of_head h hl with ⟨tail, hp, -⟩
      exact ⟨o, List.mem_cons_self, hp⟩

/-- No order rests exactly when every level is empty. -/
theorem orders_eq_nil_iff (b : OrderBookSide) : b.orders = [] ↔ ∀ p, b.level p = [] := by
  constructor
  · intro hnil p
    -- An order in a level would be listed.
    refine List.eq_nil_iff_forall_not_mem.mpr (fun o ho => ?_)
    cases hg : b.levels.get? p with
    | none =>
        rw [level, hg, Option.getD_none] at ho
        exact absurd ho List.not_mem_nil
    | some queue =>
        rw [level_of_get? hg] at ho
        have hmem := (b.mem_orders o).mpr ⟨p, queue, hg, ho⟩
        rw [hnil] at hmem
        exact absurd hmem List.not_mem_nil
  · intro hlevel
    refine List.eq_nil_iff_forall_not_mem.mpr (fun o ho => ?_)
    rcases (b.mem_orders o).mp ho with ⟨p, queue, hg, hq⟩
    rw [← level_of_get? hg, hlevel p] at hq
    exact absurd hq List.not_mem_nil

/-! ### Counting

The matching loop ends on every side, valid or not, because each turn takes
an order off. -/

/-- How many orders a side holds. -/
def orderCount (b : OrderBookSide) : Nat := b.levels.sumBy (fun _ queue => queue.length)

/-- Popping takes one order off, whether or not the side is valid. A level that
    is empty would have no best order, and the loop would stop there. -/
theorem popBestOrder_count {b : OrderBookSide} {o : Order} (h : b.bestOrder = some o) :
    ∃ b', b.popBestOrder = (some o, b') ∧ b'.orderCount + 1 = b.orderCount := by
  rcases Option.bind_eq_some_iff.mp h with ⟨⟨p, queue⟩, he, hq⟩
  rcases List.head?_eq_some_iff.mp hq with ⟨tail, rfl⟩
  have hprice : b.bestPrice = some p := by rw [bestPrice, he, Option.map_some]
  have hg : b.levels.get? p = some (o :: tail) := by
    rw [bestLevel_eq_head] at he
    exact (b.mem_ranked p _).mp (List.mem_of_mem_head? he)
  cases tail with
  -- The last order of a level takes the level with it.
  | nil =>
      exact ⟨_, popBestOrder_single hprice hg,
        SortedMap.sumBy_erase_of_some (fun _ queue => List.length queue) b.levels hg⟩
  | cons x tail =>
      refine ⟨_, popBestOrder_several hprice hg, ?_⟩
      have hsum := SortedMap.sumBy_insert_of_some (fun _ queue => List.length queue) b.levels
        (x :: tail) hg
      simp only [List.length_cons] at hsum
      unfold orderCount
      simp only
      omega

end OrderBookSide

end Exchange

end SolanaLab
