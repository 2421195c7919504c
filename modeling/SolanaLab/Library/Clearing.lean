import Mathlib.Data.List.Nodup
import Mathlib.Algebra.BigOperators.Group.List.Basic
import Mathlib.Algebra.Order.BigOperators.Group.List
import SolanaLab.Library.Run

/-!
# Clearing

A book of what is there to trade with, and what a trade does to it.

A trade moves an amount of each asset from a payer to a receiver, fills the
orders it is made for, and has an id. The book knows what each trader has of
each asset, how much of each order is filled, which orders are cancelled and
which ids are used. It takes a trade whose id is new, whose payers have what
they pay, whose receivers have room for what they get, and whose orders are
open and have enough left.

Whether a list of trades goes through depends on what each of them leaves for
the next. `Covers` is a condition on the book before the first one: what
anyone pays in all of them is there, what anyone gets in all of them has room,
and no order is filled beyond its limit by all of them together. Then every
trade is taken whatever the order they come in, since what a trader is paid
only helps (`covers_run`).

A trade reads the book at the traders, orders and ids it names only. `Agree`
says that two books are the same at those that are listed, and trades that
name nothing else cannot tell the two apart (`agree_step`).

## Main definitions

* `Trade`: What is paid, the orders that are filled and an id.
* `Book`: What is there to trade with.
* `Book.Accepts`: The book takes a trade.
* `Book.settle`, `Book.cancel`: The book after a trade and a cancellation.
* `step`: One request to the book.
* `Affords`, `Covers`: A list of trades is covered from the start.
* `Agree`: Two books are the same at all that is listed.

## Theorems

* `agree_step`: Books that agree on what a request names answer it alike.
* `Covers.perm`: The order of the trades does not matter.
* `covers_settle`: A covered list is covered after its first trade.
* `covers_run`: All trades of a covered list are taken.
-/

namespace SolanaLab

namespace Clearing

/-- A trade, in assets `α` between traders `τ`, for orders `ο` and with an id
    `ι`. Every order comes with the quantity up to which it may be filled. -/
structure Trade (α τ ο ι : Type) where
  id : ι
  payer : α → τ
  receiver : α → τ
  amount : α → Nat
  orders : List (ο × Nat)
  quantity : Nat

/-- What is there to trade with. -/
structure Book (α τ ο ι : Type) where
  available : α → τ → Nat
  filled : ο → Nat
  cancelled : ο → Bool
  settled : ι → Bool

/-- What the book is asked: to take a trade, or to cancel an order. -/
inductive Request (α τ ο ι : Type) where
  | settle (trade : Trade α τ ο ι)
  | cancel (order : ο)

variable {α τ ο ι : Type}

/-- A trade is made for an order. -/
def Trade.Names (trade : Trade α τ ο ι) (order : ο) : Prop := ∃ limit, (order, limit) ∈ trade.orders

/-- The book takes a trade. No trader may have `bound` or more of an asset. The
    book is asked about each side of the trade by itself, as it is before the
    trade. -/
structure Book.Accepts (bound : Nat) (book : Book α τ ο ι) (trade : Trade α τ ο ι) : Prop where
  parties : ∀ a, trade.payer a ≠ trade.receiver a
  fresh : book.settled trade.id = false
  funded : ∀ a, trade.amount a ≤ book.available a (trade.payer a)
  room : ∀ a, book.available a (trade.receiver a) + trade.amount a < bound
  opened : ∀ order limit, (order, limit) ∈ trade.orders → book.cancelled order = false
  limit : ∀ order limit, (order, limit) ∈ trade.orders →
    book.filled order + trade.quantity ≤ limit

/-! ### Amounts -/

section Amounts

variable [DecidableEq τ]

/-- What a trader pays of an asset in a trade. -/
def Trade.paid (trade : Trade α τ ο ι) (a : α) (trader : τ) : Nat :=
  if trader = trade.payer a then trade.amount a else 0

/-- What a trader receives of an asset in a trade. -/
def Trade.received (trade : Trade α τ ο ι) (a : α) (trader : τ) : Nat :=
  if trader = trade.receiver a then trade.amount a else 0

theorem Trade.paid_payer (trade : Trade α τ ο ι) (a : α) :
    trade.paid a (trade.payer a) = trade.amount a := by
  rw [Trade.paid, if_pos rfl]

theorem Trade.received_receiver (trade : Trade α τ ο ι) (a : α) :
    trade.received a (trade.receiver a) = trade.amount a := by
  rw [Trade.received, if_pos rfl]

/-- What a trader pays of an asset in a list of trades. -/
def paidIn (trades : List (Trade α τ ο ι)) (a : α) (trader : τ) : Nat :=
  (trades.map (fun trade => trade.paid a trader)).sum

/-- What a trader receives of an asset in a list of trades. -/
def receivedIn (trades : List (Trade α τ ο ι)) (a : α) (trader : τ) : Nat :=
  (trades.map (fun trade => trade.received a trader)).sum

theorem paidIn_cons (trade : Trade α τ ο ι) (trades : List (Trade α τ ο ι)) (a : α) (trader : τ) :
    paidIn (trade :: trades) a trader = trade.paid a trader + paidIn trades a trader := by
  rw [paidIn, List.map_cons, List.sum_cons, paidIn]

theorem receivedIn_cons (trade : Trade α τ ο ι) (trades : List (Trade α τ ο ι)) (a : α)
    (trader : τ) : receivedIn (trade :: trades) a trader
      = trade.received a trader + receivedIn trades a trader := by
  rw [receivedIn, List.map_cons, List.sum_cons, receivedIn]

theorem paidIn_perm {trades other : List (Trade α τ ο ι)} (h : other.Perm trades) (a : α)
    (trader : τ) : paidIn other a trader = paidIn trades a trader := (h.map _).sum_eq

theorem receivedIn_perm {trades other : List (Trade α τ ο ι)} (h : other.Perm trades) (a : α)
    (trader : τ) : receivedIn other a trader = receivedIn trades a trader := (h.map _).sum_eq

end Amounts

section Fills

variable [DecidableEq ο] {trade : Trade α τ ο ι}

instance (trade : Trade α τ ο ι) (order : ο) : Decidable (trade.Names order) :=
  decidable_of_iff (order ∈ trade.orders.map Prod.fst) (by
    simp only [List.mem_map, Prod.exists, exists_and_right, exists_eq_right, Trade.Names])

/-- How much a trade fills of an order. -/
def Trade.fills (trade : Trade α τ ο ι) (order : ο) : Nat :=
  if trade.Names order then trade.quantity else 0

theorem Trade.fills_of_names {order : ο} (h : trade.Names order) :
    trade.fills order = trade.quantity := by
  rw [Trade.fills, if_pos h]

theorem Trade.fills_of_not_names {order : ο} (h : ¬ trade.Names order) :
    trade.fills order = 0 := by
  rw [Trade.fills, if_neg h]

/-- How much a list of trades fills of an order. -/
def fillsIn (trades : List (Trade α τ ο ι)) (order : ο) : Nat :=
  (trades.map (fun trade => trade.fills order)).sum

theorem fillsIn_cons (trade : Trade α τ ο ι) (trades : List (Trade α τ ο ι)) (order : ο) :
    fillsIn (trade :: trades) order = trade.fills order + fillsIn trades order := by
  rw [fillsIn, List.map_cons, List.sum_cons, fillsIn]

theorem fillsIn_perm {trades other : List (Trade α τ ο ι)} (h : other.Perm trades) (order : ο) :
    fillsIn other order = fillsIn trades order := (h.map _).sum_eq

/-- The book after an order is cancelled. -/
def Book.cancel (book : Book α τ ο ι) (order : ο) : Book α τ ο ι :=
  { book with cancelled := fun o => if o = order then true else book.cancelled o }

theorem cancel_cancelled_self (book : Book α τ ο ι) (order : ο) :
    (book.cancel order).cancelled order = true := if_pos rfl

theorem cancel_cancelled_of_ne (book : Book α τ ο ι) {order o : ο} (h : o ≠ order) :
    (book.cancel order).cancelled o = book.cancelled o := if_neg h

end Fills

/-! ### Steps -/

section Steps

variable [DecidableEq τ] [DecidableEq ο] [DecidableEq ι]

/-- The book after a trade. -/
def Book.settle (book : Book α τ ο ι) (trade : Trade α τ ο ι) : Book α τ ο ι where
  available a trader := book.available a trader - trade.paid a trader + trade.received a trader
  filled order := book.filled order + trade.fills order
  cancelled := book.cancelled
  settled id := if id = trade.id then true else book.settled id

open Classical in
/-- One request, with the answer whether it is taken. -/
noncomputable def step (bound : Nat) (book : Book α τ ο ι) : Request α τ ο ι → Bool × Book α τ ο ι
  | .settle trade => if book.Accepts bound trade then (true, book.settle trade) else (false, book)
  | .cancel order => (true, book.cancel order)

/-- One request, if there is one. -/
noncomputable def stepIf (bound : Nat) (book : Book α τ ο ι) :
    Option (Request α τ ο ι) → Bool × Book α τ ο ι
  | some request => step bound book request
  | none => (false, book)

theorem step_settle_of_accepts {bound : Nat} {book : Book α τ ο ι} {trade : Trade α τ ο ι}
    (h : book.Accepts bound trade) : step bound book (.settle trade) = (true, book.settle trade) :=
  if_pos h

theorem step_settle_of_not {bound : Nat} {book : Book α τ ο ι} {trade : Trade α τ ο ι}
    (h : ¬ book.Accepts bound trade) : step bound book (.settle trade) = (false, book) := if_neg h

theorem settle_settled_self (book : Book α τ ο ι) (trade : Trade α τ ο ι) :
    (book.settle trade).settled trade.id = true := if_pos rfl

theorem settle_settled_of_ne (book : Book α τ ο ι) {trade : Trade α τ ο ι} {id : ι}
    (h : id ≠ trade.id) : (book.settle trade).settled id = book.settled id := if_neg h

/-- An id that is used stays used. -/
theorem settle_settled_of_settled {book : Book α τ ο ι} (trade : Trade α τ ο ι) {id : ι}
    (h : book.settled id = true) : (book.settle trade).settled id = true := by
  by_cases hid : id = trade.id
  · rw [hid]
    exact settle_settled_self book trade
  · rw [settle_settled_of_ne book hid]
    exact h

end Steps

/-! ### Books that agree -/

section Agree

variable {bound : Nat} {traders : τ → Prop} {orders : ο → Prop} {ids : ι → Prop}
  {book book' : Book α τ ο ι}

/-- Two books are the same at the traders, orders and ids that are listed. -/
structure Agree (traders : τ → Prop) (orders : ο → Prop) (ids : ι → Prop)
    (book book' : Book α τ ο ι) : Prop where
  available : ∀ a trader, traders trader → book.available a trader = book'.available a trader
  filled : ∀ order, orders order → book.filled order = book'.filled order
  cancelled : ∀ order, orders order → book.cancelled order = book'.cancelled order
  settled : ∀ id, ids id → book.settled id = book'.settled id

/-- All that a trade names is listed. -/
structure Trade.Listed (traders : τ → Prop) (orders : ο → Prop) (ids : ι → Prop)
    (trade : Trade α τ ο ι) : Prop where
  payer : ∀ a, traders (trade.payer a)
  receiver : ∀ a, traders (trade.receiver a)
  orders : ∀ order, trade.Names order → orders order
  id : ids trade.id

/-- All that a request names is listed. -/
def Request.Listed (traders : τ → Prop) (orders : ο → Prop) (ids : ι → Prop) :
    Request α τ ο ι → Prop
  | .settle trade => trade.Listed traders orders ids
  | .cancel order => orders order

theorem Agree.refl (traders : τ → Prop) (orders : ο → Prop) (ids : ι → Prop)
    (book : Book α τ ο ι) : Agree traders orders ids book book :=
  ⟨fun _ _ _ => rfl, fun _ _ => rfl, fun _ _ => rfl, fun _ _ => rfl⟩

theorem Agree.symm (h : Agree traders orders ids book book') :
    Agree traders orders ids book' book :=
  ⟨fun a trader ht => (h.available a trader ht).symm, fun order ho => (h.filled order ho).symm,
    fun order ho => (h.cancelled order ho).symm, fun id hi => (h.settled id hi).symm⟩

theorem Agree.trans {other : Book α τ ο ι} (h : Agree traders orders ids book book')
    (h' : Agree traders orders ids book' other) : Agree traders orders ids book other :=
  ⟨fun a trader ht => (h.available a trader ht).trans (h'.available a trader ht),
    fun order ho => (h.filled order ho).trans (h'.filled order ho),
    fun order ho => (h.cancelled order ho).trans (h'.cancelled order ho),
    fun id hi => (h.settled id hi).trans (h'.settled id hi)⟩

/-- A book that agrees with one that takes a trade takes it too. -/
theorem Agree.accepts (h : Agree traders orders ids book book') {trade : Trade α τ ο ι}
    (hlisted : trade.Listed traders orders ids) (haccepts : book.Accepts bound trade) :
    book'.Accepts bound trade where
  parties := haccepts.parties
  fresh := by
    rw [← h.settled _ hlisted.id]
    exact haccepts.fresh
  funded a := by
    rw [← h.available a _ (hlisted.payer a)]
    exact haccepts.funded a
  room a := by
    rw [← h.available a _ (hlisted.receiver a)]
    exact haccepts.room a
  opened order limit hmem := by
    rw [← h.cancelled order (hlisted.orders order ⟨limit, hmem⟩)]
    exact haccepts.opened order limit hmem
  limit order limit hmem := by
    rw [← h.filled order (hlisted.orders order ⟨limit, hmem⟩)]
    exact haccepts.limit order limit hmem

/-- Books that agree do so after the same cancellation. The order need not be
    listed. -/
theorem Agree.cancel [DecidableEq ο] (h : Agree traders orders ids book book') (order : ο) :
    Agree traders orders ids (book.cancel order) (book'.cancel order) where
  available := h.available
  filled := h.filled
  cancelled o ho := by
    simp only [Book.cancel, h.cancelled o ho]
  settled := h.settled

variable [DecidableEq τ] [DecidableEq ο] [DecidableEq ι]

theorem Agree.settle (h : Agree traders orders ids book book') (trade : Trade α τ ο ι) :
    Agree traders orders ids (book.settle trade) (book'.settle trade) where
  available a trader ht := by
    simp only [Book.settle, h.available a trader ht]
  filled order ho := by
    simp only [Book.settle, h.filled order ho]
  cancelled order ho := h.cancelled order ho
  settled id hi := by
    simp only [Book.settle, h.settled id hi]

/-- Books that agree on all that a request names answer it alike and agree
    afterwards. -/
theorem agree_step (h : Agree traders orders ids book book') {request : Request α τ ο ι}
    (hlisted : request.Listed traders orders ids) :
    (step bound book request).1 = (step bound book' request).1 ∧
      Agree traders orders ids (step bound book request).2 (step bound book' request).2 := by
  cases request with
  | cancel order => exact ⟨rfl, h.cancel order⟩
  | settle trade =>
      by_cases haccepts : book.Accepts bound trade
      · have haccepts' := h.accepts hlisted haccepts
        rw [step_settle_of_accepts haccepts, step_settle_of_accepts haccepts']
        exact ⟨rfl, h.settle trade⟩
      · have haccepts' : ¬ book'.Accepts bound trade :=
          fun h' => haccepts (h.symm.accepts hlisted h')
        rw [step_settle_of_not haccepts, step_settle_of_not haccepts']
        exact ⟨rfl, h⟩

/-- The same for a request that may be missing. -/
theorem agree_stepIf (h : Agree traders orders ids book book') {request : Option (Request α τ ο ι)}
    (hlisted : ∀ r, request = some r → r.Listed traders orders ids) :
    (stepIf bound book request).1 = (stepIf bound book' request).1 ∧
      Agree traders orders ids (stepIf bound book request).2 (stepIf bound book' request).2 := by
  cases request with
  | none => exact ⟨rfl, h⟩
  | some r => exact agree_step h (hlisted r rfl)

end Agree

/-! ### Lists that are covered -/

section Covers

variable [DecidableEq τ] [DecidableEq ο] {bound : Nat} {book : Book α τ ο ι}
  {trade : Trade α τ ο ι} {trades : List (Trade α τ ο ι)}

/-- The book affords a list of trades from the start. Nobody counts on what an
    earlier trade pays, and everybody has room for all that is paid. -/
structure Affords (bound : Nat) (book : Book α τ ο ι) (trades : List (Trade α τ ο ι)) : Prop where
  fresh : ∀ trade ∈ trades, book.settled trade.id = false
  funded : ∀ trade ∈ trades, ∀ a,
    paidIn trades a (trade.payer a) ≤ book.available a (trade.payer a)
  room : ∀ trade ∈ trades, ∀ a,
    book.available a (trade.receiver a) + receivedIn trades a (trade.receiver a) < bound
  opened : ∀ trade ∈ trades, ∀ order limit, (order, limit) ∈ trade.orders →
    book.cancelled order = false
  limit : ∀ trade ∈ trades, ∀ order limit, (order, limit) ∈ trade.orders →
    book.filled order + fillsIn trades order ≤ limit

/-- A list of trades is covered: the book affords it, its trades are between
    different traders and no two of them have one id. -/
structure Covers (bound : Nat) (book : Book α τ ο ι) (trades : List (Trade α τ ο ι)) : Prop
    extends Affords bound book trades where
  parties : ∀ trade ∈ trades, ∀ a, trade.payer a ≠ trade.receiver a
  distinct : (trades.map Trade.id).Nodup

/-- What is covered does not depend on the order the trades come in. -/
theorem Covers.perm {other : List (Trade α τ ο ι)} (h : Covers bound book trades)
    (hperm : other.Perm trades) : Covers bound book other := by
  have hmem : ∀ t ∈ other, t ∈ trades := fun t ht => hperm.mem_iff.mp ht
  refine ⟨⟨fun t ht => h.fresh t (hmem t ht), fun t ht a => ?_, fun t ht a => ?_,
    fun t ht => h.opened t (hmem t ht), fun t ht order limit ho => ?_⟩,
    fun t ht => h.parties t (hmem t ht), (hperm.map _).nodup_iff.mpr h.distinct⟩
  · rw [paidIn_perm hperm]
    exact h.funded t (hmem t ht) a
  · rw [receivedIn_perm hperm]
    exact h.room t (hmem t ht) a
  · rw [fillsIn_perm hperm]
    exact h.limit t (hmem t ht) order limit ho

/-- The first trade of a covered list is taken. -/
theorem covers_accepts (h : Covers bound book (trade :: trades)) : book.Accepts bound trade where
  parties := h.parties trade List.mem_cons_self
  fresh := h.fresh trade List.mem_cons_self
  funded a := by
    have hall := h.funded trade List.mem_cons_self a
    rw [paidIn_cons, trade.paid_payer] at hall
    omega
  room a := by
    have hall := h.room trade List.mem_cons_self a
    rw [receivedIn_cons, trade.received_receiver] at hall
    omega
  opened := h.opened trade List.mem_cons_self
  limit order limit hmem := by
    have hall := h.limit trade List.mem_cons_self order limit hmem
    rw [fillsIn_cons, Trade.fills_of_names ⟨limit, hmem⟩] at hall
    omega

variable [DecidableEq ι]

/-- A book that takes a trade moves its amounts. -/
theorem settle_available (h : book.Accepts bound trade) (a : α) (trader : τ) :
    (book.settle trade).available a trader + trade.paid a trader
      = book.available a trader + trade.received a trader := by
  have hfunded := h.funded a
  have hpaid : trade.paid a trader ≤ book.available a trader := by
    unfold Trade.paid
    split
    · rename_i heq
      rw [heq]
      exact hfunded
    · exact Nat.zero_le _
  unfold Book.settle
  simp only
  omega

/-- A covered list is covered after its first trade. -/
theorem covers_settle (h : Covers bound book (trade :: trades)) :
    Covers bound (book.settle trade) trades := by
  have haccepts := covers_accepts h
  have hmem : ∀ t ∈ trades, t ∈ trade :: trades := fun t ht => List.mem_cons_of_mem trade ht
  have hids := List.nodup_cons.mp h.distinct
  -- What the whole list needed of the book, the rest of it needs of the book that is
  -- left.
  refine ⟨⟨fun t ht => ?_, fun t ht a => ?_, fun t ht a => ?_,
    fun t ht => h.opened t (hmem t ht), fun t ht order limit ho => ?_⟩,
    fun t ht => h.parties t (hmem t ht), hids.2⟩
  · have hne : t.id ≠ trade.id := by
      intro heq
      exact hids.1 (heq ▸ List.mem_map_of_mem ht)
    rw [settle_settled_of_ne book hne]
    exact h.fresh t (hmem t ht)
  · -- What the first trade took is no longer to be paid, and what it gave only helps.
    have hall := h.funded t (hmem t ht) a
    have hmoved := settle_available haccepts a (t.payer a)
    rw [paidIn_cons] at hall
    omega
  · have hall := h.room t (hmem t ht) a
    have hmoved := settle_available haccepts a (t.receiver a)
    rw [receivedIn_cons] at hall
    omega
  · have hall := h.limit t (hmem t ht) order limit ho
    rw [fillsIn_cons] at hall
    change book.filled order + trade.fills order + fillsIn trades order ≤ limit
    omega

/-- Requests that are all there are answered as they are. -/
theorem stepIf_run (bound : Nat) (book : Book α τ ο ι) (requests : List (Request α τ ο ι)) :
    (Run.log (step bound) book requests).map Prod.snd
        = (Run.log (stepIf bound) book (requests.map some)).map Prod.snd ∧
      Run.after (step bound) book requests = Run.after (stepIf bound) book (requests.map some) :=
  Run.simulation_map (step bound) some id id (C := fun _ => True) (R := Eq) rfl
    (fun _ _ _ h _ => h ▸ ⟨rfl, rfl⟩) (fun _ _ => trivial)

/-- All trades of a covered list are taken. In the end everyone has paid and
    received what the trades say, and the orders are filled by them. -/
theorem covers_run (h : Covers bound book trades) :
    let past := Run.log (step bound) book (trades.map Request.settle)
    let last := Run.after (step bound) book (trades.map Request.settle)
    (∀ entry ∈ past, entry.2 = true) ∧
    (∀ a trader, last.available a trader + paidIn trades a trader
      = book.available a trader + receivedIn trades a trader) ∧
    (∀ order, last.filled order = book.filled order + fillsIn trades order) ∧
    ∀ trade ∈ trades, last.settled trade.id = true := by
  induction trades generalizing book with
  | nil =>
      exact ⟨fun _ hentry => absurd hentry List.not_mem_nil, fun _ _ => rfl, fun _ => rfl,
        fun _ ht => absurd ht List.not_mem_nil⟩
  | cons trade rest ih =>
      have haccepts := covers_accepts h
      have hstep := step_settle_of_accepts haccepts
      rcases ih (covers_settle h) with ⟨htaken, hmoved, hfilled, hsettled⟩
      -- The run goes on from the book after the first trade, which covers the rest.
      have hafter : Run.after (step bound) book ((trade :: rest).map Request.settle)
          = Run.after (step bound) (book.settle trade) (rest.map Request.settle) := by
        rw [List.map_cons, Run.after, List.foldl_cons, hstep, Run.after]
      have hlog : Run.log (step bound) book ((trade :: rest).map Request.settle)
          = (.settle trade, true) :: Run.log (step bound) (book.settle trade)
            (rest.map Request.settle) := by
        rw [List.map_cons, Run.log, hstep]
      -- An id that is used stays used.
      have hkept : ∀ (book : Book α τ ο ι) id, book.settled id = true →
          (Run.after (step bound) book (rest.map Request.settle)).settled id = true := by
        intro book id hid
        refine Run.invariant (P := fun _ (b : Book α τ ο ι) => b.settled id = true) _ hid
          (fun past b request hb => ?_) _
        cases request with
        | cancel order => exact hb
        | settle t =>
            by_cases ht : b.Accepts bound t
            · rw [step_settle_of_accepts ht]
              exact settle_settled_of_settled t hb
            · rw [step_settle_of_not ht]
              exact hb
      refine ⟨?_, fun a trader => ?_, fun order => ?_, fun t ht => ?_⟩
      · rw [hlog]
        intro entry hentry
        rcases List.mem_cons.mp hentry with rfl | hrest
        · rfl
        · exact htaken entry hrest
      · have hfirst := settle_available haccepts a trader
        have hthen := hmoved a trader
        rw [hafter, paidIn_cons, receivedIn_cons]
        omega
      · have hthen := hfilled order
        rw [hafter, hthen, fillsIn_cons]
        change book.filled order + trade.fills order + fillsIn rest order = _
        omega
      · rw [hafter]
        rcases List.mem_cons.mp ht with rfl | hrest
        · exact hkept _ _ (settle_settled_self book t)
        · exact hsettled t hrest

end Covers

end Clearing

end SolanaLab
