import Mathlib

/-!
# Priority Queues with Ties in Order of Arrival

A queue served by smallest key first, and among equal keys by order of
arrival, kept as a list in serving order.

Two descriptions of the same queue are related here. One knows nothing of
time: `enqueue` puts a newcomer behind every element whose key is no larger,
and order among equals is whatever the insertions made it. The other stamps
each element with the time it arrived and inserts by key and stamp, so its
serving order is spelled out by `Ahead`. `item_stampedInsert` says they agree
as long as the newcomer carries the latest stamp.

`eq_of_group` is the way in for a representation that stores one queue per
key: a list in key order is determined by its groups of equal keys, so two
such lists are equal once each of their groups is.

## Main definitions

* `InOrder`: A list in serving order.
* `group`: The elements of one key, in the order they stand.
* `enqueue`: A newcomer behind everything of its key or a smaller one.
* `enqueueFront`: A newcomer ahead of everything of its key or a larger one.
* `Stamped`: An element with its time of arrival.
* `Ahead`: Served no later: a smaller key, or the same key and no later
  arrival.
* `stampedInsert`: A newcomer placed by key and arrival.

## Theorems

* `inOrder_enqueue`: Enqueueing keeps the serving order.
* `group_enqueue`: A newcomer is last in its group and in no other.
* `enqueue_split`, `enqueueFront_split`: Where a newcomer goes.
* `group_enqueueFront`: A newcomer put ahead is first in its group.
* `group_erase`: Removing an element removes it from its group.
* `eq_of_group`: A list in order is determined by its groups.
* `ahead_stampedInsert`: Stamped insertion keeps the serving order.
* `item_stampedInsert`: The two descriptions agree on a latest arrival.
-/

namespace SolanaLab

namespace PriorityQueue

variable {α κ : Type} [LinearOrder κ] (key : α → κ)

/-- A list in serving order. -/
def InOrder (l : List α) : Prop := l.Pairwise (fun a b => key a ≤ key b)

/-- The elements of one key, in the order they stand. -/
def group (k : κ) (l : List α) : List α := l.filter (fun a => key a = k)

/-- A newcomer behind everything of its key or a smaller one. -/
def enqueue (x : α) (l : List α) : List α := l.orderedInsert (fun a b => key a < key b) x

theorem mem_enqueue {x a : α} {l : List α} : a ∈ enqueue key x l ↔ a = x ∨ a ∈ l :=
  List.mem_orderedInsert _

theorem inOrder_enqueue {x : α} {l : List α} (h : InOrder key l) :
    InOrder key (enqueue key x l) := by
  induction l with
  | nil => exact List.pairwise_singleton _ _
  | cons b l ih =>
      rw [enqueue, List.orderedInsert_cons]
      -- It goes before the first of a larger key, and after all of its own.
      by_cases hlt : key x < key b
      · rw [if_pos hlt]
        refine List.Pairwise.cons (fun a ha => ?_) h
        rcases List.mem_cons.mp ha with rfl | ha
        · exact le_of_lt hlt
        · exact le_trans (le_of_lt hlt) (List.rel_of_pairwise_cons h ha)
      · rw [if_neg hlt]
        refine List.Pairwise.cons (fun a ha => ?_) (ih h.of_cons)
        rcases (mem_enqueue key).mp ha with rfl | ha
        · exact not_lt.mp hlt
        · exact List.rel_of_pairwise_cons h ha

/-- A newcomer joins the end of its own group and leaves the others alone. -/
theorem group_enqueue {x : α} {l : List α} (h : InOrder key l) (k : κ) :
    group key k (enqueue key x l)
      = if key x = k then group key k l ++ [x] else group key k l := by
  induction l with
  | nil =>
      by_cases hk : key x = k
      · rw [if_pos hk]
        simp only [enqueue, List.orderedInsert_nil, group, hk, decide_true,
          List.filter_cons_of_pos, List.filter_nil, List.nil_append]
      · rw [if_neg hk]
        simp only [enqueue, List.orderedInsert_nil, group, hk, decide_false, Bool.false_eq_true,
          not_false_eq_true, List.filter_cons_of_neg, List.filter_nil]
  | cons b l ih =>
      have hrest := ih h.of_cons
      rw [enqueue, List.orderedInsert_cons]
      by_cases hlt : key x < key b
      · rw [if_pos hlt]
        by_cases hk : key x = k
        · -- Everything from `b` on has a larger key, so the group ends before it.
          have hnone : group key k (b :: l) = [] := by
            refine List.filter_eq_nil_iff.mpr (fun a ha => ?_)
            have hba : key b ≤ key a := by
              rcases List.mem_cons.mp ha with rfl | ha
              · exact le_refl _
              · exact List.rel_of_pairwise_cons h ha
            rw [decide_eq_true_eq, ← hk]
            exact ne_of_gt (lt_of_lt_of_le hlt hba)
          rw [if_pos hk, hnone, List.nil_append, group,
            List.filter_cons_of_pos (by rw [decide_eq_true_eq]; exact hk)]
          exact congrArg (x :: ·) hnone
        · rw [if_neg hk, group,
            List.filter_cons_of_neg (by rw [decide_eq_true_eq]; exact hk)]
          rfl
      -- The newcomer goes on down the list, and the element it passes stays in its own
      -- group.
      · rw [if_neg hlt]
        change group key k (b :: enqueue key x l) = _
        by_cases hb : key b = k
        · rw [group, List.filter_cons_of_pos (by rw [decide_eq_true_eq]; exact hb), group,
            List.filter_cons_of_pos (by rw [decide_eq_true_eq]; exact hb)]
          change b :: group key k (enqueue key x l) = _
          rw [hrest]
          by_cases hk : key x = k
          · rw [if_pos hk, if_pos hk, List.cons_append]
            rfl
          · rw [if_neg hk, if_neg hk]
            rfl
        · rw [group, List.filter_cons_of_neg (by rw [decide_eq_true_eq]; exact hb), group,
            List.filter_cons_of_neg (by rw [decide_eq_true_eq]; exact hb)]
          exact hrest

/-- A newcomer ahead of everything of its key or a larger one. -/
def enqueueFront (x : α) (l : List α) : List α := l.orderedInsert (fun a b => key a ≤ key b) x

theorem inOrder_enqueueFront {x : α} {l : List α} (h : InOrder key l) :
    InOrder key (enqueueFront key x l) := by
  have : Std.Total (fun a b : α => key a ≤ key b) := ⟨fun a b => le_total (key a) (key b)⟩
  have : IsTrans α (fun a b => key a ≤ key b) := ⟨fun _ _ _ => le_trans⟩
  exact h.orderedInsert x l

/-- A newcomer of no larger key than any other goes to the head. -/
theorem enqueueFront_of_le {x : α} {l : List α} (h : ∀ a ∈ l, key x ≤ key a) :
    enqueueFront key x l = x :: l := by
  cases l with
  | nil => rfl
  | cons b l =>
      rw [enqueueFront, List.orderedInsert_cons, if_pos (h b List.mem_cons_self)]

/-- Along a list in order, a test that fails once fails from there on when the
    smaller keys pass it. -/
theorem not_of_mem_dropWhile {p : α → Bool} (hp : ∀ a b, key a ≤ key b → p b = true → p a = true)
    {l : List α} (h : InOrder key l) : ∀ a ∈ l.dropWhile p, p a = false := by
  induction l with
  | nil => exact fun a ha => absurd ha List.not_mem_nil
  | cons b l ih =>
      by_cases hb : p b = true
      · rw [List.dropWhile_cons_of_pos hb]
        exact ih h.of_cons
      -- The test fails here, and all that follows has no smaller key.
      · rw [List.dropWhile_cons_of_neg hb]
        intro a ha
        rcases List.mem_cons.mp ha with rfl | ha
        · exact Bool.not_eq_true _ ▸ hb
        · exact Bool.eq_false_iff.mpr (fun hpa => hb (hp b a (List.rel_of_pairwise_cons h ha) hpa))

/-- Where enqueueing puts a newcomer: behind the elements of its key or a
    smaller one, ahead of the others. -/
theorem enqueue_split (x : α) {l : List α} (h : InOrder key l) :
    ∃ before after, l = before ++ after ∧ enqueue key x l = before ++ x :: after ∧
      (∀ a ∈ before, key a ≤ key x) ∧ ∀ a ∈ after, key x < key a := by
  refine ⟨_, _, (List.takeWhile_append_dropWhile).symm, List.orderedInsert_eq_take_drop _ x l,
    fun a ha => ?_, fun a ha => ?_⟩
  · have hpass := List.mem_takeWhile_imp ha
    exact not_lt.mp (of_decide_eq_true hpass)
  · have hfalse := not_of_mem_dropWhile key (fun a b hab hb => decide_eq_true
      (not_lt.mpr (le_trans hab (not_lt.mp (of_decide_eq_true hb))))) h a ha
    exact not_not.mp (of_decide_eq_false hfalse)

/-- Where a newcomer goes that is put ahead: behind the elements of a smaller
    key, ahead of the others. -/
theorem enqueueFront_split (x : α) {l : List α} (h : InOrder key l) :
    ∃ before after, l = before ++ after ∧ enqueueFront key x l = before ++ x :: after ∧
      (∀ a ∈ before, key a < key x) ∧ ∀ a ∈ after, key x ≤ key a := by
  refine ⟨_, _, (List.takeWhile_append_dropWhile).symm, List.orderedInsert_eq_take_drop _ x l,
    fun a ha => ?_, fun a ha => ?_⟩
  · have hpass := List.mem_takeWhile_imp ha
    exact not_le.mp (of_decide_eq_true hpass)
  · have hfalse := not_of_mem_dropWhile key (fun a b hab hb => decide_eq_true
      (not_le.mpr (lt_of_le_of_lt hab (not_le.mp (of_decide_eq_true hb))))) h a ha
    exact not_not.mp (of_decide_eq_false hfalse)

/-- A newcomer put ahead is first in its group and in no other. -/
theorem group_enqueueFront {x : α} {l : List α} (h : InOrder key l) (k : κ) :
    group key k (enqueueFront key x l)
      = if key x = k then x :: group key k l else group key k l := by
  rcases enqueueFront_split key x h with ⟨before, after, hl, hx, hbefore, -⟩
  rw [hx, hl, group, group, List.filter_append, List.filter_append]
  by_cases hk : key x = k
  · -- Nothing of the newcomer's key is ahead of it.
    have hnone : before.filter (fun a => decide (key a = k)) = [] := by
      refine List.filter_eq_nil_iff.mpr (fun a ha => ?_)
      rw [decide_eq_true_eq, ← hk]
      exact ne_of_lt (hbefore a ha)
    rw [if_pos hk, hnone, List.nil_append, List.nil_append,
      List.filter_cons_of_pos (by rw [decide_eq_true_eq]; exact hk)]
  · rw [if_neg hk, List.filter_cons_of_neg (by rw [decide_eq_true_eq]; exact hk)]

/-- Removing an element removes it from its group. -/
theorem group_erase [DecidableEq α] (a : α) (l : List α) (k : κ) :
    group key k (l.erase a) = (group key k l).erase a :=
  List.erase_filter.symm

theorem inOrder_erase [DecidableEq α] (a : α) {l : List α} (h : InOrder key l) :
    InOrder key (l.erase a) :=
  h.sublist List.erase_sublist

/-- An element of a list is in the group of its own key. -/
theorem mem_group_self (a : α) (l : List α) : a ∈ group key (key a) l ↔ a ∈ l := by
  rw [group, List.mem_filter, decide_eq_true_eq]
  exact and_iff_left rfl

/-- A list in serving order is determined by its groups. The head has the
    smallest key, so both lists start in the same group, and the head of a
    group is the head of the list. -/
theorem eq_of_group {l l' : List α} (h : InOrder key l) (h' : InOrder key l')
    (hg : ∀ k, group key k l = group key k l') : l = l' := by
  -- Lists with the same groups have the same elements.
  have hmem : ∀ a, a ∈ l ↔ a ∈ l' := by
    intro a
    rw [← mem_group_self key a l, ← mem_group_self key a l', hg]
  induction l generalizing l' with
  | nil =>
      refine (List.eq_nil_iff_forall_not_mem.mpr (fun a ha => ?_)).symm
      exact absurd ((hmem a).mpr ha) List.not_mem_nil
  | cons a t ih =>
      cases l' with
      | nil => exact absurd ((hmem a).mp List.mem_cons_self) List.not_mem_nil
      | cons b t' =>
          -- Each head is the least key of its list, so the two heads share their key.
          have hab : key a ≤ key b := by
            rcases List.mem_cons.mp ((hmem b).mpr List.mem_cons_self) with heq | hb
            · rw [heq]
            · exact List.rel_of_pairwise_cons h hb
          have hba : key b ≤ key a := by
            rcases List.mem_cons.mp ((hmem a).mp List.mem_cons_self) with heq | ha
            · rw [heq]
            · exact List.rel_of_pairwise_cons h' ha
          have hk : key a = key b := le_antisymm hab hba
          have hhead := hg (key b)
          rw [group, group, List.filter_cons_of_pos (by rw [decide_eq_true_eq]; exact hk),
            List.filter_cons_of_pos (by rw [decide_eq_true_eq]), List.cons.injEq] at hhead
          -- Without their common head the groups still agree.
          have hgt : ∀ k, group key k t = group key k t' := by
            intro k
            have hgk := hg k
            by_cases hbk : key b = k
            · rw [← hbk]
              exact hhead.2
            · have hak : ¬ key a = k := by rw [hk]; exact hbk
              rw [group, group, List.filter_cons_of_neg (by rw [decide_eq_true_eq]; exact hak),
                List.filter_cons_of_neg (by rw [decide_eq_true_eq]; exact hbk)] at hgk
              exact hgk
          have hmt : ∀ c, c ∈ t ↔ c ∈ t' := by
            intro c
            rw [← mem_group_self key c t, ← mem_group_self key c t', hgt]
          rw [hhead.1, ih h.of_cons h'.of_cons hgt hmt]

/-! ### Arrival times -/

/-- An element with the time it arrived. -/
structure Stamped (α : Type) where
  arrival : Nat
  item : α
deriving DecidableEq

/-- Served no later: a smaller key, or the same key and no later arrival. -/
def Ahead (a b : Stamped α) : Prop :=
  key a.item < key b.item ∨ (key a.item = key b.item ∧ a.arrival ≤ b.arrival)

instance (a b : Stamped α) : Decidable (Ahead key a b) := inferInstanceAs (Decidable (_ ∨ _))

instance : Std.Total (Ahead (α := α) key) where
  total a b := by
    rcases lt_trichotomy (key a.item) (key b.item) with h | h | h
    · exact Or.inl (Or.inl h)
    · rcases Nat.le_total a.arrival b.arrival with ht | ht
      · exact Or.inl (Or.inr ⟨h, ht⟩)
      · exact Or.inr (Or.inr ⟨h.symm, ht⟩)
    · exact Or.inr (Or.inl h)

instance : IsTrans (Stamped α) (Ahead key) where
  trans a b c hab hbc := by
    rcases hab with hab | ⟨hab, tab⟩ <;> rcases hbc with hbc | ⟨hbc, tbc⟩
    · exact Or.inl (lt_trans hab hbc)
    · exact Or.inl (by rw [← hbc]; exact hab)
    · exact Or.inl (by rw [hab]; exact hbc)
    · exact Or.inr ⟨hab.trans hbc, Nat.le_trans tab tbc⟩

/-- A newcomer placed by key and arrival. -/
def stampedInsert (x : Stamped α) (l : List (Stamped α)) : List (Stamped α) :=
  l.orderedInsert (Ahead key) x

theorem mem_stampedInsert {x a : Stamped α} {l : List (Stamped α)} :
    a ∈ stampedInsert key x l ↔ a = x ∨ a ∈ l :=
  List.mem_orderedInsert _

/-- A newcomer placed by key and arrival leaves everyone behind those ahead. -/
theorem ahead_stampedInsert {x : Stamped α} {l : List (Stamped α)}
    (h : l.Pairwise (Ahead key)) : (stampedInsert key x l).Pairwise (Ahead key) :=
  h.orderedInsert x l

/-- With the latest stamp, a newcomer goes behind every element of its key,
    which is where the unstamped queue puts it. -/
theorem item_stampedInsert {x : Stamped α} {l : List (Stamped α)}
    (hlate : ∀ a ∈ l, a.arrival < x.arrival) :
    (stampedInsert key x l).map Stamped.item = enqueue key x.item (l.map Stamped.item) := by
  induction l with
  | nil => rfl
  | cons b l ih =>
      have hb := hlate b List.mem_cons_self
      have hrest := ih (fun a ha => hlate a (List.mem_cons_of_mem b ha))
      rw [List.map_cons, stampedInsert, enqueue, List.orderedInsert_cons, List.orderedInsert_cons]
      -- The latest arrival is behind all of its key, as it is when enqueued.
      by_cases hlt : key x.item < key b.item
      · have hx : Ahead key x b := Or.inl hlt
        rw [if_pos hlt, if_pos hx]
        rfl
      · have hx : ¬ Ahead key x b := by
          rintro (h | ⟨-, h⟩)
          · exact hlt h
          · omega
        rw [if_neg hlt, if_neg hx, List.map_cons]
        exact congrArg (b.item :: ·) hrest

end PriorityQueue

end SolanaLab
