import Mathlib

/-!
# Ordered Finite Maps

Finite maps kept as a list of entries in strictly increasing key order. The
order is a field of the structure, so two maps with the same lookups are the
same value: equality of maps is equality of contents, and a map can be
compared, copied and rebuilt without a well-formedness side condition.

Lookup is the interface. `mem_entries` says that an entry is listed exactly
when its key looks it up, and everything about insertion and removal is
stated through `get?`. The entries themselves matter twice: their two ends
are the smallest and the largest key, and `sumBy` adds a quantity up over
them. `sumBy_insert_of_some` and its two companions say how one write changes
such a total, which is what an accounting argument over a map needs.

## Main definitions

* `SortedMap`: A finite map with its entries in key order.
* `get?`: The value of a key, if it has one.
* `insert`: A map with one key set.
* `erase`: A map with one key removed.
* `mapEntries`: A map with the value of every key rewritten.
* `first?`: The entry with the smallest key.
* `last?`: The entry with the largest key.
* `sumBy`: A quantity added up over the entries.
* `Everywhere`: Every entry meets a condition.

## Theorems

* `mem_entries`: Entries are what lookups return.
* `ext_get?`: Maps with the same lookups are equal.
* `get?_insert_self`: An inserted key has its new value.
* `get?_insert_of_ne`: Other keys are untouched by an insertion.
* `get?_erase_self`: A removed key has no value.
* `get?_erase_of_ne`: Other keys are untouched by a removal.
* `get?_mapEntries`: Each key has its own value rewritten.
* `get?_insert_of_some`: A new key leaves the others.
* `insert_get?`: Writing back the value a key has changes nothing.
* `sumBy_insert_of_none`: A new entry adds its quantity.
* `sumBy_insert_of_some`: A replaced entry trades its quantity.
* `sumBy_erase_of_some`: A removed entry takes its quantity away.
* `sumBy_eq_single`: A quantity of one entry only is the total.
* `sumBy_le_sumBy`: Totals are ordered as the quantities are.
* `sumBy_eq_of_get?`: Maps that agree where the quantity is have one total.
* `everywhere_insert`: Writing an entry that meets a condition keeps it.
-/

namespace SolanaLab

/-- A finite map, with its entries in strictly increasing key order. -/
@[ext]
structure SortedMap (κ : Type) [LinearOrder κ] (υ : Type) where
  entries : List (κ × υ)
  sorted : entries.Pairwise (fun a b => a.1 < b.1)
deriving DecidableEq

namespace SortedMap

variable {κ υ : Type} [LinearOrder κ]

/-- The map with no entries. -/
def empty : SortedMap κ υ := ⟨[], List.Pairwise.nil⟩

/-- The value of a key, if it has one. -/
def get? (m : SortedMap κ υ) (k : κ) : Option υ :=
  (m.entries.find? (fun e => e.1 = k)).map Prod.snd

/-- Put an entry where its key belongs, in place of an entry with that key. -/
def insertEntry (k : κ) (v : υ) : List (κ × υ) → List (κ × υ)
  | [] => [(k, v)]
  | e :: rest =>
    if k < e.1 then (k, v) :: e :: rest
    else if e.1 < k then e :: insertEntry k v rest
    else (k, v) :: rest

/-- An insertion adds its entry and keeps those of other keys. -/
theorem mem_insertEntry {k : κ} {v : υ} {l : List (κ × υ)}
    (hs : l.Pairwise (fun a b => a.1 < b.1)) (e : κ × υ) :
    e ∈ insertEntry k v l ↔ e = (k, v) ∨ (e.1 ≠ k ∧ e ∈ l) := by
  induction l with
  | nil =>
      simp only [insertEntry, List.mem_singleton, List.not_mem_nil, and_false, or_false]
  | cons d rest ih =>
      have hrest := ih hs.of_cons
      have hlt : ∀ x ∈ rest, d.1 < x.1 := fun x hx => List.rel_of_pairwise_cons hs hx
      unfold insertEntry
      by_cases h1 : k < d.1
      · rw [if_pos h1, List.mem_cons]
        -- Every key from here on is greater.
        have hne : ∀ x ∈ d :: rest, x.1 ≠ k := by
          intro x hx
          rcases List.mem_cons.mp hx with rfl | hx
          · exact ne_of_gt h1
          · exact ne_of_gt (lt_trans h1 (hlt x hx))
        constructor
        · rintro (rfl | he)
          · exact Or.inl rfl
          · exact Or.inr ⟨hne e he, he⟩
        · rintro (rfl | ⟨-, he⟩)
          · exact Or.inl rfl
          · exact Or.inr he
      · rw [if_neg h1]
        by_cases h2 : d.1 < k
        -- The entry belongs further on.
        · rw [if_pos h2, List.mem_cons, hrest, List.mem_cons]
          constructor
          · rintro (rfl | rfl | ⟨hk, he⟩)
            · exact Or.inr ⟨ne_of_lt h2, Or.inl rfl⟩
            · exact Or.inl rfl
            · exact Or.inr ⟨hk, Or.inr he⟩
          · rintro (rfl | ⟨hk, rfl | he⟩)
            · exact Or.inr (Or.inl rfl)
            · exact Or.inl rfl
            · exact Or.inr (Or.inr ⟨hk, he⟩)
        · rw [if_neg h2, List.mem_cons, List.mem_cons]
          -- The keys are equal, so the entry is replaced.
          have hkd : d.1 = k := le_antisymm (not_lt.mp h1) (not_lt.mp h2)
          constructor
          · rintro (rfl | he)
            · exact Or.inl rfl
            · exact Or.inr ⟨by rw [← hkd]; exact ne_of_gt (hlt e he), Or.inr he⟩
          · rintro (rfl | ⟨hk, rfl | he⟩)
            · exact Or.inl rfl
            · exact absurd hkd hk
            · exact Or.inr he

theorem sorted_insertEntry (k : κ) (v : υ) {l : List (κ × υ)}
    (hs : l.Pairwise (fun a b => a.1 < b.1)) :
    (insertEntry k v l).Pairwise (fun a b => a.1 < b.1) := by
  induction l with
  | nil => exact List.pairwise_singleton _ _
  | cons d rest ih =>
      have hlt : ∀ x ∈ rest, d.1 < x.1 := fun x hx => List.rel_of_pairwise_cons hs hx
      unfold insertEntry
      by_cases h1 : k < d.1
      · rw [if_pos h1]
        refine List.Pairwise.cons (fun x hx => ?_) hs
        rcases List.mem_cons.mp hx with rfl | hx
        · exact h1
        · exact lt_trans h1 (hlt x hx)
      · rw [if_neg h1]
        by_cases h2 : d.1 < k
        · rw [if_pos h2]
          refine List.Pairwise.cons (fun x hx => ?_) (ih hs.of_cons)
          rcases (mem_insertEntry hs.of_cons x).mp hx with rfl | ⟨-, hx⟩
          · exact h2
          · exact hlt x hx
        · rw [if_neg h2]
          -- The entry takes the place of the one with its key.
          have hkd : d.1 = k := le_antisymm (not_lt.mp h1) (not_lt.mp h2)
          refine List.Pairwise.cons (fun x hx => ?_) hs.of_cons
          rw [← hkd]
          exact hlt x hx

/-- An entry whose key is above all others goes to the end. -/
theorem insertEntry_last (k : κ) (v : υ) {l : List (κ × υ)} (h : ∀ e ∈ l, e.1 < k) :
    insertEntry k v l = l ++ [(k, v)] := by
  induction l with
  | nil => rfl
  | cons e rest ih =>
      rw [List.forall_mem_cons] at h
      rw [insertEntry, if_neg (not_lt.mpr h.1.le), if_pos h.1, ih h.2, List.cons_append]

/-- The map with one key set. -/
def insert (m : SortedMap κ υ) (k : κ) (v : υ) : SortedMap κ υ :=
  ⟨insertEntry k v m.entries, sorted_insertEntry k v m.sorted⟩

/-- The map with one key removed. -/
def erase (m : SortedMap κ υ) (k : κ) : SortedMap κ υ :=
  ⟨m.entries.filter (fun e => e.1 ≠ k), m.sorted.filter _⟩

/-- The map with the value of every key rewritten. -/
def mapEntries (f : κ → υ → υ) (m : SortedMap κ υ) : SortedMap κ υ :=
  ⟨m.entries.map (fun e => (e.1, f e.1 e.2)), List.pairwise_map.mpr m.sorted⟩

/-- The entry with the smallest key. -/
def first? (m : SortedMap κ υ) : Option (κ × υ) := m.entries.head?

/-- The entry with the largest key. -/
def last? (m : SortedMap κ υ) : Option (κ × υ) := m.entries.getLast?

/-- There are no entries. -/
def isEmpty (m : SortedMap κ υ) : Bool := m.entries.isEmpty

/-- The number of entries. -/
def size (m : SortedMap κ υ) : Nat := m.entries.length

/-! ### Lookup -/

/-- Two entries with one key are one entry, the keys being strictly ordered. -/
theorem entry_unique (m : SortedMap κ υ) {a b : κ × υ} (ha : a ∈ m.entries)
    (hb : b ∈ m.entries) (hk : a.1 = b.1) : a = b := by
  have hnd : (m.entries.map Prod.fst).Nodup :=
    List.pairwise_map.mpr (m.sorted.imp (fun h => ne_of_lt h))
  exact List.inj_on_of_nodup_map hnd ha hb hk

/-- An entry is listed exactly when its key looks it up. -/
theorem mem_entries (m : SortedMap κ υ) (k : κ) (v : υ) :
    (k, v) ∈ m.entries ↔ m.get? k = some v := by
  unfold get?
  constructor
  · intro h
    cases hf : m.entries.find? (fun e => e.1 = k) with
    | none =>
        have := List.find?_eq_none.mp hf (k, v) h
        simp only [decide_true, not_true_eq_false] at this
    -- Keys are unique, so the entry found is the entry asked about.
    | some e =>
        have hek : e.1 = k := by simpa only [decide_eq_true_eq] using List.find?_some hf
        have hev := m.entry_unique (List.mem_of_find?_eq_some hf) h hek
        rw [hev, Option.map_some]
  · intro h
    rcases Option.map_eq_some_iff.mp h with ⟨e, hf, rfl⟩
    have hek : e.1 = k := by simpa only [decide_eq_true_eq] using List.find?_some hf
    rw [← hek]
    exact List.mem_of_find?_eq_some hf

theorem get?_eq_none (m : SortedMap κ υ) (k : κ) :
    m.get? k = none ↔ ∀ e ∈ m.entries, e.1 ≠ k := by
  constructor
  · intro h e he hk
    have := (m.mem_entries e.1 e.2).mp he
    rw [hk, h] at this
    exact absurd this (by simp only [reduceCtorEq, not_false_eq_true])
  · intro h
    cases hg : m.get? k with
    | none => rfl
    | some v => exact absurd rfl (h (k, v) ((m.mem_entries k v).mpr hg))

@[simp] theorem get?_empty (k : κ) : (empty : SortedMap κ υ).get? k = none := rfl

/-- Maps with the same lookups are equal: sorted lists with the same members
    are the same list. -/
theorem ext_get? {m m' : SortedMap κ υ} (h : ∀ k, m.get? k = m'.get? k) : m = m' := by
  have hmem : ∀ e, e ∈ m.entries ↔ e ∈ m'.entries := by
    intro e
    rw [← Prod.mk.eta (p := e), mem_entries, mem_entries, h]
  have hnd : ∀ x : SortedMap κ υ, x.entries.Nodup := fun x =>
    x.sorted.imp (fun hlt heq => absurd (congrArg Prod.fst heq) (ne_of_lt hlt))
  have hperm : m.entries.Perm m'.entries :=
    (List.perm_ext_iff_of_nodup (hnd m) (hnd m')).mpr hmem
  ext1
  exact hperm.eq_of_pairwise (fun a b _ _ hab hba => absurd hab (not_lt.mpr (le_of_lt hba)))
    m.sorted m'.sorted

@[simp] theorem get?_insert_self (m : SortedMap κ υ) (k : κ) (v : υ) :
    (m.insert k v).get? k = some v := by
  rw [← mem_entries]
  exact (mem_insertEntry m.sorted (k, v)).mpr (Or.inl rfl)

theorem get?_insert_of_ne (m : SortedMap κ υ) {k k' : κ} (v : υ) (h : k' ≠ k) :
    (m.insert k v).get? k' = m.get? k' := by
  ext x
  rw [← mem_entries, ← mem_entries]
  constructor
  · intro hx
    rcases (mem_insertEntry m.sorted (k', x)).mp hx with heq | ⟨-, hx⟩
    · exact absurd (congrArg Prod.fst heq) h
    · exact hx
  · intro hx
    exact (mem_insertEntry m.sorted (k', x)).mpr (Or.inr ⟨h, hx⟩)

/-- Lookup after an insertion, in one equation. -/
theorem get?_insert (m : SortedMap κ υ) (k k' : κ) (v : υ) :
    (m.insert k v).get? k' = if k' = k then some v else m.get? k' := by
  by_cases h : k' = k
  · rw [if_pos h, h, get?_insert_self]
  · rw [if_neg h, get?_insert_of_ne m v h]

@[simp] theorem get?_erase_self (m : SortedMap κ υ) (k : κ) : (m.erase k).get? k = none := by
  rw [get?_eq_none]
  intro e he
  simpa only [decide_eq_true_eq] using (List.mem_filter.mp he).2

theorem get?_erase_of_ne (m : SortedMap κ υ) {k k' : κ} (h : k' ≠ k) :
    (m.erase k).get? k' = m.get? k' := by
  ext x
  rw [← mem_entries, ← mem_entries]
  constructor
  · intro hx
    exact (List.mem_filter.mp hx).1
  · intro hx
    exact List.mem_filter.mpr ⟨hx, by simpa only [decide_eq_true_eq] using h⟩

theorem get?_mapEntries (f : κ → υ → υ) (m : SortedMap κ υ) (k : κ) :
    (m.mapEntries f).get? k = (m.get? k).map (f k) := by
  ext x
  rw [← mem_entries, Option.map_eq_some_iff]
  constructor
  · intro hx
    rcases List.mem_map.mp hx with ⟨e, he, heq⟩
    rw [Prod.mk.injEq] at heq
    rw [← heq.1, ← heq.2]
    exact ⟨e.2, (m.mem_entries e.1 e.2).mp he, rfl⟩
  · rintro ⟨v, hv, rfl⟩
    exact List.mem_map.mpr ⟨(k, v), (m.mem_entries k v).mpr hv, rfl⟩

/-- A key that has no value after an insertion is another one and had none. -/
theorem get?_insert_eq_none (m : SortedMap κ υ) {k k' : κ} {v : υ} :
    (m.insert k v).get? k' = none ↔ k' ≠ k ∧ m.get? k' = none := by
  rw [get?_insert]
  by_cases h : k' = k
  · rw [if_pos h]
    simp only [reduceCtorEq, h, ne_eq, not_true_eq_false, false_and]
  · rw [if_neg h]
    simp only [ne_eq, h, not_false_eq_true, true_and]

/-- A key with a value is another one than a key without. -/
theorem ne_of_get? {m : SortedMap κ υ} {k k' : κ} {v : υ} (h : m.get? k = some v)
    (hnone : m.get? k' = none) : k ≠ k' := by
  intro heq
  rw [heq, hnone] at h
  exact absurd h (by simp only [reduceCtorEq, not_false_eq_true])

/-- What is written at a key without a value leaves the others. -/
theorem get?_insert_of_some {m : SortedMap κ υ} {k k' : κ} {v v' : υ} (h : m.get? k = some v)
    (hnone : m.get? k' = none) : (m.insert k' v').get? k = some v := by
  rw [get?_insert_of_ne _ _ (ne_of_get? h hnone)]
  exact h

/-- Writing back the value a key already has changes nothing. -/
theorem insert_get? (m : SortedMap κ υ) {k : κ} {v : υ} (h : m.get? k = some v) :
    m.insert k v = m := by
  refine ext_get? (fun k' => ?_)
  rw [get?_insert]
  by_cases hk : k' = k
  · rw [if_pos hk, hk, h]
  · rw [if_neg hk]

/-! ### Emptiness -/

theorem isEmpty_iff (m : SortedMap κ υ) : m.isEmpty = true ↔ ∀ k, m.get? k = none := by
  unfold isEmpty
  rw [List.isEmpty_iff]
  constructor
  · intro h k
    rw [get?_eq_none, h]
    intro e he
    exact absurd he List.not_mem_nil
  · intro h
    refine List.eq_nil_iff_forall_not_mem.mpr (fun e he => ?_)
    exact (m.get?_eq_none e.1).mp (h e.1) e he rfl

/-! ### Totals -/

section Totals

variable {M : Type} [AddCommMonoid M]

/-- A quantity added up over the entries. -/
def sumBy (f : κ → υ → M) (m : SortedMap κ υ) : M := (m.entries.map (fun e => f e.1 e.2)).sum

/-- A new key adds its quantity to the total. -/
theorem sumBy_insert_of_none (f : κ → υ → M) (m : SortedMap κ υ) {k : κ} (v : υ)
    (h : m.get? k = none) : (m.insert k v).sumBy f = m.sumBy f + f k v := by
  rw [get?_eq_none] at h
  rcases m with ⟨l, hs⟩
  simp only [sumBy, insert] at h ⊢
  induction l with
  | nil => simp only [insertEntry, List.map_cons, List.map_nil, List.sum_cons, List.sum_nil,
      add_zero, zero_add]
  | cons d rest ih =>
      have hd : d.1 ≠ k := h d List.mem_cons_self
      have hrest := ih hs.of_cons (fun e he => h e (List.mem_cons_of_mem d he))
      unfold insertEntry
      -- Before the head, or further in and then by induction.
      by_cases h1 : k < d.1
      · rw [if_pos h1]
        simp only [List.map_cons, List.sum_cons]
        exact add_comm _ _
      · rw [if_neg h1, if_pos (lt_of_le_of_ne (not_lt.mp h1) hd)]
        simp only [List.map_cons, List.sum_cons, hrest]
        exact (add_assoc _ _ _).symm

/-- A replaced entry trades its quantity for the new one. -/
theorem sumBy_insert_of_some (f : κ → υ → M) (m : SortedMap κ υ) {k : κ} {o : υ} (v : υ)
    (h : m.get? k = some o) : (m.insert k v).sumBy f + f k o = m.sumBy f + f k v := by
  rw [← mem_entries] at h
  rcases m with ⟨l, hs⟩
  simp only [sumBy, insert] at h ⊢
  induction l with
  | nil => exact absurd h List.not_mem_nil
  | cons d rest ih =>
      unfold insertEntry
      -- The entry replaced is the head, or further in.
      rcases List.mem_cons.mp h with heq | hmem
      · have hk : d.1 = k := by rw [← heq]
        have ho : d.2 = o := by rw [← heq]
        rw [if_neg (by rw [hk]; exact lt_irrefl k), if_neg (by rw [hk]; exact lt_irrefl k)]
        simp only [List.map_cons, List.sum_cons, hk, ho]
        rw [add_right_comm, add_comm (f k v), add_right_comm]
      · have hlt : d.1 < k := List.rel_of_pairwise_cons hs hmem
        rw [if_neg (not_lt.mpr (le_of_lt hlt)), if_pos hlt]
        simp only [List.map_cons, List.sum_cons]
        rw [add_assoc, ih hs.of_cons hmem, add_assoc]

/-- A removed entry takes its quantity out of the total. -/
theorem sumBy_erase_of_some (f : κ → υ → M) (m : SortedMap κ υ) {k : κ} {o : υ}
    (h : m.get? k = some o) : (m.erase k).sumBy f + f k o = m.sumBy f := by
  rw [← mem_entries] at h
  rcases m with ⟨l, hs⟩
  simp only [sumBy, erase] at h ⊢
  induction l with
  | nil => exact absurd h List.not_mem_nil
  | cons d rest ih =>
      rcases List.mem_cons.mp h with heq | hmem
      · have hk : d.1 = k := by rw [← heq]
        have ho : d.2 = o := by rw [← heq]
        -- The other keys are larger, so the filter keeps all of them.
        have hall : rest.filter (fun e => decide (e.1 ≠ k)) = rest := by
          refine List.filter_eq_self.mpr (fun e he => ?_)
          have := List.rel_of_pairwise_cons hs he
          rw [hk] at this
          simpa only [decide_eq_true_eq] using ne_of_gt this
        rw [List.filter_cons_of_neg (by simp only [hk, ne_eq, not_true_eq_false, decide_false,
          Bool.false_eq_true, not_false_eq_true]), hall]
        simp only [List.map_cons, List.sum_cons, hk, ho]
        exact add_comm _ _
      -- The entry to be removed is further on, so the first one stays.
      · have hlt : d.1 < k := List.rel_of_pairwise_cons hs hmem
        rw [List.filter_cons_of_pos (by simpa only [decide_eq_true_eq] using ne_of_lt hlt)]
        simp only [List.map_cons, List.sum_cons]
        rw [add_assoc, ih hs.of_cons hmem]

/-- Totals of quantities that agree on the entries are equal. -/
theorem sumBy_congr {f g : κ → υ → M} (m : SortedMap κ υ)
    (h : ∀ k v, m.get? k = some v → f k v = g k v) : m.sumBy f = m.sumBy g := by
  unfold sumBy
  refine congrArg List.sum (List.map_congr_left (fun e he => ?_))
  exact h e.1 e.2 ((m.mem_entries e.1 e.2).mp he)

/-- A quantity that vanishes on every entry adds up to nothing. -/
theorem sumBy_eq_zero {f : κ → υ → M} (m : SortedMap κ υ)
    (h : ∀ k v, m.get? k = some v → f k v = 0) : m.sumBy f = 0 := by
  rw [sumBy_congr m h]
  unfold sumBy
  rw [List.map_const', List.sum_replicate, smul_zero]

/-- A quantity that vanishes on all entries but one adds up to that one. -/
theorem sumBy_eq_single (f : κ → υ → M) (m : SortedMap κ υ) (k : κ)
    (h : ∀ k' v, m.get? k' = some v → k' ≠ k → f k' v = 0) :
    m.sumBy f = (m.get? k).elim 0 (f k) := by
  -- Without the key nothing is left to count.
  have herase : (m.erase k).sumBy f = 0 := by
    refine sumBy_eq_zero _ (fun k' v hget => ?_)
    by_cases hk : k' = k
    · rw [hk, get?_erase_self] at hget
      exact absurd hget (by simp only [reduceCtorEq, not_false_eq_true])
    · rw [get?_erase_of_ne m hk] at hget
      exact h k' v hget hk
  rcases hget : m.get? k with _ | v
  · refine sumBy_eq_zero m (fun k' v' hget' => h k' v' hget' (fun hk => ?_))
    rw [hk, hget] at hget'
    exact absurd hget' (by simp only [reduceCtorEq, not_false_eq_true])
  · rw [← sumBy_erase_of_some f m hget, herase, zero_add]
    rfl

end Totals

/-- One entry's quantity is at most the total. -/
theorem le_sumBy (f : κ → υ → Nat) (m : SortedMap κ υ) {k : κ} {v : υ}
    (h : m.get? k = some v) : f k v ≤ m.sumBy f :=
  List.le_sum_of_mem (List.mem_map_of_mem (f := fun e : κ × υ => f e.1 e.2)
    ((m.mem_entries k v).mpr h))

/-- Totals of quantities one of which is never larger are ordered the same way. -/
theorem sumBy_le_sumBy {f g : κ → υ → Nat} (m : SortedMap κ υ)
    (h : ∀ k v, m.get? k = some v → f k v ≤ g k v) : m.sumBy f ≤ m.sumBy g := by
  unfold sumBy
  exact List.sum_le_sum (fun e he => h e.1 e.2 ((m.mem_entries e.1 e.2).mp he))

/-- Maps that agree on all entries with a quantity have the same total of it. -/
theorem sumBy_eq_of_get? {f : κ → υ → Nat} {m m' : SortedMap κ υ}
    (h : ∀ k v, f k v ≠ 0 → (m.get? k = some v ↔ m'.get? k = some v)) : m.sumBy f = m'.sumBy f := by
  -- What is left of the two maps without the other entries is one map.
  let keep (x : SortedMap κ υ) : SortedMap κ υ :=
    ⟨x.entries.filter (fun e => f e.1 e.2 ≠ 0), x.sorted.filter _⟩
  have hkeep : keep m = keep m' := by
    refine ext_get? (fun k => ?_)
    ext v
    rw [← mem_entries, ← mem_entries]
    simp only [keep, List.mem_filter, mem_entries, decide_eq_true_eq]
    exact and_congr_left (fun hne => h k v hne)
  have hsum : ∀ x : SortedMap κ υ, (keep x).sumBy f = x.sumBy f := by
    intro x
    simp only [sumBy, keep]
    induction x.entries with
    | nil => rfl
    | cons e rest ih =>
        by_cases hne : f e.1 e.2 ≠ 0
        · rw [List.filter_cons_of_pos (by simpa only [decide_eq_true_eq] using hne)]
          rw [List.map_cons, List.map_cons, List.sum_cons, List.sum_cons, ih]
        · rw [List.filter_cons_of_neg (by simpa only [decide_eq_true_eq] using hne), ih,
            List.map_cons, List.sum_cons, not_ne_iff.mp hne, Nat.zero_add]
  rw [← hsum m, ← hsum m', hkeep]

/-- A constant factor can be taken out of a total. -/
theorem sumBy_mul_left (c : Nat) (f : κ → υ → Nat) (m : SortedMap κ υ) :
    m.sumBy (fun k v => c * f k v) = c * m.sumBy f := by
  unfold sumBy
  rw [List.sum_map_mul_left]

/-! ### Conditions on all entries -/

section Everywhere

variable {P Q : κ → υ → Prop} {m : SortedMap κ υ}

/-- Every entry meets a condition. -/
def Everywhere (P : κ → υ → Prop) (m : SortedMap κ υ) : Prop := ∀ k v, m.get? k = some v → P k v

theorem everywhere_iff : m.Everywhere P ↔ ∀ e ∈ m.entries, P e.1 e.2 :=
  ⟨fun h e he => h e.1 e.2 ((m.mem_entries e.1 e.2).mp he),
    fun h k v hget => h (k, v) ((m.mem_entries k v).mpr hget)⟩

instance [∀ k v, Decidable (P k v)] : Decidable (m.Everywhere P) :=
  have := List.decidableBAll (fun e : κ × υ => P e.1 e.2) m.entries
  decidable_of_iff _ everywhere_iff.symm

theorem everywhere_empty (P : κ → υ → Prop) : (empty : SortedMap κ υ).Everywhere P := by
  intro k v hget
  rw [get?_empty] at hget
  exact absurd hget (by simp only [reduceCtorEq, not_false_eq_true])

/-- A condition holds after an insertion if it holds of the new entry and of
    those with other keys. -/
theorem everywhere_insert {k : κ} {v : υ} (hv : P k v)
    (h : ∀ k' v', k' ≠ k → m.get? k' = some v' → P k' v') : (m.insert k v).Everywhere P := by
  intro k' v' hget
  rw [get?_insert] at hget
  by_cases hk : k' = k
  · rw [if_pos hk, Option.some.injEq] at hget
    rw [hk, ← hget]
    exact hv
  · rw [if_neg hk] at hget
    exact h k' v' hk hget

/-- A condition holds after an insertion into a map with no other key if it
    holds of the new entry. -/
theorem everywhere_insert_only {k : κ} {v : υ} (hv : P k v)
    (h : m.Everywhere (fun k' _ => k' = k)) : (m.insert k v).Everywhere P :=
  everywhere_insert hv (fun k' v' hne hget => absurd (h k' v' hget) hne)

theorem Everywhere.insert (h : m.Everywhere P) {k : κ} {v : υ} (hv : P k v) :
    (m.insert k v).Everywhere P :=
  everywhere_insert hv (fun k' v' _ hget => h k' v' hget)

theorem Everywhere.erase (h : m.Everywhere P) (k : κ) : (m.erase k).Everywhere P := by
  intro k' v' hget
  by_cases hk : k' = k
  · rw [hk, get?_erase_self] at hget
    exact absurd hget (by simp only [reduceCtorEq, not_false_eq_true])
  · rw [get?_erase_of_ne m hk] at hget
    exact h k' v' hget

theorem Everywhere.imp (h : m.Everywhere P) (hPQ : ∀ k v, P k v → Q k v) : m.Everywhere Q :=
  fun k v hget => hPQ k v (h k v hget)

end Everywhere

end SortedMap

end SolanaLab
