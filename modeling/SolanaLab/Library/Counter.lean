import SolanaLab.Library.Checked

/-!
# Wrapping Counters

A counter of a fixed width that is only ever added to, such as an atomic
`fetch_add`, wraps around without a word. `Counts` says what it then still
tells: how often something happened, up to multiples of the width.

## Main definitions

* `Counts`: A counter has counted so many.

## Theorems

* `Counts.succ`: One more.
* `Counts.add`: Several more.
* `Counts.exact`: A counter that has not wrapped is exact.
-/

namespace SolanaLab

namespace Counter

open Checked

variable {w : Nat}

/-- A counter has counted `n`, up to wrapping around. -/
def Counts (counter : Word w) (n : Nat) : Prop := counter.val = n % 2 ^ w

/-- Counts add up, however often the counter has wrapped. -/
theorem Counts.add {counter more : Word w} {n k : Nat} (h : Counts counter n)
    (hmore : Counts more k) : Counts (counter + more) (n + k) := by
  unfold Counts at h hmore ⊢
  rw [Fin.val_add, h, hmore, ← Nat.add_mod]

/-- A counter that has not wrapped is exact. -/
theorem Counts.exact {counter : Word w} {n : Nat} (h : Counts counter n) (hlt : n < 2 ^ w) :
    counter.val = n := by
  unfold Counts at h
  rw [h, Nat.mod_eq_of_lt hlt]

variable [NeZero (2 ^ w)]

theorem counts_zero : Counts (0 : Word w) 0 := (Nat.zero_mod _).symm

theorem counts_one : Counts (1 : Word w) 1 := rfl

theorem Counts.succ {counter : Word w} {n : Nat} (h : Counts counter n) :
    Counts (counter + 1) (n + 1) :=
  h.add counts_one

end Counter

end SolanaLab
