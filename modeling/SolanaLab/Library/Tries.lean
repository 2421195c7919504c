import Mathlib

/-!
# Bounded Tries

Loops that try something again, up to a bound, until an outcome ends them.
What happened is the list of outcomes. `Tried` says that it is one that such a
loop can have: not more than the bound, every outcome but the last one asked
for another try, and where the bound was not reached the last one did not.

## Main definitions

* `Tried`: The outcomes of a loop of bounded tries.

## Theorems

* `Tried.nil`: No tries are left.
* `Tried.stop`: An outcome that ends the loop.
* `Tried.again`: An outcome that asks for another try.
* `Tried.length_pos`: At least one try is made.
-/

namespace SolanaLab

/-- The outcomes of a loop that tries up to a bound, while outcomes ask for
    it. -/
structure Tried {α : Type} (asks : α → Prop) (bound : Nat) (outcomes : List α) : Prop where
  bounded : outcomes.length ≤ bound
  wentOn : ∀ outcome ∈ outcomes.dropLast, asks outcome
  stopped : outcomes.length < bound → ∃ outcome, outcomes.getLast? = some outcome ∧ ¬ asks outcome

namespace Tried

variable {α : Type} {asks : α → Prop} {bound : Nat}

theorem nil : Tried asks 0 [] :=
  ⟨Nat.le_refl 0, fun _ h => absurd h List.not_mem_nil, fun h => absurd h (Nat.lt_irrefl 0)⟩

/-- The first outcome ends the loop. -/
theorem stop {outcome : α} (h : ¬ asks outcome) : Tried asks (bound + 1) [outcome] :=
  ⟨Nat.le_add_left 1 bound, fun _ hmem => absurd hmem List.not_mem_nil, fun _ => ⟨outcome, rfl, h⟩⟩

/-- The first outcome asks for another try. -/
theorem again {outcome : α} {outcomes : List α} (h : asks outcome)
    (hrest : Tried asks bound outcomes) : Tried asks (bound + 1) (outcome :: outcomes) where
  bounded := Nat.succ_le_succ hrest.bounded
  wentOn other hmem := by
    cases outcomes with
    | nil => exact absurd hmem List.not_mem_nil
    | cons second rest =>
        rw [List.dropLast_cons_cons, List.mem_cons] at hmem
        rcases hmem with rfl | hmem
        · exact h
        · exact hrest.wentOn other hmem
  -- The loop ends with what the rest of it ended with.
  stopped hlt := by
    rcases hrest.stopped (Nat.lt_of_succ_lt_succ hlt) with ⟨last, hlast, hends⟩
    refine ⟨last, ?_, hends⟩
    rw [List.getLast?_cons, hlast]
    rfl

/-- Where a try is left, one is made. -/
theorem length_pos {outcomes : List α} (h : Tried asks bound outcomes) (hbound : 0 < bound) :
    1 ≤ outcomes.length := by
  cases outcomes with
  | nil =>
      rcases h.stopped hbound with ⟨last, hlast, -⟩
      rw [List.getLast?_nil] at hlast
      exact absurd hlast (by simp only [reduceCtorEq, not_false_eq_true])
  | cons first rest => exact Nat.le_add_left 1 rest.length

end Tried

end SolanaLab
