import SolanaLab.Library.Bytes

/-!
# Computations that May Panic

A third outcome besides a result and an error: the program panics, because an
index is out of range, a number overflows or an absent value is unwrapped.
`Panics` keeps the three apart, so that a panic can be shown not to happen.

The way to show it is `returns_bind`. When each step of a computation returns
what a step of an `Except` computation gives, the whole returns what the whole
of that one gives, and the panics are gone from it.

## Main definitions

* `Panics`: A computation that may panic.
* `returns`: A computation that does not.
* `unwrap`: The value of an option, or a panic.
* `indexed`: The element at an index, or a panic.
* `addUsize`: Addition of lengths and offsets, or a panic.
* `getRange`: The bytes between two bounds.

## Theorems

* `returns_bind`: Steps that return make a whole that returns.
* `addUsize_eq`: Addition in range returns the sum.
* `getRange_add`: A range from an offset on is a slice.
-/

namespace SolanaLab

namespace Checked

/-- A computation that returns a result or an error, or panics. The panic is the
    outer one of the two failures, so nothing that follows can catch it. -/
abbrev Panics (ε α : Type) := ExceptT ε Option α

section Panics

variable {ε α β : Type}

/-- A computation that returned. -/
def returns (r : Except ε α) : Panics ε α := ExceptT.mk (some r)

/-- `unwrap`: a value that has to be there. -/
def unwrap (x : Option α) : Panics ε α := ExceptT.mk (x.map .ok)

/-- The element of a sequence at an index that has to be in range. -/
def indexed (data : List α) (index : Nat) : Panics ε α := unwrap data[index]?

/-- `usize` addition: a sum that has to fit. -/
def addUsize (a b : Nat) : Panics ε Nat := unwrap (if a + b < 2 ^ 64 then some (a + b) else none)

/-- `try_into` an array: the bytes, when they are as many as the array has. -/
def toArray (n : Nat) (bytes : List Byte) : Option (List Byte) :=
  if bytes.length = n then some bytes else none

/-- `get(start..stop)`: the bytes between two bounds that are in order and in
    range. -/
def getRange (data : List Byte) (start stop : Nat) : Option (List Byte) :=
  if start ≤ stop ∧ stop ≤ data.length then some ((data.drop start).take (stop - start)) else none

/-- A computation that returned a result goes on. -/
theorem returns_ok_bind (a : α) (f : α → Panics ε β) : (returns (.ok a) >>= f) = f a := rfl

/-- When the second step returns whatever result the first one can have, both
    together return what they give without panics. -/
theorem returns_bind {r : Except ε α} {f : α → Panics ε β} {g : α → Except ε β}
    (h : ∀ a, r = .ok a → f a = returns (g a)) : (returns r >>= f) = returns (r >>= g) := by
  rcases r with e | a
  · rfl
  · exact h a rfl

/-- Computations that return the same give the same. -/
theorem returns_inj {r r' : Except ε α} : (returns r : Panics ε α) = returns r' ↔ r = r' :=
  Option.some_inj

theorem unwrap_some (a : α) : (unwrap (some a) : Panics ε α) = returns (.ok a) := rfl

/-- An addition whose sum fits returns it. -/
theorem addUsize_eq {a b : Nat} (h : a + b < 2 ^ 64) :
    (addUsize a b : Panics ε Nat) = returns (.ok (a + b)) := by
  rw [addUsize, if_pos h]
  rfl

/-- The range of a number of bytes from an offset on. -/
theorem getRange_add (data : List Byte) (offset n : Nat) :
    getRange data offset (offset + n) = slice data offset n := by
  rw [getRange, slice, Nat.add_sub_cancel_left]
  by_cases h : offset + n ≤ data.length
  · rw [if_pos ⟨Nat.le_add_right offset n, h⟩, if_pos h]
  · rw [if_neg h, if_neg (fun hrange => h hrange.2)]

end Panics

end Checked

end SolanaLab
