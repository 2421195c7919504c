import Mathlib

/-!
# Checked Machine Arithmetic

Unsigned machine integers of a fixed width and the checked operations a
program built on them uses. A word is kept as its value together with the
bound on it, so an operation either produces a value in range or says it
cannot; nothing wraps silently.

The lemmas are equivalences: knowing that a checked addition succeeded is
knowing the sum, and knowing that a checked subtraction failed is knowing that
it would have gone below zero.

`okOr` and `require` turn a missing value and a condition that fails into an
error, and `bind_eq_ok` reads a successful sequence of fallible steps back as
its parts. `Related` compares two fallible computations, and is carried along
step by step.

## Main definitions

* `Word`: An unsigned integer of a given width.
* `Word.maxValue`: The largest word of a width.
* `checkedAdd`: Addition that fails on overflow.
* `checkedSub`: Subtraction that fails below zero.
* `narrow`: A word read at a smaller width, when it fits.
* `toWord`: A number as a word, when it fits.
* `okOr`: An optional value with the error that its absence means.
* `require`: A condition with the error that its failure means.
* `Related`: Two computations fail alike or have related results.

## Theorems

* `checkedAdd_eq_some`: Addition succeeds exactly when the sum fits.
* `checkedSub_eq_some`: Subtraction succeeds with the difference.
* `checkedSub_eq_none`: Subtraction fails exactly below zero.
* `exists_sub`, `exists_add`: The results of subtraction and addition in range.
* `narrow_eq_some`: Narrowing keeps the value.
* `okOr_eq_ok`, `okOr_eq_error`: A value is present, or absent.
* `require_eq_ok`, `require_eq_error`: A condition holds, or fails.
* `bind_eq_ok`: A sequence of two steps succeeded in both.
* `bind_eq_error`: A sequence of two steps failed in one of them.
* `map_eq_ok`, `mapError_eq_ok`: A mapped computation succeeded.
* `mapM_isOk`, `mapM_inverse`, `mapM_roundTrip`: The same for every element of
  a list.
* `Related.bind`, `Related.bind_same`: Related first steps with related seconds.
-/

namespace SolanaLab

namespace Checked

/-- An unsigned machine integer of `w` bits. Its value is below `2 ^ w`, so an
    operation that would leave this range has to say what it does instead. -/
abbrev Word (w : Nat) := Fin (2 ^ w)

theorem neZero_two_pow (w : Nat) : NeZero (2 ^ w) := ⟨(Nat.two_pow_pos w).ne'⟩

-- One instance for each width that literals are written at.
instance neZero8 : NeZero (2 ^ 8) := neZero_two_pow 8
instance neZero16 : NeZero (2 ^ 16) := neZero_two_pow 16
instance neZero32 : NeZero (2 ^ 32) := neZero_two_pow 32
instance neZero64 : NeZero (2 ^ 64) := neZero_two_pow 64
instance neZero128 : NeZero (2 ^ 128) := neZero_two_pow 128
instance neZero160 : NeZero (2 ^ 160) := neZero_two_pow 160
instance neZero256 : NeZero (2 ^ 256) := neZero_two_pow 256
instance neZero512 : NeZero (2 ^ 512) := neZero_two_pow 512

/-- A 64-bit word is also a 128-bit word. -/
theorem two_pow_64_le_128 : 2 ^ 64 ≤ 2 ^ 128 := Nat.pow_le_pow_right Nat.two_pos (by decide)

/-- The largest integer of `w` bits. -/
def Word.maxValue (w : Nat) : Word w :=
  ⟨2 ^ w - 1, Nat.sub_lt (Nat.two_pow_pos w) Nat.one_pos⟩

/-- Addition, or nothing when the sum does not fit. -/
def checkedAdd {w : Nat} (a b : Word w) : Option (Word w) :=
  if h : a.val + b.val < 2 ^ w then some ⟨a.val + b.val, h⟩ else none

/-- Subtraction, or nothing when the result would be negative. -/
def checkedSub {w : Nat} (a b : Word w) : Option (Word w) :=
  if b.val ≤ a.val then some ⟨a.val - b.val, Nat.lt_of_le_of_lt (Nat.sub_le _ _) a.isLt⟩
  else none

/-- Multiplication, or nothing when the product does not fit. -/
def checkedMul {w : Nat} (a b : Word w) : Option (Word w) :=
  if h : a.val * b.val < 2 ^ w then some ⟨a.val * b.val, h⟩ else none

/-- The same value at another width, or nothing when it does not fit. -/
def narrow {w : Nat} (v : Nat) (a : Word w) : Option (Word v) :=
  if h : a.val < 2 ^ v then some ⟨a.val, h⟩ else none

/-- A number as a word, or nothing when it does not fit. -/
def toWord (w n : Nat) : Option (Word w) := if h : n < 2 ^ w then some ⟨n, h⟩ else none

theorem toWord_eq_some {w n : Nat} {a : Word w} : toWord w n = some a ↔ a.val = n := by
  unfold toWord
  by_cases h : n < 2 ^ w
  · rw [dif_pos h, Option.some.injEq, Fin.ext_iff]
    exact eq_comm
  · rw [dif_neg h]
    simp only [reduceCtorEq, false_iff]
    have := a.isLt
    omega

theorem checkedAdd_eq_some {w : Nat} {a b c : Word w} :
    checkedAdd a b = some c ↔ c.val = a.val + b.val := by
  unfold checkedAdd
  by_cases h : a.val + b.val < 2 ^ w
  · rw [dif_pos h, Option.some.injEq, Fin.ext_iff]
    exact eq_comm
  · rw [dif_neg h]
    simp only [reduceCtorEq, false_iff]
    have := c.isLt
    omega

theorem checkedAdd_eq_none {w : Nat} {a b : Word w} :
    checkedAdd a b = none ↔ 2 ^ w ≤ a.val + b.val := by
  unfold checkedAdd
  by_cases h : a.val + b.val < 2 ^ w
  · rw [dif_pos h]
    simp only [reduceCtorEq, false_iff]
    omega
  · rw [dif_neg h]
    simp only [true_iff]
    omega

/-- A subtraction succeeds with the word that makes up the difference. -/
theorem checkedSub_eq_some {w : Nat} {a b c : Word w} :
    checkedSub a b = some c ↔ c.val + b.val = a.val := by
  unfold checkedSub
  by_cases h : b.val ≤ a.val
  · rw [if_pos h, Option.some.injEq, Fin.ext_iff]
    simp only
    omega
  · rw [if_neg h]
    simp only [reduceCtorEq, false_iff]
    omega

theorem checkedSub_eq_none {w : Nat} {a b : Word w} :
    checkedSub a b = none ↔ a.val < b.val := by
  unfold checkedSub
  by_cases h : b.val ≤ a.val
  · rw [if_pos h]
    simp only [reduceCtorEq, false_iff]
    omega
  · rw [if_neg h]
    simp only [true_iff]
    omega

/-- A difference that is not negative is a word. -/
theorem exists_sub {w : Nat} {a b : Word w} (h : b.val ≤ a.val) :
    ∃ c : Word w, c.val + b.val = a.val :=
  ⟨⟨a.val - b.val, Nat.lt_of_le_of_lt (Nat.sub_le _ _) a.isLt⟩, Nat.sub_add_cancel h⟩

/-- A sum that fits is a word. -/
theorem exists_add {w : Nat} {a b : Word w} (h : a.val + b.val < 2 ^ w) :
    ∃ c : Word w, c.val = a.val + b.val := ⟨⟨a.val + b.val, h⟩, rfl⟩

theorem checkedMul_eq_some {w : Nat} {a b c : Word w} :
    checkedMul a b = some c ↔ c.val = a.val * b.val := by
  unfold checkedMul
  by_cases h : a.val * b.val < 2 ^ w
  · rw [dif_pos h, Option.some.injEq, Fin.ext_iff]
    exact eq_comm
  · rw [dif_neg h]
    simp only [reduceCtorEq, false_iff]
    have := c.isLt
    omega

theorem narrow_eq_some {w v : Nat} {a : Word w} {c : Word v} :
    narrow v a = some c ↔ c.val = a.val := by
  unfold narrow
  by_cases h : a.val < 2 ^ v
  · rw [dif_pos h, Option.some.injEq, Fin.ext_iff]
    exact eq_comm
  · rw [dif_neg h]
    simp only [reduceCtorEq, false_iff]
    have := c.isLt
    omega

/-- An optional value, with the error that its absence means. -/
def okOr {α ε : Type} (x : Option α) (e : ε) : Except ε α :=
  match x with
  | some a => .ok a
  | none => .error e

@[simp] theorem okOr_some {α ε : Type} (a : α) (e : ε) : okOr (some a) e = .ok a := rfl

@[simp] theorem okOr_none {α ε : Type} (e : ε) : okOr (none : Option α) e = .error e := rfl

theorem okOr_eq_ok {α ε : Type} {x : Option α} {e : ε} {a : α} :
    okOr x e = .ok a ↔ x = some a := by
  cases x with
  | none => simp only [okOr_none, reduceCtorEq]
  | some b => simp only [okOr_some, Except.ok.injEq, Option.some.injEq]

/-- A condition, with the error that its failure means. -/
def require {ε : Type} (c : Prop) [Decidable c] (e : ε) : Except ε Unit :=
  if c then .ok () else .error e

theorem require_eq_ok {ε : Type} {c : Prop} [Decidable c] {e : ε} {u : Unit} :
    require c e = .ok u ↔ c := by
  unfold require
  by_cases h : c
  · rw [if_pos h]
    exact iff_of_true rfl h
  · rw [if_neg h]
    simp only [reduceCtorEq, false_iff]
    exact h

/-- A condition on a value that may be missing is decided on that value, and not
    by going through all values of its type. -/
instance (priority := high) decidableForallMem {α : Type} {p : α → Prop} [DecidablePred p]
    (o : Option α) : Decidable (∀ a ∈ o, p a) := Option.decidableForallMem o

/-- A sequence of two fallible steps succeeded, so both did. -/
theorem bind_eq_ok {ε α β : Type} {x : Except ε α} {f : α → Except ε β} {b : β} :
    x >>= f = .ok b ↔ ∃ a, x = .ok a ∧ f a = .ok b := by
  cases x with
  | error e =>
      simp only [bind, Except.bind, reduceCtorEq, false_and, exists_false]
  | ok a =>
      simp only [bind, Except.bind, Except.ok.injEq, exists_eq_left']

/-- A sequence of two fallible steps failed, in the first or in the second. -/
theorem bind_eq_error {ε α β : Type} {x : Except ε α} {f : α → Except ε β} {e : ε} :
    x >>= f = .error e ↔ x = .error e ∨ ∃ a, x = .ok a ∧ f a = .error e := by
  cases x with
  | error e' =>
      simp only [bind, Except.bind, Except.error.injEq, reduceCtorEq, false_and, exists_false,
        or_false]
  | ok a =>
      simp only [bind, Except.bind, reduceCtorEq, Except.ok.injEq, exists_eq_left', false_or]

theorem okOr_eq_error {α ε : Type} {x : Option α} {e e' : ε} :
    okOr x e = .error e' ↔ x = none ∧ e = e' := by
  cases x with
  | none => simp only [okOr_none, Except.error.injEq, true_and]
  | some a => simp only [okOr_some, reduceCtorEq, false_and]

theorem require_eq_error {ε : Type} {c : Prop} [Decidable c] {e e' : ε} :
    require c e = .error e' ↔ ¬ c ∧ e = e' := by
  unfold require
  by_cases h : c
  · rw [if_pos h]
    simp only [reduceCtorEq, h, not_true_eq_false, false_and]
  · rw [if_neg h]
    simp only [Except.error.injEq, h, not_false_eq_true, true_and]

/-! ### Mapped computations -/

section Maps

variable {ε ε' α β : Type}

theorem map_eq_ok {x : Except ε α} {f : α → β} {b : β} :
    x.map f = .ok b ↔ ∃ a, x = .ok a ∧ f a = b := by
  cases x with
  | error e => simp only [Except.map, reduceCtorEq, false_and, exists_false]
  | ok a => simp only [Except.map, Except.ok.injEq, exists_eq_left']

theorem map_isOk {x : Except ε α} {f : α → β} :
    (∃ b, x.map f = .ok b) ↔ ∃ a, x = .ok a := by
  simp only [map_eq_ok]
  exact ⟨fun ⟨_, a, ha, _⟩ => ⟨a, ha⟩, fun ⟨a, ha⟩ => ⟨f a, a, ha, rfl⟩⟩

theorem mapM_cons_eq_ok {f : α → Except ε β} {a : α} {l : List α} {r : List β} :
    (a :: l).mapM f = .ok r ↔ ∃ b bs, f a = .ok b ∧ l.mapM f = .ok bs ∧ r = b :: bs := by
  rw [List.mapM_cons, bind_eq_ok]
  constructor
  · rintro ⟨b, hb, h⟩
    rcases bind_eq_ok.mp h with ⟨bs, hbs, h⟩
    exact ⟨b, bs, hb, hbs, (Except.ok.inj h).symm⟩
  · rintro ⟨b, bs, hb, hbs, rfl⟩
    exact ⟨b, hb, bind_eq_ok.mpr ⟨bs, hbs, rfl⟩⟩

theorem mapError_eq_ok {x : Except ε α} {f : ε → ε'} {a : α} :
    x.mapError f = .ok a ↔ x = .ok a := by
  cases x with
  | error e => simp only [Except.mapError, reduceCtorEq]
  | ok b => simp only [Except.mapError, Except.ok.injEq]

/-- A fallible map succeeds when it does on every element. -/
theorem mapM_isOk {f : α → Except ε β} {l : List α} :
    (∃ r, l.mapM f = .ok r) ↔ ∀ a ∈ l, ∃ b, f a = .ok b := by
  induction l with
  | nil => exact iff_of_true ⟨[], rfl⟩ (fun a ha => absurd ha List.not_mem_nil)
  | cons a l ih =>
      rw [List.forall_mem_cons, ← ih]
      constructor
      · rintro ⟨r, h⟩
        rcases mapM_cons_eq_ok.mp h with ⟨b, bs, hb, hbs, -⟩
        exact ⟨⟨b, hb⟩, bs, hbs⟩
      · rintro ⟨⟨b, hb⟩, bs, hbs⟩
        exact ⟨b :: bs, mapM_cons_eq_ok.mpr ⟨b, bs, hb, hbs, rfl⟩⟩

/-- What is undone on every element is undone on the list. -/
theorem mapM_inverse {f : α → Except ε β} {g : β → Except ε' α}
    (h : ∀ a b, f a = .ok b → g b = .ok a) {l : List α} {r : List β} (hl : l.mapM f = .ok r) :
    r.mapM g = .ok l := by
  induction l generalizing r with
  | nil =>
      rw [List.mapM_nil] at hl
      rw [← Except.ok.inj hl]
      rfl
  | cons a l ih =>
      rcases mapM_cons_eq_ok.mp hl with ⟨b, bs, hb, hbs, rfl⟩
      exact mapM_cons_eq_ok.mpr ⟨a, l, h a b hb, ih hbs, rfl⟩

/-- A list goes through two fallible maps and comes back when every element
    does. -/
theorem mapM_roundTrip {f : α → Except ε β} {g : β → Except ε' α} {l : List α} :
    (∃ r, l.mapM f = .ok r ∧ r.mapM g = .ok l)
      ↔ ∀ a ∈ l, ∃ b, f a = .ok b ∧ g b = .ok a := by
  induction l with
  | nil => exact iff_of_true ⟨[], rfl, rfl⟩ (fun a ha => absurd ha List.not_mem_nil)
  | cons a l ih =>
      -- The head goes there and back, and the tail does by induction.
      rw [List.forall_mem_cons, ← ih]
      -- There and back is there for every element and back for every element.
      constructor
      · rintro ⟨r, hf, hg⟩
        rcases mapM_cons_eq_ok.mp hf with ⟨b, bs, hb, hbs, rfl⟩
        rcases mapM_cons_eq_ok.mp hg with ⟨a', l', ha, hl, heq⟩
        rcases List.cons.inj heq with ⟨rfl, rfl⟩
        exact ⟨⟨b, hb, ha⟩, bs, hbs, hl⟩
      · rintro ⟨⟨b, hb, ha⟩, bs, hbs, hl⟩
        exact ⟨b :: bs, mapM_cons_eq_ok.mpr ⟨b, bs, hb, hbs, rfl⟩,
          mapM_cons_eq_ok.mpr ⟨a, l, ha, hl, rfl⟩⟩

end Maps

/-! ### Two computations -/

section Related

variable {ε ε' α β γ δ : Type}

/-- Two fallible computations fail alike, or succeed with related results. -/
def Related (R : α → β → Prop) : Except ε α → Except ε β → Prop
  | .ok a, .ok b => R a b
  | .error e, .error e' => e = e'
  | _, _ => False

variable {R : α → β → Prop} {S : γ → δ → Prop}

/-- Related computations followed by computations that are related on related
    results are related. -/
theorem Related.bind {x : Except ε α} {y : Except ε β} {f : α → Except ε γ} {g : β → Except ε δ}
    (h : Related R x y) (hfg : ∀ a b, R a b → Related S (f a) (g b)) :
    Related S (x >>= f) (y >>= g) := by
  match x, y, h with
  | .ok a, .ok b, h => exact hfg a b h
  | .error e, .error e', h => exact h

/-- The same first step, with its result. -/
theorem Related.bind_same {x : Except ε α} {f : α → Except ε γ} {g : α → Except ε δ}
    (hfg : ∀ a, x = .ok a → Related S (f a) (g a)) : Related S (x >>= f) (x >>= g) := by
  cases x with
  | error e => rfl
  | ok a => exact hfg a rfl

theorem Related.mapError {x : Except ε α} {y : Except ε β} (f : ε → ε') (h : Related R x y) :
    Related R (x.mapError f) (y.mapError f) := by
  match x, y, h with
  | .ok a, .ok b, h => exact h
  | .error e, .error e', h => exact congrArg f h

end Related

end Checked

end SolanaLab
