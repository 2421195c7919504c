import SolanaLab.Library.Checked

/-!
# Bytes

Numbers as little-endian bytes, and reading a range of bytes out of a longer
sequence. Reading back a number that was written gives the number, so equal
bytes mean equal numbers: whatever is spelled out of fields of fixed width can
be taken apart again.

A range that does not lie within the sequence has no bytes. A layout is fields
one after the other; when their widths are fixed, it determines each of them.

## Main definitions

* `Byte`: Eight bits.
* `leBytes`: The low bytes of a number, the lowest first.
* `ofLeBytes`: The number such bytes spell.
* `wordOfBytes`: The word that bytes of the right number spell.
* `slice`: The bytes of a range.
* `FixedWidth`, `layout`: Fields, and fields one after the other.

## Theorems

* `ofLeBytes_leBytes`: Reading back what was written.
* `leBytes_injective`: Words of one width with the same bytes are equal.
* `wordOfBytes_leBytes`: Reading back a word that was written.
* `length_of_slice`: A slice is as long as it was asked to be.
* `slice_middle`: The slice at the place of some bytes.
* `layout_eq_iff`: A layout of fixed width determines its fields.
-/

namespace SolanaLab

namespace Checked

/-- Eight bits. -/
abbrev Byte := Word 8

/-- The `n` low bytes of a number, the lowest first. -/
def leBytes : Nat → Nat → List Byte
  | 0, _ => []
  | n + 1, v => ⟨v % 2 ^ 8, Nat.mod_lt v (Nat.two_pow_pos 8)⟩ :: leBytes n (v / 2 ^ 8)

/-- The number that bytes spell, the lowest first. -/
def ofLeBytes : List Byte → Nat
  | [] => 0
  | b :: rest => b.val + 2 ^ 8 * ofLeBytes rest

@[simp] theorem length_leBytes (n v : Nat) : (leBytes n v).length = n := by
  induction n generalizing v with
  | zero => rfl
  | succ n ih => rw [leBytes, List.length_cons, ih]

/-- Reading back what was written. -/
theorem ofLeBytes_leBytes {n v : Nat} (h : v < 2 ^ (8 * n)) : ofLeBytes (leBytes n v) = v := by
  induction n generalizing v with
  | zero =>
      rw [Nat.mul_zero, Nat.pow_zero] at h
      rw [leBytes, ofLeBytes]
      omega
  | succ n ih =>
      -- The lowest byte is the remainder, and the others spell the quotient.
      have hdiv : v / 2 ^ 8 < 2 ^ (8 * n) := by
        rw [Nat.mul_add, Nat.pow_add] at h
        exact Nat.div_lt_of_lt_mul (by omega)
      rw [leBytes, ofLeBytes, ih hdiv]
      exact Nat.mod_add_div v (2 ^ 8)

theorem ofLeBytes_lt (bytes : List Byte) : ofLeBytes bytes < 2 ^ (8 * bytes.length) := by
  induction bytes with
  | nil => exact Nat.one_pos
  | cons b rest ih =>
      have hb := b.isLt
      rw [ofLeBytes, List.length_cons, Nat.mul_add, Nat.pow_add]
      omega

/-- Words of one width with the same bytes are equal. -/
theorem leBytes_injective {n : Nat} {a b : Word (8 * n)}
    (h : leBytes n a.val = leBytes n b.val) : a = b := by
  have hread := congrArg ofLeBytes h
  rw [ofLeBytes_leBytes a.isLt, ofLeBytes_leBytes b.isLt] at hread
  exact Fin.ext hread

/-- The word that bytes of its width spell. -/
def wordOfBytes (w : Nat) (bytes : List Byte) : Option (Word w) :=
  if h : 8 * bytes.length = w then some ⟨ofLeBytes bytes, h ▸ ofLeBytes_lt bytes⟩ else none

/-- Reading back a word that was written. -/
theorem wordOfBytes_leBytes {n w : Nat} (h : 8 * n = w) (v : Word w) :
    wordOfBytes w (leBytes n v.val) = some v := by
  subst h
  rw [wordOfBytes, dif_pos (by rw [length_leBytes]), Option.some.injEq]
  exact Fin.ext (ofLeBytes_leBytes v.isLt)

/-- The `n` bytes from an offset on, when the sequence reaches that far. Nothing
    is padded, so a slice is as long as it was asked to be or there is none. -/
def slice (data : List Byte) (offset n : Nat) : Option (List Byte) :=
  if offset + n ≤ data.length then some ((data.drop offset).take n) else none

/-- A slice is as long as it was asked to be. -/
theorem length_of_slice {data bytes : List Byte} {offset n : Nat}
    (h : slice data offset n = some bytes) : bytes.length = n := by
  rw [slice] at h
  by_cases hrange : offset + n ≤ data.length
  · rw [if_pos hrange, Option.some.injEq] at h
    rw [← h, List.length_take, List.length_drop]
    omega
  · rw [if_neg hrange] at h
    exact absurd h (by simp only [reduceCtorEq, not_false_eq_true])

/-- A slice of what comes first is a slice of the whole. -/
theorem slice_append {data bytes : List Byte} {offset n : Nat}
    (h : slice data offset n = some bytes) (rest : List Byte) :
    slice (data ++ rest) offset n = some bytes := by
  rw [slice] at h
  by_cases hrange : offset + n ≤ data.length
  · rw [if_pos hrange, Option.some.injEq] at h
    rw [slice, if_pos (by rw [List.length_append]; omega), Option.some.injEq, ← h,
      List.drop_append_of_le_length (by omega),
      List.take_append_of_le_length (by rw [List.length_drop]; omega)]
  · rw [if_neg hrange] at h
    exact absurd h (by simp only [reduceCtorEq, not_false_eq_true])

/-- Bytes between others are the slice at their place. -/
theorem slice_middle {before bytes : List Byte} {offset n : Nat} (hoffset : before.length = offset)
    (hn : bytes.length = n) (after : List Byte) :
    slice (before ++ bytes ++ after) offset n = some bytes := by
  refine slice_append ?_ after
  rw [slice, if_pos (by rw [List.length_append]; omega), Option.some.injEq,
    List.drop_left' hoffset, List.take_of_length_le (by omega)]

/-! ### Layouts

Fields one after the other, without anything between them. When no field is
wider for one value than for another, the bytes say where each field ends. -/

section Layouts

variable {α : Type}

/-- A field is as wide for one value as for another. -/
def FixedWidth (field : α → List Byte) : Prop := ∀ a b, (field a).length = (field b).length

/-- The fields of a value, one after the other. -/
def layout (fields : List (α → List Byte)) (a : α) : List Byte :=
  fields.flatMap (fun field => field a)

/-- A number is spelled by a fixed number of bytes. -/
theorem fixedWidth_leBytes (n : Nat) (value : α → Nat) :
    FixedWidth (fun a => leBytes n (value a)) := fun a b => by
  rw [length_leBytes, length_leBytes]

/-- Layouts of fixed width agree exactly when every field does. -/
theorem layout_eq_iff {fields : List (α → List Byte)}
    (hwidth : ∀ field ∈ fields, FixedWidth field) (a b : α) :
    layout fields a = layout fields b ↔ ∀ field ∈ fields, field a = field b := by
  induction fields with
  | nil => exact iff_of_true rfl (fun field hmem => absurd hmem List.not_mem_nil)
  | cons first rest ih =>
      rw [List.forall_mem_cons] at hwidth ⊢
      rw [← ih hwidth.2, layout, layout, List.flatMap_cons, List.flatMap_cons]
      constructor
      -- The first fields are equally wide, so the bytes divide in one way.
      · exact fun h => List.append_inj h (hwidth.1 a b)
      · rintro ⟨hfirst, hrest⟩
        rw [hfirst]
        exact congrArg (first b ++ ·) hrest

end Layouts

end Checked

end SolanaLab
