import SolanaLab.Library.Bytes

/-!
# Base 58

Bytes as a text over an alphabet of 58 characters, and the text back as bytes.

Both directions change the base of a sequence of digits, the highest first,
and keep its leading zeros one by one. `rebase_rebase` says that changing the
base there and back gives the digits that one began with; the rest is the
alphabet.

## Main definitions

* `rebase`: Digits of one base as digits of another.
* `Base58.encode`: The text of bytes.
* `Base58.decode`: The bytes of a text.

## Theorems

* `rebase_rebase`: A change of base and the change back.
* `Base58.decode_encode`: The text of bytes gives the bytes.
-/

namespace SolanaLab

open Checked

/-! ### Digits -/

/-- The digits of a number, the highest first. -/
def highDigits (b n : Nat) : List Nat := (Nat.digits b n).reverse

/-- Digits in base `b` as digits in base `c`, with as many leading zeros. A
    number has no leading zeros, so those are counted and put back. -/
def rebase (b c : Nat) (ds : List Nat) : List Nat :=
  List.replicate (ds.takeWhile (· = 0)).length 0 ++
    highDigits c (Nat.ofDigits b (ds.dropWhile (· = 0)).reverse)

/-- The digits of a number do not begin with a zero. -/
theorem highDigits_head (b n : Nat) : ∀ d ∈ (highDigits b n).head?, d ≠ 0 := by
  intro d hd
  rw [highDigits, List.head?_reverse] at hd
  by_cases hn : n = 0
  · rw [hn, Nat.digits_zero, List.getLast?_nil] at hd
    exact absurd hd (by simp only [Option.not_mem_none, not_false_eq_true])
  · have hne : Nat.digits b n ≠ [] := Nat.digits_ne_nil_iff_ne_zero.mpr hn
    rw [List.getLast?_eq_getLast_of_ne_nil hne, Option.mem_some_iff] at hd
    rw [← hd]
    exact Nat.getLast_digit_ne_zero b hn

theorem ofDigits_highDigits (b n : Nat) : Nat.ofDigits b (highDigits b n).reverse = n := by
  rw [highDigits, List.reverse_reverse, Nat.ofDigits_digits]

/-- Digits that do not begin with a zero are those of the number they spell. -/
theorem highDigits_ofDigits {b : Nat} (hb : 1 < b) {ds : List Nat} (hlt : ∀ d ∈ ds, d < b)
    (hhead : ∀ d ∈ ds.head?, d ≠ 0) : highDigits b (Nat.ofDigits b ds.reverse) = ds := by
  have hdigits : Nat.digits b (Nat.ofDigits b ds.reverse) = ds.reverse := by
    refine Nat.digits_ofDigits b hb _ (fun d hd => hlt d (List.mem_reverse.mp hd)) (fun hne => ?_)
    rw [List.getLast_reverse]
    exact hhead _ (List.head?_eq_some_head _)
  rw [highDigits, hdigits, List.reverse_reverse]

/-- Zeros before digits that do not begin with one are found again. -/
theorem takeWhile_zeros (k : Nat) {ds : List Nat} (hhead : ∀ d ∈ ds.head?, d ≠ 0) :
    (List.replicate k 0 ++ ds).takeWhile (· = 0) = List.replicate k 0 ∧
      (List.replicate k 0 ++ ds).dropWhile (· = 0) = ds := by
  induction k with
  | zero =>
      cases ds with
      | nil => exact ⟨rfl, rfl⟩
      | cons d rest =>
          have hd : d ≠ 0 := hhead d rfl
          simp only [List.replicate_zero, List.nil_append, List.takeWhile_cons, List.dropWhile_cons,
            hd, decide_false, Bool.false_eq_true, if_false, and_self]
  | succ k ih =>
      simp only [List.replicate_succ, List.cons_append, List.takeWhile_cons, List.dropWhile_cons,
        decide_true, if_true, ih.1, ih.2, and_self]

theorem takeWhile_eq_replicate (ds : List Nat) :
    ds.takeWhile (· = 0) = List.replicate (ds.takeWhile (· = 0)).length 0 :=
  List.eq_replicate_of_mem (fun _ hd => of_decide_eq_true
    (List.mem_takeWhile_imp (p := fun d => decide (d = 0)) hd))

/-- A change of base and the change back give the same digits. -/
theorem rebase_rebase {b c : Nat} (hb : 1 < b) {ds : List Nat} (hlt : ∀ d ∈ ds, d < b) :
    rebase c b (rebase b c ds) = ds := by
  -- What is left of the digits begins with no zero, so the number spells it.
  have hhead : ∀ d ∈ (ds.dropWhile (· = 0)).head?, d ≠ 0 := by
    intro d hd
    have hstop := List.head?_dropWhile_not (fun d => decide (d = 0)) ds
    rw [Option.mem_def.mp hd] at hstop
    exact of_decide_eq_false hstop
  rw [rebase, rebase]
  -- The zeros put in front are those found there again.
  rcases takeWhile_zeros (ds.takeWhile (· = 0)).length
    (highDigits_head c (Nat.ofDigits b (ds.dropWhile (· = 0)).reverse)) with ⟨htake, hdrop⟩
  rw [htake, hdrop, List.length_replicate, ofDigits_highDigits,
    highDigits_ofDigits hb (fun d hd => hlt d (List.dropWhile_sublist _ |>.subset hd)) hhead,
    ← takeWhile_eq_replicate, List.takeWhile_append_dropWhile]

theorem rebase_lt {b c : Nat} (hc : 1 < c) {ds : List Nat} : ∀ d ∈ rebase b c ds, d < c := by
  intro d hd
  rcases List.mem_append.mp hd with hd | hd
  · rw [(List.mem_replicate.mp hd).2]
    omega
  · exact Nat.digits_lt_base hc (List.mem_reverse.mp hd)

/-! ### The alphabet -/

namespace Base58

/-- The characters, by the digit they stand for. -/
def alphabet : List Char :=
  ['1', '2', '3', '4', '5', '6', '7', '8', '9', 'A', 'B', 'C', 'D', 'E', 'F', 'G', 'H', 'J', 'K',
    'L', 'M', 'N', 'P', 'Q', 'R', 'S', 'T', 'U', 'V', 'W', 'X', 'Y', 'Z', 'a', 'b', 'c', 'd', 'e',
    'f', 'g', 'h', 'i', 'j', 'k', 'm', 'n', 'o', 'p', 'q', 'r', 's', 't', 'u', 'v', 'w', 'x', 'y',
    'z']

/-- The character of a digit. -/
def char (d : Nat) : Char := alphabet.getD d '1'

/-- The digit of a character. -/
def digit? (c : Char) : Option Nat := alphabet.findIdx? (· = c)

/-- The character of a digit stands for that digit: no character is in the
    alphabet twice. -/
theorem digit?_char {d : Nat} (h : d < 58) : digit? (char d) = some d := by
  have hall : ∀ n ∈ List.range 58, digit? (char n) = some n := by decide
  exact hall d (List.mem_range.mpr h)

/-- The text of bytes. -/
def encode (bytes : List Byte) : String :=
  String.ofList ((rebase 256 58 (bytes.map Fin.val)).map char)

/-- The bytes of a text, when all its characters are in the alphabet. -/
def decode (text : String) : Option (List Byte) := do
  let ds ← text.toList.mapM digit?
  (rebase 58 256 ds).mapM (toWord 8)

theorem mapM_digit? {ds : List Nat} (h : ∀ d ∈ ds, d < 58) :
    (ds.map char).mapM digit? = some ds := by
  induction ds with
  | nil => rfl
  | cons d rest ih =>
      rw [List.forall_mem_cons] at h
      rw [List.map_cons, List.mapM_cons, digit?_char h.1, ih h.2]
      rfl

theorem mapM_toWord (bytes : List Byte) : (bytes.map Fin.val).mapM (toWord 8) = some bytes := by
  induction bytes with
  | nil => rfl
  | cons b rest ih =>
      rw [List.map_cons, List.mapM_cons, toWord_eq_some.mpr rfl, ih]
      rfl

/-- The text of bytes gives the bytes. A text need not come from bytes, so there
    is no converse: decoding fails outside the alphabet. -/
theorem decode_encode (bytes : List Byte) : decode (encode bytes) = some bytes := by
  have hlt : ∀ d ∈ bytes.map Fin.val, d < 256 := by
    intro d hd
    rcases List.mem_map.mp hd with ⟨b, -, rfl⟩
    exact b.isLt
  rw [decode, encode, String.toList_ofList, mapM_digit? (rebase_lt (by decide))]
  change (rebase 58 256 (rebase 256 58 (bytes.map Fin.val))).mapM (toWord 8) = some bytes
  rw [rebase_rebase (by decide) hlt, mapM_toWord]

example : encode (List.replicate 4 0 ++ [58, 0]) = "11115R1" := by decide +kernel

end Base58

end SolanaLab
