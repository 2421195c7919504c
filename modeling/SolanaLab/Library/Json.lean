import SolanaLab.Library.Bytes

/-!
# JSON Values and Codecs

JSON trees, and the reading and writing of typed values as JSON.

A codec writes a value and reads it back. Writing may fail, because a number
of a JSON value has 64 bits; `Fits` says for which values it succeeds.
The two laws, that a value that fits is written and that what is written is
read back, are fields of the codec, so a codec that loses something cannot be
built.

A record is written as an object with one member for each of its fields, and
read from an object by the names of its fields, or from an array by their
places. `Fields` is the part of that below the object: fields of one name are
put together by `and`, and `as` turns what they hold into a record. Their
names have to differ, which is what `record` asks for.

## Main definitions

* `Json`: A JSON value.
* `Json.Codec`: Writing and reading back the values of a type.
* `Json.Codec.unsigned`, `Json.Codec.string`, `Json.Codec.list`,
  `Json.Codec.byteArray`, `Json.Codec.variant`: The codecs of basic types.
* `Json.Fields`: The members that a record is written as.
* `Json.Codec.record`: The codec of a record.

## Theorems

* `Json.Fields.member?_of_mem`: Members of different names are found by them.
-/

namespace SolanaLab

open Checked

/-- A JSON value. Its numbers are those of 64 bits without a sign. -/
inductive Json where
  | null
  | bool (value : Bool)
  | number (value : Word 64)
  | string (value : String)
  | array (items : List Json)
  | object (members : List (String × Json))

namespace Json

/-- Why a value is not written or not read: a number has no place in a JSON
    value, or the value is not of the form expected. -/
inductive Error where
  | numberOutOfRange
  | data
deriving DecidableEq, Repr

/-- A type whose values are written as JSON and read back. -/
structure Codec (α : Type) where
  write : α → Except Error Json
  read : Json → Except Error α
  Fits : α → Prop
  write_isOk : ∀ a, (∃ j, write a = .ok j) ↔ Fits a
  read_write : ∀ {a j}, write a = .ok j → read j = .ok a

namespace Codec

variable {α : Type}

/-- An unsigned integer, written when it has 64 bits. -/
def unsigned (w : Nat) : Codec (Word w) where
  write n := (okOr (narrow 64 n) .numberOutOfRange).map .number
  read
    | .number n => okOr (narrow w n) .data
    | _ => .error .data
  Fits n := n.val < 2 ^ 64
  write_isOk n := by
    simp only [map_isOk, okOr_eq_ok, narrow_eq_some]
    exact ⟨fun ⟨m, hm⟩ => hm ▸ m.isLt, fun h => ⟨⟨n.val, h⟩, rfl⟩⟩
  read_write {n j} h := by
    rcases map_eq_ok.mp h with ⟨m, hm, rfl⟩
    have hval := narrow_eq_some.mp (okOr_eq_ok.mp hm)
    exact okOr_eq_ok.mpr (narrow_eq_some.mpr hval.symm)

/-- A text. -/
def string : Codec String where
  write s := .ok (.string s)
  read
    | .string s => .ok s
    | _ => .error .data
  Fits _ := True
  write_isOk s := iff_of_true ⟨_, rfl⟩ trivial
  read_write {s j} h := by rw [← Except.ok.inj h]

/-- A list, as an array. -/
def list (c : Codec α) : Codec (List α) where
  write l := (l.mapM c.write).map .array
  read
    | .array items => items.mapM c.read
    | _ => .error .data
  Fits l := ∀ a ∈ l, c.Fits a
  write_isOk l := by
    simp only [← c.write_isOk, ← mapM_isOk, map_isOk]
  read_write {l j} h := by
    rcases map_eq_ok.mp h with ⟨items, hl, rfl⟩
    exact mapM_inverse (fun a b => c.read_write) hl

/-- An array of `n` bytes, kept as the number they spell. -/
def byteArray (n : Nat) : Codec (Word (8 * n)) where
  write v := (list (unsigned 8)).write (leBytes n v.val)
  read j := do
    let bytes ← (list (unsigned 8)).read j
    okOr (wordOfBytes (8 * n) bytes) .data
  Fits _ := True
  write_isOk v := by
    refine iff_of_true ((list (unsigned 8)).write_isOk _ |>.mpr (fun b _ => ?_)) trivial
    exact b.isLt.trans (Nat.pow_lt_pow_right Nat.one_lt_two (by decide))
  read_write {v j} h :=
    bind_eq_ok.mpr ⟨_, (list (unsigned 8)).read_write h, okOr_eq_ok.mpr (wordOfBytes_leBytes rfl v)⟩

/-- A variant without data, as its name. An object with that name as its only
    member is read too. -/
def variant (name : α → String) (variants : List α)
    (h : ∀ a, variants.find? (fun b => name b = name a) = some a) : Codec α where
  write a := .ok (.string (name a))
  read
    | .string s => okOr (variants.find? (fun b => name b = s)) .data
    | .object [(s, .null)] => okOr (variants.find? (fun b => name b = s)) .data
    | _ => .error .data
  Fits _ := True
  write_isOk a := iff_of_true ⟨_, rfl⟩ trivial
  read_write {a j} heq := by
    rw [← Except.ok.inj heq]
    exact okOr_eq_ok.mpr (h a)

end Codec

/-! ### Records -/

/-- The member of a name. -/
def member? (members : List (String × Json)) (name : String) : Option Json :=
  (members.find? (fun m => m.1 = name)).map Prod.snd

/-- Members of different names are found by them. -/
theorem member?_of_mem {members : List (String × Json)} (hnodup : (members.map Prod.fst).Nodup)
    {m : String × Json} (hm : m ∈ members) : member? members m.1 = some m.2 := by
  induction members with
  | nil => exact absurd hm List.not_mem_nil
  | cons first rest ih =>
      rw [List.map_cons, List.nodup_cons] at hnodup
      rw [member?, List.find?_cons]
      rcases List.mem_cons.mp hm with rfl | hm
      · simp only [decide_true, Option.map_some]
      · have hne : first.1 ≠ m.1 := fun heq => hnodup.1 (heq ▸ List.mem_map_of_mem hm)
        simp only [hne, decide_false]
        exact ih hnodup.2 hm

/-- The members that a value is written as, and what it is read from. -/
structure Fields (α : Type) where
  names : List String
  write : α → Except Error (List (String × Json))
  read : (String → Option Json) → Except Error α
  Fits : α → Prop
  write_isOk : ∀ a, (∃ members, write a = .ok members) ↔ Fits a
  write_names : ∀ {a members}, write a = .ok members → members.map Prod.fst = names
  read_write : ∀ {a members find}, write a = .ok members →
    (∀ m ∈ members, find m.1 = some m.2) → read find = .ok a

namespace Fields

variable {α β : Type}

/-- One field. -/
def field (name : String) (c : Codec α) : Fields α where
  names := [name]
  write a := (c.write a).map (fun j => [(name, j)])
  read find := okOr (find name) .data >>= c.read
  Fits := c.Fits
  write_isOk a := map_isOk.trans (c.write_isOk a)
  write_names {a members} h := by
    rcases map_eq_ok.mp h with ⟨j, -, rfl⟩
    rfl
  read_write {a members find} h hfind := by
    rcases map_eq_ok.mp h with ⟨j, hj, rfl⟩
    rw [hfind (name, j) (List.mem_singleton_self _), okOr_some]
    exact c.read_write hj

/-- The fields of two parts. -/
def and (f : Fields α) (g : Fields β) : Fields (α × β) where
  names := f.names ++ g.names
  write p := do
    let first ← f.write p.1
    let second ← g.write p.2
    return first ++ second
  read find := do
    let a ← f.read find
    let b ← g.read find
    return (a, b)
  Fits p := f.Fits p.1 ∧ g.Fits p.2
  write_isOk p := by
    rw [← f.write_isOk, ← g.write_isOk]
    constructor
    · rintro ⟨members, h⟩
      rcases bind_eq_ok.mp h with ⟨first, hfirst, h⟩
      rcases bind_eq_ok.mp h with ⟨second, hsecond, -⟩
      exact ⟨⟨first, hfirst⟩, second, hsecond⟩
    · rintro ⟨⟨first, hfirst⟩, second, hsecond⟩
      exact ⟨_, bind_eq_ok.mpr ⟨first, hfirst, bind_eq_ok.mpr ⟨second, hsecond, rfl⟩⟩⟩
  write_names {p members} h := by
    rcases bind_eq_ok.mp h with ⟨first, hfirst, h⟩
    rcases bind_eq_ok.mp h with ⟨second, hsecond, h⟩
    rw [← Except.ok.inj h, List.map_append, f.write_names hfirst, g.write_names hsecond]
  -- Each part finds its own members among those of both.
  read_write {p members find} h hfind := by
    rcases bind_eq_ok.mp h with ⟨first, hfirst, h⟩
    rcases bind_eq_ok.mp h with ⟨second, hsecond, h⟩
    rw [← Except.ok.inj h] at hfind
    have hf := f.read_write hfirst (fun m hm => hfind m (List.mem_append_left _ hm))
    have hg := g.read_write hsecond (fun m hm => hfind m (List.mem_append_right _ hm))
    exact bind_eq_ok.mpr ⟨p.1, hf, bind_eq_ok.mpr ⟨p.2, hg, rfl⟩⟩

/-- The fields of what is made of parts. -/
def as (f : Fields α) (make : α → β) (parts : β → α) (h : ∀ b, make (parts b) = b) :
    Fields β where
  names := f.names
  write b := f.write (parts b)
  read find := (f.read find).map make
  Fits b := f.Fits (parts b)
  write_isOk b := f.write_isOk (parts b)
  write_names := f.write_names
  read_write {b members find} hw hfind := by
    rw [f.read_write hw hfind, Except.map, h]

end Fields

/-- A record, as an object. It is read by the names of its fields from an
    object and by their places from an array. -/
def Codec.record {α : Type} (f : Fields α) (distinct : f.names.Nodup) : Codec α where
  write a := (f.write a).map .object
  read
    | .object members => f.read (member? members)
    | .array items =>
      if items.length = f.names.length then f.read (member? (f.names.zip items)) else .error .data
    | _ => .error .data
  Fits := f.Fits
  write_isOk a := map_isOk.trans (f.write_isOk a)
  -- Different names make the members of the object be found by them.
  read_write {a j} h := by
    rcases map_eq_ok.mp h with ⟨members, hw, rfl⟩
    have hnames : (members.map Prod.fst).Nodup := by
      rw [f.write_names hw]
      exact distinct
    exact f.read_write hw (fun m hm => member?_of_mem hnames hm)

end Json

end SolanaLab
