import SolanaLab.Library.Bytes

/-!
# Fields One After the Other

The binary form of records whose fields have no names and no separators: each
value is written by its own fields in order, and is read off the front of what
is left. `Borsh` is a form together with the law that reading gives back what
was written and leaves what comes after it, so that forms put together keep
the law.

## Main definitions

* `Borsh`: A form of the values of a type, with its law.
* `Borsh.word`: Words of a width in bytes.
* `Borsh.tag`: Values told apart by one byte.
* `Borsh.pair`: Two values in a row.
* `Borsh.record`: A record by its fields.

## Theorems

* `Borsh.read_self`: Reading a value that stands alone.
-/

namespace SolanaLab

namespace Checked

/-- How the values of a type are written as bytes and read off the front of
    bytes. -/
structure Borsh (α : Type) where
  write : α → List Byte
  read : List Byte → Option (α × List Byte)
  read_write : ∀ a rest, read (write a ++ rest) = some (a, rest)

namespace Borsh

variable {α β : Type}

/-- Words of a width, by their bytes, the lowest first. -/
def word (n w : Nat) (h : 8 * n = w) : Borsh (Word w) where
  write v := leBytes n v.val
  read bytes := (wordOfBytes w (bytes.take n)).map (fun v => (v, bytes.drop n))
  read_write v rest := by
    rw [List.take_left' (length_leBytes n _), List.drop_left' (length_leBytes n _),
      wordOfBytes_leBytes h]
    rfl

/-- Values told apart by one byte each. -/
def tag (toByte : α → Byte) (ofByte : Byte → Option α) (h : ∀ a, ofByte (toByte a) = some a) :
    Borsh α where
  write a := [toByte a]
  read
    | [] => none
    | byte :: rest => (ofByte byte).map (fun a => (a, rest))
  read_write a rest := by
    change (ofByte (toByte a)).map (fun a => (a, rest)) = _
    rw [h, Option.map_some]

/-- Two values, one after the other. -/
def pair (f : Borsh α) (g : Borsh β) : Borsh (α × β) where
  write v := f.write v.1 ++ g.write v.2
  read bytes := (f.read bytes).bind (fun first =>
    (g.read first.2).map (fun second => ((first.1, second.1), second.2)))
  read_write v rest := by
    rw [List.append_assoc, f.read_write, Option.bind_some, g.read_write, Option.map_some]

/-- A record, by the tuple of its fields. Building has to undo taking apart, so
    that no field is forgotten. -/
def record (f : Borsh α) (fields : β → α) (build : α → β) (h : ∀ b, build (fields b) = b) :
    Borsh β where
  write b := f.write (fields b)
  read bytes := (f.read bytes).map (fun v => (build v.1, v.2))
  read_write b rest := by rw [f.read_write, Option.map_some, h]

/-- Reading a value that nothing comes after. -/
theorem read_self (f : Borsh α) (a : α) : f.read (f.write a) = some (a, []) := by
  have hread := f.read_write a []
  rw [List.append_nil] at hread
  exact hread

end Borsh

end Checked

end SolanaLab
