import Mathlib.Data.List.Basic
import GameServer.Lib.Bytes

/-!
# GameServer.Lib.Layout

How packed structs lie in memory.

A `Layout` writes a value as so many bytes and reads it back from the start
of a buffer; both directions and the law between them are one structure, so a
struct is laid out by composing the layouts of its fields.

* `Layout.prod`, `Layout.map` — fields one after the other, and the record
  they make up;
* `Layout.arrayBytes`, `Layout.readArray` — arrays (`readArray_arrayBytes`);
* `writeAt`, `Layout.writeArray` — stores into a buffer, which have no result
  where they leave it (`writeArray_append`).
-/

namespace GameServer

/-- Values of a fixed size. -/
structure Layout (α : Type) where
  size : Nat
  toBytes : α → List UInt8
  ofBytes : List UInt8 → α
  length_toBytes : ∀ a, (toBytes a).length = size
  ofBytes_append : ∀ a bs, ofBytes (toBytes a ++ bs) = a

namespace Layout

variable {α β : Type}

attribute [simp] length_toBytes ofBytes_append

/-! ## Fields -/

/-- A little-endian integer of `k` bytes. -/
def integer (k : Nat) (toNat : α → Nat) (ofNat : Nat → α)
    (h : ∀ a, ofNat (toNat a % 256 ^ k) = a) : Layout α where
  size := k
  toBytes a := toBytesLE k (toNat a)
  ofBytes bs := ofNat (ofBytesLE (bs.take k))
  length_toBytes a := length_toBytesLE k _
  ofBytes_append a bs := by
    have htake : (toBytesLE k (toNat a) ++ bs).take k = toBytesLE k (toNat a) := by
      rw [List.take_append_of_le_length (length_toBytesLE k _).ge, List.take_of_length_le
        (length_toBytesLE k _).le]
    rw [htake, ofBytesLE_toBytesLE, h]

def u16 : Layout UInt16 :=
  integer 2 UInt16.toNat UInt16.ofNat fun a => by
    have hlt : a.toNat < 256 ^ 2 := a.toNat_lt
    rw [Nat.mod_eq_of_lt hlt, UInt16.ofNat_toNat]

def u32 : Layout UInt32 :=
  integer 4 UInt32.toNat UInt32.ofNat fun a => by
    have hlt : a.toNat < 256 ^ 4 := a.toNat_lt
    rw [Nat.mod_eq_of_lt hlt, UInt32.ofNat_toNat]

def u64 : Layout UInt64 :=
  integer 8 UInt64.toNat UInt64.ofNat fun a => by
    have hlt : a.toNat < 256 ^ 8 := a.toNat_lt
    rw [Nat.mod_eq_of_lt hlt, UInt64.ofNat_toNat]

def i32 : Layout Int32 :=
  integer 4 (fun a => a.toUInt32.toNat) (fun n => (UInt32.ofNat n).toInt32) fun a => by
    have hlt : a.toUInt32.toNat < 256 ^ 4 := a.toUInt32.toNat_lt
    rw [Nat.mod_eq_of_lt hlt, UInt32.ofNat_toNat, Int32.toInt32_toUInt32]

/-! ## Structs -/

/-- One struct behind the other. -/
def prod (l : Layout α) (r : Layout β) : Layout (α × β) where
  size := l.size + r.size
  toBytes p := l.toBytes p.1 ++ r.toBytes p.2
  ofBytes bs := (l.ofBytes bs, r.ofBytes (bs.drop l.size))
  length_toBytes p := by rw [List.length_append, l.length_toBytes, r.length_toBytes]
  ofBytes_append p bs := by
    have hdrop : (l.toBytes p.1 ++ (r.toBytes p.2 ++ bs)).drop l.size = r.toBytes p.2 ++ bs := by
      rw [← l.length_toBytes p.1, List.drop_left]
    rw [List.append_assoc, l.ofBytes_append, hdrop, r.ofBytes_append]

/-- The same bytes, read as another type. -/
def map (l : Layout α) (f : β → α) (g : α → β) (h : ∀ b, g (f b) = b) : Layout β where
  size := l.size
  toBytes b := l.toBytes (f b)
  ofBytes bs := g (l.ofBytes bs)
  length_toBytes b := l.length_toBytes _
  ofBytes_append b bs := by rw [l.ofBytes_append, h]

/-! ## Arrays -/

variable (l : Layout α)

/-- The elements one after the other. -/
def arrayBytes (as : List α) : List UInt8 := as.flatMap l.toBytes

/-- The first `n` elements of an array. -/
def readArray : Nat → List UInt8 → List α
  | 0, _ => []
  | n + 1, bs => l.ofBytes bs :: readArray n (bs.drop l.size)

/-- An array takes its length times the size of an item. -/
@[simp] theorem length_arrayBytes (as : List α) :
    (l.arrayBytes as).length = as.length * l.size := by
  induction as with
  | nil => simp [arrayBytes]
  | cons a as ih =>
      rw [arrayBytes, List.flatMap_cons, List.length_append, l.length_toBytes,
        ← arrayBytes, ih, List.length_cons, Nat.succ_mul, Nat.add_comm]

@[simp] theorem length_readArray (n : Nat) (bs : List UInt8) : (l.readArray n bs).length = n := by
  induction n generalizing bs with
  | zero => rfl
  | succ n ih => rw [readArray, List.length_cons, ih]

/-- Reading an array gives back what was written, whatever follows. -/
theorem readArray_arrayBytes (as : List α) (bs : List UInt8) :
    l.readArray as.length (l.arrayBytes as ++ bs) = as := by
  induction as with
  | nil => rfl
  | cons a as ih =>
      have hcons : l.arrayBytes (a :: as) ++ bs = l.toBytes a ++ (l.arrayBytes as ++ bs) := by
        rw [arrayBytes, List.flatMap_cons, ← arrayBytes, List.append_assoc]
      have hdrop :
          (l.toBytes a ++ (l.arrayBytes as ++ bs)).drop l.size = l.arrayBytes as ++ bs := by
        rw [← l.length_toBytes a, List.drop_left]
      rw [hcons, List.length_cons, readArray, l.ofBytes_append, hdrop, ih]

end Layout

/-! ## Stores -/

/-- `memcpy(buf + off, src, size)`; a store outside the buffer has no result. -/
def writeAt (buf : List UInt8) (off : Nat) (src : List UInt8) : Option (List UInt8) :=
  if off + src.length ≤ buf.length then
    some (buf.take off ++ src ++ buf.drop (off + src.length))
  else none

/-- A store right behind what is already there. -/
theorem writeAt_append (pre : List UInt8) {rest src : List UInt8} (h : src.length ≤ rest.length) :
    writeAt (pre ++ rest) pre.length src = some (pre ++ src ++ rest.drop src.length) := by
  have hfits : pre.length + src.length ≤ (pre ++ rest).length := by
    rw [List.length_append]
    omega
  rw [writeAt, if_pos hfits, List.take_left, List.drop_length_add_append]

namespace Layout

variable {α : Type} (l : Layout α)

/-- `for (i = 0; i < n; ++i) items[i] = as[i]`. -/
def writeArray (buf : List UInt8) (off : Nat) : List α → Option (List UInt8)
  | [] => some buf
  | a :: as => (writeAt buf off (l.toBytes a)).bind fun buf => writeArray buf (off + l.size) as

/-- An array that fits behind what is already there. -/
theorem writeArray_append (pre : List UInt8) {rest : List UInt8} {as : List α}
    (h : as.length * l.size ≤ rest.length) :
    l.writeArray (pre ++ rest) pre.length as =
      some (pre ++ l.arrayBytes as ++ rest.drop (as.length * l.size)) := by
  induction as generalizing pre rest with
  | nil => simp [writeArray, arrayBytes]
  | cons a as ih =>
      rw [List.length_cons, Nat.succ_mul] at h
      have hroom : (l.toBytes a).length ≤ rest.length := by
        rw [l.length_toBytes]
        omega
      have hlength : pre.length + l.size = (pre ++ l.toBytes a).length := by
        rw [List.length_append, l.length_toBytes]
      have hrest : as.length * l.size ≤ (rest.drop (l.toBytes a).length).length := by
        rw [List.length_drop, l.length_toBytes]
        omega
      rw [writeArray, writeAt_append pre hroom, Option.bind_some, hlength, ih _ hrest,
        List.drop_drop, l.length_toBytes, List.length_cons, Nat.succ_mul, Nat.add_comm l.size]
      simp only [arrayBytes, List.flatMap_cons, List.append_assoc]

end Layout

end GameServer
