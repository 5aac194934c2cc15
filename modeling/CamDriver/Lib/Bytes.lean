import Mathlib.Algebra.Order.Ring.Nat
import Mathlib.Tactic.Ring

/-!
# CamDriver.Lib.Bytes

Fixed-width integers in byte buffers, in either byte order: `Endian.decode` and
`Endian.encode`, that they undo each other, and `take`/`drop` lemmas for
reading fields at an offset.

Nothing here depends on a file format.
-/

/-- Byte order of an integer field. -/
inductive Endian where
  | little | big
deriving DecidableEq, Repr

namespace Bytes

/-! ## Little-endian values -/

/-- The value of bytes, the least significant one first. -/
def ofLittle : List UInt8 → Nat
  | [] => 0
  | b :: bs => b.toNat + 256 * ofLittle bs

/-- The `width` low bytes of a value, the least significant one first. -/
def toLittle : Nat → Nat → List UInt8
  | 0, _ => []
  | width + 1, n => UInt8.ofNat n :: toLittle width (n / 256)

@[simp] theorem length_toLittle (width n : Nat) : (toLittle width n).length = width := by
  induction width generalizing n with
  | zero => rfl
  | succ width ih => simp [toLittle, ih]

/-- Reading back a value that fits. -/
theorem ofLittle_toLittle {width n : Nat} (h : n < 256 ^ width) :
    ofLittle (toLittle width n) = n := by
  induction width generalizing n with
  | zero => simp at h; simp [toLittle, ofLittle, h]
  | succ width ih =>
      have hq : n / 256 < 256 ^ width := by
        rw [pow_succ] at h
        exact Nat.div_lt_of_lt_mul (by omega)
      rw [toLittle, ofLittle, ih hq, UInt8.toNat_ofNat']
      omega

end Bytes

namespace Endian

open Bytes

/-- `struct.unpack` of one unsigned field. -/
def decode : Endian → List UInt8 → Nat
  | little, bs => ofLittle bs
  | big, bs => ofLittle bs.reverse

/-- `struct.pack` of one unsigned field of `width` bytes. -/
def encode : Endian → Nat → Nat → List UInt8
  | little, width, n => toLittle width n
  | big, width, n => (toLittle width n).reverse

/-- The other byte order. -/
def swap : Endian → Endian
  | little => big
  | big => little

/-- `struct.unpack` of one signed field: two's complement. -/
def decodeInt (e : Endian) (bs : List UInt8) : Int :=
  let n := e.decode bs
  if 2 * n < 256 ^ bs.length then n else n - 256 ^ bs.length

@[simp] theorem length_encode (e : Endian) (width n : Nat) : (e.encode width n).length = width := by
  cases e <;> simp [encode]

/-- **Field round trip**: a value that fits its field is read back. -/
@[simp] theorem decode_encode (e : Endian) {width n : Nat} (h : n < 256 ^ width) :
    e.decode (e.encode width n) = n := by
  cases e <;> simp [decode, encode, ofLittle_toLittle h]

/-- A single byte reads the same both ways. -/
theorem decode_byte {bs : List UInt8} (h : bs.length = 1) (e e' : Endian) :
    e.decode bs = e'.decode bs := by
  obtain ⟨b, rfl⟩ := List.length_eq_one_iff.mp h
  cases e <;> cases e' <;> rfl

/-- Two bytes of a value that fits one, read the other way. -/
theorem decode_swap_pair {e : Endian} {bs : List UInt8} (h : bs.length = 2)
    (hlt : e.decode bs < 256) : e.swap.decode bs = 256 * e.decode bs := by
  obtain _ | ⟨a, _ | ⟨b, _ | _⟩⟩ := bs <;> simp at h
  cases e with
  | little | big =>
      simp only [decode, swap, ofLittle, List.reverse_cons, List.reverse_nil, List.nil_append,
        List.cons_append] at hlt ⊢
      omega

end Endian

namespace Bytes

/-! ## Fields at an offset -/

/-- The `width` bytes at `off`. -/
def field (bs : List UInt8) (off width : Nat) : List UInt8 := (bs.drop off).take width

theorem length_field (bs : List UInt8) (off width : Nat) :
    (field bs off width).length = min width (bs.length - off) := by
  rw [field, List.length_take, List.length_drop]

/-- A field is cut off exactly if the buffer ends inside it. -/
theorem length_field_lt {bs : List UInt8} {off width : Nat} :
    (field bs off width).length < width ↔ bs.length < off + width ∧ 0 < width := by
  rw [length_field]
  omega

/-- The field a buffer starts with. -/
theorem field_head {xs : List UInt8} {width : Nat} (h : xs.length = width) (ys : List UInt8) :
    field (xs ++ ys) 0 width = xs := by
  rw [field, List.drop_zero, ← h, List.take_left]

/-- A field behind a prefix. -/
theorem field_append_right {xs : List UInt8} {off : Nat} (h : xs.length ≤ off) (ys : List UInt8)
    (width : Nat) : field (xs ++ ys) off width = field ys (off - xs.length) width := by
  rw [field, field, List.drop_append, List.drop_of_length_le h, List.nil_append]

/-- A field that lies in the first `n` bytes. -/
theorem field_take {bs : List UInt8} {n off width : Nat} (h : off + width ≤ n) :
    field (bs.take n) off width = field bs off width := by
  simp only [field, List.drop_take, List.take_take]
  congr 1
  omega

end Bytes
