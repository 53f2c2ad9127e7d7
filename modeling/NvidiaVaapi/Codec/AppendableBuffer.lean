import Mathlib.Algebra.Group.Nat.Defs
import Mathlib.Data.List.Basic

/-!
# Growable host buffers

`appendable-buffer.c`: a block of host memory of which a prefix is in use.  The block
keeps what earlier uses have left behind the prefix, and a fresh block holds whatever
`memalign` finds there.
-/

namespace NvidiaVaapi
namespace Codec

/-- `SIZE_MAX`. -/
def sizeMax : Nat := 2 ^ 64 - 1

/-- `UINT32_MAX`. -/
def uint32Max : Nat := 2 ^ 32 - 1

/-- The answers of `memalign`: whether there is a block of a capacity, and what a fresh
block holds. -/
structure Heap where
  available : Nat → Bool
  contents : Nat → UInt8

/-- The loop of `reserveBuffer` that looks for a capacity.  Every round adds a byte at
least, so that `required` rounds are enough. -/
def growCapacity (required : Nat) : Nat → Nat → Nat
  | 0, capacity => capacity
  | rounds + 1, capacity =>
    if capacity < required then
      let growth := capacity / 2
      if growth = 0 ∨ capacity > sizeMax - growth then required
      else growCapacity required rounds (capacity + growth)
    else capacity

/-- The capacity that a block of `allocated` bytes grows to. -/
def grownCapacity (allocated required : Nat) : Nat :=
  growCapacity required required (if allocated ≠ 0 then allocated else 256)

theorem le_growCapacity {required rounds capacity : Nat} (h : required ≤ capacity + rounds) :
    required ≤ growCapacity required rounds capacity := by
  induction rounds generalizing capacity with
  | zero => exact h
  | succ rounds ih =>
      unfold growCapacity
      split
      · simp only
        split
        · exact Nat.le_refl required
        · rename_i hgrows
          have hgrowth : capacity / 2 ≠ 0 := fun h => hgrows (.inl h)
          apply ih
          omega
      · omega

theorem le_grownCapacity (allocated required : Nat) :
    required ≤ grownCapacity allocated required :=
  le_growCapacity (Nat.le_add_left _ _)

theorem size_le_nil : 0 ≤ ([] : List UInt8).length :=
  Nat.zero_le _

/-- `AppendableBuffer`: `buf` is the whole block, and its length is `allocated`. -/
structure AppendableBuffer where
  buf : List UInt8 := []
  size : Nat := 0
  failed : Bool := false
  size_le : size ≤ buf.length := by exact size_le_nil

namespace AppendableBuffer

def allocated (buffer : AppendableBuffer) : Nat :=
  buffer.buf.length

/-- The bytes in use. -/
def bytes (buffer : AppendableBuffer) : List UInt8 :=
  buffer.buf.take buffer.size

@[simp] theorem length_bytes (buffer : AppendableBuffer) :
    buffer.bytes.length = buffer.size := by
  simp [bytes, buffer.size_le]

/-- `buffer->size = size`, where no byte is added. -/
def shrink (buffer : AppendableBuffer) (size : Nat) (h : size ≤ buffer.size) :
    AppendableBuffer :=
  { buffer with size := size, size_le := Nat.le_trans h buffer.size_le }

/-- `buffer->size = 0`. -/
def clear (buffer : AppendableBuffer) : AppendableBuffer :=
  buffer.shrink 0 (Nat.zero_le _)

/-- The block is replaced by one of another capacity with the bytes in use copied to it. -/
def move (buffer : AppendableBuffer) (heap : Heap) (capacity : Nat) : AppendableBuffer :=
  { buffer with
    buf := buffer.bytes ++ (List.range' buffer.size (capacity - buffer.size)).map heap.contents
    size_le := by simp }

@[simp] theorem move_bytes (buffer : AppendableBuffer) (heap : Heap) (capacity : Nat) :
    (buffer.move heap capacity).bytes = buffer.bytes := by
  unfold bytes
  change List.take buffer.size (buffer.bytes ++ _) = _
  rw [List.take_append_of_le_length (by simp)]
  exact List.take_of_length_le (by simp)

theorem le_allocated_move (buffer : AppendableBuffer) (heap : Heap) {capacity : Nat} :
    capacity ≤ (buffer.move heap capacity).allocated := by
  simp only [allocated, move, List.length_append, List.length_map, List.length_range',
    length_bytes]
  omega

/-- `reserveBuffer`; the flag is its result. -/
def reserve (heap : Heap) (buffer : AppendableBuffer) (required : Nat) :
    AppendableBuffer × Bool :=
  if required ≤ buffer.allocated then (buffer, true)
  else
    let capacity := grownCapacity buffer.allocated required
    if heap.available capacity then (buffer.move heap capacity, true)
    else ({ buffer with failed := true }, false)

/-- A reservation that succeeds keeps the bytes in use and gives the room asked for. -/
theorem reserve_spec {heap : Heap} {buffer buffer' : AppendableBuffer} {required : Nat}
    (hreserve : reserve heap buffer required = (buffer', true)) :
    buffer'.bytes = buffer.bytes ∧ buffer'.size = buffer.size ∧
      buffer'.failed = buffer.failed ∧ required ≤ buffer'.allocated := by
  unfold reserve at hreserve
  simp only at hreserve
  split at hreserve
  · rename_i henough
    cases hreserve
    exact ⟨rfl, rfl, rfl, henough⟩
  · split at hreserve
    · cases hreserve
      exact ⟨move_bytes _ _ _, rfl, rfl, Nat.le_trans (le_grownCapacity _ _)
        (le_allocated_move buffer heap)⟩
    · cases hreserve

/-- A reservation that fails is noted, and the buffer stays as it is. -/
theorem reserve_failed {heap : Heap} {buffer buffer' : AppendableBuffer} {required : Nat}
    (hreserve : reserve heap buffer required = (buffer', false)) :
    buffer' = { buffer with failed := true } := by
  unfold reserve at hreserve
  simp only at hreserve
  split at hreserve
  · cases hreserve
  · split at hreserve <;> cases hreserve
    rfl

/-- The `memcpy` of `appendBuffer`, into a block with room for the data. -/
def write (buffer : AppendableBuffer) (data : List UInt8)
    (h : buffer.size + data.length ≤ buffer.allocated) : AppendableBuffer :=
  { buffer with
    buf := buffer.bytes ++ data ++ buffer.buf.drop (buffer.size + data.length)
    size := buffer.size + data.length
    size_le := by
      have := h
      simp }

@[simp] theorem write_bytes (buffer : AppendableBuffer) (data : List UInt8)
    (h : buffer.size + data.length ≤ buffer.allocated) :
    (buffer.write data h).bytes = buffer.bytes ++ data := by
  change List.take (buffer.size + data.length) (buffer.bytes ++ data ++ _) = _
  rw [List.take_append_of_le_length (by simp)]
  exact List.take_of_length_le (by simp)

/-- `appendBuffer`; the flag is its result. -/
def append (heap : Heap) (buffer : AppendableBuffer) (data : List UInt8) :
    AppendableBuffer × Bool :=
  if data.length = 0 then (buffer, true)
  else if buffer.size > sizeMax - data.length then ({ buffer with failed := true }, false)
  else
    match hreserve : reserve heap buffer (buffer.size + data.length) with
    | (buffer', true) =>
      (buffer'.write data (by
        obtain ⟨_, hsize, _, hroom⟩ := reserve_spec hreserve
        rw [hsize]
        exact hroom), true)
    | (buffer', false) => (buffer', false)

/-- Appended data comes behind the bytes in use. -/
theorem append_spec {heap : Heap} {buffer buffer' : AppendableBuffer} {data : List UInt8}
    (happend : append heap buffer data = (buffer', true)) :
    buffer'.bytes = buffer.bytes ++ data ∧ buffer'.size = buffer.size + data.length ∧
      buffer'.failed = buffer.failed := by
  unfold append at happend
  split at happend
  · rename_i hempty
    cases happend
    simp [List.eq_nil_of_length_eq_zero hempty]
  · split at happend
    · cases happend
    · split at happend
      · rename_i middle hreserve
        obtain ⟨hbytes, hsize, hfailed, _⟩ := reserve_spec hreserve
        cases happend
        refine ⟨by rw [write_bytes, hbytes], ?_, hfailed⟩
        change middle.size + data.length = _
        rw [hsize]
      · cases happend

theorem append_failed {heap : Heap} {buffer buffer' : AppendableBuffer} {data : List UInt8}
    (happend : append heap buffer data = (buffer', false)) :
    buffer' = { buffer with failed := true } := by
  unfold append at happend
  split at happend
  · cases happend
  · split at happend
    · cases happend
      rfl
    · split at happend
      · cases happend
      · rename_i middle hreserve
        cases happend
        exact reserve_failed hreserve

/-- Where no failure is noted afterwards, there was none before, and the data was appended. -/
theorem append_unfailed {heap : Heap} {buffer : AppendableBuffer} {data : List UInt8}
    (hunfailed : (append heap buffer data).1.failed = false) :
    buffer.failed = false ∧ (append heap buffer data).1.bytes = buffer.bytes ++ data ∧
      (append heap buffer data).1.size = buffer.size + data.length := by
  cases happend : append heap buffer data with
  | mk buffer' result =>
    rw [happend] at hunfailed
    cases result with
    | false =>
        rw [append_failed happend] at hunfailed
        cases hunfailed
    | true =>
        obtain ⟨hbytes, hsize, hfailed⟩ := append_spec happend
        exact ⟨hfailed.symm.trans hunfailed, hbytes, hsize⟩

/-- With memory enough, data that fits the size of an object is appended. -/
theorem append_available {heap : Heap} (hheap : ∀ capacity, heap.available capacity = true)
    {buffer : AppendableBuffer} {data : List UInt8}
    (hfits : buffer.size + data.length ≤ sizeMax) : (append heap buffer data).2 = true := by
  cases happend : append heap buffer data with
  | mk buffer' result =>
    cases result with
    | true => rfl
    | false =>
      exfalso
      unfold append at happend
      split at happend
      · cases happend
      · rw [if_neg (by omega)] at happend
        split at happend
        · cases happend
        · rename_i hreserve
          unfold reserve at hreserve
          simp only [hheap, if_true] at hreserve
          split at hreserve <;> cases hreserve

/-- `trimBuffer`: a smaller block, if there is one. -/
def trim (heap : Heap) (buffer : AppendableBuffer) (targetCapacity : Nat) : AppendableBuffer :=
  let target := max targetCapacity buffer.size
  if target ≥ buffer.allocated then buffer
  else if target = 0 ∨ heap.available target then buffer.move heap target
  else buffer

end AppendableBuffer

end Codec
end NvidiaVaapi
