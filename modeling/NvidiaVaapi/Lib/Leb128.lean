import Mathlib.Algebra.Group.Nat.Defs
import Mathlib.Data.Fin.Basic
import Mathlib.Data.List.Basic

/-!
# Numbers in groups of seven bits

A number is written as groups of seven bits, the lowest first; every byte but the last has
its top bit set.  The groups need not be the fewest.
-/

namespace NvidiaVaapi
namespace Leb128

/-- The number that the groups stand for. -/
def value : List (Fin 128) → Nat
  | [] => 0
  | g :: groups => g.val + 128 * value groups

/-- The bytes that hold the groups. -/
def bytes : List (Fin 128) → List UInt8
  | [] => []
  | [g] => [UInt8.ofNat g.val]
  | g :: next :: groups => UInt8.ofNat (g.val + 128) :: bytes (next :: groups)

@[simp] theorem length_bytes (groups : List (Fin 128)) :
    (bytes groups).length = groups.length := by
  induction groups with
  | nil => rfl
  | cons g groups ih =>
      cases groups with
      | nil => rfl
      | cons next groups =>
          rw [bytes, List.length_cons, ih]
          rfl

/-- The last byte of a number holds its group and ends it. -/
theorem lastByte (g : Fin 128) :
    (UInt8.ofNat g.val &&& 0x7f).toNat = g.val ∧ UInt8.ofNat g.val &&& 0x80 = 0 := by
  revert g
  decide

/-- Every other byte holds its group and goes on. -/
theorem nextByte (g : Fin 128) :
    (UInt8.ofNat (g.val + 128) &&& 0x7f).toNat = g.val ∧
      UInt8.ofNat (g.val + 128) &&& 0x80 ≠ 0 := by
  revert g
  decide

/-- One more group above those that have been read. -/
theorem or_shiftLeft_group {i ret : Nat} (g : Nat) (hret : ret < 128 ^ i) :
    ret ||| g <<< (i * 7) = ret + 128 ^ i * g := by
  have hpower : (128 : Nat) ^ i = 2 ^ (i * 7) := by
    rw [Nat.mul_comm, Nat.pow_mul]
  rw [hpower] at hret ⊢
  rw [Nat.or_comm, ← Nat.shiftLeft_add_eq_or_of_lt hret, Nat.shiftLeft_eq, Nat.add_comm,
    Nat.mul_comm]

end Leb128
end NvidiaVaapi
