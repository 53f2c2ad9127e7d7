import NvidiaVaapi.Lib.Overwrites
import NvidiaVaapi.Lib.Ptx

/-!
# Launches of PTX kernels

A launch runs one thread for every place of a grid.  The hardware promises no order of the threads:
they are run here one after the other in an order that is given, each on what the threads before
it have left in memory.
-/

namespace NvidiaVaapi
namespace Ptx

open Overwrites

/-- A byte that a kernel can store: of global memory, or of a row of a surface. -/
inductive Cell
  | global (address : BitVec 64)
  | surface (handle : BitVec 64) (row byte : Nat)
  deriving DecidableEq, Repr

abbrev Contents := Cell → BitVec 8

/-- A byte of a word, the lowest first. -/
def byteOf (w : BitVec 32) (i : Nat) : BitVec 8 :=
  w.extractLsb' (8 * i) 8

/-- The bytes that an access leaves behind. -/
def Access.writes : Access → Cell → Option (BitVec 8)
  | .store address value, .global a =>
    if (a - address).toNat < 4 then some (byteOf value (a - address).toNat) else none
  | .surfaceStore handle x y value, .surface handle' row byte =>
    if handle' = handle ∧ row = y.toNat ∧ x.toNat ≤ byte ∧ byte < x.toNat + 4 then
      some (byteOf value (byte - x.toNat))
    else none
  | _, _ => none

theorem store_writes_iff {address : BitVec 64} {value : BitVec 32} {c : Cell} {v : BitVec 8} :
    (Access.store address value).writes c = some v ↔
      ∃ i < 4, c = .global (address + BitVec.ofNat 64 i) ∧ v = byteOf value i := by
  cases c with
  | surface handle row byte =>
    constructor
    · intro h
      cases h
    · rintro ⟨i, -, hcell, -⟩
      cases hcell
  | global a =>
    show (if (a - address).toNat < 4 then some (byteOf value (a - address).toNat) else none) =
      some v ↔ _
    constructor
    · intro h
      split at h
      · rename_i hnear
        refine ⟨(a - address).toNat, hnear, ?_, (Option.some.inj h).symm⟩
        rw [BitVec.ofNat_toNat, BitVec.setWidth_eq, BitVec.add_comm, BitVec.sub_add_cancel]
      · cases h
    · rintro ⟨i, hi, hcell, rfl⟩
      have ha : a - address = BitVec.ofNat 64 i := by
        rw [Cell.global.inj hcell, BitVec.add_comm, BitVec.add_sub_cancel]
      have hi' : (a - address).toNat = i := by
        rw [ha, BitVec.toNat_ofNat]
        omega
      rw [hi', if_pos hi]

theorem surfaceStore_writes_iff {handle : BitVec 64} {x y value : BitVec 32} {c : Cell}
    {v : BitVec 8} :
    (Access.surfaceStore handle x y value).writes c = some v ↔
      ∃ i < 4, c = .surface handle y.toNat (x.toNat + i) ∧ v = byteOf value i := by
  cases c with
  | global a =>
    constructor
    · intro h
      cases h
    · rintro ⟨i, -, hcell, -⟩
      cases hcell
  | surface handle' row byte =>
    show (if handle' = handle ∧ row = y.toNat ∧ x.toNat ≤ byte ∧ byte < x.toNat + 4 then
      some (byteOf value (byte - x.toNat)) else none) = some v ↔ _
    constructor
    · intro h
      split at h
      · rename_i hnear
        obtain ⟨rfl, rfl, hlow, hhigh⟩ := hnear
        refine ⟨byte - x.toNat, by omega, ?_, (Option.some.inj h).symm⟩
        rw [Nat.add_sub_cancel' hlow]
      · cases h
    · rintro ⟨i, hi, hcell, rfl⟩
      obtain ⟨rfl, rfl, rfl⟩ := Cell.surface.inj hcell
      rw [if_pos ⟨rfl, rfl, by omega, by omega⟩, Nat.add_sub_cancel_left]

/-! ## Grids -/

/-- The place of a thread in its grid. -/
structure Place where
  ctaidX : Nat
  ctaidY : Nat
  tidX : Nat
  tidY : Nat
  deriving DecidableEq, Repr

structure Grid where
  ctasX : Nat
  ctasY : Nat
  threadsX : Nat
  threadsY : Nat
  deriving DecidableEq, Repr

namespace Grid

variable (grid : Grid)

def places : List Place :=
  (List.range grid.ctasY).flatMap fun ctaidY =>
    (List.range grid.ctasX).flatMap fun ctaidX =>
      (List.range grid.threadsY).flatMap fun tidY =>
        (List.range grid.threadsX).map fun tidX => ⟨ctaidX, ctaidY, tidX, tidY⟩

theorem mem_places {place : Place} :
    place ∈ grid.places ↔ place.ctaidX < grid.ctasX ∧ place.ctaidY < grid.ctasY ∧
      place.tidX < grid.threadsX ∧ place.tidY < grid.threadsY := by
  unfold places
  simp only [List.mem_flatMap, List.mem_map, List.mem_range]
  constructor
  · rintro ⟨ctaidY, hctaidY, ctaidX, hctaidX, tidY, htidY, tidX, htidX, rfl⟩
    exact ⟨hctaidX, hctaidY, htidX, htidY⟩
  · rintro ⟨hctaidX, hctaidY, htidX, htidY⟩
    exact ⟨place.ctaidY, hctaidY, place.ctaidX, hctaidX, place.tidY, htidY, place.tidX, htidX, rfl⟩

def special (place : Place) : Special → BitVec 32
  | .ctaidX => BitVec.ofNat 32 place.ctaidX
  | .ctaidY => BitVec.ofNat 32 place.ctaidY
  | .ntidX => BitVec.ofNat 32 grid.threadsX
  | .ntidY => BitVec.ofNat 32 grid.threadsY
  | .tidX => BitVec.ofNat 32 place.tidX
  | .tidY => BitVec.ofNat 32 place.tidY

/-- The column of a thread where threads count columns. -/
def column (place : Place) : Nat := place.ctaidX * grid.threadsX + place.tidX

def row (place : Place) : Nat := place.ctaidY * grid.threadsY + place.tidY

/-- The grid has a thread at every point up to its size. -/
theorem exists_place {x y : Nat} (hx : x < grid.ctasX * grid.threadsX)
    (hy : y < grid.ctasY * grid.threadsY) :
    ∃ place ∈ grid.places, grid.column place = x ∧ grid.row place = y := by
  have hwide : 0 < grid.threadsX := Nat.pos_of_lt_mul_left hx
  have hhigh : 0 < grid.threadsY := Nat.pos_of_lt_mul_left hy
  refine ⟨⟨x / grid.threadsX, y / grid.threadsY, x % grid.threadsX, y % grid.threadsY⟩, ?_, ?_, ?_⟩
  · apply grid.mem_places.mpr
    refine ⟨?_, ?_, Nat.mod_lt x hwide, Nat.mod_lt y hhigh⟩
    · exact (Nat.div_lt_iff_lt_mul hwide).mpr hx
    · exact (Nat.div_lt_iff_lt_mul hhigh).mpr hy
  · exact Nat.div_add_mod' x grid.threadsX
  · exact Nat.div_add_mod' y grid.threadsY

end Grid

/-! ## Launches -/

/-- What the threads of a launch share.  A parameter is given as 64 bits; one of 32 bits has them
in the low half. -/
structure Launch (Param : Type) where
  grid : Grid
  param : Param → BitVec 64
  texture : BitVec 64 → BitVec 32 → BitVec 32 → Nat → BitVec 32

namespace Launch

variable {Param Label : Type} [DecidableEq Label] (launch : Launch Param)

def environment (place : Place) (contents : Contents) : Environment Param where
  param32 p := (launch.param p).setWidth 32
  param64 := launch.param
  special := launch.grid.special place
  memory a := contents (.global a)
  texture := launch.texture

/-- One thread, from its first line to its end. -/
def runThread (kernel : List (Line Param Label)) (contents : Contents) (place : Place) :
    Option Contents :=
  (exec (launch.environment place contents) kernel none {}).map fun t =>
    overwriteAll Access.writes t.accesses contents

def runThreads (kernel : List (Line Param Label)) (places : List Place) (contents : Contents) :
    Option Contents :=
  places.foldlM (launch.runThread kernel) contents

/-- A thread that reads, stores once and ends, if it does anything. -/
theorem runThread_eq {launch : Launch Param} {kernel : List (Line Param Label)}
    {contents : Contents} {place : Place} {active : Prop} [Decidable active]
    (reads : List Access) (last : Access)
    (haccesses : (exec (launch.environment place contents) kernel none {}).map Thread.accesses =
      some (if active then reads ++ [last] else []))
    (hreads : ∀ a ∈ reads, ∀ c, a.writes c = none) :
    launch.runThread kernel contents place =
      some (overwrite (if active then last.writes else fun _ => none) contents) := by
  have hmap : launch.runThread kernel contents place =
      ((exec (launch.environment place contents) kernel none {}).map Thread.accesses).map
        fun accesses => overwriteAll Access.writes accesses contents := by
    unfold runThread
    rw [Option.map_map]
    rfl
  rw [hmap, haccesses]
  apply congrArg some
  by_cases hactive : active
  · have hsame : overwriteAll Access.writes reads contents = contents := by
      funext c
      exact overwriteAll_of_none (fun a ha => hreads a ha c) contents
    rw [if_pos hactive, if_pos hactive]
    show overwriteAll Access.writes (reads ++ [last]) contents = _
    unfold overwriteAll at hsame ⊢
    rw [List.foldl_append, hsame]
    rfl
  · rw [if_neg hactive, if_neg hactive]
    rfl

end Launch

/-! ## Allocations -/

/-- Bytes that were allocated together. -/
structure Allocation where
  base : BitVec 64
  size : Nat
  deriving DecidableEq, Repr

namespace Allocation

def Valid (allocation : Allocation) : Prop := allocation.base.toNat + allocation.size ≤ 2 ^ 64

def Apart (a b : Allocation) : Prop :=
  a.base.toNat + a.size ≤ b.base.toNat ∨ b.base.toNat + b.size ≤ a.base.toNat

instance (allocation : Allocation) : Decidable allocation.Valid :=
  inferInstanceAs (Decidable (_ ≤ _))

instance (a b : Allocation) : Decidable (a.Apart b) := inferInstanceAs (Decidable (_ ∨ _))

theorem Valid.toNat_add {allocation : Allocation} (hvalid : allocation.Valid) {i : Nat}
    (hi : i < allocation.size) :
    (allocation.base + BitVec.ofNat 64 i).toNat = allocation.base.toNat + i := by
  unfold Valid at hvalid
  rw [BitVec.toNat_add, BitVec.toNat_ofNat, Nat.mod_eq_of_lt (by omega : i < 2 ^ 64)]
  exact Nat.mod_eq_of_lt (by omega)

theorem Valid.offset_injective {allocation : Allocation} (hvalid : allocation.Valid) {i j : Nat}
    (hi : i < allocation.size) (hj : j < allocation.size)
    (h : allocation.base + BitVec.ofNat 64 i = allocation.base + BitVec.ofNat 64 j) : i = j := by
  have hnat := congrArg BitVec.toNat h
  rw [hvalid.toNat_add hi, hvalid.toNat_add hj] at hnat
  exact Nat.add_left_cancel hnat

theorem Apart.ne {a b : Allocation} (hapart : a.Apart b) (ha : a.Valid) (hb : b.Valid) {i j : Nat}
    (hi : i < a.size) (hj : j < b.size) :
    a.base + BitVec.ofNat 64 i ≠ b.base + BitVec.ofNat 64 j := by
  intro h
  have hnat := congrArg BitVec.toNat h
  rw [ha.toNat_add hi, hb.toNat_add hj] at hnat
  unfold Apart at hapart
  omega

end Allocation

end Ptx
end NvidiaVaapi
