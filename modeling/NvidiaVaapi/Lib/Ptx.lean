import Mathlib.Algebra.Group.Int.Defs
import Mathlib.Algebra.Group.Nat.Defs
import Mathlib.Data.List.Basic

/-!
# Threads of PTX kernels

A part of the PTX language: 32-bit, 64-bit and predicate registers, integer arithmetic, loads and
stores of global memory, texture reads, surface stores, and branches that lead forward.  One
thread is run from its first line to `ret`; what it reads and stores is recorded in order.
-/

namespace NvidiaVaapi
namespace Ptx

/-- The special registers that say which thread this is. -/
inductive Special
  | ctaidX | ctaidY | ntidX | ntidY | tidX | tidY
  deriving DecidableEq, Repr

/-- What a thread finds: its parameters, its place in the grid, memory and textures.  A texture
read gives the four channels of a texel, without filtering. -/
structure Environment (Param : Type) where
  param32 : Param → BitVec 32
  param64 : Param → BitVec 64
  special : Special → BitVec 32
  memory : BitVec 64 → BitVec 8
  texture : BitVec 64 → BitVec 32 → BitVec 32 → Nat → BitVec 32

/-- What a thread does to the memory and the textures around it. -/
inductive Access
  | load (address : BitVec 64) (bytes : Nat)
  | fetch (texture : BitVec 64) (x y : BitVec 32)
  | store (address : BitVec 64) (value : BitVec 32)
  | surfaceStore (surface : BitVec 64) (x y : BitVec 32) (value : BitVec 32)
  deriving DecidableEq, Repr

/-- The registers of a thread, and its accesses so far. -/
structure Thread where
  r : Nat → BitVec 32 := fun _ => 0
  rd : Nat → BitVec 64 := fun _ => 0
  p : Nat → Bool := fun _ => false
  accesses : List Access := []

/-- Write a register. -/
def setRegister {α : Type} (registers : Nat → α) (n : Nat) (value : α) : Nat → α :=
  fun m => if m = n then value else registers m

namespace Thread

def setR (t : Thread) (n : Nat) (value : BitVec 32) : Thread :=
  { t with r := setRegister t.r n value }

def setRd (t : Thread) (n : Nat) (value : BitVec 64) : Thread :=
  { t with rd := setRegister t.rd n value }

def setP (t : Thread) (n : Nat) (value : Bool) : Thread :=
  { t with p := setRegister t.p n value }

def access (t : Thread) (a : Access) : Thread :=
  { t with accesses := t.accesses ++ [a] }

end Thread

/-! ## Instructions -/

/-- A register or a number in the text. -/
inductive Operand
  | reg (n : Nat)
  | imm (value : BitVec 32)
  deriving DecidableEq, Repr

def Operand.value (t : Thread) : Operand → BitVec 32
  | .reg n => t.r n
  | .imm value => value

inductive Operand64
  | reg (n : Nat)
  | imm (value : BitVec 64)
  deriving DecidableEq, Repr

def Operand64.value (t : Thread) : Operand64 → BitVec 64
  | .reg n => t.rd n
  | .imm value => value

/-- The arithmetic of two words; the suffix of the operation is the type that PTX gives it. -/
inductive Alu
  | addS32 | subS32 | mulLoS32 | mulLoU32 | maxS32 | minS32 | shrU32 | shrS32 | shlB32 | orB32
  | andB32
  deriving DecidableEq, Repr

/-- Shift amounts count as unsigned numbers; beyond the width a shift leaves nothing but the
sign.  The operations stay folded when a block is run on symbolic registers. -/
@[irreducible] def Alu.eval : Alu → BitVec 32 → BitVec 32 → BitVec 32
  | .addS32, a, b => a + b
  | .subS32, a, b => a - b
  | .mulLoS32, a, b => a * b
  | .mulLoU32, a, b => a * b
  | .maxS32, a, b => if a.slt b then b else a
  | .minS32, a, b => if b.slt a then b else a
  | .shrU32, a, b => a >>> b.toNat
  | .shrS32, a, b => a.sshiftRight b.toNat
  | .shlB32, a, b => a <<< b.toNat
  | .orB32, a, b => a ||| b
  | .andB32, a, b => a &&& b

inductive Compare
  | geU32 | eqU32 | neU32
  deriving DecidableEq, Repr

@[irreducible] def Compare.eval : Compare → BitVec 32 → BitVec 32 → Bool
  | .geU32, a, b => decide (b ≤ a)
  | .eqU32, a, b => decide (a = b)
  | .neU32, a, b => decide (a ≠ b)

inductive Instr (Param : Type)
  | ldParamU32 (d : Nat) (name : Param)
  | ldParamU64 (d : Nat) (name : Param)
  | movSpecial (d : Nat) (name : Special)
  | movU32 (d : Nat) (a : Operand)
  | alu (op : Alu) (d a : Nat) (b : Operand)
  | madLoU32 (d a b c : Nat)
  | setp (op : Compare) (p a : Nat) (b : Operand)
  | mulWideU32 (d a : Nat) (b : Operand)
  | addU64 (d a : Nat) (b : Operand64)
  | shlB64 (d a amount : Nat)
  | cvtU64U32 (d a : Nat)
  | ldGlobalU8 (d a : Nat)
  | ldGlobalU16 (d a : Nat)
  | tex2dV4 (d₀ d₁ d₂ d₃ texture x y : Nat)
  | stGlobalU32 (a v : Nat)
  | sust2dB32 (surface x y v : Nat)

variable {Param Label : Type}

/-- The little-endian number of two bytes of memory. -/
def loadU16 (memory : BitVec 64 → BitVec 8) (address : BitVec 64) : BitVec 16 :=
  memory (address + 1) ++ memory address

def Instr.step (env : Environment Param) (t : Thread) : Instr Param → Thread
  | .ldParamU32 d name => t.setR d (env.param32 name)
  | .ldParamU64 d name => t.setRd d (env.param64 name)
  | .movSpecial d name => t.setR d (env.special name)
  | .movU32 d a => t.setR d (a.value t)
  | .alu op d a b => t.setR d (op.eval (t.r a) (b.value t))
  | .madLoU32 d a b c => t.setR d (t.r a * t.r b + t.r c)
  | .setp op p a b => t.setP p (op.eval (t.r a) (b.value t))
  | .mulWideU32 d a b => t.setRd d ((t.r a).setWidth 64 * (b.value t).setWidth 64)
  | .addU64 d a b => t.setRd d (t.rd a + b.value t)
  | .shlB64 d a amount => t.setRd d (t.rd a <<< amount)
  | .cvtU64U32 d a => t.setRd d ((t.r a).setWidth 64)
  | .ldGlobalU8 d a => (t.access (.load (t.rd a) 1)).setR d ((env.memory (t.rd a)).setWidth 32)
  | .ldGlobalU16 d a =>
    (t.access (.load (t.rd a) 2)).setR d ((loadU16 env.memory (t.rd a)).setWidth 32)
  | .tex2dV4 d₀ d₁ d₂ d₃ texture x y =>
    let texel := env.texture (t.rd texture) (t.r x) (t.r y)
    ((((t.access (.fetch (t.rd texture) (t.r x) (t.r y))).setR d₀ (texel 0)).setR d₁
      (texel 1)).setR d₂ (texel 2)).setR d₃ (texel 3)
  | .stGlobalU32 a v => t.access (.store (t.rd a) (t.r v))
  | .sust2dB32 surface x y v =>
    t.access (.surfaceStore (t.rd surface) (t.r x) (t.r y) (t.r v))

/-- Run instructions one after the other. -/
def run (env : Environment Param) (block : List (Instr Param)) (t : Thread) : Thread :=
  block.foldl (fun t i => i.step env t) t

theorem run_append (env : Environment Param) (first second : List (Instr Param)) (t : Thread) :
    run env (first ++ second) t = run env second (run env first t) :=
  List.foldl_append

/-! ## Control -/

/-- A line of a kernel. -/
inductive Line (Param Label : Type)
  | instr (i : Instr Param)
  | label (l : Label)
  | bra (l : Label)
  | braIf (p : Nat) (l : Label)
  | ret

/-- Run the lines of a kernel; behind a branch, lines are skipped up to its label.  There is no
result where `ret` is not reached. -/
def exec [DecidableEq Label] (env : Environment Param) :
    List (Line Param Label) → Option Label → Thread → Option Thread
  | [], _, _ => none
  | .label l :: rest, some target, t => exec env rest (if l = target then none else some target) t
  | _ :: rest, some target, t => exec env rest (some target) t
  | .instr i :: rest, none, t => exec env rest none (i.step env t)
  | .label _ :: rest, none, t => exec env rest none t
  | .bra l :: rest, none, t => exec env rest (some l) t
  | .braIf p l :: rest, none, t => exec env rest (if t.p p then some l else none) t
  | .ret :: _, none, t => some t

/-- Lines without control. -/
def straight (block : List (Instr Param)) : List (Line Param Label) :=
  block.map .instr

section Exec

variable [DecidableEq Label] {env : Environment Param}

theorem exec_straight (block : List (Instr Param)) (rest : List (Line Param Label)) (t : Thread) :
    exec env (straight block ++ rest) none t = exec env rest none (run env block t) := by
  induction block generalizing t with
  | nil => rfl
  | cons i block ih => exact ih (i.step env t)

/-- Instructions behind a branch are not run. -/
theorem exec_straight_skipped (block : List (Instr Param)) (rest : List (Line Param Label))
    (target : Label) (t : Thread) :
    exec env (straight block ++ rest) (some target) t = exec env rest (some target) t := by
  induction block with
  | nil => rfl
  | cons i block ih => exact ih

theorem exec_braIf_taken {p : Nat} {t : Thread} (l : Label) (rest : List (Line Param Label))
    (hp : t.p p = true) : exec env (.braIf p l :: rest) none t = exec env rest (some l) t := by
  show exec env rest (if t.p p then some l else none) t = _
  rw [if_pos hp]

theorem exec_braIf_passed {p : Nat} {t : Thread} (l : Label) (rest : List (Line Param Label))
    (hp : t.p p = false) : exec env (.braIf p l :: rest) none t = exec env rest none t := by
  show exec env rest (if t.p p then some l else none) t = _
  rw [if_neg (Bool.eq_false_iff.mp hp)]

end Exec

/-! ## Signed arithmetic without overflow -/

/-- The numbers of `int`. -/
def InInt32 (n : Int) : Prop := -2 ^ 31 ≤ n ∧ n < 2 ^ 31

instance (n : Int) : Decidable (InInt32 n) := inferInstanceAs (Decidable (_ ∧ _))

theorem toInt_ofInt_inInt32 {n : Int} (hn : InInt32 n) : (BitVec.ofInt 32 n).toInt = n := by
  rw [BitVec.toInt_ofInt]
  exact Int.bmod_eq_of_le (by have := hn.1; omega) (by have := hn.2; omega)

theorem toInt_addS32 {a b : BitVec 32} {m n : Int} (ha : a.toInt = m) (hb : b.toInt = n)
    (hsum : InInt32 (m + n)) : (Alu.addS32.eval a b).toInt = m + n := by
  unfold Alu.eval
  show (a + b).toInt = m + n
  rw [BitVec.toInt_add, ha, hb]
  exact Int.bmod_eq_of_le (by have := hsum.1; omega) (by have := hsum.2; omega)

theorem toInt_subS32 {a b : BitVec 32} {m n : Int} (ha : a.toInt = m) (hb : b.toInt = n)
    (hdifference : InInt32 (m - n)) : (Alu.subS32.eval a b).toInt = m - n := by
  unfold Alu.eval
  show (a - b).toInt = m - n
  rw [BitVec.toInt_sub, ha, hb]
  exact Int.bmod_eq_of_le (by have := hdifference.1; omega) (by have := hdifference.2; omega)

theorem toInt_mulLoS32 {a b : BitVec 32} {m n : Int} (ha : a.toInt = m) (hb : b.toInt = n)
    (hproduct : InInt32 (m * n)) : (Alu.mulLoS32.eval a b).toInt = m * n := by
  unfold Alu.eval
  show (a * b).toInt = m * n
  rw [BitVec.toInt_mul, ha, hb]
  exact Int.bmod_eq_of_le (by have := hproduct.1; omega) (by have := hproduct.2; omega)

theorem toInt_maxS32 {a b : BitVec 32} {m n : Int} (ha : a.toInt = m) (hb : b.toInt = n) :
    (Alu.maxS32.eval a b).toInt = max m n := by
  unfold Alu.eval
  show (if a.slt b = true then b else a).toInt = max m n
  have hless : a.slt b = true ↔ m < n := by
    rw [BitVec.slt_iff_toInt_lt, ha, hb]
  split
  · rename_i h
    have hmn := hless.mp h
    omega
  · rename_i h
    have hmn := mt hless.mpr h
    omega

theorem toInt_minS32 {a b : BitVec 32} {m n : Int} (ha : a.toInt = m) (hb : b.toInt = n) :
    (Alu.minS32.eval a b).toInt = min m n := by
  unfold Alu.eval
  show (if b.slt a = true then b else a).toInt = min m n
  have hless : b.slt a = true ↔ n < m := by
    rw [BitVec.slt_iff_toInt_lt, ha, hb]
  split
  · rename_i h
    have hmn := hless.mp h
    omega
  · rename_i h
    have hmn := mt hless.mpr h
    omega

/-- A signed shift rounds down. -/
theorem toInt_shrS32 {a b : BitVec 32} {m : Int} {shift : Nat} (ha : a.toInt = m)
    (hb : b.toNat = shift) : (Alu.shrS32.eval a b).toInt = m >>> shift := by
  unfold Alu.eval
  show (a.sshiftRight b.toNat).toInt = m >>> shift
  rw [BitVec.toInt_sshiftRight, ha, hb]

end Ptx
end NvidiaVaapi
