import NvidiaVaapi.Conversion.Kernels

/-!
# Runs of the conversion kernels

What one thread of each kernel reads and stores, in words of 32 bits: nothing outside of the
picture, and one pixel inside.
-/

namespace NvidiaVaapi
namespace Conversion

open Ptx

/-! ## Arithmetic of a pixel -/

/-- The parameters of the conversion, as words. -/
structure WordInfo where
  vToR : BitVec 32
  uToG : BitVec 32
  vToG : BitVec 32
  uToB : BitVec 32
  yScale : BitVec 32
  yOffset : BitVec 32
  uvOffset : BitVec 32
  rounding : BitVec 32
  valueShift : BitVec 32
  deriving DecidableEq, Repr

/-- Three channels of a pixel, or three samples of one. -/
structure Triple (α : Type) where
  first : α
  second : α
  third : α
  deriving DecidableEq, Repr

def clampWord (w : BitVec 32) : BitVec 32 :=
  Alu.minS32.eval (Alu.maxS32.eval w 0) 255

namespace WordInfo

variable (k : WordInfo)

/-- The part of the luminance in every channel. -/
def scaled (y : BitVec 32) : BitVec 32 :=
  Alu.mulLoS32.eval (Alu.maxS32.eval (Alu.subS32.eval y k.yOffset) 0) k.yScale

/-- A chrominance sample around zero, with its coefficient. -/
def weighted (coefficient c : BitVec 32) : BitVec 32 :=
  Alu.mulLoS32.eval (Alu.subS32.eval c k.uvOffset) coefficient

def rounded (sum : BitVec 32) : BitVec 32 :=
  clampWord (Alu.shrS32.eval (Alu.addS32.eval sum k.rounding) k.valueShift)

/-- Red, green and blue of the samples. -/
def channels (y u v : BitVec 32) : Triple (BitVec 32) where
  first := k.rounded (Alu.addS32.eval (k.scaled y) (k.weighted k.vToR v))
  second := k.rounded
    (Alu.subS32.eval (Alu.subS32.eval (k.scaled y) (k.weighted k.uToG u)) (k.weighted k.vToG v))
  third := k.rounded (Alu.addS32.eval (k.scaled y) (k.weighted k.uToB u))

end WordInfo

/-- Four bytes in a word. -/
def wordOfBytes (b₀ b₁ b₂ b₃ : BitVec 32) : BitVec 32 :=
  Alu.orB32.eval (Alu.orB32.eval (Alu.orB32.eval b₀ (Alu.shlB32.eval b₁ 8))
    (Alu.shlB32.eval b₂ 16)) (Alu.shlB32.eval b₃ 24)

/-- The label that the branches on the order lead to; the first order falls through. -/
def selected (order : BitVec 32) (rgba argb abgr : KernelLabel) : Option KernelLabel :=
  if Compare.eqU32.eval order 1 then some rgba
  else if Compare.eqU32.eval order 2 then some argb
  else if Compare.eqU32.eval order 3 then some abgr
  else none

/-- The word of a pixel in one of the four orders. -/
def packed (order : BitVec 32) (rgb : Triple (BitVec 32)) (alpha : BitVec 32) : BitVec 32 :=
  if Compare.eqU32.eval order 1 then wordOfBytes rgb.first rgb.second rgb.third alpha
  else if Compare.eqU32.eval order 2 then wordOfBytes alpha rgb.first rgb.second rgb.third
  else if Compare.eqU32.eval order 3 then wordOfBytes alpha rgb.third rgb.second rgb.first
  else wordOfBytes rgb.third rgb.second rgb.first alpha

/-! ## Blocks -/

section Blocks

variable (env : Environment KernelParam) (t : Thread)

/-- The parameters in the registers of `array_to_argb` and `p010_to_argb`. -/
def shiftedInfo : WordInfo :=
  ⟨t.r 40, t.r 41, t.r 42, t.r 43, t.r 44, t.r 46, t.r 47, t.r 48, t.r 49⟩

/-- The parameters in the registers of `nv12_to_argb`. -/
def unshiftedInfo : WordInfo :=
  ⟨t.r 40, t.r 41, t.r 42, t.r 43, t.r 44, t.r 45, t.r 46, t.r 47, t.r 48⟩

theorem run_conversion :
    (⟨(run env conversion t).r 26, (run env conversion t).r 31, (run env conversion t).r 34⟩ :
      Triple (BitVec 32)) = (shiftedInfo t).channels (t.r 15) (t.r 18) (t.r 19) := by
  have hred : (run env conversion t).r 26 =
      ((shiftedInfo t).channels (t.r 15) (t.r 18) (t.r 19)).first := rfl
  have hgreen : (run env conversion t).r 31 =
      ((shiftedInfo t).channels (t.r 15) (t.r 18) (t.r 19)).second := rfl
  have hblue : (run env conversion t).r 34 =
      ((shiftedInfo t).channels (t.r 15) (t.r 18) (t.r 19)).third := rfl
  rw [hred, hgreen, hblue]

theorem run_nv12Conversion :
    (⟨(run env nv12Conversion t).r 25, (run env nv12Conversion t).r 27,
      (run env nv12Conversion t).r 30⟩ : Triple (BitVec 32)) =
      (unshiftedInfo t).channels (t.r 15) (t.r 18) (t.r 19) := by
  have hred : (run env nv12Conversion t).r 25 =
      ((unshiftedInfo t).channels (t.r 15) (t.r 18) (t.r 19)).first := rfl
  have hgreen : (run env nv12Conversion t).r 27 =
      ((unshiftedInfo t).channels (t.r 15) (t.r 18) (t.r 19)).second := rfl
  have hblue : (run env nv12Conversion t).r 30 =
      ((unshiftedInfo t).channels (t.r 15) (t.r 18) (t.r 19)).third := rfl
  rw [hred, hgreen, hblue]

/-- The branches on the order change predicates only. -/
theorem exec_selectOrder (order : Nat) (rgba argb abgr : KernelLabel) (rest : Kernel) :
    ∃ p, exec env (selectOrder order rgba argb abgr ++ rest) none t =
      exec env rest (selected (t.r order) rgba argb abgr) { t with p } := by
  let p₁ := setRegister t.p 1 (Compare.eqU32.eval (t.r order) 1)
  let p₂ := setRegister p₁ 2 (Compare.eqU32.eval (t.r order) 2)
  let p₃ := setRegister p₂ 3 (Compare.eqU32.eval (t.r order) 3)
  unfold selected
  by_cases hfirst : Compare.eqU32.eval (t.r order) 1
  · rw [if_pos hfirst]
    exact ⟨p₁, exec_braIf_taken rgba _ hfirst⟩
  have hpassed := Bool.eq_false_iff.mpr hfirst
  rw [if_neg hfirst]
  by_cases hsecond : Compare.eqU32.eval (t.r order) 2
  · rw [if_pos hsecond]
    refine ⟨p₂, (exec_braIf_passed rgba _ hpassed).trans ?_⟩
    exact exec_braIf_taken argb _ hsecond
  have hpassed' := Bool.eq_false_iff.mpr hsecond
  rw [if_neg hsecond]
  refine ⟨p₃, (exec_braIf_passed rgba _ hpassed).trans
    ((exec_braIf_passed argb _ hpassed').trans ?_)⟩
  by_cases hthird : Compare.eqU32.eval (t.r order) 3
  · rw [if_pos hthird]
    exact exec_braIf_taken abgr _ hthird
  · rw [if_neg hthird]
    exact exec_braIf_passed abgr _ (Bool.eq_false_iff.mpr hthird)

/-- The stores of `array_to_argb`. -/
def arrayStored (word : BitVec 32) : Access :=
  if Compare.neU32.eval (t.r 4) 0 then
    .surfaceStore (t.rd 3) (Alu.mulLoU32.eval (t.r 10) 4) (t.r 14) word
  else
    .store (t.rd 3 + (t.r 14).setWidth 64 * (t.r 3).setWidth 64 +
      (t.r 10).setWidth 64 * BitVec.setWidth 64 4#32) word

theorem exec_arrayStore :
    (exec env arrayStore none t).map Thread.accesses =
      some (t.accesses ++ [arrayStored t (t.r 53)]) := by
  have hbranch : exec env arrayStore none t = exec env (arrayStore.drop 3)
      (if Compare.neU32.eval (t.r 4) 0 then some .storeSurface else none)
      (t.setP 4 (Compare.neU32.eval (t.r 4) 0)) := rfl
  unfold arrayStored
  rw [hbranch]
  by_cases hsurface : Compare.neU32.eval (t.r 4) 0
  · rw [if_pos hsurface, if_pos hsurface]
    rfl
  · rw [if_neg hsurface, if_neg hsurface]
    rfl

theorem exec_arrayPack :
    (exec env arrayPack (selected (t.r 5) .packRgba .packArgb .packAbgr) t).map Thread.accesses =
      some (t.accesses ++ [arrayStored t (packed (t.r 5) ⟨t.r 26, t.r 31, t.r 34⟩ (t.r 35))]) := by
  unfold selected packed
  by_cases hfirst : Compare.eqU32.eval (t.r 5) 1
  · rw [if_pos hfirst, if_pos hfirst]
    exact exec_arrayStore env (run env (packWord 54 26 31 34 35) t)
  rw [if_neg hfirst, if_neg hfirst]
  by_cases hsecond : Compare.eqU32.eval (t.r 5) 2
  · rw [if_pos hsecond, if_pos hsecond]
    exact exec_arrayStore env (run env (packWord 54 35 26 31 34) t)
  rw [if_neg hsecond, if_neg hsecond]
  by_cases hthird : Compare.eqU32.eval (t.r 5) 3
  · rw [if_pos hthird, if_pos hthird]
    exact exec_arrayStore env (run env (packWord 54 35 34 31 26) t)
  · rw [if_neg hthird, if_neg hthird]
    exact exec_arrayStore env (run env (packWord 54 34 31 26 35) t)

theorem exec_arrayTail :
    (exec env (selectOrder 5 .packRgba .packArgb .packAbgr ++ arrayPack) none t).map
        Thread.accesses =
      some (t.accesses ++ [arrayStored t (packed (t.r 5) ⟨t.r 26, t.r 31, t.r 34⟩ (t.r 35))]) := by
  obtain ⟨p, hselect⟩ := exec_selectOrder env t 5 .packRgba .packArgb .packAbgr arrayPack
  rw [hselect]
  exact exec_arrayPack env { t with p }

/-- Bytes in registers below the scratch registers are packed into `%r53`. -/
theorem run_packWord {scratch b₀ b₁ b₂ b₃ : Nat} (h₀ : b₀ < scratch) (h₁ : b₁ < scratch)
    (h₂ : b₂ < scratch) (h₃ : b₃ < scratch) (hscratch : scratch + 2 < 53) :
    (run env (packWord scratch b₀ b₁ b₂ b₃) t).r 53 =
        wordOfBytes (t.r b₀) (t.r b₁) (t.r b₂) (t.r b₃) ∧
      (run env (packWord scratch b₀ b₁ b₂ b₃) t).rd = t.rd ∧
      (run env (packWord scratch b₀ b₁ b₂ b₃) t).accesses = t.accesses := by
  refine ⟨?_, rfl, rfl⟩
  have h₀' : b₀ ≠ scratch ∧ b₀ ≠ scratch + 1 ∧ b₀ ≠ scratch + 2 := by omega
  have h₂' : b₂ ≠ scratch := by omega
  have h₃' : b₃ ≠ scratch ∧ b₃ ≠ scratch + 1 := by omega
  have hlast : scratch ≠ 53 ∧ scratch + 1 ≠ 53 ∧ scratch + 2 ≠ 53 := by omega
  simp [run, packWord, Instr.step, Thread.setR, setRegister, Operand.value, wordOfBytes, h₀', h₂',
    h₃', hlast]

/-- Four bytes are packed and stored, and the thread is done. -/
theorem exec_packed_store {address b₀ b₁ b₂ b₃ : Nat} (rest : Kernel) (h₀ : b₀ < 50)
    (h₁ : b₁ < 50) (h₂ : b₂ < 50) (h₃ : b₃ < 50) (hrest : ∀ t, exec env rest none t = some t) :
    (exec env (straight (packWord 50 b₀ b₁ b₂ b₃) ++ .instr (.stGlobalU32 address 53) :: rest)
        none t).map Thread.accesses =
      some (t.accesses ++
        [.store (t.rd address) (wordOfBytes (t.r b₀) (t.r b₁) (t.r b₂) (t.r b₃))]) := by
  obtain ⟨hword, hrd, haccesses⟩ := run_packWord env t h₀ h₁ h₂ h₃ (by decide)
  rw [exec_straight]
  show (exec env rest none _).map Thread.accesses = _
  rw [hrest]
  show some (_ ++ [Access.store ((run env _ t).rd address) ((run env _ t).r 53)]) = _
  rw [hword, hrd, haccesses]

theorem exec_stagedPack {address red green blue alpha : Nat} (hred : red < 50)
    (hgreen : green < 50) (hblue : blue < 50) (halpha : alpha < 50) :
    (exec env (stagedPack address red green blue alpha)
        (selected (t.r 6) .storeRgba .storeArgb .storeAbgr) t).map Thread.accesses =
      some (t.accesses ++ [.store (t.rd address)
        (packed (t.r 6) ⟨t.r red, t.r green, t.r blue⟩ (t.r alpha))]) := by
  let lines := stagedPack address red green blue alpha
  unfold selected packed
  by_cases hfirst : Compare.eqU32.eval (t.r 6) 1
  · rw [if_pos hfirst, if_pos hfirst]
    exact exec_packed_store env t (lines.drop 17) hred hgreen hblue halpha fun _ => rfl
  rw [if_neg hfirst, if_neg hfirst]
  by_cases hsecond : Compare.eqU32.eval (t.r 6) 2
  · rw [if_pos hsecond, if_pos hsecond]
    exact exec_packed_store env t (lines.drop 26) halpha hred hgreen hblue fun _ => rfl
  rw [if_neg hsecond, if_neg hsecond]
  by_cases hthird : Compare.eqU32.eval (t.r 6) 3
  · rw [if_pos hthird, if_pos hthird]
    exact exec_packed_store env t (lines.drop 35) halpha hblue hgreen hred fun _ => rfl
  · rw [if_neg hthird, if_neg hthird]
    exact exec_packed_store env t (lines.drop 8) hblue hgreen hred halpha fun _ => rfl

theorem exec_stagedTail {address red green blue alpha : Nat} (hred : red < 50)
    (hgreen : green < 50) (hblue : blue < 50) (halpha : alpha < 50) :
    (exec env (selectOrder 6 .storeRgba .storeArgb .storeAbgr ++
        stagedPack address red green blue alpha) none t).map Thread.accesses =
      some (t.accesses ++ [.store (t.rd address)
        (packed (t.r 6) ⟨t.r red, t.r green, t.r blue⟩ (t.r alpha))]) := by
  obtain ⟨p, hselect⟩ := exec_selectOrder env t 6 .storeRgba .storeArgb .storeAbgr
    (stagedPack address red green blue alpha)
  rw [hselect]
  exact exec_stagedPack env { t with p } hred hgreen hblue halpha

/-- Threads outside of the picture branch to the end. -/
theorem exec_guard_outside (rest : Kernel) (houtside : t.r 1 ≤ t.r 10 ∨ t.r 2 ≤ t.r 14) :
    ∃ p, exec env (guard ++ rest) none t = exec env rest (some .done) { t with p } := by
  let p₁ := setRegister t.p 1 (Compare.geU32.eval (t.r 10) (t.r 1))
  let p₂ := setRegister p₁ 2 (Compare.geU32.eval (t.r 14) (t.r 2))
  by_cases hx : Compare.geU32.eval (t.r 10) (t.r 1)
  · exact ⟨p₁, exec_braIf_taken KernelLabel.done _ hx⟩
  have hy : Compare.geU32.eval (t.r 14) (t.r 2) = true := by
    rcases houtside with houtside | houtside
    · exact absurd (by unfold Compare.eval; exact decide_eq_true houtside) hx
    · unfold Compare.eval
      exact decide_eq_true houtside
  refine ⟨p₂, (exec_braIf_passed KernelLabel.done _ (Bool.eq_false_iff.mpr hx)).trans ?_⟩
  exact exec_braIf_taken KernelLabel.done _ hy

theorem exec_guard_inside (rest : Kernel) (hx : t.r 10 < t.r 1) (hy : t.r 14 < t.r 2) :
    ∃ p, exec env (guard ++ rest) none t = exec env rest none { t with p } := by
  have hx' : Compare.geU32.eval (t.r 10) (t.r 1) = false := by
    unfold Compare.eval
    exact decide_eq_false (BitVec.not_le.mpr hx)
  have hy' : Compare.geU32.eval (t.r 14) (t.r 2) = false := by
    unfold Compare.eval
    exact decide_eq_false (BitVec.not_le.mpr hy)
  let p₁ := setRegister t.p 1 (Compare.geU32.eval (t.r 10) (t.r 1))
  let p₂ := setRegister p₁ 2 (Compare.geU32.eval (t.r 14) (t.r 2))
  refine ⟨p₂, (exec_braIf_passed KernelLabel.done _ hx').trans ?_⟩
  exact exec_braIf_passed KernelLabel.done _ hy'

end Blocks

/-! ## Kernels -/

section Kernels

variable (env : Environment KernelParam)

/-- The column of a thread. -/
def column : BitVec 32 :=
  env.special .ctaidX * env.special .ntidX + env.special .tidX

/-- The row of a thread. -/
def row : BitVec 32 :=
  env.special .ctaidY * env.special .ntidY + env.special .tidY

/-- A thread that has a pixel. -/
def Inside : Prop :=
  column env < env.param32 .width ∧ row env < env.param32 .height

instance : Decidable (Inside env) := inferInstanceAs (Decidable (_ ∧ _))

theorem not_inside {env : Environment KernelParam} (houtside : ¬Inside env) :
    env.param32 .width ≤ column env ∨ env.param32 .height ≤ row env := by
  by_contra hboth
  simp only [not_or, BitVec.not_le] at hboth
  exact houtside hboth

/-- What a kernel is given for the conversion. -/
def givenInfo : WordInfo where
  vToR := env.param32 .vToR
  uToG := env.param32 .uToG
  vToG := env.param32 .vToG
  uToB := env.param32 .uToB
  yScale := env.param32 .yScale
  yOffset := env.param32 .yOffset
  uvOffset := env.param32 .uvOffset
  rounding := env.param32 .rounding
  valueShift := env.param32 .valueShift

/-- The place of an element in a pitched plane. -/
def elementAddress (base : BitVec 64) (pitch y : BitVec 32) (offset : BitVec 64) : BitVec 64 :=
  base + y.setWidth 64 * pitch.setWidth 64 + offset

theorem accesses_arrayToArgb :
    (exec env arrayToArgb none {}).map Thread.accesses = some (
      if Inside env then
        let y := env.texture (env.param64 .yTex) (column env) (row env)
        let uv := env.texture (env.param64 .uvTex) (Alu.shrU32.eval (column env) 1)
          (Alu.shrU32.eval (row env) 1)
        let shift := env.param32 .sampleShift
        let word := packed (env.param32 .order) ((givenInfo env).channels
          (Alu.shrU32.eval (y 0) shift) (Alu.shrU32.eval (uv 0) shift)
          (Alu.shrU32.eval (uv 1) shift)) 255
        [ .fetch (env.param64 .yTex) (column env) (row env),
          .fetch (env.param64 .uvTex) (Alu.shrU32.eval (column env) 1)
            (Alu.shrU32.eval (row env) 1),
          if Compare.neU32.eval (env.param32 .dstIsSurface) 0 then
            .surfaceStore (env.param64 .dst) (Alu.mulLoU32.eval (column env) 4) (row env) word
          else
            .store (elementAddress (env.param64 .dst) (env.param32 .dstPitch) (row env)
              ((column env).setWidth 64 * BitVec.setWidth 64 4#32)) word ]
      else []) := by
  unfold arrayToArgb
  rw [exec_straight]
  split
  · rename_i hinside
    obtain ⟨p, hguard⟩ := exec_guard_inside env (run env (arrayParameters ++ position) {})
      (straight (arraySamples ++ conversion ++ [.movU32 35 (.imm 255)]) ++
        (selectOrder 5 .packRgba .packArgb .packAbgr ++ arrayPack)) hinside.1 hinside.2
    rw [hguard, exec_straight, exec_arrayTail, run_append, run_append]
    let s := run env arraySamples { run env (arrayParameters ++ position) {} with p }
    show some (s.accesses ++ [arrayStored s (packed (s.r 5) ⟨(run env conversion s).r 26,
      (run env conversion s).r 31, (run env conversion s).r 34⟩ 255)]) = _
    rw [run_conversion]
    rfl
  · rename_i houtside
    obtain ⟨p, hguard⟩ := exec_guard_outside env (run env (arrayParameters ++ position) {})
      (straight (arraySamples ++ conversion ++ [.movU32 35 (.imm 255)]) ++
        (selectOrder 5 .packRgba .packArgb .packAbgr ++ arrayPack))
      (not_inside houtside)
    rw [hguard, exec_straight_skipped]
    rfl

/-- Where a staged kernel reads the luminance; `bytes` counts the bytes of elements. -/
def yAddress (bytes : BitVec 64 → BitVec 64) : BitVec 64 :=
  elementAddress (env.param64 .y) (env.param32 .yPitch) (row env)
    (bytes ((column env).setWidth 64))

/-- Where it reads the first chrominance sample: the second one is behind it. -/
def uvAddress (bytes : BitVec 64 → BitVec 64) : BitVec 64 :=
  elementAddress (env.param64 .uv) (env.param32 .uvPitch) (Alu.shrU32.eval (row env) 1)
    (bytes ((Alu.andB32.eval (column env) (-2)).setWidth 64))

theorem accesses_nv12ToArgb :
    (exec env nv12ToArgb none {}).map Thread.accesses = some (
      if Inside env then
        [ .load (yAddress env id) 1,
          .load (uvAddress env id) 1,
          .load (uvAddress env id + 1) 1,
          .store (elementAddress (env.param64 .dst) (env.param32 .dstPitch) (row env)
              ((column env).setWidth 64 * BitVec.setWidth 64 4#32))
            (packed (env.param32 .order) ((givenInfo env).channels
              ((env.memory (yAddress env id)).setWidth 32)
              ((env.memory (uvAddress env id)).setWidth 32)
              ((env.memory (uvAddress env id + 1)).setWidth 32)) 255) ]
      else []) := by
  unfold nv12ToArgb
  rw [exec_straight]
  split
  · rename_i hinside
    obtain ⟨p, hguard⟩ := exec_guard_inside env (run env (nv12Parameters ++ position) {})
      (straight (nv12Samples ++ nv12Conversion ++ nv12Address) ++
        (selectOrder 6 .storeRgba .storeArgb .storeAbgr ++ stagedPack 9 25 27 30 31))
      hinside.1 hinside.2
    rw [hguard, exec_straight, exec_stagedTail env _ (by decide) (by decide) (by decide)
      (by decide), run_append, run_append]
    let s := run env nv12Samples { run env (nv12Parameters ++ position) {} with p }
    show some (s.accesses ++ [.store (s.rd 3 + (s.r 14).setWidth 64 * (s.r 5).setWidth 64 +
      (s.r 10).setWidth 64 * BitVec.setWidth 64 4#32) (packed (s.r 6)
        ⟨(run env nv12Conversion s).r 25, (run env nv12Conversion s).r 27,
          (run env nv12Conversion s).r 30⟩ 255)]) = _
    rw [run_nv12Conversion]
    rfl
  · rename_i houtside
    obtain ⟨p, hguard⟩ := exec_guard_outside env (run env (nv12Parameters ++ position) {})
      (straight (nv12Samples ++ nv12Conversion ++ nv12Address) ++
        (selectOrder 6 .storeRgba .storeArgb .storeAbgr ++ stagedPack 9 25 27 30 31))
      (not_inside houtside)
    rw [hguard, exec_straight_skipped]
    rfl

theorem accesses_p010ToArgb :
    (exec env p010ToArgb none {}).map Thread.accesses = some (
      if Inside env then
        let shift := env.param32 .sampleShift
        [ .load (yAddress env (· <<< 1)) 2,
          .load (uvAddress env (· <<< 1)) 2,
          .load (uvAddress env (· <<< 1) + 2) 2,
          .store (elementAddress (env.param64 .dst) (env.param32 .dstPitch) (row env)
              ((column env).setWidth 64 <<< 2))
            (packed (env.param32 .order) ((givenInfo env).channels
              (Alu.shrU32.eval ((loadU16 env.memory (yAddress env (· <<< 1))).setWidth 32) shift)
              (Alu.shrU32.eval ((loadU16 env.memory (uvAddress env (· <<< 1))).setWidth 32) shift)
              (Alu.shrU32.eval ((loadU16 env.memory (uvAddress env (· <<< 1) + 2)).setWidth 32)
                shift)) 255) ]
      else []) := by
  unfold p010ToArgb
  rw [exec_straight]
  split
  · rename_i hinside
    obtain ⟨p, hguard⟩ := exec_guard_inside env (run env (p010Parameters ++ position) {})
      (straight (p010Samples ++ conversion ++ p010Address) ++
        (selectOrder 6 .storeRgba .storeArgb .storeAbgr ++ stagedPack 8 26 31 34 35))
      hinside.1 hinside.2
    rw [hguard, exec_straight, exec_stagedTail env _ (by decide) (by decide) (by decide)
      (by decide), run_append, run_append]
    let s := run env p010Samples { run env (p010Parameters ++ position) {} with p }
    show some (s.accesses ++ [.store (s.rd 3 + (s.r 14).setWidth 64 * (s.r 5).setWidth 64 +
      (s.r 10).setWidth 64 <<< 2) (packed (s.r 6)
        ⟨(run env conversion s).r 26, (run env conversion s).r 31,
          (run env conversion s).r 34⟩ 255)]) = _
    rw [run_conversion]
    rfl
  · rename_i houtside
    obtain ⟨p, hguard⟩ := exec_guard_outside env (run env (p010Parameters ++ position) {})
      (straight (p010Samples ++ conversion ++ p010Address) ++
        (selectOrder 6 .storeRgba .storeArgb .storeAbgr ++ stagedPack 8 26 31 34 35))
      (not_inside houtside)
    rw [hguard, exec_straight_skipped]
    rfl

end Kernels

end Conversion
end NvidiaVaapi
