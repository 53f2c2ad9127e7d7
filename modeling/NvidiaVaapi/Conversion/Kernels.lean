import NvidiaVaapi.Lib.Ptx

/-!
# The kernels of the RGB conversion

The three PTX texts of `kernels.c`, line for line.  `array_to_argb` reads textures over the
arrays of the source; `nv12_to_argb` and `p010_to_argb` read planes that were copied to linear
memory.
-/

namespace NvidiaVaapi
namespace Conversion

open Ptx

/-- The parameters of the kernels, without their `p_`. -/
inductive KernelParam
  | yTex | uvTex | y | uv | dst | dstIsSurface | width | height | yPitch | uvPitch | dstPitch
  | order | vToR | uToG | vToG | uToB | yScale | sampleShift | yOffset | uvOffset | rounding
  | valueShift
  deriving DecidableEq, Repr

inductive KernelLabel
  | packBgra | packRgba | packArgb | packAbgr | store | storeSurface
  | storeBgra | storeRgba | storeArgb | storeAbgr | done
  deriving DecidableEq, Repr

abbrev Block := List (Instr KernelParam)
abbrev Kernel := List (Line KernelParam KernelLabel)

/-! ## Lines that the kernels share -/

/-- The place of the thread in the grid: `%r10` and `%r14`. -/
def position : Block :=
  [ .movSpecial 7 .ctaidX,
    .movSpecial 8 .ntidX,
    .movSpecial 9 .tidX,
    .madLoU32 10 7 8 9,
    .movSpecial 11 .ctaidY,
    .movSpecial 12 .ntidY,
    .movSpecial 13 .tidY,
    .madLoU32 14 11 12 13 ]

/-- A thread outside of the picture is done. -/
def guard : Kernel :=
  [ .instr (.setp .geU32 1 10 (.reg 1)),
    .braIf 1 .done,
    .instr (.setp .geU32 2 14 (.reg 2)),
    .braIf 2 .done ]

/-- The conversion of `array_to_argb` and `p010_to_argb`: from the samples in `%r15`, `%r18` and
`%r19` to red, green and blue in `%r26`, `%r31` and `%r34`. -/
def conversion : Block :=
  [ .alu .subS32 20 15 (.reg 46),
    .alu .maxS32 20 20 (.imm 0),
    .alu .subS32 21 18 (.reg 47),
    .alu .subS32 22 19 (.reg 47),
    .alu .mulLoS32 23 20 (.reg 44),
    .alu .mulLoS32 24 22 (.reg 40),
    .alu .addS32 25 23 (.reg 24),
    .alu .addS32 25 25 (.reg 48),
    .alu .shrS32 26 25 (.reg 49),
    .alu .maxS32 26 26 (.imm 0),
    .alu .minS32 26 26 (.imm 255),
    .alu .mulLoS32 27 21 (.reg 41),
    .alu .subS32 28 23 (.reg 27),
    .alu .mulLoS32 29 22 (.reg 42),
    .alu .subS32 30 28 (.reg 29),
    .alu .addS32 30 30 (.reg 48),
    .alu .shrS32 31 30 (.reg 49),
    .alu .maxS32 31 31 (.imm 0),
    .alu .minS32 31 31 (.imm 255),
    .alu .mulLoS32 32 21 (.reg 43),
    .alu .addS32 33 23 (.reg 32),
    .alu .addS32 33 33 (.reg 48),
    .alu .shrS32 34 33 (.reg 49),
    .alu .maxS32 34 34 (.imm 0),
    .alu .minS32 34 34 (.imm 255) ]

/-- The branches on `p_order`, which is in a register. -/
def selectOrder (order : Nat) (rgba argb abgr : KernelLabel) : Kernel :=
  [ .instr (.setp .eqU32 1 order (.imm 1)),
    .braIf 1 rgba,
    .instr (.setp .eqU32 2 order (.imm 2)),
    .braIf 2 argb,
    .instr (.setp .eqU32 3 order (.imm 3)),
    .braIf 3 abgr ]

/-- Four bytes in one word, `%r53`: the lowest as it is, the others shifted in three scratch
registers from `scratch` on. -/
def packWord (scratch b₀ b₁ b₂ b₃ : Nat) : Block :=
  [ .alu .shlB32 scratch b₁ (.imm 8),
    .alu .shlB32 (scratch + 1) b₂ (.imm 16),
    .alu .shlB32 (scratch + 2) b₃ (.imm 24),
    .alu .orB32 53 b₀ (.reg scratch),
    .alu .orB32 53 53 (.reg (scratch + 1)),
    .alu .orB32 53 53 (.reg (scratch + 2)) ]

/-! ## `array_to_argb` -/

/-- The parameters in the order of the entry. -/
def arrayEntry : List KernelParam :=
  [ .yTex, .uvTex, .dst, .dstIsSurface, .width, .height, .dstPitch, .order, .vToR, .uToG, .vToG,
    .uToB, .yScale, .sampleShift, .yOffset, .uvOffset, .rounding, .valueShift ]

def arrayParameters : Block :=
  [ .ldParamU64 1 .yTex,
    .ldParamU64 2 .uvTex,
    .ldParamU64 3 .dst,
    .ldParamU32 1 .width,
    .ldParamU32 2 .height,
    .ldParamU32 3 .dstPitch,
    .ldParamU32 4 .dstIsSurface,
    .ldParamU32 5 .order,
    .ldParamU32 40 .vToR,
    .ldParamU32 41 .uToG,
    .ldParamU32 42 .vToG,
    .ldParamU32 43 .uToB,
    .ldParamU32 44 .yScale,
    .ldParamU32 45 .sampleShift,
    .ldParamU32 46 .yOffset,
    .ldParamU32 47 .uvOffset,
    .ldParamU32 48 .rounding,
    .ldParamU32 49 .valueShift ]

def arraySamples : Block :=
  [ .tex2dV4 15 50 51 52 1 10 14,
    .alu .shrU32 15 15 (.reg 45),
    .alu .shrU32 16 10 (.imm 1),
    .alu .shrU32 17 14 (.imm 1),
    .tex2dV4 18 19 50 51 2 16 17,
    .alu .shrU32 18 18 (.reg 45),
    .alu .shrU32 19 19 (.reg 45) ]

/-- From the label `STORE` on. -/
def arrayStore : Kernel :=
  [ .label .store,
    .instr (.setp .neU32 4 4 (.imm 0)),
    .braIf 4 .storeSurface,
    .instr (.mulWideU32 4 14 (.reg 3)),
    .instr (.addU64 4 3 (.reg 4)),
    .instr (.mulWideU32 5 10 (.imm 4)),
    .instr (.addU64 4 4 (.reg 5)),
    .instr (.stGlobalU32 4 53),
    .bra .done,
    .label .storeSurface,
    .instr (.alu .mulLoU32 60 10 (.imm 4)),
    .instr (.sust2dB32 3 60 14 53),
    .label .done,
    .ret ]

/-- From the label `PACK_BGRA` on. -/
def arrayPack : Kernel :=
  .label .packBgra :: (straight (packWord 54 34 31 26 35) ++ .bra .store ::
  .label .packRgba :: (straight (packWord 54 26 31 34 35) ++ .bra .store ::
  .label .packArgb :: (straight (packWord 54 35 26 31 34) ++ .bra .store ::
  .label .packAbgr :: (straight (packWord 54 35 34 31 26) ++ arrayStore))))

def arrayToArgb : Kernel :=
  straight (arrayParameters ++ position) ++ (guard ++
  (straight (arraySamples ++ conversion ++ [.movU32 35 (.imm 255)]) ++
  (selectOrder 5 .packRgba .packArgb .packAbgr ++ arrayPack)))

/-! ## `nv12_to_argb` -/

def nv12Entry : List KernelParam :=
  [ .y, .uv, .dst, .width, .height, .yPitch, .uvPitch, .dstPitch, .order, .vToR, .uToG, .vToG,
    .uToB, .yScale, .yOffset, .uvOffset, .rounding, .valueShift ]

def nv12Parameters : Block :=
  [ .ldParamU64 1 .y,
    .ldParamU64 2 .uv,
    .ldParamU64 3 .dst,
    .ldParamU32 1 .width,
    .ldParamU32 2 .height,
    .ldParamU32 3 .yPitch,
    .ldParamU32 4 .uvPitch,
    .ldParamU32 5 .dstPitch,
    .ldParamU32 6 .order,
    .ldParamU32 40 .vToR,
    .ldParamU32 41 .uToG,
    .ldParamU32 42 .vToG,
    .ldParamU32 43 .uToB,
    .ldParamU32 44 .yScale,
    .ldParamU32 45 .yOffset,
    .ldParamU32 46 .uvOffset,
    .ldParamU32 47 .rounding,
    .ldParamU32 48 .valueShift ]

def nv12Samples : Block :=
  [ .mulWideU32 4 14 (.reg 3),
    .addU64 4 1 (.reg 4),
    .cvtU64U32 5 10,
    .addU64 4 4 (.reg 5),
    .ldGlobalU8 15 4,
    .alu .shrU32 16 14 (.imm 1),
    .alu .andB32 17 10 (.imm (-2)),
    .mulWideU32 6 16 (.reg 4),
    .addU64 6 2 (.reg 6),
    .cvtU64U32 7 17,
    .addU64 6 6 (.reg 7),
    .ldGlobalU8 18 6,
    .addU64 8 6 (.imm 1),
    .ldGlobalU8 19 8 ]

/-- The conversion of `nv12_to_argb`, which has no sample shift: to red, green and blue in `%r25`,
`%r27` and `%r30`. -/
def nv12Conversion : Block :=
  [ .alu .subS32 20 15 (.reg 45),
    .alu .maxS32 20 20 (.imm 0),
    .alu .subS32 21 18 (.reg 46),
    .alu .subS32 22 19 (.reg 46),
    .alu .mulLoS32 23 20 (.reg 44),
    .alu .mulLoS32 24 22 (.reg 40),
    .alu .addS32 25 23 (.reg 24),
    .alu .addS32 25 25 (.reg 47),
    .alu .shrS32 25 25 (.reg 48),
    .alu .maxS32 25 25 (.imm 0),
    .alu .minS32 25 25 (.imm 255),
    .alu .mulLoS32 26 21 (.reg 41),
    .alu .subS32 27 23 (.reg 26),
    .alu .mulLoS32 28 22 (.reg 42),
    .alu .subS32 27 27 (.reg 28),
    .alu .addS32 27 27 (.reg 47),
    .alu .shrS32 27 27 (.reg 48),
    .alu .maxS32 27 27 (.imm 0),
    .alu .minS32 27 27 (.imm 255),
    .alu .mulLoS32 29 21 (.reg 43),
    .alu .addS32 30 23 (.reg 29),
    .alu .addS32 30 30 (.reg 47),
    .alu .shrS32 30 30 (.reg 48),
    .alu .maxS32 30 30 (.imm 0),
    .alu .minS32 30 30 (.imm 255) ]

def nv12Address : Block :=
  [ .mulWideU32 9 14 (.reg 5),
    .addU64 9 3 (.reg 9),
    .mulWideU32 10 10 (.imm 4),
    .addU64 9 9 (.reg 10),
    .movU32 31 (.imm 255) ]

/-- From the label `STORE_BGRA` of the staged kernels on, with the registers of the address and
of the channels. -/
def stagedPack (address red green blue alpha : Nat) : Kernel :=
  .label .storeBgra :: (straight (packWord 50 blue green red alpha) ++
  .instr (.stGlobalU32 address 53) :: .bra .done ::
  .label .storeRgba :: (straight (packWord 50 red green blue alpha) ++
  .instr (.stGlobalU32 address 53) :: .bra .done ::
  .label .storeArgb :: (straight (packWord 50 alpha red green blue) ++
  .instr (.stGlobalU32 address 53) :: .bra .done ::
  .label .storeAbgr :: (straight (packWord 50 alpha blue green red) ++
  [.instr (.stGlobalU32 address 53), .label .done, .ret]))))

def nv12ToArgb : Kernel :=
  straight (nv12Parameters ++ position) ++ (guard ++
  (straight (nv12Samples ++ nv12Conversion ++ nv12Address) ++
  (selectOrder 6 .storeRgba .storeArgb .storeAbgr ++ stagedPack 9 25 27 30 31)))

/-! ## `p010_to_argb` -/

def p010Entry : List KernelParam :=
  [ .y, .uv, .dst, .width, .height, .yPitch, .uvPitch, .dstPitch, .order, .vToR, .uToG, .vToG,
    .uToB, .yScale, .sampleShift, .yOffset, .uvOffset, .rounding, .valueShift ]

def p010Parameters : Block :=
  [ .ldParamU64 1 .y,
    .ldParamU64 2 .uv,
    .ldParamU64 3 .dst,
    .ldParamU32 1 .width,
    .ldParamU32 2 .height,
    .ldParamU32 3 .yPitch,
    .ldParamU32 4 .uvPitch,
    .ldParamU32 5 .dstPitch,
    .ldParamU32 6 .order,
    .ldParamU32 40 .vToR,
    .ldParamU32 41 .uToG,
    .ldParamU32 42 .vToG,
    .ldParamU32 43 .uToB,
    .ldParamU32 44 .yScale,
    .ldParamU32 45 .sampleShift,
    .ldParamU32 46 .yOffset,
    .ldParamU32 47 .uvOffset,
    .ldParamU32 48 .rounding,
    .ldParamU32 49 .valueShift ]

def p010Samples : Block :=
  [ .mulWideU32 4 14 (.reg 3),
    .addU64 4 1 (.reg 4),
    .cvtU64U32 5 10,
    .shlB64 5 5 1,
    .addU64 4 4 (.reg 5),
    .ldGlobalU16 15 4,
    .alu .shrU32 15 15 (.reg 45),
    .alu .shrU32 16 14 (.imm 1),
    .alu .andB32 17 10 (.imm (-2)),
    .mulWideU32 6 16 (.reg 4),
    .addU64 6 2 (.reg 6),
    .cvtU64U32 7 17,
    .shlB64 7 7 1,
    .addU64 6 6 (.reg 7),
    .ldGlobalU16 18 6,
    .alu .shrU32 18 18 (.reg 45),
    .addU64 6 6 (.imm 2),
    .ldGlobalU16 19 6,
    .alu .shrU32 19 19 (.reg 45) ]

def p010Address : Block :=
  [ .mulWideU32 8 14 (.reg 5),
    .addU64 8 3 (.reg 8),
    .cvtU64U32 9 10,
    .shlB64 9 9 2,
    .addU64 8 8 (.reg 9),
    .movU32 35 (.imm 255) ]

def p010ToArgb : Kernel :=
  straight (p010Parameters ++ position) ++ (guard ++
  (straight (p010Samples ++ conversion ++ p010Address) ++
  (selectOrder 6 .storeRgba .storeArgb .storeAbgr ++ stagedPack 8 26 31 34 35)))

end Conversion
end NvidiaVaapi
