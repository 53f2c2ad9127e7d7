import NvidiaVaapi.Configs.Profiles
import Mathlib.Data.Int.Notation

/-!
# The calls for configs

What an application asks before it decodes: the entrypoints and attributes of a profile, a
config for it, and a context for the config.
-/

namespace NvidiaVaapi
namespace Configs

open Surface (CudaSurfaceFormat CudaChromaFormat NVSurface)

/-! ## Attributes -/

def vaRtFormatYUV420 : BitVec 32 := 0x00000001
def vaRtFormatYUV444 : BitVec 32 := 0x00000004
def vaRtFormatYUV420_10 : BitVec 32 := 0x00000100
def vaRtFormatYUV444_10 : BitVec 32 := 0x00000400
def vaRtFormatYUV420_12 : BitVec 32 := 0x00001000
def vaRtFormatYUV444_12 : BitVec 32 := 0x00004000
def vaRtFormatRGB32 : BitVec 32 := 0x00020000

/-- `VAConfigAttribType`, as far as the driver knows it. -/
inductive VAConfigAttribType
  | rtFormat | maxPictureWidth | maxPictureHeight | other (value : Nat)
  deriving DecidableEq, Repr

structure VAConfigAttrib where
  type : VAConfigAttribType
  value : BitVec 32
  deriving DecidableEq, Repr

/-- The switch over profiles of `nvGetConfigAttributes`, which `nvQueryConfigAttributes`
repeats. -/
def profileRTFormat (profile : VAProfile) : BitVec 32 :=
  match profile with
  | .hevcMain12 | .vp9Profile2 =>
    vaRtFormatYUV420 ||| vaRtFormatYUV420_12 ||| vaRtFormatYUV420_10
  | .hevcMain10 | .av1Profile0 => vaRtFormatYUV420 ||| vaRtFormatYUV420_10
  | .hevcMain444_12 | .vp9Profile3 =>
    vaRtFormatYUV420 ||| (vaRtFormatYUV444_12 ||| vaRtFormatYUV420_12) |||
      (vaRtFormatYUV444_10 ||| vaRtFormatYUV420_10) ||| vaRtFormatYUV444
  | .hevcMain444_10 | .av1Profile1 =>
    vaRtFormatYUV420 ||| (vaRtFormatYUV444_10 ||| vaRtFormatYUV420_10) ||| vaRtFormatYUV444
  | .hevcMain444 | .vp9Profile1 => vaRtFormatYUV420 ||| vaRtFormatYUV444
  | _ => vaRtFormatYUV420

/-- The formats of the profile without those that the surfaces of the driver cannot hold. -/
def supportedRTFormat (drv : NVDriver) (profile : VAProfile) : BitVec 32 :=
  let value := profileRTFormat profile
  let value :=
    if drv.supports16BitSurface then value
    else value &&& ~~~(vaRtFormatYUV420_10 ||| vaRtFormatYUV420_12 ||| vaRtFormatYUV444_10 |||
      vaRtFormatYUV444_12)
  if drv.supports444Surface then value
  else value &&& ~~~(vaRtFormatYUV444 ||| vaRtFormatYUV444_10 ||| vaRtFormatYUV444_12)

/-- The formats of the entrypoint for video processing. -/
def videoProcRTFormat (drv : NVDriver) : BitVec 32 :=
  let value := vaRtFormatYUV420 ||| vaRtFormatRGB32
  if drv.supports16BitSurface then value ||| vaRtFormatYUV420_10 else value

/-- How the calls for the CUDA context end. -/
structure CudaAnswer where
  pushed : Bool := true
  popped : Bool := true
  deriving DecidableEq, Repr

section Calls

variable (drv : NVDriver)

def nvQueryConfigEntrypoints (profile : VAProfile) : Except VAStatus (List VAEntrypoint) :=
  if driverSupportsProfile drv profile = false then .error .unsupportedProfile
  else if profile = .none then .ok [.videoProc]
  else .ok [.vld]

/-- `profileCaps` where they were queried already, else the answer of the GPU. -/
def capsOf (answer : CudaAnswer) (profile : VAProfile) (profileCaps : Option DecodeCaps) :
    Except VAStatus DecodeCaps :=
  match profileCaps with
  | some caps => .ok caps
  | none => queryProfileDecodeCaps drv answer.pushed answer.popped profile

/-- The loop of `nvGetConfigAttributes` over a decoding profile, with the list it leaves. -/
def getDecodeAttributes (answer : CudaAnswer) (profile : VAProfile) :
    Option DecodeCaps → List VAConfigAttrib → VAStatus × List VAConfigAttrib
  | _, [] => (.success, [])
  | profileCaps, attrib :: rest =>
    match attrib.type with
    | .rtFormat =>
      let result := getDecodeAttributes answer profile profileCaps rest
      (result.1, { attrib with value := supportedRTFormat drv profile } :: result.2)
    | .maxPictureWidth =>
      match capsOf drv answer profile profileCaps with
      | .error capsStatus => (capsStatus, attrib :: rest)
      | .ok caps =>
        let result := getDecodeAttributes answer profile (some caps) rest
        (result.1, { attrib with value := BitVec.ofNat 32 caps.nMaxWidth } :: result.2)
    | .maxPictureHeight =>
      match capsOf drv answer profile profileCaps with
      | .error capsStatus => (capsStatus, attrib :: rest)
      | .ok caps =>
        let result := getDecodeAttributes answer profile (some caps) rest
        (result.1, { attrib with value := BitVec.ofNat 32 caps.nMaxHeight } :: result.2)
    | .other _ =>
      let result := getDecodeAttributes answer profile profileCaps rest
      (result.1, attrib :: result.2)

/-- The status, and the list with the values that were written. -/
def nvGetConfigAttributes (answer : CudaAnswer) (profile : VAProfile)
    (entrypoint : VAEntrypoint) (attrib_list : List VAConfigAttrib) :
    VAStatus × List VAConfigAttrib :=
  if entrypoint = .videoProc ∧ profile = .none then
    (.success, attrib_list.map fun attrib =>
      if attrib.type = .rtFormat then { attrib with value := videoProcRTFormat drv } else attrib)
  else if entrypoint ≠ .vld then (.unsupportedEntrypoint, attrib_list)
  else if driverSupportsProfile drv profile = false ∨
      vaToCuCodec drv.codecs profile = .none then
    (.unsupportedProfile, attrib_list)
  else getDecodeAttributes drv answer profile none attrib_list

/-! ## Configs -/

structure NVConfig where
  profile : VAProfile
  entrypoint : VAEntrypoint
  cudaCodec : CudaVideoCodec
  chromaFormat : CudaChromaFormat := .chroma420
  surfaceFormat : CudaSurfaceFormat := .nv12
  bitDepth : Nat := 8
  deriving DecidableEq, Repr

/-- The first `VAConfigAttribRTFormat` of the list, else 0. -/
def requestedRTFormat (attrib_list : List VAConfigAttrib) : BitVec 32 :=
  match attrib_list.find? fun attrib => attrib.type = .rtFormat with
  | some attrib => attrib.value
  | none => 0

/-- The switch for drivers with surfaces of 16 bits. -/
def select16Bit (rtFormat : BitVec 32) (cfg : NVConfig) : NVConfig :=
  match cfg.profile with
  | .hevcMain10 => { cfg with surfaceFormat := .p016, bitDepth := 10 }
  | .hevcMain12 => { cfg with surfaceFormat := .p016, bitDepth := 12 }
  | .vp9Profile2 | .av1Profile0 =>
    if rtFormat ≠ 0 then
      if rtFormat &&& vaRtFormatYUV420_12 ≠ 0 then
        { cfg with surfaceFormat := .p016, bitDepth := 12 }
      else if rtFormat &&& vaRtFormatYUV420_10 ≠ 0 then
        { cfg with surfaceFormat := .p016, bitDepth := 10 }
      else cfg
    else if cfg.profile = .vp9Profile2 then { cfg with surfaceFormat := .p016, bitDepth := 10 }
    else cfg
  | _ => cfg

/-- The switch for drivers with surfaces that are not subsampled. -/
def select444 (cfg : NVConfig) : NVConfig :=
  match cfg.profile with
  | .hevcMain444 | .vp9Profile1 | .av1Profile1 =>
    { cfg with surfaceFormat := .yuv444, chromaFormat := .chroma444, bitDepth := 8 }
  | _ => cfg

/-- The switch for drivers with both. -/
def select444_16Bit (rtFormat : BitVec 32) (cfg : NVConfig) : NVConfig :=
  match cfg.profile with
  | .hevcMain444_10 =>
    { cfg with surfaceFormat := .yuv444_16Bit, chromaFormat := .chroma444, bitDepth := 10 }
  | .hevcMain444_12 =>
    { cfg with surfaceFormat := .yuv444_16Bit, chromaFormat := .chroma444, bitDepth := 12 }
  | .vp9Profile3 | .av1Profile1 =>
    if rtFormat ≠ 0 then
      if rtFormat &&& vaRtFormatYUV444_12 ≠ 0 then
        { cfg with surfaceFormat := .yuv444_16Bit, chromaFormat := .chroma444, bitDepth := 12 }
      else if rtFormat &&& vaRtFormatYUV444_10 ≠ 0 then
        { cfg with surfaceFormat := .yuv444_16Bit, chromaFormat := .chroma444, bitDepth := 10 }
      else if rtFormat &&& vaRtFormatYUV444 ≠ 0 then
        { cfg with surfaceFormat := .yuv444, chromaFormat := .chroma444, bitDepth := 8 }
      else cfg
    else if cfg.profile = .vp9Profile3 then
      { cfg with surfaceFormat := .yuv444_16Bit, chromaFormat := .chroma444, bitDepth := 10 }
    else cfg
  | _ => cfg

/-- The config that `nvCreateConfig` fills for decoding. -/
def decodeConfig (profile : VAProfile) (rtFormat : BitVec 32) : NVConfig :=
  let cfg : NVConfig :=
    { profile := profile, entrypoint := .vld, cudaCodec := vaToCuCodec drv.codecs profile }
  let cfg := if drv.supports16BitSurface then select16Bit rtFormat cfg else cfg
  let cfg := if drv.supports444Surface then select444 cfg else cfg
  if drv.supports444Surface && drv.supports16BitSurface then select444_16Bit rtFormat cfg else cfg

/-- `allocated` is the answer of `allocateObject`. -/
def nvCreateConfig (allocated : Bool) (profile : VAProfile) (entrypoint : VAEntrypoint)
    (attrib_list : List VAConfigAttrib) : Except VAStatus NVConfig :=
  let cudaCodec := vaToCuCodec drv.codecs profile
  if entrypoint = .videoProc ∧ profile = .none then
    if allocated = false then .error .allocationFailed
    else .ok { profile := profile, entrypoint := entrypoint, cudaCodec := .none }
  else if driverSupportsProfile drv profile = false then .error .unsupportedProfile
  else if cudaCodec = .none then .error .unsupportedProfile
  else if entrypoint ≠ .vld then .error .unsupportedEntrypoint
  else if allocated = false then .error .allocationFailed
  else .ok (decodeConfig drv profile (requestedRTFormat attrib_list))

/-- The profile, the entrypoint and the attributes of a config. -/
def nvQueryConfigAttributes (cfg : NVConfig) :
    VAProfile × VAEntrypoint × List VAConfigAttrib :=
  if cfg.entrypoint = .videoProc then
    (cfg.profile, cfg.entrypoint, [⟨.rtFormat, videoProcRTFormat drv⟩])
  else (cfg.profile, cfg.entrypoint, [⟨.rtFormat, supportedRTFormat drv cfg.profile⟩])

/-! ## Contexts -/

/-- What `nvCreateContext` fills in; a context for video processing leaves the codec and the
formats of the decoder at zero. -/
structure NVContext where
  profile : VAProfile
  entrypoint : VAEntrypoint
  width : Int
  height : Int
  codec : Option NVCodec := none
  cudaCodec : Option CudaVideoCodec := none
  decoderSurfaceFormat : CudaSurfaceFormat := .nv12
  decoderChromaFormat : Option CudaChromaFormat := none
  decoderBitDepth : Nat := 0
  clientRenderTargetCount : Nat := 0

/-- Whether a surface has the format and the extent of the first render target. -/
def sameTarget (first surface : NVSurface) : Bool :=
  surface.format = first.format && surface.chromaFormat = first.chromaFormat &&
    surface.bitDepth = first.bitDepth && surface.width = first.width &&
    surface.height = first.height

/-- The loop over the render targets after the first; none is an id without a surface. -/
def checkTargets (first : NVSurface) (picture_width picture_height : Int)
    (targets : List (Option NVSurface)) : Bool :=
  match targets with
  | [] => true
  | target :: rest =>
    match target with
    | none => false
    | some surface =>
      if (surface.width : Int) < picture_width ∨ (surface.height : Int) < picture_height then false
      else if sameTarget first surface then checkTargets first picture_width picture_height rest
      else false

/-- The formats that the render targets select, where they go together. -/
def selectFormats (cfg : NVConfig) (picture_width picture_height : Int)
    (targets : List (Option NVSurface)) :
    Option (CudaSurfaceFormat × CudaChromaFormat × Nat) :=
  match targets with
  | [] => some (cfg.surfaceFormat, cfg.chromaFormat, cfg.bitDepth)
  | none :: _ => none
  | some first :: rest =>
    if picture_width ≤ 0 ∨ picture_height ≤ 0 ∨ (first.width : Int) < picture_width ∨
        (first.height : Int) < picture_height then none
    else if checkTargets first picture_width picture_height rest then
      some (first.format, first.chromaFormat, first.bitDepth)
    else none

/-- How the allocation of the context, its locks and its thread end. -/
structure ContextAnswer where
  allocated : Bool := true
  synchronized : Bool := true
  threadStarted : Bool := true
  deriving DecidableEq, Repr

def nvCreateContext (answer : ContextAnswer) (config : Option NVConfig)
    (picture_width picture_height : Int) (render_targets : List (Option NVSurface)) :
    Except VAStatus NVContext :=
  match config with
  | none => .error .invalidConfig
  | some cfg =>
    let vppZeroSize := cfg.entrypoint = .videoProc ∧ picture_width = 0 ∧ picture_height = 0
    if (¬vppZeroSize ∧ (picture_width ≤ 0 ∨ picture_height ≤ 0)) ∨ picture_width > 65535 ∨
        picture_height > 65535 then .error .invalidParameter
    else if cfg.entrypoint = .videoProc then
      if answer.allocated = false then .error .allocationFailed
      else if answer.synchronized = false then .error .allocationFailed
      else .ok
        { profile := cfg.profile, entrypoint := cfg.entrypoint, width := picture_width
          height := picture_height }
    else match selectCodec drv.codecs cfg.profile with
      | none => .error .unsupportedProfile
      | some selectedCodec =>
        match selectFormats cfg picture_width picture_height render_targets with
        | none => .error .invalidParameter
        | some (surfaceFormat, chromaFormat, bitDepth) =>
          if answer.allocated = false then .error .allocationFailed
          else if answer.synchronized = false then .error .allocationFailed
          else if answer.threadStarted = false then .error .operationFailed
          else .ok
            { profile := cfg.profile, entrypoint := cfg.entrypoint, width := picture_width
              height := picture_height, codec := some selectedCodec
              cudaCodec := some cfg.cudaCodec
              decoderSurfaceFormat := surfaceFormat, decoderChromaFormat := some chromaFormat
              decoderBitDepth := bitDepth, clientRenderTargetCount := render_targets.length }

end Calls

end Configs
end NvidiaVaapi
