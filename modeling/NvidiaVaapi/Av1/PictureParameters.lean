import Mathlib.Algebra.Group.Int.Defs
import Mathlib.Algebra.Group.Nat.Defs
import Mathlib.Data.List.Basic

/-!
# AV1 picture parameters

The part of `copyAV1PicParam` of `av1.c` that fills the parameters of the decoder: the
picture-parameter buffer of the application becomes the `CUVIDAV1PICPARAMS` of the
picture.
-/

namespace NvidiaVaapi
namespace Av1

/-! ## The buffer of the application -/

/-- The bit-field `seq_info_fields.fields`. -/
structure SeqInfoFields where
  use128x128Superblock : Nat := 0
  enableFilterIntra : Nat := 0
  enableIntraEdgeFilter : Nat := 0
  enableInterintraCompound : Nat := 0
  enableMaskedCompound : Nat := 0
  enableDualFilter : Nat := 0
  enableOrderHint : Nat := 0
  enableJntComp : Nat := 0
  enableCdef : Nat := 0
  monoChrome : Nat := 0
  subsamplingX : Nat := 0
  subsamplingY : Nat := 0
  filmGrainParamsPresent : Nat := 0

/-- The bit-field `pic_info_fields.bits`. -/
structure PicInfoFields where
  frameType : Nat := 0
  showFrame : Nat := 0
  disableCdfUpdate : Nat := 0
  allowScreenContentTools : Nat := 0
  forceIntegerMv : Nat := 0
  allowIntrabc : Nat := 0
  useSuperres : Nat := 0
  allowHighPrecisionMv : Nat := 0
  allowWarpedMotion : Nat := 0
  isMotionModeSwitchable : Nat := 0
  useRefFrameMvs : Nat := 0
  disableFrameEndUpdateCdf : Nat := 0
  uniformTileSpacingFlag : Nat := 0

/-- The bit-field `mode_control_fields.bits`. -/
structure ModeControlFields where
  deltaQPresentFlag : Nat := 0
  log2DeltaQRes : Nat := 0
  deltaLfPresentFlag : Nat := 0
  log2DeltaLfRes : Nat := 0
  deltaLfMulti : Nat := 0
  txMode : Nat := 0
  referenceSelect : Nat := 0
  reducedTxSetUsed : Nat := 0
  skipModePresent : Nat := 0

/-- The bit-field `qmatrix_fields.bits`. -/
structure QmatrixFields where
  usingQmatrix : Nat := 0
  qmY : Nat := 0
  qmU : Nat := 0
  qmV : Nat := 0

/-- The bit-field `loop_filter_info_fields.bits`. -/
structure LoopFilterInfoFields where
  sharpnessLevel : Nat := 0
  modeRefDeltaEnabled : Nat := 0
  modeRefDeltaUpdate : Nat := 0

/-- The bit-field `loop_restoration_fields.bits`. -/
structure LoopRestorationFields where
  yframeRestorationType : Nat := 0
  cbframeRestorationType : Nat := 0
  crframeRestorationType : Nat := 0
  lrUnitShift : Nat := 0
  lrUvShift : Nat := 0

/-- `seg_info`. -/
structure SegmentationInfo where
  enabled : Nat := 0
  updateMap : Nat := 0
  temporalUpdate : Nat := 0
  updateData : Nat := 0
  featureData : Vector (Vector Int 8) 8 := .replicate 8 (.replicate 8 0)
  featureMask : Vector Nat 8 := .replicate 8 0

/-- `film_grain_info`. -/
structure FilmGrainInfo where
  applyGrain : Nat := 0
  chromaScalingFromLuma : Nat := 0
  grainScalingMinus8 : Nat := 0
  arCoeffLag : Nat := 0
  arCoeffShiftMinus6 : Nat := 0
  grainScaleShift : Nat := 0
  overlapFlag : Nat := 0
  clipToRestrictedRange : Nat := 0
  grainSeed : Nat := 0
  numYPoints : Nat := 0
  pointYValue : Vector Nat 14 := .replicate 14 0
  pointYScaling : Vector Nat 14 := .replicate 14 0
  numCbPoints : Nat := 0
  pointCbValue : Vector Nat 10 := .replicate 10 0
  pointCbScaling : Vector Nat 10 := .replicate 10 0
  numCrPoints : Nat := 0
  pointCrValue : Vector Nat 10 := .replicate 10 0
  pointCrScaling : Vector Nat 10 := .replicate 10 0
  arCoeffsY : Vector Int 24 := .replicate 24 0
  arCoeffsCb : Vector Int 25 := .replicate 25 0
  arCoeffsCr : Vector Int 25 := .replicate 25 0
  cbMult : Nat := 0
  cbLumaMult : Nat := 0
  cbOffset : Nat := 0
  crMult : Nat := 0
  crLumaMult : Nat := 0
  crOffset : Nat := 0

/-- `VAWarpedMotionParamsAV1`. -/
structure WarpedMotionParams where
  wmtype : Nat := 0
  wmmat : Vector Int 6 := .replicate 6 0
  invalid : Nat := 0

/-- `VAAV1TransformationIdentity`. -/
def vaAV1TransformationIdentity : Nat := 0

/-- `VADecPictureParameterBufferAV1`. -/
structure VADecPictureParameterBufferAV1 where
  profile : Nat := 0
  orderHintBitsMinus1 : Nat := 0
  bitDepthIdx : Nat := 0
  seqInfoFields : SeqInfoFields := {}
  frameWidthMinus1 : Nat := 0
  frameHeightMinus1 : Nat := 0
  currentDisplayPicture : Nat := 0
  refFrameMap : Vector Nat 8 := .replicate 8 0
  refFrameIdx : Vector Nat 7 := .replicate 7 0
  primaryRefFrame : Nat := 0
  orderHint : Nat := 0
  segInfo : SegmentationInfo := {}
  filmGrainInfo : FilmGrainInfo := {}
  tileCols : Nat := 0
  tileRows : Nat := 0
  widthInSbsMinus1 : Vector Nat 63 := .replicate 63 0
  heightInSbsMinus1 : Vector Nat 63 := .replicate 63 0
  contextUpdateTileId : Nat := 0
  picInfoFields : PicInfoFields := {}
  superresScaleDenominator : Nat := 0
  interpFilter : Nat := 0
  filterLevel : Vector Nat 2 := .replicate 2 0
  filterLevelU : Nat := 0
  filterLevelV : Nat := 0
  loopFilterInfoFields : LoopFilterInfoFields := {}
  refDeltas : Vector Int 8 := .replicate 8 0
  modeDeltas : Vector Int 2 := .replicate 2 0
  baseQindex : Nat := 0
  yDcDeltaQ : Int := 0
  uDcDeltaQ : Int := 0
  uAcDeltaQ : Int := 0
  vDcDeltaQ : Int := 0
  vAcDeltaQ : Int := 0
  qmatrixFields : QmatrixFields := {}
  modeControlFields : ModeControlFields := {}
  cdefDampingMinus3 : Nat := 0
  cdefBits : Nat := 0
  cdefYStrengths : Vector Nat 8 := .replicate 8 0
  cdefUvStrengths : Vector Nat 8 := .replicate 8 0
  loopRestorationFields : LoopRestorationFields := {}
  wm : Vector WarpedMotionParams 7 := .replicate 7 {}

/-! ## The parameters of the decoder -/

/-- An entry of `ref_frame`. -/
structure RefFrame where
  index : Int := 0
  width : Nat := 0
  height : Nat := 0

/-- An entry of `global_motion`. -/
structure GlobalMotion where
  invalid : Bool := false
  wmtype : Nat := 0
  wmmat : Vector Int 6 := .replicate 6 0

/-- The fields of `CUVIDAV1PICPARAMS` that `copyAV1PicParam` writes. -/
structure CUVIDAV1PICPARAMS where
  width : Nat := 0
  height : Nat := 0
  frameOffset : Nat := 0
  decodePicIdx : Int := 0
  profile : Nat := 0
  use128x128Superblock : Nat := 0
  subsamplingX : Nat := 0
  subsamplingY : Nat := 0
  monoChrome : Nat := 0
  bitDepthMinus8 : Nat := 0
  enableFilterIntra : Nat := 0
  enableIntraEdgeFilter : Nat := 0
  enableInterintraCompound : Nat := 0
  enableMaskedCompound : Nat := 0
  enableDualFilter : Nat := 0
  enableOrderHint : Nat := 0
  orderHintBitsMinus1 : Nat := 0
  enableJntComp : Nat := 0
  enableSuperres : Nat := 0
  enableCdef : Nat := 0
  enableRestoration : Bool := false
  enableFgs : Nat := 0
  frameType : Nat := 0
  showFrame : Nat := 0
  disableCdfUpdate : Nat := 0
  allowScreenContentTools : Nat := 0
  forceIntegerMv : Bool := false
  codedDenom : Nat := 0
  allowIntrabc : Nat := 0
  allowHighPrecisionMv : Nat := 0
  interpFilter : Nat := 0
  switchableMotionMode : Nat := 0
  useRefFrameMvs : Nat := 0
  disableFrameEndUpdateCdf : Nat := 0
  deltaQPresent : Nat := 0
  deltaQRes : Nat := 0
  usingQmatrix : Nat := 0
  codedLossless : Nat := 0
  useSuperres : Nat := 0
  txMode : Nat := 0
  referenceMode : Nat := 0
  allowWarpedMotion : Nat := 0
  reducedTxSet : Nat := 0
  skipMode : Nat := 0
  numTileCols : Nat := 0
  numTileRows : Nat := 0
  contextUpdateTileId : Nat := 0
  tileWidths : Vector Nat 64 := .replicate 64 0
  tileHeights : Vector Nat 64 := .replicate 64 0
  cdefDampingMinus3 : Nat := 0
  cdefBits : Nat := 0
  cdefYStrength : Vector Nat 8 := .replicate 8 0
  cdefUvStrength : Vector Nat 8 := .replicate 8 0
  skipModeFrame0 : Int := 0
  skipModeFrame1 : Int := 0
  loopFilterRefDeltas : Vector Int 8 := .replicate 8 0
  refFrameMap : Vector Int 8 := .replicate 8 0
  baseQindex : Nat := 0
  qpYDcDeltaQ : Int := 0
  qpUDcDeltaQ : Int := 0
  qpVDcDeltaQ : Int := 0
  qpUAcDeltaQ : Int := 0
  qpVAcDeltaQ : Int := 0
  qmY : Nat := 0
  qmU : Nat := 0
  qmV : Nat := 0
  segmentationEnabled : Nat := 0
  segmentationUpdateMap : Nat := 0
  segmentationUpdateData : Nat := 0
  segmentationTemporalUpdate : Nat := 0
  segmentationFeatureMask : Vector Nat 8 := .replicate 8 0
  segmentationFeatureData : Vector (Vector Int 8) 8 := .replicate 8 (.replicate 8 0)
  loopFilterLevel : Vector Nat 2 := .replicate 2 0
  loopFilterLevelU : Nat := 0
  loopFilterLevelV : Nat := 0
  loopFilterSharpness : Nat := 0
  loopFilterDeltaEnabled : Nat := 0
  loopFilterDeltaUpdate : Nat := 0
  loopFilterModeDeltas : Vector Int 2 := .replicate 2 0
  deltaLfPresent : Nat := 0
  deltaLfRes : Nat := 0
  deltaLfMulti : Nat := 0
  lrType : Vector Nat 3 := .replicate 3 0
  lrUnitSize : Vector Nat 3 := .replicate 3 0
  primaryRefFrame : Int := 0
  refFrame : Vector RefFrame 7 := .replicate 7 {}
  globalMotion : Vector GlobalMotion 7 := .replicate 7 {}
  applyGrain : Nat := 0
  overlapFlag : Nat := 0
  scalingShiftMinus8 : Nat := 0
  chromaScalingFromLuma : Nat := 0
  arCoeffLag : Nat := 0
  arCoeffShiftMinus6 : Nat := 0
  grainScaleShift : Nat := 0
  clipToRestrictedRange : Nat := 0
  numYPoints : Nat := 0
  numCbPoints : Nat := 0
  numCrPoints : Nat := 0
  randomSeed : Nat := 0
  cbMult : Nat := 0
  cbLumaMult : Nat := 0
  cbOffset : Nat := 0
  crMult : Nat := 0
  crLumaMult : Nat := 0
  crOffset : Nat := 0
  scalingPointsY : Vector (Nat × Nat) 14 := .replicate 14 (0, 0)
  scalingPointsCb : Vector (Nat × Nat) 10 := .replicate 10 (0, 0)
  scalingPointsCr : Vector (Nat × Nat) 10 := .replicate 10 (0, 0)
  arCoeffsY : Vector Int 24 := .replicate 24 0
  arCoeffsCb : Vector Int 25 := .replicate 25 0
  arCoeffsCr : Vector Int 25 := .replicate 25 0

/-- The fields of `CUVIDPICPARAMS` that an AV1 picture has; `nBitstreamDataLen` and
`nNumSlices` count the bytes and the tiles. -/
structure CUVIDPICPARAMS where
  picWidthInMbs : Nat := 0
  frameHeightInMbs : Nat := 0
  currPicIdx : Int := 0
  nBitstreamDataLen : Nat := 0
  nNumSlices : Nat := 0
  refPicFlag : Bool := false
  intraPicFlag : Bool := false
  av1 : CUVIDAV1PICPARAMS := {}

/-! ## Surfaces -/

/-- What the code reads of an `NVSurface`. -/
structure NVSurface where
  pictureIdx : Int
  orderHint : Nat
  width : Nat
  height : Nat

/-- The surface a picture is decoded to. -/
structure RenderTarget where
  surfaceId : Nat := 0
  pictureIdx : Int := -1
  orderHint : Nat := 0

/-- The answers of the look-ups of surfaces by id. -/
structure Surfaces where
  nvSurfaceFromSurfaceId : Nat → Option NVSurface
  pictureIdxFromSurfaceId : Nat → Int

/-! ## Checks -/

/-- `validateAV1PictureParams`.  The arrays have 63 and 64 entries for the tile sizes, 8
for the strengths and the reference map, and 14 and 10 for the points. -/
def validateAV1PictureParams (buf : VADecPictureParameterBufferAV1) : Bool :=
  !(buf.bitDepthIdx ≥ 3 ∨
    (buf.seqInfoFields.enableOrderHint ≠ 0 ∧ buf.orderHintBitsMinus1 > 7) ∨
    (buf.picInfoFields.useSuperres ≠ 0 ∧
      (buf.superresScaleDenominator < 9 ∨ buf.superresScaleDenominator > 16)) ∨
    buf.tileCols = 0 ∨ buf.tileRows = 0 ∨
    buf.tileCols > 63 ∨ buf.tileCols > 64 ∨
    buf.tileRows > 63 ∨ buf.tileRows > 64 ∨
    buf.tileCols > (2 ^ 32 - 1) / buf.tileRows ∨
    buf.contextUpdateTileId ≥ buf.tileCols * buf.tileRows ∨
    buf.cdefBits > 3 ∨ 2 ^ buf.cdefBits > 8 ∨
    buf.primaryRefFrame > 7 ∨
    buf.filmGrainInfo.numYPoints > 14 ∨
    buf.filmGrainInfo.numCbPoints > 10 ∨
    buf.filmGrainInfo.numCrPoints > 10 ∨
    buf.loopRestorationFields.lrUvShift > 1 + buf.loopRestorationFields.lrUnitShift) &&
  buf.refFrameIdx.toList.all (· < 8)

/-- Accepted parameters have a tile, and fewer tiles than the index of their ranges can
hold. -/
theorem validateAV1PictureParams_tiles {buf : VADecPictureParameterBufferAV1}
    (hvalid : validateAV1PictureParams buf = true) :
    0 < buf.tileCols ∧ 0 < buf.tileRows ∧ buf.tileCols ≤ 63 ∧ buf.tileRows ≤ 63 := by
  simp only [validateAV1PictureParams, Bool.and_eq_true, Bool.not_eq_true',
    decide_eq_false_iff_not, not_or] at hvalid
  omega

/-! ## Tile sizes -/

/-- The loop of `av1_calc_tile_log2`. -/
def tileLog2From (numTiles : Nat) : Nat → Nat → Nat
  | 0, log2 => log2
  | rounds + 1, log2 =>
    if 2 ^ log2 < numTiles then tileLog2From numTiles rounds (log2 + 1) else log2

/-- `av1_calc_tile_log2`. -/
def av1CalcTileLog2 (numTiles : Nat) : Nat :=
  tileLog2From numTiles numTiles 0

/-- `av1_align_power2`: the bits below the alignment, a power of two, are cleared. -/
def av1AlignPower2 (value alignment : Nat) : Nat :=
  (value + alignment - 1) / alignment * alignment

/-- `av1_frame_width`. -/
def av1FrameWidth (buf : VADecPictureParameterBufferAV1) : Nat :=
  let width := buf.frameWidthMinus1 + 1
  if buf.picInfoFields.useSuperres ≠ 0 ∧ buf.superresScaleDenominator ≠ 8 then
    (width * 8 + buf.superresScaleDenominator / 2) / buf.superresScaleDenominator
  else width

/-- `av1_superblock_count`. -/
def av1SuperblockCount (pixels : Nat) (use128x128Superblock : Bool) : Nat :=
  let miSizeLog2 := 2
  let mibSizeLog2 := if use128x128Superblock then 5 else 4
  let miCount := av1AlignPower2 (av1AlignPower2 pixels 8 >>> miSizeLog2) (1 <<< mibSizeLog2)
  miCount >>> mibSizeLog2

/-- `fill_uniform_tile_sizes`. -/
def fillUniformTileSizes (sizes : Vector Nat 64) (numTiles numSuperblocks : Nat) :
    Vector Nat 64 :=
  let tileLog2 := av1CalcTileLog2 numTiles
  let tileSize := (numSuperblocks + (1 <<< tileLog2) - 1) >>> tileLog2
  ((List.range numTiles).foldl (fun filled i =>
    let remaining := filled.2
    let size := if i = numTiles - 1 then remaining else min tileSize remaining
    (filled.1.setIfInBounds i (size % 2 ^ 16), remaining - size)) (sizes, numSuperblocks)).1

/-- The tile sizes of a picture. -/
def copyTileSizes (buf : VADecPictureParameterBufferAV1) (pps : CUVIDAV1PICPARAMS) :
    CUVIDAV1PICPARAMS :=
  if buf.picInfoFields.uniformTileSpacingFlag ≠ 0 then
    let use128x128Superblock := decide (pps.use128x128Superblock ≠ 0)
    let sbCols := av1SuperblockCount (av1FrameWidth buf) use128x128Superblock
    let sbRows := av1SuperblockCount (buf.frameHeightMinus1 + 1) use128x128Superblock
    { pps with
      tileWidths := fillUniformTileSizes pps.tileWidths pps.numTileCols sbCols
      tileHeights := fillUniformTileSizes pps.tileHeights pps.numTileRows sbRows }
  else
    { pps with
      tileWidths := (List.range pps.numTileCols).foldl (fun sizes i =>
        sizes.setIfInBounds i ((1 + buf.widthInSbsMinus1.toList.getD i 0) % 2 ^ 16)) pps.tileWidths
      tileHeights := (List.range pps.numTileRows).foldl (fun sizes i =>
        sizes.setIfInBounds i ((1 + buf.heightInSbsMinus1.toList.getD i 0) % 2 ^ 16))
        pps.tileHeights }

/-! ## Skip mode -/

/-- `get_relative_dist`: the bits below and the bit at `order_hint_bits_minus1` of the
difference. -/
def getRelativeDist (pps : CUVIDAV1PICPARAMS) (refHint orderHint : Int) : Int :=
  if pps.enableOrderHint = 0 then 0
  else
    let diff := refHint - orderHint
    let m : Int := 2 ^ pps.orderHintBitsMinus1
    diff % m - diff / m % 2 * m

/-- A reference and its order hint; `-1` is no reference. -/
structure SkipModeReference where
  idx : Int := -1
  hint : Int := 0

/-- `RefOrderHint`: the hints of the decoded surfaces of the reference map.  The render
target has its new hint already. -/
def refOrderHint (surfaces : Surfaces) (renderTarget : RenderTarget)
    (buf : VADecPictureParameterBufferAV1) (i : Nat) : Int :=
  let id := buf.refFrameMap.toList.getD i 0
  match surfaces.nvSurfaceFromSurfaceId id with
  | some surf =>
    if surf.pictureIdx ≠ -1 then
      if id = renderTarget.surfaceId then renderTarget.orderHint else surf.orderHint
    else 0
  | none => 0

/-- The hint of the reference of a name. -/
def refHint (surfaces : Surfaces) (renderTarget : RenderTarget)
    (buf : VADecPictureParameterBufferAV1) (i : Nat) : Int :=
  refOrderHint surfaces renderTarget buf (buf.refFrameIdx.toList.getD i 0)

/-- One round of the loop that looks for the nearest references before and behind the
picture. -/
def nearestReferences (pps : CUVIDAV1PICPARAMS) (orderHint : Int) (hints : Nat → Int)
    (found : SkipModeReference × SkipModeReference) (i : Nat) :
    SkipModeReference × SkipModeReference :=
  let hint := hints i
  if getRelativeDist pps hint orderHint < 0 then
    if found.1.idx < 0 ∨ getRelativeDist pps hint found.1.hint > 0 then (⟨i, hint⟩, found.2)
    else found
  else if getRelativeDist pps hint orderHint > 0 then
    if found.2.idx < 0 ∨ getRelativeDist pps hint found.2.hint < 0 then (found.1, ⟨i, hint⟩)
    else found
  else found

/-- One round of the loop that looks for the second reference before the picture. -/
def secondForwardReference (pps : CUVIDAV1PICPARAMS) (forwardHint : Int) (hints : Nat → Int)
    (found : SkipModeReference) (i : Nat) : SkipModeReference :=
  let hint := hints i
  if getRelativeDist pps hint forwardHint < 0 then
    if found.idx < 0 ∨ getRelativeDist pps hint found.hint > 0 then ⟨i, hint⟩ else found
  else found

/-- `SkipModeFrame0` and `SkipModeFrame1`. -/
def skipModeFrames (pps : CUVIDAV1PICPARAMS) (orderHint : Int) (hints : Nat → Int) : Int × Int :=
  let nearest := (List.range 7).foldl (nearestReferences pps orderHint hints) ({}, {})
  let forward := nearest.1
  let backward := nearest.2
  if forward.idx < 0 then (0, 0)
  else if backward.idx ≥ 0 then
    (min forward.idx backward.idx + 1, max forward.idx backward.idx + 1)
  else
    let second := (List.range 7).foldl (secondForwardReference pps forward.hint hints) {}
    if second.idx < 0 then (0, 0)
    else (min forward.idx second.idx + 1, max forward.idx second.idx + 1)

/-! ## The copy -/

/-- `bit_depth_map`. -/
def bitDepthMap : List Nat := [0, 2, 4]

/-- `lr_type_map`. -/
def lrTypeMap : List Nat := [0, 1, 2, 3]

/-- `intra_pic_flag`: a key frame or an intra-only frame. -/
def isIntraPicture (buf : VADecPictureParameterBufferAV1) : Bool :=
  buf.picInfoFields.frameType = 0 ∨ buf.picInfoFields.frameType = 2

/-- Does the picture use loop restoration? -/
def usesRestoration (buf : VADecPictureParameterBufferAV1) : Bool :=
  buf.loopRestorationFields.yframeRestorationType ≠ 0 ∨
    buf.loopRestorationFields.cbframeRestorationType ≠ 0 ∨
    buf.loopRestorationFields.crframeRestorationType ≠ 0

/-- The fields of the sequence header. -/
def copySequenceFields (buf : VADecPictureParameterBufferAV1) (enableRestoration : Bool)
    (pps : CUVIDAV1PICPARAMS) : CUVIDAV1PICPARAMS :=
  let fields := buf.seqInfoFields
  { pps with
    profile := buf.profile
    use128x128Superblock := fields.use128x128Superblock
    subsamplingX := fields.subsamplingX
    subsamplingY := fields.subsamplingY
    monoChrome := fields.monoChrome
    bitDepthMinus8 := bitDepthMap.getD buf.bitDepthIdx 0
    enableFilterIntra := fields.enableFilterIntra
    enableIntraEdgeFilter := fields.enableIntraEdgeFilter
    enableInterintraCompound := fields.enableInterintraCompound
    enableMaskedCompound := fields.enableMaskedCompound
    enableDualFilter := fields.enableDualFilter
    enableOrderHint := fields.enableOrderHint
    orderHintBitsMinus1 := if fields.enableOrderHint ≠ 0 then buf.orderHintBitsMinus1 else 0
    enableJntComp := fields.enableJntComp
    enableSuperres := buf.picInfoFields.useSuperres
    enableCdef := fields.enableCdef
    enableRestoration := enableRestoration
    enableFgs := fields.filmGrainParamsPresent }

/-- The fields of the frame header up to the tile layout. -/
def copyFrameFields (buf : VADecPictureParameterBufferAV1) (pps : CUVIDAV1PICPARAMS) :
    CUVIDAV1PICPARAMS :=
  let bits := buf.picInfoFields
  let mode := buf.modeControlFields
  { pps with
    frameType := bits.frameType
    showFrame := bits.showFrame
    disableCdfUpdate := bits.disableCdfUpdate
    allowScreenContentTools := bits.allowScreenContentTools
    forceIntegerMv := bits.forceIntegerMv ≠ 0 || isIntraPicture buf
    codedDenom := if bits.useSuperres ≠ 0 then buf.superresScaleDenominator - 9 else 0
    allowIntrabc := bits.allowIntrabc
    allowHighPrecisionMv := bits.allowHighPrecisionMv
    interpFilter := buf.interpFilter
    switchableMotionMode := bits.isMotionModeSwitchable
    useRefFrameMvs := bits.useRefFrameMvs
    disableFrameEndUpdateCdf := bits.disableFrameEndUpdateCdf
    deltaQPresent := mode.deltaQPresentFlag
    deltaQRes := mode.log2DeltaQRes
    usingQmatrix := buf.qmatrixFields.usingQmatrix
    useSuperres := bits.useSuperres
    txMode := mode.txMode
    referenceMode := mode.referenceSelect
    allowWarpedMotion := bits.allowWarpedMotion
    reducedTxSet := mode.reducedTxSetUsed
    skipMode := mode.skipModePresent
    numTileCols := buf.tileCols
    numTileRows := buf.tileRows
    contextUpdateTileId := buf.contextUpdateTileId
    cdefDampingMinus3 := buf.cdefDampingMinus3
    cdefBits := buf.cdefBits }

/-- The quantiser, the segmentation flags, the loop filter and the loop restoration. -/
def copyFilterFields (buf : VADecPictureParameterBufferAV1) (pps : CUVIDAV1PICPARAMS) :
    CUVIDAV1PICPARAMS :=
  let restoration := buf.loopRestorationFields
  let uvUnitSize := 1 + restoration.lrUnitShift - restoration.lrUvShift
  { pps with
    baseQindex := buf.baseQindex
    qpYDcDeltaQ := buf.yDcDeltaQ
    qpUDcDeltaQ := buf.uDcDeltaQ
    qpVDcDeltaQ := buf.vDcDeltaQ
    qpUAcDeltaQ := buf.uAcDeltaQ
    qpVAcDeltaQ := buf.vAcDeltaQ
    qmY := buf.qmatrixFields.qmY
    qmU := buf.qmatrixFields.qmU
    qmV := buf.qmatrixFields.qmV
    segmentationEnabled := buf.segInfo.enabled
    segmentationUpdateMap := buf.segInfo.updateMap
    segmentationUpdateData := buf.segInfo.updateData
    segmentationTemporalUpdate := buf.segInfo.temporalUpdate
    loopFilterLevel := buf.filterLevel
    loopFilterLevelU := buf.filterLevelU
    loopFilterLevelV := buf.filterLevelV
    loopFilterSharpness := buf.loopFilterInfoFields.sharpnessLevel
    loopFilterDeltaEnabled := buf.loopFilterInfoFields.modeRefDeltaEnabled
    loopFilterDeltaUpdate := buf.loopFilterInfoFields.modeRefDeltaUpdate
    loopFilterModeDeltas := buf.modeDeltas
    deltaLfPresent := buf.modeControlFields.deltaLfPresentFlag
    deltaLfRes := buf.modeControlFields.log2DeltaLfRes
    deltaLfMulti := buf.modeControlFields.deltaLfMulti
    lrType := #v[lrTypeMap.getD restoration.yframeRestorationType 0,
      lrTypeMap.getD restoration.cbframeRestorationType 0,
      lrTypeMap.getD restoration.crframeRestorationType 0]
    lrUnitSize := #v[1 + restoration.lrUnitShift, uvUnitSize, uvUnitSize] }

/-- The scalar fields of the film grain. -/
def copyGrainFields (buf : VADecPictureParameterBufferAV1) (pps : CUVIDAV1PICPARAMS) :
    CUVIDAV1PICPARAMS :=
  let info := buf.filmGrainInfo
  { pps with
    applyGrain := info.applyGrain
    overlapFlag := info.overlapFlag
    scalingShiftMinus8 := info.grainScalingMinus8
    chromaScalingFromLuma := info.chromaScalingFromLuma
    arCoeffLag := info.arCoeffLag
    arCoeffShiftMinus6 := info.arCoeffShiftMinus6
    grainScaleShift := info.grainScaleShift
    clipToRestrictedRange := info.clipToRestrictedRange
    numYPoints := info.numYPoints
    numCbPoints := info.numCbPoints
    numCrPoints := info.numCrPoints
    randomSeed := info.grainSeed
    cbMult := info.cbMult
    cbLumaMult := info.cbLumaMult
    cbOffset := info.cbOffset
    crMult := info.crMult
    crLumaMult := info.crLumaMult
    crOffset := info.crOffset }

/-- The arrays of the film grain, which are written only where it is applied. -/
def copyGrainArrays (buf : VADecPictureParameterBufferAV1) (pps : CUVIDAV1PICPARAMS) :
    CUVIDAV1PICPARAMS :=
  let info := buf.filmGrainInfo
  if pps.applyGrain ≠ 0 then
    { pps with
      scalingPointsY := info.pointYValue.zip info.pointYScaling
      scalingPointsCb := info.pointCbValue.zip info.pointCbScaling
      scalingPointsCr := info.pointCrValue.zip info.pointCrScaling
      arCoeffsY := info.arCoeffsY
      arCoeffsCb := info.arCoeffsCb
      arCoeffsCr := info.arCoeffsCr }
  else pps

/-- A strength of the constrained filter, its two parts swapped. -/
def cdefStrength (strength : Nat) : Nat :=
  (strength >>> 2 &&& 0x0f) ||| (strength &&& 0x03) <<< 4

/-- The strengths of the constrained filter and the segmentation features. -/
def copyStrengthsAndSegments (buf : VADecPictureParameterBufferAV1) (pps : CUVIDAV1PICPARAMS) :
    CUVIDAV1PICPARAMS :=
  { pps with
    cdefYStrength := (List.range (1 <<< pps.cdefBits)).foldl (fun strengths i =>
      strengths.setIfInBounds i (cdefStrength (buf.cdefYStrengths.toList.getD i 0)))
      pps.cdefYStrength
    cdefUvStrength := (List.range (1 <<< pps.cdefBits)).foldl (fun strengths i =>
      strengths.setIfInBounds i (cdefStrength (buf.cdefUvStrengths.toList.getD i 0)))
      pps.cdefUvStrength
    segmentationFeatureMask := buf.segInfo.featureMask
    segmentationFeatureData := buf.segInfo.featureData }

/-- The segment feature `SEG_LVL_ALT_Q`, which alters the quantiser index. -/
abbrev segLvlAltQ : Fin 8 := 0

/-- `coded_lossless`. -/
def codedLossless (buf : VADecPictureParameterBufferAV1) (pps : CUVIDAV1PICPARAMS) : Nat :=
  if buf.yDcDeltaQ ≠ 0 ∨ buf.uDcDeltaQ ≠ 0 ∨ buf.vDcDeltaQ ≠ 0 ∨ buf.uAcDeltaQ ≠ 0 ∨
      buf.vAcDeltaQ ≠ 0 then 0
  else if (List.finRange 8).any fun i =>
      (pps.segmentationFeatureMask.get i &&& 1 ≠ 0 ∧
        (pps.baseQindex : Int) + (pps.segmentationFeatureData.get i).get 0 ≠ 0) ∨
      pps.baseQindex ≠ 0 then 0
  else 1

/-- The primary reference, the references and their motion. -/
def copyReferences (surfaces : Surfaces) (buf : VADecPictureParameterBufferAV1)
    (pps : CUVIDAV1PICPARAMS) : CUVIDAV1PICPARAMS :=
  let refIdx := fun i => buf.refFrameIdx.toList.getD i 0
  { pps with
    primaryRefFrame :=
      if buf.primaryRefFrame = 7 then -1
      else pps.refFrameMap.toList.getD (refIdx buf.primaryRefFrame) 0
    refFrame := Vector.ofFn fun i =>
      let entry := { pps.refFrame.get i with
        index := pps.refFrameMap.toList.getD (refIdx i) 0 }
      match surfaces.nvSurfaceFromSurfaceId (buf.refFrameMap.toList.getD (refIdx i) 0) with
      | some surf => { entry with width := surf.width, height := surf.height }
      | none => entry
    globalMotion := buf.wm.map fun wm =>
      { invalid := wm.invalid ≠ 0 || wm.wmtype = vaAV1TransformationIdentity
        wmtype := wm.wmtype
        wmmat := wm.wmmat } }

/-- The display surface of a picture with film grain, if the picture goes to one of its
own. -/
def grainDisplay (surfaces : Surfaces) (renderTarget : RenderTarget)
    (buf : VADecPictureParameterBufferAV1) : Option NVSurface :=
  if buf.filmGrainInfo.applyGrain ≠ 0 then
    (surfaces.nvSurfaceFromSurfaceId buf.currentDisplayPicture).filter fun display =>
      buf.currentDisplayPicture ≠ renderTarget.surfaceId && display.pictureIdx ≥ 0
  else none

/-- The parameters that `copyAV1PicParam` writes for a buffer it accepts.  The width and
the height are those of the context, and the render target has its order hint. -/
def fillAV1PicParams (width height : Nat) (enableRestoration : Bool) (surfaces : Surfaces)
    (renderTarget : RenderTarget) (buf : VADecPictureParameterBufferAV1)
    (picParams : CUVIDPICPARAMS) : CUVIDPICPARAMS :=
  let pps := { picParams.av1 with
    width := width
    height := height
    frameOffset := buf.orderHint
    decodePicIdx := picParams.currPicIdx }
  let pps := copyFrameFields buf (copySequenceFields buf enableRestoration pps)
  let nNumSlices := pps.numTileCols * pps.numTileRows
  let frames :=
    if pps.skipMode ≠ 0 then
      skipModeFrames pps buf.orderHint (refHint surfaces renderTarget buf)
    else (0, 0)
  let pps := { pps with
    skipModeFrame0 := frames.1
    skipModeFrame1 := frames.2
    loopFilterRefDeltas := buf.refDeltas
    refFrameMap := buf.refFrameMap.map surfaces.pictureIdxFromSurfaceId }
  let pps := copyGrainFields buf (copyFilterFields buf pps)
  let display := grainDisplay surfaces renderTarget buf
  let pps := if display.isSome then { pps with decodePicIdx := renderTarget.pictureIdx } else pps
  let pps := copyStrengthsAndSegments buf (copyTileSizes buf pps)
  let pps := { pps with codedLossless := codedLossless buf pps }
  let pps := copyGrainArrays buf (copyReferences surfaces buf pps)
  { picParams with
    picWidthInMbs := (width + 15) / 16
    frameHeightInMbs := (height + 15) / 16
    currPicIdx := (display.map NVSurface.pictureIdx).getD picParams.currPicIdx
    refPicFlag := true
    intraPicFlag := isIntraPicture buf
    nNumSlices := nNumSlices
    av1 := pps }

@[simp] theorem fillAV1PicParams_nNumSlices (width height : Nat) (enableRestoration : Bool)
    (surfaces : Surfaces) (renderTarget : RenderTarget) (buf : VADecPictureParameterBufferAV1)
    (picParams : CUVIDPICPARAMS) :
    (fillAV1PicParams width height enableRestoration surfaces renderTarget buf
      picParams).nNumSlices = buf.tileCols * buf.tileRows := rfl

end Av1
end NvidiaVaapi
