import NvidiaVaapi.Hevc.SortReferenceSet

/-!
# HEVC picture parameters

`copyHEVCPicParam` of `hevc.c`: the picture-parameter buffer of the application
becomes the `CUVIDHEVCPICPARAMS` of the picture.  The arrays of the external
structures are fixed arrays, and a result `none` is an access outside of them.
-/

namespace NvidiaVaapi
namespace Hevc

open FixedArray

/-- `VAPictureHEVC`. -/
structure VAPictureHEVC where
  pictureId : Nat
  picOrderCnt : Int
  flags : UInt32
  deriving Inhabited

def vaPictureHevcFieldPic : UInt32 := 0x2
def vaPictureHevcBottomField : UInt32 := 0x4
def vaPictureHevcLongTermReference : UInt32 := 0x8
def vaPictureHevcRpsStCurrBefore : UInt32 := 0x10
def vaPictureHevcRpsStCurrAfter : UInt32 := 0x20
def vaPictureHevcRpsLtCurr : UInt32 := 0x40

/-- `pic->flags & flag`, as a condition. -/
def VAPictureHEVC.has (pic : VAPictureHEVC) (flag : UInt32) : Bool :=
  pic.flags &&& flag != 0

/-- The bit-field `pic_fields.bits`. -/
structure PicFields where
  separateColourPlaneFlag : Nat
  pcmEnabledFlag : Nat
  scalingListEnabledFlag : Nat
  transformSkipEnabledFlag : Nat
  ampEnabledFlag : Nat
  strongIntraSmoothingEnabledFlag : Nat
  signDataHidingEnabledFlag : Nat
  constrainedIntraPredFlag : Nat
  cuQpDeltaEnabledFlag : Nat
  weightedPredFlag : Nat
  weightedBipredFlag : Nat
  transquantBypassEnabledFlag : Nat
  tilesEnabledFlag : Nat
  entropyCodingSyncEnabledFlag : Nat
  ppsLoopFilterAcrossSlicesEnabledFlag : Nat
  loopFilterAcrossTilesEnabledFlag : Nat
  pcmLoopFilterDisabledFlag : Nat
  deriving Inhabited

/-- The bit-field `slice_parsing_fields.bits`. -/
structure SliceParsingFields where
  listsModificationPresentFlag : Nat
  longTermRefPicsPresentFlag : Nat
  spsTemporalMvpEnabledFlag : Nat
  cabacInitPresentFlag : Nat
  outputFlagPresentFlag : Nat
  dependentSliceSegmentsEnabledFlag : Nat
  ppsSliceChromaQpOffsetsPresentFlag : Nat
  sampleAdaptiveOffsetEnabledFlag : Nat
  deblockingFilterOverrideEnabledFlag : Nat
  ppsDisableDeblockingFilterFlag : Nat
  sliceSegmentHeaderExtensionPresentFlag : Nat
  rapPicFlag : Nat
  idrPicFlag : Nat
  intraPicFlag : Nat
  deriving Inhabited

/-- `VAPictureParameterBufferHEVC`.  The tile arrays carry their own sizes. -/
structure VAPictureParameterBufferHEVC where
  currPic : VAPictureHEVC
  referenceFrames : Vector VAPictureHEVC 15
  picWidthInLumaSamples : Nat
  picHeightInLumaSamples : Nat
  picFields : PicFields
  spsMaxDecPicBufferingMinus1 : Nat
  bitDepthLumaMinus8 : Nat
  bitDepthChromaMinus8 : Nat
  pcmSampleBitDepthLumaMinus1 : Nat
  pcmSampleBitDepthChromaMinus1 : Nat
  log2MinLumaCodingBlockSizeMinus3 : Nat
  log2DiffMaxMinLumaCodingBlockSize : Nat
  log2MinTransformBlockSizeMinus2 : Nat
  log2DiffMaxMinTransformBlockSize : Nat
  log2MinPcmLumaCodingBlockSizeMinus3 : Nat
  log2DiffMaxMinPcmLumaCodingBlockSize : Nat
  maxTransformHierarchyDepthIntra : Nat
  maxTransformHierarchyDepthInter : Nat
  initQpMinus26 : Int
  diffCuQpDeltaDepth : Nat
  ppsCbQpOffset : Int
  ppsCrQpOffset : Int
  log2ParallelMergeLevelMinus2 : Nat
  numTileColumnsMinus1 : Nat
  numTileRowsMinus1 : Nat
  columnWidthMinus1 : List Nat
  rowHeightMinus1 : List Nat
  sliceParsingFields : SliceParsingFields
  log2MaxPicOrderCntLsbMinus4 : Nat
  numShortTermRefPicSets : Nat
  numLongTermRefPicSps : Nat
  numRefIdxL0DefaultActiveMinus1 : Nat
  numRefIdxL1DefaultActiveMinus1 : Nat
  ppsBetaOffsetDiv2 : Int
  ppsTcOffsetDiv2 : Int
  numExtraSliceHeaderBits : Nat
  stRpsBits : UInt32
  deriving Inhabited

/-- The fields of `CUVIDHEVCPICPARAMS` that `copyHEVCPicParam` writes; each
reference set is kept with its `NumPoc` counter. -/
structure CUVIDHEVCPICPARAMS where
  picWidthInLumaSamples : Nat
  picHeightInLumaSamples : Nat
  log2MinLumaCodingBlockSizeMinus3 : Nat
  log2DiffMaxMinLumaCodingBlockSize : Nat
  log2MinTransformBlockSizeMinus2 : Nat
  log2DiffMaxMinTransformBlockSize : Nat
  pcmEnabledFlag : Nat
  log2MinPcmLumaCodingBlockSizeMinus3 : Nat
  log2DiffMaxMinPcmLumaCodingBlockSize : Nat
  pcmSampleBitDepthLumaMinus1 : Nat
  pcmSampleBitDepthChromaMinus1 : Nat
  pcmLoopFilterDisabledFlag : Nat
  strongIntraSmoothingEnabledFlag : Nat
  maxTransformHierarchyDepthIntra : Nat
  maxTransformHierarchyDepthInter : Nat
  ampEnabledFlag : Nat
  separateColourPlaneFlag : Nat
  log2MaxPicOrderCntLsbMinus4 : Nat
  numShortTermRefPicSets : Nat
  longTermRefPicsPresentFlag : Nat
  numLongTermRefPicsSps : Nat
  spsTemporalMvpEnabledFlag : Nat
  sampleAdaptiveOffsetEnabledFlag : Nat
  scalingListEnableFlag : Nat
  irapPicFlag : Nat
  idrPicFlag : Nat
  bitDepthLumaMinus8 : Nat
  bitDepthChromaMinus8 : Nat
  ppsBetaOffsetDiv2 : Int
  ppsTcOffsetDiv2 : Int
  dependentSliceSegmentsEnabledFlag : Nat
  sliceSegmentHeaderExtensionPresentFlag : Nat
  signDataHidingEnabledFlag : Nat
  cuQpDeltaEnabledFlag : Nat
  diffCuQpDeltaDepth : Nat
  initQpMinus26 : Int
  ppsCbQpOffset : Int
  ppsCrQpOffset : Int
  constrainedIntraPredFlag : Nat
  weightedPredFlag : Nat
  weightedBipredFlag : Nat
  transformSkipEnabledFlag : Nat
  transquantBypassEnabledFlag : Nat
  entropyCodingSyncEnabledFlag : Nat
  log2ParallelMergeLevelMinus2 : Nat
  numExtraSliceHeaderBits : Nat
  loopFilterAcrossTilesEnabledFlag : Nat
  loopFilterAcrossSlicesEnabledFlag : Nat
  outputFlagPresentFlag : Nat
  numRefIdxL0DefaultActiveMinus1 : Nat
  numRefIdxL1DefaultActiveMinus1 : Nat
  listsModificationPresentFlag : Nat
  cabacInitPresentFlag : Nat
  ppsSliceChromaQpOffsetsPresentFlag : Nat
  deblockingFilterOverrideEnabledFlag : Nat
  ppsDeblockingFilterDisabledFlag : Nat
  tilesEnabledFlag : Nat
  uniformSpacingFlag : Nat
  numTileColumnsMinus1 : Nat
  numTileRowsMinus1 : Nat
  columnWidthMinus1 : List Nat
  rowHeightMinus1 : List Nat
  numBitsForShortTermRPSInSlice : Int32
  numDeltaPocsOfRefRpsIdx : Nat
  numPocTotalCurr : Nat
  currPicOrderCntVal : Int
  refPicIdx : Vector Int 16
  picOrderCntVal : Vector Int 16
  isLongTerm : Vector Bool 16
  refPicSetStCurrBefore : CountedArray Nat 8
  refPicSetStCurrAfter : CountedArray Nat 8
  refPicSetLtCurr : CountedArray Nat 8
  deriving Inhabited

/-- The fields of `CUVIDPICPARAMS` that `copyHEVCPicParam` writes. -/
structure CUVIDPICPARAMS where
  picWidthInMbs : Nat
  frameHeightInMbs : Nat
  fieldPicFlag : Bool
  bottomFieldFlag : Bool
  secondField : Nat
  refPicFlag : Nat
  intraPicFlag : Nat
  hevc : CUVIDHEVCPICPARAMS
  deriving Inhabited

/-- The fields of the context, and of its render target, that `copyHEVCPicParam`
writes. -/
structure NVContext where
  decodeSurfaceReferenceHint : Nat
  progressiveFrame : Bool
  inputValidationFailed : Bool
  deriving Inhabited

/-- The parameters up to the tile counts. -/
def copySequenceFields (buf : VAPictureParameterBufferHEVC) (ppc : CUVIDHEVCPICPARAMS) :
    CUVIDHEVCPICPARAMS :=
  { ppc with
    picWidthInLumaSamples := buf.picWidthInLumaSamples
    picHeightInLumaSamples := buf.picHeightInLumaSamples
    log2MinLumaCodingBlockSizeMinus3 := buf.log2MinLumaCodingBlockSizeMinus3
    log2DiffMaxMinLumaCodingBlockSize := buf.log2DiffMaxMinLumaCodingBlockSize
    log2MinTransformBlockSizeMinus2 := buf.log2MinTransformBlockSizeMinus2
    log2DiffMaxMinTransformBlockSize := buf.log2DiffMaxMinTransformBlockSize
    pcmEnabledFlag := buf.picFields.pcmEnabledFlag
    log2MinPcmLumaCodingBlockSizeMinus3 := buf.log2MinPcmLumaCodingBlockSizeMinus3
    log2DiffMaxMinPcmLumaCodingBlockSize := buf.log2DiffMaxMinPcmLumaCodingBlockSize
    pcmSampleBitDepthLumaMinus1 := buf.pcmSampleBitDepthLumaMinus1
    pcmSampleBitDepthChromaMinus1 := buf.pcmSampleBitDepthChromaMinus1
    pcmLoopFilterDisabledFlag := buf.picFields.pcmLoopFilterDisabledFlag
    strongIntraSmoothingEnabledFlag := buf.picFields.strongIntraSmoothingEnabledFlag
    maxTransformHierarchyDepthIntra := buf.maxTransformHierarchyDepthIntra
    maxTransformHierarchyDepthInter := buf.maxTransformHierarchyDepthInter
    ampEnabledFlag := buf.picFields.ampEnabledFlag
    separateColourPlaneFlag := buf.picFields.separateColourPlaneFlag
    log2MaxPicOrderCntLsbMinus4 := buf.log2MaxPicOrderCntLsbMinus4
    numShortTermRefPicSets := buf.numShortTermRefPicSets
    longTermRefPicsPresentFlag := buf.sliceParsingFields.longTermRefPicsPresentFlag
    numLongTermRefPicsSps := buf.numLongTermRefPicSps
    spsTemporalMvpEnabledFlag := buf.sliceParsingFields.spsTemporalMvpEnabledFlag
    sampleAdaptiveOffsetEnabledFlag := buf.sliceParsingFields.sampleAdaptiveOffsetEnabledFlag
    scalingListEnableFlag := buf.picFields.scalingListEnabledFlag
    irapPicFlag := buf.sliceParsingFields.rapPicFlag
    idrPicFlag := buf.sliceParsingFields.idrPicFlag
    bitDepthLumaMinus8 := buf.bitDepthLumaMinus8
    bitDepthChromaMinus8 := buf.bitDepthChromaMinus8
    ppsBetaOffsetDiv2 := buf.ppsBetaOffsetDiv2
    ppsTcOffsetDiv2 := buf.ppsTcOffsetDiv2
    dependentSliceSegmentsEnabledFlag := buf.sliceParsingFields.dependentSliceSegmentsEnabledFlag
    sliceSegmentHeaderExtensionPresentFlag :=
      buf.sliceParsingFields.sliceSegmentHeaderExtensionPresentFlag
    signDataHidingEnabledFlag := buf.picFields.signDataHidingEnabledFlag
    cuQpDeltaEnabledFlag := buf.picFields.cuQpDeltaEnabledFlag
    diffCuQpDeltaDepth := buf.diffCuQpDeltaDepth
    initQpMinus26 := buf.initQpMinus26
    ppsCbQpOffset := buf.ppsCbQpOffset
    ppsCrQpOffset := buf.ppsCrQpOffset
    constrainedIntraPredFlag := buf.picFields.constrainedIntraPredFlag
    weightedPredFlag := buf.picFields.weightedPredFlag
    weightedBipredFlag := buf.picFields.weightedBipredFlag
    transformSkipEnabledFlag := buf.picFields.transformSkipEnabledFlag
    transquantBypassEnabledFlag := buf.picFields.transquantBypassEnabledFlag
    entropyCodingSyncEnabledFlag := buf.picFields.entropyCodingSyncEnabledFlag
    log2ParallelMergeLevelMinus2 := buf.log2ParallelMergeLevelMinus2
    numExtraSliceHeaderBits := buf.numExtraSliceHeaderBits
    loopFilterAcrossTilesEnabledFlag := buf.picFields.loopFilterAcrossTilesEnabledFlag
    loopFilterAcrossSlicesEnabledFlag := buf.picFields.ppsLoopFilterAcrossSlicesEnabledFlag
    outputFlagPresentFlag := buf.sliceParsingFields.outputFlagPresentFlag
    numRefIdxL0DefaultActiveMinus1 := buf.numRefIdxL0DefaultActiveMinus1
    numRefIdxL1DefaultActiveMinus1 := buf.numRefIdxL1DefaultActiveMinus1
    listsModificationPresentFlag := buf.sliceParsingFields.listsModificationPresentFlag
    cabacInitPresentFlag := buf.sliceParsingFields.cabacInitPresentFlag
    ppsSliceChromaQpOffsetsPresentFlag := buf.sliceParsingFields.ppsSliceChromaQpOffsetsPresentFlag
    deblockingFilterOverrideEnabledFlag :=
      buf.sliceParsingFields.deblockingFilterOverrideEnabledFlag
    ppsDeblockingFilterDisabledFlag := buf.sliceParsingFields.ppsDisableDeblockingFilterFlag }

/-- More tiles than one of the arrays of tile sizes has entries. -/
def tooManyTiles (buf : VAPictureParameterBufferHEVC) (ppc : CUVIDHEVCPICPARAMS) : Prop :=
  buf.numTileColumnsMinus1 + 1 > buf.columnWidthMinus1.length ∨
    buf.numTileColumnsMinus1 + 1 > ppc.columnWidthMinus1.length ∨
    buf.numTileRowsMinus1 + 1 > buf.rowHeightMinus1.length ∨
    buf.numTileRowsMinus1 + 1 > ppc.rowHeightMinus1.length

instance (buf : VAPictureParameterBufferHEVC) (ppc : CUVIDHEVCPICPARAMS) :
    Decidable (tooManyTiles buf ppc) :=
  inferInstanceAs (Decidable (_ ∨ _ ∨ _ ∨ _))

/-- The first `last + 1` sizes are the same. -/
def uniform (sizes : List Nat) (last : Nat) : Bool :=
  (List.range last).all fun i => sizes[i]? == sizes[i + 1]?

/-- The first `last + 1` entries of one array copied into another. -/
def copySizes (sizes old : List Nat) (last : Nat) : List Nat :=
  sizes.take (last + 1) ++ old.drop (last + 1)

/-- The tile parameters, and the reference parameters that are set before the loop
over the reference frames. -/
def copyTileFields (buf : VAPictureParameterBufferHEVC) (ppc : CUVIDHEVCPICPARAMS) :
    CUVIDHEVCPICPARAMS :=
  { ppc with
    tilesEnabledFlag := buf.picFields.tilesEnabledFlag
    uniformSpacingFlag :=
      if buf.picFields.tilesEnabledFlag = 0 ∨
          (uniform buf.columnWidthMinus1 buf.numTileColumnsMinus1 ∧
            uniform buf.rowHeightMinus1 buf.numTileRowsMinus1) then 1 else 0
    numTileColumnsMinus1 := buf.numTileColumnsMinus1
    numTileRowsMinus1 := buf.numTileRowsMinus1
    numBitsForShortTermRPSInSlice := buf.stRpsBits.toInt32
    numDeltaPocsOfRefRpsIdx := 0
    numPocTotalCurr := 0
    refPicSetStCurrBefore := { ppc.refPicSetStCurrBefore with count := 0 }
    refPicSetStCurrAfter := { ppc.refPicSetStCurrAfter with count := 0 }
    refPicSetLtCurr := { ppc.refPicSetLtCurr with count := 0 }
    currPicOrderCntVal := buf.currPic.picOrderCnt
    columnWidthMinus1 :=
      copySizes buf.columnWidthMinus1 ppc.columnWidthMinus1 buf.numTileColumnsMinus1
    rowHeightMinus1 := copySizes buf.rowHeightMinus1 ppc.rowHeightMinus1 buf.numTileRowsMinus1
    refPicIdx := Vector.replicate 16 (-1)
    picOrderCntVal := Vector.replicate 16 0
    isLongTerm := Vector.replicate 16 false }

/-- `ReferenceFrames[i]`. -/
abbrev VAPictureParameterBufferHEVC.referenceFrame (buf : VAPictureParameterBufferHEVC)
    (i : Fin 15) : VAPictureHEVC :=
  buf.referenceFrames[i]

/-- `RefPicIdx[i]`. -/
abbrev CUVIDHEVCPICPARAMS.pictureIndex (ppc : CUVIDHEVCPICPARAMS) (i : Fin 15) : Int :=
  ppc.refPicIdx[i]

/-- `PicOrderCntVal[i]`. -/
abbrev CUVIDHEVCPICPARAMS.orderCount (ppc : CUVIDHEVCPICPARAMS) (i : Fin 15) : Int :=
  ppc.picOrderCntVal[i]

/-- The entry of `RefPicIdx` that a reference frame fills, before its set is chosen. -/
def noteReference (buf : VAPictureParameterBufferHEVC) (pictureIdx : Fin 15 → Int)
    (ppc : CUVIDHEVCPICPARAMS) (i : Fin 15) : CUVIDHEVCPICPARAMS :=
  { ppc with
    refPicIdx := ppc.refPicIdx.set i (pictureIdx i)
    picOrderCntVal := ppc.picOrderCntVal.set i (buf.referenceFrame i).picOrderCnt
    isLongTerm := ppc.isLongTerm.set i
      ((buf.referenceFrame i).has vaPictureHevcLongTermReference) }

/-- One entry of `ReferenceFrames`: its picture index, which the look-up has just
returned, its flags, and its place in a reference set. -/
def copyReference (buf : VAPictureParameterBufferHEVC) (pictureIdx : Fin 15 → Int)
    (ppc : CUVIDHEVCPICPARAMS) (i : Fin 15) : Option CUVIDHEVCPICPARAMS :=
  let pic := buf.referenceFrame i
  let ppc := noteReference buf pictureIdx ppc i
  if pictureIdx i = -1 then
    some ppc
  else if pic.has vaPictureHevcRpsStCurrBefore then
    (ppc.refPicSetStCurrBefore.push i).map fun set => { ppc with refPicSetStCurrBefore := set }
  else if pic.has vaPictureHevcRpsStCurrAfter then
    (ppc.refPicSetStCurrAfter.push i).map fun set => { ppc with refPicSetStCurrAfter := set }
  else if pic.has vaPictureHevcRpsLtCurr then
    (ppc.refPicSetLtCurr.push i).map fun set => { ppc with refPicSetLtCurr := set }
  else
    some ppc

/-- The reference parameters after the loop: the counts, and the two short-term
sets sorted by picture-order count. -/
def finishReferences (ppc : CUVIDHEVCPICPARAMS) : Option CUVIDHEVCPICPARAMS := do
  let before ← sortReferenceSet ppc.picOrderCntVal true false
    ppc.refPicSetStCurrBefore.entries ppc.refPicSetStCurrBefore.count
  let after ← sortReferenceSet ppc.picOrderCntVal false true
    ppc.refPicSetStCurrAfter.entries ppc.refPicSetStCurrAfter.count
  return { ppc with
    numPocTotalCurr := ppc.refPicSetStCurrBefore.count + ppc.refPicSetStCurrAfter.count +
      ppc.refPicSetLtCurr.count
    numDeltaPocsOfRefRpsIdx := (List.finRange 16).countP fun i =>
      ppc.refPicIdx[i] != -1 && !ppc.isLongTerm[i]
    refPicSetStCurrBefore := { ppc.refPicSetStCurrBefore with entries := before }
    refPicSetStCurrAfter := { ppc.refPicSetStCurrAfter with entries := after } }

/-- `copyHEVCPicParam`.  `pictureIdx i` is what `pictureIdxFromSurfaceId` returns for
the surface of reference frame `i`: another thread may take the index of a surface
away between two of these calls, so they are independent answers. -/
def copyHEVCPicParam (ctx : NVContext) (buf : VAPictureParameterBufferHEVC)
    (pictureIdx : Fin 15 → Int) (picParams : CUVIDPICPARAMS) :
    Option (NVContext × CUVIDPICPARAMS) := do
  let fieldPicFlag := buf.currPic.has vaPictureHevcFieldPic
  let ctx := { ctx with
    decodeSurfaceReferenceHint := buf.spsMaxDecPicBufferingMinus1 + 3
    progressiveFrame := !fieldPicFlag }
  let ppc := copySequenceFields buf picParams.hevc
  let picParams : CUVIDPICPARAMS :=
    { picWidthInMbs := buf.picWidthInLumaSamples / 16
      frameHeightInMbs := buf.picHeightInLumaSamples / 16
      fieldPicFlag := fieldPicFlag
      bottomFieldFlag := buf.currPic.has vaPictureHevcBottomField
      secondField := 0
      refPicFlag := 1
      intraPicFlag := buf.sliceParsingFields.intraPicFlag
      hevc := ppc }
  if tooManyTiles buf ppc then
    return ({ ctx with inputValidationFailed := true }, picParams)
  let ppc ← (List.finRange 15).foldlM (copyReference buf pictureIdx) (copyTileFields buf ppc)
  let ppc ← finishReferences ppc
  return (ctx, { picParams with hevc := ppc })

end Hevc
end NvidiaVaapi
