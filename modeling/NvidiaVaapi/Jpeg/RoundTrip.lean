import NvidiaVaapi.Jpeg.ReadBack

/-!
# The round trip of a rebuilt JPEG

A reader of the marker grammar gets back from the stream of `reconstructJPEG` what the
parameters say, where every slice has its own restart interval in force.
-/

namespace NvidiaVaapi
namespace Jpeg

open Codec
open JpegGrammar (Segment segmentBytes EntropyCoded Image Scan readImage)

/-! ## Restart intervals -/

/-- Slices that share a header share the interval, and without that no slice without an interval
follows one with an interval. -/
def IntervalsKept (slices : List SliceParameter) : Prop :=
  (SameHeader slices → ∀ slice ∈ slices, ∀ other ∈ slices,
    slice.restartInterval = other.restartInterval) ∧
  (¬SameHeader slices → slices.Pairwise fun slice later =>
    slice.restartInterval ≠ 0 → later.restartInterval ≠ 0)

/-- A scan is the one of a slice with a header of its own. -/
def IsScanOf (sliceData : List UInt8) (slice : SliceParameter) (scan : Scan) : Prop :=
  Heads slice scan ∧ scan.entropy = entropyOf (slice.data sliceData)

theorem isScanOf_ownScan {sliceData : List UInt8} {slice : SliceParameter} {interval : Nat} :
    IsScanOf sliceData slice (ownScan sliceData interval slice) ↔
      interval = slice.restartInterval.toNat :=
  ⟨fun h => h.1.restartInterval, fun h => ⟨⟨rfl, rfl, h⟩, rfl⟩⟩

theorem toNat_eq_zero_iff (restartInterval : UInt16) :
    restartInterval.toNat = 0 ↔ restartInterval = 0 :=
  UInt16.toNat_inj (b := 0)

/-- An interval stays in force until it is replaced by another one that is not `0`. -/
theorem ownScans_iff {sliceData : List UInt8} {slices : List SliceParameter} {interval : Nat} :
    List.Forall₂ (IsScanOf sliceData) slices (ownScans false sliceData interval slices) ↔
      (interval ≠ 0 → ∀ slice ∈ slices, slice.restartInterval ≠ 0) ∧
        slices.Pairwise fun slice later =>
          slice.restartInterval ≠ 0 → later.restartInterval ≠ 0 := by
  induction slices generalizing interval with
  | nil => exact ⟨fun _ => ⟨fun _ => nofun, .nil⟩, fun _ => .nil⟩
  | cons slice slices ih =>
      rw [ownScans, List.forall₂_cons, isScanOf_ownScan, ih, List.pairwise_cons,
        List.forall_mem_cons]
      by_cases hzero : slice.restartInterval = 0
      · have hforce : inForce false interval slice = interval := if_pos (beq_iff_eq.mpr hzero)
        rw [hforce, hzero]
        constructor
        · rintro ⟨hinterval, -, hpairs⟩
          exact ⟨fun h => absurd hinterval h, fun _ _ h => absurd rfl h, hpairs⟩
        · rintro ⟨hkept, -, hpairs⟩
          have hinterval : interval = 0 := by
            by_contra hnot
            exact (hkept hnot).1 rfl
          exact ⟨hinterval, fun h => absurd hinterval h, hpairs⟩
      · have hforce : inForce false interval slice = slice.restartInterval.toNat :=
          if_neg fun h => hzero (beq_iff_eq.mp h)
        have hpositive : slice.restartInterval.toNat ≠ 0 :=
          fun h => hzero ((toNat_eq_zero_iff _).mp h)
        rw [hforce]
        constructor
        · rintro ⟨-, hkept, hpairs⟩
          exact ⟨fun _ => ⟨hzero, hkept hpositive⟩, fun later hlater _ =>
            hkept hpositive later hlater, hpairs⟩
        · rintro ⟨-, hkept, hpairs⟩
          exact ⟨rfl, fun _ later hlater => hkept later hlater hzero, hpairs⟩

/-- The interval that all slices share is in force at all of them. -/
theorem ownScans_shared {sliceData : List UInt8} {slices : List SliceParameter} {interval : Nat}
    (hsame : ∀ slice ∈ slices, interval = slice.restartInterval.toNat) :
    List.Forall₂ (IsScanOf sliceData) slices (ownScans true sliceData interval slices) := by
  induction slices with
  | nil => exact .nil
  | cons slice slices ih =>
      exact .cons (isScanOf_ownScan.mpr (hsame slice List.mem_cons_self))
        (ih fun s hmem => hsame s (List.mem_cons_of_mem _ hmem))

theorem allSameRestartInterval_iff {slice0 : SliceParameter} {slices : List SliceParameter} :
    allSameRestartInterval slice0 slices = true ↔
      ∀ slice ∈ slices, slice.restartInterval = slice0.restartInterval := by
  rw [allSameRestartInterval, List.all_eq_true]
  exact forall₂_congr fun _ _ => beq_iff_eq

/-- A scan for all slices has the interval of each if they share it. -/
theorem sharedValue_iff {slice0 : SliceParameter} {slices : List SliceParameter}
    (hmem : slice0 ∈ slices) :
    (∀ slice ∈ slices, sharedValue slice0 slices = slice.restartInterval.toNat) ↔
      ∀ slice ∈ slices, ∀ other ∈ slices, slice.restartInterval = other.restartInterval := by
  constructor
  · intro h slice hslice other hother
    exact UInt16.toNat_inj.mp ((h slice hslice).symm.trans (h other hother))
  · intro h slice hslice
    have hsame : allSameRestartInterval slice0 slices = true :=
      allSameRestartInterval_iff.mpr fun slice hslice => h slice hslice slice0 hmem
    rw [sharedValue, if_pos hsame, h slice0 hmem slice hslice]

/-- The scans that are read are those of the slices if the intervals are kept. -/
theorem readScans_iff {slice0 : SliceParameter} {slices : List SliceParameter}
    (sliceData : List UInt8) (hmem : slice0 ∈ slices) :
    ((SameHeader slices → ∃ scan, readScans slice0 slices sliceData = [scan] ∧
        scan.entropy = entropies sliceData slices ∧ ∀ slice ∈ slices, Heads slice scan) ∧
      (¬SameHeader slices → List.Forall₂ (IsScanOf sliceData) slices
        (readScans slice0 slices sliceData))) ↔ IntervalsKept slices := by
  unfold IntervalsKept
  refine and_congr (imp_congr_right fun hsame => ?_) (imp_congr_right fun hown => ?_)
  · rw [readScans, if_pos ((allSameSOSHeader_iff hmem).mpr hsame), ← sharedValue_iff hmem]
    constructor
    · rintro ⟨scan, hscan, -, hheads⟩ slice hslice
      obtain ⟨rfl, -⟩ := List.cons.inj hscan
      exact (hheads slice hslice).restartInterval
    · intro hintervals
      refine ⟨_, rfl, rfl, fun slice hslice => ⟨?_, rfl, hintervals slice hslice⟩⟩
      rw [hsame slice hslice slice0 hmem]
  · rw [readScans, if_neg fun h => hown ((allSameSOSHeader_iff hmem).mp h)]
    cases hshared : allSameRestartInterval slice0 slices with
    | false =>
        rw [sharedValue, hshared, if_neg Bool.false_ne_true, ownScans_iff]
        exact and_iff_right fun h => absurd rfl h
    | true =>
        have hall := allSameRestartInterval_iff.mp hshared
        rw [sharedValue, if_pos hshared]
        refine iff_of_true (ownScans_shared fun slice hslice => by rw [hall slice hslice]) ?_
        refine List.pairwise_of_forall_mem_list fun slice hslice later hlater hne => ?_
        rw [hall later hlater, ← hall slice hslice]
        exact hne

/-! ## The stream -/

theorem dht_wellFormed {bits vals : List UInt8} (tableClass tableId numVals : Nat)
    (hbits : bits.length = 16) (hvals : vals.length ≤ 256) :
    (dht bits vals tableClass tableId numVals).WellFormed where
  short := by
    simp [dht, hbits]
    omega
  marker := (by decide : JpegGrammar.continues 0xc4 = false)
  notEnd := (by decide : (0xc4 : UInt8) ≠ 0xd9)
  scan _ := rfl
  entropy := .nil

theorem vaTable_wellFormed {codes vals : List UInt8} (tableClass t : Nat) (required : UInt8)
    (hcodes : codes.length = 16) (hvals : vals.length ≤ 256) :
    ∀ segment ∈ vaTable codes vals tableClass t required, segment.WellFormed := by
  intro segment hsegment
  unfold vaTable at hsegment
  split at hsegment
  · rw [List.mem_singleton] at hsegment
    subst hsegment
    exact dht_wellFormed tableClass t _ hcodes hvals
  · cases hsegment

theorem huffmanSegments_wellFormed (jpegCtx : JPEGContext) (required : HuffmanMasks) :
    ∀ segment ∈ huffmanSegments jpegCtx required, segment.WellFormed := by
  intro segment hsegment
  unfold huffmanSegments at hsegment
  split at hsegment
  · obtain ⟨t, -, hmem⟩ := List.mem_flatMap.mp hsegment
    rcases List.mem_append.mp hmem with hdc | hac
    · exact vaTable_wellFormed 0 t required.dc Vector.length_toList (by simp) segment hdc
    · exact vaTable_wellFormed 1 t required.ac Vector.length_toList (by simp) segment hac
  · obtain ⟨hlum, hchrom⟩ := length_acVals
    simp only [standardTables, List.mem_cons, List.not_mem_nil, or_false] at hsegment
    rcases hsegment with rfl | rfl | rfl | rfl
    · exact dht_wellFormed 0 0 12 rfl (by decide)
    · exact dht_wellFormed 0 1 12 rfl (by decide)
    · exact dht_wellFormed 1 0 162 rfl (by omega)
    · exact dht_wellFormed 1 1 162 rfl (by omega)

theorem headSegments_wellFormed (jpegCtx : JPEGContext) (required : HuffmanMasks) :
    ∀ segment ∈ headSegments jpegCtx required, segment.WellFormed := by
  intro segment hsegment
  rcases List.mem_cons.mp hsegment with rfl | hrest
  · exact ⟨(by decide : 14 + 2 < 2 ^ 16), (by decide : JpegGrammar.continues 0xe0 = false),
      (by decide : (0xe0 : UInt8) ≠ 0xd9), fun _ => rfl, .nil⟩
  · rcases List.mem_append.mp hrest with hdqt | htail
    · obtain ⟨table, -, rfl⟩ := List.mem_map.mp hdqt
      refine ⟨?_, (by decide : JpegGrammar.continues 0xdb = false),
        (by decide : (0xdb : UInt8) ≠ 0xd9), fun _ => rfl, .nil⟩
      simp [dqt]
    · rcases List.mem_cons.mp htail with rfl | hhuffman
      · have hlt := jpegCtx.picParams.numComponents.toNat_lt
        refine ⟨?_, (by decide : JpegGrammar.continues 0xc0 = false),
          (by decide : (0xc0 : UInt8) ≠ 0xd9), fun _ => rfl, .nil⟩
        simp [sof0, be16, List.length_flatMap, FrameComponent.bytes]
        omega
      · exact huffmanSegments_wellFormed jpegCtx required segment hhuffman

/-- The bytes of a frame up to its end. -/
theorem writeFrame_bytes {jpegCtx : JPEGContext} {slice0 : SliceParameter}
    {slices : List SliceParameter} {sliceData : List UInt8} {required : HuffmanMasks}
    (hsmall : required.Small) {frame : Frame}
    (hwrite : writeFrame jpegCtx slice0 slices sliceData required = (frame, true)) :
    ∃ bytes, bytes = 0xff :: 0xd8 ::
        (segmentBytes (headSegments jpegCtx required ++ sharedInterval slice0 slices) ++
          scanBytes slice0 slices sliceData) ∧
      frame.bytes = bytes ++ if endsImage bytes then [] else [0xff, 0xd9] := by
  unfold writeFrame at hwrite
  split at hwrite
  · cases hwrite
  · rename_i start hstart
    obtain ⟨usedMask, hused, htables⟩ := writeDQT_bytes hstart
    cases hwrite
    refine ⟨_, ?_, writeEOI_bytes _⟩
    have htablesOf : tablesOf usedMask [0, 1, 2, 3] =
        [0, 1, 2, 3].filter jpegCtx.picParams.usesTable :=
      congrArg (List.filter · [0, 1, 2, 3]) (funext (getUsedQuantTablesMask_spec hused))
    rw [writeScans_bytes, writeHuffmanTables_bytes jpegCtx hsmall, emit_bytes, htables, emit_bytes,
      sof0Segment_eq, htablesOf, headSegments, jfifHeader_eq]
    simp [segmentBytes]

/-- A frame that is rebuilt is behind the output. -/
theorem rebuilt_bytes {heap : Heap} {jpegCtx : JPEGContext} {slices : List SliceParameter}
    {sliceData : List UInt8} {output output' : AppendableBuffer} {outSize : Nat}
    (hrebuilt : reconstructJPEG heap jpegCtx slices sliceData output = .rebuilt output' outSize) :
    ∃ slice0 collected frame, slice0 ∈ slices ∧
      checkParameters jpegCtx slices sliceData.length = some collected ∧
      writeFrame jpegCtx slice0 slices sliceData collected.required = (frame, true) ∧
      output'.bytes.drop output.size = frame.bytes := by
  unfold reconstructJPEG at hrebuilt
  split at hrebuilt
  · rename_i collected slice0 rest hcheck
    simp only at hrebuilt
    split at hrebuilt
    · cases hrebuilt
    · split at hrebuilt
      · cases hrebuilt
      · rename_i reserved hreserve
        obtain ⟨⟨-, hsize⟩, -⟩ := reserveAdditional_sameBytes hreserve
        cases hwrite : writeFrame jpegCtx slice0 (slice0 :: rest) sliceData collected.required with
        | mk frame written =>
            rw [hwrite] at hrebuilt
            unfold finishFrame at hrebuilt
            split at hrebuilt
            · cases hrebuilt
            · simp only at hrebuilt
              split at hrebuilt
              · cases hrebuilt
              · rename_i hwritten
                split at hrebuilt
                · cases hrebuilt
                · split at hrebuilt
                  · cases hrebuilt
                  · cases hrebuilt
                    refine ⟨slice0, collected, frame, List.mem_cons_self, hcheck, ?_, ?_⟩
                    · rw [Bool.not_eq_true', Bool.not_eq_false] at hwritten
                      rw [hwrite, hwritten]
                    · rw [← hsize]
                      show ((reserved.bytes ++ (frame.bytes ++ frame.behind) ++ _).take
                        (reserved.size + frame.bytes.length)).drop reserved.size = frame.bytes
                      have hlength : reserved.bytes.length = reserved.size :=
                        AppendableBuffer.length_bytes reserved
                      rw [List.drop_take, Nat.add_sub_cancel_left, List.append_assoc, ← hlength,
                        List.drop_left, List.append_assoc, List.take_left]
  · cases hrebuilt

/-! ## Main results -/

/-- A stream is read as what the parameters, the tables and the slices say. -/
def RoundTrips (jpegCtx : JPEGContext) (slices : List SliceParameter) (sliceData : List UInt8)
    (stream : List UInt8) : Prop :=
  ∃ image, readImage stream = some image ∧ Describes jpegCtx slices sliceData image

/-- The sampling factors of the frame have 4 bits. -/
def PictureParameter.SmallFactors (pic : PictureParameter) : Prop :=
  ∀ i ∈ List.range pic.numComponents.toNat, (pic.components i).hSamplingFactor.toNat < 16 ∧
    (pic.components i).vSamplingFactor.toNat < 16

instance (pic : PictureParameter) : Decidable pic.SmallFactors :=
  inferInstanceAs (Decidable (∀ i ∈ List.range pic.numComponents.toNat,
    (pic.components i).hSamplingFactor.toNat < 16 ∧ (pic.components i).vSamplingFactor.toNat < 16))

theorem headerReadBack_iff (pic : PictureParameter) :
    pic.headerReadBack = pic.frameHeader ↔ pic.SmallFactors := by
  unfold PictureParameter.headerReadBack PictureParameter.frameHeader
  rw [JpegGrammar.FrameHeader.mk.injEq]
  constructor
  · rintro ⟨-, -, -, hcomponents⟩ i hi
    exact (readBack_eq_iff _).mp (List.map_inj_left.mp hcomponents i hi)
  · intro hsmall
    exact ⟨rfl, rfl, rfl, List.map_congr_left fun i hi => (readBack_eq_iff _).mpr (hsmall i hi)⟩

/-- What is read from a frame that is rebuilt. -/
theorem readImage_rebuilt {heap : Heap} {jpegCtx : JPEGContext} {slices : List SliceParameter}
    {sliceData : List UInt8} {output output' : AppendableBuffer} {outSize : Nat}
    (hrebuilt : reconstructJPEG heap jpegCtx slices sliceData output = .rebuilt output' outSize)
    (hdata : ∀ slice ∈ slices, ScanData (slice.data sliceData)) :
    ∃ slice0 ∈ slices, ∃ interval,
      (NothingBehind slices sliceData → readImage (output'.bytes.drop output.size) =
        some { headImage jpegCtx slices with
          restartInterval := interval
          scans := readScans slice0 slices sliceData }) ∧
      (¬NothingBehind slices sliceData → readImage (output'.bytes.drop output.size) = none) := by
  obtain ⟨slice0, collected, frame, hmem, hcheck, hwrite, hbytes⟩ := rebuilt_bytes hrebuilt
  obtain ⟨htwo, hmasks⟩ := checkSlices_spec (checkParameters_foldlM hcheck)
  have hzero : ∀ t, hasTable 0 t = false := fun t => Nat.zero_testBit t
  have hdc : ∀ t, hasTable collected.required.dc t = usesDc slices t :=
    fun t => (hmasks t).1.trans (by rw [hzero, Bool.false_or])
  have hac : ∀ t, hasTable collected.required.ac t = usesAc slices t :=
    fun t => (hmasks t).2.trans (by rw [hzero, Bool.false_or])
  have hsmall : collected.required.Small := HuffmanMasks.small_of_uses htwo hdc hac
  obtain ⟨bytes, hstart, hend⟩ := writeFrame_bytes hsmall hwrite
  have hwell : ∀ segment ∈ headSegments jpegCtx collected.required ++
      sharedInterval slice0 slices, segment.WellFormed := by
    intro segment hsegment
    exact (List.mem_append.mp hsegment).elim
      (headSegments_wellFormed jpegCtx collected.required segment)
      (sharedInterval_wellFormed slice0 slices segment)
  obtain ⟨hwhole, hcut⟩ := readImage_scans hwell hmem hdata hstart
  obtain ⟨interval, hsegments⟩ := foldlM_segments jpegCtx sliceData hmem htwo hdc hac
  rw [← hend, ← hbytes] at hwhole hcut
  exact ⟨slice0, hmem, interval, fun hbehind => (hwhole hbehind).trans hsegments, hcut⟩

/-- What a round trip takes. -/
theorem RoundTrips.conditions {heap : Heap} {jpegCtx : JPEGContext} {slices : List SliceParameter}
    {sliceData : List UInt8} {output output' : AppendableBuffer} {outSize : Nat}
    (hrebuilt : reconstructJPEG heap jpegCtx slices sliceData output = .rebuilt output' outSize)
    (hdata : ∀ slice ∈ slices, ScanData (slice.data sliceData))
    (h : RoundTrips jpegCtx slices sliceData (output'.bytes.drop output.size)) :
    jpegCtx.picParams.SmallFactors ∧ NothingBehind slices sliceData ∧ IntervalsKept slices := by
  obtain ⟨slice0, hmem, interval, hwhole, hcut⟩ := readImage_rebuilt hrebuilt hdata
  obtain ⟨image, hread, hdescribes⟩ := h
  have hbehind : NothingBehind slices sliceData := by
    by_contra hnot
    rw [hcut hnot] at hread
    cases hread
  rw [hwhole hbehind] at hread
  obtain rfl := Option.some.inj hread
  refine ⟨(headerReadBack_iff _).mp (Option.some.inj hdescribes.frame), hbehind, ?_⟩
  exact (readScans_iff sliceData hmem).mp ⟨hdescribes.merged, hdescribes.separate⟩

/-- A frame that is rebuilt is read back as what the parameters, the tables and the slices say, if
and only if the sampling factors fit their fields, no slice ends the image too early, and no slice
is left with an interval that is not its own. -/
theorem roundTrips_iff (heap : Heap) (jpegCtx : JPEGContext) (slices : List SliceParameter)
    (sliceData : List UInt8) (output output' : AppendableBuffer) (outSize : Nat)
    (hrebuilt : reconstructJPEG heap jpegCtx slices sliceData output = .rebuilt output' outSize)
    (hdata : ∀ slice ∈ slices, ScanData (slice.data sliceData)) :
    RoundTrips jpegCtx slices sliceData (output'.bytes.drop output.size) ↔
      jpegCtx.picParams.SmallFactors ∧ NothingBehind slices sliceData ∧ IntervalsKept slices := by
  refine ⟨RoundTrips.conditions hrebuilt hdata, ?_⟩
  rintro ⟨hsmall, hbehind, hkept⟩
  obtain ⟨slice0, hmem, interval, hwhole, -⟩ := readImage_rebuilt hrebuilt hdata
  obtain ⟨hmerged, hseparate⟩ := (readScans_iff sliceData hmem).mpr hkept
  exact ⟨_, hwhole hbehind, rfl, congrArg some ((headerReadBack_iff _).mpr hsmall), rfl, hmerged,
    hseparate⟩

/-- A picture of two components. -/
def twoComponents : JPEGContext :=
  { grey with
    picParams :=
      { pictureWidth := 16, pictureHeight := 16, numComponents := 2
        components := fun i => ⟨UInt8.ofNat (i + 1), 1, 1, 0⟩ } }

/-- A scan for each component, with restart intervals. -/
def twoScans (first second : UInt16) : List SliceParameter :=
  [{ sliceDataSize := 1, sliceDataOffset := 0, numComponents := 1
     components := fun _ => ⟨1, 0, 0⟩, restartInterval := first },
    { sliceDataSize := 1, sliceDataOffset := 1, numComponents := 1
      components := fun _ => ⟨2, 0, 0⟩, restartInterval := second }]

theorem twoScans_data (first second : UInt16) :
    ∀ slice ∈ twoScans first second, ScanData (slice.data [0x12, 0x34]) := by
  intro slice hslice
  rcases List.mem_cons.mp hslice with rfl | hslice
  · exact ⟨[0x12], .byte (by decide) .nil, .inl rfl⟩
  · rw [List.mem_singleton] at hslice
    subst hslice
    exact ⟨[0x34], .byte (by decide) .nil, .inl rfl⟩

theorem twoScans_own (first second : UInt16) : ¬SameHeader (twoScans first second) := by
  intro h
  have hheaders := h _ List.mem_cons_self _ (List.mem_cons_of_mem _ List.mem_cons_self)
  exact absurd hheaders (by decide : [(⟨1, 0, 0⟩ : ScanComponent)] ≠ [⟨2, 0, 0⟩])

set_option maxRecDepth 4000 in
/-- The second scan has no interval, but no segment says so, and that of the first stays. -/
theorem twoScans_fails : ∃ output' outSize,
    reconstructJPEG plenty twoComponents (twoScans 4 0) [0x12, 0x34] {} =
        .rebuilt output' outSize ∧
      (∀ slice ∈ twoScans 4 0, ScanData (slice.data [0x12, 0x34])) ∧
      ¬RoundTrips twoComponents (twoScans 4 0) [0x12, 0x34]
        (output'.bytes.drop ({} : AppendableBuffer).size) := by
  have hrebuilt : ∃ output' outSize, reconstructJPEG plenty twoComponents (twoScans 4 0)
    [0x12, 0x34] {} = .rebuilt output' outSize := ⟨_, _, rfl⟩
  obtain ⟨output', outSize, hrebuilt⟩ := hrebuilt
  refine ⟨output', outSize, hrebuilt, twoScans_data 4 0, fun h => ?_⟩
  obtain ⟨-, -, -, hkept⟩ := RoundTrips.conditions hrebuilt (twoScans_data 4 0) h
  have hpairs := List.pairwise_cons.mp (hkept (twoScans_own 4 0))
  exact hpairs.1 _ (List.mem_singleton_self _) (by decide) rfl

set_option maxRecDepth 4000 in
theorem roundTrips_iff_twoScans : ∃ output' outSize,
    reconstructJPEG plenty twoComponents (twoScans 0 4) [0x12, 0x34] {} =
        .rebuilt output' outSize ∧
      RoundTrips twoComponents (twoScans 0 4) [0x12, 0x34]
        (output'.bytes.drop ({} : AppendableBuffer).size) := by
  have hrebuilt : ∃ output' outSize, reconstructJPEG plenty twoComponents (twoScans 0 4)
    [0x12, 0x34] {} = .rebuilt output' outSize := ⟨_, _, rfl⟩
  obtain ⟨output', outSize, hrebuilt⟩ := hrebuilt
  refine ⟨output', outSize, hrebuilt, ?_⟩
  refine (roundTrips_iff plenty twoComponents (twoScans 0 4) [0x12, 0x34] {} output' outSize
    hrebuilt (twoScans_data 0 4)).mpr
    ⟨by decide, ?_, fun h => absurd h (twoScans_own 0 4), fun _ => ?_⟩
  · exact .cons (by decide) (.cons nofun .nil)
  · exact .cons (by decide) (.cons nofun .nil)

end Jpeg
end NvidiaVaapi
