import NvidiaVaapi.Jpeg.Stream

/-!
# The scans of a rebuilt JPEG

The slices bring their entropy coded data, which may end with the end of an image.  The stream is
one of the marker grammar with all slices in it, if none of them ends the image too early.
-/

namespace NvidiaVaapi
namespace Jpeg

open Codec
open JpegGrammar (Segment segmentBytes EntropyCoded continues readImage readImage_segmentBytes
  Image)

/-! ## The end of the image -/

/-- The data ends with the end of an image. -/
def endsImage (data : List UInt8) : Bool :=
  decide ([0xff, 0xd9] <:+ data)

/-- The entropy coded data of a slice: its bytes without the end of an image. -/
def entropyOf (data : List UInt8) : List UInt8 :=
  if endsImage data then data.take (data.length - 2) else data

/-- Entropy coded data, with at most the end of the image behind it. -/
def ScanData (data : List UInt8) : Prop :=
  ∃ entropy, EntropyCoded entropy ∧ (data = entropy ∨ data = entropy ++ [0xff, 0xd9])

theorem ScanData.entropy_eq {data : List UInt8} (h : ScanData data) :
    EntropyCoded (entropyOf data) ∧
      data = entropyOf data ++ if endsImage data then [0xff, 0xd9] else [] := by
  obtain ⟨entropy, hentropy, rfl | rfl⟩ := h
  · have hnot : endsImage data = false :=
      decide_eq_false (hentropy.not_suffix (by decide))
    unfold entropyOf
    rw [hnot]
    exact ⟨hentropy, (List.append_nil _).symm⟩
  · have hends : endsImage (entropy ++ [0xff, 0xd9]) = true :=
      decide_eq_true (List.suffix_append _ _)
    have hentropyOf : entropyOf (entropy ++ [0xff, 0xd9]) = entropy := by
      unfold entropyOf
      rw [hends]
      simp
    rw [hentropyOf, hends]
    exact ⟨hentropy, rfl⟩

theorem ScanData.eq_entropyOf {data : List UInt8} (h : ScanData data)
    (hnot : endsImage data = false) : data = entropyOf data := by
  have heq := h.entropy_eq.2
  rw [hnot] at heq
  exact heq.trans (List.append_nil _)

theorem ScanData.eq_entropyOf_append {data : List UInt8} (h : ScanData data)
    (hends : endsImage data = true) : data = entropyOf data ++ [0xff, 0xd9] := by
  have heq := h.entropy_eq.2
  rw [hends] at heq
  exact heq

theorem entropyOf_nil : entropyOf [] = [] := by decide

theorem writeEOI_bytes (frame : Frame) :
    (writeEOI frame).bytes = frame.bytes ++ if endsImage frame.bytes then [] else [0xff, 0xd9] := by
  unfold writeEOI endsImage
  by_cases hends : [0xff, 0xd9] <:+ frame.bytes
  · rw [if_pos hends, if_pos (decide_eq_true hends), List.append_nil]
  · rw [if_neg hends, if_neg (by simpa using hends), emit_bytes]

/-- The first slice whose data ends the image, if there is one. -/
theorem first_end (sliceData : List UInt8) (slices : List SliceParameter) :
    (∀ slice ∈ slices, endsImage (slice.data sliceData) = false) ∨
      ∃ before slice after, slices = before ++ slice :: after ∧
        (∀ slice' ∈ before, endsImage (slice'.data sliceData) = false) ∧
        endsImage (slice.data sliceData) = true := by
  cases hfind : slices.find? fun slice => endsImage (slice.data sliceData) with
  | none =>
      left
      intro slice hslice
      exact eq_false_of_ne_true (List.find?_eq_none.mp hfind slice hslice)
  | some slice =>
      right
      obtain ⟨hends, before, after, hslices, hbefore⟩ := List.find?_eq_some_iff_append.mp hfind
      refine ⟨before, slice, after, hslices, fun slice' hmem => ?_, hends⟩
      have hnot := hbefore slice' hmem
      rwa [Bool.not_eq_true'] at hnot

/-- What may stand before entropy coded data that does not end the image. -/
theorem not_endsImage_append {before entropy : List UInt8} (h : EntropyCoded entropy) :
    endsImage (before ++ 63 :: 0 :: entropy) = false := by
  refine decide_eq_false fun hsuffix => ?_
  have hcoded : EntropyCoded (63 :: 0 :: entropy) := .byte (by decide) (.byte (by decide) h)
  refine hcoded.not_suffix (by decide : continues 0xd9 = false) ?_
  exact List.suffix_of_suffix_length_le hsuffix (List.suffix_append _ _) (by simp)

/-- The header of a scan ends with bytes before which no image ends. -/
theorem not_endsImage_sos (before : List UInt8) (slice : SliceParameter) {entropy : List UInt8}
    (h : EntropyCoded entropy) : endsImage (before ++ (sosSegment slice ++ entropy)) = false := by
  have hend : ∃ start, sosSegment slice = start ++ [63, 0] := by
    refine ⟨[0xff, 0xda] ++ be16 (6 + slice.numComponents.toUInt16 * 2) ++ [slice.numComponents] ++
      ((List.range slice.numComponents.toNat).flatMap fun i => (slice.components i).bytes) ++
      [0], ?_⟩
    simp [sosSegment]
  obtain ⟨start, hstart⟩ := hend
  have hbytes : before ++ (sosSegment slice ++ entropy) =
      (before ++ start) ++ 63 :: 0 :: entropy := by
    rw [hstart]
    simp
  rw [hbytes]
  exact not_endsImage_append h

/-- A stream that no image ends in gets its end. -/
theorem readImage_plain {bytes : List UInt8} {segments : List Segment}
    (hbytes : bytes = 0xff :: 0xd8 :: segmentBytes segments)
    (hwell : ∀ segment ∈ segments, segment.WellFormed) (hnot : endsImage bytes = false) :
    readImage (bytes ++ if endsImage bytes then [] else [0xff, 0xd9]) =
      segments.foldlM Image.add {} := by
  rw [hnot, hbytes]
  exact readImage_segmentBytes hwell []

/-- A stream that an image ends in is not read if there is more behind it. -/
theorem readImage_early {bytes : List UInt8} {segments : List Segment} {rest : List UInt8}
    (hbytes : bytes = 0xff :: 0xd8 :: (segmentBytes segments ++ 0xff :: 0xd9 :: rest))
    (hwell : ∀ segment ∈ segments, segment.WellFormed) :
    readImage (bytes ++ if endsImage bytes then [] else [0xff, 0xd9]) =
      if rest = [] then segments.foldlM Image.add {} else none := by
  have hread := fun ending => readImage_segmentBytes hwell (rest ++ ending)
  have happend : ∀ ending, bytes ++ ending =
      0xff :: 0xd8 :: (segmentBytes segments ++ 0xff :: 0xd9 :: (rest ++ ending)) := by
    intro ending
    rw [hbytes]
    simp
  rw [happend, hread]
  by_cases hrest : rest = []
  · have hends : endsImage bytes = true := by
      refine decide_eq_true ?_
      rw [hbytes, hrest]
      exact ⟨0xff :: 0xd8 :: segmentBytes segments, by simp⟩
    rw [hends, if_pos rfl, hrest]
    rfl
  · rw [if_neg hrest, if_neg fun h => hrest (List.append_eq_nil_iff.mp h).1]

/-! ## The segments of the scans -/

/-- The segments of a slice with a header of its own. -/
def sliceSegments (sameRestart : Bool) (sliceData : List UInt8) (slice : SliceParameter) :
    List Segment :=
  (if sameRestart then [] else dris slice.restartInterval) ++
    [sos slice (entropyOf (slice.data sliceData))]

/-- The entropy coded data of some slices. -/
def entropies (sliceData : List UInt8) (slices : List SliceParameter) : List UInt8 :=
  (slices.map fun slice => entropyOf (slice.data sliceData)).flatten

/-- The segments of the scans: one for all slices where they share the header, or one for every
slice. -/
def scanSegments (slice0 : SliceParameter) (slices : List SliceParameter) (sliceData : List UInt8) :
    List Segment :=
  if allSameSOSHeader slice0 slices then [sos slice0 (entropies sliceData slices)]
  else slices.flatMap (sliceSegments (allSameRestartInterval slice0 slices) sliceData)

/-- All slices share the header of a scan. -/
def SameHeader (slices : List SliceParameter) : Prop :=
  ∀ slice ∈ slices, ∀ other ∈ slices, slice.header = other.header

instance (slices : List SliceParameter) : Decidable (SameHeader slices) :=
  inferInstanceAs (Decidable (∀ slice ∈ slices, ∀ other ∈ slices, slice.header = other.header))

/-- No slice ends the image before another one, in a scan for all slices unless there are no more
bytes. -/
def NothingBehind (slices : List SliceParameter) (sliceData : List UInt8) : Prop :=
  slices.Pairwise fun slice later => endsImage (slice.data sliceData) = true →
    SameHeader slices ∧ later.data sliceData = []

theorem sameHeader_iff {slice slice0 : SliceParameter} :
    slice.sameHeader slice0 = true ↔ slice.header = slice0.header := by
  unfold SliceParameter.sameHeader SliceParameter.header
  rw [Bool.and_eq_true, beq_iff_eq, List.all_eq_true]
  constructor
  · rintro ⟨hcount, hall⟩
    rw [← hcount]
    exact List.map_congr_left fun c hc => beq_iff_eq.mp (hall c hc)
  · intro heq
    have hlength := congrArg List.length heq
    rw [List.length_map, List.length_map, List.length_range, List.length_range] at hlength
    have hcount : slice.numComponents = slice0.numComponents := UInt8.toNat_inj.mp hlength
    rw [← hcount] at heq
    exact ⟨hcount, fun c hc => beq_iff_eq.mpr (List.map_inj_left.mp heq c hc)⟩

theorem allSameSOSHeader_iff {slice0 : SliceParameter} {slices : List SliceParameter}
    (h : slice0 ∈ slices) : allSameSOSHeader slice0 slices = true ↔ SameHeader slices := by
  unfold allSameSOSHeader
  rw [List.all_eq_true]
  constructor
  · intro hall slice hslice other hother
    exact (sameHeader_iff.mp (hall slice hslice)).trans (sameHeader_iff.mp (hall other hother)).symm
  · intro hsame slice hslice
    exact sameHeader_iff.mpr (hsame slice hslice slice0 h)

theorem dris_wellFormed (restartInterval : UInt16) :
    ∀ segment ∈ dris restartInterval, segment.WellFormed := by
  intro segment hsegment
  unfold dris at hsegment
  split at hsegment
  · rw [List.mem_singleton] at hsegment
    subst hsegment
    refine ⟨?_, (by decide : continues 0xdd = false), (by decide : (0xdd : UInt8) ≠ 0xd9),
      fun _ => rfl, .nil⟩
    show 2 + 2 < 2 ^ 16
    decide
  · cases hsegment

theorem sos_wellFormed (slice : SliceParameter) {entropy : List UInt8}
    (h : EntropyCoded entropy) : (sos slice entropy).WellFormed where
  short := by
    have hlt := slice.numComponents.toNat_lt
    simp [sos, List.length_flatMap, ScanComponent.bytes]
    omega
  marker := (by decide : continues 0xda = false)
  notEnd := (by decide : (0xda : UInt8) ≠ 0xd9)
  scan hscan := absurd rfl hscan
  entropy := h

theorem sharedInterval_wellFormed (slice0 : SliceParameter) (slices : List SliceParameter) :
    ∀ segment ∈ sharedInterval slice0 slices, segment.WellFormed := by
  intro segment hsegment
  unfold sharedInterval at hsegment
  split at hsegment
  · exact dris_wellFormed _ segment hsegment
  · cases hsegment

section Scans

variable {sliceData : List UInt8} {slices : List SliceParameter}

theorem entropies_coded (hdata : ∀ slice ∈ slices, ScanData (slice.data sliceData)) :
    EntropyCoded (entropies sliceData slices) := by
  refine .flatten fun entropy hentropy => ?_
  obtain ⟨slice, hslice, rfl⟩ := List.mem_map.mp hentropy
  exact (hdata slice hslice).entropy_eq.1

theorem entropies_append (slices slices' : List SliceParameter) :
    entropies sliceData (slices ++ slices') =
      entropies sliceData slices ++ entropies sliceData slices' := by
  simp [entropies]

/-- The data of slices that do not end the image. -/
theorem flatten_data_eq (hdata : ∀ slice ∈ slices, ScanData (slice.data sliceData))
    (hnot : ∀ slice ∈ slices, endsImage (slice.data sliceData) = false) :
    (slices.map fun slice => slice.data sliceData).flatten = entropies sliceData slices := by
  unfold entropies
  congr 1
  exact List.map_congr_left fun slice hslice =>
    (hdata slice hslice).eq_entropyOf (hnot slice hslice)

theorem sliceSegments_wellFormed {sameRestart : Bool} {slice : SliceParameter}
    (hdata : ScanData (slice.data sliceData)) :
    ∀ segment ∈ sliceSegments sameRestart sliceData slice, segment.WellFormed := by
  intro segment hsegment
  rcases List.mem_append.mp hsegment with hmem | hmem
  · split at hmem
    · cases hmem
    · exact dris_wellFormed _ segment hmem
  · rw [List.mem_singleton] at hmem
    subst hmem
    exact sos_wellFormed slice hdata.entropy_eq.1

/-- The piece of a slice is its segments, with the end of the image where the data has it. -/
theorem slicePiece_eq (sameRestart : Bool) {slice : SliceParameter}
    (hdata : ScanData (slice.data sliceData)) :
    slicePiece sameRestart sliceData slice =
      segmentBytes (sliceSegments sameRestart sliceData slice) ++
        if endsImage (slice.data sliceData) then [0xff, 0xd9] else [] := by
  have heq := hdata.entropy_eq.2
  calc slicePiece sameRestart sliceData slice
      = segmentBytes (if sameRestart then [] else dris slice.restartInterval) ++
          sosSegment slice ++ (entropyOf (slice.data sliceData) ++
            if endsImage (slice.data sliceData) then [0xff, 0xd9] else []) := by
        rw [← heq]
        rfl
    _ = _ := by
        unfold sliceSegments
        rw [segmentBytes_append, segmentBytes_cons, ← sosSegment_eq]
        simp [segmentBytes]

theorem slicePiece_ne_nil (sameRestart : Bool) (slice : SliceParameter) :
    slicePiece sameRestart sliceData slice ≠ [] := by
  simp [slicePiece, sosSegment]

/-- The scans of slices of which none ends the image. -/
theorem flatMap_slicePiece {sameRestart : Bool}
    (hdata : ∀ slice ∈ slices, ScanData (slice.data sliceData))
    (hnot : ∀ slice ∈ slices, endsImage (slice.data sliceData) = false) :
    slices.flatMap (slicePiece sameRestart sliceData) =
      segmentBytes (slices.flatMap (sliceSegments sameRestart sliceData)) := by
  induction slices with
  | nil => rfl
  | cons slice slices ih =>
      rw [List.flatMap_cons, List.flatMap_cons, segmentBytes_append,
        slicePiece_eq sameRestart (hdata slice List.mem_cons_self),
        hnot slice List.mem_cons_self,
        ih (fun s hmem => hdata s (List.mem_cons_of_mem _ hmem))
          (fun s hmem => hnot s (List.mem_cons_of_mem _ hmem))]
      simp

/-! ## Reading the scans -/

/-- The scans, where no slice ends the image. -/
theorem scanBytes_plain {slice0 : SliceParameter}
    (hdata : ∀ slice ∈ slices, ScanData (slice.data sliceData))
    (hnot : ∀ slice ∈ slices, endsImage (slice.data sliceData) = false) :
    scanBytes slice0 slices sliceData = segmentBytes (scanSegments slice0 slices sliceData) := by
  unfold scanBytes scanSegments
  split
  · rw [flatten_data_eq hdata hnot, sosSegment_eq]
    exact (List.append_nil _).symm
  · exact flatMap_slicePiece hdata hnot

/-- The image does not end before the end of the scans, where no slice ends it. -/
theorem scanBytes_plain_notEnds {slice0 : SliceParameter} (hslices : slices ≠ [])
    (hdata : ∀ slice ∈ slices, ScanData (slice.data sliceData))
    (hnot : ∀ slice ∈ slices, endsImage (slice.data sliceData) = false) (before : List UInt8) :
    endsImage (before ++ scanBytes slice0 slices sliceData) = false := by
  unfold scanBytes
  split
  · rw [flatten_data_eq hdata hnot]
    exact not_endsImage_sos before slice0 (entropies_coded hdata)
  · obtain ⟨first, last, rfl⟩ : ∃ first last, slices = first ++ [last] :=
      ⟨slices.dropLast, slices.getLast hslices, (List.dropLast_append_getLast hslices).symm⟩
    have hlast : last ∈ first ++ [last] := List.mem_append_right _ (List.mem_singleton_self last)
    have hcoded := (hdata last hlast).entropy_eq.1
    rw [← (hdata last hlast).eq_entropyOf (hnot last hlast)] at hcoded
    rw [List.flatMap_append, List.flatMap_singleton, slicePiece, List.append_assoc,
      ← List.append_assoc, ← List.append_assoc]
    exact not_endsImage_sos _ last hcoded

theorem scanSegments_wellFormed (slice0 : SliceParameter)
    (hdata : ∀ slice ∈ slices, ScanData (slice.data sliceData)) :
    ∀ segment ∈ scanSegments slice0 slices sliceData, segment.WellFormed := by
  intro segment hsegment
  unfold scanSegments at hsegment
  split at hsegment
  · rw [List.mem_singleton] at hsegment
    subst hsegment
    exact sos_wellFormed slice0 (entropies_coded hdata)
  · obtain ⟨slice, hslice, hmem⟩ := List.mem_flatMap.mp hsegment
    exact sliceSegments_wellFormed (hdata slice hslice) segment hmem

/-- Slices of which the first to end the image is `slice`. -/
structure EndsFirst (sliceData : List UInt8) (before : List SliceParameter) (slice : SliceParameter)
    (after : List SliceParameter) : Prop where
  data : ∀ slice' ∈ before ++ slice :: after, ScanData (slice'.data sliceData)
  before : ∀ slice' ∈ before, endsImage (slice'.data sliceData) = false
  ends : endsImage (slice.data sliceData) = true

namespace EndsFirst

variable {before after : List SliceParameter} {slice : SliceParameter}

theorem dataBefore (h : EndsFirst sliceData before slice after) :
    ∀ slice' ∈ before, ScanData (slice'.data sliceData) :=
  fun slice' hmem => h.data slice' (List.mem_append_left _ hmem)

theorem dataEnd (h : EndsFirst sliceData before slice after) : ScanData (slice.data sliceData) :=
  h.data slice (List.mem_append_right _ List.mem_cons_self)

/-- Nothing stands behind the slice. -/
theorem nothingBehind_iff (h : EndsFirst sliceData before slice after) :
    NothingBehind (before ++ slice :: after) sliceData ↔
      ∀ later ∈ after, SameHeader (before ++ slice :: after) ∧ later.data sliceData = [] := by
  unfold NothingBehind
  generalize SameHeader (before ++ slice :: after) = same
  rw [List.pairwise_append, List.pairwise_cons]
  constructor
  · rintro ⟨-, ⟨hafter, -⟩, -⟩ later hlater
    exact hafter later hlater h.ends
  · intro hafter
    have hempty : ∀ later ∈ after, endsImage (later.data sliceData) = false := by
      intro later hlater
      rw [(hafter later hlater).2]
      decide
    refine ⟨List.pairwise_of_forall_mem_list fun a ha b _ hends => ?_,
      ⟨fun later hlater _ => hafter later hlater,
        List.pairwise_of_forall_mem_list fun a ha b _ hends => ?_⟩, fun a ha b _ hends => ?_⟩
    · rw [h.before a ha] at hends
      cases hends
    · rw [hempty a ha] at hends
      cases hends
    · rw [h.before a ha] at hends
      cases hends

/-- The scans in a scan of their own up to the end of the image, with what is behind it. -/
theorem scanBytes_shared (h : EndsFirst sliceData before slice after) {slice0 : SliceParameter}
    (hshared : allSameSOSHeader slice0 (before ++ slice :: after) = true) :
    scanBytes slice0 (before ++ slice :: after) sliceData =
      segmentBytes [sos slice0 (entropies sliceData (before ++ [slice]))] ++
        0xff :: 0xd9 :: (after.map fun later => later.data sliceData).flatten := by
  unfold scanBytes
  rw [if_pos hshared, List.map_append, List.flatten_append, List.map_cons, List.flatten_cons,
    flatten_data_eq h.dataBefore h.before, h.dataEnd.eq_entropyOf_append h.ends, entropies_append,
    segmentBytes_cons, ← sosSegment_eq]
  simp [entropies, segmentBytes]

/-- The same for slices with scans of their own. -/
theorem scanBytes_own (h : EndsFirst sliceData before slice after) {slice0 : SliceParameter}
    (hown : allSameSOSHeader slice0 (before ++ slice :: after) = false) :
    let piece := allSameRestartInterval slice0 (before ++ slice :: after)
    scanBytes slice0 (before ++ slice :: after) sliceData =
      segmentBytes ((before ++ [slice]).flatMap (sliceSegments piece sliceData)) ++
        0xff :: 0xd9 :: after.flatMap (slicePiece piece sliceData) := by
  intro piece
  unfold scanBytes
  rw [hown]
  show (before ++ slice :: after).flatMap (slicePiece piece sliceData) = _
  rw [List.flatMap_append, List.flatMap_cons, flatMap_slicePiece h.dataBefore h.before,
    slicePiece_eq piece h.dataEnd, h.ends, List.flatMap_append, segmentBytes_append]
  simp

/-- The stream up to the end of the image is the whole one if and only if nothing is behind. -/
theorem scanBytes_split (h : EndsFirst sliceData before slice after) {slice0 : SliceParameter}
    (hmem : slice0 ∈ before ++ slice :: after) :
    ∃ segments rest, scanBytes slice0 (before ++ slice :: after) sliceData =
        segmentBytes segments ++ 0xff :: 0xd9 :: rest ∧
      (∀ segment ∈ segments, segment.WellFormed) ∧
      (rest = [] ↔ NothingBehind (before ++ slice :: after) sliceData) ∧
      (rest = [] → segments = scanSegments slice0 (before ++ slice :: after) sliceData) := by
  rw [h.nothingBehind_iff]
  have hdata : ∀ slice' ∈ before ++ [slice], ScanData (slice'.data sliceData) := by
    intro slice' hmem'
    refine h.data slice' ?_
    rw [List.append_cons]
    exact List.mem_append_left _ hmem'
  cases hshared : allSameSOSHeader slice0 (before ++ slice :: after) with
  | true =>
      have hsame := (allSameSOSHeader_iff hmem).mp hshared
      refine ⟨_, _, h.scanBytes_shared hshared, ?_, ?_, ?_⟩
      · intro segment hsegment
        rw [List.mem_singleton] at hsegment
        subst hsegment
        exact sos_wellFormed slice0 (entropies_coded hdata)
      · rw [List.flatten_eq_nil_iff, List.forall_mem_map]
        exact ⟨fun hempty later hlater => ⟨hsame, hempty later hlater⟩,
          fun hempty later hlater => (hempty later hlater).2⟩
      · intro hrest
        rw [List.flatten_eq_nil_iff, List.forall_mem_map] at hrest
        have hafter : entropies sliceData after = [] := by
          unfold entropies
          rw [List.flatten_eq_nil_iff, List.forall_mem_map]
          intro later hlater
          rw [hrest later hlater]
          exact entropyOf_nil
        have hentropies : entropies sliceData (before ++ slice :: after) =
            entropies sliceData (before ++ [slice]) := by
          rw [List.append_cons before slice after, entropies_append, hafter, List.append_nil]
        rw [scanSegments, if_pos hshared, hentropies]
  | false =>
      have hnot : ¬SameHeader (before ++ slice :: after) := by
        rw [← allSameSOSHeader_iff hmem, hshared]
        decide
      refine ⟨_, _, h.scanBytes_own hshared, ?_, ?_, ?_⟩
      · intro segment hsegment
        obtain ⟨slice', hslice', hmem'⟩ := List.mem_flatMap.mp hsegment
        exact sliceSegments_wellFormed (hdata slice' hslice') segment hmem'
      · rw [List.flatMap_eq_nil_iff]
        exact ⟨fun hempty later hlater => absurd (hempty later hlater) (slicePiece_ne_nil _ later),
          fun hempty later hlater => absurd (hempty later hlater).1 hnot⟩
      · intro hrest
        have hafter : after = [] := by
          cases after with
          | nil => rfl
          | cons later after =>
              rw [List.flatMap_cons] at hrest
              exact absurd (List.append_eq_nil_iff.mp hrest).1 (slicePiece_ne_nil _ later)
        subst hafter
        rw [scanSegments, hshared]
        rfl

end EndsFirst

/-- A stream is read as its segments, if nothing stands behind the end of the image. -/
theorem readImage_scans {head : List Segment} (hhead : ∀ segment ∈ head, segment.WellFormed)
    {slice0 : SliceParameter} (hmem : slice0 ∈ slices)
    (hdata : ∀ slice ∈ slices, ScanData (slice.data sliceData)) {bytes : List UInt8}
    (hbytes : bytes =
      0xff :: 0xd8 :: (segmentBytes head ++ scanBytes slice0 slices sliceData)) :
    (NothingBehind slices sliceData →
      readImage (bytes ++ if endsImage bytes then [] else [0xff, 0xd9]) =
        (head ++ scanSegments slice0 slices sliceData).foldlM Image.add {}) ∧
      (¬NothingBehind slices sliceData →
        readImage (bytes ++ if endsImage bytes then [] else [0xff, 0xd9]) = none) := by
  have hwell : ∀ {segments : List Segment}, (∀ segment ∈ segments, segment.WellFormed) →
      ∀ segment ∈ head ++ segments, segment.WellFormed := by
    intro segments hsegments segment hsegment
    exact (List.mem_append.mp hsegment).elim (hhead segment) (hsegments segment)
  rcases first_end sliceData slices with hnot | ⟨before, slice, after, rfl, hbefore, hends⟩
  · have hbehind : NothingBehind slices sliceData := by
      refine List.pairwise_of_forall_mem_list fun slice hslice later _ hends => ?_
      rw [hnot slice hslice] at hends
      cases hends
    have hnotEnds : endsImage bytes = false := by
      rw [hbytes, ← List.cons_append, ← List.cons_append]
      exact scanBytes_plain_notEnds (List.ne_nil_of_mem hmem) hdata hnot _
    rw [scanBytes_plain hdata hnot, ← segmentBytes_append] at hbytes
    exact ⟨fun _ => readImage_plain hbytes (hwell (scanSegments_wellFormed slice0 hdata)) hnotEnds,
      fun h => absurd hbehind h⟩
  · have hfirst : EndsFirst sliceData before slice after := ⟨hdata, hbefore, hends⟩
    obtain ⟨segments, rest, hscans, hsegments, hbehind, hwhole⟩ := hfirst.scanBytes_split hmem
    rw [hscans, ← List.append_assoc, ← segmentBytes_append] at hbytes
    rw [readImage_early hbytes (hwell hsegments), ← hbehind]
    constructor
    · intro hrest
      rw [if_pos hrest, hwhole hrest]
    · intro hrest
      rw [if_neg hrest]

end Scans

end Jpeg
end NvidiaVaapi
