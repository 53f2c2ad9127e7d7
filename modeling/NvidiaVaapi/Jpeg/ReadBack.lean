import NvidiaVaapi.Jpeg.Scans

/-!
# Reading a rebuilt JPEG

What the parameters, the tables and the slices say, and what a reader of the marker grammar makes
of the segments that are written for them.
-/

namespace NvidiaVaapi
namespace Jpeg

open Codec
open JpegGrammar (Segment segmentBytes EntropyCoded codeCount Image Scan high low readImage
  readQuantTables readHuffmanTables readFrameComponents readFrameHeader readScanComponents readScan)

/-! ## What the parameters say -/

/-- The quantisation tables of the frame. -/
def JPEGContext.quantTables (jpegCtx : JPEGContext) : List JpegGrammar.QuantTable :=
  ([0, 1, 2, 3].filter jpegCtx.picParams.usesTable).map fun table =>
    ⟨UInt8.ofNat table, (jpegCtx.iqMatrix table).toList⟩

def FrameComponent.described (component : FrameComponent) : JpegGrammar.FrameComponent :=
  ⟨component.componentId, component.hSamplingFactor, component.vSamplingFactor,
    component.quantiserTableSelector⟩

def ScanComponent.described (component : ScanComponent) : JpegGrammar.ScanComponent :=
  ⟨component.componentSelector, component.dcTableSelector, component.acTableSelector⟩

/-- The frame header of the picture parameters. -/
def PictureParameter.frameHeader (pic : PictureParameter) : JpegGrammar.FrameHeader :=
  ⟨8, pic.pictureHeight.toNat, pic.pictureWidth.toNat,
    (List.range pic.numComponents.toNat).map fun i => (pic.components i).described⟩

/-- Every Huffman table that the scans use was loaded and is valid. -/
def JPEGContext.loaded (jpegCtx : JPEGContext) (slices : List SliceParameter) : Bool :=
  jpegCtx.hasHuffmanTable && [0, 1].all fun t =>
    (!usesDc slices t ||
        usable (jpegCtx.huffmanTable t).numDcCodes.toList 12 t jpegCtx.validHuffmanDcMask) &&
      (!usesAc slices t ||
        usable (jpegCtx.huffmanTable t).numAcCodes.toList 162 t jpegCtx.validHuffmanAcMask)

/-- A table of a class, with as many values as it has codes. -/
def describedTable (tableClass id : UInt8) (bits vals : List UInt8) : JpegGrammar.HuffmanTable :=
  ⟨tableClass, id, bits, vals.take (codeCount bits)⟩

/-- The tables of the application that the scans use. -/
def JPEGContext.loadedTables (jpegCtx : JPEGContext) (slices : List SliceParameter) :
    List JpegGrammar.HuffmanTable :=
  [0, 1].flatMap fun t =>
    (if usesDc slices t then
      [describedTable 0 (UInt8.ofNat t) (jpegCtx.huffmanTable t).numDcCodes.toList
        (jpegCtx.huffmanTable t).dcValues.toList]
    else []) ++
      if usesAc slices t then
        [describedTable 1 (UInt8.ofNat t) (jpegCtx.huffmanTable t).numAcCodes.toList
          (jpegCtx.huffmanTable t).acValues.toList]
      else []

/-- The standard tables. -/
def standardHuffmanTables : List JpegGrammar.HuffmanTable :=
  [⟨0, 0, dcLuminanceBits, dcLuminanceVals⟩, ⟨0, 1, dcChrominanceBits, dcChrominanceVals⟩,
    ⟨1, 0, acLuminanceBits, acLuminanceVals⟩, ⟨1, 1, acChrominanceBits, acChrominanceVals⟩]

/-- A scan has the header of a slice, with its restart interval in force. -/
structure Heads (slice : SliceParameter) (scan : Scan) : Prop where
  components : scan.components = slice.header.map ScanComponent.described
  spectral : scan.spectral = [0, 63, 0]
  restartInterval : scan.restartInterval = slice.restartInterval.toNat

/-- An image is what the parameters, the tables and the slices with their data say. -/
structure Describes (jpegCtx : JPEGContext) (slices : List SliceParameter) (sliceData : List UInt8)
    (image : Image) : Prop where
  quantTables : image.quantTables = jpegCtx.quantTables
  frame : image.frame = some jpegCtx.picParams.frameHeader
  huffmanTables : image.huffmanTables =
    if jpegCtx.loaded slices then jpegCtx.loadedTables slices else standardHuffmanTables
  merged : SameHeader slices → ∃ scan, image.scans = [scan] ∧
    scan.entropy = entropies sliceData slices ∧ ∀ slice ∈ slices, Heads slice scan
  separate : ¬SameHeader slices → List.Forall₂ (fun slice scan =>
    Heads slice scan ∧ scan.entropy = entropyOf (slice.data sliceData)) slices image.scans

/-! ## Reading the segments -/

theorem be16_value (value : UInt16) : be16 value =
    [UInt8.ofNat (value.toNat / 256), UInt8.ofNat value.toNat] := be16_eq rfl

theorem bytes_value {n : Nat} (h : n < 2 ^ 16) :
    256 * (UInt8.ofNat (n / 256)).toNat + (UInt8.ofNat n).toNat = n := by
  rw [UInt8.toNat_ofNat', UInt8.toNat_ofNat']
  omega

/-- The halves of a byte that was put together of two. -/
theorem halves_iff (h v : UInt8) :
    high (h <<< 4 ||| v) = h ∧ low (h <<< 4 ||| v) = v ↔ h.toNat < 16 ∧ v.toNat < 16 := by
  have hh := h.toNat_lt
  have hv := v.toNat_lt
  have hshift : (h <<< 4).toNat = h.toNat * 16 % 256 := by
    rw [UInt8.toNat_shiftLeft, Nat.shiftLeft_eq]
    rfl
  have hhigh : (high (h <<< 4 ||| v)).toNat = h.toNat % 16 ||| v.toNat / 16 := by
    show (h <<< 4 ||| v).toNat / 16 = _
    rw [UInt8.toNat_or, hshift, show 16 = 2 ^ 4 from rfl, ← Nat.shiftRight_eq_div_pow,
      Nat.shiftRight_or_distrib, Nat.shiftRight_eq_div_pow, Nat.shiftRight_eq_div_pow]
    congr 1
    omega
  have hlow : (low (h <<< 4 ||| v)).toNat = v.toNat % 16 := by
    show (h <<< 4 ||| v).toNat % 16 = _
    rw [UInt8.toNat_or, hshift, show 16 = 2 ^ 4 from rfl, Nat.or_mod_two_pow]
    have hzero : h.toNat * 2 ^ 4 % 256 % 2 ^ 4 = 0 := by omega
    rw [hzero, Nat.zero_or]
  rw [← UInt8.toNat_inj, ← UInt8.toNat_inj, hhigh, hlow]
  constructor
  · rintro ⟨hhighEq, hlowEq⟩
    have hv16 : v.toNat < 16 := by omega
    rw [Nat.div_eq_of_lt hv16, Nat.or_zero] at hhighEq
    exact ⟨by omega, hv16⟩
  · rintro ⟨hh16, hv16⟩
    rw [Nat.div_eq_of_lt hv16, Nat.or_zero]
    exact ⟨Nat.mod_eq_of_lt hh16, Nat.mod_eq_of_lt hv16⟩

/-- A component as it is read back from a frame header. -/
def FrameComponent.readBack (component : FrameComponent) : JpegGrammar.FrameComponent :=
  ⟨component.componentId, high (component.hSamplingFactor <<< 4 ||| component.vSamplingFactor),
    low (component.hSamplingFactor <<< 4 ||| component.vSamplingFactor),
    component.quantiserTableSelector⟩

/-- Sampling factors of 4 bits are read back. -/
theorem readBack_eq_iff (component : FrameComponent) : component.readBack = component.described ↔
    component.hSamplingFactor.toNat < 16 ∧ component.vSamplingFactor.toNat < 16 := by
  rw [← halves_iff, FrameComponent.readBack, FrameComponent.described,
    JpegGrammar.FrameComponent.mk.injEq]
  constructor
  · rintro ⟨-, hhigh, hlow, -⟩
    exact ⟨hhigh, hlow⟩
  · rintro ⟨hhigh, hlow⟩
    exact ⟨rfl, hhigh, hlow, rfl⟩

theorem readFrameComponents_bytes (pic : PictureParameter) (components : List Nat) :
    readFrameComponents components.length
        (components.flatMap fun i => (pic.components i).bytes) =
      some (components.map fun i => (pic.components i).readBack) := by
  induction components with
  | nil => rfl
  | cons i components ih =>
      rw [List.flatMap_cons]
      show (readFrameComponents components.length
        (components.flatMap fun i => (pic.components i).bytes)).map _ = _
      rw [ih]
      rfl

theorem readScanComponents_bytes (slice : SliceParameter) (rest : List UInt8)
    {components : List Nat} (htwo : ∀ component ∈ components.map slice.components,
      component.dcTableSelector ≤ 1 ∧ component.acTableSelector ≤ 1) :
    readScanComponents components.length
        ((components.flatMap fun i => (slice.components i).bytes) ++ rest) =
      some ((components.map slice.components).map ScanComponent.described, rest) := by
  induction components with
  | nil => rfl
  | cons i components ih =>
      rw [List.map_cons, List.forall_mem_cons] at htwo
      obtain ⟨⟨hdc, hac⟩, hrest⟩ := htwo
      rw [UInt8.le_iff_toNat_le] at hdc hac
      have hone : (1 : UInt8).toNat = 1 := rfl
      obtain ⟨hhigh, hlow⟩ := (halves_iff (slice.components i).dcTableSelector
        (slice.components i).acTableSelector).mpr ⟨by omega, by omega⟩
      rw [List.flatMap_cons, List.append_assoc]
      show (readScanComponents components.length
        ((components.flatMap fun i => (slice.components i).bytes) ++ rest)).map _ = _
      rw [ih hrest, Option.map_some, hhigh, hlow]
      rfl

section Reading

variable {image : Image}

theorem add_app0 : image.add app0 = some image := rfl

theorem add_dqt (iqMatrix : Nat → Vector UInt8 64) {table : Nat} (h : table < 16) :
    image.add (dqt iqMatrix table) = some { image with
      quantTables := image.quantTables ++ [⟨UInt8.ofNat table, (iqMatrix table).toList⟩] } := by
  have hid : (UInt8.ofNat table).toNat = table := by
    rw [UInt8.toNat_ofNat']
    omega
  have hhigh : high (UInt8.ofNat table) = 0 := by
    apply UInt8.toNat_inj.mp
    show (UInt8.ofNat table).toNat / 16 = 0
    omega
  have hlow : low (UInt8.ofNat table) = UInt8.ofNat table := by
    apply UInt8.toNat_inj.mp
    show (UInt8.ofNat table).toNat % 16 = _
    omega
  have hlength : (iqMatrix table).toList.length = 64 := Vector.length_toList
  have hread : readQuantTables (dqt iqMatrix table).payload.length (dqt iqMatrix table).payload =
      some [⟨UInt8.ofNat table, (iqMatrix table).toList⟩] := by
    show readQuantTables ((iqMatrix table).toList.length + 1)
      (UInt8.ofNat table :: (iqMatrix table).toList) = _
    generalize (iqMatrix table).toList = values at hlength
    unfold readQuantTables
    rw [hhigh, hlow, hlength, List.drop_of_length_le (Nat.le_of_eq hlength),
      List.take_of_length_le (Nat.le_of_eq hlength)]
    rfl
  show (readQuantTables (dqt iqMatrix table).payload.length
    (dqt iqMatrix table).payload).map _ = _
  rw [hread]
  rfl

/-- The frame header as it is read back. -/
def PictureParameter.headerReadBack (pic : PictureParameter) : JpegGrammar.FrameHeader :=
  ⟨8, pic.pictureHeight.toNat, pic.pictureWidth.toNat,
    (List.range pic.numComponents.toNat).map fun i => (pic.components i).readBack⟩

theorem add_sof0 (pic : PictureParameter) (hframe : image.frame = none) :
    image.add (sof0 pic) = some { image with frame := some pic.headerReadBack } := by
  have hcomponents := readFrameComponents_bytes pic (List.range pic.numComponents.toNat)
  rw [List.length_range] at hcomponents
  have hread : readFrameHeader (sof0 pic).payload = some pic.headerReadBack := by
    have hheight := bytes_value pic.pictureHeight.toNat_lt
    have hwidth := bytes_value pic.pictureWidth.toNat_lt
    show readFrameHeader ([8] ++ be16 pic.pictureHeight ++ be16 pic.pictureWidth ++
      [pic.numComponents] ++ _) = _
    rw [be16_value, be16_value]
    show (readFrameComponents pic.numComponents.toNat
      ((List.range pic.numComponents.toNat).flatMap fun i => (pic.components i).bytes)).map _ = _
    rw [hcomponents, hheight, hwidth]
    rfl
  show (if image.frame.isSome then none else
    (readFrameHeader (sof0 pic).payload).map _) = _
  rw [hframe, hread]
  rfl

theorem add_dht {bits vals : List UInt8} (tableClass tableId : Nat)
    (hbits : bits.length = 16) (hvals : codeCount bits ≤ vals.length) (hclass : tableClass < 16)
    (hid : tableId < 16) :
    image.add (dht bits vals tableClass tableId (codeCount bits)) = some { image with
      huffmanTables := image.huffmanTables ++
        [describedTable (UInt8.ofNat tableClass) (UInt8.ofNat tableId) bits vals] } := by
  have hbyte : (UInt8.ofNat (16 * tableClass + tableId)).toNat = 16 * tableClass + tableId := by
    rw [UInt8.toNat_ofNat']
    omega
  have hhigh : high (UInt8.ofNat (16 * tableClass + tableId)) = UInt8.ofNat tableClass := by
    apply UInt8.toNat_inj.mp
    show (UInt8.ofNat (16 * tableClass + tableId)).toNat / 16 = _
    rw [hbyte, UInt8.toNat_ofNat']
    omega
  have hlow : low (UInt8.ofNat (16 * tableClass + tableId)) = UInt8.ofNat tableId := by
    apply UInt8.toNat_inj.mp
    show (UInt8.ofNat (16 * tableClass + tableId)).toNat % 16 = _
    rw [hbyte, UInt8.toNat_ofNat']
    omega
  have hlength : (vals.take (codeCount bits)).length = codeCount bits := by
    rw [List.length_take, Nat.min_eq_left hvals]
  have hread : readHuffmanTables
      (dht bits vals tableClass tableId (codeCount bits)).payload.length
      (dht bits vals tableClass tableId (codeCount bits)).payload =
      some [describedTable (UInt8.ofNat tableClass) (UInt8.ofNat tableId) bits vals] := by
    show readHuffmanTables ((bits ++ vals.take (codeCount bits)).length + 1)
      (UInt8.ofNat (16 * tableClass + tableId) :: (bits ++ vals.take (codeCount bits))) = _
    have htake : (bits ++ vals.take (codeCount bits)).take 16 = bits := by
      rw [← hbits, List.take_left]
    have hdrop : (bits ++ vals.take (codeCount bits)).drop 16 = vals.take (codeCount bits) := by
      rw [← hbits, List.drop_left]
    unfold readHuffmanTables
    simp only
    rw [htake, hdrop, hhigh, hlow, hlength, hbits, List.drop_of_length_le (Nat.le_of_eq hlength),
      List.take_of_length_le (Nat.le_of_eq hlength), if_neg (by simp)]
    cases (bits ++ vals.take (codeCount bits)).length with
    | zero => rfl
    | succ n => rfl
  show (readHuffmanTables (dht bits vals tableClass tableId (codeCount bits)).payload.length
    (dht bits vals tableClass tableId (codeCount bits)).payload).map _ = _
  rw [hread]
  rfl

theorem add_dri (restartInterval : UInt16) :
    image.add (dri restartInterval) =
      some { image with restartInterval := restartInterval.toNat } := by
  have hvalue := bytes_value restartInterval.toNat_lt
  rw [dri, be16_value]
  show some { image with restartInterval := _ } = _
  rw [hvalue]

theorem add_sos {slice : SliceParameter} (htwo : slice.TwoTables) (entropy : List UInt8)
    (image : Image) (hframe : image.frame.isSome = true) :
    image.add (sos slice entropy) = some { image with
      scans := image.scans ++ [⟨slice.header.map ScanComponent.described, [0, 63, 0],
        image.restartInterval, entropy⟩] } := by
  have hcomponents := readScanComponents_bytes slice [0, 63, 0] htwo
  rw [List.length_range] at hcomponents
  have hread : readScan image.restartInterval entropy (sos slice entropy).payload =
      some ⟨slice.header.map ScanComponent.described, [0, 63, 0], image.restartInterval,
        entropy⟩ := by
    show readScan image.restartInterval entropy ([slice.numComponents] ++ _ ++ [0, 63, 0]) = _
    rw [List.append_assoc]
    unfold readScan
    simp only [List.cons_append, List.nil_append]
    rw [hcomponents]
    rfl
  show (if image.frame.isNone then none else
    (readScan image.restartInterval entropy (sos slice entropy).payload).map _) = _
  rw [hread]
  cases hsome : image.frame with
  | none =>
      rw [hsome] at hframe
      cases hframe
  | some frame => rfl

end Reading

/-! ## Reading the tables -/

/-- Reading some segments adds some Huffman tables. -/
def AddsTables (segments : List Segment) (tables : List JpegGrammar.HuffmanTable) : Prop :=
  ∀ image : Image, segments.foldlM Image.add image =
    some { image with huffmanTables := image.huffmanTables ++ tables }

namespace AddsTables

theorem nil : AddsTables [] [] := by
  intro image
  show some image = _
  rw [List.append_nil]

theorem single {bits vals : List UInt8} (tableClass tableId : Nat) (hbits : bits.length = 16)
    (hvals : codeCount bits ≤ vals.length) (hclass : tableClass < 16) (hid : tableId < 16) :
    AddsTables [dht bits vals tableClass tableId (codeCount bits)]
      [describedTable (UInt8.ofNat tableClass) (UInt8.ofNat tableId) bits vals] := by
  intro image
  rw [List.foldlM_cons, add_dht tableClass tableId hbits hvals hclass hid]
  rfl

theorem append {segments segments' : List Segment} {tables tables' : List JpegGrammar.HuffmanTable}
    (h : AddsTables segments tables) (h' : AddsTables segments' tables') :
    AddsTables (segments ++ segments') (tables ++ tables') := by
  intro image
  rw [List.foldlM_append, h image]
  show segments'.foldlM Image.add _ = _
  rw [h', List.append_assoc]

theorem flatMap {segments : Nat → List Segment} {tables : Nat → List JpegGrammar.HuffmanTable}
    {numbers : List Nat} (h : ∀ t ∈ numbers, AddsTables (segments t) (tables t)) :
    AddsTables (numbers.flatMap segments) (numbers.flatMap tables) := by
  induction numbers with
  | nil => exact nil
  | cons t numbers ih =>
      rw [List.flatMap_cons, List.flatMap_cons]
      exact (h t List.mem_cons_self).append fun image =>
        ih (fun t' hmem => h t' (List.mem_cons_of_mem _ hmem)) image

/-- A table of the application, where it is required. -/
theorem vaTable {codes vals : List UInt8} {maxVals tableClass t : Nat} {required valid : UInt8}
    {uses : Bool} (huses : hasTable required t = uses) (hcodes : codes.length = 16)
    (hvals : vals.length = maxVals) (hclass : tableClass < 16) (ht : t < 16)
    (husable : (!uses || usable codes maxVals t valid) = true) :
    AddsTables (vaTable codes vals tableClass t required)
      (if uses then [describedTable (UInt8.ofNat tableClass) (UInt8.ofNat t) codes vals]
      else []) := by
  unfold Jpeg.vaTable
  rw [huses]
  cases uses with
  | false => exact nil
  | true =>
      have hcount : codeCount codes ≤ maxVals := by
        simp only [Bool.not_true, Bool.false_or, usable, Bool.and_eq_true,
          decide_eq_true_eq] at husable
        exact husable.2
      exact single tableClass t hcodes (by omega) hclass ht

end AddsTables

set_option maxRecDepth 2000 in
theorem codeCount_standard : codeCount dcLuminanceBits = 12 ∧ codeCount dcChrominanceBits = 12 ∧
    codeCount acLuminanceBits = 162 ∧ codeCount acChrominanceBits = 162 := by
  decide

theorem standardTables_adds : AddsTables standardTables standardHuffmanTables := by
  obtain ⟨hdcLum, hdcChrom, hacLum, hacChrom⟩ := codeCount_standard
  obtain ⟨hlum, hchrom⟩ := length_acVals
  have hall := (((AddsTables.single 0 0 (rfl : dcLuminanceBits.length = 16)
    (by rw [hdcLum]; exact Nat.le_refl 12 : codeCount dcLuminanceBits ≤ dcLuminanceVals.length)
    (by decide) (by decide)).append
    (AddsTables.single 0 1 (rfl : dcChrominanceBits.length = 16)
      (by rw [hdcChrom]; exact Nat.le_refl 12 :
        codeCount dcChrominanceBits ≤ dcChrominanceVals.length) (by decide) (by decide))).append
    (AddsTables.single 1 0 (rfl : acLuminanceBits.length = 16)
      (by rw [hacLum, hlum] : codeCount acLuminanceBits ≤ acLuminanceVals.length)
      (by decide) (by decide))).append
    (AddsTables.single 1 1 (rfl : acChrominanceBits.length = 16)
      (by rw [hacChrom, hchrom] : codeCount acChrominanceBits ≤ acChrominanceVals.length)
      (by decide) (by decide))
  unfold describedTable at hall
  rw [hdcLum, hdcChrom, hacLum, hacChrom, List.take_of_length_le (Nat.le_of_eq hlum),
    List.take_of_length_le (Nat.le_of_eq hchrom)] at hall
  exact hall

/-- The Huffman tables of a frame are read back. -/
theorem huffmanSegments_adds (jpegCtx : JPEGContext) {required : HuffmanMasks}
    {slices : List SliceParameter} (hdc : ∀ t, hasTable required.dc t = usesDc slices t)
    (hac : ∀ t, hasTable required.ac t = usesAc slices t) :
    AddsTables (huffmanSegments jpegCtx required)
      (if jpegCtx.loaded slices then jpegCtx.loadedTables slices else standardHuffmanTables) := by
  have hloaded : (jpegCtx.hasHuffmanTable && allUsable jpegCtx.huffmanTable required
      ⟨jpegCtx.validHuffmanDcMask, jpegCtx.validHuffmanAcMask⟩ [0, 1]) =
      jpegCtx.loaded slices := by
    simp only [allUsable, hdc, hac]
    rfl
  unfold huffmanSegments
  rw [hloaded]
  cases hall : jpegCtx.loaded slices with
  | false => exact standardTables_adds
  | true =>
      unfold JPEGContext.loaded at hall
      rw [Bool.and_eq_true, List.all_eq_true] at hall
      rw [if_pos rfl, if_pos rfl]
      refine AddsTables.flatMap fun t ht => ?_
      have ht16 : t < 16 := by
        rcases List.mem_cons.mp ht with rfl | hmem
        · decide
        · rw [List.mem_singleton.mp hmem]
          decide
      have husable := hall.2 t ht
      rw [Bool.and_eq_true] at husable
      exact (AddsTables.vaTable (hdc t) Vector.length_toList Vector.length_toList (by decide) ht16
        husable.1).append (AddsTables.vaTable (hac t) Vector.length_toList Vector.length_toList
        (by decide) ht16 husable.2)

theorem foldlM_dqt (iqMatrix : Nat → Vector UInt8 64) {tables : List Nat}
    (htables : ∀ table ∈ tables, table < 16) (image : Image) :
    (tables.map (dqt iqMatrix)).foldlM Image.add image = some { image with
      quantTables := image.quantTables ++
        tables.map fun table => ⟨UInt8.ofNat table, (iqMatrix table).toList⟩ } := by
  induction tables generalizing image with
  | nil =>
      show some image = _
      rw [List.map_nil, List.append_nil]
  | cons table tables ih =>
      rw [List.map_cons, List.foldlM_cons, add_dqt iqMatrix (htables table List.mem_cons_self)]
      show (tables.map (dqt iqMatrix)).foldlM Image.add _ = _
      rw [ih fun table' hmem => htables table' (List.mem_cons_of_mem _ hmem), List.map_cons,
        List.append_assoc]
      rfl

/-- The segments before the scans and their intervals. -/
def headSegments (jpegCtx : JPEGContext) (required : HuffmanMasks) : List Segment :=
  app0 :: (([0, 1, 2, 3].filter jpegCtx.picParams.usesTable).map (dqt jpegCtx.iqMatrix) ++
    (sof0 jpegCtx.picParams :: huffmanSegments jpegCtx required))

/-- What is read before the scans. -/
def headImage (jpegCtx : JPEGContext) (slices : List SliceParameter) : Image where
  quantTables := jpegCtx.quantTables
  frame := some jpegCtx.picParams.headerReadBack
  huffmanTables :=
    if jpegCtx.loaded slices then jpegCtx.loadedTables slices else standardHuffmanTables

theorem foldlM_headSegments (jpegCtx : JPEGContext) {required : HuffmanMasks}
    {slices : List SliceParameter} (hdc : ∀ t, hasTable required.dc t = usesDc slices t)
    (hac : ∀ t, hasTable required.ac t = usesAc slices t) :
    (headSegments jpegCtx required).foldlM Image.add {} = some (headImage jpegCtx slices) := by
  have hsmall : ∀ table ∈ [0, 1, 2, 3].filter jpegCtx.picParams.usesTable, table < 16 := by
    intro table htable
    exact (by decide : ∀ table ∈ [0, 1, 2, 3], table < 16) table (List.mem_of_mem_filter htable)
  rw [headSegments, List.foldlM_cons, add_app0]
  show List.foldlM Image.add {} _ = _
  rw [List.foldlM_append, foldlM_dqt jpegCtx.iqMatrix hsmall]
  show List.foldlM Image.add _ (sof0 jpegCtx.picParams :: _) = _
  rw [List.foldlM_cons, add_sof0 jpegCtx.picParams rfl]
  show List.foldlM Image.add _ (huffmanSegments jpegCtx required) = _
  rw [huffmanSegments_adds jpegCtx hdc hac]
  rfl

/-! ## Reading the scans -/

/-- The interval in force at a slice with a header of its own. -/
def inForce (shared : Bool) (interval : Nat) (slice : SliceParameter) : Nat :=
  if shared || slice.restartInterval == 0 then interval else slice.restartInterval.toNat

/-- The scan of a slice with a header of its own. -/
def ownScan (sliceData : List UInt8) (interval : Nat) (slice : SliceParameter) : Scan :=
  ⟨slice.header.map ScanComponent.described, [0, 63, 0], interval,
    entropyOf (slice.data sliceData)⟩

/-- The scans of some slices behind an interval. -/
def ownScans (shared : Bool) (sliceData : List UInt8) : Nat → List SliceParameter → List Scan
  | _, [] => []
  | interval, slice :: slices =>
    ownScan sliceData (inForce shared interval slice) slice ::
      ownScans shared sliceData (inForce shared interval slice) slices

/-- The interval that all slices share, or none. -/
def sharedValue (slice0 : SliceParameter) (slices : List SliceParameter) : Nat :=
  if allSameRestartInterval slice0 slices then slice0.restartInterval.toNat else 0

/-- The scans that are read. -/
def readScans (slice0 : SliceParameter) (slices : List SliceParameter) (sliceData : List UInt8) :
    List Scan :=
  if allSameSOSHeader slice0 slices then
    [⟨slice0.header.map ScanComponent.described, [0, 63, 0], sharedValue slice0 slices,
      entropies sliceData slices⟩]
  else ownScans (allSameRestartInterval slice0 slices) sliceData (sharedValue slice0 slices) slices

theorem foldlM_dris (restartInterval : UInt16) (image : Image) :
    (dris restartInterval).foldlM Image.add image = some { image with
      restartInterval :=
        if restartInterval = 0 then image.restartInterval else restartInterval.toNat } := by
  unfold dris
  by_cases hzero : restartInterval = 0
  · rw [if_neg (not_not_intro hzero), if_pos hzero]
    rfl
  · rw [if_pos hzero, if_neg hzero, List.foldlM_cons, add_dri]
    rfl

theorem foldlM_sharedInterval (slice0 : SliceParameter) (slices : List SliceParameter)
    {image : Image} (hnone : image.restartInterval = 0) :
    (sharedInterval slice0 slices).foldlM Image.add image =
      some { image with restartInterval := sharedValue slice0 slices } := by
  unfold sharedInterval sharedValue
  split
  · rw [foldlM_dris]
    by_cases hzero : slice0.restartInterval = 0
    · rw [if_pos hzero, hnone, hzero]
      rfl
    · rw [if_neg hzero]
  · show some image = _
    rw [← hnone]

theorem foldlM_sliceSegments (shared : Bool) {sliceData : List UInt8} {slice : SliceParameter}
    (htwo : slice.TwoTables) (image : Image) (hframe : image.frame.isSome = true) :
    (sliceSegments shared sliceData slice).foldlM Image.add image = some { image with
      restartInterval := inForce shared image.restartInterval slice
      scans := image.scans ++
        [ownScan sliceData (inForce shared image.restartInterval slice) slice] } := by
  have hinterval : (if shared then [] else dris slice.restartInterval).foldlM Image.add image =
      some { image with restartInterval := inForce shared image.restartInterval slice } := by
    unfold inForce
    cases shared with
    | true => rfl
    | false =>
        show (dris slice.restartInterval).foldlM Image.add image = _
        rw [foldlM_dris, Bool.false_or]
        by_cases hzero : slice.restartInterval = 0
        · rw [if_pos hzero, if_pos (beq_iff_eq.mpr hzero)]
        · rw [if_neg hzero, if_neg fun h => hzero (beq_iff_eq.mp h)]
  rw [sliceSegments, List.foldlM_append, hinterval]
  have hsos := add_sos htwo (entropyOf (slice.data sliceData))
    { image with restartInterval := inForce shared image.restartInterval slice } hframe
  show List.foldlM Image.add _ [sos slice _] = _
  rw [List.foldlM_cons, hsos]
  rfl

theorem foldlM_ownScans (shared : Bool) {sliceData : List UInt8} {slices : List SliceParameter}
    (htwo : ∀ slice ∈ slices, slice.TwoTables) (image : Image)
    (hframe : image.frame.isSome = true) :
    ∃ interval, (slices.flatMap (sliceSegments shared sliceData)).foldlM Image.add image =
      some { image with
        restartInterval := interval
        scans := image.scans ++ ownScans shared sliceData image.restartInterval slices } := by
  induction slices generalizing image with
  | nil =>
      refine ⟨image.restartInterval, ?_⟩
      show some image = _
      rw [ownScans, List.append_nil]
  | cons slice slices ih =>
      rw [List.flatMap_cons, List.foldlM_append,
        foldlM_sliceSegments shared (htwo slice List.mem_cons_self) image hframe]
      obtain ⟨interval, hrest⟩ := ih (fun s hmem => htwo s (List.mem_cons_of_mem _ hmem))
        { image with
          restartInterval := inForce shared image.restartInterval slice
          scans := image.scans ++
            [ownScan sliceData (inForce shared image.restartInterval slice) slice] } hframe
      refine ⟨interval, ?_⟩
      show List.foldlM Image.add _ (slices.flatMap (sliceSegments shared sliceData)) = _
      rw [hrest, ownScans, List.append_assoc]
      rfl

/-- The image that is read from a stream with nothing behind its end. -/
theorem foldlM_segments (jpegCtx : JPEGContext) {required : HuffmanMasks}
    {slice0 : SliceParameter} {slices : List SliceParameter} (sliceData : List UInt8)
    (hmem : slice0 ∈ slices) (htwo : ∀ slice ∈ slices, slice.TwoTables)
    (hdc : ∀ t, hasTable required.dc t = usesDc slices t)
    (hac : ∀ t, hasTable required.ac t = usesAc slices t) :
    ∃ interval, (headSegments jpegCtx required ++ sharedInterval slice0 slices ++
        scanSegments slice0 slices sliceData).foldlM Image.add {} =
      some { headImage jpegCtx slices with
        restartInterval := interval
        scans := readScans slice0 slices sliceData } := by
  rw [List.foldlM_append, List.foldlM_append, foldlM_headSegments jpegCtx hdc hac]
  show ∃ interval, ((sharedInterval slice0 slices).foldlM Image.add
    (headImage jpegCtx slices)).bind _ = _
  rw [foldlM_sharedInterval slice0 slices rfl]
  show ∃ interval, (scanSegments slice0 slices sliceData).foldlM Image.add _ = _
  unfold scanSegments readScans
  split
  · refine ⟨sharedValue slice0 slices, ?_⟩
    rw [List.foldlM_cons, add_sos (htwo slice0 hmem) _ _ rfl]
    rfl
  · exact foldlM_ownScans (allSameRestartInterval slice0 slices) htwo
      { headImage jpegCtx slices with restartInterval := sharedValue slice0 slices } rfl

end Jpeg
end NvidiaVaapi
