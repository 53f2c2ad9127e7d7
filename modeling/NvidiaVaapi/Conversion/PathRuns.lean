import NvidiaVaapi.Conversion.Threads

/-!
# Runs of the paths

What copies, launches and the loop of the CPU leave in memory, in every order of the threads, and
also when a part of the work is done only.
-/

namespace NvidiaVaapi
namespace Conversion

open Overwrites Ptx Request

/-! ## Rows in memory -/

section Rows

variable {Cell : Type}

/-- Different bytes of `height` rows of `width` bytes have different cells. -/
def Injects (target : Nat → Nat → Cell) (width height : Nat) : Prop :=
  ∀ y < height, ∀ j < width, ∀ y' < height, ∀ j' < width,
    target y j = target y' j' → y = y' ∧ j = j'

/-- A cell of `height` rows of `width` bytes. -/
def Covers (target : Nat → Nat → Cell) (width height : Nat) (c : Cell) : Prop :=
  ∃ y < height, ∃ j < width, c = target y j

theorem pitched_injective {pitch y y' j j' : Nat} (hj : j < pitch) (hj' : j' < pitch)
    (h : y * pitch + j = y' * pitch + j') : y = y' ∧ j = j' := by
  have hrow : ∀ a b : Nat, b < pitch → (a * pitch + b) / pitch = a := by
    intro a b hb
    rw [Nat.mul_comm, Nat.mul_add_div (Nat.zero_lt_of_lt hb), Nat.div_eq_of_lt hb, Nat.add_zero]
  have hy : y = y' := by
    rw [← hrow y j hj, ← hrow y' j' hj', h]
  subst hy
  exact ⟨rfl, Nat.add_left_cancel h⟩

theorem pitched_lt {pitch width height y j : Nat} (hy : y < height) (hj : j < width) :
    y * pitch + j < (height - 1) * pitch + width := by
  have hle : y * pitch ≤ (height - 1) * pitch := Nat.mul_le_mul_right pitch (by omega)
  omega

/-- Rows that are numbered by their bytes. -/
theorem injects_of_index {index : Nat → Cell} (hindex : ∀ a b, index a = index b → a = b)
    {pitch width height : Nat} (hpitch : width ≤ pitch) :
    Injects (fun y j => index (y * pitch + j)) width height :=
  fun _ _ _ hj _ _ _ hj' h =>
    pitched_injective (Nat.lt_of_lt_of_le hj hpitch) (Nat.lt_of_lt_of_le hj' hpitch) (hindex _ _ h)

theorem surface_injects (handle : BitVec 64) (width height : Nat) :
    Injects (Ptx.Cell.surface handle) width height := by
  intro y _ j _ y' _ j' _ h
  obtain ⟨-, hy, hj⟩ := Ptx.Cell.surface.inj h
  exact ⟨hy, hj⟩

end Rows

/-- Rows in an allocation. -/
theorem allocation_injects {allocation : Allocation} (hvalid : allocation.Valid)
    {pitch width height : Nat} (hpitch : width ≤ pitch)
    (hsize : ∀ y < height, y * pitch + width ≤ allocation.size) :
    Injects (globalCell allocation.base pitch) width height := by
  intro y hy j hj y' hy' j' hj' h
  have hin := hsize y hy
  have hin' := hsize y' hy'
  have hindex := hvalid.offset_injective (by omega) (by omega) (Ptx.Cell.global.inj h)
  exact pitched_injective (by omega) (by omega) hindex

/-! ## Copies -/

section Copies

variable {Cell : Type} [DecidableEq Cell] (source : Plane) {target : Nat → Nat → Cell}
  {width height : Nat} {work : List (Nat × Nat)}

theorem mem_bytesOf {place : Nat × Nat} :
    place ∈ bytesOf width height ↔ place.1 < height ∧ place.2 < width := by
  unfold bytesOf
  simp only [List.mem_flatMap, List.mem_map, List.mem_range]
  constructor
  · rintro ⟨y, hy, j, hj, rfl⟩
    exact ⟨hy, hj⟩
  · rintro ⟨hy, hj⟩
    exact ⟨place.1, hy, place.2, hj, rfl⟩

/-- A copy, whole or not, stays in its rows. -/
theorem copy2D_other (hwork : work ⊆ bytesOf width height) (contents : Cell → BitVec 8) {c : Cell}
    (hc : ¬Covers target width height c) : copy2D source target work contents c = contents c := by
  apply overwriteAll_of_none
  intro place hplace
  obtain ⟨hy, hj⟩ := mem_bytesOf.mp (hwork hplace)
  exact if_neg fun hcell => hc ⟨place.1, hy, place.2, hj, hcell⟩

/-- A copy of everything. -/
theorem copy2D_all (hinjects : Injects target width height)
    (hwork : work.Perm (bytesOf width height)) (contents : Cell → BitVec 8) {y j : Nat}
    (hy : y < height) (hj : j < width) :
    copy2D source target work contents (target y j) = source y j := by
  have hplace : ∀ place ∈ work, place.1 < height ∧ place.2 < width :=
    fun place h => mem_bytesOf.mp (hwork.subset h)
  apply overwriteAll_of_some
  · intro place hmem
    by_cases hcell : target y j = target place.1 place.2
    · obtain ⟨hrow, hbyte⟩ :=
        hinjects y hy j hj _ (hplace place hmem).1 _ (hplace place hmem).2 hcell
      right
      rw [if_pos hcell, ← hrow, ← hbyte]
    · exact .inl (if_neg hcell)
  · exact ⟨(y, j), hwork.mem_iff.mpr (mem_bytesOf.mpr ⟨hy, hj⟩), if_pos rfl⟩

end Copies

/-! ## Pixels of a buffer -/

theorem sampleAt_row (is16Bit : Bool) (buffer plane : Nat → BitVec 8) {width i : Nat} (y : Nat)
    (hrow : ∀ j < width * (if is16Bit then 2 else 1),
      buffer (y * (width * (if is16Bit then 2 else 1)) + j) = plane j) (hi : i < width) :
    sampleAt is16Bit buffer (y * width + i) = sampleAt is16Bit plane i := by
  unfold sampleAt
  cases is16Bit with
  | true =>
    have hindex : 2 * (y * width + i) = y * (width * 2) + 2 * i := by
      rw [Nat.mul_add, Nat.mul_comm 2 (y * width), Nat.mul_assoc]
    have hlow := hrow (2 * i) (by simp only [if_true]; omega)
    have hhigh := hrow (2 * i + 1) (by simp only [if_true]; omega)
    simp only [if_true] at hlow hhigh ⊢
    rw [hindex, Nat.add_assoc, hlow, hhigh]
  | false =>
    have hbyte := hrow i (by simpa using hi)
    simp only [Bool.false_eq_true, if_false, Nat.mul_one] at hbyte ⊢
    rw [hbyte]

/-- A sample is made of its own bytes. -/
theorem sampleAt_congr {is16Bit : Bool} {buffer buffer' : Nat → BitVec 8} {size i : Nat}
    (hsame : ∀ j < size * (if is16Bit then 2 else 1), buffer j = buffer' j) (hi : i < size) :
    sampleAt is16Bit buffer i = sampleAt is16Bit buffer' i := by
  have hrow := sampleAt_row is16Bit buffer buffer' 0 (by
    intro j hj
    rw [Nat.zero_mul, Nat.zero_add]
    exact hsame j hj) hi
  rw [Nat.zero_mul, Nat.zero_add] at hrow
  exact hrow

namespace Request

variable (request : Request)

/-- The samples of chrominance that the loop reads: an odd width needs one behind the last row. -/
def uvSamples : Nat := request.uvHeight * request.width + request.width % 2

/-- Where the loop reads the chrominance of a pixel. -/
theorem uvIndex_lt {y x : Nat} (hy : y < request.height) (hx : x < request.width) :
    y / 2 * request.width + (x - x % 2) + 1 < request.uvSamples := by
  have hrow : y / 2 + 1 ≤ request.uvHeight := by
    unfold uvHeight
    omega
  have hrows : (y / 2 + 1) * request.width ≤ request.uvHeight * request.width :=
    Nat.mul_le_mul_right _ hrow
  rw [Nat.succ_mul] at hrows
  unfold uvSamples
  omega

theorem yIndex_lt {y x : Nat} (hy : y < request.height) (hx : x < request.width) :
    y * request.width + x < request.height * request.width := by
  have hrows : (y + 1) * request.width ≤ request.height * request.width :=
    Nat.mul_le_mul_right _ hy
  rw [Nat.succ_mul] at hrows
  omega

/-- A pixel depends on the samples that the loop reads. -/
theorem cpuPixel_congr {luma luma' chroma chroma' : Nat → BitVec 8}
    (hluma : ∀ j < request.height * request.width * request.bpp, luma j = luma' j)
    (hchroma : ∀ j < request.uvSamples * request.bpp, chroma j = chroma' j) {y x : Nat}
    (hy : y < request.height) (hx : x < request.width) :
    cpuPixel request luma chroma y x = cpuPixel request luma' chroma' y x := by
  have huv := request.uvIndex_lt hy hx
  unfold cpuPixel
  simp only
  rw [sampleAt_congr hluma (request.yIndex_lt hy hx), sampleAt_congr hchroma huv,
    sampleAt_congr hchroma (Nat.lt_trans (Nat.lt_succ_self _) huv)]

/-- The pixels that the copies of the planes determine: behind an odd row of chrominance follows the
next one, behind the last nothing. -/
def Determined (y x : Nat) : Prop :=
  x < request.width ∧ (x - x % 2 + 1 < request.width ∨ y / 2 + 1 < request.uvHeight)

/-- The pixel that is made from copies of the planes. -/
def copiedBytes (y x : Nat) : List (BitVec 8) :=
  let info := request.sampleInfo
  let is16Bit := request.source.is16Bit
  let yy := sampleAt is16Bit (request.source.luma y) x >>> info.sampleShift
  let u := sampleAt is16Bit (request.source.chroma (y / 2)) (x - x % 2) >>> info.sampleShift
  let v := if x - x % 2 + 1 < request.width then
      sampleAt is16Bit (request.source.chroma (y / 2)) (x - x % 2 + 1) >>> info.sampleShift
    else sampleAt is16Bit (request.source.chroma (y / 2 + 1)) 0 >>> info.sampleShift
  writeRgbPixel request.fourcc (convertPixel request.matrix info yy u v)

/-- With its pair of columns in the picture, it is the pixel of the source. -/
theorem copiedBytes_eq_picture {y x : Nat} (hx : x - x % 2 + 1 < request.width) :
    request.copiedBytes y x = pictureBytes request y x := by
  unfold copiedBytes pictureBytes
  simp only
  rw [if_pos hx]

theorem cpuPixel_eq_copied (hselected : request.Selected) {luma chroma : Nat → BitVec 8}
    (hluma : ∀ y < request.height, ∀ j < request.width * request.bpp,
      luma (y * (request.width * request.bpp) + j) = request.source.luma y j)
    (hchroma : ∀ y < request.uvHeight, ∀ j < request.width * request.bpp,
      chroma (y * (request.width * request.bpp) + j) = request.source.chroma y j) {y x : Nat}
    (hy : y < request.height) (hx : request.Determined y x) :
    cpuPixel request luma chroma y x = request.copiedBytes y x := by
  obtain ⟨hx, hpair⟩ := hx
  have hrow : y / 2 < request.uvHeight := by
    unfold uvHeight
    omega
  have hshifted : ∀ n : Nat, (if request.source.is16Bit then n >>> request.sampleInfo.sampleShift
      else n) = n >>> request.sampleInfo.sampleShift := by
    intro n
    split
    · rfl
    · rename_i h8Bit
      rw [hselected.unshifted (Bool.eq_false_iff.mpr h8Bit)]
      rfl
  have hv : sampleAt request.source.is16Bit chroma
      (y / 2 * request.width + (x - x % 2) + 1) =
      if x - x % 2 + 1 < request.width then
        sampleAt request.source.is16Bit (request.source.chroma (y / 2)) (x - x % 2 + 1)
      else sampleAt request.source.is16Bit (request.source.chroma (y / 2 + 1)) 0 := by
    by_cases hinside : x - x % 2 + 1 < request.width
    · rw [if_pos hinside, Nat.add_assoc]
      exact sampleAt_row _ chroma _ _ (hchroma (y / 2) hrow) hinside
    · have hnext : y / 2 * request.width + (x - x % 2) + 1 = (y / 2 + 1) * request.width + 0 := by
        rw [Nat.succ_mul]
        omega
      rw [if_neg hinside, hnext]
      exact sampleAt_row _ chroma _ _ (hchroma (y / 2 + 1) (hpair.resolve_left hinside)) (by omega)
  unfold cpuPixel copiedBytes
  simp only
  rw [sampleAt_row _ luma _ y (hluma y hy) hx,
    sampleAt_row _ chroma _ _ (hchroma (y / 2) hrow) (by omega), hv, hshifted, hshifted, hshifted,
    apply_ite (· >>> request.sampleInfo.sampleShift)]

end Request

/-! ## Launches -/

section Allocations

variable (request : Request) (objects : DeviceObjects)

def Request.yAllocation : Allocation :=
  ⟨objects.yBuffer, request.height * request.width * request.bpp⟩

def Request.uvAllocation : Allocation := ⟨objects.uvBuffer, request.uvSamples * request.bpp⟩

/-- The rows that a launch over copies stores. -/
def Request.targetAllocation : Allocation :=
  ⟨(request.stagedTarget objects).1,
    (request.height - 1) * (request.stagedTarget objects).2 + 4 * request.width⟩

/-- What a request relies on: a picture inside of the source, rows of the destination that do not
overlap, and buffers that were allocated one by one. -/
structure Request.Placed : Prop where
  width : request.width ≤ request.source.width
  height : request.height ≤ request.source.height
  textures : objects.uvTexture ≠ objects.yTexture
  stride : ∀ address stride, request.destination = .externalDevice address stride →
    4 * request.width ≤ stride ∧ stride < 2 ^ 32
  hostStride : ∀ stride, request.destination = .externalHost stride → 4 * request.width ≤ stride
  y : (request.yAllocation objects).Valid
  uv : (request.uvAllocation objects).Valid
  target : (request.targetAllocation objects).Valid
  y_uv : (request.yAllocation objects).Apart (request.uvAllocation objects)
  y_target : (request.yAllocation objects).Apart (request.targetAllocation objects)
  uv_target : (request.uvAllocation objects).Apart (request.targetAllocation objects)

end Allocations

section Launches

variable {request : Request} {objects : DeviceObjects}

/-- Threads that store pixels: what they leave, whichever of them ran, and what all of them do. -/
theorem overwriteAll_threads {store : Nat → Nat → Access} {target : Nat → Nat → Cell}
    {bytes : Nat → Nat → List (BitVec 8)} {places : List Place}
    (hinjects : Injects target (4 * request.width) request.height)
    (hstore : Stores request store target bytes) (contents : Contents) :
    (∀ c, ¬Covers target (4 * request.width) request.height c →
      overwriteAll (threadWrites request store) places contents c = contents c) ∧
      (request.grid.places ⊆ places → ∀ y < request.height, ∀ x < request.width, ∀ i < 4,
        overwriteAll (threadWrites request store) places contents (target y (4 * x + i)) =
          (bytes y x).getD i 0) := by
  have hsize : ∀ (place : Place) (i : Nat), i < (if InPicture request place then 4 else 0) →
      InPicture request place ∧ i < 4 := by
    intro place i hi
    split at hi
    · rename_i hpicture
      exact ⟨hpicture, hi⟩
    · exact absurd hi (Nat.not_lt_zero i)
  obtain ⟨hwritten, hother⟩ := overwriteAll_cells (threadWrites request store) places
    (fun place => if InPicture request place then 4 else 0)
    (fun place i => target (request.grid.row place) (4 * request.grid.column place + i))
    (fun place i => (bytes (request.grid.row place) (request.grid.column place)).getD i 0)
    (fun place _ c v => threadWrites_iff hstore place c v)
    (by
      intro place _ i hi place' _ i' hi' hcell
      obtain ⟨⟨hx, hy⟩, hi⟩ := hsize place i hi
      obtain ⟨⟨hx', hy'⟩, hi'⟩ := hsize place' i' hi'
      obtain ⟨hrow, hbyte⟩ := hinjects _ hy _ (by omega) _ hy' _ (by omega) hcell
      have hcolumn : request.grid.column place = request.grid.column place' := by omega
      have hi : i = i' := by omega
      show (bytes _ _).getD i 0 = (bytes _ _).getD i' 0
      rw [hrow, hcolumn, hi])
    contents
  constructor
  · intro c hc
    apply hother
    intro place _ i hi hcell
    obtain ⟨⟨hx, hy⟩, hi⟩ := hsize place i hi
    exact hc ⟨_, hy, _, by omega, hcell⟩
  · intro hall y hy x hx i hi
    obtain ⟨place, hplace, rfl, rfl⟩ := exists_thread hx hy
    apply hwritten place (hall hplace) i
    rw [if_pos ⟨hx, hy⟩]
    exact hi

/-- The buffers that the kernels over copies load from. -/
def Loaded (request : Request) (objects : DeviceObjects) (c : Cell) : Prop :=
  (∃ i < (request.yAllocation objects).size, c = .global (objects.yBuffer + BitVec.ofNat 64 i)) ∨
    ∃ i < (request.uvAllocation objects).size, c = .global (objects.uvBuffer + BitVec.ofNat 64 i)

/-- A row of the staged destination is not in these buffers. -/
theorem Request.Placed.loaded_apart (hplaced : request.Placed objects) {c : Cell}
    (hloaded : Loaded request objects c) :
    ¬Covers (stagedRow request objects) (4 * request.width) request.height c := by
  rintro ⟨y, hy, j, hj, htarget⟩
  have hin : y * (request.stagedTarget objects).2 + j < (request.targetAllocation objects).size :=
    pitched_lt hy hj
  rcases hloaded with ⟨i, hi, rfl⟩ | ⟨i, hi, rfl⟩
  · exact hplaced.y_target.ne hplaced.y hplaced.target hi hin (Cell.global.inj htarget)
  · exact hplaced.uv_target.ne hplaced.uv hplaced.target hi hin (Cell.global.inj htarget)

theorem staged_runThread (hselected : request.Selected) {place : Place}
    (hplace : place ∈ request.grid.places) (contents : Contents) :
    (stagedLaunch request objects).runThread request.stagedKernel contents place =
      some (overwrite (threadWrites request (stagedStoreAt request objects contents) place)
        contents) := by
  unfold stagedLaunch stagedKernel
  by_cases h16Bit : request.source.is16Bit = true
  · rw [if_pos h16Bit, if_pos h16Bit]
    exact p010_runThread hselected h16Bit hplace contents
  · rw [if_neg h16Bit, if_neg h16Bit]
    exact nv12_runThread hselected (Bool.eq_false_iff.mpr h16Bit) hplace contents

section Placed

variable (hselected : request.Selected) (hplaced : request.Placed objects)

include hselected hplaced

theorem Request.Placed.stagedPitch :
    4 * request.width ≤ (request.stagedTarget objects).2 ∧
      (request.stagedTarget objects).2 < 2 ^ 32 := by
  have hwidth := hselected.width
  unfold stagedTarget
  cases hname : request.destination with
  | array handle =>
    show 4 * request.width ≤ request.width * 4 ∧ request.width * 4 < 2 ^ 32
    omega
  | externalDevice address stride => exact hplaced.stride address stride hname
  | externalHost stride =>
    show 4 * request.width ≤ request.width * 4 ∧ request.width * 4 < 2 ^ 32
    omega

theorem Request.Placed.stagedRow_injects :
    Injects (stagedRow request objects) (4 * request.width) request.height :=
  allocation_injects hplaced.target (hplaced.stagedPitch hselected).1 fun _ hy =>
    Nat.add_le_add_right (Nat.mul_le_mul_right _ (Nat.le_sub_one_of_lt hy)) _

/-- Rows of a destination of the device do not overlap. -/
theorem Request.Placed.row_injects (hdestination : request.OnDevice) :
    Injects request.destination.row (4 * request.width) request.height := by
  have hstaged := hplaced.stagedRow_injects hselected
  unfold stagedRow stagedTarget at hstaged
  cases hname : request.destination with
  | array handle => exact surface_injects handle _ _
  | externalDevice address stride =>
    rw [hname] at hstaged
    exact hstaged
  | externalHost stride => exact absurd hname (hdestination stride)

/-- The launch over arrays, with any of its threads. -/
theorem array_runThreads (hdestination : request.OnDevice) {places : List Place}
    (hplaces : places ⊆ request.grid.places) (contents : Contents) :
    ∃ after, (arrayLaunch request objects).runThreads arrayToArgb places contents = some after ∧
      (∀ c, ¬Covers request.destination.row (4 * request.width) request.height c →
        after c = contents c) ∧
      (request.grid.places ⊆ places → ∀ y < request.height, ∀ x < request.width, ∀ i < 4,
        after (request.destination.row y (4 * x + i)) = (pictureBytes request y x).getD i 0) := by
  refine ⟨_, ?_, overwriteAll_threads (hplaced.row_injects hselected hdestination)
    (arrayStoreAt_writes hselected hplaced.textures hplaced.width hplaced.height hdestination
      fun address stride hname => (hplaced.stride address stride hname).2) contents⟩
  exact foldlM_overwrite (fun _ => False) contents
    (fun place hplace contents' _ =>
      arrayLaunch_runThread hselected hdestination (hplaces hplace) contents')
    (fun _ _ _ hc => hc.elim) (fun _ hc => hc.elim)

/-- What a thread stores depends on these buffers only. -/
theorem threadWrites_congr {contents contents' : Contents}
    (hsame : ∀ c, Loaded request objects c → contents' c = contents c) (place : Place) :
    threadWrites request (stagedStoreAt request objects contents') place =
      threadWrites request (stagedStoreAt request objects contents) place := by
  have hpitch := (hplaced.stagedPitch hselected).2
  funext c
  apply Option.ext
  intro v
  rw [threadWrites_iff (stagedStoreAt_writes hselected hpitch contents'),
    threadWrites_iff (stagedStoreAt_writes hselected hpitch contents)]
  refine exists_congr fun i => and_congr_right fun hi => and_congr_right fun _ => ?_
  split at hi
  · rename_i hpicture
    have hluma : ∀ j < request.height * request.width * request.bpp,
        deviceBuffer contents' objects.yBuffer j = deviceBuffer contents objects.yBuffer j :=
      fun j hj => hsame _ (.inl ⟨j, hj, rfl⟩)
    have hchroma : ∀ j < request.uvSamples * request.bpp,
        deviceBuffer contents' objects.uvBuffer j = deviceBuffer contents objects.uvBuffer j :=
      fun j hj => hsame _ (.inr ⟨j, hj, rfl⟩)
    rw [request.cpuPixel_congr hluma hchroma hpicture.2 hpicture.1]
  · exact absurd hi (Nat.not_lt_zero i)

/-- The launch over copies, with any of its threads. -/
theorem staged_runThreads {places : List Place} (hplaces : places ⊆ request.grid.places)
    (contents : Contents) :
    ∃ after,
      (stagedLaunch request objects).runThreads request.stagedKernel places contents = some after ∧
      (∀ c, ¬Covers (stagedRow request objects) (4 * request.width) request.height c →
        after c = contents c) ∧
      (request.grid.places ⊆ places → ∀ y < request.height, ∀ x < request.width, ∀ i < 4,
        after (stagedRow request objects y (4 * x + i)) =
          (cpuPixel request (deviceBuffer contents objects.yBuffer)
            (deviceBuffer contents objects.uvBuffer) y x).getD i 0) := by
  have hstore := stagedStoreAt_writes hselected (hplaced.stagedPitch hselected).2 contents
  refine ⟨_, ?_, overwriteAll_threads (hplaced.stagedRow_injects hselected) hstore contents⟩
  apply foldlM_overwrite (Loaded request objects) contents
  · intro place hplace contents' hsame
    rw [← threadWrites_congr hselected hplaced hsame place]
    exact staged_runThread hselected (hplaces hplace) contents'
  · intro place _ c hloaded
    have hnone := hplaced.loaded_apart hloaded
    cases hwritten : threadWrites request (stagedStoreAt request objects contents) place c with
    | none => rfl
    | some v =>
      obtain ⟨i, hi, hcell, -⟩ := (threadWrites_iff hstore place c v).mp hwritten
      split at hi
      · rename_i hpicture
        have hx := hpicture.1
        exact absurd ⟨_, hpicture.2, _, by omega, hcell⟩ hnone
      · exact absurd hi (Nat.not_lt_zero i)
  · exact fun _ _ => rfl

end Placed

end Launches

end Conversion
end NvidiaVaapi
