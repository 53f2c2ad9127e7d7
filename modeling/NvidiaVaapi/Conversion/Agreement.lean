import NvidiaVaapi.Conversion.PathRuns

/-!
# Agreement of the paths

A conversion that succeeds leaves the picture of its source in the destination, whichever of its
paths did it and whatever the paths that failed before it had done.
-/

namespace NvidiaVaapi
namespace Conversion

open Overwrites Ptx Request
open Surface (vaFourccBGRX)

/-! ## What can happen -/

/-- The threads that ran are threads of the grid, and all of them when the event is reached. -/
structure ArrayAttempt.Possible (attempt : ArrayAttempt) (request : Request) : Prop where
  places : attempt.places ⊆ request.grid.places
  complete : attempt.finished = true → attempt.places.Perm request.grid.places

/-- Work in the order of the stream, each part of it in any order and perhaps not all of it. -/
structure StagedAttempt.Possible (attempt : StagedAttempt) (request : Request) : Prop where
  luma : attempt.luma ⊆ bytesOf (request.width * request.bpp) request.height
  chroma : attempt.chroma ⊆ bytesOf (request.width * request.bpp) request.uvHeight
  places : attempt.places ⊆ request.grid.places
  output : attempt.output ⊆ bytesOf (4 * request.width) request.height
  complete : attempt.finished = true →
    attempt.luma.Perm (bytesOf (request.width * request.bpp) request.height) ∧
      attempt.chroma.Perm (bytesOf (request.width * request.bpp) request.uvHeight) ∧
      attempt.places.Perm request.grid.places ∧
      attempt.output.Perm (bytesOf (4 * request.width) request.height)

structure CpuAttempt.Possible (attempt : CpuAttempt) (request : Request) : Prop where
  luma : attempt.luma ⊆ bytesOf (request.width * request.bpp) request.height
  lumaCopied : attempt.lumaCopied = true →
    attempt.luma.Perm (bytesOf (request.width * request.bpp) request.height)
  chroma : attempt.chroma ⊆ bytesOf (request.width * request.bpp) request.uvHeight
  chromaCopied : attempt.chromaCopied = true →
    attempt.chroma.Perm (bytesOf (request.width * request.bpp) request.uvHeight)
  output : attempt.output ⊆ bytesOf (4 * request.width) request.height
  outputCopied : attempt.outputCopied = true →
    attempt.output.Perm (bytesOf (4 * request.width) request.height)

structure Attempts.Possible (attempts : Attempts) (request : Request) : Prop where
  direct : attempts.direct.Possible request
  staged : attempts.staged.Possible request
  cpu : attempts.cpu.Possible request

/-! ## The kernel over arrays -/

section Paths

variable {request : Request} {objects : DeviceObjects}

/-- The cells of the device that a conversion may change. -/
def Touched (request : Request) (objects : DeviceObjects) (c : Cell) : Prop :=
  Covers request.destination.row (4 * request.width) request.height c ∨
    Covers (stagedRow request objects) (4 * request.width) request.height c ∨
    Covers (globalCell objects.yBuffer (request.width * request.bpp))
      (request.width * request.bpp) request.height c ∨
    Covers (globalCell objects.uvBuffer (request.width * request.bpp))
      (request.width * request.bpp) request.uvHeight c

/-- The destination on the device has the pixels of the source. -/
def Shows (request : Request) (contents : Contents) : Prop :=
  ∀ y < request.height, ∀ x < request.width, ∀ i < 4,
    contents (request.destination.row y (4 * x + i)) = (pictureBytes request y x).getD i 0

/-- A run on the device comes to its end, stays in these cells, and leaves what it should where it
succeeds. -/
def Leaves (request : Request) (objects : DeviceObjects) (contents : Contents)
    (shows : Contents → Prop) (result : Option (Bool × Contents)) : Prop :=
  ∃ ok after, result = some (ok, after) ∧
    (∀ c, ¬Touched request objects c → after c = contents c) ∧ (ok = true → shows after)

theorem leaves_failed {contents after : Contents} {shows : Contents → Prop}
    (hkept : ∀ c, ¬Touched request objects c → after c = contents c) :
    Leaves request objects contents shows (some (false, after)) :=
  ⟨false, after, rfl, hkept, Bool.noConfusion⟩

theorem Leaves.shown {contents after : Contents} {shows : Contents → Prop}
    (h : Leaves request objects contents shows (some (true, after))) : shows after := by
  obtain ⟨ok, after, heq, -, hshows⟩ := h
  cases heq
  exact hshows rfl

theorem direct_run (hselected : request.Selected) (hplaced : request.Placed objects)
    {attempt : ArrayAttempt} (hpossible : attempt.Possible request) (contents : Contents) :
    Leaves request objects contents (Shows request)
      (convertNV12ArrayToARGBCudaLocked request objects attempt contents) := by
  have hrefused : ∀ result : Option (Bool × Contents), result = some (false, contents) →
      Leaves request objects contents (Shows request) result := by
    rintro result rfl
    exact leaves_failed fun _ _ => rfl
  unfold convertNV12ArrayToARGBCudaLocked
  by_cases hprepared : request.source.storage ≠ .arrays ∨ attempt.prepared = false
  · exact hrefused _ (if_pos hprepared)
  rw [if_neg hprepared]
  by_cases hhost : ∃ stride, request.destination = .externalHost stride
  · obtain ⟨stride, hname⟩ := hhost
    rw [hname]
    exact hrefused _ rfl
  have hdestination : request.OnDevice := fun stride hname => hhost ⟨stride, hname⟩
  by_cases hlaunched : attempt.launched = false
  · rw [if_pos hlaunched]
    apply hrefused
    cases hname : request.destination with
    | externalHost stride => exact absurd hname (hdestination stride)
    | array handle => rfl
    | externalDevice address stride => rfl
  obtain ⟨after, hruns, hframe, hall⟩ :=
    array_runThreads hselected hplaced hdestination hpossible.places contents
  refine ⟨attempt.finished, after, ?_, ?_, ?_⟩
  · rw [if_neg hlaunched, hruns]
    cases hname : request.destination with
    | externalHost stride => exact absurd hname (hdestination stride)
    | array handle => rfl
    | externalDevice address stride => rfl
  · exact fun c hc => hframe c fun hcovers => hc (.inl hcovers)
  · exact fun hfinished => hall (hpossible.complete hfinished).symm.subset

/-! ## The kernels over copies -/

theorem Request.yRow_lt (objects : DeviceObjects) {y j : Nat} (hy : y < request.height)
    (hj : j < request.width * request.bpp) :
    y * (request.width * request.bpp) + j < (request.yAllocation objects).size := by
  have hrows : (y + 1) * (request.width * request.bpp) ≤
      request.height * (request.width * request.bpp) := Nat.mul_le_mul_right _ hy
  rw [Nat.succ_mul] at hrows
  show _ < request.height * request.width * request.bpp
  rw [Nat.mul_assoc]
  omega

theorem Request.uvRow_lt (objects : DeviceObjects) {y j : Nat} (hy : y < request.uvHeight)
    (hj : j < request.width * request.bpp) :
    y * (request.width * request.bpp) + j < (request.uvAllocation objects).size := by
  have hrows : (y + 1) * (request.width * request.bpp) ≤
      request.uvHeight * (request.width * request.bpp) := Nat.mul_le_mul_right _ hy
  rw [Nat.succ_mul] at hrows
  show _ < (request.uvHeight * request.width + request.width % 2) * request.bpp
  rw [Nat.add_mul, Nat.mul_assoc]
  omega

/-- Rows of the buffers on the device. -/
theorem Request.Placed.yRows_injects (hplaced : request.Placed objects) :
    Injects (globalCell objects.yBuffer (request.width * request.bpp))
      (request.width * request.bpp) request.height := by
  intro y hy j hj y' hy' j' hj' hcell
  apply pitched_injective hj hj'
  exact hplaced.y.offset_injective (request.yRow_lt objects hy hj)
    (request.yRow_lt objects hy' hj') (Ptx.Cell.global.inj hcell)

theorem Request.Placed.uvRows_injects (hplaced : request.Placed objects) :
    Injects (globalCell objects.uvBuffer (request.width * request.bpp))
      (request.width * request.bpp) request.uvHeight := by
  intro y hy j hj y' hy' j' hj' hcell
  apply pitched_injective hj hj'
  exact hplaced.uv.offset_injective (request.uvRow_lt objects hy hj)
    (request.uvRow_lt objects hy' hj') (Ptx.Cell.global.inj hcell)

/-- The copies of the planes, as the kernels find them. -/
theorem staged_copies (hplaced : request.Placed objects) {luma chroma : List (Nat × Nat)}
    (hluma : luma.Perm (bytesOf (request.width * request.bpp) request.height))
    (hchroma : chroma.Perm (bytesOf (request.width * request.bpp) request.uvHeight))
    (contents : Contents) :
    let pitch := request.width * request.bpp
    let copied := copy2D request.source.chroma (globalCell objects.uvBuffer pitch) chroma
      (copy2D request.source.luma (globalCell objects.yBuffer pitch) luma contents)
    (∀ y < request.height, ∀ j < pitch,
      deviceBuffer copied objects.yBuffer (y * pitch + j) = request.source.luma y j) ∧
      ∀ y < request.uvHeight, ∀ j < pitch,
        deviceBuffer copied objects.uvBuffer (y * pitch + j) = request.source.chroma y j := by
  intro pitch copied
  constructor
  · intro y hy j hj
    have hkept : ¬Covers (globalCell objects.uvBuffer pitch) pitch request.uvHeight
        (globalCell objects.yBuffer pitch y j) := by
      rintro ⟨y', hy', j', hj', hcell⟩
      exact hplaced.y_uv.ne hplaced.y hplaced.uv (request.yRow_lt objects hy hj)
        (request.uvRow_lt objects hy' hj') (Ptx.Cell.global.inj hcell)
    exact (copy2D_other _ hchroma.subset _ hkept).trans
      (copy2D_all _ hplaced.yRows_injects hluma contents hy hj)
  · intro y hy j hj
    exact copy2D_all _ hplaced.uvRows_injects hchroma _ hy hj

/-- A byte of the destination on the device. -/
def deviceByte (request : Request) (contents : Contents) (y j : Nat) : BitVec 8 :=
  contents (request.destination.row y j)

/-- These cells have the pixels that the copies of the planes determine. -/
def Copied (request : Request) (cell : Nat → Nat → BitVec 8) : Prop :=
  ∀ y < request.height, ∀ x, request.Determined y x → ∀ i < 4,
    cell y (4 * x + i) = (request.copiedBytes y x).getD i 0

/-- These cells have the pixels of the source whose pairs of columns are in the picture. -/
def Paired (request : Request) (cell : Nat → Nat → BitVec 8) : Prop :=
  ∀ y < request.height, ∀ x, x - x % 2 + 1 < request.width → ∀ i < 4,
    cell y (4 * x + i) = (pictureBytes request y x).getD i 0

theorem Copied.paired {cell : Nat → Nat → BitVec 8} (h : Copied request cell) :
    Paired request cell := by
  intro y hy x hx i hi
  rw [← request.copiedBytes_eq_picture hx]
  exact h y hy x ⟨by omega, .inl hx⟩ i hi

theorem staged_run (hselected : request.Selected) (hplaced : request.Placed objects)
    (hdestination : request.OnDevice) {attempt : StagedAttempt}
    (hpossible : attempt.Possible request) (contents : Contents) :
    Leaves request objects contents (Copied request <| deviceByte request ·)
      (convertStaged request objects attempt contents) := by
  let pitch := request.width * request.bpp
  let first := copy2D request.source.luma (globalCell objects.yBuffer pitch) attempt.luma contents
  let second :=
    copy2D request.source.chroma (globalCell objects.uvBuffer pitch) attempt.chroma first
  have hfirst : ∀ c, ¬Touched request objects c → first c = contents c := fun c hc =>
    copy2D_other _ hpossible.luma contents fun hcovers => hc (.inr (.inr (.inl hcovers)))
  have hsecond : ∀ c, ¬Touched request objects c → second c = contents c := fun c hc =>
    (copy2D_other _ hpossible.chroma first fun hcovers => hc (.inr (.inr (.inr hcovers)))).trans
      (hfirst c hc)
  unfold convertStaged
  by_cases hprepared : attempt.prepared = false
  · rw [if_pos hprepared]
    exact leaves_failed fun _ _ => rfl
  rw [if_neg hprepared]
  by_cases hlumaQueued : attempt.lumaQueued = false
  · simp only [if_pos hlumaQueued]
    exact leaves_failed hfirst
  simp only [if_neg hlumaQueued]
  by_cases hchromaQueued : attempt.chromaQueued = false
  · rw [if_pos hchromaQueued]
    exact leaves_failed hsecond
  rw [if_neg hchromaQueued]
  by_cases hlaunched : attempt.launched = false
  · rw [if_pos hlaunched]
    exact leaves_failed hsecond
  rw [if_neg hlaunched]
  obtain ⟨third, hruns, hframe, hall⟩ :=
    staged_runThreads hselected hplaced hpossible.places second
  have hthird : ∀ c, ¬Touched request objects c → third c = contents c := fun c hc =>
    (hframe c fun hcovers => hc (.inr (.inl hcovers))).trans (hsecond c hc)
  have hpixels : attempt.finished = true →
      Copied request (third <| stagedRow request objects · ·) := by
    intro hfinished y hy x hx i hi
    obtain ⟨hluma, hchroma, hplaces, -⟩ := hpossible.complete hfinished
    obtain ⟨hyBuffer, huvBuffer⟩ := staged_copies hplaced hluma hchroma contents
    refine (hall hplaces.symm.subset y hy x hx.1 i hi).trans ?_
    rw [request.cpuPixel_eq_copied hselected hyBuffer huvBuffer hy hx]
  rw [hruns]
  simp only [Option.map_some]
  cases hname : request.destination with
  | externalHost stride => exact absurd hname (hdestination stride)
  | externalDevice address stride =>
    refine ⟨attempt.finished, third, rfl, hthird, fun hfinished => ?_⟩
    have hrow : deviceByte request third = (third <| stagedRow request objects · ·) := by
      unfold deviceByte stagedRow stagedTarget
      rw [hname]
      rfl
    show Copied request (deviceByte request third)
    rw [hrow]
    exact hpixels hfinished
  | array handle =>
    have hrow : request.destination.row = Cell.surface handle := by
      rw [hname]
      rfl
    have hargb : stagedRow request objects = globalCell objects.argbBuffer (request.width * 4) := by
      unfold stagedRow stagedTarget
      rw [hname]
    refine ⟨_, _, rfl, fun c hc => ?_, fun hok y hy x hx i hi => ?_⟩
    · have hother : ¬Covers (Cell.surface handle) (4 * request.width) request.height c :=
        fun hcovers => hc (.inl (hrow ▸ hcovers))
      exact (copy2D_other _ hpossible.output third hother).trans (hthird c hc)
    · obtain ⟨-, hfinished⟩ := (Bool.and_eq_true _ _).mp hok
      obtain ⟨-, -, -, houtput⟩ := hpossible.complete hfinished
      have hin := hx.1
      rw [deviceByte, hrow, copy2D_all _ (surface_injects handle _ _) houtput third hy (by omega),
        ← hargb]
      exact hpixels hfinished y hy x hx i hi

/-! ## The CPU -/

theorem pixelWrites_iff {target : Nat → Nat → HostCell} {bytes : Nat → Nat → List (BitVec 8)}
    (hinjects : Injects target (4 * request.width) request.height) {pixel : Nat × Nat}
    (hy : pixel.1 < request.height) (hx : pixel.2 < request.width) (c : HostCell) (v : BitVec 8) :
    pixelWrites target bytes pixel c = some v ↔
      ∃ i < 4, c = target pixel.1 (4 * pixel.2 + i) ∧ v = (bytes pixel.1 pixel.2).getD i 0 := by
  have hfound : ∀ v, pixelWrites target bytes pixel c = some v →
      ∃ i < 4, c = target pixel.1 (4 * pixel.2 + i) ∧ v = (bytes pixel.1 pixel.2).getD i 0 := by
    intro v hv
    obtain ⟨i, hi, hcell⟩ := List.exists_of_findSome?_eq_some hv
    split at hcell
    · rename_i hc
      exact ⟨i, List.mem_range.mp hi, hc, (Option.some.inj hcell).symm⟩
    · cases hcell
  constructor
  · exact hfound v
  · rintro ⟨i, hi, rfl, rfl⟩
    cases hwritten : pixelWrites target bytes pixel (target pixel.1 (4 * pixel.2 + i)) with
    | none =>
      have hnone := List.findSome?_eq_none_iff.mp hwritten i (List.mem_range.mpr hi)
      rw [if_pos rfl] at hnone
      cases hnone
    | some v =>
      obtain ⟨i', hi', hcell, rfl⟩ := hfound v hwritten
      obtain ⟨-, hbyte⟩ := hinjects _ hy _ (by omega) _ hy _ (by omega) hcell
      have hsame : i' = i := by omega
      rw [hsame]

/-- The loop over rows and columns. -/
theorem pixel_loop {target : Nat → Nat → HostCell} (bytes : Nat → Nat → List (BitVec 8))
    (hinjects : Injects target (4 * request.width) request.height) (host : HostCell → BitVec 8) :
    let after := overwriteAll (pixelWrites target bytes) (bytesOf request.width request.height) host
    (∀ y < request.height, ∀ x < request.width, ∀ i < 4,
      after (target y (4 * x + i)) = (bytes y x).getD i 0) ∧
      ∀ c, ¬Covers target (4 * request.width) request.height c → after c = host c := by
  obtain ⟨hwritten, hother⟩ := overwriteAll_cells (pixelWrites target bytes)
    (bytesOf request.width request.height) (fun _ => 4)
    (fun pixel i => target pixel.1 (4 * pixel.2 + i))
    (fun pixel i => (bytes pixel.1 pixel.2).getD i 0)
    (fun pixel hpixel c v => pixelWrites_iff hinjects (mem_bytesOf.mp hpixel).1
      (mem_bytesOf.mp hpixel).2 c v)
    (by
      intro pixel hpixel i hi pixel' hpixel' i' hi' hcell
      obtain ⟨hy, hx⟩ := mem_bytesOf.mp hpixel
      obtain ⟨hy', hx'⟩ := mem_bytesOf.mp hpixel'
      obtain ⟨hrow, hbyte⟩ := hinjects _ hy _ (by omega) _ hy' _ (by omega) hcell
      have hcolumn : pixel.2 = pixel'.2 := by omega
      have hsame : i = i' := by omega
      show (bytes _ _).getD i 0 = (bytes _ _).getD i' 0
      rw [hrow, hcolumn, hsame])
    host
  constructor
  · exact fun y hy x hx i hi => hwritten (y, x) (mem_bytesOf.mpr ⟨hy, hx⟩) i hi
  · intro c hc
    apply hother
    intro pixel hpixel i hi hcell
    obtain ⟨hy, hx⟩ := mem_bytesOf.mp hpixel
    exact hc ⟨pixel.1, hy, _, by omega, hcell⟩

/-- A byte of the destination, wherever it lies. -/
def Memories.destinationByte (memories : Memories) (request : Request) (y j : Nat) : BitVec 8 :=
  match request.destination with
  | .externalHost stride => memories.host (.destination (y * stride + j))
  | _ => memories.device (request.destination.row y j)

theorem destinationByte_host {stride : Nat} (hname : request.destination = .externalHost stride)
    (memories : Memories) (y j : Nat) :
    memories.destinationByte request y j = memories.host (request.hostRow y j) := by
  unfold Memories.destinationByte hostRow
  rw [hname]

theorem destinationByte_device
    (hdestination : request.OnDevice) (memories : Memories) (y j : Nat) :
    memories.destinationByte request y j = memories.device (request.destination.row y j) := by
  unfold Memories.destinationByte
  cases hname : request.destination with
  | externalHost stride => exact absurd hname (hdestination stride)
  | array handle => rfl
  | externalDevice address stride => rfl

theorem Request.Placed.hostRow_injects (hplaced : request.Placed objects) :
    Injects request.hostRow (4 * request.width) request.height := by
  unfold hostRow
  cases hname : request.destination with
  | externalHost stride =>
    exact injects_of_index (fun _ _ => HostCell.destination.inj) (hplaced.hostStride stride hname)
  | array handle => exact injects_of_index (fun _ _ => HostCell.argb.inj) (by omega)
  | externalDevice address stride =>
    exact injects_of_index (fun _ _ => HostCell.argb.inj) (by omega)

/-- The bytes of the host that the loop and the copies before it may change. -/
def HostTouched (request : Request) (c : HostCell) : Prop :=
  Covers request.hostRow (4 * request.width) request.height c ∨ (∃ i, c = .y i) ∨ ∃ i, c = .uv i

/-- What the path of the CPU leaves: `ok` and the memories that `convertCpu` gives. -/
structure CpuSpec (request : Request) (memories : Memories) (ok : Bool) (after : Memories) :
    Prop where
  device : ∀ c, ¬Covers request.destination.row (4 * request.width) request.height c →
    after.device c = memories.device c
  host : ∀ c, ¬HostTouched request c → after.host c = memories.host c
  shows : ok = true → Copied request (after.destinationByte request)

theorem cpu_run (hselected : request.Selected) (hplaced : request.Placed objects)
    {attempt : CpuAttempt} (hpossible : attempt.Possible request) (memories : Memories) :
    CpuSpec request memories (convertCpu request attempt memories).1
      (convertCpu request attempt memories).2 := by
  let pitch := request.width * request.bpp
  let first := copy2D request.source.luma (fun y j => HostCell.y (y * pitch + j)) attempt.luma
    memories.host
  let second := copy2D request.source.chroma (fun y j => HostCell.uv (y * pitch + j))
    attempt.chroma first
  let pixel := cpuPixel request (fun i => second (.y i)) (fun i => second (.uv i))
  let third := overwriteAll (pixelWrites request.hostRow pixel)
    (bytesOf request.width request.height) second
  have hfirst : ∀ c, ¬HostTouched request c → first c = memories.host c := fun c hc =>
    copy2D_other _ hpossible.luma _ fun ⟨_, _, _, _, hcell⟩ => hc (.inr (.inl ⟨_, hcell⟩))
  have hsecond : ∀ c, ¬HostTouched request c → second c = memories.host c := fun c hc =>
    (copy2D_other _ hpossible.chroma first fun ⟨_, _, _, _, hcell⟩ =>
      hc (.inr (.inr ⟨_, hcell⟩))).trans (hfirst c hc)
  obtain ⟨hloop, hkept⟩ := pixel_loop pixel hplaced.hostRow_injects second
  have hthird : ∀ c, ¬HostTouched request c → third c = memories.host c := fun c hc =>
    (hkept c fun hcovers => hc (.inl hcovers)).trans (hsecond c hc)
  have hfailed : ∀ host, (∀ c, ¬HostTouched request c → host c = memories.host c) →
      CpuSpec request memories false { memories with host } :=
    fun host hhost => ⟨fun _ _ => rfl, hhost, Bool.noConfusion⟩
  unfold convertCpu
  by_cases hstarted : attempt.accessStarted = false ∨ attempt.buffers = false
  · rw [if_pos hstarted]
    exact hfailed memories.host fun _ _ => rfl
  rw [if_neg hstarted]
  by_cases hlumaCopied : attempt.lumaCopied = false
  · simp only [if_pos hlumaCopied]
    exact hfailed first hfirst
  by_cases hchromaCopied : attempt.chromaCopied = false
  · simp only [if_neg hlumaCopied, if_pos hchromaCopied]
    exact hfailed second hsecond
  have hluma := hpossible.lumaCopied (Bool.not_eq_false _ ▸ hlumaCopied)
  have hchroma := hpossible.chromaCopied (Bool.not_eq_false _ ▸ hchromaCopied)
  have hpixels : Copied request (third <| request.hostRow · ·) := by
    intro y hy x hx i hi
    refine (hloop y hy x hx.1 i hi).trans (congrArg (·.getD i 0)
      (request.cpuPixel_eq_copied hselected ?_ ?_ hy hx))
    · intro y hy j hj
      have hkept : ¬Covers (fun y j => HostCell.uv (y * pitch + j)) pitch request.uvHeight
          (HostCell.y (y * pitch + j)) := fun ⟨_, _, _, _, hcell⟩ => HostCell.noConfusion hcell
      exact (copy2D_other _ hchroma.subset first hkept).trans
        (copy2D_all _ (injects_of_index (fun _ _ => HostCell.y.inj) (Nat.le_refl _)) hluma _ hy hj)
    · intro y hy j hj
      exact copy2D_all _ (injects_of_index (fun _ _ => HostCell.uv.inj) (Nat.le_refl _)) hchroma
        first hy hj
  simp only [if_neg hlumaCopied, if_neg hchromaCopied]
  cases hname : request.destination with
  | externalHost stride =>
    refine ⟨fun _ _ => rfl, hthird, fun _ y hy x hx i hi => ?_⟩
    exact (destinationByte_host hname _ y _).trans (hpixels y hy x hx i hi)
  | externalDevice address stride => exact hfailed third hthird
  | array handle =>
    have hrow : request.destination.row = Cell.surface handle := by
      rw [hname]
      rfl
    have hargb : request.hostRow = fun y j => .argb (y * (request.width * 4) + j) := by
      unfold hostRow
      rw [hname]
    refine ⟨fun c hc => ?_, hthird, fun hok y hy x hx i hi => ?_⟩
    · exact copy2D_other (fun y j => third (.argb (y * (request.width * 4) + j)))
        hpossible.output memories.device fun hcovers => hc (hrow ▸ hcovers)
    · obtain ⟨houtputCopied, -⟩ := (Bool.and_eq_true _ _).mp hok
      have hcopied := copy2D_all (fun y j => third (.argb (y * (request.width * 4) + j)))
        (surface_injects handle _ _) (hpossible.outputCopied houtputCopied) memories.device hy
        (show 4 * x + i < 4 * request.width by have hin := hx.1; omega)
      have hpixel := hpixels y hy x hx i hi
      have hdestination : request.OnDevice := by
        intro stride hhost
        rw [hname] at hhost
        cases hhost
      rw [hargb] at hpixel
      rw [destinationByte_device hdestination, hrow]
      exact hcopied.trans hpixel

/-! ## All of it -/

/-- What a conversion leaves, whichever of its paths it took. -/
structure ConversionSpec (request : Request) (objects : DeviceObjects) (memories : Memories)
    (ok : Bool) (after : Memories) : Prop where
  device : ∀ c, ¬Touched request objects c → after.device c = memories.device c
  host : ∀ c, ¬HostTouched request c → after.host c = memories.host c
  shows : ok = true → Paired request (after.destinationByte request)

theorem cuda_run (hselected : request.Selected) (hplaced : request.Placed objects)
    (hdestination : request.OnDevice) {direct : ArrayAttempt} {staged : StagedAttempt}
    (hdirect : direct.Possible request) (hstaged : staged.Possible request)
    (contents : Contents) :
    Leaves request objects contents (Paired request <| deviceByte request ·)
      (convertNV12ToARGBCuda request objects direct staged contents) := by
  unfold convertNV12ToARGBCuda
  by_cases hstorage : request.source.storage ≠ .arrays
  · rw [if_pos hstorage]
    exact leaves_failed fun _ _ => rfl
  rw [if_neg hstorage]
  obtain ⟨ok, first, hrun, hframe, hshows⟩ := direct_run hselected hplaced hdirect contents
  rw [hrun]
  cases ok with
  | true =>
    refine ⟨true, first, rfl, hframe, fun _ y hy x hx i hi => ?_⟩
    exact hshows rfl y hy x (by omega) i hi
  | false =>
    obtain ⟨ok, second, hrun', hframe', hshows'⟩ :=
      staged_run hselected hplaced hdestination hstaged first
    exact ⟨ok, second, hrun', fun c hc => (hframe' c hc).trans (hframe c hc),
      fun hok => (hshows' hok).paired⟩

theorem convertNV12ToARGB_eq_cuda
    (hdestination : request.OnDevice) (attempts : Attempts) (memories : Memories) :
    convertNV12ToARGB request objects attempts memories =
      (convertNV12ToARGBCuda request objects attempts.direct attempts.staged memories.device).map
        fun result => if result.1 then (true, { memories with device := result.2 })
          else convertCpu request attempts.cpu { memories with device := result.2 } := by
  unfold convertNV12ToARGB
  cases hname : request.destination with
  | externalHost stride => exact absurd hname (hdestination stride)
  | array handle => rfl
  | externalDevice address stride => rfl

theorem convertNV12ToARGB_run (hselected : request.Selected) (hplaced : request.Placed objects)
    {attempts : Attempts} (hpossible : attempts.Possible request) (memories : Memories) :
    ∃ ok after, convertNV12ToARGB request objects attempts memories = some (ok, after) ∧
      ConversionSpec request objects memories ok after := by
  have hcpu := cpu_run hselected hplaced hpossible.cpu
  by_cases hhost : ∃ stride, request.destination = .externalHost stride
  · obtain ⟨stride, hname⟩ := hhost
    obtain ⟨hdevice, hhost, hshows⟩ := hcpu memories
    refine ⟨_, _, ?_, fun c hc => hdevice c fun hcovers => hc (.inl hcovers), hhost,
      fun hok => (hshows hok).paired⟩
    unfold convertNV12ToARGB
    rw [hname]
  have hdestination : request.OnDevice := fun stride hname => hhost ⟨stride, hname⟩
  obtain ⟨ok, contents, hrun, hframe, hshows⟩ :=
    cuda_run hselected hplaced hdestination hpossible.direct hpossible.staged memories.device
  rw [convertNV12ToARGB_eq_cuda hdestination, hrun]
  cases ok with
  | true =>
    refine ⟨true, _, rfl, hframe, fun _ _ => rfl, fun _ y hy x hx i hi => ?_⟩
    rw [destinationByte_device hdestination]
    exact hshows rfl y hy x hx i hi
  | false =>
    obtain ⟨hdevice, hhost, hshows'⟩ := hcpu { memories with device := contents }
    exact ⟨_, _, rfl, fun c hc => (hdevice c fun hcovers => hc (.inl hcovers)).trans (hframe c hc),
      hhost, fun hok => (hshows' hok).paired⟩

end Paths

/-! ## Conversions of the driver -/

section Driver

variable (source : SourceImage) (destination : Destination) (fourcc : Nat) (src : SurfaceColors)
  (pipeline : PipelineColors) (width height : BitVec 16)

/-- A conversion that succeeds leaves the pixels of its source; for an even width these are all,
for an odd one all but the last column. -/
theorem convertNV12ToARGB_picture (objects : DeviceObjects) (attempts : Attempts)
    (memories : Memories)
    (hplaced :
      (videoProcRequest source destination fourcc src pipeline width height).Placed objects)
    (hpossible : attempts.Possible
      (videoProcRequest source destination fourcc src pipeline width height)) :
    let request := videoProcRequest source destination fourcc src pipeline width height
    ∃ ok after, convertNV12ToARGB request objects attempts memories = some (ok, after) ∧
      (ok = true → ∀ y < height.toNat, ∀ x, x - x % 2 + 1 < width.toNat → ∀ i < 4,
        after.destinationByte request y (4 * x + i) = (pictureBytes request y x).getD i 0) := by
  intro request
  obtain ⟨ok, after, hrun, -, -, hshows⟩ :=
    convertNV12ToARGB_run (videoProcRequest_selected ..) hplaced hpossible memories
  exact ⟨ok, after, hrun, hshows⟩

/-- Two pixels in shades of blue, in memory of an importer. -/
def blueSource : SourceImage where
  format := .nv12
  width := 2
  height := 1
  storage := .externalHost
  luma _ j := if j = 0 then 16 else 41
  chroma _ j := if j = 0 then 240 else 110

def blueRequest : Request :=
  videoProcRequest blueSource (.externalHost 8) vaFourccBGRX {} {} 2 1

def blueObjects : DeviceObjects := ⟨0x1000, 0x2000, 0x3000, 1, 2⟩

/-- Every call of the path of the CPU succeeds, and there is no attempt before it. -/
def hostAttempts : Attempts where
  direct := ⟨false, false, [], false⟩
  staged := ⟨false, [], false, [], false, false, [], [], false, false⟩
  cpu := ⟨true, true, bytesOf 2 1, true, bytesOf 2 1, true, [], false, true⟩

theorem blueRequest_placed : blueRequest.Placed blueObjects where
  width := Nat.le_refl _
  height := Nat.le_refl _
  textures := by decide
  stride _ _ hname := by cases hname
  hostStride stride hname := by
    cases hname
    decide
  y := by decide
  uv := by decide
  target := by decide
  y_uv := by decide
  y_target := by decide
  uv_target := by decide

theorem hostAttempts_possible : hostAttempts.Possible blueRequest where
  direct := ⟨List.nil_subset _, Bool.noConfusion⟩
  staged := ⟨List.nil_subset _, List.nil_subset _, List.nil_subset _, List.nil_subset _,
    Bool.noConfusion⟩
  cpu := ⟨List.Subset.refl _, fun _ => .refl _, List.Subset.refl _, fun _ => .refl _,
    List.nil_subset _, Bool.noConfusion⟩

theorem convertNV12ToARGB_picture_blue :
    (convertNV12ToARGB blueRequest blueObjects hostAttempts ⟨fun _ => 0, fun _ => 0⟩).map
        (fun result => (result.1, [4, 5, 6, 7].map (result.2.destinationByte blueRequest 0))) =
      some (true, [255, 0, 0, 255]) := by
  obtain ⟨ok, after, hrun, hshows⟩ := convertNV12ToARGB_picture blueSource (.externalHost 8)
    vaFourccBGRX {} {} 2 1 blueObjects hostAttempts ⟨fun _ => 0, fun _ => 0⟩ blueRequest_placed
    hostAttempts_possible
  have hok : some true = some ok := congrArg (Option.map Prod.fst) hrun
  have hpixel := hshows (Option.some.inj hok).symm 0 (by decide) 1 (by decide)
  have hrun' : convertNV12ToARGB blueRequest blueObjects hostAttempts
      ⟨fun _ => 0, fun _ => 0⟩ = some (ok, after) := hrun
  rw [hrun', ← Option.some.inj hok]
  have hbytes : [4, 5, 6, 7].map (after.destinationByte blueRequest 0) =
      (List.range 4).map ((pictureBytes blueRequest 0 1).getD · 0) := by
    show (List.range 4).map (fun i => after.destinationByte blueRequest 0 (4 * 1 + i)) = _
    exact List.map_congr_left fun i hi => hpixel i (List.mem_range.mp hi)
  have hblue : (List.range 4).map ((pictureBytes blueRequest 0 1).getD · 0) =
      [255, 0, 0, 255] := by decide
  rw [Option.map_some, hbytes, hblue]

/-- Whatever a conversion does, it stays in the rows of its destination and in its scratch
buffers. -/
theorem convertNV12ToARGB_frame (objects : DeviceObjects) (attempts : Attempts)
    (memories : Memories)
    (hplaced :
      (videoProcRequest source destination fourcc src pipeline width height).Placed objects)
    (hpossible : attempts.Possible
      (videoProcRequest source destination fourcc src pipeline width height)) :
    let request := videoProcRequest source destination fourcc src pipeline width height
    ∃ ok after, convertNV12ToARGB request objects attempts memories = some (ok, after) ∧
      (∀ c, ¬Touched request objects c → after.device c = memories.device c) ∧
      ∀ c, ¬HostTouched request c → after.host c = memories.host c := by
  intro request
  obtain ⟨ok, after, hrun, hdevice, hhost, -⟩ :=
    convertNV12ToARGB_run (videoProcRequest_selected ..) hplaced hpossible memories
  exact ⟨ok, after, hrun, hdevice, hhost⟩

theorem convertNV12ToARGB_frame_blue :
    (convertNV12ToARGB blueRequest blueObjects hostAttempts ⟨fun _ => 0, fun _ => 9⟩).map
        (fun result => result.2.host (.destination 8)) = some 9 := by
  obtain ⟨ok, after, hrun, -, hhost⟩ := convertNV12ToARGB_frame blueSource (.externalHost 8)
    vaFourccBGRX {} {} 2 1 blueObjects hostAttempts ⟨fun _ => 0, fun _ => 9⟩ blueRequest_placed
    hostAttempts_possible
  have hrun' : convertNV12ToARGB blueRequest blueObjects hostAttempts
      ⟨fun _ => 0, fun _ => 9⟩ = some (ok, after) := hrun
  have hkept : ¬HostTouched blueRequest (.destination 8) := by
    rintro (⟨y, hy, j, hj, hcell⟩ | ⟨i, hi⟩ | ⟨i, hi⟩)
    · have hindex : 8 = y * 8 + j := HostCell.destination.inj hcell
      change y < 1 at hy
      change j < 4 * 2 at hj
      omega
    · cases hi
    · cases hi
  rw [hrun']
  exact congrArg some (hhost _ hkept)

end Driver

/-! ## Odd widths -/

/-- An image whose second row of chrominance is not like its first. -/
def fringedSource (width height : Nat) : SourceImage where
  format := .nv12
  width := width
  height := height
  storage := .arrays
  luma _ _ := 128
  chroma y j := if y = 0 then (if j % 2 = 0 then 128 else 0) else 255

/-- A low and a high second sample of chrominance make red dark and bright. -/
theorem red_of_fringe (colorStandard : VAProcColorStandardType) (width : Nat) (fullRange : Bool) :
    (convertPixel (colorMatrixForStandard colorStandard width fullRange)
        (videoProcSampleInfoForFormat .nv12 fullRange) 128 128 0).first = 0 ∧
      (convertPixel (colorMatrixForStandard colorStandard width fullRange)
        (videoProcSampleInfoForFormat .nv12 fullRange) 128 128 255).first = 255 := by
  have hmatrix : ∀ matrix, matrix = (colorMatrices fullRange).first ∨
      matrix = (colorMatrices fullRange).second ∨ matrix = (colorMatrices fullRange).third →
      (convertPixel matrix (videoProcSampleInfoForFormat .nv12 fullRange) 128 128 0).first = 0 ∧
      (convertPixel matrix (videoProcSampleInfoForFormat .nv12 fullRange) 128 128 255).first =
        255 := by
    rintro matrix (rfl | rfl | rfl) <;> cases fullRange <;> exact ⟨by decide, by decide⟩
  exact hmatrix _ (colorMatrixForStandard_mem colorStandard width fullRange)

/-- Red is written somewhere. -/
theorem writeRgbPixel_red {rgb rgb' : Triple (BitVec 8)} (hred : rgb.first ≠ rgb'.first)
    (fourcc : Nat) :
    ∃ i < 4, (writeRgbPixel fourcc rgb).getD i 0 ≠ (writeRgbPixel fourcc rgb').getD i 0 := by
  unfold writeRgbPixel
  split
  · exact ⟨0, by decide, hred⟩
  split
  · exact ⟨2, by decide, hred⟩
  split
  · exact ⟨1, by decide, hred⟩
  split
  · exact ⟨3, by decide, hred⟩
  · exact ⟨2, by decide, hred⟩

/-- Attempts of which every call succeeds. -/
structure ArrayAttempt.Complete (attempt : ArrayAttempt) (request : Request) : Prop where
  possible : attempt.Possible request
  prepared : attempt.prepared = true
  launched : attempt.launched = true
  finished : attempt.finished = true

structure StagedAttempt.Complete (attempt : StagedAttempt) (request : Request) : Prop where
  possible : attempt.Possible request
  prepared : attempt.prepared = true
  lumaQueued : attempt.lumaQueued = true
  chromaQueued : attempt.chromaQueued = true
  launched : attempt.launched = true
  outputQueued : attempt.outputQueued = true
  finished : attempt.finished = true

section Complete

variable {request : Request} {objects : DeviceObjects} (hselected : request.Selected)
  (hplaced : request.Placed objects)

include hselected hplaced

/-- They succeed. -/
theorem direct_complete (hdestination : request.OnDevice)
    (hstorage : request.source.storage = .arrays) {attempt : ArrayAttempt}
    (hcomplete : attempt.Complete request) (contents : Contents) :
    ∃ after,
      convertNV12ArrayToARGBCudaLocked request objects attempt contents = some (true, after) := by
  obtain ⟨after, hruns, -⟩ :=
    array_runThreads hselected hplaced hdestination hcomplete.possible.places contents
  refine ⟨after, ?_⟩
  unfold convertNV12ArrayToARGBCudaLocked
  rw [hstorage, hcomplete.prepared, hcomplete.launched, hcomplete.finished, hruns]
  cases hname : request.destination with
  | externalHost stride => exact absurd hname (hdestination stride)
  | array handle => rfl
  | externalDevice address stride => rfl

theorem staged_complete {attempt : StagedAttempt} (hcomplete : attempt.Complete request)
    (contents : Contents) :
    ∃ after, convertStaged request objects attempt contents = some (true, after) := by
  unfold convertStaged
  rw [hcomplete.prepared, hcomplete.lumaQueued, hcomplete.chromaQueued, hcomplete.launched,
    hcomplete.outputQueued, hcomplete.finished]
  obtain ⟨after, hruns, -⟩ := staged_runThreads hselected hplaced hcomplete.possible.places
    (copy2D request.source.chroma (globalCell objects.uvBuffer (request.width * request.bpp))
      attempt.chroma (copy2D request.source.luma
        (globalCell objects.yBuffer (request.width * request.bpp)) attempt.luma contents))
  simp only [Bool.true_eq_false, if_false, hruns, Option.map_some]
  cases request.destination with
  | array handle => exact ⟨_, rfl⟩
  | externalHost stride => exact ⟨_, rfl⟩
  | externalDevice address stride => exact ⟨_, rfl⟩

end Complete

section Odd

variable (destination : Destination) (fourcc : Nat) (src : SurfaceColors)
  (pipeline : PipelineColors) (width height : BitVec 16)

/-- In the last column the source and the copies of its planes have different pixels. -/
theorem fringed_differs (hodd : width.toNat % 2 = 1) :
    let request := videoProcRequest (fringedSource width.toNat height.toNat) destination fourcc src
      pipeline width height
    ∃ i < 4, (pictureBytes request 0 (width.toNat - 1)).getD i 0 ≠
      (request.copiedBytes 0 (width.toNat - 1)).getD i 0 := by
  intro request
  let x := width.toNat - 1
  have hchroma j : sampleAt false (request.source.chroma 0) j = if j % 2 = 0 then 128 else 0 := by
    show (if j % 2 = 0 then (128 : BitVec 8) else 0).toNat = _
    split <;> rfl
  have hu : sampleAt false (request.source.chroma 0) (x - x % 2) = 128 :=
    (hchroma _).trans (if_pos (by omega))
  have hv : sampleAt false (request.source.chroma 0) (x - x % 2 + 1) = 0 :=
    (hchroma _).trans (if_neg (by omega))
  have hpicture : pictureBytes request 0 x = writeRgbPixel fourcc
      (convertPixel request.matrix request.sampleInfo 128 128 0) := by
    show writeRgbPixel fourcc (convertPixel request.matrix request.sampleInfo (128 : Nat)
      (sampleAt false (request.source.chroma 0) (x - x % 2) : Nat)
      (sampleAt false (request.source.chroma 0) (x - x % 2 + 1) : Nat)) = _
    rw [hu, hv]
    rfl
  have hcopied : request.copiedBytes 0 x = writeRgbPixel fourcc
      (convertPixel request.matrix request.sampleInfo 128 128 255) := by
    have houtside : ¬x - x % 2 + 1 < request.width := by
      show ¬x - x % 2 + 1 < width.toNat
      omega
    unfold copiedBytes
    simp only
    rw [if_neg houtside]
    show writeRgbPixel fourcc (convertPixel request.matrix request.sampleInfo (128 : Nat)
      (sampleAt false (request.source.chroma 0) (x - x % 2) : Nat) (255 : Nat)) = _
    rw [hu]
    rfl
  obtain ⟨hdark, hbright⟩ := red_of_fringe (effectiveSurfaceColorStandard src pipeline)
    width.toNat (effectiveSurfaceColorRangeFull src pipeline)
  have hred : (convertPixel request.matrix request.sampleInfo 128 128 0).first ≠
      (convertPixel request.matrix request.sampleInfo 128 128 255).first := by
    intro hsame
    have hclash : (0 : BitVec 8) = 255 := hdark.symm.trans (hsame.trans hbright)
    exact absurd hclash (by decide)
  show ∃ i < 4, (pictureBytes request 0 x).getD i 0 ≠ (request.copiedBytes 0 x).getD i 0
  rw [hpicture, hcopied]
  exact writeRgbPixel_red hred fourcc

/-- For every odd width there is an image for which the kernel over arrays and the kernels over
copies leave different bytes in the last column: the copies have no second sample of chrominance
there, and the first one of the next row is taken. -/
theorem odd_width_differs (objects : DeviceObjects) (direct : ArrayAttempt)
    (staged : StagedAttempt) (contents contents' : Contents)
    (hodd : width.toNat % 2 = 1) (hheight : 3 ≤ height.toNat)
    (hdestination : ∀ stride, destination ≠ .externalHost stride)
    (hplaced : (videoProcRequest (fringedSource width.toNat height.toNat) destination fourcc src
      pipeline width height).Placed objects)
    (hdirect : direct.Complete (videoProcRequest (fringedSource width.toNat height.toNat)
      destination fourcc src pipeline width height))
    (hstaged : staged.Complete (videoProcRequest (fringedSource width.toNat height.toNat)
      destination fourcc src pipeline width height)) :
    let request := videoProcRequest (fringedSource width.toNat height.toNat) destination fourcc src
      pipeline width height
    ∃ after after',
      convertNV12ArrayToARGBCudaLocked request objects direct contents = some (true, after) ∧
      convertStaged request objects staged contents' = some (true, after') ∧
      ∃ j < 4 * width.toNat, after (destination.row 0 j) ≠ after' (destination.row 0 j) := by
  intro request
  have hselected : request.Selected := videoProcRequest_selected ..
  obtain ⟨after, hafter⟩ := direct_complete hselected hplaced hdestination rfl hdirect contents
  obtain ⟨after', hafter'⟩ := staged_complete hselected hplaced hstaged contents'
  refine ⟨after, after', hafter, hafter', ?_⟩
  have hshows := direct_run hselected hplaced hdirect.possible contents
  have hshows' := staged_run hselected hplaced hdestination hstaged.possible contents'
  rw [hafter] at hshows
  rw [hafter'] at hshows'
  obtain ⟨i, hi, hdiffers⟩ := fringed_differs destination fourcc src pipeline width height hodd
  have hrow : 0 < request.height := show 0 < height.toNat by omega
  have hin : width.toNat - 1 < request.width := show width.toNat - 1 < width.toNat by omega
  have hnext : (0 : Nat) / 2 + 1 < request.uvHeight := by
    show 0 / 2 + 1 < (height.toNat + 1) / 2
    omega
  have hleft := hshows.shown 0 hrow _ hin i hi
  have hright := hshows'.shown 0 hrow _ ⟨hin, .inr hnext⟩ i hi
  refine ⟨4 * (width.toNat - 1) + i, by omega, fun hsame => hdiffers ?_⟩
  exact hleft.symm.trans (hsame.trans hright)

end Odd

/-- A column of three rows. -/
def columnRequest : Request :=
  videoProcRequest (fringedSource 1 3) (.array 7) vaFourccBGRX {} {} 1 3

theorem columnRequest_placed : columnRequest.Placed blueObjects where
  width := Nat.le_refl _
  height := Nat.le_refl _
  textures := by decide
  stride _ _ hname := by cases hname
  hostStride _ hname := by cases hname
  y := by decide
  uv := by decide
  target := by decide
  y_uv := by decide
  y_target := by decide
  uv_target := by decide

theorem odd_width_differs_column :
    ∃ after after',
      convertNV12ArrayToARGBCudaLocked columnRequest blueObjects
        ⟨true, true, columnRequest.grid.places, true⟩ (fun _ => 0) = some (true, after) ∧
      convertStaged columnRequest blueObjects
        ⟨true, bytesOf 1 3, true, bytesOf 1 2, true, true, columnRequest.grid.places, bytesOf 4 3,
          true, true⟩ (fun _ => 0) = some (true, after') ∧
      ∃ j < 4 * 1, after (.surface 7 0 j) ≠ after' (.surface 7 0 j) :=
  odd_width_differs (.array 7) vaFourccBGRX {} {} 1 3 blueObjects _ _ _ _ (by decide) (by decide)
    (fun _ hname => by cases hname) columnRequest_placed
    ⟨⟨List.Subset.refl _, fun _ => .refl _⟩, rfl, rfl, rfl⟩
    ⟨⟨List.Subset.refl _, List.Subset.refl _, List.Subset.refl _, List.Subset.refl _,
      fun _ => ⟨.refl _, .refl _, .refl _, .refl _⟩⟩, rfl, rfl, rfl, rfl, rfl, rfl⟩

end Conversion
end NvidiaVaapi
