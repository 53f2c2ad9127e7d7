import NvidiaVaapi.Lib.ResourcePrograms
import NvidiaVaapi.Surface.Layout

/-!
# Buffers of the direct backend

The allocation of buffers in `direct/nv-driver.c`, as far as file descriptors go, and the calls
of CUDA that take one over.  A program asks the kernel and CUDA; each of their answers may be a
refusal.
-/

namespace NvidiaVaapi
namespace Direct

open ResourceProgram
open Surface (NVDriverContext allocationSize allocImageLayout)

/-! ## Resources -/

/-- What an allocation or an import opens or creates. -/
inductive Resource
  | descriptor (fd : Int)
  | externalMemory (handle : Nat)
  | mipmappedArray (handle : Nat)
  | mappedBuffer (pointer : Nat)
  | mapping (address : Nat)
  deriving DecidableEq, Repr

/-- What is asked of the flag `cudaWorkUnsafe`, of the system and of CUDA besides. -/
inductive Question
  | cudaWorkUnsafe
  | calloc
  | initBackingImageSync
  | nvAllocObject
  | nvAttachGpus
  | nvExportObjectToFd
  | nvFreeObject
  | drmIoctl
  | importedFdSize
  | backingImageMatchesImportedLayout
  | clearBackingImage
  | cuMipmappedArrayGetLevel
  | mappedBufferAvailable
  deriving DecidableEq, Repr

abbrev Program := ResourceProgram Resource Question

/-- Whether a call succeeds, or a flag is set. -/
def succeeds (question : Question) : Program Bool := do
  let answer ← asked question
  return answer.isSome

/-- A call that opens a descriptor; `-1` is its refusal. -/
def opened : Program Int := do
  let answer ← acquired fun n => .descriptor n
  return (answer.map Int.ofNat).getD (-1)

def close (fd : Int) : Program Unit :=
  released (.descriptor fd)

/-- `if (fd >= 0) close(fd);`. -/
def closeIfOpen (fd : Int) : Program Unit :=
  if fd ≥ 0 then close fd else return ()

/-- `cuImportExternalMemory`; a descriptor that is imported belongs to CUDA. -/
def cuImportExternalMemory (fd : Int) : Program (Option Nat) := do
  let extMem ← acquired .externalMemory
  if extMem.isSome then
    transferred (.descriptor fd)
    return extMem
  else return none

/-! ## Allocation -/

/-- The label `err` of `alloc_memory`. -/
def allocMemoryErr (nvctlFd2 : Int) : Program (Option Int) := do
  closeIfOpen nvctlFd2
  let _ ← succeeds .nvFreeObject
  return none

/-- `alloc_memory`. -/
def allocMemory : Program (Option Int) := do
  if ¬ (← succeeds .nvAllocObject) then return none
  let nvctlFd2 ← opened
  if nvctlFd2 = -1 then return ← allocMemoryErr nvctlFd2
  if ¬ (← succeeds .nvAttachGpus) then return ← allocMemoryErr nvctlFd2
  if ¬ (← succeeds .nvExportObjectToFd) then return ← allocMemoryErr nvctlFd2
  if ¬ (← succeeds .nvFreeObject) then return ← allocMemoryErr nvctlFd2
  return some nvctlFd2

/-- The label `err` of `import_and_export_buffer`. -/
def importAndExportErr (memFd2 : Int) : Program (Option (Int × Int)) := do
  closeIfOpen memFd2
  return none

/-- The label `gem_err` in front of it. -/
def importAndExportGemErr (memFd2 : Int) : Program (Option (Int × Int)) := do
  let _ ← succeeds .drmIoctl
  importAndExportErr memFd2

/-- `import_and_export_buffer`: the duplicate of the descriptor of the memory, and the dma-buf. -/
def importAndExportBuffer : Program (Option (Int × Int)) := do
  let memFd2 ← opened
  if memFd2 = -1 then return none
  if ¬ (← succeeds .drmIoctl) then return ← importAndExportErr memFd2
  let primeFd ← opened
  if primeFd = -1 then return ← importAndExportGemErr memFd2
  if ¬ (← succeeds .drmIoctl) then
    closeIfOpen primeFd
    return ← importAndExportGemErr memFd2
  return some (memFd2, primeFd)

/-- The descriptors of an `NVDriverImage`. -/
structure Descriptors where
  nvFd : Int := -1
  nvFd2 : Int := -1
  drmFd : Int := -1
  deriving DecidableEq, Repr

/-- What `alloc_buffer` and `alloc_image` do once they know the size of the allocation. -/
def allocDescriptors : Program (Option Descriptors) := do
  match ← allocMemory with
  | none => return none
  | some memFd =>
    match ← importAndExportBuffer with
    | none =>
      close memFd
      return none
    | some (memFd2, primeFd) =>
      return some { nvFd := memFd, nvFd2 := memFd2, drmFd := primeFd }

/-- `alloc_buffer`, with the size of the allocation. -/
def allocBuffer (totalSize : Nat) : Program (Option (Descriptors × Nat)) := do
  match allocationSize totalSize with
  | none => return none
  | some size =>
    match ← allocDescriptors with
    | none => return none
    | some descriptors => return some (descriptors, size)

/-- An `NVDriverImage` with its descriptors and the size of its allocation. -/
structure DriverImage extends Surface.NVDriverImage, Descriptors where
  allocationSize : Nat := 0
  deriving DecidableEq, Repr

/-- `alloc_image`. -/
def allocImage (context : NVDriverContext) (width height channels bytesPerChannel : Nat) :
    Program (Option DriverImage) := do
  match allocImageLayout context width height channels bytesPerChannel with
  | none => return none
  | some image =>
    match ← allocBuffer image.memorySize with
    | none => return none
    | some (descriptors, size) =>
      return some { toNVDriverImage := image, toDescriptors := descriptors, allocationSize := size }

/-- `export_dmabuf_memory`. -/
def exportDmabufMemory : Program Int := do
  let drmFd ← opened
  if drmFd < 0 then return -1
  if ¬ (← succeeds .drmIoctl) then
    close drmFd
    return -1
  let memoryFd ← opened
  if memoryFd < 0 then
    close drmFd
    return memoryFd
  if ¬ (← succeeds .drmIoctl) then
    close memoryFd
    close drmFd
    return -1
  close drmFd
  return memoryFd

/-! ## Ownership -/

section Ownership

variable {α : Type} {held : Set Resource} {P : α → Set Resource → Prop}

/-- The answers with `cudaWorkUnsafe` clear. -/
def Allowed (question : Question) (answer : Option Nat) : Prop :=
  question = .cudaWorkUnsafe → answer = none

/-- CUDA takes descriptors. -/
def Transferable (r : Resource) : Prop :=
  ∃ fd, r = .descriptor fd

/-- Whatever the kernel and CUDA answer, a program owns what it closes, destroys and hands over,
and ends as stated. -/
abbrev Owning (p : Program α) (held : Set Resource) (P : α → Set Resource → Prop) : Prop :=
  Ensures Allowed Transferable p held P

theorem owning_succeeds {question : Question} {f : Bool → Program α}
    (hf : ∀ success, Owning (f success) held P) :
    Owning (succeeds question >>= f) held P := by
  refine ensures_bind (P := fun _ held' => held' = held) ?_ ?_
  · exact ensures_asked fun _ _ => ensures_pure rfl
  · rintro success held' rfl
    exact hf success

theorem owning_opened {f : Int → Program α} (hrefused : Owning (f (-1)) held P)
    (hopened : ∀ fd, 0 ≤ fd → Resource.descriptor fd ∉ held →
      Owning (f fd) (insert (.descriptor fd) held) P) :
    Owning (opened >>= f) held P := by
  refine ensures_bind (P := fun fd held' => (fd = -1 ∧ held' = held) ∨
    (0 ≤ fd ∧ Resource.descriptor fd ∉ held ∧ held' = insert (.descriptor fd) held)) ?_ ?_
  · refine ensures_acquired (ensures_pure ?_) fun n hn => ensures_pure ?_
    · exact .inl ⟨rfl, rfl⟩
    · exact .inr ⟨Int.natCast_nonneg n, hn, rfl⟩
  · rintro fd held' (⟨rfl, rfl⟩ | ⟨hfd, hnew, rfl⟩)
    · exact hrefused
    · exact hopened fd hfd hnew

theorem owning_close {fd : Int} {f : Unit → Program α} (hfd : Resource.descriptor fd ∈ held)
    (hf : Owning (f ()) (held \ {.descriptor fd}) P) :
    Owning (close fd >>= f) held P :=
  ensures_released hfd hf

/-- A descriptor that was opened last is closed. -/
theorem owning_close_last {fd : Int} {f : Unit → Program α} (hnew : Resource.descriptor fd ∉ held)
    (hf : Owning (f ()) held P) :
    Owning (close fd >>= f) (insert (.descriptor fd) held) P := by
  refine owning_close (Set.mem_insert _ _) ?_
  rw [Set.insert_sdiff_self_of_notMem hnew]
  exact hf

theorem owning_allocMemoryErr {fd : Int} (hfd : 0 ≤ fd) (hnew : Resource.descriptor fd ∉ held) :
    Owning (allocMemoryErr fd) (insert (.descriptor fd) held)
      fun result held' => result = none ∧ held' = held := by
  unfold allocMemoryErr closeIfOpen
  rw [if_pos hfd]
  exact owning_close_last hnew (owning_succeeds fun _ => ensures_pure ⟨rfl, rfl⟩)

/-- Nothing is left, or a descriptor that is open. -/
theorem owning_allocMemory :
    Owning allocMemory held fun result held' =>
      (result = none ∧ held' = held) ∨ ∃ fd, result = some fd ∧ 0 ≤ fd ∧
        Resource.descriptor fd ∉ held ∧ held' = insert (.descriptor fd) held := by
  unfold allocMemory
  refine owning_succeeds fun allocated => ?_
  split
  · exact ensures_pure (.inl ⟨rfl, rfl⟩)
  refine owning_opened ?_ fun fd hfd hnew => ?_
  · rw [if_pos rfl]
    unfold allocMemoryErr closeIfOpen
    rw [if_neg (by decide)]
    exact owning_succeeds fun _ => ensures_pure (.inl ⟨rfl, rfl⟩)
  have herr : Owning (allocMemoryErr fd) (insert (.descriptor fd) held) fun result held' =>
      (result = none ∧ held' = held) ∨ ∃ fd, result = some fd ∧ 0 ≤ fd ∧
        Resource.descriptor fd ∉ held ∧ held' = insert (.descriptor fd) held :=
    (owning_allocMemoryErr hfd hnew).mono fun _ _ => .inl
  rw [if_neg (by omega)]
  refine owning_succeeds fun attached => ?_
  split
  · exact herr
  refine owning_succeeds fun exported => ?_
  split
  · exact herr
  refine owning_succeeds fun freed => ?_
  split
  · exact herr
  exact ensures_pure (.inr ⟨fd, rfl, hfd, hnew, rfl⟩)

/-- Two descriptors that are open one after the other. -/
structure OpenedPair (held : Set Resource) (first second : Int) (held' : Set Resource) : Prop where
  first_open : 0 ≤ first
  second_open : 0 ≤ second
  first_new : Resource.descriptor first ∉ held
  second_new : Resource.descriptor second ∉ insert (Resource.descriptor first) held
  after : held' = insert (.descriptor second) (insert (.descriptor first) held)

theorem owning_importAndExportErr {fd : Int} (hfd : 0 ≤ fd)
    (hnew : Resource.descriptor fd ∉ held) :
    Owning (importAndExportErr fd) (insert (.descriptor fd) held)
      fun result held' => result = none ∧ held' = held := by
  unfold importAndExportErr closeIfOpen
  rw [if_pos hfd]
  exact owning_close_last hnew (ensures_pure ⟨rfl, rfl⟩)

theorem owning_importAndExportGemErr {fd : Int} (hfd : 0 ≤ fd)
    (hnew : Resource.descriptor fd ∉ held) :
    Owning (importAndExportGemErr fd) (insert (.descriptor fd) held)
      fun result held' => result = none ∧ held' = held :=
  owning_succeeds fun _ => owning_importAndExportErr hfd hnew

/-- Nothing is left, or two descriptors that are open. -/
theorem owning_importAndExportBuffer :
    Owning importAndExportBuffer held fun result held' =>
      (result = none ∧ held' = held) ∨
        ∃ fds, result = some fds ∧ OpenedPair held fds.1 fds.2 held' := by
  unfold importAndExportBuffer
  refine owning_opened ?_ fun memFd2 hmem hmemNew => ?_
  · rw [if_pos rfl]
    exact ensures_pure (.inl ⟨rfl, rfl⟩)
  rw [if_neg (by omega)]
  refine owning_succeeds fun imported => ?_
  split
  · exact (owning_importAndExportErr hmem hmemNew).mono fun _ _ => .inl
  refine owning_opened ?_ fun primeFd hprime hprimeNew => ?_
  · rw [if_pos rfl]
    exact (owning_importAndExportGemErr hmem hmemNew).mono fun _ _ => .inl
  rw [if_neg (by omega)]
  refine owning_succeeds fun closed => ?_
  split
  · unfold closeIfOpen
    rw [if_pos hprime]
    exact owning_close_last hprimeNew
      ((owning_importAndExportGemErr hmem hmemNew).mono fun _ _ => .inl)
  · exact ensures_pure (.inr ⟨_, rfl, hmem, hprime, hmemNew, hprimeNew, rfl⟩)

/-- The three descriptors of a buffer are open. -/
structure OpenedBuffer (held : Set Resource) (fds : Descriptors) (held' : Set Resource) : Prop where
  nvFd_open : 0 ≤ fds.nvFd
  nvFd_new : Resource.descriptor fds.nvFd ∉ held
  exported : OpenedPair (insert (.descriptor fds.nvFd) held) fds.nvFd2 fds.drmFd held'

/-- Nothing is left, or the three descriptors of a buffer. -/
theorem owning_allocDescriptors :
    Owning allocDescriptors held fun result held' =>
      (result = none ∧ held' = held) ∨ ∃ fds, result = some fds ∧ OpenedBuffer held fds held' := by
  unfold allocDescriptors
  refine ensures_bind owning_allocMemory ?_
  rintro _ _ (⟨rfl, rfl⟩ | ⟨memFd, rfl, hmem, hmemNew, rfl⟩)
  · exact ensures_pure (.inl ⟨rfl, rfl⟩)
  refine ensures_bind owning_importAndExportBuffer ?_
  rintro _ _ (⟨rfl, rfl⟩ | ⟨⟨memFd2, primeFd⟩, rfl, hpair⟩)
  · exact owning_close_last hmemNew (ensures_pure (.inl ⟨rfl, rfl⟩))
  · exact ensures_pure (.inr ⟨_, rfl, hmem, hmemNew, hpair⟩)

theorem owning_allocBuffer (totalSize : Nat) :
    Owning (allocBuffer totalSize) held fun result held' =>
      (result = none ∧ held' = held) ∨
        ∃ fds size, result = some (fds, size) ∧ OpenedBuffer held fds held' := by
  unfold allocBuffer
  split
  · exact ensures_pure (.inl ⟨rfl, rfl⟩)
  · rename_i size _
    refine ensures_bind owning_allocDescriptors ?_
    rintro _ _ (⟨rfl, rfl⟩ | ⟨fds, rfl, hopened⟩)
    · exact ensures_pure (.inl ⟨rfl, rfl⟩)
    · exact ensures_pure (.inr ⟨fds, size, rfl, hopened⟩)

theorem owning_allocImage (context : NVDriverContext)
    (width height channels bytesPerChannel : Nat) :
    Owning (allocImage context width height channels bytesPerChannel) held fun result held' =>
      (result = none ∧ held' = held) ∨
        ∃ image, result = some image ∧ OpenedBuffer held image.toDescriptors held' := by
  unfold allocImage
  split
  · exact ensures_pure (.inl ⟨rfl, rfl⟩)
  · refine ensures_bind (owning_allocBuffer _) ?_
    rintro _ _ (⟨rfl, rfl⟩ | ⟨fds, size, rfl, hopened⟩)
    · exact ensures_pure (.inl ⟨rfl, rfl⟩)
    · exact ensures_pure (.inr ⟨_, rfl, hopened⟩)

theorem owning_exportDmabufMemory :
    Owning exportDmabufMemory held fun fd held' =>
      (fd < 0 ∧ held' = held) ∨
        (0 ≤ fd ∧ Resource.descriptor fd ∉ held ∧ held' = insert (.descriptor fd) held) := by
  unfold exportDmabufMemory
  refine owning_opened ?_ fun drmFd hdrm hdrmNew => ?_
  · rw [if_pos (by decide)]
    exact ensures_pure (.inl ⟨by decide, rfl⟩)
  rw [if_neg (by omega)]
  refine owning_succeeds fun imported => ?_
  split
  · exact owning_close_last hdrmNew (ensures_pure (.inl ⟨by decide, rfl⟩))
  refine owning_opened ?_ fun memoryFd hmem hmemNew => ?_
  · rw [if_pos (by decide)]
    exact owning_close_last hdrmNew (ensures_pure (.inl ⟨by decide, rfl⟩))
  rw [if_neg (by omega)]
  refine owning_succeeds fun exported => ?_
  split
  · exact owning_close_last hmemNew
      (owning_close_last hdrmNew (ensures_pure (.inl ⟨by decide, rfl⟩)))
  -- The private DRM file is closed before the descriptor that was opened after it.
  have hne : Resource.descriptor memoryFd ∉ ({.descriptor drmFd} : Set Resource) :=
    fun heq => hmemNew (Set.mem_insert_iff.mpr (.inl heq))
  refine owning_close (Set.mem_insert_of_mem _ (Set.mem_insert _ _)) (ensures_pure (.inr ?_))
  refine ⟨hmem, fun hold => hmemNew (Set.mem_insert_of_mem _ hold), ?_⟩
  rw [Set.insert_sdiff_of_notMem _ hne, Set.insert_sdiff_self_of_notMem hdrmNew]

/-- CUDA has taken the descriptor over, or has left it. -/
theorem owning_cuImportExternalMemory {fd : Int} {f : Option Nat → Program α}
    (hfd : Resource.descriptor fd ∈ held) (hrefused : Owning (f none) held P)
    (himported : ∀ extMem, Resource.externalMemory extMem ∉ held →
      Owning (f (some extMem)) (insert (.externalMemory extMem) (held \ {.descriptor fd})) P) :
    Owning (cuImportExternalMemory fd >>= f) held P := by
  refine ensures_bind (P := fun result held' => (result = none ∧ held' = held) ∨
    ∃ extMem, result = some extMem ∧ Resource.externalMemory extMem ∉ held ∧
      held' = insert (.externalMemory extMem) (held \ {.descriptor fd})) ?_ ?_
  · unfold cuImportExternalMemory
    refine ensures_acquired (ensures_pure (.inl ⟨rfl, rfl⟩)) fun extMem hnew => ?_
    refine ensures_transferred (Set.mem_insert_of_mem _ hfd) ⟨fd, rfl⟩
      (ensures_pure (.inr ⟨extMem, rfl, hnew, ?_⟩))
    exact Set.insert_sdiff_of_notMem _ nofun
  · rintro result held' (⟨rfl, rfl⟩ | ⟨extMem, rfl, hnew, rfl⟩)
    · exact hrefused
    · exact himported extMem hnew

end Ownership

end Direct
end NvidiaVaapi
