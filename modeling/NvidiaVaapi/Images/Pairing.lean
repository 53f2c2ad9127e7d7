import NvidiaVaapi.Images.Objects
import NvidiaVaapi.Lib.LabelledSystem
import NvidiaVaapi.ObjectTable.LiveObjects

/-!
# Images and their buffers

An image and its buffer are made and destroyed together, whatever the application destroys
and wherever memory runs out.
-/

namespace NvidiaVaapi
namespace Images

open ObjectTable
open BufferPool (allocateBufferMemory releaseBufferMemory)

/-! ## Objects of the driver -/

section Table

variable {d : NVDriver} {type : ObjectType} {free : List Nat}

theorem ObjectType.code_injective {first second : ObjectType}
    (hcode : first.code = second.code) : first = second := by
  revert hcode
  cases first <;> cases second <;> decide

theorem getObject_some {id : BitVec 32} {object : NVDObject}
    (hget : getObject d type id = some object) :
    id ≠ vaInvalidId ∧ denoted d.objects id = some object ∧ object.type = type.code := by
  unfold getObject at hget
  split at hget
  · rename_i hid
    rw [nvdObjectTableGet_eq, Option.filter_eq_some_iff, decide_eq_true_iff] at hget
    exact ⟨hid, hget.1, hget.2⟩
  · cases hget

/-- A live object is found by its own identifier. -/
theorem getObject_label {object : NVDObject} (h : Stored d.objects free)
    (hlive : d.objects.Live object) (htype : object.type = type.code) :
    getObject d type object.id = some object := by
  unfold getObject
  rw [if_pos (h.label_valid hlive).2, ← htype]
  exact h.get_label hlive

theorem getObjectPtr_some {id : BitVec 32} {ptr : Nat}
    (hget : getObjectPtr d type id = some ptr) :
    ∃ object, getObject d type id = some object ∧ payload object = ptr := by
  obtain ⟨object, hobject, hptr⟩ := Option.bind_eq_some_iff.mp hget
  refine ⟨object, hobject, ?_⟩
  unfold payload
  rw [hptr]
  rfl

/-- A deletion takes the object away that the identifier leads to, and nothing else. -/
theorem deleteObject_live {id : BitVec 32} {object : NVDObject} (h : Stored d.objects free)
    (hget : getObject d type id = some object) :
    (∃ free', Stored (deleteObject d id).objects free') ∧
      ∀ other, (deleteObject d id).objects.Live other ↔
        d.objects.Live other ∧ other ≠ object := by
  obtain ⟨hid, hdenoted, -⟩ := getObject_some hget
  unfold deleteObject
  rw [if_neg hid]
  exact h.removal_live hdenoted

theorem deleteObject_payloads (d : NVDriver) (id : BitVec 32) :
    (deleteObject d id).buffers = d.buffers ∧ (deleteObject d id).images = d.images := by
  unfold deleteObject
  split
  · exact ⟨rfl, rfl⟩
  · exact ⟨rfl, rfl⟩

/-- What an allocation that succeeds adds. -/
structure Added (table after : NVDObjectTable) (type : ObjectType) (answer : Allocation)
    (object : NVDObject) : Prop extends Joined table after object where
  address : answer.object = some object.address
  type : object.type = type.code

theorem allocateObject_cases (h : Stored d.objects free) (type : ObjectType)
    {payloadSize : BitVec 64} (answer : Allocation) {d' : NVDriver} {found : Option NVDObject}
    (hcall : allocateObject d type payloadSize answer = (d', found)) :
    (d'.buffers = d.buffers ∧ d'.images = d.images) ∧ (∃ free', Stored d'.objects free') ∧
      ((found = none ∧ ∀ object, d'.objects.Live object ↔ d.objects.Live object) ∨
        ∃ object, found = some object ∧ Added d.objects d'.objects type answer object ∧
          (payloadSize ≠ 0 → object.obj = some (object.address + objectSize))) := by
  cases hcall
  obtain ⟨hstored, hlive | ⟨object, hsome, hjoined⟩⟩ :=
    h.allocation_live type.code payloadSize answer.reallocated answer.object
  · exact ⟨⟨rfl, rfl⟩, hstored, .inl hlive⟩
  · obtain ⟨haddress, htype, hobj⟩ := nvdObjectTableAllocate_object hsome
    exact ⟨⟨rfl, rfl⟩, hstored, .inr ⟨object, hsome, ⟨hjoined, haddress, htype⟩, hobj⟩⟩

end Table

/-! ## The invariant -/

/-- A live buffer that is the one of an image. -/
structure Paired (d : NVDriver) (image buffer : NVDObject) : Prop where
  live : d.objects.Live buffer
  type : buffer.type = ObjectType.buffer.code
  id : (d.images (payload image)).imageBufferId = buffer.id
  ptr : (d.images (payload image)).imageBuffer = payload buffer
  owned : (d.buffers (payload buffer)).imageOwned = true

/-- The live objects are apart in memory; images and image-owned buffers come in pairs. -/
structure PairInv (d : NVDriver) : Prop where
  stored : ∃ free, Stored d.objects free
  apart : ∀ first second, d.objects.Live first → d.objects.Live second →
    first.address = second.address → first = second
  pointer : ∀ object, d.objects.Live object →
    object.type = ObjectType.buffer.code ∨ object.type = ObjectType.image.code →
    object.obj = some (object.address + objectSize)
  image : ∀ image, d.objects.Live image → image.type = ObjectType.image.code →
    ∃ buffer, Paired d image buffer
  distinct : ∀ first second buffer, d.objects.Live first → d.objects.Live second →
    first.type = ObjectType.image.code → second.type = ObjectType.image.code →
    Paired d first buffer → Paired d second buffer → first = second
  owner : ∀ buffer, d.objects.Live buffer → buffer.type = ObjectType.buffer.code →
    (d.buffers (payload buffer)).imageOwned = true →
    ∃ image, d.objects.Live image ∧ image.type = ObjectType.image.code ∧ Paired d image buffer

theorem PairInv.init (maxBytes : Nat) : PairInv (objectSystem maxBytes).init := by
  have hnone : ∀ object, ¬(objectSystem maxBytes).init.objects.Live object := by
    rintro object ⟨i, hi⟩
    have hpast : nvdObjectTableAt nvdObjectTableInit i = none := if_neg (Nat.not_lt_zero i)
    exact absurd (hpast.symm.trans hi) nofun
  exact ⟨⟨[], stored_init⟩, fun _ _ h => absurd h (hnone _), fun _ h => absurd h (hnone _),
    fun _ h => absurd h (hnone _), fun _ _ _ h => absurd h (hnone _),
    fun _ h => absurd h (hnone _)⟩

variable {d d' : NVDriver}

/-- A pair is one in another state too, where its buffer is live and the memory of the two is
the same. -/
theorem Paired.transfer {image buffer : NVDObject} (hpaired : Paired d image buffer)
    (hlive : d'.objects.Live buffer)
    (hbuffer : d'.buffers (payload buffer) = d.buffers (payload buffer))
    (himage : d'.images (payload image) = d.images (payload image)) :
    Paired d' image buffer where
  live := hlive
  type := hpaired.type
  id := himage ▸ hpaired.id
  ptr := himage ▸ hpaired.ptr
  owned := hbuffer ▸ hpaired.owned

/-- The memory of the objects of a driver that are images and buffers is the same in
another. -/
structure SamePayloads (d d' : NVDriver) (among : NVDObjectTable) : Prop where
  buffers : ∀ buffer, among.Live buffer → buffer.type = ObjectType.buffer.code →
    d'.buffers (payload buffer) = d.buffers (payload buffer)
  images : ∀ image, among.Live image → image.type = ObjectType.image.code →
    d'.images (payload image) = d.images (payload image)

namespace PairInv

theorem payload_eq (h : PairInv d) {object : NVDObject} (hlive : d.objects.Live object)
    (htype : object.type = ObjectType.buffer.code ∨ object.type = ObjectType.image.code) :
    payload object = object.address + objectSize := by
  unfold payload
  rw [h.pointer object hlive htype]
  rfl

/-- Objects may go in pairs. -/
theorem restrict (h : PairInv d) (hstored : ∃ free, Stored d'.objects free)
    (hlive : ∀ object, d'.objects.Live object → d.objects.Live object)
    (hsame : SamePayloads d d' d'.objects)
    (hkept : ∀ image buffer, d.objects.Live image → image.type = ObjectType.image.code →
      Paired d image buffer → (d'.objects.Live image ↔ d'.objects.Live buffer)) :
    PairInv d' := by
  have hback : ∀ image buffer, d'.objects.Live image → image.type = ObjectType.image.code →
      Paired d' image buffer → Paired d image buffer := by
    intro image buffer himage htype hpaired
    exact hpaired.transfer (hlive _ hpaired.live)
      (hsame.buffers buffer hpaired.live hpaired.type).symm (hsame.images image himage htype).symm
  refine ⟨hstored, fun first second hfirst hsecond =>
    h.apart first second (hlive _ hfirst) (hlive _ hsecond), fun object hobject =>
    h.pointer object (hlive _ hobject), fun image himage htype => ?_, ?_, ?_⟩
  · obtain ⟨buffer, hpaired⟩ := h.image image (hlive _ himage) htype
    have hbuffer := (hkept image buffer (hlive _ himage) htype hpaired).mp himage
    exact ⟨buffer, hpaired.transfer hbuffer (hsame.buffers buffer hbuffer hpaired.type)
      (hsame.images image himage htype)⟩
  · intro first second buffer hfirst hsecond htype htype' hpaired hpaired'
    exact h.distinct first second buffer (hlive _ hfirst) (hlive _ hsecond) htype htype'
      (hback first buffer hfirst htype hpaired) (hback second buffer hsecond htype' hpaired')
  · intro buffer hbuffer htype howned
    rw [hsame.buffers buffer hbuffer htype] at howned
    obtain ⟨image, himage, hitype, hpaired⟩ := h.owner buffer (hlive _ hbuffer) htype howned
    have himage' := (hkept image buffer himage hitype hpaired).mpr hbuffer
    exact ⟨image, himage', hitype, hpaired.transfer hbuffer
      (hsame.buffers buffer hbuffer htype) (hsame.images image himage' hitype)⟩

end PairInv

namespace PairInv

/-- Objects may come in pairs, at addresses of their own. -/
theorem extend (h : PairInv d) (hstored : ∃ free, Stored d'.objects free)
    (hlive : ∀ object, d.objects.Live object → d'.objects.Live object)
    (hsame : SamePayloads d d' d.objects)
    (hapart : ∀ first second, d'.objects.Live first → d'.objects.Live second →
      ¬d.objects.Live second → first.address = second.address → first = second)
    (hpointer : ∀ object, d'.objects.Live object → ¬d.objects.Live object →
      object.type = ObjectType.buffer.code ∨ object.type = ObjectType.image.code →
      object.obj = some (object.address + objectSize))
    (himage : ∀ image, d'.objects.Live image → ¬d.objects.Live image →
      image.type = ObjectType.image.code →
      ∃ buffer, Paired d' image buffer ∧ ¬d.objects.Live buffer)
    (hdistinct : ∀ first second, d'.objects.Live first → ¬d.objects.Live first →
      d'.objects.Live second → ¬d.objects.Live second → first.type = ObjectType.image.code →
      second.type = ObjectType.image.code → first = second)
    (howner : ∀ buffer, d'.objects.Live buffer → ¬d.objects.Live buffer →
      buffer.type = ObjectType.buffer.code →
      (d'.buffers (payload buffer)).imageOwned = true →
      ∃ image, d'.objects.Live image ∧ image.type = ObjectType.image.code ∧
        Paired d' image buffer) : PairInv d' := by
  obtain ⟨free, hids⟩ := hstored
  -- Whether an image is new is told by its buffer.
  have hold : ∀ image buffer, d'.objects.Live image → image.type = ObjectType.image.code →
      Paired d' image buffer → (d.objects.Live image ↔ d.objects.Live buffer) := by
    intro image buffer hnow htype hpaired
    constructor
    · intro hbefore
      obtain ⟨other, hother⟩ := h.image image hbefore htype
      have hsameId : other.id = buffer.id := by
        rw [← hother.id, ← hsame.images image hbefore htype, hpaired.id]
      have heq := hids.live_injective (hlive _ hother.live) hpaired.live hsameId
      rw [← heq]
      exact hother.live
    · intro hbuffer
      by_contra hbefore
      obtain ⟨other, hother, hnew⟩ := himage image hnow hbefore htype
      have heq := hids.live_injective hother.live hpaired.live (hother.id.symm.trans hpaired.id)
      rw [heq] at hnew
      exact hnew hbuffer
  have hforth : ∀ image buffer, d.objects.Live image → image.type = ObjectType.image.code →
      Paired d image buffer → Paired d' image buffer := by
    intro image buffer hbefore htype hpaired
    exact hpaired.transfer (hlive _ hpaired.live)
      (hsame.buffers buffer hpaired.live hpaired.type) (hsame.images image hbefore htype)
  refine ⟨⟨free, hids⟩, fun first second hfirst hsecond haddress => ?_, fun object hobject htype =>
    ?_, fun image hnow htype => ?_, fun first second buffer hfirst hsecond htype htype' hpaired
      hpaired' => ?_, fun buffer hnow htype howned => ?_⟩
  · by_cases hnew : d.objects.Live second
    · by_cases hnew' : d.objects.Live first
      · exact h.apart first second hnew' hnew haddress
      · exact (hapart second first hsecond hfirst hnew' haddress.symm).symm
    · exact hapart first second hfirst hsecond hnew haddress
  · by_cases hbefore : d.objects.Live object
    · exact h.pointer object hbefore htype
    · exact hpointer object hobject hbefore htype
  · by_cases hbefore : d.objects.Live image
    · obtain ⟨buffer, hpaired⟩ := h.image image hbefore htype
      exact ⟨buffer, hforth image buffer hbefore htype hpaired⟩
    · obtain ⟨buffer, hpaired, -⟩ := himage image hnow hbefore htype
      exact ⟨buffer, hpaired⟩
  · by_cases hbuffer : d.objects.Live buffer
    · have hbefore := (hold first buffer hfirst htype hpaired).mpr hbuffer
      have hbefore' := (hold second buffer hsecond htype' hpaired').mpr hbuffer
      refine h.distinct first second buffer hbefore hbefore' htype htype' ?_ ?_
      · exact hpaired.transfer hbuffer (hsame.buffers buffer hbuffer hpaired.type).symm
          (hsame.images first hbefore htype).symm
      · exact hpaired'.transfer hbuffer (hsame.buffers buffer hbuffer hpaired.type).symm
          (hsame.images second hbefore' htype').symm
    · refine hdistinct first second hfirst ?_ hsecond ?_ htype htype'
      · exact fun hbefore => hbuffer ((hold first buffer hfirst htype hpaired).mp hbefore)
      · exact fun hbefore => hbuffer ((hold second buffer hsecond htype' hpaired').mp hbefore)
  · by_cases hbefore : d.objects.Live buffer
    · rw [hsame.buffers buffer hbefore htype] at howned
      obtain ⟨image, himage, hitype, hpaired⟩ := h.owner buffer hbefore htype howned
      exact ⟨image, hlive _ himage, hitype, hforth image buffer himage hitype hpaired⟩
    · exact howner buffer hnow hbefore htype howned

/-- The driver after a call that leaves the objects and their memory as they are. -/
theorem same (h : PairInv d) (hstored : ∃ free, Stored d'.objects free)
    (hlive : ∀ object, d'.objects.Live object ↔ d.objects.Live object)
    (hsame : SamePayloads d d' d.objects) : PairInv d' := by
  refine h.restrict hstored (fun object => (hlive object).mp) ?_ fun image buffer himage _
    hpaired => ?_
  · exact ⟨fun buffer hbuffer => hsame.buffers buffer ((hlive buffer).mp hbuffer),
      fun image himage => hsame.images image ((hlive image).mp himage)⟩
  · exact iff_of_true ((hlive image).mpr himage) ((hlive buffer).mpr hpaired.live)

/-- An object is added that is no image, and no buffer of one. -/
theorem add (h : PairInv d) {type : ObjectType} {answer : Allocation} {object : NVDObject}
    (hstored : ∃ free, Stored d'.objects free)
    (hadded : Added d.objects d'.objects type answer object) (hfresh : FreshObject d answer)
    (hsame : SamePayloads d d' d.objects) (htype : type ≠ .image)
    (hbuffer : type = .buffer → object.obj = some (object.address + objectSize) ∧
      (d'.buffers (payload object)).imageOwned = false) : PairInv d' := by
  have hnew : ∀ other, d'.objects.Live other → ¬d.objects.Live other → other = object := by
    intro other hnow hbefore
    exact ((hadded.live other).mp hnow).resolve_left hbefore
  have hnoImage : object.type ≠ ObjectType.image.code := by
    rw [hadded.type]
    exact fun hcode => htype (ObjectType.code_injective hcode)
  have hplain : object.type = ObjectType.buffer.code → type = .buffer := by
    rw [hadded.type]
    exact fun hcode => ObjectType.code_injective hcode
  refine h.extend hstored (fun other hother => (hadded.live other).mpr (.inl hother)) hsame ?_ ?_
    ?_ ?_ ?_
  · intro first second hfirst hsecond hbefore haddress
    rw [hnew second hsecond hbefore] at haddress ⊢
    rcases (hadded.live first).mp hfirst with hold | heq
    · exact absurd haddress (hfresh _ (Option.mem_def.mpr hadded.address) first hold)
    · exact heq
  · intro other hnow hbefore hkind
    rw [hnew other hnow hbefore] at hkind ⊢
    exact (hbuffer (hplain (hkind.resolve_right hnoImage))).1
  · intro image hnow hbefore hkind
    rw [hnew image hnow hbefore] at hkind
    exact absurd hkind hnoImage
  · intro first second hfirst hbefore _ _ hkind
    rw [hnew first hfirst hbefore] at hkind
    exact absurd hkind hnoImage
  · intro buffer hnow hbefore hkind howned
    rw [hnew buffer hnow hbefore] at hkind howned
    rw [(hbuffer (hplain hkind)).2] at howned
    cases howned

end PairInv

/-! ## Creation -/

section Creation

variable {free : List Nat}

theorem SamePayloads.of_eq (among : NVDObjectTable) (hbuffers : d'.buffers = d.buffers)
    (himages : d'.images = d.images) : SamePayloads d d' among :=
  ⟨fun buffer _ _ => congrFun hbuffers (payload buffer),
    fun image _ _ => congrFun himages (payload image)⟩

theorem allocateBufferMemory_owned (memory : Option Nat) (pool : BufferPool.NVDriver)
    (buffer : BufferPool.NVBuffer) (size : Nat) :
    (allocateBufferMemory memory pool buffer size).2.1.imageOwned = buffer.imageOwned := by
  unfold allocateBufferMemory
  simp only
  split
  · rfl
  · split
    · rfl
    · split
      · rfl
      · rfl

/-- An object that was added is deleted again. -/
theorem added_deleted {type : ObjectType} {answer : Allocation} {object : NVDObject}
    {before : NVDObjectTable} (h : Stored d.objects free)
    (hadded : Added before d.objects type answer object) :
    (∃ free', Stored (deleteObject d object.id).objects free') ∧
      ∀ other, (deleteObject d object.id).objects.Live other ↔ before.Live other := by
  have hlive : d.objects.Live object := (hadded.live object).mpr (.inr rfl)
  obtain ⟨hstored, hafter⟩ := deleteObject_live h (getObject_label h hlive hadded.type)
  refine ⟨hstored, fun other => ?_⟩
  rw [hafter, hadded.live]
  constructor
  · rintro ⟨hbefore | heq, hother⟩
    · exact hbefore
    · exact absurd heq hother
  · intro hbefore
    refine ⟨.inl hbefore, ?_⟩
    rintro rfl
    exact hadded.fresh other hbefore rfl

/-- The memory of the live objects is not where a new object is. -/
theorem PairInv.payload_ne (h : PairInv d) {answer : Allocation} {object other : NVDObject}
    (hfresh : FreshObject d answer) (haddress : answer.object = some object.address)
    (hobj : object.obj = some (object.address + objectSize)) (hlive : d.objects.Live other)
    (htype : other.type = ObjectType.buffer.code ∨ other.type = ObjectType.image.code) :
    payload other ≠ payload object := by
  intro hptr
  rw [h.payload_eq hlive htype] at hptr
  unfold payload at hptr
  rw [hobj] at hptr
  exact hfresh _ (Option.mem_def.mpr haddress) other hlive (Nat.add_right_cancel hptr)

/-- A buffer of the application is added, or nothing. -/
theorem PairInv.createBuffer (h : PairInv d) (context : BitVec 32) (validType : Bool)
    (size numElements : Nat) {answer : Allocation} (memory : Option Nat) (word : Nat)
    (hfresh : FreshObject d answer) :
    PairInv (nvCreateBuffer d context validType size numElements answer memory word).1 := by
  obtain ⟨free, hstored⟩ := h.stored
  unfold nvCreateBuffer
  split
  · exact h
  · split
    · exact h
    · split
      · exact h
      · rename_i bufferSize _
        cases hcall : allocateObject d .buffer sizeofBuffer answer with
        | mk d₁ found =>
            obtain ⟨⟨hbuffers, himages⟩, ⟨free₁, hstored₁⟩, hcases⟩ :=
              allocateObject_cases hstored .buffer answer hcall
            rcases hcases with ⟨rfl, hlive⟩ | ⟨object, rfl, hadded, hobj⟩
            · exact h.same ⟨free₁, hstored₁⟩ hlive (.of_eq _ hbuffers himages)
            · simp only
              have howned := allocateBufferMemory_owned memory d₁.pool
                { imageOwned := false, size := bufferSize } bufferSize
              split
              · rename_i pool hmemory
                obtain ⟨hafter, hlive⟩ := added_deleted (d := { d₁ with pool }) hstored₁ hadded
                obtain ⟨hbuffers', himages'⟩ := deleteObject_payloads { d₁ with pool } object.id
                exact h.same hafter hlive
                  (.of_eq _ (hbuffers'.trans hbuffers) (himages'.trans himages))
              · rename_i buf pool hmemory
                rw [hmemory] at howned
                have hobj := hobj (by decide)
                refine h.add ⟨free₁, hstored₁⟩ hadded hfresh ?_ nofun fun _ => ?_
                · refine ⟨fun buffer hbuffer htype => ?_, fun image _ _ =>
                    congrFun himages (payload image)⟩
                  have hptr := h.payload_ne hfresh hadded.address hobj hbuffer (.inl htype)
                  exact (Function.update_of_ne hptr _ _).trans (congrFun hbuffers _)
                · refine ⟨hobj, ?_⟩
                  change (Function.update d₁.buffers (payload object) buf _).imageOwned = false
                  rw [Function.update_self]
                  exact howned

theorem Added.congr {before table after : NVDObjectTable} {type : ObjectType}
    {answer : Allocation} {object : NVDObject} (hadded : Added before table type answer object)
    (hlive : ∀ other, after.Live other ↔ table.Live other) :
    Added before after type answer object where
  live other := (hlive other).trans (hadded.live other)
  fresh := hadded.fresh
  address := hadded.address
  type := hadded.type

/-- Neither an image nor a buffer has come or gone. -/
structure Untouched (d d' : NVDriver) : Prop where
  stored : ∃ free, Stored d'.objects free
  live : ∀ object, d'.objects.Live object ↔ d.objects.Live object
  same : SamePayloads d d' d.objects

/-- An image and its buffer have been added. -/
structure Created (d d' : NVDriver) (image buffer : NVDObject) : Prop where
  stored : ∃ free, Stored d'.objects free
  live : ∀ object, d'.objects.Live object ↔
    d.objects.Live object ∨ object = image ∨ object = buffer
  same : SamePayloads d d' d.objects
  type : image.type = ObjectType.image.code
  paired : Paired d' image buffer
  pointers : image.obj = some (image.address + objectSize) ∧
    buffer.obj = some (buffer.address + objectSize)
  fresh : ¬d.objects.Live image ∧ ¬d.objects.Live buffer
  apart : ∀ other, d.objects.Live other →
    other.address ≠ image.address ∧ other.address ≠ buffer.address
  addresses : image.address ≠ buffer.address

/-- Past its checks the creation of an image adds two objects or none. -/
theorem PairInv.createImageObjects (h : PairInv d) (image : Readback.NVImage) (imageSize : Nat)
    {imageAnswer bufferAnswer : Allocation} (memory : Option Nat)
    (hfreshImage : FreshObject d imageAnswer) (hfreshBuffer : FreshObject d bufferAnswer)
    (happart : ∀ address ∈ imageAnswer.object, address ∉ bufferAnswer.object) {d' : NVDriver}
    {status : VAStatus} {imageId bufferId : BitVec 32}
    (hcall : createImageObjects d image imageSize imageAnswer bufferAnswer memory =
      (d', status, imageId, bufferId)) :
    (status = .allocationFailed ∧ imageId = vaInvalidId ∧ bufferId = vaInvalidId ∧
      Untouched d d') ∨
    (status = .success ∧ ∃ imageObj bufferObj, imageId = imageObj.id ∧ bufferId = bufferObj.id ∧
      Created d d' imageObj bufferObj) := by
  obtain ⟨free, hstored⟩ := h.stored
  unfold Images.createImageObjects at hcall
  cases hfirst : allocateObject d .image sizeofImage imageAnswer with
  | mk d₁ found =>
  rw [hfirst] at hcall
  obtain ⟨⟨hbuffers₁, himages₁⟩, ⟨free₁, hstored₁⟩, hcases₁⟩ :=
    allocateObject_cases hstored .image imageAnswer hfirst
  rcases hcases₁ with ⟨rfl, hlive₁⟩ | ⟨imageObj, rfl, hadded₁, hobj₁⟩
  · cases hcall
    exact .inl ⟨rfl, rfl, rfl, ⟨free₁, hstored₁⟩, hlive₁, .of_eq _ hbuffers₁ himages₁⟩
  have hobj₁ := hobj₁ (by decide)
  simp only at hcall
  have hne₁ : ∀ other, d.objects.Live other → other.type = ObjectType.image.code →
      payload other ≠ payload imageObj := fun other hlive htype =>
    h.payload_ne hfreshImage hadded₁.address hobj₁ hlive (.inr htype)
  generalize hd₁ : ({ d₁ with
    images := Function.update d₁.images (payload imageObj) { toNVImage := image } } : NVDriver) =
      d₁' at hcall
  have hobjects₁ : d₁'.objects = d₁.objects := by
    rw [← hd₁]
  have hbuffers₁' : d₁'.buffers = d.buffers := by
    rw [← hd₁]
    exact hbuffers₁
  have himages₁' : ∀ ptr, ptr ≠ payload imageObj → d₁'.images ptr = d.images ptr := by
    intro ptr hptr
    rw [← hd₁, ← himages₁]
    exact Function.update_of_ne hptr _ _
  rw [← hobjects₁] at hstored₁ hadded₁
  cases hsecond : allocateObject d₁' .buffer sizeofBuffer bufferAnswer with
  | mk d₂ found =>
  rw [hsecond] at hcall
  obtain ⟨⟨hbuffers₂, himages₂⟩, ⟨free₂, hstored₂⟩, hcases₂⟩ :=
    allocateObject_cases hstored₁ .buffer bufferAnswer hsecond
  have hbuffers : d₂.buffers = d.buffers := hbuffers₂.trans hbuffers₁'
  have himages : ∀ ptr, ptr ≠ payload imageObj → d₂.images ptr = d.images ptr := by
    intro ptr hptr
    rw [himages₂]
    exact himages₁' ptr hptr
  rcases hcases₂ with ⟨rfl, hlive₂⟩ | ⟨bufferObj, rfl, hadded₂, hobj₂⟩
  · cases hcall
    obtain ⟨hafter, hlive⟩ := added_deleted hstored₂ (hadded₁.congr hlive₂)
    obtain ⟨hbuffers', himages'⟩ := deleteObject_payloads d₂ imageObj.id
    refine .inl ⟨rfl, rfl, rfl, hafter, hlive, fun buffer _ _ => ?_, fun image hlive htype => ?_⟩
    · rw [hbuffers', hbuffers]
    · rw [himages', himages _ (hne₁ image hlive htype)]
  have hobj₂ := hobj₂ (by decide)
  simp only at hcall
  split at hcall
  · rename_i pool _
    cases hcall
    obtain ⟨⟨free₃, hstored₃⟩, hlive₃⟩ := added_deleted (d := { d₂ with pool }) hstored₂ hadded₂
    obtain ⟨hafter, hlive⟩ := added_deleted hstored₃ (hadded₁.congr hlive₃)
    obtain ⟨hbuffers₃, himages₃⟩ := deleteObject_payloads { d₂ with pool } bufferObj.id
    obtain ⟨hbuffers', himages'⟩ :=
      deleteObject_payloads (deleteObject { d₂ with pool } bufferObj.id) imageObj.id
    refine .inl ⟨rfl, rfl, rfl, hafter, hlive, fun buffer _ _ => ?_, fun image hlive htype => ?_⟩
    · rw [hbuffers', hbuffers₃, hbuffers]
    · rw [himages', himages₃]
      exact himages _ (hne₁ image hlive htype)
  · rename_i filled pool hmemory
    have howned := allocateBufferMemory_owned memory d₂.pool
      { imageOwned := true, size := imageSize } imageSize
    rw [hmemory] at howned
    have hlive : ∀ object, d₂.objects.Live object ↔
        d.objects.Live object ∨ object = imageObj ∨ object = bufferObj := by
      intro object
      rw [hadded₂.live, hadded₁.live, or_assoc]
    have hfreshIn : ∀ {answer : Allocation} {object : NVDObject}, FreshObject d answer →
        answer.object = some object.address →
        ∀ other, d.objects.Live other → other.address ≠ object.address :=
      fun hfresh haddress other hother => hfresh _ (Option.mem_def.mpr haddress) other hother
    have himageLive : d₁'.objects.Live imageObj := (hadded₁.live imageObj).mpr (.inr rfl)
    cases hcall
    refine .inr ⟨rfl, imageObj, bufferObj, rfl, rfl, ⟨free₂, hstored₂⟩, hlive, ⟨?_, ?_⟩,
      hadded₁.type, ⟨?_, hadded₂.type, ?_, ?_, ?_⟩, ⟨hobj₁, hobj₂⟩, ⟨?_, ?_⟩,
      fun other hother => ⟨hfreshIn hfreshImage hadded₁.address other hother,
        hfreshIn hfreshBuffer hadded₂.address other hother⟩, fun haddress => ?_⟩
    · intro buffer hbuffer htype
      have hptr := h.payload_ne hfreshBuffer hadded₂.address hobj₂ hbuffer (.inl htype)
      exact (Function.update_of_ne hptr _ _).trans (congrFun hbuffers _)
    · intro other hother htype
      have hptr := hne₁ other hother htype
      exact (Function.update_of_ne hptr _ _).trans (himages _ hptr)
    · exact (hlive bufferObj).mpr (.inr (.inr rfl))
    · change (Function.update d₂.images (payload imageObj) _ (payload imageObj)).imageBufferId = _
      rw [Function.update_self]
    · change (Function.update d₂.images (payload imageObj) _ (payload imageObj)).imageBuffer = _
      rw [Function.update_self]
    · change (Function.update d₂.buffers (payload bufferObj) filled _).imageOwned = true
      rw [Function.update_self]
      exact howned
    · exact fun hbefore => hadded₁.fresh imageObj hbefore rfl
    · intro hbefore
      exact hadded₂.fresh bufferObj ((hadded₁.live bufferObj).mpr (.inl hbefore)) rfl
    · refine happart _ (Option.mem_def.mpr hadded₁.address) (Option.mem_def.mpr ?_)
      rw [hadded₂.address, haddress]
theorem PairInv.untouched (h : PairInv d) (huntouched : Untouched d d') : PairInv d' :=
  h.same huntouched.stored huntouched.live huntouched.same

/-- The two new objects are a pair. -/
theorem PairInv.created (h : PairInv d) {image buffer : NVDObject}
    (hcreated : Created d d' image buffer) : PairInv d' := by
  have hnew : ∀ other, d'.objects.Live other → ¬d.objects.Live other →
      other = image ∨ other = buffer := fun other hnow hbefore =>
    ((hcreated.live other).mp hnow).resolve_left hbefore
  have hkinds : ∀ {other : NVDObject}, other.type = ObjectType.image.code →
      other.type = ObjectType.buffer.code → False := by
    intro other himage hbuffer
    rw [himage] at hbuffer
    exact absurd (ObjectType.code_injective hbuffer) nofun
  have himageLive : d'.objects.Live image := (hcreated.live image).mpr (.inr (.inl rfl))
  have himageOnly : ∀ other, d'.objects.Live other → ¬d.objects.Live other →
      other.type = ObjectType.image.code → other = image := by
    intro other hnow hbefore htype
    rcases hnew other hnow hbefore with heq | heq
    · exact heq
    · rw [heq] at htype
      exact (hkinds htype hcreated.paired.type).elim
  refine h.extend hcreated.stored (fun other hother => (hcreated.live other).mpr (.inl hother))
    hcreated.same ?_ ?_ ?_ ?_ ?_
  · intro first second hfirst hsecond hbefore haddress
    rcases hnew second hsecond hbefore with rfl | rfl
    · rcases (hcreated.live first).mp hfirst with hold | rfl | rfl
      · exact absurd haddress (hcreated.apart first hold).1
      · rfl
      · exact absurd haddress.symm hcreated.addresses
    · rcases (hcreated.live first).mp hfirst with hold | rfl | rfl
      · exact absurd haddress (hcreated.apart first hold).2
      · exact absurd haddress hcreated.addresses
      · rfl
  · intro other hnow hbefore _
    rcases hnew other hnow hbefore with rfl | rfl
    · exact hcreated.pointers.1
    · exact hcreated.pointers.2
  · intro other hnow hbefore htype
    rw [himageOnly other hnow hbefore htype]
    exact ⟨buffer, hcreated.paired, hcreated.fresh.2⟩
  · intro first second hfirst hbefore hsecond hbefore' htype htype'
    rw [himageOnly first hfirst hbefore htype, himageOnly second hsecond hbefore' htype']
  · intro other hnow hbefore htype _
    rcases hnew other hnow hbefore with rfl | rfl
    · exact (hkinds hcreated.type htype).elim
    · exact ⟨image, himageLive, hcreated.type, hcreated.paired⟩

end Creation

/-! ## Destruction -/

namespace PairInv

/-- An object is deleted that is no image, and no buffer of one. -/
theorem delete (h : PairInv d) {type : ObjectType} {id : BitVec 32} {object : NVDObject}
    (hget : getObject d type id = some object) (htype : type ≠ .image)
    (hplain : type = .buffer → (d.buffers (payload object)).imageOwned = false)
    {pool : BufferPool.NVDriver} : PairInv (deleteObject { d with pool } id) := by
  obtain ⟨free, hstored⟩ := h.stored
  obtain ⟨-, -, hkind⟩ := getObject_some hget
  obtain ⟨hafter, hlive⟩ := deleteObject_live (d := { d with pool }) hstored hget
  obtain ⟨hbuffers, himages⟩ := deleteObject_payloads { d with pool } id
  refine h.restrict hafter (fun other hother => ((hlive other).mp hother).1)
    (.of_eq _ hbuffers himages) fun image buffer himage hitype hpaired => ?_
  have himageNe : image ≠ object := by
    rintro rfl
    rw [hitype] at hkind
    exact htype (ObjectType.code_injective hkind).symm
  have hbufferNe : buffer ≠ object := by
    rintro rfl
    have htypeBuffer := ObjectType.code_injective (hkind.symm.trans hpaired.type)
    have howned := hpaired.owned
    rw [hplain htypeBuffer] at howned
    cases howned
  exact iff_of_true ((hlive image).mpr ⟨himage, himageNe⟩)
    ((hlive buffer).mpr ⟨hpaired.live, hbufferNe⟩)

/-- A live image or buffer is found with its payload. -/
theorem getObjectPtr_eq (h : PairInv d) {type : ObjectType} {id : BitVec 32} {object : NVDObject}
    (hget : getObject d type id = some object) (htype : type = .buffer ∨ type = .image) :
    getObjectPtr d type id = some (payload object) := by
  obtain ⟨free, hstored⟩ := h.stored
  obtain ⟨-, hdenoted, hkind⟩ := getObject_some hget
  have hlive := ((hstored.denoted_iff id object).mp hdenoted).1
  have hobj := h.pointer object hlive (by
    rcases htype with rfl | rfl
    · exact .inl hkind
    · exact .inr hkind)
  unfold getObjectPtr payload
  rw [hget, Option.bind_some, hobj]
  rfl

/-- The id of an image's buffer leads to the buffer. -/
theorem getObject_paired (h : PairInv d) {image buffer : NVDObject}
    (hpaired : Paired d image buffer) :
    getObject d .buffer (d.images (payload image)).imageBufferId = some buffer := by
  obtain ⟨free, hstored⟩ := h.stored
  rw [hpaired.id]
  exact getObject_label hstored hpaired.live hpaired.type

/-- A buffer of an image is not destroyed. -/
theorem destroyBuffer_paired (h : PairInv d) {image buffer : NVDObject} {id : BitVec 32}
    (hpaired : Paired d image buffer) (hget : getObject d .buffer id = some buffer) :
    nvDestroyBuffer d id = (d, .operationFailed) := by
  unfold nvDestroyBuffer
  rw [h.getObjectPtr_eq hget (.inl rfl)]
  simp only
  rw [if_pos hpaired.owned]

theorem destroyBuffer (h : PairInv d) (id : BitVec 32) : PairInv (nvDestroyBuffer d id).1 := by
  unfold nvDestroyBuffer
  cases hptr : getObjectPtr d .buffer id with
  | none => exact h
  | some buf =>
      obtain ⟨object, hget, hpayload⟩ := getObjectPtr_some hptr
      simp only
      split
      · exact h
      · rename_i hplain
        refine h.delete hget nofun fun _ => ?_
        rw [hpayload]
        exact Bool.not_eq_true _ ▸ hplain

/-- An image is destroyed together with its buffer, and nothing else is. -/
theorem destroyImage_live (h : PairInv d) {id : BitVec 32} {image buffer : NVDObject}
    (hget : getObject d .image id = some image) (hpaired : Paired d image buffer) :
    (nvDestroyImage d id).2 = .success ∧
      (∃ free, Stored (nvDestroyImage d id).1.objects free) ∧
      (∀ object, (nvDestroyImage d id).1.objects.Live object ↔
        d.objects.Live object ∧ object ≠ image ∧ object ≠ buffer) ∧
      (nvDestroyImage d id).1.buffers = d.buffers ∧
      (nvDestroyImage d id).1.images = d.images := by
  obtain ⟨free, hstored⟩ := h.stored
  have hgetBuffer := h.getObject_paired hpaired
  have hptr := h.getObjectPtr_eq hgetBuffer (.inl rfl)
  obtain ⟨hid, hdenoted, hkind⟩ := getObject_some hget
  have himage := ((hstored.denoted_iff id image).mp hdenoted).1
  have hne : image ≠ buffer := by
    rintro rfl
    exact absurd (ObjectType.code_injective (hkind.symm.trans hpaired.type)) nofun
  unfold nvDestroyImage
  rw [h.getObjectPtr_eq hget (.inr rfl)]
  simp only
  rw [if_pos (by rw [hptr]; rfl)]
  generalize hpool : releaseBufferMemory d.pool _ = pool
  obtain ⟨⟨free₁, hstored₁⟩, hlive₁⟩ := deleteObject_live (d := { d with pool }) hstored hgetBuffer
  obtain ⟨hbuffers₁, himages₁⟩ :=
    deleteObject_payloads { d with pool } (d.images (payload image)).imageBufferId
  -- The buffer is gone; the image is still found.
  have hget₁ : getObject (deleteObject { d with pool } (d.images (payload image)).imageBufferId)
      .image id = some image := by
    unfold getObject
    rw [if_pos hid, nvdObjectTableGet_eq, Option.filter_eq_some_iff, hstored₁.denoted_iff, hlive₁]
    exact ⟨⟨⟨himage, hne⟩, ((hstored.denoted_iff id image).mp hdenoted).2⟩, decide_eq_true hkind⟩
  obtain ⟨hafter, hlive⟩ := deleteObject_live hstored₁ hget₁
  obtain ⟨hbuffers, himages⟩ := deleteObject_payloads
    (deleteObject { d with pool } (d.images (payload image)).imageBufferId) id
  refine ⟨trivial, hafter, fun object => ?_, hbuffers.trans hbuffers₁, himages.trans himages₁⟩
  rw [hlive, hlive₁, and_assoc, and_comm (a := object ≠ buffer)]

theorem destroyImage (h : PairInv d) (id : BitVec 32) : PairInv (nvDestroyImage d id).1 := by
  cases hptr : getObjectPtr d .image id with
  | none =>
      unfold nvDestroyImage
      rw [hptr]
      exact h
  | some img =>
      obtain ⟨free, hstored⟩ := h.stored
      obtain ⟨image, hget, -⟩ := getObjectPtr_some hptr
      obtain ⟨-, hdenoted, hkind⟩ := getObject_some hget
      have himage := ((hstored.denoted_iff id image).mp hdenoted).1
      obtain ⟨buffer, hpaired⟩ := h.image image himage hkind
      obtain ⟨-, hafter, hlive, hbuffers, himages⟩ := h.destroyImage_live hget hpaired
      refine h.restrict hafter (fun other hother => ((hlive other).mp hother).1)
        (.of_eq _ hbuffers himages) fun other otherBuffer hother hotype hopaired => ?_
      rw [hlive, hlive]
      have himageKind : otherBuffer ≠ image := by
        rintro rfl
        exact absurd (ObjectType.code_injective (hkind.symm.trans hopaired.type)) nofun
      have hbufferKind : other ≠ buffer := by
        rintro rfl
        exact absurd (ObjectType.code_injective (hotype.symm.trans hpaired.type)) nofun
      constructor
      · rintro ⟨-, hne, -⟩
        refine ⟨hopaired.live, himageKind, ?_⟩
        rintro rfl
        exact hne (h.distinct other image otherBuffer hother himage hotype hkind hopaired hpaired)
      · rintro ⟨-, -, hne⟩
        refine ⟨hother, ?_, hbufferKind⟩
        rintro rfl
        exact hne (hstored.live_injective hopaired.live hpaired.live
          (hopaired.id.symm.trans hpaired.id))

end PairInv

/-! ## Runs -/

theorem other_types {type : ObjectType} (hother : type.other = true) :
    type ≠ .buffer ∧ type ≠ .image := by
  unfold ObjectType.other at hother
  rw [Bool.and_eq_true, decide_eq_true_iff, decide_eq_true_iff] at hother
  exact hother

/-- Every call keeps images and image-owned buffers in pairs. -/
theorem PairInv.after (h : PairInv d) {call : Call} (hanswered : Answered d call) :
    PairInv (d.after call) := by
  obtain ⟨free, hstored⟩ := h.stored
  cases call with
  | createObject type payloadSize answer =>
      change PairInv (if type.other then (allocateObject d type payloadSize answer).1 else d)
      split
      · rename_i hother
        have htypes := other_types hother
        cases hcall : allocateObject d type payloadSize answer with
        | mk d₁ found =>
            obtain ⟨⟨hbuffers, himages⟩, hstored₁, hcases⟩ :=
              allocateObject_cases hstored type answer hcall
            rcases hcases with ⟨-, hlive⟩ | ⟨object, -, hadded, -⟩
            · exact h.same hstored₁ hlive (.of_eq _ hbuffers himages)
            · exact h.add hstored₁ hadded hanswered (.of_eq _ hbuffers himages) htypes.2
                fun hbuffer => absurd hbuffer htypes.1
      · exact h
  | deleteObject type id =>
      change PairInv (if type.other ∧ (getObject d type id).isSome then deleteObject d id else d)
      split
      · rename_i hother
        have htypes := other_types hother.1
        obtain ⟨object, hget⟩ := Option.isSome_iff_exists.mp hother.2
        exact h.delete hget htypes.2 fun hbuffer => absurd hbuffer htypes.1
      · exact h
  | createBuffer context validType size numElements answer memory word =>
      exact h.createBuffer context validType size numElements memory word hanswered
  | mapBuffer bufferId => exact h
  | unmapBuffer bufferId => exact h
  | writeBuffer bufferId word =>
      change PairInv (writeBuffer d bufferId word)
      unfold writeBuffer
      split
      · exact h
      · exact h.same h.stored (fun _ => Iff.rfl) (.of_eq _ rfl rfl)
  | destroyBuffer bufferId => exact h.destroyBuffer bufferId
  | createImage fourcc width height imageAnswer bufferAnswer memory =>
      obtain ⟨himage, hbuffer, hapart⟩ := hanswered
      change PairInv (nvCreateImage d fourcc width height imageAnswer bufferAnswer memory).1
      unfold nvCreateImage
      split
      · exact h
      · rename_i image layout _
        obtain ⟨-, -, -, huntouched⟩ | ⟨-, imageObj, bufferObj, -, -, hcreated⟩ :=
          h.createImageObjects image layout.dataSize memory himage hbuffer hapart
            (Prod.eta _).symm
        · exact h.untouched huntouched
        · exact h.created hcreated
  | destroyImage image => exact h.destroyImage image

theorem reachable_pairInv {maxBytes : Nat}
    (hd : (objectSystem maxBytes).ReachableUnder Answered d) : PairInv d := by
  refine LabelledSystem.invariant (PairInv.init maxBytes) ?_ hd
  intro d call d' h hanswered hstep
  cases hstep
  exact h.after hanswered

/-! ## Main result -/

theorem imageRefusal_ne_success (fourcc : Nat) (width height : Int) :
    imageRefusal fourcc width height ≠ .success := by
  unfold imageRefusal
  simp only
  split
  · nofun
  · split
    · nofun
    · nofun

/-- In every driver that is reached, every live image has a live buffer that is marked as an
image's and is no other image's.  The buffer is not destroyed by itself, and the image is
destroyed with it and with nothing else.  A creation of an image that fails leaves the live
objects as they were, and one that succeeds adds the image and its buffer. -/
theorem images_paired {maxBytes : Nat} {d : NVDriver}
    (hd : (objectSystem maxBytes).ReachableUnder Answered d) :
    (∀ image, d.objects.Live image → image.type = ObjectType.image.code →
      ∃ buffer, d.objects.Live buffer ∧
        getObject d .buffer (d.images (payload image)).imageBufferId = some buffer ∧
        (d.images (payload image)).imageBuffer = payload buffer ∧
        (d.buffers (payload buffer)).imageOwned = true ∧
        (∀ other, d.objects.Live other → other.type = ObjectType.image.code →
          (d.images (payload other)).imageBufferId = (d.images (payload image)).imageBufferId ∨
            (d.images (payload other)).imageBuffer = (d.images (payload image)).imageBuffer →
          other = image) ∧
        (∀ id, getObject d .buffer id = some buffer →
          nvDestroyBuffer d id = (d, .operationFailed)) ∧
        ∀ id, getObject d .image id = some image →
          (nvDestroyImage d id).2 = .success ∧
          (∀ object, (nvDestroyImage d id).1.objects.Live object ↔
            d.objects.Live object ∧ object ≠ image ∧ object ≠ buffer) ∧
          (nvDestroyImage d id).1.buffers = d.buffers ∧
          (nvDestroyImage d id).1.images = d.images) ∧
    (∀ id, getObject d .image id = none → nvDestroyImage d id = (d, .invalidImage)) ∧
    ∀ (fourcc : Nat) (width height : Int) (imageAnswer bufferAnswer : Allocation)
      (memory : Option Nat) (d' : NVDriver) (status : VAStatus) (imageId bufferId : BitVec 32),
      Answered d (.createImage fourcc width height imageAnswer bufferAnswer memory) →
      nvCreateImage d fourcc width height imageAnswer bufferAnswer memory =
        (d', status, imageId, bufferId) →
      (status ≠ .success → imageId = vaInvalidId ∧ bufferId = vaInvalidId ∧
        ∀ object, d'.objects.Live object ↔ d.objects.Live object) ∧
      (status = .success → ∃ image buffer, image.id = imageId ∧ buffer.id = bufferId ∧
        image.type = ObjectType.image.code ∧ Paired d' image buffer ∧
        ∀ object, d'.objects.Live object ↔
          d.objects.Live object ∨ object = image ∨ object = buffer) := by
  have h := reachable_pairInv hd
  refine ⟨fun image himage htype => ?_, fun id hget => ?_, ?_⟩
  · obtain ⟨buffer, hpaired⟩ := h.image image himage htype
    refine ⟨buffer, hpaired.live, h.getObject_paired hpaired, hpaired.ptr, hpaired.owned,
      fun other hother hotype hshared => ?_, fun id => h.destroyBuffer_paired hpaired,
      fun id hget => ?_⟩
    · obtain ⟨otherBuffer, hopaired⟩ := h.image other hother hotype
      have hsame : otherBuffer = buffer := by
        rcases hshared with hid | hptr
        · obtain ⟨free, hstored⟩ := h.stored
          rw [hopaired.id, hpaired.id] at hid
          exact hstored.live_injective hopaired.live hpaired.live hid
        · rw [hopaired.ptr, hpaired.ptr, h.payload_eq hopaired.live (.inl hopaired.type),
            h.payload_eq hpaired.live (.inl hpaired.type)] at hptr
          exact h.apart _ _ hopaired.live hpaired.live (Nat.add_right_cancel hptr)
      rw [hsame] at hopaired
      exact h.distinct other image buffer hother himage hotype htype hopaired hpaired
    · obtain ⟨hstatus, -, hlive, hbuffers, himages⟩ := h.destroyImage_live hget hpaired
      exact ⟨hstatus, hlive, hbuffers, himages⟩
  · have hptr : getObjectPtr d .image id = none := by
      unfold getObjectPtr
      rw [hget]
      rfl
    unfold nvDestroyImage
    rw [hptr]
  · intro fourcc width height imageAnswer bufferAnswer memory d' status imageId bufferId hanswered
      hcall
    obtain ⟨hfreshImage, hfreshBuffer, happart⟩ := hanswered
    unfold nvCreateImage at hcall
    split at hcall
    · cases hcall
      exact ⟨fun _ => ⟨rfl, rfl, fun _ => Iff.rfl⟩, fun hsuccess =>
        absurd hsuccess (imageRefusal_ne_success fourcc width height)⟩
    · obtain ⟨rfl, rfl, rfl, huntouched⟩ | ⟨rfl, image, buffer, rfl, rfl, hcreated⟩ :=
        h.createImageObjects _ _ memory hfreshImage hfreshBuffer happart hcall
      · exact ⟨fun _ => ⟨rfl, rfl, huntouched.live⟩, nofun⟩
      · exact ⟨fun hfailed => absurd rfl hfailed, fun _ =>
          ⟨image, buffer, rfl, rfl, hcreated.type, hcreated.paired, hcreated.live⟩⟩

/-- An image of 8 by 8 pixels in a new driver. -/
def firstImage : Call :=
  .createImage 0x42475241 8 8 ⟨true, some 4096⟩ ⟨true, some 8192⟩ (some 64)

/-- An object is found memory for in a table with an empty slot. -/
theorem allocation_succeeds {table : NVDObjectTable} {i : Nat} {rest : List Nat}
    (h : Stored table (i :: rest)) (type : ObjectType) {payloadSize : BitVec 64}
    (hsize : payloadSize.toNat ≤ 72) (reallocated : Bool) (address : Nat) :
    ∃ object, (nvdObjectTableAllocate table type.code payloadSize reallocated
      (some address)).2 = some object := by
  have hhead : table.freeHead = i := h.queue.links.head_cons
  have hi : i < maxCapacity := (h.free_lt i List.mem_cons_self).trans_le h.bound
  have hsome : ¬table.freeHead = slotNone := by
    rw [hhead]
    have hmax : maxCapacity = 2 ^ 15 := rfl
    unfold slotNone
    omega
  have htype : ¬7 ≤ type.code.toNat := by
    cases type <;> decide
  have hready : readyTable table type.code payloadSize reallocated = some table := by
    unfold readyTable
    rw [if_neg (not_or.mpr ⟨htype, by unfold objectSize; omega⟩), if_neg hsome]
  unfold nvdObjectTableAllocate
  rw [hready]
  exact ⟨_, rfl⟩

/-- The first object takes the first of the slots that the table is given. -/
theorem first_slots : ∃ free object,
    Stored (nvdObjectTableAllocate nvdObjectTableInit ObjectType.image.code sizeofImage true
      (some 4096)).1 (1 :: free) ∧
    (nvdObjectTableAllocate nvdObjectTableInit ObjectType.image.code sizeofImage true
      (some 4096)).2 = some object := by
  have hready : readyTable nvdObjectTableInit ObjectType.image.code sizeofImage true =
      some (nvdObjectTableInit.extend initialCapacity) := rfl
  obtain ⟨i, rest, hlist, hstored, -⟩ := stored_init.ready hready
  obtain ⟨after, object, htaken, hafter, -⟩ :=
    hstored.takeSlot_some ObjectType.image.code sizeofImage 4096
  have hcall : nvdObjectTableAllocate nvdObjectTableInit ObjectType.image.code sizeofImage true
      (some 4096) = (after, some object) := by
    unfold nvdObjectTableAllocate
    rw [hready]
    exact htaken
  have hrest : rest = 1 :: List.range' 2 4094 := (List.cons.inj hlist).2.symm
  rw [hcall]
  exact ⟨_, object, hrest ▸ hafter, rfl⟩

theorem allocateBufferMemory_succeeds (address : Nat) (pool : BufferPool.NVDriver)
    (buffer : BufferPool.NVBuffer) (size : Nat) :
    ∃ filled pool', allocateBufferMemory (some address) pool buffer size =
      (true, filled, pool') := by
  unfold allocateBufferMemory
  simp only
  split
  · exact ⟨_, _, rfl⟩
  · split
    · exact ⟨_, _, rfl⟩
    · exact ⟨_, _, rfl⟩

/-- With memory for the image, its buffer and the data an image is created. -/
theorem createImageObjects_succeeds {free : List Nat} {d₁ : NVDriver} {i : Nat}
    {imageObj : NVDObject} (image : Readback.NVImage) (imageSize : Nat) {imageAnswer : Allocation}
    (hfirst : allocateObject d .image sizeofImage imageAnswer = (d₁, some imageObj))
    (hstored : Stored d₁.objects (i :: free)) (reallocated : Bool) (address block : Nat) :
    (createImageObjects d image imageSize imageAnswer ⟨reallocated, some address⟩
      (some block)).2.1 = .success := by
  obtain ⟨buffer, hbuffer⟩ : ∃ buffer, (nvdObjectTableAllocate d₁.objects ObjectType.buffer.code
      sizeofBuffer reallocated (some address)).2 = some buffer :=
    allocation_succeeds hstored .buffer (by decide) reallocated address
  unfold createImageObjects
  rw [hfirst]
  simp only
  unfold allocateObject
  simp only
  rw [hbuffer]
  simp only
  obtain ⟨filled, pool, hmemory⟩ := allocateBufferMemory_succeeds block d₁.pool
    { imageOwned := true, size := imageSize } imageSize
  rw [hmemory]

theorem firstImage_created :
    (nvCreateImage (objectSystem 0).init 0x42475241 8 8 ⟨true, some 4096⟩ ⟨true, some 8192⟩
      (some 64)).2.1 = .success := by
  obtain ⟨free, image, hstored, himage⟩ := first_slots
  obtain ⟨format, layout, hlayout⟩ : ∃ image layout,
      Readback.nvCreateImage 0x42475241 8 8 = some (image, layout) := ⟨_, _, rfl⟩
  have hfirst : allocateObject (objectSystem 0).init .image sizeofImage ⟨true, some 4096⟩ =
      ({ (objectSystem 0).init with objects := (nvdObjectTableAllocate nvdObjectTableInit
        ObjectType.image.code sizeofImage true (some 4096)).1 }, some image) := by
    rw [← himage]
    rfl
  have hcreate : ∀ d : NVDriver, nvCreateImage d 0x42475241 8 8 ⟨true, some 4096⟩
      ⟨true, some 8192⟩ (some 64) = createImageObjects d format layout.dataSize
        ⟨true, some 4096⟩ ⟨true, some 8192⟩ (some 64) := by
    intro d
    unfold nvCreateImage
    rw [hlayout]
  rw [hcreate]
  exact createImageObjects_succeeds format layout.dataSize hfirst hstored true 8192 64

/-- The first image cannot lose its buffer. -/
theorem images_paired_first : ∃ image buffer,
    ((objectSystem 0).init.after firstImage).objects.Live image ∧
    nvDestroyBuffer ((objectSystem 0).init.after firstImage) buffer =
      ((objectSystem 0).init.after firstImage, .operationFailed) ∧
    (nvDestroyImage ((objectSystem 0).init.after firstImage) image.id).2 = .success := by
  have hfresh : ∀ answer, FreshObject (objectSystem 0).init answer := by
    rintro answer address - object ⟨i, hi⟩
    have hpast : nvdObjectTableAt nvdObjectTableInit i = none := if_neg (Nat.not_lt_zero i)
    exact absurd (hpast.symm.trans hi) nofun
  have hanswered : Answered (objectSystem 0).init firstImage := by
    refine ⟨hfresh _, hfresh _, ?_⟩
    rintro address ⟨⟩
    nofun
  rcases hcall : nvCreateImage (objectSystem 0).init 0x42475241 8 8 ⟨true, some 4096⟩
    ⟨true, some 8192⟩ (some 64) with ⟨d, status, imageId, bufferId⟩
  have hcreate : ∀ d : NVDriver, d.after firstImage = (nvCreateImage d 0x42475241 8 8
      ⟨true, some 4096⟩ ⟨true, some 8192⟩ (some 64)).1 := fun _ => rfl
  have hafter : (objectSystem 0).init.after firstImage = d := by
    rw [hcreate, hcall]
  have hstatus : status = .success := by
    have hcreated := firstImage_created
    rw [hcall] at hcreated
    exact hcreated
  obtain ⟨-, -, hcreates⟩ := images_paired (.refl (objectSystem 0).init)
  obtain ⟨image, buffer, -, -, htype, -, hlive⟩ :=
    (hcreates _ _ _ _ _ _ _ _ _ _ hanswered hcall).2 hstatus
  have himage : d.objects.Live image := (hlive image).mpr (.inr (.inl rfl))
  have hreached : (objectSystem 0).ReachableUnder Answered d :=
    .tail firstImage (.refl _) hanswered (congrArg some hafter)
  obtain ⟨free, hstored⟩ := (reachable_pairInv hreached).stored
  obtain ⟨hpairs, -⟩ := images_paired hreached
  obtain ⟨buffer, -, hget, -, -, -, hkept, hdestroy⟩ := hpairs image himage htype
  rw [hafter]
  exact ⟨image, _, himage, hkept _ hget, (hdestroy _ (getObject_label hstored himage htype)).1⟩

end Images
end NvidiaVaapi
