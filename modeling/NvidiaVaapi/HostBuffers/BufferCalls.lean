import NvidiaVaapi.Slices.SliceData

/-!
# Sequences of calls on a host buffer

The functions of `appendable-buffer.c` as calls with a result, and what any sequence
of them leaves in a buffer.  The history of a sequence is the calls with their results;
the contents and the failure flag of the buffer are read off it.
-/

namespace NvidiaVaapi
namespace HostBuffers

open Codec Slices

/-- `trimBuffer`; the flag is its result. -/
def trimBuffer (heap : Heap) (buffer : AppendableBuffer) (targetCapacity : Nat) :
    AppendableBuffer × Bool :=
  let target := if targetCapacity < buffer.size then buffer.size else targetCapacity
  if target ≥ buffer.allocated then (buffer, true)
  else if target = 0 then (buffer.move heap 0, true)
  else if heap.available target then (buffer.move heap target, true)
  else (buffer, false)

/-- The calls of the driver on a buffer.  The arguments are of type `size_t`; `reset` and
`restart` are the assignments of the callers to `size`, without and with one to `failed`. -/
inductive BufferCall where
  | reserve (required : UInt64)
  | reserveAdditional (additional : UInt64)
  | reserveElements (elements elementSize : UInt64)
  | append (data : {data : List UInt8 // data.length ≤ sizeMax})
  | appendNull (size : UInt64)
  | reset
  | restart
  | trim (targetCapacity : UInt64)
  | free

namespace BufferCall

/-- The call asks for room, and notes it in `failed` when there is none. -/
def demands : BufferCall → Bool
  | .reserve _ | .reserveAdditional _ | .reserveElements _ _ | .append _ | .appendNull _ => true
  | .reset | .restart | .trim _ | .free => false

/-- The call changes the capacity only. -/
def resizes : BufferCall → Bool
  | .reserve _ | .reserveAdditional _ | .reserveElements _ _ | .trim _ => true
  | .append _ | .appendNull _ | .reset | .restart | .free => false

end BufferCall

/-- A call with its result; an assignment counts as a success. -/
def perform (heap : Heap) (buffer : AppendableBuffer) : BufferCall → AppendableBuffer × Bool
  | .reserve required => buffer.reserve heap required.toNat
  | .reserveAdditional additional => reserveAdditionalBuffer heap buffer additional.toNat
  | .reserveElements elements elementSize =>
    reserveBufferElements heap buffer elements.toNat elementSize.toNat
  | .append data => buffer.append heap data.val
  | .appendNull size =>
    if size = 0 then (buffer, true) else ({ buffer with failed := true }, false)
  | .reset => (buffer.clear, true)
  | .restart => ({ buffer.clear with failed := false }, true)
  | .trim targetCapacity => trimBuffer heap buffer targetCapacity.toNat
  | .free => ({}, true)

/-- The calls made so far, with their results. -/
abbrev History := List (BufferCall × Bool)

/-- A sequence of calls, each with the answers that `memalign` gives during it. -/
def performAll (buffer : AppendableBuffer) :
    List (Heap × BufferCall) → AppendableBuffer × History
  | [] => (buffer, [])
  | (heap, call) :: rest =>
    let (buffer', result) := perform heap buffer call
    let (last, history) := performAll buffer' rest
    (last, (call, result) :: history)

/-! ## What a history leaves behind -/

/-- The byte list after one more call. -/
def appendedBy (bytes : List UInt8) : BufferCall × Bool → List UInt8
  | (.append data, true) => bytes ++ data.val
  | (.reset, _) | (.restart, _) | (.free, _) => []
  | _ => bytes

/-- The data of the successful calls of `appendBuffer` since the last reset. -/
def appended (history : History) : List UInt8 :=
  history.foldl appendedBy []

/-- The failure flag after one more call. -/
def notedBy (noted : Bool) : BufferCall × Bool → Bool
  | (.restart, _) | (.free, _) => false
  | (call, result) => noted || (call.demands && !result)

/-- Whether a call that asks for room has failed since the flag was cleared. -/
def failureNoted (history : History) : Bool :=
  history.foldl notedBy false

theorem appendedBy_of_resizes {call : BufferCall} (hresizes : call.resizes = true)
    (bytes : List UInt8) (result : Bool) : appendedBy bytes (call, result) = bytes := by
  cases call <;> simp_all [appendedBy, BufferCall.resizes]

theorem appendedBy_of_refused {call : BufferCall} (hdemands : call.demands = true)
    (bytes : List UInt8) : appendedBy bytes (call, false) = bytes := by
  cases call <;> simp_all [appendedBy, BufferCall.demands]

theorem notedBy_of_demands {call : BufferCall} (hdemands : call.demands = true)
    (noted result : Bool) : notedBy noted (call, result) = (noted || !result) := by
  cases call <;> simp_all [notedBy, BufferCall.demands]

/-! ## The search for a capacity in machine arithmetic -/

/-- `SIZE_MAX` as a value of `size_t`. -/
def sizeMax64 : UInt64 := 0xFFFFFFFFFFFFFFFF

/-- The loop of `reserveBuffer` in the arithmetic of `size_t`, with sums that wrap; `none`
where it has not ended after the rounds. -/
def growthLoop (required : UInt64) : Nat → UInt64 → Option UInt64
  | 0, _ => none
  | rounds + 1, capacity =>
    if capacity < required then
      let growth := capacity >>> 1
      if growth = 0 ∨ capacity > sizeMax64 - growth then some required
      else growthLoop required rounds (capacity + growth)
    else some capacity

/-- No capacity on the way is more than the required one and the first one allow for. -/
theorem growCapacity_le {required rounds capacity : Nat} (hrequired : required ≤ sizeMax)
    (hcapacity : capacity ≤ sizeMax) : growCapacity required rounds capacity ≤ sizeMax := by
  induction rounds generalizing capacity with
  | zero => exact hcapacity
  | succ rounds ih =>
      unfold growCapacity
      split
      · simp only
        split
        · exact hrequired
        · rename_i hgrows
          apply ih
          omega
      · exact hcapacity

theorem grownCapacity_le {allocated required : Nat} (hrequired : required ≤ sizeMax)
    (hallocated : allocated ≤ sizeMax) : grownCapacity allocated required ≤ sizeMax := by
  apply growCapacity_le hrequired
  split
  · exact hallocated
  · show 256 ≤ 2 ^ 64 - 1
    omega

/-- The loop ends, and its sums do not wrap: it finds the capacity of the exact search. -/
theorem growthLoop_eq (required : UInt64) (rounds : Nat) (capacity : UInt64)
    (hrounds : required.toNat ≤ capacity.toNat + rounds) :
    ∃ found, growthLoop required (rounds + 1) capacity = some found ∧
      found.toNat = growCapacity required.toNat rounds capacity.toNat := by
  induction rounds generalizing capacity with
  | zero =>
      have hreached : ¬ capacity < required := by
        rw [UInt64.lt_iff_toNat_lt]
        omega
      refine ⟨capacity, ?_, rfl⟩
      unfold growthLoop
      rw [if_neg hreached]
  | succ rounds ih =>
      unfold growthLoop growCapacity
      by_cases hless : capacity < required
      · have hlessNat : capacity.toNat < required.toNat := UInt64.lt_iff_toNat_lt.mp hless
        have hgrowth : (capacity >>> 1).toNat = capacity.toNat / 2 := by
          simp [Nat.shiftRight_eq_div_pow]
        have hlimit : (sizeMax64 - capacity >>> 1).toNat =
            sizeMax - capacity.toNat / 2 := by
          rw [UInt64.toNat_sub_of_le, hgrowth]
          · rfl
          · rw [UInt64.le_iff_toNat_le, hgrowth]
            have := capacity.toNat_lt
            show capacity.toNat / 2 ≤ 2 ^ 64 - 1
            omega
        have hguard : (capacity >>> 1 = 0 ∨ capacity > sizeMax64 - capacity >>> 1) ↔
            (capacity.toNat / 2 = 0 ∨ capacity.toNat > sizeMax - capacity.toNat / 2) := by
          apply or_congr
          · rw [← UInt64.toNat_inj, hgrowth]
            rfl
          · show _ < _ ↔ _ < _
            rw [UInt64.lt_iff_toNat_lt, hlimit]
        rw [if_pos hless, if_pos hlessNat]
        simp only
        by_cases hstops : capacity.toNat / 2 = 0 ∨
            capacity.toNat > sizeMax - capacity.toNat / 2
        · rw [if_pos (hguard.mpr hstops), if_pos hstops]
          exact ⟨required, rfl, rfl⟩
        · rw [if_neg (mt hguard.mp hstops), if_neg hstops]
          have hsizeMax : sizeMax = 2 ^ 64 - 1 := rfl
          have hsum : (capacity + capacity >>> 1).toNat =
              capacity.toNat + capacity.toNat / 2 := by
            rw [UInt64.toNat_add, hgrowth]
            apply Nat.mod_eq_of_lt
            omega
          rw [← hsum]
          apply ih
          omega
      · have hreached : ¬ capacity.toNat < required.toNat := mt UInt64.lt_iff_toNat_lt.mpr hless
        rw [if_neg hless, if_neg hreached]
        exact ⟨capacity, rfl, rfl⟩

/-- From the capacity of any block the loop ends without a sum that wraps, and the capacity it
finds is enough. -/
theorem growthLoop_ends (allocated required : UInt64) :
    ∃ found, growthLoop required (required.toNat + 1)
        (if allocated ≠ 0 then allocated else 256) = some found ∧
      found.toNat = grownCapacity allocated.toNat required.toNat ∧ required ≤ found := by
  have hstart : (if allocated ≠ 0 then allocated else 256 : UInt64).toNat =
      if allocated.toNat ≠ 0 then allocated.toNat else 256 := by
    by_cases hnone : allocated = 0
    · subst hnone
      rfl
    · have hnat : allocated.toNat ≠ 0 := fun hzero => hnone (UInt64.toNat_inj.mp hzero)
      rw [if_pos hnone, if_pos hnat]
  obtain ⟨found, hends, hfound⟩ := growthLoop_eq required required.toNat
    (if allocated ≠ 0 then allocated else 256) (Nat.le_add_left _ _)
  rw [hstart] at hfound
  refine ⟨found, hends, hfound, ?_⟩
  rw [UInt64.le_iff_toNat_le, hfound]
  exact le_grownCapacity _ _

/-! ## One call -/

/-- What a call does to a buffer, as its result tells it. -/
structure Outcome (buffer : AppendableBuffer) (call : BufferCall)
    (result : AppendableBuffer × Bool) : Prop where
  bytes : result.1.bytes = appendedBy buffer.bytes (call, result.2)
  noted : result.1.failed = notedBy buffer.failed (call, result.2)
  unchanged : result.2 = false →
    result.1 = if call.demands = true then { buffer with failed := true } else buffer
  fits : buffer.allocated ≤ sizeMax → result.1.allocated ≤ sizeMax

theorem allocated_move (buffer : AppendableBuffer) (heap : Heap) (capacity : Nat) :
    (buffer.move heap capacity).allocated = max buffer.size capacity := by
  simp only [AppendableBuffer.allocated, AppendableBuffer.move, List.length_append,
    AppendableBuffer.length_bytes, List.length_map, List.length_range']
  omega

/-- The block after a reservation is one of `size_t` bytes at most. -/
theorem reserve_fits (heap : Heap) (buffer : AppendableBuffer) {required : Nat}
    (hrequired : required ≤ sizeMax) (hfits : buffer.allocated ≤ sizeMax) :
    (buffer.reserve heap required).1.allocated ≤ sizeMax := by
  unfold AppendableBuffer.reserve
  simp only
  split
  · exact hfits
  · split
    · rw [allocated_move]
      have hgrown := grownCapacity_le hrequired hfits
      have hsize : buffer.size ≤ buffer.allocated := buffer.size_le
      omega
    · exact hfits

section Calls

variable {heap : Heap} {buffer : AppendableBuffer} {call : BufferCall}

/-- A call that asks for room without writing to it. -/
theorem Outcome.of_reserve {required : Nat} (hdemands : call.demands = true)
    (hresizes : call.resizes = true) (hrequired : required ≤ sizeMax) :
    Outcome buffer call (buffer.reserve heap required) := by
  have hfits := reserve_fits heap buffer hrequired
  cases hreserve : buffer.reserve heap required with
  | mk buffer' result =>
    rw [hreserve] at hfits
    cases result with
    | true =>
        obtain ⟨hkept, _, hfailed, _⟩ := AppendableBuffer.reserve_spec hreserve
        refine ⟨?_, ?_, nofun, hfits⟩
        · rw [appendedBy_of_resizes hresizes]
          exact hkept
        · rw [notedBy_of_demands hdemands]
          simpa using hfailed
    | false =>
        have hfailed := AppendableBuffer.reserve_failed hreserve
        refine ⟨?_, ?_, ?_, hfits⟩
        · rw [appendedBy_of_resizes hresizes, hfailed]
          rfl
        · rw [notedBy_of_demands hdemands, hfailed]
          simp
        · intro _
          rw [if_pos hdemands]
          exact hfailed

/-- A call that is refused before it asks for room. -/
theorem Outcome.of_refused (hdemands : call.demands = true) :
    Outcome buffer call ({ buffer with failed := true }, false) := by
  refine ⟨?_, ?_, fun _ => (if_pos hdemands).symm, id⟩
  · exact (appendedBy_of_refused hdemands buffer.bytes).symm
  · rw [notedBy_of_demands hdemands]
    exact (Bool.or_true _).symm

theorem Outcome.of_reserveAdditional {additional : Nat} (hdemands : call.demands = true)
    (hresizes : call.resizes = true) (hadditional : additional ≤ sizeMax) :
    Outcome buffer call (reserveAdditionalBuffer heap buffer additional) := by
  unfold reserveAdditionalBuffer
  split
  · exact .of_refused hdemands
  · exact .of_reserve hdemands hresizes (by omega)

theorem Outcome.of_reserveElements {elements elementSize : Nat} (hdemands : call.demands = true)
    (hresizes : call.resizes = true) :
    Outcome buffer call (reserveBufferElements heap buffer elements elementSize) := by
  unfold reserveBufferElements
  split
  · exact .of_refused hdemands
  · rename_i hguard
    apply Outcome.of_reserveAdditional hdemands hresizes
    by_cases hnone : elements = 0
    · subst hnone
      rw [Nat.zero_mul]
      exact Nat.zero_le _
    · have hle : elementSize ≤ sizeMax / elements := by
        by_contra hmore
        exact hguard ⟨hnone, by omega⟩
      calc elements * elementSize ≤ elements * (sizeMax / elements) := Nat.mul_le_mul_left _ hle
        _ ≤ sizeMax := Nat.mul_div_le _ _

/-- The data lies in the block, so that writing it leaves the block as large as it was. -/
theorem allocated_write {data : List UInt8}
    (hroom : buffer.size + data.length ≤ buffer.allocated) :
    (buffer.write data hroom).allocated = buffer.allocated := by
  have hlength : buffer.size + data.length ≤ buffer.buf.length := hroom
  show (buffer.bytes ++ data ++ buffer.buf.drop (buffer.size + data.length)).length =
    buffer.buf.length
  rw [List.length_append, List.length_append, AppendableBuffer.length_bytes, List.length_drop]
  omega

theorem append_fits (heap : Heap) (buffer : AppendableBuffer) {data : List UInt8}
    (hdata : data.length ≤ sizeMax)
    (hfits : buffer.allocated ≤ sizeMax) :
    (buffer.append heap data).1.allocated ≤ sizeMax := by
  unfold AppendableBuffer.append
  split
  · exact hfits
  · split
    · exact hfits
    · rename_i hguard
      have hrequired : buffer.size + data.length ≤ sizeMax := by omega
      have hreserved := reserve_fits heap buffer hrequired hfits
      split
      · rename_i hreserve
        rw [hreserve] at hreserved
        rw [allocated_write]
        exact hreserved
      · rename_i hreserve
        rw [hreserve] at hreserved
        exact hreserved

theorem Outcome.of_append (data : {data : List UInt8 // data.length ≤ sizeMax}) :
    Outcome buffer (.append data) (buffer.append heap data.val) := by
  have hfits := append_fits heap buffer data.property
  cases happend : buffer.append heap data.val with
  | mk buffer' result =>
    rw [happend] at hfits
    cases result with
    | true =>
        obtain ⟨hbytes, _, hfailed⟩ := AppendableBuffer.append_spec happend
        exact ⟨hbytes, hfailed.trans (Bool.or_false _).symm, nofun, hfits⟩
    | false =>
        have hfailed := AppendableBuffer.append_failed happend
        subst hfailed
        exact ⟨rfl, (Bool.or_true _).symm, fun _ => rfl, hfits⟩

/-- A block that is moved to make it smaller. -/
theorem Outcome.of_move {targetCapacity : UInt64} {target : Nat}
    (hsmaller : target < buffer.allocated) :
    Outcome buffer (.trim targetCapacity) (buffer.move heap target, true) := by
  refine ⟨AppendableBuffer.move_bytes _ _ _, (Bool.or_false _).symm, nofun, fun hfits => ?_⟩
  have hsize : buffer.size ≤ buffer.allocated := buffer.size_le
  show (buffer.move heap target).allocated ≤ sizeMax
  rw [allocated_move]
  omega

theorem Outcome.of_trim (targetCapacity : UInt64) :
    Outcome buffer (.trim targetCapacity) (trimBuffer heap buffer targetCapacity.toNat) := by
  unfold trimBuffer
  simp only
  generalize (if targetCapacity.toNat < buffer.size then buffer.size
    else targetCapacity.toNat) = target
  split
  · exact ⟨rfl, (Bool.or_false _).symm, nofun, id⟩
  · rename_i hlarge
    have hsmaller : target < buffer.allocated := by omega
    split
    · rename_i hzero
      subst hzero
      exact .of_move hsmaller
    · split
      · exact .of_move hsmaller
      · exact ⟨rfl, (Bool.or_false _).symm, fun _ => rfl, id⟩

end Calls

/-- Every call does what its result tells. -/
theorem perform_outcome (heap : Heap) (buffer : AppendableBuffer) (call : BufferCall) :
    Outcome buffer call (perform heap buffer call) := by
  cases call with
  | reserve required => exact .of_reserve rfl rfl (Nat.le_sub_one_of_lt required.toNat_lt)
  | reserveAdditional additional =>
      exact .of_reserveAdditional rfl rfl (Nat.le_sub_one_of_lt additional.toNat_lt)
  | reserveElements elements elementSize => exact .of_reserveElements rfl rfl
  | append data => exact .of_append data
  | appendNull size =>
      show Outcome buffer _ (if size = 0 then (buffer, true)
        else ({ buffer with failed := true }, false))
      split
      · exact ⟨rfl, (Bool.or_false _).symm, (by simp), id⟩
      · exact .of_refused rfl
  | reset => exact ⟨rfl, (Bool.or_false _).symm, (fun hfalse => by cases hfalse), id⟩
  | restart => exact ⟨rfl, rfl, (fun hfalse => by cases hfalse), id⟩
  | trim targetCapacity => exact .of_trim targetCapacity
  | free => exact ⟨rfl, rfl, (fun hfalse => by cases hfalse), fun _ => Nat.zero_le _⟩

/-! ## Sequences of calls -/

/-- A sequence of calls takes the contents and the flag along its history. -/
theorem performAll_follows (calls : List (Heap × BufferCall)) (buffer : AppendableBuffer)
    (hfits : buffer.allocated ≤ sizeMax) :
    (performAll buffer calls).1.bytes =
        (performAll buffer calls).2.foldl appendedBy buffer.bytes ∧
      (performAll buffer calls).1.failed =
        (performAll buffer calls).2.foldl notedBy buffer.failed ∧
      (performAll buffer calls).1.allocated ≤ sizeMax := by
  induction calls generalizing buffer with
  | nil => exact ⟨rfl, rfl, hfits⟩
  | cons first rest ih =>
      obtain ⟨heap, call⟩ := first
      have houtcome := perform_outcome heap buffer call
      obtain ⟨hbytes, hfailed, hlast⟩ := ih _ (houtcome.fits hfits)
      rw [houtcome.bytes] at hbytes
      rw [houtcome.noted] at hfailed
      exact ⟨hbytes, hfailed, hlast⟩

/-- A host buffer is a list of bytes.  After any sequence of calls, with memory refused at any
of them, it holds what was appended since the last reset, in a block of enough bytes, and its
flag tells whether a request for room has failed.  A next call that changes the capacity
keeps the bytes, and one that fails keeps the buffer, up to the flag if it asked for room.
The search for a capacity ends with enough, and no sum in it wraps. -/
theorem buffer_isByteList (calls : List (Heap × BufferCall)) :
    (∀ buffer history, performAll {} calls = (buffer, history) →
      buffer.buf.take buffer.size = appended history ∧
        buffer.size = (appended history).length ∧
        buffer.size ≤ buffer.allocated ∧ buffer.allocated ≤ sizeMax ∧
        buffer.failed = failureNoted history ∧
        ∀ heap call buffer' result, perform heap buffer call = (buffer', result) →
          (call.resizes = true →
            buffer'.bytes = buffer.bytes ∧ buffer'.size = buffer.size) ∧
          (result = false → call.demands = true → buffer' = { buffer with failed := true }) ∧
          (result = false → call.demands = false → buffer' = buffer)) ∧
    ∀ allocated required : UInt64,
      ∃ found, growthLoop required (required.toNat + 1)
          (if allocated ≠ 0 then allocated else 256) = some found ∧
        found.toNat = grownCapacity allocated.toNat required.toNat ∧ required ≤ found := by
  refine ⟨fun buffer history hrun => ?_, growthLoop_ends⟩
  obtain ⟨hbytes, hfailed, hfits⟩ := performAll_follows calls {} (Nat.zero_le _)
  rw [hrun] at hbytes hfailed hfits
  have hlength : buffer.size = (appended history).length := by
    rw [← buffer.length_bytes, hbytes]
    rfl
  refine ⟨hbytes, hlength, buffer.size_le, hfits, hfailed, ?_⟩
  intro heap call buffer' result hcall
  have houtcome := perform_outcome heap buffer call
  rw [hcall] at houtcome
  refine ⟨fun hresizes => ?_, fun hresult hdemands => ?_, fun hresult hdemands => ?_⟩
  · have hkept : buffer'.bytes = buffer.bytes := by
      exact houtcome.bytes.trans (appendedBy_of_resizes hresizes _ _)
    refine ⟨hkept, ?_⟩
    rw [← buffer'.length_bytes, hkept, buffer.length_bytes]
  · exact (houtcome.unchanged hresult).trans (if_pos hdemands)
  · apply (houtcome.unchanged hresult).trans
    rw [hdemands]
    rfl

end HostBuffers
end NvidiaVaapi
