import NvidiaVaapi.Driver.Machine
import NvidiaVaapi.Lib.CyclicSearch

/-!
# The selection of picture indices

`nvdSelectPictureIndex` is a cyclic search, and `assignSurfacePictureIndex` repeats it until
an index is found or none can become free.  The context's `surfaceCreationMutex` is held
throughout, so that only the flags of the surfaces change between two turns of its loop.
-/

namespace NvidiaVaapi
namespace Driver

/-- An index that neither mask holds. -/
def free (active busy : BitVec 32) (index : Nat) : Bool :=
  !maskHas active index && !maskHas busy index

section Selection

variable {allocated limit cursor index : Nat} {active busy : BitVec 32}

/-- The bit test of the source reads the bit. -/
theorem and_shiftLeft_bne (mask : BitVec 32) (hindex : index < 32) :
    (mask &&& (1#32 <<< index) != 0#32) = maskHas mask index := by
  cases hbit : maskHas mask index with
  | false =>
      by_contra htrue
      rw [Bool.not_eq_false] at htrue
      rw [and_shiftLeft_ne_zero mask index htrue] at hbit
      cases hbit
  | true =>
      rw [bne_iff_ne]
      intro hzero
      have hset : (mask &&& (1#32 <<< index)).getLsbD index = true := by
        rw [BitVec.getLsbD_and]
        have hmask : mask.getLsbD index = true := hbit
        simp [hmask, hindex]
      rw [hzero, BitVec.getLsbD_zero] at hset
      cases hset

/-- The mask of the source holds the free indices below the limit. -/
theorem maskHas_available (hle : limit ≤ 32) (hindex : index < limit) :
    maskHas (surfaceLimitMask limit &&& ~~~(active ||| busy)) index = free active busy index := by
  have hbit : index < 32 := by omega
  have hlimit : (surfaceLimitMask limit).getLsbD index = true := by
    rw [surfaceLimitMask_eq limit hle, BitVec.getLsbD_ofNat, Nat.testBit_two_pow_sub_one]
    simp [hbit, hindex]
  simp [maskHas, free, hlimit, hbit]

/-- With every index handed out, the selection is the cyclic search for a free index. -/
theorem nvdSelectPictureIndex_recycles (hpos : 1 ≤ limit) (hle : limit ≤ 32)
    (hfull : limit ≤ allocated) :
    nvdSelectPictureIndex allocated limit active busy cursor =
      CyclicSearch.find limit (free active busy) cursor := by
  have hsearch : ((List.range limit).map fun offset => (cursor % limit + offset) % limit).find?
      (fun index => surfaceLimitMask limit &&& ~~~(active ||| busy) &&& (1#32 <<< index) != 0#32) =
        CyclicSearch.find limit (free active busy) cursor := by
    simp only [Nat.mod_add_mod]
    apply CyclicSearch.find_congr
    intro index hindex
    rw [and_shiftLeft_bne _ (by omega), maskHas_available hle hindex]
  unfold nvdSelectPictureIndex nvdMaxDecodeSurfaces
  rw [if_neg (by omega), if_neg (by omega)]
  simp only
  split
  · rename_i hnone
    -- no bit is set, so the search finds nothing either
    rw [← hsearch, hnone, eq_comm, List.find?_eq_none]
    simp
  · exact hsearch

/-- A fresh index is selected while there is one. -/
theorem nvdSelectPictureIndex_fresh (hpos : 1 ≤ limit) (hle : limit ≤ 32)
    (hfresh : allocated < limit) :
    nvdSelectPictureIndex allocated limit active busy cursor = some allocated := by
  unfold nvdSelectPictureIndex nvdMaxDecodeSurfaces
  rw [if_neg (by omega), if_pos hfresh]

/-- What is selected. -/
theorem nvdSelectPictureIndex_eq_some (hpos : 1 ≤ limit) (hle : limit ≤ 32) :
    nvdSelectPictureIndex allocated limit active busy cursor = some index ↔
      (allocated < limit ∧ index = allocated) ∨
      (limit ≤ allocated ∧ ∃ offset < limit, index = (cursor + offset) % limit ∧
        free active busy index = true ∧
        ∀ earlier < offset, free active busy ((cursor + earlier) % limit) = false) := by
  rcases Nat.lt_or_ge allocated limit with hfresh | hfull
  · rw [nvdSelectPictureIndex_fresh hpos hle hfresh, Option.some_inj]
    have hnot : ¬ limit ≤ allocated := by omega
    rw [eq_comm, and_iff_right hfresh]
    exact ⟨.inl, fun h => h.resolve_right fun hfull => hnot hfull.1⟩
  · rw [nvdSelectPictureIndex_recycles hpos hle hfull, CyclicSearch.find_eq_some]
    have hnot : ¬ allocated < limit := by omega
    simp [hfull, hnot]

/-- When nothing is selected. -/
theorem nvdSelectPictureIndex_eq_none (hpos : 1 ≤ limit) (hle : limit ≤ 32) :
    nvdSelectPictureIndex allocated limit active busy cursor = none ↔
      limit ≤ allocated ∧ ∀ index < limit, free active busy index = false := by
  rcases Nat.lt_or_ge allocated limit with hfresh | hfull
  · rw [nvdSelectPictureIndex_fresh hpos hle hfresh]
    have hnot : ¬ limit ≤ allocated := by omega
    simp [hnot]
  · rw [nvdSelectPictureIndex_recycles hpos hle hfull, CyclicSearch.find_eq_none]
    simp [hfull]

end Selection

/-! ## The loop of the assignment -/

/-- What the loop does after it has looked at all owners. -/
inductive Turn where
  | take (index : Nat)
  | wait (owner : SurfaceRef)
  | fail
  deriving DecidableEq, Repr

/-- The end of one turn: the selection, and the search for a surface to wait for. -/
def assignTurn (ctx : NVContext) (limit : Nat) (busyMask : BitVec 32) : Turn :=
  match nvdSelectPictureIndex ctx.currentPictureId limit ctx.activeReferenceMask busyMask
      ctx.pictureIndexRecycleCursor with
  | some selected => .take selected
  | none =>
    match (nvdSelectPictureIndex ctx.currentPictureId limit ctx.activeReferenceMask 0#32
        ctx.pictureIndexRecycleCursor).bind ctx.pictureIndexOwners with
    | none => .fail
    | some owner => .wait owner

/-- One round of the loop over the owners, `resolving` being the flag that is read. -/
def noteBusy (ctx : NVContext) (resolving : Nat → Bool) (busyMask : BitVec 32) (i : Nat) :
    BitVec 32 :=
  if (ctx.pictureIndexOwners i).isSome ∧ resolving i = true then busyMask ||| (1#32 <<< i)
  else busyMask

/-- The `busyMask` of one turn. -/
def busyMask (ctx : NVContext) (limit : Nat) (resolving : Nat → Bool) : BitVec 32 :=
  (List.range limit).foldl (noteBusy ctx resolving) 0#32

/-- How far an assignment has come. -/
inductive Assignment where
  | waiting
  | failed
  | existing (pictureIdx : Int)
  | selected (index : Nat)
  deriving DecidableEq, Repr

/-- The loop of `assignSurfacePictureIndex`, with the flags that each turn reads. -/
def assignLoop (ctx : NVContext) (limit : Nat) : List (Nat → Bool) → Assignment
  | [] => .waiting
  | resolving :: turns =>
    match assignTurn ctx limit (busyMask ctx limit resolving) with
    | .take index => .selected index
    | .wait _ => assignLoop ctx limit turns
    | .fail => .failed

/-- `assignSurfacePictureIndex`, from when it has the `surfaceCreationMutex` on. -/
def assignSurfacePictureIndex (s : State) (c : ContextRef) (r : SurfaceRef) (limit : Nat)
    (turns : List (Nat → Bool)) : State × Assignment :=
  if limit = 0 ∨ nvdMaxDecodeSurfaces < limit then (s, .failed)
  else if (s.contexts c).destroying = true then (s, .failed)
  else if alreadyAssigned s c r limit = true then (s, .existing (s.surfaces r).pictureIdx)
  else
    match assignLoop (s.contexts c) limit turns with
    | .selected index => (commitSurfacePictureIndex s c r limit index, .selected index)
    | result => (s, result)

section Sections

variable {s : State} {c : ContextRef} {r : SurfaceRef} {limit i : Nat} {mask : BitVec 32}

end Sections

/-! ## When an assignment fails -/

section Failure

variable {ctx : NVContext} {limit : Nat} {resolving : Nat → Bool} {turns : List (Nat → Bool)}

/-- Only an index with an owner is noted. -/
theorem owner_of_noted {index : Nat} {indices : List Nat} {mask : BitVec 32}
    (hnoted : maskHas (indices.foldl (noteBusy ctx resolving) mask) index = true) :
    maskHas mask index = true ∨ (ctx.pictureIndexOwners index).isSome = true := by
  induction indices generalizing mask with
  | nil => exact .inl hnoted
  | cons i rest ih =>
      rcases ih hnoted with hmask | howner
      · unfold noteBusy at hmask
        split at hmask
        · rename_i hbusy
          by_cases hi : i = index
          · exact .inr (hi ▸ hbusy.1)
          · refine .inl ?_
            have hbit : (mask ||| (1#32 <<< i)).getLsbD index = true := hmask
            rw [BitVec.getLsbD_or, Bool.or_eq_true] at hbit
            rcases hbit with hbit | hbit
            · exact hbit
            · exfalso
              have hdistinct : index < i ∨ i < index := by omega
              rcases hdistinct with hlt | hlt
              · simp [hlt] at hbit
              · have hne : index - i ≠ 0 := by omega
                simp [hne] at hbit
        · exact .inl hmask
      · exact .inr howner

theorem owner_of_busy {index : Nat} (hbusy : maskHas (busyMask ctx limit resolving) index = true) :
    (ctx.pictureIndexOwners index).isSome = true := by
  rcases owner_of_noted hbusy with hzero | howner
  · simp [maskHas] at hzero
  · exact howner

/-- A turn gives up only when the references hold every index. -/
theorem assignTurn_fail (hpos : 1 ≤ limit) (hle : limit ≤ 32)
    (hfail : assignTurn ctx limit (busyMask ctx limit resolving) = .fail) :
    limit ≤ ctx.currentPictureId ∧
      ∀ index < limit, maskHas ctx.activeReferenceMask index = true := by
  unfold assignTurn at hfail
  split at hfail
  · cases hfail
  · rename_i hnone
    obtain ⟨hfull, hnotFree⟩ := (nvdSelectPictureIndex_eq_none hpos hle).mp hnone
    refine ⟨hfull, ?_⟩
    split at hfail
    · rename_i hnobody
      cases hwait : nvdSelectPictureIndex ctx.currentPictureId limit ctx.activeReferenceMask 0#32
          ctx.pictureIndexRecycleCursor with
      | none =>
          obtain ⟨-, hall⟩ := (nvdSelectPictureIndex_eq_none hpos hle).mp hwait
          intro index hindex
          have hheld := hall index hindex
          simpa [free, maskHas] using hheld
      | some waitIndex =>
          -- The index is not held by a reference, so it is busy, and a busy index has an owner.
          exfalso
          obtain ⟨-, hbelow, hselected⟩ := nvdSelectPictureIndex_spec hwait
          have hinactive : maskHas ctx.activeReferenceMask waitIndex = false := by
            rcases hselected with ⟨hfresh, -⟩ | ⟨-, hinactive, -⟩
            · omega
            · exact hinactive
          have hbusy : maskHas (busyMask ctx limit resolving) waitIndex = true := by
            have hheld := hnotFree waitIndex hbelow
            simpa [free, hinactive] using hheld
          have howner := owner_of_busy hbusy
          rw [hwait, Option.bind_some] at hnobody
          rw [hnobody] at howner
          cases howner
    · cases hfail

theorem assignLoop_failed (hpos : 1 ≤ limit) (hle : limit ≤ 32)
    (hfailed : assignLoop ctx limit turns = .failed) :
    limit ≤ ctx.currentPictureId ∧
      ∀ index < limit, maskHas ctx.activeReferenceMask index = true := by
  induction turns with
  | nil => cases hfailed
  | cons resolving rest ih =>
      unfold assignLoop at hfailed
      split at hfailed
      · cases hfailed
      · exact ih hfailed
      · rename_i hfail
        exact assignTurn_fail hpos hle hfail

/-- An index is taken at the end of some turn. -/
theorem assignLoop_selected {index : Nat} (hselected : assignLoop ctx limit turns = .selected index) :
    ∃ resolving ∈ turns, nvdSelectPictureIndex ctx.currentPictureId limit ctx.activeReferenceMask
      (busyMask ctx limit resolving) ctx.pictureIndexRecycleCursor = some index := by
  induction turns with
  | nil => cases hselected
  | cons resolving rest ih =>
      unfold assignLoop at hselected
      split at hselected
      · rename_i found htake
        cases hselected
        refine ⟨resolving, List.mem_cons_self, ?_⟩
        unfold assignTurn at htake
        split at htake
        · rename_i hselect
          cases htake
          exact hselect
        · split at htake <;> cases htake
      · obtain ⟨later, hmem, hselect⟩ := ih hselected
        exact ⟨later, List.mem_cons_of_mem resolving hmem, hselect⟩
      · cases hselected

end Failure

theorem assignSurfacePictureIndex_failed {s : State} {c : ContextRef} {r : SurfaceRef}
    {limit : Nat} {turns : List (Nat → Bool)} (hpos : 1 ≤ limit) (hle : limit ≤ 32)
    (hdestroying : (s.contexts c).destroying = false)
    (hfailed : (assignSurfacePictureIndex s c r limit turns).2 = .failed) :
    limit ≤ (s.contexts c).currentPictureId ∧
      ∀ index < limit, maskHas (s.contexts c).activeReferenceMask index = true := by
  have hvalid : ¬ (limit = 0 ∨ nvdMaxDecodeSurfaces < limit) := by
    unfold nvdMaxDecodeSurfaces
    omega
  have hlive : ¬ (s.contexts c).destroying = true := by
    rw [hdestroying]
    exact Bool.false_ne_true
  unfold assignSurfacePictureIndex at hfailed
  rw [if_neg hvalid, if_neg hlive] at hfailed
  split at hfailed
  · cases hfailed
  · split at hfailed
    · cases hfailed
    · exact assignLoop_failed hpos hle hfailed

/-! ## Sequences of assignments -/

/-- Between two assignments the context keeps its count and its cursor. -/
structure SameCursor (c : ContextRef) (s t : State) : Prop where
  currentPictureId : (t.contexts c).currentPictureId = (s.contexts c).currentPictureId
  cursor : (t.contexts c).pictureIndexRecycleCursor = (s.contexts c).pictureIndexRecycleCursor

/-- Assignments in a context that hand out indices, with the masks unchanged; whatever else
happens between two of them leaves the cursor alone. -/
inductive Assignments (c : ContextRef) (limit : Nat) (active busy : BitVec 32) :
    State → List Nat → State → Prop where
  | nil (s : State) : Assignments c limit active busy s [] s
  | cons {s t u v : State} {r : SurfaceRef} {turns : List (Nat → Bool)} {index : Nat}
      {rest : List Nat} (hactive : (s.contexts c).activeReferenceMask = active)
      (hbusy : ∀ resolving ∈ turns, busyMask (s.contexts c) limit resolving = busy)
      (hassign : assignSurfacePictureIndex s c r limit turns = (t, .selected index))
      (hkept : SameCursor c t u) (hrest : Assignments c limit active busy u rest v) :
      Assignments c limit active busy s (index :: rest) v

section Sequences

variable {c : ContextRef} {limit : Nat} {active busy : BitVec 32}

/-- An index was taken at a position of the unrolled circle, and the next search begins
behind it. -/
structure Behind (limit p : Nat) (ctx : NVContext) : Prop where
  cursor : ctx.pictureIndexRecycleCursor % limit = (p + 1) % limit
  fresh : ctx.currentPictureId < limit → ctx.currentPictureId = p % limit + 1

theorem commit_cursor (s : State) (c : ContextRef) (r : SurfaceRef) (limit selected : Nat) :
    ((commitSurfacePictureIndex s c r limit selected).contexts c).pictureIndexRecycleCursor =
      (selected + 1) % limit := by
  simp [commitSurfacePictureIndex, takeIndex]

theorem commit_currentPictureId (s : State) (c : ContextRef) (r : SurfaceRef)
    (limit selected : Nat) :
    ((commitSurfacePictureIndex s c r limit selected).contexts c).currentPictureId =
      if selected = (s.contexts c).currentPictureId then (s.contexts c).currentPictureId + 1
      else (s.contexts c).currentPictureId := by
  simp [commitSurfacePictureIndex, takeIndex]

/-- What one assignment of a sequence does. -/
theorem selected_commit {s t : State} {r : SurfaceRef} {turns : List (Nat → Bool)} {index : Nat}
    (hactive : (s.contexts c).activeReferenceMask = active)
    (hbusy : ∀ resolving ∈ turns, busyMask (s.contexts c) limit resolving = busy)
    (hassign : assignSurfacePictureIndex s c r limit turns = (t, .selected index)) :
    nvdSelectPictureIndex (s.contexts c).currentPictureId limit active busy
        (s.contexts c).pictureIndexRecycleCursor = some index ∧
      t = commitSurfacePictureIndex s c r limit index := by
  unfold assignSurfacePictureIndex at hassign
  split at hassign
  · cases hassign
  · split at hassign
    · cases hassign
    · split at hassign
      · cases hassign
      · split at hassign
        · rename_i hselected
          cases hassign
          obtain ⟨resolving, hmem, hselect⟩ := assignLoop_selected hselected
          rw [hactive, hbusy resolving hmem] at hselect
          exact ⟨hselect, rfl⟩
        · rename_i hother
          obtain ⟨-, hselected⟩ := Prod.mk.inj hassign
          exact absurd hselected (hother index)

/-- The count after an assignment, if it is still below the limit, is that behind the index. -/
theorem behind_commit {s : State} {r : SurfaceRef} {index p : Nat} {u : State}
    (hp : p % limit = index)
    (hselect : nvdSelectPictureIndex (s.contexts c).currentPictureId limit active busy
      (s.contexts c).pictureIndexRecycleCursor = some index)
    (hkept : SameCursor c (commitSurfacePictureIndex s c r limit index) u) :
    Behind limit p (u.contexts c) := by
  obtain ⟨-, hbelow, hselected⟩ := nvdSelectPictureIndex_spec hselect
  refine ⟨?_, fun hfresh => ?_⟩
  · rw [hkept.cursor, commit_cursor, Nat.mod_mod, ← hp, Nat.mod_add_mod]
  · rw [hkept.currentPictureId, commit_currentPictureId] at hfresh ⊢
    rw [hp]
    rcases hselected with ⟨-, heq⟩ | ⟨hfull, -, -⟩
    · rw [if_pos heq, heq]
    · split at hfresh <;> omega

/-- The indices of a sequence are at positions that pass over no free index. -/
theorem Assignments.positions (hpos : 1 ≤ limit) (hle : limit ≤ 32) {s t : State}
    {indices : List Nat} (hassigned : Assignments c limit active busy s indices t) {p : Nat}
    (hbehind : Behind limit p (s.contexts c)) :
    ∃ positions : List Nat, indices = positions.map (· % limit) ∧
      (p :: positions).IsChain (CyclicSearch.Next limit (free active busy)) := by
  induction hassigned generalizing p with
  | nil s => exact ⟨[], rfl, List.isChain_singleton p⟩
  | @cons s t u v r turns index rest hactive hbusy hassign hkept hrest ih =>
      obtain ⟨hselect, rfl⟩ := selected_commit hactive hbusy hassign
      have hnext : ∃ q, q % limit = index ∧ CyclicSearch.Next limit (free active busy) p q := by
        rcases Nat.lt_or_ge (s.contexts c).currentPictureId limit with hfresh | hfull
        · -- the fresh indices follow each other
          rw [nvdSelectPictureIndex_fresh hpos hle hfresh, Option.some_inj] at hselect
          have hindex : index = p % limit + 1 := hselect ▸ hbehind.fresh hfresh
          refine ⟨p + 1, ?_, Nat.lt_succ_self p, fun x hafter hbefore => by omega⟩
          rw [hindex, ← Nat.mod_add_mod]
          exact Nat.mod_eq_of_lt (by omega)
        · rw [nvdSelectPictureIndex_recycles hpos hle hfull] at hselect
          exact CyclicSearch.next_of_find hbehind.cursor hselect
      obtain ⟨q, hq, hpq⟩ := hnext
      obtain ⟨positions, rfl, hchain⟩ := ih (behind_commit hq hselect hkept)
      refine ⟨q :: positions, ?_, List.isChain_cons_cons.mpr ⟨hpq, hchain⟩⟩
      rw [List.map_cons, hq]

/-- No index is handed out again before every free one has been. -/
theorem Assignments.all_before_repeat (hpos : 1 ≤ limit) (hle : limit ≤ 32) {s t : State}
    {indices : List Nat} (hassigned : Assignments c limit active busy s indices t) {a b : Nat}
    (hab : a < b) (hb : b < indices.length) (hrepeat : indices[a] = indices[b]) {index : Nat}
    (hindex : index < limit) (hfree : free active busy index = true) :
    ∃ k, ∃ hk : k < indices.length, a ≤ k ∧ k < b ∧ indices[k] = index := by
  have hpositions : ∃ positions : List Nat, indices = positions.map (· % limit) ∧
      positions.IsChain (CyclicSearch.Next limit (free active busy)) := by
    cases hassigned with
    | nil => exact ⟨[], rfl, List.isChain_nil⟩
    | @cons _ t u _ r turns first rest hactive hbusy hassign hkept hrest =>
        obtain ⟨hselect, rfl⟩ := selected_commit hactive hbusy hassign
        obtain ⟨-, hbelow, -⟩ := nvdSelectPictureIndex_spec hselect
        have hfirst : first % limit = first := Nat.mod_eq_of_lt hbelow
        obtain ⟨positions, rfl, hchain⟩ :=
          hrest.positions hpos hle (behind_commit hfirst hselect hkept)
        exact ⟨first :: positions, by rw [List.map_cons, hfirst], hchain⟩
  obtain ⟨positions, rfl, hchain⟩ := hpositions
  simp only [List.length_map, List.getElem_map] at hb hrepeat ⊢
  exact CyclicSearch.all_before_repeat hchain hab hb hrepeat hindex hfree

end Sequences

/-- For every count of allocated indices, limit, masks and cursor the selection is the next
fresh index while there is one, otherwise the first free index from the cursor on, and nothing
exactly when no index is free.  In a context that is not being destroyed an assignment fails
only when the references hold every index, and assignments with unchanged masks hand out every
free index before they hand out one again. -/
theorem picture_index_selection {limit : Nat} (hpos : 1 ≤ limit) (hle : limit ≤ 32) :
    (∀ (allocated : Nat) (active busy : BitVec 32) (cursor : Nat),
      (∀ index, nvdSelectPictureIndex allocated limit active busy cursor = some index ↔
        (allocated < limit ∧ index = allocated) ∨
        (limit ≤ allocated ∧ ∃ offset < limit, index = (cursor + offset) % limit ∧
          free active busy index = true ∧
          ∀ earlier < offset, free active busy ((cursor + earlier) % limit) = false)) ∧
      (nvdSelectPictureIndex allocated limit active busy cursor = none ↔
        limit ≤ allocated ∧ ∀ index < limit, free active busy index = false)) ∧
    (∀ (s : State) (c : ContextRef) (r : SurfaceRef) (turns : List (Nat → Bool)),
      (s.contexts c).destroying = false →
      (assignSurfacePictureIndex s c r limit turns).2 = .failed →
      limit ≤ (s.contexts c).currentPictureId ∧
        ∀ index < limit, maskHas (s.contexts c).activeReferenceMask index = true) ∧
    ∀ (c : ContextRef) (active busy : BitVec 32) (s t : State) (indices : List Nat),
      Assignments c limit active busy s indices t →
      ∀ a b (hab : a < b) (hb : b < indices.length), indices[a] = indices[b] →
      ∀ index < limit, free active busy index = true →
        ∃ k, ∃ hk : k < indices.length, a ≤ k ∧ k < b ∧ indices[k] = index :=
  ⟨fun _ _ _ _ => ⟨fun _ => nvdSelectPictureIndex_eq_some hpos hle,
      nvdSelectPictureIndex_eq_none hpos hle⟩,
    fun _ _ _ _ hdestroying hfailed =>
      assignSurfacePictureIndex_failed hpos hle hdestroying hfailed,
    fun _ _ _ _ _ _ hassigned _ _ hab hb hrepeat _ hindex hfree =>
      hassigned.all_before_repeat hpos hle hab hb hrepeat hindex hfree⟩

/-- Neither the references at 0 to 15 nor the busy surface at 16 lose their index. -/
theorem picture_index_selection_recycles :
    nvdSelectPictureIndex 20 20 0x0000ffff#32 (1#32 <<< 16) 0 = some 17 := by
  have hspec := (picture_index_selection (show 1 ≤ 20 by omega) (show 20 ≤ 32 by omega)).1
    20 0x0000ffff#32 (1#32 <<< 16) 0
  exact (hspec.1 17).mpr (.inr ⟨Nat.le_refl 20, 17, by decide, rfl, by decide, by decide⟩)

/-- The context stays in the object table when the join of its worker fails. -/
def failedDestroyScenario :
    (driver {} fun _ => {}).Scenario (fun _ _ => True) fun s =>
      (assignSurfacePictureIndex s 0 0 16 []).2 = .failed ∧
        (s.contexts 0).life = .live ∧ (s.contexts 0).currentPictureId = 0 where
  labels := [.createContext 0 .vld .h264 ⟨0, 0, 8⟩ 0, .createSurface 0 ⟨0, 0, 8⟩ none,
    .destroyContext 0, .destroy .ok, .destroy .ok, .destroy .failed]
  enabled := by decide +kernel
  ends := by decide +kernel

/-- A context whose destruction has failed takes no surface, with all of its indices left. -/
theorem assignment_refused_after_failed_destroy :
    ¬∀ (s : State), (driver {} fun _ => {}).Reachable s →
      ∀ (c : ContextRef) (r : SurfaceRef) (limit : Nat) (turns : List (Nat → Bool)),
        1 ≤ limit → limit ≤ 32 → (assignSurfacePictureIndex s c r limit turns).2 = .failed →
        limit ≤ (s.contexts c).currentPictureId ∧
          ∀ index < limit, maskHas (s.contexts c).activeReferenceMask index = true := by
  intro hclaim
  obtain ⟨hfailed, -, hnone⟩ := failedDestroyScenario.ends
  have hall := hclaim _ failedDestroyScenario.reachable 0 0 16 [] (by omega) (by omega) hfailed
  have hfull := hall.1
  rw [hnone] at hfull
  omega

end Driver
end NvidiaVaapi
