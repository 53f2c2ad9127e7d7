import Mathlib.Data.Int.ConditionallyCompleteOrder
import Mathlib.Data.List.MinMax
import Mathlib.Tactic.LinearCombination
import Mathlib.Tactic.Positivity
import NvidiaVaapi.Av1.PictureParameters

/-!
# The references of skip mode

Order hints are display orders reduced to a few bits.  While all orders lie in one window
of the modular comparison, the relative distance of two hints is the distance of the
orders, and the two loops of `copyAV1PicParam` name the nearest references in true display
order.
-/

namespace NvidiaVaapi
namespace Av1

/-! ## Nearest references in display order -/

/-- The nearest reference before an order; among equally near ones the first. -/
structure NearestBefore (order : Nat → Int) (limit : Int) (i : Nat) : Prop where
  reference : i < 7
  before : order i < limit
  nearest : ∀ j < 7, order j < limit → order j ≤ order i
  first : ∀ j < 7, order j = order i → i ≤ j

/-- The nearest reference behind an order; among equally near ones the first. -/
structure NearestAfter (order : Nat → Int) (limit : Int) (i : Nat) : Prop where
  reference : i < 7
  after : limit < order i
  nearest : ∀ j < 7, limit < order j → order i ≤ order j
  first : ∀ j < 7, order j = order i → i ≤ j

/-- `SkipModeFrame[0]` and `SkipModeFrame[1]` of a picture, from the display orders of its
seven references; the names of references are one above their numbers. -/
inductive SkipModeFrames (order : Nat → Int) (current : Int) : Int × Int → Prop
  | bothSides (f b : Nat) : NearestBefore order current f → NearestAfter order current b →
      SkipModeFrames order current ((min f b : Nat) + 1, (max f b : Nat) + 1)
  | bothBefore (f s : Nat) : NearestBefore order current f → (∀ j < 7, order j ≤ current) →
      NearestBefore order (order f) s →
      SkipModeFrames order current ((min f s : Nat) + 1, (max f s : Nat) + 1)
  | noneBefore : (∀ j < 7, current ≤ order j) → SkipModeFrames order current (0, 0)
  | oneBefore (f : Nat) : NearestBefore order current f → (∀ j < 7, order j ≤ current) →
      (∀ j < 7, order f ≤ order j) → SkipModeFrames order current (0, 0)

section Orders

variable {order : Nat → Int} {limit current : Int}

theorem NearestBefore.unique {i j : Nat} (hi : NearestBefore order limit i)
    (hj : NearestBefore order limit j) : i = j := by
  have hsame : order i = order j :=
    Int.le_antisymm (hj.nearest i hi.reference hi.before) (hi.nearest j hj.reference hj.before)
  exact Nat.le_antisymm (hi.first j hj.reference hsame.symm) (hj.first i hi.reference hsame)

theorem NearestAfter.unique {i j : Nat} (hi : NearestAfter order limit i)
    (hj : NearestAfter order limit j) : i = j := by
  have hsame : order i = order j :=
    Int.le_antisymm (hi.nearest j hj.reference hj.after) (hj.nearest i hi.reference hi.after)
  exact Nat.le_antisymm (hi.first j hj.reference hsame.symm) (hj.first i hi.reference hsame)

/-- The frames are determined by the orders. -/
theorem SkipModeFrames.unique {first second : Int × Int}
    (hfirst : SkipModeFrames order current first)
    (hsecond : SkipModeFrames order current second) : first = second := by
  cases hfirst with
  | bothSides f b hf hb =>
      cases hsecond with
      | bothSides f' b' hf' hb' => rw [hf.unique hf', hb.unique hb']
      | bothBefore f' s hf' hnone hs =>
          exact absurd (hnone b hb.reference) (Int.not_le.mpr hb.after)
      | noneBefore hnone => exact absurd (hnone f hf.reference) (Int.not_le.mpr hf.before)
      | oneBefore f' hf' hnone hone =>
          exact absurd (hnone b hb.reference) (Int.not_le.mpr hb.after)
  | bothBefore f s hf hnone hs =>
      cases hsecond with
      | bothSides f' b hf' hb => exact absurd (hnone b hb.reference) (Int.not_le.mpr hb.after)
      | bothBefore f' s' hf' hnone' hs' =>
          obtain rfl := hf.unique hf'
          rw [hs.unique hs']
      | noneBefore hnone' => exact absurd (hnone' f hf.reference) (Int.not_le.mpr hf.before)
      | oneBefore f' hf' hnone' hone =>
          obtain rfl := hf.unique hf'
          exact absurd (hone s hs.reference) (Int.not_le.mpr hs.before)
  | noneBefore hnone =>
      cases hsecond with
      | bothSides f b hf hb => exact absurd (hnone f hf.reference) (Int.not_le.mpr hf.before)
      | bothBefore f s hf hnone' hs =>
          exact absurd (hnone f hf.reference) (Int.not_le.mpr hf.before)
      | noneBefore hnone' => rfl
      | oneBefore f hf hnone' hone => rfl
  | oneBefore f hf hnone hone =>
      cases hsecond with
      | bothSides f' b hf' hb => exact absurd (hnone b hb.reference) (Int.not_le.mpr hb.after)
      | bothBefore f' s hf' hnone' hs =>
          obtain rfl := hf.unique hf'
          exact absurd (hone s hs.reference) (Int.not_le.mpr hs.before)
      | noneBefore hnone' => rfl
      | oneBefore f' hf' hnone' hone' => rfl

/-! ## The searches -/

/-- The references before an order. -/
def referencesBefore (order : Nat → Int) (limit : Int) (n : Nat) : List Nat :=
  (List.range n).filter fun i => order i < limit

/-- The references behind an order. -/
def referencesAfter (order : Nat → Int) (limit : Int) (n : Nat) : List Nat :=
  (List.range n).filter fun i => limit < order i

/-- One more reference is looked at for the nearest one before. -/
theorem argmax_referencesBefore_succ (n : Nat) :
    (referencesBefore order limit (n + 1)).argmax order =
      if order n < limit then
        match (referencesBefore order limit n).argmax order with
        | none => some n
        | some i => if order i < order n then some n else some i
      else (referencesBefore order limit n).argmax order := by
  unfold referencesBefore
  rw [List.range_succ, List.filter_append, List.filter_singleton]
  by_cases hbefore : order n < limit
  · rw [if_pos hbefore, decide_eq_true hbefore, cond_true, List.argmax_concat]
    cases ((List.range n).filter fun i => order i < limit).argmax order <;> rfl
  · rw [if_neg hbefore, decide_eq_false hbefore, cond_false, List.append_nil]

/-- One more reference is looked at for the nearest one behind. -/
theorem argmin_referencesAfter_succ (n : Nat) :
    (referencesAfter order limit (n + 1)).argmin order =
      if limit < order n then
        match (referencesAfter order limit n).argmin order with
        | none => some n
        | some i => if order n < order i then some n else some i
      else (referencesAfter order limit n).argmin order := by
  unfold referencesAfter
  rw [List.range_succ, List.filter_append, List.filter_singleton]
  by_cases hafter : limit < order n
  · rw [if_pos hafter, decide_eq_true hafter, cond_true, List.argmin_concat]
    cases ((List.range n).filter fun i => limit < order i).argmin order <;> rfl
  · rw [if_neg hafter, decide_eq_false hafter, cond_false, List.append_nil]

/-- In a part of a range, what comes first is smaller. -/
theorem le_of_idxOf_le {n : Nat} {p : Nat → Bool} {i j : Nat}
    (hi : i ∈ (List.range n).filter p) (hj : j ∈ (List.range n).filter p)
    (hle : ((List.range n).filter p).idxOf i ≤ ((List.range n).filter p).idxOf j) : i ≤ j := by
  have hsorted : ((List.range n).filter p).Pairwise (· < ·) := List.pairwise_lt_range.filter _
  have hi' := List.idxOf_lt_length_of_mem hi
  have hj' := List.idxOf_lt_length_of_mem hj
  rcases Nat.lt_or_eq_of_le hle with hlt | heq
  · have hless := List.pairwise_iff_getElem.mp hsorted _ _ hi' hj' hlt
    rw [List.getElem_idxOf hi', List.getElem_idxOf hj'] at hless
    exact hless.le
  · have hsame := List.getElem_idxOf hi'
    simp only [heq] at hsame
    rw [List.getElem_idxOf hj'] at hsame
    exact hsame.ge

theorem nearestBefore_of_argmax {i : Nat}
    (hi : i ∈ (referencesBefore order limit 7).argmax order) : NearestBefore order limit i := by
  obtain ⟨hmem, hmax, hfirst⟩ := List.mem_argmax_iff.mp hi
  have hreference := List.mem_filter.mp hmem
  simp only [List.mem_range, decide_eq_true_eq] at hreference
  have hmember : ∀ j < 7, order j < limit → j ∈ referencesBefore order limit 7 :=
    fun j hj hbefore => List.mem_filter.mpr ⟨List.mem_range.mpr hj, by simpa using hbefore⟩
  constructor
  · exact hreference.1
  · exact hreference.2
  · intro j hj hbefore
    exact hmax j (hmember j hj hbefore)
  · intro j hj hsame
    have hin := hmember j hj (hsame ▸ hreference.2)
    exact le_of_idxOf_le hmem hin (hfirst j hin hsame.ge)

theorem nearestAfter_of_argmin {i : Nat}
    (hi : i ∈ (referencesAfter order limit 7).argmin order) : NearestAfter order limit i := by
  obtain ⟨hmem, hmin, hfirst⟩ := List.mem_argmin_iff.mp hi
  have hreference := List.mem_filter.mp hmem
  simp only [List.mem_range, decide_eq_true_eq] at hreference
  have hmember : ∀ j < 7, limit < order j → j ∈ referencesAfter order limit 7 :=
    fun j hj hafter => List.mem_filter.mpr ⟨List.mem_range.mpr hj, by simpa using hafter⟩
  constructor
  · exact hreference.1
  · exact hreference.2
  · intro j hj hafter
    exact hmin j (hmember j hj hafter)
  · intro j hj hsame
    have hin := hmember j hj (hsame ▸ hreference.2)
    exact le_of_idxOf_le hmem hin (hfirst j hin hsame.le)

theorem le_of_noneBefore (hnone : (referencesBefore order limit 7).argmax order = none) :
    ∀ j < 7, limit ≤ order j := by
  rw [List.argmax_eq_none, referencesBefore, List.filter_eq_nil_iff] at hnone
  intro j hj
  simpa using hnone j (List.mem_range.mpr hj)

theorem le_of_noneAfter (hnone : (referencesAfter order limit 7).argmin order = none) :
    ∀ j < 7, order j ≤ limit := by
  rw [List.argmin_eq_none, referencesAfter, List.filter_eq_nil_iff] at hnone
  intro j hj
  simpa using hnone j (List.mem_range.mpr hj)

end Orders

/-! ## Order hints -/

/-- `OrderHintBits`. -/
def CUVIDAV1PICPARAMS.orderHintBits (pps : CUVIDAV1PICPARAMS) : Nat :=
  if pps.enableOrderHint = 0 then 0 else pps.orderHintBitsMinus1 + 1

/-- The difference lies in the window of the modular comparison. -/
def InWindow (bits : Nat) (difference : Int) : Prop :=
  -(2 ^ bits) ≤ 2 * difference ∧ 2 * difference < 2 ^ bits

instance (bits : Nat) (difference : Int) : Decidable (InWindow bits difference) :=
  inferInstanceAs (Decidable (_ ∧ _))

/-- In the window the relative distance of hints is the distance of the orders. -/
theorem getRelativeDist_eq {pps : CUVIDAV1PICPARAMS} {a b : Int}
    (hwindow : InWindow pps.orderHintBits (a - b)) :
    getRelativeDist pps (a % 2 ^ pps.orderHintBits) (b % 2 ^ pps.orderHintBits) = a - b := by
  unfold InWindow CUVIDAV1PICPARAMS.orderHintBits at hwindow
  unfold getRelativeDist CUVIDAV1PICPARAMS.orderHintBits
  by_cases hoff : pps.enableOrderHint = 0
  · rw [if_pos hoff] at hwindow
    rw [if_pos hoff]
    omega
  · rw [if_neg hoff, Int.pow_succ] at hwindow
    rw [if_neg hoff, if_neg hoff, Int.pow_succ]
    obtain ⟨m, hm⟩ : ∃ m : Int, m = 2 ^ pps.orderHintBitsMinus1 := ⟨_, rfl⟩
    have hpos : 0 < m := by
      rw [hm]
      positivity
    simp only [← hm] at hwindow ⊢
    -- The difference of the hints is that of the orders up to a multiple of the modulus.
    obtain ⟨q, hq⟩ : ∃ q : Int, a % (m * 2) - b % (m * 2) = (a - b) + m * (2 * q) := by
      refine ⟨b / (m * 2) - a / (m * 2), ?_⟩
      have ha := Int.emod_add_mul_ediv a (m * 2)
      have hb := Int.emod_add_mul_ediv b (m * 2)
      linear_combination ha - hb
    rw [hq, Int.add_mul_emod_self_left, Int.add_mul_ediv_left _ _ hpos.ne',
      Int.add_mul_emod_self_left]
    rcases lt_or_ge (a - b) 0 with hneg | hnonneg
    · have hdiv : (a - b) / m = -1 := by
        rw [Int.ediv_eq_iff_of_pos hpos]
        omega
      have hmod : (a - b) % m = a - b + m := by
        have hsplit := Int.emod_add_mul_ediv (a - b) m
        rw [hdiv] at hsplit
        omega
      rw [hdiv, hmod]
      simp
    · rw [Int.emod_eq_of_lt hnonneg (by omega), Int.ediv_eq_zero_of_lt hnonneg (by omega)]
      simp

/-- Seven references and the picture, their hints and the distances of these. -/
structure Hinted (pps : CUVIDAV1PICPARAMS) (order : Nat → Int) (current : Int)
    (hints : Nat → Int) (orderHint : Int) : Prop where
  toCurrent : ∀ i < 7, getRelativeDist pps (hints i) orderHint = order i - current
  toReference : ∀ i < 7, ∀ j < 7,
    getRelativeDist pps (hints i) (hints j) = order i - order j

/-- The loop variables for a reference that has been found, if any. -/
def skipModeReference (hints : Nat → Int) : Option Nat → SkipModeReference
  | none => {}
  | some i => ⟨i, hints i⟩

theorem skipModeReference_idx_none (hints : Nat → Int) :
    (skipModeReference hints none).idx < 0 := by
  show (-1 : Int) < 0
  decide

namespace Hinted

variable {pps : CUVIDAV1PICPARAMS} {order hints : Nat → Int} {current orderHint : Int}

/-- The first loop finds the nearest references on both sides. -/
theorem nearestReferences (hhinted : Hinted pps order current hints orderHint) :
    ∀ n ≤ 7, (List.range n).foldl (Av1.nearestReferences pps orderHint hints) ({}, {}) =
      (skipModeReference hints ((referencesBefore order current n).argmax order),
        skipModeReference hints ((referencesAfter order current n).argmin order)) := by
  intro n
  induction n with
  | zero =>
      intro _
      rfl
  | succ n ih =>
      intro hn
      have hcurrent := hhinted.toCurrent n hn
      rw [List.range_succ, List.foldl_append, ih (by omega), List.foldl_cons, List.foldl_nil,
        argmax_referencesBefore_succ, argmin_referencesAfter_succ]
      unfold Av1.nearestReferences
      simp only [hcurrent, Int.sub_pos, sub_neg]
      by_cases hbefore : order n < current
      · have hnotAfter : ¬current < order n := by omega
        rw [if_pos hbefore, if_pos hbefore, if_neg hnotAfter]
        cases hbest : (referencesBefore order current n).argmax order with
        | none =>
            rw [if_pos (.inl (skipModeReference_idx_none hints))]
            rfl
        | some i =>
            have hi := List.mem_range.mp (List.mem_filter.mp (List.argmax_mem hbest)).1
            have hdist := hhinted.toReference n hn i (by omega)
            simp only [skipModeReference, hdist, Int.sub_pos]
            by_cases hbetter : order i < order n
            · rw [if_pos (.inr hbetter), if_pos hbetter]
            · rw [if_neg (by omega), if_neg hbetter]
      · rw [if_neg hbefore, if_neg hbefore]
        by_cases hafter : current < order n
        · rw [if_pos hafter, if_pos hafter]
          cases hbest : (referencesAfter order current n).argmin order with
          | none =>
              rw [if_pos (.inl (skipModeReference_idx_none hints))]
              rfl
          | some i =>
              have hi := List.mem_range.mp (List.mem_filter.mp (List.argmin_mem hbest)).1
              have hdist := hhinted.toReference n hn i (by omega)
              simp only [skipModeReference, hdist, sub_neg]
              by_cases hbetter : order n < order i
              · rw [if_pos (.inr hbetter), if_pos hbetter]
              · rw [if_neg (by omega), if_neg hbetter]
        · rw [if_neg hafter, if_neg hafter]

/-- The second loop finds the nearest reference before another one. -/
theorem secondForwardReference (hhinted : Hinted pps order current hints orderHint) {f : Nat}
    (hf : f < 7) :
    ∀ n ≤ 7, (List.range n).foldl (Av1.secondForwardReference pps (hints f) hints) {} =
      skipModeReference hints ((referencesBefore order (order f) n).argmax order) := by
  intro n
  induction n with
  | zero =>
      intro _
      rfl
  | succ n ih =>
      intro hn
      have hdistance := hhinted.toReference n hn f hf
      rw [List.range_succ, List.foldl_append, ih (by omega), List.foldl_cons, List.foldl_nil,
        argmax_referencesBefore_succ]
      unfold Av1.secondForwardReference
      simp only [hdistance, sub_neg]
      by_cases hbefore : order n < order f
      · rw [if_pos hbefore, if_pos hbefore]
        cases hbest : (referencesBefore order (order f) n).argmax order with
        | none =>
            rw [if_pos (.inl (skipModeReference_idx_none hints))]
            rfl
        | some i =>
            have hi := List.mem_range.mp (List.mem_filter.mp (List.argmax_mem hbest)).1
            have hdist := hhinted.toReference n hn i (by omega)
            simp only [skipModeReference, hdist, Int.sub_pos]
            by_cases hbetter : order i < order n
            · rw [if_pos (.inr hbetter), if_pos hbetter]
            · rw [if_neg (by omega), if_neg hbetter]
      · rw [if_neg hbefore, if_neg hbefore]

/-- The frames are those of the display orders. -/
theorem skipModeFrames (hhinted : Hinted pps order current hints orderHint) :
    SkipModeFrames order current (Av1.skipModeFrames pps orderHint hints) := by
  unfold Av1.skipModeFrames
  rw [hhinted.nearestReferences 7 (Nat.le_refl 7)]
  simp only
  cases hforward : (referencesBefore order current 7).argmax order with
  | none => exact .noneBefore (le_of_noneBefore hforward)
  | some f =>
      have hf := nearestBefore_of_argmax hforward
      rw [if_neg (by simp [skipModeReference])]
      cases hbackward : (referencesAfter order current 7).argmin order with
      | some b =>
          have hb := nearestAfter_of_argmin hbackward
          rw [if_pos (by simp [skipModeReference])]
          simpa [skipModeReference] using SkipModeFrames.bothSides f b hf hb
      | none =>
          have hnone := le_of_noneAfter hbackward
          have hsearch := hhinted.secondForwardReference hf.reference 7 (Nat.le_refl 7)
          rw [if_neg (by simp [skipModeReference])]
          show SkipModeFrames order current
            (let second := (List.range 7).foldl
                (Av1.secondForwardReference pps (hints f) hints) {}
              if second.idx < 0 then (0, 0)
              else (min (f : Int) second.idx + 1, max (f : Int) second.idx + 1))
          rw [hsearch]
          cases hsecond : (referencesBefore order (order f) 7).argmax order with
          | none => exact .oneBefore f hf hnone (le_of_noneBefore hsecond)
          | some i =>
              have hi := nearestBefore_of_argmax hsecond
              simp only
              rw [if_neg (by simp [skipModeReference])]
              simpa [skipModeReference] using SkipModeFrames.bothBefore f i hf hnone hi

end Hinted

/-! ## Pictures -/

/-- The number of bits of the order hints of a picture. -/
def VADecPictureParameterBufferAV1.orderHintBits (buf : VADecPictureParameterBufferAV1) : Nat :=
  if buf.seqInfoFields.enableOrderHint = 0 then 0 else buf.orderHintBitsMinus1 + 1

/-- The eight slots hold decoded surfaces other than the render target, the hints are the
display orders modulo the range of the hints, and the orders lie in one window. -/
structure SlotOrders (surfaces : Surfaces) (renderTarget : RenderTarget)
    (buf : VADecPictureParameterBufferAV1) (order : Nat → Int) (current : Int) : Prop where
  hint : (buf.orderHint : Int) = current % 2 ^ buf.orderHintBits
  slot : ∀ i < 8, ∃ surf,
    surfaces.nvSurfaceFromSurfaceId (buf.refFrameMap.toList.getD i 0) = some surf ∧
    surf.pictureIdx ≠ -1 ∧ buf.refFrameMap.toList.getD i 0 ≠ renderTarget.surfaceId ∧
    (surf.orderHint : Int) = order i % 2 ^ buf.orderHintBits
  toCurrent : ∀ i < 8, InWindow buf.orderHintBits (order i - current)
  toSlot : ∀ i < 8, ∀ j < 8, InWindow buf.orderHintBits (order i - order j)

section Pictures

variable {surfaces : Surfaces} {renderTarget : RenderTarget}
  {buf : VADecPictureParameterBufferAV1} {order : Nat → Int} {current : Int}

/-- The slot of a reference. -/
theorem refFrameIdx_lt (hvalid : validateAV1PictureParams buf = true) {i : Nat} (hi : i < 7) :
    buf.refFrameIdx.toList.getD i 0 < 8 := by
  have hall := (Bool.and_eq_true_iff.mp hvalid).2
  rw [List.all_eq_true] at hall
  have hlength : i < buf.refFrameIdx.toList.length := by
    rw [Vector.length_toList]
    exact hi
  rw [List.getD_eq_getElem?_getD, List.getElem?_eq_getElem hlength]
  exact of_decide_eq_true (hall _ (List.getElem_mem hlength))

/-- The hint of a slot. -/
theorem SlotOrders.refOrderHint (horders : SlotOrders surfaces renderTarget buf order current)
    {i : Nat} (hi : i < 8) :
    refOrderHint surfaces renderTarget buf i = order i % 2 ^ buf.orderHintBits := by
  obtain ⟨surf, hsurface, hdecoded, hother, hhint⟩ := horders.slot i hi
  unfold Av1.refOrderHint
  simp only [hsurface]
  rw [if_pos hdecoded, if_neg hother, hhint]

/-- The references of a picture have the distances of their display orders. -/
theorem SlotOrders.hinted (horders : SlotOrders surfaces renderTarget buf order current)
    (hvalid : validateAV1PictureParams buf = true) {pps : CUVIDAV1PICPARAMS}
    (hbits : pps.orderHintBits = buf.orderHintBits) :
    Hinted pps (fun i => order (buf.refFrameIdx.toList.getD i 0)) current
      (refHint surfaces renderTarget buf) buf.orderHint := by
  have hslot : ∀ i < 7, refHint surfaces renderTarget buf i =
      order (buf.refFrameIdx.toList.getD i 0) % 2 ^ pps.orderHintBits := by
    intro i hi
    rw [hbits]
    exact horders.refOrderHint (refFrameIdx_lt hvalid hi)
  constructor
  · intro i hi
    rw [hslot i hi, horders.hint, ← hbits]
    apply getRelativeDist_eq
    rw [hbits]
    exact horders.toCurrent _ (refFrameIdx_lt hvalid hi)
  · intro i hi j hj
    rw [hslot i hi, hslot j hj]
    apply getRelativeDist_eq
    rw [hbits]
    exact horders.toSlot _ (refFrameIdx_lt hvalid hi) _ (refFrameIdx_lt hvalid hj)

end Pictures

theorem copyGrainArrays_skipModeFrames (buf : VADecPictureParameterBufferAV1)
    (pps : CUVIDAV1PICPARAMS) :
    ((copyGrainArrays buf pps).skipModeFrame0, (copyGrainArrays buf pps).skipModeFrame1) =
      (pps.skipModeFrame0, pps.skipModeFrame1) := by
  unfold copyGrainArrays
  simp only
  split <;> rfl

theorem copyTileSizes_skipModeFrames (buf : VADecPictureParameterBufferAV1)
    (pps : CUVIDAV1PICPARAMS) :
    ((copyTileSizes buf pps).skipModeFrame0, (copyTileSizes buf pps).skipModeFrame1) =
      (pps.skipModeFrame0, pps.skipModeFrame1) := by
  unfold copyTileSizes
  split <;> rfl

/-- The frames are computed from the hints of the references. -/
theorem fillAV1PicParams_skipModeFrames (width height : Nat) (enableRestoration : Bool)
    (surfaces : Surfaces) (renderTarget : RenderTarget) (buf : VADecPictureParameterBufferAV1)
    (picParams : CUVIDPICPARAMS) (hpresent : buf.modeControlFields.skipModePresent ≠ 0) :
    ∃ pps, ((fillAV1PicParams width height enableRestoration surfaces renderTarget buf
        picParams).av1.skipModeFrame0, (fillAV1PicParams width height enableRestoration surfaces
        renderTarget buf picParams).av1.skipModeFrame1) =
        skipModeFrames pps buf.orderHint (refHint surfaces renderTarget buf) ∧
      pps.orderHintBits = buf.orderHintBits := by
  refine ⟨copyFrameFields buf (copySequenceFields buf enableRestoration { picParams.av1 with
    width := width
    height := height
    frameOffset := buf.orderHint
    decodePicIdx := picParams.currPicIdx }), ?_, ?_⟩
  · refine (copyGrainArrays_skipModeFrames buf _).trans ?_
    refine (copyTileSizes_skipModeFrames buf _).trans ?_
    -- The display surface of the grain does not matter for the frames.
    cases (grainDisplay surfaces renderTarget buf).isSome
    · exact congrArg (fun frames : Int × Int => (frames.1, frames.2)) (if_pos hpresent)
    · exact congrArg (fun frames : Int × Int => (frames.1, frames.2)) (if_pos hpresent)
  · show (if buf.seqInfoFields.enableOrderHint = 0 then 0
      else (if buf.seqInfoFields.enableOrderHint ≠ 0 then buf.orderHintBitsMinus1 else 0) + 1) =
      buf.orderHintBits
    unfold VADecPictureParameterBufferAV1.orderHintBits
    split
    · rfl
    · rfl

/-- A picture with skip mode names the references that its display orders call for. -/
theorem skipModeFrames_spec (width height : Nat) (enableRestoration : Bool)
    (surfaces : Surfaces) (renderTarget : RenderTarget) (buf : VADecPictureParameterBufferAV1)
    (picParams : CUVIDPICPARAMS) (order : Nat → Int) (current : Int)
    (hvalid : validateAV1PictureParams buf = true)
    (hpresent : buf.modeControlFields.skipModePresent ≠ 0)
    (horders : SlotOrders surfaces renderTarget buf order current) (frames : Int × Int) :
    SkipModeFrames (fun i => order (buf.refFrameIdx.toList.getD i 0)) current frames ↔
      frames = ((fillAV1PicParams width height enableRestoration surfaces renderTarget buf
        picParams).av1.skipModeFrame0, (fillAV1PicParams width height enableRestoration surfaces
        renderTarget buf picParams).av1.skipModeFrame1) := by
  obtain ⟨pps, hframes, hbits⟩ := fillAV1PicParams_skipModeFrames width height
    enableRestoration surfaces renderTarget buf picParams hpresent
  have hspec := (horders.hinted hvalid hbits).skipModeFrames
  rw [hframes]
  constructor
  · intro hsame
    exact hsame.unique hspec
  · rintro rfl
    exact hspec

/-- A picture at order 8 with hints of three bits, so that its own hint is zero. -/
def wrappedHintBuffer : VADecPictureParameterBufferAV1 where
  tileCols := 1
  tileRows := 1
  orderHint := 0
  orderHintBitsMinus1 := 2
  seqInfoFields := { enableOrderHint := 1 }
  modeControlFields := { skipModePresent := 1 }
  refFrameMap := #v[0, 1, 2, 3, 4, 5, 6, 7]
  refFrameIdx := #v[5, 1, 0, 2, 3, 4, 6]

/-- The display orders of its slots. -/
def wrappedHintOrder (i : Nat) : Int :=
  [7, 6, 9, 7, 9, 8, 6, 9].getD i 0

/-- The surfaces in its slots. -/
def wrappedHintSurfaces : Surfaces where
  nvSurfaceFromSurfaceId id :=
    some ⟨id, (wrappedHintOrder id % 8).toNat, 64, 64⟩
  pictureIdxFromSurfaceId id := id

/-- The nearest references are at orders 7 and 9, which have the names 3 and 4. -/
theorem skipModeFrames_wrapped :
    SkipModeFrames (fun i => wrappedHintOrder (wrappedHintBuffer.refFrameIdx.toList.getD i 0)) 8
      (3, 4) := by
  have horders : SlotOrders wrappedHintSurfaces ⟨20, 8, 0⟩ wrappedHintBuffer
      wrappedHintOrder 8 :=
    { hint := by decide
      slot := fun i hi => ⟨_, rfl, by revert i; decide⟩
      toCurrent := by decide
      toSlot := by decide }
  exact (skipModeFrames_spec 64 64 false wrappedHintSurfaces ⟨20, 8, 0⟩ wrappedHintBuffer {}
    wrappedHintOrder 8 (by decide) (by decide) horders (3, 4)).mpr (by decide)

end Av1
end NvidiaVaapi
