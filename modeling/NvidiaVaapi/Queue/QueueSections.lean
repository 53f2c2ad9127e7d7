import Mathlib.Data.ZMod.Basic
import Mathlib.Tactic.Ring
import NvidiaVaapi.Queue.ResolveQueue

/-!
# Critical sections of the resolve queue

What one piece of a critical section does to the list of items in a queue, to the
history of the items, and to the part that the queue has in the depth statistic.
-/

namespace NvidiaVaapi
namespace Queue

section

variable {ι : Type} [Inhabited ι]

/-- Cancellations have an array with room for a full queue. -/
def Operation.roomy : Operation ι → Prop
  | .cancel capacity stored => resolveQueueCapacity ≤ capacity ∧ stored = true
  | _ => True

/-! ## The list in a queue -/

/-- The items of a queue, oldest first. -/
structure Contains (queue : ResolveQueue ι) (contents : List ι) : Prop where
  holds : RingBuffer.Holds queue.items queue.readIdx contents
  count : queue.count = contents.length
  writeIdx : queue.writeIdx = RingBuffer.cell queue.readIdx queue.count

theorem contains_init (telemetry : ResolveQueueTelemetry) :
    Contains (resolveQueueSetTelemetry (resolveQueueInit : ResolveQueue ι) telemetry) [] :=
  ⟨RingBuffer.Holds.nil _ _, rfl, (RingBuffer.cell_zero _).symm⟩

omit [Inhabited ι] in
theorem Contains.pushItem {queue : ResolveQueue ι} {contents : List ι}
    (h : Contains queue contents) (hroom : queue.count < resolveQueueCapacity) (item : ι) :
    Contains (pushItem queue item) (contents ++ [item]) := by
  have hlength := h.count
  refine ⟨?_, ?_, ?_⟩
  · change RingBuffer.Holds (Function.update queue.items queue.writeIdx item) queue.readIdx _
    rw [h.writeIdx, hlength]
    exact h.holds.push (hlength ▸ hroom) item
  · change queue.count + 1 = _
    rw [List.length_append, List.length_singleton, hlength]
  · change RingBuffer.cell queue.writeIdx 1 = RingBuffer.cell queue.readIdx (queue.count + 1)
    rw [h.writeIdx, RingBuffer.cell_cell]

/-- The oldest item comes out. -/
theorem Contains.popItem {queue : ResolveQueue ι} {item : ι} {rest : List ι}
    (h : Contains queue (item :: rest)) :
    (popItem queue).1 = item ∧ Contains (popItem queue).2 rest := by
  obtain ⟨hfirst, hholds⟩ := h.holds.pop default
  have hlength := h.count
  rw [List.length_cons] at hlength
  refine ⟨hfirst, hholds, ?_, ?_⟩
  · change queue.count - 1 = rest.length
    omega
  · change queue.writeIdx = RingBuffer.cell (RingBuffer.cell queue.readIdx 1) (queue.count - 1)
    have hcount : 1 + (queue.count - 1) = queue.count := by omega
    rw [RingBuffer.cell_cell, hcount, h.writeIdx]

/-- The loop of a cancellation with enough room takes the items in their order. -/
theorem cancelLoop_eq (returned : Nat) (contents : List ι) :
    ∀ (queue : ResolveQueue ι) (i : Nat) (cancelled : List ι),
      RingBuffer.Holds queue.items queue.readIdx contents →
    i + contents.length ≤ returned →
    (cancelLoop returned true contents.length i queue cancelled).2 = cancelled ++ contents ∧
      ∃ items readIdx, (cancelLoop returned true contents.length i queue cancelled).1 =
        { queue with items, readIdx } := by
  induction contents with
  | nil =>
      intro queue i cancelled _ _
      exact ⟨(List.append_nil _).symm, queue.items, queue.readIdx, rfl⟩
  | cons item rest ih =>
      intro queue i cancelled h hroom
      rw [List.length_cons] at hroom
      obtain ⟨hfirst, hrest⟩ := h.pop default
      obtain ⟨hcancelled, items, readIdx, hqueue⟩ := ih { queue with
        items := Function.update queue.items queue.readIdx default
        readIdx := nextIdx queue.readIdx } (i + 1) (cancelled ++ [item]) hrest (by omega)
      rw [List.length_cons]
      unfold cancelLoop
      simp only
      rw [if_pos ⟨by omega, trivial⟩, hfirst, hcancelled, hqueue, List.append_assoc]
      exact ⟨rfl, items, readIdx, rfl⟩

/-- A cancellation with room for a full queue returns all items and leaves none. -/
theorem Contains.cancelItems {queue : ResolveQueue ι} {contents : List ι}
    (h : Contains queue contents) {capacity : Nat} (hroom : resolveQueueCapacity ≤ capacity) :
    (cancelItems queue capacity true).2 = contents ∧
      Contains (cancelItems queue capacity true).1 [] ∧
      (Queue.cancelItems queue capacity true).1.exiting = true ∧
      (Queue.cancelItems queue capacity true).1.initialized = queue.initialized ∧
      (Queue.cancelItems queue capacity true).1.telemetry = queue.telemetry := by
  have hfits := h.holds.fits
  have hlength := h.count
  have hreturned : cancelReturned queue capacity = queue.count := by
    unfold cancelReturned
    split <;> omega
  have hloop := cancelLoop_eq queue.count contents { queue with exiting := true } 0 [] h.holds
    (by omega)
  rw [← hlength] at hloop
  obtain ⟨hcancelled, items, readIdx, hqueue⟩ := hloop
  unfold Queue.cancelItems
  rw [hreturned]
  simp only
  rw [hcancelled, hqueue]
  exact ⟨List.nil_append _, ⟨RingBuffer.Holds.nil _ _, rfl, (RingBuffer.cell_zero _).symm⟩,
    rfl, rfl, rfl⟩

/-! ## One piece of a critical section -/

/-- A queue with its history: what was accepted came out, was cancelled or is in the queue. -/
structure Kept (queue : ResolveQueue ι) (history : History ι) (contents : List ι) : Prop where
  contains : Contains queue contents
  order : history.accepted = history.popped ++ history.cancelled ++ contents
  closed : history.closed = queue.exiting
  drained : history.cancelled ≠ [] → contents = [] ∧ queue.exiting = true
  initialized : queue.initialized = true

/-- What is known of the queue where a thread with the mutex is. -/
def Section.sound (queue : ResolveQueue ι) (history : History ι) : Section ι → Prop
  | .popDepth item => history.popped.getLast? = some item
  | .popUnlock (some item) => history.popped.getLast? = some item
  | .popUnlock none => queue.count = 0 ∧ queue.exiting = true
  | .cancel capacity stored => resolveQueueCapacity ≤ capacity ∧ stored = true
  | _ => True

/-- What is known of the queue behind a piece of a critical section. -/
def Outcome.sound (queue : ResolveQueue ι) (history : History ι) : Outcome ι → Prop
  | .inside next => next.sound queue history
  | .returned => True
  | .waits operation _ => operation.roomy

/-- What a piece of a critical section leaves behind. -/
structure SectionEffect (queue : ResolveQueue ι) (history : History ι)
    (queue' : ResolveQueue ι) (history' : History ι) (outcome : Outcome ι) : Prop where
  kept : ∃ contents, Kept queue' history' contents
  sound : outcome.sound queue' history'
  telemetry : queue'.telemetry = queue.telemetry
  closed : history.closed = true → history'.closed = true ∧ history'.accepted = history.accepted

omit [Inhabited ι] in
theorem SectionEffect.same {queue : ResolveQueue ι} {history : History ι} {contents : List ι}
    (h : Kept queue history contents) {outcome : Outcome ι} (hsound : outcome.sound queue history) :
    SectionEffect queue history queue history outcome :=
  ⟨⟨contents, h⟩, hsound, rfl, fun hclosed => ⟨hclosed, rfl⟩⟩

theorem Kept.pushTest {queue : ResolveQueue ι} {history : History ι} {contents : List ι}
    (h : Kept queue history contents) (statistics : QueueStatistics) (item : ι) (waited : Bool) :
    SectionEffect queue history
      (runSection queue history statistics (.pushTest item waited)).1
      (runSection queue history statistics (.pushTest item waited)).2.1
      (runSection queue history statistics (.pushTest item waited)).2.2.2 := by
  unfold runSection
  simp only
  split
  · split
    · exact .same h trivial
    · exact .same h trivial
  · rename_i hnotFull
    split
    · exact .same h trivial
    · rename_i hopen
      have hexiting : queue.exiting = false := by
        rw [Bool.not_eq_true] at hopen
        exact hopen
      have hfits := h.contains.holds.fits
      have hlength := h.contains.count
      have hfull : queue.count ≠ resolveQueueCapacity := fun hfull =>
        hnotFull ⟨hfull, hexiting⟩
      refine ⟨⟨contents ++ [item], ?_⟩, trivial, rfl, fun hclosed => ?_⟩
      · refine ⟨h.contains.pushItem (by omega) item, ?_, h.closed, fun hne => ?_, h.initialized⟩
        · change history.accepted ++ [item] =
            history.popped ++ history.cancelled ++ (contents ++ [item])
          rw [h.order, List.append_assoc]
        · rw [(h.drained hne).2] at hexiting
          cases hexiting
      · rw [h.closed, hexiting] at hclosed
        cases hclosed

theorem Kept.popTest {queue : ResolveQueue ι} {history : History ι} {contents : List ι}
    (h : Kept queue history contents) (statistics : QueueStatistics) :
    SectionEffect queue history
      (runSection queue history statistics .popTest).1
      (runSection queue history statistics .popTest).2.1
      (runSection queue history statistics .popTest).2.2.2 := by
  unfold runSection
  simp only
  split
  · exact .same h trivial
  · rename_i hready
    split
    · rename_i hempty
      have hexiting : queue.exiting = true := by
        by_contra hopen
        rw [Bool.not_eq_true] at hopen
        exact hready ⟨hempty, hopen⟩
      exact .same h ⟨hempty, hexiting⟩
    · rename_i hnonempty
      have hlength := h.contains.count
      obtain ⟨item, rest, rfl⟩ := List.exists_cons_of_length_pos (by omega : 0 < contents.length)
      obtain ⟨hfirst, hrest⟩ := h.contains.popItem
      have hcancelled : history.cancelled = [] := by
        by_contra hne
        exact List.cons_ne_nil _ _ (h.drained hne).1
      refine ⟨⟨rest, ?_⟩, ?_, rfl, fun hclosed => ⟨hclosed, rfl⟩⟩
      · refine ⟨hrest, ?_, h.closed, fun hne => absurd hcancelled hne, h.initialized⟩
        change history.accepted = history.popped ++ [(popItem queue).1] ++ history.cancelled ++ rest
        rw [h.order, hfirst, hcancelled, List.append_nil, List.append_nil, List.append_assoc]
        rfl
      · exact List.getLast?_concat

theorem Kept.cancel {queue : ResolveQueue ι} {history : History ι} {contents : List ι}
    (h : Kept queue history contents) (statistics : QueueStatistics) {capacity : Nat}
    (hroom : resolveQueueCapacity ≤ capacity) :
    SectionEffect queue history
      (runSection queue history statistics (.cancel capacity true)).1
      (runSection queue history statistics (.cancel capacity true)).2.1
      (runSection queue history statistics (.cancel capacity true)).2.2.2 := by
  obtain ⟨hcancelled, hcontains, hexiting, hinitialized, htelemetry⟩ :=
    h.contains.cancelItems hroom
  refine ⟨⟨[], ?_⟩, trivial, htelemetry, fun _ => ⟨rfl, rfl⟩⟩
  refine ⟨hcontains, ?_, hexiting.symm, fun _ => ⟨rfl, hexiting⟩,
    hinitialized.trans h.initialized⟩
  change history.accepted = history.popped ++
    (history.cancelled ++ (cancelItems queue capacity true).2) ++ []
  rw [hcancelled, h.order, List.append_nil, List.append_assoc]

/-- Every piece of a critical section keeps the queue and its history together. -/
theorem Kept.runSection {queue : ResolveQueue ι} {history : History ι} {contents : List ι}
    (h : Kept queue history contents) (statistics : QueueStatistics) (place : Section ι)
    (hsound : place.sound queue history) :
    SectionEffect queue history (runSection queue history statistics place).1
      (Queue.runSection queue history statistics place).2.1
      (Queue.runSection queue history statistics place).2.2.2 := by
  cases place with
  | pushTest item waited => exact h.pushTest statistics item waited
  | pushDepth =>
      unfold Queue.runSection
      simp only
      split <;> exact .same h trivial
  | pushHighWater depth =>
      unfold Queue.runSection
      simp only
      split <;> exact .same h trivial
  | pushUnlock accepted => exact .same h trivial
  | popTest => exact h.popTest statistics
  | popDepth item =>
      unfold Queue.runSection
      simp only
      split <;> exact .same h hsound
  | popUnlock answer => exact .same h trivial
  | shutdown =>
      refine ⟨⟨contents, ?_⟩, trivial, rfl, fun _ => ⟨rfl, rfl⟩⟩
      exact ⟨⟨h.contains.holds, h.contains.count, h.contains.writeIdx⟩, h.order, rfl,
        fun hne => ⟨(h.drained hne).1, rfl⟩, h.initialized⟩
  | shutdownUnlock => exact .same h trivial
  | cancel capacity stored =>
      obtain ⟨hroom, rfl⟩ := hsound
      exact h.cancel statistics hroom
  | cancelDepth pending =>
      unfold Queue.runSection
      simp only
      split <;> exact .same h trivial
  | cancelUnlock => exact .same h trivial

/-! ## The depth statistic -/

/-- By how much the count of a queue is ahead of its part in the depth statistic. -/
def Section.uncounted : Section ι → ZMod (2 ^ 64)
  | .pushDepth => 1
  | .popDepth _ => -1
  | .cancelDepth pending => -(pending : ZMod (2 ^ 64))
  | _ => 0

def Outcome.uncounted : Outcome ι → ZMod (2 ^ 64)
  | .inside next => next.uncounted
  | _ => 0

/-- The part of a queue in the depth statistic. -/
def countedPart (queue : ResolveQueue ι) (uncounted : ZMod (2 ^ 64)) : ZMod (2 ^ 64) :=
  if queue.telemetry.depth then (queue.count : ZMod (2 ^ 64)) - uncounted else 0

theorem statisticAdd_cast (statistic amount : Nat) :
    (statisticAdd statistic amount : ZMod (2 ^ 64)) = statistic + amount := by
  unfold statisticAdd
  rw [ZMod.natCast_mod, Nat.cast_add]

theorem statisticSub_cast (statistic amount : Nat) :
    (statisticSub statistic amount : ZMod (2 ^ 64)) = statistic - amount := by
  have hle : amount % 2 ^ 64 ≤ 2 ^ 64 := (Nat.mod_lt _ (by decide)).le
  unfold statisticSub
  rw [ZMod.natCast_mod, Nat.cast_add, Nat.cast_sub hle, ZMod.natCast_mod, ZMod.natCast_self]
  ring

theorem statistic_lt (statistic amount : Nat) :
    statisticAdd statistic amount < 2 ^ 64 ∧ statisticSub statistic amount < 2 ^ 64 :=
  ⟨Nat.mod_lt _ (by decide), Nat.mod_lt _ (by decide)⟩

/-- A piece of a critical section moves the statistic by as much as the part of its queue. -/
structure Accounted (queue queue' : ResolveQueue ι) (place : Section ι) (outcome : Outcome ι)
    (statistics statistics' : QueueStatistics) : Prop where
  moved : (statistics'.depth : ZMod (2 ^ 64)) = statistics.depth +
    (countedPart queue' outcome.uncounted - countedPart queue place.uncounted)
  bounded : statistics.depth < 2 ^ 64 → statistics'.depth < 2 ^ 64

omit [Inhabited ι] in
/-- Where neither the statistic nor the part of the queue moves. -/
theorem Accounted.unmoved {queue queue' : ResolveQueue ι} {place : Section ι}
    {outcome : Outcome ι} {statistics statistics' : QueueStatistics}
    (hdepth : statistics'.depth = statistics.depth)
    (hpart : countedPart queue' outcome.uncounted = countedPart queue place.uncounted) :
    Accounted queue queue' place outcome statistics statistics' := by
  refine ⟨?_, fun hbound => hdepth ▸ hbound⟩
  rw [hdepth, hpart, sub_self, add_zero]

omit [Inhabited ι] in
theorem countedPart_off {queue : ResolveQueue ι} (hoff : queue.telemetry.depth = false)
    (uncounted : ZMod (2 ^ 64)) : countedPart queue uncounted = 0 := by
  unfold countedPart
  rw [hoff]
  rfl

omit [Inhabited ι] in
theorem countedPart_on {queue : ResolveQueue ι} (hon : queue.telemetry.depth = true)
    (uncounted : ZMod (2 ^ 64)) :
    countedPart queue uncounted = (queue.count : ZMod (2 ^ 64)) - uncounted := by
  unfold countedPart
  rw [if_pos hon]

theorem accounted_runSection {queue : ResolveQueue ι} {history : History ι} {contents : List ι}
    (h : Kept queue history contents) (statistics : QueueStatistics) (place : Section ι)
    (hsound : place.sound queue history) :
    Accounted queue (runSection queue history statistics place).1 place
      (runSection queue history statistics place).2.2.2 statistics
      (runSection queue history statistics place).2.2.1 := by
  have hadd := statistic_lt statistics.depth
  cases place with
  | pushTest item waited =>
      unfold runSection
      simp only
      split
      · split <;> exact .unmoved rfl rfl
      · split
        · exact .unmoved rfl rfl
        · refine .unmoved rfl ?_
          -- The new item is not in the statistic yet.
          change countedPart (pushItem queue item) 1 = countedPart queue 0
          unfold countedPart
          change (if queue.telemetry.depth then ((queue.count + 1 : Nat) : ZMod (2 ^ 64)) - 1
            else 0) = _
          rw [Nat.cast_add, Nat.cast_one, add_sub_cancel_right, sub_zero]
  | pushDepth =>
      unfold runSection
      simp only
      split
      · rename_i hon
        refine ⟨?_, fun _ => (hadd 1).1⟩
        change (statisticAdd statistics.depth 1 : ZMod (2 ^ 64)) =
          statistics.depth + (countedPart queue 0 - countedPart queue 1)
        rw [statisticAdd_cast, countedPart_on hon, countedPart_on hon]
        push_cast
        ring
      · rename_i hoff
        rw [Bool.not_eq_true] at hoff
        exact .unmoved rfl ((countedPart_off hoff _).trans (countedPart_off hoff _).symm)
  | pushHighWater depth =>
      unfold runSection
      simp only
      split <;> exact .unmoved rfl rfl
  | pushUnlock accepted => exact .unmoved rfl rfl
  | popTest =>
      unfold runSection
      simp only
      split
      · exact .unmoved rfl rfl
      · split
        · exact .unmoved rfl rfl
        · rename_i hnonempty
          refine .unmoved rfl ?_
          -- The item is out of the queue, and still in the statistic.
          change countedPart (popItem queue).2 (-1) = countedPart queue 0
          unfold countedPart
          change (if queue.telemetry.depth then ((queue.count - 1 : Nat) : ZMod (2 ^ 64)) - -1
            else 0) = _
          rw [Nat.cast_sub (by omega), Nat.cast_one, sub_neg_eq_add, sub_add_cancel, sub_zero]
  | popDepth item =>
      unfold runSection
      simp only
      split
      · rename_i hon
        refine ⟨?_, fun _ => (hadd 1).2⟩
        change (statisticSub statistics.depth 1 : ZMod (2 ^ 64)) =
          statistics.depth + (countedPart queue 0 - countedPart queue (-1))
        rw [statisticSub_cast, countedPart_on hon, countedPart_on hon]
        push_cast
        ring
      · rename_i hoff
        rw [Bool.not_eq_true] at hoff
        exact .unmoved rfl ((countedPart_off hoff _).trans (countedPart_off hoff _).symm)
  | popUnlock answer => exact .unmoved rfl (by cases answer <;> rfl)
  | shutdown => exact .unmoved rfl rfl
  | shutdownUnlock => exact .unmoved rfl rfl
  | cancel capacity stored =>
      obtain ⟨hroom, rfl⟩ := hsound
      have htelemetry := (h.contains.cancelItems hroom).2.2.2.2
      refine .unmoved rfl ?_
      change countedPart (cancelItems queue capacity true).1 (-(queue.count : ZMod (2 ^ 64))) =
        countedPart queue 0
      unfold countedPart
      rw [htelemetry]
      change (if queue.telemetry.depth then ((0 : Nat) : ZMod (2 ^ 64)) - -(queue.count) else 0) = _
      rw [Nat.cast_zero, zero_sub, neg_neg, sub_zero]
  | cancelDepth pending =>
      unfold runSection
      simp only
      split
      · rename_i hon
        refine ⟨?_, fun _ => (hadd pending).2⟩
        change (statisticSub statistics.depth pending : ZMod (2 ^ 64)) =
          statistics.depth + (countedPart queue 0 - countedPart queue (-pending))
        rw [statisticSub_cast, countedPart_on hon.1, countedPart_on hon.1]
        ring
      · rename_i hnone
        refine .unmoved rfl ?_
        change countedPart queue 0 = countedPart queue (-(pending : ZMod (2 ^ 64)))
        by_cases hon : queue.telemetry.depth = true
        · have hzero : pending = 0 := by
            by_contra hne
            exact hnone ⟨hon, hne⟩
          rw [hzero, Nat.cast_zero, neg_zero]
        · rw [Bool.not_eq_true] at hon
          exact (countedPart_off hon _).trans (countedPart_off hon _).symm
  | cancelUnlock => exact .unmoved rfl rfl

end

end Queue
end NvidiaVaapi
