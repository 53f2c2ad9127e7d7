import Mathlib.Algebra.BigOperators.Ring.Finset
import NvidiaVaapi.Lib.LabelledSystem
import NvidiaVaapi.Queue.QueueSections

/-!
# Runs of resolve queues

Any number of queues that share their statistics, used by any number of threads:
calls begin, threads take the mutex of a queue when it is free, and the thread with
the mutex of a queue runs through its critical section piece by piece.
-/

namespace NvidiaVaapi
namespace Queue

/-! ## The system -/

structure State (Q T ι : Type) where
  monitors : Q → Monitor T ι
  threads : T → ThreadPoint Q ι
  statistics : QueueStatistics

inductive Label (Q T ι : Type)
  | call (t : T) (q : Q) (operation : Operation ι)
  | enter (t : T)
  | run (q : Q)

section

variable {Q T ι : Type} [DecidableEq Q] [DecidableEq T] [Inhabited ι]

/-- The mutex behind a piece of a critical section that a thread ran. -/
def Outcome.holder (t : T) : Outcome ι → Option (T × Section ι)
  | .inside next => some (t, next)
  | _ => none

/-- The thread behind a piece of a critical section that it ran. -/
def Outcome.point (q : Q) : Outcome ι → ThreadPoint Q ι
  | .inside _ => .inside q
  | .returned => .idle
  | .waits operation waited => .entering q operation waited

/-- The thread with the mutex of a queue runs the next piece of its critical section. -/
def runHolder (s : State Q T ι) (q : Q) (t : T) (place : Section ι) : State Q T ι :=
  let (queue, history, statistics, outcome) :=
    runSection (s.monitors q).queue (s.monitors q).history s.statistics place
  { monitors := Function.update s.monitors q { queue, history, holder := outcome.holder t }
    threads := Function.update s.threads t (outcome.point q)
    statistics }

def step (s : State Q T ι) : Label Q T ι → Option (State Q T ι)
  | .call t q operation =>
    match s.threads t with
    | .idle =>
      if operation.locks (s.monitors q).queue.initialized then
        some { s with threads := Function.update s.threads t (.entering q operation false) }
      else some s
    | _ => none
  | .enter t =>
    match s.threads t with
    | .entering q operation waited =>
      match (s.monitors q).holder with
      | none =>
        some { s with
          monitors := Function.update s.monitors q
            { s.monitors q with holder := some (t, operation.section waited) }
          threads := Function.update s.threads t (.inside q) }
      | some _ => none
    | _ => none
  | .run q =>
    match (s.monitors q).holder with
    | some (t, place) => some (runHolder s q t place)
    | none => none

/-- Queues with given pointers to the statistics, all just initialised, and no thread in a
call. -/
def queues (telemetry : Q → ResolveQueueTelemetry) : LabelledSystem (State Q T ι) (Label Q T ι) where
  init :=
    { monitors := fun q => { queue := resolveQueueSetTelemetry resolveQueueInit (telemetry q) }
      threads := fun _ => .idle
      statistics := {} }
  step := step

/-- Every cancellation of a run has room for a full queue. -/
def roomy (_ : State Q T ι) : Label Q T ι → Prop
  | .call _ _ operation => operation.roomy
  | _ => True

end

/-! ## Runs -/

section

variable {Q T ι : Type} [DecidableEq Q] [DecidableEq T] [Inhabited ι] [Fintype Q]

/-- The part of a queue in the depth statistic, whoever has its mutex. -/
def Monitor.part (monitor : Monitor T ι) : ZMod (2 ^ 64) :=
  countedPart monitor.queue (monitor.holder.elim 0 fun holder => holder.2.uncounted)

/-- What every run keeps. -/
structure Invariant (telemetry : Q → ResolveQueueTelemetry) (s : State Q T ι) : Prop where
  kept : ∀ q, ∃ contents, Kept (s.monitors q).queue (s.monitors q).history contents
  telemetry : ∀ q, (s.monitors q).queue.telemetry = telemetry q
  sound : ∀ q t place, (s.monitors q).holder = some (t, place) →
    place.sound (s.monitors q).queue (s.monitors q).history ∧ s.threads t = .inside q
  roomy : ∀ t q operation waited, s.threads t = .entering q operation waited → operation.roomy
  depth : (s.statistics.depth : ZMod (2 ^ 64)) = ∑ q, (s.monitors q).part
  bounded : s.statistics.depth < 2 ^ 64

omit [DecidableEq T] [Inhabited ι] in
/-- A step at one queue changes the sum by the change of that queue's part. -/
theorem sum_part_update (monitors : Q → Monitor T ι) (q : Q) (monitor : Monitor T ι) :
    ∑ r, (Function.update monitors q monitor r).part =
      ∑ r, (monitors r).part + (monitor.part - (monitors q).part) := by
  have hupdate : ∀ r, (Function.update monitors q monitor r).part =
      Function.update (fun r => (monitors r).part) q monitor.part r := by
    intro r
    by_cases hsame : r = q
    · rw [hsame, Function.update_self, Function.update_self]
    · rw [Function.update_of_ne hsame, Function.update_of_ne hsame]
  rw [Finset.sum_congr rfl fun r _ => hupdate r,
    Finset.sum_update_of_mem (Finset.mem_univ q),
    Finset.sum_eq_add_sum_sdiff_singleton q (fun r => (monitors r).part)
      fun hq => absurd (Finset.mem_univ q) hq]
  ring

theorem invariant_init (telemetry : Q → ResolveQueueTelemetry) :
    Invariant telemetry (queues telemetry : LabelledSystem (State Q T ι) (Label Q T ι)).init := by
  refine ⟨fun q => ⟨[], contains_init _, rfl, rfl, fun hne => absurd rfl hne, rfl⟩,
    fun _ => rfl, nofun, nofun, ?_, Nat.two_pow_pos 64⟩
  have hzero : ∀ q : Q, Monitor.part
      ({ queue := resolveQueueSetTelemetry resolveQueueInit (telemetry q) } : Monitor T ι) = 0 := by
    intro q
    unfold Monitor.part countedPart
    split
    · exact sub_self _
    · rfl
  exact (Finset.sum_eq_zero fun q _ => hzero q).symm

omit [Inhabited ι] in
theorem Operation.section_sound {operation : Operation ι} (hroomy : operation.roomy)
    (waited : Bool) (queue : ResolveQueue ι) (history : History ι) :
    (operation.section waited).sound queue history := by
  cases operation with
  | push item => trivial
  | pop => trivial
  | shutdown => trivial
  | cancel capacity stored => exact hroomy

omit [Inhabited ι] in
theorem Operation.section_uncounted (operation : Operation ι) (waited : Bool) :
    (operation.section waited).uncounted = 0 := by
  cases operation <;> rfl

namespace Invariant

variable {telemetry : Q → ResolveQueueTelemetry} {s s' : State Q T ι}

omit [DecidableEq Q] [Inhabited ι] in
theorem call {t : T} {q : Q} {operation : Operation ι} (h : Invariant telemetry s)
    (hroomy : operation.roomy) (hidle : s.threads t = .idle) :
    Invariant telemetry
      { s with threads := Function.update s.threads t (.entering q operation false) } := by
  refine ⟨h.kept, h.telemetry, fun r t' place hholder => ?_, fun t' r other waited hpoint => ?_,
    h.depth, h.bounded⟩
  · obtain ⟨hsound, hinside⟩ := h.sound r t' place hholder
    refine ⟨hsound, ?_⟩
    have hother : t' ≠ t := by
      rintro rfl
      rw [hidle] at hinside
      cases hinside
    exact (Function.update_of_ne hother _ _).trans hinside
  · by_cases hsame : t' = t
    · subst hsame
      have hentering := (Function.update_self t' _ s.threads).symm.trans hpoint
      cases hentering
      exact hroomy
    · exact h.roomy t' r other waited ((Function.update_of_ne hsame _ _).symm.trans hpoint)

omit [Inhabited ι] in
theorem enter {t : T} {q : Q} {operation : Operation ι} {waited : Bool}
    (h : Invariant telemetry s) (hpoint : s.threads t = .entering q operation waited)
    (hfree : (s.monitors q).holder = none) :
    Invariant telemetry
      { s with
        monitors := Function.update s.monitors q
          { s.monitors q with holder := some (t, operation.section waited) }
        threads := Function.update s.threads t (.inside q) } := by
  have hroomy := h.roomy t q operation waited hpoint
  refine ⟨?_, ?_, fun r t' place hholder => ?_, fun t' r other waited' hpoint' => ?_, ?_,
    h.bounded⟩
  · exact (Function.forall_update_iff s.monitors fun _ monitor =>
      ∃ contents, Kept monitor.queue monitor.history contents).mpr
        ⟨h.kept q, fun r _ => h.kept r⟩
  · exact (Function.forall_update_iff s.monitors fun r monitor =>
      monitor.queue.telemetry = telemetry r).mpr ⟨h.telemetry q, fun r _ => h.telemetry r⟩
  · by_cases hsame : r = q
    · subst hsame
      simp only [Function.update_self] at hholder ⊢
      cases hholder
      exact ⟨Operation.section_sound hroomy waited _ _, Function.update_self _ _ _⟩
    · simp only [Function.update_of_ne hsame] at hholder ⊢
      obtain ⟨hsound, hinside⟩ := h.sound r t' place hholder
      refine ⟨hsound, ?_⟩
      have hother : t' ≠ t := by
        rintro rfl
        rw [hpoint] at hinside
        cases hinside
      exact (Function.update_of_ne hother _ _).trans hinside
  · by_cases hsame : t' = t
    · subst hsame
      have hinside := (Function.update_self t' _ s.threads).symm.trans hpoint'
      cases hinside
    · exact h.roomy t' r other waited' ((Function.update_of_ne hsame _ _).symm.trans hpoint')
  · refine h.depth.trans ?_
    rw [sum_part_update]
    unfold Monitor.part
    rw [hfree]
    simp only [Option.elim_some, Option.elim_none, Operation.section_uncounted, sub_self, add_zero]

theorem run {t : T} {q : Q} {place : Section ι} (h : Invariant telemetry s)
    (hholder : (s.monitors q).holder = some (t, place)) :
    Invariant telemetry (runHolder s q t place) := by
  obtain ⟨hsound, hinside⟩ := h.sound q t place hholder
  obtain ⟨contents, hkept⟩ := h.kept q
  have heffect := hkept.runSection s.statistics place hsound
  have haccounted := accounted_runSection hkept s.statistics place hsound
  unfold runHolder
  generalize runSection (s.monitors q).queue (s.monitors q).history s.statistics place = result
    at heffect haccounted
  obtain ⟨queue, history, statistics, outcome⟩ := result
  simp only at heffect haccounted ⊢
  refine ⟨?_, ?_, fun r t' place' hholder' => ?_, fun t' r operation waited hpoint => ?_, ?_,
    haccounted.bounded h.bounded⟩
  · exact (Function.forall_update_iff s.monitors fun _ monitor =>
      ∃ contents, Kept monitor.queue monitor.history contents).mpr
        ⟨heffect.kept, fun r _ => h.kept r⟩
  · exact (Function.forall_update_iff s.monitors fun r monitor =>
      monitor.queue.telemetry = telemetry r).mpr
        ⟨heffect.telemetry.trans (h.telemetry q), fun r _ => h.telemetry r⟩
  · by_cases hsame : r = q
    · subst hsame
      simp only [Function.update_self] at hholder' ⊢
      have houtcome := heffect.sound
      cases outcome with
      | inside next =>
          cases hholder'
          exact ⟨houtcome, Function.update_self _ _ _⟩
      | returned => cases hholder'
      | waits operation waited => cases hholder'
    · simp only [Function.update_of_ne hsame] at hholder' ⊢
      obtain ⟨hsound', hinside'⟩ := h.sound r t' place' hholder'
      refine ⟨hsound', ?_⟩
      have hother : t' ≠ t := by
        rintro rfl
        rw [hinside] at hinside'
        cases hinside'
        exact hsame rfl
      exact (Function.update_of_ne hother _ _).trans hinside'
  · by_cases hsame : t' = t
    · subst hsame
      have hpoint' := (Function.update_self t' _ s.threads).symm.trans hpoint
      have houtcome := heffect.sound
      cases outcome with
      | inside next => cases hpoint'
      | returned => cases hpoint'
      | waits other waited' =>
          cases hpoint'
          exact houtcome
    · exact h.roomy t' r operation waited ((Function.update_of_ne hsame _ _).symm.trans hpoint)
  · rw [sum_part_update, haccounted.moved, h.depth]
    have hbefore : (s.monitors q).part = countedPart (s.monitors q).queue place.uncounted := by
      unfold Monitor.part
      rw [hholder]
      rfl
    have hafter : (Monitor.part { queue, history, holder := outcome.holder t } : ZMod (2 ^ 64)) =
        countedPart queue outcome.uncounted := by
      cases outcome <;> rfl
    rw [hbefore, hafter]

theorem step (h : Invariant telemetry s) {label : Label Q T ι} (hroomy : Queue.roomy s label)
    (hstep : Queue.step s label = some s') : Invariant telemetry s' := by
  cases label with
  | call t q operation =>
      unfold Queue.step at hstep
      simp only at hstep
      split at hstep
      · rename_i hidle
        split at hstep
        · cases hstep
          exact h.call hroomy hidle
        · cases hstep
          exact h
      · cases hstep
  | enter t =>
      unfold Queue.step at hstep
      simp only at hstep
      split at hstep
      · rename_i hpoint
        split at hstep
        · rename_i hfree
          cases hstep
          exact h.enter hpoint hfree
        · cases hstep
      · cases hstep
  | run q =>
      unfold Queue.step at hstep
      simp only at hstep
      split at hstep
      · rename_i hholder
        cases hstep
        exact h.run hholder
      · cases hstep

/-- A closed queue accepts nothing, and stays closed. -/
theorem closed_step (h : Invariant telemetry s) {label : Label Q T ι}
    (hstep : Queue.step s label = some s') (q : Q)
    (hclosed : (s.monitors q).history.closed = true) :
    (s'.monitors q).history.closed = true ∧
      (s'.monitors q).history.accepted = (s.monitors q).history.accepted := by
  cases label with
  | call t r operation =>
      unfold Queue.step at hstep
      simp only at hstep
      split at hstep
      · split at hstep <;> cases hstep <;> exact ⟨hclosed, rfl⟩
      · cases hstep
  | enter t =>
      unfold Queue.step at hstep
      simp only at hstep
      split at hstep
      · rename_i r operation waited hpoint
        split at hstep
        · cases hstep
          by_cases hsame : q = r
          · subst hsame
            simp only [Function.update_self]
            exact ⟨hclosed, trivial⟩
          · simp only [Function.update_of_ne hsame]
            exact ⟨hclosed, trivial⟩
        · cases hstep
      · cases hstep
  | run r =>
      unfold Queue.step at hstep
      simp only at hstep
      split at hstep
      · rename_i t place hholder
        cases hstep
        unfold runHolder
        by_cases hsame : q = r
        · subst hsame
          obtain ⟨contents, hkept⟩ := h.kept q
          have heffect := hkept.runSection s.statistics place (h.sound q t place hholder).1
          simp only [Function.update_self]
          exact heffect.closed hclosed
        · simp only [Function.update_of_ne hsame]
          exact ⟨hclosed, trivial⟩
      · cases hstep

end Invariant

theorem invariant_of_reachable {telemetry : Q → ResolveQueueTelemetry} {s : State Q T ι}
    (hs : (queues telemetry).ReachableUnder roomy s) : Invariant telemetry s :=
  LabelledSystem.invariant (invariant_init telemetry)
    (fun _ _ _ h hroomy hstep => h.step hroomy hstep) hs

theorem closed_run {telemetry : Q → ResolveQueueTelemetry} {s s' : State Q T ι}
    (h : Invariant telemetry s) (hrun : (queues telemetry).Run roomy s s') (q : Q)
    (hclosed : (s.monitors q).history.closed = true) :
    (s'.monitors q).history.closed = true ∧
      (s'.monitors q).history.accepted = (s.monitors q).history.accepted := by
  induction hrun with
  | refl => exact ⟨hclosed, rfl⟩
  | tail label hbefore _ hstep ih =>
      have hmiddle := LabelledSystem.Run.preserves
        (fun _ _ _ hkept hroomy hnext => Invariant.step hkept hroomy hnext) hbefore h
      obtain ⟨hclosed', haccepted⟩ := hmiddle.closed_step hstep q ih.1
      exact ⟨hclosed', haccepted.trans ih.2⟩

/-! ## A lossless queue -/

/-- What a state of the queues must satisfy. -/
structure Lossless (telemetry : Q → ResolveQueueTelemetry) (s : State Q T ι) : Prop where
  /-- Accepted items come out in their order, are cancelled, or are still there. -/
  order : ∀ q, ∃ contents, Contains (s.monitors q).queue contents ∧
    (s.monitors q).history.accepted =
      (s.monitors q).history.popped ++ (s.monitors q).history.cancelled ++ contents
  /-- The count is bounded and agrees with the indices. -/
  count : ∀ q, (s.monitors q).queue.count ≤ resolveQueueCapacity ∧
    (s.monitors q).queue.writeIdx.val =
      ((s.monitors q).queue.readIdx.val + (s.monitors q).queue.count) % resolveQueueCapacity
  /-- Nothing is accepted once a shutdown or a cancellation has begun. -/
  closed : ∀ q s', (queues telemetry).Run roomy s s' →
    (s.monitors q).history.closed = true →
      (s'.monitors q).history.accepted = (s.monitors q).history.accepted
  /-- A pop that finds an item takes the oldest one, before or after a shutdown, -/
  drains : ∀ q t item rest, (s.monitors q).holder = some (t, .popTest) →
    Contains (s.monitors q).queue (item :: rest) →
      ∃ s', step s (.run q) = some s' ∧ (s'.monitors q).holder = some (t, .popDepth item) ∧
        (s'.monitors q).history.popped = (s.monitors q).history.popped ++ [item]
  /-- it answers with the item that it took, -/
  answers : ∀ q t item, (s.monitors q).holder = some (t, .popUnlock (some item)) →
    (s.monitors q).history.popped.getLast? = some item
  /-- and it reports the exit only from an empty queue that has been shut down. -/
  exits : ∀ q t, (s.monitors q).holder = some (t, .popUnlock none) →
    (s.monitors q).queue.count = 0 ∧ (s.monitors q).history.closed = true
  /-- Between all calls the statistic is the sum of the counts, as a `uint_fast64_t`; -/
  depth : (∀ t, s.threads t = .idle) → s.statistics.depth =
    (∑ q, if (telemetry q).depth then (s.monitors q).queue.count else 0) % 2 ^ 64
  /-- fewer than `2 ^ 60` queues do not wrap it. -/
  depthExact : (∀ t, s.threads t = .idle) → Fintype.card Q < 2 ^ 60 → s.statistics.depth =
    ∑ q, if (telemetry q).depth then (s.monitors q).queue.count else 0

omit [DecidableEq Q] [DecidableEq T] [Inhabited ι] in
theorem Invariant.count_le {telemetry : Q → ResolveQueueTelemetry} {s : State Q T ι}
    (h : Invariant telemetry s) (q : Q) :
    (s.monitors q).queue.count ≤ resolveQueueCapacity := by
  obtain ⟨contents, hkept⟩ := h.kept q
  rw [hkept.contains.count]
  exact hkept.contains.holds.fits

omit [DecidableEq Q] [DecidableEq T] [Inhabited ι] in
theorem Invariant.depth_idle {telemetry : Q → ResolveQueueTelemetry} {s : State Q T ι}
    (h : Invariant telemetry s) (hidle : ∀ t, s.threads t = .idle) : s.statistics.depth =
      (∑ q, if (telemetry q).depth then (s.monitors q).queue.count else 0) % 2 ^ 64 := by
  have hpart : ∀ q, (s.monitors q).part =
      ((if (telemetry q).depth then (s.monitors q).queue.count else 0 : Nat) :
        ZMod (2 ^ 64)) := by
    intro q
    have hfree : (s.monitors q).holder = none := by
      cases hholder : (s.monitors q).holder with
      | none => rfl
      | some holder =>
          have hinside := (h.sound q holder.1 holder.2 hholder).2
          rw [hidle] at hinside
          cases hinside
    unfold Monitor.part countedPart
    rw [hfree, h.telemetry]
    split
    · exact sub_zero _
    · exact Nat.cast_zero.symm
  have hdepth := h.depth
  rw [Finset.sum_congr rfl fun q _ => hpart q, ← Nat.cast_sum,
    ZMod.natCast_eq_natCast_iff'] at hdepth
  rwa [Nat.mod_eq_of_lt h.bounded] at hdepth

omit [DecidableEq Q] [DecidableEq T] [Inhabited ι] in
/-- Few queues do not wrap the statistic. -/
theorem Invariant.sum_lt {telemetry : Q → ResolveQueueTelemetry} {s : State Q T ι}
    (h : Invariant telemetry s) (hfew : Fintype.card Q < 2 ^ 60) :
    (∑ q, if (telemetry q).depth then (s.monitors q).queue.count else 0) < 2 ^ 64 := by
  have hbound : ∀ q ∈ Finset.univ,
      (if (telemetry q).depth then (s.monitors q).queue.count else 0) ≤ resolveQueueCapacity := by
    intro q _
    split
    · exact h.count_le q
    · exact Nat.zero_le _
  have hsum := Finset.sum_le_card_nsmul Finset.univ _ _ hbound
  rw [Finset.card_univ, smul_eq_mul] at hsum
  have hcapacity : resolveQueueCapacity = 16 := rfl
  rw [hcapacity] at hsum
  omega

/-- One thread pushes an item into one of two queues. -/
def onePush : List (Label (Fin 2) (Fin 2) Nat) :=
  [.call 0 1 (.push 7), .enter 0, .run 1, .run 1, .run 1, .run 1]

end

end Queue
end NvidiaVaapi
