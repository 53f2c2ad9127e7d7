import NvidiaVaapi.Lib.RingBuffer

/-!
# The resolve queue

The functions of `resolve-queue.c`, cut into the sections that another thread can
tell apart: what a caller does before it has the mutex, and the pieces of the
critical section between the accesses to the statistics, which all queues of a
driver share and which no mutex protects.

A thread that waits on a condition gives the mutex back and takes it again.  When it
wakes is left open (any signal, broadcast or spurious wake-up), since every wait is
followed by the test that led to it.  Clock readings and the statistic made of them
are left out.
-/

namespace NvidiaVaapi
namespace Queue

/-- `RESOLVE_QUEUE_CAPACITY`. -/
def resolveQueueCapacity : Nat := 16

/-- Which of the pointers of `ResolveQueueTelemetry` are set. -/
structure ResolveQueueTelemetry where
  depth : Bool := false
  highWater : Bool := false
  fullWaits : Bool := false
  deriving DecidableEq, Repr

/-- The statistics that the pointers lead to, `uint_fast64_t` each. -/
structure QueueStatistics where
  depth : Nat := 0
  highWater : Nat := 0
  fullWaits : Nat := 0
  deriving DecidableEq, Repr

/-- `atomic_fetch_add` and `atomic_fetch_sub` on a statistic. -/
def statisticAdd (statistic amount : Nat) : Nat := (statistic + amount) % 2 ^ 64

def statisticSub (statistic amount : Nat) : Nat := (statistic + (2 ^ 64 - amount % 2 ^ 64)) % 2 ^ 64

/-- `ResolveQueue`, for pointers `ι`; the default one is `NULL`.  The indices are
reduced modulo the capacity wherever they are written. -/
structure ResolveQueue (ι : Type) where
  items : Fin resolveQueueCapacity → ι
  readIdx : Fin resolveQueueCapacity
  writeIdx : Fin resolveQueueCapacity
  count : Nat
  highWater : Nat
  exiting : Bool
  initialized : Bool
  telemetry : ResolveQueueTelemetry

section

variable {ι : Type} [Inhabited ι]

/-- `(index + 1) % RESOLVE_QUEUE_CAPACITY`. -/
def nextIdx (index : Fin resolveQueueCapacity) : Fin resolveQueueCapacity :=
  RingBuffer.cell index 1

/-- The queue after `resolveQueueInit` succeeded. -/
def resolveQueueInit : ResolveQueue ι where
  items := fun _ => default
  readIdx := ⟨0, by decide⟩
  writeIdx := ⟨0, by decide⟩
  count := 0
  highWater := 0
  exiting := false
  initialized := true
  telemetry := {}

def resolveQueueSetTelemetry (queue : ResolveQueue ι) (telemetry : ResolveQueueTelemetry) :
    ResolveQueue ι :=
  { queue with telemetry }

/-! ## Pieces of the critical sections -/

/-- `resolveQueuePushTimed` once there is room and the queue is not exiting. -/
def pushItem (queue : ResolveQueue ι) (item : ι) : ResolveQueue ι :=
  { queue with
    items := Function.update queue.items queue.writeIdx item
    writeIdx := nextIdx queue.writeIdx
    count := queue.count + 1
    highWater := if queue.count + 1 > queue.highWater then queue.count + 1 else queue.highWater }

/-- `resolveQueuePop` once the queue is not empty: the item, and the queue without it. -/
def popItem (queue : ResolveQueue ι) : ι × ResolveQueue ι :=
  (queue.items queue.readIdx,
    { queue with
      items := Function.update queue.items queue.readIdx default
      readIdx := nextIdx queue.readIdx
      count := queue.count - 1 })

/-- The loop of `resolveQueueCancel`, with its number of rounds left, and what it has
stored in the array of the caller. -/
def cancelLoop (returned : Nat) (stored : Bool) :
    Nat → Nat → ResolveQueue ι → List ι → ResolveQueue ι × List ι
  | 0, _, queue, cancelled => (queue, cancelled)
  | rounds + 1, i, queue, cancelled =>
    let item := queue.items queue.readIdx
    let queue := { queue with
      items := Function.update queue.items queue.readIdx default
      readIdx := nextIdx queue.readIdx }
    cancelLoop returned stored rounds (i + 1) queue
      (if i < returned ∧ stored then cancelled ++ [item] else cancelled)

/-- The number of items that `resolveQueueCancel` returns. -/
def cancelReturned (queue : ResolveQueue ι) (capacity : Nat) : Nat :=
  if queue.count < capacity then queue.count else capacity

/-- `resolveQueueCancel` up to the statistics. -/
def cancelItems (queue : ResolveQueue ι) (capacity : Nat) (stored : Bool) :
    ResolveQueue ι × List ι :=
  let (drained, cancelled) := cancelLoop (cancelReturned queue capacity) stored queue.count 0
    { queue with exiting := true } []
  ({ drained with count := 0, writeIdx := drained.readIdx }, cancelled)

end

/-! ## Threads -/

/-- A call of the queue; `stored` tells whether the caller of `resolveQueueCancel`
passed an array. -/
inductive Operation (ι : Type)
  | push (item : ι)
  | pop
  | shutdown
  | cancel (capacity : Nat) (stored : Bool)

/-- Where a thread without the mutex is: outside of all calls, at the point where it takes
the mutex (for a push with its local `waited`), or in a critical section. -/
inductive ThreadPoint (Q ι : Type)
  | idle
  | entering (q : Q) (operation : Operation ι) (waited : Bool)
  | inside (q : Q)

/-- Where a thread with the mutex is. -/
inductive Section (ι : Type)
  | pushTest (item : ι) (waited : Bool)
  | pushDepth
  | pushHighWater (depth : Nat)
  | pushUnlock (accepted : Bool)
  | popTest
  | popDepth (item : ι)
  | popUnlock (answer : Option ι)
  | shutdown
  | shutdownUnlock
  | cancel (capacity : Nat) (stored : Bool)
  | cancelDepth (pending : Nat)
  | cancelUnlock

def Operation.section {ι : Type} (waited : Bool) : Operation ι → Section ι
  | .push item => .pushTest item waited
  | .pop => .popTest
  | .shutdown => .shutdown
  | .cancel capacity stored => .cancel capacity stored

/-- What has become of the items of a queue, each list in its order: accepted by a push,
returned by pops, returned by cancellation; and whether a shutdown or a cancellation has
begun.  No step reads it. -/
structure History (ι : Type) where
  accepted : List ι := []
  popped : List ι := []
  cancelled : List ι := []
  closed : Bool := false

/-- A queue, the thread that has its mutex, and its history. -/
structure Monitor (T ι : Type) where
  queue : ResolveQueue ι
  holder : Option (T × Section ι) := none
  history : History ι := {}

/-- How a piece of a critical section ends: in the next piece, with the mutex given back and
the call over, or with the mutex given back and to be taken again for the same call. -/
inductive Outcome (ι : Type)
  | inside (next : Section ι)
  | returned
  | waits (operation : Operation ι) (waited : Bool)

section

variable {T ι : Type} [Inhabited ι]

/-- One piece of a critical section. -/
def runSection (queue : ResolveQueue ι) (history : History ι) (statistics : QueueStatistics) :
    Section ι → ResolveQueue ι × History ι × QueueStatistics × Outcome ι
  | .pushTest item waited =>
    if queue.count = resolveQueueCapacity ∧ queue.exiting = false then
      if waited = false ∧ queue.telemetry.fullWaits then
        (queue, history,
          { statistics with fullWaits := statisticAdd statistics.fullWaits 1 },
          .waits (.push item) true)
      else (queue, history, statistics, .waits (.push item) waited)
    else if queue.exiting then (queue, history, statistics, .inside (.pushUnlock false))
    else
      (pushItem queue item, { history with accepted := history.accepted ++ [item] }, statistics,
        .inside .pushDepth)
  | .pushDepth =>
    if queue.telemetry.depth then
      (queue, history, { statistics with depth := statisticAdd statistics.depth 1 },
        .inside (.pushHighWater (statisticAdd statistics.depth 1)))
    else (queue, history, statistics, .inside (.pushUnlock true))
  | .pushHighWater depth =>
    if queue.telemetry.highWater then
      (queue, history, { statistics with highWater := max statistics.highWater depth },
        .inside (.pushUnlock true))
    else (queue, history, statistics, .inside (.pushUnlock true))
  | .pushUnlock _ => (queue, history, statistics, .returned)
  | .popTest =>
    if queue.count = 0 ∧ queue.exiting = false then
      (queue, history, statistics, .waits .pop false)
    else if queue.count = 0 then (queue, history, statistics, .inside (.popUnlock none))
    else
      ((popItem queue).2, { history with popped := history.popped ++ [(popItem queue).1] },
        statistics, .inside (.popDepth (popItem queue).1))
  | .popDepth item =>
    if queue.telemetry.depth then
      (queue, history, { statistics with depth := statisticSub statistics.depth 1 },
        .inside (.popUnlock (some item)))
    else (queue, history, statistics, .inside (.popUnlock (some item)))
  | .popUnlock _ => (queue, history, statistics, .returned)
  | .shutdown =>
    ({ queue with exiting := true }, { history with closed := true }, statistics,
      .inside .shutdownUnlock)
  | .shutdownUnlock => (queue, history, statistics, .returned)
  | .cancel capacity stored =>
    ((cancelItems queue capacity stored).1,
      { history with
        cancelled := history.cancelled ++ (cancelItems queue capacity stored).2
        closed := true },
      statistics, .inside (.cancelDepth queue.count))
  | .cancelDepth pending =>
    if queue.telemetry.depth ∧ pending ≠ 0 then
      (queue, history, { statistics with depth := statisticSub statistics.depth pending },
        .inside .cancelUnlock)
    else (queue, history, statistics, .inside .cancelUnlock)
  | .cancelUnlock => (queue, history, statistics, .returned)

end

/-- Whether a call goes for the mutex: a shutdown or a cancellation of a queue that is not
initialised returns at once. -/
def Operation.locks {ι : Type} (initialized : Bool) : Operation ι → Bool
  | .push _ => true
  | .pop => true
  | .shutdown => initialized
  | .cancel _ _ => initialized

end Queue
end NvidiaVaapi
