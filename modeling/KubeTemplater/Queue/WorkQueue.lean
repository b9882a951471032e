/-
The work queue of the operator.

Work items live at references, as they do in Go: the heap slice and the
deduplication map both hold references, and the back index of an item is
written through them.  Every method below is the body of one critical section
of the queue's mutex.
-/

import KubeTemplater.Api
import KubeTemplater.Library.BinaryHeap

namespace KubeTemplater.Queue

open Library

abbrev ItemRef := Nat

structure WorkItem where
  namespacedName : NamespacedName
  priority : Int
  retryCount : Int
  retryCycle : Int
  enqueuedAt : Time
  scheduledAt : Time
  index : Int
  deriving DecidableEq, Repr

structure QueueMetrics where
  enqueueCount : Int
  dequeueCount : Int
  retryCount : Int
  currentDepth : Nat
  processingItems : Int
  deriving DecidableEq, Repr

structure WorkQueue where
  items : Array ItemRef
  itemsMap : NamespacedName → Option ItemRef
  /-- The items themselves.  References from `allocated` on are not in use. -/
  memory : ItemRef → WorkItem
  allocated : Nat
  shutdown : Bool
  metrics : QueueMetrics
  maxRetries : Int
  initialRetryDelay : Int
  maxRetryDelay : Int
  maxRetryCycles : Int

def itemLess (left right : WorkItem) : Bool :=
  if left.priority ≠ right.priority then decide (right.priority < left.priority)
  else decide (left.scheduledAt < right.scheduledAt)

def WorkItem.withIndex (item : WorkItem) (index : Int) : WorkItem :=
  { item with index := index }

def setItem (memory : ItemRef → WorkItem) (ref : ItemRef) (item : WorkItem) :
    ItemRef → WorkItem :=
  fun other => if other = ref then item else memory other

def setIndex (memory : ItemRef → WorkItem) (ref : ItemRef) (index : Int) :
    ItemRef → WorkItem :=
  setItem memory ref ((memory ref).withIndex index)

def setKey (itemsMap : NamespacedName → Option ItemRef) (key : NamespacedName)
    (ref : Option ItemRef) : NamespacedName → Option ItemRef :=
  fun other => if other = key then ref else itemsMap other

namespace WorkQueue

def less (queue : WorkQueue) (i j : Nat) : Bool :=
  match queue.items[i]?, queue.items[j]? with
  | some left, some right => itemLess (queue.memory left) (queue.memory right)
  | _, _ => false

def swap (queue : WorkQueue) (i j : Nat) : WorkQueue :=
  if left : i < queue.items.size then
    if right : j < queue.items.size then
      { queue with
        items := queue.items.swap i j left right
        -- after the exchange position `i` holds what was at `j`
        memory := setIndex (setIndex queue.memory queue.items[j] i) queue.items[i] j }
    else queue
  else queue

def push (queue : WorkQueue) (ref : ItemRef) : WorkQueue :=
  { queue with
    items := queue.items.push ref
    memory := setIndex queue.memory ref queue.items.size }

def pop (queue : WorkQueue) : WorkQueue :=
  match queue.items.back? with
  | none => queue
  | some ref =>
      { queue with
        items := queue.items.pop
        memory := setIndex queue.memory ref (-1) }

def priorityQueue : HeapInterface WorkQueue :=
  { len := fun queue => queue.items.size
    less := less
    swap := swap }

def heapPush (queue : WorkQueue) (ref : ItemRef) : WorkQueue :=
  priorityQueue.siftLast (push queue ref)

def heapPop (queue : WorkQueue) : WorkQueue :=
  pop (priorityQueue.rootToLast queue)

def heapFix (queue : WorkQueue) (i : Int) : WorkQueue :=
  priorityQueue.fix queue i

end WorkQueue

def defaultMaxRetries : Int := 5

def defaultInitialRetryDelay : Int := 1000000000

def defaultMaxRetryDelay : Int := 300000000000

def defaultMaxRetryCycles : Int := 3

def newWorkQueueWithConfig (maxRetries initialDelay maxDelay maxCycles : Int) : WorkQueue :=
  { items := #[]
    itemsMap := fun _ => none
    memory := fun _ =>
      { namespacedName := ⟨"", ""⟩, priority := 0, retryCount := 0, retryCycle := 0
        enqueuedAt := 0, scheduledAt := 0, index := 0 }
    allocated := 0
    shutdown := false
    metrics := ⟨0, 0, 0, 0, 0⟩
    maxRetries := maxRetries
    initialRetryDelay := initialDelay
    maxRetryDelay := maxDelay
    maxRetryCycles := maxCycles }

def newWorkQueue : WorkQueue :=
  newWorkQueueWithConfig defaultMaxRetries defaultInitialRetryDelay defaultMaxRetryDelay
    defaultMaxRetryCycles

/-- What one turn of the `Dequeue` loop does with the mutex held: return that the
queue is shut down, wait for a signal, wait at most until a time, or hand out the
root of the heap. -/
inductive DequeueTurn where
  | stopped
  | wait
  | waitUntil (time : Time)
  | take (ref : ItemRef) (queue : WorkQueue)

def wrap64 (value : Int) : Int := (BitVec.ofInt 64 value).toInt

/-- `1 << uint(count)` for a count below 64; a negative count shifts everything out. -/
def shiftOne (count : Int) : Int := if count < 0 then 0 else ((1 <<< count.toNat : Nat) : Int)

namespace WorkQueue

def enqueue (queue : WorkQueue) (key : NamespacedName) (priority : Int) (now : Time) :
    WorkQueue :=
  match queue.itemsMap key with
  | some existing =>
      if (queue.memory existing).priority < priority then
        heapFix
          { queue with
            memory := setItem queue.memory existing
              { queue.memory existing with priority := priority } }
          (queue.memory existing).index
      else queue
  | none =>
      let ref := queue.allocated
      let item : WorkItem :=
        { namespacedName := key, priority := priority, retryCount := 0, retryCycle := 0
          enqueuedAt := now, scheduledAt := now, index := 0 }
      let pushed := heapPush
        { queue with
          memory := setItem queue.memory ref item
          allocated := queue.allocated + 1 }
        ref
      { pushed with
        itemsMap := setKey pushed.itemsMap key (some ref)
        metrics :=
          { pushed.metrics with
            enqueueCount := pushed.metrics.enqueueCount + 1
            currentDepth := pushed.items.size } }

def dequeue (queue : WorkQueue) (now : Time) : DequeueTurn :=
  if queue.shutdown then .stopped
  else
    match queue.items[0]? with
    | none => .wait
    | some ref =>
        let item := queue.memory ref
        if now < item.scheduledAt then .waitUntil item.scheduledAt
        else
          let popped := heapPop queue
          .take ref
            { popped with
              itemsMap := setKey popped.itemsMap item.namespacedName none
              metrics :=
                { popped.metrics with
                  dequeueCount := popped.metrics.dequeueCount + 1
                  currentDepth := popped.items.size
                  processingItems := popped.metrics.processingItems + 1 } }

/-- The delay of a retry that does not start a new cycle; `retryCount` is already
incremented. -/
def backoffDelay (queue : WorkQueue) (retryCount : Int) : Int :=
  let count := retryCount - 1
  let capped := if 30 < count then 30 else count
  let delay := wrap64 (queue.initialRetryDelay * shiftOne capped)
  if queue.maxRetryDelay < delay then queue.maxRetryDelay else delay

/-- The item `Requeue` makes of a failed one, with its delay; `none` when the
retry cycles are used up. -/
def retryItem (queue : WorkQueue) (item : WorkItem) (now : Time) : Option WorkItem :=
  let retryCount := item.retryCount + 1
  if queue.maxRetries < retryCount then
    if 0 < queue.maxRetryCycles ∧ queue.maxRetryCycles ≤ item.retryCycle then none
    else some
      { item with
        retryCount := 0
        retryCycle := item.retryCycle + 1
        scheduledAt := now + queue.maxRetryDelay }
  else some
    { item with
      retryCount := retryCount
      scheduledAt := now + backoffDelay queue retryCount }

def requeue (queue : WorkQueue) (ref : ItemRef) (now : Time) : WorkQueue :=
  let item := queue.memory ref
  match retryItem queue item now with
  | none =>
      -- the gauge goes down a second time on this exit
      { queue with
        memory := setItem queue.memory ref { item with retryCount := item.retryCount + 1 }
        metrics :=
          { queue.metrics with processingItems := queue.metrics.processingItems - 1 - 1 } }
  | some retried =>
      let pushed := heapPush
        { queue with
          memory := setItem queue.memory ref retried
          metrics :=
            { queue.metrics with processingItems := queue.metrics.processingItems - 1 } }
        ref
      { pushed with
        itemsMap := setKey pushed.itemsMap retried.namespacedName (some ref)
        metrics :=
          { pushed.metrics with
            retryCount := pushed.metrics.retryCount + 1
            currentDepth := pushed.items.size } }

def done (queue : WorkQueue) : WorkQueue :=
  { queue with
    metrics := { queue.metrics with processingItems := queue.metrics.processingItems - 1 } }

def contains (queue : WorkQueue) (key : NamespacedName) : Bool :=
  (queue.itemsMap key).isSome

end WorkQueue

end KubeTemplater.Queue
